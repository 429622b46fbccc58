/-!
Paths as texts: what they name from the front, and the last name and what stands before it, found
from the back.
-/

namespace ZonedAccessors.FilePath

inductive Component where
  | root
  | here
  | up
  | name (text : String)
  deriving DecidableEq, Repr

/-- What stands between separators; always at least one piece. -/
def pieces : List Char → List (List Char)
  | [] => [[]]
  | c :: cs =>
      if c = '/' then [] :: pieces cs
      else match pieces cs with
        | [] => [[c]]
        | p :: ps => (c :: p) :: ps

theorem pieces_ne_nil (cs : List Char) : pieces cs ≠ [] := by
  cases cs with
  | nil => simp [pieces]
  | cons c cs =>
      simp only [pieces]
      split
      · simp
      · split <;> simp

/-- Nothing between two separators and a single dot lead nowhere. -/
def component : List Char → Option Component
  | [] => none
  | ['.'] => none
  | ['.', '.'] => some .up
  | cs => some (.name (String.ofList cs))

/-- A dot counts where the path starts with it. -/
def starting (cs : List Char) : List Component :=
  match pieces cs with
  | ['.'] :: _ => [.here]
  | _ => []

def componentsOf : List Char → List Component
  | '/' :: cs => .root :: (pieces cs).filterMap component
  | cs => starting cs ++ (pieces cs).filterMap component

def components (path : String) : List Component := componentsOf path.toList

def isSeparator (c : Char) : Bool := c == '/'

/-- Only a directory can stand before a separator. -/
def endsInSlash (path : String) : Bool :=
  match path.toList.reverse with
  | c :: _ => isSeparator c
  | [] => false

def endsInDot (path : String) : Bool :=
  match path.toList.reverse.dropWhile isSeparator with
  | ['.'] => true
  | '.' :: '/' :: _ => true
  | _ => false

/-- With a single dot at the end. -/
def asWritten (path : String) : List Component :=
  components path ++ if endsInDot path then [.here] else []

/-- The start that belongs to no name, and what follows. -/
def lead : List Char → List Char × List Char
  | '/' :: cs => (['/'], cs)
  | ['.'] => (['.'], [])
  | '.' :: '/' :: cs => (['.'], '/' :: cs)
  | cs => ([], cs)

/-- From the back, without separators and single dots. -/
def trim : List Char → List Char
  | '/' :: cs => trim cs
  | ['.'] => []
  | '.' :: '/' :: cs => trim cs
  | cs => cs

theorem trim_suffix (cs : List Char) : trim cs <:+ cs := by
  fun_induction trim cs with
  | case1 cs ih => exact ih.trans (List.suffix_cons _ _)
  | case2 => exact List.nil_suffix
  | case3 cs ih => exact ih.trans ⟨['.', '/'], rfl⟩
  | case4 => exact List.suffix_refl _

/-- The last name from the back, and what stands before it. -/
def lastName (back : List Char) : List Char × List Char :=
  (back.takeWhile (!isSeparator ·), trim (back.dropWhile (!isSeparator ·)))

/-- The directory of a path and the name in it, if it ends in one. -/
def splitOf (cs : List Char) : Option (List Char × List Char) :=
  let (name, rest) := lastName (trim (lead cs).2.reverse)
  if name = [] ∨ name = ['.', '.'] then none
  else some ((lead cs).1 ++ rest.reverse, name.reverse)

/-- A bare name is one in the directory at hand. -/
def split (path : String) : Option (String × String) :=
  (splitOf path.toList).map fun (parent, name) =>
    (if parent = [] then "." else String.ofList parent, String.ofList name)

end ZonedAccessors.FilePath
