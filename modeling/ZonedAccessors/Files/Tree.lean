import ZonedAccessors.Files.Path

/-!
Directories, files and links, and how a path is followed through them. A bounded walk does not leave
the directory it starts from.
-/

namespace ZonedAccessors

open FilePath (Component components asWritten endsInSlash)

/-- The names that lead to a place, innermost first. -/
abbrev Location := List String

inductive Entry where
  | file (content : ByteArray)
  | directory
  | link (target : String)

def Entry.isDirectory : Entry → Bool
  | .directory => true
  | _ => false

inductive FileFault where
  | notFound
  | alreadyExists
  | notDirectory
  | isDirectory
  | tooManyLinks
  | outside
  | noName
  | notText
  | other (message : String)
  deriving DecidableEq, Repr

def FileFault.message : FileFault → String
  | .notFound => "No such file or directory (os error 2)"
  | .alreadyExists => "File exists (os error 17)"
  | .notDirectory => "Not a directory (os error 20)"
  | .isDirectory => "Is a directory (os error 21)"
  | .tooManyLinks => "Too many levels of symbolic links (os error 40)"
  | .outside => "a path led outside of the filesystem"
  | .noName => "path has no file name"
  | .notText => "stream did not contain valid UTF-8"
  | .other message => message

/-- What there is, and the directory that paths start from. -/
structure FileTree where
  entries : List (Location × Entry)
  here : Location

/-- Where a walk ends. -/
inductive Place where
  | directory (l : Location)
  | file (l : Location) (name : String) (content : ByteArray)
  | vacant (l : Location) (name : String)

namespace FileTree

/-- An empty directory at hand. -/
def initial : FileTree := ⟨[(["work", "tmp"], .directory), (["tmp"], .directory)], ["work", "tmp"]⟩

def get? (t : FileTree) : Location → Option Entry
  | [] => some .directory
  | l => t.entries.lookup l

def put (t : FileTree) (l : Location) (name : String) (e : Entry) : FileTree :=
  { t with entries := (name :: l, e) :: t.entries.filter (·.1 ≠ name :: l) }

def erase (t : FileTree) (l : Location) (name : String) : FileTree :=
  { t with entries := t.entries.filter (·.1 ≠ name :: l) }

theorem lookup_filter_ne {l k : Location} (es : List (Location × Entry)) (h : k ≠ l) :
    (es.filter (·.1 ≠ l)).lookup k = es.lookup k := by
  induction es with
  | nil => rfl
  | cons e es ih =>
      obtain ⟨m, v⟩ := e
      by_cases hm : m = l
      · subst hm
        have hk : (k == m) = false := by simpa using h
        simpa [List.lookup_cons, hk] using ih
      · by_cases hk : k = m
        · simp [hm, hk]
        · have hk' : (k == m) = false := by simpa using hk
          simpa [hm, List.lookup_cons, hk'] using ih

theorem get?_put (t : FileTree) (l : Location) (name : String) (e : Entry) (k : Location) :
    (t.put l name e).get? k = if k = name :: l then some e else t.get? k := by
  cases k with
  | nil => simp [get?]
  | cons n k =>
      by_cases h : n :: k = name :: l
      · simp [get?, put, h]
      · have h' : (n :: k == name :: l) = false := by simpa using h
        rw [if_neg h]
        simp only [get?, put, List.lookup_cons, h']
        exact lookup_filter_ne t.entries h

/-- What the target of a link asks for. -/
def steps (target : String) : List Component :=
  asWritten target ++ if endsInSlash target then [.here] else []

/-- As far as the next link. -/
def walkFrom (t : FileTree) (base : Option Location)
    (follow : Location → List Component → Except FileFault Place) :
    Location → List Component → Except FileFault Place
  | l, [] => .ok (.directory l)
  | _, .root :: cs => if base.isSome then .error .outside else walkFrom t base follow [] cs
  | l, .here :: cs => walkFrom t base follow l cs
  | l, .up :: cs => if base = some l then .error .outside else walkFrom t base follow l.tail cs
  | l, .name n :: cs =>
      match t.get? (n :: l) with
      | none => if cs.isEmpty then .ok (.vacant l n) else .error .notFound
      | some .directory => walkFrom t base follow (n :: l) cs
      | some (.file b) => if cs.isEmpty then .ok (.file l n b) else .error .notDirectory
      | some (.link target) => follow l (steps target ++ cs)

/-- With so many links at most. -/
def walk (t : FileTree) (base : Option Location) :
    Nat → Location → List Component → Except FileFault Place
  | 0 => walkFrom t base fun _ _ => .error .tooManyLinks
  | n + 1 => walkFrom t base (walk t base n)

def maxLinks : Nat := 40

/-- The directory at the end of a path. -/
def directory (t : FileTree) (cs : List Component) : Except FileFault Location := do
  match ← t.walk none maxLinks t.here cs with
  | .directory l => .ok l
  | .file .. => .error .notDirectory
  | .vacant .. => .error .notFound

def isDirectory (t : FileTree) (cs : List Component) : Bool :=
  match t.directory cs with
  | .ok _ => true
  | .error _ => false

def content : Place → Except FileFault ByteArray
  | .file _ _ b => .ok b
  | .directory _ => .error .isDirectory
  | .vacant .. => .error .notFound

/-- A file that is missing is made. -/
def store (t : FileTree) (b : ByteArray) : Place → Except FileFault FileTree
  | .file l n _ => .ok (t.put l n (.file b))
  | .vacant l n => .ok (t.put l n (.file b))
  | .directory _ => .error .isDirectory

/-- What a name means in a directory, without leaving it. -/
def beneath (t : FileTree) (l : Location) (name : String) : Except FileFault Place :=
  t.walk (some l) maxLinks l [.name name]

def readIn (t : FileTree) (l : Location) (name : String) : Except FileFault ByteArray := do
  content (← t.beneath l name)

def writeIn (t : FileTree) (l : Location) (name : String) (b : ByteArray) :
    Except FileFault FileTree := do
  t.store b (← t.beneath l name)

/-- The last name is taken as it is, a link too. -/
def makeDirectory (t : FileTree) (cs : List Component) : Except FileFault FileTree := do
  let l ← t.directory cs.dropLast
  match cs.getLast? with
  | some (.name n) =>
      if (t.get? (n :: l)).isNone then .ok (t.put l n .directory) else .error .alreadyExists
  | _ => .error .alreadyExists

/-- A path and those of the directories around it, innermost first. -/
def ancestors (cs : List Component) : List (List Component) :=
  (List.range cs.length).reverse.map fun n => cs.take (n + 1)

/-- Makes the first directory that can be made, and then those within it. -/
def makeAll (t : FileTree) : List (List Component) → FileTree × Except FileFault Unit
  | [] => (t, .ok ())
  | cs :: outer =>
      match t.makeDirectory cs with
      | .ok t' => (t', .ok ())
      | .error .notFound =>
          match makeAll t outer with
          | (t', .error e) => (t', .error e)
          | (t', .ok ()) =>
              match t'.makeDirectory cs with
              | .ok t'' => (t'', .ok ())
              | .error e => (t', if t'.isDirectory cs then .ok () else .error e)
      | .error e => (t, if t.isDirectory cs then .ok () else .error e)

def makeDirectories (t : FileTree) (path : String) : FileTree × Except FileFault Unit :=
  t.makeAll (asWritten path :: ancestors (components path).dropLast)

/-! Preparing a tree by hand: paths may lead anywhere. -/

def place (t : FileTree) (path : String) : Except FileFault Place :=
  if path = "" then .error .notFound else t.walk none maxLinks t.here (steps path)

def read (t : FileTree) (path : String) : Except FileFault ByteArray := do
  content (← t.place path)

def write (t : FileTree) (path : String) (b : ByteArray) : Except FileFault FileTree := do
  if endsInSlash path then
    let _ ← t.directory (asWritten path).dropLast
    .error .isDirectory
  else t.store b (← t.place path)

def append (t : FileTree) (path : String) (b : ByteArray) : Except FileFault FileTree := do
  t.write path ((← t.read path) ++ b)

/-- The directory a path leads to and the last name, which is not followed. -/
def spot (t : FileTree) (path : String) : Except FileFault (Location × Option String) := do
  if path = "" then .error .notFound
  else
    let l ← t.directory (asWritten path).dropLast
    match (asWritten path).getLast? with
    | some (.name n) => .ok (l, some n)
    | _ => .ok (l, none)

def link (t : FileTree) (target path : String) : Except FileFault FileTree := do
  if target = "" then .error .notFound
  else
    match ← t.spot path with
    | (_, none) => .error .alreadyExists
    | (l, some n) =>
        if (t.get? (n :: l)).isSome then .error .alreadyExists
        else if endsInSlash path then .error .notFound
        else .ok (t.put l n (.link target))

def remove (t : FileTree) (path : String) : Except FileFault FileTree := do
  match ← t.spot path with
  | (_, none) => .error .isDirectory
  | (l, some n) =>
      match t.get? (n :: l) with
      | none => .error .notFound
      | some .directory => .error .isDirectory
      | some _ => if endsInSlash path then .error .notDirectory else .ok (t.erase l n)

/-- A place beneath the directory at hand, as a path from there. -/
def relative (t : FileTree) (l : Location) : Option String :=
  if t.here <:+ l ∧ l ≠ t.here then
    some (String.intercalate "/" (l.take (l.length - t.here.length)).reverse)
  else none

def shown (t : FileTree) (e : Location × Entry) : Option String :=
  (t.relative e.1).map fun p => if e.2.isDirectory then p ++ "/" else p

/-- All there is beneath the directory at hand, in order. -/
def list (t : FileTree) : List String :=
  (t.entries.filterMap t.shown).mergeSort fun a b => decide (a ≤ b)

end FileTree

end ZonedAccessors
