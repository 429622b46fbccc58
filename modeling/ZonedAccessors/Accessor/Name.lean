import ZonedAccessors.Unicode.Letter
import ZonedAccessors.Grammar.Reader

/-!
Field names in snake case. A name is cut into words where its case changes.
-/

namespace ZonedAccessors.Name

open Unicode

/-- The case of the letters of a word so far; what has no case leaves it as it is. -/
inductive Case where
  | none
  | lower
  | upper
  deriving DecidableEq, Repr

def Case.after (k : Case) (c : Char) : Case :=
  if isLower c then .lower else if isUpper c then .upper else k

/-- The words of a run of letters and digits; `word` holds the current one, last letter first. -/
def cut (k : Case) (word : List Char) : List Char → List (List Char)
  | [] => []
  | [c] => [(c :: word).reverse]
  | c :: d :: cs =>
      if k.after c = .lower && isUpper d then (c :: word).reverse :: cut .none [] (d :: cs)
      else if k = .upper && isUpper c && isLower d then
        word.reverse :: cut .none [c] (d :: cs)
      else cut (k.after c) (c :: word) (d :: cs)

/-- The runs of letters and digits, empty ones included. -/
def runs : List Char → List (List Char)
  | [] => [[]]
  | c :: cs =>
      match runs cs with
      | [] => []
      | r :: rs => if isAlphanumeric c then (c :: r) :: rs else [] :: r :: rs

def words (cs : List Char) : List (List Char) := (runs cs).flatMap (cut .none [])

/-- In lower case, a sigma at the end in its final form. -/
def lowered : List Char → List Char
  | [] => []
  | [c] => if c.toNat = 0x3a3 then [Char.ofNat 0x3c2] else toLower c
  | c :: cs => toLower c ++ lowered cs

def snake (cs : List Char) : List Char := ['_'].intercalate ((words cs).map lowered)

def isUnderscore (c : Char) : Bool := c == '_'

/-- A name without capitals stays as it is. -/
def normalised (name : String) : String :=
  let cs := name.toList
  if cs.any isUpper then
    String.ofList (cs.takeWhile isUnderscore ++ snake (cs.dropWhile isUnderscore))
  else name

def isBlankText (name : String) : Bool := name.toList.all isBlank

def isWordText (name : String) : Bool :=
  name.toList.all fun c => isUnderscore c || isAlphanumeric c

def isIdentifier (name : String) : Bool :=
  match name.toList with
  | [] => false
  | c :: cs => isIdentStart c && cs.all isIdentContinue && !Grammar.isKeyword name

end ZonedAccessors.Name
