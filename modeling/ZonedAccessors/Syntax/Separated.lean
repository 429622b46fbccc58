import ZonedAccessors.Token.Basic

/-!
Lists of tokens with separators. Lifetimes are written first in a list of parameters or
arguments, each item with the comma that follows it in the tree.
-/

namespace ZonedAccessors.Syntax

open Token

/-- Items with `sep` between them, and behind the last one if `trailing`. -/
def separated (sep : Tokens) (trailing : Bool) : List Tokens → Tokens
  | [] => []
  | [x] => x ++ if trailing then sep else []
  | x :: xs => x ++ sep ++ separated sep trailing xs

def commas (trailing : Bool) (items : List Tokens) : Tokens := separated (op ",") trailing items

def pluses (trailing : Bool) (items : List Tokens) : Tokens := separated (op "+") trailing items

def colons (items : List Tokens) : Tokens := separated (op "::") false items

/-- Each item with whether a comma follows it. -/
def withCommas {α : Type} (trailing : Bool) : List α → List (α × Bool)
  | [] => []
  | [x] => [(x, trailing)]
  | x :: xs => (x, true) :: withCommas trailing xs

theorem map_fst_withCommas {α : Type} (trailing : Bool) (xs : List α) :
    (withCommas trailing xs).map (·.1) = xs := by
  induction xs with
  | nil => rfl
  | cons x xs ih => cases xs <;> simp_all [withCommas]

def closeItem (item : Tokens × Bool) : Tokens := item.1 ++ if item.2 then op "," else []

/-- Marked items come first; a comma is added before the others if the last marked one has none. -/
def arranged (trailing : Bool) (items : List (Bool × Tokens)) : Tokens :=
  let all := withCommas trailing items
  let first := (all.filter (·.1.1)).map fun i => (i.1.2, i.2)
  let others := (all.filter (!·.1.1)).map fun i => (i.1.2, i.2)
  let joined := first.getLast?.all (·.2)
  first.flatMap closeItem ++ (if joined || others.isEmpty then [] else op ",") ++
    others.flatMap closeItem

def angles (body : Tokens) : Tokens := op "<" ++ body ++ op ">"

/-- Bounds behind a colon, which stands only before bounds. -/
def colonBefore (trailing : Bool) (bounds : List Tokens) : Tokens :=
  if bounds.isEmpty then [] else op ":" ++ pluses trailing bounds

end ZonedAccessors.Syntax
