import ZonedAccessors.Decimal.Shortest

/-!
Values of a TOML document. The entries of a table are sorted by key.
-/

namespace ZonedAccessors.Toml

inductive Real where
  | finite (negative : Bool) (digits : Nat) (scale : Int)
  | infinite (negative : Bool)
  | nan
  deriving DecidableEq, Repr

/-- Two numbers are the same text if they are the same double. -/
def Real.text : Real → String
  | .finite negative digits scale => Decimal.text negative digits scale
  | .infinite negative => if negative then "-inf" else "inf"
  | .nan => "NaN"

/-- Of a date or a time only that it is one is kept. -/
inductive Value where
  | text (value : String)
  | integer (value : Int)
  | real (value : Real)
  | boolean (value : Bool)
  | moment
  | array (items : List Value)
  | table (entries : List (String × Value))

def Value.kind : Value → String
  | .text _ => "string"
  | .integer _ => "integer"
  | .real _ => "float"
  | .boolean _ => "boolean"
  | .moment => "datetime"
  | .array _ => "array"
  | .table _ => "table"

/-- An entry at its place in the order of keys. -/
def insertKey {α : Type} (key : String) (value : α) : List (String × α) → List (String × α)
  | [] => [(key, value)]
  | (k, v) :: rest =>
      if key < k then (key, value) :: (k, v) :: rest
      else (k, v) :: insertKey key value rest

end ZonedAccessors.Toml
