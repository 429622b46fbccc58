import ZonedAccessors.Syntax.Basic

/-!
Structs with the places of their parts.
-/

namespace ZonedAccessors.Syntax

open Token

/-- A field; `place` is where its type stands. -/
structure Field where
  attributes : Attributes
  visibility : Visibility
  name : Option String
  type : Ty
  place : Span

inductive Shape where
  | named (fields : List Field) (trailing : Bool)
  | positional (fields : List Field) (trailing : Bool)
  | unit

structure Struct where
  attributes : Attributes
  visibility : Visibility
  name : String
  place : Span
  generics : Generics
  conditions : Conditions
  shape : Shape

def Field.toItem (f : Field) : Item := (Item.field f.visibility f.name f.type).within f.attributes

def Shape.style : Shape → FieldStyle
  | .named .. => .named
  | .positional .. => .positional
  | .unit => .absent

def Shape.fields : Shape → List Field
  | .named fields _ => fields
  | .positional fields _ => fields
  | .unit => []

def Shape.trailing : Shape → Bool
  | .named _ trailing => trailing
  | .positional _ trailing => trailing
  | .unit => false

/-- A struct among other items, where nothing needs the places. -/
def Struct.toItem (s : Struct) : Item :=
  (Item.struct s.visibility s.name s.generics s.conditions s.shape.style
    (s.shape.fields.map Field.toItem) s.shape.trailing).within s.attributes

end ZonedAccessors.Syntax
