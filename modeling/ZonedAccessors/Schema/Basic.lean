import ZonedAccessors.Accessor.Template
import ZonedAccessors.Grammar.Text

/-!
Schemas: types by name, each with its date fields.
-/

namespace ZonedAccessors

structure TypeEntry where
  name : String
  visibility : Option String
  runtime : Option String
  fields : List DateField
  deriving DecidableEq, Repr

abbrev Schema := List TypeEntry

namespace TypeEntry

def readPath (text : Option String) : Except DeclarationError (Option Syntax.Path) :=
  match text with
  | none => .ok none
  | some s =>
      match Grammar.pathOfText s with
      | some p => .ok (some p)
      | none => .error (.invalidRuntime s)

/-- A type is public unless its entry says otherwise. -/
def readVisibility (e : TypeEntry) : Except DeclarationError Syntax.Visibility :=
  match e.visibility with
  | none => .ok .everywhere
  | some s =>
      match Grammar.visibilityOfText s with
      | some v => .ok v
      | none => .error (.invalidVisibility e.name s)

def readType (e : TypeEntry) : Except DeclarationError Syntax.TyPath :=
  match Grammar.tyPathOfText e.name with
  | some p => .ok p
  | none => .error (.invalidType e.name)

def target (e : TypeEntry) : Except DeclarationError Target := do
  let p ← e.readType
  let v ← e.readVisibility
  let r ← readPath e.runtime
  return .ofType (.path p) v r

/-- The block of one type. -/
def block (e : TypeEntry) : Except DeclarationError Token.Tokens := do
  let t ← e.target
  let as ← DateField.accessors e.fields
  return t.block as

end TypeEntry

namespace Schema

/-- The types that have fields; others are passed over whatever they say. -/
def active (s : Schema) : Schema := s.filter fun e => !e.fields.isEmpty

def blocksOf : List TypeEntry → Except DeclarationError Token.Tokens
  | [] => .ok []
  | e :: es => do
      let b ← e.block
      let bs ← blocksOf es
      return b ++ bs

/-- The blocks of all types, one after the other. -/
def blocks (s : Schema) : Except DeclarationError Token.Tokens := blocksOf s.active

theorem active_append (s t : Schema) : Schema.active (s ++ t) = s.active ++ t.active :=
  List.filter_append ..

end Schema

end ZonedAccessors
