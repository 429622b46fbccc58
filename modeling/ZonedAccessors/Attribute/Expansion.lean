import ZonedAccessors.Accessor.Template
import ZonedAccessors.Attribute.Options

/-!
Expanding an attribute: the struct below it, unchanged, and a block with the accessors.
-/

namespace ZonedAccessors.Attribute

open Token Grammar Syntax

def refuseItem {α : Type} (place : Span) (cause : Cause) : Except Refusal α :=
  .error ⟨.item, some place, false, cause⟩

def readStruct (ts : Source) : Except Refusal Struct :=
  match read declared ts with
  | .error f => .error (.ofFault .item f)
  | .ok (.struct s) => .ok s
  | .ok (.other place) => refuseItem place .notStruct

/-- The last name of the type is `Option`, and a type is its first argument. -/
def isOptional : Ty → Bool
  | .path p =>
      match p.last with
      | some (.angled "Option" _ (.type _ :: _) _) => true
      | _ => false
  | _ => false

def Struct.fields (s : Struct) : Except Refusal (List Syntax.Field) :=
  match s.shape with
  | .named fields _ => .ok fields
  | _ => refuseItem s.place .unnamedFields

/-- The first field of a name. -/
def findField (name : String) (fields : List Syntax.Field) : Option Syntax.Field :=
  fields.find? fun f => f.name == some name

/-- A stored field exists and is optional just if the accessor is. -/
def checkField (s : Struct) (fields : List Syntax.Field) (a : Accessor) (blame : Span)
    (name : String) : Except Refusal Unit :=
  match findField name fields with
  | none => refuseAt blame (.missingField s.name name a)
  | some f =>
      if a.nullable && !isOptional f.type then refuseItem f.place (.notOptional name a.name)
      else if !a.nullable && isOptional f.type then refuseItem f.place (.optional name)
      else .ok ()

def check (s : Struct) (a : Accessor) (blame : Span) : Except Refusal Unit := do
  let fields ← Struct.fields s
  checkField s fields a blame a.utcField
  checkField s fields a blame a.tzField

structure Expansion where
  struct : Struct
  target : Target
  accessor : Accessor

def expand (options item : Source) : Except Refusal Expansion := do
  let o ← Options.read options
  let s ← readStruct item
  let f ← o.field
  let a ← match f.accessor with
    | .ok a => .ok a
    | .error e => refuseAt o.name.place (.declaration e)
  check s a o.name.place
  return ⟨s, .ofStruct s o.runtime, a⟩

def Expansion.block (e : Expansion) : Tokens := e.target.block [e.accessor]

def Expansion.tokens (e : Expansion) : Tokens := e.struct.tokens ++ e.block

end ZonedAccessors.Attribute
