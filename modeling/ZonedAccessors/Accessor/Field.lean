import ZonedAccessors.Accessor.Name
import ZonedAccessors.Accessor.Policy

/-!
Date fields as they are declared, and the accessors they stand for.
-/

namespace ZonedAccessors

structure DateField where
  name : String
  nullable : Bool
  policy : Policy
  deriving DecidableEq, Repr, Inhabited

/-- Why a declaration has no accessors. -/
inductive DeclarationError where
  | emptyName
  | invalidName (name normalised : String)
  | unknownPolicy (value : String)
  | invalidType (path : String)
  | invalidVisibility (type visibility : String)
  | invalidRuntime (path : String)
  | unreadable (reason : String)
  deriving DecidableEq, Repr

def DeclarationError.message : DeclarationError → String
  | .emptyName => "field name must not be empty"
  | .invalidName name normalised =>
      s!"field name '{name}' does not form a valid identifier (normalised to '{normalised}')"
  | .unknownPolicy value => s!"unknown fallback policy '{value}'; expected 'local' or 'error'"
  | .invalidType path => s!"invalid type path '{path}' in schema"
  | .invalidVisibility type visibility => s!"invalid visibility '{visibility}' for type '{type}'"
  | .invalidRuntime path => s!"invalid crate path '{path}'"
  | .unreadable reason => s!"generated code failed to parse: {reason}"

def Policy.ofText (text : String) : Except DeclarationError Policy :=
  match Policy.ofText? text with
  | some p => .ok p
  | none => .error (.unknownPolicy text)

/-- A getter and a setter over two stored fields, all named after the getter. -/
structure Accessor where
  name : String
  nullable : Bool
  policy : Policy
  deriving DecidableEq, Repr, Inhabited

namespace Accessor

def setter (a : Accessor) : String := "set_" ++ a.name

def utcField (a : Accessor) : String := a.name ++ "_utc"

def tzField (a : Accessor) : String := a.name ++ "_tz"

end Accessor

namespace DateField

def accessor (f : DateField) : Except DeclarationError Accessor :=
  if Name.isBlankText f.name then .error .emptyName
  else if Name.isWordText f.name && Name.isIdentifier (Name.normalised f.name) then
    .ok ⟨Name.normalised f.name, f.nullable, f.policy⟩
  else .error (.invalidName f.name (Name.normalised f.name))

theorem accessor_ok_iff {f : DateField} {a : Accessor} : f.accessor = .ok a ↔
    Name.isBlankText f.name = false ∧ Name.isWordText f.name = true ∧
      Name.isIdentifier (Name.normalised f.name) = true ∧
      a = ⟨Name.normalised f.name, f.nullable, f.policy⟩ := by
  cases hblank : Name.isBlankText f.name <;> cases hword : Name.isWordText f.name <;>
    cases hidentifier : Name.isIdentifier (Name.normalised f.name) <;>
    simp [accessor, hblank, hword, hidentifier, eq_comm]

/-- Of several fields the first one that has no accessor counts. -/
def accessors : List DateField → Except DeclarationError (List Accessor)
  | [] => .ok []
  | f :: fs => do
      let a ← f.accessor
      let as ← accessors fs
      return a :: as

end DateField

end ZonedAccessors
