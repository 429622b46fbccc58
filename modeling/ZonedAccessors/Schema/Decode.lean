import ZonedAccessors.Schema.Basic
import ZonedAccessors.Toml.Document

/-!
Schemas in TOML. A type or a field is a table, or an array of its parts in order.
-/

namespace ZonedAccessors.Schema

open Toml

inductive DecodeError where
  | wrongType (found expected : String)
  | tooShort (expected : String)
  | missing (key : String)
  | unknownKey (key : String) (known : List String)
  | twice (key : String)
  | unknownPolicy (text : String)
  | notChoice
  | noChoice
  | manyChoices
  | notEmpty (kind : String)
  | notTable (kind : String)
  deriving DecidableEq, Repr

def quoted (key : String) : String := "`" ++ key ++ "`"

def oneOf : List String → String
  | [a] => quoted a
  | [a, b] => quoted a ++ " or " ++ quoted b
  | keys => "one of " ++ String.intercalate ", " (keys.map quoted)

def DecodeError.message : DecodeError → String
  | .wrongType found expected => "invalid type: " ++ found ++ ", expected " ++ expected
  | .tooShort expected => "invalid length 0, expected " ++ expected
  | .missing key => "missing field " ++ quoted key
  | .unknownKey key known => "unknown field " ++ quoted key ++ ", expected " ++ oneOf known
  | .twice key => "duplicate field " ++ quoted key
  | .unknownPolicy text => "unknown variant " ++ quoted text ++ ", expected `local` or `error`"
  | .notChoice => "wanted string or table"
  | .noChoice => "wanted exactly 1 element, found 0 elements"
  | .manyChoices => "wanted exactly 1 element, more than 1 element"
  | .notEmpty kind => "expected empty " ++ kind
  | .notTable kind => "expected table, found " ++ kind

abbrev Decoded := Except DecodeError

/-- A text in quotes, with what cannot be printed written out. -/
def shown (text : String) : String :=
  String.ofList ('"' :: text.toList.flatMap (fun c =>
    if c.toNat = 0 then ['\\', '0'] else Token.escapeChar c) ++ ['"'])

def describe : Value → String
  | .text s => "string " ++ shown s
  | .integer n => "integer " ++ quoted (toString n)
  | .real r => "floating point " ++ quoted r.text
  | .boolean b => "boolean " ++ quoted (if b then "true" else "false")
  | .moment => "map"
  | .array _ => "sequence"
  | .table _ => "map"

def text : Value → Decoded String
  | .text s => .ok s
  | v => .error (.wrongType (describe v) "a string")

def boolean : Value → Decoded Bool
  | .boolean b => .ok b
  | v => .error (.wrongType (describe v) "a boolean")

def listOf {α : Type} (item : Value → Decoded α) : Value → Decoded (List α)
  | .array items => items.mapM item
  | v => .error (.wrongType (describe v) "a sequence")

/-- What stands behind a policy written as a key holds nothing. -/
def nothing : Value → Decoded Unit
  | .array [] => .ok ()
  | .array _ => .error (.notEmpty "array")
  | .table [] => .ok ()
  | .table _ => .error (.notEmpty "table")
  | v => .error (.notTable v.kind)

def policyNamed (s : String) : Decoded Policy :=
  match Policy.ofText? s with
  | some p => .ok p
  | none => .error (.unknownPolicy s)

def policy : Value → Decoded Policy
  | .text s => policyNamed s
  | .table [] => .error .noChoice
  | .table [(key, v)] => do
      let p ← policyNamed key
      nothing v
      return p
  | .table _ => .error .manyChoices
  | _ => .error .notChoice

/-- The one key of a date or a time. -/
def momentKey : String := "$__toml_private_datetime"

structure FieldDraft where
  name : Option String
  nullable : Option Bool
  policy : Option Policy

def fieldKeys : List String := ["name", "nullable", "optional", "fallback"]

def FieldDraft.add (d : FieldDraft) (entry : String × Value) : Decoded FieldDraft :=
  if entry.1 = "name" then do return { d with name := some (← text entry.2) }
  else if entry.1 = "nullable" ∨ entry.1 = "optional" then
    if d.nullable.isSome then .error (.twice "nullable")
    else do return { d with nullable := some (← boolean entry.2) }
  else if entry.1 = "fallback" then do return { d with policy := some (← Schema.policy entry.2) }
  else .error (.unknownKey entry.1 fieldKeys)

def FieldDraft.finish (d : FieldDraft) : Decoded DateField :=
  match d.name with
  | none => .error (.missing "name")
  | some n => .ok ⟨n, d.nullable.getD false, d.policy.getD .local⟩

/-- The next part of an array, or what stands for one that is missing. -/
def part {α : Type} (read : Value → Decoded α) (absent : α) : List Value → Decoded α
  | [] => .ok absent
  | v :: _ => read v

def field : Value → Decoded DateField
  | .table entries => do (← entries.foldlM FieldDraft.add ⟨none, none, none⟩).finish
  | .array [] => .error (.tooShort "struct FieldSpec with 3 elements")
  | .array (n :: rest) => do
      let n ← text n
      let nullable ← part boolean false rest
      let p ← part policy .local (rest.drop 1)
      return ⟨n, nullable, p⟩
  | .moment => .error (.unknownKey momentKey fieldKeys)
  | v => .error (.wrongType (describe v) "struct FieldSpec")

structure TypeDraft where
  name : Option String
  visibility : Option String
  runtime : Option String
  fields : List DateField

def typeKeys : List String := ["name", "vis", "crate", "fields"]

def TypeDraft.add (d : TypeDraft) (entry : String × Value) : Decoded TypeDraft :=
  if entry.1 = "name" then do return { d with name := some (← text entry.2) }
  else if entry.1 = "vis" then do return { d with visibility := some (← text entry.2) }
  else if entry.1 = "crate" then do return { d with runtime := some (← text entry.2) }
  else if entry.1 = "fields" then do return { d with fields := ← listOf field entry.2 }
  else .error (.unknownKey entry.1 typeKeys)

def TypeDraft.finish (d : TypeDraft) : Decoded TypeEntry :=
  match d.name with
  | none => .error (.missing "name")
  | some n => .ok ⟨n, d.visibility, d.runtime, d.fields⟩

def optional {α : Type} (read : Value → Decoded α) (v : Value) : Decoded (Option α) :=
  return some (← read v)

def typeEntry : Value → Decoded TypeEntry
  | .table entries => do (← entries.foldlM TypeDraft.add ⟨none, none, none, []⟩).finish
  | .array [] => .error (.tooShort "struct TypeSchema with 4 elements")
  | .array (n :: rest) => do
      let n ← text n
      let v ← part (optional text) none rest
      let r ← part (optional text) none (rest.drop 1)
      let fs ← part (listOf field) [] (rest.drop 2)
      return ⟨n, v, r, fs⟩
  | .moment => .error (.unknownKey momentKey typeKeys)
  | v => .error (.wrongType (describe v) "struct TypeSchema")

def add (_ : Schema) (entry : String × Value) : Decoded Schema :=
  if entry.1 = "types" then listOf typeEntry entry.2
  else .error (.unknownKey entry.1 ["types"])

def decode (entries : List (String × Value)) : Decoded Schema := entries.foldlM add []

inductive TextError where
  | notToml
  | decode (e : DecodeError)
  deriving DecidableEq, Repr

def ofText (text : String) : Except TextError Schema :=
  match Toml.document text with
  | none => .error .notToml
  | some entries =>
      match decode entries with
      | .ok s => .ok s
      | .error e => .error (.decode e)

end ZonedAccessors.Schema
