import ZonedAccessors.Accessor.Field
import ZonedAccessors.Grammar.Fault

/-!
Why an attribute cannot be expanded, and which place in which of its two texts is to blame.
-/

namespace ZonedAccessors.Attribute

open Token Grammar

/-- The options in the attribute, or the item below it. -/
inductive Part where
  | options
  | item
  deriving DecidableEq, Repr

inductive Kind where
  | boolean
  | text
  deriving DecidableEq, Repr

def Kind.noun : Kind → String
  | .boolean => "boolean literal"
  | .text => "string literal"

inductive Cause where
  | grammar (complaint : Complaint)
  | usage
  | bareFlag (word : String)
  | unknownOption (key : String)
  | wrongLiteral (key : String) (kind : Kind)
  | repeated (option : String)
  | declaration (e : DeclarationError)
  | notStruct
  | unnamedFields
  | missingField (type field : String) (accessor : Accessor)
  | notOptional (field accessor : String)
  | optional (field : String)
  deriving DecidableEq, Repr

structure Refusal where
  part : Part
  place : Option Span
  ended : Bool
  cause : Cause
  deriving DecidableEq, Repr

def Cause.message (ended : Bool) : Cause → String
  | .grammar complaint => Fault.message ⟨none, ended, complaint⟩
  | .usage =>
      (if ended then "unexpected end of input, " else "") ++
        "expected the field name as a string literal, e.g. `#[date_in_region_field(\"wake_up\")]`"
  | .bareFlag word => "name the flag explicitly: `nullable = " ++ word ++ "`"
  | .unknownOption key =>
      "unknown date_in_region_field option `" ++ key ++
        "`; expected `nullable`, `optional`, `fallback` or `crate`"
  | .wrongLiteral key kind => key ++ " must be a " ++ kind.noun
  | .repeated option => "`" ++ option ++ "` is specified more than once"
  | .declaration e => e.message
  | .notStruct => "date_in_region_field can only be applied to structs"
  | .unnamedFields => "date_in_region_field requires a struct with named fields"
  | .missingField type field a =>
      "`" ++ type ++ "` has no `" ++ field ++ "` field; `" ++ a.name ++ "` is stored in `" ++
        a.utcField ++ "` (UTC instant) and `" ++ a.tzField ++ "` (offset in seconds)"
  | .notOptional field accessor =>
      "`" ++ field ++ "` must be an `Option` because `" ++ accessor ++ "` is nullable"
  | .optional field =>
      "`" ++ field ++ "` is an `Option`; add `nullable = true` to the attribute"

def Refusal.message (r : Refusal) : String := r.cause.message r.ended

def Refusal.ofFault (part : Part) (f : Fault) : Refusal := ⟨part, f.place, f.ended, .grammar f.complaint⟩

end ZonedAccessors.Attribute
