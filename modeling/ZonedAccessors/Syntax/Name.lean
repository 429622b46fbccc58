import ZonedAccessors.Token.Basic

/-!
The parts of declarations that hold no types and no code: paths of names, calls of macros,
visibilities, imports and the words before a function.
-/

namespace ZonedAccessors.Syntax

open Token

/-- A path of names alone. -/
structure ModPath where
  rooted : Bool
  names : List String
  deriving DecidableEq, Repr

def ModPath.ofName (name : String) : ModPath := ⟨false, [name]⟩

/-- The call of a macro; its group is kept as it was written. -/
structure Invocation where
  path : ModPath
  body : Token.Tree Unit

def Invocation.isBraced (c : Invocation) : Bool :=
  match c.body with
  | .group .brace _ _ => true
  | _ => false

/-- `written` says that the path stands behind an `in`. -/
inductive Visibility where
  | inherited
  | everywhere
  | restricted (written : Bool) (path : ModPath)
  deriving DecidableEq, Repr

def Visibility.isInherited : Visibility → Bool
  | .inherited => true
  | _ => false

inductive Import where
  | name (text : String)
  | renamed (text new : String)
  | all
  | under (text : String) (rest : Import)
  | group (items : List Import) (trailing : Bool)

/-- A calling convention, with or without its name. -/
structure Convention where
  name : Option String
  deriving DecidableEq, Repr

/-- What stands before the word `fn`, in this order. -/
structure Qualifiers where
  words : List String
  convention : Option Convention
  deriving DecidableEq, Repr

/-- The receiver is `self`, alone or behind a reference. -/
inductive Receiver where
  | owned (mutable : Bool)
  | borrowed (lifetime : Option String) (mutable : Bool)
  deriving DecidableEq, Repr

/-- What an opaque type may capture. -/
inductive Captured where
  | lifetime (name : String)
  | name (text : String)
  deriving DecidableEq, Repr

/-- How fields are written: with names in braces, by position in parentheses, or not at all. -/
inductive FieldStyle where
  | named
  | positional
  | absent
  deriving DecidableEq, Repr

end ZonedAccessors.Syntax
