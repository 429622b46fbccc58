import ZonedAccessors.Generation.Report

/-!
The arguments of the command line. They are read from the left; a value belongs to the option before
it once the next option begins or the arguments end.
-/

namespace ZonedAccessors.CommandLine

open Generation (Request)

inductive Command where
  | generate (r : Request)
  | help
  | version
  deriving DecidableEq, Repr

inductive Misuse where
  | missingArgument
  | missingValue
  | repeated
  | surplusValue
  | unknownArgument
  deriving DecidableEq, Repr

/-- The options that take a value. -/
inductive Setting where
  | schema
  | out
  deriving DecidableEq, Repr

inductive Word where
  | setting (s : Setting) (attached : Option String)
  | check
  | help
  | version
  /-- A value for an option that takes none. -/
  | surplus
  | endOfOptions
  | unknown
  | value (text : String)
  deriving DecidableEq, Repr

/-- A long option by its name, and the value attached to it. -/
def Word.long (name : List Char) (attached : Option String) : Word :=
  if name = "schema".toList then .setting .schema attached
  else if name = "out".toList then .setting .out attached
  else if name = "check".toList then if attached.isSome then .surplus else .check
  else if name = "help".toList then if attached.isSome then .surplus else .help
  else if name = "version".toList then if attached.isSome then .surplus else .version
  else .unknown

def isAttaching (c : Char) : Bool := c == '='

/-- What follows the first equals sign is attached. -/
def Word.ofLong (cs : List Char) : Word :=
  match cs.dropWhile (!isAttaching ·) with
  | _ :: rest => .long (cs.takeWhile (!isAttaching ·)) (some (String.ofList rest))
  | [] => .long cs none

/-- A lone dash is a value. -/
def Word.ofText (text : String) : Word :=
  match text.toList with
  | ['-', '-'] => .endOfOptions
  | '-' :: '-' :: cs => .ofLong cs
  | ['-'] => .value text
  | '-' :: 'h' :: _ => .help
  | '-' :: 'V' :: _ => .version
  | '-' :: _ => .unknown
  | _ => .value text

/-- What the options before have set. -/
structure Draft where
  schema : Option String
  out : Option String
  check : Bool
  deriving DecidableEq, Repr

namespace Draft

def empty : Draft := ⟨none, none, false⟩

def assign (d : Draft) (value : String) : Setting → Except Misuse Draft
  | .schema => if d.schema.isSome then .error .repeated else .ok { d with schema := some value }
  | .out => if d.out.isSome then .error .repeated else .ok { d with out := some value }

def setCheck (d : Draft) : Except Misuse Draft :=
  if d.check then .error .repeated else .ok { d with check := true }

def finish (d : Draft) : Except Misuse Request :=
  match d.schema with
  | none => .error .missingArgument
  | some schema =>
      if d.check && d.out.isNone then .error .missingArgument else .ok ⟨schema, d.out, d.check⟩

end Draft

/-- An option that has no value yet, or one that has not been taken into account. -/
inductive Open where
  | none
  | awaiting (s : Setting)
  | given (s : Setting) (value : String)
  deriving DecidableEq, Repr

def settle (d : Draft) : Open → Except Misuse Draft
  | .none => .ok d
  | .awaiting _ => .error .missingValue
  | .given s value => d.assign value s

def finish (d : Draft) (o : Open) : Except Misuse Command := do
  let d ← settle d o
  return .generate (← d.finish)

def readWords (d : Draft) (o : Open) : List Word → Except Misuse Command
  | [] => finish d o
  | .value text :: ws =>
      match o with
      | .awaiting s => readWords d (.given s text) ws
      | _ => .error .unknownArgument
  | .setting s Option.none :: ws => do readWords (← settle d o) (.awaiting s) ws
  | .setting s (some text) :: ws => do readWords (← (← settle d o).assign text s) .none ws
  | .check :: ws => do readWords (← (← settle d o).setCheck) .none ws
  | .help :: _ => do
      let _ ← settle d o
      return .help
  | .version :: _ => do
      let _ ← settle d o
      return .version
  | .surplus :: _ => .error .surplusValue
  | .unknown :: _ => .error .unknownArgument
  | .endOfOptions :: [] => finish d o
  | .endOfOptions :: _ => .error .unknownArgument

/-- Without the name of the program. -/
def read (arguments : List String) : Except Misuse Command :=
  readWords .empty .none (arguments.map Word.ofText)

end ZonedAccessors.CommandLine
