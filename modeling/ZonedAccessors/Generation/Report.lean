import ZonedAccessors.Files.Tree
import ZonedAccessors.Schema.Decode

/-!
What is asked of a generation run, what it comes to, and what it reports on the way.
-/

namespace ZonedAccessors.Generation

/-- Without an output path the source is handed back. -/
structure Request where
  schema : String
  out : Option String
  check : Bool
  deriving DecidableEq, Repr

inductive Outcome where
  | rendered (source : String)
  | written (path : String)
  | upToDate (path : String)
  deriving DecidableEq, Repr

inductive Failure where
  | file (path : String) (fault : FileFault)
  | schema (path : String) (e : Schema.TextError)
  | declaration (path : String) (e : DeclarationError)
  | stale (path : String)
  deriving DecidableEq, Repr

/-- What is said of a schema that cannot be read, before the cause. -/
def unreadableSchema (path : String) : String := s!"failed to parse schema {path}"

def Failure.message : Failure → String
  | .file path fault => s!"I/O error at {path}: {fault.message}"
  | .schema path .notToml => unreadableSchema path
  | .schema path (.decode e) => s!"{unreadableSchema path}: {e.message}"
  | .declaration path e => s!"invalid schema {path}: {e.message}"
  | .stale path => s!"{path} is out of date; rerun region-field-gen without --check"

inductive Event where
  | readSchema (path : String) (bytes : Nat)
  | rendered (schema : String) (types : Nat)
  | upToDate (path : String)
  | wrote (path : String)
  deriving DecidableEq, Repr

namespace Event

def level : Event → String
  | .readSchema .. => "DEBUG"
  | .rendered .. => "INFO"
  | .upToDate _ => "DEBUG"
  | .wrote _ => "INFO"

def message : Event → String
  | .readSchema .. => "read schema"
  | .rendered .. => "rendered accessors"
  | .upToDate _ => "output already up to date"
  | .wrote _ => "wrote accessors"

def details : Event → List (String × String)
  | .readSchema path bytes => [("path", path), ("bytes", toString bytes)]
  | .rendered schema types => [("schema", schema), ("types", toString types)]
  | .upToDate path => [("path", path)]
  | .wrote path => [("path", path)]

end Event

/-- A result and what was reported before it. -/
structure Report (α : Type) where
  events : List Event
  result : Except Failure α

end ZonedAccessors.Generation
