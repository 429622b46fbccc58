import ZonedAccessors.CommandLine.Read
import ZonedAccessors.Generation.Run

/-!
What the program does with its arguments: what it prints and the code it ends with.
-/

namespace ZonedAccessors.CommandLine

open Generation (Outcome)

def helpText : String :=
  "Generate DateInRegion accessors from a field schema\n\n" ++
  "Usage: region-field-gen [OPTIONS] --schema <path>\n\n" ++
  "Options:\n" ++
  "      --schema <path>  TOML schema listing types and their date fields\n" ++
  "      --out <path>     File to write; the source goes to stdout when omitted\n" ++
  "      --check          Fail instead of writing when the output file is out of date\n" ++
  "  -h, --help           Print help\n" ++
  "  -V, --version        Print version\n"

def versionText : String := "region-field-gen 0.1.0\n"

structure Exit where
  code : Nat
  printed : String
  deriving DecidableEq, Repr

/-- Only a source that was asked for is printed. -/
def Exit.ofResult : Except Generation.Failure Outcome → Exit
  | .ok (.rendered source) => ⟨0, source⟩
  | .ok _ => ⟨0, ""⟩
  | .error _ => ⟨1, ""⟩

def execute {m : Type → Type} [Monad m] {δ : Type} (disk : Disk m δ) (arguments : List String) :
    m Exit := do
  match read arguments with
  | .error _ => return ⟨2, ""⟩
  | .ok .help => return ⟨0, helpText⟩
  | .ok .version => return ⟨0, versionText⟩
  | .ok (.generate r) => return .ofResult (← Generation.run disk r).result

end ZonedAccessors.CommandLine
