import ZonedAccessors.Files.Disk
import ZonedAccessors.Generation.Report
import ZonedAccessors.Schema.Render

/-!
A generation run: the schema is read and rendered, and the source handed back, compared with what
the output holds, or written to it.
-/

namespace ZonedAccessors.Generation

variable {m : Type → Type} [Monad m] {δ : Type}

/-- A fault in opening the directory of a file is one of the directory. -/
def readFile (disk : Disk m δ) (path : String) : m (Except Failure String) := do
  match FilePath.split path with
  | none => return .error (.file path .noName)
  | some (parent, name) =>
      match ← disk.openDirectory parent with
      | .error e => return .error (.file parent e)
      | .ok d =>
          match ← disk.readIn d name with
          | .error e => return .error (.file path e)
          | .ok b =>
              match String.fromUTF8? b with
              | none => return .error (.file path .notText)
              | some text => return .ok text

/-- A file that is missing holds nothing, not even an empty text. -/
def present : Except Failure String → Except Failure (Option String)
  | .ok text => .ok (some text)
  | .error (.file _ .notFound) => .ok none
  | .error e => .error e

def readExisting (disk : Disk m δ) (path : String) : m (Except Failure (Option String)) := do
  return present (← readFile disk path)

def writeFile (disk : Disk m δ) (path text : String) : m (Except Failure Unit) := do
  match FilePath.split path with
  | none => return .error (.file path .noName)
  | some (parent, name) =>
      match ← disk.makeDirectories parent with
      | .error e => return .error (.file parent e)
      | .ok () =>
          match ← disk.openDirectory parent with
          | .error e => return .error (.file parent e)
          | .ok d =>
              match ← disk.writeIn d name text.toUTF8 with
              | .error e => return .error (.file path e)
              | .ok () => return .ok ()

def loadSchema (disk : Disk m δ) (path : String) : m (Report Schema) := do
  match ← readFile disk path with
  | .error e => return ⟨[], .error e⟩
  | .ok text =>
      let events := [.readSchema path text.utf8ByteSize]
      match Schema.ofText text with
      | .error e => return ⟨events, .error (.schema path e)⟩
      | .ok s => return ⟨events, .ok s⟩

/-- The file is written only if it holds something else. -/
def update (disk : Disk m δ) (out : String) (check : Bool) (source : String) :
    m (Report Outcome) := do
  match ← readExisting disk out with
  | .error e => return ⟨[], .error e⟩
  | .ok text =>
      if text = some source then return ⟨[.upToDate out], .ok (.upToDate out)⟩
      else if check then return ⟨[], .error (.stale out)⟩
      else
        match ← writeFile disk out source with
        | .error e => return ⟨[], .error e⟩
        | .ok () => return ⟨[.wrote out], .ok (.written out)⟩

def deliver (disk : Disk m δ) (r : Request) (source : String) : m (Report Outcome) :=
  match r.out with
  | none => return ⟨[], .ok (.rendered source)⟩
  | some out => update disk out r.check source

def run (disk : Disk m δ) (r : Request) : m (Report Outcome) := do
  let loaded ← loadSchema disk r.schema
  match loaded.result with
  | .error e => return ⟨loaded.events, .error e⟩
  | .ok s =>
      match s.render with
      | .error e => return ⟨loaded.events, .error (.declaration r.schema e)⟩
      | .ok source =>
          let delivered ← deliver disk r source
          return ⟨loaded.events ++ .rendered r.schema s.length :: delivered.events,
            delivered.result⟩

end ZonedAccessors.Generation
