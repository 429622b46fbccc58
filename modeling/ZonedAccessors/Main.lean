import ZonedAccessors.CommandLine.Execute

/-!
The program: the arguments are carried out on the files of the system.
-/

namespace ZonedAccessors

def faultOf : IO.Error → FileFault
  | .noFileOrDirectory .. => .notFound
  | .alreadyExists .. => .alreadyExists
  | .inappropriateType .. => .notDirectory
  | e => .other (toString e)

def attempt {α : Type} (action : IO α) : IO (Except FileFault α) :=
  try return .ok (← action) catch e => return .error (faultOf e)

/-- Whether a file beneath a directory is there still once links are followed. -/
def staysIn (directory file : String) : Bool :=
  (FilePath.components directory).isPrefixOf (FilePath.components file)

/-- A name that is taken by something outside of the directory is refused. -/
def guarded {α : Type} (directory name : String) (action : String → IO α) :
    IO (Except FileFault α) := do
  let path := directory ++ "/" ++ name
  match ← attempt (IO.FS.realPath ⟨path⟩) with
  | .error .notFound => attempt (action path)
  | .error e => return .error e
  | .ok found =>
      if staysIn directory found.toString then attempt (action path) else return .error .outside

def systemDisk : Disk IO String where
  openDirectory path := attempt do
    let found ← IO.FS.realPath ⟨path⟩
    let _ ← found.readDir
    return found.toString
  readIn directory name := guarded directory name fun path => IO.FS.readBinFile ⟨path⟩
  writeIn directory name content :=
    guarded directory name fun path => IO.FS.writeBinFile ⟨path⟩ content
  makeDirectories path := attempt (IO.FS.createDirAll ⟨path⟩)

end ZonedAccessors

def main (arguments : List String) : IO UInt32 := do
  let exit ← ZonedAccessors.CommandLine.execute ZonedAccessors.systemDisk arguments
  (← IO.getStdout).putStr exit.printed
  return exit.code.toUInt32
