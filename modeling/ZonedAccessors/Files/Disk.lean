import ZonedAccessors.Files.Tree

/-!
What a program asks of the files it works on, and the answers of a file tree.
-/

namespace ZonedAccessors

/-- A name is looked up in an open directory, and nothing outside of it is reached. -/
structure Disk (m : Type → Type) (δ : Type) where
  openDirectory : String → m (Except FileFault δ)
  readIn : δ → String → m (Except FileFault ByteArray)
  writeIn : δ → String → ByteArray → m (Except FileFault Unit)
  makeDirectories : String → m (Except FileFault Unit)

namespace FileTree

/-- What is not written leaves the tree as it is. -/
def written (t : FileTree) : Except FileFault FileTree → Except FileFault Unit × FileTree
  | .ok t' => (.ok (), t')
  | .error e => (.error e, t)

def disk : Disk (StateM FileTree) Location where
  openDirectory path := fun t => (t.directory (FilePath.components path), t)
  readIn l name := fun t => (t.readIn l name, t)
  writeIn l name b := fun t => t.written (t.writeIn l name b)
  makeDirectories path := fun t => ((t.makeDirectories path).2, (t.makeDirectories path).1)

end FileTree

end ZonedAccessors
