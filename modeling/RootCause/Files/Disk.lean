import RootCause.Files.Tree

/-!
What a program can do with files, in a monad of its choice.
-/

namespace RootCause

/-- Reading a file, and creating an empty one where there is none; creating tells whether the
file is there. -/
structure Disk (m : Type → Type) where
  readBytes : String → m (Except ReadError ByteArray)
  create : String → m Bool

/-- The text in a file. -/
def Disk.readText {m : Type → Type} [Monad m] (disk : Disk m) (path : String) :
    m (Except ReadError String) := do
  return (← disk.readBytes path) >>= textOfBytes

/-- The files of a tree, which does not keep those that are created. -/
def FileTree.disk (t : FileTree) : Disk Id where
  readBytes path := t.read path
  create path := t.canCreate path

end RootCause
