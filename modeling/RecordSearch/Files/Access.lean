import RecordSearch.Files.Path
import RecordSearch.Text.Utf8

/-! Reading files. Whoever runs the program says how a file is read; the rest of the library asks
for the bytes behind a path and learns why there are none. -/
namespace RecordSearch

inductive FileFault where
  | missing
  | notDirectory
  | isDirectory
  | denied
  deriving DecidableEq, Repr

structure FileError where
  fault : FileFault
  path : FilePath
  deriving DecidableEq, Repr

namespace FileFault

def text : FileFault → Text
  | .missing => "[Errno 2] No such file or directory".toList
  | .notDirectory => "[Errno 20] Not a directory".toList
  | .isDirectory => "[Errno 21] Is a directory".toList
  | .denied => "[Errno 13] Permission denied".toList

/-- Whether something stands at the path all the same. -/
def isThere : FileFault → Bool
  | .missing | .notDirectory => false
  | .isDirectory | .denied => true

end FileFault

def FileError.message (error : FileError) : Text :=
  error.fault.text ++ ": ".toList ++ Text.quoted error.path.toText

structure FileAccess (m : Type → Type) where
  read : FilePath → m (Except FileFault Bytes)

namespace FileAccess

variable {m : Type → Type} [Monad m]

def isThere (files : FileAccess m) (path : FilePath) : m Bool := do
  match ← files.read path with
  | .ok _ => return true
  | .error fault => return fault.isThere

def bytes (files : FileAccess m) (path : FilePath) : m (Except FileError Bytes) := do
  match ← files.read path with
  | .ok bytes => return .ok bytes
  | .error fault => return .error ⟨fault, path⟩

end FileAccess
end RecordSearch
