import RecordSearch.Files.Access
import RecordSearch.Record.Decode

/-! Records from a file. -/
namespace RecordSearch

inductive LoadFault where
  | unreadable (error : FileError)
  | undecodable (error : DecodeError)
  deriving DecidableEq, Repr

structure LoadError where
  path : FilePath
  fault : LoadFault
  deriving DecidableEq, Repr

def LoadError.message (error : LoadError) : Text :=
  let reason := match error.fault with
    | .unreadable fault => fault.message
    | .undecodable fault => fault.message
  "Cannot load records from ".toList ++ error.path.toText ++ ": ".toList ++ reason

namespace Record

/-- The records that bytes state. Bytes that stand for no character are no JSON, and neither is the
null character that stands for them. -/
def ofBytes (defaults : RecordDefaults) (bytes : Bytes) : Decode.Result (List Record) :=
  let (text, error) := Utf8.decode bytes
  ofText defaults (if error.isSome then text ++ ['\x00'] else text)

/-- The records in a file. -/
def load {m : Type → Type} [Monad m] (files : FileAccess m) (defaults : RecordDefaults)
    (path : FilePath) : m (Except LoadError (List Record)) := do
  match ← files.bytes path with
  | .error fault => return .error ⟨path, .unreadable fault⟩
  | .ok bytes =>
    match ofBytes defaults bytes with
    | .error fault => return .error ⟨path, .undecodable fault⟩
    | .ok records => return .ok records

end Record
end RecordSearch
