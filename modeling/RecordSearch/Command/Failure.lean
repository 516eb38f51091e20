import RecordSearch.Command.Usage
import RecordSearch.Config.Load
import RecordSearch.Record.Load
import RecordSearch.Search.Error

/-! Why a command that was called rightly fails. -/
namespace RecordSearch.Command

inductive SettingFault where
  | notMapping (kind : Text)
  | noSortField (shown : Text)
  | noSortDirection (shown : Text)
  | noLimit
  | notPath (kind : Text)
  | bytesPath
  | unknownHome
  deriving DecidableEq, Repr

inductive Failure where
  | search (error : SearchError)
  | load (error : LoadError)
  | setting (fault : SettingFault)
  deriving DecidableEq, Repr

namespace SettingFault

def message : SettingFault → Text
  | .notMapping kind => UsageFault.inQuotes kind ++ " object has no attribute 'get'".toList
  | .noSortField shown => shown ++ " is not a valid SortField".toList
  | .noSortDirection shown => shown ++ " is not a valid SortDirection".toList
  | .noLimit => "slice indices must be integers or None or have an __index__ method".toList
  | .notPath kind => "expected str, bytes or os.PathLike object, not ".toList ++ kind
  | .bytesPath =>
    "argument should be a str object or an os.PathLike object returning str, not <class 'bytes'>".toList
  | .unknownHome => "Could not determine home directory.".toList

end SettingFault

def Failure.message : Failure → Text
  | .search error => error.message
  | .load error => error.message
  | .setting fault => fault.message

end RecordSearch.Command
