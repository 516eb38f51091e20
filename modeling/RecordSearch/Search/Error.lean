import RecordSearch.Text.Quoted
import RecordSearch.Timestamp.Basic

/-! Why a search fails. -/
namespace RecordSearch

inductive SearchError where
  | dateOutOfRange
  | noContentType (name : Text)
  | noSortField (name : Text)
  | noSortDirection (name : Text)
  | noHintKind (name : Text)
  /-- A date filter names a field that the table of dates lacks. -/
  | noDateColumn (name : Text)
  /-- Two records cannot be ordered because a date of one of them cannot be read. -/
  | unordered (leftRead rightRead : Bool)
  deriving DecidableEq, Repr

namespace SearchError

/-- The name of what an unreadable or a readable date is compared as. -/
def operand (read : Bool) : Text :=
  if read then "'datetime.datetime'".toList else "'NoneType'".toList

def message : SearchError → Text
  | .dateOutOfRange => "date value out of range".toList
  | .noContentType name => Text.quoted name ++ " is not a valid ContentType".toList
  | .noSortField name => Text.quoted name ++ " is not a valid SortField".toList
  | .noSortDirection name => Text.quoted name ++ " is not a valid SortDirection".toList
  | .noHintKind name => Text.quoted name ++ " is not a valid HintKind".toList
  | .noDateColumn name => Text.quoted name
  | .unordered left right =>
    "'<' not supported between instances of ".toList ++ operand left ++
      " and ".toList ++ operand right

end SearchError

def dated {α : Type} : Except OutOfRange α → Except SearchError α
  | .ok value => .ok value
  | .error _ => .error .dateOutOfRange

def keepIf {α ε : Type} (test : α → Except ε Bool) : List α → Except ε (List α)
  | [] => .ok []
  | a :: rest => do
    let passes ← test a
    let kept ← keepIf test rest
    return if passes then a :: kept else kept

end RecordSearch
