import RecordSearch.Query.Parse
import RecordSearch.Search.Service

/-! What the program notes while it works, for those who ask for it. -/
namespace RecordSearch.Command

inductive Level where
  | debug
  | info
  deriving DecidableEq, Repr

structure Note where
  level : Level
  source : Text
  text : Text
  deriving DecidableEq, Repr

structure Logging where
  /-- The notes that are written: none, those that matter, or all. -/
  shown : List Level
  /-- The time in front of each note, which is written with where the note comes from. -/
  stamp : Option Text

namespace Logging

def levelText : Level → Text
  | .debug => "DEBUG".toList
  | .info => "INFO".toList

def line (logging : Logging) (note : Note) : Text :=
  match logging.stamp with
  | none => levelText note.level ++ ": ".toList ++ note.text ++ ['\n']
  | some stamp =>
    Text.join " - ".toList [stamp, note.source, levelText note.level, note.text] ++ ['\n']

def lines (logging : Logging) (notes : List Note) : Text :=
  (notes.filter fun note => logging.shown.contains note.level).flatMap logging.line

end Logging

namespace Note

/-- A note about a date clause that has no operator and is left out. -/
def ofDropped (name value : Text) : Note :=
  ⟨.debug, "kbase.search.query.parser".toList,
    "Dropping date clause without operator: ".toList ++ name ++ ':' :: value⟩

def ofParsing (text : Text) : List Note :=
  (Clause.scan (Text.normalize text)).filterMap fun clause =>
    let value := Query.stripQuotes clause.value
    if (Query.Part.ofClause? clause.name value).isNone then some (ofDropped clause.name value)
    else none

/-- A note about a date filter whose operator is no comparison. -/
def ofPassedOver (filter : DateFilter) : Note :=
  ⟨.debug, "kbase.search.evaluator".toList,
    "Ignoring unsupported date operator: ".toList ++ filter.field ++
      ':' :: filter.operator ++ filter.value⟩

/-- The notes about the date filters that are passed over, up to the first that fails. -/
def ofFilters : List DateFilter → List Note
  | [] => []
  | filter :: rest =>
    match Condition.ofDateFilter filter with
    | .ok none => ofPassedOver filter :: ofFilters rest
    | .ok (some _) => ofFilters rest
    | .error _ => []

def ofQuery (text : Text) : List Note :=
  if Text.isBlankText text then [] else ofParsing text ++ ofFilters (Query.parse text).dateFilters

def ofRefusal (text error : Text) : Note :=
  ⟨.info, "kbase.search.engine".toList,
    "Rejected query ".toList ++ Text.quoted text ++ ": ".toList ++ error⟩

def ofOutcome (text : Text) (found total : Nat) : Note :=
  ⟨.debug, "kbase.search.engine".toList,
    "Query ".toList ++ Text.quoted text ++ " matched ".toList ++ Text.ofNat found ++
      '/' :: Text.ofNat total ++ " records in 0ms".toList⟩

def ofSearch (service : Service) (request : SearchRequest) : List Note :=
  if Service.refuses request then
    [ofRefusal request.text ((Query.validate request.text).error?.getD [])]
  else
    ofQuery request.text ++
      match service.search request with
      | .ok outcome => [ofOutcome request.text outcome.records.length service.records.length]
      | .error _ => []

end Note
end RecordSearch.Command
