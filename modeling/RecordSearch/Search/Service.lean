import RecordSearch.Query.Parse
import RecordSearch.Query.Validate
import RecordSearch.Search.Filters
import RecordSearch.Search.Sorting
import RecordSearch.Search.Suggestion

/-! Searching a collection of records: a query is checked, taken apart and applied, then the filters
are, and what is left is sorted. -/
namespace RecordSearch

structure Service where
  records : List Record
  defaultSort : SortOrder := {}
  suggestionLimit : Option Int := some 10

structure SearchRequest where
  text : Text
  filters : Option Filters := none
  sort : Option SortOrder := none
  /-- Whether a query that fails its check finds nothing. -/
  strict : Bool := false

structure SearchOutcome where
  query : Query
  records : List Record
  verdict : Verdict

namespace Service

/-- The query that a text asks for; a blank text asks for everything. -/
def queryOf (text : Text) : Query := if Text.isBlankText text then {} else Query.parse text

/-- The records that answer a query and pass the filters, sorted. -/
def find (service : Service) (query : Query) (filters : Option Filters) (sort : Option SortOrder) :
    Except SearchError (List Record) := do
  let found ← dated (query.select service.records)
  let passed ← match filters with
    | some filters => filters.select found
    | none => pure found
  (sort.getD service.defaultSort).sort passed

/-- Whether the request is refused before anything is looked for. -/
def refuses (request : SearchRequest) : Bool :=
  request.strict && !(Query.validate request.text).isValid

def search (service : Service) (request : SearchRequest) : Except SearchError SearchOutcome :=
  let verdict := Query.validate request.text
  if refuses request then .ok ⟨{}, [], verdict⟩
  else
    let query := queryOf request.text
    (service.find query request.filters request.sort).map fun records => ⟨query, records, verdict⟩

def suggest (service : Service) (partialQuery : Text) : Except SearchError (List Text) :=
  suggestions partialQuery service.records service.suggestionLimit

def add (service : Service) (records : List Record) : Service :=
  { service with records := service.records ++ records }

end Service
end RecordSearch
