import RecordSearch.Search.Condition

/-! Filters chosen beside the query: kinds of content, tags, and a range of creation dates. -/
namespace RecordSearch

/-- A range of dates. A bound that is missing or empty leaves its side open. -/
structure DateRange where
  start : Option Stamp := none
  stop : Option Stamp := none
  deriving DecidableEq

/-- The filters. An empty list filters nothing. -/
structure Filters where
  contentTypes : List Text := []
  tags : List Text := []
  dateRange : Option DateRange := none
  deriving DecidableEq

namespace DateRange

instance : Coe (Option Text) (Option Stamp) := ⟨Option.map .written⟩

def isMissing (bound : Option Stamp) : Bool :=
  bound.all fun
    | .read _ => false
    | .written text => text.isEmpty

def isOpen (range : DateRange) : Bool := isMissing range.start && isMissing range.stop

/-- The instant of a bound. A bound that cannot be read leaves its side open. -/
def bound (stamp : Option Stamp) : Except OutOfRange (Option Instant) :=
  match stamp with
  | none => .ok none
  | some (.written []) => .ok none
  | some stamp => stamp.instant

def isReadable (text : Option Text) : Except SearchError Bool :=
  (dated (bound text)).map fun instant => isMissing text || instant.isSome

end DateRange

/-- Whether an instant lies between two bounds, which belong to the range themselves. -/
def Instant.isWithin (start stop : Option Instant) (moment : Option Instant) : Bool :=
  moment.any fun moment =>
    start.all (·.micros ≤ moment.micros) && stop.all (moment.micros ≤ ·.micros)

namespace Filters

/-- The number of filters that leave something out. -/
def activeCount (filters : Filters) : Nat :=
  (if filters.contentTypes.isEmpty then 0 else 1) + (if filters.tags.isEmpty then 0 else 1) +
    (if filters.dateRange.any fun range => !range.isOpen then 1 else 0)

def contentTypesOf : List Text → Except SearchError (List ContentType)
  | [] => .ok []
  | name :: rest =>
    match ContentType.ofName? name with
    | none => .error (.noContentType name)
    | some type => (contentTypesOf rest).map (type :: ·)

def contentTypeOf (record : Record) : Except SearchError ContentType :=
  match record.kind with
  | .known type => .ok type
  | .other name => .error (.noContentType name)

def keepTypes (names : List Text) (records : List Record) : Except SearchError (List Record) :=
  if names.isEmpty then .ok records
  else do
    let types ← contentTypesOf names
    keepIf (fun record => (contentTypeOf record).map types.contains) records

def keepTagged (tags : List Text) (records : List Record) : List Record :=
  if tags.isEmpty then records else records.filter fun record => Condition.tagged tags record.tags

def keepCreated (range : Option DateRange) (records : List Record) :
    Except SearchError (List Record) :=
  match range with
  | none => .ok records
  | some range => do
    let start ← dated (DateRange.bound range.start)
    let stop ← dated (DateRange.bound range.stop)
    if start.isNone && stop.isNone then return records
    else
      keepIf (fun record => dated (record.created.instant.map (Instant.isWithin start stop)))
        records

/-- The records that pass all filters, in their order. -/
def select (filters : Filters) (records : List Record) : Except SearchError (List Record) := do
  let typed ← keepTypes filters.contentTypes records
  keepCreated filters.dateRange (keepTagged filters.tags typed)

end Filters
end RecordSearch
