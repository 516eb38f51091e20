import RecordSearch.Search.Condition

/-! Sorting of records by one of their attributes. Records that are equal in it keep their order, in
both directions. -/
namespace RecordSearch

inductive SortField where
  | createdAt
  | updatedAt
  | title
  | contentType
  deriving DecidableEq, Repr

namespace SortField

def all : List SortField := [.createdAt, .updatedAt, .title, .contentType]

def name : SortField → Text
  | .createdAt => "created_at".toList
  | .updatedAt => "updated_at".toList
  | .title => "title".toList
  | .contentType => "content_type".toList

def ofName? (name : Text) : Option SortField := all.find? fun field => field.name == name

end SortField

inductive SortDirection where
  | ascending
  | descending
  deriving DecidableEq, Repr

namespace SortDirection

def all : List SortDirection := [.ascending, .descending]

def name : SortDirection → Text
  | .ascending => "asc".toList
  | .descending => "desc".toList

def ofName? (name : Text) : Option SortDirection :=
  all.find? fun direction => direction.name == name

end SortDirection

/-- How to sort, by the names of an attribute and a direction. The names are looked up when they are
needed. -/
structure SortOrder where
  field : Text := SortField.updatedAt.name
  direction : Text := SortDirection.descending.name
  deriving DecidableEq, Repr

inductive SortKey where
  | moment (instant : Option Instant)
  | text (text : Text)
  deriving DecidableEq

namespace SortKey

def le : SortKey → SortKey → Bool
  | .moment (some left), .moment (some right) => left.micros ≤ right.micros
  | .text left, .text right => Text.le left right
  | .moment none, .moment _ => true
  | .moment _, .text _ => true
  | _, _ => false

def of (record : Record) : SortField → Except OutOfRange SortKey
  | .createdAt => record.created.instant.map .moment
  | .updatedAt => record.updated.instant.map .moment
  | .title => .ok (.text (Text.lower record.title))
  | .contentType =>
    .ok (.text (match record.kind with
      | .known type => type.name
      | .other name => Text.lower name))

/-- Whether the key is one that all keys of its kind can be compared with. -/
def isOrdered : SortKey → Bool
  | .moment none => false
  | _ => true

end SortKey

def withKeys (field : SortField) : List Record → Except OutOfRange (List (SortKey × Record))
  | [] => .ok []
  | record :: rest => do
    let key ← SortKey.of record field
    let others ← withKeys field rest
    return (key, record) :: others

/-- Records with keys in ascending or descending order of the keys, equal ones as they stood. -/
def arrange (direction : SortDirection) (records : List (SortKey × Record)) : List Record :=
  let before (a b : SortKey × Record) : Bool :=
    match direction with
    | .ascending => a.1.le b.1
    | .descending => b.1.le a.1
  (records.mergeSort before).map Prod.snd

/-- The comparison that fails when keys are compared from the first on and one of them has no
instant. Each key is compared as the left one with those before it; only the first stands right. -/
def failedComparison? (keys : List SortKey) : Option SearchError :=
  match keys with
  | first :: second :: rest =>
    if !first.isOrdered then some (.unordered second.isOrdered false)
    else if (second :: rest).any fun key => !key.isOrdered then some (.unordered false true)
    else none
  | _ => none

/-- The records sorted. The direction is looked up first, and the attribute only if there are
records to look at. Keys of descending order are compared from the last on. -/
def SortOrder.sort (order : SortOrder) (records : List Record) : Except SearchError (List Record) :=
  match SortDirection.ofName? order.direction with
  | none => .error (.noSortDirection order.direction)
  | some direction =>
    match records, SortField.ofName? order.field with
    | [], _ => .ok []
    | _ :: _, none => .error (.noSortField order.field)
    | _ :: _, some field => do
      let keyed ← dated (withKeys field records)
      let keys := keyed.map Prod.fst
      match failedComparison?
          (match direction with | .ascending => keys | .descending => keys.reverse) with
      | some failure => .error failure
      | none => .ok (arrange direction keyed)

end RecordSearch
