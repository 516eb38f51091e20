import RecordSearch.Query.Basic
import RecordSearch.Record.Basic
import RecordSearch.Search.Error
import RecordSearch.Text.Lower

/-! What a record must satisfy to answer a query. Every part of a query that is understood becomes
one condition, and a record answers the query if it satisfies all of them, whatever connectives
stood between the clauses. -/
namespace RecordSearch

inductive Comparison where
  | after
  | before
  | notBefore
  | notAfter
  | sameDay
  deriving DecidableEq, Repr

namespace Comparison

def ofOperator? (operator : Text) : Option Comparison :=
  [([ '>' ], Comparison.after), (['<'], .before), (['>', '='], .notBefore), (['<', '='], .notAfter),
    (['='], .sameDay)].lookup operator

/-- Whether two instants compare so. Days are days of universal time. -/
def holds (left right : Instant) : Comparison → Bool
  | .after => right.micros < left.micros
  | .before => left.micros < right.micros
  | .notBefore => right.micros ≤ left.micros
  | .notAfter => left.micros ≤ right.micros
  | .sameDay => left.day == right.day

end Comparison

inductive DateField where
  | created
  | updated
  deriving DecidableEq, Repr

namespace DateField

def ofName (name : Text) : DateField := if name = "created".toList then .created else .updated

def stamp (record : Record) : DateField → Stamp
  | .created => record.created
  | .updated => record.updated

end DateField

/-- One thing that a record must satisfy. -/
inductive Condition where
  | title (value : Text)
  | content (value : Text)
  | kind (name : Text)
  | tags (values : List Text)
  | date (field : DateField) (comparison : Comparison) (target : Option Instant)
  | anywhere (text : Text)
  deriving DecidableEq

namespace Condition

/-- Whether one of the tags holds one of the values when case is left aside. -/
def tagged (values tags : List Text) : Bool :=
  values.any fun value => tags.any fun tag => Text.holds value tag

/-- Whether a record satisfies the condition. A record without content satisfies every condition on
its content. A date satisfies no comparison with a date that cannot be read. -/
def holds (record : Record) : Condition → Except OutOfRange Bool
  | .title value => .ok (Text.holds value record.title)
  | .content value =>
    .ok (record.content.all fun content => content.isEmpty || Text.holds value content)
  | .kind name => .ok (record.kind.name == name)
  | .tags values => .ok (tagged values record.tags)
  | .date _ _ none => .ok false
  | .date field comparison (some target) =>
    (field.stamp record).instant.map fun moment => moment.any fun moment =>
      comparison.holds moment target
  | .anywhere text =>
    .ok (Text.holds text record.title || record.content.any (Text.holds text) ||
        tagged [text] record.tags)

/-- Whether a record satisfies all conditions. The first that it does not satisfy settles it. -/
def allHold (record : Record) : List Condition → Except OutOfRange Bool
  | [] => .ok true
  | condition :: rest => do if ← condition.holds record then allHold record rest else return false

/-- The condition that a field clause states, if the field is one that records have. Only tags may
be a list. -/
def ofField? (name : Text) (value : Value) : Option Condition :=
  match value with
  | .single text =>
    if name = "title".toList then some (.title text)
    else if name = "content".toList then some (.content text)
    else if name = "type".toList then some (.kind text)
    else if name = "tags".toList then some (.tags [text])
    else none
  | .list items => if name = "tags".toList then some (.tags items) else none

/-- The condition that a date filter states, if its operator is a comparison. -/
def ofDateFilter (filter : DateFilter) : Except OutOfRange (Option Condition) :=
  match Comparison.ofOperator? filter.operator with
  | none => .ok none
  | some comparison =>
    (Instant.ofText? filter.value).map fun target =>
      some (.date (DateField.ofName filter.field) comparison target)

def ofDateFilters : List DateFilter → Except OutOfRange (List Condition)
  | [] => .ok []
  | filter :: rest => do
    let condition ← ofDateFilter filter
    let conditions ← ofDateFilters rest
    return condition.toList ++ conditions

end Condition

namespace Query

/-- The conditions of a query: those of its fields, its date filters and its free text. -/
def conditions (query : Query) : Except OutOfRange (List Condition) := do
  let dates ← Condition.ofDateFilters query.dateFilters
  return query.fields.filterMap (fun (name, value) => Condition.ofField? name value) ++ dates ++
    (query.freeText?.map Condition.anywhere).toList

def matches? (query : Query) (record : Record) : Except OutOfRange Bool := do
  Condition.allHold record (← query.conditions)

/-- The records that answer the query, in their order. -/
def select (query : Query) (records : List Record) : Except OutOfRange (List Record) := do
  let conditions ← query.conditions
  keepIf (fun record => Condition.allHold record conditions) records

end Query
end RecordSearch
