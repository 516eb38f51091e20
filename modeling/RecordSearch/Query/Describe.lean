import RecordSearch.Markup.Basic
import RecordSearch.Query.Basic

/-! The parts of a query as lines of marked text, and the term that results mark in their titles. -/
namespace RecordSearch.Query

def describeLine (name shown : Text) : Text := Markup.styled "bold" (name ++ [':']) ++ ' ' :: shown

def shownValue : Value → Text
  | .single text => text
  | .list items => Text.join ", ".toList items

def describeLines (query : Query) : List Text :=
  query.fields.map (fun (name, value) =>
      describeLine (Markup.escape name) (Markup.escape (shownValue value))) ++
    query.dateFilters.map (fun filter =>
      describeLine filter.field
        (Markup.escape filter.operator ++ ' ' :: Markup.escape filter.value)) ++
    (if query.connectives.isEmpty then []
      else [describeLine "Connectives".toList (Text.join [' '] query.connectives)]) ++
    (query.freeText?.map fun text => describeLine "Full text".toList (Markup.escape text)).toList

def describe (query : Query) : Text :=
  match describeLines query with
  | [] => Markup.styled "dim" "Empty query (matches everything)".toList
  | lines => Text.join ['\n'] lines

/-- The term to mark in the titles of results: the free text, or else the title asked for. -/
def highlightTerm (query : Query) : Text :=
  match query.freeText?, query.fields.get? "title".toList with
  | some text, _ => text
  | none, some (.single title) => title
  | _, _ => []

end RecordSearch.Query
