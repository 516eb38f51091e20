import RecordSearch.Query.Basic

/-! The text of a query: its fields, its date filters and its free text, in that order. Connectives
are left out. -/
namespace RecordSearch

def DateFilter.toText (filter : DateFilter) : Text :=
  filter.field ++ ':' :: (filter.operator ++ filter.value)

namespace Query

/-- A field as a clause. A single value that holds a space stands between double quotes. -/
def fieldText (name : Text) : Value → Text
  | .list items => name ++ ':' :: Text.join [','] items
  | .single text => name ++ ':' :: (if text.contains ' ' then '\x22' :: text ++ ['\x22'] else text)

/-- The text that states the query. -/
def toText (query : Query) : Text :=
  Text.join [' '] (query.fields.map (fun (name, value) => fieldText name value) ++
    query.dateFilters.map DateFilter.toText ++ query.freeText?.toList)

end Query
end RecordSearch
