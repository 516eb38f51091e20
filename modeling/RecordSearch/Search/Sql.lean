import RecordSearch.Query.Parse
import RecordSearch.Search.Error

/-! A query as a statement of SQL, for display. A statement is a list of fragments, so that what
stands inside a literal is told apart from what stands outside. -/
namespace RecordSearch.Sql

/-- A piece of a statement: text of the language, or a text literal. -/
inductive Fragment where
  | code (text : Text)
  | literal (value : Text)
  deriving DecidableEq, Repr

abbrev Fragments := List Fragment

def code (text : String) : Fragments := [.code text.toList]

/-- A text literal: between single quotes, with each single quote of the text written twice. -/
def quote (value : Text) : Text :=
  singleQuote :: value.flatMap (fun c => if c == singleQuote then [c, c] else [c]) ++ [singleQuote]

def Fragment.text : Fragment → Text
  | .code text => text
  | .literal value => quote value

def render (fragments : Fragments) : Text := fragments.flatMap Fragment.text

def joinWith (gap : String) : List Fragments → Fragments
  | [] => []
  | [part] => part
  | part :: rest => part ++ code gap ++ joinWith gap rest

def column? (field : Text) : Option Text :=
  [("type".toList, "contentType".toList), ("created".toList, "createdAt".toList),
    ("updated".toList, "updatedAt".toList)].lookup field

def like (column value : Text) : Fragments :=
  [.code (column ++ " LIKE ".toList), .literal ('%' :: value ++ ['%'])]

def fieldCondition (name : Text) : Value → Fragments
  | .list items => code "(" ++ joinWith " OR " (items.map (like name)) ++ code ")"
  | .single value =>
    if name = "type".toList then code "contentType = " ++ [.literal value]
    else like name value

/-- The conditions that date filters state. Only fields that hold dates have a column. -/
def dateConditions : List DateFilter → Except SearchError (List Fragments)
  | [] => .ok []
  | filter :: rest =>
    match column? filter.field with
    | none => .error (.noDateColumn filter.field)
    | some column => (dateConditions rest).map
        ([.code (column ++ ' ' :: filter.operator ++ [' ']), .literal filter.value] :: ·)

def textCondition (text : Text) : Fragments :=
  code "(" ++
    joinWith " OR " (["title", "content", "tags"].map fun column => like column.toList text) ++
    code ")"

def conditions (query : Query) : Except SearchError (List Fragments) := do
  let dates ← dateConditions query.dateFilters
  return query.fields.map (fun (name, value) => fieldCondition name value) ++ dates ++
    (query.freeText?.map textCondition).toList

def ofConditions (conditions : List Fragments) : Fragments :=
  code "SELECT * FROM content_items" ++
    (if conditions.isEmpty then [] else code " WHERE " ++ joinWith " AND " conditions) ++
    code " ORDER BY updatedAt DESC"

def statement (query : Query) : Except SearchError Fragments := (conditions query).map ofConditions

end RecordSearch.Sql

def RecordSearch.Query.toSql (query : RecordSearch.Query) :
    Except RecordSearch.SearchError RecordSearch.Text :=
  (RecordSearch.Sql.statement query).map RecordSearch.Sql.render
