import RecordSearch.Search.Filters
import RecordSearch.Text.Lower

/-! Completions of the last token of a query: values that records hold, and words of the query
language itself. -/
namespace RecordSearch

/-- The shortest token that is completed from records. -/
def minTokenLength : Nat := 2

/-- The first members of a list. A negative limit counts from the end, and no limit keeps all. -/
def takeLimit {α : Type} (limit : Option Int) (values : List α) : List α :=
  match limit with
  | none => values
  | some (.ofNat count) => values.take count
  | some (.negSucc count) => values.take (values.length - (count + 1))

def kindNames : List Record → Except SearchError (List Text)
  | [] => .ok []
  | record :: rest => do
    let type ← Filters.contentTypeOf record
    let names ← kindNames rest
    return type.name :: names

/-- The distinct values that hold a token when case is left aside, in order of first occurrence. -/
def completions (token : Text) (values : List Text) : List Text :=
  values.eraseDups.filter fun value => Text.occursIn token (Text.lower value)

/-- All completions of a token, which is given in its small form: titles, then tags, then kinds. -/
def allSuggestions (token : Text) (records : List Record) (kinds : List Text) : List Text :=
  ((completions token (records.map Record.title)).map fun title =>
    "title:".toList ++ '\x22' :: title ++ ['\x22']) ++
    ((completions token (records.flatMap Record.tags)).map fun tag => "tags:".toList ++ tag) ++
    ((completions token kinds).map fun kind => "type:".toList ++ kind)

/-- The completions of the last token of a query from the values of records. -/
def suggestions (partialQuery : Text) (records : List Record) (limit : Option Int) :
    Except SearchError (List Text) :=
  let token := Text.lower (Text.lastToken partialQuery)
  if token.length < minTokenLength then .ok []
  else (kindNames records).map fun kinds => takeLimit limit (allSuggestions token records kinds)

inductive HintKind where
  | field
  | operator
  | value
  deriving DecidableEq, Repr

namespace HintKind

def all : List HintKind := [.field, .operator, .value]

def name : HintKind → Text
  | .field => "field".toList
  | .operator => "operator".toList
  | .value => "value".toList

def ofName? (name : Text) : Option HintKind := all.find? fun kind => kind.name == name

end HintKind

structure Hint where
  kind : HintKind
  text : Text
  description : Text
  deriving DecidableEq, Repr

def Hint.of (kind : HintKind) (text description : String) : Hint :=
  ⟨kind, text.toList, description.toList⟩

def hintCatalogue : List Hint := [
  .of .field "title:" "Search in title field",
  .of .field "content:" "Search in content field",
  .of .field "tags:" "Search in tags",
  .of .field "type:" "Filter by content type",
  .of .field "created:" "Filter by creation date",
  .of .field "updated:" "Filter by update date",
  .of .operator "AND" "Logical AND operator",
  .of .operator "OR" "Logical OR operator",
  .of .operator "NOT" "Logical NOT operator",
  .of .operator ">" "Greater than",
  .of .operator "<" "Less than",
  .of .operator ">=" "Greater than or equal",
  .of .operator "<=" "Less than or equal",
  .of .operator "=" "Equals",
  .of .value "document" "Document content type",
  .of .value "image" "Image content type",
  .of .value "video" "Video content type",
  .of .value "note" "Note content type",
  .of .value "link" "Link content type"]

/-- The words of the query language that hold the last token of a query. -/
def syntaxHints (partialQuery : Text) : List Hint :=
  let token := Text.lower (Text.lastToken partialQuery)
  if token.isEmpty then []
  else hintCatalogue.filter fun hint => Text.occursIn token (Text.lower hint.text)

/-- A query with its last token replaced. Behind a field name its value follows directly, and behind
anything else a space. -/
def applySuggestion (query text : Text) (kind : HintKind) : Text :=
  let completed := Text.join [' '] ((Text.tokens query).dropLast ++ [text])
  if kind = .field then completed else completed ++ [' ']

end RecordSearch
