import RecordSearch.Query.Clause

/-! Queries from text. Reading never fails: a date clause without an operator is dropped, and what
stands outside of the clauses becomes connectives and free text. -/
namespace RecordSearch
namespace Query

def isQuote (c : Char) : Bool := c == '\x22' || c == '\x27'

def dropOpeningQuote : Text → Text
  | [] => []
  | c :: rest => if isQuote c then rest else c :: rest

/-- The text without a quote at its beginning and one at its end, which need not be alike. -/
def stripQuotes (text : Text) : Text := (dropOpeningQuote (dropOpeningQuote text).reverse).reverse

/-- The operator at the beginning of a date value and what it is compared with. The operator is the
longest run of its characters that leaves something behind. -/
def splitOperator? (value : Text) : Option (Text × Text) :=
  let operator := value.takeWhile isOperatorChar
  match operator.isEmpty, value.dropWhile isOperatorChar with
  | true, _ => none
  | false, [] =>
    match operator.reverse with
    | last :: c :: before => some ((c :: before).reverse, [last])
    | _ => none
  | false, target => some (operator, target)

inductive Part where
  | field (name : Text) (value : Value)
  | date (filter : DateFilter)
  deriving DecidableEq, Repr

def Part.ofClause? (name value : Text) : Option Part :=
  if name ∈ dateFields then
    (splitOperator? value).map fun (operator, target) => .date ⟨name, operator, Text.trim target⟩
  else if name = "tags".toList ∧ ',' ∈ value then
    some (.field name (.list ((Text.splitAt (· == ',') value).map Text.trim)))
  else some (.field name (.single value))

def add (query : Query) : Part → Query
  | .field name value => { query with fields := query.fields.set name value }
  | .date filter => { query with dateFilters := query.dateFilters ++ [filter] }

def parts (clauses : List Clause) : List Part :=
  clauses.filterMap fun clause => Part.ofClause? clause.name (stripQuotes clause.value)

/-- What is left of a text when the clauses have been removed one by one, each where its characters
first stand. -/
def residue (text : Text) (clauses : List Clause) : Text :=
  clauses.foldl (fun rest clause => Text.eraseFirst clause.source rest) text

def connective? : Chunk → Option Connective
  | .run word => Connective.ofWord? word
  | .other _ => none

/-- The connectives that stand in a text as whole words. -/
def connectivesIn (text : Text) : List Connective :=
  (Text.chunks isWordChar text).filterMap connective?

def withoutConnectives (text : Text) : Text :=
  Text.ofChunks ((Text.chunks isWordChar text).filter fun chunk => (connective? chunk).isNone)

def asFullText (text : Text) : Option Text := if text.isEmpty then none else some text

def ofNormalized (text : Text) : Query :=
  match Clause.scan text with
  | [] => { fullText := asFullText text }
  | clauses =>
    let rest := residue text clauses
    { (parts clauses).foldl add {} with
      connectives := (connectivesIn rest).map Connective.name
      fullText := asFullText (Text.trim (withoutConnectives rest)) }

/-- The query that a text states. -/
def parse (text : Text) : Query := ofNormalized (Text.normalize text)

end Query
end RecordSearch
