import RecordSearch.Text.Blank
import RecordSearch.Text.Likeness
import RecordSearch.Text.Lower

/-! Checks of the text of a query, made without taking it apart: it has words, its double quotes
pair up, and every name in front of a colon is a known field. -/
namespace RecordSearch

def knownFields : List Text :=
  ["title".toList, "content".toList, "tags".toList, "type".toList, "created".toList,
    "updated".toList]

inductive Verdict where
  | valid
  | emptyQuery
  | unbalancedQuotes
  | unknownFields (names : List Text)
  deriving DecidableEq, Repr

def markersIn : List Chunk → List Text
  | .run word :: .other ':' :: rest => word :: markersIn rest
  | _ :: rest => markersIn rest
  | [] => []

/-- The longest runs of name characters in a text that a colon follows directly. -/
def markers (text : Text) : List Text := markersIn (Text.chunks isNameChar text)

/-- What the check of a query finds first. -/
def Query.validate (text : Text) : Verdict :=
  if Text.isBlankText text then .emptyQuery
  else if text.count '\x22' % 2 ≠ 0 then .unbalancedQuotes
  else match (markers text).eraseDups.filter (fun name => !knownFields.contains name) with
    | [] => .valid
    | names => .unknownFields names

/-- The first field of the highest likeness to a name. -/
def closest? (name : Text) : List Text → Option Text
  | [] => none
  | field :: rest =>
    match closest? name rest with
    | none => some field
    | some best =>
      some (if (Text.likeness name best).exceeds (Text.likeness name field) then best else field)

/-- The known field that an unknown name was probably meant to be, if the two are alike by seven
tenths or more. -/
def hint? (name : Text) : Option Text :=
  (closest? (Text.lower name) knownFields).filter fun field =>
    (Text.likeness (Text.lower name) field).reaches 7

namespace Verdict

def isValid : Verdict → Bool
  | .valid => true
  | _ => false

def unknownNames : Verdict → List Text
  | .unknownFields names => names
  | _ => []

/-- The known fields that the unknown names were probably meant to be, each once. -/
def hints (verdict : Verdict) : List Text := (verdict.unknownNames.filterMap hint?).eraseDups

def error? : Verdict → Option Text
  | .valid => none
  | .emptyQuery => some "Query cannot be empty".toList
  | .unbalancedQuotes => some "Unmatched quotes in query".toList
  | .unknownFields names =>
    some ("Invalid field(s): ".toList ++ Text.join ", ".toList names ++ ". Valid fields: ".toList ++
      Text.join ", ".toList knownFields)

def reason? : Verdict → Option Text
  | .valid => none
  | .emptyQuery => some "empty_query".toList
  | .unbalancedQuotes => some "unbalanced_quotes".toList
  | .unknownFields _ => some "unknown_field".toList

end Verdict
end RecordSearch
