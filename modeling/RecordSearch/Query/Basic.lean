import RecordSearch.Named
import RecordSearch.Text.Blank

/-! What a query asks for: values of fields, comparisons of dates, and free text. The connectives
that stood between the clauses are kept as well; they never change what is found. -/
namespace RecordSearch

inductive Value where
  | single (text : Text)
  | list (items : List Text)
  deriving DecidableEq, Repr

/-- A comparison of a record's date with a date that is still text. -/
structure DateFilter where
  field : Text
  operator : Text
  value : Text
  deriving DecidableEq, Repr

inductive Connective where
  | and
  | or
  | not
  deriving DecidableEq, Repr

namespace Connective

def all : List Connective := [.and, .or, .not]

def name : Connective → Text
  | .and => "AND".toList
  | .or => "OR".toList
  | .not => "NOT".toList

/-- The connective that a word spells in capitals. -/
def ofName? (word : Text) : Option Connective := all.find? fun connective => connective.name == word

/-- The connective that a word spells in any case. -/
def ofWord? (word : Text) : Option Connective := ofName? (word.map Char.toUpper)

end Connective

/-- A query taken apart. There is no free text rather than an empty one. -/
structure Query where
  /-- The field clauses in the order in which their names first occurred. -/
  fields : Named Value := []
  dateFilters : List DateFilter := []
  connectives : List Text := []
  fullText : Option Text := none
  deriving DecidableEq, Repr

namespace Query

def freeText? (query : Query) : Option Text := query.fullText.filter fun text => !text.isEmpty

def isEmpty (query : Query) : Bool :=
  query.fields.isEmpty && query.dateFilters.isEmpty && query.freeText?.isNone

end Query

def dateFields : List Text := ["created".toList, "updated".toList]

def isOperatorChar (c : Char) : Bool := c == '>' || c == '<' || c == '=' || c == '!'

end RecordSearch
