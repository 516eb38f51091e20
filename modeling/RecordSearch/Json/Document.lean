import RecordSearch.Decimal.Binary

/-! JSON documents. Where the text of a document stops being JSON, the document has a leaf that says
so and holds nothing of what follows, so that a reader of the document meets the problems of its
text in their order. -/
namespace RecordSearch.Json

/-- A number as it is written: its digits without the point, and the place of the last one. -/
structure Number where
  negative : Bool
  digits : Nat
  /-- The place of the last digit, for a number with a point or an exponent. -/
  scale : Option Int
  deriving DecidableEq, Repr

def Number.int? (number : Number) : Option Int :=
  if number.scale.isNone then
    some (if number.negative then -(number.digits : Int) else number.digits)
  else none

def Number.toBinary (number : Number) : Binary :=
  ⟨number.negative, Magnitude.ofDecimal number.digits (number.scale.getD 0)⟩

/-- Whether the number is not too great for a floating-point number. Whole numbers have no bound. -/
def Number.isInRange (number : Number) : Bool :=
  number.scale.isNone || number.toBinary.magnitude != .infinite

/-- A document, whose objects keep all their members in the order of the text. -/
inductive Document where
  | null
  | bool (value : Bool)
  | number (value : Number)
  | string (text : Text)
  | array (items : List Document)
  | object (members : List (Text × Document))
  | malformed
  deriving Repr

namespace Document

def kind : Document → Text
  | .null => "null".toList
  | .bool _ => "bool".toList
  | .number value => if value.scale.isNone then "int".toList else "float".toList
  | .string _ => "str".toList
  | .array _ => "array".toList
  | .object _ => "object".toList
  | .malformed => []

mutual
/-- Whether the document was read without meeting anything that is not JSON. -/
def isWhole : Document → Bool
  | .malformed => false
  | .array items => allWhole items
  | .object members => membersWhole members
  | _ => true

def allWhole : List Document → Bool
  | [] => true
  | item :: rest => item.isWhole && allWhole rest

def membersWhole : List (Text × Document) → Bool
  | [] => true
  | (_, value) :: rest => value.isWhole && membersWhole rest
end

mutual
def isInRange : Document → Bool
  | .number value => value.isInRange
  | .array items => allInRange items
  | .object members => membersInRange members
  | _ => true

def allInRange : List Document → Bool
  | [] => true
  | item :: rest => item.isInRange && allInRange rest

def membersInRange : List (Text × Document) → Bool
  | [] => true
  | (_, value) :: rest => value.isInRange && membersInRange rest
end

/-- The last member of an object under a name. -/
def member? (name : Text) : Document → Option Document
  | .object members => (members.reverse.find? (·.1 == name)).map Prod.snd
  | _ => none

end Document
end RecordSearch.Json
