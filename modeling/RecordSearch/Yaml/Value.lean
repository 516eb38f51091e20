import RecordSearch.Decimal.Binary
import RecordSearch.Named
import RecordSearch.Text.Utf8
import RecordSearch.Timestamp.Basic

/-! The values that a YAML document states. The names of a mapping are texts, whatever they were
before. -/
namespace RecordSearch.Yaml

inductive Value where
  | null
  | bool (value : Bool)
  | int (value : Int)
  | float (value : Binary)
  | text (value : Text)
  | date (value : Date)
  | moment (value : Timestamp)
  | bytes (value : Bytes)
  | list (items : List Value)
  | set (names : List Text)
  | map (members : List (Text × Value))
  deriving Inhabited

namespace Value

def kind : Value → Text
  | .null => "NoneType".toList
  | .bool _ => "bool".toList
  | .int _ => "int".toList
  | .float _ => "float".toList
  | .text _ => "str".toList
  | .date _ => "date".toList
  | .moment _ => "datetime".toList
  | .bytes _ => "bytes".toList
  | .list _ => "list".toList
  | .set _ => "set".toList
  | .map _ => "dict".toList

/-- Whether a value counts as nothing: no value, a no, a zero, or something without parts. -/
def isNothing : Value → Bool
  | .null => true
  | .bool value => !value
  | .int value => value == 0
  | .float value => value.isZero
  | .text value => value.isEmpty
  | .date _ | .moment _ => false
  | .bytes value => value.isEmpty
  | .list items => items.isEmpty
  | .set names => names.isEmpty
  | .map members => members.isEmpty

def boolText (value : Bool) : Text := if value then "True".toList else "False".toList

def dateText (date : Date) : Text :=
  Timestamp.digits 4 date.year ++ '-' :: Timestamp.digits 2 date.month ++ '-' ::
    Timestamp.digits 2 date.day

def numbersText (numbers : List Nat) : Text := Text.join ", ".toList (numbers.map Text.ofNat)

def quotedDate (date : Date) : Text :=
  "datetime.date(".toList ++ numbersText [date.year, date.month, date.day] ++ [')']

def quotedDuration (micros : Int) : Text :=
  let seconds := micros / microsPerSecond
  let days := seconds / 86400
  let parts := (if days = 0 then [] else ["days=".toList ++ Text.ofInt days]) ++
    (if seconds % 86400 = 0 then [] else ["seconds=".toList ++ Text.ofInt (seconds % 86400)])
  "datetime.timedelta(".toList ++ Text.join ", ".toList parts ++ [')']

def quotedOffset (offset : Int) : Text :=
  if offset = 0 then "datetime.timezone.utc".toList
  else "datetime.timezone(".toList ++ quotedDuration offset ++ [')']

/-- A timestamp as it is quoted. Seconds and microseconds are left out from the right while they are
zero. -/
def quotedMoment (moment : Timestamp) : Text :=
  let date := moment.date
  let clock := moment.clock
  let small :=
    if clock.micro ≠ 0 then [clock.second, clock.micro]
    else if clock.second ≠ 0 then [clock.second] else []
  let zone := match moment.offset with
    | none => []
    | some offset => ", tzinfo=".toList ++ quotedOffset offset
  "datetime.datetime(".toList ++
    numbersText ([date.year, date.month, date.day, clock.hour, clock.minute] ++ small) ++ zone ++
    [')']

def quotedByte (byte : UInt8) : Text :=
  let n := byte.toNat
  if 32 ≤ n ∧ n < 127 ∨ n = 9 ∨ n = 10 ∨ n = 13 then Text.quoteChar singleQuote (Char.ofNat n)
  else '\\' :: 'x' :: Text.hex 2 n

mutual
def quoted : Value → Text
  | .null => "None".toList
  | .bool value => boolText value
  | .int value => Text.ofInt value
  | .float value => value.toText
  | .text value => Text.quoted value
  | .date value => quotedDate value
  | .moment value => quotedMoment value
  | .bytes value => 'b' :: singleQuote :: value.flatMap quotedByte ++ [singleQuote]
  | .list items => '[' :: Text.join ", ".toList (quotedItems items) ++ [']']
  | .set names =>
    if names.isEmpty then "set()".toList
    else '\x7b' :: Text.join ", ".toList (names.map Text.quoted) ++ ['\x7d']
  | .map members => '\x7b' :: Text.join ", ".toList (quotedMembers members) ++ ['\x7d']

def quotedItems : List Value → List Text
  | [] => []
  | item :: rest => item.quoted :: quotedItems rest

def quotedMembers : List (Text × Value) → List Text
  | [] => []
  | (name, value) :: rest => (Text.quoted name ++ ": ".toList ++ value.quoted) :: quotedMembers rest
end

def toText : Value → Text
  | .text value => value
  | .date value => dateText value
  | .moment value => value.toText.map fun c => if c == 'T' then ' ' else c
  | value => value.quoted

/-- The word for the kind of a value, with the place that the kind comes from. -/
def fullKind (value : Value) : Text :=
  match value with
  | .date _ | .moment _ => "datetime.".toList ++ value.kind
  | _ => value.kind

/-- What makes two values the same name in a mapping. -/
inductive Key where
  | null
  | whole (value : Int)
  | fraction (value : Binary)
  | text (value : Text)
  | date (value : Date)
  | moment (value : Timestamp)
  | bytes (value : Bytes)
  deriving DecidableEq

def whole? (number : Binary) : Option Int :=
  match number.magnitude with
  | .finite mantissa exponent =>
    let (up, down) := Magnitude.ratioPow 2 exponent
    if mantissa * up % down = 0 then
      let size : Int := (mantissa * up / down : Nat)
      some (if number.negative then -size else size)
    else none
  | _ => none

/-- What a value is as a name. Truth values and whole floating-point numbers are the numbers that
they equal; what has parts is no name. -/
def key? : Value → Option Key
  | .null => some .null
  | .bool value => some (.whole (if value then 1 else 0))
  | .int value => some (.whole value)
  | .float value => some ((whole? value).elim (.fraction value) .whole)
  | .text value => some (.text value)
  | .date value => some (.date value)
  | .moment value => some (.moment value)
  | .bytes value => some (.bytes value)
  | .list _ | .set _ | .map _ => none

end Value
end RecordSearch.Yaml
