import RecordSearch.Yaml.Node
import RecordSearch.Yaml.Value

/-! From the nodes of a YAML document to its value, and reading a document as a whole. -/
namespace RecordSearch.Yaml

inductive MomentFault where
  | year (year : Nat)
  | month
  | day
  | hour
  | minute
  | second
  | zone (offset : Int)
  deriving DecidableEq, Repr

inductive Fault where
  | malformed
  | notInt (base : Nat) (text : Text)
  | notFloat (text : Text)
  | notBool (text : Text)
  | notMoment
  | outOfRange (fault : MomentFault)
  deriving DecidableEq, Repr

namespace Fault

def momentText : MomentFault → Text
  | .year year => "year ".toList ++ Text.ofNat year ++ " is out of range".toList
  | .month => "month must be in 1..12".toList
  | .day => "day is out of range for month".toList
  | .hour => "hour must be in 0..23".toList
  | .minute => "minute must be in 0..59".toList
  | .second => "second must be in 0..59".toList
  | .zone offset =>
    "offset must be a timedelta strictly between -timedelta(hours=24) and timedelta(hours=24), not ".toList ++
    Value.quotedDuration offset ++ ['.']

def message : Fault → Text
  | .malformed => "malformed YAML".toList
  | .notInt base text =>
    "invalid literal for int() with base ".toList ++ Text.ofNat base ++ ": ".toList ++
      Text.quoted text
  | .notFloat text => "could not convert string to float: ".toList ++ Text.quoted text
  | .notBool text => Text.quoted text
  | .notMoment => "'NoneType' object has no attribute 'groupdict'".toList
  | .outOfRange fault => momentText fault

end Fault

namespace WrittenMoment

def dateFault? (date : Date) : Option MomentFault :=
  if date.year = 0 then some (.year 0)
  else if date.month = 0 ∨ 12 < date.month then some .month
  else if !date.isValid then some .day
  else none

def clockFault? (clock : Clock) : Option MomentFault :=
  if 24 ≤ clock.hour then some .hour
  else if 60 ≤ clock.minute then some .minute
  else if 60 ≤ clock.second then some .second
  else none

def value (moment : WrittenMoment) : Except Fault Value :=
  match moment.time with
  | none =>
    (dateFault? moment.date).elim (.ok (.date moment.date)) fun fault => .error (.outOfRange fault)
  | some (clock, zone) =>
    if zone.any fun offset => microsPerDay ≤ offset.natAbs then
      .error (.outOfRange (.zone (zone.getD 0)))
    else match dateFault? moment.date, clockFault? clock with
      | some fault, _ | none, some fault => .error (.outOfRange fault)
      | none, none =>
        match Timestamp.of? moment.date clock zone with
        | some stamp => .ok (.moment stamp)
        | none => .error .malformed

end WrittenMoment

namespace Base64

def digit? (c : Char) : Option Nat :=
  let place :=
    "ABCDEFGHIJKLMNOPQRSTUVWXYZabcdefghijklmnopqrstuvwxyz0123456789+/".toList.findIdx (· == c)
  if place < 64 then some place else none

/-- The digits of a text, up to the padding that ends it, when `count` digits and `padding` signs of
padding have been read in a row. Other characters are passed over. -/
def digits : (count padding : Nat) → Text → List Nat
  | _, _, [] => []
  | count, padding, c :: rest =>
    if c == '=' then
      if 2 ≤ count % 4 ∧ 4 ≤ count % 4 + padding + 1 then []
      else digits count (if 2 ≤ count % 4 then padding + 1 else padding) rest
    else match digit? c with
      | some digit => digit :: digits (count + 1) 0 rest
      | none => digits count padding rest

/-- The bytes that digits write, four digits for three bytes. -/
def bytes : List Nat → Bytes
  | a :: b :: c :: d :: rest =>
    let n := ((a * 64 + b) * 64 + c) * 64 + d
    UInt8.ofNat (n / 65536) :: UInt8.ofNat (n / 256 % 256) :: UInt8.ofNat (n % 256) :: bytes rest
  | [a, b, c] =>
    let n := ((a * 64 + b) * 64 + c) / 4
    [UInt8.ofNat (n / 256), UInt8.ofNat (n % 256)]
  | [a, b] => [UInt8.ofNat ((a * 64 + b) / 16)]
  | _ => []

/-- Whether padding ends a text whose digits do not fill a group of four. -/
def isPadded : (count padding : Nat) → Text → Bool
  | count, _, [] => count % 4 == 0
  | count, padding, c :: rest =>
    if c == '=' then
      2 ≤ count % 4 && 4 ≤ count % 4 + padding + 1 ||
        isPadded count (if 2 ≤ count % 4 then padding + 1 else padding) rest
    else if (digit? c).isSome then isPadded (count + 1) 0 rest
    else isPadded count padding rest

def decode? (text : Text) : Option Bytes :=
  if text.all (fun c => c.toNat < 128) && isPadded 0 0 text then some (bytes (digits 0 0 text))
  else none

end Base64

namespace Value

def ofScalar (tag : Tag) (written : Text) : Except Fault Value :=
  let digits := written.filter (· != '_')
  let small := written.map Char.toLower
  match tag with
  | .null => .ok .null
  | .bool =>
    if Tag.yesWords.contains small then .ok (.bool true)
    else if Tag.noWords.contains small then .ok (.bool false)
    else .error (.notBool small)
  | .int =>
    match Number.int? written with
    | some value => .ok (.int value)
    | none =>
      let (base, body) := Number.baseOf (Number.unsigned digits).2
      .error (.notInt base body)
  | .float =>
    match Number.float? written with
    | some value => .ok (.float value)
    | none => .error (.notFloat (digits.map Char.toLower))
  | .bytes => (Base64.decode? written).elim (.error .malformed) fun value => .ok (.bytes value)
  | .moment =>
    match WrittenMoment.ofText? written with
    | some stated => stated.value
    | none => .error .notMoment
  | .text => .ok (.text written)
  | _ => .error .malformed

/-- A value under a name that is not yet a text. -/
abbrev Member := Key × Text × Value

/-- Puts a value under a name. A name that has one already keeps its place and its text. -/
def setMember (member : Member) : List Member → List Member
  | [] => [member]
  | other :: rest =>
    if other.1 = member.1 then (other.1, other.2.1, member.2.2) :: rest
    else other :: setMember member rest

/-- The members of a mapping, each name once, with the name as a text. -/
def membersOf (members : List Member) : List (Text × Value) :=
  Named.ofList ((members.foldl (fun set member => setMember member set) []).map Prod.snd)

/-- The member with a name and a value; what has parts is no name. -/
def member (name value : Value) : Except Fault Member :=
  match name.key? with
  | some key => .ok (key, name.toText, value)
  | none => .error .malformed

/-- The members with the names alone, which is how a set is written. -/
def setOf (members : List Member) : Value := .set ((membersOf members).map Prod.fst)

mutual
/-- The value of a node. The members that a mapping takes over come before its own. -/
def ofNode : Node → Except Fault Value
  | .scalar tag written => ofScalar tag written
  | .sequence tag items => do
    match tag with
    | .list => return .list (← ofNodes items)
    | .ordered | .pairs => return .list (← ofPairs items)
    | _ => .error .malformed
  | .mapping tag members => do
    match tag with
    | .map => return .map (membersOf ((← takenOver members) ++ (← ownMembers members)))
    | .set => return setOf ((← takenOver members) ++ (← ownMembers members))
    | _ => .error .malformed

def ofNodes : List Node → Except Fault (List Value)
  | [] => .ok []
  | item :: rest => do
    let first ← ofNode item
    return first :: (← ofNodes rest)

/-- The values of mappings with one member each, as pairs. -/
def ofPairs : List Node → Except Fault (List Value)
  | [] => .ok []
  | .mapping _ [(name, node)] :: rest => do
    let first ← ofNode name
    let second ← ofNode node
    return .list [first, second] :: (← ofPairs rest)
  | _ :: _ => .error .malformed

def ownMembers : List (Node × Node) → Except Fault (List Member)
  | [] => .ok []
  | (.scalar .merge _, _) :: rest => ownMembers rest
  | (.scalar .value written, node) :: rest => do
    let first ← member (.text written) (← ofNode node)
    return first :: (← ownMembers rest)
  | (name, node) :: rest => do
    let first ← member (← ofNode name) (← ofNode node)
    return first :: (← ownMembers rest)

def takenOver : List (Node × Node) → Except Fault (List Member)
  | [] => .ok []
  | (.scalar .merge _, .mapping _ members) :: rest => do
    let taken ← takenOver members
    let own ← ownMembers members
    return taken ++ own ++ (← takenOver rest)
  | (.scalar .merge _, .sequence _ items) :: rest => do
    let taken ← takenFrom items
    return taken ++ (← takenOver rest)
  | (.scalar .merge _, _) :: _ => .error .malformed
  | _ :: rest => takenOver rest

/-- The members of several mappings, those of the first mapping last. -/
def takenFrom : List Node → Except Fault (List Member)
  | [] => .ok []
  | .mapping _ members :: rest => do
    let taken ← takenOver members
    let own ← ownMembers members
    return (← takenFrom rest) ++ taken ++ own
  | _ :: _ => .error .malformed
end

end Value

/-- The value of the only document in a text. A text without a document is nothing. -/
def read (text : Text) : Except Fault Value :=
  match (Token.scan text).bind Node.ofTokens? with
  | some node => Value.ofNode node
  | none => .error .malformed

end RecordSearch.Yaml
