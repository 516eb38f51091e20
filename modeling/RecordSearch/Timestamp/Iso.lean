import RecordSearch.Timestamp.Basic
import RecordSearch.Text.Blank

/-! Timestamps in the forms of ISO 8601: a date with or without hyphens, by month and day or by
week, and behind any one character a time of day with or without colons, a fraction and an offset.
The reader is lenient in places, and the doc comments say where. -/
namespace RecordSearch
namespace Iso

def number? : (count : Nat) → (value : Nat) → Text → Option (Nat × Text)
  | 0, value, text => some (value, text)
  | count + 1, value, c :: rest =>
    (Text.digit? c).bind fun digit => number? count (10 * value + digit) rest
  | _ + 1, _, [] => none

def digitAt (text : Text) (place : Nat) : Bool := (text[place]?.bind Text.digit?).isSome

/-- How many characters of a text the date takes. A date by week may be followed by a day or by the
character before the time: with hyphens, `-` and two digits begin a time; without, an odd number of
digits behind the week makes the first of them the day. -/
def dateLength (text : Text) : Nat :=
  if text.length == 7 then 7
  else if text[4]? == some '-' then
    if text[5]? == some 'W' then
      if text[8]? == some '-' then (if digitAt text 10 then 8 else 10) else 8
    else 10
  else if text[4]? == some 'W' then
    let past := 7 + ((text.drop 7).takeWhile fun c => (Text.digit? c).isSome).length
    if past < 9 then past else if past % 2 == 0 then 7 else 8
  else 8

/-- Takes a hyphen away where the date has hyphens. -/
def hyphen? (hyphens : Bool) (text : Text) : Option Text :=
  if hyphens then (match text with | '-' :: rest => some rest | _ => none) else some text

def date? (text : Text) : Option Date := do
  let (year, behind) ← number? 4 0 text
  let hyphens := behind.head? == some '-'
  let behind := if hyphens then behind.drop 1 else behind
  if behind.head? == some 'W' then
    let (week, rest) ← number? 2 0 (behind.drop 1)
    if rest.isEmpty then Date.ofWeek? year week 1
    else
      let (day, _) ← number? 1 0 (← hyphen? hyphens rest)
      Date.ofWeek? year week day
  else
    let (month, rest) ← number? 2 0 behind
    let (day, _) ← number? 2 0 (← hyphen? hyphens rest)
    let date : Date := ⟨year, month, day⟩
    if date.isValid then some date else none

structure Reading where
  numbers : List Nat
  micro : Nat
  rest : Text

/-- The time of day, with zero for what is missing. -/
def Reading.clock (reading : Reading) : Clock :=
  ⟨reading.numbers.getD 0 0, reading.numbers.getD 1 0, reading.numbers.getD 2 0, reading.micro⟩

/-- A text ends where it has no more characters, and at the null character. -/
def ends (text : Text) : Bool := text.head?.all (· == '\x00')

/-- A fraction of a second: its first six digits count, and those behind them are passed over. -/
def fraction? (text : Text) : Option Reading := do
  let count := min 6 text.length
  let (value, rest) ← number? count 0 text
  return ⟨[], value * Nat.pow 10 (6 - count), rest.dropWhile fun c => (Text.digit? c).isSome⟩

/-- At most `count` numbers of two digits, and a fraction. The first number decides whether colons
stand between them; a point or a comma begins the fraction behind any number, and anything does
behind the last. A single ASCII character behind a number is left alone, whatever it is. -/
def time? : (count : Nat) → (colons : Option Bool) → Text → Option Reading
  | 0, _, text => fraction? text
  | count + 1, colons, text => do
    let (value, behind) ← number? 2 0 text
    let reading ← match behind with
      | c :: d :: rest =>
        let colons := colons.getD (c == ':')
        if colons && c == ':' then time? count (some colons) (d :: rest)
        else if c == '.' || c == ',' then fraction? (d :: rest)
        else if colons then none
        else time? count (some colons) behind
      | [c] => if c.toNat < 128 then some ⟨[], 0, behind⟩ else none
      | [] => some ⟨[], 0, behind⟩
    return { reading with numbers := value :: reading.numbers }

def beginsOffset (c : Char) : Bool := c == '+' || c == '-' || c == 'Z'

/-- An offset in microseconds. It stays within a day, and less than a second is no offset. -/
def offset? (text : Text) : Option (Option Int) :=
  match text with
  | [] => some none
  | 'Z' :: rest => if ends rest then some (some 0) else none
  | sign :: rest => do
    let reading ← time? 3 none rest
    let clock := reading.clock
    let size : Nat := if clock.seconds = 0 then 0 else clock.micros
    if ends reading.rest ∧ size < microsPerDay then
      some (some (if sign == '-' then -(size : Int) else size))
    else none

/-- A time of day and its offset. What stands between the two is left alone. -/
def timeAndOffset? (text : Text) : Option (Clock × Option Int) := do
  let zone := text.dropWhile fun c => !beginsOffset c
  let reading ← time? 3 none (text.takeWhile fun c => !beginsOffset c)
  if zone.isEmpty && !ends reading.rest then none
  else return (reading.clock, ← offset? zone)

/-- The timestamp that a text writes. A date alone is its midnight. -/
def timestamp? (text : Text) : Option Timestamp :=
  if text.length < 7 then none
  else do
    let date ← date? (text.take (dateLength text))
    match text.drop (dateLength text) with
    | [] => Timestamp.of? date ⟨0, 0, 0, 0⟩ none
    | _ :: rest =>
      let (clock, offset) ← timeAndOffset? rest
      Timestamp.of? date clock offset

end Iso

/-- The instant that a text names, if it names one. Blanks around it are left out. -/
def Instant.ofText? (text : Text) : Except OutOfRange (Option Instant) :=
  match Iso.timestamp? (Text.trim text) with
  | none => .ok none
  | some timestamp => timestamp.toInstant.map some

end RecordSearch
