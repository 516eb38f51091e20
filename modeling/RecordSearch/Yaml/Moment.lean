import RecordSearch.Json.Token
import RecordSearch.Timestamp.Basic
import RecordSearch.Yaml.Cursor

/-! Dates and times in YAML: a date, and behind it a time of day with a fraction and a distance from
universal time. -/
namespace RecordSearch.Yaml

/-- A date as it is written, and the time of day with its zone behind it. -/
structure WrittenMoment where
  date : Date
  /-- Whether month and day have two digits. -/
  padded : Bool
  time : Option (Clock × Option Int)
  deriving DecidableEq, Repr

namespace WrittenMoment

def fixed? (count : Nat) (text : Text) : Option (Nat × Text) :=
  let digits := text.take count
  if digits.length = count ∧ digits.all Char.isDigit then
    some (Json.digitsValue digits, text.drop count)
  else none

def short? (text : Text) : Option (Nat × Text) :=
  match fixed? 2 text with
  | some result => some result
  | none => fixed? 1 text

def behind? (c : Char) (text : Text) : Option Text :=
  match text with
  | d :: rest => if c == d then some rest else none
  | [] => none

/-- The distance from universal time that a text writes, in microseconds; no text writes none. -/
def zone? (text : Text) : Option (Option Int) :=
  if text.isEmpty then some none
  else match text.dropWhile isSpace with
    | ['Z'] => some (some 0)
    | sign :: rest => do
      let (hours, behind) ← short? rest
      let minutes ← match behind with
        | [] => some 0
        | ':' :: rest =>
          match fixed? 2 rest with
          | some (minutes, []) => some minutes
          | _ => none
        | _ => none
      let size : Int := (hours * 60 + minutes) * 60 * microsPerSecond
      if sign == '-' then some (some (-size)) else if sign == '+' then some (some size) else none
    | [] => none

/-- The time of day that a text writes, with its zone. Six digits of a fraction count. -/
def time? (text : Text) : Option (Clock × Option Int) := do
  let (hour, rest) ← short? text
  let (minute, rest) ← fixed? 2 (← behind? ':' rest)
  let (second, rest) ← fixed? 2 (← behind? ':' rest)
  let behind := rest.drop 1
  let (fraction, rest) :=
    if rest.head? == some '.' then (behind.takeWhile Char.isDigit, behind.dropWhile Char.isDigit)
    else ([], rest)
  let micro := Json.digitsValue ((fraction ++ List.replicate 6 '0').take 6)
  return (⟨hour, minute, second, micro⟩, ← zone? rest)

def ofText? (text : Text) : Option WrittenMoment := do
  let (year, rest) ← fixed? 4 text
  let rest ← behind? '-' rest
  let (month, monthRest) ← short? rest
  let dayText ← behind? '-' monthRest
  let (day, dayRest) ← short? dayText
  let padded := rest.length = monthRest.length + 2 ∧ dayText.length = dayRest.length + 2
  let date : Date := ⟨year, month, day⟩
  match dayRest with
  | [] => some ⟨date, padded, none⟩
  | c :: more =>
    if c == 'T' || c == 't' then (time? more).map fun time => ⟨date, padded, some time⟩
    else if isSpace c then
      (time? (more.dropWhile isSpace)).map fun time => ⟨date, padded, some time⟩
    else none

/-- Whether a plain scalar is a date or a time. A date alone has two digits for month and day. -/
def isMoment (text : Text) : Bool :=
  (ofText? text).any fun moment => moment.padded || moment.time.isSome

end WrittenMoment
end RecordSearch.Yaml
