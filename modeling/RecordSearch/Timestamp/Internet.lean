import RecordSearch.Timestamp.Iso

/-! Timestamps in the form of internet messages (RFC 3339): a full date, a full time of day, and the
offset, which may be missing. -/
namespace RecordSearch.Internet

/-- The microseconds of a fraction, a half rounded up, so that they may fill a second. -/
def micros (digits : Text) : Nat :=
  let six := digits.take 6
  let value :=
    (six ++ List.replicate (6 - six.length) '0').foldl (fun n c => 10 * n + (c.toNat - '0'.toNat)) 0
  if (digits[6]?.bind Text.digit?).any (5 ≤ ·) then value + 1 else value

/-- The fraction behind the seconds, and the text behind it; none where a point stands alone. -/
def fraction? (text : Text) : Option (Nat × Text) :=
  match text with
  | '.' :: rest =>
    let digits := rest.takeWhile Char.isDigit
    if digits.isEmpty then none else some (micros digits, rest.dropWhile Char.isDigit)
  | _ => some (0, text)

/-- The offset in microseconds: at most 23 hours and 59 minutes. -/
def offset? (text : Text) : Option (Option Int) :=
  match text with
  | [] => some none
  | ['Z'] | ['z'] => some (some 0)
  | sign :: rest =>
    if sign == '+' || sign == '-' then do
      let (hour, behind) ← Iso.number? 2 0 rest
      let (minute, rest) ←
        Iso.number? 2 0 (if behind.head? == some ':' then behind.drop 1 else behind)
      if rest.isEmpty ∧ hour < 24 ∧ minute < 60 then
        let size := (hour * 60 + minute) * 60 * microsPerSecond
        return some (if sign == '-' then -(size : Int) else size)
      else none
    else none

def numberBehind? (c : Char) (text : Text) : Option (Nat × Text) :=
  match text with
  | d :: rest => if c == d then Iso.number? 2 0 rest else none
  | [] => none

def timestamp? (text : Text) : Option Timestamp := do
  let (year, rest) ← Iso.number? 4 0 text
  let (month, rest) ← numberBehind? '-' rest
  let (day, rest) ← numberBehind? '-' rest
  let separator ← rest.head?
  if separator == 'T' || separator == 't' || separator == ' ' then
    let (hour, rest) ← Iso.number? 2 0 (rest.drop 1)
    let (minute, rest) ← numberBehind? ':' rest
    let (second, rest) ← numberBehind? ':' rest
    let (micro, rest) ← fraction? rest
    let offset ← offset? rest
    let date : Date := ⟨year, month, day⟩
    let clock : Clock := ⟨hour, minute, second, 0⟩
    let total := date.number * microsPerDay + clock.micros + micro
    if h : total < microsOfAllYears then
      if date.isValid && clock.isValid then some ⟨total, h, offset⟩ else none
    else none
  else none

end RecordSearch.Internet
