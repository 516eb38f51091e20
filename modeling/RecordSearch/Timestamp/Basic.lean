import RecordSearch.Calendar
import RecordSearch.Text.Basic

/-! Points in time. A timestamp is what a clock shows, with the distance of the clock from universal
time if it is known; an instant is a moment of universal time. Both count microseconds from the
beginning of the year 1 and end with the year 9999. -/
namespace RecordSearch

def microsPerSecond : Nat := 1000000

def microsPerDay : Nat := 86400 * microsPerSecond

/-- The microseconds from the beginning of the year 1 to the end of the year 9999. -/
def microsOfAllYears : Nat := 3652059 * microsPerDay

/-- A moment of universal time in the years 1 to 9999. -/
structure Instant where
  micros : Nat
  inYears : micros < microsOfAllYears
  deriving DecidableEq

/-- What a clock shows in the years 1 to 9999, and by how many microseconds the clock is ahead of
universal time. -/
structure Timestamp where
  micros : Nat
  inYears : micros < microsOfAllYears
  offset : Option Int
  deriving DecidableEq

structure Clock where
  hour : Nat
  minute : Nat
  second : Nat
  micro : Nat
  deriving DecidableEq, Repr

namespace Clock

def isValid (clock : Clock) : Bool :=
  clock.hour < 24 && clock.minute < 60 && clock.second < 60 && clock.micro < 1000000

def seconds (clock : Clock) : Nat := (clock.hour * 60 + clock.minute) * 60 + clock.second

def micros (clock : Clock) : Nat := clock.seconds * microsPerSecond + clock.micro

def ofMicros (micros : Nat) : Clock :=
  let seconds := micros / microsPerSecond
  ⟨seconds / 3600, seconds / 60 % 60, seconds % 60, micros % microsPerSecond⟩

end Clock

/-- The conversion to universal time leaves the years 1 to 9999. -/
structure OutOfRange where
  deriving DecidableEq, Repr

namespace Instant

/-- The day that holds the instant, counted from the first day of the year 1. -/
def day (instant : Instant) : Nat := instant.micros / microsPerDay

def date (instant : Instant) : Date := Date.ofNumber instant.day

/-- The instant that is so many microseconds after the beginning of the year 1. -/
def ofMicros? (micros : Int) : Except OutOfRange Instant :=
  if h : micros.toNat < microsOfAllYears then
    if 0 ≤ micros then .ok ⟨micros.toNat, h⟩ else .error {}
  else .error {}

def toTimestamp (instant : Instant) : Timestamp := ⟨instant.micros, instant.inYears, some 0⟩

end Instant

namespace Timestamp

def of? (date : Date) (clock : Clock) (offset : Option Int) : Option Timestamp :=
  let micros := date.number * microsPerDay + clock.micros
  if h : micros < microsOfAllYears then
    if date.isValid && clock.isValid then some ⟨micros, h, offset⟩ else none
  else none

/-- The moment of universal time. A clock without a known distance shows universal time. -/
def toInstant (timestamp : Timestamp) : Except OutOfRange Instant :=
  Instant.ofMicros? ((timestamp.micros : Int) - timestamp.offset.getD 0)

def date (timestamp : Timestamp) : Date := Date.ofNumber (timestamp.micros / microsPerDay)

def clock (timestamp : Timestamp) : Clock := Clock.ofMicros (timestamp.micros % microsPerDay)

def digits (width n : Nat) : Text := Text.padLeft '0' width (Text.ofNat n)

def fractionText (micro : Nat) : Text := if micro = 0 then [] else '.' :: digits 6 micro

/-- A distance from universal time: sign, hours and minutes, and seconds only where there are
any. -/
def offsetText (offset : Int) : Text :=
  let clock := Clock.ofMicros offset.natAbs
  let seconds :=
    if clock.second = 0 ∧ clock.micro = 0 then []
    else ':' :: digits 2 clock.second ++ fractionText clock.micro
  (if offset < 0 then '-' else '+') :: digits 2 clock.hour ++ ':' ::
    digits 2 clock.minute ++ seconds

/-- The timestamp as text: date, time of day, and the distance from universal time if it is
known. -/
def toText (timestamp : Timestamp) : Text :=
  let date := timestamp.date
  let clock := timestamp.clock
  digits 4 date.year ++ '-' :: digits 2 date.month ++ '-' :: digits 2 date.day ++
    'T' :: digits 2 clock.hour ++ ':' :: digits 2 clock.minute ++ ':' :: digits 2 clock.second ++
    fractionText clock.micro ++ (timestamp.offset.map offsetText).getD []

end Timestamp
end RecordSearch
