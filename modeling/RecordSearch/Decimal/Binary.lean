import RecordSearch.Text.Basic

/-! Binary floating-point numbers of 64 bits: the nearest to a decimal number, and the shortest
decimal text that reads back as the number. All arithmetic is exact. -/
namespace RecordSearch

/-- The size of a floating-point number. A finite one is `mantissa · 2 ^ exponent`, with a mantissa
of 53 bits or, at the least exponent, fewer. -/
inductive Magnitude where
  | finite (mantissa : Nat) (exponent : Int)
  | infinite
  | undefined
  deriving DecidableEq, Repr

structure Binary where
  negative : Bool
  magnitude : Magnitude
  deriving DecidableEq, Repr

namespace Magnitude

/-- The quotient rounded to the nearest number, a half to the even neighbour. -/
def roundDiv (numerator denominator : Nat) : Nat :=
  let quotient := numerator / denominator
  let twice := 2 * (numerator % denominator)
  if twice < denominator then quotient
  else if twice = denominator then quotient + quotient % 2
  else quotient + 1

/-- A positive and a negative power of a base, as numerator and denominator. -/
def ratioPow (base : Nat) (exponent : Int) : Nat × Nat :=
  if 0 ≤ exponent then (base.pow exponent.toNat, 1) else (1, base.pow (-exponent).toNat)

def roundAt (numerator denominator : Nat) (exponent : Int) : Nat :=
  let (up, down) := ratioPow 2 exponent
  roundDiv (numerator * down) (denominator * up)

def leastExponent : Int := -1074

def greatestExponent : Int := 971

def ofRatio (numerator denominator : Nat) : Magnitude :=
  let guess := max leastExponent ((Nat.log2 numerator : Int) - (Nat.log2 denominator : Int) - 53)
  let exponent := if roundAt numerator denominator guess < Nat.pow 2 53 then guess
    else if roundAt numerator denominator (guess + 1) < Nat.pow 2 53 then guess + 1 else guess + 2
  let mantissa := roundAt numerator denominator exponent
  if greatestExponent < exponent then .infinite else .finite mantissa exponent

/-- The nearest magnitude to `digits · 10 ^ exponent`. Beyond four hundred places it is decided by
the place of the first digit alone. -/
def ofDecimal (digits : Nat) (exponent : Int) : Magnitude :=
  let places := (Text.ofNat digits).length
  if digits = 0 then .finite 0 leastExponent
  else if 400 < (places : Int) + exponent then .infinite
  else if (places : Int) + exponent < -400 then .finite 0 leastExponent
  else
    let (up, down) := ratioPow 10 exponent
    ofRatio (digits * up) down

/-- The decimal with `places` digits next to a magnitude that reads back as it, if there is one. -/
def decimalAt? (mantissa : Nat) (exponent : Int) (scale : Int) (places : Nat) :
    Option (Nat × Int) :=
  let (up, down) := ratioPow 2 exponent
  let step := scale - places
  let (tenUp, tenDown) := ratioPow 10 step
  let numerator := mantissa * up * tenDown
  let denominator := down * tenUp
  let below := numerator / denominator
  let above := below + 1
  let same (digits : Nat) : Bool := ofDecimal digits step == .finite mantissa exponent
  let nearer :=
    if 2 * (numerator % denominator) < denominator ∨
      (2 * (numerator % denominator) = denominator ∧ below % 2 = 0) then [below, above]
    else [above, below]
  (nearer.find? same).map fun digits => (digits, step)

/-- The number of decimal places before the point of a positive quotient; below one tenth it is
negative. -/
def decimalScale (numerator denominator : Nat) : Int :=
  if denominator ≤ numerator then (Text.ofNat (numerator / denominator)).length
  else 1 - ((Text.ofNat ((denominator - 1) / numerator)).length : Int)

/-- The shortest digits that read back as a finite magnitude, and the place of their last one. -/
def shortest (mantissa : Nat) (exponent : Int) : Nat × Int :=
  if mantissa = 0 then (0, 0)
  else
    let (up, down) := ratioPow 2 exponent
    let scale := decimalScale (mantissa * up) down
    ((List.range 17).findSome? fun places =>
      decimalAt? mantissa exponent scale (places + 1)).getD (0, 0)

end Magnitude

/-- Digits in positional notation when the first one stands between four places behind the point and
sixteen before it, and with an exponent of two places or more otherwise. -/
def decimalText (digits : Nat) (last : Int) : Text :=
  let all := Text.ofNat digits
  let written := Text.dropWhileEnd (· == '0') all
  let point : Int := all.length + last
  if digits = 0 then "0.0".toList
  else if -4 < point ∧ point ≤ 16 then
    if point ≤ 0 then "0.".toList ++ List.replicate (-point).toNat '0' ++ written
    else
      let whole := written.take point.toNat
      let behind := written.drop point.toNat
      whole ++ List.replicate (point.toNat - whole.length) '0' ++ '.' ::
        (if behind.isEmpty then ['0'] else behind)
  else
    let exponent := point - 1
    let mantissa := match written with
      | [] => []
      | [c] => [c]
      | c :: rest => c :: '.' :: rest
    mantissa ++ 'e' :: (if exponent < 0 then '-' else '+') ::
      Text.padLeft '0' 2 (Text.ofNat exponent.natAbs)

namespace Binary

def toText (number : Binary) : Text :=
  let sign : Text := if number.negative then ['-'] else []
  match number.magnitude with
  | .finite mantissa exponent =>
    let (digits, last) := Magnitude.shortest mantissa exponent
    sign ++ decimalText digits last
  | .infinite => sign ++ "inf".toList
  | .undefined => "nan".toList

def isZero (number : Binary) : Bool :=
  match number.magnitude with
  | .finite mantissa _ => mantissa == 0
  | _ => false

end Binary
end RecordSearch
