import RecordSearch.Decimal.Binary
import RecordSearch.Json.Token

/-! Numbers in YAML. A plain scalar is a number if it has one of the forms here; a scalar that is
said to be one is read more freely. Underscores between the digits say nothing, and colons separate
places of sixty. -/
namespace RecordSearch.Yaml.Number

def unsigned (text : Text) : Bool × Text :=
  match text with
  | '-' :: rest => (true, rest)
  | '+' :: rest => (false, rest)
  | _ => (false, text)

def isDigitOrGap (c : Char) : Bool := c.isDigit || c == '_'

def isRun (p : Char → Bool) (text : Text) : Bool := !text.isEmpty && text.all p

/-- Whether a text is a number below sixty in one or two digits. -/
def isSixtieth : Text → Bool
  | [c] => c.isDigit
  | [c, d] => '0' ≤ c && c ≤ '5' && d.isDigit
  | _ => false

def isUnsignedInt (text : Text) : Bool :=
  match text with
  | ['0'] => true
  | '0' :: 'b' :: digits => isRun (fun c => c == '0' || c == '1' || c == '_') digits
  | '0' :: 'x' :: digits => isRun (fun c => (Json.hexDigit? c).isSome || c == '_') digits
  | '0' :: digits => isRun (fun c => ('0' ≤ c && c ≤ '7') || c == '_') digits
  | first :: _ =>
    match Text.splitAt (· == ':') text with
    | whole :: places => first.isDigit && whole.all isDigitOrGap && places.all isSixtieth
    | [] => false
  | [] => false

def isInt (text : Text) : Bool := isUnsignedInt (unsigned text).2

def isExponent (text : Text) : Bool :=
  match text with
  | [] => true
  | c :: sign :: digits =>
    (c == 'e' || c == 'E') && (sign == '+' || sign == '-') && isRun Char.isDigit digits
  | _ => false

def beginsWithDigit (text : Text) : Bool := text.head?.any Char.isDigit && text.all isDigitOrGap

def isUnsignedFloat (text : Text) : Bool :=
  let whole := text.takeWhile (· != '.')
  let behind := (text.dropWhile (· != '.')).drop 1
  text.contains '.' &&
    match Text.splitAt (· == ':') whole with
    | [_] => beginsWithDigit whole && isExponent (behind.dropWhile isDigitOrGap)
    | first :: places => beginsWithDigit first && places.all isSixtieth && behind.all isDigitOrGap
    | [] => false

def isFraction (text : Text) : Bool :=
  match text with
  | '.' :: first :: rest => first.isDigit && isExponent (rest.dropWhile isDigitOrGap)
  | _ => false

def infinities : List Text := [".inf", ".Inf", ".INF"].map String.toList

def undefineds : List Text := [".nan", ".NaN", ".NAN"].map String.toList

/-- Whether a plain scalar is a number with a point. A number that begins with its point has no
sign. -/
def isFloat (text : Text) : Bool :=
  let (_, body) := unsigned text
  isUnsignedFloat body || isFraction text || infinities.contains body || undefineds.contains text

def digits? (base : Nat) (text : Text) : Option Nat :=
  if text.isEmpty then none
  else text.foldl (fun value c => do
    let digit ← Json.hexDigit? c
    if digit < base then return base * (← value) + digit else none) (some 0)

def baseOf (text : Text) : Nat × Text :=
  match text with
  | ['0'] => (10, text)
  | '0' :: 'b' :: digits => (2, digits)
  | '0' :: 'x' :: digits => (16, digits)
  | '0' :: _ => (8, text)
  | _ => (10, text)

def int? (text : Text) : Option Int := do
  let (negative, body) := unsigned (text.filter (· != '_'))
  let (base, digits) := baseOf body
  let size ← if base = 10 then
      (Text.splitAt (· == ':') digits).foldlM (fun value place =>
        (digits? 10 place).map fun n => 60 * value + n) 0
    else digits? base digits
  return if negative then -(size : Int) else size

/-- A decimal number: its digits, and the place of the last one. -/
def decimal? (text : Text) : Option (Nat × Int) := do
  let whole := text.takeWhile Char.isDigit
  let behind := text.dropWhile Char.isDigit
  let places := if behind.head? == some '.' then behind.tail.takeWhile Char.isDigit else []
  let rest := if behind.head? == some '.' then behind.tail.dropWhile Char.isDigit else behind
  if whole.isEmpty && places.isEmpty then none
  else
    let scale : Int := -(places.length : Int)
    let digits := Json.digitsValue (whole ++ places)
    match rest with
    | [] => some (digits, scale)
    | c :: rest =>
      let (negative, exponent) := unsigned rest
      if (c == 'e' || c == 'E') && isRun Char.isDigit exponent then
        let size : Int := Json.digitsValue exponent
        some (digits, scale + if negative then -size else size)
      else none

/-- The magnitude that places of sixty write, if each of them is a decimal number. -/
def sixtieths? (places : List Text) : Option Magnitude := do
  let parts ← places.mapM decimal?
  let least := parts.foldl (fun scale part => min scale part.2) 0
  let size :=
    parts.foldl (fun value (digits, scale) =>
      60 * value + digits * Nat.pow 10 (scale - least).toNat) 0
  return Magnitude.ofDecimal size least

def float? (text : Text) : Option Binary := do
  let (negative, body) := unsigned ((text.filter (· != '_')).map Char.toLower)
  let (inner, plain) := unsigned body
  if body = ".inf".toList || plain = "inf".toList || plain = "infinity".toList then
    return ⟨negative != inner, .infinite⟩
  else if body = ".nan".toList || plain = "nan".toList then return ⟨false, .undefined⟩
  else if body.contains ':' then return ⟨negative, ← sixtieths? (Text.splitAt (· == ':') body)⟩
  else
    let (digits, scale) ← decimal? plain
    return ⟨negative != inner, Magnitude.ofDecimal digits scale⟩

end RecordSearch.Yaml.Number
