import RecordSearch.Json.Document

/-! The tokens of a JSON text. A place where no token stands yields a token of its own, and the text
behind it is not looked at. -/
namespace RecordSearch.Json

inductive Token where
  | openArray
  | closeArray
  | openObject
  | closeObject
  | comma
  | colon
  | scalar (document : Document)
  | malformed

def isSpace (c : Char) : Bool := c == ' ' || c == '\n' || c == '\r' || c == '\t'

def hexDigit? (c : Char) : Option Nat :=
  if '0' ≤ c ∧ c ≤ '9' then some (c.toNat - '0'.toNat)
  else if 'a' ≤ c ∧ c ≤ 'f' then some (c.toNat - 'a'.toNat + 10)
  else if 'A' ≤ c ∧ c ≤ 'F' then some (c.toNat - 'A'.toNat + 10)
  else none

def hexNumber? (digits : Text) : Option Nat :=
  digits.foldl (fun value c => do return 16 * (← value) + (← hexDigit? c)) (some 0)

def shortEscape? (c : Char) : Option Char :=
  [('\x22', '\x22'), ('\\', '\\'), ('/', '/'), ('b', '\x08'), ('f', '\x0c'), ('n', '\n'),
    ('r', '\r'), ('t', '\t')].lookup c

/-- Whether a number is the first or the second half of a pair that stands for one code point. -/
def isHighHalf (n : Nat) : Bool := 0xD800 ≤ n && n < 0xDC00

def isLowHalf (n : Nat) : Bool := 0xDC00 ≤ n && n < 0xE000

/-- The text up to the closing quote, behind the opening one, and the number of characters read. -/
def stringBody : Text → Option (Text × Nat)
  | [] => none
  | '\x22' :: _ => some ([], 1)
  | '\\' :: 'u' :: a :: b :: c :: d :: rest => do
    let n ← hexNumber? [a, b, c, d]
    if isHighHalf n then
      match rest with
      | '\\' :: 'u' :: e :: f :: g :: h :: more => do
        let low ← hexNumber? [e, f, g, h]
        if isLowHalf low then
          let (text, count) ← stringBody more
          return (Char.ofNat (0x10000 + (n - 0xD800) * 0x400 + (low - 0xDC00)) :: text, count + 12)
        else none
      | _ => none
    else if isLowHalf n then none
    else
      let (text, count) ← stringBody rest
      return (Char.ofNat n :: text, count + 6)
  | '\\' :: c :: rest => do
    let escaped ← shortEscape? c
    let (text, count) ← stringBody rest
    return (escaped :: text, count + 2)
  | c :: rest => do
    if c.toNat < 32 then none
    else
      let (text, count) ← stringBody rest
      return (c :: text, count + 1)

def digitsValue (digits : Text) : Nat :=
  digits.foldl (fun value c => 10 * value + (c.toNat - '0'.toNat)) 0

/-- The fraction of a number, with its point, where one stands; none where a point stands alone. -/
def fraction? (text : Text) : Option (Text × Text) :=
  match text with
  | '.' :: rest =>
    let digits := rest.takeWhile Char.isDigit
    if digits.isEmpty then none else some (digits, rest.dropWhile Char.isDigit)
  | _ => some ([], text)

/-- The exponent of a number where one stands; none where its sign stands alone. -/
def exponent? (text : Text) : Option (Option Int × Text) :=
  match text with
  | c :: rest =>
    if c == 'e' || c == 'E' then
      let (negative, behind) := match rest with
        | '-' :: more => (true, more)
        | '+' :: more => (false, more)
        | _ => (false, rest)
      let digits := behind.takeWhile Char.isDigit
      if digits.isEmpty then none
      else
        let size : Int := digitsValue digits
        some (some (if negative then -size else size), behind.dropWhile Char.isDigit)
    else some (none, text)
  | [] => some (none, text)

/-- The number at the beginning of a text, and the text behind it. A zero stands alone before the
point. -/
def number? (text : Text) : Option (Number × Text) :=
  let (negative, unsigned) := match text with
    | '-' :: rest => (true, rest)
    | _ => (false, text)
  let whole := unsigned.takeWhile Char.isDigit
  if whole.isEmpty || (whole.head? == some '0' && whole.length != 1) then none
  else do
    let (places, behind) ← fraction? (unsigned.dropWhile Char.isDigit)
    let (exponent, rest) ← exponent? behind
    let scale : Option Int :=
      if places.isEmpty && exponent.isNone then none else some (exponent.getD 0 - places.length)
    return (⟨negative, digitsValue (whole ++ places), scale⟩, rest)

/-- The token at the beginning of a text that is not a space, and how many characters it has. -/
def Token.first (text : Text) : Token × Nat :=
  match text with
  | [] => (.malformed, 1)
  | '[' :: _ => (.openArray, 1)
  | ']' :: _ => (.closeArray, 1)
  | '\x7b' :: _ => (.openObject, 1)
  | '\x7d' :: _ => (.closeObject, 1)
  | ',' :: _ => (.comma, 1)
  | ':' :: _ => (.colon, 1)
  | '\x22' :: rest =>
    match stringBody rest with
    | some (content, count) => (.scalar (.string content), count + 1)
    | none => (.malformed, 1)
  | 'n' :: 'u' :: 'l' :: 'l' :: _ => (.scalar .null, 4)
  | 't' :: 'r' :: 'u' :: 'e' :: _ => (.scalar (.bool true), 4)
  | 'f' :: 'a' :: 'l' :: 's' :: 'e' :: _ => (.scalar (.bool false), 5)
  | _ =>
    match number? text with
    | some (number, rest) => (.scalar (.number number), text.length - rest.length)
    | none => (.malformed, 1)

/-- The tokens of a text whose first characters belong to a token already found. -/
def Token.scanAfter : Nat → Text → List Token
  | _, [] => []
  | skip + 1, _ :: rest => scanAfter skip rest
  | 0, c :: rest =>
    if isSpace c then scanAfter 0 rest
    else match Token.first (c :: rest) with
      | (.malformed, _) => [.malformed]
      | (token, count) => token :: scanAfter (count - 1) rest

def Token.scan (text : Text) : List Token := scanAfter 0 text

end RecordSearch.Json
