/-! Texts as lists of code points. Offsets and lengths count code points, and the operations
here look at the characters one by one, so that each has a short law about lists. -/
namespace RecordSearch

/-- A text is the list of its code points. -/
abbrev Text := List Char

namespace Text

def join (gap : Text) : List Text → Text
  | [] => []
  | [piece] => piece
  | piece :: rest => piece ++ gap ++ join gap rest

def consFirst (c : Char) : List Text → List Text
  | [] => [[c]]
  | piece :: rest => (c :: piece) :: rest

/-- The pieces between the characters that separate; there is one piece more than separators. -/
def splitAt (separates : Char → Bool) : Text → List Text
  | [] => [[]]
  | c :: rest =>
    if separates c then [] :: splitAt separates rest
    else consFirst c (splitAt separates rest)

/-- Whether `piece` stands somewhere in the text, without a gap. -/
def occursIn (piece : Text) : Text → Bool
  | [] => piece.isEmpty
  | c :: rest => piece.isPrefixOf (c :: rest) || occursIn piece rest

/-- The text without the first place where `piece` stands in it, and the text itself if there is
none. -/
def eraseFirst (piece : Text) : Text → Text
  | [] => []
  | c :: rest =>
    if piece.isPrefixOf (c :: rest) then (c :: rest).drop piece.length
    else c :: eraseFirst piece rest

/-- The longest end of the text whose characters all satisfy `p` is left out. -/
def dropWhileEnd (p : Char → Bool) (text : Text) : Text := (text.reverse.dropWhile p).reverse

def ofNat (n : Nat) : Text := Nat.toDigits 10 n

def ofInt : Int → Text
  | .ofNat n => ofNat n
  | .negSucc n => '-' :: ofNat (n + 1)

def padLeft (fill : Char) (width : Nat) (text : Text) : Text :=
  List.replicate (width - text.length) fill ++ text

def le : Text → Text → Bool
  | [], _ => true
  | _ :: _, [] => false
  | c :: rest, d :: other => c.toNat < d.toNat || (c == d && le rest other)

def digit? (c : Char) : Option Nat := if '0' ≤ c ∧ c ≤ '9' then some (c.toNat - '0'.toNat) else none

theorem splitAt_ne_nil (separates : Char → Bool) (text : Text) : splitAt separates text ≠ [] := by
  cases text with
  | nil => simp [splitAt]
  | cons c rest =>
    simp only [splitAt]
    split
    · simp
    · cases splitAt separates rest <;> simp [consFirst]

theorem occursIn_iff (piece text : Text) : occursIn piece text = true ↔ piece <:+: text := by
  induction text with
  | nil => simp [occursIn]
  | cons c rest ih => simp [occursIn, ih, List.infix_cons_iff]

end Text

end RecordSearch
