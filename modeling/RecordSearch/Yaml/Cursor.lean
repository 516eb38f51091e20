import RecordSearch.Text.Basic

/-! Places in the text of a YAML document, and the classes of characters that all its forms
share. -/
namespace RecordSearch.Yaml

/-- The ends of lines in one form; the separators of lines and of paragraphs stay as they are. -/
def unifyBreaks : Text → Text
  | [] => []
  | '\r' :: '\n' :: rest => '\n' :: unifyBreaks rest
  | c :: rest => (if c == '\r' || c.toNat == 0x85 then '\n' else c) :: unifyBreaks rest

def isAllowed (c : Char) : Bool :=
  let n := c.toNat
  n == 9 || n == 10 || n == 13 || (0x20 ≤ n && n ≤ 0x7E) || n == 0x85 ||
    (0xA0 ≤ n && n ≤ 0xFFFD) || 0x10000 ≤ n

def isBreak (c : Char) : Bool := c == '\n' || c.toNat == 0x2028 || c.toNat == 0x2029

def isSpace (c : Char) : Bool := c == ' ' || c == '\t'

/-- Whether a text is at its end or begins with one of some characters. -/
def stopsAt (stop : Char → Bool) (text : Text) : Bool := text.head?.all stop

def isGap (text : Text) : Bool := stopsAt (fun c => isSpace c || isBreak c) text

def isGapOfSpaces (text : Text) : Bool := stopsAt (fun c => c == ' ' || isBreak c) text

/-- Whether a line that begins here begins or ends a document. -/
def isMarker (text : Text) : Bool :=
  match text with
  | '-' :: '-' :: '-' :: rest => isGap rest
  | '.' :: '.' :: '.' :: rest => isGap rest
  | _ => false

def isNameCharacter (c : Char) : Bool := c.isAlphanum || c == '-' || c == '_'

/-- A place in a text: what follows it, how many characters and lines are before it, and how many
characters of its line are. -/
structure Cursor where
  rest : Text
  offset : Nat := 0
  line : Nat := 0
  column : Nat := 0
  deriving DecidableEq, Repr

namespace Cursor

/-- The place behind one character. A byte order mark takes no column. -/
def pass (cursor : Cursor) (c : Char) (rest : Text) : Cursor :=
  if isBreak c then ⟨rest, cursor.offset + 1, cursor.line + 1, 0⟩
  else ⟨rest, cursor.offset + 1, cursor.line,
    if c.toNat == 0xFEFF then cursor.column else cursor.column + 1⟩

def skip : Nat → Cursor → Cursor
  | 0, cursor => cursor
  | count + 1, cursor =>
    match cursor.rest with
    | [] => cursor
    | c :: rest => skip count (cursor.pass c rest)

def moveTo (cursor : Cursor) (rest : Text) : Cursor :=
  cursor.skip (cursor.rest.length - rest.length)

def skipWhile (p : Char → Bool) (cursor : Cursor) : Cursor :=
  cursor.moveTo (cursor.rest.dropWhile p)

end Cursor
end RecordSearch.Yaml
