import RecordSearch.Text.Basic

/-! Text with style tags in square brackets. A tag is an opening bracket, a small letter or one of
`# / @`, characters other than an opening bracket, and a closing bracket; an odd number of
backslashes in front of it makes it plain text. Escaping writes any text so that it shows as it
is. -/
namespace RecordSearch.Markup

def beginsTag (c : Char) : Bool := ('a' ≤ c && c ≤ 'z') || c == '#' || c == '/' || c == '@'

def tag? (text : Text) : Option Text :=
  match text with
  | '[' :: c :: rest =>
    if beginsTag c then
      match rest.dropWhile fun d => d != ']' && d != '[' with
      | ']' :: _ => some ('[' :: c :: rest.takeWhile (fun d => d != ']' && d != '[') ++ [']'])
      | _ => none
    else none
  | _ => none

/-- A piece of marked text: a tag with the number of backslashes in front of it, or another
character. -/
inductive Piece where
  | tag (backslashes : Nat) (tag : Text)
  | plain (c : Char)
  deriving DecidableEq, Repr

def backslashes (count : Nat) : Text := List.replicate count '\\'

namespace Piece

/-- The pieces of a text behind so many backslashes. The first characters may belong to a tag
already found. -/
def scanAfter : (skip pending : Nat) → Text → List Piece
  | _, pending, [] => (backslashes pending).map .plain
  | skip + 1, pending, _ :: rest => scanAfter skip pending rest
  | 0, pending, c :: rest =>
    if c == '\\' then scanAfter 0 (pending + 1) rest
    else match tag? (c :: rest) with
      | some found => .tag pending found :: scanAfter (found.length - 1) 0 rest
      | none => (backslashes pending).map .plain ++ .plain c :: scanAfter 0 0 rest

def scan (text : Text) : List Piece := scanAfter 0 0 text

/-- The piece as plain text: the backslashes of a tag are doubled, and one more is put in front of
it. -/
def escape : Piece → Text
  | .tag count found => backslashes (2 * count + 1) ++ found
  | .plain c => [c]

end Piece

def endsWithLoneBackslash (text : Text) : Bool :=
  match text.reverse with
  | '\\' :: '\\' :: _ => false
  | '\\' :: _ => true
  | _ => false

/-- Marked text that shows as the text. A lone backslash at the end is doubled, so that it does not
reach what is put behind it. -/
def escape (text : Text) : Text :=
  let escaped := (Piece.scan text).flatMap Piece.escape
  if endsWithLoneBackslash escaped then escaped ++ ['\\'] else escaped

def styled (style : String) (text : Text) : Text :=
  '[' :: style.toList ++ ']' :: text ++ '[' :: '/' :: style.toList ++ [']']

def unescapeBrackets : Text → Text
  | '\\' :: '[' :: rest => '[' :: unescapeBrackets rest
  | c :: rest => c :: unescapeBrackets rest
  | [] => []

/-- The stretches of plain text in marked text, given the plain characters read since the last
tag. -/
def stretchesAfter : Text → List Piece → List Text
  | plain, [] => [unescapeBrackets plain.reverse]
  | plain, .plain c :: rest => stretchesAfter (c :: plain) rest
  | plain, .tag count found :: rest =>
    [unescapeBrackets plain.reverse, backslashes (count / 2),
      if count % 2 = 1 then found else []] ++ stretchesAfter [] rest

/-- The stretches of plain text in marked text: tags stand between them, and those made plain lose
their backslashes. -/
def stretches (text : Text) : List Text :=
  if text.contains '[' then stretchesAfter [] (Piece.scan text) else [text]

end RecordSearch.Markup
