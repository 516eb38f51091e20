import RecordSearch.Text.Basic

/-! Blank characters and what they separate: words, tokens, trimmed and normalized texts. -/
namespace RecordSearch

/-- The characters that separate words: controls that move the cursor, the separators of
information, and the space characters of every script. -/
def isBlank (c : Char) : Bool :=
  let n := c.toNat
  (9 ≤ n && n ≤ 13) || (28 ≤ n && n ≤ 32) || n == 0x85 || n == 0xA0 || n == 0x1680 ||
    (0x2000 ≤ n && n ≤ 0x200A) || n == 0x2028 || n == 0x2029 || n == 0x202F || n == 0x205F ||
    n == 0x3000

namespace Text

def trim (text : Text) : Text := dropWhileEnd isBlank (text.dropWhile isBlank)

def isBlankText (text : Text) : Bool := text.all isBlank

def words (text : Text) : List Text := (splitAt isBlank text).filter (fun word => !word.isEmpty)

def startsBlank : Text → Bool
  | [] => false
  | c :: _ => isBlank c

/-- The pieces between runs of blanks. A run at an end has an empty piece on its outer side. -/
def tokens : Text → List Text
  | [] => [[]]
  | c :: rest =>
    if isBlank c then (if startsBlank rest then tokens rest else [] :: tokens rest)
    else consFirst c (tokens rest)

/-- The words of the text with one space between neighbours. -/
def normalize (text : Text) : Text := join [' '] (words text)

def lastToken (text : Text) : Text := (tokens text).getLastD []

end Text
end RecordSearch
