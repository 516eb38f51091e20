import RecordSearch.Text.Word
import RecordSearch.Text.PrintableRanges

/-! Texts as messages quote them: between single quotes, or between double quotes where the text
holds a single quote and no double one, with escapes for what has no visible form. -/
namespace RecordSearch

def singleQuote : Char := '\x27'

def doubleQuote : Char := '\x22'

/-- Whether a character has a visible form, or is the space. -/
def isPrintable (c : Char) : Bool :=
  if c.toNat < 128 then 32 ≤ c.toNat && c.toNat < 127 else !inRanges Text.unprintableRanges c.toNat

namespace Text

def hex (width n : Nat) : Text := padLeft '0' width (Nat.toDigits 16 n)

def quoteChar (quote c : Char) : Text :=
  if c == quote || c == '\\' then ['\\', c]
  else if c == '\n' then "\\n".toList
  else if c == '\r' then "\\r".toList
  else if c == '\t' then "\\t".toList
  else if isPrintable c then [c]
  else if c.toNat < 0x100 then "\\x".toList ++ hex 2 c.toNat
  else if c.toNat < 0x10000 then "\\u".toList ++ hex 4 c.toNat
  else "\\U".toList ++ hex 8 c.toNat

def quoted (text : Text) : Text :=
  let quote :=
    if text.contains singleQuote && !text.contains doubleQuote then doubleQuote
    else singleQuote
  quote :: text.flatMap (quoteChar quote) ++ [quote]

end Text
end RecordSearch
