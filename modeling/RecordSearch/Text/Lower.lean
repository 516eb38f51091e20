import RecordSearch.Text.Word
import RecordSearch.Text.CaseRanges

/-! Small forms of letters and of texts. A capital sigma that ends a word becomes the final form of
the small sigma, and a capital dotted I becomes two code points; all other letters keep one. -/
namespace RecordSearch

def Text.CaseRow.covers (row : Text.CaseRow) (n : Nat) : Bool :=
  row.first ≤ n && n ≤ row.last && (n - row.first) % row.step == 0

def smallForm (c : Char) : Char :=
  if c.toNat < 128 then c.toLower
  else match Text.smallFormRows.find? (·.covers c.toNat) with
    | some row => Char.ofNat (c.toNat + row.shift).toNat
    | none => c

def isCased (c : Char) : Bool :=
  if c.toNat < 128 then c.isAlpha else inRanges Text.casedRanges c.toNat

/-- Marks that stand between the letters of a word without ending it. -/
def isCaseIgnorable (c : Char) : Bool :=
  if c.toNat < 128 then c == '\x27' || c == '.' || c == ':' || c == '^' || c == '\x60'
  else inRanges Text.caseIgnorableRanges c.toNat

namespace Text

/-- Whether the first character that case looks at is a letter that has a case. -/
def casedFirst : Text → Bool
  | [] => false
  | c :: rest => if isCaseIgnorable c then casedFirst rest else isCased c

/-- The small form of a text that stands behind a letter of its word, or does not. -/
def lowerAfter (inWord : Bool) : Text → Text
  | [] => []
  | c :: rest =>
    let small : Text :=
      if c == 'Σ' then [if inWord && !casedFirst rest then 'ς' else 'σ']
      else if c == 'İ' then ['i', '\u0307']
      else [smallForm c]
    small ++ lowerAfter (if isCaseIgnorable c then inWord else isCased c) rest

def lower (text : Text) : Text := lowerAfter false text

/-- Whether the text holds `piece` when case is left aside. -/
def holds (piece text : Text) : Bool := occursIn (lower piece) (lower text)

end Text
end RecordSearch
