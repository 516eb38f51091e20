import RecordSearch.Text.Basic

/-! How alike two texts are: twice the number of characters that they have in common, over the
number of characters of both. Common is either the longest sequence of characters that occurs in
both in order, or what stands in shared blocks. -/
namespace RecordSearch

structure Likeness where
  common : Nat
  total : Nat
  deriving DecidableEq, Repr

namespace Likeness

/-- Whether the likeness is at least so many tenths. -/
def reaches (tenths : Nat) (likeness : Likeness) : Bool :=
  tenths * likeness.total ≤ 10 * likeness.common

def exceeds (likeness other : Likeness) : Bool :=
  other.common * likeness.total < likeness.common * other.total

end Likeness

namespace Text

/-- The lengths of the longest common subsequences of a text and each end of `other`, from those of
the text without its first character. -/
def commonStep (c : Char) : Text → List Nat → List Nat
  | d :: other, whole :: rest =>
    let later := commonStep c other rest
    (if c == d then rest.headD 0 + 1 else max whole (later.headD 0)) :: later
  | _, _ => [0]

/-- The lengths of the longest common subsequences of a text and each end of `other`, longest end
first. -/
def commonLengths (other : Text) : Text → List Nat
  | [] => List.replicate (other.length + 1) 0
  | c :: rest => commonStep c other (commonLengths other rest)

def commonLength (text other : Text) : Nat := (commonLengths other text).headD 0

def likeness (text other : Text) : Likeness :=
  ⟨2 * commonLength text other, text.length + other.length⟩

structure Block where
  left : Nat
  right : Nat
  length : Nat
  deriving DecidableEq, Repr

def commonStart : Text → Text → Nat
  | c :: text, d :: other => if c == d then commonStart text other + 1 else 0
  | _, _ => 0

/-- The longest block of two texts; of several the first in `text`, and of these the first in
`other`. -/
def longestBlock (text other : Text) : Block :=
  let blocks := (List.range text.length).flatMap fun left =>
    (List.range other.length).map fun right =>
      ⟨left, right, commonStart (text.drop left) (other.drop right)⟩
  blocks.foldl (fun best block => if best.length < block.length then block else best) ⟨0, 0, 0⟩

/-- The number of characters in blocks of two texts: the longest block, and those on both sides of
it. -/
def blocksLength : (fuel : Nat) → Text → Text → Nat
  | 0, _, _ => 0
  | fuel + 1, text, other =>
    let block := longestBlock text other
    if block.length = 0 then 0
    else
      blocksLength fuel (text.take block.left) (other.take block.right) + block.length +
        blocksLength fuel (text.drop (block.left + block.length))
          (other.drop (block.right + block.length))

def blockLikeness (text other : Text) : Likeness :=
  ⟨2 * blocksLength text.length text other, text.length + other.length⟩

end Text
end RecordSearch
