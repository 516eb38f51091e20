import RecordSearch.Text.Basic
import RecordSearch.Text.AlphanumericRanges

/-! Word characters, and the cutting of a text into its longest runs of them. -/
namespace RecordSearch

def inRanges (ranges : List (Nat × Nat)) (n : Nat) : Bool :=
  ranges.any fun (first, last) => first ≤ n && n ≤ last

/-- ASCII letters, ASCII digits and the underscore: the characters of a field name. -/
def isNameChar (c : Char) : Bool := c.isAlphanum || c == '_'

/-- Letters and numbers of every script, and the underscore. -/
def isWordChar (c : Char) : Bool :=
  if c.toNat < 128 then isNameChar c else inRanges Text.alphanumericRanges c.toNat

/-- A stretch of text: a longest run of the characters looked for, or one other character. -/
inductive Chunk where
  | run (word : Text)
  | other (c : Char)
  deriving DecidableEq, Repr

namespace Chunk

def text : Chunk → Text
  | .run word => word
  | .other c => [c]

/-- Puts a character of a run in front, as part of the run that stands there if one does. -/
def extend (c : Char) : List Chunk → List Chunk
  | .run word :: rest => .run (c :: word) :: rest
  | rest => .run [c] :: rest

end Chunk

namespace Text

/-- The text cut into longest runs of characters that satisfy `p` and single other characters. -/
def chunks (p : Char → Bool) : Text → List Chunk
  | [] => []
  | c :: rest => if p c then Chunk.extend c (chunks p rest) else .other c :: chunks p rest

def ofChunks (chunks : List Chunk) : Text := chunks.flatMap Chunk.text

theorem text_extend (c : Char) (rest : List Chunk) :
    ofChunks (Chunk.extend c rest) = c :: ofChunks rest := by
  match rest with
  | [] => rfl
  | .run word :: more => simp [Chunk.extend, ofChunks, Chunk.text]
  | .other d :: more => simp [Chunk.extend, ofChunks, Chunk.text]

/-- Cutting loses nothing. -/
theorem ofChunks_chunks (p : Char → Bool) (text : Text) : ofChunks (chunks p text) = text := by
  induction text with
  | nil => rfl
  | cons c rest ih =>
    simp only [chunks]
    split
    · rw [text_extend, ih]
    · simp only [ofChunks, List.flatMap_cons, Chunk.text, List.singleton_append] at ih ⊢
      rw [ih]

end Text
end RecordSearch
