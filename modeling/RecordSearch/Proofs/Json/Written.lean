import RecordSearch.Json.Reader
import RecordSearch.Text.Utf8

/-! JSON texts by their grammar. A document is written by one sequence of tokens, and a text that
has these tokens is read as the document: the reader has put a value into the innermost open
container whenever it has met all of its tokens. -/
namespace RecordSearch.Json

mutual
def Document.tokens : Document → List Token
  | .array items => .openArray :: itemTokens true items
  | .object members => .openObject :: memberTokens true members
  | .malformed => [.malformed]
  | .null => [.scalar .null]
  | .bool value => [.scalar (.bool value)]
  | .number value => [.scalar (.number value)]
  | .string text => [.scalar (.string text)]

/-- The tokens of the items of an array, and of its end. A comma stands in front of all but the
first. -/
def itemTokens : (first : Bool) → List Document → List Token
  | _, [] => [.closeArray]
  | first, item :: rest =>
    (if first then [] else [.comma]) ++ (item.tokens ++ itemTokens false rest)

def memberTokens : (first : Bool) → List (Text × Document) → List Token
  | _, [] => [.closeObject]
  | first, (name, value) :: rest =>
    (if first then [] else [.comma]) ++
      (.scalar (.string name) :: .colon :: (value.tokens ++ memberTokens false rest))
end

def IsWritten (bytes : Bytes) (document : Document) : Prop :=
  document.isWhole = true ∧
    ∃ text, Utf8.decode bytes = (text, none) ∧ Token.scan text = document.tokens

namespace Progress

/-- Where an array may end its first token begins an item, if it does not end the array. -/
theorem step_firstItem (frames : List Frame) (document : Document) :
    document.tokens.foldl step (.reading frames .firstItem) =
      document.tokens.foldl step (.reading frames .value) := by
  cases document <;> simp [Document.tokens, step]

mutual
theorem foldl_tokens (frames : List Frame) : (document : Document) → document.isWhole = true →
    document.tokens.foldl step (.reading frames .value) = put document frames
  | .null, _ => rfl
  | .bool _, _ => rfl
  | .number _, _ => rfl
  | .string _, _ => rfl
  | .array items, whole => by
    have read := foldl_itemTokens frames [] true items (by simpa [Document.isWhole] using whole)
    simpa [Document.tokens, step, beginValue] using read
  | .object members, whole => by
    have read :=
      foldl_memberTokens frames [] [] true members (by simpa [Document.isWhole] using whole)
    simpa [Document.tokens, step, beginValue] using read
  | .malformed, whole => by simp [Document.isWhole] at whole

theorem foldl_itemTokens (frames : List Frame) (before : List Document) (first : Bool) :
    (items : List Document) → Document.allWhole items = true →
    (itemTokens first items).foldl step
    (.reading (.array before :: frames) (if first then .firstItem else .commaOrClose)) =
      put (.array (before.reverse ++ items)) frames
  | [], _ => by cases first <;> simp [itemTokens, step, endContainer]
  | item :: rest, whole => by
    obtain ⟨own, others⟩ := Bool.and_eq_true_iff.mp whole
    have here := foldl_tokens (.array before :: frames) item own
    have later := foldl_itemTokens frames (item :: before) false rest others
    cases first with
    | true => simpa [itemTokens, step_firstItem, here, put] using later
    | false => simpa [itemTokens, step, here, put] using later

theorem foldl_memberTokens (frames : List Frame) (before : List (Text × Document)) (pending : Text)
  (first : Bool) :
    (members : List (Text × Document)) → Document.membersWhole members = true →
    (memberTokens first members).foldl step
        (.reading (.object before pending :: frames)
          (if first then .firstName else .commaOrClose)) =
      put (.object (before.reverse ++ members)) frames
  | [], _ => by cases first <;> simp [memberTokens, step, endContainer]
  | (name, value) :: rest, whole => by
    obtain ⟨own, others⟩ := Bool.and_eq_true_iff.mp whole
    have here := foldl_tokens (.object before name :: frames) value own
    have later := foldl_memberTokens frames ((name, value) :: before) [] false rest others
    cases first with
    | true => simpa [memberTokens, step, beginMember, here, put] using later
    | false => simpa [memberTokens, step, beginMember, here, put] using later
end

end Progress

/-- A text with the tokens of a document is read as the document. -/
theorem read_of_tokens {text : Text} {document : Document} (whole : document.isWhole = true)
    (written : Token.scan text = document.tokens) : read text = (document, true) := by
  rw [read, written, Progress.foldl_tokens [] document whole]
  rfl

end RecordSearch.Json
