import RecordSearch.Proofs.Text.Places
import RecordSearch.Proofs.Text.Solid

/-! Connectives are taken out of a text all at once. What is left has none, and neither have its
words, so that a free text stands for itself when it is read once more. -/
namespace RecordSearch

theorem isWordChar_of_isBlank {c : Char} (blank : isBlank c = true) : isWordChar c = false :=
  forall_blank (P := fun c => isWordChar c = false) (by decide +kernel) blank

theorem Connective.name_of_ofWord? {word : Text} {connective : Connective}
    (spelled : ofWord? word = some connective) : connective.name = word.map Char.toUpper := by
  rw [ofWord?, ofName?] at spelled
  simpa using List.find?_some spelled

namespace Query

theorem connectivesIn_words (text : Text) :
    (Text.words text).flatMap connectivesIn = connectivesIn text :=
  Text.flatMap_words rfl (fun _ _ _ blank =>
      connectivesIn_append_other (isWordChar_of_isBlank blank) _ _) text

theorem connectivesIn_trim (text : Text) : connectivesIn (Text.trim text) = connectivesIn text := by
  rw [← connectivesIn_words, Text.words_trim, connectivesIn_words]

theorem connectivesIn_eq_filterMap (text : Text) :
    connectivesIn text = (Text.runs isWordChar text).filterMap Connective.ofWord? := by
  rw [connectivesIn, Text.runs, List.filterMap_filterMap]
  congr 1
  funext chunk
  cases chunk <;> rfl

/-- The words of what is left are those that are no connectives: the characters between words stay,
and each stays between the same two words. -/
theorem runs_withoutConnectives (text : Text) :
    Text.runs isWordChar (withoutConnectives text) =
      (Text.runs isWordChar text).filter fun word => (Connective.ofWord? word).isNone := by
  let read (text : Text) : List Text := Text.runs isWordChar (withoutConnectives text)
  let kept (text : Text) : List Text :=
    (Text.runs isWordChar text).filter fun word => (Connective.ofWord? word).isNone
  refine Text.reading_ext isWordChar read kept ?_ ?_ ?_ text
  · intro before c rest outside
    simp only [read, withoutConnectives_append_other outside, Text.runs_append_other outside]
  · intro before c rest outside
    simp only [kept, Text.runs_append_other outside, List.filter_append]
  · intro run inside
    by_cases empty : run = []
    · rw [empty]
      rfl
    · have alone := Text.runs_of_all empty inside
      cases spelled : Connective.ofWord? run with
      | none =>
        have free : connectivesIn run = [] := by simp [connectivesIn_eq_filterMap, alone, spelled]
        simp [read, kept, withoutConnectives_of_none free, alone, spelled]
      | some connective =>
        have none : ∀ c ∈ ([] : Text).head?, isWordChar c = false := by simp
        have chunk := Text.chunks_run_append empty inside none
        rw [List.append_nil] at chunk
        have nothing : withoutConnectives run = [] := by
          simp [withoutConnectives, chunk, Text.chunks, connective?, spelled, Text.ofChunks]
        simp [read, kept, nothing, alone, spelled]
        rfl

theorem connectivesIn_withoutConnectives (text : Text) :
    connectivesIn (withoutConnectives text) = [] := by
  rw [connectivesIn_eq_filterMap, runs_withoutConnectives, List.filterMap_eq_nil_iff]
  intro word member
  simpa using (List.mem_filter.mp member).2

theorem withoutConnectives_sublist (text : Text) : (withoutConnectives text).Sublist text := by
  have kept := Text.ofChunks_chunks isWordChar text
  rw [withoutConnectives]
  generalize Text.chunks isWordChar text = chunks at kept
  subst kept
  induction chunks with
  | nil => exact .slnil
  | cons chunk rest ih =>
    rw [List.filter_cons]
    split
    · exact (List.Sublist.refl chunk.text).append ih
    · exact ih.trans (List.sublist_append_right chunk.text _)

/-- No word of a text without connectives is one of them. -/
theorem ne_name_of_connectivesIn {text word : Text} (free : connectivesIn text = [])
    (member : word ∈ Text.words text) (connective : Connective) : word ≠ connective.name := by
  rintro rfl
  rw [← connectivesIn_words, List.flatMap_eq_nil_iff] at free
  have none := free _ member
  rw [connectivesIn_name] at none
  contradiction

end Query
end RecordSearch
