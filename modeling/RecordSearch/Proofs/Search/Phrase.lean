import RecordSearch.Proofs.Query.ReadBack
import RecordSearch.Proofs.Query.Removal
import RecordSearch.Proofs.Search.Conjunction
import RecordSearch.Proofs.Text.Gaps

/-! Free text as a phrase. Around clauses and connectives it keeps the spaces on both sides of what
has been taken out, and then it finds no record whose texts have single spaces. -/
namespace RecordSearch

def Record.searched (record : Record) : List Text :=
  record.title :: (record.content.toList ++ record.tags)

theorem Condition.exists_searched_of_anywhere {text : Text} {record : Record}
    (held : (Condition.anywhere text).holds record = .ok true) :
    ∃ searched ∈ record.searched, Text.holds text searched = true := by
  simp only [holds, tagged, Except.ok.injEq, Bool.or_eq_true, Option.any_eq_true, List.any_cons,
    List.any_nil, Bool.or_false, List.any_eq_true] at held
  rcases held with (title | ⟨content, present, held⟩) | ⟨tag, member, held⟩
  · exact ⟨_, List.mem_cons_self, title⟩
  · exact ⟨content, by simp [Record.searched, present], held⟩
  · exact ⟨tag, by simp [Record.searched, member], held⟩

namespace Query

def remainingPieces (text : Text) : List Text :=
  match Clause.scan text with
  | [] => Text.splitAt (· == ' ') text
  | clauses => (Text.splitAt (· == ' ') (residue text clauses)).map withoutConnectives

theorem remainingPieces_of_clauses {text : Text} (clauses : Clause.scan text ≠ []) :
    remainingPieces text = (Text.splitAt (· == ' ') (residue text (Clause.scan text))).map
      withoutConnectives := by
  rw [remainingPieces]
  split
  · contradiction
  · rfl

theorem remainingPieces_of_clauseless {text : Text} (clauseless : Clause.scan text = []) :
    remainingPieces text = Text.splitAt (· == ' ') text := by
  rw [remainingPieces, clauseless]

theorem fullText_eq_remainingPieces (text : Text) :
    (parse text).fullText =
      asFullText (Text.trim (Text.join [' '] (remainingPieces (Text.normalize text)))) := by
  by_cases clauseless : Clause.scan (Text.normalize text) = []
  · rw [parse, ofNormalized_of_clauseless clauseless, remainingPieces_of_clauseless clauseless,
      Text.join_splitAt, Text.trim_of_isTrimmed (Text.isTrimmed_normalize text)]
  · rw [parse, ofNormalized_of_clauses clauseless, remainingPieces_of_clauses clauseless,
      ← withoutConnectives_join, Text.join_splitAt]

/-- The characters of a piece stand in the normalized query between two spaces. -/
theorem not_isBlank_of_mem_remainingPieces {text piece : Text} {c : Char}
    (member : piece ∈ remainingPieces (Text.normalize text)) (inside : c ∈ piece) :
    isBlank c = false := by
  have stretch {rest other : Text} (sublist : rest.Sublist (Text.normalize text))
      (between : other ∈ Text.splitAt (· == ' ') rest) (stands : c ∈ other) :
      isBlank c = false := by
    have kept := Text.mem_join_of_mem [' '] between stands
    rw [Text.join_splitAt] at kept
    by_contra blank
    obtain rfl := Text.eq_space_of_mem_normalize (sublist.subset kept) (by simpa using blank)
    exact Text.notMem_of_mem_splitAt between stands
  by_cases clauseless : Clause.scan (Text.normalize text) = []
  · rw [remainingPieces_of_clauseless clauseless] at member
    exact stretch (List.Sublist.refl _) member inside
  · rw [remainingPieces_of_clauses clauseless] at member
    obtain ⟨other, between, rfl⟩ := List.mem_map.mp member
    exact stretch (residue_sublist _ _) between ((withoutConnectives_sublist other).subset inside)

/-- Free text has single spaces if nothing that was taken out stood between two pieces of which
something is left. Otherwise it is not found in its own words with single spaces between them, and a
record that answers the query has two spaces side by side as well. -/
theorem normalize_fullText_iff (text : Text) :
    let left := remainingPieces (Text.normalize text)
    (Clause.scan (Text.normalize text) = [] → ¬ Text.HasGap left) ∧
      ∀ full ∈ (parse text).fullText,
        full ≠ [] ∧ full.IsTrimmed ∧ (∀ c ∈ full, isBlank c = true → c = ' ') ∧
        (full.IsDoubled ↔ Text.HasGap left) ∧
        (Text.normalize full = full ↔ ¬ Text.HasGap left) ∧
        (Text.holds full (Text.normalize full) = true ↔ ¬ Text.HasGap left) ∧
        (Text.HasGap left → ∀ record, (parse text).matches? record = .ok true →
          ∃ searched ∈ record.searched, Text.IsDoubled searched) := by
  intro left
  have free : ∀ piece ∈ left, ∀ c ∈ piece, isBlank c = false :=
    fun piece member c inside => not_isBlank_of_mem_remainingPieces member inside
  obtain ⟨doubled, normal⟩ := Text.isDoubled_trim_join_iff free
  constructor
  · intro clauseless
    have same := Text.trim_of_isTrimmed (Text.isTrimmed_normalize text)
    rw [← normal]
    simp only [left, remainingPieces_of_clauseless clauseless, Text.join_splitAt, same]
    rw [Text.normalize, Text.words_normalize, Text.normalize]
  · intro full stands
    have shape := fullText_parse stands
    have whole := (mem_asFullText.mp (fullText_eq_remainingPieces text ▸ stands)).1
    rw [← whole] at doubled normal
    refine ⟨shape.1, shape.2, ?_, doubled, normal, ?_, ?_⟩
    · intro c inside blank
      have kept := ((fullText_sublist_residue text).trans (residue_sublist _ _)).subset (a := c)
      rw [stands] at kept
      exact Text.eq_space_of_mem_normalize (kept inside) blank
    · rw [← normal]
      constructor
      · intro held
        by_contra other
        rw [normal, not_not, ← doubled] at other
        exact Text.not_isDoubled_normalize full (Text.isDoubled_of_holds held other)
      · intro same
        rw [same]
        exact Text.holds_self full
    · intro gap record answered
      have inYears := isInYears_of_matches? answered
      have found := ((matches?_eq_true_iff inYears).mp answered).2.2 full
          (by rw [freeText?_parse]; exact stands)
      obtain ⟨searched, member, held⟩ := Condition.exists_searched_of_anywhere found
      exact ⟨searched, member, Text.isDoubled_of_holds held (doubled.mpr gap)⟩

/-- Clauses and connectives at both ends of a free text leave no gap. -/
theorem normalize_fullText_iff_ends :
    let text := "NOT react  hooks type:note tags:b OR".toList
    (parse text).fullText = some "react hooks".toList ∧
      ¬ Text.HasGap (remainingPieces (Text.normalize text)) := by
  intro text
  have stands : (parse text).fullText = some "react hooks".toList := by decide +kernel
  have whole := (normalize_fullText_iff text).2 "react hooks".toList (by rw [stands]; rfl)
  exact ⟨stands, whole.2.2.2.2.1.mp (by decide +kernel)⟩

/-- A free text around a clause and a connective keeps a space of each, and does not find the record
that has its words as a phrase. Without the clause it is normal. -/
theorem full_text_keeps_gap :
    let stamp := Stamp.read ⟨0, by decide, none⟩
    let hooks : Record :=
      { id := ['1'], title := "React hooks".toList, kind := .known .note, created := stamp,
        updated := stamp }
    (parse "react type:note AND hooks".toList).fullText = some "react   hooks".toList ∧
      Text.normalize "react   hooks".toList = "react hooks".toList ∧
      (parse "react type:note AND hooks".toList).matches? hooks = .ok false ∧
      (parse "type:note AND react hooks".toList).fullText = some "react hooks".toList ∧
      (parse "type:note AND react hooks".toList).matches? hooks = .ok true := by
  decide +kernel

end Query
end RecordSearch
