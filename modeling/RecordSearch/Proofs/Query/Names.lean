import RecordSearch.Proofs.Query.Clauses
import RecordSearch.Proofs.Query.Parts
import RecordSearch.Proofs.Query.Residue
import RecordSearch.Proofs.Text.Chunks

/-! Every name that a query is taken apart by is one that the check of its text sees, although the
check reads the text as it was written and the clauses are found in the normalized one. -/
namespace RecordSearch

namespace Clause

/-- The names in front of colons of a clause: its own, and those inside of its value. -/
def marked (clause : Clause) : List Text := clause.name :: markers clause.value

theorem markers_append_tail (before : Text) (words : List Text) :
    markers (before ++ tail words) = markers before ++ markers (tail words) := by
  cases words with
  | nil => simp [markers, Text.chunks, markersIn]
  | cons word rest => rw [tail_cons, markers_space, markers_append_blank (by decide)]

theorem IsProper.markers_source_append {clause : Clause} (proper : clause.IsProper)
    (words : List Text) :
    markers (clause.source ++ tail words) = clause.marked ++ markers (tail words) := by
  rw [markers_append_tail, source, markers_name_append proper.name_nonempty proper.name_chars,
    marked]
  cases clause.spaced with
  | false => rfl
  | true => rw [if_pos rfl, List.singleton_append, markers_space]

end Clause

/-- The names in front of colons of a text are those outside of its clauses and those of the
clauses. Where no clause begins at a run of name characters, none begins inside of the run, so the
run stands outside of the clauses with the character behind it; the names behind the run are then
told apart in the same way. -/
theorem Piece.Scanned.mem_markers_iff {pieces : List Piece} {text : Text}
    (scanned : Scanned pieces text) (name : Text) :
    (name ∈ markers text ↔
        name ∈ markers (outside pieces) ∨ ∃ found ∈ pieces.filterMap clause?, name ∈ found.marked) ∧
      (Clause.at? text = none →
        text.takeWhile isNameChar = (outside pieces).takeWhile isNameChar ∧
          (text.dropWhile isNameChar).head? = ((outside pieces).dropWhile isNameChar).head? ∧
          (name ∈ markers (text.dropWhile isNameChar) ↔
            name ∈ markers ((outside pieces).dropWhile isNameChar) ∨
              ∃ found ∈ pieces.filterMap clause?, name ∈ found.marked)) := by
  induction scanned with
  | nil => simp [outside]
  | @clause found pieces rest here _ ih =>
    refine ⟨?_, fun nowhere => by simp [nowhere] at here⟩
    obtain ⟨proper, -⟩ := (Clause.at?_eq_some_iff _ _).mp here
    obtain ⟨words, rfl, -⟩ := tail_of_at? here
    have same : outside (.clause found :: pieces) = outside pieces := rfl
    rw [proper.markers_source_append, List.mem_append, ih.1, same, filterMap_clause?_clause]
    simp only [List.mem_cons, exists_eq_or_imp]
    exact or_left_comm
  | @plain c pieces rest nowhere _ ih =>
    have same : outside (.plain c :: pieces) = c :: outside pieces := rfl
    rw [same, filterMap_clause?_plain]
    by_cases inside : isNameChar c = true
    · obtain ⟨run, next, behind⟩ := ih.2 (Clause.at?_eq_none_of_cons inside nowhere)
      rw [mem_markers_iff_run (c :: rest), mem_markers_iff_run (c :: outside pieces),
        List.takeWhile_cons_of_pos inside, List.takeWhile_cons_of_pos inside,
        List.dropWhile_cons_of_pos inside, List.dropWhile_cons_of_pos inside, run, next, behind]
      exact ⟨or_assoc.symm, fun _ => ⟨rfl, rfl, Iff.rfl⟩⟩
    · have other : isNameChar c = false := by simpa using inside
      rw [List.takeWhile_cons_of_neg inside, List.takeWhile_cons_of_neg inside,
        List.dropWhile_cons_of_neg inside, List.dropWhile_cons_of_neg inside,
        markers_cons_other other, markers_cons_other other]
      exact ⟨ih.1, fun _ => ⟨rfl, rfl, ih.1⟩⟩

/-- The names that the check of a text sees: those outside of the clauses, and those of the
clauses. -/
theorem mem_markers_iff_pieces (text name : Text) :
    name ∈ markers text ↔ name ∈ markers (Piece.outside (Piece.scan (Text.normalize text))) ∨
      ∃ clause ∈ Clause.scan (Text.normalize text), name ∈ clause.marked := by
  rw [← markers_normalize]
  exact ((Piece.scanned_scan (Text.normalize text)).mem_markers_iff name).1

theorem Clause.name_mem_markers {text : Text} {clause : Clause}
    (member : clause ∈ scan (Text.normalize text)) : clause.name ∈ markers text :=
  (mem_markers_iff_pieces text clause.name).mpr (.inr ⟨clause, member, List.mem_cons_self⟩)

namespace Query

def recordFields : List Text := ["title".toList, "content".toList, "tags".toList, "type".toList]

theorem filter_knownFields :
    knownFields.filter (fun name => decide (name ∉ dateFields)) = recordFields := by
  decide

theorem field_name_mem_markers {text : Text} {member : Text × Value}
    (inside : member ∈ (parse text).fields) : member.1 ∈ markers text := by
  obtain ⟨clause, stands, name, -⟩ := exists_clause_of_mem_fields inside
  rw [name]
  exact Clause.name_mem_markers stands

theorem date_name_mem_markers {text : Text} {filter : DateFilter}
    (inside : filter ∈ (parse text).dateFilters) : filter.field ∈ markers text := by
  obtain ⟨clause, stands, name, -⟩ := exists_clause_of_mem_dateFilters inside
  rw [name]
  exact Clause.name_mem_markers stands

theorem markers_subset_of_valid {text : Text} (valid : (validate text).isValid = true) :
    markers text ⊆ knownFields := by
  intro name member
  rw [validate] at valid
  split at valid
  · contradiction
  · split at valid
    · contradiction
    · split at valid
      · next known =>
        have passes := List.filter_eq_nil_iff.mp known name (List.mem_eraseDups.mpr member)
        simpa using passes
      · contradiction

/-- A query that passes its check has no field but those of records. -/
theorem field_name_of_valid {text : Text} (valid : (validate text).isValid = true)
    {member : Text × Value} (inside : member ∈ (parse text).fields) : member.1 ∈ recordFields := by
  have known := markers_subset_of_valid valid (field_name_mem_markers inside)
  obtain ⟨clause, -, name, noDate, -⟩ := exists_clause_of_mem_fields inside
  rw [← name] at noDate
  rw [← filter_knownFields]
  exact List.mem_filter.mpr ⟨known, decide_eq_true noDate⟩

end Query
end RecordSearch
