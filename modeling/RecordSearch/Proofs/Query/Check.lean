import RecordSearch.Proofs.Query.Names

/-! Which queries pass their check. The check takes every name in front of a colon for the name of a
field. A query whose clauses all name known fields therefore passes unless such a name stands inside
of a value, as in a time of day, or outside of the clauses, where a field has been named without a
value. -/
namespace RecordSearch.Query

/-- A query that has words and pairs its double quotes passes its check if it marks known fields
only. -/
theorem isValid_iff_markers {text : Text} (nonblank : Text.isBlankText text = false)
    (paired : text.count '\x22' % 2 = 0) :
    (validate text).isValid = true ↔ ∀ name ∈ markers text, name ∈ knownFields := by
  refine ⟨fun valid name member => markers_subset_of_valid valid member, fun known => ?_⟩
  have unknown : (markers text).eraseDups.filter (fun name => !knownFields.contains name) = [] := by
    rw [List.filter_eq_nil_iff]
    intro name member
    simpa using known name (List.mem_eraseDups.mp member)
  rw [validate, if_neg (by simp [nonblank]), if_neg (by simp [paired]), unknown]
  rfl

/-- Where the values of clauses mark nothing but known fields, a query passes its check exactly if
its clauses have the names of known fields and no other name stands in front of a colon outside of
them. -/
theorem isValid_iff_names_known {text : Text} (nonblank : Text.isBlankText text = false)
    (paired : text.count '\x22' % 2 = 0)
    (values : ∀ clause ∈ Clause.scan (Text.normalize text),
      ∀ name ∈ markers clause.value, name ∈ knownFields) :
    (validate text).isValid = true ↔
      (∀ clause ∈ Clause.scan (Text.normalize text), clause.name ∈ knownFields) ∧
        ∀ name ∈ markers (Piece.outside (Piece.scan (Text.normalize text))),
          name ∈ knownFields := by
  rw [isValid_iff_markers nonblank paired]
  constructor
  · intro known
    refine ⟨fun clause member => known _ (Clause.name_mem_markers member),
      fun name member => known name ?_⟩
    exact (mem_markers_iff_pieces text name).mpr (.inl member)
  · rintro ⟨names, outside⟩ name member
    rcases (mem_markers_iff_pieces text name).mp member with free | ⟨clause, stands, marked⟩
    · exact outside name free
    · rcases List.mem_cons.mp marked with rfl | inside
      · exact names clause stands
      · exact values clause stands name inside

/-- Colons that follow no name, or the name of a known field, do no harm inside of a value or in
front of it. -/
theorem isValid_iff_names_known_colons :
    let text := " (: old title: (: cat\t AND tags:type:x ".toList
    Text.isBlankText text = false ∧ text.count '\x22' % 2 = 0 ∧
      (∀ clause ∈ Clause.scan (Text.normalize text), ∀ name ∈ markers clause.value,
          name ∈ knownFields) ∧
      (Clause.scan (Text.normalize text)).length = 2 ∧ (validate text).isValid = true := by
  intro text
  have nonblank : Text.isBlankText text = false := by decide
  have paired : text.count '\x22' % 2 = 0 := by decide
  have values : ∀ clause ∈ Clause.scan (Text.normalize text), ∀ name ∈ markers clause.value,
      name ∈ knownFields := by
    decide +kernel
  have names : ∀ clause ∈ Clause.scan (Text.normalize text), clause.name ∈ knownFields := by
    decide +kernel
  have outside : ∀ name ∈ markers (Piece.outside (Piece.scan (Text.normalize text))),
      name ∈ knownFields := by
    decide +kernel
  exact ⟨nonblank, paired, values, by decide +kernel,
    (isValid_iff_names_known nonblank paired values).mpr ⟨names, outside⟩⟩

/-- Queries that have words, pair their quotes and name known fields only in their clauses, and
still do not pass: in one the value is a time of day, and in the other a name without a value stands
behind the clause. -/
theorem known_names_refused :
    let clock := "created:>=2024-03-15T12:00:00Z".toList
    let unfinished := "title:x notes:".toList
    (∀ text ∈ [clock, unfinished], Text.isBlankText text = false ∧ text.count '\x22' % 2 = 0 ∧
        Clause.scan (Text.normalize text) ≠ [] ∧
        ∀ clause ∈ Clause.scan (Text.normalize text), clause.name ∈ knownFields) ∧
      validate clock = .unknownFields ["15T12".toList, "00".toList] ∧
      validate unfinished = .unknownFields ["notes".toList] := by
  decide +kernel

end RecordSearch.Query
