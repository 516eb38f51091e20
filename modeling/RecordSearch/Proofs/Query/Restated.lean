import RecordSearch.Proofs.Query.Account
import RecordSearch.Proofs.Query.Canonical
import RecordSearch.Proofs.Query.Connectives
import RecordSearch.Proofs.Query.Shape

/-! The text of a query that has free text besides its clauses. The free text is written behind the
clauses, where its words can only be told from the value of the last clause if that value ends in
front of them. -/
namespace RecordSearch

namespace Text

/-- A piece that does not begin with a blank is removed behind blanks. -/
theorem eraseFirst_gap_append {gap piece : Text} (blanks : IsGap gap) (nonempty : piece ≠ [])
    (begins : ∀ c ∈ piece.head?, isBlank c = false) (rest : Text) :
    eraseFirst piece (gap ++ rest) = gap ++ eraseFirst piece rest := by
  obtain ⟨c, others, rfl⟩ := List.exists_cons_of_ne_nil nonempty
  have other : isBlank c = false := begins c rfl
  induction gap with
  | nil => rfl
  | cons d gap ih =>
    have different : c ≠ d := by
      rintro rfl
      rw [blanks c List.mem_cons_self] at other
      contradiction
    have later := ih fun e inside => blanks e (List.mem_cons_of_mem _ inside)
    rw [List.cons_append, eraseFirst, if_neg (by simp [different]), later]
    rfl

theorem eraseFirst_append_self {piece : Text} (nonempty : piece ≠ []) (rest : Text) :
    eraseFirst piece (piece ++ rest) = rest := by
  obtain ⟨c, others, rfl⟩ := List.exists_cons_of_ne_nil nonempty
  simp [eraseFirst]

end Text

namespace Clause

variable {clause : Clause}

theorem join_words_eq_source (clause : Clause) : Text.join [' '] clause.words = clause.source := by
  have single := join_words [clause]
  rwa [List.flatMap_singleton, List.map_singleton, Text.join] at single

theorem head?_source (nonempty : clause.name ≠ [])
    (chars : ∀ c ∈ clause.name, isNameChar c = true) :
    ∀ c ∈ clause.source.head?, isBlank c = false := by
  intro c head
  obtain ⟨first, others, name⟩ := List.exists_cons_of_ne_nil nonempty
  obtain rfl : first = c := by simpa [source, name] using head
  have named := chars first (by simp [name])
  by_contra blank
  rw [isNameChar_of_isBlank (by simpa using blank)] at named
  contradiction

def runOn (others : List Text) : List Clause → List Clause
  | [] => []
  | [clause] => [{ clause with more := clause.more ++ others }]
  | clause :: next :: rest => clause :: runOn others (next :: rest)

theorem runOn_ne_nil {others : List Text} {clauses : List Clause} (nonempty : clauses ≠ []) :
    runOn others clauses ≠ [] := by
  fun_cases runOn others clauses with
  | case1 => contradiction
  | case2 clause => exact List.cons_ne_nil _ _
  | case3 clause next rest => exact List.cons_ne_nil _ _

theorem flatMap_words_runOn (others : List Text) {clauses : List Clause} (nonempty : clauses ≠ []) :
    (runOn others clauses).flatMap words = clauses.flatMap words ++ others := by
  fun_induction runOn others clauses with
  | case1 => contradiction
  | case2 clause => simp [words]
  | case3 clause next rest ih => simp [ih (List.cons_ne_nil _ _)]

theorem isWritten_runOn {clauses : List Clause} {others : List Text}
    (written : ∀ clause ∈ clauses, clause.IsWritten) (proper : ∀ word ∈ others, Text.IsWord word)
    (colonless : ∀ word ∈ others, ':' ∉ word)
    (noConnective : ∀ word ∈ others, ∀ connective : Connective, word ≠ connective.name) :
    ∀ clause ∈ runOn others clauses, clause.IsWritten := by
  fun_induction runOn others clauses with
  | case1 => exact written
  | case2 clause =>
    have last := written clause List.mem_cons_self
    intro other member
    obtain rfl := List.mem_singleton.mp member
    exact ⟨last.name_nonempty, last.name_chars, last.first_word,
      List.forall_mem_append.mpr ⟨last.more_words, proper⟩,
      List.forall_mem_append.mpr ⟨last.more_colonless, colonless⟩,
      List.forall_mem_append.mpr ⟨last.more_noConnective, noConnective⟩⟩
  | case3 clause next rest ih =>
    obtain ⟨first, later⟩ := List.forall_mem_cons.mp written
    exact List.forall_mem_cons.mpr ⟨first, ih later⟩

namespace IsWritten

theorem words_source (written : clause.IsWritten) : Text.words clause.source = clause.words := by
  rw [← join_words_eq_source]
  exact Text.Writes.join.words_eq fun word member => written.isWord_of_mem member

end IsWritten

theorem words_ne_nil (clause : Clause) : clause.words ≠ [] := by
  cases spaced : clause.spaced with
  | false => simp [words, spaced]
  | true => simp [words, spaced]

theorem join_words_append (clause : Clause) (rest : List Text) :
    Text.join [' '] (clause.words ++ rest) = clause.source ++ tail rest := by
  rw [Text.join_append _ _ _ clause.words_ne_nil, join_words_eq_source]

theorem scan_space_cons (rest : Text) : scan (' ' :: rest) = scan rest := by
  rw [scan, Piece.scan_cons (at?_space_cons rest)]
  rfl

theorem scan_source_append {rest : Text} (here : at? (clause.source ++ rest) = some clause) :
    scan (clause.source ++ rest) = clause :: scan rest := by
  rw [scan, Piece.scan_source_append here]
  rfl

/-- Written clauses end the value in front of them. -/
theorem endsBefore_words {clauses : List Clause} (written : ∀ clause ∈ clauses, clause.IsWritten)
    {rest : List Text} (ends : EndsBefore rest) : EndsBefore (clauses.flatMap words ++ rest) where
  spaceless word member := by
    rcases List.mem_append.mp member with stated | behind
    · obtain ⟨clause, stands, inside⟩ := List.mem_flatMap.mp stated
      exact ((written clause stands).isWord_of_mem inside).spaceless
    · exact ends.spaceless word behind
  ends := by
    cases clauses with
    | nil => exact ends.ends
    | cons clause others =>
      have first := written clause List.mem_cons_self
      rw [List.flatMap_cons, List.append_assoc]
      exact endsValue_head_words first.name_nonempty first.name_chars _

/-- Written clauses one behind the other are found before anything that stands behind them. -/
theorem scan_tail {clauses : List Clause} (written : ∀ clause ∈ clauses, clause.IsWritten)
    {rest : List Text} (ends : EndsBefore rest) :
    scan (tail (clauses.flatMap words ++ rest)) = clauses ++ scan (tail rest) := by
  induction clauses with
  | nil => rfl
  | cons clause others ih =>
    have later := fun other member => written other (List.mem_cons_of_mem clause member)
    have here := (written clause List.mem_cons_self).isProper.at?_source_append
        (endsBefore_words later ends)
    rw [List.flatMap_cons, List.append_assoc, tail_words, scan_space_cons,
      scan_source_append here, ih later]
    rfl

theorem scan_join {clauses : List Clause} (written : ∀ clause ∈ clauses, clause.IsWritten)
    {rest : List Text} (ends : EndsBefore rest) :
    scan (Text.join [' '] (clauses.flatMap words ++ rest)) = clauses ++ scan (tail rest) := by
  have same (words : List Text) : scan (tail words) = scan (Text.join [' '] words) := by
    cases words with
    | nil => rfl
    | cons first others => rw [tail_cons, scan_space_cons]
  rw [← same, scan_tail written ends]

/-- Written clauses one behind the other are removed from the front, wherever else their characters
stand. -/
theorem residue_tail {clauses : List Clause} (written : ∀ clause ∈ clauses, clause.IsWritten)
    {gap : Text} (blanks : Text.IsGap gap) (rest : List Text) :
    ∃ left, Text.IsGap left ∧
      Query.residue (gap ++ tail (clauses.flatMap words ++ rest)) clauses = left ++ tail rest := by
  induction clauses generalizing gap with
  | nil => exact ⟨gap, blanks, rfl⟩
  | cons clause others ih =>
    have first := written clause List.mem_cons_self
    have space := Text.isGap_append blanks Text.isGap_space
    have begins : gap ++ tail ((clause :: others).flatMap words ++ rest) =
        gap ++ [' '] ++ (clause.source ++ tail (others.flatMap words ++ rest)) := by
      rw [List.flatMap_cons, List.append_assoc, tail_words]
      simp
    rw [begins, Query.residue_cons, Text.eraseFirst_gap_append space clause.source_ne_nil
      (head?_source first.name_nonempty first.name_chars),
          Text.eraseFirst_append_self clause.source_ne_nil]
    exact ih (fun other member => written other (List.mem_cons_of_mem _ member)) space

theorem residue_join {clauses : List Clause} (written : ∀ clause ∈ clauses, clause.IsWritten)
    (rest : List Text) :
    ∃ left, Text.IsGap left ∧
      Query.residue (Text.join [' '] (clauses.flatMap words ++ rest)) clauses =
        left ++ Text.join [' '] rest := by
  have none : Text.IsGap [] := by simp [Text.IsGap]
  cases clauses with
  | nil => exact ⟨[], none, rfl⟩
  | cons clause others =>
    obtain ⟨left, blanks, same⟩ :=
      residue_tail (fun other member => written other (List.mem_cons_of_mem clause member))
        none rest
    rw [List.flatMap_cons, List.append_assoc, join_words_append, Query.residue_cons,
      Text.eraseFirst_append_self clause.source_ne_nil]
    rw [List.nil_append] at same
    cases rest with
    | nil => exact ⟨left, blanks, same⟩
    | cons first behind =>
      refine ⟨left ++ [' '], Text.isGap_append blanks Text.isGap_space, same.trans ?_⟩
      rw [tail_cons, List.append_assoc, List.singleton_append]

end Clause

namespace Query

theorem scanned_of_colonless {text : Text} (colonless : ':' ∉ text) :
    Piece.Scanned (text.map .plain) text := by
  have scanned : Piece.Scanned (text.map .plain ++ []) (text ++ []) :=
    Piece.Scanned.nil.plain_append colonless (by simp)
  rwa [List.append_nil, List.append_nil] at scanned

theorem filterMap_clause?_plain (text : Text) :
    (text.map Piece.plain).filterMap Piece.clause? = [] := by
  rw [List.filterMap_map, List.filterMap_eq_nil_iff]
  intro c _
  rfl

theorem scan_of_colonless {text : Text} (colonless : ':' ∉ text) : Clause.scan text = [] := by
  rw [clauses_eq_of_scan, (scanned_of_colonless colonless).scan_eq, filterMap_clause?_plain]

theorem parse_of_colonless {text : Text} (colonless : ':' ∉ text) :
    parse text = { fullText := asFullText (Text.normalize text) } :=
  ofNormalized_of_clauseless (scan_of_colonless (Text.colonless_normalize colonless))

/-- Clauses that are found where they are written leave the words behind them as free text. -/
theorem ofNormalized_join {clauses : List Clause} {rest : List Text}
    (written : ∀ clause ∈ clauses, clause.IsWritten) (nonempty : clauses ≠ [])
    (proper : ∀ word ∈ rest, Text.IsWord word) (free : connectivesIn (Text.join [' '] rest) = [])
    (scanned : Clause.scan (Text.join [' '] (clauses.flatMap Clause.words ++ rest)) = clauses) :
    ofNormalized (Text.join [' '] (clauses.flatMap Clause.words ++ rest)) =
      { fields := Named.ofList ((parts clauses).filterMap Part.field?)
        dateFilters := (parts clauses).filterMap Part.date?
        fullText := asFullText (Text.join [' '] rest) } := by
  obtain ⟨left, blanks, residue⟩ := Clause.residue_join written rest
  have none : connectivesIn (left ++ Text.join [' '] rest) = [] := by
    rw [← connectivesIn_words, Text.words_gap_append blanks, connectivesIn_words, free]
  have trimmed : Text.trim (left ++ Text.join [' '] rest) = Text.join [' '] rest := by
    rw [Text.trim_gap_append blanks]
    exact Text.trim_of_isTrimmed ⟨Text.head?_join_words proper, Text.getLast?_join_words proper⟩
  rw [ofNormalized_of_clauses (by rwa [scanned]), scanned, residue, none,
    withoutConnectives_of_none none, trimmed]
  rfl

/-- Reading the text of the query gives the query once more, but for its connectives, which are not
written. -/
structure ReadsBack (query : Query) : Prop where
  fields : (parse query.toText).fields = query.fields
  dateFilters : (parse query.toText).dateFilters = query.dateFilters
  fullText : (parse query.toText).fullText = query.fullText

variable {query : Query} {free : Text}

theorem ReadsBack.select_eq (same : query.ReadsBack) (records : List Record) :
    (parse query.toText).select records = query.select records := by
  have conditions : (parse query.toText).conditions = query.conditions := by
    rw [conditions, conditions, freeText?, freeText?, same.fields, same.dateFilters, same.fullText]
  rw [select, select, conditions]

namespace IsRestated

variable (restated : query.IsRestated)
include restated

theorem words_toText (stands : query.freeText? = some free) :
    Text.words query.toText = query.clauses.flatMap Clause.words ++ Text.words free := by
  have sources : (query.clauses.map Clause.source).flatMap Text.words =
      query.clauses.flatMap Clause.words := by
    rw [List.flatMap_map]
    exact List.flatMap_congr fun clause member =>
      (restated.isWritten_clauses clause member).words_source
  rw [toText, ← restated.map_source_clauses, stands, Text.words_join, List.flatMap_append, sources]
  simp

theorem normalize_toText (stands : query.freeText? = some free) :
    Text.normalize query.toText =
      Text.join [' '] (query.clauses.flatMap Clause.words ++ Text.words free) := by
  rw [Text.normalize, restated.words_toText stands]

theorem filterMap_parts_clauses :
    (parts query.clauses).filterMap Part.field? = query.fields ∧
      (parts query.clauses).filterMap Part.date? = query.dateFilters := by
  rw [restated.parts_clauses, List.filterMap_append, List.filterMap_append]
  simp [List.filterMap_map, Function.comp_def, Part.field?, Part.date?]

/-- Where only the written clauses are found, the free text is kept apart, with single spaces
between its words. -/
theorem parse_toText_of_scan (stands : query.freeText? = some free)
    (connectiveless : query.clauses ≠ [] → connectivesIn free = [])
    (scanned : Clause.scan (Text.normalize query.toText) = query.clauses) :
    parse query.toText =
      { fields := Named.ofList query.fields
        dateFilters := query.dateFilters
        fullText := asFullText (Text.normalize free) } := by
  have written := restated.isWritten_clauses
  obtain ⟨fields, dates⟩ := restated.filterMap_parts_clauses
  by_cases clauseless : query.clauses = []
  · rw [clauseless] at scanned fields dates
    rw [parse, ofNormalized_of_clauseless scanned, restated.normalize_toText stands, clauseless,
      ← fields, ← dates]
    rfl
  · have none : connectivesIn (Text.join [' '] (Text.words free)) = [] := by
      rw [connectivesIn_join, connectivesIn_words, connectiveless clauseless]
    rw [restated.normalize_toText stands] at scanned
    rw [parse, restated.normalize_toText stands, ofNormalized_join written clauseless
      (fun word member => Text.isWord_of_mem_words member) none scanned, fields, dates]
    rfl

/-- Free text without colons becomes part of the value of the last clause. -/
theorem parse_toText_of_colonless (stands : query.freeText? = some free)
    (nonempty : query.clauses ≠ []) (connectiveless : connectivesIn free = [])
    (colonless : ':' ∉ free) :
    parse query.toText =
      { fields :=
        Named.ofList ((parts (Clause.runOn (Text.words free) query.clauses)).filterMap Part.field?)
        dateFilters :=
          (parts (Clause.runOn (Text.words free) query.clauses)).filterMap Part.date? } := by
  have colonless_words : ∀ word ∈ Text.words free, ':' ∉ word := by
    intro word member colon
    exact colonless (Text.mem_of_mem_words member colon)
  have written : ∀ clause ∈ Clause.runOn (Text.words free) query.clauses, clause.IsWritten :=
    Clause.isWritten_runOn restated.isWritten_clauses (fun word member =>
        Text.isWord_of_mem_words member) colonless_words
      fun word member => ne_name_of_connectivesIn connectiveless member
  have words := Clause.flatMap_words_runOn (Text.words free) nonempty
  have runs : Clause.runOn (Text.words free) query.clauses ≠ [] := Clause.runOn_ne_nil nonempty
  have ends : Clause.EndsBefore [] := ⟨by simp, by simp⟩
  have found := Clause.scan_join written ends
  have read := ofNormalized_join written runs (by simp) rfl (found.trans (List.append_nil _))
  rw [List.append_nil, words, ← restated.normalize_toText stands] at read
  exact read

end IsRestated

end Query
end RecordSearch
