import RecordSearch.Proofs.Query.Letters
import RecordSearch.Proofs.Query.Restated

/-! When the text of a query with free text is read back. Parsing loses no letter, so that a clause
that is found besides those that are written, or that holds more than they do, is missed in the free
text. -/
namespace RecordSearch
namespace Query

variable {query : Query} {free : Text}

theorem IsRestated.solid_toText (restated : query.IsRestated)
    (stands : query.freeText? = some free) :
    Text.solid (Text.normalize query.toText) =
      Text.solid (query.clauses.flatMap Clause.source) ++ Text.solid free := by
  have sources (clauses : List Clause) :
      Text.solid (clauses.flatMap Clause.source) =
        (clauses.map Clause.source).flatMap Text.solid := by
    rw [Text.solid, List.filter_flatMap, List.flatMap_map]
    rfl
  rw [Text.solid_normalize, toText, ← restated.map_source_clauses, stands, Text.solid_join,
    List.flatMap_append, sources]
  simp

/-- The characters that are left and those of the clauses that are found are those of the clauses
that are written and of the free text. -/
theorem IsRestated.solid_residue_perm (restated : query.IsRestated)
    (stands : query.freeText? = some free) :
    let text := Text.normalize query.toText
    (Text.solid (residue text (Clause.scan text)) ++
        Text.solid ((Clause.scan text).flatMap Clause.source)).Perm
      (Text.solid (query.clauses.flatMap Clause.source) ++ Text.solid free) := by
  intro text
  rw [← restated.solid_toText stands, ← Text.solid_append]
  exact (residue_perm text).filter _

/-- The clause that is written last is stated by a clause that is found behind the others. -/
theorem IsRestated.exists_mem_restating (restated : query.IsRestated)
    (distinct : query.fields.names.Nodup) (same : query.ReadsBack) {front found : List Clause}
    {last : Clause} (written : query.clauses = front ++ [last])
    (scanned : Clause.scan (Text.normalize query.toText) = front ++ found) :
    ∃ part, Part.ofClause? last.name (stripQuotes last.value) = some part ∧
      ∃ clause ∈ found, Part.ofClause? clause.name (stripQuotes clause.value) = some part := by
  have stated : ∃ part, Part.ofClause? last.name (stripQuotes last.value) = some part := by
    have member : Part.ofClause? last.name (stripQuotes last.value) ∈
        query.clauses.map fun clause => Part.ofClause? clause.name (stripQuotes clause.value) :=
      List.mem_map.mpr ⟨last, by simp [written], rfl⟩
    rw [restated.map_part_clauses] at member
    obtain ⟨part, -, here⟩ := List.mem_map.mp member
    exact ⟨part, here.symm⟩
  obtain ⟨part, last_part⟩ := stated
  have behind : parts (front ++ [last]) = parts front ++ [part] := by simp [parts, last_part]
  have apart : parts (front ++ found) = parts front ++ parts found := List.filterMap_append ..
  obtain ⟨fields, dates⟩ := restated.filterMap_parts_clauses
  have read_fields := same.fields
  have read_dates := same.dateFilters
  rw [fields_parse, scanned, apart, List.filterMap_append] at read_fields
  rw [dateFilters_parse, scanned, apart, List.filterMap_append] at read_dates
  rw [written, behind, List.filterMap_append] at fields dates
  refine ⟨part, last_part, ?_⟩
  suffices member : part ∈ parts found from List.mem_filterMap.mp member
  cases part with
  | date filter =>
    have rest : (parts found).filterMap Part.date? = [filter] :=
      List.append_cancel_left (read_dates.trans dates.symm)
    obtain ⟨other, inside, shown⟩ := List.mem_filterMap.mp (rest ▸ List.mem_singleton.mpr rfl)
    cases other with
    | field name value => contradiction
    | date _ => exact Option.some.inj shown ▸ inside
  | field name value =>
    have last_field : query.fields = (parts front).filterMap Part.field? ++ [(name, value)] :=
      fields.symm
    rw [last_field] at read_fields distinct
    have member : (name, value) ∈
        (parts front).filterMap Part.field? ++ (parts found).filterMap Part.field? :=
      Named.mem_of_mem_ofList (by simp [read_fields])
    rcases List.mem_append.mp member with before | later
    · rw [Named.names, List.map_append, List.nodup_append'] at distinct
      exact (distinct.2.2 (List.mem_map_of_mem before) List.mem_cons_self).elim
    · obtain ⟨other, inside, shown⟩ := List.mem_filterMap.mp later
      cases other with
      | date _ => contradiction
      | field _ _ =>
        obtain ⟨rfl, rfl⟩ := Prod.mk.inj (Option.some.inj shown)
        exact inside

theorem eq_nil_of_letters {clauses : List Clause}
    (none : (letters (clauses.flatMap Clause.source)).length = 0) : clauses = [] := by
  cases clauses with
  | nil => rfl
  | cons clause rest =>
    have colon : ':' ∈ letters ((clause :: rest).flatMap Clause.source) := by
      have inside : ':' ∈ clause.source := by simp [Clause.source]
      rw [letters, List.mem_filter, Text.mem_solid]
      exact ⟨⟨List.mem_flatMap.mpr ⟨clause, List.mem_cons_self, inside⟩, by decide⟩, by decide⟩
    rw [List.eq_nil_of_length_eq_zero none] at colon
    contradiction

theorem fullText_of_freeText? (stands : query.freeText? = some free) : query.fullText = some free :=
  (Option.filter_eq_some_iff.mp stands).1

/-- The characters of one kind are as many in what is found and left as in what is written. Clauses
that are found as they are written cancel out. -/
theorem IsRestated.length_account (restated : query.IsRestated)
    (stands : query.freeText? = some free) {front found behind : List Clause}
    (written : query.clauses = front ++ behind)
    (scanned : Clause.scan (Text.normalize query.toText) = front ++ found) (keep : Char → Bool) :
    ((Text.solid (residue (Text.normalize query.toText) (front ++ found))).filter keep).length +
        ((Text.solid (found.flatMap Clause.source)).filter keep).length =
      ((Text.solid (behind.flatMap Clause.source)).filter keep).length +
      ((Text.solid free).filter keep).length := by
  have account := ((restated.solid_residue_perm stands).filter keep).length_eq
  rw [scanned, written] at account
  simp only [List.flatMap_append, Text.solid_append, List.filter_append,
    List.length_append] at account
  omega

/-- The free text comes from what is left when the clauses that are found have been removed. -/
theorem ReadsBack.free_eq (same : query.ReadsBack) (stands : query.freeText? = some free)
    {clauses : List Clause} (scanned : Clause.scan (Text.normalize query.toText) = clauses)
    (nonempty : clauses ≠ []) :
    free = Text.trim (withoutConnectives (residue (Text.normalize query.toText) clauses)) := by
  have left : free ∈ (parse query.toText).fullText := by
    rw [same.fullText, fullText_of_freeText? stands, Option.mem_some_iff]
  rw [parse, ofNormalized_of_clauses (by rwa [scanned]), scanned] at left
  simp only [mem_asFullText] at left
  exact left.1

/-- What is found in place of written clauses, connectives included, has no more letters than they
have. -/
theorem IsRestated.length_letters_le (restated : query.IsRestated)
    (stands : query.freeText? = some free) (same : query.ReadsBack)
    {front found behind : List Clause} (written : query.clauses = front ++ behind)
    (scanned : Clause.scan (Text.normalize query.toText) = front ++ found)
    (nonempty : front ++ found ≠ []) :
    (letters (found.flatMap Clause.source)).length +
        (connectivesIn (residue (Text.normalize query.toText) (front ++ found))).length ≤
      (letters (behind.flatMap Clause.source)).length := by
  have removed :=
    length_letters_withoutConnectives (residue (Text.normalize query.toText) (front ++ found))
  rw [← letters_trim, ← same.free_eq stands scanned nonempty] at removed
  have counted : (letters (residue (Text.normalize query.toText) (front ++ found))).length +
      (letters (found.flatMap Clause.source)).length =
        (letters (behind.flatMap Clause.source)).length + (letters free).length :=
    restated.length_account stands written scanned fun c => !isQuote c
  omega

/-- One clause is found for the clause that is written last, and the free text is all that is left.
Another clause or a connective would be missed in the free text. -/
theorem IsRestated.exists_restating_alone (restated : query.IsRestated)
    (distinct : query.fields.names.Nodup) (stands : query.freeText? = some free)
    (same : query.ReadsBack) {front found : List Clause} {last : Clause}
    (written : query.clauses = front ++ [last])
    (scanned : Clause.scan (Text.normalize query.toText) = front ++ found) :
    ∃ clause, found = [clause] ∧ clause.name = last.name ∧
      (Text.solid clause.source).length = (Text.solid last.source).length ∧
      free = Text.trim (residue (Text.normalize query.toText) (front ++ [clause])) := by
  obtain ⟨part, last_part, clause, member, clause_part⟩ :=
    restated.exists_mem_restating distinct same written scanned
  obtain ⟨name, clause_letters⟩ := letters_source_eq clause_part last_part
  have nonempty : front ++ found ≠ [] :=
    List.append_ne_nil_of_right_ne_nil _ (List.ne_nil_of_mem member)
  have counted := restated.length_letters_le stands same written scanned nonempty
  -- The clause has as many letters as the last one, so that nothing is left over for others and for
  -- connectives.
  have alone : found = [clause] ∧
      connectivesIn (residue (Text.normalize query.toText) (front ++ found)) = [] := by
    obtain ⟨before, behind, rfl⟩ := List.append_of_mem member
    rw [List.flatMap_append, List.flatMap_cons, List.flatMap_singleton, letters_append,
      letters_append, List.length_append, List.length_append, clause_letters] at counted
    have nothing_before : before = [] := eq_nil_of_letters (by omega)
    have nothing_behind : behind = [] := eq_nil_of_letters (by omega)
    exact ⟨by rw [nothing_before, nothing_behind, List.nil_append],
      List.eq_nil_of_length_eq_zero (by omega)⟩
  obtain ⟨rfl, connectiveless⟩ := alone
  have left := same.free_eq stands scanned nonempty
  rw [withoutConnectives_of_none connectiveless] at left
  -- Now that no connective is taken out, the quotes count as well.
  have lengths := restated.length_account stands written scanned fun _ => true
  have kept := congrArg Text.solid left
  rw [Text.solid_trim] at kept
  rw [← kept, List.filter_true, List.filter_true, List.filter_true, List.flatMap_singleton,
    List.flatMap_singleton] at lengths
  exact ⟨clause, rfl, name, by omega, left⟩

end Query

theorem Text.eq_space_of_mem_normalize {text : Text} {c : Char} (inside : c ∈ normalize text)
    (blank : isBlank c = true) : c = ' ' := by
  rcases mem_join inside with gap | ⟨word, member, inside⟩
  · exact List.mem_singleton.mp gap
  · rw [(isWord_of_mem_words member).free c inside] at blank
    contradiction

namespace Clause

/-- A clause of a normalized text is written with single spaces. -/
theorem isWritten_of_mem_scan {text : Text} {clause : Clause}
    (member : clause ∈ scan (Text.normalize text)) : clause.IsWritten := by
  have proper := isProper_of_mem_scan member
  have inside : ∀ c ∈ clause.value, isBlank c = true → c = ' ' := by
    intro c stands blank
    have source : c ∈ clause.source := by simp [Clause.source, stands]
    exact Text.eq_space_of_mem_normalize (mem_of_mem_source member source) blank
  have isWord (word : Text) (nonempty : word ≠ []) (spaceless : ' ' ∉ word)
      (part : ∀ c ∈ word, c ∈ clause.value) :
      Text.IsWord word := by
    refine ⟨nonempty, fun c stands => ?_⟩
    by_contra blank
    exact spaceless (inside c (part c stands) (by simpa using blank) ▸ stands)
  refine ⟨proper.name_nonempty, proper.name_chars, ?_, ?_, ?_, ?_⟩
  · exact isWord _ proper.first_nonempty proper.first_spaceless fun c stands => by
      simp [value_eq, stands]
  · intro word further
    obtain ⟨nonempty, spaceless, -, -⟩ := proper.further word further
    refine isWord word nonempty spaceless fun c stands => ?_
    rw [value_eq]
    exact List.mem_append_right _ (List.mem_flatMap.mpr ⟨word, further, by simp [stands]⟩)
  · exact fun word further => (proper.further word further).colonless
  · intro word further connective same
    have none := (proper.further word further).noConnective
    rw [same, Connective.ofName?_name] at none
    contradiction

/-- Written clauses of the same characters are the same. -/
theorem IsWritten.eq_of_source_eq {clause other : Clause} (written : clause.IsWritten)
    (other_written : other.IsWritten) (same : clause.source = other.source) : clause = other := by
  have ends : EndsBefore [] := ⟨by simp, by simp⟩
  have here := written.isProper.at?_source_append ends
  rw [same, other_written.isProper.at?_source_append ends] at here
  exact (Option.some.inj here).symm

/-- Written clauses that begin at the same place and have as many characters are the same. -/
theorem IsWritten.eq_of_prefix {clause other : Clause} (written : clause.IsWritten)
    (other_written : other.IsWritten) {rest : Text}
    (begins : clause.source <+: other.source ++ rest)
    (length : (Text.solid clause.source).length = (Text.solid other.source).length) :
    clause = other := by
  have words {text more : Text}
      (same : (Text.solid text).length = (Text.solid (text ++ more)).length) :
      Text.words (text ++ more) = Text.words text := by
    rw [Text.solid_append, List.length_append] at same
    have none : Text.solid more = [] := List.eq_nil_of_length_eq_zero (by omega)
    refine Text.words_append_gap ?_ text
    simpa [Text.solid, Text.IsGap] using none
  have words : Text.words clause.source = Text.words other.source := by
    rcases List.prefix_or_prefix_of_prefix begins (List.prefix_append _ _)
      with ⟨more, longer⟩ | ⟨more, longer⟩
    · rw [← longer] at length ⊢
      exact (words length).symm
    · rw [← longer] at length ⊢
      exact words length.symm
  rw [written.words_source, other_written.words_source] at words
  refine written.eq_of_source_eq other_written ?_
  rw [← join_words_eq_source, words, join_words_eq_source]

/-- Behind a run of name characters that is too short for the name of a clause, and behind a colon,
the clause is looked for further on. -/
theorem eraseFirst_name {clause : Clause} (nonempty : clause.name ≠ [])
    (chars : ∀ c ∈ clause.name, isNameChar c = true) {run : Text}
    (named : ∀ c ∈ run, isNameChar c = true) (shorter : run.length < clause.name.length)
    (rest : Text) :
    Text.eraseFirst clause.source (run ++ ':' :: rest) =
      run ++ ':' :: Text.eraseFirst clause.source rest := by
  have colon : ¬ isNameChar ':' = true := by decide
  induction run with
  | nil =>
    have elsewhere : ¬ clause.source.isPrefixOf (':' :: rest) = true := by
      obtain ⟨c, others, name⟩ := List.exists_cons_of_ne_nil nonempty
      have different : c ≠ ':' := by
        rintro rfl
        exact colon (chars ':' (by simp [name]))
      simp [source, name, different]
    rw [List.nil_append, Text.eraseFirst, if_neg elsewhere]
    rfl
  | cons c run ih =>
    have elsewhere : ¬ clause.source.isPrefixOf (c :: (run ++ ':' :: rest)) = true := by
      rw [List.isPrefixOf_iff_prefix]
      rintro ⟨more, begins⟩
      have same := congrArg (List.takeWhile isNameChar) begins
      rw [source, List.append_assoc, List.takeWhile_append_of_pos chars, List.cons_append,
        List.takeWhile_cons_of_neg colon, ← List.cons_append, List.takeWhile_append_of_pos named,
        List.takeWhile_cons_of_neg colon, List.append_nil, List.append_nil] at same
      rw [same] at shorter
      exact Nat.lt_irrefl _ shorter
    have later :=
      ih (fun d inside => named d (List.mem_cons_of_mem c inside)) (Nat.lt_of_succ_lt shorter)
    rw [List.cons_append, Text.eraseFirst, if_neg elsewhere, later]
    rfl

/-- A clause that is not found at the beginning of another of its name leaves that name there. -/
theorem eraseFirst_of_not_prefix {clause other : Clause} (nonempty : clause.name ≠ [])
    (chars : ∀ c ∈ clause.name, isNameChar c = true) (name : clause.name = other.name)
    {behind : Text} (elsewhere : ¬ clause.source <+: other.source ++ behind) :
    ∃ rest, Text.eraseFirst clause.source (other.source ++ behind) = other.name ++ ':' :: rest := by
  obtain ⟨c, run, whole⟩ := List.exists_cons_of_ne_nil nonempty
  have begins :
      other.source ++ behind = c :: (run ++ ':' :: (other.space ++ other.value ++ behind)) := by
    simp [source, ← name, whole]
  rw [begins, ← List.isPrefixOf_iff_prefix] at elsewhere
  have run_chars : ∀ d ∈ run, isNameChar d = true :=
    fun d inside => chars d (by simp [whole, inside])
  rw [begins, Text.eraseFirst, if_neg elsewhere,
    eraseFirst_name nonempty chars run_chars (by simp [whole]), ← name, whole]
  exact ⟨_, rfl⟩

/-- The first word of a text that begins with a name and a colon ends a value. -/
theorem endsValue_head?_words {name : Text} (nonempty : name ≠ [])
    (chars : ∀ c ∈ name, isNameChar c = true) (rest : Text) :
    ∀ word ∈ (Text.words (name ++ ':' :: rest)).head?, endsValue word = true := by
  have whole := List.takeWhile_append_dropWhile (p := fun c => !isBlank c) (l := rest)
  have stop := List.head?_dropWhile_not (fun c => !isBlank c) rest
  have free : ∀ c ∈ rest.takeWhile fun c => !isBlank c, isBlank c = false := by
    intro c inside
    simpa using List.mem_takeWhile_imp inside
  generalize rest.takeWhile (fun c => !isBlank c) = run at whole free
  generalize rest.dropWhile (fun c => !isBlank c) = behind at whole stop
  have proper := Text.isWord_name_append chars free
  have first : ∃ others, Text.words (name ++ ':' :: rest) = [name ++ ':' :: run] ++ others := by
    rw [← whole]
    cases behind with
    | nil => exact ⟨[], by rw [List.append_nil, List.append_nil, Text.words_word proper]⟩
    | cons d behind =>
      have blank : isBlank d = true := by simpa using stop
      have cut := Text.words_append_blank blank (name ++ ':' :: run) behind
      rw [Text.words_word proper, List.append_assoc, List.cons_append] at cut
      exact ⟨_, cut⟩
  obtain ⟨others, words⟩ := first
  rw [words]
  exact @endsValue_head_words ⟨name, false, run, []⟩ nonempty chars others

end Clause

namespace Query

variable {query : Query} {free : Text}

/-- If the text of the query is read back, the clauses that are found are those that are written. A
clause that is found elsewhere would leave the name of the last one at the beginning of the free
text, which would have kept the clause in its place. -/
theorem IsRestated.scan_toText_of_readsBack (restated : query.IsRestated)
    (distinct : query.fields.names.Nodup) (stands : query.freeText? = some free)
    (same : query.ReadsBack) : Clause.scan (Text.normalize query.toText) = query.clauses := by
  rcases List.eq_nil_or_concat query.clauses with clauseless | ⟨front, last, written⟩
  · rw [clauseless]
    by_contra found
    have counted :=
      restated.length_letters_le stands same (clauseless.trans (List.nil_append []).symm)
      (List.nil_append _).symm found
    have none : (letters ([].flatMap Clause.source)).length = 0 := rfl
    exact found (eq_nil_of_letters (by omega))
  · rw [List.concat_eq_append] at written
    have proper := restated.isWritten_clauses
    rw [written, List.forall_mem_append, List.forall_mem_singleton] at proper
    obtain ⟨front_written, last_written⟩ := proper
    have text : Text.normalize query.toText =
        Text.join [' '] (front.flatMap Clause.words ++ (last.words ++ Text.words free)) := by
      rw [restated.normalize_toText stands, written]
      simp
    have ends : Clause.EndsBefore (last.words ++ Text.words free) := by
      refine ⟨fun word member => ?_,
        Clause.endsValue_head_words last_written.name_nonempty last_written.name_chars _⟩
      rcases List.mem_append.mp member with inside | inside
      · exact (last_written.isWord_of_mem inside).spaceless
      · exact (Text.isWord_of_mem_words inside).spaceless
    have scanned : Clause.scan (Text.normalize query.toText) =
        front ++ Clause.scan (last.source ++ Clause.tail (Text.words free)) := by
      rw [text, Clause.scan_join front_written ends, Clause.tail_words, Clause.scan_space_cons]
    obtain ⟨clause, found, name, length, whole⟩ :=
      restated.exists_restating_alone distinct stands same written scanned
    have member : clause ∈ Clause.scan (Text.normalize query.toText) := by
      rw [scanned, found]
      simp
    have clause_written := Clause.isWritten_of_mem_scan member
    obtain ⟨left, blanks, before⟩ :=
      Clause.residue_join front_written (last.words ++ Text.words free)
    have begins := Clause.head?_source clause_written.name_nonempty clause_written.name_chars
    rw [residue_append, text, before, residue_cons, residue_nil,
      Text.eraseFirst_gap_append blanks clause.source_ne_nil begins,
      Clause.join_words_append] at whole
    suffices clause = last by rw [scanned, found, this, written]
    by_cases here : clause.source <+: last.source ++ Clause.tail (Text.words free)
    · exact clause_written.eq_of_prefix last_written here length
    · obtain ⟨rest, erased⟩ :=
        Clause.eraseFirst_of_not_prefix clause_written.name_nonempty
          clause_written.name_chars name here
      have first :=
        Clause.endsValue_head?_words last_written.name_nonempty last_written.name_chars rest
      rw [← Text.words_gap_append blanks, ← erased, ← Text.words_trim, ← whole] at first
      have last_ends : Clause.EndsBefore (Text.words free) :=
        ⟨fun word member => (Text.isWord_of_mem_words member).spaceless, first⟩
      rw [Clause.scan_source_append (last_written.isProper.at?_source_append last_ends)] at found
      exact (List.cons.inj found).1.symm

theorem connectivesIn_fullText {text : Text} (stands : free ∈ (parse text).fullText)
    (stated : Clause.scan (Text.normalize text) ≠ []) : connectivesIn free = [] := by
  rw [parse, ofNormalized_of_clauses stated] at stands
  simp only [mem_asFullText] at stands
  rw [stands.1, connectivesIn_trim, connectivesIn_withoutConnectives]

/-- The text of a parsed query with free text is read back if and only if the clauses that are
written are found in it, no others, and no doubled space stands in the free text. Free text without
colons becomes part of the value of the last clause, so that it is only read back where there is no
clause. A query that is read back selects the same records. -/
theorem readsBack_parse_iff {text : Text}
    (stands : free ∈ (parse text).fullText) (restated : (parse text).IsRestated) :
    let query := parse text
    (query.ReadsBack ↔ Text.normalize free = free ∧
      Clause.scan (Text.normalize query.toText) = query.clauses) ∧
      (':' ∉ free → (query.ReadsBack ↔
        Text.normalize free = free ∧ query.fields = [] ∧ query.dateFilters = [])) ∧
      (':' ∉ free → query.clauses ≠ [] → parse query.toText =
        { fields := Named.ofList
            ((parts (Clause.runOn (Text.words free) query.clauses)).filterMap Part.field?)
          dateFilters :=
            (parts (Clause.runOn (Text.words free) query.clauses)).filterMap Part.date? }) ∧
      (query.ReadsBack → ∀ records,
        (parse query.toText).select records = query.select records) := by
  intro query
  have wellFormed := isWellFormed_parse text
  have free_stands : query.freeText? = some free := by
    rw [freeText?_parse]
    exact stands
  have connectiveless (written : query.clauses ≠ []) : connectivesIn free = [] := by
    refine connectivesIn_fullText stands fun clauseless => written ?_
    simp only [query, parse, ofNormalized_of_clauseless clauseless]
    rfl
  have distinct : query.fields.names.Nodup := wellFormed.distinct
  have iff : query.ReadsBack ↔ Text.normalize free = free ∧
      Clause.scan (Text.normalize query.toText) = query.clauses := by
    have nonempty : free ≠ [] := wellFormed.fullText_nonempty free stands
    constructor
    · intro same
      have scanned := restated.scan_toText_of_readsBack distinct free_stands same
      refine ⟨?_, scanned⟩
      have full := same.fullText
      rw [restated.parse_toText_of_scan free_stands connectiveless scanned,
        fullText_of_freeText? free_stands] at full
      exact (mem_asFullText.mp full).1.symm
    · rintro ⟨normal, scanned⟩
      have read := restated.parse_toText_of_scan free_stands connectiveless scanned
      rw [normal] at read
      refine ⟨by rw [read, Named.ofList_of_nodup distinct], by rw [read], ?_⟩
      rw [read, fullText_of_freeText? free_stands]
      exact mem_asFullText.mpr ⟨rfl, nonempty⟩
  have runs_on (colonless : ':' ∉ free) (written : query.clauses ≠ []) :=
    restated.parse_toText_of_colonless free_stands written (connectiveless written) colonless
  have clauseless_iff : query.clauses = [] ↔ query.fields = [] ∧ query.dateFilters = [] := by
    simp [clauses]
  refine ⟨iff, fun colonless => ?_, runs_on, ReadsBack.select_eq⟩
  rw [← clauseless_iff, iff]
  refine and_congr_right fun normal => ⟨fun scanned => ?_, fun clauseless => ?_⟩
  · by_contra written
    have full := (iff.mpr ⟨normal, scanned⟩).fullText
    rw [runs_on colonless written, fullText_of_freeText? free_stands] at full
    exact Option.some_ne_none free full.symm
  · rw [restated.normalize_toText free_stands, clauseless]
    exact scan_of_colonless (Text.colonless_normalize colonless)

/-- A name without a value ends the value in front of it, and is kept apart. -/
theorem readsBack_parse_name :
    let text := "created:>=2024-01 title:\"big cat\" notes:".toList
    (parse text).toText = "title:\"big cat\" created:>=2024-01 notes:".toList ∧
      (parse text).fullText = some "notes:".toList ∧ (parse text).IsRestated ∧
      (parse text).ReadsBack ∧
      ∀ records, (parse (parse text).toText).select records = (parse text).select records := by
  intro text
  have stands : "notes:".toList ∈ (parse text).fullText := by decide +kernel
  have restated : (parse text).IsRestated := by decide +kernel
  have scanned : Text.normalize "notes:".toList = "notes:".toList ∧
      Clause.scan (Text.normalize (parse text).toText) = (parse text).clauses := by decide +kernel
  obtain ⟨iff, -, -, selects⟩ := readsBack_parse_iff stands restated
  have same := iff.mpr scanned
  exact ⟨by decide +kernel, stands, restated, same, selects same⟩

/-- The free text of this query becomes part of the date, which cannot be read any more, so that a
record that the query finds is not found by its text. -/
theorem free_text_runs_into_date :
    let query := parse "hooks title:\"design docs\" tags:a,b created:>2024-01-01".toList
    let stamp := Stamp.written "2024-05-01".toList
    let note : Record :=
      { id := ['1'], title := "Design docs: hooks".toList, kind := .known .note, tags := [['b']]
        created := stamp, updated := stamp }
    query.toText = "title:\"design docs\" tags:a,b created:>2024-01-01 hooks".toList ∧
      query.IsRestated ∧ query.fullText = some "hooks".toList ∧
      query.dateFilters = [⟨"created".toList, ['>'], "2024-01-01".toList⟩] ∧
      (parse query.toText).fields = query.fields ∧ (parse query.toText).fullText = none ∧
      (parse query.toText).dateFilters = [⟨"created".toList, ['>'], "2024-01-01 hooks".toList⟩] ∧
      (query.select [note]).map (List.map Record.id) = .ok [['1']] ∧
      ((parse query.toText).select [note]).map (List.map Record.id) = .ok [] := by
  decide +kernel

end Query
end RecordSearch
