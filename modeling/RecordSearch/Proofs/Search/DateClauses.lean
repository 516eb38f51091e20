import RecordSearch.Proofs.Query.Canonical
import RecordSearch.Proofs.Search.Conjunction
import RecordSearch.Proofs.Text.Solid

/-! Where the value of a date clause is split. The operator is the whole run at its beginning
whenever something stands behind the run. A run with nothing behind it is split before its last
character, and that is no date. -/
namespace RecordSearch

open Query

def Clause.dateFilter? (clause : Clause) : Option DateFilter :=
  (Part.ofClause? clause.name (stripQuotes clause.value)).bind Part.date?

namespace DateFilter

def ofSplit (name : Text) (split : Text × Text) : DateFilter := ⟨name, split.1, Text.trim split.2⟩

/-- A value is split behind its whole operator, and nothing is stated if nothing follows the
operator. -/
structure KeepsOperator (value : Text) (stated : Option DateFilter) : Prop where
  unfinished : (∀ c ∈ value, isOperatorChar c = true) → stated = none
  whole : ∀ filter ∈ stated, (∀ c ∈ filter.operator, isOperatorChar c = true) ∧
    ∃ rest, value = filter.operator ++ rest ∧ ∀ c ∈ rest.head?, isOperatorChar c = false
  target : ∀ filter ∈ stated, ∀ c ∈ filter.value.head?, isOperatorChar c = false

/-- Two operator characters or more, and nothing else. -/
structure IsLoneRun (value : Text) : Prop where
  long : 2 ≤ value.length
  inside : ∀ c ∈ value, isOperatorChar c = true

/-- An operator, a gap, and a further operator character. -/
inductive HasSpacedOperator : Text → Prop
  | intro {operator gap rest : Text} {c : Char} : operator ≠ [] →
      (∀ c ∈ operator, isOperatorChar c = true) →
      gap ≠ [] → Text.IsGap gap → isOperatorChar c = true →
        HasSpacedOperator (operator ++ (gap ++ c :: rest))

variable {name value operator target rest : Text} {last c : Char} {split : Option (Text × Text)}

theorem isBlank_of_isOperatorChar (operatorChar : isOperatorChar c = true) : isBlank c = false := by
  rcases eq_of_isOperatorChar operatorChar with rfl | rfl | rfl | rfl <;> decide

theorem isOperatorChar_of_isBlank (blank : isBlank c = true) : isOperatorChar c = false := by
  by_contra operatorChar
  rw [isBlank_of_isOperatorChar (by simpa using operatorChar)] at blank
  contradiction

theorem dateFilter?_eq_map {clause : Clause} (dated : clause.name ∈ dateFields) :
    clause.dateFilter? = (splitOperator? (stripQuotes clause.value)).map (ofSplit clause.name) := by
  rw [Clause.dateFilter?, Part.ofClause?, if_pos dated]
  cases splitOperator? (stripQuotes clause.value) <;> rfl

theorem dateFilter?_concat {clause : Clause} (dated : clause.name ∈ dateFields)
    (value : stripQuotes clause.value = operator ++ [last])
    (inside : ∀ c ∈ operator ++ [last], isOperatorChar c = true) :
    clause.dateFilter? = if operator = [] then none else some ⟨clause.name, operator, [last]⟩ := by
  have solid := isBlank_of_isOperatorChar (inside last (by simp))
  have trimmed : Text.trim [last] = [last] := by simp [Text.trim, Text.dropWhileEnd, solid]
  rw [dateFilter?_eq_map dated, value, splitOperator?_concat inside]
  split
  · rfl
  · rw [Option.map_some, ofSplit, trimmed]

theorem head?_dropWhileEnd {p : Char → Bool} (stays : p c = false) (rest : Text) :
    (Text.dropWhileEnd p (c :: rest)).head? = some c := by
  rw [Text.dropWhileEnd, List.reverse_cons, List.dropWhile_append]
  split <;> simp [stays]

theorem exists_head?_trim_iff (ends : ∀ c ∈ target.head?, isOperatorChar c = false) :
    (∃ c ∈ (Text.trim target).head?, isOperatorChar c = true) ↔
      ∃ gap c rest, target = gap ++ c :: rest ∧ gap ≠ [] ∧ Text.IsGap gap ∧
        isOperatorChar c = true := by
  constructor
  · rintro ⟨c, head, operatorChar⟩
    obtain ⟨tail, trimmed⟩ := List.head?_eq_some_iff.mp head
    obtain ⟨gap, behind, blanks, -, whole⟩ := Text.exists_gaps_trim target
    rw [trimmed] at whole
    refine ⟨gap, c, tail ++ behind, whole, ?_, blanks, operatorChar⟩
    rintro rfl
    have other := ends c (by simp [whole])
    rw [operatorChar] at other
    contradiction
  · rintro ⟨gap, c, rest, rfl, -, blanks, operatorChar⟩
    have stays := isBlank_of_isOperatorChar operatorChar
    refine ⟨c, ?_, operatorChar⟩
    rw [Text.trim_gap_append blanks, Text.trim, List.dropWhile_cons_of_neg (by simp [stays])]
    exact head?_dropWhileEnd stays rest

theorem hasSpacedOperator_append_iff (nonempty : operator ≠ [])
    (inside : ∀ c ∈ operator, isOperatorChar c = true)
    (ends : ∀ c ∈ target.head?, isOperatorChar c = false) :
    HasSpacedOperator (operator ++ target) ↔ ∃ c ∈ (Text.trim target).head?,
      isOperatorChar c = true := by
  rw [exists_head?_trim_iff ends]
  constructor
  · intro spaced
    generalize whole : operator ++ target = value at spaced
    obtain @⟨other, gap, rest, c, -, others, gap_nonempty, blanks, operatorChar⟩ := spaced
    have gap_ends : ∀ d ∈ (gap ++ c :: rest).head?, isOperatorChar d = false := by
      obtain ⟨d, gap, rfl⟩ := List.exists_cons_of_ne_nil gap_nonempty
      rintro _ ⟨⟩
      exact isOperatorChar_of_isBlank (blanks d List.mem_cons_self)
    -- Both are the longest run at the beginning of the value.
    have same := congrArg (List.takeWhile isOperatorChar) whole
    rw [takeWhile_operator inside ends, takeWhile_operator others gap_ends] at same
    subst same
    exact ⟨gap, c, rest, List.append_cancel_left whole, gap_nonempty, blanks, operatorChar⟩
  · rintro ⟨gap, c, rest, rfl, gap_nonempty, blanks, operatorChar⟩
    exact .intro nonempty inside gap_nonempty blanks operatorChar

theorem keepsOperator_iff (isSplit : IsSplit value split) :
    KeepsOperator value (split.map (ofSplit name)) ↔
      ¬ IsLoneRun value ∧ ¬ HasSpacedOperator value := by
  cases isSplit with
  | @bare value begins =>
    have other {c : Char} {rest : Text} (whole : value = c :: rest)
        (operatorChar : isOperatorChar c = true) : False := by
      rw [begins c (by simp [whole])] at operatorChar
      contradiction
    refine iff_of_true ⟨fun _ => rfl, by simp, by simp⟩ ⟨fun lone => ?_, fun spaced => ?_⟩
    · obtain ⟨c, rest, rfl⟩ :=
        List.exists_cons_of_length_pos (Nat.lt_of_lt_of_le Nat.zero_lt_two lone.long)
      exact other rfl (lone.inside c List.mem_cons_self)
    · obtain ⟨nonempty, inside, -, -, -⟩ := spaced
      obtain ⟨c, operator, rfl⟩ := List.exists_cons_of_ne_nil nonempty
      exact other rfl (inside c List.mem_cons_self)
  | @alone c operatorChar =>
    have free : ¬ HasSpacedOperator ([c] ++ []) := by
      rw [hasSpacedOperator_append_iff (by simp) (by simpa using operatorChar) (by simp)]
      simp [Text.trim, Text.dropWhileEnd]
    refine iff_of_true ⟨fun _ => rfl, by simp, by simp⟩ ⟨fun lone => ?_, free⟩
    have long := lone.long
    simp at long
  | @short operator last nonempty inside =>
    refine iff_of_false (fun keeps => ?_) (fun shown => shown.1 ⟨?_, inside⟩)
    · have dropped := keeps.unfinished inside
      contradiction
    · have := List.length_pos_iff.mpr nonempty
      rw [List.length_append, List.length_singleton]
      omega
  | @whole operator target nonempty inside followed ends =>
    have unfinished : ¬ ∀ c ∈ operator ++ target, isOperatorChar c = true := by
      intro all
      obtain ⟨c, target, rfl⟩ := List.exists_cons_of_ne_nil followed
      have other := ends c rfl
      rw [all c (by simp)] at other
      contradiction
    rw [hasSpacedOperator_append_iff nonempty inside ends,
      and_iff_right fun lone => unfinished lone.inside]
    constructor
    · rintro keeps ⟨c, head, operatorChar⟩
      rw [keeps.target _ rfl c head] at operatorChar
      contradiction
    · intro free
      refine ⟨fun all => absurd all unfinished, ?_, ?_⟩
      · rintro filter ⟨⟩
        exact ⟨inside, target, rfl, ends⟩
      · rintro filter ⟨⟩ c head
        by_contra operatorChar
        exact free ⟨c, head, by simpa using operatorChar⟩

end DateFilter

namespace Query

/-- No record answers a query that compares with a date that cannot be read. -/
theorem not_answered_of_unread {query : Query} {filter : DateFilter}
    (member : filter ∈ query.dateFilters) (supported : filter.isSupported = true)
    (unread : Instant.ofText? filter.value = .ok none) (record : Record) :
    query.matches? record ≠ .ok true := by
  intro answered
  obtain ⟨comparison, known⟩ := Option.isSome_iff_exists.mp supported
  have stated : Condition.ofDateFilter filter =
      .ok (some (.date (DateField.ofName filter.field) comparison none)) := by
    rw [Condition.ofDateFilter, known, unread]
    rfl
  have held :=
    ((matches?_eq_true_iff (isInYears_of_matches? answered)).mp answered).2.1 filter member _ stated
  rw [Condition.holds] at held
  contradiction

theorem ofText?_operatorChar {last : Char} (operatorChar : isOperatorChar last = true) :
    Instant.ofText? [last] = .ok none := by
  rcases eq_of_isOperatorChar operatorChar with rfl | rfl | rfl | rfl <;> decide +kernel

/-- The date filters of a query are those that the values of its clauses on dates state. The
operator is kept whole unless the value is a run of two operator characters or more, or has a
further operator behind a gap. Such a run is split before its last character, and if what is left of
it compares dates, then no record answers the query. -/
theorem date_operators_whole_iff (text : Text) :
    (parse text).dateFilters = (Clause.scan (Text.normalize text)).filterMap Clause.dateFilter? ∧
      ∀ clause ∈ Clause.scan (Text.normalize text), clause.name ∈ dateFields →
        let value := stripQuotes clause.value
        (∃ split, IsSplit value split ∧
            clause.dateFilter? = split.map (DateFilter.ofSplit clause.name)) ∧
          (DateFilter.KeepsOperator value clause.dateFilter? ↔
            ¬ DateFilter.IsLoneRun value ∧ ¬ DateFilter.HasSpacedOperator value) ∧
          ∀ operator last, operator ≠ [] → value = operator ++ [last] →
            (∀ c ∈ value, isOperatorChar c = true) →
            clause.dateFilter? = some ⟨clause.name, operator, [last]⟩ ∧
              ((Comparison.ofOperator? operator).isSome = true →
                  ∀ record, (parse text).matches? record ≠ .ok true) := by
  have filters : (parse text).dateFilters =
      (Clause.scan (Text.normalize text)).filterMap Clause.dateFilter? := by
    rw [dateFilters_parse, parts, List.filterMap_filterMap]
    rfl
  refine ⟨filters, fun clause stands dated => ?_⟩
  intro value
  have isSplit := isSplit_splitOperator? value
  have stated := DateFilter.dateFilter?_eq_map dated
  refine ⟨⟨_, isSplit, stated⟩, ?_, fun operator last nonempty run inside => ?_⟩
  · rw [stated]
    exact DateFilter.keepsOperator_iff isSplit
  have split : clause.dateFilter? = some ⟨clause.name, operator, [last]⟩ := by
    rw [DateFilter.dateFilter?_concat dated run (by rwa [← run]), if_neg nonempty]
  refine ⟨split, fun supported => ?_⟩
  have member : ⟨clause.name, operator, [last]⟩ ∈ (parse text).dateFilters := by
    rw [filters]
    exact List.mem_filterMap.mpr ⟨clause, stands, split⟩
  exact not_answered_of_unread member supported (ofText?_operatorChar (inside last (by simp [run])))

theorem date_operators_whole_iff_mixed :
    let text := "created:>= updated:> =2024 created:'>2024-01-01'".toList
    let lone : Clause := ⟨"created".toList, false, ">=".toList, []⟩
    let spaced : Clause := ⟨"updated".toList, false, ">".toList, ["=2024".toList]⟩
    let dated : Clause := ⟨"created".toList, false, "'>2024-01-01'".toList, []⟩
    Clause.scan (Text.normalize text) = [lone, spaced, dated] ∧
      ¬ DateFilter.KeepsOperator (stripQuotes lone.value) lone.dateFilter? ∧
      ¬ DateFilter.KeepsOperator (stripQuotes spaced.value) spaced.dateFilter? ∧
      DateFilter.KeepsOperator (stripQuotes dated.value) dated.dateFilter? ∧
      lone.dateFilter? = some ⟨"created".toList, ['>'], ['=']⟩ ∧
      ∀ record, (parse text).matches? record ≠ .ok true := by
  intro text lone spaced dated
  have scanned : Clause.scan (Text.normalize text) = [lone, spaced, dated] := by decide +kernel
  have all := (date_operators_whole_iff text).2
  rw [scanned] at all
  obtain ⟨-, lone_kept, split⟩ := all lone (by simp) (by decide)
  obtain ⟨-, spaced_kept, -⟩ := all spaced (by simp) (by decide)
  obtain ⟨-, dated_kept, -⟩ := all dated (by simp) (by decide)
  have run : DateFilter.IsLoneRun (stripQuotes lone.value) :=
    ⟨by decide, List.all_eq_true.mp (by decide)⟩
  have further : DateFilter.HasSpacedOperator (stripQuotes spaced.value) :=
    @DateFilter.HasSpacedOperator.intro ['>'] [' '] "2024".toList '=' (by simp)
      (by simp [isOperatorChar]) (by simp)
      (by simp [Text.IsGap, isBlank]) (by decide)
  have closed : ¬ DateFilter.HasSpacedOperator (stripQuotes dated.value) :=
    (@DateFilter.hasSpacedOperator_append_iff ['>'] "2024-01-01".toList (by simp)
      (by simp [isOperatorChar])
      (by simp [isOperatorChar])).not.mpr
        (by simp [Text.trim, Text.dropWhileEnd, isBlank, isOperatorChar])
  obtain ⟨stated, unanswered⟩ := split ['>'] '=' (by simp) (by decide) run.inside
  refine ⟨scanned, fun kept => (lone_kept.mp kept).1 run,
    fun kept => (spaced_kept.mp kept).2 further,
    dated_kept.mpr ⟨fun lone => ?_, closed⟩, stated, unanswered (by decide)⟩
  have digit : isOperatorChar '2' = true := lone.inside '2' (by decide)
  exact absurd digit (by decide)

/-- An unfinished clause on a date is kept, with a part of its operator as the date, and hides a
record that is shown without the clause. -/
theorem unfinished_operator_split :
    let stamp := Stamp.read ⟨0, by decide, none⟩
    let record : Record :=
      { id := ['1'], title := [], kind := .known .note, created := stamp, updated := stamp }
    Clause.scan (Text.normalize "created:>=".toList) =
      [⟨"created".toList, false, ">=".toList, []⟩] ∧
      (stripQuotes ">=".toList).all isOperatorChar = true ∧
      (parse "created:>=".toList).dateFilters = [⟨"created".toList, ['>'], ['=']⟩] ∧
      (parse "created:>=".toList).matches? record = .ok false ∧
      (parse "created:>".toList).dateFilters = [] ∧
      (parse "created:>".toList).matches? record = .ok true ∧
      (parse "created:> =2024-01-01".toList).dateFilters =
      [⟨"created".toList, ['>'], "=2024-01-01".toList⟩] := by
  decide +kernel

end Query
end RecordSearch
