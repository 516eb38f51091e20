import RecordSearch.Proofs.Search.Failure

/-! A query is the conjunction of its parts. A record answers it if it satisfies the condition of
every field, of every date filter and of the free text, so the order of the parts does not matter,
and asking for the parts of two queries together is asking for one of them among what the other
finds. -/
namespace RecordSearch

namespace Condition

theorem allHold_eq_true_iff {record : Record} {conditions : List Condition} :
    allHold record conditions = .ok true ↔ ∀ condition ∈ conditions,
      condition.holds record = .ok true := by
  induction conditions with
  | nil => simp [allHold]
  | cons first rest ih => rw [allHold_cons_eq_true_iff, ih, List.forall_mem_cons]

theorem mem_ofDateFilters_iff {filters : List DateFilter} {conditions : List Condition}
    (stated : ofDateFilters filters = .ok conditions) (condition : Condition) :
    condition ∈ conditions ↔ ∃ filter ∈ filters, ofDateFilter filter = .ok (some condition) := by
  induction filters generalizing conditions with
  | nil =>
    obtain rfl := Except.ok.inj stated
    simp
  | cons filter rest ih =>
    cases first : ofDateFilter filter with
    | error =>
      rw [ofDateFilters, first] at stated
      contradiction
    | ok own =>
      cases later : ofDateFilters rest with
      | error =>
        rw [ofDateFilters, first, later] at stated
        contradiction
      | ok others =>
        rw [ofDateFilters, first, later] at stated
        obtain rfl : own.toList ++ others = conditions := Except.ok.inj stated
        rw [List.mem_append, ih later, List.exists_mem_cons_iff, first]
        simp [eq_comm]

theorem ofField?_ne_date {name : Text} {value : Value} {field : DateField} {comparison : Comparison}
    {target : Option Instant} : ofField? name value ≠ some (.date field comparison target) := by
  intro stated
  cases value with
  | list items =>
    rw [ofField?] at stated
    split at stated
    all_goals simp at stated
  | single text =>
    rw [ofField?] at stated
    repeat' split at stated
    all_goals simp at stated

end Condition

namespace Query

variable {query p q joint : Query} {record : Record}

/-- A record answers a query whose dates lie in the years 1 to 9999 if it satisfies what each part
asks for. -/
theorem matches?_eq_true_iff (inYears : query.IsInYears) :
    query.matches? record = .ok true ↔
      (∀ member ∈ query.fields, ∀ condition ∈ Condition.ofField? member.1 member.2,
        condition.holds record = .ok true) ∧
      (∀ filter ∈ query.dateFilters,
        ∀ condition, Condition.ofDateFilter filter = .ok (some condition) →
        condition.holds record = .ok true) ∧
      ∀ text ∈ query.freeText?, (Condition.anywhere text).holds record = .ok true := by
  obtain ⟨dates, dates_stated, -⟩ := Condition.ofDateFilters_eq_ok inYears
  have stated : query.conditions =
      .ok (query.fields.filterMap (fun field => Condition.ofField? field.1 field.2) ++
      dates ++ (query.freeText?.map Condition.anywhere).toList) := by
    rw [conditions, dates_stated]
    rfl
  have tested : query.matches? record = Condition.allHold record (query.fields.filterMap
      (fun field => Condition.ofField? field.1 field.2) ++ dates ++
        (query.freeText?.map Condition.anywhere).toList) := by
    rw [matches?, stated]
    rfl
  rw [tested, Condition.allHold_eq_true_iff]
  simp only [List.mem_append, List.mem_filterMap, Condition.mem_ofDateFilters_iff dates_stated,
    Option.mem_toList, Option.mem_def, Option.map_eq_some_iff]
  constructor
  · intro all
    refine ⟨?_, ?_, ?_⟩
    · intro member inside condition here
      exact all condition (.inl (.inl ⟨member, inside, here⟩))
    · intro filter inside condition here
      exact all condition (.inl (.inr ⟨filter, inside, here⟩))
    · intro text here
      exact all _ (.inr ⟨text, here, rfl⟩)
  · rintro ⟨fields, filters,
        free⟩ condition ((⟨member, inside, here⟩ | ⟨filter, inside, here⟩) | ⟨text, here, rfl⟩)
    · exact fields member inside condition here
    · exact filters filter inside condition here
    · exact free text here

/-- A query that a record answers compares with dates of the years 1 to 9999 only. -/
theorem isInYears_of_matches? (answered : query.matches? record = .ok true) : query.IsInYears := by
  intro filter member supported
  cases read : Instant.ofText? filter.value with
  | ok target => exact ⟨target, rfl⟩
  | error =>
    have beyond : (Stamp.written filter.value).IsBeyondYears := Stamp.instant_eq_error_iff.mp read
    have failed : query.matches? record = .error {} :=
      matches?_eq_error_iff.mpr (.inl ⟨filter, member, supported, beyond⟩)
    rw [answered] at failed
    contradiction

/-- A query without date filters never fails, whatever dates the records have. -/
theorem select_of_dateless (dateless : query.dateFilters = []) (records : List Record) :
    query.select records =
      .ok (records.filter fun record => decide (query.matches? record = .ok true)) := by
  have inYears : query.IsInYears := by simp [IsInYears, dateless]
  obtain ⟨dates, stated, each⟩ := conditions_eq_ok inYears
  rw [dateless, List.filter_nil, List.forall₂_nil_left_iff] at each
  subst each
  refine select_of_answers stated ?_
  intro record _
  apply exists_eq_ok_of_ne
  intro failed
  rcases matches?_eq_error_iff.mp failed
    with ⟨filter, member, -⟩ | ⟨before, field, comparison, target, after, same, -⟩
  · rw [dateless] at member
    contradiction
  · have member : Condition.date field comparison (some target) ∈
        before ++ .date field comparison (some target) :: after := by
      simp
    rw [← Except.ok.inj (stated.symm.trans same), List.append_nil] at member
    rcases List.mem_append.mp member with fields | free
    · obtain ⟨_, -, here⟩ := List.mem_filterMap.mp fields
      exact Condition.ofField?_ne_date here
    · simp at free

/-- The query asks for what two queries ask for together: for all fields and all date filters of
both, in any order, and for the free text of the one that has any. -/
structure Joins (joint p q : Query) : Prop where
  fields : joint.fields.Perm (p.fields ++ q.fields)
  dateFilters : joint.dateFilters.Perm (p.dateFilters ++ q.dateFilters)
  oneText : p.freeText? = none ∨ q.freeText? = none
  freeText : joint.freeText? = p.freeText?.or q.freeText?

theorem Joins.isInYears (joins : joint.Joins p q) (p_inYears : p.IsInYears)
    (q_inYears : q.IsInYears) : joint.IsInYears := by
  intro filter member supported
  rcases List.mem_append.mp (joins.dateFilters.mem_iff.mp member) with inside | inside
  · exact p_inYears filter inside supported
  · exact q_inYears filter inside supported

theorem Joins.mem_freeText?_iff (joins : joint.Joins p q) (text : Text) :
    text ∈ joint.freeText? ↔ text ∈ p.freeText? ∨ text ∈ q.freeText? := by
  rw [joins.freeText]
  rcases joins.oneText with none | none
  · simp [none]
  · simp [none]

/-- The records that answer the joint query are those that answer both. -/
theorem Joins.matches?_iff (joins : joint.Joins p q) (p_inYears : p.IsInYears)
    (q_inYears : q.IsInYears) :
    joint.matches? record = .ok true ↔ p.matches? record = .ok true ∧
      q.matches? record = .ok true := by
  rw [matches?_eq_true_iff (joins.isInYears p_inYears q_inYears), matches?_eq_true_iff p_inYears,
    matches?_eq_true_iff q_inYears]
  simp only [joins.fields.mem_iff, joins.dateFilters.mem_iff, joins.mem_freeText?_iff,
    List.mem_append, or_imp, forall_and]
  tauto

/-- Asking for the parts of two queries together, in whatever order and with whatever connectives
between them, is asking for either of them among what the other finds. What is found stands in the
order of the records, no part that is added lets more of them through, and asking again leaves out
nothing more. -/
theorem select_joint {records : List Record} (p_inYears : p.IsInYears) (q_inYears : q.IsInYears)
    (inYears : ∀ record ∈ records, record.IsInYears) :
    ∃ first second both, p.select records = .ok first ∧ q.select records = .ok second ∧
      q.select first = .ok both ∧ p.select second = .ok both ∧
      (∀ joint : Query, joint.Joins p q → joint.select records = .ok both) ∧
      first.Sublist records ∧ both.Sublist first ∧ both.Sublist second ∧
        p.select first = .ok first := by
  let answers (query : Query) (record : Record) : Bool := decide (query.matches? record = .ok true)
  have kept_inYears (keep : Record → Bool) : ∀ record ∈ records.filter keep, record.IsInYears := by
    intro record member
    exact inYears record (List.mem_filter.mp member).1
  refine ⟨records.filter (answers p), records.filter (answers q),
    (records.filter (answers p)).filter (answers q),
    select_eq_filter p_inYears inYears, select_eq_filter q_inYears inYears,
    select_eq_filter q_inYears (kept_inYears _), ?_, ?_, List.filter_sublist,
        List.filter_sublist, ?_, ?_⟩
  · rw [select_eq_filter p_inYears (kept_inYears _), List.filter_comm]
  · intro joint joins
    rw [select_eq_filter (joins.isInYears p_inYears q_inYears) inYears, List.filter_filter]
    refine congrArg Except.ok (List.filter_congr ?_)
    intro record _
    simp [answers, joins.matches?_iff p_inYears q_inYears, Bool.and_comm]
  · rw [List.filter_comm]
    exact List.filter_sublist
  · rw [select_eq_filter p_inYears (kept_inYears _), List.filter_filter]
    simp [answers]

/-- A list of tags, a field that records do not have and an operator that is no comparison, joined
with a field, a date and free text. One record has no content, and stands twice. -/
theorem select_joint_mixed :
    let noted := Stamp.read ⟨63839664000000000, by decide, some 3600000000⟩
    let note : Record :=
      { id := ['1'], title := "old cat".toList, kind := .known .note, tags := ["ABC".toList],
        created := noted, updated := .written "2024-05-01".toList }
    let link : Record :=
      { id := ['2'], title := "old".toList, kind := .known .link, content := some "a dog".toList,
        tags := [['b']], created := noted, updated := noted }
    let p : Query :=
      { fields := [("tags".toList, .list [['x'], ['b']]), ("bogus".toList, .single ['y'])]
        dateFilters :=
          [⟨"created".toList, ">=".toList, "2023-12-31T23:00Z".toList⟩,
              ⟨"updated".toList, ['!'], ['?']⟩] }
    let q : Query :=
      { fields := [("content".toList, .single "CAT".toList)]
        dateFilters := [⟨"updated".toList, ['<'], "2024-06-30".toList⟩]
        fullText := some "Old".toList }
    let joint : Query :=
      { fields := [("bogus".toList, .single ['y']), ("content".toList, .single "CAT".toList),
          ("tags".toList, .list [['x'], ['b']])]
        dateFilters := [⟨"created".toList, ">=".toList, "2023-12-31T23:00Z".toList⟩,
          ⟨"updated".toList, ['<'], "2024-06-30".toList⟩, ⟨"updated".toList, ['!'], ['?']⟩]
        connectives := ["OR".toList]
        fullText := some "Old".toList }
    p.IsInYears ∧ q.IsInYears ∧ (∀ record ∈ [note, link, note], record.IsInYears) ∧
      joint.Joins p q ∧
      ∃ first both, p.select [note, link, note] = .ok first ∧ q.select first = .ok both ∧
        joint.select [note, link, note] = .ok both ∧ first.map Record.id = [['1'], ['2'], ['1']] ∧
        both.map Record.id = [['1'], ['1']] := by
  intro noted note link p q joint
  have stamped : noted.instant = .ok (some ⟨63839660400000000, by decide⟩) := by decide +kernel
  have written : (Stamp.written "2024-05-01".toList).instant =
      .ok (some ⟨63850118400000000, by decide⟩) := by
    decide +kernel
  have inYears : ∀ record ∈ [note, link, note], record.IsInYears := by
    have note_inYears : note.IsInYears := ⟨⟨_, stamped⟩, ⟨_, written⟩⟩
    have link_inYears : link.IsInYears := ⟨⟨_, stamped⟩, ⟨_, stamped⟩⟩
    simp [note_inYears, link_inYears]
  have p_inYears : p.IsInYears := by
    intro filter member supported
    rcases List.mem_pair.mp member with rfl | rfl
    · exact ⟨some ⟨63839660400000000, by decide⟩, by decide +kernel⟩
    · exact absurd supported (by decide)
  have q_inYears : q.IsInYears := by
    intro filter member _
    obtain rfl := List.mem_singleton.mp member
    exact ⟨some ⟨63855302400000000, by decide⟩, by decide +kernel⟩
  have joins : joint.Joins p q := ⟨by decide, by decide, .inl rfl, rfl⟩
  obtain ⟨first, second, both, first_found, -, both_found, -, joined, -⟩ :=
    select_joint p_inYears q_inYears inYears
  have joint_found := joined joint joins
  have first_ids : (p.select [note, link, note]).map (List.map Record.id) =
      .ok [['1'], ['2'], ['1']] := by
    decide +kernel
  have both_ids : (joint.select [note, link, note]).map (List.map Record.id) =
      .ok [['1'], ['1']] := by
    decide +kernel
  rw [first_found] at first_ids
  rw [joint_found] at both_ids
  exact ⟨p_inYears, q_inYears, inYears, joins, first, both, first_found, both_found, joint_found,
    Except.ok.inj first_ids, Except.ok.inj both_ids⟩

end Query
end RecordSearch
