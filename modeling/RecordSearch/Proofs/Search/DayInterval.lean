import RecordSearch.Proofs.Search.Offsets
import RecordSearch.Proofs.Timestamp.NextDay

/-! Asking for a day is asking for the moments from its beginning up to the beginning of the next
day. In any query one date filter can take the place of the two. -/
namespace RecordSearch

namespace Condition

variable {record : Record} {whole first second : Condition} {held other : Bool}

/-- A condition that says what two say together takes their place. -/
theorem allHold_split (whole_holds : whole.holds record = .ok (held && other))
    (first_holds : first.holds record = .ok held) (second_holds : second.holds record = .ok other)
    (before after : List Condition) :
    allHold record (before ++ whole :: after) =
      allHold record (before ++ first :: second :: after) := by
  induction before with
  | nil =>
    rw [List.nil_append, List.nil_append, allHold, allHold, allHold, whole_holds,
      first_holds, second_holds]
    cases held with
    | false => rfl
    | true =>
      cases other with
      | false => rfl
      | true => rfl
  | cons condition before ih => rw [List.cons_append, List.cons_append, allHold, allHold, ih]

theorem ofDateFilters_append (before after : List DateFilter) :
    ofDateFilters (before ++ after) =
      (ofDateFilters before).bind fun earlier =>
        (ofDateFilters after).map fun later => earlier ++ later := by
  induction before with
  | nil =>
    rw [List.nil_append, ofDateFilters]
    cases ofDateFilters after with
    | error => rfl
    | ok later => rfl
  | cons filter before ih =>
    rw [List.cons_append, ofDateFilters, ofDateFilters, ih]
    cases ofDateFilter filter with
    | error => rfl
    | ok own =>
      cases ofDateFilters before with
      | error => rfl
      | ok earlier =>
        cases ofDateFilters after with
        | error => rfl
        | ok later => exact congrArg Except.ok (List.append_assoc _ _ _).symm

theorem ofDateFilters_cons {filter : DateFilter} {condition : Condition}
    (stated : ofDateFilter filter = .ok (some condition)) (rest : List DateFilter) :
    ofDateFilters (filter :: rest) = (ofDateFilters rest).map fun others =>
      condition :: others := by
  rw [ofDateFilters, stated]
  cases ofDateFilters rest with
  | error => rfl
  | ok others => rfl

end Condition

/-- Where a date filter states what two others state together, they select the same records in its
place, and fail alike. -/
theorem Query.select_split {query : Query} {records : List Record} {whole first second : DateFilter}
    {whole_condition first_condition second_condition : Condition}
    (whole_stated : Condition.ofDateFilter whole = .ok (some whole_condition))
    (first_stated : Condition.ofDateFilter first = .ok (some first_condition))
    (second_stated : Condition.ofDateFilter second = .ok (some second_condition))
    (together : ∀ record ∈ records, ∃ held other,
      whole_condition.holds record = .ok (held && other) ∧
      first_condition.holds record = .ok held ∧
      second_condition.holds record = .ok other)
    {before after : List DateFilter} (there : query.dateFilters = before ++ whole :: after) :
    query.select records =
      ({ query with dateFilters := before ++ first :: second :: after } : Query).select
        records := by
  have free : ({ query with dateFilters := before ++ first :: second :: after } : Query).freeText? =
      query.freeText? := rfl
  simp only [select, conditions, there, free, Condition.ofDateFilters_append,
    Condition.ofDateFilters_cons whole_stated, Condition.ofDateFilters_cons first_stated,
    Condition.ofDateFilters_cons second_stated]
  cases Condition.ofDateFilters before with
  | error => rfl
  | ok earlier =>
    cases Condition.ofDateFilters after with
    | error => rfl
    | ok later =>
      refine keepIf_congr fun record member => ?_
      obtain ⟨held, other, whole_holds, first_holds, second_holds⟩ := together record member
      have same := Condition.allHold_split whole_holds first_holds second_holds
        (query.fields.filterMap (fun member => Condition.ofField? member.1 member.2) ++ earlier)
        (later ++ (query.freeText?.map Condition.anywhere).toList)
      simpa only [List.append_assoc, List.cons_append] using same

theorem Comparison.sameDay_holds {moment target start stop : Instant}
    (starts : start.IsStartOf target.date) (stops : stop.IsStartOf target.date.next) :
    sameDay.holds moment target = (notBefore.holds moment start && before.holds moment stop) := by
  rw [Bool.eq_iff_iff]
  simp only [holds, beq_iff_eq, Bool.and_eq_true, decide_eq_true_eq]
  exact Instant.date_eq_iff.symm.trans (Instant.date_eq_iff_between starts stops)

theorem Condition.holds_date {record : Record} {field : DateField} {read : Option Instant}
    (names : (field.stamp record).instant = .ok read) (comparison : Comparison) (target : Instant) :
    (Condition.date field comparison (some target)).holds record =
      .ok (read.any fun moment => comparison.holds moment target) := by
  rw [holds, names]
  rfl

namespace DateFilter

/-- The date of a record is on a day, in universal time. -/
def isOnDay (name : Text) (date : Date) (record : Record) : Bool :=
  ((DateField.ofName name).stamp record).moment?.any fun moment => decide (moment.date = date)

variable {operator text : Text} {comparison : Comparison} {moment : Instant}

theorem ofDateFilter_eq (known : Comparison.ofOperator? operator = some comparison)
    (read : Instant.ofText? text = .ok (some moment)) (name : Text) :
    Condition.ofDateFilter ⟨name, operator, text⟩ =
      .ok (some (.date (DateField.ofName name) comparison (some moment))) := by
  rw [Condition.ofDateFilter, known, read]
  rfl

/-- The records that are asked for by one date filter. -/
theorem select_alone {records : List Record}
    (known : Comparison.ofOperator? operator = some comparison)
    (read : Instant.ofText? text = .ok (some moment))
    (inYears : ∀ record ∈ records, record.IsInYears) (name : Text) :
    ({ dateFilters := [⟨name, operator, text⟩] } : Query).select records =
      .ok (records.filter fun record =>
        ((DateField.ofName name).stamp record).moment?.any fun other =>
          comparison.holds other moment) := by
  have stated : ({ dateFilters := [⟨name, operator, text⟩] } : Query).conditions =
      .ok [.date (DateField.ofName name) comparison (some moment)] := by
    rw [Query.conditions, Condition.ofDateFilters_cons (ofDateFilter_eq known read name)]
    rfl
  rw [Query.select, stated]
  refine keepIf_eq_filter fun record member => ?_
  obtain ⟨own, names⟩ := (inYears record member).stamp (DateField.ofName name)
  rw [Condition.allHold, Condition.holds_date names, Filters.moment?_of_instant names]
  cases own.any fun other => comparison.holds other moment with
  | false => rfl
  | true => rfl

end DateFilter

/-- A date filter for a day keeps the records whose date is on that day of universal time. So do two
filters, for the moments from the beginning of the day on and for those before the beginning of the
next, however the three dates are written; and in every query the one can stand for the two. -/
theorem select_day_eq_select_between {value : Text} {moment : Instant} {records : List Record}
    (read : Instant.ofText? value = .ok (some moment)) (early : moment.date ≠ Date.last)
    (inYears : ∀ record ∈ records, record.IsInYears) (name : Text) :
    ∃ start stop : Instant, start.IsStartOf moment.date ∧ stop.IsStartOf moment.date.next ∧
      Instant.ofText? start.toTimestamp.toText = .ok (some start) ∧
      Instant.ofText? stop.toTimestamp.toText = .ok (some stop) ∧
      ∀ startText stopText,
        Instant.ofText? startText = .ok (some start) → Instant.ofText? stopText = .ok (some stop) →
        let onDay : DateFilter := ⟨name, "=".toList, value⟩
        let since : DateFilter := ⟨name, ">=".toList, startText⟩
        let upTo : DateFilter := ⟨name, "<".toList, stopText⟩
        ({ dateFilters := [onDay] } : Query).select records =
            .ok (records.filter (DateFilter.isOnDay name moment.date)) ∧
          ({ dateFilters := [since, upTo] } : Query).select records =
            .ok (records.filter (DateFilter.isOnDay name moment.date)) ∧
          ∀ (query : Query) (before after : List DateFilter),
            query.dateFilters = before ++ onDay :: after →
            query.select records =
              ({ query with dateFilters := before ++ since :: upTo :: after } : Query).select
                records := by
  have valid := Instant.isValid_date moment
  obtain ⟨start, starts, start_written⟩ := Instant.exists_isStartOf valid
  obtain ⟨stop, stops, stop_written⟩ := Instant.exists_isStartOf (Date.isValid_next valid early)
  refine ⟨start, stop, starts, stops, start_written, stop_written,
    fun startText stopText start_read stop_read => ?_⟩
  intro onDay since upTo
  have day_known : Comparison.ofOperator? "=".toList = some .sameDay := by decide
  have start_known : Comparison.ofOperator? ">=".toList = some .notBefore := by decide
  have stop_known : Comparison.ofOperator? "<".toList = some .before := by decide
  have split (query : Query) (before after : List DateFilter)
      (there : query.dateFilters = before ++ onDay :: after) :
      query.select records =
        ({ query with dateFilters := before ++ since :: upTo :: after } : Query).select
        records := by
    refine Query.select_split (DateFilter.ofDateFilter_eq day_known read name)
      (DateFilter.ofDateFilter_eq start_known start_read name)
      (DateFilter.ofDateFilter_eq stop_known stop_read name) ?_ there
    intro record member
    obtain ⟨own, names⟩ := (inYears record member).stamp (DateField.ofName name)
    refine ⟨_, _, ?_, Condition.holds_date names _ _, Condition.holds_date names _ _⟩
    rw [Condition.holds_date names]
    cases own with
    | none => rfl
    | some own => exact congrArg Except.ok (Comparison.sameDay_holds starts stops)
  have alone : ({ dateFilters := [onDay] } : Query).select records =
      .ok (records.filter (DateFilter.isOnDay name moment.date)) := by
    have same (other : Instant) :
        Comparison.sameDay.holds other moment = decide (other.date = moment.date) := by
      rw [Bool.eq_iff_iff, Comparison.holds, beq_iff_eq, decide_eq_true_iff, Instant.date_eq_iff]
    rw [DateFilter.select_alone day_known read inYears]
    simp only [same]
    rfl
  exact ⟨alone, (split { dateFilters := [onDay] } [] [] rfl).symm.trans alone, split⟩

/-- A moment of the leap day, written with an offset that shows the month after it. -/
theorem select_day_eq_select_between_leap :
    let read (micros : Nat) (inYears : micros < microsOfAllYears) (offset : Int) :=
      Stamp.read ⟨micros, inYears, some offset⟩
    let record (name : Char) (stamp : Stamp) : Record :=
      { id := [name], title := [name], kind := .known .note, created := stamp, updated := stamp }
    let westward := record '1' (read 63844837200000000 (by decide) (-7200000000))
    let after := record '2' (read 63844848000000000 (by decide) 0)
    let unread := record '3' (.written "soon".toList)
    let records := [westward, after, unread]
    let moment : Instant := ⟨63844846200000000, by decide⟩
    let value := "2024-03-01T01:30+02:00".toList
    Instant.ofText? value = .ok (some moment) ∧ moment.date = ⟨2024, 2, 29⟩ ∧
      moment.date ≠ Date.last ∧
      moment.date.next = ⟨2024, 3, 1⟩ ∧ (∀ record ∈ records, record.IsInYears) ∧
      ({ dateFilters := [⟨"updated".toList, "=".toList, value⟩] } : Query).select records =
        .ok [westward] ∧
      ({ dateFilters := [⟨"updated".toList, ">=".toList, "2024-02-29".toList⟩,
          ⟨"updated".toList, "<".toList, "2024-03-01T05:00+05:00".toList⟩] } : Query).select
            records = .ok [westward] := by
  intro read record westward after unread records moment value
  have names : Instant.ofText? value = .ok (some moment) := by decide +kernel
  have date : moment.date = ⟨2024, 2, 29⟩ := by decide +kernel
  have early : moment.date ≠ Date.last := by
    rw [date]
    decide
  have next : moment.date.next = ⟨2024, 3, 1⟩ := by
    rw [date]
    decide
  have inYears : ∀ record ∈ records, record.IsInYears := by
    have westward_read : westward.updated.instant = .ok (some ⟨63844844400000000, by decide⟩) := by
      decide +kernel
    have after_read : after.updated.instant = .ok (some ⟨63844848000000000, by decide⟩) := by
      decide +kernel
    have unread_read : unread.updated.instant = .ok none := by decide +kernel
    simp only [records, List.forall_mem_cons]
    exact ⟨⟨⟨_, westward_read⟩, ⟨_, westward_read⟩⟩, ⟨⟨_, after_read⟩, ⟨_, after_read⟩⟩,
      ⟨⟨_, unread_read⟩, ⟨_, unread_read⟩⟩, by simp⟩
  have kept : records.filter (DateFilter.isOnDay "updated".toList ⟨2024, 2, 29⟩) = [westward] := by
    have westward_on : DateFilter.isOnDay "updated".toList ⟨2024, 2, 29⟩ westward = true := by
      decide +kernel
    have after_off : DateFilter.isOnDay "updated".toList ⟨2024, 2, 29⟩ after = false := by
      decide +kernel
    have unread_off : DateFilter.isOnDay "updated".toList ⟨2024, 2, 29⟩ unread = false := by
      decide +kernel
    rw [List.filter_cons_of_pos westward_on,
      List.filter_cons_of_neg (Bool.eq_false_iff.mp after_off),
      List.filter_cons_of_neg (Bool.eq_false_iff.mp unread_off), List.filter_nil]
  obtain ⟨start, stop, starts, stops, -, -, select⟩ :=
    select_day_eq_select_between names early inYears "updated".toList
  have start_read : Instant.ofText? "2024-02-29".toList = .ok (some start) := by
    rw [date] at starts
    have named : Instant.ofText? "2024-02-29".toList =
        .ok (some ⟨63844761600000000, by decide⟩) := by decide +kernel
    have first : Instant.IsStartOf ⟨2024, 2, 29⟩ ⟨63844761600000000, by decide⟩ := by decide +kernel
    rw [named, first.unique starts]
  have stop_read : Instant.ofText? "2024-03-01T05:00+05:00".toList = .ok (some stop) := by
    rw [next] at stops
    have named : Instant.ofText? "2024-03-01T05:00+05:00".toList =
        .ok (some ⟨63844848000000000, by decide⟩) := by
      decide +kernel
    have first : Instant.IsStartOf ⟨2024, 3, 1⟩ ⟨63844848000000000, by decide⟩ := by decide +kernel
    rw [named, first.unique stops]
  obtain ⟨alone, both, -⟩ := select _ _ start_read stop_read
  rw [date, kept] at alone both
  exact ⟨names, date, early, next, inYears, alone, both⟩

end RecordSearch
