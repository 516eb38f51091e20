import RecordSearch.Proofs.Search.Listing
import RecordSearch.Proofs.Steps
import RecordSearch.Record.Load

/-! When a search fails. Without filters only a date can make it fail: one of the query or of a
record that can be read but leaves the years 1 to 9999 in universal time, provided that the search
comes to look at it. -/
namespace RecordSearch

section

variable {α : Type}

/-- A list is not tested to its end if one of its members cannot be tested. -/
theorem keepIf_eq_error_iff {test : α → Except OutOfRange Bool} {members : List α} :
    keepIf test members = .error {} ↔ ∃ a ∈ members, test a = .error {} := by
  induction members with
  | nil => simp [keepIf]
  | cons a rest ih =>
    rw [keepIf, bind_eq_error_iff, List.exists_mem_cons_iff]
    cases tested : test a with
    | error => simp
    | ok passes => simp [bind_eq_error_iff, ih, pure, Except.pure]

theorem exists_eq_ok_of_ne {result : Except OutOfRange α} (fine : result ≠ .error {}) :
    ∃ a, result = .ok a := by
  cases result with
  | error => contradiction
  | ok a => exact ⟨a, rfl⟩

end

/-- The clock shows a time before the year 1 or behind the year 9999 of universal time. -/
def Timestamp.IsBeyondYears (timestamp : Timestamp) : Prop :=
  (timestamp.micros : Int) < timestamp.offset.getD 0 ∨
    (microsOfAllYears : Int) ≤ timestamp.micros - timestamp.offset.getD 0

theorem Timestamp.toInstant_eq_error_iff {timestamp : Timestamp} :
    timestamp.toInstant = .error {} ↔ timestamp.IsBeyondYears := by
  rw [toInstant, Instant.ofMicros?, IsBeyondYears]
  generalize timestamp.offset.getD 0 = offset
  split
  · next early =>
    split
    · simp
      omega
    · simp
      omega
  · simp
    omega

def Stamp.timestamp? : Stamp → Option Timestamp
  | .read timestamp => some timestamp
  | .written text => Iso.timestamp? (Text.trim text)

def Stamp.IsBeyondYears (stamp : Stamp) : Prop :=
  ∃ timestamp ∈ stamp.timestamp?, timestamp.IsBeyondYears

theorem Stamp.instant_eq_error_iff {stamp : Stamp} :
    stamp.instant = .error {} ↔ stamp.IsBeyondYears := by
  cases stamp with
  | read timestamp =>
    simp [instant, IsBeyondYears, timestamp?, map_eq_error_iff, Timestamp.toInstant_eq_error_iff]
  | written text =>
    rw [instant, Instant.ofText?, IsBeyondYears, timestamp?]
    cases Iso.timestamp? (Text.trim text) with
    | none => simp
    | some timestamp => simp [map_eq_error_iff, Timestamp.toInstant_eq_error_iff]

namespace Condition

/-- Only the comparison of a date of the record with a date that can be read may fail. -/
theorem holds_eq_error_iff {record : Record} {condition : Condition} :
    condition.holds record = .error {} ↔ ∃ field comparison target,
      condition = .date field comparison (some target) ∧ (field.stamp record).IsBeyondYears := by
  match condition with
  | .title _ => simp [holds]
  | .content _ => simp [holds]
  | .kind _ => simp [holds]
  | .tags _ => simp [holds]
  | .anywhere _ => simp [holds]
  | .date _ _ none => simp [holds]
  | .date field comparison (some target) =>
    simp [holds, map_eq_error_iff, Stamp.instant_eq_error_iff]

theorem allHold_cons_eq_error_iff {record : Record} {first : Condition} {rest : List Condition} :
    allHold record (first :: rest) = .error {} ↔
      first.holds record = .error {} ∨ first.holds record = .ok true ∧
        allHold record rest = .error {} := by
  rw [allHold, bind_eq_error_iff]
  simp [pure, Except.pure]

theorem allHold_cons_eq_true_iff {record : Record} {first : Condition} {rest : List Condition} :
    allHold record (first :: rest) = .ok true ↔ first.holds record = .ok true ∧
      allHold record rest = .ok true := by
  rw [allHold]
  cases first.holds record with
  | error => simp [bind, Except.bind]
  | ok answer =>
    cases answer with
    | false => simp [bind, Except.bind, pure, Except.pure]
    | true => simp [bind, Except.bind]

/-- A condition that cannot be settled is reached if all conditions before it are satisfied. -/
theorem allHold_eq_error_iff {record : Record} {conditions : List Condition} :
    allHold record conditions = .error {} ↔ ∃ before condition after,
      conditions = before ++ condition :: after ∧
      allHold record before = .ok true ∧ condition.holds record = .error {} := by
  constructor
  · intro failed
    induction conditions with
    | nil => contradiction
    | cons first rest ih =>
      rcases allHold_cons_eq_error_iff.mp failed with failed | ⟨settled, failed⟩
      · exact ⟨[], first, rest, rfl, rfl, failed⟩
      · obtain ⟨before, condition, after, rfl, satisfied, failed⟩ := ih failed
        exact ⟨first :: before, condition, after, rfl,
          allHold_cons_eq_true_iff.mpr ⟨settled, satisfied⟩, failed⟩
  · rintro ⟨before, condition, after, rfl, satisfied, failed⟩
    induction before with
    | nil => exact allHold_cons_eq_error_iff.mpr (.inl failed)
    | cons first before ih =>
      obtain ⟨settled, satisfied⟩ := allHold_cons_eq_true_iff.mp satisfied
      exact allHold_cons_eq_error_iff.mpr (.inr ⟨settled, ih satisfied⟩)

theorem ofDateFilter_eq_error_iff {filter : DateFilter} :
    ofDateFilter filter = .error {} ↔ filter.isSupported = true ∧
      (Stamp.written filter.value).IsBeyondYears := by
  rw [ofDateFilter, DateFilter.isSupported, ← Stamp.instant_eq_error_iff, Stamp.instant]
  cases Comparison.ofOperator? filter.operator with
  | none => simp
  | some comparison => simp [map_eq_error_iff]

theorem ofDateFilters_eq_error_iff {filters : List DateFilter} :
    ofDateFilters filters = .error {} ↔ ∃ filter ∈ filters, ofDateFilter filter = .error {} := by
  induction filters with
  | nil => simp [ofDateFilters]
  | cons filter rest ih =>
    rw [ofDateFilters, bind_eq_error_iff, List.exists_mem_cons_iff]
    cases stated : ofDateFilter filter with
    | error => simp
    | ok condition => simp [bind_eq_error_iff, ih, pure, Except.pure]

end Condition

namespace Query

/-- The query compares with a date that can be read and lies beyond the years 1 to 9999. -/
def ComparesBeyondYears (query : Query) : Prop :=
  ∃ filter ∈ query.dateFilters,
    filter.isSupported = true ∧ (Stamp.written filter.value).IsBeyondYears

theorem conditions_eq_error_iff {query : Query} :
    query.conditions = .error {} ↔ query.ComparesBeyondYears := by
  rw [conditions, bind_eq_error_iff, Condition.ofDateFilters_eq_error_iff, ComparesBeyondYears]
  simp [Condition.ofDateFilter_eq_error_iff, pure, Except.pure]

/-- The record satisfies all conditions in front of one that compares a date of the record with a
date that can be read, and the date of the record lies beyond the years 1 to 9999. -/
def ReachesBeyondYears (query : Query) (record : Record) : Prop :=
  ∃ before field comparison target after,
    query.conditions = .ok (before ++ .date field comparison (some target) :: after) ∧
      Condition.allHold record before = .ok true ∧ (field.stamp record).IsBeyondYears

theorem matches?_eq_error_iff {query : Query} {record : Record} :
    query.matches? record = .error {} ↔ query.ComparesBeyondYears ∨
      query.ReachesBeyondYears record := by
  rw [matches?, bind_eq_error_iff, conditions_eq_error_iff]
  refine or_congr_right ⟨?_, ?_⟩
  · rintro ⟨conditions, stated, failed⟩
    obtain ⟨before, condition, after, rfl, satisfied, failed⟩ :=
      Condition.allHold_eq_error_iff.mp failed
    obtain ⟨field, comparison, target, rfl, beyond⟩ := Condition.holds_eq_error_iff.mp failed
    exact ⟨before, field, comparison, target, after, stated, satisfied, beyond⟩
  · rintro ⟨before, field, comparison, target, after, stated, satisfied, beyond⟩
    refine ⟨_, stated, Condition.allHold_eq_error_iff.mpr ⟨before, _, after, rfl, satisfied, ?_⟩⟩
    exact Condition.holds_eq_error_iff.mpr ⟨field, comparison, target, rfl, beyond⟩

/-- Selecting records fails where the query cannot be turned into conditions, or one record cannot
be tested. -/
theorem select_eq_error_iff {query : Query} {records : List Record} :
    query.select records = .error {} ↔
      query.ComparesBeyondYears ∨ ∃ record ∈ records, query.ReachesBeyondYears record := by
  rw [select, bind_eq_error_iff, conditions_eq_error_iff]
  by_cases compares : query.ComparesBeyondYears
  · simp [compares]
  · obtain ⟨conditions, stated⟩ := exists_eq_ok_of_ne (compares ∘ conditions_eq_error_iff.mp)
    have tested (record : Record) :
        Condition.allHold record conditions = query.matches? record := by
      rw [matches?, stated]
      rfl
    simp [compares, stated, keepIf_eq_error_iff, tested, matches?_eq_error_iff]

end Query

/-- The order is one by a date, and that of the record lies beyond the years 1 to 9999. -/
def SortOrder.ReachesBeyondYears (order : SortOrder) (record : Record) : Prop :=
  ∃ date ∈ (SortField.ofName? order.field).bind SortField.date?, (date.stamp record).IsBeyondYears

theorem SortKey.of_eq_error_iff {record : Record} {field : SortField} :
    SortKey.of record field = .error {} ↔
      ∃ date ∈ field.date?, (date.stamp record).IsBeyondYears := by
  cases field with
  | createdAt =>
    simp [SortKey.of, SortField.date?, DateField.stamp, map_eq_error_iff,
      Stamp.instant_eq_error_iff]
  | updatedAt =>
    simp [SortKey.of, SortField.date?, DateField.stamp, map_eq_error_iff,
      Stamp.instant_eq_error_iff]
  | title => simp [SortKey.of, SortField.date?]
  | contentType => simp [SortKey.of, SortField.date?]

theorem withKeys_eq_error_iff {field : SortField} {records : List Record} :
    withKeys field records = .error {} ↔
      ∃ record ∈ records, SortKey.of record field = .error {} := by
  induction records with
  | nil => simp [withKeys]
  | cons record rest ih =>
    rw [withKeys, bind_eq_error_iff, List.exists_mem_cons_iff]
    cases read : SortKey.of record field with
    | error => simp
    | ok key => simp [bind_eq_error_iff, ih, pure, Except.pure]

/-- Sorting records from files fails only where it is by a date that lies beyond the years in one of
them. -/
theorem SortOrder.sort_eq_error_iff {order : SortOrder} {records : List Record}
    {error : SearchError} (proper : order.IsProper)
    (decoded : ∀ record ∈ records, record.IsDecoded) :
    order.sort records = .error error ↔
      error = .dateOutOfRange ∧ ∃ record ∈ records, order.ReachesBeyondYears record := by
  obtain ⟨⟨field, field_named⟩, ⟨direction, direction_named⟩⟩ := proper
  have beyond_iff : (∃ record ∈ records, order.ReachesBeyondYears record) ↔
      withKeys field records = .error {} := by
    simp [withKeys_eq_error_iff, SortKey.of_eq_error_iff, ReachesBeyondYears, field_named]
  rw [beyond_iff]
  by_cases failed : withKeys field records = .error {}
  · cases records with
    | nil => simp [withKeys] at failed
    | cons record rest =>
      simp [sort, direction_named, field_named, failed, dated, bind, Except.bind, eq_comm]
  · obtain ⟨keyed, read, -, ordered, -⟩ := withKeys_eq_ok fun record member =>
      SortKey.of_eq_ok (decoded record member) field fun date dates =>
        exists_eq_ok_of_ne fun lost =>
        failed (withKeys_eq_error_iff.mpr
          ⟨record, member,
              SortKey.of_eq_error_iff.mpr ⟨date, dates, Stamp.instant_eq_error_iff.mp lost⟩⟩)
    simp [sort_eq_arrange field_named direction_named read ordered, failed]

theorem RecordDefaults.isDecoded_of_mem_fill {defaults : RecordDefaults} {next : Nat}
    {drafts : List RecordDraft} {record : Record} (member : record ∈ defaults.fill next drafts) :
    record.IsDecoded := by
  induction drafts generalizing next with
  | nil => contradiction
  | cons draft rest ih =>
    rcases List.mem_cons.mp member with rfl | member
    · exact ⟨⟨_, rfl⟩, ⟨_, rfl⟩, ⟨_, rfl⟩⟩
    · exact ih member

namespace Record

variable {defaults : RecordDefaults} {records : List Record}

theorem isDecoded_of_ofDocument {document : Json.Document}
    (read : ofDocument defaults document = .ok records) : ∀ record ∈ records, record.IsDecoded := by
  intro record member
  cases document with
  | array items =>
    cases drafted : RecordDraft.ofItems 0 items with
    | error => simp [ofDocument, drafted, Except.map] at read
    | ok drafts =>
      obtain rfl : defaults.fill 1 drafts = records := by
        simpa [ofDocument, drafted, Except.map] using read
      exact RecordDefaults.isDecoded_of_mem_fill member
  | _ => contradiction

theorem isDecoded_of_ofText {text : Text} (read : ofText defaults text = .ok records) :
    ∀ record ∈ records, record.IsDecoded := by
  cases stated : ofDocument defaults (Json.read text).1 with
  | error => simp [ofText, stated, bind, Except.bind] at read
  | ok found =>
    simp only [ofText, stated, bind, Except.bind] at read
    split at read
    · obtain rfl := Except.ok.inj read
      exact isDecoded_of_ofDocument stated
    · contradiction

/-- Records that bytes state are as a file holds them. -/
theorem isDecoded_of_ofBytes {bytes : Bytes} (read : ofBytes defaults bytes = .ok records) :
    ∀ record ∈ records, record.IsDecoded := isDecoded_of_ofText read

end Record

namespace Service

variable {service : Service}

theorem find_eq_error_iff {query : Query} {sort : Option SortOrder} {error : SearchError}
    (decoded : ∀ record ∈ service.records, record.IsDecoded)
    (proper : (sort.getD service.defaultSort).IsProper) :
    service.find query none sort = .error error ↔ error = .dateOutOfRange ∧
      (query.ComparesBeyondYears ∨ ∃ record ∈ service.records, query.ReachesBeyondYears record ∨
        query.matches? record = .ok true ∧
            (sort.getD service.defaultSort).ReachesBeyondYears record) := by
  by_cases failed : query.select service.records = .error {}
  · have reason : query.ComparesBeyondYears ∨ ∃ record ∈ service.records,
        query.ReachesBeyondYears record ∨
        query.matches? record = .ok true ∧
          (sort.getD service.defaultSort).ReachesBeyondYears record :=
      (Query.select_eq_error_iff.mp failed).imp_right (Exists.imp fun _ => And.imp_right .inl)
    have found : service.find query none sort = .error .dateOutOfRange := by
      rw [find, failed]
      rfl
    rw [found, Except.error.injEq]
    exact ⟨fun same => ⟨same.symm, reason⟩, fun fails => fails.1.symm⟩
  · obtain ⟨compares, reaches⟩ := not_or.mp (failed ∘ Query.select_eq_error_iff.mpr)
    obtain ⟨conditions, stated⟩ := exists_eq_ok_of_ne (compares ∘ Query.conditions_eq_error_iff.mp)
    have selected :=
      Query.select_of_answers stated fun record member => exists_eq_ok_of_ne fun lost =>
      (Query.matches?_eq_error_iff.mp lost).elim compares fun reached =>
        reaches ⟨record, member, reached⟩
    have found : service.find query none sort = (sort.getD service.defaultSort).sort
        (service.records.filter fun record => decide (query.matches? record = .ok true)) := by
      rw [find, selected]
      rfl
    rw [found,
      SortOrder.sort_eq_error_iff proper fun record member =>
      decoded record (List.mem_filter.mp member).1]
    refine and_congr_right fun _ => ⟨?_, ?_⟩
    · rintro ⟨record, member, beyond⟩
      obtain ⟨inside, answers⟩ := List.mem_filter.mp member
      exact .inr ⟨record, inside, .inr ⟨of_decide_eq_true answers, beyond⟩⟩
    · rintro (compared | ⟨record, member, reached | ⟨answers, beyond⟩⟩)
      · exact absurd compared compares
      · exact absurd ⟨record, member, reached⟩ reaches
      · exact ⟨record, List.mem_filter.mpr ⟨member, decide_eq_true answers⟩, beyond⟩

/-- A search without filters that is not refused fails exactly where the query compares with a date
beyond the years 1 to 9999, or the search comes to look at such a date of a record, and always for
that reason. Otherwise it returns. -/
theorem search_eq_error_iff {request : SearchRequest} {error : SearchError}
    (decoded : ∀ record ∈ service.records, record.IsDecoded) (unfiltered : request.filters = none)
    (proper : (request.sort.getD service.defaultSort).IsProper) :
    service.search request = .error error ↔ error = .dateOutOfRange ∧ refuses request = false ∧
      ((Query.parse request.text).ComparesBeyondYears ∨ ∃ record ∈ service.records,
        (Query.parse request.text).ReachesBeyondYears record ∨
          (Query.parse request.text).matches? record = .ok true ∧
            (request.sort.getD service.defaultSort).ReachesBeyondYears record) := by
  rw [search]
  cases refused : refuses request with
  | true => simp
  | false =>
    rw [if_neg Bool.false_ne_true, queryOf_eq_parse, unfiltered, map_eq_error_iff,
      find_eq_error_iff decoded proper]
    simp

/-- A record from a file that was created before the year 1 in universal time, asked for by its
title or by another. -/
theorem search_eq_error_iff_titles :
    let defaults : RecordDefaults := ⟨fun _ => [], ⟨0, by decide, none⟩⟩
    let file :=
      "[\x7b\"title\":\"x\",\"contentType\":\"note\",\"createdAt\":\"0001-01-01T00:00:00+01:00\"\x7d]".toUTF8
    let request (clause : String) : SearchRequest :=
      { text := clause.toList ++ " created:>2024-01-01".toList }
    ∃ records, Record.ofBytes defaults file.data.toList = .ok records ∧
      (∀ record ∈ records, record.IsDecoded) ∧
      ({} : SortOrder).IsProper ∧
      ({ records } : Service).search (request "title:x") = .error .dateOutOfRange ∧
      ∀ error, ({ records } : Service).search (request "title:y") ≠ .error error := by
  intro defaults file request
  have run : (Record.ofBytes defaults file.data.toList).toOption.map (fun records =>
      records.map fun record =>
      ((Query.parse (request "title:x").text).matches? record,
          (Query.parse (request "title:y").text).matches? record)) =
        some [(.error {}, .ok false)] := by
    decide +kernel
  have within (clause : String)
      (stated : (Query.parse (request clause).text).conditions ≠ .error {}) :
      ¬ (Query.parse (request clause).text).ComparesBeyondYears :=
    stated ∘ Query.conditions_eq_error_iff.mpr
  have proper : ({} : SortOrder).IsProper := ⟨⟨.updatedAt, by decide⟩, ⟨.descending, by decide⟩⟩
  cases read : Record.ofBytes defaults file.data.toList with
  | error => simp [read, Except.toOption] at run
  | ok records =>
    rw [read] at run
    obtain ⟨note, rfl, tested⟩ := List.map_eq_singleton_iff.mp (Option.some.inj run)
    obtain ⟨found, missed⟩ := Prod.mk.inj tested
    have decoded := Record.isDecoded_of_ofBytes read
    have fails (clause : String) (error : SearchError) :=
      @search_eq_error_iff { records := [note] } (request clause) error decoded rfl proper
    refine ⟨[note], rfl, decoded, proper, ?_, fun error failed => ?_⟩
    · have reached :=
        (Query.matches?_eq_error_iff.mp found).resolve_left (within "title:x" (by decide +kernel))
      exact (fails "title:x" _).mpr ⟨rfl, rfl, .inr ⟨note, List.mem_singleton_self _, .inl reached⟩⟩
    · obtain ⟨-, -, compared | ⟨record, member, reached | ⟨answers, -⟩⟩⟩ :=
        (fails "title:y" error).mp failed
      · exact within "title:y" (by decide +kernel) compared
      · obtain rfl := List.mem_singleton.mp member
        have lost := Query.matches?_eq_error_iff.mpr (.inr reached)
        rw [missed] at lost
        contradiction
      · obtain rfl := List.mem_singleton.mp member
        rw [missed] at answers
        contradiction

/-- A record from a file that was changed before the year 1 in universal time cannot be listed, and
a query cannot ask for such a time even where there are no records. -/
theorem search_fails_beyond_years :
    let defaults : RecordDefaults := ⟨fun _ => [], ⟨0, by decide, none⟩⟩
    let file :=
      "[\x7b\"title\":\"\",\"contentType\":\"note\",\"updatedAt\":\"0001-01-01T00:00:00+01:00\"\x7d]".toUTF8
    ({} : SortOrder).IsProper ∧
      (∃ records, Record.ofBytes defaults file.data.toList = .ok records ∧
        ({ records } : Service).search { text := [] } = .error .dateOutOfRange) ∧
      ({ records := [] } : Service).search { text := "created:>0001-01-01T00+01".toList } =
        .error .dateOutOfRange := by
  intro defaults file
  have run : (Record.ofBytes defaults file.data.toList).toOption.map (fun records =>
      (({ records } : Service).search { text := [] }).map fun _ => ()) = some
        (.error .dateOutOfRange) := by
    decide +kernel
  have lost : (Query.parse "created:>0001-01-01T00+01".toList).conditions = .error {} := by
    decide +kernel
  refine ⟨⟨⟨.updatedAt, by decide⟩, ⟨.descending, by decide⟩⟩, ?_, ?_⟩
  · cases read : Record.ofBytes defaults file.data.toList with
    | error => simp [read, Except.toOption] at run
    | ok records =>
      rw [read] at run
      exact ⟨records, rfl, map_eq_error_iff.mp (Option.some.inj run)⟩
  · rw [search, if_neg (by decide), queryOf_eq_parse, map_eq_error_iff, find, Query.select, lost]
    rfl

end Service
end RecordSearch
