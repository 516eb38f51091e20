import RecordSearch.Proofs.Search.Conjunction

/-! Filters chosen beside the query say nothing that a query could not say. Their tags are a list of
tags, the bounds of their range are date filters on the creation, and their kinds of content are
those of which one has to be asked for. -/
namespace RecordSearch

namespace Filters

def boundFilter? (operator : Text) : Option Stamp → Option DateFilter
  | some (.written text) => some ⟨"created".toList, operator, text⟩
  | _ => none

def rangeFilters (range : DateRange) : List DateFilter :=
  (boundFilter? ">=".toList range.start).toList ++ (boundFilter? "<=".toList range.stop).toList

def query (filters : Filters) : Query where
  fields := if filters.tags = [] then [] else [("tags".toList, .list filters.tags)]
  dateFilters := (filters.dateRange.map rangeFilters).getD []

def kindQuery (name : Text) : Query := { fields := [("type".toList, .single name)] }

/-- The bound is missing, or it is a text that names an instant. -/
def NamesInstant (bound : Option Stamp) : Prop :=
  ∀ stamp ∈ bound, ∃ text moment, stamp = .written text ∧ Instant.ofText? text = .ok (some moment)

/-- The filters choose from the kinds of content, and their bounds name instants. -/
structure IsNamed (filters : Filters) : Prop where
  kinds : ∀ name ∈ filters.contentTypes, ∃ type, ContentType.ofName? name = some type
  start : ∀ range ∈ filters.dateRange, NamesInstant range.start
  stop : ∀ range ∈ filters.dateRange, NamesInstant range.stop

theorem ofOperator?_lower : Comparison.ofOperator? ">=".toList = some .notBefore := by decide

theorem ofOperator?_upper : Comparison.ofOperator? "<=".toList = some .notAfter := by decide

variable {filters : Filters} {range : DateRange} {bound : Option Stamp} {record : Record}
  {moment : Instant}

/-- A bound that names an instant is not the empty text, which would leave its side open. -/
theorem bound_eq_ok (named : NamesInstant bound) : ∃ limit, DateRange.bound bound = .ok limit := by
  match bound with
  | none => exact ⟨none, rfl⟩
  | some (.read _) =>
    obtain ⟨text, limit, same, -⟩ := named _ rfl
    contradiction
  | some (.written []) => exact ⟨none, rfl⟩
  | some (.written (c :: rest)) =>
    obtain ⟨text, limit, same, read⟩ := named _ rfl
    obtain rfl := Stamp.written.inj same
    exact ⟨some limit, read⟩

theorem IsNamed.isProper (named : filters.IsNamed) : filters.IsProper where
  kinds := named.kinds
  start range member := bound_eq_ok (named.start range member)
  stop range member := bound_eq_ok (named.stop range member)

theorem ofDateFilter_boundFilter? {operator : Text} {comparison : Comparison} {filter : DateFilter}
    (known : Comparison.ofOperator? operator = some comparison) (named : NamesInstant bound)
    (member : filter ∈ boundFilter? operator bound) :
    ∃ limit, bound.bind Stamp.moment? = some limit ∧
      Instant.ofText? filter.value = .ok (some limit) ∧
      Condition.ofDateFilter filter = .ok (some (.date .created comparison (some limit))) := by
  match bound with
  | none => contradiction
  | some (.read _) => contradiction
  | some (.written text) =>
    obtain ⟨_, limit, same, read⟩ := named _ rfl
    obtain rfl := Stamp.written.inj same
    obtain rfl := Option.some.inj member
    refine ⟨limit, ?_, read, ?_⟩
    · rw [Option.bind_some]
      exact moment?_of_instant read
    · simp only [Condition.ofDateFilter, known, read]
      rfl

/-- A record satisfies the date filter of a bound if its date of creation compares so with the
bound. -/
theorem holds_boundFilter?_iff {operator : Text} {comparison : Comparison}
    (known : Comparison.ofOperator? operator = some comparison) (named : NamesInstant bound)
    (read : record.created.instant = .ok (some moment)) :
    (∀ filter ∈ boundFilter? operator bound,
      ∀ condition, Condition.ofDateFilter filter = .ok (some condition) →
        condition.holds record = .ok true) ↔
      ∀ limit ∈ bound.bind Stamp.moment?, comparison.holds moment limit = true := by
  have held (limit : Instant) : (Condition.date .created comparison (some limit)).holds record =
      .ok (comparison.holds moment limit) := by
    rw [Condition.holds, DateField.stamp, read]
    rfl
  constructor
  · intro all limit here
    cases bound with
    | none => contradiction
    | some stamp =>
      cases stamp with
      | read _ =>
        obtain ⟨text, _, same, -⟩ := named _ rfl
        contradiction
      | written text =>
        obtain ⟨own, same, -, stated⟩ := ofDateFilter_boundFilter? known named rfl
        obtain rfl : own = limit := Option.some.inj (same.symm.trans here)
        have satisfied := all _ rfl _ stated
        rw [held] at satisfied
        exact Except.ok.inj satisfied
  · intro all filter member condition stated
    obtain ⟨limit, here, -, own⟩ := ofDateFilter_boundFilter? known named member
    obtain rfl := Option.some.inj (Except.ok.inj (own.symm.trans stated))
    rw [held, all limit here]

theorem mem_dateFilters_query {filter : DateFilter} :
    filter ∈ filters.query.dateFilters ↔ ∃ range ∈ filters.dateRange,
      filter ∈ boundFilter? ">=".toList range.start ∨
        filter ∈ boundFilter? "<=".toList range.stop := by
  cases chosen : filters.dateRange with
  | none => simp [query, chosen]
  | some range => simp [query, chosen, rangeFilters]

theorem isInYears_query (named : filters.IsNamed) : filters.query.IsInYears := by
  intro filter member _
  obtain ⟨range, chosen, lower | upper⟩ := mem_dateFilters_query.mp member
  · obtain ⟨limit, -, read, -⟩ :=
      ofDateFilter_boundFilter? ofOperator?_lower (named.start range chosen) lower
    exact ⟨_, read⟩
  · obtain ⟨limit, -, read, -⟩ :=
      ofDateFilter_boundFilter? ofOperator?_upper (named.stop range chosen) upper
    exact ⟨_, read⟩

theorem matches?_kindQuery_iff (name : Text) :
    (kindQuery name).matches? record = .ok true ↔ record.kind.name = name := by
  have inYears : (kindQuery name).IsInYears := fun _ member _ => absurd member List.not_mem_nil
  have stated : Condition.ofField? "type".toList (.single name) = some (.kind name) := rfl
  rw [Query.matches?_eq_true_iff inYears, kindQuery]
  simp only [List.forall_mem_singleton, stated, Option.mem_def, Option.some.injEq, forall_eq',
    Condition.holds]
  simp [Query.freeText?]

/-- A record answers the query of the filters if it has one of the tags and was created within the
range. -/
theorem matches?_query_iff (named : filters.IsNamed)
    (read : record.created.instant = .ok (some moment)) :
    filters.query.matches? record = .ok true ↔
      (filters.tags ≠ [] →
          ∃ wanted ∈ filters.tags, ∃ tag ∈ record.tags, Text.holds wanted tag = true) ∧
        ∀ range ∈ filters.dateRange, range.Admits record := by
  rw [Query.matches?_eq_true_iff (isInYears_query named)]
  refine and_congr ?_ ?_
  · by_cases inactive : filters.tags = []
    · simp [query, inactive]
    · have stated : Condition.ofField? "tags".toList (.list filters.tags) =
          some (.tags filters.tags) := rfl
      rw [query, if_neg inactive]
      simp only [List.forall_mem_singleton, stated, Option.mem_def, Option.some.injEq, forall_eq',
        Condition.holds]
      simp [inactive, Condition.tagged]
  · have textless : filters.query.freeText? = none := rfl
    rw [textless]
    simp only [mem_dateFilters_query]
    have bounds (range : DateRange) (chosen : range ∈ filters.dateRange) :=
      and_congr (holds_boundFilter?_iff ofOperator?_lower (named.start range chosen) read)
        (holds_boundFilter?_iff ofOperator?_upper (named.stop range chosen) read)
    have admits (range : DateRange) : range.Admits record ↔
        (∀ limit ∈ range.start.bind Stamp.moment?, Comparison.notBefore.holds moment limit = true) ∧
          ∀ limit ∈ range.stop.bind Stamp.moment?,
            Comparison.notAfter.holds moment limit = true := by
      rw [DateRange.Admits, moment?_of_instant read]
      simp [Comparison.holds]
    constructor
    · rintro ⟨all, -⟩ range chosen
      rw [admits, ← bounds range chosen]
      exact ⟨fun filter lower => all filter ⟨range, chosen, .inl lower⟩,
        fun filter upper => all filter ⟨range, chosen, .inr upper⟩⟩
    · intro all
      refine ⟨?_, by simp⟩
      rintro filter ⟨range, chosen, side⟩
      obtain ⟨lower, upper⟩ := (bounds range chosen).mpr ((admits range).mp (all range chosen))
      rcases side with here | here
      · exact lower filter here
      · exact upper filter here

/-- The filters keep what their query finds, without the records of a kind that is not chosen where
kinds are. -/
theorem select_eq_select_query {records : List Record} (named : filters.IsNamed)
    (decoded : ∀ record ∈ records, record.IsDecoded)
    (inYears : ∀ record ∈ records, record.IsInYears) :
    ∃ found, filters.query.select records = .ok found ∧
      filters.select records = .ok (found.filter fun record => decide (filters.contentTypes ≠ [] →
        ∃ name ∈ filters.contentTypes, (kindQuery name).matches? record = .ok true)) := by
  refine ⟨_, Query.select_eq_filter (isInYears_query named) inYears, ?_⟩
  rw [select_eq_filter named.isProper decoded inYears, List.filter_filter]
  refine congrArg Except.ok (List.filter_congr ?_)
  intro record member
  obtain ⟨moment, read⟩ := created_eq_ok (decoded record member) (inYears record member)
  rw [Bool.eq_iff_iff]
  simp [matches?_kindQuery_iff, matches?_query_iff named read, Filters.Admits]

/-- All filters at once, with a bound in another offset that the first record meets exactly. -/
theorem select_eq_select_query_bounds :
    let early := Stamp.read ⟨63839664000000000, by decide, some 3600000000⟩
    let late := Stamp.read ⟨63855302400000001, by decide, none⟩
    let note : Record :=
      { id := ['1'], title := [], kind := .known .note, tags := ["Abc".toList], created := early,
        updated := late }
    let video : Record :=
      { id := ['2'], title := [], kind := .known .video, tags := ["xb".toList], created := early,
        updated := late }
    let link : Record :=
      { id := ['3'], title := [], kind := .known .link, tags := ["b".toList], created := late,
        updated := late }
    let filters : Filters :=
      { contentTypes := ["link".toList, "note".toList]
        tags := [['z'], ['B']]
        dateRange :=
          some { start := some (.written "2023-12-31T22-01".toList), stop :=
              some (.written " 20240630 ".toList) } }
    filters.IsNamed ∧ (∀ record ∈ [note, video, link, note], record.IsDecoded) ∧
      (∀ record ∈ [note, video, link, note], record.IsInYears) ∧
      ∃ found, filters.query.select [note, video, link, note] = .ok found ∧
        found.map Record.id = [['1'], ['2'], ['1']] ∧
        filters.select [note, video, link,
          note] = .ok (found.filter fun record => decide (filters.contentTypes ≠ [] →
          ∃ name ∈ filters.contentTypes, (kindQuery name).matches? record = .ok true)) := by
  intro early late note video link filters
  have early_read : early.instant = .ok (some ⟨63839660400000000, by decide⟩) := by decide +kernel
  have late_read : late.instant = .ok (some ⟨63855302400000001, by decide⟩) := by decide +kernel
  have named : filters.IsNamed := by
    refine ⟨?_, ?_, ?_⟩
    · intro name member
      rcases List.mem_pair.mp member with rfl | rfl
      · exact ⟨.link, by decide⟩
      · exact ⟨.note, by decide⟩
    · rintro range ⟨⟩ stamp ⟨⟩
      exact ⟨_, ⟨63839660400000000, by decide⟩, rfl, by decide +kernel⟩
    · rintro range ⟨⟩ stamp ⟨⟩
      exact ⟨_, ⟨63855302400000000, by decide⟩, rfl, by decide +kernel⟩
  have decoded : ∀ record ∈ [note, video, link, note], record.IsDecoded := by
    simp [Record.IsDecoded, note, video, link, early, late]
  have inYears : ∀ record ∈ [note, video, link, note], record.IsInYears := by
    have note_inYears : note.IsInYears := ⟨⟨_, early_read⟩, ⟨_, late_read⟩⟩
    have video_inYears : video.IsInYears := ⟨⟨_, early_read⟩, ⟨_, late_read⟩⟩
    have link_inYears : link.IsInYears := ⟨⟨_, late_read⟩, ⟨_, late_read⟩⟩
    simp [note_inYears, video_inYears, link_inYears]
  obtain ⟨found, asked, kept⟩ := select_eq_select_query named decoded inYears
  have ids : (filters.query.select [note, video, link, note]).map (List.map Record.id) =
      .ok [['1'], ['2'], ['1']] := by
    decide +kernel
  rw [asked] at ids
  exact ⟨named, decoded, inYears, found, asked, Except.ok.inj ids, kept⟩

end Filters
end RecordSearch
