import RecordSearch.Proofs.Search.Part
import RecordSearch.Proofs.Timestamp.Written

/-! The same instant may be written with different offsets, and which of its writings stands in a
query, in filters or in a record changes nothing: the same records are shown in the same order. -/
namespace RecordSearch

def Timestamp.IsWithinDay (timestamp : Timestamp) : Prop :=
  ∀ offset ∈ timestamp.offset, offset.natAbs < microsPerDay

/-- The offset stays within a day and is nothing or at least a second. -/
structure Timestamp.IsReadable (timestamp : Timestamp) : Prop where
  within : timestamp.IsWithinDay
  whole : ∀ offset ∈ timestamp.offset, offset = 0 ∨ microsPerSecond ≤ offset.natAbs

/-- The stamp is a timestamp of the instant, or the text of one whose offset can be read. -/
inductive Stamp.Names (instant : Instant) : Stamp → Prop
  | read {timestamp : Timestamp} : timestamp.toInstant = .ok instant →
      Names instant (.read timestamp)
  | written {timestamp : Timestamp} : timestamp.toInstant = .ok instant → timestamp.IsReadable →
      Names instant (.written timestamp.toText)

def Stamp.Restates (stamp other : Stamp) : Prop :=
  stamp = other ∨ ∃ instant, stamp.Names instant ∧ other.Names instant

/-- The record differs from the other in the writing of its dates at most. -/
structure Record.Restates (record other : Record) : Prop where
  rest : other = { record with created := other.created, updated := other.updated }
  created : record.created.Restates other.created
  updated : record.updated.Restates other.updated

structure DateFilter.Restates (filter other : DateFilter) : Prop where
  rest : other = { filter with value := other.value }
  value : (Stamp.written filter.value).Restates (.written other.value)

structure Query.Restates (query other : Query) : Prop where
  rest : other = { query with dateFilters := other.dateFilters }
  dateFilters : List.Forall₂ DateFilter.Restates query.dateFilters other.dateFilters

structure DateRange.Restates (range other : DateRange) : Prop where
  start : Option.Rel Stamp.Restates range.start other.start
  stop : Option.Rel Stamp.Restates range.stop other.stop

structure Filters.Restates (filters other : Filters) : Prop where
  rest : other = { filters with dateRange := other.dateRange }
  dateRange : Option.Rel DateRange.Restates filters.dateRange other.dateRange

theorem Timestamp.micros_of_toInstant {timestamp : Timestamp} {instant : Instant}
    (names : timestamp.toInstant = .ok instant) :
    (timestamp.micros : Int) - timestamp.offset.getD 0 = instant.micros := by
  rw [toInstant, Instant.ofMicros?] at names
  split at names
  · split at names
    · next positive =>
      obtain rfl := Except.ok.inj names
      exact (Int.toNat_of_nonneg positive).symm
    · contradiction
  · contradiction

/-- The text of a timestamp names its instant exactly if its offset can be read: otherwise what the
clock shows is taken for universal time. -/
theorem Timestamp.ofText?_toText_iff {timestamp : Timestamp} {instant : Instant}
    (within : timestamp.IsWithinDay) (names : timestamp.toInstant = .ok instant) :
    Instant.ofText? timestamp.toText = .ok (some instant) ↔ timestamp.IsReadable := by
  have micros := micros_of_toInstant names
  rw [Instant.ofText?_toText within]
  cases known : timestamp.offset with
  | none =>
    have same : ({ timestamp with offset := none } : Timestamp) = timestamp := by rw [← known]
    have readable : timestamp.IsReadable := ⟨within, by simp [known]⟩
    simp [same, names, readable, Except.map]
  | some offset =>
    by_cases lost : offset ≠ 0 ∧ offset.natAbs < microsPerSecond
    · have different : ¬ timestamp.IsReadable := by
        intro readable
        rcases readable.whole offset known with zero | long <;> omega
      refine iff_of_false ?_ different
      intro same
      simp [readOffset, lost.2, toInstant, Instant.ofMicros?, timestamp.inYears, Except.map] at same
      rw [← same, known, Option.getD_some] at micros
      simp at micros
      omega
    · have same : readOffset offset = offset := by
        rw [readOffset]
        split <;> omega
      have readable : timestamp.IsReadable := by
        refine ⟨within, fun other shown => ?_⟩
        obtain rfl := Option.some.inj (known.symm.trans shown)
        omega
      rw [Option.map_some, same, ← known]
      exact iff_of_true (by rw [names]; rfl) readable

theorem Stamp.Names.instant_eq {stamp : Stamp} {instant : Instant} (names : stamp.Names instant) :
    stamp.instant = .ok (some instant) := by
  cases names with
  | read names => simp [Stamp.instant, names, Except.map]
  | written names readable =>
    exact (Timestamp.ofText?_toText_iff readable.within names).mpr readable

theorem Stamp.Restates.instant_eq {stamp other : Stamp} (restates : stamp.Restates other) :
    stamp.instant = other.instant := by
  rcases restates with rfl | ⟨instant, names, other_names⟩
  · rfl
  · rw [names.instant_eq, other_names.instant_eq]

theorem DateFilter.Restates.ofDateFilter_eq {filter other : DateFilter}
    (restates : filter.Restates other) :
    Condition.ofDateFilter filter = Condition.ofDateFilter other := by
  have target : Instant.ofText? filter.value = Instant.ofText? other.value :=
    restates.value.instant_eq
  rw [restates.rest, Condition.ofDateFilter, Condition.ofDateFilter, target]

theorem ofDateFilters_restated {filters others : List DateFilter}
    (restates : List.Forall₂ DateFilter.Restates filters others) :
    Condition.ofDateFilters filters = Condition.ofDateFilters others := by
  induction restates with
  | nil => rfl
  | cons first _ ih =>
    rw [Condition.ofDateFilters, Condition.ofDateFilters, first.ofDateFilter_eq, ih]

theorem Query.Restates.conditions_eq {query other : Query} (restates : query.Restates other) :
    query.conditions = other.conditions := by
  rw [restates.rest, conditions, conditions, ofDateFilters_restated restates.dateFilters]
  rfl

namespace Record.Restates

variable {record other : Record}

theorem stamp_eq (restates : record.Restates other) (field : DateField) :
    (field.stamp record).instant = (field.stamp other).instant := by
  cases field with
  | created => exact restates.created.instant_eq
  | updated => exact restates.updated.instant_eq

theorem holds_eq (restates : record.Restates other) (condition : Condition) :
    condition.holds record = condition.holds other := by
  have rest := restates.rest
  match condition with
  | .title _ | .content _ | .kind _ | .tags _ | .anywhere _ => rw [rest]; rfl
  | .date _ _ none => rfl
  | .date field comparison (some target) =>
    rw [Condition.holds, Condition.holds, restates.stamp_eq field]

theorem allHold_eq (restates : record.Restates other) (conditions : List Condition) :
    Condition.allHold record conditions = Condition.allHold other conditions := by
  induction conditions with
  | nil => rfl
  | cons condition rest ih => rw [Condition.allHold, Condition.allHold, restates.holds_eq, ih]

theorem key_eq (restates : record.Restates other) (field : SortField) :
    SortKey.of record field = SortKey.of other field := by
  have rest := restates.rest
  cases field with
  | createdAt => rw [SortKey.of, SortKey.of, restates.created.instant_eq]
  | updatedAt => rw [SortKey.of, SortKey.of, restates.updated.instant_eq]
  | title => rw [rest]; rfl
  | contentType => rw [rest]; rfl

end Record.Restates

theorem DateRange.bound_restated {stamp other : Option Stamp}
    (restates : Option.Rel Stamp.Restates stamp other) : bound stamp = bound other := by
  -- A writing of an instant is no empty text, so that neither bound is missing.
  have present {instant : Instant} {stamp : Stamp} (names : stamp.Names instant) :
      bound (some stamp) = stamp.instant := by
    cases names with
    | read names => rfl
    | written names readable =>
      rename_i timestamp
      cases shown : timestamp.toText with
      | nil => simp [Timestamp.toText_eq, Timestamp.dateText] at shown
      | cons c rest => rfl
  cases restates with
  | none => rfl
  | some restates =>
    rcases restates with rfl | ⟨instant, names, other_names⟩
    · rfl
    · rw [present names, present other_names, names.instant_eq, other_names.instant_eq]

/-- Two results fail alike, or some pairs of the list are what both show: one their first members,
the other their second. -/
def ShowAlike {ε : Type} (pairs : List (Record × Record))
    (left right : Except ε (List Record)) : Prop :=
  ∃ shown : Except ε (List (Record × Record)), left = shown.map (List.map Prod.fst) ∧
    right = shown.map (List.map Prod.snd) ∧ ∀ some, shown = .ok some → some.Subperm pairs

variable {pairs : List (Record × Record)}

theorem ShowAlike.all {ε : Type} (pairs : List (Record × Record)) :
    ShowAlike (ε := ε) pairs (.ok (pairs.map Prod.fst)) (.ok (pairs.map Prod.snd)) :=
  ⟨.ok pairs, rfl, rfl, by rintro _ ⟨⟩; exact List.Subperm.refl pairs⟩

theorem ShowAlike.bind {ε : Type} {left right : Except ε (List Record)}
    {next other : List Record → Except ε (List Record)} (first : ShowAlike pairs left right)
    (second : ∀ kept, List.Subperm kept pairs →
      ShowAlike kept (next (kept.map Prod.fst)) (other (kept.map Prod.snd))) :
    ShowAlike pairs (left >>= next) (right >>= other) := by
  obtain ⟨shown, rfl, rfl, inside⟩ := first
  cases shown with
  | error fault => exact ⟨.error fault, rfl, rfl, by simp⟩
  | ok kept =>
    obtain ⟨later, left_eq, right_eq, later_inside⟩ := second kept (inside kept rfl)
    exact ⟨later, left_eq, right_eq,
      fun some found => (later_inside some found).trans (inside kept rfl)⟩

theorem keepIf_map {α β ε : Type} {test : β → Except ε Bool} {f : α → β} (members : List α) :
    keepIf test (members.map f) = (keepIf (fun a => test (f a)) members).map (List.map f) := by
  induction members with
  | nil => rfl
  | cons a rest ih =>
    rw [List.map_cons, keepIf, keepIf, ih]
    cases test (f a) with
    | error => rfl
    | ok passes =>
      cases keepIf (fun a => test (f a)) rest with
      | error => rfl
      | ok kept => cases passes <;> rfl

theorem keepIf_congr {α ε : Type} {test other : α → Except ε Bool} {members : List α}
    (same : ∀ a ∈ members, test a = other a) : keepIf test members = keepIf other members := by
  induction members with
  | nil => rfl
  | cons a rest ih =>
    rw [keepIf, keepIf, same a List.mem_cons_self,
      ih fun b inside => same b (List.mem_cons_of_mem _ inside)]

theorem showAlike_keepIf {ε : Type} {test other : Record → Except ε Bool}
    (same : ∀ pair ∈ pairs, test pair.1 = other pair.2) :
    ShowAlike pairs (keepIf test (pairs.map Prod.fst)) (keepIf other (pairs.map Prod.snd)) := by
  refine ⟨keepIf (fun pair => test pair.1) pairs, keepIf_map pairs, ?_, ?_⟩
  · rw [keepIf_map, keepIf_congr same]
  · intro kept passes
    rw [keepIf_eq_filter (keepIf_eq_ok passes)] at passes
    obtain rfl := Except.ok.inj passes
    exact List.filter_sublist.subperm

variable {query other : Query} {filters others : Filters}

theorem showAlike_select (records : ∀ pair ∈ pairs, pair.1.Restates pair.2)
    (queries : query.Restates other) :
    ShowAlike pairs (query.select (pairs.map Prod.fst)) (other.select (pairs.map Prod.snd)) := by
  rw [Query.select, Query.select, queries.conditions_eq]
  cases other.conditions with
  | error fault => exact ⟨.error fault, rfl, rfl, by simp⟩
  | ok conditions =>
    exact showAlike_keepIf fun pair inside => (records pair inside).allHold_eq conditions

namespace Filters

theorem showAlike_keepTypes (names : List Text) (records : ∀ pair ∈ pairs, pair.1.Restates pair.2) :
    ShowAlike pairs (keepTypes names (pairs.map Prod.fst))
      (keepTypes names (pairs.map Prod.snd)) := by
  rw [keepTypes, keepTypes]
  split
  · exact .all pairs
  · cases contentTypesOf names with
    | error fault => exact ⟨.error fault, rfl, rfl, by simp⟩
    | ok types =>
      refine showAlike_keepIf fun pair inside => ?_
      rw [(records pair inside).rest]
      rfl

theorem showAlike_keepTagged {ε : Type} (tags : List Text)
    (records : ∀ pair ∈ pairs, pair.1.Restates pair.2) :
    ShowAlike (ε := ε) pairs (.ok (keepTagged tags (pairs.map Prod.fst)))
      (.ok (keepTagged tags (pairs.map Prod.snd))) := by
  rw [keepTagged, keepTagged]
  split
  · exact .all pairs
  · let kept := pairs.filter fun pair => Condition.tagged tags pair.1.tags
    refine ⟨.ok kept, by simp [kept, Except.map, List.filter_map, Function.comp_def], ?_, ?_⟩
    · have same : kept = pairs.filter fun pair => Condition.tagged tags pair.2.tags := by
        refine List.filter_congr fun pair inside => ?_
        rw [(records pair inside).rest]
      rw [same]
      simp [Except.map, List.filter_map, Function.comp_def]
    · rintro _ ⟨⟩
      exact List.filter_sublist.subperm

theorem showAlike_keepCreated {range other : Option DateRange}
    (records : ∀ pair ∈ pairs, pair.1.Restates pair.2)
    (restates : Option.Rel DateRange.Restates range other) :
    ShowAlike pairs (keepCreated range (pairs.map Prod.fst))
      (keepCreated other (pairs.map Prod.snd)) := by
  cases restates with
  | none => exact .all pairs
  | some restates =>
    rw [keepCreated, keepCreated, DateRange.bound_restated restates.start,
      DateRange.bound_restated restates.stop]
    cases dated (DateRange.bound _) with
    | error fault => exact ⟨.error fault, rfl, rfl, by simp⟩
    | ok start =>
      cases dated (DateRange.bound _) with
      | error fault => exact ⟨.error fault, rfl, rfl, by simp⟩
      | ok stop =>
        simp only [bind, Except.bind]
        split
        · exact .all pairs
        · refine showAlike_keepIf fun pair inside => ?_
          rw [(records pair inside).created.instant_eq]

theorem showAlike_select (records : ∀ pair ∈ pairs, pair.1.Restates pair.2)
    (panels : filters.Restates others) :
    ShowAlike pairs (filters.select (pairs.map Prod.fst)) (others.select (pairs.map Prod.snd)) := by
  have types : others.contentTypes = filters.contentTypes := by rw [panels.rest]
  have tags : others.tags = filters.tags := by rw [panels.rest]
  rw [select, select, types, tags]
  refine (showAlike_keepTypes filters.contentTypes records).bind fun typed inside => ?_
  have typed_records : ∀ pair ∈ typed, pair.1.Restates pair.2 :=
    fun pair member => records pair (inside.subset member)
  have tagged : ShowAlike typed (.ok (keepTagged filters.tags (typed.map Prod.fst)) >>=
      keepCreated filters.dateRange)
      (.ok (keepTagged filters.tags (typed.map Prod.snd)) >>= keepCreated others.dateRange) :=
    (showAlike_keepTagged filters.tags typed_records).bind fun kept kept_inside =>
      showAlike_keepCreated (fun pair member => typed_records pair (kept_inside.subset member))
        panels.dateRange
  exact tagged

end Filters

/-- The keys of the pairs: both members of a pair have the same. -/
theorem exists_keyed_pairs (field : SortField) (records : ∀ pair ∈ pairs, pair.1.Restates pair.2) :
    ∃ keyed : Except OutOfRange (List (SortKey × Record × Record)),
      withKeys field (pairs.map Prod.fst) = keyed.map (List.map fun (key, pair) => (key, pair.1)) ∧
      withKeys field (pairs.map Prod.snd) = keyed.map (List.map fun (key, pair) => (key, pair.2)) ∧
      ∀ known, keyed = .ok known → known.map Prod.snd = pairs := by
  induction pairs with
  | nil => exact ⟨.ok [], rfl, rfl, by rintro _ ⟨⟩; rfl⟩
  | cons pair rest ih =>
    obtain ⟨first, later⟩ := List.forall_mem_cons.mp records
    obtain ⟨keyed, left, right, whole⟩ := ih later
    rw [List.map_cons, List.map_cons, withKeys, withKeys, left, right, first.key_eq field]
    cases SortKey.of pair.2 field with
    | error fault => exact ⟨.error fault, rfl, rfl, by simp⟩
    | ok key =>
      cases keyed with
      | error fault => exact ⟨.error fault, rfl, rfl, by simp⟩
      | ok known =>
        exact ⟨.ok ((key, pair) :: known), rfl, rfl, by rintro _ ⟨⟩; simp [whole known rfl]⟩

theorem arrange_map (direction : SortDirection) (member : Record × Record → Record)
    (keyed : List (SortKey × Record × Record)) :
    arrange direction (keyed.map fun (key, pair) => (key, member pair)) =
      ((keyed.mergeSort fun a b => direction.admits a.1 b.1).map Prod.snd).map member := by
  rw [arrange, ← List.map_mergeSort (r := fun a b => direction.admits a.1 b.1),
    List.map_map, List.map_map]
  · rfl
  · intro a _ b _
    cases direction <;> rfl

theorem showAlike_sort (order : SortOrder) (records : ∀ pair ∈ pairs, pair.1.Restates pair.2) :
    ShowAlike pairs (order.sort (pairs.map Prod.fst)) (order.sort (pairs.map Prod.snd)) := by
  cases directed : SortDirection.ofName? order.direction with
  | none =>
    simp only [SortOrder.sort, directed]
    exact ⟨.error _, rfl, rfl, by simp⟩
  | some direction =>
    cases nonempty : pairs with
    | nil =>
      simp only [List.map_nil, SortOrder.sort, directed]
      exact .all []
    | cons pair rest =>
      rw [← nonempty]
      cases named : SortField.ofName? order.field with
      | none =>
        simp only [SortOrder.sort, directed, named, nonempty, List.map_cons]
        exact ⟨.error _, rfl, rfl, by simp⟩
      | some field =>
        obtain ⟨keyed, left, right, whole⟩ := exists_keyed_pairs field records
        rw [nonempty, List.map_cons] at left right
        simp only [SortOrder.sort, directed, named, nonempty, List.map_cons, left, right]
        cases keyed with
        | error fault => exact ⟨.error _, rfl, rfl, by simp⟩
        | ok known =>
          have keys (member : Record × Record → Record) :
              (known.map fun (key, pair) => (key, member pair)).map Prod.fst =
                known.map Prod.fst := by
            rw [List.map_map]
            rfl
          simp only [Except.map, dated, bind, Except.bind, keys Prod.fst,
            keys Prod.snd, arrange_map]
          split
          · exact ⟨.error _, rfl, rfl, by simp⟩
          · refine ⟨.ok ((known.mergeSort fun a b => direction.admits a.1 b.1).map Prod.snd), rfl,
              rfl, ?_⟩
            rintro _ ⟨⟩
            rw [← nonempty, ← whole known rfl]
            exact ((List.mergeSort_perm _ _).map _).subperm

/-- The text of a timestamp within a day of universal time names its instant exactly if the offset
is nothing or at least a second. Dates of records, date filters and bounds may be replaced by other
writings of their instants: what is selected, filtered and sorted stays the same. -/
theorem restated_dates_show_alike (records : ∀ pair ∈ pairs, pair.1.Restates pair.2)
    (queries : query.Restates other) (panels : filters.Restates others) :
    (∀ (instant : Instant) (timestamp : Timestamp),
      timestamp.IsWithinDay → timestamp.toInstant = .ok instant →
      (Instant.ofText? timestamp.toText = .ok (some instant) ↔ timestamp.IsReadable)) ∧
    ShowAlike pairs (query.select (pairs.map Prod.fst)) (other.select (pairs.map Prod.snd)) ∧
    ShowAlike pairs (filters.select (pairs.map Prod.fst)) (others.select (pairs.map Prod.snd)) ∧
    ∀ order : SortOrder,
      ShowAlike pairs (order.sort (pairs.map Prod.fst)) (order.sort (pairs.map Prod.snd)) := by
  refine ⟨?_, showAlike_select records queries, Filters.showAlike_select records panels, ?_⟩
  · intro instant timestamp within names
    exact Timestamp.ofText?_toText_iff within names
  · intro order
    exact showAlike_sort order records

/-- A record, a query and a bound in universal time, and with an offset of two hours and a second in
its place. -/
theorem restated_dates_show_alike_hours :
    let plain : Timestamp := ⟨63840484800000000, by decide, none⟩
    let ahead : Timestamp := ⟨63840492001000000, by decide, some 7201000000⟩
    let record (timestamp : Timestamp) : Record :=
      { id := ['1'], title := [], kind := .known .note, created := .read timestamp, updated :=
          .written timestamp.toText }
    let query (timestamp : Timestamp) : Query :=
      { dateFilters := [⟨"updated".toList, ['='], timestamp.toText⟩] }
    let filters (timestamp : Timestamp) : Filters :=
      { dateRange := some { start := some (.written timestamp.toText) } }
    (record plain).Restates (record ahead) ∧ (query plain).Restates (query ahead) ∧
      (filters plain).Restates (filters ahead) ∧
      ShowAlike [(record plain, record ahead)] ((query plain).select [record plain])
        ((query ahead).select [record ahead]) ∧
      ShowAlike [(record plain, record ahead)] ((filters plain).select [record plain])
        ((filters ahead).select [record ahead]) := by
  intro plain ahead record query filters
  have plain_names : plain.toInstant = .ok ⟨63840484800000000, by decide⟩ := by decide +kernel
  have ahead_names : ahead.toInstant = .ok ⟨63840484800000000, by decide⟩ := by decide +kernel
  have plain_readable : plain.IsReadable := ⟨by rintro _ ⟨⟩, by rintro _ ⟨⟩⟩
  have ahead_readable : ahead.IsReadable := ⟨by rintro _ ⟨⟩; decide, by rintro _ ⟨⟩; decide⟩
  have texts : (Stamp.written plain.toText).Restates (.written ahead.toText) :=
    .inr ⟨_, .written plain_names plain_readable, .written ahead_names ahead_readable⟩
  have records : (record plain).Restates (record ahead) :=
    ⟨rfl, .inr ⟨_, .read plain_names, .read ahead_names⟩, texts⟩
  have queries : (query plain).Restates (query ahead) := ⟨rfl, .cons ⟨rfl, texts⟩ .nil⟩
  have panels : (filters plain).Restates (filters ahead) := ⟨rfl, .some ⟨.some texts, .none⟩⟩
  have all : ∀ pair ∈ [(record plain, record ahead)], pair.1.Restates pair.2 := by
    simpa using records
  obtain ⟨-, selected, filtered, -⟩ := restated_dates_show_alike all queries panels
  exact ⟨records, queries, panels, selected, filtered⟩

/-- An offset of a microsecond is lost with the text: the clock, which is ahead by it, is taken for
universal time. -/
theorem offset_below_second_lost :
    let instant : Instant := ⟨63839664000000001, by decide⟩
    let ahead : Timestamp := ⟨63839664000000002, by decide, some 1⟩
    ahead.toInstant = .ok instant ∧
      ahead.toText = "2024-01-01T00:00:00.000002+00:00:00.000001".toList ∧
      Instant.ofText? ahead.toText = .ok (some ⟨63839664000000002, by decide⟩) ∧
      Instant.ofText? instant.toTimestamp.toText = .ok (some instant) := by
  decide +kernel

end RecordSearch
