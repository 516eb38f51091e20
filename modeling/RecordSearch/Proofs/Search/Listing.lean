import RecordSearch.Proofs.Search.Conditions
import RecordSearch.Proofs.Search.Sorting
import RecordSearch.Search.Service

/-! What a search finds is what the listing of all records shows, without the records that do not
answer the query or do not pass the filters. Every stage of a search leaves records out by a test of
one record, and sorting goes with that. -/
namespace RecordSearch

theorem keepIf_eq_filter {α ε : Type} {test : α → Except ε Bool} {keep : α → Bool}
    {members : List α} (passes : ∀ a ∈ members, test a = .ok (keep a)) :
    keepIf test members = .ok (members.filter keep) := by
  induction members with
  | nil => rfl
  | cons a rest ih =>
    rw [keepIf, passes a List.mem_cons_self,
      ih fun other member => passes other (List.mem_cons_of_mem _ member)]
    cases kept : keep a with
    | false =>
      rw [List.filter_cons_of_neg (by simp [kept])]
      rfl
    | true =>
      rw [List.filter_cons_of_pos kept]
      rfl

theorem Condition.holds_eq_ok {record : Record} (inYears : record.IsInYears)
    (condition : Condition) : ∃ answer, condition.holds record = .ok answer := by
  cases condition with
  | title value => exact ⟨_, rfl⟩
  | content value => exact ⟨_, rfl⟩
  | kind name => exact ⟨_, rfl⟩
  | tags values => exact ⟨_, rfl⟩
  | anywhere text => exact ⟨_, rfl⟩
  | date field comparison target =>
    cases target with
    | none => exact ⟨_, rfl⟩
    | some target =>
      obtain ⟨moment, read⟩ := inYears.stamp field
      exact ⟨moment.any fun moment => comparison.holds moment target, by rw [holds, read]; rfl⟩

theorem Condition.allHold_eq_ok {record : Record} (inYears : record.IsInYears)
    (conditions : List Condition) : ∃ answer, allHold record conditions = .ok answer := by
  induction conditions with
  | nil => exact ⟨true, rfl⟩
  | cons condition rest ih =>
    obtain ⟨first, held⟩ := holds_eq_ok inYears condition
    obtain ⟨others, others_held⟩ := ih
    cases first with
    | false => exact ⟨false, by rw [allHold, held]; rfl⟩
    | true => exact ⟨others, by rw [allHold, held, ← others_held]; rfl⟩

/-- Selecting records keeps those that answer the query, provided that each is either found to
answer it or not. -/
theorem Query.select_of_answers {query : Query} {records : List Record}
    {conditions : List Condition} (stated : query.conditions = .ok conditions)
    (answers : ∀ record ∈ records, ∃ answer, query.matches? record = .ok answer) :
    query.select records =
      .ok (records.filter fun record => decide (query.matches? record = .ok true)) := by
  rw [select, stated]
  refine keepIf_eq_filter fun record member => ?_
  obtain ⟨answer, answered⟩ := answers record member
  have held : Condition.allHold record conditions = .ok answer := by
    rw [matches?, stated] at answered
    exact answered
  rw [held, answered]
  cases answer with
  | false => rfl
  | true => rfl

theorem Query.select_eq_filter {query : Query} {records : List Record} (inYears : query.IsInYears)
    (records_inYears : ∀ record ∈ records, record.IsInYears) :
    query.select records =
      .ok (records.filter fun record => decide (query.matches? record = .ok true)) := by
  obtain ⟨dates, stated, -⟩ := conditions_eq_ok inYears
  refine select_of_answers stated fun record member => ?_
  rw [matches?, stated]
  exact Condition.allHold_eq_ok (records_inYears record member) _

def Stamp.moment? (stamp : Stamp) : Option Instant := stamp.instant.toOption.join

/-- The filters name kinds of content only, and their dates do not leave the years 1 to 9999. -/
structure Filters.IsProper (filters : Filters) : Prop where
  kinds : ∀ name ∈ filters.contentTypes, ∃ type, ContentType.ofName? name = some type
  start : ∀ range ∈ filters.dateRange, ∃ moment, DateRange.bound range.start = .ok moment
  stop : ∀ range ∈ filters.dateRange, ∃ moment, DateRange.bound range.stop = .ok moment

/-- The record was created within the range. A bound that names no instant leaves its side open. -/
def DateRange.Admits (range : DateRange) (record : Record) : Prop :=
  (∀ start ∈ range.start.bind Stamp.moment?, ∃ moment ∈ record.created.moment?,
      start.micros ≤ moment.micros) ∧
    ∀ stop ∈ range.stop.bind Stamp.moment?, ∃ moment ∈ record.created.moment?,
      moment.micros ≤ stop.micros

instance (range : DateRange) (record : Record) : Decidable (range.Admits record) :=
  inferInstanceAs (Decidable (_ ∧ _))

def Filters.Admits (filters : Filters) (record : Record) : Prop :=
  (filters.contentTypes ≠ [] → record.kind.name ∈ filters.contentTypes) ∧
    (filters.tags ≠ [] →
        ∃ wanted ∈ filters.tags, ∃ tag ∈ record.tags, Text.holds wanted tag = true) ∧
    ∀ range ∈ filters.dateRange, range.Admits record

instance (filters : Filters) (record : Record) : Decidable (filters.Admits record) :=
  inferInstanceAs (Decidable (_ ∧ _ ∧ _))

namespace Filters

theorem contentTypesOf_eq_ok {names : List Text}
    (kinds : ∀ name ∈ names, ∃ type, ContentType.ofName? name = some type) :
    ∃ types, contentTypesOf names = .ok types ∧ types.map ContentType.name = names := by
  induction names with
  | nil => exact ⟨[], rfl, rfl⟩
  | cons name rest ih =>
    obtain ⟨type, named⟩ := kinds name List.mem_cons_self
    obtain ⟨types, others, whole⟩ :=
      ih fun other member => kinds other (List.mem_cons_of_mem _ member)
    have spelled : type.name = name := by simpa using List.find?_some named
    refine ⟨type :: types, ?_, by rw [List.map_cons, spelled, whole]⟩
    rw [contentTypesOf, named, others]
    rfl

theorem keepTypes_eq_filter {names : List Text} {records : List Record}
    (kinds : ∀ name ∈ names, ∃ type, ContentType.ofName? name = some type)
    (decoded : ∀ record ∈ records, record.IsDecoded) :
    keepTypes names records =
      .ok (records.filter fun record => decide (names ≠ [] → record.kind.name ∈ names)) := by
  by_cases inactive : names = []
  · simp [keepTypes, inactive]
  · obtain ⟨types, read, whole⟩ := contentTypesOf_eq_ok kinds
    rw [keepTypes, if_neg (by simpa using inactive), read]
    refine keepIf_eq_filter fun record member => ?_
    obtain ⟨⟨type, known⟩, -⟩ := decoded record member
    have listed : type ∈ types ↔ type.name ∈ names := by
      rw [← whole]
      refine ⟨List.mem_map_of_mem, fun member => ?_⟩
      obtain ⟨other, inside, same⟩ := List.mem_map.mp member
      have names := congrArg ContentType.ofName? same
      rw [ContentType.ofName?_name, ContentType.ofName?_name] at names
      exact Option.some.inj names ▸ inside
    simp [contentTypeOf, known, Kind.name, Except.map, listed, inactive]

theorem keepTagged_eq_filter (tags : List Text) (records : List Record) :
    keepTagged tags records = records.filter fun record =>
      decide (tags ≠ [] → ∃ wanted ∈ tags, ∃ tag ∈ record.tags, Text.holds wanted tag = true) := by
  by_cases inactive : tags = []
  · simp [keepTagged, inactive]
  · rw [keepTagged, if_neg (by simpa using inactive)]
    refine List.filter_congr fun record _ => ?_
    rw [Bool.eq_iff_iff]
    simp [Condition.tagged, inactive]

theorem moment?_of_instant {stamp : Stamp} {moment : Option Instant}
    (read : stamp.instant = .ok moment) : stamp.moment? = moment := by
  rw [Stamp.moment?, read]
  cases moment <;> rfl

theorem moment?_of_bound {bound : Option Stamp} {moment : Option Instant}
    (read : DateRange.bound bound = .ok moment) : bound.bind Stamp.moment? = moment := by
  match bound with
  | none => exact Except.ok.inj read
  | some (.written []) =>
    obtain rfl := Except.ok.inj read
    exact moment?_of_instant (show (Stamp.written []).instant = .ok none by rfl)
  | some (.written (_ :: _)) => exact moment?_of_instant read
  | some (.read _) => exact moment?_of_instant read

/-- Whether a range admits a record, by the instants of its bounds. -/
theorem admits_iff_isWithin {range : DateRange} {record : Record} {start stop : Option Instant}
    {moment : Instant} (start_read : DateRange.bound range.start = .ok start)
    (stop_read : DateRange.bound range.stop = .ok stop)
    (read : record.created.instant = .ok (some moment)) :
    range.Admits record ↔ Instant.isWithin start stop (some moment) = true := by
  rw [DateRange.Admits, moment?_of_bound start_read, moment?_of_bound stop_read,
    moment?_of_instant read]
  simp [Instant.isWithin, Option.all_eq_true]

theorem created_eq_ok {record : Record} (decoded : record.IsDecoded) (inYears : record.IsInYears) :
    ∃ moment, record.created.instant = .ok (some moment) := by
  obtain ⟨-, ⟨created, from_file⟩, -⟩ := decoded
  obtain ⟨⟨moment, read⟩, -⟩ := inYears
  obtain ⟨moment, rfl⟩ := Stamp.instant_of_read (from_file ▸ read)
  exact ⟨moment, read⟩

theorem keepCreated_eq_filter {range : Option DateRange} {records : List Record}
    (start_inYears : ∀ given ∈ range, ∃ moment, DateRange.bound given.start = .ok moment)
    (stop_inYears : ∀ given ∈ range, ∃ moment, DateRange.bound given.stop = .ok moment)
    (decoded : ∀ record ∈ records, record.IsDecoded)
    (inYears : ∀ record ∈ records, record.IsInYears) :
    keepCreated range records =
      .ok (records.filter fun record => decide (∀ given ∈ range, given.Admits record)) := by
  cases range with
  | none => simp [keepCreated]
  | some range =>
    obtain ⟨start, start_read⟩ := start_inYears range rfl
    obtain ⟨stop, stop_read⟩ := stop_inYears range rfl
    rw [keepCreated]
    simp only [start_read, stop_read, dated, bind, Except.bind]
    by_cases inactive : start.isNone && stop.isNone
    · rw [if_pos inactive]
      simp only [Bool.and_eq_true, Option.isNone_iff_eq_none] at inactive
      obtain ⟨rfl, rfl⟩ := inactive
      refine congrArg Except.ok (List.filter_eq_self.mpr fun record member => ?_).symm
      obtain ⟨moment, read⟩ := created_eq_ok (decoded record member) (inYears record member)
      simp [admits_iff_isWithin start_read stop_read read, Instant.isWithin]
    · rw [if_neg inactive]
      refine keepIf_eq_filter fun record member => ?_
      obtain ⟨moment, read⟩ := created_eq_ok (decoded record member) (inYears record member)
      simp [read, Except.map, admits_iff_isWithin start_read stop_read read]

/-- The filters keep the records that they admit. -/
theorem select_eq_filter {filters : Filters} {records : List Record} (proper : filters.IsProper)
    (decoded : ∀ record ∈ records, record.IsDecoded)
    (inYears : ∀ record ∈ records, record.IsInYears) :
    filters.select records = .ok (records.filter fun record => decide (filters.Admits record)) := by
  rw [select, keepTypes_eq_filter proper.kinds decoded]
  simp only [bind, Except.bind]
  rw [keepTagged_eq_filter, List.filter_filter, keepCreated_eq_filter proper.start proper.stop
    (fun record member => decoded record (List.mem_filter.mp member).1)
    (fun record member => inYears record (List.mem_filter.mp member).1), List.filter_filter]
  refine congrArg Except.ok (List.filter_congr fun record _ => ?_)
  rw [Bool.eq_iff_iff]
  simp only [Bool.and_eq_true, decide_eq_true_eq]
  rw [Filters.Admits]
  tauto

end Filters

namespace Service

/-- A blank text asks for everything, as it does when it is taken apart like any other. -/
theorem queryOf_eq_parse (text : Text) : queryOf text = Query.parse text := by
  rw [queryOf]
  split
  · next blank =>
    rw [Query.parse, Text.normalize_blank blank]
    rfl
  · rfl

variable {service : Service} {filters : Option Filters} {sort : Option SortOrder}

theorem find_eq_filter {query : Query} {sorted : List Record} (query_inYears : query.IsInYears)
    (filters_proper : ∀ chosen ∈ filters, chosen.IsProper)
    (decoded : ∀ record ∈ service.records, record.IsDecoded)
    (inYears : ∀ record ∈ service.records, record.IsInYears)
    (left : ∀ keep : Record → Bool,
      (sort.getD service.defaultSort).sort (service.records.filter keep) = .ok (sorted.filter keep)) :
    service.find query filters sort = .ok (sorted.filter fun record =>
      decide (query.matches? record = .ok true ∧ ∀ chosen ∈ filters, chosen.Admits record)) := by
  rw [find, Query.select_eq_filter query_inYears inYears]
  simp only [dated, bind, Except.bind]
  cases filters with
  | none =>
    refine (left _).trans (congrArg Except.ok (List.filter_congr fun record _ => ?_))
    simp
  | some chosen =>
    simp only [Filters.select_eq_filter (filters_proper chosen rfl)
      (fun record member => decoded record (List.mem_filter.mp member).1)
      (fun record member => inYears record (List.mem_filter.mp member).1), List.filter_filter]
    refine (left _).trans (congrArg Except.ok (List.filter_congr fun record _ => ?_))
    rw [Bool.eq_iff_iff]
    simp [and_comm]

theorem search_eq_ok {request : SearchRequest} {found : List Record}
    (lenient : request.strict = false)
    (finds : service.find (Query.parse request.text) request.filters request.sort = .ok found) :
    service.search request =
      .ok ⟨Query.parse request.text, found, Query.validate request.text⟩ := by
  rw [search, if_neg (by simp [refuses, lenient]), queryOf_eq_parse]
  simp only [finds]
  rfl

/-- A search finds the records of the full listing that answer the query and pass the filters, in
the order of the listing and as often as they stand there. The listing holds all records. -/
theorem search_eq_filter_listing {text : Text}
    (decoded : ∀ record ∈ service.records, record.IsDecoded)
    (inYears : ∀ record ∈ service.records, record.IsInYears)
    (query_inYears : (Query.parse text).IsInYears)
    (filters_proper : ∀ chosen ∈ filters, chosen.IsProper)
    (sort_proper : (sort.getD service.defaultSort).IsProper) :
    ∃ listing found, service.search { text := [], sort } = .ok listing ∧
      service.search { text, filters, sort } = .ok found ∧
      found.query = Query.parse text ∧ listing.records.Perm service.records ∧
      found.records = listing.records.filter fun record =>
        decide ((Query.parse text).matches? record = .ok true ∧
            ∀ chosen ∈ filters, chosen.Admits record) := by
  obtain ⟨sorted, -, perm, left⟩ := sort_filter sort_proper decoded inYears
  have found := find_eq_filter query_inYears filters_proper decoded inYears left
  have everything : (Query.parse []).IsInYears := fun _ member _ => absurd member List.not_mem_nil
  have listed : service.find (Query.parse []) none sort = .ok sorted := by
    rw [find_eq_filter everything (by simp) decoded inYears left]
    exact congrArg Except.ok (List.filter_eq_self.mpr fun record _ => rfl)
  exact ⟨_, _, search_eq_ok rfl listed, search_eq_ok rfl found, rfl, perm, rfl⟩

/-- A note that stands twice among the records and ties with a link in the attribute that is sorted
by. -/
theorem search_eq_filter_listing_ties :
    let stamp := Stamp.read ⟨63839664000000000, by decide, none⟩
    let note : Record :=
      { id := ['1'], title := "old cat".toList, kind := .known .note, created := stamp,
        updated := stamp }
    let link : Record :=
      { id := ['2'], title := "big cat".toList, kind := .known .link, created := stamp,
        updated := stamp }
    let service : Service := { records := [note, link, note] }
    let text := "title:cat".toList
    let filters : Option Filters :=
      some { contentTypes := ["note".toList], dateRange :=
          some { start := some (.written "2023-12-31".toList) } }
    let sort : Option SortOrder := some { field := "created_at".toList, direction := "asc".toList }
    ∃ listing found, service.search { text := [], sort } = .ok listing ∧
      service.search { text, filters, sort } = .ok found ∧
      found.query = Query.parse text ∧ listing.records.Perm service.records ∧
      found.records = listing.records.filter fun record =>
        decide ((Query.parse text).matches? record = .ok true ∧
            ∀ chosen ∈ filters, chosen.Admits record) := by
  intro stamp note link service text filters sort
  have read : stamp.instant = .ok (some ⟨63839664000000000, by decide⟩) := by decide +kernel
  have stamped (record : Record) (created : record.created = stamp)
      (updated : record.updated = stamp) :
      record.IsInYears := ⟨⟨_, created ▸ read⟩, ⟨_, updated ▸ read⟩⟩
  have decoded : ∀ record ∈ service.records, record.IsDecoded := by
    simp [service, Record.IsDecoded, note, link, stamp]
  have inYears : ∀ record ∈ service.records, record.IsInYears := by
    simp [service, stamped note rfl rfl, stamped link rfl rfl]
  have query_inYears : (Query.parse text).IsInYears := by
    have dateless : (Query.parse text).dateFilters = [] := by decide +kernel
    rw [Query.IsInYears, dateless]
    exact fun _ member => absurd member List.not_mem_nil
  have filters_proper : ∀ chosen ∈ filters, chosen.IsProper := by
    intro chosen member
    obtain rfl := Option.some.inj member
    refine ⟨fun name member => ?_, fun range member => ?_, fun range member => ?_⟩
    · obtain rfl := List.mem_singleton.mp member
      exact ⟨.note, by decide⟩
    · obtain rfl := Option.some.inj member
      exact ⟨some ⟨63839577600000000, by decide⟩, by decide +kernel⟩
    · obtain rfl := Option.some.inj member
      exact ⟨none, rfl⟩
  have sort_proper : (sort.getD service.defaultSort).IsProper :=
    ⟨⟨.createdAt, by decide⟩, ⟨.ascending, by decide⟩⟩
  exact search_eq_filter_listing decoded inYears query_inYears filters_proper sort_proper

end Service
end RecordSearch
