import RecordSearch.Proofs.Search.Listing
import RecordSearch.Proofs.Timestamp.Days
import RecordSearch.Command.Run

/-! A search up to a day. The day stands for its first moment, so of what was created on the day
itself only that is found which was created at that moment. -/
namespace RecordSearch

theorem filter_eq_filter_iff {α : Type} {keep keep' : α → Bool} {members : List α} :
    members.filter keep = members.filter keep' ↔ ∀ a ∈ members, keep a = keep' a := by
  refine ⟨fun same a inside => ?_, List.filter_congr⟩
  have kept : a ∈ members.filter keep ↔ a ∈ members.filter keep' := by rw [same]
  simpa only [List.mem_filter, inside, true_and, ← Bool.eq_iff_iff] using kept

def Instant.isBy (last : Date) (moment : Instant) : Bool := decide (moment.day ≤ last.number)

def Instant.isByMidnight (last : Date) (moment : Instant) : Bool :=
  decide (moment.micros ≤ last.number * microsPerDay)

def Instant.isBehindMidnight (last : Date) (moment : Instant) : Bool :=
  decide (moment.day = last.number ∧ 0 < moment.micros % microsPerDay)

/-- The bounds differ about the instants of the day behind its first moment, and about no others. -/
theorem Instant.isByMidnight_eq_isBy_iff {last : Date} {moment : Instant} :
    moment.isByMidnight last = moment.isBy last ↔ moment.isBehindMidnight last = false := by
  have parts := Nat.div_add_mod moment.micros microsPerDay
  rw [Bool.eq_iff_iff]
  simp only [isByMidnight, isBy, isBehindMidnight, decide_eq_true_eq, decide_eq_false_iff_not]
  simp only [day, microsPerDay, microsPerSecond] at parts ⊢
  omega

namespace Service

/-- What is asked with an upper bound of the creation date, and with no other restriction. -/
def upTo (last : Text) (sort : Option SortOrder) : SearchRequest :=
  { text := [], filters := some { dateRange := some { stop := some (.written last) } }, sort }

/-- The option of the command line asks for the same. -/
theorem requestOf_toOption {text : Text} (written : text ≠ []) (service : Service) :
    Command.requestOf { options := [(Command.toOption, text)] } service = upTo text none := by
  obtain ⟨c, rest, rfl⟩ := List.exists_cons_of_ne_nil written
  rfl

end Service

theorem DateRange.bound_of_isDay {text : Text} {date : Date} (day : Iso.IsDay text date) :
    ∃ moment, bound (some (.written text)) = .ok (some moment) ∧
      moment.micros = date.number * microsPerDay := by
  obtain ⟨c, rest, rfl⟩ := List.exists_cons_of_ne_nil day.ne_nil
  exact Instant.ofText?_of_isDay day

theorem DateRange.admits_day {text : Text} {date : Date} (day : Iso.IsDay text date)
    (record : Record) :
    ({ stop := some (.written text) } : DateRange).Admits record ↔
      record.created.moment?.any (Instant.isByMidnight date) = true := by
  obtain ⟨stop, read, first⟩ := bound_of_isDay day
  rw [Admits, Filters.moment?_of_bound read]
  simp [Instant.isByMidnight, first, Option.any_eq_true]

namespace Service

variable {service : Service} {text : Text} {sort : Option SortOrder} {date : Date}

/-- A search up to a day finds what was created up to its first moment. -/
theorem search_upTo (day : Iso.IsDay text date)
    (decoded : ∀ record ∈ service.records, record.IsDecoded)
    (inYears : ∀ record ∈ service.records, record.IsInYears)
    (sort_proper : (sort.getD service.defaultSort).IsProper) :
    ∃ listing found,
      service.search { text := [], sort } = .ok listing ∧
        service.search (upTo text sort) = .ok found ∧
      listing.records.Perm service.records ∧
      found.records = listing.records.filter fun record =>
        record.created.moment?.any (Instant.isByMidnight date) := by
  obtain ⟨sorted, -, perm, left⟩ := sort_filter sort_proper decoded inYears
  have everything : (Query.parse []).IsInYears := fun _ member _ => absurd member List.not_mem_nil
  have listed : service.find (Query.parse []) none sort = .ok sorted := by
    rw [find_eq_filter everything (by simp) decoded inYears left]
    exact congrArg Except.ok (List.filter_eq_self.mpr fun record _ => rfl)
  have proper : ∀ chosen ∈ (upTo text sort).filters, chosen.IsProper := by
    intro chosen member
    obtain rfl := Option.some.inj member
    obtain ⟨stop, read, -⟩ := DateRange.bound_of_isDay day
    refine ⟨fun name member => absurd member List.not_mem_nil, fun range member => ?_,
      fun range member => ?_⟩
    · obtain rfl := Option.some.inj member
      exact ⟨none, rfl⟩
    · obtain rfl := Option.some.inj member
      exact ⟨_, read⟩
  have found := find_eq_filter everything proper decoded inYears left
  refine ⟨_, _, search_eq_ok rfl listed, search_eq_ok rfl found, perm,
    List.filter_congr fun record _ => ?_⟩
  have everyone : (Query.parse []).matches? record = .ok true := rfl
  rw [Bool.eq_iff_iff, ← DateRange.admits_day day record, decide_eq_true_iff]
  simp [everyone, upTo, Filters.Admits]

/-- What a search up to a day finds is what was created by the end of the day, exactly if nothing
was created on the day behind its first moment. -/
theorem search_upTo_iff (day : Iso.IsDay text date)
    (decoded : ∀ record ∈ service.records, record.IsDecoded)
    (inYears : ∀ record ∈ service.records, record.IsInYears)
    (sort_proper : (sort.getD service.defaultSort).IsProper) :
    Command.requestOf { options := [(Command.toOption, text)] } service = upTo text none ∧
      ∃ listing found,
        service.search { text := [], sort } = .ok listing ∧
          service.search (upTo text sort) = .ok found ∧
        listing.records.Perm service.records ∧
        found.records = listing.records.filter (fun record =>
            record.created.moment?.any (Instant.isByMidnight date)) ∧
        (found.records =
          listing.records.filter (fun record => record.created.moment?.any (Instant.isBy date)) ↔
          ∀ record ∈ service.records,
              record.created.moment?.any (Instant.isBehindMidnight date) = false) := by
  obtain ⟨listing, found, listed, finds, perm, kept⟩ := search_upTo day decoded inYears sort_proper
  refine ⟨requestOf_toOption day.ne_nil service, listing, found, listed, finds, perm, kept, ?_⟩
  rw [kept, filter_eq_filter_iff]
  simp only [perm.mem_iff]
  refine forall₂_congr fun record inside => ?_
  obtain ⟨moment, read⟩ := Filters.created_eq_ok (decoded record inside) (inYears record inside)
  simp only [Filters.moment?_of_instant read, Option.any_some, Instant.isByMidnight_eq_isBy_iff]

/-- Records of the day's first moment, of its morning, and of the next day. -/
theorem search_upTo_iff_morning :
    let stamp (micros : Nat) (inYears : micros < microsOfAllYears) :=
      Stamp.read ⟨micros, inYears, some 0⟩
    let record (name : Char) (stamp : Stamp) : Record :=
      { id := [name], title := [name], kind := .known .note, created := stamp, updated := stamp }
    let first := record '1' (stamp 63852796800000000 (by decide))
    let morning := record '2' (stamp 63852832800000000 (by decide))
    let next := record '3' (stamp 63852883200000000 (by decide))
    let service : Service := { records := [next, morning, first] }
    let text := "2024-06-01".toList
    let date : Date := ⟨2024, 6, 1⟩
    Command.requestOf { options := [(Command.toOption, text)] } service = upTo text none ∧
      ∃ listing found, service.search { text := [] } = .ok listing ∧
        service.search (upTo text none) = .ok found ∧
        listing.records.Perm service.records ∧
        found.records = listing.records.filter (fun record =>
            record.created.moment?.any (Instant.isByMidnight date)) ∧
        (found.records =
          listing.records.filter (fun record => record.created.moment?.any (Instant.isBy date)) ↔
          ∀ record ∈ service.records,
              record.created.moment?.any (Instant.isBehindMidnight date) = false) := by
  intro stamp record first morning next service text date
  have day : Iso.IsDay (Timestamp.dateText date) date := Timestamp.isDay_dateText (by decide)
  have written : Timestamp.dateText date = text := by decide
  rw [written] at day
  have decoded : ∀ record ∈ service.records, record.IsDecoded := by
    simp [service, Record.IsDecoded, first, morning, next, record, stamp]
  have inYears : ∀ record ∈ service.records, record.IsInYears := by
    have stamped (micros : Nat) (within : micros < microsOfAllYears) :
        (stamp micros within).instant = .ok (some ⟨micros, within⟩) := by
      simp [stamp, Stamp.instant, Timestamp.toInstant, Instant.ofMicros?, within, Except.map]
    have shown (name : Char) (micros : Nat) (within : micros < microsOfAllYears) :
        (record name (stamp micros within)).IsInYears :=
      ⟨⟨_, stamped micros within⟩, ⟨_, stamped micros within⟩⟩
    simp [service, first, morning, next, shown]
  have sort_proper : ((none : Option SortOrder).getD service.defaultSort).IsProper :=
    ⟨⟨.updatedAt, by decide⟩, ⟨.descending, by decide⟩⟩
  exact search_upTo_iff day decoded inYears sort_proper

/-- A record of the morning is not found by a search up to its day. -/
theorem search_upTo_misses_morning :
    let stamp := Stamp.read ⟨63852832800000000, by decide, some 0⟩
    let note : Record :=
      { id := ['1'], title := ['x'], kind := .known .note, created := stamp, updated := stamp }
    let service : Service := { records := [note] }
    Iso.IsDay "2024-06-01".toList ⟨2024, 6, 1⟩ ∧
      note.created.moment?.any (Instant.isBy ⟨2024, 6, 1⟩) = true ∧
      (service.search (upTo "2024-06-01".toList none)).toOption.map (·.records.length) =
        some 0 := by
  refine ⟨⟨by decide, by decide, by decide⟩, by decide +kernel, by decide +kernel⟩

end Service
end RecordSearch
