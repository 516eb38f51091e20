import RecordSearch.Proofs.Search.Part

/-! Sorting as a stable arrangement. Of all lists of the same records exactly one is in order and
leaves those that tie as they stood, in both directions, and this is the sorted one. A list that is
sorted twice is in the second order, with its ties in the first. -/
namespace RecordSearch

def Stamp.isEarlier (first second : Stamp) : Bool :=
  first.moment?.any fun moment => second.moment?.any fun other => moment.micros < other.micros

def SortField.isBelow (first second : Record) : SortField → Bool
  | .createdAt => first.created.isEarlier second.created
  | .updatedAt => first.updated.isEarlier second.updated
  | .title => decide (Text.lower first.title < Text.lower second.title)
  | .contentType => decide (first.kind.name < second.kind.name)

def SortOrder.precedes (order : SortOrder) (first second : Record) : Bool :=
  match SortField.ofName? order.field, SortDirection.ofName? order.direction with
  | some field, some .ascending => field.isBelow first second
  | some field, some .descending => field.isBelow second first
  | _, _ => false

def areTied (precedes : Record → Record → Bool) (first second : Record) : Bool :=
  !precedes first second && !precedes second first

/-- A list holds the records of another in their order, and those that tie as they stood there. -/
structure IsArranged (precedes : Record → Record → Bool)
    (records arranged : List Record) : Prop where
  perm : arranged.Perm records
  ordered : arranged.Pairwise fun first second => precedes second first = false
  stable : ∀ record ∈ records,
    arranged.filter (areTied precedes record) = records.filter (areTied precedes record)

/-- Whether a record is put in front of another by one way to compare, or by a second one where the
first ties. -/
def thenBy (precedes second : Record → Record → Bool) (a b : Record) : Bool :=
  precedes a b || (!precedes b a && second a b)

section

variable {precedes other : Record → Record → Bool} {records arranged rearranged : List Record}

theorem areTied_self (irrefl : ∀ record, precedes record record = false) (record : Record) :
    areTied precedes record record = true := by
  simp [areTied, irrefl]

theorem areTied_thenBy (record : Record) :
    areTied (thenBy precedes other) record = fun a =>
      areTied other record a && areTied precedes record a := by
  funext a
  simp only [areTied, thenBy]
  cases precedes record a <;> cases precedes a record <;> simp

/-- A list in order is arranged already. -/
theorem isArranged_self
    (ordered : arranged.Pairwise fun first second => precedes second first = false) :
    IsArranged precedes arranged arranged :=
  ⟨.refl _, ordered, fun _ _ => rfl⟩

/-- The first of two arrangements is tied with the first of the other, so both are the first of
those that tie. -/
theorem eq_of_arranged {lists others : List Record}
    (irrefl : ∀ record, precedes record record = false) (perm : lists.Perm others)
    (ordered : lists.Pairwise fun first second => precedes second first = false)
    (others_ordered : others.Pairwise fun first second => precedes second first = false)
    (alike : ∀ record ∈ lists,
      lists.filter (areTied precedes record) = others.filter (areTied precedes record)) :
    lists = others := by
  induction lists generalizing others with
  | nil => exact perm.nil_eq
  | cons a rest ih =>
    cases others with
    | nil => exact perm.eq_nil
    | cons b others =>
      obtain ⟨least, ordered⟩ := List.pairwise_cons.mp ordered
      obtain ⟨others_least, later_ordered⟩ := List.pairwise_cons.mp others_ordered
      have not_behind : precedes b a = false := by
        rcases List.mem_cons.mp (perm.mem_iff.mpr List.mem_cons_self) with rfl | inside
        · exact irrefl b
        · exact least b inside
      have not_before : precedes a b = false := by
        rcases List.mem_cons.mp (perm.mem_iff.mp List.mem_cons_self) with rfl | inside
        · exact irrefl a
        · exact others_least a inside
      have tied : areTied precedes a b = true := by simp [areTied, not_behind, not_before]
      have first := alike a List.mem_cons_self
      rw [List.filter_cons_of_pos (areTied_self irrefl a), List.filter_cons_of_pos tied] at first
      obtain ⟨rfl, -⟩ := List.cons.inj first
      congr 1
      apply ih perm.cons_inv ordered later_ordered
      intro record member
      have whole := alike record (List.mem_cons_of_mem _ member)
      rw [List.filter_cons, List.filter_cons] at whole
      split at whole
      · exact (List.cons.inj whole).2
      · exact whole

theorem IsArranged.unique (irrefl : ∀ record, precedes record record = false)
    (first : IsArranged precedes records arranged)
    (second : IsArranged precedes records rearranged) : arranged = rearranged := by
  refine eq_of_arranged irrefl (first.perm.trans second.perm.symm) first.ordered second.ordered ?_
  intro record member
  have inside := first.perm.mem_iff.mp member
  exact (first.stable record inside).trans (second.stable record inside).symm

/-- Arranging a second time keeps the first order among those that tie in the second. -/
theorem IsArranged.thenBy (irrefl : ∀ record, precedes record record = false)
    (first : IsArranged other records arranged) (second : IsArranged precedes arranged rearranged) :
    IsArranged (thenBy precedes other) records rearranged where
  perm := second.perm.trans first.perm
  ordered := by
    refine List.pairwise_iff_forall_sublist.mpr ?_
    intro a b pair
    have not_behind := List.pairwise_iff_forall_sublist.mp second.ordered pair
    simp only [RecordSearch.thenBy, not_behind, Bool.false_or, Bool.and_eq_false_imp,
      Bool.not_eq_true']
    intro not_before
    have tied : areTied precedes a b = true := by simp [areTied, not_behind, not_before]
    have stood : [a, b].Sublist arranged := by
      have kept := pair.filter (areTied precedes a)
      rw [List.filter_cons_of_pos (areTied_self irrefl a), List.filter_cons_of_pos tied,
        List.filter_nil, second.stable a (second.perm.mem_iff.mp (pair.subset List.mem_cons_self))]
        at kept
      exact kept.trans List.filter_sublist
    exact List.pairwise_iff_forall_sublist.mp first.ordered stood
  stable record member := by
    have inside := first.perm.mem_iff.mpr member
    rw [areTied_thenBy, ← List.filter_filter, ← List.filter_filter, second.stable record inside,
      List.filter_comm, first.stable record member, List.filter_comm]

end

theorem Text.le_eq_not_lt (left right : Text) : Text.le left right = !decide (right < left) := by
  induction left generalizing right with
  | nil => simp [Text.le]
  | cons c rest ih =>
    cases right with
    | nil => simp [Text.le]
    | cons d other =>
      have lower : d < c ↔ d.toNat < c.toNat := by rw [Char.lt_def, UInt32.lt_iff_toNat_lt]; rfl
      rw [Bool.eq_iff_iff]
      rcases Nat.lt_trichotomy c.toNat d.toNat with less | same | greater
      · have different : ¬ d = c := by rintro rfl; omega
        simp [Text.le, less, List.cons_lt_cons_iff, lower, different]
        omega
      · obtain rfl := Char.toNat_inj.mp same
        simp [Text.le, ih]
      · have different : ¬ c = d := by rintro rfl; omega
        simp [Text.le, List.cons_lt_cons_iff, lower, different, greater]
        omega

theorem Stamp.isEarlier_of_instant {first second : Stamp} {moment other : Instant}
    (read : first.instant = .ok (some moment)) (other_read : second.instant = .ok (some other)) :
    first.isEarlier second = decide (moment.micros < other.micros) := by
  rw [isEarlier, Filters.moment?_of_instant read, Filters.moment?_of_instant other_read,
    Option.any_some, Option.any_some]

theorem SortKey.exists_moment {stamp : Stamp} {key : SortKey}
    (read : stamp.instant.map SortKey.moment = .ok key) (ordered : key.isOrdered = true) :
    ∃ instant, stamp.instant = .ok (some instant) ∧ key = .moment (some instant) := by
  cases found : stamp.instant with
  | error fault =>
    rw [found] at read
    contradiction
  | ok moment =>
    rw [found] at read
    obtain rfl := Except.ok.inj read
    cases moment with
    | none => contradiction
    | some instant => exact ⟨instant, rfl, rfl⟩

/-- The keys of records from files compare as the records do. -/
theorem SortKey.le_eq_not_isBelow {field : SortField} {first second : Record} {key other : SortKey}
    (decoded : first.IsDecoded) (other_decoded : second.IsDecoded)
    (read : SortKey.of first field = .ok key ∧ key.isOrdered = true)
    (other_read : SortKey.of second field = .ok other ∧ other.isOrdered = true) :
    key.le other = !field.isBelow second first := by
  have dates {stamp other_stamp : Stamp} (read : stamp.instant.map SortKey.moment = .ok key)
      (other_read : other_stamp.instant.map SortKey.moment = .ok other)
      (ordered : key.isOrdered = true)
      (other_ordered : other.isOrdered = true) : key.le other = !other_stamp.isEarlier stamp := by
    obtain ⟨moment, instant, rfl⟩ := exists_moment read ordered
    obtain ⟨other_moment, other_instant, rfl⟩ := exists_moment other_read other_ordered
    rw [Stamp.isEarlier_of_instant other_instant instant, SortKey.le, Bool.eq_iff_iff]
    simp
  cases field with
  | createdAt => exact dates read.1 other_read.1 read.2 other_read.2
  | updatedAt => exact dates read.1 other_read.1 read.2 other_read.2
  | title =>
    obtain rfl := Except.ok.inj read.1
    obtain rfl := Except.ok.inj other_read.1
    exact Text.le_eq_not_lt _ _
  | contentType =>
    obtain ⟨⟨type, known⟩, -⟩ := decoded
    obtain ⟨⟨other_type, other_known⟩, -⟩ := other_decoded
    obtain rfl := Except.ok.inj read.1
    obtain rfl := Except.ok.inj other_read.1
    rw [SortField.isBelow, known, other_known]
    exact Text.le_eq_not_lt _ _

theorem Stamp.isEarlier_self (stamp : Stamp) : stamp.isEarlier stamp = false := by
  cases named : stamp.moment? with
  | none => simp [isEarlier, named]
  | some moment => simp [isEarlier, named]

theorem SortField.isBelow_self (field : SortField) (record : Record) :
    field.isBelow record record = false := by
  cases field with
  | createdAt => exact record.created.isEarlier_self
  | updatedAt => exact record.updated.isEarlier_self
  | title => simp [isBelow]
  | contentType => simp [isBelow]

namespace SortOrder

variable {order next : SortOrder} {records : List Record}

theorem precedes_self (order : SortOrder) (record : Record) :
    order.precedes record record = false := by
  rw [precedes]
  split
  · exact SortField.isBelow_self ..
  · exact SortField.isBelow_self ..
  · rfl

/-- Records from files are sorted by comparing any two of them. -/
theorem exists_sort_eq_mergeSort (proper : order.IsProper)
    (decoded : ∀ record ∈ records, record.IsDecoded)
    (inYears : ∀ record ∈ records, record.IsInYears) :
    ∃ before, IsOrdering before ∧ order.sort records = .ok (records.mergeSort before) ∧
      ∀ first ∈ records, ∀ second ∈ records,
        before first second = !order.precedes second first := by
  obtain ⟨⟨field, named⟩, ⟨direction, directed⟩⟩ := proper
  let key (record : Record) : SortKey := (SortKey.of record field).toOption.getD (.moment none)
  have keys : ∀ record ∈ records,
      SortKey.of record field = .ok (key record) ∧ (key record).isOrdered = true := by
    intro record member
    obtain ⟨own, read, ordered⟩ :=
      SortKey.of_eq_ok (decoded record member) field fun date _ =>
        (inYears record member).stamp date
    have same : key record = own := by
      simp only [key, read]
      rfl
    rw [same]
    exact ⟨read, ordered⟩
  refine ⟨_, direction.isOrdering_admits.on key, ?_, ?_⟩
  · rw [← arrange_eq_mergeSort]
    refine sort_eq_arrange named directed (withKeys_eq_map fun record member =>
        (keys record member).1) ?_
    intro own member
    obtain ⟨_, inside, rfl⟩ := List.mem_map.mp member
    obtain ⟨record, stands, rfl⟩ := List.mem_map.mp inside
    exact (keys record stands).2
  · intro first member second other
    have compares {a b : Record} (stands : a ∈ records) (other_stands : b ∈ records) :=
      SortKey.le_eq_not_isBelow (decoded a stands) (decoded b other_stands) (keys a stands)
        (keys b other_stands)
    simp only [precedes, named, directed]
    cases direction with
    | ascending => exact compares member other
    | descending => exact compares other member

/-- What a sort returns is the one arrangement of the records. -/
theorem exists_sort_iff_isArranged (proper : order.IsProper)
    (decoded : ∀ record ∈ records, record.IsDecoded)
    (inYears : ∀ record ∈ records, record.IsInYears) :
    ∃ sorted, order.sort records = .ok sorted ∧ ∀ list,
      IsArranged order.precedes records list ↔ list = sorted := by
  obtain ⟨before, ordering, sorts, compares⟩ := exists_sort_eq_mergeSort proper decoded inYears
  have perm := List.mergeSort_perm records before
  have arranged : IsArranged order.precedes records (records.mergeSort before) := by
    refine ⟨perm, ?_, ?_⟩
    · refine (List.pairwise_mergeSort ordering.trans ordering.total records).imp_of_mem ?_
      intro first second member other above
      rw [compares first (perm.mem_iff.mp member) second (perm.mem_iff.mp other)] at above
      simpa using above
    · intro record member
      rw [ordering.filter_mergeSort]
      apply List.mergeSort_of_pairwise
      refine List.pairwise_of_forall_mem_list ?_
      intro first first_member second second_member
      obtain ⟨stands, tied⟩ := List.mem_filter.mp first_member
      obtain ⟨other_stands, other_tied⟩ := List.mem_filter.mp second_member
      simp only [areTied, Bool.and_eq_true, Bool.not_eq_true'] at tied other_tied
      have below : before first record = true := by
        rw [compares first stands record member, tied.1]; rfl
      have above : before record second = true := by
        rw [compares record member second other_stands, other_tied.2]; rfl
      exact ordering.trans _ _ _ below above
  refine ⟨_, sorts, ?_⟩
  intro list
  constructor
  · intro other
    exact other.unique order.precedes_self arranged
  · rintro rfl
    exact arranged

/-- Sorting gives the one arrangement of the records, which sorting leaves as it is. Sorted once
more by another order, the records are arranged by that order and by the first where it ties. -/
theorem sort_arranges (proper : order.IsProper) (next_proper : next.IsProper)
    (decoded : ∀ record ∈ records, record.IsDecoded)
    (inYears : ∀ record ∈ records, record.IsInYears) :
    ∃ sorted resorted, order.sort records = .ok sorted ∧
      (∀ list, IsArranged order.precedes records list ↔ list = sorted) ∧
      order.sort sorted = .ok sorted ∧
      next.sort sorted = .ok resorted ∧
        IsArranged (thenBy next.precedes order.precedes) records resorted := by
  obtain ⟨sorted, sorts, only⟩ := exists_sort_iff_isArranged proper decoded inYears
  have arranged := (only sorted).mpr rfl
  have sorted_decoded : ∀ record ∈ sorted, record.IsDecoded := fun record member =>
    decoded record (arranged.perm.mem_iff.mp member)
  have sorted_inYears : ∀ record ∈ sorted, record.IsInYears := fun record member =>
    inYears record (arranged.perm.mem_iff.mp member)
  obtain ⟨again, sorts_again, only_again⟩ :=
    exists_sort_iff_isArranged proper sorted_decoded sorted_inYears
  obtain rfl : sorted = again := (only_again sorted).mp (isArranged_self arranged.ordered)
  obtain ⟨resorted, resorts, only_resorted⟩ :=
    exists_sort_iff_isArranged next_proper sorted_decoded sorted_inYears
  have rearranged := (only_resorted resorted).mpr rfl
  exact ⟨sorted, resorted, sorts, only, sorts_again, resorts,
    arranged.thenBy next.precedes_self rearranged⟩

/-- Two titles that tie but for their case, and a link that stands among the records twice. -/
theorem sort_arranges_ties :
    let stamp := Stamp.read ⟨63839664000000000, by decide, some 3600000000⟩
    let upper : Record :=
      { id := ['1'], title := "CAT".toList, kind := .known .note, created := stamp,
        updated := stamp }
    let link : Record :=
      { id := ['2'], title := "bat".toList, kind := .known .link, created := stamp,
        updated := stamp }
    let lower : Record :=
      { id := ['3'], title := "cat".toList, kind := .known .image, created := stamp,
        updated := stamp }
    let page : Record :=
      { id := ['4'], title := "ant".toList, kind := .known .link, created := stamp,
        updated := stamp }
    let records := [page, link, upper, lower, link]
    let order : SortOrder := { field := "title".toList }
    let next : SortOrder := { field := "content_type".toList, direction := "asc".toList }
    order.IsProper ∧ next.IsProper ∧ (∀ record ∈ records, record.IsDecoded) ∧
      (∀ record ∈ records, record.IsInYears) ∧
      ∃ sorted resorted, order.sort records = .ok sorted ∧
        (∀ list, IsArranged order.precedes records list ↔ list = sorted) ∧
        order.sort sorted = .ok sorted ∧
        next.sort sorted = .ok resorted ∧
          IsArranged (thenBy next.precedes order.precedes) records resorted := by
  intro stamp upper link lower page records order next
  have read : stamp.instant = .ok (some ⟨63839660400000000, by decide⟩) := by decide +kernel
  have proper : order.IsProper := ⟨⟨.title, by decide⟩, ⟨.descending, by decide⟩⟩
  have next_proper : next.IsProper := ⟨⟨.contentType, by decide⟩, ⟨.ascending, by decide⟩⟩
  have decoded : ∀ record ∈ records, record.IsDecoded := by
    simp [records, Record.IsDecoded, upper, link, lower, page, stamp]
  have inYears : ∀ record ∈ records, record.IsInYears := by
    have stamped (record : Record) (created : record.created = stamp)
        (updated : record.updated = stamp) :
        record.IsInYears := ⟨⟨_, created ▸ read⟩, ⟨_, updated ▸ read⟩⟩
    simp [records, stamped upper rfl rfl, stamped link rfl rfl, stamped lower rfl rfl,
      stamped page rfl rfl]
  exact ⟨proper, next_proper, decoded, inYears, sort_arranges proper next_proper decoded inYears⟩

end SortOrder

end RecordSearch
