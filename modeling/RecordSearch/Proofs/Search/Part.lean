import RecordSearch.Proofs.Search.Listing

/-! What a search does to a part of its collection. A search that returns keeps records by a test of
each record alone and sorts those that are left by an ordering; it returns on every part of the
collection too, where it uses the same test and the same ordering. -/
namespace RecordSearch

theorem exists_answer_of_keepIf {α ε : Type} {test : α → Except ε Bool} {members kept : List α}
    (passes : keepIf test members = .ok kept) : ∀ a ∈ members, ∃ answer, test a = .ok answer := by
  induction members generalizing kept with
  | nil => simp
  | cons a rest ih =>
    rw [keepIf] at passes
    cases tested : test a with
    | error fault =>
      rw [tested] at passes
      contradiction
    | ok answer =>
      cases later : keepIf test rest with
      | error fault =>
        rw [tested, later] at passes
        contradiction
      | ok others => simpa [tested] using ih later

theorem keepIf_eq_ok {α ε : Type} {test : α → Except ε Bool} {members kept : List α}
    (passes : keepIf test members = .ok kept) :
    ∀ a ∈ members, test a = .ok ((test a).toOption.getD false) := by
  intro a member
  obtain ⟨answer, tested⟩ := exists_answer_of_keepIf passes a member
  rw [tested]
  rfl

theorem mem_keepIf_iff {α ε : Type} {test : α → Except ε Bool} {members kept : List α}
    (passes : keepIf test members = .ok kept) (a : α) :
    a ∈ kept ↔ a ∈ members ∧ test a = .ok true := by
  have answers := keepIf_eq_ok passes
  obtain rfl := Except.ok.inj (passes.symm.trans (keepIf_eq_filter answers))
  rw [List.mem_filter]
  refine and_congr_right ?_
  intro member
  rw [answers a member, Except.ok.injEq]
  rfl

/-- What a test that returns keeps of a list, it keeps of every part of the list. -/
theorem exists_keep_of_keepIf {α ε : Type} {test : α → Except ε Bool} {members kept : List α}
    (passes : keepIf test members = .ok kept) :
    ∃ keep : α → Bool, ∀ part ⊆ members, keepIf test part = .ok (part.filter keep) := by
  refine ⟨fun a => (test a).toOption.getD false, ?_⟩
  intro part inside
  apply keepIf_eq_filter
  intro a member
  exact keepIf_eq_ok passes a (inside member)

theorem Query.mem_select_iff {query : Query} {records found : List Record}
    (finds : query.select records = .ok found) (record : Record) :
    record ∈ found ↔ record ∈ records ∧ query.matches? record = .ok true := by
  cases stated : query.conditions with
  | error fault =>
    rw [select, stated] at finds
    contradiction
  | ok conditions =>
    have tested : query.matches? record = Condition.allHold record conditions := by
      rw [matches?, stated]
      rfl
    rw [select, stated] at finds
    rw [tested]
    exact mem_keepIf_iff finds record

theorem Query.exists_keep_of_select {query : Query} {records found : List Record}
    (finds : query.select records = .ok found) :
    ∃ keep : Record → Bool, ∀ part ⊆ records, query.select part = .ok (part.filter keep) := by
  cases stated : query.conditions with
  | error fault =>
    rw [select, stated] at finds
    contradiction
  | ok conditions =>
    rw [select, stated] at finds
    obtain ⟨keep, kept⟩ := exists_keep_of_keepIf finds
    refine ⟨keep, ?_⟩
    intro part inside
    rw [select, stated]
    exact kept part inside

namespace Filters

theorem exists_keep_of_keepTypes {names : List Text} {records typed : List Record}
    (passes : keepTypes names records = .ok typed) :
    ∃ keep : Record → Bool, ∀ part ⊆ records, keepTypes names part = .ok (part.filter keep) := by
  by_cases inactive : names.isEmpty = true
  · refine ⟨fun _ => true, ?_⟩
    intro part _
    rw [keepTypes, if_pos inactive, List.filter_true]
  · rw [keepTypes, if_neg inactive] at passes
    cases read : contentTypesOf names with
    | error fault =>
      rw [read] at passes
      contradiction
    | ok types =>
      rw [read] at passes
      obtain ⟨keep, kept⟩ := exists_keep_of_keepIf passes
      refine ⟨keep, ?_⟩
      intro part inside
      rw [keepTypes, if_neg inactive, read]
      exact kept part inside

theorem exists_keep_of_keepCreated {range : Option DateRange} {records created : List Record}
    (passes : keepCreated range records = .ok created) :
    ∃ keep : Record → Bool, ∀ part ⊆ records, keepCreated range part = .ok (part.filter keep) := by
  cases range with
  | none =>
    refine ⟨fun _ => true, ?_⟩
    intro part _
    rw [keepCreated, List.filter_true]
  | some range =>
    rw [keepCreated] at passes
    cases start_read : dated (DateRange.bound range.start) with
    | error fault =>
      rw [start_read] at passes
      contradiction
    | ok start =>
      cases stop_read : dated (DateRange.bound range.stop) with
      | error fault =>
        rw [start_read, stop_read] at passes
        contradiction
      | ok stop =>
        simp only [start_read, stop_read, bind, Except.bind] at passes
        by_cases inactive : (start.isNone && stop.isNone) = true
        · refine ⟨fun _ => true, ?_⟩
          intro part _
          simp only [keepCreated, start_read, stop_read, bind, Except.bind, if_pos inactive,
            List.filter_true]
          rfl
        · rw [if_neg inactive] at passes
          obtain ⟨keep, kept⟩ := exists_keep_of_keepIf passes
          refine ⟨keep, ?_⟩
          intro part inside
          simp only [keepCreated, start_read, stop_read, bind, Except.bind, if_neg inactive]
          exact kept part inside

theorem exists_keep_of_select {filters : Filters} {records found : List Record}
    (passes : filters.select records = .ok found) :
    ∃ keep : Record → Bool, ∀ part ⊆ records, filters.select part = .ok (part.filter keep) := by
  cases typed_read : keepTypes filters.contentTypes records with
  | error fault =>
    rw [select, typed_read] at passes
    contradiction
  | ok typed =>
    obtain ⟨first, typed_kept⟩ := exists_keep_of_keepTypes typed_read
    rw [select, typed_kept records (List.Subset.refl _)] at passes
    simp only [bind, Except.bind, keepTagged_eq_filter, List.filter_filter] at passes
    obtain ⟨last, created_kept⟩ := exists_keep_of_keepCreated passes
    refine ⟨fun record =>
      last record && (decide (filters.tags ≠ [] → ∃ wanted ∈ filters.tags, ∃ tag ∈ record.tags,
      Text.holds wanted tag = true) && first record), ?_⟩
    intro part inside
    rw [select, typed_kept part inside]
    simp only [bind, Except.bind, keepTagged_eq_filter, List.filter_filter]
    rw [created_kept _ (List.filter_subset _ inside), List.filter_filter]

end Filters

structure IsOrdering {α : Type} (before : α → α → Bool) : Prop where
  trans : ∀ a b c, before a b = true → before b c = true → before a c = true
  total : ∀ a b, (before a b || before b a) = true

theorem IsOrdering.refl {α : Type} {before : α → α → Bool} (ordering : IsOrdering before) (a : α) :
    before a a = true := by
  simpa using ordering.total a a

/-- Comparing by what things are mapped to. -/
theorem IsOrdering.on {α β : Type} {before : β → β → Bool} (ordering : IsOrdering before)
    (f : α → β) : IsOrdering fun a b => before (f a) (f b) :=
  ⟨fun _ _ _ => ordering.trans _ _ _, fun _ _ => ordering.total _ _⟩

theorem IsOrdering.filter_mergeSort {α : Type} {before : α → α → Bool}
    (ordering : IsOrdering before) (keep : α → Bool) (members : List α) :
    (members.mergeSort before).filter keep = (members.filter keep).mergeSort before :=
  RecordSearch.filter_mergeSort ordering.trans ordering.total keep members

def SortDirection.admits : SortDirection → SortKey → SortKey → Bool
  | .ascending, first, second => first.le second
  | .descending, first, second => second.le first

theorem SortDirection.isOrdering_admits (direction : SortDirection) :
    IsOrdering direction.admits := by
  cases direction with
  | ascending => exact ⟨fun _ _ _ => SortKey.le_trans, SortKey.le_total⟩
  | descending =>
    exact ⟨fun _ _ _ below above => SortKey.le_trans above below, fun a b => SortKey.le_total b a⟩

theorem arrange_eq_mergeSort (direction : SortDirection) (key : Record → SortKey)
    (records : List Record) :
    arrange direction (records.map fun record => (key record, record)) =
      records.mergeSort fun a b => direction.admits (key a) (key b) := by
  have whole : (records.map fun record => (key record, record)).map Prod.snd = records := by
    rw [List.map_map]
    exact List.map_id _
  rw [arrange, List.map_mergeSort (s := fun a b => direction.admits (key a) (key b)), whole]
  intro a inside b other
  obtain ⟨first, -, rfl⟩ := List.mem_map.mp inside
  obtain ⟨second, -, rfl⟩ := List.mem_map.mp other
  cases direction <;> rfl

theorem withKeys_eq_map {field : SortField} {key : Record → SortKey} {records : List Record}
    (keys : ∀ record ∈ records, SortKey.of record field = .ok (key record)) :
    withKeys field records = .ok (records.map fun record => (key record, record)) := by
  induction records with
  | nil => rfl
  | cons record rest ih =>
    obtain ⟨first, others⟩ := List.forall_mem_cons.mp keys
    rw [withKeys, first, ih others]
    rfl

theorem exists_key_of_withKeys {field : SortField} {records : List Record}
    {keyed : List (SortKey × Record)} (read : withKeys field records = .ok keyed) :
    ∀ record ∈ records, ∃ key, SortKey.of record field = .ok key := by
  induction records generalizing keyed with
  | nil => simp
  | cons record rest ih =>
    rw [withKeys] at read
    cases first : SortKey.of record field with
    | error fault =>
      rw [first] at read
      contradiction
    | ok key =>
      cases later : withKeys field rest with
      | error fault =>
        rw [first, later] at read
        contradiction
      | ok others => simpa [first] using ih later

/-- A comparison of keys fails where there are two of them and one is not ordered. -/
theorem failedComparison?_eq_none_iff {keys : List SortKey} :
    failedComparison? keys = none ↔ keys.length ≤ 1 ∨ ∀ key ∈ keys, key.isOrdered = true := by
  match keys with
  | [] => simp [failedComparison?]
  | [_] => simp [failedComparison?]
  | first :: second :: rest =>
    cases ordered : first.isOrdered with
    | false => simp [failedComparison?, ordered]
    | true => simp [failedComparison?, ordered]

namespace SortOrder

variable {order : SortOrder} {direction : SortDirection} {field : SortField}
  {records sorted : List Record}

theorem sort_eq_ok_iff (directed : SortDirection.ofName? order.direction = some direction)
    (named : SortField.ofName? order.field = some field) (nonempty : records ≠ []) :
    order.sort records = .ok sorted ↔ ∃ keyed, withKeys field records = .ok keyed ∧
      failedComparison? (keyed.map Prod.fst) = none ∧ arrange direction keyed = sorted := by
  obtain ⟨record, rest, rfl⟩ := List.exists_cons_of_ne_nil nonempty
  cases read : withKeys field (record :: rest) with
  | error fault => simp [sort, directed, named, read, dated, bind, Except.bind]
  | ok keyed =>
    -- The keys are compared from one end or from the other, which fails for the same keys.
    have turned : failedComparison? (keyed.map Prod.fst).reverse = none ↔
        failedComparison? (keyed.map Prod.fst) = none := by
      simp [failedComparison?_eq_none_iff]
    cases direction with
    | ascending =>
      cases compared : failedComparison? (keyed.map Prod.fst) with
      | none => simp [sort, directed, named, read, dated, bind, Except.bind, compared]
      | some failure => simp [sort, directed, named, read, dated, bind, Except.bind, compared]
    | descending =>
      cases compared : failedComparison? (keyed.map Prod.fst).reverse with
      | none =>
        simp [sort, directed, named, read, dated, bind, Except.bind, compared, turned.mp compared]
      | some failure =>
        have fails : failedComparison? (keyed.map Prod.fst) ≠ none := by
          rw [ne_eq, ← turned, compared]
          simp
        simp [sort, directed, named, read, dated, bind, Except.bind, compared, fails]

/-- Where records can be sorted, every part of them can, by the same comparison. -/
theorem exists_ordering_of_sort (sorts : order.sort records = .ok sorted) :
    ∃ before : Record → Record → Bool, IsOrdering before ∧
      ∀ part : List Record,
        part.Sublist records → order.sort part = .ok (part.mergeSort before) := by
  cases directed : SortDirection.ofName? order.direction with
  | none => simp [sort, directed] at sorts
  | some direction =>
    have empty : order.sort [] = .ok [] := by simp [sort, directed]
    by_cases nothing : records = []
    · refine ⟨fun _ _ => true, ⟨fun _ _ _ _ _ => rfl, fun _ _ => rfl⟩, ?_⟩
      intro part inside
      rw [nothing, List.sublist_nil] at inside
      rw [inside, empty, List.mergeSort_nil]
    · cases named : SortField.ofName? order.field with
      | none =>
        obtain ⟨record, rest, rfl⟩ := List.exists_cons_of_ne_nil nothing
        simp [sort, directed, named] at sorts
      | some field =>
        obtain ⟨keyed, read, comparable, -⟩ := (sort_eq_ok_iff directed named nothing).mp sorts
        let key (record : Record) : SortKey :=
          (SortKey.of record field).toOption.getD (.moment none)
        have keys : ∀ record ∈ records, SortKey.of record field = .ok (key record) := by
          intro record member
          obtain ⟨own, found⟩ := exists_key_of_withKeys read record member
          simp only [key, found]
          rfl
        obtain rfl := Except.ok.inj (read.symm.trans (withKeys_eq_map keys))
        have ordering := direction.isOrdering_admits
        refine ⟨fun a b => direction.admits (key a) (key b),
          ⟨fun _ _ _ => ordering.trans _ _ _, fun _ _ => ordering.total _ _⟩, ?_⟩
        intro part inside
        by_cases none : part = []
        · rw [none, empty, List.mergeSort_nil]
        · have part_keys := withKeys_eq_map fun record member => keys record (inside.subset member)
          refine (sort_eq_ok_iff directed named none).mpr ⟨_, part_keys, ?_,
              arrange_eq_mergeSort direction key part⟩
          have fewer := inside.map fun record => (key record, record)
          rw [failedComparison?_eq_none_iff] at comparable ⊢
          rcases comparable with short | ordered
          · left
            exact Nat.le_trans (fewer.map Prod.fst).length_le short
          · right
            intro own member
            exact ordered own ((fewer.map Prod.fst).subset member)

end SortOrder

namespace Service

variable {service : Service} {request : SearchRequest} {found : SearchOutcome}

theorem exists_sorted_of_find {query : Query} {filters : Option Filters} {sort : Option SortOrder}
    {records : List Record} (finds : service.find query filters sort = .ok records) :
    ∃ keep before, IsOrdering before ∧ ∀ part : List Record, part.Sublist service.records →
      ({ service with records := part } : Service).find query filters sort =
        .ok ((part.filter keep).mergeSort before) := by
  cases selected : query.select service.records with
  | error fault =>
    rw [find, selected] at finds
    contradiction
  | ok answers =>
    obtain ⟨answering, answered⟩ := Query.exists_keep_of_select selected
    rw [find, answered service.records (List.Subset.refl _)] at finds
    simp only [dated, bind, Except.bind] at finds
    cases filters with
    | none =>
      obtain ⟨before, ordering, sorts⟩ := SortOrder.exists_ordering_of_sort finds
      refine ⟨answering, before, ordering, ?_⟩
      intro part inside
      rw [find, answered part inside.subset]
      exact sorts _ (inside.filter _)
    | some filters =>
      cases passed : filters.select (service.records.filter answering) with
      | error fault => simp [passed] at finds
      | ok passing =>
        obtain ⟨admitted, admits⟩ := Filters.exists_keep_of_select passed
        simp only [admits _ (List.Subset.refl _), List.filter_filter] at finds
        obtain ⟨before, ordering, sorts⟩ := SortOrder.exists_ordering_of_sort finds
        refine ⟨fun record => admitted record && answering record, before, ordering, ?_⟩
        intro part inside
        have kept := inside.filter answering
        rw [find, answered part inside.subset]
        simp only [dated, bind, Except.bind, admits _ kept.subset, List.filter_filter]
        exact sorts _ (inside.filter _)

/-- A search that returns tests each record on its own and sorts those that pass, and it does the
same to every part of the collection. -/
theorem exists_sorted_of_search (finds : service.search request = .ok found) :
    ∃ keep before, IsOrdering before ∧ ∀ part : List Record, part.Sublist service.records →
      ({ service with records := part } : Service).search request =
        .ok ⟨found.query, (part.filter keep).mergeSort before, found.verdict⟩ := by
  rw [search] at finds
  split at finds
  · next refused =>
    obtain rfl := Except.ok.inj finds
    refine ⟨fun _ => false, fun _ _ => true, ⟨fun _ _ _ _ _ => rfl, fun _ _ => rfl⟩, ?_⟩
    intro part _
    rw [search, if_pos refused, List.filter_false, List.mergeSort_nil]
  · next accepted =>
    cases finding : service.find (queryOf request.text) request.filters request.sort with
    | error fault => simp [finding, Except.map] at finds
    | ok records =>
      simp only [finding, Except.map] at finds
      obtain rfl := Except.ok.inj finds
      obtain ⟨keep, before, ordering, sorted⟩ := exists_sorted_of_find finding
      refine ⟨keep, before, ordering, ?_⟩
      intro part inside
      rw [search, if_neg accepted]
      simp only [sorted part inside, Except.map]

end Service
end RecordSearch
