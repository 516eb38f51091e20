import Mathlib.Data.List.Pairwise
import RecordSearch.Search.Sorting

/-! Sorting of records whose dates can be read. Every key can then be compared with every other, and
since ties keep their order, records may be left out before sorting or behind it. -/
namespace RecordSearch

namespace Text

theorem le_total (left right : Text) : (le left right || le right left) = true := by
  induction left generalizing right with
  | nil => rfl
  | cons c rest ih =>
    cases right with
    | nil => rfl
    | cons d other =>
      have later := ih other
      rcases Nat.lt_trichotomy c.toNat d.toNat with less | same | greater
      · simp [le, less]
      · obtain rfl := Char.toNat_inj.mp same
        simpa [le] using later
      · simp [le, greater]

theorem le_trans {first second third : Text} (below : le first second = true)
    (above : le second third = true) : le first third = true := by
  induction first generalizing second third with
  | nil => rfl
  | cons c rest ih =>
    match second, third with
    | d :: other, e :: last =>
      simp only [le, Bool.or_eq_true, Bool.and_eq_true, decide_eq_true_eq,
        beq_iff_eq] at below above ⊢
      rcases below with less | ⟨rfl, below⟩
      · rcases above with further | ⟨rfl, -⟩
        · exact .inl (by omega)
        · exact .inl less
      · rcases above with further | ⟨rfl, above⟩
        · exact .inl further
        · exact .inr ⟨rfl, ih below above⟩

end Text

namespace SortKey

theorem le_total (left right : SortKey) : (le left right || le right left) = true := by
  match left, right with
  | .moment (some left), .moment (some right) =>
    simpa [le] using Nat.le_total left.micros right.micros
  | .text left, .text right => exact Text.le_total left right
  | .moment none, .moment none => rfl
  | .moment none, .moment (some _) => rfl
  | .moment (some _), .moment none => rfl
  | .moment instant, .text _ => cases instant <;> rfl
  | .text _, .moment instant => cases instant <;> rfl

theorem le_trans {first second third : SortKey} (below : le first second = true)
    (above : le second third = true) : le first third = true := by
  cases first with
  | text first =>
    cases second with
    | moment second => cases second <;> contradiction
    | text second =>
      cases third with
      | moment third => cases third <;> contradiction
      | text third => exact Text.le_trans below above
  | moment first =>
    cases third with
    | text third => cases first <;> rfl
    | moment third =>
      cases second with
      | text second => cases third <;> contradiction
      | moment second =>
        cases first with
        | none => rfl
        | some first =>
          cases second with
          | none => contradiction
          | some second =>
            cases third with
            | none => contradiction
            | some third =>
              exact decide_eq_true
                (Nat.le_trans (of_decide_eq_true below) (of_decide_eq_true above))

end SortKey

/-- Two cuts of one list, each at the first member of a kind, are the same cut. -/
theorem cut_unique {α : Type} {p : α → Bool} {front rest front' rest' : List α}
    (same : front ++ rest = front' ++ rest') (out : ∀ a ∈ front, p a = false)
    (out' : ∀ a ∈ front', p a = false) (inside : ∀ a ∈ rest, p a = true)
    (inside' : ∀ a ∈ rest', p a = true) : front = front' ∧ rest = rest' := by
  induction front generalizing front' with
  | nil =>
    cases front' with
    | nil => exact ⟨rfl, same⟩
    | cons a front' =>
      rw [List.nil_append] at same
      have member := inside a (same ▸ List.mem_cons_self)
      rw [out' a List.mem_cons_self] at member
      contradiction
  | cons a front ih =>
    cases front' with
    | nil =>
      rw [List.nil_append] at same
      have member := inside' a (same ▸ List.mem_cons_self)
      rw [out a List.mem_cons_self] at member
      contradiction
    | cons b front' =>
      obtain ⟨rfl, later⟩ := List.cons.inj same
      obtain ⟨rfl, rfl⟩ := ih later (fun c member => out c (List.mem_cons_of_mem _ member))
        (fun c member => out' c (List.mem_cons_of_mem _ member))
      exact ⟨rfl, rfl⟩

/-- Members may be left out before a stable sort or behind it. The induction is on the list: a new
first member goes to the same place among the members that are kept, which is in front of all it may
precede. -/
theorem filter_mergeSort {α : Type} {le : α → α → Bool}
    (trans : ∀ a b c, le a b = true → le b c = true → le a c = true)
    (total : ∀ a b, (le a b || le b a) = true) (keep : α → Bool) (members : List α) :
    (members.mergeSort le).filter keep = (members.filter keep).mergeSort le := by
  induction members with
  | nil => simp
  | cons a rest ih =>
    obtain ⟨front, back, sorted, others, out⟩ := List.mergeSort_cons trans total a rest
    have ordered := List.pairwise_mergeSort trans total (a :: rest)
    rw [sorted] at ordered
    have inside := (List.pairwise_cons.mp (List.pairwise_append.mp ordered).2.1).1
    rw [others, List.filter_append] at ih
    cases kept : keep a with
    | false =>
      rw [List.filter_cons_of_neg (by simp [kept]), ← ih, sorted, List.filter_append,
        List.filter_cons_of_neg (by simp [kept])]
    | true =>
      obtain ⟨front', back', sorted', others', out'⟩ :=
        List.mergeSort_cons trans total a (rest.filter keep)
      have ordered' := List.pairwise_mergeSort trans total (a :: rest.filter keep)
      rw [sorted'] at ordered'
      have inside' := (List.pairwise_cons.mp (List.pairwise_append.mp ordered').2.1).1
      have cut : front.filter keep = front' ∧ back.filter keep = back' :=
        cut_unique (ih.trans others')
          (fun b member => by simpa using out b (List.mem_filter.mp member).1)
          (fun b member => by simpa using out' b member)
          (fun b member => inside b (List.mem_filter.mp member).1) inside'
      rw [sorted, List.filter_append, List.filter_cons_of_pos kept, List.filter_cons_of_pos kept,
        sorted', cut.1, cut.2]

theorem filter_arrange (direction : SortDirection) (keep : Record → Bool)
    (keyed : List (SortKey × Record)) :
    (arrange direction keyed).filter keep =
      arrange direction (keyed.filter fun member => keep member.2) := by
  rw [arrange, arrange, List.filter_map]
  refine congrArg (List.map Prod.snd) (filter_mergeSort ?_ ?_ _ keyed)
  · intro a b c below above
    cases direction with
    | ascending => exact SortKey.le_trans below above
    | descending => exact SortKey.le_trans above below
  · intro a b
    cases direction with
    | ascending => exact SortKey.le_total a.1 b.1
    | descending => exact SortKey.le_total b.1 a.1

theorem arrange_perm (direction : SortDirection) (keyed : List (SortKey × Record)) :
    (arrange direction keyed).Perm (keyed.map Prod.snd) := (List.mergeSort_perm _ _).map _

/-- The dates of the record do not leave the years 1 to 9999. -/
structure Record.IsInYears (record : Record) : Prop where
  created : ∃ moment, record.created.instant = .ok moment
  updated : ∃ moment, record.updated.instant = .ok moment

theorem Record.IsInYears.stamp {record : Record} (inYears : record.IsInYears) (date : DateField) :
    ∃ moment, (date.stamp record).instant = .ok moment := by
  cases date with
  | created => exact inYears.created
  | updated => exact inYears.updated

structure SortOrder.IsProper (order : SortOrder) : Prop where
  field : ∃ field, SortField.ofName? order.field = some field
  direction : ∃ direction, SortDirection.ofName? order.direction = some direction

theorem Stamp.instant_of_read {timestamp : Timestamp} {moment : Option Instant}
    (inYears : (read timestamp).instant = .ok moment) : ∃ instant, moment = some instant := by
  cases converted : timestamp.toInstant with
  | error => simp [instant, converted, Except.map] at inYears
  | ok instant =>
    exact ⟨instant, by simpa [Stamp.instant, converted, Except.map] using inYears.symm⟩

def SortField.date? : SortField → Option DateField
  | .createdAt => some .created
  | .updatedAt => some .updated
  | .title => none
  | .contentType => none

/-- A record from a file has a key for every attribute that is not a date beyond the years 1 to
9999. -/
theorem SortKey.of_eq_ok {record : Record} (decoded : record.IsDecoded) (field : SortField)
    (inYears : ∀ date ∈ field.date?, ∃ moment, (date.stamp record).instant = .ok moment) :
    ∃ key, SortKey.of record field = .ok key ∧ key.isOrdered = true := by
  obtain ⟨-, ⟨created, created_read⟩, ⟨updated, updated_read⟩⟩ := decoded
  cases field with
  | createdAt =>
    obtain ⟨moment, read⟩ : ∃ moment, record.created.instant = .ok moment := inYears .created rfl
    obtain ⟨instant, rfl⟩ := Stamp.instant_of_read (created_read ▸ read)
    exact ⟨.moment (some instant), by simp [SortKey.of, read, Except.map], rfl⟩
  | updatedAt =>
    obtain ⟨moment, read⟩ : ∃ moment, record.updated.instant = .ok moment := inYears .updated rfl
    obtain ⟨instant, rfl⟩ := Stamp.instant_of_read (updated_read ▸ read)
    exact ⟨.moment (some instant), by simp [SortKey.of, read, Except.map], rfl⟩
  | title => exact ⟨_, rfl, rfl⟩
  | contentType => exact ⟨_, rfl, rfl⟩

/-- Where every record has a key, leaving out records leaves out their keys. -/
theorem withKeys_eq_ok {field : SortField} {records : List Record}
    (keys : ∀ record ∈ records, ∃ key, SortKey.of record field = .ok key ∧ key.isOrdered = true) :
    ∃ keyed, withKeys field records = .ok keyed ∧ keyed.map Prod.snd = records ∧
      (∀ key ∈ keyed.map Prod.fst, key.isOrdered = true) ∧
      ∀ keep : Record → Bool,
        withKeys field (records.filter keep) = .ok (keyed.filter fun member => keep member.2) := by
  induction records with
  | nil => exact ⟨[], rfl, rfl, by simp, fun _ => rfl⟩
  | cons record rest ih =>
    obtain ⟨key, read, ordered⟩ := keys record List.mem_cons_self
    obtain ⟨others, others_read, whole, others_ordered, left⟩ :=
      ih fun other member => keys other (List.mem_cons_of_mem _ member)
    refine ⟨(key, record) :: others, ?_, by rw [List.map_cons, whole],
      by simpa [ordered] using others_ordered,
      fun keep => ?_⟩
    · rw [withKeys, read, others_read]
      rfl
    · cases kept : keep record with
      | false =>
        rw [List.filter_cons_of_neg (by simp [kept]), List.filter_cons_of_neg (by simp [kept])]
        exact left keep
      | true =>
        have pairs : ((key, record) :: others).filter (fun member => keep member.2) =
            (key, record) :: others.filter fun member => keep member.2 :=
          List.filter_cons_of_pos kept
        rw [List.filter_cons_of_pos kept, pairs, withKeys, read, left keep]
        rfl

theorem failedComparison?_eq_none {keys : List SortKey}
    (ordered : ∀ key ∈ keys, key.isOrdered = true) : failedComparison? keys = none := by
  match keys with
  | [] => rfl
  | [_] => rfl
  | first :: second :: rest =>
    have later : ((second :: rest).any fun key => !key.isOrdered) = false := by
      rw [List.any_eq_false]
      intro key member
      simp [ordered key (List.mem_cons_of_mem _ member)]
    simp only [failedComparison?, ordered first List.mem_cons_self, later]
    rfl

theorem sort_eq_arrange {order : SortOrder} {records : List Record}
    {keyed : List (SortKey × Record)} {field : SortField} {direction : SortDirection}
    (field_named : SortField.ofName? order.field = some field)
    (direction_named : SortDirection.ofName? order.direction = some direction)
    (read : withKeys field records = .ok keyed)
    (ordered : ∀ key ∈ keyed.map Prod.fst, key.isOrdered = true) :
    order.sort records = .ok (arrange direction keyed) := by
  have comparable : failedComparison? (keyed.map Prod.fst) = none :=
    failedComparison?_eq_none ordered
  have reversed : failedComparison? (keyed.map Prod.fst).reverse = none :=
    failedComparison?_eq_none fun key member => ordered key (List.mem_reverse.mp member)
  cases records with
  | nil =>
    obtain rfl := Except.ok.inj read
    simp [SortOrder.sort, direction_named, arrange]
  | cons record rest =>
    cases direction with
    | ascending =>
      simp only [SortOrder.sort, direction_named, field_named, read, dated, bind,
        Except.bind, comparable]
    | descending =>
      simp only [SortOrder.sort, direction_named, field_named, read, dated, bind,
        Except.bind, reversed]

/-- Records from files whose dates can be read are sorted, and leaving out some of them before that
leaves out the same of the sorted ones. -/
theorem sort_filter {order : SortOrder} {records : List Record} (proper : order.IsProper)
    (decoded : ∀ record ∈ records, record.IsDecoded)
    (inYears : ∀ record ∈ records, record.IsInYears) :
    ∃ sorted, order.sort records = .ok sorted ∧ sorted.Perm records ∧
      ∀ keep : Record → Bool, order.sort (records.filter keep) = .ok (sorted.filter keep) := by
  obtain ⟨⟨field, field_named⟩, ⟨direction, direction_named⟩⟩ := proper
  obtain ⟨keyed, read, whole, ordered, left⟩ := withKeys_eq_ok fun record member =>
    SortKey.of_eq_ok (decoded record member) field fun date _ => (inYears record member).stamp date
  refine ⟨arrange direction keyed, sort_eq_arrange field_named direction_named read ordered,
    whole ▸ arrange_perm _ _,
    fun keep => ?_⟩
  rw [filter_arrange]
  refine sort_eq_arrange field_named direction_named (left keep) fun key member => ordered key ?_
  obtain ⟨member, inside, rfl⟩ := List.mem_map.mp member
  exact List.mem_map_of_mem (List.mem_filter.mp inside).1

end RecordSearch
