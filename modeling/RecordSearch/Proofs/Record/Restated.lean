import Mathlib.Data.List.Forall2
import RecordSearch.Proofs.Record.Schema

/-! Objects of records that state the same. Different names may change places, in the object of a
record and in the objects inside it, and members that are no fields may be added: the object is that
of a record as before, and its record the same. -/
namespace RecordSearch

open Json (Document stated valuesUnder)

namespace Json

variable {members others : List (Text × Document)} {name : Text}
  {alike : Document → Document → Prop}

theorem rel_getLast? {first second : List Document} (related : List.Forall₂ alike first second) :
    Option.Rel alike first.getLast? second.getLast? := by
  rw [List.getLast?_eq_head?_reverse, List.getLast?_eq_head?_reverse]
  have reversed := List.forall₂_reverse_iff.mpr related
  generalize first.reverse = first, second.reverse = second at reversed
  cases reversed with
  | nil => exact .none
  | cons last _ => exact .some last

theorem forall_mem_congr {admitted : Document → Prop} {first second : List Document}
    (related : List.Forall₂ alike first second)
    (seen : ∀ first second, alike first second → (admitted first ↔ admitted second)) :
    (∀ value ∈ first, admitted value) ↔ ∀ value ∈ second, admitted value := by
  induction related with
  | nil => simp
  | cons own _ ih => simp [seen _ _ own, ih]

theorem forall₂_trans [IsTrans Document alike] {first second third : List Document}
    (left : List.Forall₂ alike first second) (right : List.Forall₂ alike second third) :
    List.Forall₂ alike first third := by
  induction left generalizing third with
  | nil => exact right
  | cons own _ ih =>
    cases right with
    | cons next rest => exact .cons (trans_of alike own next) (ih rest)

theorem member?_rel
    (related : List.Forall₂ alike (valuesUnder name members) (valuesUnder name others)) :
    Option.Rel alike ((Document.object members).member? name)
      ((Document.object others).member? name) := by
  rw [member?_object, member?_object]
  exact rel_getLast? related

/-- What is stated under a name changes with the last value alone. -/
theorem stated_rel {α : Type} {view : Document → Option α} {same : α → α → Prop}
    (seen : ∀ first second, alike first second → Option.Rel same (view first) (view second))
    (related : List.Forall₂ alike (valuesUnder name members) (valuesUnder name others)) :
    Option.Rel same (stated view name members) (stated view name others) :=
  rel_bind (member?_rel related) seen

theorem stated_congr {α : Type} {view : Document → Option α}
    (seen : ∀ first second, alike first second → view first = view second)
    (related : List.Forall₂ alike (valuesUnder name members) (valuesUnder name others)) :
    stated view name members = stated view name others :=
  bind_eq_of_rel (member?_rel related) seen

end Json

variable {members others : List (Text × Document)} {same : Document → Document → Prop}

theorem Json.Document.SeenAlike.contentType? {first second : Document}
    (alike : first.SeenAlike same second) : first.contentType? = second.contentType? := by
  rw [Document.contentType?, Document.contentType?, alike.text]

theorem Json.Document.SeenAlike.timestamp? {first second : Document}
    (alike : first.SeenAlike same second) : first.timestamp? = second.timestamp? := by
  rw [Document.timestamp?, Document.timestamp?, alike.text]

theorem FieldType.admits_congr {first second : Document} (alike : first.SeenAlike same second)
    (type : FieldType) : type.admits first = type.admits second := by
  cases type with
  | optionalObject => simp only [admits, alike.null, isSome_eq_of_rel alike.object, alike.inRange]
  | _ =>
    simp only [admits, alike.null, alike.text, alike.int, alike.texts, alike.contentType?,
      alike.timestamp?]

namespace RecordEntry

/-- The same members again, in another order of different names and with members added that are no
fields. -/
inductive Restated (same : Document → Document → Prop) : List (Text × Document) →
  List (Text × Document) → Prop
  | nil : Restated same [] []
  | cons (name : Text) {value other : Document} {members others : List (Text × Document)} :
      same value other →
      Restated same members others →
        Restated same ((name, value) :: members) ((name, other) :: others)
  | swap {first second : Text × Document} (apart : first.1 ≠ second.1)
      (rest : List (Text × Document)) :
      Restated same (first :: second :: rest) (second :: first :: rest)
  | unknown {name : Text} (unknown : name ∉ fields.map Prod.fst) (value : Document)
      (members : List (Text × Document)) :
      Restated same members ((name, value) :: members)
  | trans {first second third : List (Text × Document)} : Restated same first second →
      Restated same second third →
      Restated same first third

theorem Restated.valuesUnder [IsPreorder Document same] (restated : Restated same members others)
    {name : Text} (field : name ∈ fields.map Prod.fst) :
    List.Forall₂ same (valuesUnder name members) (valuesUnder name others) := by
  induction restated with
  | nil => exact .nil
  | cons other related _ ih =>
    by_cases own : other = name
    · subst own
      simpa [Json.valuesUnder_cons_self] using ⟨related, ih⟩
    · simpa [Json.valuesUnder_cons_other own] using ih
  | swap apart rest =>
    rw [Json.valuesUnder_swap apart]
    exact List.forall₂_refl _
  | @unknown other unknown value members =>
    have apart : other ≠ name := fun same => unknown (same ▸ field)
    rw [Json.valuesUnder_cons_other apart]
    exact List.forall₂_refl _
  | trans _ _ first second => exact Json.forall₂_trans first second

/-- A member that is no field is admitted always, so that fields may be looked at one by one. -/
theorem forall_mem_admits_iff : (∀ member ∈ members, admits member.1 member.2) ↔
    ∀ name type, (name, type) ∈ fields → ∀ value ∈ valuesUnder name members, type.admits value := by
  simp only [Json.mem_valuesUnder, admits_eq_true_iff, Prod.forall]
  grind

/-- Under every name of a field the members state values that are seen alike. -/
def StateAlike (same : Document → Document → Prop)
    (members others : List (Text × Document)) : Prop :=
  ∀ name ∈ fields.map Prod.fst,
    List.Forall₂ (Document.SeenAlike same) (valuesUnder name members) (valuesUnder name others)

def Alike (same : Document → Document → Prop) (first second : RecordEntry) : Prop :=
  ∃ metadata, Option.Rel same first.metadata metadata ∧ second = { first with metadata := metadata }

theorem StateAlike.ofMembers (alike : StateAlike same members others) :
    Alike same (ofMembers members) (ofMembers others) := by
  refine ⟨_, Json.stated_rel (fun _ _ seen => seen.object) (alike _ (by simp [fields])), ?_⟩
  have agree {α : Type} {view : Document → Option α}
      (seen : ∀ first second : Document, first.SeenAlike same second → view first = view second)
      (name : Text)
      (field : name ∈ fields.map Prod.fst) : stated view name members = stated view name others :=
    Json.stated_congr seen (alike name field)
  simp [RecordEntry.ofMembers, fields, agree fun _ _ seen => seen.text,
    agree fun _ _ seen => seen.int, agree fun _ _ seen => seen.texts, agree fun _ _ seen =>
    seen.contentType?, agree fun _ _ seen => seen.timestamp?]

theorem StateAlike.forall_admits_iff (alike : StateAlike same members others) :
    (∀ member ∈ members, admits member.1 member.2) ↔
      ∀ member ∈ others, admits member.1 member.2 := by
  simp only [forall_mem_admits_iff]
  refine forall_congr' fun name => forall_congr' fun type => forall_congr' fun field => ?_
  exact Json.forall_mem_congr (alike name (List.mem_map_of_mem field)) fun _ _ seen => by
    rw [FieldType.admits_congr seen type]

theorem Alike.refl [Std.Refl same] (entry : RecordEntry) : Alike same entry entry := by
  refine ⟨entry.metadata, ?_, rfl⟩
  cases entry.metadata with
  | none => exact .none
  | some metadata => exact .some (refl_of same metadata)

theorem Alike.title {first second : RecordEntry} (alike : Alike same first second) :
    second.title = first.title := by
  obtain ⟨_, _, rfl⟩ := alike
  rfl

theorem Alike.contentType {first second : RecordEntry} (alike : Alike same first second) :
    second.contentType = first.contentType := by
  obtain ⟨_, _, rfl⟩ := alike
  rfl

theorem StateAlike.matchesSchema_iff (alike : StateAlike same members others) :
    MatchesSchema members ↔ MatchesSchema others := by
  rw [RecordEntry.matchesSchema_iff, RecordEntry.matchesSchema_iff, alike.forall_admits_iff,
    alike.ofMembers.title, alike.ofMembers.contentType]

end RecordEntry

/-- The same document again, or the object of a record stated again. -/
inductive IsRestated (same : Document → Document → Prop) : Document → Document → Prop
  | refl (document : Document) : IsRestated same document document
  | object {members others : List (Text × Document)} : RecordEntry.Restated same members others →
      IsRestated same (.object members) (.object others)

namespace RecordDraft

structure Alike (same : Document → Document → Prop) (first second : RecordDraft) : Prop where
  title : first.title = second.title
  contentType : first.contentType = second.contentType
  entry : first.entry.Alike same second.entry

variable {document other : Document}

theorem IsStatedBy.alike {first second : RecordDraft} (left : first.IsStatedBy members)
    (right : second.IsStatedBy others)
    (entries : (RecordEntry.ofMembers members).Alike same (RecordEntry.ofMembers others)) :
    first.Alike same second := by
  have title := entries.title
  have contentType := entries.contentType
  rw [← left.entry, ← right.entry] at entries title contentType
  rw [left.title, right.title] at title
  rw [left.contentType, right.contentType] at contentType
  exact ⟨(Option.some.inj title).symm, (Option.some.inj contentType).symm, entries⟩

/-- The object of a record that is stated again is one as before, with the same draft. -/
theorem ofDocument_restated [IsPreorder Document same]
    (seen : ∀ first second, same first second → first.SeenAlike same second)
    (restated : IsRestated same document other) (whole : document.isWhole = true)
    (otherWhole : other.isWhole = true) :
    Option.Rel (Alike same) (ofDocument document).toOption (ofDocument other).toOption := by
  cases restated with
  | refl =>
    cases ofDocument document with
    | error => exact .none
    | ok draft => exact .some ⟨rfl, rfl, .refl draft.entry⟩
  | @object members others restated =>
    have alike : RecordEntry.StateAlike same members others :=
      fun name field => (restated.valuesUnder field).imp seen
    apply rel_toOption
    · simp only [ofDocument_object_eq_ok_iff whole, ofDocument_object_eq_ok_iff otherWhole,
        exists_isStatedBy_iff]
      exact alike.matchesSchema_iff
    · intro first second left right
      exact ((ofDocument_object_eq_ok_iff whole).mp left).alike
        ((ofDocument_object_eq_ok_iff otherWhole).mp right)
        alike.ofMembers

end RecordDraft
end RecordSearch
