import Mathlib.Order.Defs.Unbundled
import RecordSearch.Json.Document

/-! What the members of an object state. A name may stand in front of several values, the last of
which decides. A document means the same in any order of the names of its objects, as long as values
under one name keep theirs. -/
namespace RecordSearch.Json

section

variable {members : List (Text × Document)} {name : Text} {value : Document}

def valuesUnder (name : Text) (members : List (Text × Document)) : List Document :=
  (members.filter fun member => member.1 = name).map Prod.snd

/-- What the last value under a name is seen as. -/
def stated {α : Type} (view : Document → Option α) (name : Text)
    (members : List (Text × Document)) : Option α :=
  ((Document.object members).member? name).bind view

theorem member?_object :
    (Document.object members).member? name = (valuesUnder name members).getLast? := by
  rw [Document.member?, valuesUnder, List.getLast?_map, List.getLast?_eq_head?_reverse,
    ← List.filter_reverse, List.head?_filter]
  congr 2
  funext member
  rw [Bool.eq_iff_iff, beq_iff_eq, decide_eq_true_iff]

theorem valuesUnder_cons_self :
    valuesUnder name ((name, value) :: members) = value :: valuesUnder name members := by
  simp [valuesUnder]

theorem valuesUnder_cons_other {other : Text} (apart : other ≠ name) :
    valuesUnder name ((other, value) :: members) = valuesUnder name members := by
  simp [valuesUnder, apart]

theorem valuesUnder_swap {first second : Text × Document} (apart : first.1 ≠ second.1) (name : Text)
    (rest : List (Text × Document)) :
    valuesUnder name (first :: second :: rest) = valuesUnder name (second :: first :: rest) := by
  by_cases own : first.1 = name
  · have other : second.1 ≠ name := own ▸ apart.symm
    simp [valuesUnder, own, other]
  · simp [valuesUnder, List.filter_cons, own]

theorem mem_valuesUnder : value ∈ valuesUnder name members ↔ (name, value) ∈ members := by
  simp [valuesUnder]

/-- One more member decides what is stated under its own name and nothing else. -/
theorem stated_concat {α : Type} (view : Document → Option α) (other : Text) :
    stated view name (members ++ [(other, value)]) =
      if other = name then view value else stated view name members := by
  split
  next own =>
    subst own
    simp [stated, member?_object, valuesUnder]
  next apart => simp [stated, member?_object, valuesUnder, apart]

theorem isSome_stated_iff {α : Type} {view : Document → Option α}
    (seen : ∀ value ∈ valuesUnder name members, (view value).isSome) :
    (stated view name members).isSome ↔ valuesUnder name members ≠ [] := by
  rw [stated, member?_object]
  cases last : (valuesUnder name members).getLast? with
  | none => simpa using last
  | some value =>
    have inside := List.mem_of_getLast? last
    simp [seen value inside, List.ne_nil_of_mem inside]

end

namespace Document

def isNull : Document → Bool
  | .null => true
  | _ => false

def text? : Document → Option Text
  | .string text => some text
  | _ => none

def int? : Document → Option Int
  | .number written => written.int?
  | _ => none

def texts? : Document → Option (List Text)
  | .array items => items.mapM text?
  | _ => none

def object? : Document → Option Document
  | .object members => some (.object members)
  | _ => none

/-- Two documents are the same but for the order in which the objects in them state different
names. -/
inductive Reordered : Document → Document → Prop
  | refl (document : Document) : Reordered document document
  | swap (before after : List (Text × Document)) {first second : Text × Document}
      (apart : first.1 ≠ second.1) :
      Reordered (.object (before ++ first :: second :: after))
        (.object (before ++ second :: first :: after))
  | member (before after : List (Text × Document)) (name : Text)
      {value other : Document} : Reordered value other →
      Reordered (.object (before ++ (name, value) :: after))
        (.object (before ++ (name, other) :: after))
  | item (before after : List Document) {value other : Document} : Reordered value other →
      Reordered (.array (before ++ value :: after)) (.array (before ++ other :: after))
  | trans {first second third : Document} : Reordered first second → Reordered second third →
      Reordered first third

instance : IsPreorder Document Reordered where
  refl := .refl
  trans := fun _ _ _ => .trans

theorem allInRange_eq_all (items : List Document) : allInRange items = items.all isInRange := by
  induction items with
  | nil => rfl
  | cons item rest ih => simp [allInRange, ih]

theorem membersInRange_eq_all (members : List (Text × Document)) :
    membersInRange members = members.all fun member => member.2.isInRange := by
  induction members with
  | nil => rfl
  | cons member rest ih => simp [membersInRange, ih]

/-- Two documents are seen alike as anything but an object, and as objects they are related. -/
structure SeenAlike (same : Document → Document → Prop) (first second : Document) : Prop where
  null : first.isNull = second.isNull
  text : first.text? = second.text?
  int : first.int? = second.int?
  texts : first.texts? = second.texts?
  object : Option.Rel same first.object? second.object?
  inRange : first.isInRange = second.isInRange

theorem object?_rel {same : Document → Document → Prop} {first second : Document}
    (related : same first second) (isObject : first.object?.isSome = second.object?.isSome) :
    Option.Rel same first.object? second.object? := by
  cases first <;> cases second <;> simp_all [object?]

theorem seenAlike_of_eq {first second : Document} (same : first = second) :
    SeenAlike Eq first second := by
  subst same
  exact ⟨rfl, rfl, rfl, rfl, object?_rel rfl rfl, rfl⟩

theorem Reordered.seenAlike {first second : Document} (reordered : Reordered first second) :
    SeenAlike Reordered first second := by
  suffices alike : first.isNull = second.isNull ∧ first.text? = second.text? ∧
      first.int? = second.int? ∧
      first.texts? = second.texts? ∧ first.object?.isSome = second.object?.isSome ∧
        first.isInRange = second.isInRange by
    obtain ⟨null, text, int, texts, isObject, inRange⟩ := alike
    exact ⟨null, text, int, texts, object?_rel reordered isObject, inRange⟩
  induction reordered with
  | refl => simp
  | swap before after apart =>
    refine ⟨rfl, rfl, rfl, rfl, rfl, ?_⟩
    simp [isInRange, membersInRange_eq_all, Bool.and_left_comm]
  | member before after name _ inside =>
    obtain ⟨-, -, -, -, -, inRange⟩ := inside
    exact ⟨rfl, rfl, rfl, rfl, rfl, by simp [isInRange, membersInRange_eq_all, inRange]⟩
  | item before after _ inside =>
    obtain ⟨-, text, -, -, -, inRange⟩ := inside
    exact ⟨rfl, rfl, rfl, by simp [texts?, text], rfl,
      by simp [isInRange, allInRange_eq_all, inRange]⟩
  | trans _ _ first second => simp_all

end Document
end RecordSearch.Json
