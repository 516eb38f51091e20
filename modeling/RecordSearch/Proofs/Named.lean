import Mathlib.Data.List.Induction
import Mathlib.Data.List.Nodup
import RecordSearch.Named

/-! Values under names after many have been put there: every name stands where it first came in,
with the value that came last. -/
namespace RecordSearch.Named

variable {α : Type}

theorem names_cons (member : Text × α) (rest : Named α) :
    names (member :: rest) = member.1 :: names rest :=
  rfl

theorem names_set (named : Named α) (name : Text) (value : α) :
    (named.set name value).names =
      if name ∈ named.names then named.names else named.names ++ [name] := by
  induction named with
  | nil => rfl
  | cons member rest ih =>
    obtain ⟨other, old⟩ := member
    by_cases same : other = name
    · simp [set, names_cons, same]
    · rw [set, if_neg same, names_cons, names_cons, ih]
      by_cases known : name ∈ names rest
      · simp [known]
      · simp [known, Ne.symm same]

theorem set_of_notMem {named : Named α} {name : Text} {value : α} (new : name ∉ named.names) :
    named.set name value = named ++ [(name, value)] := by
  induction named with
  | nil => rfl
  | cons member rest ih =>
    obtain ⟨other, old⟩ := member
    rw [names_cons, List.mem_cons, not_or] at new
    rw [set, if_neg (Ne.symm new.1), ih new.2]
    rfl

theorem mem_set {named : Named α} {name : Text} {value : α} {member : Text × α}
    (inside : member ∈ named.set name value) : member = (name, value) ∨ member ∈ named := by
  induction named with
  | nil => exact .inl (by simpa [set] using inside)
  | cons first rest ih =>
    obtain ⟨other, old⟩ := first
    simp only [set] at inside
    split at inside
    · next same =>
      rcases List.mem_cons.mp inside with rfl | later
      · exact .inl (by rw [same])
      · exact .inr (List.mem_cons_of_mem _ later)
    · rcases List.mem_cons.mp inside with rfl | later
      · exact .inr List.mem_cons_self
      · exact (ih later).imp_right (List.mem_cons_of_mem _)

theorem mem_set_iff {named : Named α} (distinct : named.names.Nodup) {name : Text} {value : α}
    {member : Text × α} :
    member ∈ named.set name value ↔ member = (name, value) ∨ member ∈ named ∧ member.1 ≠ name := by
  induction named with
  | nil => simp [set]
  | cons first rest ih =>
    obtain ⟨other, old⟩ := first
    obtain ⟨new, distinct⟩ := List.nodup_cons.mp distinct
    by_cases same : other = name
    · subst same
      have others (inside : member ∈ rest) : member.1 ≠ other := by
        intro here
        exact new (List.mem_map.mpr ⟨member, inside, here⟩)
      rw [set, if_pos rfl, List.mem_cons, List.mem_cons]
      constructor
      · rintro (here | later)
        · exact .inl here
        · exact .inr ⟨.inr later, others later⟩
      · rintro (here | ⟨rfl | later, different⟩)
        · exact .inl here
        · exact absurd rfl different
        · exact .inr later
    · rw [set, if_neg same, List.mem_cons, ih distinct, List.mem_cons]
      constructor
      · rintro (rfl | here | ⟨later, different⟩)
        · exact .inr ⟨.inl rfl, same⟩
        · exact .inl here
        · exact .inr ⟨.inr later, different⟩
      · rintro (here | ⟨rfl | later, different⟩)
        · exact .inr (.inl here)
        · exact .inl rfl
        · exact .inr (.inr ⟨later, different⟩)

theorem ofList_append_singleton (members : List (Text × α)) (member : Text × α) :
    ofList (members ++ [member]) = (ofList members).set member.1 member.2 := by
  simp [ofList]

theorem nodup_names_ofList (members : List (Text × α)) : (ofList members).names.Nodup := by
  induction members using List.reverseRecOn with
  | nil => exact List.nodup_nil
  | append_singleton members member ih =>
    rw [ofList_append_singleton, names_set]
    split
    · exact ih
    · next new => exact List.nodup_append'.mpr ⟨ih, List.nodup_singleton _, by simpa using new⟩

/-- Values under different names stay as they are. -/
theorem ofList_of_nodup {members : Named α} (distinct : members.names.Nodup) :
    ofList members = members := by
  induction members using List.reverseRecOn with
  | nil => rfl
  | append_singleton members member ih =>
    rw [names, List.map_append, List.nodup_append'] at distinct
    have new : member.1 ∉ names members := fun known => distinct.2.2 known List.mem_cons_self
    rw [ofList_append_singleton, ih distinct.1, set_of_notMem new]

theorem mem_of_mem_ofList {members : List (Text × α)} {member : Text × α}
    (inside : member ∈ ofList members) : member ∈ members := by
  induction members using List.reverseRecOn with
  | nil => exact inside
  | append_singleton members last ih =>
    rw [ofList_append_singleton] at inside
    rcases mem_set inside with rfl | earlier
    · simp
    · exact List.mem_append_left _ (ih earlier)

/-- A member in front of others stays unless one of them has its name. -/
theorem mem_ofList_cons (first : Text × α) (members : List (Text × α)) (member : Text × α) :
    member ∈ ofList (first :: members) ↔
      member ∈ ofList members ∨ member = first ∧ first.1 ∉ members.map Prod.fst := by
  induction members using List.reverseRecOn with
  | nil => simp [ofList, set]
  | append_singleton members last ih =>
    rw [← List.cons_append, ofList_append_singleton, ofList_append_singleton,
      mem_set_iff (nodup_names_ofList _), mem_set_iff (nodup_names_ofList _), ih, List.map_append,
      List.mem_append, not_or, List.map_singleton, List.mem_singleton]
    constructor
    · rintro (here | ⟨earlier | ⟨rfl, new⟩, different⟩)
      · exact .inl (.inl here)
      · exact .inl (.inr ⟨earlier, different⟩)
      · exact .inr ⟨rfl, new, different⟩
    · rintro ((here | ⟨earlier, different⟩) | ⟨rfl, new, different⟩)
      · exact .inl here
      · exact .inr ⟨.inl earlier, different⟩
      · exact .inr ⟨.inr ⟨rfl, new⟩, different⟩

end RecordSearch.Named
