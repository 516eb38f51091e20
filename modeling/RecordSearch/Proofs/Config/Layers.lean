import RecordSearch.Config.Basic
import RecordSearch.Proofs.Named

/-! What stands at a path of names in merged configurations. It is what the last configuration says
that says anything there, and a configuration that has a plain value on the way to the path takes
away what stood behind it. Merging a configuration once more changes nothing. -/
namespace RecordSearch

namespace Yaml.Value

def isMapping : Value → Bool
  | .map _ => true
  | _ => false

/-- No mapping that is reached through mappings has a name twice. -/
inductive HasDistinctNames : Value → Prop
  | map {members : List (Text × Value)} : (Named.names members).Nodup →
      (∀ member ∈ members, HasDistinctNames member.2) →
      HasDistinctNames (.map members)
  | plain {value : Value} : value.isMapping = false → HasDistinctNames value

def at? (value : Value) : List Text → Option Value
  | [] => some value
  | name :: path =>
    match value with
    | .map members => Config.at? members (name :: path)
    | _ => none

theorem HasDistinctNames.of_map {members : List (Text × Value)}
    (distinct : (Value.map members).HasDistinctNames) :
    (Named.names members).Nodup ∧ ∀ member ∈ members, member.2.HasDistinctNames := by
  cases distinct with
  | map names inner => exact ⟨names, inner⟩
  | plain other => contradiction

theorem exists_members {value : Value} (mapping : value.isMapping = true) :
    ∃ members, value = .map members := by
  cases value with
  | map members => exact ⟨members, rfl⟩
  | _ => contradiction

theorem at?_map (members : List (Text × Value)) (path : List Text) :
    (map members).at? path = Config.at? members path := by
  cases path with
  | nil => rfl
  | cons name path => rfl

theorem at?_plain {value : Value} (plain : value.isMapping = false) (path : List Text) :
    value.at? path = if path = [] then some value else none := by
  cases path with
  | nil => rfl
  | cons name path =>
    cases value with
    | map members => contradiction
    | _ => rfl

end Yaml.Value

namespace Named

variable {α : Type} {named : Named α} {name : Text} {value : α}

theorem get?_cons (first : Text) (value : α) (rest : Named α) (name : Text) :
    get? ((first, value) :: rest) name = if name = first then some value else rest.get? name := by
  rw [get?, List.lookup_cons, get?]
  by_cases same : name = first
  · simp [same]
  · simp [same, beq_eq_false_iff_ne.mpr same]

theorem get?_eq_none (new : name ∉ named.names) : named.get? name = none := by
  induction named with
  | nil => rfl
  | cons member rest ih =>
    rw [names_cons, List.mem_cons, not_or] at new
    rw [get?_cons, if_neg new.1, ih new.2]

theorem get?_of_mem (distinct : named.names.Nodup) (member : (name, value) ∈ named) :
    named.get? name = some value := by
  induction named with
  | nil => contradiction
  | cons first rest ih =>
    obtain ⟨new, distinct⟩ := List.nodup_cons.mp distinct
    rw [get?_cons]
    rcases List.mem_cons.mp member with rfl | later
    · exact if_pos rfl
    · rw [if_neg, ih distinct later]
      rintro rfl
      exact new (List.mem_map.mpr ⟨_, later, rfl⟩)

theorem mem_of_get? (there : named.get? name = some value) : (name, value) ∈ named := by
  induction named with
  | nil => contradiction
  | cons first rest ih =>
    obtain ⟨other, old⟩ := first
    rw [get?_cons] at there
    split at there
    · next same => rw [same, Option.some.inj there]; exact List.mem_cons_self
    · exact List.mem_cons_of_mem _ (ih there)

/-- Putting a value where it stands already changes nothing. -/
theorem set_of_get? (there : named.get? name = some value) : named.set name value = named := by
  induction named with
  | nil => contradiction
  | cons first rest ih =>
    obtain ⟨other, old⟩ := first
    rw [get?_cons] at there
    rw [set]
    by_cases same : name = other
    · rw [if_pos same] at there
      rw [if_pos same.symm, Option.some.inj there]
    · rw [if_neg same] at there
      rw [if_neg (Ne.symm same), ih there]

end Named

namespace Config

abbrev HasDistinctNames (config : Config) : Prop := (Yaml.Value.map config).HasDistinctNames

/-- The configuration says nothing at a path, and has nothing but mappings on the way to it. -/
structure LeavesAlone (config : Config) (path : List Text) : Prop where
  unbound : config.at? path = none
  passes : ∀ part value, part <+: path → part ≠ path → config.at? part = some value →
    value.isMapping = true

variable {base upper config : Config} {name : Text} {path : List Text} {value : Yaml.Value}

theorem at?_cons (config : Config) (name : Text) (path : List Text) :
    config.at? (name :: path) = (Named.get? config name).bind fun value => value.at? path := by
  cases path with
  | nil =>
    rw [at?]
    cases Named.get? config name with
    | none => rfl
    | some value => rfl
  | cons next path =>
    rw [at?.eq_3 config name (next :: path) (List.cons_ne_nil next path)]
    cases Named.get? config name with
    | none => rfl
    | some value =>
      cases value with
      | map members => rfl
      | _ => rfl

theorem atop_plain (plain : value.isMapping = false) (before : Option Yaml.Value) :
    atop before value = value := by
  cases value with
  | map members => contradiction
  | _ => simp [atop]

theorem atop_map (before : Option Yaml.Value) (members : Config)
    (plain : ∀ own, before = some (.map own) → False) :
    atop before (.map members) = .map members := by
  rw [atop]
  exact plain

theorem atop_map_map (own members : Config) :
    atop (some (.map own)) (.map members) = .map (mergeInto own members) := by
  rw [atop]

/-- What stands under a name of two configurations, the one over the other. -/
theorem get?_mergeInto (distinct : (Named.names upper).Nodup) (base : Config) (name : Text) :
    Named.get? (mergeInto base upper) name =
      (Named.get? upper name).elim (Named.get? base name) fun value =>
        some (atop (Named.get? base name) value) := by
  induction upper generalizing base with
  | nil =>
    rw [mergeInto]
    rfl
  | cons member rest ih =>
    obtain ⟨first, value⟩ := member
    obtain ⟨new, distinct⟩ := List.nodup_cons.mp distinct
    rw [mergeInto, ih distinct, Named.get?_set, Named.get?_cons]
    by_cases same : name = first
    · subst same
      rw [if_pos rfl, if_pos rfl, Named.get?_eq_none new]
      rfl
    · rw [if_neg same, if_neg same]

theorem leavesAlone_of_unbound (unbound : Named.get? upper name = none) (path : List Text) :
    upper.LeavesAlone (name :: path) where
  unbound := by
    rw [at?_cons, unbound]
    rfl
  passes part value front proper there := by
    cases part with
    | nil =>
      obtain rfl := Option.some.inj there
      rfl
    | cons first part =>
      obtain ⟨rfl, -⟩ := List.cons_prefix_cons.mp front
      rw [at?_cons, unbound] at there
      contradiction

theorem not_leavesAlone_of_plain (there : Named.get? upper name = some value)
    (plain : value.isMapping = false) (path : List Text) : ¬ upper.LeavesAlone (name :: path) := by
  intro leaves
  have bound : upper.at? [name] = some value := by
    rw [at?_cons, there]
    rfl
  cases path with
  | nil =>
    rw [leaves.unbound] at bound
    contradiction
  | cons next path =>
    have mapping := leaves.passes [name] value (by simp) (by simp) bound
    rw [plain] at mapping
    contradiction

theorem leavesAlone_cons_iff {members : Config}
    (there : Named.get? upper name = some (.map members)) :
    upper.LeavesAlone (name :: path) ↔ members.LeavesAlone path := by
  have inside (part : List Text) : upper.at? (name :: part) = members.at? part := by
    rw [at?_cons, there, Option.bind_some, Yaml.Value.at?_map]
  constructor
  · intro leaves
    refine ⟨(inside path).symm.trans leaves.unbound, fun part value front proper own => ?_⟩
    refine leaves.passes (name :: part) value ?_ ?_ ((inside part).trans own)
    · exact List.cons_prefix_cons.mpr ⟨rfl, front⟩
    · exact fun same => proper (List.cons.inj same).2
  · intro leaves
    refine ⟨(inside path).trans leaves.unbound, fun part value front proper own => ?_⟩
    cases part with
    | nil =>
      obtain rfl := Option.some.inj own
      rfl
    | cons first part =>
      obtain ⟨rfl, inner⟩ := List.cons_prefix_cons.mp front
      refine leaves.passes part value inner ?_ ((inside part).symm.trans own)
      rintro rfl
      exact proper rfl

/-- A plain value stands at a path of two configurations, the one over the other, if it stands there
in the upper one, or in the lower one and the upper one leaves the path alone. -/
theorem at?_mergeInto_iff (distinct : upper.HasDistinctNames) (base : Config)
    (plain : value.isMapping = false) :
    (mergeInto base upper).at? path = some value ↔
      upper.at? path = some value ∨ base.at? path = some value ∧ upper.LeavesAlone path := by
  induction path generalizing base upper with
  | nil =>
    have mapping (config : Config) : config.at? [] ≠ some value := by
      intro same
      obtain rfl := Option.some.inj same
      contradiction
    simp [mapping]
  | cons name path ih =>
    obtain ⟨names, inner⟩ := distinct.of_map
    rw [at?_cons, at?_cons, at?_cons, get?_mergeInto names]
    cases there : Named.get? upper name with
    | none => simp [leavesAlone_of_unbound there path]
    | some own =>
      rw [Option.elim_some, Option.bind_some, Option.bind_some]
      cases mapping : own.isMapping with
      | false =>
        rw [atop_plain mapping]
        simp [not_leavesAlone_of_plain there mapping path]
      | true =>
        obtain ⟨members, rfl⟩ := Yaml.Value.exists_members mapping
        have own_distinct : HasDistinctNames members := inner _ (Named.mem_of_get? there)
        rw [leavesAlone_cons_iff there, Yaml.Value.at?_map]
        by_cases before : ∃ own, Named.get? base name = some (.map own)
        · obtain ⟨own, before⟩ := before
          rw [before, atop_map_map, Option.bind_some, Yaml.Value.at?_map, Yaml.Value.at?_map]
          exact ih own_distinct own
        · rw [atop_map _ _ fun own there => before ⟨own, there⟩, Yaml.Value.at?_map]
          refine ⟨.inl, fun either => either.resolve_right ?_⟩
          -- A plain value of the lower configuration is at the name itself, where the upper one has
          -- a mapping.
          rintro ⟨lower, leaves⟩
          obtain ⟨old, old_there, stands⟩ := Option.bind_eq_some_iff.mp lower
          cases old_mapping : old.isMapping with
          | true =>
            obtain ⟨own, rfl⟩ := Yaml.Value.exists_members old_mapping
            exact before ⟨own, old_there⟩
          | false =>
            rw [Yaml.Value.at?_plain old_mapping] at stands
            split at stands
            · next here =>
              rw [here] at leaves
              exact absurd leaves.unbound (by simp [at?])
            · contradiction

theorem mergeInto_of_absorbed {members : List (Text × Yaml.Value)}
    (absorbed : ∀ member ∈ members, ∃ own,
      Named.get? base member.1 = some own ∧ atop (some own) member.2 = own) :
    mergeInto base members = base := by
  induction members with
  | nil => rw [mergeInto]
  | cons member rest ih =>
    obtain ⟨name, value⟩ := member
    obtain ⟨own, there, same⟩ := absorbed (name, value) List.mem_cons_self
    rw [mergeInto, there, same, Named.set_of_get? there,
      ih fun other later => absorbed other (List.mem_cons_of_mem _ later)]

theorem atop_none (value : Yaml.Value) : atop none value = value := by
  cases mapping : value.isMapping with
  | false => exact atop_plain mapping none
  | true =>
    obtain ⟨members, rfl⟩ := Yaml.Value.exists_members mapping
    exact atop_map none members (by simp)

theorem mergeInto_of_new (distinct : (Named.names (base ++ upper)).Nodup) :
    mergeInto base upper = base ++ upper := by
  induction upper generalizing base with
  | nil => rw [mergeInto, List.append_nil]
  | cons member rest ih =>
    obtain ⟨name, value⟩ := member
    have new : name ∉ Named.names base := by
      rw [Named.names, List.map_append, List.nodup_append'] at distinct
      exact fun known => distinct.2.2 known List.mem_cons_self
    rw [List.append_cons] at distinct
    rw [mergeInto, Named.get?_eq_none new, atop_none, Named.set_of_notMem new, ih distinct,
      ← List.append_cons]

theorem mergeInto_nil (distinct : (Named.names upper).Nodup) : mergeInto [] upper = upper :=
  mergeInto_of_new distinct

theorem mergeInto_again (names : (Named.names upper).Nodup)
    (inner : ∀ member ∈ upper, ∀ before,
      atop (some (atop before member.2)) member.2 = atop before member.2)
    (base : Config) : mergeInto (mergeInto base upper) upper = mergeInto base upper := by
  apply mergeInto_of_absorbed
  intro member inside
  refine ⟨_, ?_, inner member inside (Named.get? base member.1)⟩
  rw [get?_mergeInto names, Named.get?_of_mem names inside, Option.elim_some]

/-- A value that is put over what came from it leaves it as it is. -/
theorem atop_atop (distinct : value.HasDistinctNames) (before : Option Yaml.Value) :
    atop (some (atop before value)) value = atop before value := by
  induction distinct generalizing before with
  | plain plain => rw [atop_plain plain, atop_plain plain]
  | @map members names inner ih =>
    by_cases mapping : ∃ own, before = some (.map own)
    · obtain ⟨own, rfl⟩ := mapping
      rw [atop_map_map, atop_map_map, mergeInto_again names ih]
    · have again := mergeInto_again names ih []
      rw [mergeInto_nil names] at again
      rw [atop_map before members fun own same => mapping ⟨own, same⟩, atop_map_map, again]

/-- A configuration that is put over a second time changes nothing. -/
theorem mergeInto_mergeInto (distinct : upper.HasDistinctNames) (base : Config) :
    mergeInto (mergeInto base upper) upper = mergeInto base upper :=
  mergeInto_again distinct.of_map.1 (fun member inside =>
      atop_atop (distinct.of_map.2 member inside)) base

theorem merge_concat (configs : List Config) (last : Config) :
    merge (configs ++ [last]) = mergeInto (merge configs) last := by
  rw [merge, merge, List.foldl_concat]

theorem merge_singleton (distinct : config.HasDistinctNames) : merge [config] = config :=
  mergeInto_nil distinct.of_map.1

/-- A plain value stands at a path of merged configurations if the last of them that does not leave
the path alone has it there. -/
theorem at?_merge_iff {configs : List Config}
    (distinct : ∀ config ∈ configs, config.HasDistinctNames) (plain : value.isMapping = false) :
    (merge configs).at? path = some value ↔
      ∃ before config after, configs = before ++ config :: after ∧
      config.at? path = some value ∧ ∀ later ∈ after, later.LeavesAlone path := by
  induction configs using List.reverseRecOn with
  | nil =>
    have nothing : (merge []).at? path ≠ some value := by
      cases path with
      | nil =>
        intro same
        obtain rfl := Option.some.inj same
        contradiction
      | cons name path =>
        rw [at?_cons]
        simp [merge, Named.get?]
    simp [nothing]
  | append_singleton configs last ih =>
    rw [merge_concat, at?_mergeInto_iff (distinct last (by simp)) _ plain,
      ih fun config inside => distinct config (List.mem_append_left _ inside)]
    constructor
    · rintro (own | ⟨⟨before, config, after, rfl, stands, alone⟩, leaves⟩)
      · exact ⟨configs, last, [], rfl, own, by simp⟩
      · refine ⟨before, config, after ++ [last], by simp, stands, fun later inside => ?_⟩
        rcases List.mem_append.mp inside with inside | inside
        · exact alone later inside
        · obtain rfl := List.mem_singleton.mp inside
          exact leaves
    · rintro ⟨before, config, after, whole, stands, alone⟩
      rcases List.eq_nil_or_concat after with rfl | ⟨after, final, rfl⟩
      · obtain ⟨-, same⟩ := List.append_inj' whole rfl
        obtain rfl : last = config := List.singleton_inj.mp same
        exact .inl stands
      · rw [List.concat_eq_append] at whole alone
        rw [← List.cons_append, ← List.append_assoc] at whole
        obtain ⟨rfl, same⟩ := List.append_inj' whole rfl
        obtain rfl : last = final := List.singleton_inj.mp same
        exact .inr ⟨⟨before, config, after, rfl, stands, fun later inside =>
            alone later (List.mem_append_left _ inside)⟩,
          alone last (by simp)⟩

/-- Merged configurations have a plain value at a path exactly if one of them has it there and all
later ones have nothing there and nothing but mappings on the way. So the last configuration decides
wherever it has a plain value, what the first one says stands until a later one touches it, and
merging a configuration with itself, or the last one once more, changes nothing. -/
theorem merge_decides_by_path {configs : List Config}
    (distinct : ∀ config ∈ configs, config.HasDistinctNames) :
    (∀ path value, value.isMapping = false → ((merge configs).at? path = some value ↔
        ∃ before config after, configs = before ++ config :: after ∧ config.at? path = some value ∧
          ∀ later ∈ after, later.LeavesAlone path)) ∧
      (∀ before last, configs = before ++ [last] →
        (∀ path value, value.isMapping = false → last.at? path = some value →
            (merge configs).at? path = some value) ∧
          merge (configs ++ [last]) = merge configs) ∧
      (∀ first rest, configs = first :: rest → ∀ path value,
        value.isMapping = false → first.at? path = some value →
        (∀ later ∈ rest, later.LeavesAlone path) → (merge configs).at? path = some value) ∧
      ∀ config ∈ configs, merge [config, config] = config := by
  refine ⟨fun path value => at?_merge_iff distinct, ?_, ?_, ?_⟩
  · rintro before last rfl
    refine ⟨fun path value plain stands => ?_, ?_⟩
    · exact (at?_merge_iff distinct plain).mpr ⟨before, last, [], rfl, stands, by simp⟩
    · rw [merge_concat, merge_concat, mergeInto_mergeInto (distinct last (by simp))]
  · rintro first rest rfl path value plain stands alone
    exact (at?_merge_iff distinct plain).mpr ⟨[], first, rest, rfl, stands, alone⟩
  · intro config inside
    have once := merge_singleton (distinct config inside)
    have again := mergeInto_mergeInto (distinct config inside) []
    calc merge [config, config] = mergeInto (merge [config]) config := merge_concat [config] config
      _ = merge [config] := again
      _ = config := once

/-- A plain value takes a section away, and a later mapping brings the section back without what it
held before. -/
theorem merge_decides_by_path_revived :
    let section_ (members : List (String × Yaml.Value)) : Yaml.Value := .map (named members)
    let first :=
      named [("search", section_ [("field", .text "title".toList), ("limit", .int 3)]),
        ("records", .null)]
    let second := named [("search", .bool false)]
    let third := named [("search", section_ [("limit", .int 5)])]
    let configs := [first, second, third]
    (∀ config ∈ configs, config.HasDistinctNames) ∧
      (merge configs).at? ["search".toList, "limit".toList] = some (.int 5) ∧
      (merge configs).at? ["records".toList] = some .null ∧
      (∀ value, value.isMapping = false →
          (merge configs).at? ["search".toList, "field".toList] ≠ some value) ∧
      merge (configs ++ [third]) = merge configs ∧ merge [first, first] = first := by
  intro section_ first second third configs
  have first_distinct : first.HasDistinctNames := by
    refine .map (by decide) ?_
    simp only [first, named, List.map_cons, List.map_nil, List.forall_mem_cons]
    refine ⟨.map (by decide) ?_, .plain rfl, by simp⟩
    simp only [named, List.map_cons, List.map_nil, List.forall_mem_cons]
    exact ⟨.plain rfl, .plain rfl, by simp⟩
  have second_distinct : second.HasDistinctNames := by
    refine .map (by decide) ?_
    simp only [second, named, List.map_cons, List.map_nil, List.forall_mem_singleton]
    exact .plain rfl
  have third_distinct : third.HasDistinctNames := by
    refine .map (by decide) ?_
    simp only [third, named, List.map_cons, List.map_nil, List.forall_mem_singleton]
    refine .map (by decide) ?_
    simp only [named, List.map_cons, List.map_nil, List.forall_mem_singleton]
    exact .plain rfl
  have distinct : ∀ config ∈ configs, config.HasDistinctNames := by
    simp [configs, first_distinct, second_distinct, third_distinct]
  obtain ⟨-, final, initial, itself⟩ := merge_decides_by_path distinct
  obtain ⟨wins, again⟩ := final [first, second] third rfl
  refine ⟨distinct, wins _ _ rfl rfl, ?_, fun value plain stands => ?_, again,
    itself first (by simp [configs])⟩
  · refine initial first [second, third] rfl _ _ rfl rfl ?_
    simp only [List.forall_mem_cons]
    exact ⟨leavesAlone_of_unbound rfl [], leavesAlone_of_unbound rfl [], by simp⟩
  · have nothing : (merge configs).at? ["search".toList, "field".toList] = none := rfl
    rw [nothing] at stands
    contradiction

end Config
end RecordSearch
