import RecordSearch.Config.Load
import RecordSearch.Proofs.Config.Layers
import RecordSearch.Proofs.Steps

/-! What a file, the environment and the defaults state has no name twice in a mapping, so that the
settings of a run are decided path by path, the environment over the files and the files over the
defaults. -/
namespace RecordSearch

namespace Yaml.Value

variable {members others : List Member}

def HoldDistinctNames (members : List Member) : Prop :=
  ∀ member ∈ members, member.2.2.HasDistinctNames

theorem holdDistinctNames_nil : HoldDistinctNames [] := List.forall_mem_nil _

theorem HoldDistinctNames.append (first : HoldDistinctNames members)
    (second : HoldDistinctNames others) : HoldDistinctNames (members ++ others) :=
  List.forall_mem_append.mpr ⟨first, second⟩

theorem HoldDistinctNames.cons {member : Member} (own : member.2.2.HasDistinctNames)
    (others : HoldDistinctNames members) : HoldDistinctNames (member :: members) :=
  List.forall_mem_cons.mpr ⟨own, others⟩

theorem HoldDistinctNames.setMember {member : Member} (own : member.2.2.HasDistinctNames)
    (others : HoldDistinctNames members) : HoldDistinctNames (setMember member members) := by
  induction members with
  | nil => exact others.cons own
  | cons first rest ih =>
    obtain ⟨here, later⟩ := List.forall_mem_cons.mp others
    rw [Value.setMember]
    split
    · exact .cons own later
    · exact .cons here (ih later)

/-- A name that is stated twice is one name of the mapping. -/
theorem HoldDistinctNames.map (others : HoldDistinctNames members) :
    (Value.map (membersOf members)).HasDistinctNames := by
  have set :
      HoldDistinctNames (members.foldl (fun set member => Value.setMember member set) []) := by
    suffices from_set : ∀ set, HoldDistinctNames set →
        HoldDistinctNames (members.foldl (fun set member => Value.setMember member set) set) from
      from_set [] holdDistinctNames_nil
    induction members with
    | nil => exact fun set distinct => distinct
    | cons first rest ih =>
      obtain ⟨own, later⟩ := List.forall_mem_cons.mp others
      exact fun set distinct => ih later _ (distinct.setMember own)
  refine .map (Named.nodup_names_ofList _) fun member inside => ?_
  obtain ⟨stated, held, rfl⟩ := List.mem_map.mp (Named.mem_of_mem_ofList inside)
  exact set stated held

theorem isMapping_of_moment {moment : WrittenMoment} {value : Value}
    (read : moment.value = .ok value) : value.isMapping = false := by
  rw [WrittenMoment.value] at read
  cases fault : WrittenMoment.dateFault? moment.date with
  | none => grind [isMapping]
  | some fault => grind [isMapping]

theorem isMapping_of_ofScalar {tag : Tag} {written : Text} {value : Value}
    (read : ofScalar tag written = .ok value) : value.isMapping = false := by
  unfold ofScalar at read
  cases decoded : Base64.decode? written with
  | none => grind [isMapping, isMapping_of_moment]
  | some bytes => grind [isMapping, isMapping_of_moment]

theorem HoldDistinctNames.cons_of_member {name value : Value} {stated : Member}
    (read : member name value = .ok stated) (own : value.HasDistinctNames)
    (others : HoldDistinctNames members) : HoldDistinctNames (stated :: members) := by
  rw [Value.member] at read
  split at read
  · obtain rfl := Except.ok.inj read
    exact .cons own others
  · contradiction

-- A mapping reads its own members and those it takes over from others, whose nodes are smaller.
-- Neither the items of a list nor the names of a set can be reached through mappings.
mutual

/-- A mapping that is read has no name twice, and neither has one that stands under its names. -/
theorem hasDistinctNames_of_ofNode (node : Node) {value : Value} (read : ofNode node = .ok value) :
    value.HasDistinctNames := by
  cases node with
  | scalar tag written =>
    rw [ofNode] at read
    exact .plain (isMapping_of_ofScalar read)
  | sequence tag items =>
    unfold ofNode at read
    split at read
    case h_4 => contradiction
    all_goals
      obtain ⟨values, -, read⟩ := bind_eq_ok_iff.mp read
      obtain rfl := Except.ok.inj read
      exact .plain rfl
  | mapping tag members =>
    unfold ofNode at read
    split at read
    · obtain ⟨taken, taken_read, read⟩ := bind_eq_ok_iff.mp read
      obtain ⟨own, own_read, read⟩ := bind_eq_ok_iff.mp read
      obtain rfl := Except.ok.inj read
      exact ((holdDistinctNames_of_takenOver members taken_read).append
          (holdDistinctNames_of_ownMembers members own_read)).map
    · obtain ⟨taken, -, read⟩ := bind_eq_ok_iff.mp read
      obtain ⟨own, -, read⟩ := bind_eq_ok_iff.mp read
      obtain rfl := Except.ok.inj read
      exact .plain rfl
    · contradiction
termination_by sizeOf node
decreasing_by
  all_goals
    subst_vars
    decreasing_tactic

theorem holdDistinctNames_of_ownMembers (members : List (Node × Node)) {stated : List Member}
    (read : ownMembers members = .ok stated) : HoldDistinctNames stated := by
  generalize shape : members = whole at read
  unfold ownMembers at read
  split at read
  · obtain rfl := Except.ok.inj read
    exact holdDistinctNames_nil
  · exact holdDistinctNames_of_ownMembers _ read
  · obtain ⟨value, value_read, read⟩ := bind_eq_ok_iff.mp read
    obtain ⟨member, member_read, read⟩ := bind_eq_ok_iff.mp read
    obtain ⟨others, others_read, read⟩ := bind_eq_ok_iff.mp read
    obtain rfl := Except.ok.inj read
    exact .cons_of_member member_read (hasDistinctNames_of_ofNode _ value_read)
      (holdDistinctNames_of_ownMembers _ others_read)
  · obtain ⟨named, -, read⟩ := bind_eq_ok_iff.mp read
    obtain ⟨value, value_read, read⟩ := bind_eq_ok_iff.mp read
    obtain ⟨member, member_read, read⟩ := bind_eq_ok_iff.mp read
    obtain ⟨others, others_read, read⟩ := bind_eq_ok_iff.mp read
    obtain rfl := Except.ok.inj read
    exact .cons_of_member member_read (hasDistinctNames_of_ofNode _ value_read)
      (holdDistinctNames_of_ownMembers _ others_read)
termination_by sizeOf members
decreasing_by
  all_goals
    subst shape
    decreasing_tactic

theorem holdDistinctNames_of_takenOver (members : List (Node × Node)) {stated : List Member}
    (read : takenOver members = .ok stated) : HoldDistinctNames stated := by
  generalize shape : members = whole at read
  unfold takenOver at read
  split at read
  · obtain rfl := Except.ok.inj read
    exact holdDistinctNames_nil
  · obtain ⟨taken, taken_read, read⟩ := bind_eq_ok_iff.mp read
    obtain ⟨own, own_read, read⟩ := bind_eq_ok_iff.mp read
    obtain ⟨others, others_read, read⟩ := bind_eq_ok_iff.mp read
    obtain rfl := Except.ok.inj read
    exact ((holdDistinctNames_of_takenOver _ taken_read).append
        (holdDistinctNames_of_ownMembers _ own_read)).append
      (holdDistinctNames_of_takenOver _ others_read)
  · obtain ⟨taken, taken_read, read⟩ := bind_eq_ok_iff.mp read
    obtain ⟨others, others_read, read⟩ := bind_eq_ok_iff.mp read
    obtain rfl := Except.ok.inj read
    exact (holdDistinctNames_of_takenFrom _ taken_read).append
      (holdDistinctNames_of_takenOver _ others_read)
  · contradiction
  · exact holdDistinctNames_of_takenOver _ read
termination_by sizeOf members
decreasing_by
  all_goals
    subst shape
    decreasing_tactic

theorem holdDistinctNames_of_takenFrom (items : List Node) {stated : List Member}
    (read : takenFrom items = .ok stated) : HoldDistinctNames stated := by
  generalize shape : items = whole at read
  unfold takenFrom at read
  split at read
  · obtain rfl := Except.ok.inj read
    exact holdDistinctNames_nil
  · obtain ⟨taken, taken_read, read⟩ := bind_eq_ok_iff.mp read
    obtain ⟨own, own_read, read⟩ := bind_eq_ok_iff.mp read
    obtain ⟨others, others_read, read⟩ := bind_eq_ok_iff.mp read
    obtain rfl := Except.ok.inj read
    exact ((holdDistinctNames_of_takenFrom _ others_read).append
        (holdDistinctNames_of_takenOver _ taken_read)).append
      (holdDistinctNames_of_ownMembers _ own_read)
  · contradiction
termination_by sizeOf items
decreasing_by
  all_goals
    subst shape
    decreasing_tactic

end

theorem hasDistinctNames_of_read {text : Text} {value : Value} (read : Yaml.read text = .ok value) :
    value.HasDistinctNames := by
  rw [Yaml.read] at read
  split at read
  · exact hasDistinctNames_of_ofNode _ read
  · contradiction

end Yaml.Value

namespace Config

theorem hasDistinctNames_nil : HasDistinctNames [] := .map List.nodup_nil (by simp)

theorem hasDistinctNames_of_ofBytes {bytes : Bytes} {config : Config}
    (read : ofBytes bytes = .ok config) : config.HasDistinctNames := by
  rw [ofBytes] at read
  split at read
  · contradiction
  · split at read
    · contradiction
    · next stated =>
      obtain rfl := Except.ok.inj read
      exact Yaml.Value.hasDistinctNames_of_read stated
    · split at read
      · obtain rfl := Except.ok.inj read
        exact hasDistinctNames_nil
      · contradiction

theorem hasDistinctNames_named {members : List (String × Yaml.Value)}
    (distinct : (named members).names.Nodup)
    (inner : ∀ member ∈ members, member.2.HasDistinctNames) :
    (Yaml.Value.map (named members)).HasDistinctNames := by
  refine .map distinct fun member inside => ?_
  obtain ⟨stated, stands, rfl⟩ := List.mem_map.mp inside
  exact inner stated stands

theorem hasDistinctNames_defaults : defaults.HasDistinctNames := by
  refine hasDistinctNames_named (by decide) ?_
  simp only [List.forall_mem_cons]
  refine ⟨.plain rfl, hasDistinctNames_named (by decide) ?_, hasDistinctNames_named (by decide) ?_,
    hasDistinctNames_named (by decide) ?_, by simp⟩
  · simp only [List.forall_mem_cons]
    exact ⟨.plain rfl, .plain rfl, by simp⟩
  · rw [List.forall_mem_singleton]
    exact .plain rfl
  · rw [List.forall_mem_singleton]
    exact .plain rfl

theorem hasDistinctNames_ofEnvironment (environment : Environment) :
    (ofEnvironment environment).HasDistinctNames := by
  rw [ofEnvironment]
  split
  · split
    · exact hasDistinctNames_nil
    · refine hasDistinctNames_named (by simp [named, Named.names]) ?_
      rw [List.forall_mem_singleton]
      exact .plain rfl
  · exact hasDistinctNames_nil

variable {files : FileAccess Id} {environment : Environment} {config : Config}

theorem hasDistinctNames_of_ofFile {path : FilePath} (read : (ofFile files path).run = .ok config) :
    config.HasDistinctNames := by
  rw [ofFile, Id.run_bind] at read
  split at read
  · contradiction
  · exact hasDistinctNames_of_ofBytes read

theorem hasDistinctNames_of_ofPresent {paths : List FilePath} {configs : List Config}
    (read : (ofPresent files paths).run = .ok configs) :
    ∀ config ∈ configs, config.HasDistinctNames := by
  induction paths generalizing configs with
  | nil =>
    obtain rfl := Except.ok.inj read
    simp
  | cons path rest ih =>
    rw [ofPresent, Id.run_bind] at read
    split at read
    · next config own =>
      rw [Id.run_bind, Id.run_pure] at read
      cases later : (ofPresent files rest).run with
      | error fault =>
        rw [later] at read
        contradiction
      | ok others =>
        rw [later] at read
        obtain rfl := Except.ok.inj read
        exact List.forall_mem_cons.mpr ⟨hasDistinctNames_of_ofFile own, ih later⟩
    · split at read
      · exact ih read
      · contradiction

/-- The settings of a run are what the defaults, some files and the environment state, the later
over the earlier. -/
theorem exists_layers_of_load {path : Option FilePath}
    (read : (load files environment path).run = .ok config) :
    ∃ configs, config = merge ([defaults] ++ configs ++ [ofEnvironment environment]) ∧
      ∀ config ∈ [defaults] ++ configs ++ [ofEnvironment environment], config.HasDistinctNames := by
  have layered {configs : List Config} (distinct : ∀ config ∈ configs, config.HasDistinctNames) :
      ∀ config ∈ [defaults] ++ configs ++ [ofEnvironment environment], config.HasDistinctNames := by
    intro config inside
    rcases List.mem_append.mp inside with inside | last
    · rcases List.mem_append.mp inside with first | stated
      · exact List.mem_singleton.mp first ▸ hasDistinctNames_defaults
      · exact distinct config stated
    · exact List.mem_singleton.mp last ▸ hasDistinctNames_ofEnvironment environment
  cases path with
  | none =>
    simp only [load, Id.run_bind, Id.run_pure] at read
    cases stated : (ofPresent files (locations environment)).run with
    | error fault =>
      rw [stated] at read
      contradiction
    | ok configs =>
      rw [stated] at read
      obtain rfl := Except.ok.inj read
      exact ⟨configs, rfl, layered (hasDistinctNames_of_ofPresent stated)⟩
  | some path =>
    simp only [load, Id.run_bind, Id.run_map, Id.run_pure] at read
    cases stated : (ofFile files path).run with
    | error fault =>
      rw [stated] at read
      contradiction
    | ok own =>
      rw [stated] at read
      obtain rfl := Except.ok.inj read
      exact ⟨[own], rfl,
        layered (List.forall_mem_singleton.mpr (hasDistinctNames_of_ofFile stated))⟩

/-- The records that the environment names are those of the run, whatever the files say. -/
theorem at?_records_of_load {path : Option FilePath} {records : Text}
    (named : environment.records = some records) (nonempty : records ≠ [])
    (read : (load files environment path).run = .ok config) :
    config.at? ["records".toList] = some (.text records) := by
  obtain ⟨configs, rfl, distinct⟩ := exists_layers_of_load read
  have own : (ofEnvironment environment).at? ["records".toList] = some (.text records) := by
    simp [ofEnvironment, named, nonempty, Config.named, at?, Named.get?]
  exact (at?_merge_iff distinct rfl).mpr ⟨[defaults] ++ configs, ofEnvironment environment, [],
      rfl, own, by simp⟩

/-- A default stands as long as neither a file nor the environment says something on the way to
it. -/
theorem at?_default_of_load {path : Option FilePath}
    (read : (load files environment path).run = .ok config) :
    ∃ configs, config = merge ([defaults] ++ configs ++ [ofEnvironment environment]) ∧
      ∀ names value, value.isMapping = false → defaults.at? names = some value →
        (∀ later ∈ configs ++ [ofEnvironment environment], later.LeavesAlone names) →
          config.at? names = some value := by
  obtain ⟨configs, rfl, distinct⟩ := exists_layers_of_load read
  refine ⟨configs, rfl, fun names value plain stands alone => ?_⟩
  have layered : [defaults] ++ configs ++ [ofEnvironment environment] =
      [] ++ defaults :: (configs ++ [ofEnvironment environment]) := by
    rw [List.append_assoc]
    rfl
  exact (at?_merge_iff distinct plain).mpr ⟨[], defaults, _, layered, stands, alone⟩

end Config
end RecordSearch
