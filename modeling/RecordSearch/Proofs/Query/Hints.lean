import RecordSearch.Proofs.Search.SuggestionList
import RecordSearch.Proofs.Text.Places
import RecordSearch.Proofs.Text.Subsequence

/-! Unknown names and what they were probably meant to be. The check reports the names that stand in
front of colons and are no fields, and for each the field that is most like it. A name with one slip
of the keyboard in it is always recognized. -/
namespace RecordSearch

/-- A name stands at an offset of a text: it is a longest run of name characters, and a colon
follows it directly. -/
def Text.Marks (text : Text) (start : Nat) (name : Text) : Prop :=
  ∃ stop, IsRun isNameChar text start stop ∧ text[stop]? = some ':' ∧ text.slice start stop = name

/-- The values that occur at places, in the order of their first occurrences. -/
structure ListsFirst (occurs : Nat → Text → Prop) (listed : List Text) : Prop where
  members : ∀ value, value ∈ listed ↔ ∃ place, occurs place value
  ordered : listed.Pairwise fun first second =>
    ∃ place, occurs place first ∧ ∀ later, occurs later second → place < later

def IsFirstBest (score : Text → ℚ) (fields : List Text) (best : Text) : Prop :=
  ∃ before after, fields = before ++ best :: after ∧ (∀ other ∈ before, score other < score best) ∧
    ∀ other ∈ after, score other ≤ score best

/-- A field is the hint for an unknown name: some field comes close to the name in small letters,
and this is the first of those that come closest. -/
structure IsHint (name field : Text) : Prop where
  close : ∃ other ∈ knownFields, 70 ≤ (Text.lower name).ratio other
  best : IsFirstBest (Text.lower name).ratio knownFields field

variable {listed : List Text} {occurs : Nat → Text → Prop} {text name field : Text}

namespace ListsFirst

theorem nodup (lists : ListsFirst occurs listed) : listed.Nodup := by
  apply lists.ordered.imp
  rintro first _ ⟨place, here, before⟩ rfl
  exact Nat.lt_irrefl place (before place here)

theorem filter (lists : ListsFirst occurs listed) (p : Text → Bool) :
    ListsFirst (fun place value => occurs place value ∧ p value = true) (listed.filter p) where
  members value := by simp [lists.members]
  ordered := by
    apply (lists.ordered.filter p).imp_of_mem
    rintro first second inside - ⟨place, here, before⟩
    exact ⟨place, ⟨here, (List.mem_filter.mp inside).2⟩, fun later occurs => before later occurs.1⟩

theorem congr {other : Nat → Text → Prop} (lists : ListsFirst occurs listed)
    (same : ∀ place value, other place value ↔ occurs place value) : ListsFirst other listed := by
  have alike : other = occurs := funext fun place => funext fun value => propext (same place value)
  rwa [alike]

end ListsFirst

/-- What the members of a list show, each once, is listed by the places of the members. -/
theorem listsFirst_eraseDups {α : Type} {sources : List α} {place : α → Nat}
    (shown? : α → Option Text)
    (ascending : sources.Pairwise fun source later => place source < place later) :
    ListsFirst (fun start value => ∃ source ∈ sources,
        place source = start ∧ shown? source = some value)
      (sources.filterMap shown?).eraseDups where
  members value := by simp [List.mem_eraseDups]
  ordered := by
    apply (pairwise_eraseDups (sources.filterMap shown?)).imp
    rintro first second ⟨different, before, after, cut, new⟩
    obtain ⟨front, rest, rfl, rfl, behind⟩ := List.filterMap_eq_append_iff.mp cut
    obtain ⟨skipped, source, back, rfl, silent, shows, -⟩ := List.filterMap_eq_cons_iff.mp behind
    refine ⟨place source, ⟨source, by simp, rfl, shows⟩, ?_⟩
    rintro _ ⟨later, member, rfl, shows_second⟩
    rw [List.mem_append, List.mem_append, List.mem_cons] at member
    rcases member with early | silenced | rfl | late
    · exact absurd (List.mem_filterMap.mpr ⟨later, early, shows_second⟩) new
    · simp [silent later silenced] at shows_second
    · exact absurd (Option.some.inj (shows_second.symm.trans shows)) different
    · have ordered := (List.pairwise_append.mp (List.pairwise_append.mp ascending).2.1).2.1
      exact List.rel_of_pairwise_cons ordered late

theorem markersIn_run {rest : Text} {cut : List Chunk} (isCut : Text.IsCut isNameChar cut rest)
    (word : Text) (ends : ∀ c ∈ rest.head?, isNameChar c = false) :
    markersIn (.run word :: cut) =
      if rest.head? = some ':' then word :: markersIn cut else markersIn cut := by
  cases isCut with
  | nil => rfl
  | run nonempty inside =>
    obtain ⟨c, more, rfl⟩ := List.exists_cons_of_ne_nil nonempty
    simp [inside c List.mem_cons_self] at ends
  | @other c chunks rest outside more =>
    by_cases colon : c = ':'
    · simp [colon, markersIn]
    · simp [colon, markersIn]

def markedAt? (text : Text) (stretch : Nat × Nat) : Option Text :=
  if text[stretch.2]? = some ':' then some (text.slice stretch.1 stretch.2) else none

theorem markersIn_eq_filterMap {rest : Text} {cut : List Chunk}
    (isCut : Text.IsCut isNameChar cut rest) (before : Text) :
    markersIn cut = (Text.runPlaces before.length cut).filterMap (markedAt? (before ++ rest)) := by
  induction isCut generalizing before with
  | nil => rfl
  | @other c chunks rest _ more ih =>
    have later := ih (before ++ [c])
    simpa [markersIn, Text.runPlaces] using later
  | @run word rest chunks nonempty inside ends more ih =>
    have next : (before ++ (word ++ rest))[before.length + word.length]? = rest.head? := by
      rw [← List.append_assoc, ← List.length_append, List.getElem?_append_right (Nat.le_refl _),
        Nat.sub_self, List.head?_eq_getElem?]
    have later := ih (before ++ word)
    rw [List.length_append, List.append_assoc] at later
    rw [markersIn_run more word ends, Text.runPlaces, List.filterMap_cons, markedAt?, next,
      Text.slice_between, ← later]
    split <;> rfl

theorem listsFirst_markers (text : Text) : ListsFirst text.Marks (markers text).eraseDups := by
  have isCut := Text.isCut_chunks isNameChar text
  have runs (stretch : Nat × Nat) : stretch ∈ Text.runPlaces 0 (text.chunks isNameChar) ↔
      Text.IsRun isNameChar text stretch.1 stretch.2 := by
    have here := @Text.IsCut.mem_runPlaces_iff isNameChar text stretch.1 stretch.2 _ isCut []
      fun _ => rfl
    simpa using here
  have ascending : (Text.runPlaces 0 (text.chunks isNameChar)).Pairwise fun stretch later =>
      stretch.1 < later.1 := by
    apply (Text.pairwise_runPlaces 0 (text.chunks isNameChar)).imp_of_mem
    intro stretch later member _ apart
    have proper := ((runs stretch).mp member).nonempty
    omega
  have lists := listsFirst_eraseDups (markedAt? text) ascending
  have whole := markersIn_eq_filterMap isCut []
  rw [List.nil_append, List.length_nil] at whole
  rw [← whole] at lists
  refine lists.congr fun start name => ?_
  constructor
  · rintro ⟨stop, run, colon, rfl⟩
    exact ⟨(start, stop), (runs _).mpr run, rfl, by simp [markedAt?, colon]⟩
  · rintro ⟨⟨_, stop⟩, member, rfl, shown⟩
    rw [markedAt?, Option.ite_none_right_eq_some, Option.some.injEq] at shown
    exact ⟨stop, (runs _).mp member, shown.1, shown.2⟩

variable {fields : List Text}

theorem IsFirstBest.unique {score : Text → ℚ} {other : Text}
    (first : IsFirstBest score fields field) (second : IsFirstBest score fields other) :
    field = other := by
  obtain ⟨before, after, rfl, below, above⟩ := first
  obtain ⟨other_before, other_after, cut, other_below, other_above⟩ := second
  rcases List.append_eq_append_iff.mp cut with ⟨between, rfl, rest⟩ | ⟨between, rfl, rest⟩
  · cases between with
    | nil => exact (List.cons.inj rest).1
    | cons head between =>
      obtain ⟨rfl, rfl⟩ := List.cons.inj rest
      exact absurd (other_below field (by simp)) (not_lt.mpr (above other (by simp)))
  · cases between with
    | nil => exact (List.cons.inj rest).1.symm
    | cons head between =>
      obtain ⟨rfl, rfl⟩ := List.cons.inj rest
      exact absurd (below other (by simp)) (not_lt.mpr (other_above field (by simp)))

theorem isFirstBest_of_closest? (proper : ∀ field ∈ fields, field ≠ [])
    (found : closest? name fields = some field) : IsFirstBest name.ratio fields field := by
  induction fields generalizing field with
  | nil => contradiction
  | cons first rest ih =>
    obtain ⟨nonempty, proper⟩ := List.forall_mem_cons.mp proper
    cases later : closest? name rest with
    | none =>
      have alone : rest = [] := by
        cases rest with
        | nil => rfl
        | cons second more => rw [closest?] at later; split at later <;> contradiction
      rw [closest?, later] at found
      obtain rfl := Option.some.inj found
      exact ⟨[], [], by simp [alone], by simp, by simp⟩
    | some best =>
      obtain ⟨before, after, rfl, below, above⟩ := ih proper later
      have exceeds := Text.exceeds_iff name (proper best (by simp)) nonempty
      rw [closest?, later, Option.some.injEq] at found
      by_cases more : name.ratio first < name.ratio best
      · rw [if_pos (exceeds.mpr more)] at found
        subst found
        exact ⟨first :: before, after, rfl, List.forall_mem_cons.mpr ⟨more, below⟩, above⟩
      · rw [if_neg (mt exceeds.mp more)] at found
        subst found
        have top := not_lt.mp more
        refine ⟨[], before ++ best :: after, rfl, by simp, fun other member => ?_⟩
        rw [List.mem_append, List.mem_cons] at member
        rcases member with front | rfl | back
        · exact (below other front).le.trans top
        · exact top
        · exact (above other back).trans top

theorem IsFirstBest.le {score : Text → ℚ} (best : IsFirstBest score fields field) :
    ∀ other ∈ fields, score other ≤ score field := by
  obtain ⟨before, after, rfl, below, above⟩ := best
  intro other member
  rw [List.mem_append, List.mem_cons] at member
  rcases member with front | rfl | back
  · exact (below other front).le
  · exact le_rfl
  · exact above other back

theorem knownFields_ne_nil : ∀ field ∈ knownFields, field ≠ [] := by decide

theorem exists_isFirstBest (name : Text) :
    ∃ field, closest? name knownFields = some field ∧ field ∈ knownFields ∧
    IsFirstBest name.ratio knownFields field := by
  obtain ⟨field, found⟩ : ∃ field, closest? name knownFields = some field := by
    rw [knownFields, closest?]
    split <;> exact ⟨_, rfl⟩
  have best := isFirstBest_of_closest? knownFields_ne_nil found
  obtain ⟨before, after, whole, -, -⟩ := id best
  exact ⟨field, found, by simp [whole], best⟩

theorem hint?_eq_some_iff : hint? name = some field ↔ IsHint name field := by
  obtain ⟨best, found, member, isBest⟩ := exists_isFirstBest (Text.lower name)
  have reaches := Text.reaches_iff (Text.lower name) (knownFields_ne_nil best member) 7
  rw [hint?, found, Option.filter_some, Option.ite_none_right_eq_some, Option.some.injEq, reaches]
  constructor
  · rintro ⟨close, rfl⟩
    exact ⟨⟨best, member, by norm_num at close; exact close⟩, isBest⟩
  · rintro ⟨⟨other, known, close⟩, first⟩
    refine ⟨?_, isBest.unique first⟩
    norm_num
    exact close.trans (isBest.le other known)

/-- A name that is a field but for one slip has a hint. -/
theorem exists_isHint_of_isTyped (known : field ∈ knownFields)
    (slip : Text.IsTyped field (Text.lower name)) : ∃ hint, IsHint name hint := by
  have long : 4 ≤ field.length := by
    have all : ∀ field ∈ knownFields, 4 ≤ field.length := by decide
    exact all field known
  have close := (Text.reaches_iff (Text.lower name) (knownFields_ne_nil field known) 7).mp
      (slip.reaches long)
  obtain ⟨best, -, -, isBest⟩ := exists_isFirstBest (Text.lower name)
  exact ⟨best, ⟨field, known, by norm_num at close; exact close⟩, isBest⟩

namespace Query

theorem unknownNames_validate (nonblank : Text.isBlankText text = false)
    (paired : text.count '\x22' % 2 = 0) :
    (validate text).unknownNames =
    (markers text).eraseDups.filter (fun name => !knownFields.contains name) := by
  rw [validate, if_neg (by simp [nonblank]), if_neg (by simp [paired])]
  split
  · next none =>
    rw [none]
    rfl
  · rfl

theorem listsFirst_hints (verdict : Verdict) :
    ListsFirst (fun place field =>
      ∃ name, verdict.unknownNames[place]? = some name ∧ IsHint name field) verdict.hints := by
  have ascending : verdict.unknownNames.zipIdx.Pairwise fun source later => source.2 < later.2 := by
    have places : (verdict.unknownNames.zipIdx.map Prod.snd).Pairwise (· < ·) := by
      rw [List.zipIdx_map_snd]
      exact List.pairwise_lt_range'
    exact List.pairwise_map.mp places
  have lists := listsFirst_eraseDups (fun source => hint? source.1) ascending
  have whole : verdict.unknownNames.zipIdx.filterMap (fun source => hint? source.1) =
      verdict.unknownNames.filterMap hint? := by
    have names := List.zipIdx_map_fst 0 verdict.unknownNames
    conv => rhs; rw [← names, List.filterMap_map]
    rfl
  rw [whole] at lists
  refine lists.congr fun place field => ?_
  constructor
  · rintro ⟨name, here, isHint⟩
    exact ⟨(name, place), by simpa [List.mem_zipIdx_iff_getElem?] using here, rfl,
      hint?_eq_some_iff.mpr isHint⟩
  · rintro ⟨⟨name, _⟩, member, rfl, shown⟩
    exact ⟨name, by simpa [List.mem_zipIdx_iff_getElem?] using member, hint?_eq_some_iff.mp shown⟩

/-- The unknown names are those that stand in front of a colon and are no fields, in the order of
their first places; the hints are the closest fields of those that come close to one, in the order
of the first names that they are hints for. A name with at most one slip in it is among these. -/
theorem validate_lists_hints (nonblank : Text.isBlankText text = false)
    (paired : text.count '\x22' % 2 = 0) :
    ListsFirst (fun start name => text.Marks start name ∧ name ∉ knownFields)
      (validate text).unknownNames ∧
      (validate text).unknownNames.Nodup ∧
      ListsFirst (fun place field =>
          ∃ name, (validate text).unknownNames[place]? = some name ∧ IsHint name field)
        (validate text).hints ∧
      (validate text).hints.Nodup ∧
      ∀ name ∈ (validate text).unknownNames, ∀ field ∈ knownFields,
        Text.IsTyped field (Text.lower name) →
        ∃ hint ∈ (validate text).hints, IsHint name hint := by
  have names : ListsFirst (fun start name => text.Marks start name ∧ name ∉ knownFields)
      (validate text).unknownNames := by
    rw [unknownNames_validate nonblank paired]
    refine ((listsFirst_markers text).filter _).congr fun start name => ?_
    simp
  have hints := listsFirst_hints (validate text)
  refine ⟨names, names.nodup, hints, hints.nodup, fun name member field known slip => ?_⟩
  obtain ⟨hint, isHint⟩ := exists_isHint_of_isTyped known slip
  obtain ⟨place, here⟩ := List.mem_iff_getElem?.mp member
  exact ⟨hint, (hints.members hint).mpr ⟨place, name, here, isHint⟩, isHint⟩

/-- Two slips in the names of fields, one of them in capitals and one of them twice, and a name that
is like no field. -/
theorem validate_lists_hints_slips :
    let text := "TITEL:a type:b catgory:c crated:\"d e\" TITEL:f".toList
    Text.isBlankText text = false ∧ text.count '\x22' % 2 = 0 ∧
      (validate text).unknownNames = ["TITEL".toList, "catgory".toList, "crated".toList] ∧
      (validate text).hints = ["title".toList, "created".toList] ∧
      ∃ hint ∈ (validate text).hints, IsHint "crated".toList hint := by
  intro text
  have nonblank : Text.isBlankText text = false := by decide
  have paired : text.count '\x22' % 2 = 0 := by decide
  have names : (validate text).unknownNames =
      ["TITEL".toList, "catgory".toList, "crated".toList] := by decide +kernel
  obtain ⟨-, -, -, -, recognized⟩ := validate_lists_hints nonblank paired
  refine ⟨nonblank, paired, names, by decide +kernel, ?_⟩
  refine recognized "crated".toList (by rw [names]; simp) "created".toList (by decide) ?_
  have lower : Text.lower "crated".toList = "crated".toList := by decide +kernel
  rw [lower]
  exact .drop "cr".toList "ated".toList 'e'

end Query
end RecordSearch
