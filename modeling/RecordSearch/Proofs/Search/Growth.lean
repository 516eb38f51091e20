import Mathlib.Data.List.Perm.Basic
import Mathlib.Data.List.Enum
import RecordSearch.Proofs.Search.Part

/-! Collections that grow. A search shows the records of a collection at certain places. Among the
places of a grown collection, those in the old part are the places that the old collection shows, in
their order, and the others are those of the new records alone. Each record that comes in leaves
this so, along every run of additions and searches. -/
namespace RecordSearch

/-- The places at which the shown records stand in a collection. No place of theirs is left out, and
where one record stands more than once, its places come in their order. -/
structure ArePlaces (records shown : List Record) (places : List Nat) : Prop where
  shows : places.map (fun place => records[place]?) = shown.map some
  complete : ∀ place record, records[place]? = some record → record ∈ shown → place ∈ places
  ordered : places.Pairwise fun first second => records[first]? = records[second]? → first < second

theorem eq_of_filter_eq {α β : Type} [DecidableEq β] {f : α → β} {members others : List α}
    (images : members.map f = others.map f)
    (alike : ∀ b, members.filter (fun a => f a = b) = others.filter (fun a => f a = b)) :
    members = others := by
  induction members generalizing others with
  | nil => exact (List.map_eq_nil_iff.mp images.symm).symm
  | cons a rest ih =>
    cases others with
    | nil => contradiction
    | cons c others =>
      obtain ⟨same, later⟩ := List.cons.inj images
      have first := alike (f a)
      rw [List.filter_cons_of_pos (by simp), List.filter_cons_of_pos (by simp [same])] at first
      obtain ⟨rfl, own⟩ := List.cons.inj first
      congr 1
      apply ih later
      intro b
      by_cases here : f a = b
      · rw [← here]
        exact own
      · have behind := alike b
        rwa [List.filter_cons_of_neg (by simpa using here),
          List.filter_cons_of_neg (by simpa using here)] at behind

/-- The shown records have no other places. -/
theorem ArePlaces.unique {records shown : List Record} {places others : List Nat}
    (first : ArePlaces records shown places) (second : ArePlaces records shown others) :
    places = others := by
  classical
  have subset {places others : List Nat} (own : ArePlaces records shown places)
      (other : ArePlaces records shown others) :
      places ⊆ others := by
    intro place member
    have stands : records[place]? ∈ shown.map some := own.shows ▸ List.mem_map_of_mem member
    obtain ⟨record, found, here⟩ := List.mem_map.mp stands
    exact other.complete place record here.symm found
  have ascends {places : List Nat} (own : ArePlaces records shown places) (value : Option Record) :
      (places.filter fun place => records[place]? = value).Pairwise (· < ·) := by
    refine (own.ordered.filter _).imp_of_mem ?_
    intro p q p_member q_member order
    apply order
    rw [of_decide_eq_true (List.mem_filter.mp p_member).2,
      of_decide_eq_true (List.mem_filter.mp q_member).2]
  apply eq_of_filter_eq (first.shows.trans second.shows.symm)
  intro value
  refine List.Perm.eq_of_pairwise ?_ (ascends first value) (ascends second value) ?_
  · intro p q _ _ below above
    omega
  · refine (List.perm_ext_iff_of_nodup ?_ ?_).mpr ?_
    · exact (ascends first value).imp fun below => Nat.ne_of_lt below
    · exact (ascends second value).imp fun below => Nat.ne_of_lt below
    · intro place
      simp only [List.mem_filter]
      exact and_congr_left fun _ =>
        ⟨fun member => subset first second member, fun member => subset second first member⟩

def sortedPlaces (keep : Record → Bool) (before : Record → Record → Bool)
    (records : List Record) : List Nat :=
  ((records.zipIdx.filter fun placed => keep placed.1).mergeSort
      fun a b => before a.1 b.1).map Prod.snd

section

variable (keep : Record → Bool) {before : Record → Record → Bool}

theorem pairwise_snd_zipIdx (records : List Record) (start : Nat) :
    (records.zipIdx start).Pairwise fun a b => a.2 < b.2 := by
  induction records generalizing start with
  | nil => simp
  | cons record rest ih =>
    rw [List.zipIdx_cons, List.pairwise_cons]
    refine ⟨?_, ih (start + 1)⟩
    intro placed member
    have behind := List.le_snd_of_mem_zipIdx member
    exact behind

theorem arePlaces_sortedPlaces (ordering : IsOrdering before) (records : List Record) :
    ArePlaces records ((records.filter keep).mergeSort before)
      (sortedPlaces keep before records) where
  shows := by
    have kept : (records.zipIdx.filter fun placed => keep placed.1).map Prod.fst =
        records.filter keep := by
      have whole : records.zipIdx.map Prod.fst = records := List.zipIdx_map_fst 0 records
      calc (records.zipIdx.filter fun placed => keep placed.1).map Prod.fst
          = (records.zipIdx.map Prod.fst).filter keep := List.filter_map.symm
        _ = records.filter keep := by rw [whole]
    have sorted : ((records.zipIdx.filter fun placed => keep placed.1).mergeSort
        fun a b => before a.1 b.1).map
        Prod.fst = (records.filter keep).mergeSort before := by
      rw [List.map_mergeSort (s := before) fun _ _ _ _ => rfl, kept]
    rw [sortedPlaces, ← sorted, List.map_map, List.map_map]
    apply List.map_congr_left
    intro placed member
    have inside := (List.mem_filter.mp (List.mem_mergeSort.mp member)).1
    exact List.mem_zipIdx_iff_getElem?.mp inside
  complete place record stands shown := by
    have kept := (List.mem_filter.mp (List.mem_mergeSort.mp shown)).2
    refine List.mem_map.mpr ⟨(record, place),
        List.mem_mergeSort.mpr (List.mem_filter.mpr ⟨?_, kept⟩), rfl⟩
    exact List.mem_zipIdx_iff_getElem?.mpr stands
  ordered := by
    classical
    let kept := records.zipIdx.filter fun placed => keep placed.1
    have stable (record : Record) :
        ((kept.mergeSort fun a b => before a.1 b.1).filter fun placed => placed.1 = record).Sublist
          records.zipIdx := by
      rw [(ordering.on Prod.fst).filter_mergeSort, List.mergeSort_of_pairwise]
      · exact List.filter_sublist.trans List.filter_sublist
      · rw [List.pairwise_filter]
        refine List.pairwise_iff_forall_sublist.mpr ?_
        intro a b _ a_same b_same
        rw [of_decide_eq_true a_same, of_decide_eq_true b_same]
        exact ordering.refl record
    rw [sortedPlaces, List.pairwise_map, List.pairwise_iff_forall_sublist]
    intro a b pair same
    have stands {placed : Record × Nat} (member : placed ∈ [a, b]) :
        records[placed.2]? = some placed.1 := by
      have sorted := List.mem_mergeSort.mp (pair.subset member)
      exact List.mem_zipIdx_iff_getElem?.mp (List.mem_filter.mp sorted).1
    rw [stands (by simp), stands (by simp)] at same
    have alike := Option.some.inj same
    have tied := (pair.filter fun placed => placed.1 = a.1).trans (stable a.1)
    rw [List.filter_cons_of_pos (by simp), List.filter_cons_of_pos (by simp [alike]),
      List.filter_nil] at tied
    exact List.pairwise_iff_forall_sublist.mp (pairwise_snd_zipIdx records 0) tied

/-- The places in the front part of a collection are those of the front part alone, and the others
are those of the back part alone, further back. -/
theorem filter_sortedPlaces (ordering : IsOrdering before) (front back : List Record) :
    (sortedPlaces keep before (front ++ back)).filter (· < front.length) =
      sortedPlaces keep before front ∧
      ((sortedPlaces keep before (front ++ back)).filter (front.length ≤ ·)).map
      (· - front.length) =
        sortedPlaces keep before back := by
  let later (placed : Record × Nat) : Record × Nat := (placed.1, front.length + placed.2)
  have whole : (front ++ back).zipIdx = front.zipIdx ++ back.zipIdx.map later := by
    have shifted : back.zipIdx front.length = back.zipIdx.map later := List.zipIdx_eq_map_add
    rw [List.zipIdx_append, Nat.zero_add, shifted]
  have early : ∀ placed ∈ front.zipIdx, placed.2 < front.length := by
    intro placed member
    simpa using List.snd_lt_add_of_mem_zipIdx member
  have pick (range : Nat → Bool) : (sortedPlaces keep before (front ++ back)).filter range =
      ((((front ++ back).zipIdx.filter (range ∘ Prod.snd)).filter fun placed =>
          keep placed.1).mergeSort
        fun a b => before a.1 b.1).map Prod.snd := by
    rw [sortedPlaces, List.filter_map, (ordering.on Prod.fst).filter_mergeSort, List.filter_comm]
  constructor
  · have rest :
        (front ++ back).zipIdx.filter ((fun place => decide (place < front.length)) ∘ Prod.snd) =
        front.zipIdx := by
      rw [whole, List.filter_append, List.filter_eq_self.mpr, List.filter_eq_nil_iff.mpr,
        List.append_nil]
      · intro placed member
        obtain ⟨own, -, rfl⟩ := List.mem_map.mp member
        simp [later]
      · intro placed member
        simpa using early placed member
    rw [pick, rest, sortedPlaces]
  · have rest :
        (front ++ back).zipIdx.filter ((fun place => decide (front.length ≤ place)) ∘ Prod.snd) =
        back.zipIdx.map later := by
      rw [whole, List.filter_append, List.filter_eq_nil_iff.mpr, List.filter_eq_self.mpr,
        List.nil_append]
      · intro placed member
        obtain ⟨own, -, rfl⟩ := List.mem_map.mp member
        simp [later]
      · intro placed member
        simpa using early placed member
    rw [pick, rest, sortedPlaces, List.filter_map]
    have sorted := List.map_mergeSort (f := later) (r := fun a b : Record × Nat => before a.1 b.1)
      (s := fun a b : Record × Nat => before a.1 b.1)
      (l := back.zipIdx.filter fun placed => keep placed.1) fun _ _ _ _ => rfl
    have same : (fun placed : Record × Nat => keep placed.1) ∘ later =
        fun placed => keep placed.1 := rfl
    rw [same, ← sorted, List.map_map, List.map_map]
    apply List.map_congr_left
    intro placed _
    simp [later]

end

/-- What is shown of a collection in two parts is what the outcomes for the parts show: its places
in the front part are the places of one outcome, the others, counted from the end of the front part,
are those of the other one. The query is understood and judged alike. -/
structure SearchOutcome.Splits (front back : List Record)
    (found earlier fresh : SearchOutcome) : Prop where
  earlier_read : earlier.query = found.query ∧ earlier.verdict = found.verdict
  fresh_read : fresh.query = found.query ∧ fresh.verdict = found.verdict
  placed : ∃ places, ArePlaces (front ++ back) found.records places
  restricted : ∀ places, ArePlaces (front ++ back) found.records places →
    ArePlaces front earlier.records (places.filter (· < front.length)) ∧
      ArePlaces back fresh.records ((places.filter (front.length ≤ ·)).map (· - front.length))

namespace Service

variable {service : Service} {request : SearchRequest} {found : SearchOutcome}

/-- Records that come in leave what a search finds among the earlier ones as it was. -/
theorem search_add {added : List Record} (finds : (service.add added).search request = .ok found) :
    ∃ earlier fresh, service.search request = .ok earlier ∧
      ({ service with records := added } : Service).search request = .ok fresh ∧
      found.Splits service.records added earlier fresh := by
  obtain ⟨keep, before, ordering, sorted⟩ := exists_sorted_of_search finds
  have whole := (sorted _ (List.Sublist.refl _)).symm.trans finds
  have shown : ((service.records ++ added).filter keep).mergeSort before = found.records :=
    congrArg SearchOutcome.records (Except.ok.inj whole)
  have placed := arePlaces_sortedPlaces keep ordering (service.records ++ added)
  rw [shown] at placed
  obtain ⟨front, back⟩ := filter_sortedPlaces keep ordering service.records added
  refine ⟨_, _, sorted _ (List.sublist_append_left _ _), sorted _ (List.sublist_append_right _ _),
    ⟨rfl, rfl⟩,
    ⟨rfl, rfl⟩, ⟨_, placed⟩, ?_⟩
  intro places other
  obtain rfl := placed.unique other
  rw [front, back]
  constructor
  · exact arePlaces_sortedPlaces keep ordering _
  · exact arePlaces_sortedPlaces keep ordering _

/-- What happens to a collection: records come in, or it is searched. -/
inductive Step where
  | add (records : List Record)
  | search (request : SearchRequest)

def Step.added : Step → List Record
  | .add records => records
  | .search _ => []

def after (service : Service) : Step → Service
  | .add records => service.add records
  | .search _ => service

def run (service : Service) (steps : List Step) : Service := steps.foldl after service

theorem after_eq (service : Service) (step : Step) :
    service.after step = service.add step.added := by
  cases step with
  | add records => rfl
  | search request => simp [after, Step.added, add]

theorem run_eq (service : Service) (steps : List Step) :
    service.run steps = service.add (steps.flatMap Step.added) := by
  induction steps generalizing service with
  | nil => simp [run, add]
  | cons step rest ih =>
    have later := ih (service.after step)
    rw [run, List.foldl_cons, ← run, later, after_eq]
    simp [add]

theorem run_append (service : Service) (before later : List Step) :
    service.run (before ++ later) = (service.run before).run later := List.foldl_append

/-- What a search finds at the end of a run splits, at every moment of the run, into what it would
have found then and what it finds among the records that came in later. -/
theorem search_run {before later : List Step}
    (finds : (service.run (before ++ later)).search request = .ok found) :
    ∃ earlier fresh, (service.run before).search request = .ok earlier ∧
      ({ service with records := later.flatMap Step.added } : Service).search request = .ok fresh ∧
      found.Splits (service.run before).records (later.flatMap Step.added) earlier fresh := by
  rw [run_append, run_eq (service.run before)] at finds
  have kept : ({ service.run before with records := later.flatMap Step.added } : Service) =
      { service with records := later.flatMap Step.added } := by
    rw [run_eq]
    rfl
  rw [← kept]
  exact search_add finds

/-- A note comes in a second time, together with a link that ties with both. -/
theorem search_run_ties :
    let stamp := Stamp.read ⟨63839664000000000, by decide, none⟩
    let note : Record :=
      { id := ['1'], title := "old cat".toList, kind := .known .note, created := stamp,
        updated := stamp }
    let link : Record :=
      { id := ['2'], title := "big cat".toList, kind := .known .link, created := stamp,
        updated := stamp }
    let request : SearchRequest :=
      { text := "title:cat".toList, sort := some { field := "created_at".toList } }
    let service : Service := { records := [note, link] }
    let before : List Step := [.search request, .add [link]]
    let later : List Step := [.search request, .add [note, link], .search request]
    ∃ found, (service.run (before ++ later)).search request = .ok found ∧
      ∃ earlier fresh, (service.run before).search request = .ok earlier ∧
        ({ service with records := later.flatMap Step.added } : Service).search request =
          .ok fresh ∧
        found.Splits (service.run before).records (later.flatMap Step.added) earlier fresh := by
  intro stamp note link request service before later
  have returns : ((service.run (before ++ later)).search request).isOk = true := by decide +kernel
  cases finds : (service.run (before ++ later)).search request with
  | error fault =>
    rw [finds] at returns
    contradiction
  | ok found => exact ⟨found, rfl, search_run finds⟩

end Service
end RecordSearch
