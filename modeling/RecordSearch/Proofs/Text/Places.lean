import Mathlib.Data.List.Basic
import Mathlib.Data.List.Forall2
import RecordSearch.Proofs.Text.Solid
import RecordSearch.Text.CaseMatch

/-! Stretches of a text by their offsets. The longest runs of a class of characters are told by
their two ends, where the class begins and stops to hold, and are the runs that the text is cut
into. -/
namespace RecordSearch

def Chunk.run? : Chunk → Option Text
  | .run word => some word
  | .other _ => none

/-- A text has the characters of a term, one for one, in any case. -/
def CaseMatches (term found : Text) : Prop :=
  List.Forall₂ (fun c d => caseMatches c d = true) term found

namespace Text

def slice (text : Text) (start stop : Nat) : Text := (text.take stop).drop start

def isAt (p : Char → Bool) (text : Text) (place : Nat) : Bool := text[place]?.any p

def isBefore (p : Char → Bool) (text : Text) : Nat → Bool
  | 0 => false
  | place + 1 => isAt p text place

/-- The class of characters begins or stops to hold at an offset. -/
def IsBoundary (p : Char → Bool) (text : Text) (place : Nat) : Prop :=
  isBefore p text place ≠ isAt p text place

/-- The characters from one offset up to another are a longest run of those that satisfy `p`. -/
structure IsRun (p : Char → Bool) (text : Text) (start stop : Nat) : Prop where
  nonempty : start < stop
  inside : ∀ place, start ≤ place → place < stop → isAt p text place = true
  begins : isBefore p text start = false
  ends : isAt p text stop = false

def slices (text : Text) (places : List (Nat × Nat)) : List Text :=
  places.map fun place => text.slice place.1 place.2

structure AreRuns (p : Char → Bool) (text : Text) (places : List (Nat × Nat)) : Prop where
  apart : places.Pairwise fun place later => place.2 < later.1
  all : ∀ place, place ∈ places ↔ IsRun p text place.1 place.2

def runs (p : Char → Bool) (text : Text) : List Text := (chunks p text).filterMap Chunk.run?

def runPlaces : Nat → List Chunk → List (Nat × Nat)
  | _, [] => []
  | start, .run word :: rest => (start, start + word.length) :: runPlaces (start + word.length) rest
  | start, .other _ :: rest => runPlaces (start + 1) rest

/-- A text and the chunks it is cut into: no run is empty, and none goes on in the next chunk. -/
inductive IsCut (p : Char → Bool) : List Chunk → Text → Prop
  | nil : IsCut p [] []
  | other {c : Char} {chunks : List Chunk} {rest : Text} : p c = false → IsCut p chunks rest →
      IsCut p (.other c :: chunks) (c :: rest)
  | run {word rest : Text} {chunks : List Chunk} : word ≠ [] → (∀ c ∈ word, p c = true) →
      (∀ c ∈ rest.head?, p c = false) → IsCut p chunks rest →
        IsCut p (.run word :: chunks) (word ++ rest)

variable {p : Char → Bool} {text : Text} {start stop : Nat}

theorem slice_eq_take_drop (text : Text) (start stop : Nat) :
    text.slice start stop = (text.drop start).take (stop - start) :=
  List.drop_take

theorem slice_append_length (before rest : Text) (start : Nat) :
    (before ++ rest).slice start before.length = before.drop start := by
  rw [slice, List.take_left]

theorem slice_between (before piece behind : Text) :
    (before ++ (piece ++ behind)).slice before.length (before.length + piece.length) = piece := by
  rw [slice_eq_take_drop, List.drop_left, Nat.add_sub_cancel_left, List.take_left]

theorem isAt_append (before text : Text) (place : Nat) :
    isAt p (before ++ text) (before.length + place) = isAt p text place := by
  rw [isAt, List.getElem?_append_right (Nat.le_add_right ..), Nat.add_sub_cancel_left, isAt]

theorem isAt_length (before text : Text) :
    isAt p (before ++ text) before.length = text.head?.any p := by
  rw [isAt, List.getElem?_append_right (Nat.le_refl _), Nat.sub_self, List.head?_eq_getElem?]

theorem isAt_inside {word : Text} (inside : ∀ c ∈ word, p c = true) (before rest : Text)
    {offset : Nat} (lt : offset < word.length) :
    isAt p (before ++ (word ++ rest)) (before.length + offset) = true := by
  rw [isAt_append, isAt, List.getElem?_append_left lt, List.getElem?_eq_getElem lt, Option.any_some]
  exact inside _ (List.getElem_mem lt)

theorem isAt_behind {rest : Text} (ends : ∀ c ∈ rest.head?, p c = false) (before word : Text) :
    isAt p (before ++ (word ++ rest)) (before.length + word.length) = false := by
  rw [isAt_append, isAt_length]
  cases rest with
  | nil => rfl
  | cons c rest => exact ends c rfl

theorem isBefore_concat (before : Text) (c : Char) (rest : Text) :
    isBefore p (before ++ c :: rest) (before.length + 1) = p c := by
  simp [isBefore, isAt]

/-- A character of a stretch stands at an offset within it. -/
theorem forall_isAt_iff (before : start < stop) :
    (∀ place, start ≤ place → place < stop → isAt p text place = true) ↔
      stop ≤ text.length ∧ ∀ c ∈ text.slice start stop, p c = true := by
  constructor
  · intro all
    have last := all (stop - 1) (by omega) (by omega)
    have within : stop - 1 < text.length := by
      by_contra beyond
      simp [isAt, List.getElem?_eq_none (Nat.le_of_not_lt beyond)] at last
    refine ⟨by omega, fun c inside => ?_⟩
    obtain ⟨offset, bound, rfl⟩ := List.mem_iff_getElem.mp inside
    rw [slice_eq_take_drop, List.length_take, List.length_drop] at bound
    have here := all (start + offset) (by omega) (by omega)
    rw [isAt, List.getElem?_eq_getElem (by omega)] at here
    simpa [slice_eq_take_drop] using here
  · rintro ⟨within, all⟩ place lower upper
    have bound : place < text.length := by omega
    rw [isAt, List.getElem?_eq_getElem bound, Option.any_some]
    apply all
    rw [slice_eq_take_drop]
    apply List.mem_iff_getElem.mpr
    refine ⟨place - start, by rw [List.length_take, List.length_drop]; omega, ?_⟩
    simp [Nat.add_sub_cancel' lower]

theorem isRun_iff : IsRun p text start stop ↔
    (text.slice start stop ≠ [] ∧ ∀ c ∈ text.slice start stop, p c = true) ∧
      IsBoundary p text start ∧ IsBoundary p text stop := by
  have size : (text.slice start stop).length = min (stop - start) (text.length - start) := by
    rw [slice_eq_take_drop, List.length_take, List.length_drop]
  constructor
  · intro run
    have proper := run.nonempty
    obtain ⟨within, all⟩ := (forall_isAt_iff proper).mp run.inside
    refine ⟨⟨List.ne_nil_of_length_pos (by omega), all⟩, ?_, ?_⟩
    · rw [IsBoundary, run.begins, run.inside start (Nat.le_refl _) proper]
      simp
    · obtain ⟨last, rfl⟩ : ∃ last, stop = last + 1 := ⟨stop - 1, by omega⟩
      rw [IsBoundary, run.ends, isBefore, run.inside last (by omega) (by omega)]
      simp
  · rintro ⟨⟨nonempty, all⟩, begins, ends⟩
    have proper := List.length_pos_iff.mpr nonempty
    -- Behind the end of the text there is no boundary.
    have within : stop ≤ text.length := by
      by_contra beyond
      obtain ⟨last, rfl⟩ : ∃ last, stop = last + 1 := ⟨stop - 1, by omega⟩
      refine ends ?_
      rw [isBefore, isAt, isAt, List.getElem?_eq_none (by omega), List.getElem?_eq_none (by omega)]
    have inside := (forall_isAt_iff (by omega)).mpr ⟨within, all⟩
    refine ⟨by omega, inside, ?_, ?_⟩
    · rw [IsBoundary, inside start (Nat.le_refl _) (by omega)] at begins
      simpa using begins
    · obtain ⟨last, rfl⟩ : ∃ last, stop = last + 1 := ⟨stop - 1, by omega⟩
      rw [IsBoundary, isBefore, inside last (by omega) (by omega)] at ends
      simpa using ends.symm

theorem isCut_chunks (p : Char → Bool) (text : Text) : IsCut p (chunks p text) text := by
  induction text with
  | nil => exact .nil
  | cons c rest ih =>
    rw [chunks]
    split
    · next inside =>
      generalize chunks p rest = cut at ih
      cases ih with
      | nil => exact @IsCut.run p [c] [] [] (by simp) (by simpa using inside) (by simp) .nil
      | other outside more =>
        exact @IsCut.run p [c] _ _ (by simp) (by simpa using inside) (by simpa using outside)
          (.other outside more)
      | @run word behind others nonempty all ends more =>
        exact @IsCut.run p (c :: word) _ _ (by simp) (List.forall_mem_cons.mpr ⟨inside, all⟩) ends
          more
    · next outside => exact .other (by simpa using outside) ih

theorem le_of_mem_runPlaces {chunks : List Chunk} {place : Nat × Nat}
    (member : place ∈ runPlaces start chunks) : start ≤ place.1 := by
  induction chunks generalizing start with
  | nil => simp [runPlaces] at member
  | cons chunk rest ih =>
    cases chunk with
    | other c => exact Nat.le_of_succ_le (ih member)
    | run word =>
      rcases List.mem_cons.mp member with rfl | member
      · exact Nat.le_refl start
      · exact Nat.le_trans (Nat.le_add_right ..) (ih member)

/-- The longest run that begins where a run of the text begins is that run. -/
theorem isRun_append_iff {before word rest : Text} (nonempty : word ≠ [])
    (inside : ∀ c ∈ word, p c = true) (ends : ∀ c ∈ rest.head?, p c = false)
    (free : isBefore p (before ++ (word ++ rest)) before.length = false)
    (lower : before.length ≤ start) :
    IsRun p (before ++ (word ++ rest)) start stop ↔
      (start = before.length ∧ stop = before.length + word.length) ∨
        (before.length + word.length < start ∧ IsRun p (before ++ (word ++ rest)) start stop) := by
  have size := List.length_pos_iff.mpr nonempty
  have all (offset : Nat) (lt : offset < word.length) := isAt_inside inside before rest lt
  have stops := isAt_behind ends before word
  constructor
  · intro run
    -- A run that begins inside of the word has a character of it in front.
    have first : start = before.length ∨ before.length + word.length < start := by
      by_contra other
      have begins := run.begins
      obtain ⟨offset, rfl⟩ : ∃ offset, start = before.length + offset + 1 :=
        ⟨start - before.length - 1, by omega⟩
      rw [isBefore, all offset (by omega)] at begins
      contradiction
    rcases first with rfl | later
    · refine .inl ⟨rfl, ?_⟩
      have no_longer : ¬ before.length + word.length < stop := by
        intro longer
        have within := run.inside _ (Nat.le_add_right ..) longer
        rw [stops] at within
        contradiction
      have no_shorter : ¬ stop < before.length + word.length := by
        intro shorter
        have proper := run.nonempty
        have behind := run.ends
        obtain ⟨offset, rfl⟩ : ∃ offset, stop = before.length + offset :=
          ⟨stop - before.length, by omega⟩
        rw [all offset (by omega)] at behind
        contradiction
      omega
    · exact .inr ⟨later, run⟩
  · rintro (⟨rfl, rfl⟩ | ⟨-, run⟩)
    · refine ⟨by omega, fun place lower upper => ?_, free, stops⟩
      obtain ⟨offset, rfl⟩ : ∃ offset, place = before.length + offset :=
        ⟨place - before.length, by omega⟩
      exact all offset (by omega)
    · exact run

variable {cut : List Chunk}

theorem IsCut.mem_runPlaces_iff (isCut : IsCut p cut text) (before : Text)
    (free : isAt p (before ++ text) before.length = true →
      isBefore p (before ++ text) before.length = false) :
    (start, stop) ∈ runPlaces before.length cut ↔
      before.length ≤ start ∧ IsRun p (before ++ text) start stop := by
  -- The induction is on the chunks still to come; `before` is the text of the chunks so far.
  induction isCut generalizing before with
  | nil =>
    simp only [runPlaces, List.not_mem_nil, false_iff, not_and]
    intro lower run
    have first := run.inside start (Nat.le_refl _) run.nonempty
    simp [isAt, List.getElem?_eq_none lower] at first
  | @other c cut rest outside more ih =>
    have whole : before ++ [c] ++ rest = before ++ c :: rest := by simp
    have later := ih (before ++ [c])
    rw [List.length_append, List.length_singleton, whole, isBefore_concat] at later
    rw [runPlaces, later fun _ => outside]
    refine and_congr_left fun run => ⟨Nat.le_of_succ_le, fun lower => Nat.lt_of_le_of_ne lower ?_⟩
    rintro rfl
    have first := run.inside _ (Nat.le_refl _) run.nonempty
    rw [isAt_length, List.head?_cons, Option.any_some, outside] at first
    contradiction
  | @run word rest cut nonempty inside ends more ih =>
    have whole : before ++ word ++ rest = before ++ (word ++ rest) := List.append_assoc ..
    have first : isAt p (before ++ (word ++ rest)) (before.length + 0) = true :=
      isAt_inside inside before rest (List.length_pos_iff.mpr nonempty)
    have stops := isAt_behind ends before word
    have later := ih (before ++ word)
    rw [List.length_append, whole] at later
    rw [runPlaces, List.mem_cons, Prod.mk.injEq, later fun here => by simp [stops] at here]
    constructor
    · rintro (⟨rfl, rfl⟩ | ⟨lower, run⟩)
      · exact ⟨Nat.le_refl _,
          (isRun_append_iff nonempty inside ends (free first) (Nat.le_refl _)).mpr
          (.inl ⟨rfl, rfl⟩)⟩
      · exact ⟨by omega, run⟩
    · rintro ⟨lower, run⟩
      rcases (isRun_append_iff nonempty inside ends (free first) lower).mp run
        with here | ⟨behind, -⟩
      · exact .inl here
      · exact .inr ⟨by omega, run⟩

theorem IsCut.slices_runPlaces (isCut : IsCut p cut text) (before : Text) :
    (before ++ text).slices (runPlaces before.length cut) = cut.filterMap Chunk.run? := by
  induction isCut generalizing before with
  | nil => rfl
  | @other c cut rest _ _ ih =>
    have later := ih (before ++ [c])
    rwa [List.length_append, List.append_assoc] at later
  | @run word rest cut _ _ _ _ ih =>
    have later := ih (before ++ word)
    rw [List.length_append, List.append_assoc] at later
    rw [runPlaces, slices, List.map_cons, slice_between, ← slices, later]
    rfl

theorem pairwise_runPlaces (start : Nat) (cut : List Chunk) :
    (runPlaces start cut).Pairwise fun place later => place.2 ≤ later.1 := by
  induction cut generalizing start with
  | nil => exact .nil
  | cons chunk rest ih =>
    cases chunk with
    | other c => exact ih _
    | run word => exact .cons (fun _ member => le_of_mem_runPlaces member) (ih _)

/-- Between two longest runs stands a character that belongs to neither. -/
theorem IsRun.lt_of_lt {later last : Nat} (first : IsRun p text start stop)
    (second : IsRun p text later last) (before : start < later) : stop < later := by
  by_contra other
  have begins := second.begins
  obtain ⟨place, rfl⟩ : ∃ place, later = place + 1 := ⟨later - 1, by omega⟩
  rw [isBefore, first.inside place (by omega) (by omega)] at begins
  contradiction

/-- The runs that a text is cut into are its longest runs. -/
theorem exists_areRuns (p : Char → Bool) (text : Text) :
    ∃ places, AreRuns p text places ∧ text.slices places = runs p text := by
  have isCut := isCut_chunks p text
  have all (place : Nat × Nat) : place ∈ runPlaces 0 (chunks p text) ↔
      IsRun p text place.1 place.2 := by
    have here := @IsCut.mem_runPlaces_iff p text place.1 place.2 _ isCut [] fun _ => rfl
    simpa using here
  refine ⟨runPlaces 0 (chunks p text), ⟨?_, all⟩, isCut.slices_runPlaces []⟩
  refine (pairwise_runPlaces 0 (chunks p text)).imp_of_mem
    fun {place later} member inside apart => ?_
  have first := (all place).mp member
  have proper := first.nonempty
  exact first.lt_of_lt ((all later).mp inside) (by omega)

theorem runs_append_other {c : Char} (outside : p c = false) (before rest : Text) :
    runs p (before ++ c :: rest) = runs p before ++ runs p rest := by
  rw [runs, chunks_append_other outside, List.filterMap_append, List.filterMap_cons]
  rfl

theorem runs_of_all (nonempty : text ≠ []) (inside : ∀ c ∈ text, p c = true) :
    runs p text = [text] := by
  have ends : ∀ c ∈ ([] : Text).head?, p c = false := by simp
  have whole := chunks_run_append nonempty inside ends
  rw [List.append_nil] at whole
  rw [runs, whole]
  rfl

theorem runs_trim (free : ∀ c, isBlank c = true → p c = false) (text : Text) :
    runs p (trim text) = runs p text := by
  have cut (before : Text) (c : Char) (rest : Text) (blank : isBlank c = true) :=
    runs_append_other (free c blank) before rest
  rw [← flatMap_words rfl cut, words_trim, flatMap_words rfl cut]

/-- Two readings that fall apart where the class of a run ends are the same if they are on its
runs. -/
theorem reading_ext {β : Type} (p : Char → Bool) (read other : Text → List β)
    (cut : ∀ before c rest, p c = false → read (before ++ c :: rest) = read before ++ read rest)
    (other_cut : ∀ before c rest, p c = false →
      other (before ++ c :: rest) = other before ++ other rest)
    (agree : ∀ run, (∀ c ∈ run, p c = true) → read run = other run) (text : Text) :
    read text = other text := by
  have pieces {read : Text → List β}
      (cut : ∀ before c rest, p c = false →
          read (before ++ c :: rest) = read before ++ read rest) :=
    flatMap_splitAt (fun before c rest (outside : (!p c) = true) =>
        cut before c rest (by simpa using outside)) text
  rw [← pieces cut, ← pieces other_cut]
  refine List.flatMap_congr fun piece member => agree piece fun c inside => ?_
  simpa using not_separates_of_mem_splitAt member inside

end Text
end RecordSearch
