import Mathlib.Data.List.Basic
import RecordSearch.Proofs.Text.Case
import RecordSearch.Proofs.Text.Solid

/-! Gaps in a text from which pieces have been taken. Where a piece between two others is taken out,
the spaces on both of its sides stay, and no text with single spaces holds the result. -/
namespace RecordSearch.Text

def IsDoubled (text : Text) : Prop := [' ', ' '] <:+: text

def HasGap (pieces : List Text) : Prop :=
  ∃ before behind, pieces = before ++ [] :: behind ∧ (∃ piece ∈ before, piece ≠ []) ∧
    ∃ piece ∈ behind, piece ≠ []

/-- Pieces without the empty ones at both ends. -/
structure Frames (front core back pieces : List Text) : Prop where
  whole : pieces = front ++ (core ++ back)
  front_empty : ∀ piece ∈ front, piece = []
  back_empty : ∀ piece ∈ back, piece = []
  begins : ∀ piece ∈ core.head?, piece ≠ []
  ends : ∀ piece ∈ core.getLast?, piece ≠ []

theorem nil_mem_splitAt_of_isDoubled {text : Text} (doubled : IsDoubled text) :
    [] ∈ splitAt (· == ' ') text := by
  obtain ⟨before, behind, rfl⟩ := doubled
  have cut : splitAt (· == ' ') (before ++ [' ', ' '] ++ behind) =
      splitAt (· == ' ') before ++ splitAt (· == ' ') (' ' :: behind) := by
    rw [List.append_assoc]
    exact splitAt_append_separator (by simp) before (' ' :: behind)
  rw [cut]
  exact List.mem_append_right _ List.mem_cons_self

theorem mem_join_of_mem (gap : Text) {pieces : List Text} {piece : Text} {c : Char}
    (member : piece ∈ pieces) (inside : c ∈ piece) : c ∈ join gap pieces := by
  cases pieces with
  | nil => contradiction
  | cons first rest =>
    rw [join_cons, List.mem_append, List.mem_flatMap]
    rcases List.mem_cons.mp member with rfl | member
    · exact .inl inside
    · exact .inr ⟨piece, member, List.mem_append_right gap inside⟩

theorem not_isDoubled_nil : ¬ IsDoubled [] := by simp [IsDoubled]

theorem not_isDoubled_normalize (text : Text) : ¬ IsDoubled (normalize text) := by
  intro doubled
  by_cases none : words text = []
  · rw [normalize, none] at doubled
    exact not_isDoubled_nil doubled
  · have empty := nil_mem_splitAt_of_isDoubled doubled
    rw [normalize,
      splitAt_join none fun word member => (isWord_of_mem_words member).spaceless] at empty
    exact (isWord_of_mem_words empty).nonempty rfl

theorem exists_gap_join_append {front rest : List Text} (empty : ∀ piece ∈ front, piece = [])
    (nonempty : rest ≠ []) :
    ∃ gap, IsGap gap ∧ join [' '] (front ++ rest) = gap ++ join [' '] rest := by
  induction front with
  | nil => exact ⟨[], by simp [IsGap], rfl⟩
  | cons piece front ih =>
    obtain ⟨rfl, others⟩ := List.forall_mem_cons.mp empty
    obtain ⟨gap, blanks, whole⟩ := ih others
    obtain ⟨next, behind, following⟩ :=
      List.exists_cons_of_ne_nil (List.append_ne_nil_of_right_ne_nil front nonempty)
    refine ⟨' ' :: gap, List.forall_mem_cons.mpr ⟨rfl, blanks⟩, ?_⟩
    rw [List.cons_append, following, join, ← following, whole]
    · rfl
    · simp

theorem exists_frames (pieces : List Text) : ∃ front core back, Frames front core back pieces := by
  induction pieces with
  | nil => exact ⟨[], [], [], rfl, by simp, by simp, by simp, by simp⟩
  | cons piece rest ih =>
    obtain ⟨front, core, back, rfl, front_empty, back_empty, begins, ends⟩ := ih
    by_cases empty : piece = []
    · exact ⟨piece :: front, core, back, rfl, List.forall_mem_cons.mpr ⟨empty, front_empty⟩,
        back_empty, begins, ends⟩
    · by_cases nothing : core = []
      · refine ⟨[], [piece], front ++ back, by simp [nothing], by simp, ?_, by simpa using empty,
          by simpa using empty⟩
        exact List.forall_mem_append.mpr ⟨front_empty, back_empty⟩
      · refine ⟨[], piece :: (front ++ core), back, by simp, by simp, back_empty,
          by simpa using empty, ?_⟩
        obtain ⟨others, last, rfl⟩ := (List.eq_nil_or_concat' core).resolve_left nothing
        have whole : piece :: (front ++ (others ++ [last])) =
            piece :: front ++ others ++ [last] := by simp
        rw [whole]
        simpa only [List.getLast?_concat] using ends

namespace Frames

variable {front core back pieces : List Text}

theorem mem_of_mem_core (frames : Frames front core back pieces) {piece : Text}
    (member : piece ∈ core) : piece ∈ pieces := by
  rw [frames.whole]
  exact List.mem_append_right _ (List.mem_append_left _ member)

theorem hasGap_iff (frames : Frames front core back pieces) : HasGap pieces ↔ [] ∈ core := by
  obtain ⟨rfl, front_empty, back_empty, begins, ends⟩ := frames
  constructor
  · rintro ⟨before, behind, split, ⟨piece, member, present⟩, ⟨other, inside, other_present⟩⟩
    rcases List.append_eq_append_iff.mp split with ⟨more, rfl, later⟩ | ⟨more, rfl, -⟩
    · rcases List.append_eq_append_iff.mp later with ⟨last, -, rfl⟩ | ⟨last, rfl, ending⟩
      · exact absurd (back_empty other (by simp [inside])) other_present
      · rcases List.cons_eq_append_iff.mp ending with ⟨rfl, rfl⟩ | ⟨others, rfl, -⟩
        · exact absurd (back_empty other (by simp [inside])) other_present
        · simp
    · exact absurd (front_empty piece (by simp [member])) present
  · intro empty
    obtain ⟨before, behind, rfl⟩ := List.append_of_mem empty
    obtain ⟨first, before, rfl⟩ : ∃ first others, before = first :: others :=
      List.exists_cons_of_ne_nil fun none => begins [] (by simp [none]) rfl
    obtain ⟨behind, last, rfl⟩ : ∃ others last, behind = others ++ [last] :=
      (List.eq_nil_or_concat' behind).resolve_left
        fun none => ends [] (by rw [none, List.getLast?_concat]; rfl) rfl
    refine ⟨front ++ first :: before, behind ++ [last] ++ back, by simp, ⟨first, by simp, ?_⟩,
      ⟨last, by simp, ?_⟩⟩
    · exact begins first rfl
    · rw [← List.cons_append, ← List.append_assoc, List.getLast?_concat] at ends
      exact ends last rfl

/-- Trimming leaves out the empty pieces at both ends. -/
theorem trim_join (frames : Frames front core back pieces)
    (free : ∀ piece ∈ pieces, ∀ c ∈ piece, isBlank c = false) :
    trim (join [' '] pieces) = join [' '] core := by
  obtain ⟨rfl, front_empty, back_empty, begins, ends⟩ := frames
  by_cases nothing : core = []
  · subst nothing
    have blanks := isGap_join_empty (List.forall_mem_append.mpr ⟨front_empty, back_empty⟩)
    have same := trim_gap_append blanks []
    rwa [List.append_nil] at same
  · obtain ⟨gap, blanks, whole⟩ :=
      exists_gap_join_append front_empty (List.append_ne_nil_of_left_ne_nil nothing back)
    rw [whole, trim_gap_append blanks, join_append _ _ _ nothing]
    refine trim_append_gap ?_ ?_ (isGap_flatMap_empty back_empty)
    · obtain ⟨first, rest, rfl⟩ := List.exists_cons_of_ne_nil nothing
      obtain ⟨c, others, present⟩ := List.exists_cons_of_ne_nil (begins first rfl)
      simpa [join_cons, present] using free first (by simp) c (by simp [present])
    · obtain ⟨rest, last, rfl⟩ := (List.eq_nil_or_concat' core).resolve_left nothing
      rw [List.getLast?_concat] at ends
      obtain ⟨others, c, present⟩ := (List.eq_nil_or_concat' last).resolve_left (ends last rfl)
      have ending : ∃ start, join [' '] (rest ++ [last]) = start ++ [c] := by
        by_cases alone : rest = []
        · exact ⟨others, by simp [alone, join, present]⟩
        · exact ⟨join [' '] rest ++ ' ' :: others, by simp [join_append _ _ _ alone, present]⟩
      obtain ⟨start, ending⟩ := ending
      rw [ending, List.getLast?_concat]
      rintro d ⟨⟩
      exact free last (by simp) c (by simp [present])

theorem isDoubled_join_iff (frames : Frames front core back pieces)
    (free : ∀ piece ∈ pieces, ∀ c ∈ piece, isBlank c = false) :
    IsDoubled (join [' '] core) ↔ [] ∈ core := by
  constructor
  · intro doubled
    have nonempty : core ≠ [] := by
      rintro rfl
      exact not_isDoubled_nil doubled
    have spaceless : ∀ piece ∈ core, ' ' ∉ piece := by
      intro piece member inside
      have other := free piece (frames.mem_of_mem_core member) ' ' inside
      contradiction
    have empty := nil_mem_splitAt_of_isDoubled doubled
    rwa [splitAt_join nonempty spaceless] at empty
  · intro empty
    obtain ⟨before, behind, rfl⟩ := List.append_of_mem empty
    have first : before ≠ [] := fun none => frames.begins [] (by simp [none]) rfl
    have last : behind ≠ [] :=
      fun none => frames.ends [] (by rw [none, List.getLast?_concat]; rfl) rfl
    obtain ⟨next, behind, rfl⟩ := List.exists_cons_of_ne_nil last
    refine ⟨join [' '] before, next ++ behind.flatMap ([' '] ++ ·), ?_⟩
    simp [join_append _ _ _ first]

end Frames

/-- A text of pieces that have no blanks is normal, once it is trimmed, if no piece between two
others is empty. -/
theorem isDoubled_trim_join_iff {pieces : List Text}
    (free : ∀ piece ∈ pieces, ∀ c ∈ piece, isBlank c = false) :
    (IsDoubled (trim (join [' '] pieces)) ↔ HasGap pieces) ∧
      (normalize (trim (join [' '] pieces)) = trim (join [' '] pieces) ↔ ¬ HasGap pieces) := by
  obtain ⟨front, core, back, frames⟩ := exists_frames pieces
  have doubled := frames.isDoubled_join_iff free
  rw [frames.trim_join free, frames.hasGap_iff]
  refine ⟨doubled, fun normal empty => ?_, fun full => normalize_join_words fun piece member => ?_⟩
  · rw [← doubled, ← normal] at empty
    exact not_isDoubled_normalize _ empty
  · exact ⟨fun empty => full (empty ▸ member), free piece (frames.mem_of_mem_core member)⟩

theorem eq_space_of_isHead {c : Char} (head : IsHead c ' ') : c = ' ' := by
  have unreached : IsUnreached ' ' := by decide +kernel
  rcases unreached.of_isHead (by decide) head with ⟨ascii, same⟩ | same
  · exact forall_ascii (P := fun c => c.toLower = ' ' → c = ' ') (by decide) ascii same
  · exact same

theorem space_notMem_dotOf (c : Char) : ' ' ∉ dotOf c := by
  rw [dotOf]
  split <;> decide

theorem head?_eq_space_of_lowerAfter {inWord : Bool} {text : Text}
    (begins : (lowerAfter inWord text).head? = some ' ') : text.head? = some ' ' := by
  cases text with
  | nil => contradiction
  | cons c rest =>
    obtain ⟨first, behind, whole, head⟩ := exists_lowerAfter_cons inWord c rest
    rw [whole, List.head?_cons, Option.some_inj] at begins
    rw [begins] at head
    rw [eq_space_of_isHead head, List.head?_cons]

theorem isDoubled_append_spaceless {front rest : Text} (spaceless : ' ' ∉ front)
    (doubled : IsDoubled (front ++ rest)) : IsDoubled rest := by
  induction front with
  | nil => exact doubled
  | cons c front ih =>
    rw [List.mem_cons, not_or] at spaceless
    rw [IsDoubled, List.cons_append, List.infix_cons_iff] at doubled
    rcases doubled with begins | later
    · exact absurd (List.cons_prefix_cons.mp begins).1 spaceless.1
    · exact ih spaceless.2 later

theorem isDoubled_of_lowerAfter {inWord : Bool} {text : Text}
    (doubled : IsDoubled (lowerAfter inWord text)) : IsDoubled text := by
  induction text generalizing inWord with
  | nil => exact absurd doubled not_isDoubled_nil
  | cons c rest ih =>
    obtain ⟨first, behind, whole, head⟩ := exists_lowerAfter_cons inWord c rest
    have spaceless := space_notMem_dotOf c
    generalize dotOf c = marks at whole spaceless
    rw [IsDoubled, whole, List.infix_cons_iff] at doubled
    rcases doubled with begins | later
    · obtain ⟨same, second⟩ := List.cons_prefix_cons.mp begins
      have next : (lowerAfter behind rest).head? = some ' ' := by
        obtain ⟨others, following⟩ := second
        cases marks with
        | nil => exact List.head?_eq_some_iff.mpr ⟨others, following.symm⟩
        | cons mark marks =>
          rw [List.mem_cons, not_or] at spaceless
          exact absurd (List.cons.inj following).1 spaceless.1
      obtain ⟨others, rfl⟩ := List.head?_eq_some_iff.mp (head?_eq_space_of_lowerAfter next)
      rw [← same] at head
      obtain rfl := eq_space_of_isHead head
      exact (List.prefix_append [' ', ' '] others).isInfix
    · exact (ih (isDoubled_append_spaceless spaceless later)).trans
        (List.suffix_cons c rest).isInfix

theorem IsDoubled.lower {text : Text} (doubled : IsDoubled text) : IsDoubled (lower text) := by
  obtain ⟨before, behind, rfl⟩ := doubled
  obtain ⟨start, small⟩ := exists_lowerAfter_append false before (' ' :: ' ' :: behind)
  have spaces (inWord : Bool) :
      lowerAfter inWord (' ' :: ' ' :: behind) = [' ', ' '] ++ lowerAfter false behind := rfl
  rw [spaces] at small
  rw [List.append_assoc, IsDoubled, Text.lower]
  exact ⟨start, lowerAfter false behind, by rw [List.append_assoc]; exact small.symm⟩

/-- A text that holds a gap of spaces has one itself. -/
theorem isDoubled_of_holds {piece text : Text} (held : holds piece text = true)
    (doubled : IsDoubled piece) : IsDoubled text := by
  rw [holds, occursIn_iff] at held
  exact isDoubled_of_lowerAfter (doubled.lower.trans held)

end RecordSearch.Text

