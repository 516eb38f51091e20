import Mathlib.Data.Bool.AllAny
import RecordSearch.Proofs.Query.Removal
import RecordSearch.Proofs.Text.Case
import RecordSearch.Proofs.Text.Places

/-! Connectives stand between word boundaries, in any case. These places are whole words, and taking
the words out leaves the other words of the text as they are, so that no connective comes up where
none was. -/
namespace RecordSearch

namespace Connective

/-- Whether a word is a connective but for its case. -/
def isWrittenAs (word : Text) : Bool :=
  all.any fun connective => Text.lower word == Text.lower connective.name

/-- A connective stands between two word boundaries, letter by letter in any case. -/
structure StandsAt (text : Text) (start stop : Nat) : Prop where
  begins : Text.IsBoundary isWordChar text start
  ends : Text.IsBoundary isWordChar text stop
  spelled : ∃ connective : Connective, CaseMatches connective.name (text.slice start stop)

def letters : Text := "ADNORT".toList

def IsEither (letter c : Char) : Prop := c = letter ∨ c = letter.toLower

variable {letter c : Char} {name word : Text}

theorem letters_name (connective : Connective) : ∀ letter ∈ connective.name, letter ∈ letters := by
  cases connective <;> exact List.all_iff_forall_prop.mp (by decide)

theorem toUpper_eq_iff (member : letter ∈ letters) : c.toUpper = letter ↔ IsEither letter c := by
  have ascii : ∀ letter ∈ letters, ∀ n < 128, (Char.ofNat n).toUpper = letter ↔
      Char.ofNat n = letter ∨ Char.ofNat n = letter.toLower :=
    List.all_iff_forall_prop.mp (by decide +kernel)
  have small : ∀ letter ∈ letters, letter.toLower.toNat < 128 :=
    List.all_iff_forall_prop.mp (by decide)
  by_cases first : c.toNat < 128
  · exact forall_ascii (P := fun c => c.toUpper = letter ↔ c = letter ∨ c = letter.toLower)
      (ascii letter member) first
  · rw [toUpper_of_not_ascii first]
    constructor
    · exact .inl
    · rintro (rfl | rfl)
      · rfl
      · exact absurd (small letter member) first

theorem smallForm_eq_iff (member : letter ∈ letters) :
    smallForm c = letter.toLower ↔ IsEither letter c := by
  have table : ∀ letter ∈ letters, letter.toLower.toNat < 128 ∧ IsUnreached letter.toLower :=
    List.all_iff_forall_prop.mp (by decide +kernel)
  have ascii : ∀ letter ∈ letters, ∀ n < 128, (Char.ofNat n).toLower = letter.toLower →
      Char.ofNat n = letter ∨ Char.ofNat n = letter.toLower :=
    List.all_iff_forall_prop.mp (by decide +kernel)
  have own : ∀ letter ∈ letters,
      smallForm letter = letter.toLower ∧ smallForm letter.toLower = letter.toLower :=
    List.all_iff_forall_prop.mp (by decide +kernel)
  constructor
  · intro small
    obtain ⟨below, unreached⟩ := table letter member
    obtain ⟨first, same⟩ := unreached.of_smallForm_ascii below small
    exact forall_ascii (P := fun c => c.toLower = letter.toLower → IsEither letter c)
      (ascii letter member) first same
  · rintro (rfl | rfl)
    · exact (own _ member).1
    · exact (own _ member).2

theorem caseMatches_iff (member : letter ∈ letters) :
    caseMatches letter c = true ↔ IsEither letter c := by
  have plain : ∀ letter ∈ letters,
      caseKey letter = letter.toLower ∧ 'i' ≠ letter.toLower ∧ 'İ' ≠ letter ∧ 'İ' ≠ letter.toLower ∧
      ∀ set ∈ letterVariants, set.contains letter.toLower = false :=
    List.all_iff_forall_prop.mp (by decide +kernel)
  obtain ⟨key, other, capital, small, variants⟩ := plain letter member
  have alone :
      (letterVariants.any fun set => set.contains letter.toLower && set.contains (caseKey c)) =
      false := by
    simp only [List.any_eq_false, Bool.and_eq_true, not_and]
    intro set inside held
    rw [variants set inside] at held
    cases held
  rw [caseMatches, key, alone, Bool.or_false, beq_iff_eq, eq_comm, caseKey]
  split
  · next dotted =>
    obtain rfl : c = 'İ' := by simpa using dotted
    simp [IsEither, other, capital, small]
  · exact smallForm_eq_iff member

def Spells (name word : Text) : Prop := List.Forall₂ IsEither name word

theorem forall₂_iff_spells {same : Char → Char → Prop}
    (each : ∀ letter ∈ name, ∀ c, same letter c ↔ IsEither letter c) :
    List.Forall₂ same name word ↔ Spells name word := by
  induction name generalizing word with
  | nil => simp [Spells]
  | cons letter name ih =>
    cases word with
    | nil => simp [Spells]
    | cons c word =>
      have rest : List.Forall₂ same name word ↔ Spells name word :=
        ih fun other member => each other (List.mem_cons_of_mem _ member)
      simp only [Spells, List.forall₂_cons, each letter List.mem_cons_self, rest]

theorem map_toUpper_eq_iff (proper : ∀ letter ∈ name, letter ∈ letters) :
    word.map Char.toUpper = name ↔ Spells name word := by
  have each : ∀ letter ∈ name, ∀ c, letter = c.toUpper ↔ IsEither letter c := by
    intro letter member c
    rw [eq_comm, toUpper_eq_iff (proper letter member)]
  rw [← forall₂_iff_spells each, ← List.forall₂_map_right_iff (R := Eq),
    List.forall₂_eq_eq_eq, eq_comm]

theorem lowerAfter_eq_iff (proper : ∀ letter ∈ name, letter ∈ letters) (inWord : Bool) :
    Text.lowerAfter inWord word = name.map Char.toLower ↔ Spells name word := by
  have greek : ∀ letter ∈ letters,
      'ς' ≠ letter.toLower ∧ 'σ' ≠ letter.toLower ∧ 'Σ' ≠ letter ∧ 'Σ' ≠ letter.toLower :=
    List.all_iff_forall_prop.mp (by decide)
  have dotted : ∀ letter ∈ letters, 'i' ≠ letter.toLower ∧ 'İ' ≠ letter ∧ 'İ' ≠ letter.toLower :=
    List.all_iff_forall_prop.mp (by decide)
  induction word generalizing name inWord with
  | nil => simp [Text.lowerAfter, Spells, eq_comm]
  | cons c word ih =>
    rw [Text.lowerAfter]
    cases name with
    | nil =>
      split
      · simp [Spells]
      · split <;> simp [Spells]
    | cons letter name =>
      obtain ⟨here, rest⟩ := List.forall_mem_cons.mp proper
      rw [List.map_cons, Spells, List.forall₂_cons]
      split
      · next sigma =>
        obtain rfl : c = 'Σ' := by simpa using sigma
        obtain ⟨final, small, capital, lower⟩ := greek letter here
        simp [IsEither, capital, lower]
        split <;> simp [final, small]
      · split
        · next capital =>
          obtain rfl : c = 'İ' := by simpa using capital
          simp [IsEither, dotted letter here]
        · rw [List.singleton_append, List.cons.injEq]
          exact and_congr (smallForm_eq_iff here) (ih rest _)

theorem mem_all (connective : Connective) : connective ∈ all := by
  cases connective <;> decide

theorem isWrittenAs_iff :
    isWrittenAs word = true ↔ ∃ connective : Connective, Spells connective.name word := by
  have each (connective : Connective) : Text.lower word = Text.lower connective.name ↔
      Spells connective.name word := by
    rw [← lowerAfter_eq_iff (letters_name connective) false, ← Text.lower]
    have small : Text.lower connective.name = connective.name.map Char.toLower := by
      cases connective <;> decide +kernel
    rw [small]
  simp only [isWrittenAs, List.any_eq_true, beq_iff_eq, each, mem_all, true_and]

theorem isSome_ofWord?_iff :
    (ofWord? word).isSome = true ↔ ∃ connective : Connective, Spells connective.name word := by
  have each (connective : Connective) : connective.name = word.map Char.toUpper ↔
      Spells connective.name word := by
    rw [← map_toUpper_eq_iff (letters_name connective), eq_comm]
  simp only [ofWord?, ofName?, List.find?_isSome, beq_iff_eq, each, mem_all, true_and]

theorem isSome_ofWord? (word : Text) : (ofWord? word).isSome = isWrittenAs word := by
  rw [Bool.eq_iff_iff, isSome_ofWord?_iff, isWrittenAs_iff]

variable {text : Text} {start stop : Nat}

theorem Spells.forall_isWordChar (spelled : Spells name word)
    (proper : ∀ letter ∈ name, letter ∈ letters) : ∀ c ∈ word, isWordChar c = true := by
  have each : ∀ letter ∈ letters, isWordChar letter = true ∧ isWordChar letter.toLower = true :=
    List.all_iff_forall_prop.mp (by decide)
  induction spelled with
  | nil => simp
  | @cons letter c name word same _ ih =>
    obtain ⟨here, others⟩ := List.forall_mem_cons.mp proper
    refine List.forall_mem_cons.mpr ⟨?_, ih others⟩
    rcases same with rfl | rfl
    · exact (each _ here).1
    · exact (each _ here).2

theorem Spells.ne_nil {connective : Connective}
    (spelled : Spells connective.name word) : word ≠ [] := by
  rintro rfl
  have size := spelled.length_eq
  revert size
  cases connective <;> decide

/-- A connective stands where a whole word is one. -/
theorem standsAt_iff : StandsAt text start stop ↔
    Text.IsRun isWordChar text start stop ∧ isWrittenAs (text.slice start stop) = true := by
  have spells (word : Text) : (∃ connective : Connective, CaseMatches connective.name word) ↔
      isWrittenAs word = true := by
    have each (connective : Connective) : CaseMatches connective.name word ↔
        Spells connective.name word :=
      forall₂_iff_spells fun letter member c =>
        caseMatches_iff (letters_name connective letter member)
    rw [isWrittenAs_iff]
    exact exists_congr each
  rw [Text.isRun_iff, ← spells]
  constructor
  · rintro ⟨begins, ends, spelled⟩
    obtain ⟨connective, named⟩ := isWrittenAs_iff.mp ((spells _).mp spelled)
    exact ⟨⟨⟨named.ne_nil, named.forall_isWordChar (letters_name connective)⟩, begins, ends⟩,
      spelled⟩
  · rintro ⟨⟨-, begins, ends⟩, spelled⟩
    exact ⟨begins, ends, spelled⟩

end Connective

namespace Query

/-- The connectives of a query with a clause are the words of what is left of it that are
connectives in any case, and the words of the free text are the others, in their order. -/
theorem connectives_are_words {text : Text} (clauses : Clause.scan (Text.normalize text) ≠ []) :
    let rest := residue (Text.normalize text) (Clause.scan (Text.normalize text))
    let full := (parse text).fullText.getD []
    ∃ places left, Text.AreRuns isWordChar rest places ∧ Text.AreRuns isWordChar full left ∧
      (parse text).connectives =
        ((rest.slices places).filter Connective.isWrittenAs).map (List.map Char.toUpper) ∧
      full.slices left = (rest.slices places).filter (!Connective.isWrittenAs ·) ∧
      (∀ start stop, Connective.StandsAt rest start stop ↔
        (start, stop) ∈ places ∧ Connective.isWrittenAs (rest.slice start stop) = true) ∧
      ∀ start stop, ¬ Connective.StandsAt full start stop := by
  intro rest full
  obtain ⟨places, words, same⟩ := Text.exists_areRuns isWordChar rest
  obtain ⟨left, others, remaining⟩ := Text.exists_areRuns isWordChar full
  have kept : full.slices left = (rest.slices places).filter (!Connective.isWrittenAs ·) := by
    have whole : full = Text.trim (withoutConnectives rest) := by
      simp only [full, parse, ofNormalized_of_clauses clauses, getD_asFullText, rest]
    rw [remaining, same, whole, Text.runs_trim fun c => isWordChar_of_isBlank,
      runs_withoutConnectives]
    simp only [← Connective.isSome_ofWord?, Option.not_isSome]
  refine ⟨places, left, words, others, ?_, kept, ?_, ?_⟩
  · rw [parse, ofNormalized_of_clauses clauses, ← map_toUpper_connectiveWords,
      connectiveWords_eq_filter, same]
    simp only [Connective.isSome_ofWord?, rest]
  · intro start stop
    rw [Connective.standsAt_iff]
    exact and_congr_left' (words.all (start, stop)).symm
  · intro start stop stands
    obtain ⟨run, spelled⟩ := Connective.standsAt_iff.mp stands
    have member : full.slice start stop ∈ full.slices left :=
      List.mem_map.mpr ⟨(start, stop), (others.all _).mpr run, rfl⟩
    rw [kept] at member
    simp [spelled] at member

/-- A connective in front of a hyphen is one, and one behind a letter of another script or an
underscore is none. -/
theorem connectives_are_words_punctuated :
    let text := "and-roll Not éAND _or title:x NOT".toList
    Clause.scan (Text.normalize text) ≠ [] ∧
      (parse text).connectives = ["AND".toList, "NOT".toList, "NOT".toList] ∧
      (parse text).fullText = some "-roll  éAND _or".toList ∧
      ∀ start stop, ¬ Connective.StandsAt "-roll  éAND _or".toList start stop := by
  intro text
  have clauses : Clause.scan (Text.normalize text) ≠ [] := by decide +kernel
  have full : (parse text).fullText = some "-roll  éAND _or".toList := by decide +kernel
  obtain ⟨places, left, -, -, -, -, -, none⟩ := connectives_are_words clauses
  rw [full] at none
  exact ⟨clauses, by decide +kernel, full, none⟩

end Query
end RecordSearch
