import Mathlib.Data.List.TakeWhile
import RecordSearch.Proofs.Text.Words
import RecordSearch.Query.Parse
import RecordSearch.Query.Validate

/-! What is read off the longest runs of a text: the names in front of colons, and the connectives.
A character outside of all runs cuts the chunks before it from those behind it, so that both
readings of a text are those of its words, one after the other. -/
namespace RecordSearch

namespace Text

variable {p : Char → Bool}

theorem chunks_append_other {c : Char} (outside : p c = false) (before rest : Text) :
    chunks p (before ++ c :: rest) = chunks p before ++ .other c :: chunks p rest := by
  induction before with
  | nil => simp [chunks, outside]
  | cons d before ih =>
    simp only [List.cons_append, chunks, ih]
    split
    · rcases chunks p before with _ | ⟨_ | _, _⟩
      · rfl
      · rfl
      · rfl
    · rfl

/-- A run that does not go on is one chunk. -/
theorem chunks_run_append {run rest : Text} (nonempty : run ≠ []) (inside : ∀ c ∈ run, p c = true)
    (ends : ∀ c ∈ rest.head?, p c = false) :
    chunks p (run ++ rest) = .run run :: chunks p rest := by
  induction run with
  | nil => contradiction
  | cons c run ih =>
    have first : p c = true := inside c List.mem_cons_self
    by_cases last : run = []
    · subst last
      cases rest with
      | nil => simp [chunks, first, Chunk.extend]
      | cons d rest => simp [chunks, first, ends d rfl, Chunk.extend]
    · simp only [List.cons_append, chunks, first, ↓reduceIte]
      rw [ih last fun d member => inside d (List.mem_cons_of_mem _ member)]
      rfl

/-- A reading that falls apart at the characters that separate is that of the pieces between
them. -/
theorem flatMap_splitAt {β : Type} {separates : Char → Bool} {read : Text → List β}
    (cut : ∀ before c rest, separates c = true →
      read (before ++ c :: rest) = read before ++ read rest)
    (text : Text) : (splitAt separates text).flatMap read = read text := by
  induction length : text.length using Nat.strongRecOn generalizing text with
  | ind n ih =>
    by_cases found : ∃ c ∈ text, separates c = true
    · obtain ⟨c, member, separator⟩ := found
      obtain ⟨before, rest, rfl⟩ := List.append_of_mem member
      simp only [List.length_append, List.length_cons] at length
      rw [splitAt_append_separator separator, List.flatMap_append,
        ih before.length (by omega) before rfl, ih rest.length (by omega) rest rfl,
        cut before c rest separator]
    · have free : ∀ c ∈ text, separates c = false := by simpa using found
      rw [splitAt_eq_splitOnP, List.splitOnP_eq_singleton free]
      simp

/-- A reading that falls apart at blanks is that of the words. -/
theorem flatMap_words {β : Type} {read : Text → List β} (nothing : read [] = [])
    (cut : ∀ before c rest, isBlank c = true →
      read (before ++ c :: rest) = read before ++ read rest)
    (text : Text) : (words text).flatMap read = read text := by
  rw [← flatMap_splitAt cut text, words]
  induction splitAt isBlank text with
  | nil => rfl
  | cons piece rest ih =>
    by_cases empty : piece = []
    · simp [empty, nothing, ih]
    · simp [empty, ih]

/-- A reading that falls apart at spaces is that of the pieces of a joined text. -/
theorem flatMap_join {β : Type} {read : Text → List β} (nothing : read [] = [])
    (cut : ∀ before rest, read (before ++ ' ' :: rest) = read before ++ read rest)
    (pieces : List Text) : read (join [' '] pieces) = pieces.flatMap read := by
  fun_induction join [' '] pieces with
  | case1 => simpa using nothing
  | case2 piece => simp
  | case3 piece rest _ ih =>
    have step := cut piece (join [' '] rest)
    rw [List.append_assoc, List.singleton_append, step, ih, List.flatMap_cons]

end Text

/-- The blanks by their codes. -/
def blankCodes : List Nat :=
  [9, 10, 11, 12, 13, 28, 29, 30, 31, 32, 0x85, 0xA0, 0x1680, 0x2000, 0x2001, 0x2002, 0x2003,
    0x2004, 0x2005, 0x2006, 0x2007, 0x2008, 0x2009, 0x200A, 0x2028, 0x2029, 0x202F, 0x205F, 0x3000]

theorem forall_blank {P : Char → Prop} (all : ∀ n ∈ blankCodes, P (Char.ofNat n)) {c : Char}
    (blank : isBlank c = true) : P c := by
  have listed : c.toNat ∈ blankCodes := by
    simp only [isBlank, Bool.or_eq_true, Bool.and_eq_true, decide_eq_true_eq, beq_iff_eq] at blank
    simp only [blankCodes, List.mem_cons, List.not_mem_nil, or_false]
    omega
  have here := all c.toNat listed
  rwa [Char.ofNat_toNat] at here

theorem isNameChar_of_isBlank {c : Char} (blank : isBlank c = true) : isNameChar c = false :=
  forall_blank (P := fun c => isNameChar c = false) (by decide) blank

theorem markersIn_append_other {c : Char} (noColon : c ≠ ':') (before rest : List Chunk) :
    markersIn (before ++ .other c :: rest) = markersIn before ++ markersIn rest := by
  fun_induction markersIn before with
  | case1 word before ih => simp [markersIn, ih]
  | case2 first before other ih =>
    have step : markersIn (first :: (before ++ .other c :: rest)) =
        markersIn (before ++ .other c :: rest) := by
      cases first with
      | other d => rfl
      | run word =>
        match before with
        | [] => simp [markersIn, noColon]
        | .run _ :: _ => rfl
        | .other d :: before =>
          by_cases colon : d = ':'
          · exact (other word before rfl (by rw [colon])).elim
          · simp [markersIn, colon]
    exact step.trans ih
  | case3 => simp [markersIn]

/-- Blanks separate names as they separate words. -/
theorem markers_append_blank {c : Char} (blank : isBlank c = true) (before rest : Text) :
    markers (before ++ c :: rest) = markers before ++ markers rest := by
  have noColon : c ≠ ':' := by
    rintro rfl
    revert blank
    decide
  rw [markers, Text.chunks_append_other (isNameChar_of_isBlank blank),
    markersIn_append_other noColon]
  rfl

theorem markers_space (rest : Text) : markers (' ' :: rest) = markers rest :=
  markers_append_blank (by decide) [] rest

/-- The names in front of colons are those of the words, so that normalizing a text keeps them. -/
theorem markers_normalize (text : Text) : markers (Text.normalize text) = markers text := by
  have cut := fun before c rest blank => markers_append_blank (c := c) blank before rest
  rw [← Text.flatMap_words rfl cut, Text.words_normalize, Text.flatMap_words rfl cut]

/-- What begins with a name and a colon begins with that name as its first marker. -/
theorem markers_name_append {name : Text} (nonempty : name ≠ [])
    (chars : ∀ c ∈ name, isNameChar c = true) (rest : Text) :
    markers (name ++ ':' :: rest) = name :: markers rest := by
  have ends : ∀ c ∈ (':' :: rest).head?, isNameChar c = false := by simp; decide
  rw [markers, Text.chunks_run_append nonempty chars ends, Text.chunks]
  simp [markersIn, markers, show isNameChar ':' = false by decide]

theorem markers_cons_other {c : Char} (outside : isNameChar c = false) (rest : Text) :
    markers (c :: rest) = markers rest := by
  rw [markers, Text.chunks, if_neg (by simp [outside])]
  rfl

/-- A name in front of a colon is the run of name characters at the beginning of the text, or stands
behind it. -/
theorem mem_markers_iff_run (text name : Text) :
    name ∈ markers text ↔
      (name ≠ [] ∧ text.takeWhile isNameChar = name ∧
          (text.dropWhile isNameChar).head? = some ':') ∨
        name ∈ markers (text.dropWhile isNameChar) := by
  have whole := List.takeWhile_append_dropWhile (p := isNameChar) (l := text)
  have inside : ∀ c ∈ text.takeWhile isNameChar, isNameChar c = true :=
    fun c member => List.mem_takeWhile_imp member
  have ends : ∀ c ∈ (text.dropWhile isNameChar).head?, isNameChar c = false := by
    intro c head
    have stop := List.head?_dropWhile_not isNameChar text
    rwa [Option.mem_def.mp head] at stop
  generalize text.takeWhile isNameChar = run at whole inside
  generalize text.dropWhile isNameChar = rest at whole ends
  subst whole
  by_cases empty : run = []
  · subst empty
    refine ⟨.inr, ?_⟩
    rintro (⟨nonempty, rfl, -⟩ | later)
    · exact absurd rfl nonempty
    · exact later
  · rw [markers, Text.chunks_run_append empty inside ends]
    cases rest with
    | nil => simp [markers, Text.chunks, markersIn]
    | cons c rest =>
      have outside : isNameChar c = false := ends c rfl
      rw [markers_cons_other outside, Text.chunks, if_neg (by simp [outside])]
      by_cases colon : c = ':'
      · subst colon
        simp only [markersIn, List.mem_cons, markers, List.head?_cons, and_true]
        refine or_congr_left ⟨?_, fun shown => shown.2.symm⟩
        rintro rfl
        exact ⟨empty, rfl⟩
      · simp [markersIn, markers, colon]

namespace Query

theorem connectivesIn_append_other {c : Char} (outside : isWordChar c = false)
    (before rest : Text) :
    connectivesIn (before ++ c :: rest) = connectivesIn before ++ connectivesIn rest := by
  rw [connectivesIn, Text.chunks_append_other outside, List.filterMap_append, List.filterMap_cons]
  rfl

theorem connectivesIn_append_space (before rest : Text) :
    connectivesIn (before ++ ' ' :: rest) = connectivesIn before ++ connectivesIn rest :=
  connectivesIn_append_other (by decide) before rest

theorem connectivesIn_join (pieces : List Text) :
    connectivesIn (Text.join [' '] pieces) = pieces.flatMap connectivesIn :=
  Text.flatMap_join rfl connectivesIn_append_space pieces

theorem connectivesIn_name (connective : Connective) :
    connectivesIn connective.name = [connective] := by
  cases connective <;> decide +kernel

theorem withoutConnectives_append_other {c : Char} (outside : isWordChar c = false)
    (before rest : Text) :
    withoutConnectives (before ++ c :: rest) =
      withoutConnectives before ++ c :: withoutConnectives rest := by
  rw [withoutConnectives, Text.chunks_append_other outside, List.filter_append,
    List.filter_cons_of_pos rfl, Text.ofChunks, List.flatMap_append]
  rfl

theorem withoutConnectives_append_space (before rest : Text) :
    withoutConnectives (before ++ ' ' :: rest) =
      withoutConnectives before ++ ' ' :: withoutConnectives rest :=
  withoutConnectives_append_other (by decide) before rest

theorem withoutConnectives_join (pieces : List Text) :
    withoutConnectives (Text.join [' '] pieces) =
      Text.join [' '] (pieces.map withoutConnectives) := by
  fun_induction Text.join [' '] pieces with
  | case1 => rfl
  | case2 piece => rfl
  | case3 piece rest nonempty ih =>
    rw [List.append_assoc, List.singleton_append, withoutConnectives_append_space, ih]
    obtain ⟨next, others, rfl⟩ := List.exists_cons_of_ne_nil nonempty
    simp [Text.join]

theorem withoutConnectives_name (connective : Connective) :
    withoutConnectives connective.name = [] := by
  cases connective <;> decide +kernel

/-- A text in which no connective stands is kept as it is. -/
theorem withoutConnectives_of_none {text : Text} (free : connectivesIn text = []) :
    withoutConnectives text = text := by
  have all : ∀ chunk ∈ Text.chunks isWordChar text, (connective? chunk).isNone = true := by
    intro chunk member
    simpa using List.filterMap_eq_nil_iff.mp free chunk member
  rw [withoutConnectives, List.filter_eq_self.mpr all, Text.ofChunks_chunks]

end Query
end RecordSearch
