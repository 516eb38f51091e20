import RecordSearch.Text.Blank

/-! Words and the blanks between them. Everything about the words of a text follows from one
equation: a blank cuts the words before it from the words behind it. -/
namespace RecordSearch.Text

variable {separates : Char → Bool}

theorem splitAt_eq_splitOnP (text : Text) : splitAt separates text = text.splitOnP separates := by
  induction text with
  | nil => rfl
  | cons c rest ih =>
    obtain ⟨first, others, cut⟩ := List.exists_cons_of_ne_nil (List.splitOnP_ne_nil separates rest)
    simp [splitAt, List.splitOnP_cons_eq_if_modifyHead, ih, cut, consFirst]

theorem join_eq_intercalate (gap : Text) (pieces : List Text) :
    join gap pieces = gap.intercalate pieces := by
  fun_induction join gap pieces with
  | case1 => rfl
  | case2 piece => simp
  | case3 piece rest nonempty ih => rw [ih, List.intercalate_cons_of_ne_nil nonempty]

theorem join_cons (gap piece : Text) (rest : List Text) :
    join gap (piece :: rest) = piece ++ rest.flatMap (gap ++ ·) := by
  induction rest generalizing piece with
  | nil => simp [join]
  | cons next rest ih => simp [join, ih]

theorem join_append (gap : Text) (pieces rest : List Text) (nonempty : pieces ≠ []) :
    join gap (pieces ++ rest) = join gap pieces ++ rest.flatMap (gap ++ ·) := by
  obtain ⟨first, others, rfl⟩ := List.exists_cons_of_ne_nil nonempty
  simp [join_cons]

theorem mem_join {gap : Text} {pieces : List Text} {c : Char} (member : c ∈ join gap pieces) :
    c ∈ gap ∨ ∃ piece ∈ pieces, c ∈ piece := by
  cases pieces with
  | nil => simp [join] at member
  | cons first rest =>
    simp only [join_cons, List.mem_append, List.mem_flatMap] at member
    rcases member with first | ⟨piece, inside, gap | piece⟩
    · exact .inr ⟨_, List.mem_cons_self, first⟩
    · exact .inl gap
    · exact .inr ⟨_, List.mem_cons_of_mem _ inside, piece⟩

theorem join_splitAt (c : Char) (text : Text) : join [c] (splitAt (· == c) text) = text := by
  rw [join_eq_intercalate, splitAt_eq_splitOnP]
  exact List.intercalate_splitOn c

theorem splitAt_join {c : Char} {pieces : List Text} (nonempty : pieces ≠ [])
    (free : ∀ piece ∈ pieces, c ∉ piece) : splitAt (· == c) (join [c] pieces) = pieces := by
  rw [join_eq_intercalate, splitAt_eq_splitOnP]
  exact List.splitOn_intercalate c free nonempty

theorem splitAt_append_separator {c : Char} (separator : separates c = true) (before rest : Text) :
    splitAt separates (before ++ c :: rest) =
      splitAt separates before ++ splitAt separates rest := by
  simp only [splitAt_eq_splitOnP]
  exact List.splitOnP_append_cons before rest separator

theorem two_le_length_splitAt {c : Char} {text : Text} (inside : c ∈ text)
    (separator : separates c = true) : 2 ≤ (splitAt separates text).length := by
  obtain ⟨before, rest, rfl⟩ := List.append_of_mem inside
  rw [splitAt_append_separator separator, List.length_append]
  have front := List.length_pos_iff.mpr (splitAt_ne_nil separates before)
  have back := List.length_pos_iff.mpr (splitAt_ne_nil separates rest)
  omega

/-- No piece holds a character that separates. -/
theorem not_separates_of_mem_splitAt {text piece : Text} {c : Char}
    (member : piece ∈ splitAt separates text) (inside : c ∈ piece) : separates c = false := by
  induction text generalizing piece with
  | nil =>
    rw [splitAt, List.mem_singleton] at member
    simp [member] at inside
  | cons d rest ih =>
    simp only [splitAt] at member
    split at member
    · rcases List.mem_cons.mp member with rfl | member
      · simp at inside
      · exact ih member inside
    · next letter =>
      obtain ⟨first, others, cut⟩ := List.exists_cons_of_ne_nil (splitAt_ne_nil separates rest)
      rw [cut] at member ih
      rcases List.mem_cons.mp member with rfl | member
      · rcases List.mem_cons.mp inside with rfl | inside
        · simpa using letter
        · exact ih List.mem_cons_self inside
      · exact ih (List.mem_cons_of_mem _ member) inside

theorem notMem_of_mem_splitAt {text piece : Text} {c : Char}
    (member : piece ∈ splitAt (· == c) text) : c ∉ piece := by
  intro inside
  simpa using not_separates_of_mem_splitAt member inside

structure IsWord (word : Text) : Prop where
  nonempty : word ≠ []
  free : ∀ c ∈ word, isBlank c = false

def IsGap (gap : Text) : Prop := ∀ c ∈ gap, isBlank c = true

theorem IsWord.spaceless {word : Text} (proper : IsWord word) : ' ' ∉ word := by
  intro inside
  have blank := proper.free ' ' inside
  contradiction

theorem isWord_of_all {word : Text} (nonempty : word ≠ [])
    (free : word.all (!isBlank ·) = true) : IsWord word :=
  ⟨nonempty, by simpa using free⟩

-- Tested by `List.all`, since a quantifier over characters may be decided for all characters that
-- there are.
instance (word : Text) : Decidable (IsWord word) :=
  decidable_of_iff (word ≠ [] ∧ word.all (!isBlank ·) = true)
    ⟨fun ⟨nonempty, free⟩ => isWord_of_all nonempty free, fun proper =>
        ⟨proper.nonempty, by simpa using proper.free⟩⟩

theorem isWord_of_mem_words {text word : Text} (member : word ∈ words text) : IsWord word := by
  obtain ⟨piece, nonempty⟩ := List.mem_filter.mp member
  exact ⟨by simpa using nonempty, fun c inside => not_separates_of_mem_splitAt piece inside⟩

@[simp] theorem words_nil : words [] = [] := rfl

theorem words_append_blank {c : Char} (blank : isBlank c = true) (before rest : Text) :
    words (before ++ c :: rest) = words before ++ words rest := by
  rw [words, splitAt_append_separator blank, List.filter_append]
  rfl

theorem words_gap_append {gap : Text} (blanks : IsGap gap) (rest : Text) :
    words (gap ++ rest) = words rest := by
  induction gap with
  | nil => rfl
  | cons c gap ih =>
    have first : words (c :: (gap ++ rest)) = words (gap ++ rest) :=
      words_append_blank (blanks c List.mem_cons_self) [] _
    exact first.trans (ih fun d inside => blanks d (List.mem_cons_of_mem _ inside))

theorem words_gap {gap : Text} (blanks : IsGap gap) : words gap = [] := by
  have all := words_gap_append blanks []
  rwa [List.append_nil] at all

theorem words_word {word : Text} (proper : IsWord word) : words word = [word] := by
  rw [words, splitAt_eq_splitOnP, List.splitOnP_eq_singleton proper.free]
  simp [proper.nonempty]

theorem words_word_append {word gap : Text} (proper : IsWord word) (blanks : IsGap gap)
    (nonempty : gap ≠ []) (rest : Text) : words (word ++ (gap ++ rest)) = word :: words rest := by
  obtain ⟨c, others, rfl⟩ := List.exists_cons_of_ne_nil nonempty
  rw [List.cons_append, words_append_blank (blanks c List.mem_cons_self), words_word proper,
    words_gap_append fun d inside => blanks d (List.mem_cons_of_mem _ inside)]
  rfl

/-- The text is the words in their order, with a gap that is not empty between neighbours. Gaps may
stand at both ends. -/
inductive Writes : List Text → Text → Prop
  | nil {gap : Text} : IsGap gap → Writes [] gap
  | last {before word gap : Text} : IsGap before → IsGap gap → Writes [word] (before ++ word ++ gap)
  | cons {before word gap next text : Text} {rest : List Text} : IsGap before →
      IsGap gap → gap ≠ [] →
      Writes (next :: rest) text → Writes (word :: next :: rest) (before ++ word ++ gap ++ text)

/-- The gaps leave no trace in the words. -/
theorem Writes.words_eq {pieces : List Text} {text : Text} (written : Writes pieces text)
    (proper : ∀ piece ∈ pieces, IsWord piece) : words text = pieces := by
  induction written with
  | nil blanks => exact words_gap blanks
  | @last before word gap blanks ending =>
    rw [List.append_assoc, words_gap_append blanks]
    by_cases empty : gap = []
    · rw [empty, List.append_nil, words_word (proper _ List.mem_cons_self)]
    · have step := words_word_append (proper _ List.mem_cons_self) ending empty []
      rwa [List.append_nil, words_nil] at step
  | cons blanks gap nonempty _ ih =>
    rw [List.append_assoc, List.append_assoc, words_gap_append blanks,
      words_word_append (proper _ List.mem_cons_self) gap nonempty,
      ih fun piece member => proper piece (List.mem_cons_of_mem _ member)]

/-- The words with single spaces between them are a way to write them. -/
theorem Writes.join {pieces : List Text} : Writes pieces (join [' '] pieces) := by
  have none : IsGap [] := by simp [IsGap]
  have space : IsGap [' '] := by simp [IsGap, isBlank]
  induction pieces with
  | nil => exact .nil none
  | cons piece rest ih =>
    cases rest with
    | nil =>
      have only : Writes [piece] ([] ++ piece ++ []) := .last none none
      rwa [List.append_nil] at only
    | cons next rest => exact Writes.cons none space (by simp) ih

/-- A normalized text has the words of the text, so that normalizing it again changes nothing. -/
theorem words_normalize (text : Text) : words (normalize text) = words text :=
  Writes.join.words_eq fun _ member => isWord_of_mem_words member

/-- Words with single spaces between them are a normalized text. -/
theorem normalize_join_words {pieces : List Text} (proper : ∀ piece ∈ pieces, IsWord piece) :
    normalize (join [' '] pieces) = join [' '] pieces := by
  rw [normalize, Writes.join.words_eq proper]

/-- The words of two texts of which the second stands behind the first without a gap: the last word
of the first runs on in the first word of the second. -/
def glue : List Text → List Text → List Text
  | [], others => others
  | [word], [] => [word]
  | [word], next :: others => (word ++ next) :: others
  | word :: next :: rest, others => word :: glue (next :: rest) others

theorem join_glue (pieces others : List Text) :
    join [' '] (glue pieces others) = join [' '] pieces ++ join [' '] others := by
  fun_induction glue pieces others with
  | case1 others => rfl
  | case2 word => simp [join]
  | case3 word next others => simp [join_cons]
  | case4 word next rest others ih =>
    obtain ⟨first, later, glued⟩ : ∃ first later, glue (next :: rest) others = first :: later := by
      cases rest with
      | nil => cases others <;> exact ⟨_, _, rfl⟩
      | cons _ _ => exact ⟨_, _, rfl⟩
    rw [glued] at ih ⊢
    simp only [join, ih, List.append_assoc]

/-- What holds of the words of both texts and of the word at which they meet holds of all words. -/
theorem forall_mem_glue {p : Text → Prop} {pieces others : List Text}
    (front : ∀ word ∈ pieces, p word) (back : ∀ word ∈ others, p word)
    (meet : ∀ last ∈ pieces.getLast?, ∀ first ∈ others.head?, p (last ++ first)) :
    ∀ word ∈ glue pieces others, p word := by
  fun_induction glue pieces others with
  | case1 others => exact back
  | case2 word => exact front
  | case3 word next others =>
    refine List.forall_mem_cons.mpr ⟨meet word rfl next rfl, fun other member => ?_⟩
    exact back other (List.mem_cons_of_mem _ member)
  | case4 word next rest others ih =>
    refine List.forall_mem_cons.mpr ⟨front word List.mem_cons_self, ih ?_ back ?_⟩
    · exact fun other member => front other (List.mem_cons_of_mem _ member)
    · simpa only [List.getLast?_cons_cons] using meet

theorem IsWord.append {word next : Text} (proper : IsWord word) (next_proper : IsWord next) :
    IsWord (word ++ next) where
  nonempty := List.append_ne_nil_of_left_ne_nil proper.nonempty next
  free c inside := by
    rcases List.mem_append.mp inside with front | back
    · exact proper.free c front
    · exact next_proper.free c back

/-- Normalized texts without a gap between them are a normalized text. -/
theorem words_append {text other : Text} (normal : normalize text = text)
    (other_normal : normalize other = other) :
    words (text ++ other) = glue (words text) (words other) := by
  have whole : text ++ other = join [' '] (glue (words text) (words other)) := by
    rw [join_glue, ← normalize, ← normalize, normal, other_normal]
  rw [whole]
  refine Writes.join.words_eq (forall_mem_glue ?_ ?_ fun last ends first begins => ?_)
  · exact fun word member => isWord_of_mem_words member
  · exact fun word member => isWord_of_mem_words member
  · exact (isWord_of_mem_words (List.mem_of_getLast? ends)).append
      (isWord_of_mem_words (List.mem_of_head? begins))

theorem normalize_append {text other : Text} (normal : normalize text = text)
    (other_normal : normalize other = other) : normalize (text ++ other) = text ++ other := by
  rw [normalize, words_append normal other_normal, join_glue, ← normalize, ← normalize,
    normal, other_normal]

theorem normalize_word {word : Text} (proper : IsWord word) : normalize word = word := by
  rw [normalize, words_word proper, join]

theorem isGap_iff (text : Text) : isBlankText text = true ↔ IsGap text := by
  simp [isBlankText, IsGap]

theorem normalize_blank {text : Text} (blank : isBlankText text = true) : normalize text = [] := by
  rw [normalize, words_gap ((isGap_iff text).mp blank), join]

theorem trim_append_gap {text gap : Text} (begins : ∀ c ∈ text.head?, isBlank c = false)
    (ends : ∀ c ∈ text.getLast?, isBlank c = false) (blanks : IsGap gap) :
    trim (text ++ gap) = text := by
  have back : (text ++ gap).dropWhile isBlank = text ++ gap ∨ text = [] ∧
      (text ++ gap).dropWhile isBlank = [] := by
    cases text with
    | nil =>
      have all : (gap ++ []).dropWhile isBlank = [] := List.dropWhile_append_of_pos blanks
      rw [List.append_nil] at all
      exact .inr ⟨rfl, all⟩
    | cons c rest => exact .inl (List.dropWhile_cons_of_neg (by simp [begins c rfl]))
  rw [trim, dropWhileEnd]
  rcases back with same | ⟨empty, nothing⟩
  · rw [same, List.reverse_append, List.dropWhile_append_of_pos (by simpa [IsGap] using blanks)]
    rw [← List.head?_reverse] at ends
    cases last : text.reverse with
    | nil => simpa using last.symm
    | cons c rest =>
      rw [last] at ends
      rw [List.dropWhile_cons_of_neg (by simp [ends c rfl]), ← last, List.reverse_reverse]
  · rw [nothing, empty]
    rfl

theorem head?_join_words {pieces : List Text} (proper : ∀ piece ∈ pieces, IsWord piece) :
    ∀ c ∈ (join [' '] pieces).head?, isBlank c = false := by
  cases pieces with
  | nil => simp [join]
  | cons first rest =>
    obtain ⟨nonempty, free⟩ := proper first List.mem_cons_self
    obtain ⟨c, others, rfl⟩ := List.exists_cons_of_ne_nil nonempty
    simpa [join_cons] using free c List.mem_cons_self

theorem getLast?_join_words {pieces : List Text} (proper : ∀ piece ∈ pieces, IsWord piece) :
    ∀ c ∈ (join [' '] pieces).getLast?, isBlank c = false := by
  fun_induction join [' '] pieces with
  | case1 => simp
  | case2 piece =>
    exact fun c last => (proper piece List.mem_cons_self).free c (List.mem_of_getLast? last)
  | case3 piece rest nonempty ih =>
    intro c last
    have later := ih fun other member => proper other (List.mem_cons_of_mem _ member)
    obtain ⟨next, others, rfl⟩ := List.exists_cons_of_ne_nil nonempty
    have present : join [' '] (next :: others) ≠ [] := by
      rw [join_cons]
      exact List.append_ne_nil_of_left_ne_nil (proper next (by simp)).nonempty _
    rw [List.getLast?_append, List.getLast?_eq_some_getLast present, Option.some_or] at last
    rw [List.getLast?_eq_some_getLast present] at later
    exact later c last

structure IsTrimmed (text : Text) : Prop where
  begins : ∀ c ∈ text.head?, isBlank c = false
  ends : ∀ c ∈ text.getLast?, isBlank c = false

theorem trim_of_isTrimmed {text : Text} (trimmed : IsTrimmed text) : trim text = text := by
  have empty : IsGap [] := by simp [IsGap]
  have same := trim_append_gap trimmed.begins trimmed.ends empty
  rwa [List.append_nil] at same

theorem trim_isPrefix (text : Text) : trim text <+: text.dropWhile isBlank := by
  rw [trim, dropWhileEnd, ← List.reverse_suffix, List.reverse_reverse]
  exact List.dropWhile_suffix _

/-- Trimming keeps a stretch of the text. -/
theorem trim_isInfix (text : Text) : trim text <:+: text :=
  (trim_isPrefix text).isInfix.trans (List.dropWhile_suffix _).isInfix

theorem isTrimmed_trim (text : Text) : IsTrimmed (trim text) := by
  have first : ∀ other : Text, ∀ c ∈ (other.dropWhile isBlank).head?, isBlank c = false := by
    intro other c head
    have stop := List.head?_dropWhile_not isBlank other
    rwa [Option.mem_def.mp head] at stop
  constructor
  · intro c head
    obtain ⟨rest, whole⟩ := trim_isPrefix text
    refine first text c ?_
    rw [← whole, List.head?_append, Option.mem_def.mp head]
    rfl
  · intro c last
    rw [trim, dropWhileEnd, List.getLast?_reverse] at last
    exact first _ c last

theorem isTrimmed_normalize (text : Text) : IsTrimmed (normalize text) :=
  ⟨head?_join_words fun _ member => isWord_of_mem_words member,
    getLast?_join_words fun _ member => isWord_of_mem_words member⟩

theorem trim_of_normal {text : Text} (normal : normalize text = text) : trim text = text :=
  trim_of_isTrimmed (normal ▸ isTrimmed_normalize text)

/-- Words with single spaces between them keep no blank that stands behind them. -/
theorem trim_join_append {pieces : List Text} {gap : Text} (proper : ∀ piece ∈ pieces, IsWord piece)
    (blanks : IsGap gap) : trim (join [' '] pieces ++ gap) = join [' '] pieces :=
  trim_append_gap (head?_join_words proper) (getLast?_join_words proper) blanks

theorem isGap_flatMap_empty {others : List Text} (empty : ∀ piece ∈ others, piece = []) :
    IsGap (others.flatMap ([' '] ++ ·)) := by
  intro c inside
  obtain ⟨piece, member, inside⟩ := List.mem_flatMap.mp inside
  obtain rfl : c = ' ' := by simpa [empty piece member] using inside
  rfl

theorem isGap_join_empty {others : List Text} (empty : ∀ piece ∈ others, piece = []) :
    IsGap (join [' '] others) := by
  intro c inside
  rcases mem_join inside with space | ⟨piece, member, inside⟩
  · rw [List.mem_singleton.mp space]
    rfl
  · simp [empty piece member] at inside

/-- Empty pieces behind words leave only blanks. -/
theorem trim_join_empty {pieces others : List Text} (proper : ∀ piece ∈ pieces, IsWord piece)
    (empty : ∀ piece ∈ others, piece = []) :
    trim (join [' '] (pieces ++ others)) = join [' '] pieces := by
  cases pieces with
  | nil =>
    have nothing : trim (join [' '] [] ++ join [' '] others) = join [' '] [] :=
      trim_join_append proper (isGap_join_empty empty)
    exact nothing
  | cons first rest =>
    rw [join_append _ _ _ (List.cons_ne_nil _ _)]
    exact trim_join_append proper (isGap_flatMap_empty empty)

end RecordSearch.Text
