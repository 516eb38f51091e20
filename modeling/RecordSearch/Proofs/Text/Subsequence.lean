import Mathlib.Algebra.Order.Ring.Rat
import Mathlib.Data.List.Forall2
import Mathlib.Order.Lattice.Nat
import Mathlib.Tactic.FieldSimp
import Mathlib.Tactic.Linarith
import Mathlib.Tactic.Ring
import RecordSearch.Text.Likeness

/-! Sequences of characters that two texts share. The table that the likeness is read from has in
each row the greatest lengths of such a sequence for one end of the first text and every end of the
second. Texts that one slip of the keyboard tells apart share all of their characters but one. -/
namespace RecordSearch.Text

/-- The lengths of the texts that can be read off both texts from left to right. -/
def sharedLengths (text other : Text) : Set Nat :=
  {length | ∃ shared : Text, shared.Sublist text ∧ shared.Sublist other ∧ shared.length = length}

variable {text other : Text} {c d : Char} {m n : Nat}

theorem mem_sharedLengths_nil_left : n ∈ sharedLengths [] other ↔ n = 0 := by
  constructor
  · rintro ⟨shared, sub, -, rfl⟩
    simp [List.sublist_nil.mp sub]
  · rintro rfl
    exact ⟨[], List.Sublist.refl _, List.nil_sublist _, rfl⟩

theorem sharedLengths_comm (text other : Text) :
    sharedLengths text other = sharedLengths other text := by
  ext length
  constructor
  · rintro ⟨shared, first, second, size⟩
    exact ⟨shared, second, first, size⟩
  · rintro ⟨shared, first, second, size⟩
    exact ⟨shared, second, first, size⟩

theorem isGreatest_nil_left : IsGreatest (sharedLengths [] other) 0 :=
  ⟨mem_sharedLengths_nil_left.mpr rfl, fun _ member => (mem_sharedLengths_nil_left.mp member).le⟩

theorem isGreatest_nil_right : IsGreatest (sharedLengths text []) 0 := by
  rw [sharedLengths_comm]
  exact isGreatest_nil_left

/-- A shared sequence loses at most its first character with the first characters of the texts. -/
theorem isGreatest_cons_same (greatest : IsGreatest (sharedLengths text other) n) :
    IsGreatest (sharedLengths (c :: text) (c :: other)) (n + 1) := by
  obtain ⟨⟨shared, first, second, rfl⟩, bound⟩ := greatest
  refine ⟨⟨c :: shared, first.cons_cons c, second.cons_cons c, rfl⟩, ?_⟩
  rintro _ ⟨longer, first, second, rfl⟩
  have tails : longer.tail.length ∈ sharedLengths text other :=
    ⟨longer.tail, first.tail, second.tail, rfl⟩
  have := bound tails
  rw [List.length_tail] at this
  omega

theorem sublist_of_head_ne {shared : Text} (sub : shared.Sublist (c :: text))
    (head : shared.head? ≠ some c) : shared.Sublist text := by
  cases sub with
  | cons _ rest => exact rest
  | cons_cons _ rest => simp at head

/-- Where the first characters differ, a shared sequence leaves one of them out. -/
theorem isGreatest_cons_ne (differ : c ≠ d) (first : IsGreatest (sharedLengths text (d :: other)) m)
    (second : IsGreatest (sharedLengths (c :: text) other) n) :
    IsGreatest (sharedLengths (c :: text) (d :: other)) (max m n) := by
  constructor
  · rcases max_choice m n with left | right
    · obtain ⟨shared, sub, other_sub, size⟩ := first.1
      exact ⟨shared, sub.cons c, other_sub, size.trans left.symm⟩
    · obtain ⟨shared, sub, other_sub, size⟩ := second.1
      exact ⟨shared, sub, other_sub.cons d, size.trans right.symm⟩
  · rintro _ ⟨shared, sub, other_sub, rfl⟩
    by_cases begins : shared.head? = some c
    · have rest : shared.Sublist other :=
        sublist_of_head_ne other_sub (by simpa [begins] using differ)
      exact le_max_of_le_right (second.2 ⟨shared, sub, rest, rfl⟩)
    · exact le_max_of_le_left (first.2 ⟨shared, sublist_of_head_ne sub begins, other_sub, rfl⟩)

/-- A row of the table: for each end of `other`, longest first, the greatest length shared with the
text. -/
def IsRow (text other : Text) (row : List Nat) : Prop :=
  List.Forall₂ (fun rest length => IsGreatest (sharedLengths text rest) length) other.tails row

theorem isRow_nil (other : Text) : IsRow [] other (List.replicate (other.length + 1) 0) := by
  induction other with
  | nil => simpa [IsRow] using isGreatest_nil_left
  | cons d other ih => simpa [IsRow, List.replicate_succ] using And.intro isGreatest_nil_left ih

theorem IsRow.headD {row : List Nat} (isRow : IsRow text other row) :
    IsGreatest (sharedLengths text other) (row.headD 0) := by
  obtain ⟨ends, cut⟩ : ∃ ends, other.tails = other :: ends := by cases other <;> exact ⟨_, rfl⟩
  rw [IsRow, cut, List.forall₂_cons_left_iff] at isRow
  obtain ⟨length, _, greatest, -, rfl⟩ := isRow
  exact greatest

theorem IsRow.commonStep {row : List Nat} (isRow : IsRow text other row) :
    IsRow (c :: text) other (commonStep c other row) := by
  induction other generalizing row with
  | nil => simpa [IsRow, Text.commonStep] using isGreatest_nil_right
  | cons d other ih =>
    rw [IsRow, List.tails, List.forall₂_cons_left_iff] at isRow
    obtain ⟨whole, rest, greatest, isRest, rfl⟩ := isRow
    have here : IsGreatest (sharedLengths text other) (rest.headD 0) := IsRow.headD isRest
    have later := ih isRest
    rw [IsRow, List.tails, Text.commonStep]
    refine .cons ?_ later
    by_cases same : c = d
    · subst same
      simpa using isGreatest_cons_same here
    · simpa [same] using isGreatest_cons_ne same greatest later.headD

theorem isRow_commonLengths (text other : Text) : IsRow text other (commonLengths other text) := by
  induction text with
  | nil => exact isRow_nil other
  | cons c rest ih => exact ih.commonStep

/-- The number of common characters is the greatest length of a text that can be read off both. -/
theorem isGreatest_commonLength (text other : Text) :
    IsGreatest (sharedLengths text other) (commonLength text other) :=
  (isRow_commonLengths text other).headD

/-- The ratio of two texts, from 0 to 100: what is left when the characters that are to be left out
and put in on the way from one to the other, through a longest shared sequence, are taken off in
proportion to all characters. -/
noncomputable def ratio (text other : Text) : ℚ :=
  100 * (1 - (text.length + other.length - 2 * (sSup (sharedLengths text other) : ℕ)) /
      (text.length + other.length))

theorem ratio_eq (nonempty : other ≠ []) :
    ratio text other = 100 * (text.likeness other).common / (text.likeness other).total := by
  have size : (0 : ℚ) < text.length + other.length := by
    have := List.length_pos_iff.mpr nonempty
    positivity
  rw [ratio, (isGreatest_commonLength text other).csSup_eq, likeness]
  push_cast
  field_simp
  ring

variable {third : Text}

theorem total_pos (nonempty : other ≠ []) : (0 : ℚ) < (text.likeness other).total := by
  have := List.length_pos_iff.mpr nonempty
  rw [likeness]
  positivity

theorem exceeds_iff (text : Text) (nonempty : other ≠ []) (third_nonempty : third ≠ []) :
    (text.likeness other).exceeds (text.likeness third) = true ↔
      ratio text third < ratio text other := by
  rw [ratio_eq nonempty, ratio_eq third_nonempty,
    div_lt_div_iff₀ (total_pos third_nonempty) (total_pos nonempty), Likeness.exceeds,
    decide_eq_true_eq, ← Nat.cast_lt (α := ℚ)]
  push_cast
  exact ⟨fun lt => by linarith, fun lt => by linarith⟩

theorem reaches_iff (text : Text) (nonempty : other ≠ []) (tenths : Nat) :
    (text.likeness other).reaches tenths = true ↔ 10 * (tenths : ℚ) ≤ ratio text other := by
  rw [ratio_eq nonempty, le_div_iff₀ (total_pos nonempty), Likeness.reaches, decide_eq_true_eq,
    ← Nat.cast_le (α := ℚ)]
  push_cast
  exact ⟨fun le => by linarith, fun le => by linarith⟩

/-- A word as it is typed with at most one slip: a character put in, left out or replaced, or two
neighbours that change places. -/
inductive IsTyped : Text → Text → Prop
  | exact (word : Text) : IsTyped word word
  | insert (before after : Text) (c : Char) : IsTyped (before ++ after) (before ++ c :: after)
  | drop (before after : Text) (c : Char) : IsTyped (before ++ c :: after) (before ++ after)
  | replace (before after : Text)
      (c d : Char) : IsTyped (before ++ c :: after) (before ++ d :: after)
  | swap (before after : Text)
      (c d : Char) : IsTyped (before ++ c :: d :: after) (before ++ d :: c :: after)

/-- One slip leaves all characters but one in common. -/
theorem IsTyped.exists_shared {word typed : Text} (slip : IsTyped word typed) :
    ∃ shared : Text, shared.Sublist typed ∧ shared.Sublist word ∧ typed.length ≤ shared.length + 1 ∧
      word.length ≤ shared.length + 1 := by
  cases slip with
  | exact => exact ⟨word, .refl _, .refl _, by omega, by omega⟩
  | insert before after c =>
    have sub : (before ++ after).Sublist (before ++ c :: after) :=
      (List.sublist_cons_self c after).append_left before
    exact ⟨before ++ after, sub, .refl _, by simp; omega, by omega⟩
  | drop before after c =>
    have sub : (before ++ after).Sublist (before ++ c :: after) :=
      (List.sublist_cons_self c after).append_left before
    exact ⟨before ++ after, .refl _, sub, by omega, by simp; omega⟩
  | replace before after c d =>
    have sub (c : Char) : (before ++ after).Sublist (before ++ c :: after) :=
      (List.sublist_cons_self c after).append_left before
    exact ⟨before ++ after, sub d, sub c, by simp; omega, by simp; omega⟩
  | swap before after c d =>
    have front : (before ++ c :: after).Sublist (before ++ d :: c :: after) :=
      (List.sublist_cons_self d _).append_left before
    have back : (before ++ c :: after).Sublist (before ++ c :: d :: after) :=
      ((List.sublist_cons_self d after).cons_cons c).append_left before
    exact ⟨before ++ c :: after, front, back, by simp; omega, by simp; omega⟩

/-- A word of four characters or more is recognized behind a slip. -/
theorem IsTyped.reaches {word typed : Text} (slip : IsTyped word typed) (long : 4 ≤ word.length) :
    (typed.likeness word).reaches 7 = true := by
  obtain ⟨shared, sub, word_sub, typed_size, word_size⟩ := slip.exists_shared
  have common : shared.length ≤ commonLength typed word :=
    (isGreatest_commonLength typed word).2 ⟨shared, sub, word_sub, rfl⟩
  rw [Likeness.reaches, likeness, decide_eq_true_eq]
  dsimp only
  omega

end RecordSearch.Text
