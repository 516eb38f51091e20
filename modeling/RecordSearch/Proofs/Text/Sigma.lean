import RecordSearch.Proofs.Text.Case

/-! Capital sigmas in a part of a text. A word that the part ends with, or begins with, may go on in
the text around it; then a capital sigma of the part can have one small form in the part alone and
the other one in the text. All other letters have the same small form in both. -/
namespace RecordSearch.Text

variable {front text behind : Text} {inWord other : Bool}

def endsWord (front behind : Text) : Bool := endsInWord false front && !casedFirst behind

/-- The text has marks only that a word goes on behind. -/
def IsSkipped (text : Text) : Prop := ∀ c ∈ text, isCaseIgnorable c = true

instance (text : Text) : Decidable (IsSkipped text) :=
  decidable_of_iff (text.all isCaseIgnorable = true) (by simp [IsSkipped])

/-- Whether a capital sigma between two texts ends a word can depend on what stands around both. -/
def IsOpenSigma (front behind : Text) : Prop :=
  IsSkipped front ∧ casedFirst behind = false ∨ IsSkipped behind ∧ endsInWord false front = true

instance (front behind : Text) : Decidable (IsOpenSigma front behind) :=
  inferInstanceAs (Decidable (_ ∨ _))

/-- No capital sigma of the text is open to what stands around the text. -/
def IsSelfContained (text : Text) : Prop :=
  ∀ front behind, text = front ++ 'Σ' :: behind → ¬ IsOpenSigma front behind

/-- A capital sigma of a part ends a word in the part alone if it does so in the text, and only
then. -/
def ReadsAlike (before part after : Text) : Prop :=
  ∀ front behind, part = front ++ 'Σ' :: behind →
    endsWord (before ++ front) (behind ++ after) = endsWord front behind

theorem endsInWord_append (inWord : Bool) (front text : Text) :
    endsInWord inWord (front ++ text) = endsInWord (endsInWord inWord front) text := by
  induction front generalizing inWord with
  | nil => rfl
  | cons c rest ih => exact ih _

theorem IsSkipped.endsInWord_eq (skipped : IsSkipped text) (inWord : Bool) :
    endsInWord inWord text = inWord := by
  induction text with
  | nil => rfl
  | cons c rest ih =>
    rw [endsInWord, if_pos (skipped c List.mem_cons_self)]
    exact ih fun d inside => skipped d (List.mem_cons_of_mem _ inside)

theorem IsSkipped.casedFirst_eq (skipped : IsSkipped text) (behind : Text) :
    casedFirst (text ++ behind) = casedFirst behind := by
  induction text with
  | nil => rfl
  | cons c rest ih =>
    rw [List.cons_append, casedFirst, if_pos (skipped c List.mem_cons_self)]
    exact ih fun d inside => skipped d (List.mem_cons_of_mem _ inside)

theorem exists_heeded (heeded : ¬ IsSkipped text) :
    ∃ marks c rest, text = marks ++ c :: rest ∧ IsSkipped marks ∧ isCaseIgnorable c = false := by
  induction text with
  | nil => exact absurd (fun c inside => absurd inside List.not_mem_nil) heeded
  | cons c rest ih =>
    cases mark : isCaseIgnorable c with
    | false => exact ⟨[], c, rest, rfl, fun d inside => absurd inside List.not_mem_nil, mark⟩
    | true =>
      have later : ¬ IsSkipped rest :=
        fun skipped => heeded (List.forall_mem_cons.mpr ⟨mark, skipped⟩)
      obtain ⟨marks, d, behind, rfl, skipped, here⟩ := ih later
      exact ⟨c :: marks, d, behind, rfl, List.forall_mem_cons.mpr ⟨mark, skipped⟩, here⟩

theorem endsInWord_congr (heeded : ¬ IsSkipped text) (inWord other : Bool) :
    endsInWord inWord text = endsInWord other text := by
  obtain ⟨marks, c, rest, rfl, skipped, here⟩ := exists_heeded heeded
  simp [endsInWord_append, endsInWord, here]

theorem casedFirst_append_of_heeded (heeded : ¬ IsSkipped text) (behind : Text) :
    casedFirst (text ++ behind) = casedFirst text := by
  obtain ⟨marks, c, rest, rfl, skipped, here⟩ := exists_heeded heeded
  simp [skipped.casedFirst_eq, casedFirst, here]

/-- A self-contained text reads the same wherever it stands. -/
theorem IsSelfContained.readsAlike (contained : IsSelfContained text) (before after : Text) :
    ReadsAlike before text after := by
  intro front behind parts
  have fixed := contained front behind parts
  rw [endsWord, endsWord, endsInWord_append]
  by_cases marks_front : IsSkipped front <;> by_cases marks_behind : IsSkipped behind
  · have ends := marks_behind.casedFirst_eq []
    rw [List.append_nil] at ends
    exact absurd (.inl ⟨marks_front, ends⟩) fixed
  · have goesOn : casedFirst behind = true := by
      by_contra ends
      exact fixed (.inl ⟨marks_front, Bool.eq_false_iff.mpr ends⟩)
    rw [casedFirst_append_of_heeded marks_behind, goesOn, Bool.not_true, Bool.and_false,
      Bool.and_false]
  · have apart : endsInWord false front = false := by
      by_contra inside
      exact fixed (.inr ⟨marks_behind, by simpa using inside⟩)
    rw [endsInWord_congr marks_front _ false, apart, Bool.false_and, Bool.false_and]
  · rw [endsInWord_congr marks_front _ false, casedFirst_append_of_heeded marks_behind]

/-- A text that reads alike in two places has the same small form there. The induction is on the
text: what has been read of it goes over into what it stands behind. -/
theorem lowerAfter_append_of_alike
    (alike : ∀ front rest, text = front ++ 'Σ' :: rest →
      (endsInWord inWord front && !casedFirst (rest ++ behind)) =
        (endsInWord other front && !casedFirst rest)) :
    lowerAfter inWord (text ++ behind) =
      lowerAfter other text ++ lowerAfter (endsInWord inWord text) behind := by
  induction text generalizing inWord other with
  | nil => rfl
  | cons c rest ih =>
    have later :=
      ih fun front rest' parts => alike (c :: front) rest' (by rw [parts, List.cons_append])
    simp only [List.cons_append, lowerAfter, endsInWord, later, List.append_assoc,
      List.append_cancel_right_eq]
    by_cases sigma : c = 'Σ'
    · have here := alike [] rest (by rw [sigma, List.nil_append])
      simp only [endsInWord] at here
      simp only [sigma, BEq.rfl, if_true, here]
    · simp only [beq_iff_eq, sigma, if_false]

/-- A part that reads alike in the text is held by it. -/
theorem holds_of_readsAlike {before after : Text} (alike : ReadsAlike before text after) :
    holds text (before ++ text ++ after) = true := by
  have same : lowerAfter (endsInWord false before) (text ++ after) =
      lower text ++ lowerAfter (endsInWord (endsInWord false before) text) after := by
    refine lowerAfter_append_of_alike fun front rest parts => ?_
    rw [← endsInWord_append]
    exact alike front rest parts
  obtain ⟨start, later⟩ := exists_lowerAfter_append false before (text ++ after)
  rw [holds, occursIn_iff, List.append_assoc, lower, lower, later, same, ← List.append_assoc]
  exact ⟨start, _, rfl⟩

theorem length_lowerAfter (inWord : Bool) (text : Text) :
    (lowerAfter inWord text).length = text.length + text.count 'İ' := by
  induction text generalizing inWord with
  | nil => rfl
  | cons c rest ih =>
    rw [lowerAfter, List.length_append, ih, List.length_cons, List.count_cons]
    by_cases sigma : c = 'Σ'
    · simp [sigma]
      omega
    · by_cases dotted : c = 'İ'
      · simp [dotted]
        omega
      · simp [sigma, dotted]
        omega

theorem eq_nil_of_lowerAfter (empty : lowerAfter inWord text = []) : text = [] := by
  have length := congrArg List.length empty
  rw [length_lowerAfter, List.length_nil] at length
  exact List.length_eq_zero_iff.mp (by omega)

theorem getElem?_lowerAfter_sigma (inWord : Bool) (front behind : Text) :
    (lowerAfter inWord (front ++ 'Σ' :: behind))[front.length + front.count 'İ']? =
      some (if endsInWord inWord front && !casedFirst behind then 'ς' else 'σ') := by
  obtain ⟨start, later⟩ := exists_lowerAfter_append inWord front ('Σ' :: behind)
  have lengths := congrArg List.length later
  simp only [List.length_append, length_lowerAfter, List.count_append] at lengths
  have place : front.length + front.count 'İ' = start.length := by omega
  rw [later, place, List.getElem?_append_right (Nat.le_refl _), Nat.sub_self]
  rfl

theorem not_isHead_of_mark {c : Char} (mark : c = 'Σ' ∨ isCaseIgnorable c = true) :
    ¬ IsHead c 'a' := by
  intro head
  have letters : c.toNat < 128 ∧ c.toLower = 'a' := by
    have unreached : IsUnreached 'a' := by decide +kernel
    rcases unreached.of_isHead (by decide) head with lower | rfl
    · exact lower
    · decide
  rcases mark with rfl | mark
  · exact absurd letters.1 (by decide)
  · have heeded : isCaseIgnorable c = true → c.toLower ≠ 'a' :=
      forall_ascii (P := fun c => isCaseIgnorable c = true → c.toLower ≠ 'a')
        (by decide +kernel) letters.1
    exact heeded mark letters.2

theorem exists_lowerAfter_mark {c : Char} (mark : c = 'Σ' ∨ isCaseIgnorable c = true)
    (inWord : Bool) (rest : Text) :
    ∃ small other, lowerAfter inWord (c :: rest) = small :: lowerAfter other rest ∧
      small ≠ 'a' := by
  obtain ⟨small, other, whole, head⟩ := exists_lowerAfter_cons inWord c rest
  have dotless : c ≠ 'İ' := by
    rintro rfl
    exact absurd mark (by decide +kernel)
  rw [dotOf, if_neg dotless, List.nil_append] at whole
  refine ⟨small, other, whole, ?_⟩
  rintro rfl
  exact not_isHead_of_mark mark head

/-- Behind an `a` a text may read otherwise from its first capital sigma on, if it begins with that
or with marks. -/
theorem holds_cons_of_skipped (skipped : IsSkipped front) (ends : casedFirst behind = false) :
    holds (front ++ 'Σ' :: behind) ('a' :: (front ++ 'Σ' :: behind)) = false := by
  have small : lower ('a' :: (front ++ 'Σ' :: behind)) =
      'a' :: lowerAfter true (front ++ 'Σ' :: behind) := rfl
  rw [holds, small, ← Bool.not_eq_true, occursIn_iff, List.infix_cons_iff, List.prefix_cons_iff]
  rintro ((empty | ⟨rest, first, -⟩) | inside)
  · exact absurd (eq_nil_of_lowerAfter empty) (by simp)
  · -- The small form of the text cannot begin with the letter.
    obtain ⟨c, others, parts, mark⟩ :
        ∃ c others, front ++ 'Σ' :: behind = c :: others ∧
          (c = 'Σ' ∨ isCaseIgnorable c = true) := by
      cases front with
      | nil => exact ⟨_, _, rfl, .inl rfl⟩
      | cons c rest => exact ⟨c, _, rfl, .inr (skipped c List.mem_cons_self)⟩
    obtain ⟨letter, other, begins, different⟩ := exists_lowerAfter_mark mark false others
    rw [parts, lower, begins] at first
    exact different (List.cons.inj first).1
  · -- Behind the letter, where it has the same length, the sigma has another form.
    have same := inside.eq_of_length (by rw [lower, length_lowerAfter, length_lowerAfter])
    have read := getElem?_lowerAfter_sigma false front behind
    rw [← lower, same, getElem?_lowerAfter_sigma, skipped.endsInWord_eq,
      skipped.endsInWord_eq, ends] at read
    exact absurd read (by decide)

theorem notMem_lowerAfter_of_skipped (skipped : IsSkipped behind) (inWord : Bool) :
    'a' ∉ lowerAfter inWord ('Σ' :: behind) := by
  have marks : ∀ c ∈ 'Σ' :: behind, c = 'Σ' ∨ isCaseIgnorable c = true :=
    List.forall_mem_cons.mpr ⟨.inl rfl, fun c inside => .inr (skipped c inside)⟩
  generalize 'Σ' :: behind = text at marks
  induction text generalizing inWord with
  | nil => exact List.not_mem_nil
  | cons c rest ih =>
    obtain ⟨here, later⟩ := List.forall_mem_cons.mp marks
    obtain ⟨small, other, first, different⟩ := exists_lowerAfter_mark here inWord rest
    rw [first, List.mem_cons, not_or]
    exact ⟨different.symm, ih other later⟩

/-- With an `a` behind it a text may read otherwise up to its last capital sigma, if it ends with
that or with marks. -/
theorem holds_concat_of_skipped (skipped : IsSkipped behind)
    (inside : endsInWord false front = true) :
    holds (front ++ 'Σ' :: behind) (front ++ 'Σ' :: behind ++ ['a']) = false := by
  obtain ⟨start, small⟩ := exists_lowerAfter_append false (front ++ 'Σ' :: behind) ['a']
  have letter (inWord : Bool) : lowerAfter inWord ['a'] = ['a'] := by cases inWord <;> decide
  rw [letter] at small
  have lengths := congrArg List.length small
  have none : List.count 'İ' ['a'] = 0 := by decide
  simp only [length_lowerAfter, List.length_append, List.count_append, List.length_singleton,
    none] at lengths
  rw [holds, lower, lower, small, ← Bool.not_eq_true, occursIn_iff, List.infix_concat_iff,
    List.suffix_concat_iff]
  rintro ((empty | ⟨rest, last, -⟩) | whole)
  · exact absurd (eq_nil_of_lowerAfter empty) (by simp)
  · -- The small form of the text cannot end with the letter.
    obtain ⟨before, parts⟩ := exists_lowerAfter_append false front ('Σ' :: behind)
    have ends := congrArg List.getLast? (parts.symm.trans last)
    have solid : lowerAfter (endsInWord false front) ('Σ' :: behind) ≠ [] := by simp [lowerAfter]
    rw [List.getLast?_append, List.getLast?_eq_some_getLast solid, List.getLast?_concat,
      Option.some_or] at ends
    exact notMem_lowerAfter_of_skipped skipped _ (Option.some.inj ends ▸ List.getLast_mem solid)
  · -- In front of the letter, where it has the same length, the sigma has another form.
    have short :
        start.length = (front ++ 'Σ' :: behind).length + (front ++ 'Σ' :: behind).count 'İ' := by
      rw [List.length_append, List.count_append]
      omega
    have same := whole.eq_of_length (by rw [length_lowerAfter, short])
    have alone := getElem?_lowerAfter_sigma false front behind
    have read := getElem?_lowerAfter_sigma false front (behind ++ ['a'])
    have ends := skipped.casedFirst_eq []
    rw [List.append_nil] at ends
    rw [inside, ends] at alone
    have goesOn : casedFirst (behind ++ ['a']) = true := by
      rw [skipped.casedFirst_eq]
      decide
    rw [← List.cons_append, ← List.append_assoc, small, ← same, List.getElem?_append_left, alone,
      inside, goesOn] at read
    · exact absurd read (by decide)
    · exact (List.getElem?_eq_some_iff.mp alone).1

/-- A text is held wherever it stands exactly if no capital sigma of it is open. -/
theorem isSelfContained_iff {text : Text} :
    IsSelfContained text ↔ ∀ whole, text <:+: whole → holds text whole = true := by
  constructor
  · rintro contained whole ⟨before, after, rfl⟩
    exact holds_of_readsAlike (contained.readsAlike before after)
  · rintro held front behind rfl (⟨skipped, ends⟩ | ⟨skipped, inside⟩)
    · have missed := holds_cons_of_skipped skipped ends
      rw [held _ (List.suffix_cons _ _).isInfix] at missed
      cases missed
    · have missed := holds_concat_of_skipped skipped inside
      rw [held _ (List.prefix_append _ _).isInfix] at missed
      cases missed

/-- The last sigma of a word is open, and one inside of it is not. -/
example : IsOpenSigma "ΟΔΥ".toList [] ∧ ¬ IsOpenSigma "ΟΔΥ".toList "ΣΕΥΣ".toList := by
  decide +kernel

end RecordSearch.Text
