import RecordSearch.Proofs.Text.Chunks
import RecordSearch.Text.CaseMatch

/-! Small forms of parts of a text. Only a capital sigma looks at its neighbours, so a part has its
small form in that of the text where the characters in front of it have no case and no letter with a
case stands behind it. -/
namespace RecordSearch

/-- No letter of any script is a blank. -/
theorem isCased_of_isBlank {c : Char} (blank : isBlank c = true) :
    isCased c = false ∧ isCaseIgnorable c = false :=
  forall_blank (P := fun c => isCased c = false ∧ isCaseIgnorable c = false)
    (by decide +kernel) blank

theorem forall_ascii {P : Char → Prop} (all : ∀ n < 128, P (Char.ofNat n)) {c : Char}
    (ascii : c.toNat < 128) : P c := by
  have here := all c.toNat ascii
  rwa [Char.ofNat_toNat] at here

theorem toUpper_of_not_ascii {c : Char} (beyond : ¬ c.toNat < 128) : c.toUpper = c := by
  have code : c.toNat = c.val.toNat := rfl
  have last : 'z'.val.toNat = 122 := by decide
  refine dif_neg ?_
  rintro ⟨-, upper⟩
  rw [UInt32.le_iff_toNat_le] at upper
  omega

/-- No row of the table of small forms leads to the character. -/
structure IsUnreached (small : Char) : Prop where
  nonzero : small.toNat ≠ 0
  apart : ∀ row ∈ Text.smallFormRows,
    (small.toNat : Int) < row.first + row.shift ∨ row.last + row.shift < small.toNat

instance (small : Char) : Decidable (IsUnreached small) :=
  decidable_of_iff (small.toNat ≠ 0 ∧ ∀ row ∈ Text.smallFormRows,
    (small.toNat : Int) < row.first + row.shift ∨ row.last + row.shift < small.toNat)
    ⟨fun ⟨nonzero, apart⟩ => ⟨nonzero, apart⟩, fun unreached => ⟨unreached.nonzero, unreached.apart⟩⟩

/-- Such a character is the small form of itself and of ASCII characters only. -/
theorem IsUnreached.of_smallForm {c small : Char} (unreached : IsUnreached small)
    (same : smallForm c = small) : c.toNat < 128 ∧ c.toLower = small ∨ c = small := by
  rw [smallForm] at same
  split at same
  · next first => exact .inl ⟨first, same⟩
  · split at same
    · next row found =>
      have covers := List.find?_some found
      simp only [Text.CaseRow.covers, Bool.and_eq_true, decide_eq_true_eq] at covers
      have code : (Char.ofNat (c.toNat + row.shift).toNat).toNat = small.toNat := by rw [same]
      by_cases valid : (c.toNat + row.shift).toNat.isValidChar
      · rw [Char.ofNat, dif_pos valid] at code
        have written : ((c.toNat : Int) + row.shift).toNat = small.toNat := code
        have nonzero := unreached.nonzero
        have apart := unreached.apart row (List.mem_of_find?_eq_some found)
        omega
      · rw [Char.ofNat, dif_neg valid] at code
        exact absurd code.symm unreached.nonzero
    · exact .inr same

theorem IsUnreached.of_smallForm_ascii {c small : Char} (unreached : IsUnreached small)
    (ascii : small.toNat < 128) (same : smallForm c = small) :
    c.toNat < 128 ∧ c.toLower = small := by
  rcases unreached.of_smallForm same with lower | rfl
  · exact lower
  · rw [smallForm, if_pos ascii] at same
    exact ⟨ascii, same⟩

/-- The small form of a character, in some text, can begin so. -/
def IsHead (c small : Char) : Prop := small = caseKey c ∨ c = 'Σ' ∧ small = 'ς'

/-- What the small form of a character has behind its first character. -/
def dotOf (c : Char) : Text := if c = 'İ' then ['\u0307'] else []

theorem IsUnreached.of_isHead {c small : Char} (unreached : IsUnreached small)
    (other : small ≠ 'i' ∧ small ≠ 'ς') (head : IsHead c small) :
    c.toNat < 128 ∧ c.toLower = small ∨ c = small := by
  rcases head with key | ⟨-, final⟩
  · rw [caseKey] at key
    split at key
    · exact absurd key other.1
    · exact unreached.of_smallForm key.symm
  · exact absurd final other.2

namespace Text

/-- The small form of a text begins with that of its first character. -/
theorem exists_lowerAfter_cons (inWord : Bool) (c : Char) (rest : Text) :
    ∃ small other, lowerAfter inWord (c :: rest) = small :: (dotOf c ++ lowerAfter other rest) ∧
      IsHead c small := by
  rw [lowerAfter]
  by_cases sigma : c = 'Σ'
  · subst sigma
    refine ⟨if inWord && !casedFirst rest then 'ς' else 'σ', _, rfl, ?_⟩
    split
    · exact .inr ⟨rfl, rfl⟩
    · exact .inl (by decide +kernel)
  · by_cases dotted : c = 'İ'
    · subst dotted
      exact ⟨'i', _, rfl, .inl (by decide +kernel)⟩
    · refine ⟨smallForm c, _, by simp [sigma, dotted, dotOf]; rfl, .inl ?_⟩
      simp [caseKey, dotted]

/-- Whether what follows a text stands behind a letter of its word. -/
def endsInWord (inWord : Bool) : Text → Bool
  | [] => inWord
  | c :: rest => endsInWord (if isCaseIgnorable c then inWord else isCased c) rest

theorem casedFirst_append {behind : Text} (ends : casedFirst behind = false) (text : Text) :
    casedFirst (text ++ behind) = casedFirst text := by
  induction text with
  | nil => exact ends
  | cons c rest ih => simp only [List.cons_append, casedFirst, ih]

/-- The small form of a text that no letter of its last word follows. -/
theorem lowerAfter_append {behind : Text} (ends : casedFirst behind = false) (inWord : Bool)
    (text : Text) :
    lowerAfter inWord (text ++ behind) =
      lowerAfter inWord text ++ lowerAfter (endsInWord inWord text) behind := by
  induction text generalizing inWord with
  | nil => rfl
  | cons c rest ih =>
    simp only [List.cons_append, lowerAfter, endsInWord, casedFirst_append ends, ih,
      List.append_assoc]

/-- A text has its small form behind any other, depending on the word in which that ends. -/
theorem exists_lowerAfter_append (inWord : Bool) (front text : Text) :
    ∃ start,
      lowerAfter inWord (front ++ text) = start ++ lowerAfter (endsInWord inWord front) text := by
  induction front generalizing inWord with
  | nil => exact ⟨[], rfl⟩
  | cons c rest ih =>
    obtain ⟨start, later⟩ := ih (if isCaseIgnorable c then inWord else isCased c)
    simp only [List.cons_append, lowerAfter, endsInWord, later]
    exact ⟨_, (List.append_assoc ..).symm⟩

def IsCaseless (text : Text) : Prop := ∀ c ∈ text, isCased c = false

theorem IsCaseless.append {text rest : Text} (front : IsCaseless text) (back : IsCaseless rest) :
    IsCaseless (text ++ rest) :=
  List.forall_mem_append.mpr ⟨front, back⟩

theorem IsGap.isCaseless {gap : Text} (blanks : IsGap gap) : IsCaseless gap := by
  intro c inside
  exact (isCased_of_isBlank (blanks c inside)).1

theorem IsCaseless.endsInWord_eq {text : Text} (caseless : IsCaseless text) :
    endsInWord false text = false := by
  induction text with
  | nil => rfl
  | cons c rest ih =>
    have first := caseless c List.mem_cons_self
    have later := ih fun d inside => caseless d (List.mem_cons_of_mem _ inside)
    rw [endsInWord, first, ite_self]
    exact later

theorem IsCaseless.casedFirst_append {text behind : Text} (caseless : IsCaseless text)
    (ends : casedFirst behind = false) : casedFirst (text ++ behind) = false := by
  induction text with
  | nil => exact ends
  | cons c rest ih =>
    have first := caseless c List.mem_cons_self
    have later := ih fun d inside => caseless d (List.mem_cons_of_mem _ inside)
    rw [List.cons_append, casedFirst, first, later, ite_self]

theorem casedFirst_gap {gap : Text} (blanks : IsGap gap) : casedFirst gap = false := by
  have ends := IsCaseless.casedFirst_append blanks.isCaseless (rfl : casedFirst [] = false)
  rwa [List.append_nil] at ends

theorem casedFirst_cons_blank {c : Char} (blank : isBlank c = true) (rest : Text) :
    casedFirst (c :: rest) = false := by
  obtain ⟨caseless, heeded⟩ := isCased_of_isBlank blank
  rw [casedFirst, heeded, caseless]
  rfl

/-- A part is held by the text if the text in front of it has no case and no letter of its word
follows it. -/
theorem holds_between {front behind : Text} (before : IsCaseless front)
    (ends : casedFirst behind = false) (text : Text) :
    holds text (front ++ text ++ behind) = true := by
  rw [holds, occursIn_iff, List.append_assoc, lower]
  obtain ⟨start, later⟩ := exists_lowerAfter_append false front (text ++ behind)
  rw [before.endsInWord_eq, lowerAfter_append ends] at later
  exact ⟨start, _, by rw [lower, later, List.append_assoc]⟩

theorem holds_self (text : Text) : holds text text = true := by
  have none : IsCaseless [] := by simp [IsCaseless]
  have whole := holds_between none (rfl : casedFirst [] = false) text
  rwa [List.nil_append, List.append_nil] at whole

end Text
end RecordSearch
