import RecordSearch.Proofs.Json.Written

/-! Null characters in a JSON text. No token holds one and none stands between tokens, so that a
text with a null character, such as one whose bytes stop standing for characters, is no JSON text as
a whole. -/
namespace RecordSearch.Json

theorem null_notMem_of_hexNumber? {digits : Text} {n : Nat} (read : hexNumber? digits = some n) :
    '\x00' ∉ digits := by
  have null : hexDigit? '\x00' = none := by decide
  have stays (rest : Text) :
      rest.foldl (fun value c => do return 16 * (← value) + (← hexDigit? c)) none = none := by
    induction rest with
    | nil => rfl
    | cons c rest ih => exact ih
  intro inside
  obtain ⟨before, after, rfl⟩ := List.append_of_mem inside
  rw [hexNumber?, List.foldl_append, List.foldl_cons] at read
  generalize before.foldl _ _ = value at read
  have stopped : (do return 16 * (← value) + (← hexDigit? '\x00') : Option Nat) = none := by
    cases value <;> simp [null]
  rw [stopped, stays] at read
  contradiction

theorem null_notMem_of_stringBody {text content : Text} {count : Nat}
    (read : stringBody text = some (content, count)) : '\x00' ∉ text.take count := by
  fun_induction stringBody text generalizing content count with
  | case1 => contradiction
  | case2 =>
    obtain ⟨-, rfl⟩ := Prod.mk.inj (Option.some.inj read)
    simp
  | case3 a b c d rest pair alone =>
    obtain ⟨n, hex, read⟩ := Option.bind_eq_some_iff.mp read
    have digits := null_notMem_of_hexNumber? hex
    split at read
    · split at read
      · next e f g h more =>
        obtain ⟨low, hex, read⟩ := Option.bind_eq_some_iff.mp read
        have more_digits := null_notMem_of_hexNumber? hex
        split at read
        · obtain ⟨⟨body, size⟩, body_read, read⟩ := Option.bind_eq_some_iff.mp read
          obtain ⟨-, rfl⟩ := Prod.mk.inj (Option.some.inj read)
          have rest := pair body_read
          simp_all
        · contradiction
      · contradiction
    · split at read
      · contradiction
      · obtain ⟨⟨body, size⟩, body_read, read⟩ := Option.bind_eq_some_iff.mp read
        obtain ⟨-, rfl⟩ := Prod.mk.inj (Option.some.inj read)
        have rest := alone body_read
        simp_all
  | case4 c rest _ ih =>
    obtain ⟨escaped, short, read⟩ := Option.bind_eq_some_iff.mp read
    obtain ⟨⟨body, size⟩, body_read, read⟩ := Option.bind_eq_some_iff.mp read
    obtain ⟨-, rfl⟩ := Prod.mk.inj (Option.some.inj read)
    have null : c ≠ '\x00' := by
      rintro rfl
      have none : shortEscape? '\x00' = none := by decide
      simp [none] at short
    simpa [null.symm] using ih body_read
  | case5 => contradiction
  | case6 c rest _ _ _ printed ih =>
    obtain ⟨⟨body, size⟩, body_read, read⟩ := Option.bind_eq_some_iff.mp read
    obtain ⟨-, rfl⟩ := Prod.mk.inj (Option.some.inj read)
    have null : c ≠ '\x00' := by
      rintro rfl
      exact printed (by decide)
    simpa [null.symm] using ih body_read

def IsLeft (text rest : Text) : Prop := ∃ front, text = front ++ rest ∧ '\x00' ∉ front

theorem IsLeft.refl (text : Text) : IsLeft text text := ⟨[], rfl, by simp⟩

theorem IsLeft.cons {c : Char} {text rest : Text} (left : IsLeft text rest) (null : c ≠ '\x00') :
    IsLeft (c :: text) rest := by
  obtain ⟨front, rfl, absent⟩ := left
  exact ⟨c :: front, rfl, by simp [null.symm, absent]⟩

theorem IsLeft.trans {text middle rest : Text} (first : IsLeft text middle)
    (second : IsLeft middle rest) : IsLeft text rest := by
  obtain ⟨front, rfl, absent⟩ := first
  obtain ⟨more, rfl, also⟩ := second
  exact ⟨front ++ more, by simp, by simp [absent, also]⟩

theorem isLeft_digits (text : Text) : IsLeft text (text.dropWhile Char.isDigit) := by
  refine ⟨text.takeWhile Char.isDigit, by simp, fun inside => ?_⟩
  have digit := List.all_eq_true.mp List.all_takeWhile _ inside
  contradiction

theorem isLeft_of_fraction? {text places rest : Text}
    (read : fraction? text = some (places, rest)) : IsLeft text rest := by
  unfold fraction? at read
  split at read
  · next digits =>
    obtain ⟨-, read⟩ := Option.ite_none_left_eq_some.mp read
    obtain ⟨-, rfl⟩ := Prod.mk.inj (Option.some.inj read)
    exact (isLeft_digits digits).cons (by decide)
  · obtain ⟨-, rfl⟩ := Prod.mk.inj (Option.some.inj read)
    exact .refl _

theorem isLeft_of_exponent? {text rest : Text} {exponent : Option Int}
    (read : exponent? text = some (exponent, rest)) : IsLeft text rest := by
  unfold exponent? at read
  split at read
  · next c signed =>
    split at read
    · next letter =>
      have null : c ≠ '\x00' := by
        rintro rfl
        contradiction
      apply IsLeft.cons _ null
      obtain ⟨-, read⟩ := Option.ite_none_left_eq_some.mp read
      obtain ⟨-, rfl⟩ := Prod.mk.inj (Option.some.inj read)
      split
      · exact (isLeft_digits _).cons (by decide)
      · exact (isLeft_digits _).cons (by decide)
      · exact isLeft_digits _
    · obtain ⟨-, rfl⟩ := Prod.mk.inj (Option.some.inj read)
      exact .refl _
  · obtain ⟨-, rfl⟩ := Prod.mk.inj (Option.some.inj read)
    exact .refl _

theorem isLeft_of_number? {text rest : Text} {number : Number}
    (read : number? text = some (number, rest)) : IsLeft text rest := by
  unfold number? at read
  obtain ⟨-, read⟩ := Option.ite_none_left_eq_some.mp read
  obtain ⟨⟨places, behind⟩, fraction, read⟩ := Option.bind_eq_some_iff.mp read
  obtain ⟨⟨exponent, left⟩, power, read⟩ := Option.bind_eq_some_iff.mp read
  obtain ⟨-, rfl⟩ := Prod.mk.inj (Option.some.inj read)
  have later := (isLeft_of_fraction? fraction).trans (isLeft_of_exponent? power)
  split at later
  · exact ((isLeft_digits _).trans later).cons (by decide)
  · exact (isLeft_digits _).trans later

theorem Token.first_null (rest : Text) : (Token.first ('\x00' :: rest)).1 = .malformed := rfl

theorem Token.null_notMem_first {text : Text} {token : Token} {count : Nat}
    (read : Token.first text = (token, count)) (proper : token ≠ .malformed) :
    '\x00' ∉ text.take count := by
  unfold Token.first at read
  split at read
  case h_8 rest =>
    split at read
    · next content size body =>
      obtain ⟨-, rfl⟩ := Prod.mk.inj read
      simpa using null_notMem_of_stringBody body
    · exact absurd (Prod.mk.inj read).1.symm proper
  case h_12 =>
    split at read
    · next number rest numeral =>
      obtain ⟨front, rfl, absent⟩ := isLeft_of_number? numeral
      obtain ⟨-, rfl⟩ := Prod.mk.inj read
      simpa using absent
    · exact absurd (Prod.mk.inj read).1.symm proper
  all_goals
    obtain ⟨-, rfl⟩ := Prod.mk.inj read
    simp

/-- No token holds a null character, so that the text stops being JSON there at the latest. -/
theorem Token.malformed_mem_scanAfter {skip : Nat} {text : Text} (null : '\x00' ∈ text.drop skip) :
    Token.malformed ∈ scanAfter skip text := by
  induction text generalizing skip with
  | nil => simp at null
  | cons c rest ih =>
    cases skip with
    | succ skip => exact ih null
    | zero =>
      rw [scanAfter]
      split
      · next space =>
        rcases List.mem_cons.mp null with rfl | later
        · contradiction
        · exact ih later
      · split
        · exact List.mem_singleton_self _
        next token count proper read =>
          apply List.mem_cons_of_mem
          apply ih
          have absent := null_notMem_first read proper
          have letter : c ≠ '\x00' := by
            rintro rfl
            exact proper ((congrArg Prod.fst read).symm.trans (first_null rest))
          cases count with
          | zero => simpa [letter.symm] using null
          | succ count =>
            have somewhere :
                '\x00' ∈ (c :: rest).take (count + 1) ++ (c :: rest).drop (count + 1) := by
              rwa [List.take_append_drop]
            exact (List.mem_append.mp somewhere).resolve_left absent

namespace Progress

theorem foldl_broken (tokens : List Token) (document : Document) :
    tokens.foldl step (.broken document) = .broken document := by
  induction tokens with
  | nil => rfl
  | cons token rest ih => exact ih

theorem step_malformed (progress : Progress) :
    ∃ document, step progress .malformed = .broken document := by
  cases progress with
  | reading frames expected =>
    cases expected with
    | commaOrClose =>
      cases frames with
      | nil => exact ⟨_, rfl⟩
      | cons frame outer => cases frame <;> exact ⟨_, rfl⟩
    | _ => exact ⟨_, rfl⟩
  | finished document => exact ⟨_, rfl⟩
  | broken document => exact ⟨_, rfl⟩

end Progress

theorem read_of_null {text : Text} (null : '\x00' ∈ text) : (read text).2 = false := by
  have stops : Token.malformed ∈ Token.scan text := Token.malformed_mem_scanAfter null
  obtain ⟨before, after, cut⟩ := List.append_of_mem stops
  rw [read, cut, List.foldl_append, List.foldl_cons]
  obtain ⟨document, stopped⟩ :=
    Progress.step_malformed (before.foldl Progress.step (.reading [] .value))
  rw [stopped, Progress.foldl_broken]
  rfl

end RecordSearch.Json
