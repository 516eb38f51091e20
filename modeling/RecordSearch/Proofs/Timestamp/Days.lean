import RecordSearch.Proofs.Timestamp.Written

/-! Texts that write a day and no time of it. Such a text names the first moment of its day. -/
namespace RecordSearch

namespace Date

/-- The days of a year before the end of a month are days of the year. -/
theorem daysBeforeMonth_add_le {year month : Nat} (first : 1 ≤ month) (last : month ≤ 12) :
    daysBeforeMonth year month + daysInMonth year month ≤ if isLeap year then 366 else 365 := by
  have grows (count : Nat) :
      daysBeforeMonth year (month + 1) ≤ daysBeforeMonth year (month + 1 + count) := by
    induction count with
    | zero => exact Nat.le_refl _
    | succ count ih =>
      have next := daysBeforeMonth_succ year (month + 1 + count) (by omega)
      rw [Nat.add_assoc] at next
      omega
  have whole := grows (12 - month)
  rwa [show month + 1 + (12 - month) = 13 by omega, daysBeforeMonth_all,
    daysBeforeMonth_succ _ _ first] at whole

theorem number_lt_of_isValid {date : Date} (valid : date.isValid = true) :
    date.number < 3652059 := by
  obtain ⟨first, last, month, month_last, day, day_last⟩ := (isValid_iff date).mp valid
  have inside := @daysBeforeMonth_add_le date.year _ month month_last
  have ordinary : date.year = 9999 → isLeap date.year = false := by
    intro final
    rw [final]
    rfl
  simp only [number, daysBeforeYear]
  by_cases final : date.year = 9999
  · rw [ordinary final] at inside
    simp only [Bool.false_eq_true, if_false] at inside
    omega
  · have longest : daysBeforeMonth date.year date.month + daysInMonth date.year date.month ≤ 366 :=
      Nat.le_trans inside (by split <;> omega)
    omega

theorem isValid_of_ofWeek? {year week day : Nat} {date : Date}
    (read : ofWeek? year week day = some date) : date.isValid = true := by
  simp only [ofWeek?] at read
  split at read
  · split at read
    · next there =>
      obtain rfl := Option.some.inj read
      exact there.2
    · contradiction
  · contradiction

end Date

namespace Iso

/-- A text, but for blanks around it, writes a day and nothing behind it. -/
structure IsDay (text : Text) (date : Date) : Prop where
  long : 7 ≤ (Text.trim text).length
  whole : (Text.trim text).drop (dateLength (Text.trim text)) = []
  read : date? (Text.trim text) = some date

theorem IsDay.ne_nil {text : Text} {date : Date} (day : IsDay text date) : text ≠ [] := by
  rintro rfl
  exact absurd day.long (by decide)

theorem isValid_of_date? {text : Text} {date : Date} (read : date? text = some date) :
    date.isValid = true := by
  simp only [date?, Option.bind_eq_bind] at read
  grind [Option.bind_eq_some_iff, Date.isValid_of_ofWeek?]

theorem timestamp?_of_isDay {text : Text} {date : Date} (day : IsDay text date) :
    timestamp? (Text.trim text) = Timestamp.of? date ⟨0, 0, 0, 0⟩ none := by
  have front : (Text.trim text).take (dateLength (Text.trim text)) = Text.trim text := by
    have cut := List.take_append_drop (dateLength (Text.trim text)) (Text.trim text)
    rwa [day.whole, List.append_nil] at cut
  rw [timestamp?, if_neg (Nat.not_lt.mpr day.long)]
  simp only [front, day.read, Option.bind_eq_bind, Option.bind_some]
  split
  · rfl
  · next c rest there => exact absurd (day.whole.symm.trans there) (List.cons_ne_nil c rest).symm

end Iso

theorem Timestamp.of?_midnight {date : Date} (valid : date.isValid = true) :
    ∃ moment : Instant, moment.micros = date.number * microsPerDay ∧
      of? date ⟨0, 0, 0, 0⟩ none = some ⟨moment.micros, moment.inYears, none⟩ := by
  have inYears : date.number * microsPerDay < microsOfAllYears := by
    have before := Date.number_lt_of_isValid valid
    simp only [microsOfAllYears, microsPerDay, microsPerSecond]
    omega
  have start : date.number * microsPerDay + Clock.micros ⟨0, 0, 0, 0⟩ =
      date.number * microsPerDay := by
    simp only [Clock.micros, Clock.seconds, Nat.zero_mul, Nat.add_zero]
  have clock : Clock.isValid ⟨0, 0, 0, 0⟩ = true := by decide
  refine ⟨⟨_, inYears⟩, rfl, ?_⟩
  simp only [of?, start, inYears, valid, clock, Bool.and_self, dite_true, if_true]

theorem Instant.toInstant_of_offset_none (moment : Instant) :
    (⟨moment.micros, moment.inYears, none⟩ : Timestamp).toInstant = .ok moment := by
  simp [Timestamp.toInstant, ofMicros?, moment.inYears]

/-- A day alone names its first moment. -/
theorem Instant.ofText?_of_isDay {text : Text} {date : Date} (day : Iso.IsDay text date) :
    ∃ moment, ofText? text = .ok (some moment) ∧ moment.micros = date.number * microsPerDay := by
  obtain ⟨moment, first, made⟩ := Timestamp.of?_midnight (Iso.isValid_of_date? day.read)
  refine ⟨moment, ?_, first⟩
  rw [ofText?, Iso.timestamp?_of_isDay day, made]
  simp only [toInstant_of_offset_none, Except.map]

/-- Every day is written by its year, month and day. -/
theorem Timestamp.isDay_dateText {date : Date} (valid : date.isValid = true) :
    Iso.IsDay (dateText date) date := by
  have length := length_dateText valid
  have trimmed : Text.trim (dateText date) = dateText date := by
    apply Text.trim_of_isTrimmed
    have solid : ∀ c ∈ dateText date, isBlank c = false := by
      intro c inside
      simp only [dateText, List.mem_append, List.mem_cons] at inside
      rcases inside with (year | rfl | month) | rfl | day
      · exact Text.isBlank_of_isDigit ((isNumeral_year valid).figures c year)
      · decide
      · exact Text.isBlank_of_isDigit ((isNumeral_month valid).figures c month)
      · decide
      · exact Text.isBlank_of_isDigit ((isNumeral_day valid).figures c day)
    exact ⟨fun c first => solid c (List.mem_of_head? first),
      fun c last => solid c (List.mem_of_getLast? last)⟩
  have whole : Iso.dateLength (dateText date) = 10 := by
    obtain ⟨m, others, month, noWeek⟩ := exists_cons_month valid
    have year := (isNumeral_year valid).length
    have hyphen : (dateText date)[4]? = some '-' := by simp [dateText, year]
    have behind : (dateText date)[5]? = some m := by
      simp [dateText, List.getElem?_append_right, year, month]
    rw [Iso.dateLength, length, hyphen, behind]
    simp [noWeek]
  constructor
  · rw [trimmed, length]
    decide
  · rw [trimmed, whole]
    exact List.drop_eq_nil_iff.mpr (Nat.le_of_eq length)
  · rw [trimmed]
    exact date?_dateText valid

end RecordSearch
