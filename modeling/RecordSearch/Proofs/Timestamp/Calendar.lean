import RecordSearch.Timestamp.Basic

/-! Every day has one date and every time of a day one reading of the clock: numbering the date of a
day gives the day back, and so do the microseconds of a clock. -/
namespace RecordSearch

namespace Date

theorem isValid_iff (date : Date) : date.isValid = true ↔
    1 ≤ date.year ∧ date.year ≤ 9999 ∧ 1 ≤ date.month ∧ date.month ≤ 12 ∧ 1 ≤ date.day ∧
      date.day ≤ daysInMonth date.year date.month := by
  simp [isValid, and_assoc]

theorem daysBeforeMonth_succ (year month : Nat) (counted : 1 ≤ month) :
    daysBeforeMonth year (month + 1) = daysBeforeMonth year month + daysInMonth year month := by
  obtain ⟨before, rfl⟩ := Nat.exists_eq_add_of_le' counted
  have sum (days : List Nat) (last : Nat) :
      (days ++ [last]).foldr (· + ·) 0 = days.foldr (· + ·) 0 + last := by
    induction days with
    | nil => simp
    | cons day days ih => simp only [List.cons_append, List.foldr_cons, ih]; omega
  simp only [daysBeforeMonth, Nat.add_sub_cancel, List.range_succ, List.map_append, List.map_cons,
    List.map_nil, sum]

theorem daysBeforeMonth_all (year : Nat) :
    daysBeforeMonth year 13 = if isLeap year then 366 else 365 := by
  cases leap : isLeap year <;> simp [daysBeforeMonth, daysInMonth, leap, List.range_succ]

/-- Looking at month after month keeps the day that is looked for, and stops in the month that holds
it. -/
theorem monthOf_spec (year count month rest : Nat) (counted : 1 ≤ month) :
    let found := monthOf year count month rest
    daysBeforeMonth year found.1 + found.2 = daysBeforeMonth year month + rest ∧
      month ≤ found.1 ∧ found.1 ≤ month + count ∧
      (daysBeforeMonth year month + rest < daysBeforeMonth year (month + count + 1) →
        found.2 < daysInMonth year found.1) := by
  induction count generalizing month rest with
  | zero =>
    have next := daysBeforeMonth_succ year month counted
    refine ⟨rfl, Nat.le_refl _, Nat.le_refl _, fun within => ?_⟩
    rw [Nat.add_zero, next] at within
    exact Nat.lt_of_add_lt_add_left within
  | succ count ih =>
    simp only [monthOf]
    split
    · next here => exact ⟨rfl, by simp, by simp, fun _ => here⟩
    · next behind =>
      have next := daysBeforeMonth_succ year month counted
      obtain ⟨same, first, last, inside⟩ :=
        ih (month + 1) (rest - daysInMonth year month) (by omega)
      refine ⟨by omega, by omega, by omega, fun within => inside ?_⟩
      rw [show month + 1 + count + 1 = month + (count + 1) + 1 by omega]
      omega

/-- The cycles of years have fixed lengths but for their last year, which may be longer by its leap
day. -/
theorem yearOf_spec (number : Nat) :
    daysBeforeYear (yearOf number).1 + (yearOf number).2 = number ∧ 1 ≤ (yearOf number).1 ∧
      (yearOf number).2 < (if isLeap (yearOf number).1 then 366 else 365) ∧
      (number < 3652059 → (yearOf number).1 ≤ 9999) := by
  simp only [yearOf, daysBeforeYear, isLeap, Bool.and_eq_true, Bool.or_eq_true,
    beq_iff_eq, bne_iff_ne]
  generalize cycles : number / 146097 = n400
  generalize of400 : number % 146097 = r400
  generalize centuries : min 3 (r400 / 36524) = n100
  generalize of100 : r400 - 36524 * n100 = r100
  generalize fours : r100 / 1461 = n4
  generalize of4 : r100 % 1461 = r4
  generalize ones : min 3 (r4 / 365) = n1
  have few : n100 ≤ 3 ∧ n4 ≤ 24 ∧ n1 ≤ 3 := by omega
  have by4 : (400 * n400 + 100 * n100 + 4 * n4 + n1 + 1 - 1) / 4 = 100 * n400 + 25 * n100 + n4 := by
    omega
  have by100 : (400 * n400 + 100 * n100 + 4 * n4 + n1 + 1 - 1) / 100 = 4 * n400 + n100 := by omega
  have by400 : (400 * n400 + 100 * n100 + 4 * n4 + n1 + 1 - 1) / 400 = n400 := by omega
  have parts : number = 146097 * n400 + r400 ∧ r400 = 36524 * n100 + r100 ∧ r100 = 1461 * n4 + r4 ∧
      365 * n1 ≤ r4 := by
    omega
  rw [by4, by100, by400]
  refine ⟨?_, by omega, ?_, by omega⟩
  · clear cycles of400 centuries of100 fours of4 ones by4 by100 by400
    omega
  · split <;> omega

theorem number_ofNumber (number : Nat) : (ofNumber number).number = number := by
  obtain ⟨whole, -, inside, -⟩ := yearOf_spec number
  obtain ⟨same, -, -, -⟩ := monthOf_spec (yearOf number).1 11 1 (yearOf number).2 (by omega)
  have first : daysBeforeMonth (yearOf number).1 1 = 0 := rfl
  simp only [ofNumber, Date.number, Nat.add_sub_cancel]
  omega

theorem isValid_ofNumber {number : Nat} (inYears : number < 3652059) :
    (ofNumber number).isValid = true := by
  obtain ⟨-, positive, inside, last⟩ := yearOf_spec number
  have year := last inYears
  obtain ⟨same, firstMonth, lastMonth, day⟩ :=
    monthOf_spec (yearOf number).1 11 1 (yearOf number).2 (by omega)
  have first : daysBeforeMonth (yearOf number).1 1 = 0 := rfl
  have held := day (by rw [daysBeforeMonth_all]; omega)
  rw [isValid_iff]
  simp only [ofNumber]
  omega

end Date

namespace Clock

theorem isValid_iff (clock : Clock) : clock.isValid = true ↔
    clock.hour < 24 ∧ clock.minute < 60 ∧ clock.second < 60 ∧ clock.micro < 1000000 := by
  simp [isValid, and_assoc]

theorem micros_ofMicros (micros : Nat) : (ofMicros micros).micros = micros := by
  simp only [Clock.micros, ofMicros, seconds, microsPerSecond]
  omega

theorem isValid_ofMicros {micros : Nat} (within : micros < microsPerDay) :
    (ofMicros micros).isValid = true := by
  simp only [microsPerDay, microsPerSecond] at within
  rw [isValid_iff]
  simp only [ofMicros, microsPerSecond]
  omega

end Clock

namespace Timestamp

theorem isValid_date (timestamp : Timestamp) : timestamp.date.isValid = true := by
  have inYears := timestamp.inYears
  apply Date.isValid_ofNumber
  simp only [microsOfAllYears] at inYears
  exact Nat.div_lt_of_lt_mul (by rwa [Nat.mul_comm])

theorem isValid_clock (timestamp : Timestamp) : timestamp.clock.isValid = true :=
  Clock.isValid_ofMicros (Nat.mod_lt _ (by decide))

/-- A timestamp is what its date, its time of day and its offset make up. -/
theorem of?_date_clock (timestamp : Timestamp) (offset : Option Int) :
    of? timestamp.date timestamp.clock offset = some { timestamp with offset } := by
  have whole : timestamp.date.number * microsPerDay + timestamp.clock.micros =
      timestamp.micros := by
    rw [date, clock, Date.number_ofNumber, Clock.micros_ofMicros, Nat.mul_comm, Nat.div_add_mod]
  simp [of?, whole, timestamp.inYears, isValid_date, isValid_clock]

end Timestamp
end RecordSearch
