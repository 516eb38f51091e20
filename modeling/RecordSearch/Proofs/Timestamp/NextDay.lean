import RecordSearch.Proofs.Timestamp.Days

/-! The day after a day, over the ends of months and years. The moments of a day are those from its
beginning up to the beginning of the next. -/
namespace RecordSearch

namespace Date

def last : Date := ⟨9999, 12, 31⟩

def next (date : Date) : Date :=
  if date.day < daysInMonth date.year date.month then { date with day := date.day + 1 }
  else if date.month < 12 then ⟨date.year, date.month + 1, 1⟩
  else ⟨date.year + 1, 1, 1⟩

variable {date : Date}

theorem daysBeforeYear_succ {year : Nat} (counted : 1 ≤ year) :
    daysBeforeYear (year + 1) = daysBeforeYear year + if isLeap year then 366 else 365 := by
  obtain ⟨before, rfl⟩ := Nat.exists_eq_add_of_le' counted
  simp only [daysBeforeYear, isLeap, Bool.and_eq_true, Bool.or_eq_true, beq_iff_eq, bne_iff_ne,
    Nat.add_sub_cancel]
  by_cases fourth : (before + 1) % 4 = 0
  · by_cases century : (before + 1) % 100 = 0
    · by_cases cycle : (before + 1) % 400 = 0
      · rw [if_pos ⟨fourth, .inr cycle⟩]
        omega
      · rw [if_neg fun leap => leap.2.elim (· century) cycle]
        omega
    · rw [if_pos ⟨fourth, .inl century⟩]
      omega
  · have same : (before + 1) / 4 = before / 4 ∧ (before + 1) / 100 = before / 100 ∧
        (before + 1) / 400 = before / 400 := by
      omega
    have less : before / 100 ≤ before / 4 := Nat.div_le_div_left (by decide) (by decide)
    rw [if_neg fun leap => fourth leap.1, same.1, same.2.1, same.2.2]
    omega

theorem number_next (valid : date.isValid = true) : date.next.number = date.number + 1 := by
  obtain ⟨year, month, day⟩ := date
  obtain ⟨year_first, -, month_first, month_last, day_first, day_last⟩ := (isValid_iff _).mp valid
  simp only at year_first month_first month_last day_first day_last
  have whole := daysBeforeMonth_succ year month month_first
  simp only [next]
  split
  · simp only [number]
    omega
  next full =>
    -- The day is the last of its month.
    obtain rfl : day = daysInMonth year month := by omega
    split
    · simp only [number, whole]
      omega
    next december =>
      obtain rfl : month = 12 := by omega
      have first : daysBeforeMonth (year + 1) 1 = 0 := rfl
      rw [daysBeforeMonth_all] at whole
      simp only [number, daysBeforeYear_succ year_first, whole, first]
      omega

theorem isValid_next (valid : date.isValid = true) (early : date ≠ last) :
    date.next.isValid = true := by
  obtain ⟨year, month, day⟩ := date
  obtain ⟨year_first, year_last, month_first, month_last, day_first, day_last⟩ :=
    (isValid_iff _).mp valid
  simp only at year_first year_last month_first month_last day_first day_last
  have long (year month : Nat) : 1 ≤ daysInMonth year month := by
    rw [daysInMonth]
    repeat' split
    all_goals decide
  simp only [next]
  split
  · next more =>
      exact (isValid_iff _).mpr ⟨year_first, year_last, month_first, month_last,
          Nat.succ_pos _, more⟩
  next full =>
    split
    · next more =>
        exact (isValid_iff _).mpr ⟨year_first, year_last, Nat.succ_pos _, more,
            Nat.le_refl _, long _ _⟩
    next december =>
      obtain rfl : month = 12 := by omega
      have days : daysInMonth year 12 = 31 := rfl
      have more : year ≠ 9999 := by
        rintro rfl
        exact early (by rw [last, show day = 31 by omega])
      have inYears : year + 1 ≤ 9999 := by omega
      exact (isValid_iff _).mpr ⟨Nat.succ_pos _, inYears, Nat.le_refl 1, Nat.le_of_ble_eq_true rfl,
          Nat.le_refl _, long _ _⟩

end Date

namespace Instant

def IsStartOf (date : Date) (moment : Instant) : Prop := moment.micros = date.number * microsPerDay

instance (date : Date) (moment : Instant) : Decidable (moment.IsStartOf date) :=
  inferInstanceAs (Decidable (_ = _))

theorem IsStartOf.unique {date : Date} {moment other : Instant} (starts : moment.IsStartOf date)
    (other_starts : other.IsStartOf date) : moment = other := by
  cases moment
  cases other
  congr 1
  exact Eq.trans starts other_starts.symm

theorem isValid_date (moment : Instant) : moment.date.isValid = true :=
  Timestamp.isValid_date moment.toTimestamp

theorem number_date (moment : Instant) : moment.date.number = moment.day := Date.number_ofNumber _

theorem date_eq_iff {moment other : Instant} :
    moment.date = other.date ↔ moment.day = other.day := by
  constructor
  · intro same
    rw [← number_date, ← number_date, same]
  · intro same
    rw [date, date, same]

/-- Every day has a first moment, and a clock that shows universal time writes it. -/
theorem exists_isStartOf {date : Date} (valid : date.isValid = true) :
    ∃ moment : Instant,
      moment.IsStartOf date ∧ ofText? moment.toTimestamp.toText = .ok (some moment) := by
  obtain ⟨moment, start, -⟩ := Timestamp.of?_midnight valid
  refine ⟨moment, start, ?_⟩
  rw [ofText?_toText (by simp [toTimestamp, microsPerDay, microsPerSecond])]
  simp [toTimestamp, Timestamp.readOffset, Timestamp.toInstant, ofMicros?,
    moment.inYears, Except.map]

/-- A moment belongs to a day if it is not before the beginning of the day and before that of the
next. -/
theorem date_eq_iff_between {moment target start stop : Instant}
    (starts : start.IsStartOf target.date) (stops : stop.IsStartOf target.date.next) :
    moment.date = target.date ↔ start.micros ≤ moment.micros ∧ moment.micros < stop.micros := by
  rw [date_eq_iff, starts, stops, Date.number_next (isValid_date target), number_date]
  simp only [day, microsPerDay, microsPerSecond]
  omega

end Instant
end RecordSearch
