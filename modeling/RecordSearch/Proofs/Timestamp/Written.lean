import Mathlib.Algebra.Group.Nat.Defs
import RecordSearch.Proofs.Text.Words
import RecordSearch.Proofs.Timestamp.Calendar
import RecordSearch.Timestamp.Iso

/-! A timestamp is read back from the text that is written for it, but for an offset of less than a
second, which is read as none at all. The parts of the text have fixed widths, so each is read up to
the character behind it. -/
namespace RecordSearch

namespace Text

structure IsNumeral (text : Text) (width value : Nat) : Prop where
  length : text.length = width
  figures : ∀ c ∈ text, c.isDigit = true
  value : Nat.ofDigitChars 10 text 0 = value

theorem digit?_of_isDigit {c : Char} (figure : c.isDigit = true) :
    digit? c = some (c.toNat - '0'.toNat) := by
  simp only [Char.isDigit, Bool.and_eq_true, decide_eq_true_eq] at figure
  exact if_pos ⟨Char.le_def.mpr figure.1, Char.le_def.mpr figure.2⟩

theorem isBlank_of_isDigit {c : Char} (figure : c.isDigit = true) : isBlank c = false := by
  have low : 48 ≤ c.toNat ∧ c.toNat ≤ 57 := by
    simpa [Char.isDigit, UInt32.le_iff_toNat_le] using figure
  simp only [isBlank, Bool.or_eq_false_iff, Bool.and_eq_false_iff, decide_eq_false_iff_not,
    beq_eq_false_iff_ne]
  omega

theorem isNumeral_digits {width value : Nat} (positive : 0 < width) (fits : value < 10 ^ width) :
    (Timestamp.digits width value).IsNumeral width value := by
  have short : (Nat.toDigits 10 value).length ≤ width :=
    (Nat.length_toDigits_le_iff (by decide) positive).mpr fits
  simp only [Timestamp.digits, padLeft, ofNat]
  constructor
  · rw [List.length_append, List.length_replicate]
    omega
  · intro c inside
    rcases List.mem_append.mp inside with fill | figure
    · obtain rfl := List.eq_of_mem_replicate fill
      decide
    · exact Nat.isDigit_of_mem_toDigits (by decide) (by decide) figure
  · rw [Nat.ofDigitChars_append, Nat.ofDigitChars_replicate_zero, Nat.mul_zero,
      Nat.ofDigitChars_ten_toDigits]

theorem number?_append {text : Text} (figures : ∀ c ∈ text, c.isDigit = true) (value : Nat)
    (rest : Text) :
    Iso.number? text.length value (text ++ rest) = some (Nat.ofDigitChars 10 text value, rest) := by
  induction text generalizing value with
  | nil => simp [Iso.number?]
  | cons c text ih =>
    have later := ih fun d inside => figures d (List.mem_cons_of_mem _ inside)
    simp only [List.length_cons, List.cons_append, Iso.number?,
      digit?_of_isDigit (figures c List.mem_cons_self), Option.bind_some, later,
      Nat.ofDigitChars_cons]

namespace IsNumeral

variable {text behind : Text} {width value count : Nat} {colons : Option Bool}

theorem number?_eq (numeral : text.IsNumeral width value) (rest : Text) :
    Iso.number? width 0 (text ++ rest) = some (value, rest) := by
  have read := number?_append numeral.figures 0 rest
  rwa [numeral.length, numeral.value] at read

theorem number?_alone (numeral : text.IsNumeral width value) :
    Iso.number? width 0 text = some (value, []) := by
  have read := numeral.number?_eq []
  rwa [List.append_nil] at read

theorem exists_cons (numeral : text.IsNumeral (width + 1) value) :
    ∃ c rest, text = c :: rest ∧ c.isDigit = true := by
  cases text with
  | nil => exact absurd numeral.length (by simp)
  | cons c rest => exact ⟨c, rest, rfl, numeral.figures c List.mem_cons_self⟩

theorem ne_nil (numeral : text.IsNumeral (width + 1) value) : text ≠ [] := by
  obtain ⟨c, rest, rfl, -⟩ := numeral.exists_cons
  exact List.cons_ne_nil c rest

theorem fraction?_eq (numeral : text.IsNumeral 6 value) :
    Iso.fraction? text = some ⟨[], value, []⟩ := by
  simp [Iso.fraction?, numeral.length, numeral.number?_alone]

theorem time?_colon (numeral : text.IsNumeral 2 value) (nonempty : behind ≠ [])
    (first : colons = none ∨ colons = some true) :
    Iso.time? (count + 1) colons (text ++ ':' :: behind) =
      (Iso.time? count (some true) behind).map fun reading =>
      { reading with numbers := value :: reading.numbers } := by
  obtain ⟨d, rest, rfl⟩ := List.exists_cons_of_ne_nil nonempty
  rw [Option.map_eq_bind, Function.comp_def]
  rcases first with rfl | rfl <;> simp [Iso.time?, numeral.number?_eq]

theorem time?_point (numeral : text.IsNumeral 2 value) (nonempty : behind ≠ []) :
    Iso.time? (count + 1) (some true) (text ++ '.' :: behind) =
      (Iso.fraction? behind).map fun reading =>
      { reading with numbers := value :: reading.numbers } := by
  obtain ⟨d, rest, rfl⟩ := List.exists_cons_of_ne_nil nonempty
  rw [Option.map_eq_bind, Function.comp_def]
  simp [Iso.time?, numeral.number?_eq]

theorem time?_end (numeral : text.IsNumeral 2 value) :
    Iso.time? (count + 1) colons text = some ⟨[value], 0, []⟩ := by
  simp [Iso.time?, numeral.number?_alone]

end IsNumeral
end Text

namespace Timestamp

/-- An offset as it is read back. -/
def readOffset (offset : Int) : Int := if offset.natAbs < microsPerSecond then 0 else offset

def dateText (date : Date) : Text :=
  digits 4 date.year ++ '-' :: digits 2 date.month ++ '-' :: digits 2 date.day

def clockText (clock : Clock) : Text :=
  digits 2 clock.hour ++ ':' ::
    (digits 2 clock.minute ++ ':' :: (digits 2 clock.second ++ fractionText clock.micro))

def distanceText (clock : Clock) : Text :=
  if clock.second = 0 ∧ clock.micro = 0 then digits 2 clock.hour ++ ':' :: digits 2 clock.minute
  else clockText clock

theorem toText_eq (timestamp : Timestamp) :
    timestamp.toText = dateText timestamp.date ++
      'T' :: (clockText timestamp.clock ++ (timestamp.offset.map offsetText).getD []) := by
  simp [toText, dateText, clockText]

theorem offsetText_eq (offset : Int) :
    offsetText offset =
      (if offset < 0 then '-' else '+') :: distanceText (Clock.ofMicros offset.natAbs) := by
  by_cases whole : (Clock.ofMicros offset.natAbs).second = 0 ∧
    (Clock.ofMicros offset.natAbs).micro = 0
  · simp [offsetText, distanceText, whole]
  · simp [offsetText, distanceText, clockText, whole]

variable {clock : Clock}

theorem isNumeral_hour (valid : clock.isValid = true) :
    (digits 2 clock.hour).IsNumeral 2 clock.hour :=
  Text.isNumeral_digits (by decide) (by have := (Clock.isValid_iff clock).mp valid; omega)

theorem isNumeral_minute (valid : clock.isValid = true) :
    (digits 2 clock.minute).IsNumeral 2 clock.minute :=
  Text.isNumeral_digits (by decide) (by have := (Clock.isValid_iff clock).mp valid; omega)

theorem isNumeral_second (valid : clock.isValid = true) :
    (digits 2 clock.second).IsNumeral 2 clock.second :=
  Text.isNumeral_digits (by decide) (by have := (Clock.isValid_iff clock).mp valid; omega)

theorem isNumeral_micro (valid : clock.isValid = true) :
    (digits 6 clock.micro).IsNumeral 6 clock.micro :=
  Text.isNumeral_digits (by decide) (by have := (Clock.isValid_iff clock).mp valid; omega)

theorem time?_clockText (valid : clock.isValid = true) :
    Iso.time? 3 none (clockText clock) =
      some ⟨[clock.hour, clock.minute, clock.second], clock.micro, []⟩ := by
  have minute := (isNumeral_minute valid).ne_nil
  have second := (isNumeral_second valid).ne_nil
  have micro := (isNumeral_micro valid).ne_nil
  rw [clockText, (isNumeral_hour valid).time?_colon (by simp [minute]) (.inl rfl),
    (isNumeral_minute valid).time?_colon (by simp [second]) (.inr rfl), fractionText]
  split
  · next whole => simp [(isNumeral_second valid).time?_end, whole]
  · simp [(isNumeral_second valid).time?_point micro, (isNumeral_micro valid).fraction?_eq]

theorem exists_reading_distanceText (valid : clock.isValid = true) :
    ∃ reading, Iso.time? 3 none (distanceText clock) = some reading ∧ reading.clock = clock ∧
      reading.rest = [] := by
  obtain ⟨hour, minute, second, micro⟩ := clock
  by_cases whole : second = 0 ∧ micro = 0
  · obtain ⟨rfl, rfl⟩ := whole
    have minutes := (isNumeral_minute valid).ne_nil
    refine ⟨⟨[hour, minute], 0, []⟩, ?_, rfl, rfl⟩
    simp [distanceText, (isNumeral_hour valid).time?_colon minutes (.inl rfl),
      (isNumeral_minute valid).time?_end]
  · exact ⟨_, by rw [distanceText, if_neg whole, time?_clockText valid], rfl, rfl⟩

/-- An offset behind its sign: as long as it is, or nothing below a second. -/
theorem offset?_sign {sign : Char} {behind : Text} {reading : Iso.Reading} (signed : sign ≠ 'Z')
    (read : Iso.time? 3 none behind = some reading) (ends : reading.rest = [])
    (size : (if reading.clock.seconds = 0 then 0 else reading.clock.micros) < microsPerDay) :
    Iso.offset? (sign :: behind) = some (some (if sign = '-' then
      -((if reading.clock.seconds = 0 then 0 else reading.clock.micros : Nat) : Int)
      else (if reading.clock.seconds = 0 then 0 else reading.clock.micros : Nat))) := by
  have whole : Iso.ends reading.rest = true := by rw [ends]; rfl
  rw [Iso.offset?]
  · rw [read]
    simp [whole, size]
  · exact signed

theorem offset?_offsetText {offset : Int} (within : offset.natAbs < microsPerDay) :
    Iso.offset? (offsetText offset) = some (some (readOffset offset)) := by
  obtain ⟨reading, read, clock, ends⟩ := exists_reading_distanceText (Clock.isValid_ofMicros within)
  have small : reading.clock.seconds = 0 ↔ offset.natAbs < microsPerSecond := by
    simp only [clock, Clock.seconds, Clock.ofMicros, microsPerSecond]
    omega
  have micros : reading.clock.micros = offset.natAbs := by rw [clock, Clock.micros_ofMicros]
  have size : (if reading.clock.seconds = 0 then 0 else reading.clock.micros) < microsPerDay := by
    rw [micros]
    split
    · decide
    · exact within
  have signed : (if offset < 0 then '-' else '+') ≠ 'Z' := by split <;> decide
  rw [offsetText_eq, offset?_sign signed read ends size, micros, readOffset]
  simp only [small]
  by_cases lost : offset.natAbs < microsPerSecond
  · simp [lost]
  · by_cases negative : offset < 0
    · simp only [lost, negative, if_true, if_false, Option.some.injEq]
      omega
    · simp only [lost, negative, if_false, Option.some.injEq, show ('+' : Char) ≠ '-' by decide]
      omega

theorem mem_clockText (valid : clock.isValid = true) {c : Char} (inside : c ∈ clockText clock) :
    c.isDigit = true ∨ c = ':' ∨ c = '.' := by
  have hour := (isNumeral_hour valid).figures c
  have minute := (isNumeral_minute valid).figures c
  have second := (isNumeral_second valid).figures c
  have micro := (isNumeral_micro valid).figures c
  by_cases whole : clock.micro = 0
  · simp only [clockText, fractionText, whole, if_true, List.mem_append, List.mem_cons,
      List.not_mem_nil] at inside
    grind
  · simp only [clockText, fractionText, whole, if_false, List.mem_append, List.mem_cons] at inside
    grind

theorem mem_distanceText (valid : clock.isValid = true) {c : Char}
    (inside : c ∈ distanceText clock) : c.isDigit = true ∨ c = ':' ∨ c = '.' := by
  by_cases whole : clock.second = 0 ∧ clock.micro = 0
  · have hour := (isNumeral_hour valid).figures c
    have minute := (isNumeral_minute valid).figures c
    simp only [distanceText, whole, and_self, if_true, List.mem_append, List.mem_cons] at inside
    grind
  · rw [distanceText, if_neg whole] at inside
    exact mem_clockText valid inside

theorem beginsOffset_of_mem_clockText (valid : clock.isValid = true) {c : Char}
    (inside : c ∈ clockText clock) : Iso.beginsOffset c = false := by
  rcases mem_clockText valid inside with figure | rfl | rfl
  · have different (d : Char) (other : d.isDigit = false) : c ≠ d := by
      rintro rfl
      rw [figure] at other
      contradiction
    simp [Iso.beginsOffset, different '+' rfl, different '-' rfl, different 'Z' rfl]
  · decide
  · decide

/-- The time of day ends where the offset begins. -/
theorem cut_clockText (valid : clock.isValid = true) (zone : Text)
    (begins : ∀ c ∈ zone.head?, Iso.beginsOffset c = true) :
    (clockText clock ++ zone).takeWhile (fun c => !Iso.beginsOffset c) = clockText clock ∧
      (clockText clock ++ zone).dropWhile (fun c => !Iso.beginsOffset c) = zone := by
  have inside : ∀ c ∈ clockText clock, (!Iso.beginsOffset c) = true := by
    intro c member
    simp [beginsOffset_of_mem_clockText valid member]
  rw [List.takeWhile_append_of_pos inside, List.dropWhile_append_of_pos inside]
  cases zone with
  | nil => simp
  | cons sign behind => simp [begins sign rfl]

theorem timeAndOffset?_clockText {offset : Option Int} (valid : clock.isValid = true)
    (within : ∀ distance ∈ offset, distance.natAbs < microsPerDay) :
    Iso.timeAndOffset? (clockText clock ++ (offset.map offsetText).getD []) =
      some (clock, offset.map readOffset) := by
  cases offset with
  | none =>
    obtain ⟨takes, leaves⟩ := cut_clockText valid [] (by simp)
    simp only [List.append_nil] at takes leaves
    simp [Iso.timeAndOffset?, takes, leaves, time?_clockText valid, Iso.Reading.clock,
      Iso.offset?, Iso.ends]
  | some distance =>
    obtain ⟨sign, behind, written, begins⟩ :
        ∃ sign behind, offsetText distance = sign :: behind ∧ Iso.beginsOffset sign = true :=
      ⟨_, _, offsetText_eq distance, by split <;> decide⟩
    have read := offset?_offsetText (within distance rfl)
    rw [written] at read
    obtain ⟨takes, leaves⟩ := cut_clockText valid (sign :: behind) (by simpa using begins)
    simp [Iso.timeAndOffset?, written, takes, leaves, time?_clockText valid,
      Iso.Reading.clock, read]

variable {date : Date}

theorem isNumeral_year (valid : date.isValid = true) : (digits 4 date.year).IsNumeral 4 date.year :=
  Text.isNumeral_digits (by decide) (by have := (Date.isValid_iff date).mp valid; omega)

theorem isNumeral_month (valid : date.isValid = true) :
    (digits 2 date.month).IsNumeral 2 date.month :=
  Text.isNumeral_digits (by decide) (by have := (Date.isValid_iff date).mp valid; omega)

theorem daysInMonth_le (year month : Nat) : Date.daysInMonth year month ≤ 31 := by
  simp only [Date.daysInMonth]
  split
  · split <;> decide
  · split <;> decide

theorem isNumeral_day (valid : date.isValid = true) : (digits 2 date.day).IsNumeral 2 date.day := by
  have last := daysInMonth_le date.year date.month
  exact Text.isNumeral_digits (by decide) (by have := (Date.isValid_iff date).mp valid; omega)

theorem exists_cons_month (valid : date.isValid = true) :
    ∃ m rest, digits 2 date.month = m :: rest ∧ m ≠ 'W' := by
  obtain ⟨m, rest, written, figure⟩ := (isNumeral_month valid).exists_cons
  refine ⟨m, rest, written, ?_⟩
  rintro rfl
  contradiction

theorem length_dateText (valid : date.isValid = true) : (dateText date).length = 10 := by
  simp [dateText, (isNumeral_year valid).length, (isNumeral_month valid).length,
    (isNumeral_day valid).length]

theorem date?_dateText (valid : date.isValid = true) : Iso.date? (dateText date) = some date := by
  obtain ⟨m, rest, written, noWeek⟩ := exists_cons_month valid
  have month := (isNumeral_month valid).number?_eq ('-' :: digits 2 date.day)
  rw [written, List.cons_append] at month
  simp [Iso.date?, dateText, (isNumeral_year valid).number?_eq, written, noWeek, month, Iso.hyphen?,
    (isNumeral_day valid).number?_alone, valid]

theorem dateLength_dateText (valid : date.isValid = true) (rest : Text) :
    Iso.dateLength (dateText date ++ 'T' :: rest) = 10 := by
  obtain ⟨m, others, month, noWeek⟩ := exists_cons_month valid
  have year := (isNumeral_year valid).length
  have long : ((dateText date ++ 'T' :: rest).length == 7) = false := by
    rw [List.length_append, length_dateText valid, beq_eq_false_iff_ne, List.length_cons]
    omega
  have hyphen : (dateText date ++ 'T' :: rest)[4]? = some '-' := by simp [dateText, year]
  have behind : (dateText date ++ 'T' :: rest)[5]? = some m := by
    simp [dateText, List.getElem?_append_right, year, month]
  rw [Iso.dateLength, long, hyphen, behind]
  simp [noWeek]

theorem timestamp?_of_parts {text rest : Text} {c : Char} {offset : Option Int}
    (long : 7 ≤ text.length) (dated : Iso.date? (text.take (Iso.dateLength text)) = some date)
    (behind : text.drop (Iso.dateLength text) = c :: rest)
    (timed : Iso.timeAndOffset? rest = some (clock, offset)) :
    Iso.timestamp? text = of? date clock offset := by
  rw [Iso.timestamp?, if_neg (by omega)]
  simp only [dated, Option.bind_eq_bind, Option.bind_some]
  split
  · next nothing => exact absurd (behind.symm.trans nothing) (List.cons_ne_nil c rest)
  · next d later there =>
    obtain ⟨rfl, rfl⟩ := List.cons.inj (behind.symm.trans there)
    rw [timed, Option.bind_some]

theorem timestamp?_toText {timestamp : Timestamp}
    (within : ∀ offset ∈ timestamp.offset, offset.natAbs < microsPerDay) :
    Iso.timestamp? timestamp.toText =
      some { timestamp with offset := timestamp.offset.map readOffset } := by
  have date := timestamp.isValid_date
  have length := length_dateText date
  have whole : Iso.dateLength timestamp.toText = 10 := by rw [toText_eq, dateLength_dateText date]
  have front : timestamp.toText.take 10 = dateText timestamp.date := by
    rw [toText_eq, List.take_left' length]
  have back : timestamp.toText.drop 10 =
      'T' :: (clockText timestamp.clock ++ (timestamp.offset.map offsetText).getD []) := by
    rw [toText_eq, List.drop_left' length]
  have long : 7 ≤ timestamp.toText.length := by
    rw [toText_eq, List.length_append, length]
    omega
  rw [← of?_date_clock]
  exact timestamp?_of_parts long (by rw [whole, front, date?_dateText date]) (by rw [whole, back])
    (timeAndOffset?_clockText timestamp.isValid_clock within)

theorem isBlank_of_mem_toText {timestamp : Timestamp}
    (within : ∀ offset ∈ timestamp.offset, offset.natAbs < microsPerDay) {c : Char}
    (inside : c ∈ timestamp.toText) : isBlank c = false := by
  have figureless (marks : c.isDigit = true ∨ c = ':' ∨ c = '.') : isBlank c = false := by
    rcases marks with figure | rfl | rfl
    · exact Text.isBlank_of_isDigit figure
    · decide
    · decide
  have date := timestamp.isValid_date
  rw [toText_eq, dateText] at inside
  simp only [List.mem_append, List.mem_cons] at inside
  rcases inside with ((year | rfl | month) | rfl | day) | rfl | clock | offset
  · exact Text.isBlank_of_isDigit ((isNumeral_year date).figures c year)
  · decide
  · exact Text.isBlank_of_isDigit ((isNumeral_month date).figures c month)
  · decide
  · exact Text.isBlank_of_isDigit ((isNumeral_day date).figures c day)
  · decide
  · exact figureless (mem_clockText timestamp.isValid_clock clock)
  · cases shown : timestamp.offset with
    | none => simp [shown] at offset
    | some distance =>
      rw [shown, Option.map_some, Option.getD_some, offsetText_eq] at offset
      rcases List.mem_cons.mp offset with rfl | distance_inside
      · split <;> decide
      · exact figureless
          (mem_distanceText (Clock.isValid_ofMicros (within distance shown)) distance_inside)

theorem trim_toText {timestamp : Timestamp}
    (within : ∀ offset ∈ timestamp.offset, offset.natAbs < microsPerDay) :
    Text.trim timestamp.toText = timestamp.toText :=
  Text.trim_of_isTrimmed
    ⟨fun _ first => isBlank_of_mem_toText within (List.mem_of_head? first),
      fun _ last => isBlank_of_mem_toText within (List.mem_of_getLast? last)⟩

end Timestamp

/-- The text of a timestamp names the instant that the timestamp names when its offset is read. -/
theorem Instant.ofText?_toText {timestamp : Timestamp}
    (within : ∀ offset ∈ timestamp.offset, offset.natAbs < microsPerDay) :
    ofText? timestamp.toText =
      ({ timestamp with offset :=
          timestamp.offset.map Timestamp.readOffset } : Timestamp).toInstant.map some := by
  rw [ofText?, Timestamp.trim_toText within, Timestamp.timestamp?_toText within]

end RecordSearch
