import ImageGraph.Proofs.Text.Spelling
import ImageGraph.Timestamp
import Mathlib.Data.List.Induction
import Mathlib.Order.Monotone.Basic
import Mathlib.Tactic.IntervalCases

/-! Moments as text. The calendar has the date of every day, and the day of that date is the day; so
a moment is read back from what it is written as. Nothing else is read than moments that can be
written. -/

namespace ImageGraph.Decimal

/-! ### Digits -/

theorem visible_of_isDigit {c : Char} (h : c.isDigit = true) : 48 ≤ c.toNat ∧ c.toNat ≤ 57 := by
  simpa [Char.isDigit, UInt32.le_iff_toNat_le] using h

theorem value_append (digits more : List Char) :
    value (digits ++ more) =
      more.foldl (fun n c => 10 * n + (c.toNat - 48)) (value digits) :=
  List.foldl_append

/-- Zeros in front do not count. -/
theorem value_zeros_append (k : Nat) (digits : List Char) :
    value (List.replicate k '0' ++ digits) = value digits := by
  have zeros : value (List.replicate k '0') = 0 := by
    induction k with
    | zero => rfl
    | succ k ih => rw [List.replicate_succ', value_append, ih]; rfl
  rw [value_append, zeros]
  rfl

/-- Each zero behind makes it ten times as much. -/
theorem value_append_zeros (digits : List Char) (k : Nat) :
    value (digits ++ List.replicate k '0') = value digits * 10 ^ k := by
  induction k with
  | zero => simp
  | succ k ih =>
    rw [List.replicate_succ', ← List.append_assoc, value_append, ih, Nat.pow_succ,
      ← Nat.mul_assoc, Nat.mul_comm _ 10]
    rfl

theorem value_lt {digits : List Char} (plain : ∀ c ∈ digits, c.isDigit = true) :
    value digits < 10 ^ digits.length := by
  induction digits using List.reverseRecOn with
  | nil => decide
  | append_singleton before last ih =>
    obtain ⟨first, small⟩ := List.forall_mem_append.1 plain
    have high := (visible_of_isDigit (small last List.mem_cons_self)).2
    have lower := ih first
    rw [value_append, List.foldl_cons, List.foldl_nil, List.length_append, List.length_singleton,
      Nat.pow_succ]
    omega

end ImageGraph.Decimal

namespace ImageGraph.Timestamp

open Decimal (value_append_zeros value_zeros_append)

/-- A moment in a year that moments may fall in, where only the last second of a minute may be a
leap second. -/
structure Proper (t : Timestamp) : Prop where
  year : inYears (Date.ofDay t.day).year
  second : t.second < 86400
  nanos : t.nanos < nanosPerSecond ∨ t.second % 60 = 59 ∧ t.nanos < 2 * nanosPerSecond

/-! ### The calendar -/

namespace Date

/-- The days of an era before one of its years. -/
def daysBefore (year : Nat) : Nat :=
  365 * year + year / 4 - year / 100 + year / 400

/-- The year of an era that a day falls in. -/
def yearOfEra (day : Nat) : Nat :=
  (day - day / 1460 + day / 36524 - day / 146096) / 365

theorem yearOfEra_mono : Monotone yearOfEra := by
  refine monotone_nat_of_le_succ fun day => Nat.div_le_div_right ?_
  omega

/-- A year begins and ends where it is counted. -/
theorem yearOfEra_ends : ∀ year < 400,
    yearOfEra (daysBefore year) = year ∧ yearOfEra (daysBefore (year + 1) - 1) = year := by
  decide +kernel

theorem yearOfEra_lt {day : Nat} (h : day < 146097) : yearOfEra day < 400 :=
  Nat.lt_succ_of_le (yearOfEra_mono (Nat.le_of_lt_succ h))

theorem daysBefore_yearOfEra_le {day : Nat} (h : day < 146097) :
    daysBefore (yearOfEra day) ≤ day := by
  by_contra later
  cases year : yearOfEra day with
  | zero => simp [year, daysBefore] at later
  | succ before =>
    rw [year] at later
    have within := yearOfEra_lt h
    have earlier := yearOfEra_mono (Nat.le_sub_one_of_lt (Nat.lt_of_not_le later))
    rw [(yearOfEra_ends before (by omega)).2, year] at earlier
    omega

theorem lt_daysBefore_yearOfEra {day : Nat} (h : day < 146097) :
    day < daysBefore (yearOfEra day + 1) := by
  by_contra later
  obtain last | within := Nat.eq_or_lt_of_le (Nat.le_of_lt_succ (yearOfEra_lt h))
  · rw [last] at later
    exact later h
  · have next := yearOfEra_mono (Nat.le_of_not_lt later)
    rw [(yearOfEra_ends _ (by omega)).1] at next
    omega

/-- The date of a day in a year of an era, both counted from March. -/
def ofMarch (era : Int) (year inYear : Nat) : Date :=
  let fromMarch := (5 * inYear + 2) / 153
  let month := (fromMarch + 2) % 12 + 1
  ⟨if month ≤ 2 then year + era * 400 + 1 else year + era * 400, month,
    inYear - (153 * fromMarch + 2) / 5 + 1⟩

theorem exists_ofMarch (day : Int) :
    ∃ era : Int, ∃ year inYear : Nat, year < 400 ∧
      daysBefore year + inYear < daysBefore (year + 1) ∧
      day = era * 146097 + (daysBefore year + inYear : Nat) - 719468 ∧
      ofDay day = ofMarch era year inYear := by
  obtain ⟨era, of_era⟩ : ∃ era, era = (day + 719468) / 146097 := ⟨_, rfl⟩
  obtain ⟨inEra, of_day⟩ : ∃ inEra, inEra = ((day + 719468) % 146097).toNat := ⟨_, rfl⟩
  have small : inEra < 146097 := by omega
  have year := yearOfEra_lt small
  have low := daysBefore_yearOfEra_le small
  have whole : daysBefore (yearOfEra inEra) =
      365 * yearOfEra inEra + yearOfEra inEra / 4 - yearOfEra inEra / 100 := by
    rw [daysBefore, Nat.div_eq_of_lt year, Nat.add_zero]
  refine ⟨era, yearOfEra inEra, inEra - daysBefore (yearOfEra inEra), year, ?_, ?_, ?_⟩
  · rw [Nat.add_sub_cancel' low]
    exact lt_daysBefore_yearOfEra small
  · rw [Nat.add_sub_cancel' low]
    omega
  · rw [whole, of_day, of_era]
    rfl

theorem toDay_ofMarch (era : Int) {year inYear : Nat} (within : year < 400)
    (short : inYear < 366) :
    (ofMarch era year inYear).toDay =
      era * 146097 + (daysBefore year + inYear : Nat) - 719468 := by
  obtain ⟨fromMarch, month⟩ : ∃ fromMarch, fromMarch = (5 * inYear + 2) / 153 := ⟨_, rfl⟩
  have shift : ((fromMarch + 2) % 12 + 1 + 9) % 12 = fromMarch := by omega
  have counted : (153 * fromMarch + 2) / 5 ≤ inYear := by omega
  simp only [ofMarch, toDay, ← month, shift, daysBefore]
  split <;> omega

/-- A year from March on has a leap day at its end if the next calendar year has one. -/
theorem lt_of_lt_daysBefore (era : Int) {year inYear : Nat} (within : year < 400)
    (h : daysBefore year + inYear < daysBefore (year + 1)) :
    inYear < if isLeapYear (year + era * 400 + 1) then 366 else 365 := by
  unfold daysBefore at h
  simp only [isLeapYear, Bool.and_eq_true, Bool.or_eq_true, decide_eq_true_eq, ne_eq]
  split <;> omega

/-- The months from March to January begin a month's length apart. -/
theorem daysInMonth_fromMarch (year : Int) {fromMarch : Nat} (h : fromMarch < 11) :
    (153 * fromMarch + 2) / 5 + daysInMonth year ((fromMarch + 2) % 12 + 1) =
      (153 * (fromMarch + 1) + 2) / 5 := by
  interval_cases fromMarch <;> rfl

theorem isValid_ofMarch (era : Int) {year inYear : Nat} (within : year < 400)
    (h : daysBefore year + inYear < daysBefore (year + 1)) :
    (ofMarch era year inYear).isValid = true := by
  have short := lt_of_lt_daysBefore era within h
  obtain ⟨fromMarch, month⟩ : ∃ fromMarch, fromMarch = (5 * inYear + 2) / 153 := ⟨_, rfl⟩
  simp only [ofMarch, isValid, ← month, Bool.and_eq_true, decide_eq_true_eq]
  refine ⟨⟨⟨by omega, by omega⟩, by omega⟩, ?_⟩
  obtain early | february := Nat.lt_or_ge fromMarch 11
  · have length := daysInMonth_fromMarch
      (if (fromMarch + 2) % 12 + 1 ≤ 2 then year + era * 400 + 1 else year + era * 400) early
    omega
  · have last : fromMarch = 11 := by
      split at short <;> omega
    subst last
    simp only [daysInMonth]
    split at short <;> rename_i leap <;> simp [leap] <;> omega

theorem toDay_ofDay (day : Int) : (ofDay day).toDay = day := by
  obtain ⟨era, year, inYear, within, short, same, date⟩ := exists_ofMarch day
  have most := lt_of_lt_daysBefore era within short
  rw [date, toDay_ofMarch era within (by split at most <;> omega), ← same]

theorem isValid_ofDay (day : Int) : (ofDay day).isValid = true := by
  obtain ⟨era, year, inYear, within, short, -, date⟩ := exists_ofMarch day
  rw [date]
  exact isValid_ofMarch era within short

theorem isValid_iff {d : Date} : d.isValid = true ↔
    1 ≤ d.month ∧ d.month ≤ 12 ∧ 1 ≤ d.day ∧ d.day ≤ daysInMonth d.year d.month := by
  simp [isValid, and_assoc]

theorem daysInMonth_le (year : Int) (month : Nat) : daysInMonth year month ≤ 31 := by
  unfold daysInMonth
  split
  · split <;> decide
  · split <;> decide

end Date

/-! ### Numbers -/

/-- A list of digits that stand for a number. -/
structure Written (digits : List Char) (n : Nat) : Prop where
  filled : digits ≠ []
  plain : ∀ c ∈ digits, c.isDigit = true
  value : Decimal.value digits = n

theorem toList_padded (width n : Nat) :
    (padded width n).toList =
      List.replicate (width - (Nat.toDigits 10 n).length) '0' ++ Nat.toDigits 10 n := by
  rw [padded, String.toList_append, String.toList_ofList, ← String.length_toList,
    Nat.toString_eq_repr, Nat.toList_repr]

theorem written_padded (width n : Nat) : Written (padded width n).toList n := by
  rw [toList_padded]
  refine ⟨?_, fun c hc => ?_, ?_⟩
  · simp [Nat.toDigits_ne_nil]
  · obtain zero | digit := List.mem_append.1 hc
    · rw [List.eq_of_mem_replicate zero]
      rfl
    · exact Nat.isDigit_of_mem_toDigits (by decide) (by decide) digit
  · rw [value_zeros_append]
    exact Nat.ofDigitChars_toDigits (by decide) (by decide)

theorem length_padded {width n : Nat} (some : 0 < width) (h : n < 10 ^ width) :
    (padded width n).toList.length = width := by
  have short := (Nat.length_toDigits_le_iff (b := 10) (by decide) some).2 h
  rw [toList_padded, List.length_append, List.length_replicate]
  omega

namespace Written

variable {digits rest : List Char} {n : Nat} (h : Written digits n)
include h

theorem trimStart_append : Text.trimStart (digits ++ rest) = digits ++ rest := by
  obtain ⟨c, more, rfl⟩ := List.exists_cons_of_ne_nil h.filled
  obtain ⟨low, high⟩ := Decimal.visible_of_isDigit (h.plain c List.mem_cons_self)
  have shown : Text.isBlank c = false := Text.isBlank_of_visible (by omega) (by omega)
  rw [Text.trimStart, List.cons_append, List.dropWhile_cons_of_neg (by simp [shown])]

theorem append_ne_cons {mark : Char} (other : mark.isDigit = false) (s : List Char) :
    digits ++ rest ≠ mark :: s := by
  obtain ⟨c, more, rfl⟩ := List.exists_cons_of_ne_nil h.filled
  rintro ⟨⟩
  rw [h.plain mark List.mem_cons_self] at other
  cases other

theorem digits?_append {width : Nat} (fits : digits.length ≤ width)
    (stop : digits.length = width ∨ ∀ c ∈ rest.head?, c.isDigit = false) :
    digits? width (digits ++ rest) = some (n, rest) := by
  have taken : ((digits ++ rest).take width).takeWhile Char.isDigit = digits := by
    rw [List.take_append, List.take_of_length_le fits, List.takeWhile_append_of_pos h.plain]
    obtain whole | mark := stop
    · rw [whole, Nat.sub_self, List.take_zero, List.takeWhile_nil, List.append_nil]
    · cases rest with
      | nil => simp
      | cons c tail =>
        have ends : c.isDigit = false := mark c rfl
        cases width - digits.length with
        | zero => simp
        | succ k => simp [ends]
  obtain ⟨c, more, rfl⟩ := List.exists_cons_of_ne_nil h.filled
  simp only [digits?, taken, h.value, List.drop_left]

theorem part?_append (two : digits.length = 2) : part? (digits ++ rest) = some (n, rest) := by
  rw [part?, h.trimStart_append, h.digits?_append two.le (.inl two)]

end Written

/-- A number below a hundred is read from its two digits. -/
theorem part?_padded {n : Nat} (h : n < 100) (rest : List Char) :
    part? ((padded 2 n).toList ++ rest) = some (n, rest) :=
  (written_padded 2 n).part?_append (length_padded (by decide) h)

/-! ### Dates -/

theorem mark?_trimStart (c : Char) (h : Text.isBlank c = false) (rest : List Char) :
    mark? c (Text.trimStart (c :: rest)) = some rest := by
  rw [Text.trimStart, List.dropWhile_cons_of_neg (by simp [h]), mark?, if_pos rfl]

theorem year?_minus (s : List Char) :
    year? ('-' :: s) = (digits? s.length s).map fun p => (-(p.1 : Int), p.2) := rfl

theorem year?_plus (s : List Char) :
    year? ('+' :: s) = (digits? s.length s).map fun p => ((p.1 : Int), p.2) := rfl

theorem year?_yearText (year : Int) (rest : List Char) :
    year? ((yearText year).toList ++ '-' :: rest) = some (year, '-' :: rest) := by
  have ends : ∀ c ∈ ('-' :: rest).head?, c.isDigit = false := by
    rintro c ⟨⟩
    rfl
  by_cases plain : 0 ≤ year ∧ year ≤ 9999
  · have digits := written_padded 4 year.toNat
    have four : (padded 4 year.toNat).toList.length = 4 := length_padded (by decide) (by omega)
    have same : (year.toNat : Int) = year := Int.toNat_of_nonneg plain.1
    rw [yearText, if_pos plain, year?, digits.trimStart_append]
    split
    · exact absurd ‹_› (digits.append_ne_cons (by decide) _)
    · exact absurd ‹_› (digits.append_ne_cons (by decide) _)
    · rw [digits.digits?_append four.le (.inl four)]
      simp [same]
  · have digits := written_padded 4 year.natAbs
    have fits : (padded 4 year.natAbs).toList.length ≤
        ((padded 4 year.natAbs).toList ++ '-' :: rest).length := by simp
    have read := digits.digits?_append fits (.inr ends)
    rw [yearText, if_neg plain]
    split
    · have same : -(year.natAbs : Int) = year := by omega
      have sign : ("-" ++ padded 4 year.natAbs).toList ++ '-' :: rest =
          '-' :: ((padded 4 year.natAbs).toList ++ '-' :: rest) := by
        simp
      rw [sign, year?_minus, read, Option.map_some, same]
    · have same : (year.natAbs : Int) = year := by omega
      have sign : ("+" ++ padded 4 year.natAbs).toList ++ '-' :: rest =
          '+' :: ((padded 4 year.natAbs).toList ++ '-' :: rest) := by
        simp
      rw [sign, year?_plus, read, Option.map_some, same]

theorem date?_text (day : Int) (within : inYears (Date.ofDay day).year) (rest : List Char) :
    let date := Date.ofDay day
    date? ((yearText date.year ++ "-" ++ padded 2 date.month ++ "-" ++ padded 2 date.day).toList ++
      rest) = some (date, rest) := by
  intro date
  have valid : date.isValid = true := Date.isValid_ofDay day
  obtain ⟨-, month, -, days⟩ := Date.isValid_iff.1 valid
  have most := Date.daysInMonth_le date.year date.month
  have hyphen : Text.isBlank '-' = false := by decide
  have blocks : (yearText date.year ++ "-" ++ padded 2 date.month ++ "-" ++
      padded 2 date.day).toList ++ rest = (yearText date.year).toList ++ '-' ::
        ((padded 2 date.month).toList ++ '-' :: ((padded 2 date.day).toList ++ rest)) := by
    simp
  rw [blocks, date?, year?_yearText, Option.bind_eq_bind, Option.bind_some]
  simp only [mark?_trimStart _ hyphen, part?_padded (show date.month < 100 by omega),
    part?_padded (show date.day < 100 by omega), Option.bind_eq_bind, Option.bind_some]
  rw [if_pos (by simpa using ⟨within, valid⟩)]

/-! ### Times of day -/

/-- Digits after a point count from the first place after it on. -/
theorem Written.nanos?_append {digits : List Char} {n : Nat} (h : Written digits n)
    (fits : digits.length ≤ 9) (rest : List Char) :
    nanos? ('.' :: (digits ++ 'Z' :: rest)) =
      some (n * 10 ^ (9 - digits.length), 'Z' :: rest) := by
  have taken : (digits ++ 'Z' :: rest).takeWhile Char.isDigit = digits := by
    rw [List.takeWhile_append_of_pos h.plain, List.takeWhile_cons_of_neg (by decide),
      List.append_nil]
  have nine : (digits ++ List.replicate 9 '0').take 9 =
      digits ++ List.replicate (9 - digits.length) '0' := by
    rw [List.take_append, List.take_of_length_le fits, List.take_replicate,
      Nat.min_eq_left (Nat.sub_le 9 _)]
  have value : Decimal.value ((digits ++ List.replicate 9 '0').take 9) =
      n * 10 ^ (9 - digits.length) := by
    rw [nine, value_append_zeros, h.value]
  unfold nanos?
  simp only [taken]
  split
  · exact absurd rfl h.filled
  · rw [value, List.drop_left]

theorem nanos?_padded {width n : Nat} (some : 0 < width) (fits : width ≤ 9) (h : n < 10 ^ width)
    (rest : List Char) :
    nanos? (("." ++ padded width n).toList ++ 'Z' :: rest) =
      .some (n * 10 ^ (9 - width), 'Z' :: rest) := by
  have length := length_padded some h
  have point : ("." ++ padded width n).toList ++ 'Z' :: rest =
      '.' :: ((padded width n).toList ++ 'Z' :: rest) := by
    simp
  rw [point, (written_padded width n).nanos?_append (length.trans_le fits), length]

theorem nanos?_fractionText {nanos : Nat} (h : nanos < nanosPerSecond) (rest : List Char) :
    nanos? ((fractionText nanos).toList ++ 'Z' :: rest) = some (nanos, 'Z' :: rest) := by
  have below : nanos < 10 ^ 9 := h
  by_cases zero : nanos = 0
  · subst zero
    rfl
  rw [fractionText, if_neg zero]
  by_cases millis : nanos % 1000000 = 0
  · have scale : 10 ^ (9 - 3) = 1000000 := rfl
    rw [if_pos millis, nanos?_padded (by decide) (by decide) (by omega), scale,
      Nat.div_mul_cancel (Nat.dvd_of_mod_eq_zero millis)]
  rw [if_neg millis]
  by_cases micros : nanos % 1000 = 0
  · have scale : 10 ^ (9 - 6) = 1000 := rfl
    rw [if_pos micros, nanos?_padded (by decide) (by decide) (by omega), scale,
      Nat.div_mul_cancel (Nat.dvd_of_mod_eq_zero micros)]
  · rw [if_neg micros, nanos?_padded (by decide) (by decide) below, Nat.sub_self, Nat.pow_zero,
      Nat.mul_one]

theorem time?_text {t : Timestamp} (h : t.Proper) (rest : List Char) :
    time? ((padded 2 (t.second / 3600) ++ ":" ++ padded 2 (t.second / 60 % 60) ++ ":" ++
      padded 2 (t.second % 60 + t.nanos / nanosPerSecond) ++
        fractionText (t.nanos % nanosPerSecond)).toList ++ 'Z' :: rest) =
      some ((t.second, t.nanos), 'Z' :: rest) := by
  have colon : Text.isBlank ':' = false := by decide
  have blocks (hour minute second fraction : String) :
      (hour ++ ":" ++ minute ++ ":" ++ second ++ fraction).toList ++ 'Z' :: rest =
        hour.toList ++ ':' :: (minute.toList ++ ':' :: (second.toList ++
          (fraction.toList ++ 'Z' :: rest))) := by
    simp
  have day := h.second
  have sixty : t.second % 60 + t.nanos / nanosPerSecond = t.second % 60 ∧
        t.nanos % nanosPerSecond = t.nanos ∨
      t.second % 60 + t.nanos / nanosPerSecond = 60 ∧
        t.nanos % nanosPerSecond + nanosPerSecond = t.nanos ∧ t.second % 60 = 59 := by
    have leap := h.nanos
    unfold nanosPerSecond at *
    omega
  have room : 0 < nanosPerSecond := by decide
  rw [blocks, time?, part?_padded (by omega)]
  simp only [Option.bind_eq_bind, Option.bind_some, mark?_trimStart _ colon,
    part?_padded (show t.second / 60 % 60 < 100 by omega),
    part?_padded (show t.second % 60 + t.nanos / nanosPerSecond < 100 by omega),
    nanos?_fractionText (Nat.mod_lt t.nanos room)]
  rw [if_neg (by omega)]
  obtain ⟨plain, within⟩ | ⟨leap, beyond, last⟩ := sixty
  · rw [plain, within, if_neg (by omega)]
    have whole : t.second / 3600 * 3600 + t.second / 60 % 60 * 60 + t.second % 60 = t.second := by
      omega
    rw [whole]
  · rw [leap, beyond, if_pos rfl]
    have whole : t.second / 3600 * 3600 + t.second / 60 % 60 * 60 + 59 = t.second := by
      omega
    rw [whole]

/-! ### Moments -/

/-- A proper moment is read back from its text. -/
theorem parse?_text {t : Timestamp} (h : t.Proper) : parse? t.text = some t := by
  have blocks : t.text.toList = (yearText (Date.ofDay t.day).year ++ "-" ++
      padded 2 (Date.ofDay t.day).month ++ "-" ++ padded 2 (Date.ofDay t.day).day).toList ++ 'T' ::
      ((padded 2 (t.second / 3600) ++ ":" ++ padded 2 (t.second / 60 % 60) ++ ":" ++
        padded 2 (t.second % 60 + t.nanos / nanosPerSecond) ++
          fractionText (t.nanos % nanosPerSecond)).toList ++ ['Z']) := by
    simp [text]
  have today : (t.second : Int) / 86400 = 0 := by
    have day := h.second
    omega
  have rest : ((t.second : Int) % 86400).toNat = t.second := by
    have day := h.second
    omega
  have utc : offset? (Text.trimStart ['Z']) = some (0, []) := rfl
  have ends : Text.trimStart [] = [] := rfl
  rw [parse?, blocks, date?_text t.day h.year]
  simp only [Option.bind_eq_bind, Option.bind_some, between?, time?_text h, utc, ends,
    Date.toDay_ofDay, Int.sub_zero, today, rest, Int.add_zero, h.year, and_self, if_true]

theorem nanos?_lt {s rest : List Char} {n : Nat} (h : nanos? s = some (n, rest)) :
    n < nanosPerSecond := by
  unfold nanos? at h
  split at h
  · rename_i s
    split at h
    · cases h
    · cases h
      have plain : ∀ c ∈ (s.takeWhile Char.isDigit ++ List.replicate 9 '0').take 9,
          c.isDigit = true := by
        intro c hc
        obtain digit | zero := List.mem_append.1 (List.mem_of_mem_take hc)
        · exact List.all_eq_true.1 List.all_takeWhile c digit
        · rw [List.eq_of_mem_replicate zero]
          rfl
      have length : ((s.takeWhile Char.isDigit ++ List.replicate 9 '0').take 9).length = 9 := by
        simp
      have small := Decimal.value_lt plain
      rwa [length] at small
  · cases h
    decide

theorem time?_within {s rest : List Char} {second nanos : Nat}
    (h : time? s = some ((second, nanos), rest)) :
    second < 86400 ∧ (nanos < nanosPerSecond ∨ second % 60 = 59 ∧ nanos < 2 * nanosPerSecond) := by
  unfold time? at h
  obtain ⟨⟨hour, _⟩, -, h⟩ := Option.bind_eq_some_iff.1 h
  obtain ⟨_, -, h⟩ := Option.bind_eq_some_iff.1 h
  obtain ⟨⟨minute, _⟩, -, h⟩ := Option.bind_eq_some_iff.1 h
  obtain ⟨_, -, h⟩ := Option.bind_eq_some_iff.1 h
  obtain ⟨⟨sixtieth, _⟩, -, h⟩ := Option.bind_eq_some_iff.1 h
  obtain ⟨⟨fraction, _⟩, read, h⟩ := Option.bind_eq_some_iff.1 h
  have small := nanos?_lt read
  dsimp only at h
  split at h
  · cases h
  split at h
  · cases h
    omega
  · cases h
    omega

theorem hoursMinutes?_minutes {s rest : List Char} {n : Nat}
    (h : hoursMinutes? s = some (n, rest)) : n % 60 = 0 := by
  unfold hoursMinutes? at h
  obtain ⟨⟨hours, _⟩, -, h⟩ := Option.bind_eq_some_iff.1 h
  obtain ⟨⟨minutes, _⟩, -, h⟩ := Option.bind_eq_some_iff.1 h
  dsimp only at h
  split at h
  · cases h
  · cases h
    omega

/-- Offsets are whole minutes. -/
theorem offset?_minutes {s rest : List Char} {offset : Int} (h : offset? s = some (offset, rest)) :
    offset % 60 = 0 := by
  unfold offset? at h
  split at h
  case h_1 | h_2 =>
    cases h
    rfl
  case h_3 | h_4 | h_5 =>
    obtain ⟨⟨n, _⟩, read, same⟩ := Option.map_eq_some_iff.1 h
    have minutes := hoursMinutes?_minutes read
    cases same
    omega
  case h_6 =>
    split at h
    · cases h
      rfl
    · cases h
  case h_7 => cases h

/-- What is read from a text is proper. -/
theorem Proper.of_parse? {text : String} {t : Timestamp} (h : parse? text = some t) :
    t.Proper := by
  unfold parse? at h
  obtain ⟨⟨date, _⟩, -, h⟩ := Option.bind_eq_some_iff.1 h
  obtain ⟨_, -, h⟩ := Option.bind_eq_some_iff.1 h
  obtain ⟨⟨⟨second, nanos⟩, _⟩, time, h⟩ := Option.bind_eq_some_iff.1 h
  obtain ⟨⟨offset, _⟩, distance, h⟩ := Option.bind_eq_some_iff.1 h
  obtain ⟨within, leap⟩ := time?_within time
  have minutes := offset?_minutes distance
  dsimp only at h
  split at h
  · rename_i whole
    cases h
    refine ⟨whole.2, ?_, leap.imp_right fun last => ⟨?_, last.2⟩⟩
    · dsimp only
      omega
    · have sixtieth := last.1
      dsimp only
      omega
  · cases h

/-- A moment is read back from its text just if it is proper. -/
theorem parse?_text_iff {t : Timestamp} : parse? t.text = some t ↔ t.Proper :=
  ⟨.of_parse?, parse?_text⟩

end ImageGraph.Timestamp
