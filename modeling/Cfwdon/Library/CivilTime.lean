import Mathlib.Data.List.Forall2
import Mathlib.Data.List.Lex
import Mathlib.Data.String.Basic
import Mathlib.Tactic.Linarith

/-!
# Numbers, dates and times as texts

Texts of a fixed width are ordered as the numbers, dates and times they are written for.
-/

namespace Cfwdon.Library

variable {c : Char} {width num : Nat} {sep : Char}

section DigitText

/-! ## Numbers as digits of a fixed width

Texts that are put together from numbers of a fixed width are ordered as the numbers
are, from the first one on.

* `append_lt_append_iff` -- texts that start with parts of one length.
-/

theorem append_lt_append_iff {first second post later : List Char}
    (lengths : first.length = second.length) :
    first ++ post < second ++ later ↔ first < second ∨ first = second ∧ post < later := by
  induction first generalizing second with
  | nil =>
    cases second with
    | nil => simp
    | cons c rest => cases lengths
  | cons c rest ih =>
    cases second with
    | nil => cases lengths
    | cons d others =>
      rw [List.cons_append, List.cons_append, List.cons_lt_cons_iff, List.cons_lt_cons_iff,
        ih (by simpa using lengths), List.cons.injEq]
      constructor
      · rintro (less | ⟨eq, less | ⟨rest, less⟩⟩)
        · exact .inl (.inl less)
        · exact .inl (.inr ⟨eq, less⟩)
        · exact .inr ⟨⟨eq, rest⟩, less⟩
      · rintro ((less | ⟨eq, less⟩) | ⟨⟨eq, rest⟩, less⟩)
        · exact .inl less
        · exact .inr ⟨eq, .inl less⟩
        · exact .inr ⟨eq, .inr ⟨rest, less⟩⟩

/-- Two are the same exactly if neither comes before the other. -/
theorem eq_iff_not_lt {Ordered : Type} [LinearOrder Ordered] {first second : Ordered} :
    first = second ↔ ¬ first < second ∧ ¬ second < first := by
  rw [not_lt, not_lt]
  exact ⟨fun eq => ⟨eq.ge, eq.le⟩, fun ⟨back, forth⟩ => le_antisymm forth back⟩

/-- Numbers that are counted up from where a place starts, and stay in it, are ordered by
the places first. -/
theorem place_lt_iff {Place : Type} [LinearOrder Place] {start size : Place → Int}
    (apart : ∀ place other, place < other → start place + size place ≤ start other)
    {place other : Place} {rest remainder : Int} (low : 0 ≤ rest) (high : rest < size place)
    (lower : 0 ≤ remainder) (higher : remainder < size other) :
    start place + rest < start other + remainder
      ↔ place < other ∨ place = other ∧ rest < remainder := by
  constructor
  · intro less
    rcases lt_trichotomy place other with pre | rfl | post
    · exact .inl pre
    · exact .inr ⟨rfl, by omega⟩
    · have ends := apart other place post
      omega
  · rintro (pre | ⟨rfl, less⟩)
    · have ends := apart place other pre
      omega
    · omega

/-! ## Digits -/

def digitChar (digit : Nat) : Char :=
  Char.ofNat (48 + digit)

theorem digitChar_lt_iff {digit other : Nat} (small : digit < 10) (smaller : other < 10) :
    digitChar digit < digitChar other ↔ digit < other := by
  have each : ∀ digit ∈ List.range 10, ∀ other ∈ List.range 10,
      (digitChar digit < digitChar other ↔ digit < other) := by decide
  exact each digit (List.mem_range.mpr small) other (List.mem_range.mpr smaller)

theorem digitChar_inj {digit other : Nat} (small : digit < 10) (smaller : other < 10) :
    digitChar digit = digitChar other ↔ digit = other := by
  rw [eq_iff_not_lt, digitChar_lt_iff small smaller, digitChar_lt_iff smaller small,
    ← eq_iff_not_lt]

/-- The last `width` digits of a number. -/
def digits : Nat → Nat → List Char
  | 0, _ => []
  | width + 1, number => digitChar (number / 10 ^ width % 10) :: digits width number

@[simp] theorem length_digits (width num : Nat) : (digits width num).length = width := by
  induction width with
  | zero => rfl
  | succ width ih => rw [digits, List.length_cons, ih]

theorem lt_iff_div_mod (place num other : Nat) :
    num < other ↔ num / place < other / place
      ∨ num / place = other / place ∧ num % place < other % place := by
  have whole := Nat.div_add_mod num place
  have otherWhole := Nat.div_add_mod other place
  constructor
  · intro less
    rcases (Nat.div_le_div_right less.le).lt_or_eq with pre | eq
    · exact .inl pre
    · refine .inr ⟨eq, ?_⟩
      rw [eq] at whole
      omega
  · rintro (pre | ⟨eq, less⟩)
    · exact lt_of_not_ge fun back => absurd (Nat.div_le_div_right back) (not_le.mpr pre)
    · rw [eq] at whole
      omega

theorem mod_pow_succ_div (width num : Nat) :
    num % 10 ^ (width + 1) / 10 ^ width = num / 10 ^ width % 10 := by
  rw [Nat.pow_succ, Nat.mod_mul_right_div_self]

theorem mod_pow_succ_mod (width num : Nat) :
    num % 10 ^ (width + 1) % 10 ^ width = num % 10 ^ width :=
  Nat.mod_mod_of_dvd _ (Nat.pow_dvd_pow 10 (Nat.le_succ width))

theorem digits_lt_digits_iff_mod (width num other : Nat) :
    digits width num < digits width other ↔ num % 10 ^ width < other % 10 ^ width := by
  induction width with
  | zero => simp [digits, Nat.mod_one]
  | succ width ih =>
    have digit (num : Nat) : num / 10 ^ width % 10 < 10 := Nat.mod_lt _ (by decide)
    rw [digits, digits, List.cons_lt_cons_iff, digitChar_lt_iff (digit _) (digit _),
      digitChar_inj (digit _) (digit _), ih,
      lt_iff_div_mod (10 ^ width) (num % 10 ^ (width + 1)), mod_pow_succ_div,
      mod_pow_succ_div, mod_pow_succ_mod, mod_pow_succ_mod]

/-- **Digits are ordered as their numbers.** -/
theorem digits_lt_digits_iff {width num other : Nat} (fits : num < 10 ^ width)
    (otherFits : other < 10 ^ width) :
    digits width num < digits width other ↔ num < other := by
  rw [digits_lt_digits_iff_mod, Nat.mod_eq_of_lt fits, Nat.mod_eq_of_lt otherFits]

theorem digits_inj {width num other : Nat} (fits : num < 10 ^ width)
    (otherFits : other < 10 ^ width) :
    digits width num = digits width other ↔ num = other := by
  rw [eq_iff_not_lt, digits_lt_digits_iff fits otherFits, digits_lt_digits_iff otherFits fits,
    ← eq_iff_not_lt]

theorem digits_add (width rest number : Nat) :
    digits (width + rest) number = digits width (number / 10 ^ rest) ++ digits rest number := by
  induction width with
  | zero => rw [Nat.zero_add, digits, List.nil_append]
  | succ width ih =>
    rw [Nat.succ_add, digits, digits, List.cons_append, ih,
      Nat.div_div_eq_div_mul, ← Nat.pow_add, Nat.add_comm rest width]

theorem digits_mod {width place : Nat} (number : Nat) (fits : width ≤ place) :
    digits width (number % 10 ^ place) = digits width number := by
  induction width with
  | zero => rfl
  | succ width ih =>
    have rest : 10 ^ place = 10 ^ width * 10 ^ (place - width) := by
      rw [← Nat.pow_add, Nat.add_sub_cancel' (by omega)]
    have ten : 10 ∣ 10 ^ (place - width) := dvd_pow_self 10 (by omega)
    rw [digits, digits, ih (by omega), rest, Nat.mod_mul_right_div_self, Nat.mod_mod_of_dvd _ ten]

theorem digits_place {width digit rest : Nat} (small : digit < 10) (fits : rest < 10 ^ width) :
    digits (width + 1) (digit * 10 ^ width + rest) = digitChar digit :: digits width rest := by
  have pos : 0 < 10 ^ width := Nat.pow_pos (by decide)
  have quotient : (digit * 10 ^ width + rest) / 10 ^ width = digit := by
    rw [Nat.add_comm, Nat.add_mul_div_right _ _ pos, Nat.div_eq_of_lt fits, Nat.zero_add]
  have remainder : (digit * 10 ^ width + rest) % 10 ^ width = rest := by
    rw [Nat.add_comm, Nat.add_mul_mod_self_right, Nat.mod_eq_of_lt fits]
  rw [digits, quotient, Nat.mod_eq_of_lt small, ← digits_mod _ (Nat.le_refl width), remainder]

theorem digitChar_mem_digits (mem : c ∈ digits width num) : ∃ digit < 10, c = digitChar digit := by
  induction width with
  | zero => cases mem
  | succ width ih =>
    rcases List.mem_cons.mp mem with rfl | later
    · exact ⟨_, Nat.mod_lt _ (by decide), rfl⟩
    · exact ih later

/-! ## Digits without zeros at the end -/

/-- The last `width` digits of a number, without the zeros at the end. -/
def trimmedDigits : Nat → Nat → List Char
  | 0, _ => []
  | width + 1, number =>
    if number % 10 = 0 then trimmedDigits width (number / 10) else digits (width + 1) number

theorem trimmedDigits_of_mod {num : Nat} (width : Nat) {rest : Nat}
    (zeros : num % 10 ^ rest = 0) :
    trimmedDigits (width + rest) num = trimmedDigits width (num / 10 ^ rest) := by
  induction rest generalizing num with
  | zero => simp
  | succ rest ih =>
    rw [Nat.pow_succ', Nat.mod_mul] at zeros
    obtain ⟨last, others⟩ := Nat.add_eq_zero_iff.mp zeros
    have pre : num / 10 % 10 ^ rest = 0 := by omega
    rw [← Nat.add_assoc, trimmedDigits, if_pos last, ih pre, Nat.div_div_eq_div_mul, Nat.pow_succ']

theorem trimmedDigits_of_last {width number : Nat} (last : number % 10 ≠ 0) :
    trimmedDigits (width + 1) number = digits (width + 1) number := by
  rw [trimmedDigits, if_neg last]

/-- The first digits all stand if there is one after them, or the last of them is not
zero. -/
theorem trimmedDigits_long (width : Nat) {num rest : Nat}
    (later : num % 10 ^ (rest + 1) ≠ 0) :
    ∃ post, trimmedDigits (width + 1 + rest) num = digits (width + 1) (num / 10 ^ rest) ++ post
      ∧ ∀ c ∈ post, ∃ digit < 10, c = digitChar digit := by
  induction rest generalizing num with
  | zero =>
    refine ⟨[], ?_, fun c mem => absurd mem List.not_mem_nil⟩
    rw [Nat.add_zero, trimmedDigits_of_last (by simpa using later)]
    simp
  | succ rest ih =>
    by_cases last : num % 10 = 0
    · have others : num / 10 % 10 ^ (rest + 1) ≠ 0 := by
        intro zeros
        rw [Nat.pow_succ', Nat.mod_mul, last, zeros] at later
        exact later rfl
      obtain ⟨post, got, each⟩ := ih others
      refine ⟨post, ?_, each⟩
      rw [← Nat.add_assoc, trimmedDigits, if_pos last, got, Nat.div_div_eq_div_mul, Nat.pow_succ']
    · refine ⟨digits (rest + 1) num, ?_, fun c => digitChar_mem_digits⟩
      rw [← Nat.add_assoc, trimmedDigits_of_last last, Nat.add_assoc, digits_add]

end DigitText

variable (leap : Bool)

section CivilTime

/-! ## Dates and times of the calendar

A date is a year, a month and a day that the month has, and stands for a number of days;
with a time of the day it stands for a number of seconds.  Written with a fixed width,
dates and times are ordered as these numbers.

* `CivilDate.dayNumber_lt_iff`, `CivilTime.seconds_lt_iff` -- the order by fields.
-/

def isLeapYear (year : Int) : Bool :=
  year % 4 == 0 && (year % 100 != 0 || year % 400 == 0)

def daysBeforeYear (year : Int) : Int :=
  365 * year + (year + 3) / 4 - (year + 99) / 100 + (year + 399) / 400

def yearLength (year : Int) : Int :=
  if isLeapYear year then 366 else 365

theorem daysBeforeYear_succ (year : Int) :
    daysBeforeYear (year + 1) = daysBeforeYear year + yearLength year := by
  rw [daysBeforeYear, daysBeforeYear, yearLength]
  by_cases leap : isLeapYear year = true
  · rw [if_pos leap]
    simp only [isLeapYear, Bool.and_eq_true, Bool.or_eq_true, beq_iff_eq, bne_iff_ne] at leap
    omega
  · rw [if_neg leap]
    simp only [isLeapYear, Bool.and_eq_true, Bool.or_eq_true, beq_iff_eq, bne_iff_ne] at leap
    omega

theorem daysBeforeYear_mono {year other : Int} (le : year ≤ other) :
    daysBeforeYear year ≤ daysBeforeYear other := by
  have monotone : Monotone daysBeforeYear := monotone_int_of_le_succ fun year => by
    rw [daysBeforeYear_succ, yearLength]
    split_ifs <;> omega
  exact monotone le

theorem year_apart (year other : Int) (pre : year < other) :
    daysBeforeYear year + yearLength year ≤ daysBeforeYear other := by
  rw [← daysBeforeYear_succ]
  exact daysBeforeYear_mono pre

/-- The days of a month, by its number. -/
def monthLength (leap : Bool) : Nat → Nat
  | 2 => if leap then 29 else 28
  | 4 | 6 | 9 | 11 => 30
  | _ => 31

theorem monthLength_le (month : Nat) : monthLength leap month ≤ 31 := by
  rw [monthLength.eq_def]
  split
  · split_ifs <;> decide
  all_goals decide

def daysBeforeMonth (leap : Bool) : Nat → Nat
  | 0 | 1 => 0
  | month + 2 => daysBeforeMonth leap (month + 1) + monthLength leap (month + 1)

theorem month_apart {month other : Nat} (pos : 1 ≤ month)
    (pre : month < other) :
    daysBeforeMonth leap month + monthLength leap month ≤ daysBeforeMonth leap other := by
  induction other, pre using Nat.le_induction with
  | base =>
    obtain ⟨prev, rfl⟩ := Nat.exists_eq_add_of_le' pos
    exact Nat.le_refl _
  | succ other later ih =>
    have positiveOther : 1 ≤ other := pos.trans (Nat.le_of_succ_le later)
    obtain ⟨prev, rfl⟩ := Nat.exists_eq_add_of_le' positiveOther
    rw [daysBeforeMonth]
    omega

theorem daysBeforeMonth_end : daysBeforeMonth leap 13 = if leap then 366 else 365 := by
  cases leap <;> rfl

/-! ## Dates -/

structure CivilDate where
  year : Int
  month : Nat
  day : Nat
  month_pos : 1 ≤ month
  month_le : month ≤ 12
  day_pos : 1 ≤ day
  day_le : day ≤ monthLength (isLeapYear year) month

namespace CivilDate

/-- The first of January. -/
def newYear (year : Int) : CivilDate where
  year := year
  month := 1
  day := 1
  month_pos := by decide
  month_le := by decide
  day_pos := by decide
  day_le := (by decide : 1 ≤ 31)

def ofNumbers (year : Int) (month day : Nat)
    (isDate : 1 ≤ month ∧ month ≤ 12 ∧ 1 ≤ day ∧ day ≤ monthLength (isLeapYear year) month) :
    CivilDate where
  year := year
  month := month
  day := day
  month_pos := isDate.1
  month_le := isDate.2.1
  day_pos := isDate.2.2.1
  day_le := isDate.2.2.2

variable (date other : CivilDate)

def dayOfYear : Nat :=
  daysBeforeMonth (isLeapYear date.year) date.month + (date.day - 1)

/-- The days from the first of the year 0 to a date. -/
def dayNumber : Int :=
  daysBeforeYear date.year + date.dayOfYear

theorem dayOfYear_lt : (date.dayOfYear : Int) < yearLength date.year := by
  have ends := month_apart (isLeapYear date.year) date.month_pos (Nat.lt_succ_of_le date.month_le)
  rw [daysBeforeMonth_end] at ends
  have pos := date.day_pos
  have within := date.day_le
  rw [dayOfYear, yearLength]
  split_ifs at ends ⊢ <;> omega

theorem dayNumber_lt_iff :
    date.dayNumber < other.dayNumber ↔ date.year < other.year
      ∨ date.year = other.year ∧ (date.month < other.month
        ∨ date.month = other.month ∧ date.day < other.day) := by
  rw [dayNumber, dayNumber, place_lt_iff year_apart (Int.natCast_nonneg _) date.dayOfYear_lt
    (Int.natCast_nonneg _) other.dayOfYear_lt]
  refine or_congr_right (and_congr_right fun sameYear => ?_)
  have pos := date.day_pos
  have otherPositive := other.day_pos
  have within := date.day_le
  have otherWithin := other.day_le
  rw [dayOfYear, dayOfYear, sameYear] at *
  rcases lt_trichotomy date.month other.month with pre | eq | post
  · have ends := month_apart (isLeapYear other.year) date.month_pos pre
    omega
  · rw [eq] at *
    omega
  · have ends := month_apart (isLeapYear other.year) other.month_pos post
    omega

def FourDigits : Prop := 0 ≤ date.year ∧ date.year ≤ 9999

/-- A date as text, for a year of four digits. -/
def text : List Char :=
  digits 4 date.year.toNat ++ '-' :: (digits 2 date.month ++ '-' :: digits 2 date.day)

@[simp] theorem length_text : date.text.length = 10 := by
  simp [text]

variable {date other}

theorem day_lt : date.day < 10 ^ 2 :=
  lt_of_le_of_lt (date.day_le.trans (monthLength_le _ _)) (by decide)

theorem month_lt : date.month < 10 ^ 2 :=
  lt_of_le_of_lt date.month_le (by decide)

theorem year_lt (short : date.FourDigits) : date.year.toNat < 10 ^ 4 := by
  have bound := short.2
  omega

/-- **Dates as text are ordered as the dates.** -/
theorem text_lt_iff (short : date.FourDigits) (otherShort : other.FourDigits) :
    date.text < other.text ↔ date.dayNumber < other.dayNumber := by
  rw [text, text, append_lt_append_iff (by simp), List.cons_lt_cons_self,
    append_lt_append_iff (by simp), List.cons_lt_cons_self,
    digits_lt_digits_iff (year_lt short) (year_lt otherShort),
    digits_inj (year_lt short) (year_lt otherShort), digits_lt_digits_iff month_lt month_lt,
    digits_inj month_lt month_lt, digits_lt_digits_iff day_lt day_lt, dayNumber_lt_iff]
  have low := short.1
  have otherLow := otherShort.1
  constructor <;> omega

/-- Dates as text are the same for one day only. -/
theorem text_inj (short : date.FourDigits) (otherShort : other.FourDigits) :
    date.text = other.text ↔ date.dayNumber = other.dayNumber := by
  rw [eq_iff_not_lt, text_lt_iff short otherShort, text_lt_iff otherShort short, ← eq_iff_not_lt]

end CivilDate

/-! ## Times of the day -/

structure TimeOfDay where
  hour : Nat
  minute : Nat
  second : Nat
  hour_lt : hour < 24
  minute_lt : minute < 60
  second_lt : second < 60

namespace TimeOfDay

def onHour (hour : Nat) (hour_lt : hour < 24) : TimeOfDay where
  hour := hour
  minute := 0
  second := 0
  hour_lt := hour_lt
  minute_lt := by decide
  second_lt := by decide

def midnight : TimeOfDay := onHour 0 (by decide)

variable (time other : TimeOfDay)

/-- The seconds of a day before a time. -/
def seconds : Nat :=
  time.hour * 3600 + time.minute * 60 + time.second

theorem seconds_lt : time.seconds < 86400 := by
  have hours := time.hour_lt
  have minutes := time.minute_lt
  have seconds := time.second_lt
  rw [TimeOfDay.seconds]
  omega

/-- A time of the day as text. -/
def text : List Char :=
  digits 2 time.hour ++ ':' :: (digits 2 time.minute ++ ':' :: digits 2 time.second)

@[simp] theorem length_text : time.text.length = 8 := by
  simp [text]

variable {time other}

/-- **Times as text are ordered as the times.** -/
theorem text_lt_iff : time.text < other.text ↔ time.seconds < other.seconds := by
  have hour := time.hour_lt
  have minute := time.minute_lt
  have second := time.second_lt
  have otherHour := other.hour_lt
  have otherMinute := other.minute_lt
  have otherSecond := other.second_lt
  rw [text, text, append_lt_append_iff (by simp), List.cons_lt_cons_self,
    append_lt_append_iff (by simp), List.cons_lt_cons_self,
    digits_lt_digits_iff (by omega) (by omega), digits_inj (by omega) (by omega),
    digits_lt_digits_iff (by omega) (by omega), digits_inj (by omega) (by omega),
    digits_lt_digits_iff (by omega) (by omega), seconds, seconds]
  constructor <;> omega

end TimeOfDay

/-! ## Dates with times -/

/-- A date and a time of the day. -/
structure CivilTime where
  date : CivilDate
  time : TimeOfDay

namespace CivilTime

variable (civil other : CivilTime)

/-- The seconds from the first of the year 0 to a time. -/
def seconds : Int :=
  civil.date.dayNumber * 86400 + civil.time.seconds

theorem seconds_lt_iff :
    civil.seconds < other.seconds ↔ civil.date.dayNumber < other.date.dayNumber
      ∨ civil.date.dayNumber = other.date.dayNumber ∧ civil.time.seconds < other.time.seconds := by
  have within := civil.time.seconds_lt
  have otherWithin := other.time.seconds_lt
  rw [seconds, seconds]
  constructor <;> omega

/-- A time as text, with the character that stands before the time of the day. -/
def text (separator : Char) : List Char :=
  civil.date.text ++ separator :: civil.time.text

@[simp] theorem length_text (sep : Char) : (civil.text sep).length = 19 := by
  simp [text]

variable {civil other}

/-- **Times as text are ordered as the times.** -/
theorem text_lt_iff (sep : Char) (short : civil.date.FourDigits)
    (otherShort : other.date.FourDigits) :
    civil.text sep < other.text sep ↔ civil.seconds < other.seconds := by
  rw [text, text, append_lt_append_iff (by simp), List.cons_lt_cons_self,
    CivilDate.text_lt_iff short otherShort, CivilDate.text_inj short otherShort,
    TimeOfDay.text_lt_iff, seconds_lt_iff]

/-- Times as text are the same for one second only. -/
theorem text_inj (sep : Char) (short : civil.date.FourDigits)
    (otherShort : other.date.FourDigits) :
    civil.text sep = other.text sep ↔ civil.seconds = other.seconds := by
  rw [eq_iff_not_lt, text_lt_iff sep short otherShort,
    text_lt_iff sep otherShort short, ← eq_iff_not_lt]

end CivilTime

/-! ## The characters of the texts -/

/-- A digit, or a separator of dates or times. -/
def IsTimeChar (c : Char) : Prop :=
  (∃ digit < 10, c = digitChar digit) ∨ c = '-' ∨ c = ':'

theorem isTimeChar_of_mem_digits (mem : c ∈ digits width num) : IsTimeChar c :=
  .inl (digitChar_mem_digits mem)

theorem CivilDate.isTimeChar_of_mem_text {date : CivilDate}
    (mem : c ∈ date.text) : IsTimeChar c := by
  simp only [CivilDate.text, List.mem_append, List.mem_cons] at mem
  rcases mem with year | rfl | month | rfl | day
  · exact isTimeChar_of_mem_digits year
  · exact .inr (.inl rfl)
  · exact isTimeChar_of_mem_digits month
  · exact .inr (.inl rfl)
  · exact isTimeChar_of_mem_digits day

theorem TimeOfDay.isTimeChar_of_mem_text {time : TimeOfDay}
    (mem : c ∈ time.text) : IsTimeChar c := by
  simp only [TimeOfDay.text, List.mem_append, List.mem_cons] at mem
  rcases mem with hour | rfl | minute | rfl | second
  · exact isTimeChar_of_mem_digits hour
  · exact .inr (.inr rfl)
  · exact isTimeChar_of_mem_digits minute
  · exact .inr (.inr rfl)
  · exact isTimeChar_of_mem_digits second

theorem IsTimeChar.of_all (holds : Char → Bool) (character : IsTimeChar c)
    (each : ('-' :: ':' :: (List.range 10).map digitChar).all holds = true) :
    holds c = true := by
  apply List.all_eq_true.mp each
  rcases character with ⟨digit, small, rfl⟩ | rfl | rfl
  · exact List.mem_cons_of_mem _ (List.mem_cons_of_mem _
      (List.mem_map_of_mem (List.mem_range.mpr small)))
  · exact List.mem_cons_self ..
  · exact List.mem_cons_of_mem _ (List.mem_cons_self ..)

/-! ## The digits of the texts -/

/-- Two characters of a shape: both are digits, or they are one separator. -/
def SameShape (c d : Char) : Prop :=
  (c.isDigit = true ∧ d.isDigit = true) ∨ (c.isDigit = false ∧ c = d)

/-- **Texts of one shape are ordered as their digits.** -/
theorem digits_of_shape_lt_iff {text other : List Char}
    (shape : List.Forall₂ SameShape text other) :
    text.filter Char.isDigit < other.filter Char.isDigit ↔ text < other := by
  induction shape with
  | nil => exact Iff.rfl
  | cons eq _ ih =>
    rcases eq with ⟨digit, otherDigit⟩ | ⟨sep, rfl⟩
    · rw [List.filter_cons_of_pos digit, List.filter_cons_of_pos otherDigit,
        List.cons_lt_cons_iff, List.cons_lt_cons_iff, ih]
    · have dropped : ¬ Char.isDigit _ = true := Bool.eq_false_iff.mp sep
      rw [List.filter_cons_of_neg dropped, List.filter_cons_of_neg dropped, List.cons_lt_cons_self,
        ih]

theorem isDigit_digitChar {digit : Nat} (small : digit < 10) :
    (digitChar digit).isDigit = true := by
  have each : ∀ digit ∈ List.range 10, (digitChar digit).isDigit = true := by decide
  exact each digit (List.mem_range.mpr small)

theorem sameShape_digits (width num other : Nat) :
    List.Forall₂ SameShape (digits width num) (digits width other) := by
  induction width with
  | zero => exact .nil
  | succ width ih =>
    exact .cons (.inl ⟨isDigit_digitChar (Nat.mod_lt _ (by decide)),
      isDigit_digitChar (Nat.mod_lt _ (by decide))⟩) ih

theorem sameShape_append {text other : List Char} {later otherLater : List Char}
    (shape : List.Forall₂ SameShape text other) (nonDigit : sep.isDigit = false)
    (rest : List.Forall₂ SameShape later otherLater) :
    List.Forall₂ SameShape (text ++ sep :: later) (other ++ sep :: otherLater) :=
  List.rel_append shape (.cons (.inr ⟨nonDigit, rfl⟩) rest)

theorem CivilTime.sameShape_text (civil other : CivilTime)
    (nonDigit : sep.isDigit = false) :
    List.Forall₂ SameShape (civil.text sep) (other.text sep) := by
  refine sameShape_append ?_ nonDigit ?_
  · exact sameShape_append (sameShape_digits ..) (by decide)
      (sameShape_append (sameShape_digits ..) (by decide) (sameShape_digits ..))
  · exact sameShape_append (sameShape_digits ..) (by decide)
      (sameShape_append (sameShape_digits ..) (by decide) (sameShape_digits ..))

def CivilTime.digitText (civil : CivilTime) : List Char :=
  (civil.text 'T').filter Char.isDigit

theorem CivilTime.filter_text (civil : CivilTime)
    (nonDigit : sep.isDigit = false) :
    (civil.text sep).filter Char.isDigit = civil.digitText := by
  have dropped : ¬ sep.isDigit = true := Bool.eq_false_iff.mp nonDigit
  have droppedT : ¬ 'T'.isDigit = true := by decide
  rw [CivilTime.digitText, CivilTime.text, CivilTime.text, List.filter_append, List.filter_append,
    List.filter_cons_of_neg dropped, List.filter_cons_of_neg droppedT]

/-- **The digits of times are ordered as the times.** -/
theorem CivilTime.digitText_lt_iff {civil other : CivilTime} (short : civil.date.FourDigits)
    (otherShort : other.date.FourDigits) :
    civil.digitText < other.digitText ↔ civil.seconds < other.seconds := by
  rw [CivilTime.digitText, CivilTime.digitText,
    digits_of_shape_lt_iff (CivilTime.sameShape_text _ _ (by decide)),
    CivilTime.text_lt_iff _ short otherShort]

theorem CivilTime.digitText_inj {civil other : CivilTime} (short : civil.date.FourDigits)
    (otherShort : other.date.FourDigits) :
    civil.digitText = other.digitText ↔ civil.seconds = other.seconds := by
  rw [eq_iff_not_lt, CivilTime.digitText_lt_iff short otherShort,
    CivilTime.digitText_lt_iff otherShort short, ← eq_iff_not_lt]

theorem filter_digits (width number : Nat) :
    (digits width number).filter Char.isDigit = digits width number := by
  rw [List.filter_eq_self]
  intro c mem
  obtain ⟨digit, small, rfl⟩ := digitChar_mem_digits mem
  exact isDigit_digitChar small

@[simp] theorem CivilTime.length_digitText (civil : CivilTime) : civil.digitText.length = 14 := by
  have dash : ¬ '-'.isDigit = true := by decide
  have letter : ¬ 'T'.isDigit = true := by decide
  have colon : ¬ ':'.isDigit = true := by decide
  rw [CivilTime.digitText, CivilTime.text, CivilDate.text, TimeOfDay.text]
  simp only [List.filter_append, filter_digits, List.filter_cons_of_neg dash,
    List.filter_cons_of_neg letter, List.filter_cons_of_neg colon, List.length_append,
    length_digits]

def unixEpoch : Int := daysBeforeYear 1970 * 86400

/-! ## The time of a number of seconds -/

def yearOfDay (day : Int) : Int :=
  let guess := day * 400 / 146097
  if daysBeforeYear (guess + 1) ≤ day then guess + 1
  else if daysBeforeYear guess ≤ day then guess
  else guess - 1

theorem yearOfDay_spec (day : Int) :
    daysBeforeYear (yearOfDay day) ≤ day ∧ day < daysBeforeYear (yearOfDay day + 1) := by
  have low : daysBeforeYear (day * 400 / 146097 - 1) ≤ day := by
    rw [daysBeforeYear]
    omega
  have high : day < daysBeforeYear (day * 400 / 146097 + 1 + 1) := by
    rw [daysBeforeYear]
    omega
  rw [yearOfDay]
  split_ifs with later here
  · exact ⟨later, high⟩
  · exact ⟨here, not_le.mp later⟩
  · exact ⟨low, by rw [Int.sub_add_cancel]; exact not_le.mp here⟩

/-- The last of the first months that begins no later than a day of the year. -/
def monthOfDay (leap : Bool) (day : Nat) : Nat → Nat
  | 0 | 1 => 1
  | month + 2 =>
    if daysBeforeMonth leap (month + 2) ≤ day then month + 2
    else monthOfDay leap day (month + 1)

theorem monthOfDay_spec (day : Nat) {last : Nat} (pos : 1 ≤ last)
    (within : day < daysBeforeMonth leap (last + 1)) :
    1 ≤ monthOfDay leap day last ∧ monthOfDay leap day last ≤ last
      ∧ daysBeforeMonth leap (monthOfDay leap day last) ≤ day
      ∧ day < daysBeforeMonth leap (monthOfDay leap day last + 1) := by
  induction last, pos using Nat.le_induction with
  | base => exact ⟨le_refl 1, le_refl 1, Nat.zero_le _, within⟩
  | succ last pos ih =>
    obtain ⟨prev, rfl⟩ := Nat.exists_eq_add_of_le' pos
    rw [monthOfDay]
    split_ifs with begun
    · exact ⟨by omega, le_refl _, begun, within⟩
    · obtain ⟨low, high, starts, ends⟩ := ih (not_le.mp begun)
      exact ⟨low, by omega, starts, ends⟩

theorem daysBeforeMonth_succ {month : Nat} (pos : 1 ≤ month) :
    daysBeforeMonth leap (month + 1) = daysBeforeMonth leap month + monthLength leap month := by
  obtain ⟨prev, rfl⟩ := Nat.exists_eq_add_of_le' pos
  rfl

def dayOfYearOfDay (day : Int) : Nat :=
  (day - daysBeforeYear (yearOfDay day)).toNat

theorem dayOfYearOfDay_lt (day : Int) :
    dayOfYearOfDay day < daysBeforeMonth (isLeapYear (yearOfDay day)) 13 := by
  obtain ⟨low, high⟩ := yearOfDay_spec day
  rw [daysBeforeYear_succ, yearLength] at high
  rw [daysBeforeMonth_end, dayOfYearOfDay]
  split_ifs at high ⊢ <;> omega

def monthOf (day : Int) : Nat :=
  monthOfDay (isLeapYear (yearOfDay day)) (dayOfYearOfDay day) 12

theorem monthOf_spec (day : Int) :
    1 ≤ monthOf day ∧ monthOf day ≤ 12
      ∧ daysBeforeMonth (isLeapYear (yearOfDay day)) (monthOf day) ≤ dayOfYearOfDay day
      ∧ dayOfYearOfDay day < daysBeforeMonth (isLeapYear (yearOfDay day)) (monthOf day + 1) :=
  monthOfDay_spec _ _ (by decide) (dayOfYearOfDay_lt day)

def CivilDate.ofDay (day : Int) : CivilDate where
  year := yearOfDay day
  month := monthOf day
  day := dayOfYearOfDay day - daysBeforeMonth (isLeapYear (yearOfDay day)) (monthOf day) + 1
  month_pos := (monthOf_spec day).1
  month_le := (monthOf_spec day).2.1
  day_pos := Nat.succ_pos _
  day_le := by
    obtain ⟨low, high, starts, ends⟩ := monthOf_spec day
    rw [daysBeforeMonth_succ _ low] at ends
    omega

/-- **A date stands for the day it was made of.** -/
theorem CivilDate.dayNumber_ofDay (day : Int) : (CivilDate.ofDay day).dayNumber = day := by
  obtain ⟨low, high, starts, ends⟩ := monthOf_spec day
  have begins := (yearOfDay_spec day).1
  have inYear : (CivilDate.ofDay day).dayOfYear = dayOfYearOfDay day := by
    rw [CivilDate.dayOfYear]
    show daysBeforeMonth (isLeapYear (yearOfDay day)) (monthOf day) + (dayOfYearOfDay day
      - daysBeforeMonth (isLeapYear (yearOfDay day)) (monthOf day) + 1 - 1) = dayOfYearOfDay day
    omega
  rw [CivilDate.dayNumber, inYear]
  show daysBeforeYear (yearOfDay day) + (dayOfYearOfDay day : Int) = day
  rw [dayOfYearOfDay, Int.toNat_of_nonneg (by omega)]
  omega

def CivilTime.ofSeconds (seconds : Int) : CivilTime where
  date := CivilDate.ofDay (seconds / 86400)
  time :=
    { hour := (seconds % 86400 / 3600).toNat
      minute := (seconds % 3600 / 60).toNat
      second := (seconds % 60).toNat
      hour_lt := by omega
      minute_lt := by omega
      second_lt := by omega }

/-- **A time stands for the seconds it was made of.** -/
theorem CivilTime.seconds_ofSeconds (seconds : Int) :
    (CivilTime.ofSeconds seconds).seconds = seconds := by
  rw [CivilTime.seconds, CivilTime.ofSeconds, CivilDate.dayNumber_ofDay, TimeOfDay.seconds]
  dsimp only
  omega

theorem CivilTime.fourDigits_ofSeconds {seconds : Int} (low : 0 ≤ seconds)
    (high : seconds < 315569520000) : (CivilTime.ofSeconds seconds).date.FourDigits := by
  obtain ⟨begins, ends⟩ := yearOfDay_spec (seconds / 86400)
  constructor
  · by_contra pre
    have bound := daysBeforeYear_mono (Int.not_le.mp pre)
    have zero : daysBeforeYear 0 = 0 := by decide
    rw [zero] at bound
    exact absurd (Int.ediv_nonneg low (by decide)) (not_le.mpr (lt_of_lt_of_le ends bound))
  · by_contra post
    have bound := daysBeforeYear_mono (Int.not_le.mp post)
    have tenThousand : daysBeforeYear (9999 + 1) = 3652425 := by decide
    have later : (3652425 : Int) ≤ seconds / 86400 := by
      rw [← tenThousand]
      exact bound.trans begins
    omega

/-- **Years of four digits** are those of the first ten thousand years. -/
theorem CivilTime.fourDigits_ofSeconds_iff {seconds : Int} :
    (CivilTime.ofSeconds seconds).date.FourDigits ↔ 0 ≤ seconds ∧ seconds < 315569520000 := by
  refine ⟨fun short => ?_, fun range => fourDigits_ofSeconds range.1 range.2⟩
  have whole := CivilTime.seconds_ofSeconds seconds
  have inDay := (CivilTime.ofSeconds seconds).time.seconds_lt
  have inYear := (CivilTime.ofSeconds seconds).date.dayOfYear_lt
  have start := daysBeforeYear_mono short.1
  have ends := daysBeforeYear_mono (Int.add_le_add_right short.2 1)
  have zero : daysBeforeYear 0 = 0 := by decide
  have tenThousand : daysBeforeYear (9999 + 1) = 3652425 := by decide
  rw [zero] at start
  rw [tenThousand, daysBeforeYear_succ] at ends
  rw [CivilTime.seconds, CivilDate.dayNumber] at whole
  omega

end CivilTime

end Cfwdon.Library
