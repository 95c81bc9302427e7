import Cfwdon.Library.CivilTime

/-!
# Times as RFC 3339 texts

A time with an offset is written by its own clock, with the digits of the second that are
not zero and the offset after it.  A reading of a clock in UTC is written with three
digits of the second and `Z`.  The two are compared as texts here.
-/

namespace Cfwdon.Library

/-- A time on a clock that is ahead of UTC by a number of minutes. -/
structure OffsetDateTime where
  clock : CivilTime
  nanosecond : Nat
  offset : Int
  nanosecond_lt : nanosecond < 1000000000

def OffsetDateTime.utc (clock : CivilTime) : OffsetDateTime where
  clock := clock
  nanosecond := 0
  offset := 0
  nanosecond_lt := by decide

/-- The digits of the second, as far as they are not zero. -/
def fractionText (nanosecond : Nat) : List Char :=
  if nanosecond = 0 then [] else '.' :: trimmedDigits 9 nanosecond

/-- The offset, or `Z` for none. -/
def offsetText (offset : Int) : List Char :=
  if offset = 0 then ['Z']
  else (if offset < 0 then '-' else '+')
    :: (digits 2 (offset.natAbs / 60) ++ ':' :: digits 2 (offset.natAbs % 60))

namespace OffsetDateTime

variable (time : OffsetDateTime)

/-- The nanoseconds from the first of the year 0, in UTC. -/
def instant : Int :=
  (time.clock.seconds - time.offset * 60) * 1000000000 + time.nanosecond

/-- A time as text, for a year of four digits. -/
def text : String :=
  String.ofList (time.clock.text 'T' ++ (fractionText time.nanosecond ++ offsetText time.offset))

end OffsetDateTime

/-- `OffsetDateTime::parse` and `format` with `Rfc3339`. -/
structure Rfc3339 where
  parse : String → Option OffsetDateTime
  format : OffsetDateTime → Except String String

/-- What is documented of the two: a parsed text has a year of four digits, and a time
with such a year is formatted to its RFC 3339 text. -/
structure Rfc3339.Lawful (rfc3339 : Rfc3339) : Prop where
  fourDigits : ∀ text time, rfc3339.parse text = some time → time.clock.date.FourDigits
  format : ∀ time : OffsetDateTime, time.clock.date.FourDigits → rfc3339.format time = .ok time.text

/-! ## Readings of a clock -/

structure ClockReading where
  clock : CivilTime
  millisecond : Nat
  millisecond_lt : millisecond < 1000

/-- A year outside of the four digits. -/
def expandedYearText (year : Int) : List Char :=
  (if year < 0 then '-' else '+') :: digits 6 year.natAbs

namespace ClockReading

variable (now : ClockReading)

/-- The milliseconds from the first of the year 0. -/
def millis : Int :=
  now.clock.seconds * 1000 + now.millisecond

/-- The nanoseconds from the first of the year 0. -/
def instant : Int :=
  now.millis * 1000000

instance (date : CivilDate) : Decidable date.FourDigits :=
  inferInstanceAs (Decidable (_ ∧ _))

/-- `toISOString`. -/
def isoString : String :=
  String.ofList (
    if now.clock.date.FourDigits then
      now.clock.text 'T' ++ '.' :: (digits 3 now.millisecond ++ ['Z'])
    else
      expandedYearText now.clock.date.year
        ++ '-' :: (digits 2 now.clock.date.month ++ '-' :: digits 2 now.clock.date.day)
        ++ 'T' :: now.clock.time.text ++ '.' :: (digits 3 now.millisecond ++ ['Z']))

end ClockReading

/-! ## The ends of the texts -/

/-- `Z` comes after whatever follows three digits of a second. -/
theorem zulu_not_lt {post : List Char}
    (each : ∀ c ∈ post, ∃ digit < 10, c = digitChar digit) (offset : Int) :
    ¬ ['Z'] < post ++ offsetText offset := by
  cases post with
  | nil =>
    rw [List.nil_append, offsetText]
    split_ifs <;> simp [List.cons_lt_cons_iff]
  | cons c rest =>
    obtain ⟨digit, small, rfl⟩ := each c (List.mem_cons_self ..)
    have below : ∀ digit ∈ List.range 10,
        ¬ 'Z' < digitChar digit ∧ 'Z' ≠ digitChar digit := by decide
    obtain ⟨notLess, other⟩ := below digit (List.mem_range.mpr small)
    rw [List.cons_append, List.cons_lt_cons_iff]
    rintro (less | ⟨eq, -⟩)
    · exact notLess less
    · exact other eq

/-- A digit comes before `Z` and after the sign of an offset. -/
theorem digit_lt_offsetText_iff {digit : Nat} (small : digit < 10) (rest : List Char)
    (offset : Int) : digitChar digit :: rest < offsetText offset ↔ offset = 0 := by
  have order : ∀ digit ∈ List.range 10, digitChar digit < 'Z' ∧ ¬ digitChar digit < '-'
      ∧ digitChar digit ≠ '-' ∧ ¬ digitChar digit < '+' ∧ digitChar digit ≠ '+' := by
    decide
  obtain ⟨zulu, minus, notMinus, plus, notPlus⟩ := order digit (List.mem_range.mpr small)
  rw [offsetText]
  by_cases utc : offset = 0
  · rw [if_pos utc, List.cons_lt_cons_iff]
    exact iff_of_true (.inl zulu) utc
  · rw [if_neg utc, List.cons_lt_cons_iff]
    refine iff_of_false ?_ utc
    split_ifs
    · rintro (less | ⟨eq, -⟩)
      · exact minus less
      · exact notMinus eq
    · rintro (less | ⟨eq, -⟩)
      · exact plus less
      · exact notPlus eq

/-- How far after the millisecond it is in a time without an offset is reached, by the
digits of the second that are written: with fewer than three of them the text ends in `Z`
where that of a reading has a digit. -/
def missingDigits (nanosecond : Nat) : Nat :=
  if nanosecond = 0 then 1000
  else if nanosecond % 100000000 = 0 then 100
  else if nanosecond % 10000000 = 0 then 10
  else 0

/-- The millisecond of its second from which on a text comes no later than that of a
reading. -/
def reachedMillis (nanosecond : Nat) (offset : Int) : Nat :=
  nanosecond / 1000000 + if offset = 0 then missingDigits nanosecond else 0

/-- A second with fewer than three digits. -/
theorem short_fraction_lt_iff {width rest frac millis : Nat} (offset : Int)
    (total : width + (rest + 1) = 3) (fits : frac < 10 ^ width) (within : millis < 1000) :
    digits 3 millis ++ ['Z'] < digits width frac ++ offsetText offset
      ↔ millis < frac * 10 ^ (rest + 1) + if offset = 0 then 10 ^ (rest + 1) else 0 := by
  have pos : 0 < 10 ^ (rest + 1) := Nat.pow_pos (by decide)
  have high : millis / 10 ^ (rest + 1) < 10 ^ width := by
    rw [Nat.div_lt_iff_lt_mul pos, ← Nat.pow_add, total]
    exact within
  rw [← total, digits_add, List.append_assoc, append_lt_append_iff (by simp),
    digits_lt_digits_iff high fits, digits_inj high fits, digits, List.cons_append,
    digit_lt_offsetText_iff (Nat.mod_lt _ (by decide)), Nat.div_lt_iff_lt_mul pos]
  by_cases utc : offset = 0
  · rw [if_pos utc, ← Nat.succ_mul, ← Nat.div_lt_iff_lt_mul pos, ← Nat.div_lt_iff_lt_mul pos]
    simp only [utc, and_true]
    omega
  · simp [utc]

/-- **The ends of two texts of one second.** -/
theorem fraction_lt_iff {nanos millis : Nat} (offset : Int)
    (below : nanos < 1000000000) (within : millis < 1000) :
    '.' :: (digits 3 millis ++ ['Z']) < fractionText nanos ++ offsetText offset
      ↔ millis < reachedMillis nanos offset := by
  rw [fractionText, reachedMillis, missingDigits]
  by_cases none : nanos = 0
  · rw [if_pos none, if_pos none, List.nil_append, none, offsetText]
    by_cases utc : offset = 0
    · rw [if_pos utc, if_pos utc, List.cons_lt_cons_iff]
      exact iff_of_true (.inl (by decide)) (by omega)
    · rw [if_neg utc, if_neg utc, List.cons_lt_cons_iff]
      refine iff_of_false ?_ (by omega)
      split_ifs <;> simp
  · rw [if_neg none, if_neg none, List.cons_append, List.cons_lt_cons_self]
    by_cases one : nanos % 100000000 = 0
    · have last : nanos / 100000000 % 10 ≠ 0 := by omega
      have shortened : trimmedDigits 9 nanos = digits 1 (nanos / 100000000) :=
        (@trimmedDigits_of_mod nanos 1 8 one).trans (trimmedDigits_of_last last)
      rw [if_pos one, shortened, @short_fraction_lt_iff 1 1 _ _ offset rfl (by omega) within]
      split_ifs <;> omega
    · rw [if_neg one]
      by_cases two : nanos % 10000000 = 0
      · have last : nanos / 10000000 % 10 ≠ 0 := by omega
        have shortened : trimmedDigits 9 nanos = digits 2 (nanos / 10000000) :=
          (@trimmedDigits_of_mod nanos 2 7 two).trans (trimmedDigits_of_last last)
        rw [if_pos two, shortened, @short_fraction_lt_iff 2 0 _ _ offset rfl (by omega) within]
        split_ifs <;> omega
      · obtain ⟨post, got, each⟩ := @trimmedDigits_long 2 nanos 6 two
        rw [if_neg two, got, List.append_assoc, append_lt_append_iff (by simp),
          digits_lt_digits_iff within (by omega)]
        have later := zulu_not_lt each offset
        simp only [later, and_false, or_false, ite_self, Nat.add_zero]
        rfl

/-! ## The order of the texts -/

/-- **The texts of two readings are ordered as the readings.** -/
theorem ClockReading.isoString_lt_iff {now other : ClockReading}
    (short : now.clock.date.FourDigits) (otherShort : other.clock.date.FourDigits) :
    now.isoString < other.isoString ↔ now.millis < other.millis := by
  have within := now.millisecond_lt
  have otherWithin := other.millisecond_lt
  have ends : digits 3 now.millisecond ++ ['Z'] < digits 3 other.millisecond ++ ['Z']
      ↔ now.millisecond < other.millisecond := by
    rw [append_lt_append_iff (by simp), digits_lt_digits_iff within otherWithin]
    simp
  rw [String.lt_iff_toList_lt, ClockReading.isoString, ClockReading.isoString,
    String.toList_ofList, String.toList_ofList, if_pos short, if_pos otherShort,
    append_lt_append_iff (by simp), List.cons_lt_cons_self, ends,
    CivilTime.text_lt_iff 'T' short otherShort, CivilTime.text_inj 'T' short otherShort,
    ClockReading.millis, ClockReading.millis]
  constructor <;> omega

namespace OffsetDateTime

variable (time : OffsetDateTime) (now : ClockReading)

/-- The millisecond of its clock from which on a text comes no later than that of a
reading: the clock is read without its offset. -/
def reached : Int :=
  time.clock.seconds * 1000 + reachedMillis time.nanosecond time.offset

theorem reachedMillis_le : reachedMillis time.nanosecond time.offset ≤ 1000 := by
  have below := time.nanosecond_lt
  rw [reachedMillis, missingDigits]
  split_ifs <;> omega

theorem sign_lt_text {sign : Char} (isSign : sign = '-' ∨ sign = '+') (rest : List Char)
    (clock : CivilTime) (after : List Char) : sign :: rest < clock.text 'T' ++ after := by
  rw [CivilTime.text, CivilDate.text, digits]
  simp only [List.cons_append, List.cons_lt_cons_iff]
  have order : ∀ digit ∈ List.range 10, '-' < digitChar digit ∧ '+' < digitChar digit := by
    decide
  obtain ⟨minus, plus⟩ := order _ (List.mem_range.mpr (Nat.mod_lt _ (by decide)))
  rcases isSign with rfl | rfl
  · exact .inl minus
  · exact .inl plus

theorem isoString_lt_text_of_expanded (expanded : ¬ now.clock.date.FourDigits) :
    now.isoString < time.text := by
  rw [String.lt_iff_toList_lt, ClockReading.isoString, text, String.toList_ofList,
    String.toList_ofList, if_neg expanded, expandedYearText]
  simp only [List.cons_append]
  apply sign_lt_text
  split_ifs
  · exact .inl rfl
  · exact .inr rfl

variable {time now}

theorem isoString_lt_text_iff (short : time.clock.date.FourDigits)
    (nowShort : now.clock.date.FourDigits) :
    now.isoString < time.text ↔ now.millis < time.reached := by
  have within := now.millisecond_lt
  have most := time.reachedMillis_le
  rw [String.lt_iff_toList_lt, ClockReading.isoString, text, String.toList_ofList,
    String.toList_ofList, if_pos nowShort, append_lt_append_iff (by simp),
    CivilTime.text_lt_iff 'T' nowShort short, CivilTime.text_inj 'T' nowShort short,
    fraction_lt_iff _ time.nanosecond_lt within, ClockReading.millis, reached]
  constructor <;> omega

/-- **When a text comes no later than that of a reading.** -/
theorem text_le_isoString_iff (short : time.clock.date.FourDigits) :
    time.text ≤ now.isoString ↔ now.clock.date.FourDigits ∧ time.reached ≤ now.millis := by
  rw [← not_lt]
  by_cases nowShort : now.clock.date.FourDigits
  · rw [isoString_lt_text_iff short nowShort, not_lt]
    exact (and_iff_right nowShort).symm
  · have less := isoString_lt_text_of_expanded time now nowShort
    exact iff_of_false (not_not_intro less) fun ⟨fits, _⟩ => nowShort fits

end OffsetDateTime

end Cfwdon.Library
