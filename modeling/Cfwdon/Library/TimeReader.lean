import Cfwdon.Library.TimeText
import Cfwdon.Library.Text
import Mathlib.Tactic.Ring
import Mathlib.Tactic.SplitIfs

/-!
# Reading RFC 3339 texts

A reader of times: a date, a time of the day, a fraction of the second and an offset.
-/

namespace Cfwdon.Library

/-- Read a number of digits behind the ones that were read. -/
def readDigits : Nat → Nat → List Char → Option (Nat × List Char)
  | 0, value, rest => some (value, rest)
  | _ + 1, _, [] => none
  | width + 1, value, c :: rest =>
    if c.isDigit then readDigits width (value * 10 + (c.toNat - 48)) rest else none

def readChar (expected : Char) : List Char → Option (List Char)
  | c :: rest => if c = expected then some rest else none
  | [] => none

@[simp] theorem readChar_cons (c : Char) (rest : List Char) : readChar c (c :: rest) = some rest :=
  if_pos rfl

variable {chars rest : List Char}

variable {expected : Char} {c : Char} {width value num : Nat}

theorem readChar_eq_some (read : readChar expected chars = some rest) :
    chars = expected :: rest := by
  cases chars with
  | nil => cases read
  | cons c others =>
    rw [readChar] at read
    split_ifs at read with eq
    rw [eq, Option.some.inj read]

theorem digitChar_spec {digit : Nat} (small : digit < 10) :
    (digitChar digit).isDigit = true ∧ (digitChar digit).toNat - 48 = digit := by
  have each : ∀ digit ∈ List.range 10,
      (digitChar digit).isDigit = true ∧ (digitChar digit).toNat - 48 = digit := by decide
  exact each digit (List.mem_range.mpr small)

theorem digit_le (isDigit : c.isDigit = true) : c.toNat - 48 ≤ 9 := by
  have nine : '9'.toNat = 57 := by decide
  have bound := (Char.isDigit_iff_toNat.mp isDigit).2
  omega

theorem readDigits_digits (width value num : Nat) (rest : List Char) :
    readDigits width value (digits width num ++ rest)
      = some (value * 10 ^ width + num % 10 ^ width, rest) := by
  induction width generalizing value with
  | zero => simp [digits, readDigits, Nat.mod_one]
  | succ width ih =>
    have small : num / 10 ^ width % 10 < 10 := Nat.mod_lt _ (by decide)
    obtain ⟨isDigit, digit⟩ := digitChar_spec small
    have whole := Nat.div_add_mod (num % 10 ^ (width + 1)) (10 ^ width)
    rw [mod_pow_succ_div, mod_pow_succ_mod] at whole
    rw [digits, List.cons_append, readDigits, if_pos isDigit, digit, ih, ← whole]
    refine congrArg (fun value => some (value, rest)) ?_
    ring

theorem readDigits_lt
    (read : readDigits width value chars = some (num, rest)) :
    num < (value + 1) * 10 ^ width := by
  induction width generalizing value chars with
  | zero =>
    cases read
    omega
  | succ width ih =>
    cases chars with
    | nil => cases read
    | cons c chars =>
      rw [readDigits] at read
      split_ifs at read with isDigit
      have small := digit_le isDigit
      have below := ih read
      refine Nat.lt_of_lt_of_le below ?_
      rw [Nat.pow_succ', ← Nat.mul_assoc]
      exact Nat.mul_le_mul_right _ (by omega)

/-! ## Reading dates and times -/

def readDate (chars : List Char) : Option (CivilDate × List Char) := do
  let (year, rest) ← readDigits 4 0 chars
  let rest ← readChar '-' rest
  let (month, rest) ← readDigits 2 0 rest
  let rest ← readChar '-' rest
  let (day, rest) ← readDigits 2 0 rest
  if isDate : 1 ≤ month ∧ month ≤ 12 ∧ 1 ≤ day ∧ day ≤ monthLength (isLeapYear year) month then
    some (.ofNumbers year month day isDate, rest)
  else none

def readTimeOfDay (chars : List Char) : Option (TimeOfDay × List Char) := do
  let (hour, rest) ← readDigits 2 0 chars
  let rest ← readChar ':' rest
  let (minute, rest) ← readDigits 2 0 rest
  let rest ← readChar ':' rest
  let (second, rest) ← readDigits 2 0 rest
  if isTime : hour < 24 ∧ minute < 60 ∧ second < 60 then
    some (⟨hour, minute, second, isTime.1, isTime.2.1, isTime.2.2⟩, rest)
  else none

/-- The nanoseconds of the digits of a second, of which nine count. -/
def fractionNanoseconds : Nat → List Char → Nat
  | 0, _ => 0
  | _ + 1, [] => 0
  | width + 1, c :: rest => (c.toNat - 48) * 10 ^ width + fractionNanoseconds width rest

/-- Read the digits of a second, if there are some. -/
def readFraction (chars : List Char) : Option (Nat × List Char) :=
  match chars with
  | '.' :: rest =>
    let read := rest.takeWhile Char.isDigit
    if read = [] then none
    else some (fractionNanoseconds 9 read, rest.dropWhile Char.isDigit)
  | rest => some (0, rest)

def readOffset (chars : List Char) : Option (Int × List Char) :=
  match chars with
  | 'Z' :: rest => some (0, rest)
  | 'z' :: rest => some (0, rest)
  | sign :: rest => do
    let (hours, rest) ← readDigits 2 0 rest
    let rest ← readChar ':' rest
    let (minutes, rest) ← readDigits 2 0 rest
    if hours < 24 ∧ minutes < 60 then
      if sign = '+' then some (((hours * 60 + minutes : Nat) : Int), rest)
      else if sign = '-' then some (-((hours * 60 + minutes : Nat) : Int), rest)
      else none
    else none
  | [] => none

/-- Read the `T` before the time of the day. -/
def readSeparator (chars : List Char) : Option (List Char) :=
  (readChar 'T' chars).or (readChar 't' chars)

theorem fractionNanoseconds_lt {width : Nat} (each : ∀ c ∈ chars, c.isDigit = true) :
    fractionNanoseconds width chars < 10 ^ width := by
  induction width generalizing chars with
  | zero => exact Nat.one_pos
  | succ width ih =>
    cases chars with
    | nil => exact Nat.pow_pos (by decide)
    | cons c rest =>
      rw [List.forall_mem_cons] at each
      have first := Nat.mul_le_mul_right (10 ^ width) (digit_le each.1)
      have later := ih each.2
      rw [fractionNanoseconds, Nat.pow_succ]
      omega

theorem readFraction_lt {nanos : Nat} (read : readFraction chars = some (nanos, rest)) :
    nanos < 1000000000 := by
  unfold readFraction at read
  split at read
  · dsimp only at read
    split_ifs at read
    cases read
    exact fractionNanoseconds_lt fun c mem => List.mem_takeWhile_imp mem
  · cases read
    decide

def readRfc3339 (text : String) : Option OffsetDateTime :=
  (readDate text.toList).bind fun date =>
  (readSeparator date.2).bind fun rest =>
  (readTimeOfDay rest).bind fun time =>
  match found : readFraction time.2 with
  | none => none
  | some fraction =>
    (readOffset fraction.2).bind fun offset =>
      if offset.2 = [] then
        some ⟨⟨date.1, time.1⟩, fraction.1, offset.1, readFraction_lt found⟩
      else none

/-! ## The texts of readings -/

theorem readDate_text {date : CivilDate} (short : date.FourDigits) (rest : List Char) :
    readDate (date.text ++ rest) = some (date, rest) := by
  have month := date.month_lt
  have day := date.day_lt
  have year : ((date.year.toNat % 10 ^ 4 : Nat) : Int) = date.year := by
    rw [Nat.mod_eq_of_lt (CivilDate.year_lt short), Int.toNat_of_nonneg short.1]
  have isDate := And.intro date.month_pos
    (And.intro date.month_le (And.intro date.day_pos date.day_le))
  rw [CivilDate.text, List.append_assoc, List.cons_append, List.append_assoc, List.cons_append,
    readDate]
  simp only [readDigits_digits, Option.bind_eq_bind, Option.bind_some, readChar_cons,
    Nat.zero_mul, Nat.zero_add, year, Nat.mod_eq_of_lt month, Nat.mod_eq_of_lt day]
  rw [dif_pos isDate]
  rfl

theorem readTimeOfDay_text (time : TimeOfDay) (rest : List Char) :
    readTimeOfDay (time.text ++ rest) = some (time, rest) := by
  have hour := time.hour_lt
  have minute := time.minute_lt
  have second := time.second_lt
  rw [TimeOfDay.text, List.append_assoc, List.cons_append, List.append_assoc, List.cons_append,
    readTimeOfDay]
  simp only [readDigits_digits, Option.bind_eq_bind, Option.bind_some, readChar_cons,
    Nat.zero_mul, Nat.zero_add, Nat.mod_eq_of_lt (Nat.lt_trans hour (by decide : 24 < 10 ^ 2)),
    Nat.mod_eq_of_lt (Nat.lt_trans minute (by decide : 60 < 10 ^ 2)),
    Nat.mod_eq_of_lt (Nat.lt_trans second (by decide : 60 < 10 ^ 2))]
  rw [dif_pos ⟨hour, minute, second⟩]

theorem readFraction_millis {millis : Nat} (within : millis < 1000) :
    readFraction ('.' :: (digits 3 millis ++ ['Z'])) = some (millis * 1000000, ['Z']) := by
  have places : digits 3 millis = [digitChar (millis / 100 % 10),
      digitChar (millis / 10 % 10), digitChar (millis / 1 % 10)] := rfl
  have digit (num : Nat) := digitChar_spec (Nat.mod_lt num (y := 10) (by decide))
  have zulu : 'Z'.isDigit = false := by decide
  rw [readFraction, places]
  simp only [List.cons_append, List.nil_append, List.takeWhile_cons, List.dropWhile_cons,
    (digit _).1, zulu, if_true, Bool.false_eq_true, if_false, List.cons_ne_nil,
    fractionNanoseconds, (digit _).2]
  refine congrArg (fun nanos => some (nanos, ['Z'])) ?_
  omega

/-- **The text of a reading is read as it.** -/
theorem readRfc3339_isoString {now : ClockReading} (short : now.clock.date.FourDigits) :
    ∃ fits, readRfc3339 now.isoString = some ⟨now.clock, now.millisecond * 1000000, 0, fits⟩ := by
  have within := now.millisecond_lt
  have separated : ∀ rest, readSeparator ('T' :: rest) = some rest := fun rest => by
    rw [readSeparator, readChar_cons, Option.some_or]
  refine ⟨by omega, ?_⟩
  rw [readRfc3339, ClockReading.isoString, if_pos short, String.toList_ofList, CivilTime.text,
    List.append_assoc, readDate_text short, Option.bind_some, List.cons_append, separated,
    Option.bind_some, readTimeOfDay_text, Option.bind_some]
  split
  next none =>
    rw [readFraction_millis within] at none
    cases none
  next fraction found =>
    rw [readFraction_millis within] at found
    cases found
    rfl

/-! ## What is read -/

/-- What was read of a text is of ASCII characters. -/
def ReadsAscii (chars rest : List Char) : Prop :=
  ∃ read, chars = read ++ rest ∧ ∀ c ∈ read, c.toNat < 128

namespace ReadsAscii

variable {first second third : List Char}

theorem trans (pre : ReadsAscii first second) (behind : ReadsAscii second third) :
    ReadsAscii first third := by
  obtain ⟨front, rfl, frontAscii⟩ := pre
  obtain ⟨back, rfl, backAscii⟩ := behind
  refine ⟨front ++ back, (List.append_assoc ..).symm, fun c mem => ?_⟩
  exact (List.mem_append.mp mem).elim (frontAscii c) (backAscii c)

theorem cons (ascii : c.toNat < 128) (rest : List Char) : ReadsAscii (c :: rest) rest :=
  ⟨[c], rfl, fun _ mem => List.mem_singleton.mp mem ▸ ascii⟩

end ReadsAscii

theorem toNat_lt_of_isDigit (isDigit : c.isDigit = true) : c.toNat < 128 := by
  have nine : '9'.toNat = 57 := by decide
  have bound := (Char.isDigit_iff_toNat.mp isDigit).2
  omega

theorem readsAscii_readDigits
    (read : readDigits width value chars = some (num, rest)) : ReadsAscii chars rest := by
  induction width generalizing value chars with
  | zero =>
    cases read
    exact ⟨[], rfl, fun _ none => absurd none List.not_mem_nil⟩
  | succ width ih =>
    cases chars with
    | nil => cases read
    | cons c chars =>
      rw [readDigits] at read
      split_ifs at read with isDigit
      exact (ReadsAscii.cons (toNat_lt_of_isDigit isDigit) chars).trans (ih read)

theorem readsAscii_readChar (ascii : expected.toNat < 128)
    (read : readChar expected chars = some rest) :
    ReadsAscii chars rest := by
  rw [readChar_eq_some read]
  exact .cons ascii rest

theorem readDate_spec {date : CivilDate × List Char} (read : readDate chars = some date) :
    ReadsAscii chars date.2 ∧ date.1.FourDigits := by
  simp only [readDate, Option.bind_eq_bind, Option.bind_eq_some_iff, Prod.exists] at read
  obtain ⟨year, _, readYear, _, dash, month, _, readMonth, _, dash', day, rest, readDay, made⟩ :=
    read
  have bound := readDigits_lt readYear
  split_ifs at made
  cases made
  refine ⟨?_, Int.natCast_nonneg year, ?_⟩
  · exact (readsAscii_readDigits readYear).trans ((readsAscii_readChar (by decide) dash).trans
      ((readsAscii_readDigits readMonth).trans ((readsAscii_readChar (by decide) dash').trans
        (readsAscii_readDigits readDay))))
  · show (year : Int) ≤ 9999
    omega

theorem readsAscii_readTimeOfDay {time : TimeOfDay × List Char}
    (read : readTimeOfDay chars = some time) : ReadsAscii chars time.2 := by
  simp only [readTimeOfDay, Option.bind_eq_bind, Option.bind_eq_some_iff, Prod.exists] at read
  obtain ⟨hour, _, readHour, _, colon, minute, _, readMinute, _, colon', second, rest,
    readSecond, made⟩ := read
  split_ifs at made
  cases made
  exact (readsAscii_readDigits readHour).trans ((readsAscii_readChar (by decide) colon).trans
    ((readsAscii_readDigits readMinute).trans ((readsAscii_readChar (by decide) colon').trans
      (readsAscii_readDigits readSecond))))

theorem readsAscii_readSeparator (read : readSeparator chars = some rest) :
    ReadsAscii chars rest := by
  rw [readSeparator, Option.or_eq_some_iff] at read
  rcases read with capital | ⟨-, small⟩
  · exact readsAscii_readChar (by decide) capital
  · exact readsAscii_readChar (by decide) small

theorem readsAscii_readFraction {frac : Nat × List Char}
    (read : readFraction chars = some frac) : ReadsAscii chars frac.2 := by
  unfold readFraction at read
  split at read
  next rest =>
    dsimp only at read
    split_ifs at read
    cases read
    refine (ReadsAscii.cons (by decide) rest).trans ⟨rest.takeWhile Char.isDigit,
      List.takeWhile_append_dropWhile.symm, fun c mem => ?_⟩
    exact toNat_lt_of_isDigit (List.mem_takeWhile_imp mem)
  next =>
    cases read
    exact ⟨[], rfl, fun _ none => absurd none List.not_mem_nil⟩

theorem readsAscii_readOffset {offset : Int × List Char} (read : readOffset chars = some offset) :
    ReadsAscii chars offset.2 := by
  unfold readOffset at read
  split at read
  next rest =>
    cases read
    exact .cons (by decide) rest
  next rest =>
    cases read
    exact .cons (by decide) rest
  next sign rest _ _ =>
    simp only [Option.bind_eq_bind, Option.bind_eq_some_iff, Prod.exists] at read
    obtain ⟨hours, _, readHours, _, colon, minutes, _, readMinutes, made⟩ := read
    have numbers := (readsAscii_readDigits readHours).trans
      ((readsAscii_readChar (by decide) colon).trans (readsAscii_readDigits readMinutes))
    split_ifs at made with fits plus minus
    · cases made
      exact (ReadsAscii.cons (by rw [plus]; decide) rest).trans numbers
    · cases made
      exact (ReadsAscii.cons (by rw [minus]; decide) rest).trans numbers
  next => cases read

/-- **Only ASCII texts with years of four digits are read.** -/
theorem readRfc3339_spec {text : String} {time : OffsetDateTime}
    (read : readRfc3339 text = some time) :
    (∀ c ∈ text.toList, c.toNat < 128) ∧ time.clock.date.FourDigits := by
  rw [readRfc3339] at read
  obtain ⟨date, readDay, read⟩ := Option.bind_eq_some_iff.mp read
  obtain ⟨rest, separated, read⟩ := Option.bind_eq_some_iff.mp read
  obtain ⟨ofDay, readTime, read⟩ := Option.bind_eq_some_iff.mp read
  split at read
  next => cases read
  next fraction readParts =>
    obtain ⟨offset, readZone, read⟩ := Option.bind_eq_some_iff.mp read
    split_ifs at read with ended
    cases read
    obtain ⟨dateAscii, short⟩ := readDate_spec readDay
    obtain ⟨front, whole, ascii⟩ := dateAscii.trans ((readsAscii_readSeparator separated).trans
      ((readsAscii_readTimeOfDay readTime).trans ((readsAscii_readFraction readParts).trans
        (readsAscii_readOffset readZone))))
    rw [ended, List.append_nil] at whole
    exact ⟨whole ▸ ascii, short⟩

end Cfwdon.Library
