import Cfwdon.Library.TimeReader

/-!
# Normalized times

The times that other servers send are stored in UTC with three digits of the second, so that
they can be compared as texts.  A time is moved to UTC first.  That ends in a panic after the
year 9999, and before the year 0 the text begins with a sign.

The parser is a parameter.
-/

namespace Cfwdon.Times

open Library

/-- Why a call does not return. -/
inductive Panic where
  | dateTimeOutOfRange
  | byteIndexOutOfBounds
  | notCharBoundary
  deriving DecidableEq

def utcSeconds (time : OffsetDateTime) : Int :=
  time.clock.seconds - time.offset * 60

/-- `to_offset` for UTC: the years of a date go from -9999 to 9999. -/
def toUtc (time : OffsetDateTime) : Except Panic OffsetDateTime :=
  let clock := CivilTime.ofSeconds (utcSeconds time)
  if -9999 ≤ clock.date.year ∧ clock.date.year ≤ 9999 then
    .ok ⟨clock, time.nanosecond, 0, time.nanosecond_lt⟩
  else .error .dateTimeOutOfRange

/-- A year of that range with `{:04}`, where the sign takes one of the places. -/
def yearText (year : Int) : List Char :=
  if year < 0 then
    '-' :: (if -1000 < year then digits 3 year.natAbs else digits 4 year.natAbs)
  else digits 4 year.toNat

def utcMillisText (utc : OffsetDateTime) : String :=
  String.ofList
    (yearText utc.clock.date.year
      ++ '-' :: (digits 2 utc.clock.date.month ++ '-' :: digits 2 utc.clock.date.day)
      ++ 'T' :: (utc.clock.time.text ++ '.' :: (digits 3 (utc.nanosecond / 1000000) ++ ['Z'])))

def normalizeRfc3339MillisUtc (rfc3339 : Rfc3339) (value : String) :
    Except Panic (Option String) :=
  match rfc3339.parse (trim value) with
  | none => .ok none
  | some parsed => do
    let utc ← toUtc parsed
    .ok (some (utcMillisText utc))

/-! ## The shape of the result -/

/-- Whether a text has the shape of another, in which a zero stands for any digit. -/
def hasShape : List Char → List Char → Bool
  | [], [] => true
  | p :: pattern, c :: chars =>
    (if p = '0' then c.isDigit else p == c) && hasShape pattern chars
  | _, _ => false

/-- The shape of normalized times. -/
def IsTimestamp (text : String) : Prop :=
  hasShape "0000-00-00T00:00:00.000Z".toList text.toList = true

theorem hasShape_append {front pat pre chars : List Char}
    (starts : hasShape front pre = true) :
    hasShape (front ++ pat) (pre ++ chars) = hasShape pat chars := by
  induction front generalizing pre with
  | nil =>
    cases pre with
    | nil => rfl
    | cons c rest => cases starts
  | cons p front ih =>
    cases pre with
    | nil => cases starts
    | cons c rest =>
      rw [hasShape, Bool.and_eq_true] at starts
      rw [List.cons_append, List.cons_append, hasShape, starts.1, Bool.true_and, ih starts.2]

theorem hasShape_digits (width num : Nat) :
    hasShape (List.replicate width '0') (digits width num) = true := by
  induction width with
  | zero => rfl
  | succ width ih =>
    have small : num / 10 ^ width % 10 < 10 := Nat.mod_lt _ (by decide)
    rw [List.replicate_succ, digits, hasShape, if_pos rfl, (digitChar_spec small).1, ih]
    rfl

variable {now : ClockReading}

theorem isTimestamp_isoString (short : now.clock.date.FourDigits) : IsTimestamp now.isoString := by
  have pat : "0000-00-00T00:00:00.000Z".toList
      = List.replicate 4 '0' ++ (['-'] ++ (List.replicate 2 '0' ++ (['-'] ++
        (List.replicate 2 '0' ++ (['T'] ++ (List.replicate 2 '0' ++ ([':'] ++
        (List.replicate 2 '0' ++ ([':'] ++ (List.replicate 2 '0' ++ (['.'] ++
        (List.replicate 3 '0' ++ ['Z'])))))))))))) := by decide
  have wrote : now.isoString.toList
      = digits 4 now.clock.date.year.toNat ++ (['-'] ++ (digits 2 now.clock.date.month
        ++ (['-'] ++ (digits 2 now.clock.date.day ++ (['T'] ++ (digits 2 now.clock.time.hour
        ++ ([':'] ++ (digits 2 now.clock.time.minute ++ ([':']
        ++ (digits 2 now.clock.time.second ++ (['.'] ++ (digits 3 now.millisecond
        ++ ['Z'])))))))))))) := by
    rw [ClockReading.isoString, if_pos short, String.toList_ofList, CivilTime.text,
      CivilDate.text, TimeOfDay.text]
    simp only [List.append_assoc, List.cons_append, List.nil_append]
  have single (c : Char) (other : c ≠ '0') : hasShape [c] [c] = true := by
    rw [hasShape, if_neg other, beq_self_eq_true]
    rfl
  rw [IsTimestamp, pat, wrote]
  rw [hasShape_append (hasShape_digits 4 _), hasShape_append (single '-' (by decide)),
    hasShape_append (hasShape_digits 2 _), hasShape_append (single '-' (by decide)),
    hasShape_append (hasShape_digits 2 _), hasShape_append (single 'T' (by decide)),
    hasShape_append (hasShape_digits 2 _), hasShape_append (single ':' (by decide)),
    hasShape_append (hasShape_digits 2 _), hasShape_append (single ':' (by decide)),
    hasShape_append (hasShape_digits 2 _), hasShape_append (single '.' (by decide)),
    hasShape_append (hasShape_digits 3 _), single 'Z' (by decide)]

theorem not_isTimestamp_of_sign {rest : List Char} :
    ¬ IsTimestamp (String.ofList ('-' :: rest)) := by
  have pat : "0000-00-00T00:00:00.000Z".toList
      = '0' :: "000-00-00T00:00:00.000Z".toList := by decide
  have chars : (String.ofList ('-' :: rest)).toList = '-' :: rest := String.toList_ofList
  rw [IsTimestamp, pat, chars, hasShape]
  intro shaped
  cases (Bool.and_eq_true_iff.mp shaped).1

/-! ## Results -/

def utcReading (time : OffsetDateTime) : ClockReading where
  clock := CivilTime.ofSeconds (utcSeconds time)
  millisecond := time.nanosecond / 1000000
  millisecond_lt := by
    have below := time.nanosecond_lt
    omega

def truncatedMillis (time : OffsetDateTime) : Int :=
  time.instant / 1000000

theorem instant_eq (time : OffsetDateTime) :
    time.instant = utcSeconds time * 1000000000 + time.nanosecond := rfl

theorem millis_utcReading (time : OffsetDateTime) :
    (utcReading time).millis = truncatedMillis time := by
  have seconds : (utcReading time).clock.seconds = utcSeconds time :=
    CivilTime.seconds_ofSeconds _
  have rest : (utcReading time).millisecond = time.nanosecond / 1000000 := rfl
  have below := time.nanosecond_lt
  rw [ClockReading.millis, seconds, rest, truncatedMillis, instant_eq]
  omega

/-- The instant is in the years from 0 to 9999, in UTC. -/
def InFourDigitYears (time : OffsetDateTime) : Prop :=
  0 ≤ time.instant ∧ time.instant < 315569520000 * 1000000000

theorem fourDigits_iff (time : OffsetDateTime) :
    (utcReading time).clock.date.FourDigits ↔ InFourDigitYears time := by
  have below := time.nanosecond_lt
  have range : (utcReading time).clock.date.FourDigits
      ↔ 0 ≤ utcSeconds time ∧ utcSeconds time < 315569520000 :=
    CivilTime.fourDigits_ofSeconds_iff
  rw [range, InFourDigitYears, instant_eq]
  constructor <;> omega

variable {rfc3339 : Rfc3339} {value result : String} {time : OffsetDateTime}

/-- **What is returned for a time**: the text of its reading in the years of four digits,
and before them a text that begins with a sign. -/
theorem normalize_cases (read : rfc3339.parse (trim value) = some time) :
    (InFourDigitYears time
        ∧ normalizeRfc3339MillisUtc rfc3339 value = .ok (some (utcReading time).isoString))
      ∨ (time.instant < 0
        ∧ ∃ rest, normalizeRfc3339MillisUtc rfc3339 value
          = .ok (some (String.ofList ('-' :: rest))))
      ∨ (¬ InFourDigitYears time
        ∧ normalizeRfc3339MillisUtc rfc3339 value = .error .dateTimeOutOfRange) := by
  rw [normalizeRfc3339MillisUtc, read]
  dsimp only
  by_cases inRange : -9999 ≤ (utcReading time).clock.date.year
      ∧ (utcReading time).clock.date.year ≤ 9999
  · have moved : toUtc time = .ok ⟨(utcReading time).clock, time.nanosecond, 0,
        time.nanosecond_lt⟩ := if_pos inRange
    rw [moved]
    by_cases negative : (utcReading time).clock.date.year < 0
    · have outside : ¬ InFourDigitYears time := fun fits =>
        absurd ((fourDigits_iff time).mpr fits).1 (not_le.mpr negative)
      have pre : time.instant < 0 := by
        have bound := @CivilTime.fourDigits_ofSeconds_iff (utcSeconds time)
        have whole := CivilTime.seconds_ofSeconds (utcSeconds time)
        have inDay := (CivilTime.ofSeconds (utcSeconds time)).time.seconds_lt
        have inYear := (CivilTime.ofSeconds (utcSeconds time)).date.dayOfYear_lt
        have ends := daysBeforeYear_mono (Int.add_one_le_iff.mpr negative)
        have zero : daysBeforeYear 0 = 0 := by decide
        have below := time.nanosecond_lt
        have clock : (utcReading time).clock = CivilTime.ofSeconds (utcSeconds time) := rfl
        rw [clock] at ends
        rw [zero, daysBeforeYear_succ] at ends
        rw [CivilTime.seconds, CivilDate.dayNumber] at whole
        rw [instant_eq]
        omega
      refine Or.inr (Or.inl ⟨pre, ?_⟩)
      obtain ⟨places, sign⟩ : ∃ places,
          yearText (utcReading time).clock.date.year = '-' :: places := ⟨_, if_pos negative⟩
      have wrote : ∃ rest, utcMillisText ⟨(utcReading time).clock, time.nanosecond, 0,
          time.nanosecond_lt⟩ = String.ofList ('-' :: rest) := by
        rw [utcMillisText, sign]
        exact ⟨_, rfl⟩
      obtain ⟨rest, wrote⟩ := wrote
      exact ⟨rest, congrArg (fun text => Except.ok (some text)) wrote⟩
    · have short : (utcReading time).clock.date.FourDigits :=
        ⟨Int.not_lt.mp negative, inRange.2⟩
      refine Or.inl ⟨(fourDigits_iff time).mp short, ?_⟩
      refine congrArg (fun text => Except.ok (some text)) ?_
      rw [utcMillisText, ClockReading.isoString, if_pos short, yearText, if_neg negative,
        CivilTime.text, CivilDate.text, List.append_assoc, List.append_assoc, List.append_assoc]
      rfl
  · have moved : toUtc time = .error .dateTimeOutOfRange := if_neg inRange
    rw [moved]
    refine Or.inr (Or.inr ⟨fun fits => inRange ?_, rfl⟩)
    obtain ⟨low, high⟩ := (fourDigits_iff time).mpr fits
    exact ⟨by omega, high⟩

/-! ## When it is as it should be -/

/-- The parser reads a reading in UTC from its text. -/
def ReadsReadings (rfc3339 : Rfc3339) : Prop :=
  ∀ now : ClockReading, now.clock.date.FourDigits →
    ∃ fits, rfc3339.parse now.isoString = some ⟨now.clock, now.millisecond * 1000000, 0, fits⟩

/-- Two results are ordered as the times, cut off to milliseconds. -/
def OrderedAs (result other : String) (time otherTime : OffsetDateTime) : Prop :=
  (result < other ↔ truncatedMillis time < truncatedMillis otherTime)
    ∧ (other < result ↔ truncatedMillis otherTime < truncatedMillis time)

/-- The time is returned in the one shape, is its own result, and is ordered with all
others that are returned as the times are. -/
def NormalizesWell (rfc3339 : Rfc3339) (value : String) (time : OffsetDateTime) : Prop :=
  ∃ result, normalizeRfc3339MillisUtc rfc3339 value = .ok (some result)
    ∧ IsTimestamp result
    ∧ normalizeRfc3339MillisUtc rfc3339 result = .ok (some result)
    ∧ ∀ other otherTime otherResult, rfc3339.parse (trim other) = some otherTime →
      normalizeRfc3339MillisUtc rfc3339 other = .ok (some otherResult) →
      OrderedAs result otherResult time otherTime

theorem trim_isoString (short : now.clock.date.FourDigits) :
    trim now.isoString = now.isoString := by
  refine trimMatches_of_forall fun c mem => Bool.eq_false_iff.mpr fun white => ?_
  rw [ClockReading.isoString, if_pos short, String.toList_ofList, CivilTime.text] at mem
  have noBlank : ∀ d : Char, IsTimeChar d → isWhitespace d = false := fun d isTimeChar => by
    have kept := isTimeChar.of_all (fun d => !isWhitespace d) (by decide)
    simpa using kept
  have digit : ∀ digit ∈ List.range 10, isWhitespace (digitChar digit) = false := by decide
  have apart : isWhitespace 'T' = false ∧ isWhitespace '.' = false
      ∧ isWhitespace 'Z' = false := by decide
  simp only [List.mem_append, List.mem_cons, List.not_mem_nil, or_false] at mem
  rcases mem with (date | rfl | clock) | rfl | millis | rfl
  · rw [noBlank c (CivilDate.isTimeChar_of_mem_text date)] at white
    cases white
  · rw [apart.1] at white
    cases white
  · rw [noBlank c (TimeOfDay.isTimeChar_of_mem_text clock)] at white
    cases white
  · rw [apart.2.1] at white
    cases white
  · obtain ⟨num, small, rfl⟩ := digitChar_mem_digits millis
    rw [digit num (List.mem_range.mpr small)] at white
    cases white
  · rw [apart.2.2] at white
    cases white

theorem truncatedMillis_reading
    (below : now.millisecond * 1000000 < 1000000000) :
    truncatedMillis ⟨now.clock, now.millisecond * 1000000, 0, below⟩ = now.millis := by
  rw [truncatedMillis, OffsetDateTime.instant, ClockReading.millis]
  dsimp only
  omega

theorem inFourDigitYears_reading
    (below : (utcReading time).millisecond * 1000000 < 1000000000) :
    InFourDigitYears ⟨(utcReading time).clock, (utcReading time).millisecond * 1000000, 0, below⟩
      ↔ InFourDigitYears time := by
  have seconds : (utcReading time).clock.seconds = utcSeconds time :=
    CivilTime.seconds_ofSeconds _
  have frac := time.nanosecond_lt
  have within := (utcReading time).millisecond_lt
  rw [InFourDigitYears, InFourDigitYears, instant_eq time, OffsetDateTime.instant]
  dsimp only
  rw [seconds]
  constructor <;> omega

theorem sign_lt_isoString (short : now.clock.date.FourDigits)
    (rest : List Char) : String.ofList ('-' :: rest) < now.isoString := by
  rw [String.lt_iff_toList_lt, String.toList_ofList, ClockReading.isoString, if_pos short,
    String.toList_ofList]
  exact OffsetDateTime.sign_lt_text (Or.inl rfl) rest now.clock _

/-- **In the years of four digits** times are normalized well. -/
theorem normalizesWell_of_inFourDigitYears (reads : ReadsReadings rfc3339)
    (read : rfc3339.parse (trim value) = some time) (fits : InFourDigitYears time) :
    NormalizesWell rfc3339 value time := by
  have short := (fourDigits_iff time).mpr fits
  have gave : normalizeRfc3339MillisUtc rfc3339 value = .ok (some (utcReading time).isoString) := by
    rcases normalize_cases read with ⟨-, gave⟩ | ⟨pre, -⟩ | ⟨outside, -⟩
    · exact gave
    · exact absurd fits.1 (not_le.mpr pre)
    · exact absurd fits outside
  refine ⟨_, gave, isTimestamp_isoString short, ?_, ?_⟩
  · obtain ⟨below, readAgain⟩ := reads (utcReading time) short
    rw [← trim_isoString short] at readAgain
    rcases normalize_cases readAgain with ⟨fitsAgain, again⟩ | ⟨pre, -⟩ | ⟨outside, -⟩
    · have shortAgain := (fourDigits_iff _).mpr fitsAgain
      have eq := (millis_utcReading _).trans (truncatedMillis_reading below)
      refine again.trans (congrArg (fun text => Except.ok (some text)) ?_)
      rw [eq_iff_not_lt, ClockReading.isoString_lt_iff shortAgain short,
        ClockReading.isoString_lt_iff short shortAgain, eq]
      exact ⟨lt_irrefl _, lt_irrefl _⟩
    · exact absurd ((inFourDigitYears_reading below).mpr fits).1 (not_le.mpr pre)
    · exact absurd ((inFourDigitYears_reading below).mpr fits) outside
  · intro other otherTime otherResult readOther returnedOther
    rw [OrderedAs, ← millis_utcReading time, ← millis_utcReading otherTime]
    rcases normalize_cases readOther with ⟨otherFits, other_eq⟩ | ⟨pre, rest, other_eq⟩
      | ⟨-, panics⟩
    · rw [other_eq] at returnedOther
      cases returnedOther
      have otherShort := (fourDigits_iff otherTime).mpr otherFits
      exact ⟨ClockReading.isoString_lt_iff short otherShort,
        ClockReading.isoString_lt_iff otherShort short⟩
    · rw [other_eq] at returnedOther
      cases returnedOther
      have less := sign_lt_isoString short rest
      have prior : (utcReading otherTime).millis < (utcReading time).millis := by
        have start := fits.1
        rw [millis_utcReading, millis_utcReading, truncatedMillis, truncatedMillis]
        omega
      exact ⟨iff_of_false (not_lt_of_gt less) (not_lt_of_gt prior), iff_of_true less prior⟩
    · rw [panics] at returnedOther
      cases returnedOther

/-- **Times are normalized well exactly in the years of four digits.** -/
theorem normalizes_iff (reads : ReadsReadings rfc3339)
    (read : rfc3339.parse (trim value) = some time) :
    NormalizesWell rfc3339 value time ↔ InFourDigitYears time := by
  refine ⟨fun well => ?_, normalizesWell_of_inFourDigitYears reads read⟩
  obtain ⟨result, gave, shaped, -⟩ := well
  rcases normalize_cases read with ⟨fits, -⟩ | ⟨-, rest, sign⟩ | ⟨-, panics⟩
  · exact fits
  · rw [sign] at gave
    cases gave
    exact absurd shaped not_isTimestamp_of_sign
  · rw [panics] at gave
    cases gave

/-! ## The reader -/

/-- The reader of RFC 3339 texts, with their formatter. -/
def plainRfc3339 : Rfc3339 where
  parse := readRfc3339
  format time :=
    if time.clock.date.FourDigits then .ok time.text else .error "The year component is invalid"

theorem lawful_plainRfc3339 : plainRfc3339.Lawful where
  fourDigits _ _ read := (readRfc3339_spec read).2
  format _ short := if_pos short

theorem readsReadings_plainRfc3339 : ReadsReadings plainRfc3339 :=
  fun _ short => readRfc3339_isoString short

/-- A time of another zone. -/
theorem normalizes_new_year :
    ∃ time, plainRfc3339.parse (trim "2026-01-01T09:00:17+09:00") = some time
      ∧ NormalizesWell plainRfc3339 "2026-01-01T09:00:17+09:00" time := by
  have instants : (plainRfc3339.parse (trim "2026-01-01T09:00:17+09:00")).map (·.instant)
      = some 63934444817000000000 := by decide +kernel
  obtain ⟨time, read, instant⟩ := Option.map_eq_some_iff.mp instants
  refine ⟨time, read, (normalizes_iff readsReadings_plainRfc3339 read).mpr ?_⟩
  rw [InFourDigitYears, instant]
  decide

/-- An hour behind UTC, the last hour of the year 9999 ends in a panic; an hour ahead, the
first hour of the year 0 gets a text that is not normalized again. -/
theorem ends_of_the_years :
    normalizeRfc3339MillisUtc plainRfc3339 "9999-12-31T23:59:59-01:00" = .error .dateTimeOutOfRange
      ∧ normalizeRfc3339MillisUtc plainRfc3339 "0000-01-01T00:00:00+01:00"
        = .ok (some "-001-12-31T23:00:00.000Z")
      ∧ normalizeRfc3339MillisUtc plainRfc3339 "-001-12-31T23:00:00.000Z" = .ok none
      ∧ ∃ time, plainRfc3339.parse (trim "9999-12-31T23:59:59-01:00") = some time
        ∧ ¬ NormalizesWell plainRfc3339 "9999-12-31T23:59:59-01:00" time := by
  have panics : normalizeRfc3339MillisUtc plainRfc3339 "9999-12-31T23:59:59-01:00"
      = .error .dateTimeOutOfRange := by decide +kernel
  have ok : (plainRfc3339.parse (trim "9999-12-31T23:59:59-01:00")).isSome = true := by
    decide +kernel
  obtain ⟨time, read⟩ := Option.isSome_iff_exists.mp ok
  refine ⟨panics, by decide +kernel, by decide +kernel, time, read, ?_⟩
  rintro ⟨result, gave, -⟩
  rw [panics] at gave
  cases gave

end Cfwdon.Times
