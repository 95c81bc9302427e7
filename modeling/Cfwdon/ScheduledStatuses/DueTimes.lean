import Cfwdon.Library.Text
import Cfwdon.Library.TimeText

/-!
# When a scheduled status is due

A request names the time of a status as a text, which is parsed and stored as the text
that the parsed time is formatted to, with the offset and the digits of the second it
came with.  The query for due statuses compares this text with that of the clock.

* `normalizeScheduledAt_ok` -- what is stored;
* `due_honours_instant_of_utc_milliseconds` -- a time in UTC with three digits of the
  second has no gap.
-/

namespace Cfwdon.ScheduledStatuses

open Library

variable (rfc3339 : Rfc3339)

def normalizeScheduledAt (value : Option String) : Except String (Option String) :=
  match (value.map trim).filter (· != "") with
  | none => .ok none
  | some value =>
    match rfc3339.parse value with
    | none => .error "scheduled_at must be a valid RFC 3339 datetime"
    | some scheduledAt =>
      match rfc3339.format scheduledAt with
      | .ok text => .ok (some text)
      | .error error => .error ("failed to format scheduled_at: " ++ error)

/-- `validate_scheduled_at_minimum_offset`, at a Unix timestamp. -/
def validateScheduledAtMinimumOffset (nowUnixTimestamp : Int) (value : String) :
    Except String Unit :=
  match rfc3339.parse value with
  | none => .error "scheduled_at must be a valid RFC 3339 datetime"
  | some scheduledAt =>
    if scheduledAt.instant ≤ (unixEpoch + nowUnixTimestamp + 5 * 60) * 1000000000 then
      .error "Validation failed: Scheduled at The scheduled date must be in the future"
    else .ok ()

/-- The `scheduled_at` that creating a status stores, if it is accepted. -/
def acceptedScheduledAt (nowUnixTimestamp : Int) (value : Option String) :
    Except String (Option String) := do
  match ← normalizeScheduledAt rfc3339 value with
  | none => return none
  | some scheduledAt =>
    validateScheduledAtMinimumOffset rfc3339 nowUnixTimestamp scheduledAt
    return some scheduledAt

/-- `scheduled_at <= ?1` in `list_due_scheduled_statuses`. -/
def scheduledAtDue (scheduledAt nowIso : String) : Bool :=
  decide (scheduledAt ≤ nowIso)

variable {rfc3339}

variable {scheduled : OffsetDateTime}

theorem normalizeScheduledAt_ok (lawful : rfc3339.Lawful) {value text : String}
    (read : rfc3339.parse (trim value) = some scheduled)
    (norm : normalizeScheduledAt rfc3339 (some value) = .ok (some text)) :
    text = scheduled.text := by
  rw [normalizeScheduledAt, Option.map_some, Option.filter_some] at norm
  split_ifs at norm with given
  · dsimp only at norm
    rw [read] at norm
    dsimp only at norm
    rw [lawful.format scheduled (lawful.fourDigits _ _ read)] at norm
    cases norm
    rfl
  · cases norm

theorem acceptedScheduledAt_ok {nowUnixTimestamp : Int} {value : Option String} {text : String}
    (accepted : acceptedScheduledAt rfc3339 nowUnixTimestamp value = .ok (some text)) :
    normalizeScheduledAt rfc3339 value = .ok (some text) := by
  rw [acceptedScheduledAt] at accepted
  cases norm : normalizeScheduledAt rfc3339 value with
  | error error => rw [norm] at accepted; cases accepted
  | ok got =>
    rw [norm] at accepted
    cases got with
    | none => cases accepted
    | some scheduledAt =>
      cases valid : validateScheduledAtMinimumOffset rfc3339 nowUnixTimestamp scheduledAt with
      | error error =>
        simp only [bind, Except.bind, valid] at accepted
        cases accepted
      | ok _ =>
        simp only [bind, Except.bind, valid] at accepted
        cases accepted
        rfl

/-! ## When it is due -/

/-- A stored time is found once its clock is reached, read without its offset, in a year
of four digits. -/
theorem due_iff (short : scheduled.clock.date.FourDigits)
    (now : ClockReading) :
    scheduledAtDue scheduled.text now.isoString = true
      ↔ now.clock.date.FourDigits ∧ scheduled.reached ≤ now.millis := by
  rw [scheduledAtDue, decide_eq_true_iff]
  exact OffsetDateTime.text_le_isoString_iff short

/-- The time it is does not lie in the gap between the instant and the time from which on
the query finds the status; in a year of other than four digits, where it finds none, the
instant is still to come. -/
def OutsideGap (scheduled : OffsetDateTime) (now : ClockReading) : Prop :=
  if now.clock.date.FourDigits then
    now.instant < min scheduled.instant (scheduled.reached * 1000000)
      ∨ max scheduled.instant (scheduled.reached * 1000000) ≤ now.instant
  else now.instant < scheduled.instant

instance (scheduled : OffsetDateTime) (now : ClockReading) : Decidable (OutsideGap scheduled now) :=
  inferInstanceAs (Decidable (ite _ _ _))

theorem due_agrees_iff (short : scheduled.clock.date.FourDigits)
    (now : ClockReading) :
    (scheduledAtDue scheduled.text now.isoString = true ↔ scheduled.instant ≤ now.instant)
      ↔ OutsideGap scheduled now := by
  rw [due_iff short, OutsideGap]
  have reading : now.instant = now.millis * 1000000 := rfl
  by_cases nowShort : now.clock.date.FourDigits
  · rw [if_pos nowShort, lt_min_iff, max_le_iff, and_iff_right nowShort]
    constructor
    · intro agree
      by_cases reach : scheduled.reached ≤ now.millis
      · exact .inr ⟨agree.mp reach, by omega⟩
      · have later := agree.not.mp reach
        exact .inl ⟨by omega, by omega⟩
    · rintro (⟨pre, notReached⟩ | ⟨post, reach⟩)
      · exact iff_of_false (by omega) (by omega)
      · exact iff_of_true (by omega) post
  · rw [if_neg nowShort]
    constructor
    · intro agree
      have later := agree.not.mp fun ⟨fits, _⟩ => nowShort fits
      omega
    · intro pre
      exact iff_of_false (fun ⟨fits, _⟩ => nowShort fits) (by omega)

/-- **The query agrees with the instant exactly outside of the gap.** -/
theorem due_honours_instant_iff (lawful : rfc3339.Lawful) {nowUnixTimestamp : Int}
    {value text : String} {scheduled : OffsetDateTime}
    (read : rfc3339.parse (trim value) = some scheduled)
    (accepted : acceptedScheduledAt rfc3339 nowUnixTimestamp (some value) = .ok (some text))
    (now : ClockReading) :
    (scheduledAtDue text now.isoString = true ↔ scheduled.instant ≤ now.instant)
      ↔ OutsideGap scheduled now := by
  rw [normalizeScheduledAt_ok lawful read (acceptedScheduledAt_ok accepted)]
  exact due_agrees_iff (lawful.fourDigits _ _ read) now

/-! ## Two times -/

def rfc3339At (time : OffsetDateTime) : Rfc3339 where
  parse text := if text = time.text then some time else none
  format time := .ok time.text

theorem parse_rfc3339At {time : OffsetDateTime} {text : String} (eq : text = time.text) :
    (rfc3339At time).parse text = some time :=
  if_pos eq

theorem lawful_rfc3339At {time : OffsetDateTime} (short : time.clock.date.FourDigits) :
    (rfc3339At time).Lawful where
  fourDigits text found read := by
    rw [rfc3339At] at read
    dsimp only at read
    split_ifs at read
    cases read
    exact short
  format _ _ := rfl

def newYear2099 (time : TimeOfDay) : CivilTime where
  date := .newYear 2099
  time := time

/-- Midnight of that day in UTC, on a clock that shows nine o'clock. -/
def nineAhead : OffsetDateTime where
  __ := OffsetDateTime.utc (newYear2099 (.onHour 9 (by decide)))
  offset := 540

/-- Midnight of that day, with three digits of the second. -/
def midnightUtc : OffsetDateTime where
  clock := newYear2099 .midnight
  nanosecond := 5000000
  offset := 0
  nanosecond_lt := by decide

def midnightReading : ClockReading where
  clock := newYear2099 .midnight
  millisecond := 5
  millisecond_lt := by decide

theorem due_honours_instant_midnight :
    scheduledAtDue "2099-01-01T00:00:00.005Z" midnightReading.isoString = true
      ↔ midnightUtc.instant ≤ midnightReading.instant :=
  (@due_honours_instant_iff _ (@lawful_rfc3339At midnightUtc (by decide)) 1767225600
    "2099-01-01T00:00:00.005Z" _ _ (parse_rfc3339At (by decide +kernel)) (by decide +kernel)
    midnightReading).mpr (by decide +kernel)

/-- A time with an offset is accepted, and not found when its instant is reached. -/
theorem offset_is_due_late :
    acceptedScheduledAt (rfc3339At nineAhead) 1767225600 (some "2099-01-01T09:00:00+09:00")
        = .ok (some "2099-01-01T09:00:00+09:00")
      ∧ nineAhead.instant ≤ midnightReading.instant
      ∧ scheduledAtDue "2099-01-01T09:00:00+09:00" midnightReading.isoString = false := by
  decide +kernel

end Cfwdon.ScheduledStatuses
