import Cfwdon.Notifications.StoredTimestamps
import Mathlib.Data.List.ReduceOption

/-!
# The time window of a listing

The cursors of a request name ids.  Ids carry their second, so the rows of a listing are
first bounded by time, in SQL, and the ids are compared exactly afterwards.  The bounds
take the later one of the two lower cursors; the exact comparison takes `min_id` if there
is one, also if it is blank.
-/

namespace Cfwdon.Notifications

open Library

variable (rfc3339 : Rfc3339) (fromUnixTimestamp : Int → Option CivilTime)

/-- The cursors of a `NotificationsQuery`, and the time the streaming poll asks from. -/
structure NotificationsQuery where
  maxId : Option String
  sinceId : Option String
  minId : Option String
  minCreatedAt : Option String

/-- A request sets the cursors. -/
def parseNotificationsQuery (maxId sinceId minId : Option String) : NotificationsQuery where
  maxId := maxId
  sinceId := sinceId
  minId := minId
  minCreatedAt := none

/-! ## The window -/

def notificationCursorUnixSeconds (cursor : Option String) : Option Int := do
  let id ← parseI64 (trim (← cursor))
  if id ≤ 0 ∨ isLegacyNotificationApiId id then none else some (idSecond id)

def timestampUnixSeconds (value : String) : Option Int :=
  (rfc3339.parse (timestampToMastodonIso8601 rfc3339 value)).map fun time =>
    (time.instant - unixEpoch * 1000000000) / 1000000000

structure NotificationTimeWindow where
  since : Option Int
  untilTime : Option Int

def notificationTimeWindow (query : NotificationsQuery) : NotificationTimeWindow where
  since := [notificationCursorUnixSeconds query.minId,
    notificationCursorUnixSeconds query.sinceId,
    query.minCreatedAt.bind (timestampUnixSeconds rfc3339)].reduceOption.max?
  untilTime := notificationCursorUnixSeconds query.maxId

/-- A year, padded to four characters with its sign. -/
def yearText (year : Int) : List Char :=
  if 0 ≤ year then digits 4 year.toNat
  else '-' :: digits (if year ≤ -1000 then 4 else 3) year.natAbs

def formatUnixSeconds (seconds : Int) (format : StoredTimestampFormat) : Option String :=
  (fromUnixTimestamp seconds).map fun value =>
    String.ofList (yearText value.date.year
      ++ '-' :: (digits 2 value.date.month ++ '-' :: digits 2 value.date.day)
      ++ format.separator :: value.time.text)

structure SqlTimeBounds where
  lower : Option String
  upper : Option String

/-- `NotificationTimeWindow::sql_bounds`, with `saturating_add`. -/
def NotificationTimeWindow.sqlBounds (window : NotificationTimeWindow)
    (format : StoredTimestampFormat) : SqlTimeBounds where
  lower := window.since.bind fun seconds => formatUnixSeconds fromUnixTimestamp seconds format
  upper := window.untilTime.bind fun seconds =>
    formatUnixSeconds fromUnixTimestamp (min (seconds + 1) 9223372036854775807) format

/-- The conditions that `SqlTimeBounds::clause` puts on a column. -/
def SqlTimeBounds.admits (bounds : SqlTimeBounds) (column : String) : Bool :=
  bounds.lower.all (fun lower => decide (lower ≤ column))
    && bounds.upper.all fun upper => decide (column < upper)

/-! ## The exact comparison -/

def normalizedNotificationCursor (value : Option String) : Option String :=
  (value.map trim).filter (· != "")

def resolveNotificationCursorKey (entries : List NotificationIdentity)
    (cursorId : Option String) : Option Int := do
  let cursorId ← normalizedNotificationCursor cursorId
  let resolved := (entries.find? fun entry =>
    notificationEntryMatchesCursorId rfc3339 entry cursorId).map (notificationApiNumericId rfc3339)
  match parseI64 cursorId with
  | none => resolved
  | some apiId => if isLegacyNotificationApiId apiId then resolved else some apiId

def filterNotificationEntriesByQuery (entries : List NotificationIdentity)
    (query : NotificationsQuery) : List NotificationIdentity :=
  let maxCursor := resolveNotificationCursorKey rfc3339 entries query.maxId
  let minCursor := resolveNotificationCursorKey rfc3339 entries (query.minId.or query.sinceId)
  entries.filter fun entry =>
    maxCursor.all (fun value => decide (notificationApiNumericId rfc3339 entry < value))
      && minCursor.all fun value => decide (notificationApiNumericId rfc3339 entry > value)

/-! ## Cursors with a time -/

variable {cursor : Option String} {second : Int} {civil : CivilTime}
  {entries : List NotificationIdentity} {query : NotificationsQuery} {row : NotificationIdentity}

theorem cursor_seconds_eq_some
    (timed : notificationCursorUnixSeconds cursor = some second) :
    ∃ text id, cursor = some text ∧ parseI64 (trim text) = some id ∧ 0 < id
      ∧ isLegacyNotificationApiId id = false ∧ second = idSecond id := by
  rw [notificationCursorUnixSeconds] at timed
  cases cursor with
  | none => cases timed
  | some text =>
    cases parsed : parseI64 (trim text) with
    | none =>
      simp only [Option.bind_eq_bind, Option.bind_some, parsed] at timed
      cases timed
    | some id =>
      simp only [Option.bind_eq_bind, Option.bind_some, parsed] at timed
      split_ifs at timed with untimed
      obtain ⟨pos, notLegacy⟩ := not_or.mp untimed
      cases timed
      exact ⟨text, id, rfl, parsed, not_le.mp pos, by simpa using notLegacy, rfl⟩

theorem cursor_seconds_range
    (timed : notificationCursorUnixSeconds cursor = some second) :
    0 ≤ second ∧ second ≤ 140737488355 := by
  obtain ⟨text, id, -, parsed, pos, -, rfl⟩ := cursor_seconds_eq_some timed
  have most := parseI64_le parsed
  rw [idSecond_eq]
  omega

variable {rfc3339 fromUnixTimestamp}

theorem resolve_of_timed
    (timed : notificationCursorUnixSeconds cursor = some second)
    (entries : List NotificationIdentity) :
    ∃ id, resolveNotificationCursorKey rfc3339 entries cursor = some id ∧ second = idSecond id := by
  obtain ⟨text, id, rfl, parsed, -, notLegacy, eq⟩ := cursor_seconds_eq_some timed
  refine ⟨id, ?_, eq⟩
  have given : normalizedNotificationCursor (some text) = some (trim text) := by
    rw [normalizedNotificationCursor, Option.map_some, Option.filter_some,
      if_pos (by simpa using ne_empty_of_parseI64 parsed)]
  rw [resolveNotificationCursorKey, given]
  simp only [Option.bind_eq_bind, Option.bind_some, parsed, notLegacy, Bool.false_eq_true, if_false]

/-! ## The bounds, as seconds -/

/-- What is documented of `OffsetDateTime::from_unix_timestamp`, in the years up to
9999. -/
def CountsSeconds (fromUnixTimestamp : Int → Option CivilTime) : Prop :=
  ∀ seconds, 0 ≤ seconds → seconds < 253402300800 →
    ∃ civil, fromUnixTimestamp seconds = some civil ∧ civil.date.FourDigits
      ∧ civil.seconds = unixEpoch + seconds

theorem formatUnixSeconds_eq (counts : CountsSeconds fromUnixTimestamp) {seconds : Int}
    (low : 0 ≤ seconds) (high : seconds < 253402300800) (format : StoredTimestampFormat) :
    ∃ civil : CivilTime, civil.date.FourDigits ∧ civil.seconds = unixEpoch + seconds
      ∧ formatUnixSeconds fromUnixTimestamp seconds format
        = some (String.ofList (civil.text format.separator)) := by
  obtain ⟨civil, got, short, eq⟩ := counts seconds low high
  refine ⟨civil, short, eq, ?_⟩
  rw [formatUnixSeconds, got, Option.map_some, yearText, if_pos short.1]
  rfl

/-- A timestamp compared with the text of a second in its shape: what stands after the
second does not matter. -/
theorem text_lt_iff (stamp : StoredTimestamp)
    (short : civil.date.FourDigits) :
    stamp.text < String.ofList (civil.text stamp.format.separator)
      ↔ stamp.civil.seconds < civil.seconds := by
  rw [String.lt_iff_toList_lt, StoredTimestamp.text, String.toList_ofList, String.toList_ofList]
  have whole := @append_lt_append_iff (stamp.civil.text stamp.format.separator)
    (civil.text stamp.format.separator) stamp.rest [] (by simp)
  rw [List.append_nil] at whole
  rw [whole, CivilTime.text_lt_iff _ stamp.short short]
  simp

theorem admits_iff (counts : CountsSeconds fromUnixTimestamp) {window : NotificationTimeWindow}
    (stamp : StoredTimestamp)
    (sinceRange : ∀ second, window.since = some second → 0 ≤ second ∧ second ≤ 140737488355)
    (untilRange : ∀ second, window.untilTime = some second → 0 ≤ second ∧ second ≤ 140737488355) :
    (window.sqlBounds fromUnixTimestamp stamp.format).admits stamp.text = true
      ↔ (∀ second, window.since = some second → second ≤ stamp.second)
        ∧ ∀ second, window.untilTime = some second → stamp.second ≤ second := by
  rw [SqlTimeBounds.admits, Bool.and_eq_true]
  refine and_congr ?_ ?_
  · rw [NotificationTimeWindow.sqlBounds]
    dsimp only
    cases since : window.since with
    | none => simp
    | some second =>
      obtain ⟨low, high⟩ := sinceRange second since
      obtain ⟨civil, short, eq, wrote⟩ :=
        formatUnixSeconds_eq counts low (by omega) stamp.format
      rw [Option.bind_some, wrote, Option.all_some, decide_eq_true_iff, ← not_lt,
        text_lt_iff stamp short, eq, StoredTimestamp.second]
      constructor
      · rintro notBefore _ ⟨⟩
        omega
      · intro each
        have later := each second rfl
        omega
  · rw [NotificationTimeWindow.sqlBounds]
    dsimp only
    cases limit : window.untilTime with
    | none => simp
    | some second =>
      obtain ⟨low, high⟩ := untilRange second limit
      have unsaturated : min (second + 1) 9223372036854775807 = second + 1 :=
        min_eq_left (by omega)
      obtain ⟨civil, short, eq, wrote⟩ :=
        formatUnixSeconds_eq counts (by omega : 0 ≤ second + 1) (by omega) stamp.format
      rw [Option.bind_some, unsaturated, wrote, Option.all_some, decide_eq_true_iff,
        text_lt_iff stamp short, eq, StoredTimestamp.second]
      constructor
      · rintro pre _ ⟨⟩
        omega
      · intro each
        have prior := each second rfl
        omega

/-! ## The window of a request -/

/-- The lower cursor that the exact comparison takes. -/
def comparedCursor (query : NotificationsQuery) : Option String :=
  query.minId.or query.sinceId

theorem reduceOption_pair_max? (first second : Option Int) (bound : Int) :
    (∀ value, [first, second, none].reduceOption.max? = some value → value ≤ bound)
      ↔ (∀ value, first = some value → value ≤ bound)
        ∧ ∀ value, second = some value → value ≤ bound := by
  cases first with
  | none | some one => cases second <;> simp [List.reduceOption]

theorem since_le_iff (maxId sinceId minId : Option String) (bound : Int) :
    (∀ second, (notificationTimeWindow rfc3339
        (parseNotificationsQuery maxId sinceId minId)).since = some second → second ≤ bound)
      ↔ (∀ second, notificationCursorUnixSeconds minId = some second → second ≤ bound)
        ∧ ∀ second, notificationCursorUnixSeconds sinceId = some second → second ≤ bound :=
  reduceOption_pair_max? _ _ bound

theorem since_range {maxId sinceId minId : Option String}
    (since : (notificationTimeWindow rfc3339
      (parseNotificationsQuery maxId sinceId minId)).since = some second) :
    0 ≤ second ∧ second ≤ 140737488355 := by
  have mem := List.reduceOption_mem_iff.mp (List.max?_mem since)
  simp only [List.mem_cons, List.not_mem_nil, or_false] at mem
  rcases mem with timed | timed | timed
  · exact cursor_seconds_range timed.symm
  · exact cursor_seconds_range timed.symm
  · cases timed

theorem filter_kept
    (kept : row ∈ filterNotificationEntriesByQuery rfc3339 entries query) :
    (∀ id, resolveNotificationCursorKey rfc3339 entries query.maxId = some id →
        notificationApiNumericId rfc3339 row < id)
      ∧ ∀ id, resolveNotificationCursorKey rfc3339 entries (comparedCursor query) = some id →
        id < notificationApiNumericId rfc3339 row := by
  rw [filterNotificationEntriesByQuery, List.mem_filter, Bool.and_eq_true] at kept
  obtain ⟨-, below, above⟩ := kept
  constructor
  · intro id got
    rw [got, Option.all_some] at below
    exact of_decide_eq_true below
  · intro id got
    rw [comparedCursor] at got
    rw [got, Option.all_some] at above
    exact of_decide_eq_true above

/-- Whether an id can hold the time of a row: from the epoch on, in 47 bits of
milliseconds. -/
def FitsId (stamp : StoredTimestamp) : Prop :=
  0 ≤ stamp.millis ∧ stamp.millis < 140737488355328

instance (stamp : StoredTimestamp) : Decidable (FitsId stamp) :=
  inferInstanceAs (Decidable (_ ∧ _))

/-- The cursor that the exact comparison passes over is no later than the row; and for a
time that no id holds, the cursors that it takes are on the right side of the row, too. -/
structure WindowAgrees (query : NotificationsQuery) (stamp : StoredTimestamp) : Prop where
  passedOver : query.minId ≠ none → ∀ second,
    notificationCursorUnixSeconds query.sinceId = some second → second ≤ stamp.second
  compared : ¬ FitsId stamp → ∀ second,
    notificationCursorUnixSeconds (comparedCursor query) = some second → second ≤ stamp.second
  limit : ¬ FitsId stamp → ∀ second,
    notificationCursorUnixSeconds query.maxId = some second → stamp.second ≤ second

/-- The exact comparison keeps rows on the right side of the seconds of its cursors, for a
time that an id can hold. -/
theorem seconds_of_kept (lawful : rfc3339.Lawful)
    {stamp : StoredTimestamp}
    (reads : Reads rfc3339 stamp) (made : row.notificationCreatedAt = stamp.text)
    (kept : row ∈ filterNotificationEntriesByQuery rfc3339 entries query) (fits : FitsId stamp) :
    (∀ second, notificationCursorUnixSeconds (comparedCursor query) = some second →
        second ≤ stamp.second)
      ∧ ∀ second, notificationCursorUnixSeconds query.maxId = some second →
        stamp.second ≤ second := by
  obtain ⟨below, above⟩ := filter_kept kept
  have millis : (createdAtMillis rfc3339 row.notificationCreatedAt : Int) = stamp.millis := by
    rw [made, createdAtMillis_text lawful reads, Int.toNat_of_nonneg fits.1]
  have small : createdAtMillis rfc3339 row.notificationCreatedAt < 140737488355328 := by
    have bound := fits.2
    omega
  obtain ⟨least, most⟩ := @notificationApiId_of_fits rfc3339 row.notificationKey _ small
  rw [millis] at least most
  constructor
  · intro second timed
    obtain ⟨id, got, rfl⟩ := resolve_of_timed timed entries
    have later : id < notificationApiId rfc3339 row.notificationKey row.notificationCreatedAt :=
      above id got
    rw [idSecond_eq, stamp.second_eq]
    omega
  · intro second timed
    obtain ⟨id, got, rfl⟩ := resolve_of_timed timed entries
    have prior : notificationApiId rfc3339 row.notificationKey row.notificationCreatedAt < id :=
      below id got
    rw [idSecond_eq, stamp.second_eq]
    omega

/-- **A row that the exact comparison keeps is within the bounds exactly if the cursor it
passes over is no later.** -/
theorem kept_row_admitted_iff (lawful : rfc3339.Lawful) (counts : CountsSeconds fromUnixTimestamp)
    {maxId sinceId minId : Option String} {entries : List NotificationIdentity}
    {row : NotificationIdentity} {stamp : StoredTimestamp} (reads : Reads rfc3339 stamp)
    (created : row.notificationCreatedAt = stamp.text)
    (kept : row ∈ filterNotificationEntriesByQuery rfc3339 entries
      (parseNotificationsQuery maxId sinceId minId)) :
    ((notificationTimeWindow rfc3339 (parseNotificationsQuery maxId sinceId minId)).sqlBounds
        fromUnixTimestamp stamp.format).admits row.notificationCreatedAt = true
      ↔ WindowAgrees (parseNotificationsQuery maxId sinceId minId) stamp := by
  rw [created, admits_iff counts stamp (fun _ => since_range) (fun _ => cursor_seconds_range),
    since_le_iff]
  constructor
  · rintro ⟨⟨afterMin, afterSince⟩, beforeMax⟩
    refine ⟨fun _ => afterSince, fun _ second timed => ?_, fun _ => beforeMax⟩
    cases minId with
    | none => exact afterSince second timed
    | some text => exact afterMin second timed
  · rintro ⟨passedOver, compared, limit⟩
    have sides : (∀ second, notificationCursorUnixSeconds (comparedCursor
          (parseNotificationsQuery maxId sinceId minId)) = some second → second ≤ stamp.second)
        ∧ ∀ second, notificationCursorUnixSeconds maxId = some second → stamp.second ≤ second := by
      by_cases fits : FitsId stamp
      · exact seconds_of_kept lawful reads created kept fits
      · exact ⟨compared fits, limit fits⟩
    refine ⟨?_, sides.2⟩
    cases minId with
    | none => exact ⟨fun _ timed => (by cases timed), sides.1⟩
    | some text => exact ⟨sides.1, passedOver (by simp [parseNotificationsQuery])⟩

/-! ## A row and two requests -/

/-- The parser at the time of a row that SQLite wrote. -/
def rfc3339AtRow (civil : CivilTime) : Rfc3339 where
  parse text :=
    if text = utcText civil [] .zulu ∨ text = utcText civil wholeMillis .zulu then
      some (utcTime civil [])
    else none
  format time := .ok time.text

theorem lawful_rfc3339AtRow (short : civil.date.FourDigits) :
    (rfc3339AtRow civil).Lawful where
  fourDigits text time read := by
    rw [rfc3339AtRow] at read
    dsimp only at read
    split_ifs at read
    cases read
    exact short
  format _ _ := rfl

def civilOfUnix (seconds : Int) : Option CivilTime :=
  some (CivilTime.ofSeconds (unixEpoch + seconds))

theorem countsSeconds_civilOfUnix : CountsSeconds civilOfUnix := by
  intro seconds low high
  have epoch : unixEpoch = 62167219200 := by decide
  refine ⟨_, rfl, CivilTime.fourDigits_ofSeconds ?_ ?_, CivilTime.seconds_ofSeconds _⟩
  · rw [epoch]
    omega
  · rw [epoch]
    omega

/-- Five o'clock on a day in October. -/
def octoberTime : CivilTime where
  date := .ofNumbers 2026 10 7 (by decide)
  time := .onHour 5 (by decide)

def octoberStamp : StoredTimestamp := .sqlite octoberTime (by decide)

/-- A favourite at that time. -/
def octoberRow : NotificationIdentity where
  notificationKey := "favourite-local-1-2"
  notificationCreatedAt := "2026-10-07 05:00:00"

theorem reads_octoberStamp : Reads (rfc3339AtRow octoberTime) octoberStamp := by
  have unlike : ¬ (String.ofList (octoberTime.text ' ') = utcText octoberTime [] .zulu
      ∨ String.ofList (octoberTime.text ' ') = utcText octoberTime wholeMillis .zulu) := by
    decide +kernel
  rw [octoberStamp, Reads, rfc3339AtRow]
  dsimp only
  exact ⟨if_neg unlike, if_pos (Or.inl rfl), if_pos (Or.inr rfl)⟩

/-- A request for what is newer than the minute before. -/
theorem kept_row_admitted_october :
    ((notificationTimeWindow (rfc3339AtRow octoberTime)
        (parseNotificationsQuery none (some "117397857239040000") none)).sqlBounds
      civilOfUnix .sqlite).admits "2026-10-07 05:00:00" = true :=
  (@kept_row_admitted_iff _ _ (lawful_rfc3339AtRow (by decide)) countsSeconds_civilOfUnix none
    (some "117397857239040000") none [octoberRow] octoberRow octoberStamp reads_octoberStamp
    (by decide +kernel) (by decide +kernel)).mpr
    ⟨fun given => absurd rfl given, fun unfit => absurd (by decide +kernel) unfit,
      fun unfit => absurd (by decide +kernel) unfit⟩

/-- A request with both lower cursors: the exact comparison takes `min_id`, of the minute
before, and keeps the row; the bounds take `since_id`, of the minute after. -/
theorem kept_row_excluded :
    octoberRow ∈ filterNotificationEntriesByQuery (rfc3339AtRow octoberTime) [octoberRow]
        (parseNotificationsQuery none (some "117397865103360000") (some "117397857239040000"))
      ∧ ((notificationTimeWindow (rfc3339AtRow octoberTime)
          (parseNotificationsQuery none (some "117397865103360000")
            (some "117397857239040000"))).sqlBounds
        civilOfUnix .sqlite).admits octoberRow.notificationCreatedAt = false := by
  decide +kernel

end Cfwdon.Notifications
