import Cfwdon.Notifications.TimeWindow

/-!
# Ids in the order of notifications

Ids are compared by clients and used as cursors.  They compare as the milliseconds of the
rows do, and within one millisecond as the hashes of their keys; and they bound a listing to
the rows on one side, in SQL by the second and then exactly.
-/

namespace Cfwdon.Notifications

open Library

variable {rfc3339 : Rfc3339} {fromUnixTimestamp : Int → Option CivilTime}
  {row other : NotificationIdentity} {stamp otherStamp : StoredTimestamp}
  {entries : List NotificationIdentity}

/-- The low bits of an id, which break ties. -/
def idTiebreak (internalId : String) : Nat :=
  (fnv1a64 internalId.toUTF8.data.toList).toNat &&& 65535

theorem idTiebreak_lt (internalId : String) : idTiebreak internalId < 2 ^ 16 := by
  unfold idTiebreak
  exact lt_of_le_of_lt Nat.and_le_right (by norm_num)

structure StoredAt (rfc3339 : Rfc3339) (row : NotificationIdentity) (stamp : StoredTimestamp) :
    Prop where
  reads : Reads rfc3339 stamp
  created : row.notificationCreatedAt = stamp.text

/-- **An id is its milliseconds and a tiebreak**: nothing overflows. -/
theorem apiNumericId_eq (lawful : rfc3339.Lawful) (held : StoredAt rfc3339 row stamp)
    (fits : FitsId stamp) :
    notificationApiNumericId rfc3339 row
      = stamp.millis * 65536 + idTiebreak row.notificationKey := by
  obtain ⟨pos, bound⟩ := fits
  have read := createdAtMillis_text lawful held.reads
  have millis : (createdAtMillis rfc3339 row.notificationCreatedAt : Int) = stamp.millis := by
    rw [held.created, read]
    exact Int.toNat_of_nonneg pos
  have small : createdAtMillis rfc3339 row.notificationCreatedAt < 140737488355328 := by
    omega
  have value := bmod_shift small (idTiebreak_lt row.notificationKey)
  unfold idTiebreak at value ⊢
  unfold notificationApiNumericId notificationApiId
  rw [value, millis]

/-- The place of a row in time, with the tiebreak. -/
def RowBefore (row other : NotificationIdentity) (stamp otherStamp : StoredTimestamp) : Prop :=
  stamp.millis < otherStamp.millis
    ∨ stamp.millis = otherStamp.millis
      ∧ idTiebreak row.notificationKey < idTiebreak other.notificationKey

/-- **Ids compare as rows do.** -/
theorem apiNumericId_lt_iff (lawful : rfc3339.Lawful) (held : StoredAt rfc3339 row stamp)
    (otherHeld : StoredAt rfc3339 other otherStamp) (fits : FitsId stamp)
    (otherFits : FitsId otherStamp) :
    notificationApiNumericId rfc3339 row < notificationApiNumericId rfc3339 other
      ↔ RowBefore row other stamp otherStamp := by
  have low := idTiebreak_lt row.notificationKey
  have otherLow := idTiebreak_lt other.notificationKey
  rw [apiNumericId_eq lawful held fits, apiNumericId_eq lawful otherHeld otherFits, RowBefore]
  omega

/-! ## Ids as cursors -/

/-- An id that carries its time as a cursor: it is positive, and stands for no hash. -/
def CarriesTime (id : Int) : Prop :=
  0 < id ∧ isLegacyNotificationApiId id = false

instance (id : Int) : Decidable (CarriesTime id) :=
  inferInstanceAs (Decidable (_ ∧ _))

section Cursor

variable {id : Int}

theorem cursorUnixSeconds_toString (fits : id ≤ 9223372036854775807) (has : CarriesTime id) :
    notificationCursorUnixSeconds (some (toString id)) = some (idSecond id) := by
  have timed : ¬ (id ≤ 0 ∨ isLegacyNotificationApiId id = true) := by
    rw [has.2]
    have pos := has.1
    simpa using pos
  rw [notificationCursorUnixSeconds]
  simp only [Option.bind_eq_bind, Option.bind_some, trim_toString, parseI64_toString has.1.le fits]
  exact if_neg timed

theorem resolve_toString (fits : id ≤ 9223372036854775807) (has : CarriesTime id) :
    resolveNotificationCursorKey rfc3339 entries (some (toString id)) = some id := by
  have given : normalizedNotificationCursor (some (toString id)) = some (toString id) := by
    rw [normalizedNotificationCursor, Option.map_some, trim_toString, Option.filter_some,
      if_pos (by simpa using toString_ne_empty id)]
  rw [resolveNotificationCursorKey, given]
  simp only [Option.bind_eq_bind, Option.bind_some, parseI64_toString has.1.le fits,
    has.2, Bool.false_eq_true, if_false]

theorem resolve_none : resolveNotificationCursorKey rfc3339 entries none = none := by
  simp only [resolveNotificationCursorKey, normalizedNotificationCursor, Option.map_none,
    Option.filter_none, Option.bind_eq_bind, Option.bind_none]

end Cursor

/-- A row is within the bounds of a query, and the exact comparison keeps it. -/
structure Listed (rfc3339 : Rfc3339) (fromUnixTimestamp : Int → Option CivilTime)
    (query : NotificationsQuery) (entries : List NotificationIdentity)
    (row : NotificationIdentity) (stamp : StoredTimestamp) : Prop where
  admitted : ((notificationTimeWindow rfc3339 query).sqlBounds fromUnixTimestamp
    stamp.format).admits row.notificationCreatedAt = true
  kept : row ∈ filterNotificationEntriesByQuery rfc3339 entries query

def olderThan (cursor : Int) : NotificationsQuery :=
  parseNotificationsQuery (some (toString cursor)) none none

def newerThan (fromCursor : Bool) (cursor : Int) : NotificationsQuery :=
  if fromCursor then parseNotificationsQuery none none (some (toString cursor))
  else parseNotificationsQuery none (some (toString cursor)) none

section Sides

variable {id : Int}

theorem listed_olderThan_iff (counts : CountsSeconds fromUnixTimestamp)
    (otherHeld : StoredAt rfc3339 other otherStamp) (mem : other ∈ entries)
    (fits : id ≤ 9223372036854775807) (has : CarriesTime id) :
    Listed rfc3339 fromUnixTimestamp (olderThan id) entries other otherStamp
      ↔ otherStamp.second ≤ idSecond id ∧ notificationApiNumericId rfc3339 other < id := by
  have window : ((notificationTimeWindow rfc3339 (olderThan id)).sqlBounds fromUnixTimestamp
      otherStamp.format).admits other.notificationCreatedAt = true
        ↔ otherStamp.second ≤ idSecond id := by
    rw [otherHeld.created, olderThan, admits_iff counts otherStamp (fun _ => since_range)
      (fun _ => cursor_seconds_range), since_le_iff]
    have limit : (notificationTimeWindow rfc3339
        (parseNotificationsQuery (some (toString id)) none none)).untilTime
          = some (idSecond id) := cursorUnixSeconds_toString fits has
    rw [limit]
    simp [notificationCursorUnixSeconds]
  have compared : other ∈ filterNotificationEntriesByQuery rfc3339 entries (olderThan id)
      ↔ notificationApiNumericId rfc3339 other < id := by
    rw [filterNotificationEntriesByQuery, List.mem_filter, and_iff_right mem, olderThan,
      parseNotificationsQuery, resolve_toString fits has]
    simp [resolveNotificationCursorKey, normalizedNotificationCursor]
  exact ⟨fun listed => ⟨window.mp listed.admitted, compared.mp listed.kept⟩,
    fun both => ⟨window.mpr both.1, compared.mpr both.2⟩⟩

theorem listed_newerThan_iff (counts : CountsSeconds fromUnixTimestamp)
    (otherHeld : StoredAt rfc3339 other otherStamp) (mem : other ∈ entries)
    (fits : id ≤ 9223372036854775807) (has : CarriesTime id) (fromCursor : Bool) :
    Listed rfc3339 fromUnixTimestamp (newerThan fromCursor id) entries other otherStamp
      ↔ idSecond id ≤ otherStamp.second ∧ id < notificationApiNumericId rfc3339 other := by
  have timed := cursorUnixSeconds_toString fits has
  have untimed : notificationCursorUnixSeconds none = none := by
    rw [notificationCursorUnixSeconds]
    exact Option.bind_none _
  have window : ((notificationTimeWindow rfc3339 (newerThan fromCursor id)).sqlBounds
      fromUnixTimestamp otherStamp.format).admits other.notificationCreatedAt = true
        ↔ idSecond id ≤ otherStamp.second := by
    cases fromCursor with
    | false =>
      rw [otherHeld.created, newerThan, if_neg Bool.false_ne_true,
        admits_iff counts otherStamp (fun _ => since_range) (fun _ => cursor_seconds_range),
        since_le_iff, timed, untimed]
      simp [notificationTimeWindow, parseNotificationsQuery, untimed]
    | true =>
      rw [otherHeld.created, newerThan, if_pos rfl,
        admits_iff counts otherStamp (fun _ => since_range) (fun _ => cursor_seconds_range),
        since_le_iff, timed, untimed]
      simp [notificationTimeWindow, parseNotificationsQuery, untimed]
  have compared : other ∈ filterNotificationEntriesByQuery rfc3339 entries
      (newerThan fromCursor id) ↔ id < notificationApiNumericId rfc3339 other := by
    have got := @resolve_toString rfc3339 entries id fits has
    have unresolved := @resolve_none rfc3339 entries
    cases fromCursor with
    | false =>
      rw [filterNotificationEntriesByQuery, List.mem_filter, and_iff_right mem, newerThan,
        if_neg Bool.false_ne_true, parseNotificationsQuery, Option.none_or, got, unresolved,
        Option.all_none, Option.all_some, Bool.true_and, decide_eq_true_iff]
    | true =>
      rw [filterNotificationEntriesByQuery, List.mem_filter, and_iff_right mem, newerThan,
        if_pos rfl, parseNotificationsQuery, Option.or_none, got, unresolved,
        Option.all_none, Option.all_some, Bool.true_and, decide_eq_true_iff]
  exact ⟨fun listed => ⟨window.mp listed.admitted, compared.mp listed.kept⟩,
    fun both => ⟨window.mpr both.1, compared.mpr both.2⟩⟩

end Sides

/-! ## Ids and rows -/

structure IdsOrder (rfc3339 : Rfc3339) (fromUnixTimestamp : Int → Option CivilTime)
    (row other : NotificationIdentity) (stamp otherStamp : StoredTimestamp) : Prop where
  value : notificationApiNumericId rfc3339 row
    = stamp.millis * 65536 + idTiebreak row.notificationKey
  range : 0 ≤ notificationApiNumericId rfc3339 row
    ∧ notificationApiNumericId rfc3339 row ≤ 9223372036854775807
  ordered : notificationApiNumericId rfc3339 row < notificationApiNumericId rfc3339 other
    ↔ RowBefore row other stamp otherStamp
  second : CarriesTime (notificationApiNumericId rfc3339 row) →
    notificationCursorUnixSeconds (some (toString (notificationApiNumericId rfc3339 row)))
      = some stamp.second
  older : CarriesTime (notificationApiNumericId rfc3339 row) → ∀ entries, other ∈ entries →
    (Listed rfc3339 fromUnixTimestamp (olderThan (notificationApiNumericId rfc3339 row)) entries
      other otherStamp ↔ RowBefore other row otherStamp stamp)
  newer : CarriesTime (notificationApiNumericId rfc3339 row) → ∀ entries, other ∈ entries →
    ∀ fromCursor, (Listed rfc3339 fromUnixTimestamp
      (newerThan fromCursor (notificationApiNumericId rfc3339 row)) entries other otherStamp
        ↔ RowBefore row other stamp otherStamp)

theorem RowBefore.second_le (pre : RowBefore row other stamp otherStamp) :
    stamp.second ≤ otherStamp.second := by
  rw [stamp.second_eq, otherStamp.second_eq]
  rcases pre with prior | ⟨eq, _⟩
  · omega
  · omega

/-- **Ids order rows, give their seconds and bound listings**, for rows whose time an id can
hold. -/
theorem ids_order_rows (lawful : rfc3339.Lawful) (counts : CountsSeconds fromUnixTimestamp)
    (stored : StoredAt rfc3339 row stamp) (otherStored : StoredAt rfc3339 other otherStamp)
    (fits : FitsId stamp) (otherFits : FitsId otherStamp) :
    IdsOrder rfc3339 fromUnixTimestamp row other stamp otherStamp := by
  have value := apiNumericId_eq lawful stored fits
  have low := idTiebreak_lt row.notificationKey
  have bounds := fits
  rw [FitsId] at bounds
  have range : 0 ≤ notificationApiNumericId rfc3339 row
      ∧ notificationApiNumericId rfc3339 row ≤ 9223372036854775807 := by
    rw [value]
    omega
  have isSecond : idSecond (notificationApiNumericId rfc3339 row) = stamp.second := by
    rw [idSecond_eq, value, stamp.second_eq]
    omega
  refine ⟨value, range, apiNumericId_lt_iff lawful stored otherStored fits otherFits, ?_, ?_, ?_⟩
  · intro has
    rw [cursorUnixSeconds_toString range.2 has, isSecond]
  · intro has entries mem
    rw [listed_olderThan_iff counts otherStored mem range.2 has, isSecond,
      apiNumericId_lt_iff lawful otherStored stored otherFits fits]
    exact and_iff_right_of_imp RowBefore.second_le
  · intro has entries mem fromCursor
    rw [listed_newerThan_iff counts otherStored mem range.2 has, isSecond,
      apiNumericId_lt_iff lawful stored otherStored fits otherFits]
    exact and_iff_right_of_imp RowBefore.second_le

/-- Two favourites of one second. -/
theorem ids_order_october :
    IdsOrder (rfc3339AtRow octoberTime) civilOfUnix octoberRow
      ⟨"favourite-local-3-2", "2026-10-07 05:00:00"⟩ octoberStamp octoberStamp :=
  ids_order_rows (lawful_rfc3339AtRow (by decide)) countsSeconds_civilOfUnix
    ⟨reads_octoberStamp, by decide +kernel⟩ ⟨reads_octoberStamp, by decide +kernel⟩
    (by decide +kernel) (by decide +kernel)

/-- A day in October, four years before ids are free of hashes. -/
def earlyTime : CivilTime where
  date := .ofNumbers 1970 10 7 (by decide)
  time := octoberTime.time

/-- The id of a row of 1970 is taken for a hash, and so it gives no second. -/
theorem early_id_has_no_second :
    notificationCursorUnixSeconds (some (toString (notificationApiNumericId
        (rfc3339AtRow earlyTime) ⟨"favourite-local-1-2", "1970-10-07 05:00:00"⟩))) = none
      ∧ (StoredTimestamp.sqlite earlyTime (by decide)).text = "1970-10-07 05:00:00"
      ∧ (StoredTimestamp.sqlite earlyTime (by decide)).second = 24123600 := by
  decide +kernel

end Cfwdon.Notifications
