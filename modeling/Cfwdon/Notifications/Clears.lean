import Cfwdon.Library.Run
import Cfwdon.Notifications.Listing

/-!
# Clearing notifications

A clear notes its time, and later listings drop what is not newer.  The two times are
compared as their digits, filled up to milliseconds, whichever of the shapes they are stored
in.
-/

namespace Cfwdon.Notifications

open Library

variable {rfc3339 : Rfc3339}

theorem digits_zero (width : Nat) : digits width 0 = List.replicate width '0' := by
  induction width with
  | zero => rfl
  | succ width ih =>
    rw [digits, Nat.zero_div, ih]
    rfl

theorem fractionValue_nil (places : Nat) : fractionValue places [] = 0 := by
  cases places <;> rfl

theorem take_fraction {width zeros : Nat} {frac : List (Fin 10)}
    (enough : width ≤ frac.length + zeros) :
    (frac.map (fun digit : Fin 10 => digitChar digit) ++ List.replicate zeros '0').take width
      = digits width (fractionValue width frac) := by
  induction width generalizing frac with
  | zero => rfl
  | succ width ih =>
    cases frac with
    | nil =>
      rw [List.length_nil, Nat.zero_add] at enough
      rw [List.map_nil, List.nil_append, List.take_replicate, Nat.min_eq_left enough,
        fractionValue_nil, digits_zero]
    | cons digit rest =>
      rw [List.length_cons] at enough
      rw [List.map_cons, List.cons_append, List.take_succ_cons,
        ih (by omega), fractionValue,
        digits_place digit.isLt (fractionValue_lt width rest)]

theorem fractionValue_div (width rest : Nat) (fraction : List (Fin 10)) :
    fractionValue (width + rest) fraction / 10 ^ rest = fractionValue width fraction := by
  induction width generalizing fraction with
  | zero => rw [Nat.zero_add, Nat.div_eq_of_lt (fractionValue_lt rest fraction)]; rfl
  | succ width ih =>
    cases fraction with
    | nil =>
      rw [fractionValue_nil, fractionValue_nil, Nat.zero_div]
    | cons digit later =>
      have pos : 0 < 10 ^ rest := Nat.pow_pos (by decide)
      rw [Nat.succ_add, fractionValue, fractionValue, Nat.pow_add, ← Nat.mul_assoc,
        Nat.mul_comm _ (10 ^ rest), Nat.mul_add_div pos, ih]

theorem sortToken_of_text {civil : CivilTime} {sep : Char} {post : List Char}
    {frac : List (Fin 10)} {zeros : Nat} (nonDigit : sep.isDigit = false)
    (trimmed : trim (String.ofList (civil.text sep ++ post))
      = String.ofList (civil.text sep ++ post))
    (behind : post.filter Char.isDigit
      = frac.map (fun digit : Fin 10 => digitChar digit) ++ List.replicate zeros '0') :
    notificationTimestampSortToken (String.ofList (civil.text sep ++ post))
      = some (String.ofList (civil.digitText ++ digits 3 (fractionValue 3 frac))) := by
  have got : (civil.text sep ++ post).filter Char.isDigit
      = civil.digitText ++ (frac.map (fun digit : Fin 10 => digitChar digit)
        ++ List.replicate zeros '0') := by
    rw [List.filter_append, CivilTime.filter_text civil nonDigit, behind]
  have long : ¬ (civil.digitText ++ (frac.map (fun digit : Fin 10 => digitChar digit)
      ++ List.replicate zeros '0')).length < 14 := by
    rw [List.length_append, CivilTime.length_digitText]
    omega
  rw [notificationTimestampSortToken, trimmed, if_neg (text_ne_empty civil sep post),
    String.toList_ofList, got, if_neg long]
  have filled : (civil.digitText ++ (frac.map (fun digit : Fin 10 => digitChar digit)
        ++ List.replicate zeros '0')
      ++ List.replicate (17 - (civil.digitText ++ (frac.map (fun digit : Fin 10 => digitChar digit)
        ++ List.replicate zeros '0')).length) '0').take 17
      = civil.digitText ++ digits 3 (fractionValue 3 frac) := by
    rw [List.append_assoc, List.append_assoc, List.replicate_append_replicate,
      List.take_append, CivilTime.length_digitText,
      List.take_of_length_le (by rw [CivilTime.length_digitText]; omega), take_fraction]
    rw [List.length_append, List.length_append, List.length_map, List.length_replicate,
      CivilTime.length_digitText]
    omega
  rw [filled]

theorem filter_pointText (frac : List (Fin 10)) :
    (pointText frac).filter Char.isDigit = frac.map fun digit : Fin 10 => digitChar digit := by
  have point : ¬ '.'.isDigit = true := by decide
  have values : (do let digit ← frac; pure (digit : Nat)) = frac.map Fin.val :=
    bind_pure_comp _ _
  have text : (frac.map Fin.val).map digitChar
      = frac.map fun digit : Fin 10 => digitChar digit := List.map_map ..
  have kept : ∀ c ∈ frac.map fun digit : Fin 10 => digitChar digit, c.isDigit = true := by
    intro c mem
    obtain ⟨digit, -, rfl⟩ := List.mem_map.mp mem
    exact isDigit_digitChar digit.isLt
  cases frac with
  | nil => rfl
  | cons digit rest =>
    rw [pointText, List.filter_cons_of_neg point, values, text, List.filter_eq_self.mpr kept]
    exact List.cons_ne_nil digit rest

def StoredTimestamp.fraction : StoredTimestamp → List (Fin 10)
  | .sqlite .. => []
  | .iso _ _ fraction _ => fraction

def StoredTimestamp.token (stamp : StoredTimestamp) : String :=
  String.ofList (stamp.civil.digitText ++ digits 3 (fractionValue 3 stamp.fraction))

theorem sortToken_utcText (civil : CivilTime) (frac : List (Fin 10)) (zone : UtcZone) :
    notificationTimestampSortToken (utcText civil frac zone)
      = some (String.ofList (civil.digitText ++ digits 3 (fractionValue 3 frac))) := by
  have behind : ∃ zeros, (pointText frac ++ zone.text).filter Char.isDigit
      = frac.map (fun digit : Fin 10 => digitChar digit) ++ List.replicate zeros '0' := by
    rw [List.filter_append, filter_pointText]
    cases zone with
    | zulu => exact ⟨0, rfl⟩
    | zeroOffset => exact ⟨4, rfl⟩
  obtain ⟨zeros, filtered⟩ := behind
  exact sortToken_of_text (by decide) (trim_utcText civil frac zone) filtered

theorem sortToken_text (stamp : StoredTimestamp) :
    notificationTimestampSortToken stamp.text = some stamp.token := by
  cases stamp with
  | sqlite civil short =>
    have trimmed : trim (String.ofList (civil.text ' ' ++ []))
        = String.ofList (civil.text ' ' ++ []) := by
      rw [List.append_nil]
      exact trim_bareText civil
    exact @sortToken_of_text civil ' ' [] [] 0 (by decide) trimmed rfl
  | iso civil short frac zone => exact sortToken_utcText civil frac zone

theorem sortToken_normalized (lawful : rfc3339.Lawful) {stamp : StoredTimestamp}
    (reads : Reads rfc3339 stamp) :
    notificationTimestampSortToken (timestampToMastodonIso8601 rfc3339 stamp.text)
      = some stamp.token := by
  cases stamp with
  | sqlite civil short =>
    obtain ⟨unread, read, -⟩ := reads
    have bare : (StoredTimestamp.sqlite civil short).text = String.ofList (civil.text ' ') :=
      congrArg String.ofList (List.append_nil _)
    rw [bare, iso8601_bareText lawful short unread read, sortToken_utcText]
    rfl
  | iso civil short frac zone =>
    have eq : timestampToMastodonIso8601 rfc3339 (StoredTimestamp.iso civil short frac
        zone).text = utcText civil frac zone :=
      iso8601_utcText civil frac zone
    rw [eq, sortToken_utcText]
    rfl

theorem StoredTimestamp.millis_eq (stamp : StoredTimestamp) :
    stamp.millis = stamp.second * 1000 + fractionValue 3 stamp.fraction := by
  have first : stamp.time.nanosecond / 1000000 = fractionValue 3 stamp.fraction := by
    cases stamp with
    | sqlite civil short => exact fractionValue_div 3 6 []
    | iso civil short frac zone => exact fractionValue_div 3 6 frac
  rw [StoredTimestamp.millis]
  omega

/-- **Tokens are ordered as the milliseconds of the times.** -/
theorem sortToken_lt_iff (stamp other : StoredTimestamp) :
    stamp.token < other.token ↔ stamp.millis < other.millis := by
  have within := fractionValue_lt 3 stamp.fraction
  have otherWithin := fractionValue_lt 3 other.fraction
  rw [String.lt_iff_toList_lt, StoredTimestamp.token, StoredTimestamp.token, String.toList_ofList,
    String.toList_ofList, append_lt_append_iff (by simp),
    CivilTime.digitText_lt_iff stamp.short other.short,
    CivilTime.digitText_inj stamp.short other.short, digits_lt_digits_iff within otherWithin,
    stamp.millis_eq, other.millis_eq, StoredTimestamp.second, StoredTimestamp.second]
  constructor
  · rintro (pre | ⟨eq, less⟩) <;> omega
  · intro less
    omega

/-! ## The filter -/

/-- **What passes the filter**: a notification that is not dismissed and newer than the marker,
in milliseconds. -/
theorem isUndismissed_iff (lawful : rfc3339.Lawful) {stamp : StoredTimestamp}
    (reads : Reads rfc3339 stamp) (dismissedIds : List String) (marker : Option StoredTimestamp)
    (key : String) :
    isUndismissed dismissedIds (marker.map StoredTimestamp.text)
        ⟨key, timestampToMastodonIso8601 rfc3339 stamp.text⟩ = true
      ↔ key ∉ dismissedIds ∧ ∀ cleared, marker = some cleared → cleared.millis < stamp.millis := by
  have made := sortToken_normalized lawful reads
  rw [isUndismissed, Bool.and_eq_true, made]
  refine and_congr (by simp) ?_
  cases marker with
  | none => exact ⟨fun _ _ none => (Option.some_ne_none _ none.symm).elim, fun _ => rfl⟩
  | some cleared =>
    rw [Option.map_some, Option.bind_some, sortToken_text]
    dsimp only
    rw [decide_eq_true_iff, gt_iff_lt, sortToken_lt_iff]
    exact ⟨fun newer other eq => Option.some.inj eq ▸ newer, fun each => each cleared rfl⟩

/-- A listing holds what passes the filter only. -/
theorem isUndismissed_of_mem_collect {env : ListingEnv} {tables : NotificationTables}
    {req : NotificationsRequest} {perTypeLimit : Nat} {cand : NotificationCandidate}
    (mem : cand ∈ collectNotificationCandidates env tables req perTypeLimit) :
    isUndismissed tables.dismissedIds tables.clearedAt cand.identity = true :=
  (List.mem_filter.mp (retained_of_mem_collect mem)).2

/-- An entry with a key and a time. -/
def entryOf (identity : NotificationIdentity) : NotificationEntry where
  id := identity.notificationKey
  createdAt := identity.notificationCreatedAt
  value := ⟨identity.notificationKey, "", identity.notificationKey,
    identity.notificationCreatedAt, ⟨"", []⟩, none, none⟩

theorem identity_ready_entryOf (identity : NotificationIdentity) :
    (NotificationCandidate.ready (entryOf identity)).identity = identity := rfl

theorem consistent_entryOf (identity : NotificationIdentity) (req : NotificationsRequest)
    (made : NotificationCandidate)
    (eq : (fun _ : NotificationsRequest => some (NotificationCandidate.ready
      (entryOf identity))) req = some made) :
    made.Consistent := by
  cases eq
  exact consistent_ready _

def tablesOf (identity : NotificationIdentity) (dismissedIds : List String)
    (clearedAt : Option String) : NotificationTables where
  sources := [⟨none, none,
    [⟨"", fun _ => some (.ready (entryOf identity)), consistent_entryOf identity⟩]⟩]
  dismissedIds := dismissedIds
  clearedAt := clearedAt
  usernameOfAccount := fun _ => none
  mutedActorUris := []

theorem mem_collect_tablesOf {identity : NotificationIdentity} {dismissedIds : List String}
    {clearedAt : Option String} (passes : isUndismissed dismissedIds clearedAt identity = true)
    (env : ListingEnv) (req : NotificationsRequest) :
    NotificationCandidate.ready (entryOf identity)
      ∈ collectNotificationCandidates env (tablesOf identity dismissedIds clearedAt) req 1 := by
  have collected : collectNotifications env (tablesOf identity dismissedIds clearedAt) req 1
      = [.ready (entryOf identity)] := rfl
  have kept : retainUndismissedCandidates [NotificationCandidate.ready (entryOf identity)]
      dismissedIds clearedAt = [.ready (entryOf identity)] :=
    List.filter_cons_of_pos passes
  have retained : retainUndismissedCandidates
      (collectNotifications env (tablesOf identity dismissedIds clearedAt) req 1)
      (tablesOf identity dismissedIds clearedAt).dismissedIds
      (tablesOf identity dismissedIds clearedAt).clearedAt = [.ready (entryOf identity)] := by
    rw [collected]
    exact kept
  rw [collectNotificationCandidates, sortCandidatesNewestFirst,
    (List.perm_insertionSort _ _).mem_iff, retained]
  exact List.mem_singleton_self _

/-! ## Histories -/

/-- The nanoseconds of the place behind the last that a timestamp has. -/
def StoredTimestamp.precision : StoredTimestamp → Int
  | .sqlite .. => 1000000000
  | .iso _ _ fraction _ => 10 ^ (9 - fraction.length)

/-- A timestamp is the time of something, cut off behind its last place. -/
def StoredTimestamp.Cuts (stamp : StoredTimestamp) (instant : Int) : Prop :=
  stamp.time.instant ≤ instant ∧ instant < stamp.time.instant + stamp.precision

/-- Something a notification is made of: the nanosecond it happened at, and what is stored. -/
structure NotificationEvent where
  key : String
  instant : Int
  stamp : StoredTimestamp
  cuts : stamp.Cuts instant

def NotificationEvent.identity (rfc3339 : Rfc3339) (event : NotificationEvent) :
    NotificationIdentity :=
  ⟨event.key, timestampToMastodonIso8601 rfc3339 event.stamp.text⟩

/-- A clear: the nanosecond it happened at, and the marker that is stored. -/
structure NotificationClear where
  instant : Int
  marker : StoredTimestamp
  cuts : marker.Cuts instant

/-- The notifications of an account, its dismissals and its marker, with the clears so far,
the last one first. -/
structure ClearsState where
  events : List NotificationEvent
  dismissedIds : List String
  clearedAt : Option String
  clears : List NotificationClear

namespace ClearsState

def initial : ClearsState := ⟨[], [], none, []⟩

/-- `clear_notifications_for_account`. -/
def clearNotifications (s : ClearsState) (clear : NotificationClear) : ClearsState :=
  { s with clearedAt := some clear.marker.text, clears := clear :: s.clears }

/-- `dismiss_notification_for_account`. -/
def dismissNotification (s : ClearsState) (key : String) : ClearsState :=
  { s with dismissedIds := if key ∈ s.dismissedIds then s.dismissedIds else s.dismissedIds ++ [key] }

end ClearsState

/-- What happens in a history.  A notification may come in long after it happened. -/
inductive HistoryEvent where
  | notify (event : NotificationEvent)
  | clear (clear : NotificationClear)
  | dismiss (key : String)

/-- The steps of a history.  The clock of the server does not go back between two clears. -/
inductive HistoryStep : ClearsState → HistoryEvent → ClearsState → Prop where
  | notify (s : ClearsState) (event : NotificationEvent) :
      HistoryStep s (.notify event) { s with events := s.events ++ [event] }
  | clear (s : ClearsState) (clear : NotificationClear)
      (later : ∀ earlier ∈ s.clears, earlier.instant ≤ clear.instant) :
      HistoryStep s (.clear clear) (s.clearNotifications clear)
  | dismiss (s : ClearsState) (key : String) :
      HistoryStep s (.dismiss key) (s.dismissNotification key)

structure LatestMarker (s : ClearsState) : Prop where
  marker : s.clearedAt = (s.clears.head?.map NotificationClear.marker).map StoredTimestamp.text
  latest : ∀ last, s.clears.head? = some last → ∀ clear ∈ s.clears, clear.instant ≤ last.instant

theorem latestMarker_of_run {trace : List (Transition ClearsState HistoryEvent)}
    {s : ClearsState} (run : Run HistoryStep .initial trace s) : LatestMarker s := by
  refine run.invariant_of_step ⟨rfl, fun last none => ?_⟩ fun holds step => ?_
  · cases none
  · cases step with
    | notify ev | dismiss key => exact ⟨holds.marker, holds.latest⟩
    | clear clear later =>
      refine ⟨rfl, fun last isLast other mem => ?_⟩
      cases isLast
      rcases List.mem_cons.mp mem with rfl | prior
      · exact le_refl _
      · exact later other prior

/-! ## What clears do -/

/-- **What clears are for**: what happened before or at a clear is in no listing, and what
happened after every clear passes the filter, unless it is dismissed. -/
structure ClearsHold (rfc3339 : Rfc3339) (s : ClearsState) : Prop where
  hides : ∀ event ∈ s.events, (∃ clear ∈ s.clears, event.instant ≤ clear.instant) →
    ∀ (env : ListingEnv) (tables : NotificationTables) (request : NotificationsRequest)
      (perTypeLimit : Nat), env.rfc3339 = rfc3339 → tables.dismissedIds = s.dismissedIds →
      tables.clearedAt = s.clearedAt →
      ∀ candidate ∈ collectNotificationCandidates env tables request perTypeLimit,
        candidate.identity ≠ event.identity rfc3339
  passes : ∀ event ∈ s.events, (∀ clear ∈ s.clears, clear.instant < event.instant) →
    event.key ∉ s.dismissedIds →
    isUndismissed s.dismissedIds s.clearedAt (event.identity rfc3339) = true

/-- The stored times of a clear and of something it may hide are in the order of the real
ones, in milliseconds. -/
def StoredInOrder (clear : NotificationClear) (event : NotificationEvent) : Prop :=
  clear.marker.millis < event.stamp.millis ↔ clear.instant < event.instant

/-- **Clears hide what happened up to them, and nothing later**, in every state of a history,
exactly if the stored times of the last clear and of what is not dismissed are in the order of
the real ones. -/
theorem clears_hold_iff (lawful : rfc3339.Lawful)
    {trace : List (Transition ClearsState HistoryEvent)} {s : ClearsState}
    (run : Run HistoryStep .initial trace s)
    (reads : ∀ event ∈ s.events, Reads rfc3339 event.stamp) :
    ClearsHold rfc3339 s
      ↔ ∀ event ∈ s.events, event.key ∉ s.dismissedIds →
        ∀ last, s.clears.head? = some last → StoredInOrder last event := by
  have latest := latestMarker_of_run run
  have passes_iff (event : NotificationEvent) (mem : event ∈ s.events) :
      isUndismissed s.dismissedIds s.clearedAt (event.identity rfc3339) = true
        ↔ event.key ∉ s.dismissedIds
          ∧ ∀ last, s.clears.head? = some last → last.marker.millis < event.stamp.millis := by
    rw [latest.marker, NotificationEvent.identity, isUndismissed_iff lawful (reads event mem)]
    refine and_congr_right fun _ => ?_
    constructor
    · intro each last isLast
      exact each last.marker (by rw [isLast, Option.map_some])
    · intro each cleared isCleared
      obtain ⟨last, isLast, rfl⟩ := Option.map_eq_some_iff.mp isCleared
      exact each last isLast
  have noClear (first : s.clears.head? = none) : s.clears = [] := List.head?_eq_none_iff.mp first
  constructor
  · intro holds event mem undismissed last isLast
    have inClears : last ∈ s.clears := List.mem_of_mem_head? isLast
    constructor
    · intro storedLater
      by_contra pre
      -- The notification is hidden, so it is in no listing of its own, and the filter drops it.
      have hidden := holds.hides event mem ⟨last, inClears, not_lt.mp pre⟩
      have newer : ∀ other, s.clears.head? = some other →
          other.marker.millis < event.stamp.millis := by
        intro other isOther
        rw [isLast] at isOther
        cases isOther
        exact storedLater
      let env : ListingEnv := ⟨rfc3339, fun _ => none, ""⟩
      let req : NotificationsRequest :=
        ⟨⟨none, none, none, none⟩, none, none, none, none, none⟩
      have listed := mem_collect_tablesOf ((passes_iff event mem).mpr ⟨undismissed, newer⟩) env req
      exact hidden env _ req 1 rfl rfl rfl _ listed (identity_ready_entryOf _)
    · intro post
      have passes := holds.passes event mem
        (fun clear inClears => lt_of_le_of_lt (latest.latest last isLast clear inClears) post)
        undismissed
      exact ((passes_iff event mem).mp passes).2 last isLast
  · intro inOrder
    refine ⟨?_, ?_⟩
    · rintro event mem ⟨clear, inClears, pre⟩ env tables req perTypeLimit rfl
        sameDismissals sameMarker candidate listed sameIdentity
      have passes := isUndismissed_of_mem_collect listed
      rw [sameDismissals, sameMarker, sameIdentity] at passes
      obtain ⟨undismissed, newer⟩ := (passes_iff event mem).mp passes
      cases first : s.clears.head? with
      | none =>
        rw [noClear first] at inClears
        cases inClears
      | some last =>
        have post := (inOrder event mem undismissed last first).mp (newer last first)
        exact absurd (lt_of_lt_of_le post pre)
          (not_lt.mpr (latest.latest last first clear inClears))
    · intro event mem post undismissed
      refine (passes_iff event mem).mpr ⟨undismissed, fun last isLast => ?_⟩
      exact (inOrder event mem undismissed last isLast).mpr
        (post last (List.mem_of_mem_head? isLast))

/-! ### A second with a clear and a favourite -/

/-- The nanosecond at which the morning's time begins. -/
def octoberInstant : Int := octoberTime.seconds * 1000000000

theorem octoberStamp_cuts : octoberStamp.Cuts (octoberInstant + 700000000) :=
  ⟨by decide +kernel, by decide +kernel⟩

/-- A favourite at seven tenths of the second, stored by SQLite. -/
def octoberEvent : NotificationEvent where
  key := "favourite-local-1-2"
  instant := octoberInstant + 700000000
  stamp := octoberStamp
  cuts := octoberStamp_cuts

theorem octoberTime_short : octoberTime.date.FourDigits := by
  decide

/-- A clear at some tenths of the second, stored with milliseconds. -/
def octoberMarker (tenths : Fin 10) : StoredTimestamp :=
  .iso octoberTime octoberTime_short [tenths, 0, 0] .zulu

theorem octoberMarker_cuts_three : (octoberMarker 3).Cuts (octoberInstant + 300000000) :=
  ⟨by decide +kernel, by decide +kernel⟩

theorem octoberMarker_cuts_nine : (octoberMarker 9).Cuts (octoberInstant + 900000000) :=
  ⟨by decide +kernel, by decide +kernel⟩

def clearBefore : NotificationClear where
  instant := octoberInstant + 300000000
  marker := octoberMarker 3
  cuts := octoberMarker_cuts_three

def clearAfter : NotificationClear where
  instant := octoberInstant + 900000000
  marker := octoberMarker 9
  cuts := octoberMarker_cuts_nine

theorem run_clearAfter : ∃ trace, Run HistoryStep .initial trace
    ⟨[octoberEvent], [], some clearAfter.marker.text, [clearAfter]⟩ :=
  ⟨_, (Run.start.snoc (HistoryStep.notify .initial octoberEvent)).snoc
    (HistoryStep.clear _ clearAfter fun _ mem => absurd mem List.not_mem_nil)⟩

/-- A favourite that is cleared later in the same second. -/
theorem clears_hold_october :
    ClearsHold (rfc3339AtRow octoberTime)
        ⟨[octoberEvent], [], some clearAfter.marker.text, [clearAfter]⟩
      ↔ ∀ event ∈ [octoberEvent], event.key ∉ ([] : List String) →
        ∀ last, [clearAfter].head? = some last → StoredInOrder last event :=
  clears_hold_iff (lawful_rfc3339AtRow octoberTime_short) run_clearAfter.choose_spec
    fun event mem => by
      rw [List.mem_singleton.mp mem]
      exact reads_octoberStamp

/-- A favourite after a clear, in the same second, does not pass the filter. -/
theorem favourite_after_clear_dropped :
    ∃ trace s, Run HistoryStep .initial trace s ∧ octoberEvent ∈ s.events
      ∧ (∀ clear ∈ s.clears, clear.instant < octoberEvent.instant)
      ∧ octoberEvent.key ∉ s.dismissedIds
      ∧ isUndismissed s.dismissedIds s.clearedAt
          (octoberEvent.identity (rfc3339AtRow octoberTime)) = false := by
  refine ⟨_, _, (Run.start.snoc (HistoryStep.clear .initial clearBefore
    fun _ mem => absurd mem List.not_mem_nil)).snoc (HistoryStep.notify _ octoberEvent),
    List.mem_singleton_self _, ?_, List.not_mem_nil, ?_⟩
  · intro clear mem
    rw [List.mem_singleton.mp mem]
    decide +kernel
  · decide +kernel

end Cfwdon.Notifications
