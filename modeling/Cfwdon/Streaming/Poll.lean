import Cfwdon.Library.Unseen
import Cfwdon.Streaming.Announcements
import Mathlib.Data.Finset.Lattice.Basic

/-!
# Poll rounds of a stream

A round asks the tables for a batch, moves the cursor past it, and then asks for more:
what became of the tracked statuses, and on the user channel the filters and the
announcements.  Each question may fail, and what was written before stays.  The first
successful round is the baseline: its events count as emitted and none is handed out.

The answers of the tables in a round are given, each with its failure.  The budget of an
invocation counts rounds and queries, and the queries of other work count too, so the
count is given at each test.
-/

namespace Cfwdon.Streaming

open Library

/-- `tracked_status_ids`, with `tracked_status_id_set` of the same ids: distinct, and 200
at most. -/
structure TrackedStatusIds where
  ids : List String
  distinct : ids.Nodup
  atMost : ids.length ≤ 200

namespace TrackedStatusIds

/-- No id. -/
def none : TrackedStatusIds := ⟨[], List.nodup_nil, by simp⟩

/-- Push the ids that are not tracked, and keep the last 200. -/
def track (tracked : TrackedStatusIds) (added : List String) : TrackedStatusIds where
  ids := keepLast 200 (pushMissing tracked.ids added)
  distinct := (nodup_pushMissing tracked.distinct).sublist (keepLast_sublist ..)
  atMost := length_keepLast ..

theorem track_ids (tracked : TrackedStatusIds) (added : List String) :
    (tracked.track added).ids = keepLast 200 (pushMissing tracked.ids added) := by
  rw [track]

theorem mem_of_mem_track {tracked : TrackedStatusIds} {added : List String} {id : String}
    (mem : id ∈ (tracked.track added).ids) : id ∈ tracked.ids ∨ id ∈ added := by
  rw [track_ids] at mem
  exact mem_pushMissing.mp ((keepLast_sublist _ _).subset mem)

end TrackedStatusIds

/-- `deleted_status_ids` and `updated_status_ids`. -/
structure StatusChanges where
  deletedStatusIds : Finset String
  updatedStatusIds : Finset String

/-- `last_filter_updated_at` with the announcements. -/
structure UserStreamState where
  lastFilterUpdatedAt : Option String
  lastAnnouncements : LastAnnouncements

structure StreamingLoopState where
  sinceId : Option String
  notificationMinCreatedAt : Option String
  tracked : TrackedStatusIds
  changes : StatusChanges
  emittedEventIds : Finset String
  user : UserStreamState
  initialized : Bool

def StreamingLoopState.new : StreamingLoopState where
  sinceId := none
  notificationMinCreatedAt := none
  tracked := .none
  changes := ⟨∅, ∅⟩
  emittedEventIds := ∅
  user := ⟨none, ⟨[], .empty⟩⟩
  initialized := false

/-- A tracked status that is found: the local one or, if there is none, the remote one. -/
structure FoundStatus where
  /-- `created_at`, or `published_at` of a remote status. -/
  postedAt : String
  updatedAt : Option String
  authorFound : Bool
  /-- The viewer muted the thread, or the remote author. -/
  muted : Bool
  data : String

/-- The answers to the questions of a round. -/
structure PollAnswers where
  rows : Except String BatchRows
  lookup : String → Except String (Option FoundStatus)
  now : Except String String
  filterUpdatedAt : Except String (Option String)
  announcements : Except String CurrentAnnouncementStreamState
  /-- The document of a reaction. -/
  reactionDocument : AnnouncementReaction → String

def applyStreamingBatchToState (stream : String) (batch : StreamingBatch)
    (isInitialPoll : Bool) (state : StreamingLoopState) :
    StreamingLoopState × List StreamingEvent :=
  let applied := { state with
    sinceId := batch.lastId.or state.sinceId
    notificationMinCreatedAt :=
      if stream = "user:notification" then
        batch.lastCreatedAt.or state.notificationMinCreatedAt
      else state.notificationMinCreatedAt
    tracked := state.tracked.track batch.trackedStatusIds }
  if isInitialPoll then
    ({ applied with emittedEventIds :=
        applied.emittedEventIds ∪ (batch.events.map streamingEventKey).toFinset }, [])
  else (applied, batch.events)

/-! ## Changes of tracked statuses -/

/-- `streaming_local_status_update_event` and `streaming_remote_status_update_event`,
which make the same checks. -/
def streamingStatusUpdateEvent (viewer : Option String) (id : String) (status : FoundStatus) :
    Option StreamingEvent :=
  match status.updatedAt with
  | none => none
  | some updatedAt =>
    if updatedAt = status.postedAt then none
    else if !status.authorFound then none
    else if viewer.isSome && status.muted then none
    else some ⟨updatedAt, id, "status.update", status.data⟩

def streamingStatusDeleteEvent (id createdAt : String) : StreamingEvent :=
  ⟨createdAt, id, "delete", id⟩

/-- `streaming_status_delta_already_recorded`. -/
def StatusChanges.alreadyRecorded (changes : StatusChanges) (id : String) : Prop :=
  id ∈ changes.deletedStatusIds ∨ id ∈ changes.updatedStatusIds

instance (changes : StatusChanges) (id : String) : Decidable (changes.alreadyRecorded id) :=
  inferInstanceAs (Decidable (_ ∨ _))

def appendStreamingStatusDeltaEvent (viewer : Option String) (answers : PollAnswers)
    (changes : StatusChanges) (id : String) :
    Attempt StatusChanges String (List StreamingEvent) :=
  if changes.alreadyRecorded id then (changes, .ok [])
  else
    match answers.lookup id with
    | .error failure => (changes, .error failure)
    | .ok (some status) =>
      match streamingStatusUpdateEvent viewer id status with
      | none => (changes, .ok [])
      | some event =>
        ({ changes with updatedStatusIds := insert id changes.updatedStatusIds }, .ok [event])
    | .ok none =>
      ({ changes with deletedStatusIds := insert id changes.deletedStatusIds },
        answers.now.map fun now => [streamingStatusDeleteEvent id now])

/-- The newest 200 tracked ids, newest first. -/
def streamingStatusDeltaEvents (viewer : Option String) (answers : PollAnswers)
    (tracked : TrackedStatusIds) (changes : StatusChanges) :
    Attempt StatusChanges String (List StreamingEvent) :=
  Attempt.collect (appendStreamingStatusDeltaEvent viewer answers) changes
    (tracked.ids.reverse.take 200)

/-! ## Filters and announcements -/

def streamingFilterUpdateChanged (previous : Option String) (current : String) : Bool :=
  match previous with
  | none => false
  | some value => value != current

def appendUserFilterStateEvents (answers : PollAnswers) (isInitialPoll : Bool)
    (user : UserStreamState) : Attempt UserStreamState String (List StreamingEvent) :=
  match answers.filterUpdatedAt with
  | .error failure => (user, .error failure)
  | .ok none => (user, .ok [])
  | .ok (some current) =>
    ({ user with lastFilterUpdatedAt := some current },
      .ok (if !isInitialPoll && streamingFilterUpdateChanged user.lastFilterUpdatedAt current
        then [⟨current, current, "filters_changed", "undefined"⟩] else []))

/-- The instant of the deletions that a poll tells, which is asked for only if there is
one. -/
def announcementInstant (answers : PollAnswers) (isInitialPoll : Bool)
    (user : UserStreamState) (current : CurrentAnnouncementStreamState) :
    Except String String :=
  if isInitialPoll
      || (removedAnnouncementIds user.lastAnnouncements.announcements
        current.last.announcements).isEmpty then .ok ""
  else answers.now

def appendUserAnnouncementStateEvents (answers : PollAnswers) (isInitialPoll : Bool)
    (user : UserStreamState) : Attempt UserStreamState String (List StreamingEvent) :=
  match answers.announcements with
  | .error failure => (user, .error failure)
  | .ok current =>
    match announcementInstant answers isInitialPoll user current with
    | .error failure => (user, .error failure)
    | .ok now =>
      ({ user with lastAnnouncements := current.last },
        .ok (announcementEvents answers.reactionDocument isInitialPoll now
          user.lastAnnouncements current))

def appendUserStreamStateEvents (answers : PollAnswers) (isInitialPoll : Bool)
    (user : UserStreamState) : Attempt UserStreamState String (List StreamingEvent) :=
  (appendUserFilterStateEvents answers isInitialPoll user).andThen fun next filters =>
    (appendUserAnnouncementStateEvents answers isInitialPoll next).andThen
      fun last announced => (last, .ok (filters ++ announced))

/-! ## Which question fails first -/

def PollAnswers.lookupFailure (answers : PollAnswers) (id : String) : Option String :=
  match answers.lookup id with
  | .error failure => some failure
  | .ok (some _) => none
  | .ok none => failureOf answers.now

def StatusChanges.lookupFailure (answers : PollAnswers) (changes : StatusChanges)
    (id : String) : Option String :=
  if changes.alreadyRecorded id then none else answers.lookupFailure id

def announcementFailure (answers : PollAnswers) (isInitialPoll : Bool)
    (user : UserStreamState) : Option String :=
  match answers.announcements with
  | .error failure => some failure
  | .ok current => failureOf (announcementInstant answers isInitialPoll user current)

section Failures

variable {viewer : Option String} {answers : PollAnswers} {changes : StatusChanges}
  {id other : String} {isInitialPoll : Bool} {user : UserStreamState}

theorem failure_appendDelta :
    (appendStreamingStatusDeltaEvent viewer answers changes id).failure
      = changes.lookupFailure answers id := by
  unfold appendStreamingStatusDeltaEvent StatusChanges.lookupFailure PollAnswers.lookupFailure
  by_cases recorded : changes.alreadyRecorded id
  · rw [if_pos recorded, if_pos recorded]
    rfl
  · rw [if_neg recorded, if_neg recorded]
    cases answers.lookup id with
    | error err => rfl
    | ok got =>
      cases got with
      | some status =>
        dsimp only
        cases streamingStatusUpdateEvent viewer id status with
        | none | some ev => rfl
      | none => exact failureOf_map

theorem alreadyRecorded_appendDelta (different : other ≠ id) :
    (appendStreamingStatusDeltaEvent viewer answers changes id).1.alreadyRecorded other
      ↔ changes.alreadyRecorded other := by
  unfold appendStreamingStatusDeltaEvent
  by_cases recorded : changes.alreadyRecorded id
  · rw [if_pos recorded]
  · rw [if_neg recorded]
    cases answers.lookup id with
    | error err => rfl
    | ok got =>
      cases got with
      | some status =>
        dsimp only
        cases streamingStatusUpdateEvent viewer id status with
        | none => rfl
        | some ev => simp [StatusChanges.alreadyRecorded, different]
      | none => simp [StatusChanges.alreadyRecorded, different]

/-- **The changes of the tracked statuses fail with the first lookup that does**, newest
first. -/
theorem failure_deltaEvents {tracked : TrackedStatusIds} :
    (streamingStatusDeltaEvents viewer answers tracked changes).failure
      = tracked.ids.reverse.findSome? (changes.lookupFailure answers) := by
  have all : tracked.ids.reverse.take 200 = tracked.ids.reverse := by
    apply List.take_of_length_le
    rw [List.length_reverse]
    exact tracked.atMost
  have exactly : ∀ changes id, (appendStreamingStatusDeltaEvent viewer answers changes id).failure
      = StatusChanges.lookupFailure answers changes id :=
    fun _ _ => failure_appendDelta
  rw [streamingStatusDeltaEvents, all,
    Attempt.failure_collect (List.nodup_reverse.mpr tracked.distinct) exactly]
  intro changes id other different
  rw [StatusChanges.lookupFailure, StatusChanges.lookupFailure]
  simp only [alreadyRecorded_appendDelta different]

theorem failure_filterEvents :
    (appendUserFilterStateEvents answers isInitialPoll user).failure
      = failureOf answers.filterUpdatedAt := by
  unfold appendUserFilterStateEvents
  cases answers.filterUpdatedAt with
  | error err => rfl
  | ok updatedAt =>
    cases updatedAt with
    | none | some cur => rfl

theorem failure_announcementEvents :
    (appendUserAnnouncementStateEvents answers isInitialPoll user).failure
      = announcementFailure answers isInitialPoll user := by
  unfold appendUserAnnouncementStateEvents announcementFailure
  cases answers.announcements with
  | error err => rfl
  | ok cur =>
    dsimp only
    cases announcementInstant answers isInitialPoll user cur with
    | error err | ok now => rfl

theorem filterEvents_announcements :
    (appendUserFilterStateEvents answers isInitialPoll user).1.lastAnnouncements
      = user.lastAnnouncements := by
  unfold appendUserFilterStateEvents
  split <;> rfl

theorem failure_appendUserStreamStateEvents :
    (appendUserStreamStateEvents answers isInitialPoll user).failure
      = (failureOf answers.filterUpdatedAt).or
        (announcementFailure answers isInitialPoll user) := by
  have second : ∀ filters : List StreamingEvent,
      ((appendUserAnnouncementStateEvents answers isInitialPoll
        (appendUserFilterStateEvents answers isInitialPoll user).1).andThen
          fun last announced => (last, .ok (filters ++ announced))).failure
        = announcementFailure answers isInitialPoll user := by
    intro filters
    rw [Attempt.failure_andThen_ok, failure_announcementEvents,
      announcementFailure, announcementFailure]
    simp only [announcementInstant, filterEvents_announcements]
  rw [appendUserStreamStateEvents, Attempt.failure_andThen second, failure_filterEvents]

end Failures

/-! ## Rounds -/

/-- The status changes of `append_streaming_poll_side_effect_events`. -/
def appendTrackedStatusEvents (polled : PolledStream) (answers : PollAnswers)
    (isInitialPoll : Bool) (state : StreamingLoopState) :
    Attempt StreamingLoopState String (List StreamingEvent) :=
  if !isInitialPoll && polled.stream != "user:notification" then
    let deltas := streamingStatusDeltaEvents polled.viewer answers state.tracked state.changes
    ({ state with changes := deltas.1 }, deltas.2)
  else (state, .ok [])

/-- The filters and announcements of `append_streaming_poll_side_effect_events`. -/
def appendUserEvents (polled : PolledStream) (answers : PollAnswers) (isInitialPoll : Bool)
    (state : StreamingLoopState) : Attempt StreamingLoopState String (List StreamingEvent) :=
  if polled.stream = "user" then
    match requiredStreamingViewer polled.viewer "user" with
    | .error failure => (state, .error failure)
    | .ok _ =>
      let told := appendUserStreamStateEvents answers isInitialPoll state.user
      ({ state with user := told.1 }, told.2)
  else (state, .ok [])

/-- `append_streaming_poll_side_effect_events`, without the events of the batch. -/
def appendStreamingPollSideEffectEvents (polled : PolledStream) (answers : PollAnswers)
    (isInitialPoll : Bool) (state : StreamingLoopState) :
    Attempt StreamingLoopState String (List StreamingEvent) :=
  (appendTrackedStatusEvents polled answers isInitialPoll state).andThen fun next deltas =>
    (appendUserEvents polled answers isInitialPoll next).andThen fun last told =>
      (last, .ok (deltas ++ told))

def retainNewStreamingEvents (state : StreamingLoopState) (events : List StreamingEvent) :
    StreamingLoopState × List StreamingEvent :=
  let retained := keepUnseen streamingEventKey state.emittedEventIds events
  ({ state with emittedEventIds := retained.2 }, retained.1)

def pollStreamingEvents (polled : PolledStream) (answers : PollAnswers)
    (state : StreamingLoopState) : Attempt StreamingLoopState String (List StreamingEvent) :=
  match streamingBatchForStream polled state.initialized answers.rows with
  | .error failure => (state, .error failure)
  | .ok batch =>
    let applied := applyStreamingBatchToState polled.stream batch (!state.initialized) state
    (appendStreamingPollSideEffectEvents polled answers (!state.initialized) applied.1).andThen
      fun after sideEffects =>
        let retained := retainNewStreamingEvents { after with initialized := true }
          (applied.2 ++ sideEffects)
        (retained.1, .ok retained.2)

/-! ## The budget -/

/-- `streaming_poll_budget_exhausted`, with the count of queries. -/
def streamingPollBudgetExhausted (pollRounds subscriptionPolls queryCount : Nat) : Bool :=
  decide (90 ≤ pollRounds) || decide (200 ≤ subscriptionPolls) || decide (900 ≤ queryCount)

def streamingErrorIsSubrequestLimit (error : String) : Bool :=
  occursIn "Too many API requests by single Worker invocation".toList error.toList

structure PollLoop where
  state : StreamingLoopState
  pollRounds : Nat

inductive StreamingPollYield where
  | events (events : List StreamingEvent)
  | pollFailed
  | recycle
  deriving DecidableEq

/-- `yield_streaming_poll_round`, with the count of queries at the test before the round
and at the test after it. -/
def yieldStreamingPollRound (polled : PolledStream) (answers : PollAnswers)
    (queriesBefore queriesAfter : Nat) (loop : PollLoop) : PollLoop × StreamingPollYield :=
  if streamingPollBudgetExhausted loop.pollRounds loop.pollRounds queriesBefore then
    (loop, .recycle)
  else
    -- `saturating_add` of a `u32`
    let rounds := min (loop.pollRounds + 1) 4294967295
    let polledEvents := pollStreamingEvents polled answers loop.state
    let next : PollLoop := ⟨polledEvents.1, rounds⟩
    match polledEvents.2 with
    | .error failure =>
      if streamingErrorIsSubrequestLimit failure
          || streamingPollBudgetExhausted rounds rounds queriesAfter then (next, .recycle)
      else (next, .pollFailed)
    | .ok events =>
      if streamingPollBudgetExhausted rounds rounds queriesAfter then (next, .recycle)
      else (next, .events events)

end Cfwdon.Streaming
