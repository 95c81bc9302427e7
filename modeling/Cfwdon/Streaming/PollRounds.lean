import Cfwdon.Streaming.Poll

/-!
# What a poll round does

A poll ends in one of three ways: without a batch, with a batch and a question that
fails, or with every question answered.  The batch is applied in the last two.

* `applyStreamingBatchToState_*` -- what a batch changes;
* `poll_outcome` -- the ways in which a poll ends.
-/

namespace Cfwdon.Streaming

open Library

section Applied

variable {stream : String} {batch : StreamingBatch} {isInitialPoll : Bool}
  {state : StreamingLoopState}

@[simp] theorem applyBatch_tracked :
    (applyStreamingBatchToState stream batch isInitialPoll state).1.tracked
      = state.tracked.track batch.trackedStatusIds := by
  unfold applyStreamingBatchToState
  split_ifs <;> simp only

@[simp] theorem applyBatch_changes :
    (applyStreamingBatchToState stream batch isInitialPoll state).1.changes = state.changes := by
  unfold applyStreamingBatchToState
  split_ifs <;> rfl

@[simp] theorem applyBatch_user :
    (applyStreamingBatchToState stream batch isInitialPoll state).1.user = state.user := by
  unfold applyStreamingBatchToState
  split_ifs <;> rfl

@[simp] theorem applyBatch_initialized :
    (applyStreamingBatchToState stream batch isInitialPoll state).1.initialized
      = state.initialized := by
  unfold applyStreamingBatchToState
  split_ifs <;> rfl

theorem applyBatch_later :
    (applyStreamingBatchToState stream batch false state).2 = batch.events
      ∧ (applyStreamingBatchToState stream batch false state).1.emittedEventIds
        = state.emittedEventIds :=
  ⟨rfl, rfl⟩

end Applied

/-! ## What a round does -/

def trackedStatusFailure (polled : PolledStream) (answers : PollAnswers) (isInitialPoll : Bool)
    (tracked : TrackedStatusIds) (changes : StatusChanges) : Option String :=
  if !isInitialPoll && polled.stream != "user:notification" then
    tracked.ids.reverse.findSome? (changes.lookupFailure answers)
  else none

/-- The first failure of the filters and the announcements. -/
def userFailure (polled : PolledStream) (answers : PollAnswers) (isInitialPoll : Bool)
    (user : UserStreamState) : Option String :=
  if polled.stream = "user" then
    (failureOf (requiredStreamingViewer polled.viewer "user")).or
      ((failureOf answers.filterUpdatedAt).or (announcementFailure answers isInitialPoll user))
  else none

/-- The first failure of the questions after the batch, for what is tracked then. -/
def sideEffectFailure (polled : PolledStream) (answers : PollAnswers) (isInitialPoll : Bool)
    (tracked : TrackedStatusIds) (changes : StatusChanges) (user : UserStreamState) :
    Option String :=
  (trackedStatusFailure polled answers isInitialPoll tracked changes).or
    (userFailure polled answers isInitialPoll user)

/-- Only what the questions after the batch are about differs. -/
def StreamingLoopState.AsksOnly (before after : StreamingLoopState) : Prop :=
  ∃ changes user, after = { before with changes := changes, user := user }

section Rounds

variable {polled : PolledStream} {answers : PollAnswers} {isInitialPoll : Bool}
  {state : StreamingLoopState}

theorem trackedEvents_frame :
    ∃ changes, (appendTrackedStatusEvents polled answers isInitialPoll state).1
      = { state with changes := changes } := by
  unfold appendTrackedStatusEvents
  split_ifs
  · exact ⟨_, rfl⟩
  · exact ⟨state.changes, rfl⟩

theorem appendUserEvents_frame :
    ∃ user, (appendUserEvents polled answers isInitialPoll state).1
      = { state with user := user } := by
  unfold appendUserEvents
  split_ifs
  · split
    · exact ⟨state.user, rfl⟩
    · exact ⟨_, rfl⟩
  · exact ⟨state.user, rfl⟩

/-- **The questions after the batch change what they ask about, and nothing else.** -/
theorem sideEffects_frame :
    state.AsksOnly (appendStreamingPollSideEffectEvents polled answers isInitialPoll state).1 := by
  apply Attempt.andThen_keeps
  · obtain ⟨changes, eq⟩ := @trackedEvents_frame polled answers isInitialPoll state
    exact ⟨changes, state.user, eq⟩
  · rintro _ deltas ⟨changes, user, rfl⟩
    apply Attempt.andThen_keeps
    · obtain ⟨told, eq⟩ := @appendUserEvents_frame polled answers isInitialPoll
        { state with changes := changes, user := user }
      exact ⟨changes, told, eq⟩
    · intro last told kept
      exact kept

theorem failure_trackedEvents :
    (appendTrackedStatusEvents polled answers isInitialPoll state).failure
      = trackedStatusFailure polled answers isInitialPoll state.tracked state.changes := by
  unfold appendTrackedStatusEvents trackedStatusFailure
  split_ifs with asks
  · exact failure_deltaEvents
  · rfl

theorem failure_appendUserEvents :
    (appendUserEvents polled answers isInitialPoll state).failure
      = userFailure polled answers isInitialPoll state.user := by
  unfold appendUserEvents userFailure
  split_ifs with user
  · cases requiredStreamingViewer polled.viewer "user" with
    | error err => rfl
    | ok here => exact failure_appendUserStreamStateEvents
  · rfl

/-- **The questions after the batch fail with the first of them that does.** -/
theorem failure_sideEffects :
    (appendStreamingPollSideEffectEvents polled answers isInitialPoll state).failure
      = sideEffectFailure polled answers isInitialPoll state.tracked state.changes
        state.user := by
  obtain ⟨changes, framed⟩ :=
    @trackedEvents_frame polled answers isInitialPoll state
  have second : ∀ deltas : List StreamingEvent,
      ((appendUserEvents polled answers isInitialPoll
        (appendTrackedStatusEvents polled answers isInitialPoll state).1).andThen
          fun last told => (last, .ok (deltas ++ told))).failure
        = userFailure polled answers isInitialPoll state.user := by
    intro deltas
    rw [Attempt.failure_andThen_ok, failure_appendUserEvents, framed]
  rw [appendStreamingPollSideEffectEvents, Attempt.failure_andThen second,
    failure_trackedEvents, sideEffectFailure]

/-- **How a poll ends**: without a batch, and with nothing changed; with a batch and a
question that fails; or with every question answered, and then what is new is handed on. -/
inductive PollOutcome (polled : PolledStream) (answers : PollAnswers)
    (state : StreamingLoopState) :
    Attempt StreamingLoopState String (List StreamingEvent) → Prop where
  | unbuilt {failure : String}
      (built : streamingBatchForStream polled state.initialized answers.rows = .error failure) :
      PollOutcome polled answers state (state, .error failure)
  | failed {batch : StreamingBatch} {failure : String} {after : StreamingLoopState}
      (built : streamingBatchForStream polled state.initialized answers.rows = .ok batch)
      (asked : sideEffectFailure polled answers (!state.initialized)
        (state.tracked.track batch.trackedStatusIds) state.changes state.user = some failure)
      (framed : StreamingLoopState.AsksOnly
        (applyStreamingBatchToState polled.stream batch (!state.initialized) state).1 after) :
      PollOutcome polled answers state (after, .error failure)
  | answered {batch : StreamingBatch} {sideEffects : List StreamingEvent}
      {after : StreamingLoopState}
      (built : streamingBatchForStream polled state.initialized answers.rows = .ok batch)
      (asked : sideEffectFailure polled answers (!state.initialized)
        (state.tracked.track batch.trackedStatusIds) state.changes state.user = none)
      (framed : StreamingLoopState.AsksOnly
        (applyStreamingBatchToState polled.stream batch (!state.initialized) state).1 after)
      (told : (appendStreamingPollSideEffectEvents polled answers (!state.initialized)
        (applyStreamingBatchToState polled.stream batch (!state.initialized) state).1).2
          = .ok sideEffects) :
      PollOutcome polled answers state
        ((retainNewStreamingEvents { after with initialized := true }
            ((applyStreamingBatchToState polled.stream batch (!state.initialized) state).2
              ++ sideEffects)).1,
          .ok (retainNewStreamingEvents { after with initialized := true }
            ((applyStreamingBatchToState polled.stream batch (!state.initialized) state).2
              ++ sideEffects)).2)

theorem poll_outcome :
    PollOutcome polled answers state (pollStreamingEvents polled answers state) := by
  cases built : streamingBatchForStream polled state.initialized answers.rows with
  | error err =>
    rw [pollStreamingEvents, built]
    exact .unbuilt built
  | ok batch =>
    have framed := @sideEffects_frame polled answers (!state.initialized)
      (applyStreamingBatchToState polled.stream batch (!state.initialized) state).1
    have fails := @failure_sideEffects polled answers (!state.initialized)
      (applyStreamingBatchToState polled.stream batch (!state.initialized) state).1
    rw [applyBatch_tracked, applyBatch_changes, applyBatch_user] at fails
    rw [pollStreamingEvents, built]
    dsimp only
    cases effects : appendStreamingPollSideEffectEvents polled answers (!state.initialized)
        (applyStreamingBatchToState polled.stream batch (!state.initialized) state).1 with
    | mk post answer =>
      rw [effects] at framed fails
      cases answer with
      | error err => exact .failed built fails.symm framed
      | ok sideEffects =>
        exact .answered built fails.symm framed (congrArg Prod.snd effects)

end Rounds

/-- The first failure of a poll: that of the batch, or of a question after it. -/
def pollFailure (polled : PolledStream) (answers : PollAnswers) (state : StreamingLoopState) :
    Option String :=
  match streamingBatchForStream polled state.initialized answers.rows with
  | .error failure => some failure
  | .ok batch => sideEffectFailure polled answers (!state.initialized)
      (state.tracked.track batch.trackedStatusIds) state.changes state.user

/-- **A poll fails with the first of its questions that does.** -/
theorem failure_poll {polled : PolledStream} {answers : PollAnswers}
    {state : StreamingLoopState} :
    (pollStreamingEvents polled answers state).failure = pollFailure polled answers state := by
  unfold pollFailure
  have out := @poll_outcome polled answers state
  generalize pollStreamingEvents polled answers state = ended at out ⊢
  cases out with
  | unbuilt built =>
    rw [built]
    rfl
  | failed built asked framed | answered built asked framed told =>
    rw [built]
    exact asked.symm

/-! ## What the questions after the batch tell -/

/-- The names of the events after those of the batch, deletions apart. -/
def sideEffectEventNames : List String :=
  "status.update" :: "filters_changed" :: announcementEventNames

variable {viewer : Option String} {user : UserStreamState}

section SideEffects

variable {polled : PolledStream} {answers : PollAnswers} {isInitialPoll : Bool}
  {state : StreamingLoopState} {event : StreamingEvent}

theorem event_of_updateEvent {id : String}
    {status : FoundStatus} (told : streamingStatusUpdateEvent viewer id status = some event) :
    event.event = "status.update" := by
  unfold streamingStatusUpdateEvent at told
  split at told
  · cases told
  · split_ifs at told
    cases told
    rfl

variable {given : List StreamingEvent}

theorem streamingStatusDelta_cases {changes : StatusChanges} {id : String}
    (ans : (appendStreamingStatusDeltaEvent viewer answers changes id).2 = .ok given)
    (mem : event ∈ given) :
    event.event = "status.update"
      ∨ (answers.lookup id = .ok none ∧ ∃ now, event = streamingStatusDeleteEvent id now) := by
  unfold appendStreamingStatusDeltaEvent at ans
  split_ifs at ans with recorded
  · cases ans
    cases mem
  · split at ans
    · cases ans
    · split at ans
      · cases ans
        cases mem
      · next updated told =>
          cases ans
          rw [List.mem_singleton.mp mem]
          exact Or.inl (event_of_updateEvent told)
    · next missing =>
        cases clock : answers.now with
        | error err =>
          rw [clock] at ans
          cases ans
        | ok now =>
          rw [clock] at ans
          cases ans
          exact Or.inr ⟨missing, now, List.mem_singleton.mp mem⟩

theorem event_of_filterEvents
    (ans : (appendUserFilterStateEvents answers isInitialPoll user).2 = .ok given)
    (mem : event ∈ given) : event.event = "filters_changed" := by
  unfold appendUserFilterStateEvents at ans
  split at ans
  · cases ans
  · cases ans
    cases mem
  · cases ans
    split_ifs at mem
    · rw [List.mem_singleton.mp mem]
    · cases mem

theorem event_of_appendUserAnnouncementStateEvents
    (ans : (appendUserAnnouncementStateEvents answers isInitialPoll user).2 = .ok given)
    (mem : event ∈ given) : event.event ∈ announcementEventNames := by
  unfold appendUserAnnouncementStateEvents at ans
  split at ans
  · cases ans
  · split at ans
    · cases ans
    · cases ans
      exact event_of_announcementEvents mem

theorem event_of_appendUserEvents
    (ans : (appendUserEvents polled answers isInitialPoll state).2 = .ok given)
    (mem : event ∈ given) : event.event ∈ "filters_changed" :: announcementEventNames := by
  unfold appendUserEvents at ans
  split_ifs at ans
  · split at ans
    · cases ans
    · obtain ⟨filters, first, later⟩ := Attempt.andThen_eq_ok_iff.mp ans
      obtain ⟨announced, second, eq⟩ := Attempt.andThen_eq_ok_iff.mp later
      cases eq
      rcases List.mem_append.mp mem with changed | told
      · rw [event_of_filterEvents first changed]
        exact List.mem_cons_self ..
      · exact List.mem_cons_of_mem _ (event_of_appendUserAnnouncementStateEvents second told)
  · cases ans
    cases mem

/-- **What the questions after the batch tell**: the deletion of a tracked status that the
lookup did not find, in a later poll, or an event of another name. -/
theorem sideEffect_cases
    (ans : (appendStreamingPollSideEffectEvents polled answers isInitialPoll state).2
      = .ok given) (mem : event ∈ given) :
    event.event ∈ sideEffectEventNames
      ∨ (isInitialPoll = false ∧ ∃ id ∈ state.tracked.ids, answers.lookup id = .ok none
        ∧ ∃ now, event = streamingStatusDeleteEvent id now) := by
  obtain ⟨deltas, first, later⟩ := Attempt.andThen_eq_ok_iff.mp ans
  obtain ⟨told, second, eq⟩ := Attempt.andThen_eq_ok_iff.mp later
  cases eq
  rcases List.mem_append.mp mem with delta | user
  · unfold appendTrackedStatusEvents at first
    split_ifs at first with asks
    · obtain ⟨between, id, listed, given, here, told⟩ := Attempt.mem_collect first delta
      rcases streamingStatusDelta_cases here told with updated | ⟨gone, deleted⟩
      · rw [updated]
        exact Or.inl (List.mem_cons_self ..)
      · refine Or.inr ⟨?_, id, List.mem_reverse.mp (List.mem_of_mem_take listed), gone, deleted⟩
        rw [Bool.and_eq_true, Bool.not_eq_true'] at asks
        exact asks.1
    · cases first
      cases delta
  · exact Or.inl (List.mem_cons_of_mem _ (event_of_appendUserEvents second user))

end SideEffects

/-! ## What a later poll emits -/

variable {told : List StreamingEvent} {event : StreamingEvent}

section Later

variable {polled : PolledStream} {answers : PollAnswers} {state : StreamingLoopState}

/-- **A poll after the first emits what it hands on**: new keys, each once.  If it fails it
emits nothing. -/
theorem poll_emitted (later : state.initialized = true) :
    (pollStreamingEvents polled answers state).1.initialized = true
      ∧ ((∃ err, (pollStreamingEvents polled answers state).2 = .error err
          ∧ (pollStreamingEvents polled answers state).1.emittedEventIds = state.emittedEventIds)
        ∨ ∃ told, (pollStreamingEvents polled answers state).2 = .ok told
          ∧ (told.map streamingEventKey).Nodup
          ∧ (∀ key ∈ told.map streamingEventKey, key ∉ state.emittedEventIds)
          ∧ ∀ key, key ∈ (pollStreamingEvents polled answers state).1.emittedEventIds
            ↔ key ∈ state.emittedEventIds ∨ key ∈ told.map streamingEventKey) := by
  have eq : ∀ batch, (applyStreamingBatchToState polled.stream batch
      (!state.initialized) state).1.emittedEventIds = state.emittedEventIds := by
    intro batch
    rw [later]
    exact applyBatch_later.2
  have out := @poll_outcome polled answers state
  generalize pollStreamingEvents polled answers state = ended at out ⊢
  cases out with
  | unbuilt built => exact ⟨later, Or.inl ⟨_, rfl, rfl⟩⟩
  | failed built asked framed =>
    obtain ⟨changes, user, rfl⟩ := framed
    exact ⟨applyBatch_initialized.trans later, Or.inl ⟨_, rfl, eq _⟩⟩
  | answered built asked framed told =>
    obtain ⟨changes, user, rfl⟩ := framed
    refine ⟨rfl, Or.inr ⟨_, rfl, keys_keepUnseen_nodup, ?_, ?_⟩⟩
    · intro key mem
      rw [retainNewStreamingEvents, mem_keys_keepUnseen, eq] at mem
      exact mem.1
    · intro key
      rw [retainNewStreamingEvents, mem_seen_keepUnseen, mem_keys_keepUnseen, eq]
      tauto

/-- **Where an event of a poll comes from**: it is of the batch, or of the questions after
it. -/
theorem origin_of_poll
    (ans : (pollStreamingEvents polled answers state).2 = .ok told) (mem : event ∈ told) :
    ∃ batch, streamingBatchForStream polled state.initialized answers.rows = .ok batch
      ∧ (event ∈ batch.events
        ∨ ∃ sideEffects, (appendStreamingPollSideEffectEvents polled answers
            (!state.initialized)
            (applyStreamingBatchToState polled.stream batch (!state.initialized) state).1).2
              = .ok sideEffects ∧ event ∈ sideEffects) := by
  have out := @poll_outcome polled answers state
  generalize pollStreamingEvents polled answers state = ended at ans out
  cases out with
  | unbuilt built | failed built asked framed => cases ans
  | @answered batch sideEffects post built asked framed given =>
    cases ans
    refine ⟨batch, built, ?_⟩
    rcases List.mem_append.mp (mem_of_mem_keepUnseen mem) with listed | other
    · refine Or.inl ?_
      cases first : state.initialized with
      | false =>
        rw [first] at listed
        cases listed
      | true =>
        rw [first] at listed
        exact listed
    · exact Or.inr ⟨sideEffects, given, other⟩

theorem event_of_poll
    (ans : (pollStreamingEvents polled answers state).2 = .ok told) (mem : event ∈ told) :
    event.event = batchEventName polled.stream
      ∨ event.event ∈ "delete" :: sideEffectEventNames := by
  obtain ⟨batch, built, listed | ⟨sideEffects, given, other⟩⟩ := origin_of_poll ans mem
  · obtain ⟨rows, _, rfl⟩ := batchOfRows_of_built built
    exact Or.inl (event_of_batch listed)
  · refine Or.inr ?_
    rcases sideEffect_cases given other with named | ⟨_, id, _, _, now, rfl⟩
    · exact List.mem_cons_of_mem _ named
    · exact List.mem_cons_self ..

end Later

end Cfwdon.Streaming
