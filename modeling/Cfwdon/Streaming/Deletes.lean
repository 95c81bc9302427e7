import Cfwdon.Streaming.EventSource

/-!
# Which deletions a stream tells

A poll after the first looks up every tracked id, and an id that is not found among the
statuses is told as a deletion, once.  The home, list, public and hashtag batches track
the statuses that they list.  The direct batch tracks conversations, which are not among
the statuses, so the next poll tells them as deleted.

A round is given with the statuses that were in the tables when the batch was listed and
at each lookup.  The runs are those of a stream of a client, with the ids that were
tracked while there was a status of that id.
-/

namespace Cfwdon.Streaming

open Library

def statusDeltas (viewer : Option String) (answers : PollAnswers) (changes : StatusChanges)
    (id : String) : List StreamingEvent :=
  if changes.alreadyRecorded id then []
  else
    match answers.lookup id with
    | .error _ => []
    | .ok (some status) => (streamingStatusUpdateEvent viewer id status).toList
    | .ok none =>
      match answers.now with
      | .error _ => []
      | .ok now => [streamingStatusDeleteEvent id now]

section Pass

variable {viewer : Option String} {answers : PollAnswers} {changes : StatusChanges}
  {id other : String} {given : List StreamingEvent}

theorem eq_statusDeltas
    (ans : (appendStreamingStatusDeltaEvent viewer answers changes id).2 = .ok given) :
    given = statusDeltas viewer answers changes id := by
  unfold appendStreamingStatusDeltaEvent at ans
  unfold statusDeltas
  by_cases recorded : changes.alreadyRecorded id
  · rw [if_pos recorded] at ans
    cases ans
    rw [if_pos recorded]
  · rw [if_neg recorded] at ans
    rw [if_neg recorded]
    cases looked : answers.lookup id with
    | error err =>
      rw [looked] at ans
      cases ans
    | ok got =>
      rw [looked] at ans
      cases got with
      | some status =>
        dsimp only at ans ⊢
        cases told : streamingStatusUpdateEvent viewer id status with
        | none | some event =>
          rw [told] at ans
          cases ans
          rfl
      | none =>
        dsimp only at ans ⊢
        cases clock : answers.now with
        | error err =>
          rw [clock] at ans
          cases ans
        | ok now =>
          rw [clock] at ans
          cases ans
          rfl

theorem statusDeltas_apart (different : other ≠ id) :
    statusDeltas viewer answers (appendStreamingStatusDeltaEvent viewer answers changes id).1 other
      = statusDeltas viewer answers changes other := by
  unfold statusDeltas
  simp only [alreadyRecorded_appendDelta different]

theorem deltaEvents_eq {tracked : TrackedStatusIds}
    (ans : (streamingStatusDeltaEvents viewer answers tracked changes).2 = .ok given) :
    given = tracked.ids.reverse.flatMap (statusDeltas viewer answers changes) := by
  have all : tracked.ids.reverse.take 200 = tracked.ids.reverse := by
    apply List.take_of_length_le
    rw [List.length_reverse]
    exact tracked.atMost
  rw [streamingStatusDeltaEvents, all] at ans
  refine Attempt.collect_eq_flatMap (List.nodup_reverse.mpr tracked.distinct) ?_ ?_ ans
  · intro changes id given ans
    exact eq_statusDeltas ans
  · intro changes id other different
    exact statusDeltas_apart different

def StreamingEvent.DeletesId (event : StreamingEvent) (id : String) : Prop :=
  event.event = "delete" ∧ event.id = id

theorem deletes_of_mem_statusDeltas {event : StreamingEvent}
    (mem : event ∈ statusDeltas viewer answers changes other) (deletes : event.DeletesId id) :
    other = id ∧ ¬changes.alreadyRecorded id ∧ answers.lookup id = .ok none := by
  unfold statusDeltas at mem
  split_ifs at mem with recorded
  · cases mem
  · split at mem
    · cases mem
    · next status looked =>
        have update := event_of_updateEvent (Option.mem_toList.mp mem)
        exact absurd (update.symm.trans deletes.1) (by decide)
    · next looked =>
        split at mem
        · cases mem
        · rw [List.mem_singleton.mp mem] at deletes
          obtain rfl : other = id := deletes.2
          exact ⟨rfl, recorded, looked⟩

theorem delete_mem_statusDeltas (unrecorded : ¬changes.alreadyRecorded id)
    (gone : answers.lookup id = .ok none)
    (unfailed : changes.lookupFailure answers id = none) :
    ∃ event ∈ statusDeltas viewer answers changes id, event.DeletesId id := by
  rw [StatusChanges.lookupFailure, if_neg unrecorded, PollAnswers.lookupFailure, gone] at unfailed
  obtain ⟨now, clock⟩ := failureOf_eq_none_iff.mp unfailed
  refine ⟨streamingStatusDeleteEvent id now, ?_, rfl, rfl⟩
  rw [statusDeltas, if_neg unrecorded, gone, clock]
  exact List.mem_singleton.mpr rfl

end Pass

/-! ## The deletions that a round tells -/

def trackedAfter (polled : PolledStream) (answers : PollAnswers) (state : StreamingLoopState) :
    TrackedStatusIds :=
  match streamingBatchForStream polled state.initialized answers.rows with
  | .error _ => state.tracked
  | .ok batch => state.tracked.track batch.trackedStatusIds

def deleteKey (id : String) : String := "delete" ++ ":" ++ id

/-- An id whose deletion is to be told: it is tracked, no change of it is recorded, its
deletion was not emitted, and it is not found. -/
structure Misses (polled : PolledStream) (answers : PollAnswers) (state : StreamingLoopState)
    (id : String) : Prop where
  tracked : id ∈ (trackedAfter polled answers state).ids
  unrecorded : ¬state.changes.alreadyRecorded id
  new : deleteKey id ∉ state.emittedEventIds
  missing : answers.lookup id = .ok none

section Rounds

variable {polled : PolledStream} {answers : PollAnswers} {state : StreamingLoopState}
  {id : String} {given : List StreamingEvent}

theorem delete_of_sideEffects_iff (asks : polled.stream ≠ "user:notification")
    (ans : (appendStreamingPollSideEffectEvents polled answers false state).2 = .ok given) :
    (∃ event ∈ given, event.DeletesId id)
      ↔ id ∈ state.tracked.ids ∧ ¬state.changes.alreadyRecorded id
        ∧ answers.lookup id = .ok none := by
  have unfailed := failure_sideEffects.symm.trans (failureOf_eq_none_iff.mpr ⟨given, ans⟩)
  obtain ⟨deltas, first, later⟩ := Attempt.andThen_eq_ok_iff.mp ans
  obtain ⟨told, second, eq⟩ := Attempt.andThen_eq_ok_iff.mp later
  cases eq
  have asked : (!false && polled.stream != "user:notification") = true := by simpa using asks
  have passed : deltas = state.tracked.ids.reverse.flatMap
      (statusDeltas polled.viewer answers state.changes) := by
    rw [appendTrackedStatusEvents, if_pos asked] at first
    exact deltaEvents_eq first
  have notDelete : ∀ event ∈ told, ¬event.DeletesId id := by
    intro event mem deletes
    have other : ∀ name ∈ "filters_changed" :: announcementEventNames, name ≠ "delete" := by
      decide
    exact other _ (event_of_appendUserEvents second mem) deletes.1
  constructor
  · rintro ⟨event, mem, deletes⟩
    rcases List.mem_append.mp mem with delta | user
    · rw [passed] at delta
      obtain ⟨other, listed, gave⟩ := List.mem_flatMap.mp delta
      obtain ⟨rfl, unrecorded, gone⟩ := deletes_of_mem_statusDeltas gave deletes
      exact ⟨List.mem_reverse.mp listed, unrecorded, gone⟩
    · exact absurd deletes (notDelete event user)
  · rintro ⟨tracked, unrecorded, gone⟩
    have lookups : state.tracked.ids.reverse.findSome? (state.changes.lookupFailure answers)
        = none := by
      rw [sideEffectFailure, Option.or_eq_none_iff, trackedStatusFailure, if_pos asked] at unfailed
      exact unfailed.1
    have listed := List.mem_reverse.mpr tracked
    obtain ⟨event, gave, deletes⟩ := @delete_mem_statusDeltas polled.viewer answers state.changes
      id unrecorded gone (List.findSome?_eq_none_iff.mp lookups id listed)
    refine ⟨event, List.mem_append_left _ ?_, deletes⟩
    rw [passed]
    exact List.mem_flatMap.mpr ⟨id, listed, gave⟩

theorem deletesId_iff_key {event : StreamingEvent} (plain : ':' ∉ event.event.toList) :
    event.DeletesId id ↔ streamingEventKey event = deleteKey id := by
  constructor
  · rintro ⟨delete, rfl⟩
    rw [streamingEventKey, delete, deleteKey]
  · intro eq
    have other : deleteKey id = streamingEventKey (streamingStatusDeleteEvent id "") := rfl
    rw [other] at eq
    have deletePlain : ':' ∉ "delete".toList := by decide
    exact eq_of_eventKey_eq plain deletePlain eq

theorem not_delete_of_built {initialized : Bool} {batch : StreamingBatch}
    {event : StreamingEvent}
    (built : streamingBatchForStream polled initialized answers.rows = .ok batch)
    (listed : event ∈ batch.events) : event.event ≠ "delete" := by
  obtain ⟨rows, _, rfl⟩ := batchOfRows_of_built built
  have named := batchEventName_mem polled.stream
  intro delete
  rw [← event_of_batch listed, delete] at named
  exact absurd named (by decide)

theorem delete_of_poll_iff (asks : polled.stream ≠ "user:notification")
    (later : state.initialized = true)
    (ans : (pollStreamingEvents polled answers state).2 = .ok given) :
    (∃ event ∈ given, event.DeletesId id) ↔ Misses polled answers state id := by
  have plain : ∀ event ∈ given, ':' ∉ event.event.toList :=
    ((emits_poll later ans).1).named
  have new := ((emits_poll later ans).1).new
  have out := @poll_outcome polled answers state
  generalize pollStreamingEvents polled answers state = ended at ans out new
  cases out with
  | unbuilt built | failed built asked framed => cases ans
  | @answered batch sideEffects after built asked framed told =>
    obtain ⟨changes, user, rfl⟩ := framed
    have kept := (Except.ok.inj ans).symm
    rw [later] at told kept
    have tells := @delete_of_sideEffects_iff polled answers _ id sideEffects asks told
    rw [applyBatch_tracked, applyBatch_changes] at tells
    have tracks : trackedAfter polled answers state
        = state.tracked.track batch.trackedStatusIds := by
      rw [trackedAfter, built]
    constructor
    · rintro ⟨event, mem, deletes⟩
      have unemitted := (new event mem (by rw [keyed, deletes.1]; decide)).1
      rw [(deletesId_iff_key (plain event mem)).mp deletes] at unemitted
      rw [kept] at mem
      rcases List.mem_append.mp (mem_of_mem_keepUnseen mem) with listed | other
      · exact absurd deletes.1 (not_delete_of_built built listed)
      · obtain ⟨tracked, unrecorded, gone⟩ := tells.mp ⟨event, other, deletes⟩
        refine ⟨?_, unrecorded, unemitted, gone⟩
        rw [tracks]
        exact tracked
    · intro misses
      have tracked := misses.tracked
      rw [tracks] at tracked
      obtain ⟨event, other, deletes⟩ :=
        tells.mpr ⟨tracked, misses.unrecorded, misses.missing⟩
      have eventPlain : ':' ∉ event.event.toList := by
        rw [deletes.1]
        decide
      have key := (deletesId_iff_key eventPlain).mp deletes
      have got : deleteKey id ∈ given.map streamingEventKey := by
        rw [kept, retainNewStreamingEvents, mem_keys_keepUnseen]
        refine ⟨misses.new, ?_⟩
        rw [List.map_append, ← key]
        exact List.mem_append_right _ (List.mem_map_of_mem other)
      obtain ⟨handed, mem, eq⟩ := List.mem_map.mp got
      exact ⟨handed, mem, (deletesId_iff_key (plain handed mem)).mpr eq⟩

theorem delete_of_poll {event : StreamingEvent}
    (ans : (pollStreamingEvents polled answers state).2 = .ok given) (mem : event ∈ given)
    (delete : event.event = "delete") :
    state.initialized = true ∧ event.id ∈ (trackedAfter polled answers state).ids
      ∧ answers.lookup event.id = .ok none := by
  obtain ⟨batch, built, listed | ⟨sideEffects, told, other⟩⟩ := origin_of_poll ans mem
  · exact absurd delete (not_delete_of_built built listed)
  · rcases sideEffect_cases told other with named | ⟨later, id, tracked, gone, now, rfl⟩
    · rw [delete] at named
      exact absurd named (by decide)
    · rw [applyBatch_tracked] at tracked
      refine ⟨by simpa using later, ?_, gone⟩
      rw [trackedAfter, built]
      exact tracked

theorem poll_tracked :
    (pollStreamingEvents polled answers state).1.tracked = trackedAfter polled answers state := by
  unfold trackedAfter
  have out := @poll_outcome polled answers state
  generalize pollStreamingEvents polled answers state = ended at out ⊢
  cases out with
  | unbuilt built => rw [built]
  | failed built asked framed | answered built asked framed told =>
    obtain ⟨changes, user, rfl⟩ := framed
    rw [built]
    exact applyBatch_tracked

variable {queriesBefore queriesAfter : Nat} {loop : PollLoop}

theorem mem_told_iff {sent : StreamingEvent} (later : loop.state.initialized = true) :
    sent ∈ EventSource.told
        (yieldStreamingPollRound polled answers queriesBefore queriesAfter loop).2
      ↔ Delivers polled answers queriesBefore queriesAfter loop
        ∧ ∃ found, (pollStreamingEvents polled answers loop.state).2 = .ok found
          ∧ sent ∈ found := by
  rw [mem_told]
  constructor
  · rintro ⟨found, yielded, mem⟩
    obtain ⟨ans, budget⟩ := events_iff.mp yielded
    refine ⟨⟨later, ?_, budget⟩, found, ans, mem⟩
    rw [← failure_poll]
    exact failureOf_eq_none_iff.mpr ⟨found, ans⟩
  · rintro ⟨delivers, found, ans, mem⟩
    exact ⟨found, events_iff.mpr ⟨ans, delivers.budget⟩, mem⟩

theorem delete_told_iff (asks : polled.stream ≠ "user:notification") :
    (∃ event ∈ EventSource.told
        (yieldStreamingPollRound polled answers queriesBefore queriesAfter loop).2,
      event.DeletesId id)
      ↔ Delivers polled answers queriesBefore queriesAfter loop
        ∧ Misses polled answers loop.state id := by
  constructor
  · rintro ⟨event, mem, deletes⟩
    obtain ⟨got, ans, inFound⟩ := poll_of_told mem
    obtain ⟨later, _, _⟩ := delete_of_poll ans inFound deletes.1
    refine ⟨((mem_told_iff later).mp mem).1, ?_⟩
    exact (delete_of_poll_iff asks later ans).mp ⟨event, inFound, deletes⟩
  · rintro ⟨delivers, misses⟩
    obtain ⟨got, ans⟩ := failureOf_eq_none_iff.mp (failure_poll.trans delivers.answered)
    obtain ⟨event, inFound, deletes⟩ :=
      (delete_of_poll_iff asks delivers.later ans).mpr misses
    exact ⟨event, (mem_told_iff delivers.later).mpr ⟨delivers, got, ans, inFound⟩, deletes⟩

end Rounds

/-! ## Runs -/

def BatchRows.statusIds (rows : BatchRows) : List String :=
  rows.statuses.map ListedStatus.id ++ rows.directStatuses.map DirectStatus.statusId

/-- The answers of a round, with the statuses in the tables when its batch is listed and
when an id is looked up.  What is listed is in the tables then, and an id is found exactly
if it is. -/
structure TableRound where
  answers : PollAnswers
  listing : Finset String
  atLookup : String → Finset String
  listed : ∀ rows, answers.rows = .ok rows → ∀ id ∈ rows.statusIds, id ∈ listing
  looked : ∀ id found, answers.lookup id = .ok found → (found = none ↔ id ∉ atLookup id)

/-- The ids that the batch of a poll tracks, of statuses in the tables. -/
def TableRound.existing (polled : PolledStream) (state : StreamingLoopState)
    (round : TableRound) : Finset String :=
  match streamingBatchForStream polled state.initialized round.answers.rows with
  | .error _ => ∅
  | .ok batch => batch.trackedStatusIds.toFinset ∩ round.listing

/-- A stream that is served, with the ids that were tracked while there was a status of
that id. -/
structure WatchedStream where
  stream : PollStream
  existed : Finset String

def WatchedStream.start : WatchedStream := ⟨.start, ∅⟩

inductive WatchedEvent where
  | synced (round : TableRound)
  | polled (round : TableRound) (queriesBefore queriesAfter : Nat)
  | relayed (key : String)

/-- An event, without the tables. -/
def WatchedEvent.plain : WatchedEvent → PollStreamEvent
  | .synced round => .synced round.answers
  | .polled round queriesBefore queriesAfter =>
    .polled round.answers queriesBefore queriesAfter
  | .relayed key => .relayed key

/-- The ids that were tracked while there was a status of that id, after an event. -/
def WatchedStream.existedAfter (polled : PolledStream) (s : WatchedStream) :
    WatchedEvent → Finset String
  | .synced round => s.existed ∪ round.existing polled s.stream.loop.state
  | .polled round queriesBefore _ =>
    if streamingPollBudgetExhausted s.stream.loop.pollRounds s.stream.loop.pollRounds
        queriesBefore then s.existed
    else s.existed ∪ round.existing polled s.stream.loop.state
  | .relayed _ => s.existed

inductive WatchedStep (polled : PolledStream) :
    WatchedStream → WatchedEvent → WatchedStream → Prop where
  | taken {s : WatchedStream} {event : WatchedEvent} {after : PollStream}
      (taken : PollStreamStep polled s.stream event.plain after) :
      WatchedStep polled s event ⟨after, s.existedAfter polled event⟩

/-- **What is claimed of a round**: a deletion that it tells is of a status that was
tracked while it existed, and that is not in the tables when it is looked up. -/
def TellsGone (polled : PolledStream) (before : WatchedStream) :
    WatchedEvent → WatchedStream → Prop
  | .polled round queriesBefore queriesAfter, after =>
    ∀ event ∈ EventSource.told (yieldStreamingPollRound polled round.answers queriesBefore
        queriesAfter before.stream.loop).2,
      event.event = "delete" → event.id ∈ after.existed ∧ event.id ∉ round.atLookup event.id
  | _, _ => True

/-- **When a round tells no conversation as deleted**: on the direct channel, if it
delivers, an id whose deletion is to be told was tracked while there was a status of that
id. -/
def MissesStatuses (polled : PolledStream) (before : WatchedStream) : WatchedEvent → Prop
  | .polled round queriesBefore queriesAfter =>
    polled.stream = "direct" →
      Delivers polled round.answers queriesBefore queriesAfter before.stream.loop →
      ∀ id, Misses polled round.answers before.stream.loop.state id →
        id ∈ before.existedAfter polled (.polled round queriesBefore queriesAfter)
  | _ => True

/-- Outside the direct channel every tracked id was one of a status. -/
def TracksStatuses (polled : PolledStream) (s : WatchedStream) : Prop :=
  polled.stream ≠ "direct" → ∀ id ∈ s.stream.loop.state.tracked.ids, id ∈ s.existed

section Steps

variable {polled : PolledStream} {before after : WatchedStream} {event : WatchedEvent}
  {round : TableRound} {state : StreamingLoopState} {id : String}

/-- **Outside the direct channel a batch tracks statuses**, which exist then. -/
theorem existing_of_trackedAfter (indirect : polled.stream ≠ "direct")
    (mem : id ∈ (trackedAfter polled round.answers state).ids) :
    id ∈ state.tracked.ids ∨ id ∈ round.existing polled state := by
  unfold trackedAfter at mem
  unfold TableRound.existing
  cases built : streamingBatchForStream polled state.initialized round.answers.rows with
  | error err =>
    rw [built] at mem
    exact Or.inl mem
  | ok batch =>
    rw [built] at mem
    rcases TrackedStatusIds.mem_of_mem_track mem with old | added
    · exact Or.inl old
    · obtain ⟨rows, ans, rfl⟩ := batchOfRows_of_built built
      obtain ⟨status, listed, rfl⟩ := tracked_of_batch indirect added
      refine Or.inr (Finset.mem_inter.mpr ⟨List.mem_toFinset.mpr added, ?_⟩)
      exact round.listed rows ans _ (List.mem_append_left _ (List.mem_map_of_mem listed))

theorem existed_of_trackedAfter (tracks : TracksStatuses polled before)
    (indirect : polled.stream ≠ "direct")
    (mem : id ∈ (trackedAfter polled round.answers before.stream.loop.state).ids) :
    id ∈ before.existed ∪ round.existing polled before.stream.loop.state := by
  rcases existing_of_trackedAfter indirect mem with old | added
  · exact Finset.mem_union_left _ (tracks indirect id old)
  · exact Finset.mem_union_right _ added

theorem tracksStatuses_after (tracks : TracksStatuses polled before)
    (taken : WatchedStep polled before event after) : TracksStatuses polled after := by
  intro indirect id mem
  obtain ⟨taken⟩ := taken
  cases event with
  | synced round =>
    cases taken with
    | synced answers runs first =>
      apply existed_of_trackedAfter tracks indirect
      rw [← poll_tracked]
      exact mem
  | relayed key =>
    cases taken with
    | relayed key runs =>
      unfold PollStream.relay at mem
      split_ifs at mem
      · exact tracks indirect id mem
      · exact tracks indirect id mem
  | polled round queriesBefore queriesAfter =>
    cases taken with
    | polled answers queriesBefore queriesAfter runs =>
      dsimp only [WatchedStream.existedAfter]
      by_cases exhausted : streamingPollBudgetExhausted before.stream.loop.pollRounds
          before.stream.loop.pollRounds queriesBefore = true
      · rw [PollStream.round, yieldRound_of_exhausted exhausted] at mem
        rw [if_pos exhausted]
        exact tracks indirect id mem
      · have fresh : streamingPollBudgetExhausted before.stream.loop.pollRounds
            before.stream.loop.pollRounds queriesBefore = false := by simpa using exhausted
        rw [PollStream.round, yieldRound_state_of_fresh fresh, poll_tracked] at mem
        rw [if_neg exhausted]
        exact existed_of_trackedAfter tracks indirect mem

theorem existedAfter_of_told {queriesBefore queriesAfter : Nat} {sent : StreamingEvent}
    (told : sent ∈ EventSource.told (yieldStreamingPollRound polled round.answers queriesBefore
      queriesAfter before.stream.loop).2) :
    before.existedAfter polled (.polled round queriesBefore queriesAfter)
      = before.existed ∪ round.existing polled before.stream.loop.state := by
  rw [WatchedStream.existedAfter, if_neg]
  intro exhausted
  rw [yieldRound_of_exhausted exhausted] at told
  cases told

/-- **When a round tells gone statuses only.** -/
theorem tells_gone_iff (tracks : TracksStatuses polled before)
    (taken : WatchedStep polled before event after) :
    TellsGone polled before event after ↔ MissesStatuses polled before event := by
  obtain ⟨taken⟩ := taken
  cases event with
  | synced round | relayed key => exact Iff.rfl
  | polled round queriesBefore queriesAfter =>
    constructor
    · intro gone direct delivers id misses
      have asks : polled.stream ≠ "user:notification" := by
        rw [direct]
        decide
      obtain ⟨event, told, delete, rfl⟩ := (delete_told_iff asks).mpr ⟨delivers, misses⟩
      exact (gone event told delete).1
    · intro statuses event told delete
      obtain ⟨got, ans, inFound⟩ := poll_of_told told
      obtain ⟨later, tracked, missing⟩ := delete_of_poll ans inFound delete
      refine ⟨?_, (round.looked _ _ missing).mp rfl⟩
      by_cases direct : polled.stream = "direct"
      · have asks : polled.stream ≠ "user:notification" := by
          rw [direct]
          decide
        obtain ⟨delivers, misses⟩ := (delete_told_iff asks).mp ⟨event, told, delete, rfl⟩
        exact statuses direct delivers _ misses
      · rw [existedAfter_of_told told]
        exact existed_of_trackedAfter tracks direct tracked

end Steps

/-- **Every run of a stream**: each deletion that is told is of a status that was tracked
while it existed and is gone, exactly when no round of the direct channel misses another
id. -/
theorem deletes_are_of_deleted_statuses_iff (polled : PolledStream)
    {trace : List (Transition WatchedStream WatchedEvent)} {finish : WatchedStream}
    (run : Run (WatchedStep polled) .start trace finish) :
    Throughout (TellsGone polled) trace ↔ Along (MissesStatuses polled) trace := by
  have nothing : TracksStatuses polled .start := fun _ _ mem => absurd mem List.not_mem_nil
  have both : (Throughout (TellsGone polled) trace ↔ Along (MissesStatuses polled) trace)
      ∧ (Along (MissesStatuses polled) trace → TracksStatuses polled finish) := by
    apply run.throughout_iff_along_from_good nothing
    · intro before event after tracks taken
      exact tells_gone_iff tracks taken
    · intro before event after tracks taken _
      exact tracksStatuses_after tracks taken
  exact both.1

/-! ## A home stream and a direct stream -/

def sampleRound (rows : BatchRows) (existing : List String) : TableRound where
  answers :=
    { rows := .ok rows
      lookup := fun id => .ok (if id ∈ existing then
        some ⟨"2026-05-01T00:00:00Z", none, true, false, "{}"⟩ else none)
      now := .ok "2026-05-01T00:00:10Z"
      filterUpdatedAt := .ok none
      announcements := .ok ⟨[], .empty⟩
      reactionDocument := fun _ => "{}" }
  listing := existing.toFinset ∪ rows.statusIds.toFinset
  atLookup _ := existing.toFinset
  listed := by
    intro others same id member
    cases same
    exact Finset.mem_union_right _ (List.mem_toFinset.mpr member)
  looked := by
    intro id found same
    cases same
    rw [List.mem_toFinset]
    split_ifs with present <;> simp [present]

def watchedRound (polled : PolledStream) (round : TableRound) (s : WatchedStream) :
    WatchedStream where
  stream := s.stream.round polled round.answers 20 40
  existed := s.existedAfter polled (.polled round 20 40)

theorem watchedRound_taken {polled : PolledStream} {round : TableRound} {s : WatchedStream}
    (runs : s.stream.ended = false) :
    WatchedStep polled s (.polled round 20 40) (watchedRound polled round s) :=
  .taken (.polled _ 20 40 runs)

/-- The deletion of a status that the home stream listed is told. -/
theorem deletes_are_of_deleted_statuses_home : ∃ trace finish,
    Run (WatchedStep homeStream) .start trace finish
      ∧ Throughout (TellsGone homeStream) trace
      ∧ ∃ transition ∈ trace, ∃ round, transition.event = .polled round 20 40
        ∧ ∃ event ∈ EventSource.told (yieldStreamingPollRound homeStream round.answers 20 40
            transition.before.stream.loop).2, event.DeletesId "status-1" := by
  have first : WatchedStep homeStream .start
      (.polled (sampleRound ⟨[homeStatus], [], [], false⟩ ["status-1"]) 20 40) _ :=
    watchedRound_taken rfl
  have second : WatchedStep homeStream
      (watchedRound homeStream (sampleRound ⟨[homeStatus], [], [], false⟩ ["status-1"]) .start)
      (.polled (sampleRound ⟨[], [], [], false⟩ []) 20 40) _ :=
    watchedRound_taken (by decide +kernel)
  refine ⟨_, _, .snoc (.snoc .start first) second, ?_, _,
    List.mem_append_right _ (List.mem_singleton.mpr rfl), _, rfl, ?_⟩
  · apply (deletes_are_of_deleted_statuses_iff homeStream (.snoc (.snoc .start first) second)).mpr
    refine Along.snoc_iff.mpr ⟨Along.snoc_iff.mpr ⟨Along.nil, ?_⟩, ?_⟩
    · exact fun direct => absurd direct (by decide)
    · exact fun direct => absurd direct (by decide)
  · exact ⟨streamingStatusDeleteEvent "status-1" "2026-05-01T00:00:10Z", by decide +kernel,
      rfl, rfl⟩

def directStream : PolledStream := ⟨"direct", none, none, some "acct-1"⟩

def directStatus : DirectStatus :=
  ⟨"status-1", "2026-05-01T00:00:00Z", some "conversation-1", some "{}"⟩

/-- **A conversation that is told as deleted**: the first poll of the direct channel lists
it, and in the next round nothing was deleted. -/
theorem conversation_is_told_as_deleted : ∃ trace finish,
    Run (WatchedStep directStream) .start trace finish
      ∧ ¬Throughout (TellsGone directStream) trace
      ∧ ∃ transition ∈ trace, ∃ round, transition.event = .polled round 20 40
        ∧ round.listing = {"status-1"} ∧ round.atLookup "conversation-1" = {"status-1"}
        ∧ ∃ event ∈ EventSource.told (yieldStreamingPollRound directStream round.answers 20 40
            transition.before.stream.loop).2, event.DeletesId "conversation-1" := by
  have first : WatchedStep directStream .start
      (.polled (sampleRound ⟨[], [directStatus], [], false⟩ ["status-1"]) 20 40) _ :=
    watchedRound_taken rfl
  have second : WatchedStep directStream
      (watchedRound directStream (sampleRound ⟨[], [directStatus], [], false⟩ ["status-1"]) .start)
      (.polled (sampleRound ⟨[], [], [], false⟩ ["status-1"]) 20 40) _ :=
    watchedRound_taken (by decide +kernel)
  have told : streamingStatusDeleteEvent "conversation-1" "2026-05-01T00:00:10Z"
      ∈ EventSource.told (yieldStreamingPollRound directStream
        (sampleRound ⟨[], [], [], false⟩ ["status-1"]).answers 20 40
        (watchedRound directStream (sampleRound ⟨[], [directStatus], [], false⟩ ["status-1"])
          .start).stream.loop).2 := by decide +kernel
  refine ⟨_, _, .snoc (.snoc .start first) second, ?_, _,
    List.mem_append_right _ (List.mem_singleton.mpr rfl), _, rfl, rfl, rfl, _, told, rfl, rfl⟩
  intro gone
  have existed := ((Throughout.snoc_iff.mp gone).2 _ told rfl).1
  exact absurd existed (by decide +kernel)

end Cfwdon.Streaming
