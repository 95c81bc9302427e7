import Cfwdon.Library.Run
import Cfwdon.Streaming.PollRounds

/-!
# Whether the events of a batch are handed out

A round applies a batch, which moves the cursor past its events, before it knows whether
it can hand them out: a later question may fail, and the budget is tested once more at the
end.

The runs are those of one stream: the first poll of a stream that a hub serves, any
rounds with any answers and any counts of queries, and the messages of a hub between
them.  Three sets of keys go along: the events of the batches applied so far, those of
them that a first poll found, which it counts as emitted, and the events that the client
got.
-/

namespace Cfwdon.Streaming

open Library

/-- A stream that is served to a client, with what is known of its events. -/
structure PollStream where
  loop : PollLoop
  /-- The stream was recycled. -/
  ended : Bool
  /-- The keys of the events of the batches applied so far. -/
  owed : Finset String
  /-- Those of them that a first poll found. -/
  baseline : Finset String
  /-- The keys of the events that the client got. -/
  handed : Finset String

def PollStream.start : PollStream := ⟨⟨.new, 0⟩, false, ∅, ∅, ∅⟩

def appliedKeys (polled : PolledStream) (answers : PollAnswers) (state : StreamingLoopState) :
    Finset String :=
  match streamingBatchForStream polled state.initialized answers.rows with
  | .error _ => ∅
  | .ok batch => (batch.events.map streamingEventKey).toFinset

/-- The keys of the events that a round hands out. -/
def StreamingPollYield.keys : StreamingPollYield → Finset String
  | .events told => (told.map streamingEventKey).toFinset
  | .pollFailed => ∅
  | .recycle => ∅

namespace PollStream

def roundKeys (polled : PolledStream) (answers : PollAnswers) (queriesBefore : Nat)
    (s : PollStream) : Finset String :=
  if streamingPollBudgetExhausted s.loop.pollRounds s.loop.pollRounds queriesBefore then ∅
  else appliedKeys polled answers s.loop.state

/-- The keys found by first polls, after one more batch. -/
def baselineWith (s : PollStream) (keys : Finset String) : Finset String :=
  if s.loop.state.initialized then s.baseline else s.baseline ∪ keys

/-- The first poll of a stream that a hub serves, which hands out nothing. -/
def sync (polled : PolledStream) (answers : PollAnswers) (s : PollStream) : PollStream where
  loop := { s.loop with state := (pollStreamingEvents polled answers s.loop.state).1 }
  ended := s.ended
  owed := s.owed ∪ appliedKeys polled answers s.loop.state
  baseline := s.baselineWith (appliedKeys polled answers s.loop.state)
  handed := s.handed

def round (polled : PolledStream) (answers : PollAnswers) (queriesBefore queriesAfter : Nat)
    (s : PollStream) : PollStream :=
  let yielded := yieldStreamingPollRound polled answers queriesBefore queriesAfter s.loop
  { loop := yielded.1
    ended := yielded.2 == .recycle
    owed := s.owed ∪ s.roundKeys polled answers queriesBefore
    baseline := s.baselineWith (s.roundKeys polled answers queriesBefore)
    handed := s.handed ∪ yielded.2.keys }

/-- A message of a hub, which is passed on unless its key was emitted. -/
def relay (key : String) (s : PollStream) : PollStream :=
  if key ∈ s.loop.state.emittedEventIds then s
  else
    { s with
      loop := { s.loop with state := { s.loop.state with
        emittedEventIds := insert key s.loop.state.emittedEventIds } }
      handed := insert key s.handed }

end PollStream

inductive PollStreamEvent where
  | synced (answers : PollAnswers)
  | polled (answers : PollAnswers) (queriesBefore queriesAfter : Nat)
  | relayed (key : String)

inductive PollStreamStep (polled : PolledStream) :
    PollStream → PollStreamEvent → PollStream → Prop where
  | synced {s : PollStream} (answers : PollAnswers) (running : s.ended = false)
      (first : s.loop.state.initialized = false) :
      PollStreamStep polled s (.synced answers) (s.sync polled answers)
  | polled {s : PollStream} (answers : PollAnswers) (queriesBefore queriesAfter : Nat)
      (running : s.ended = false) :
      PollStreamStep polled s (.polled answers queriesBefore queriesAfter)
        (s.round polled answers queriesBefore queriesAfter)
  | relayed {s : PollStream} (key : String) (running : s.ended = false) :
      PollStreamStep polled s (.relayed key) (s.relay key)

/-! ## What is claimed, and when it holds -/

/-- **What is claimed of a round**: unless it fails and the stream goes on, no event of a
batch applied so far is still owed, in this round or an earlier one.  The events that a
first poll found may be excused. -/
def Settled (excused : Bool) (polled : PolledStream) (before : PollStream) :
    PollStreamEvent → PollStream → Prop
  | .polled answers queriesBefore queriesAfter, after =>
    (yieldStreamingPollRound polled answers queriesBefore queriesAfter before.loop).2
        ≠ .pollFailed →
      ∀ key ∈ after.owed, key ∈ after.handed ∨ (excused = true ∧ key ∈ after.baseline)
  | _, _ => True

def PollLoop.usedUp (loop : PollLoop) (queriesBefore queriesAfter : Nat) : Bool :=
  streamingPollBudgetExhausted loop.pollRounds loop.pollRounds queriesBefore
    || streamingPollBudgetExhausted (loop.pollRounds + 1) (loop.pollRounds + 1) queriesAfter

/-- A round delivers: it is not the first, every question is answered, and the budget is
not used up. -/
structure Delivers (polled : PolledStream) (answers : PollAnswers)
    (queriesBefore queriesAfter : Nat) (loop : PollLoop) : Prop where
  later : loop.state.initialized = true
  answered : pollFailure polled answers loop.state = none
  budget : loop.usedUp queriesBefore queriesAfter = false

/-- A round may be taken again: a question failed, not for the limit of requests, and the
budget is not used up. -/
def TakenAgain (polled : PolledStream) (answers : PollAnswers)
    (queriesBefore queriesAfter : Nat) (loop : PollLoop) : Prop :=
  ∃ failure, pollFailure polled answers loop.state = some failure
    ∧ streamingErrorIsSubrequestLimit failure = false
    ∧ loop.usedUp queriesBefore queriesAfter = false

/-- **When a round leaves nothing owed**: it is taken again, or each event owed before it
or listed by its batch was handed out before, is excused, or is listed and new, and the
round delivers. -/
def Settles (excused : Bool) (polled : PolledStream) (before : PollStream) :
    PollStreamEvent → Prop
  | .polled answers queriesBefore queriesAfter =>
    TakenAgain polled answers queriesBefore queriesAfter before.loop
      ∨ ∀ key ∈ before.owed ∪ before.roundKeys polled answers queriesBefore,
        key ∈ before.handed
          ∨ (excused = true
            ∧ key ∈ before.baselineWith (before.roundKeys polled answers queriesBefore))
          ∨ (key ∈ before.roundKeys polled answers queriesBefore
            ∧ key ∉ before.loop.state.emittedEventIds
            ∧ Delivers polled answers queriesBefore queriesAfter before.loop)
  | _ => True

/-! ## Keys of batches -/

def batchEventNames : List String := ["update", "notification", "conversation"]

def IsBatchKey (key : String) : Prop := splitFirst key ':' ∈ batchEventNames

theorem splitFirst_eventKey {event : StreamingEvent}
    (plain : ':' ∉ event.event.toList) : splitFirst (streamingEventKey event) ':' = event.event := by
  have key : streamingEventKey event = event.event ++ String.ofList (':' :: event.id.toList) := by
    rw [streamingEventKey, String.append_assoc]
    congr 1
    rw [← String.toList_inj]
    simp
  rw [key, splitFirst_append plain]

theorem eq_of_eventKey_eq {first second : StreamingEvent}
    (firstPlain : ':' ∉ first.event.toList) (secondPlain : ':' ∉ second.event.toList)
    (eq : streamingEventKey first = streamingEventKey second) :
    first.event = second.event ∧ first.id = second.id := by
  have names : first.event = second.event := by
    rw [← splitFirst_eventKey firstPlain, eq, splitFirst_eventKey secondPlain]
  refine ⟨names, ?_⟩
  have texts := congrArg String.toList eq
  simp only [streamingEventKey, String.toList_append, names] at texts
  exact String.toList_inj.mp (List.append_cancel_left texts)

theorem batchEventName_mem (stream : String) : batchEventName stream ∈ batchEventNames := by
  unfold batchEventName
  split_ifs <;> decide

theorem isBatchKey_of_mem_appliedKeys {polled : PolledStream} {answers : PollAnswers}
    {state : StreamingLoopState} {key : String} (mem : key ∈ appliedKeys polled answers state) :
    IsBatchKey key := by
  unfold appliedKeys at mem
  split at mem
  · cases Finset.notMem_empty _ mem
  · next batch built =>
      rw [List.mem_toFinset] at mem
      obtain ⟨event, listed, rfl⟩ := List.mem_map.mp mem
      obtain ⟨rows, _, rfl⟩ := batchOfRows_of_built built
      have named := event_of_batch listed
      have plain : ∀ name ∈ batchEventNames, ':' ∉ name.toList := by decide
      rw [IsBatchKey, splitFirst_eventKey, named]
      · exact batchEventName_mem polled.stream
      · rw [named]
        exact plain _ (batchEventName_mem polled.stream)

theorem not_isBatchKey_of_sideEffect {polled : PolledStream} {answers : PollAnswers}
    {isInitialPoll : Bool} {state : StreamingLoopState} {given : List StreamingEvent}
    {event : StreamingEvent}
    (ans : (appendStreamingPollSideEffectEvents polled answers isInitialPoll state).2
      = .ok given) (mem : event ∈ given) : ¬IsBatchKey (streamingEventKey event) := by
  have other : ∀ name ∈ "delete" :: sideEffectEventNames,
      ':' ∉ name.toList ∧ name ∉ batchEventNames := by decide
  have named : event.event ∈ "delete" :: sideEffectEventNames := by
    rcases sideEffect_cases ans mem with told | ⟨_, id, _, _, now, rfl⟩
    · exact List.mem_cons_of_mem _ told
    · exact List.mem_cons_self ..
  rw [IsBatchKey, splitFirst_eventKey (other _ named).1]
  exact (other _ named).2

/-! ## What a round hands out -/

section Round

variable {polled : PolledStream} {answers : PollAnswers} {queriesBefore queriesAfter : Nat}
  {loop : PollLoop} {state : StreamingLoopState} {key : String}

/-- A poll that is answered hands out, of the keys of batches, those of its own batch that
are new, unless it is the first. -/
theorem poll_hands_out (ans : pollFailure polled answers state = none)
    (isKey : IsBatchKey key) :
    ∃ told, (pollStreamingEvents polled answers state).2 = .ok told
      ∧ (key ∈ told.map streamingEventKey ↔ key ∈ appliedKeys polled answers state
        ∧ key ∉ state.emittedEventIds ∧ state.initialized = true) := by
  rw [← failure_poll] at ans
  have out := @poll_outcome polled answers state
  generalize pollStreamingEvents polled answers state = ended at ans out ⊢
  cases out with
  | unbuilt built | failed built asked framed => cases ans
  | @answered batch sideEffects after built asked framed given =>
    obtain ⟨changes, user, rfl⟩ := framed
    have noSideEffect : key ∉ sideEffects.map streamingEventKey := by
      intro mem
      obtain ⟨event, told, rfl⟩ := List.mem_map.mp mem
      exact not_isBatchKey_of_sideEffect given told isKey
    refine ⟨_, rfl, ?_⟩
    rw [retainNewStreamingEvents, mem_keys_keepUnseen, List.map_append, List.mem_append,
      or_iff_left noSideEffect, appliedKeys, built, List.mem_toFinset]
    cases first : state.initialized with
    | false => simp [applyStreamingBatchToState]
    | true => simp [applyStreamingBatchToState, and_comm]

theorem yieldRound_of_exhausted
    (exhausted : streamingPollBudgetExhausted loop.pollRounds loop.pollRounds queriesBefore = true) :
    yieldStreamingPollRound polled answers queriesBefore queriesAfter loop = (loop, .recycle) := by
  rw [yieldStreamingPollRound, if_pos exhausted]

theorem saturating_of_not_exhausted
    (fresh : streamingPollBudgetExhausted loop.pollRounds loop.pollRounds queriesBefore = false) :
    min (loop.pollRounds + 1) 4294967295 = loop.pollRounds + 1 := by
  simp only [streamingPollBudgetExhausted, Bool.or_eq_false_iff, decide_eq_false_iff_not] at fresh
  omega

theorem yieldRound_of_fresh
    (fresh : streamingPollBudgetExhausted loop.pollRounds loop.pollRounds queriesBefore = false) :
    (yieldStreamingPollRound polled answers queriesBefore queriesAfter loop).2
      = match (pollStreamingEvents polled answers loop.state).2 with
        | .error err =>
          if streamingErrorIsSubrequestLimit err
              || loop.usedUp queriesBefore queriesAfter then .recycle else .pollFailed
        | .ok told =>
          if loop.usedUp queriesBefore queriesAfter then .recycle else .events told := by
  have budget : loop.usedUp queriesBefore queriesAfter
      = streamingPollBudgetExhausted (loop.pollRounds + 1) (loop.pollRounds + 1) queriesAfter := by
    rw [PollLoop.usedUp, fresh, Bool.false_or]
  rw [yieldStreamingPollRound, if_neg (by simp [fresh]), saturating_of_not_exhausted fresh, budget]
  dsimp only
  cases (pollStreamingEvents polled answers loop.state).2 with
  | error err | ok told =>
    dsimp only
    split_ifs <;> rfl

theorem yieldRound_state_of_fresh
    (fresh : streamingPollBudgetExhausted loop.pollRounds loop.pollRounds queriesBefore = false) :
    (yieldStreamingPollRound polled answers queriesBefore queriesAfter loop).1.state
      = (pollStreamingEvents polled answers loop.state).1 := by
  rw [yieldStreamingPollRound, if_neg (by simp [fresh])]
  dsimp only
  split
  · split_ifs <;> rfl
  · split_ifs <;> rfl

/-- **The rounds that fail and leave the stream open.** -/
theorem pollFailed_iff :
    (yieldStreamingPollRound polled answers queriesBefore queriesAfter loop).2 = .pollFailed
      ↔ TakenAgain polled answers queriesBefore queriesAfter loop := by
  by_cases exhausted :
      streamingPollBudgetExhausted loop.pollRounds loop.pollRounds queriesBefore = true
  · rw [yieldRound_of_exhausted exhausted]
    constructor
    · intro bad
      cases bad
    · rintro ⟨_, _, _, budget⟩
      simp [PollLoop.usedUp, exhausted] at budget
  · rw [yieldRound_of_fresh (by simpa using exhausted), TakenAgain, ← failure_poll, Attempt.failure]
    cases (pollStreamingEvents polled answers loop.state).2 with
    | error err => simp [failureOf]
    | ok told =>
      dsimp only
      split_ifs <;> simp [failureOf]

/-- **The rounds that hand out events**: those of a poll that is answered, if the budget is
not used up. -/
theorem events_iff {told : List StreamingEvent} :
    (yieldStreamingPollRound polled answers queriesBefore queriesAfter loop).2 = .events told
      ↔ (pollStreamingEvents polled answers loop.state).2 = .ok told
        ∧ loop.usedUp queriesBefore queriesAfter = false := by
  by_cases exhausted :
      streamingPollBudgetExhausted loop.pollRounds loop.pollRounds queriesBefore = true
  · rw [yieldRound_of_exhausted exhausted]
    simp [PollLoop.usedUp, exhausted]
  · rw [yieldRound_of_fresh (by simpa using exhausted)]
    cases (pollStreamingEvents polled answers loop.state).2 with
    | error err =>
      dsimp only
      split_ifs <;> simp
    | ok got =>
      dsimp only
      split_ifs with usedUp <;> simp [usedUp]

theorem mem_keys_iff {yielded : StreamingPollYield} :
    key ∈ yielded.keys ↔ ∃ told, yielded = .events told ∧ key ∈ told.map streamingEventKey := by
  cases yielded <;> simp [StreamingPollYield.keys]

/-- **What a round hands out** of the keys of batches. -/
theorem mem_keys_yield_iff (isKey : IsBatchKey key) :
    key ∈ (yieldStreamingPollRound polled answers queriesBefore queriesAfter loop).2.keys
      ↔ key ∈ appliedKeys polled answers loop.state
        ∧ key ∉ loop.state.emittedEventIds
        ∧ Delivers polled answers queriesBefore queriesAfter loop := by
  rw [mem_keys_iff]
  constructor
  · rintro ⟨told, yielded, mem⟩
    obtain ⟨out, budget⟩ := events_iff.mp yielded
    have ans : pollFailure polled answers loop.state = none := by
      rw [← failure_poll]
      exact failureOf_eq_none_iff.mpr ⟨told, out⟩
    obtain ⟨other, eq, handed⟩ := poll_hands_out ans isKey
    cases out.symm.trans eq
    obtain ⟨applied, new, later⟩ := handed.mp mem
    exact ⟨applied, new, later, ans, budget⟩
  · rintro ⟨applied, new, delivers⟩
    obtain ⟨told, out, handed⟩ := poll_hands_out delivers.answered isKey
    exact ⟨told, events_iff.mpr ⟨out, delivers.budget⟩, handed.mpr ⟨applied, new, delivers.later⟩⟩

end Round

/-! ## Runs -/

def OwesBatchKeys (s : PollStream) : Prop := ∀ key ∈ s.owed, IsBatchKey key

section Steps

variable {polled : PolledStream} {before after : PollStream} {event : PollStreamEvent}
  {excused : Bool}

theorem isBatchKey_of_mem_roundKeys {answers : PollAnswers} {queriesBefore : Nat} {key : String}
    (mem : key ∈ before.roundKeys polled answers queriesBefore) : IsBatchKey key := by
  unfold PollStream.roundKeys at mem
  split_ifs at mem
  · cases Finset.notMem_empty _ mem
  · exact isBatchKey_of_mem_appliedKeys mem

theorem owesBatchKeys_after (owes : OwesBatchKeys before)
    (taken : PollStreamStep polled before event after) : OwesBatchKeys after := by
  cases taken with
  | synced answers runs first =>
    intro key mem
    rcases Finset.mem_union.mp mem with old | new
    · exact owes key old
    · exact isBatchKey_of_mem_appliedKeys new
  | polled answers queriesBefore queriesAfter runs =>
    intro key mem
    rcases Finset.mem_union.mp mem with old | new
    · exact owes key old
    · exact isBatchKey_of_mem_roundKeys new
  | relayed key runs =>
    unfold PollStream.relay
    split_ifs
    · exact owes
    · exact owes

theorem roundKeys_of_delivers {answers : PollAnswers} {queriesBefore queriesAfter : Nat}
    (delivers : Delivers polled answers queriesBefore queriesAfter before.loop) :
    before.roundKeys polled answers queriesBefore
      = appliedKeys polled answers before.loop.state := by
  have budget := delivers.budget
  rw [PollLoop.usedUp, Bool.or_eq_false_iff] at budget
  rw [PollStream.roundKeys, if_neg (by simp [budget.1])]

/-- **When a round leaves nothing owed.** -/
theorem settled_round_iff (owes : OwesBatchKeys before)
    (taken : PollStreamStep polled before event after) :
    Settled excused polled before event after ↔ Settles excused polled before event := by
  cases taken with
  | synced answers runs first | relayed key runs => exact Iff.rfl
  | polled answers queriesBefore queriesAfter runs =>
    have isKey : ∀ key ∈ before.owed ∪ before.roundKeys polled answers queriesBefore,
        IsBatchKey key := by
      intro key mem
      rcases Finset.mem_union.mp mem with old | new
      · exact owes key old
      · exact isBatchKey_of_mem_roundKeys new
    -- What the round hands out is what the condition asks of its own batch.
    have each : ∀ key ∈ before.owed ∪ before.roundKeys polled answers queriesBefore,
        (key ∈ (before.round polled answers queriesBefore queriesAfter).handed
          ↔ key ∈ before.handed
            ∨ (key ∈ before.roundKeys polled answers queriesBefore
              ∧ key ∉ before.loop.state.emittedEventIds
              ∧ Delivers polled answers queriesBefore queriesAfter before.loop)) := by
      intro key mem
      have handed := @mem_keys_yield_iff polled answers queriesBefore queriesAfter before.loop
        key (isKey key mem)
      rw [PollStream.round, Finset.mem_union, handed]
      apply or_congr_right
      constructor
      · rintro ⟨applied, new, delivers⟩
        rw [roundKeys_of_delivers delivers]
        exact ⟨applied, new, delivers⟩
      · rintro ⟨applied, new, delivers⟩
        rw [roundKeys_of_delivers delivers] at applied
        exact ⟨applied, new, delivers⟩
    rw [Settled, Settles, ne_eq, pollFailed_iff]
    by_cases again : TakenAgain polled answers queriesBefore queriesAfter before.loop
    · exact ⟨fun _ => Or.inl again, fun _ unfailed => absurd again unfailed⟩
    · constructor
      · intro done
        refine Or.inr fun key mem => ?_
        rcases done again key mem with handed | got
        · rcases (each key mem).mp handed with old | own
          · exact Or.inl old
          · exact Or.inr (Or.inr own)
        · exact Or.inr (Or.inl got)
      · rintro (bad | settles) _ key mem
        · exact absurd bad again
        · rcases settles key mem with old | got | own
          · exact Or.inl ((each key mem).mpr (Or.inl old))
          · exact Or.inr got
          · exact Or.inl ((each key mem).mpr (Or.inr own))

end Steps

/-- **Every run of a stream**: no event of an applied batch stays owed, exactly when every
round leaves nothing owed. -/
theorem applied_events_are_handed_iff (excused : Bool) (polled : PolledStream)
    {trace : List (Transition PollStream PollStreamEvent)} {finish : PollStream}
    (run : Run (PollStreamStep polled) .start trace finish) :
    Throughout (Settled excused polled) trace ↔ Along (Settles excused polled) trace := by
  have owesNothing : OwesBatchKeys .start := fun _ owed => absurd owed (Finset.notMem_empty _)
  have both : (Throughout (Settled excused polled) trace ↔ Along (Settles excused polled) trace)
      ∧ (Along (Settles excused polled) trace → OwesBatchKeys finish) := by
    apply run.throughout_iff_along_from_good owesNothing
    · intro before event after owes taken
      exact settled_round_iff owes taken
    · intro before event after owes taken _
      exact owesBatchKeys_after owes taken
  exact both.1

/-! ## A home stream -/

def homeStream : PolledStream := ⟨"user", none, none, some "acct-1"⟩

def homeStatus : ListedStatus := ⟨"status-1", "2026-05-01T00:00:00Z", "{}"⟩

def homeAnswers (statuses : List ListedStatus) (filters : Except String (Option String)) :
    PollAnswers where
  rows := .ok ⟨statuses, [], [], false⟩
  lookup _ := .ok (some ⟨"2026-05-01T00:00:00Z", none, true, false, "{}"⟩)
  now := .ok "2026-05-01T00:00:10Z"
  filterUpdatedAt := filters
  announcements := .ok ⟨[], .empty⟩
  reactionDocument _ := "{}"

/-- The stream after its first poll, which found nothing. -/
def homeBaseline : PollStream :=
  PollStream.start.round homeStream (homeAnswers [] (.ok none)) 0 0

theorem homeBaseline_run : Run (PollStreamStep homeStream) .start
    ([] ++ [⟨.start, .polled (homeAnswers [] (.ok none)) 0 0, homeBaseline⟩]) homeBaseline :=
  .snoc .start (.polled _ 0 0 rfl)

theorem homeBaseline_settles : Settles false homeStream .start
    (.polled (homeAnswers [] (.ok none)) 0 0) := by
  have nothing : PollStream.start.owed
      ∪ PollStream.start.roundKeys homeStream (homeAnswers [] (.ok none)) 0 = ∅ := by
    decide +kernel
  refine Or.inr fun key mem => ?_
  rw [nothing] at mem
  cases Finset.notMem_empty _ mem

/-- A round after the first poll that is answered, with budget left, hands out its
status. -/
theorem applied_events_are_handed_home : ∃ trace finish,
    Run (PollStreamStep homeStream) .start trace finish
      ∧ Throughout (Settled false homeStream) trace
      ∧ "update:status-1" ∈ finish.owed ∧ "update:status-1" ∈ finish.handed := by
  have taken : PollStreamStep homeStream homeBaseline
      (.polled (homeAnswers [homeStatus] (.ok none)) 20 40)
      (homeBaseline.round homeStream (homeAnswers [homeStatus] (.ok none)) 20 40) :=
    .polled _ 20 40 (by decide +kernel)
  have settles : Settles false homeStream homeBaseline
      (.polled (homeAnswers [homeStatus] (.ok none)) 20 40) := by
    refine Or.inr fun key mem => Or.inr (Or.inr ?_)
    have listed : homeBaseline.owed
        ∪ homeBaseline.roundKeys homeStream (homeAnswers [homeStatus] (.ok none)) 20
          = {"update:status-1"} := by decide +kernel
    rw [listed, Finset.mem_singleton] at mem
    subst mem
    exact ⟨by decide +kernel, by decide +kernel, by decide +kernel, by decide +kernel,
      by decide +kernel⟩
  refine ⟨_, _, .snoc homeBaseline_run taken, ?_, by decide +kernel, by decide +kernel⟩
  apply (applied_events_are_handed_iff false homeStream (.snoc homeBaseline_run taken)).mpr
  refine Along.snoc_iff.mpr ⟨Along.snoc_iff.mpr ⟨Along.nil, homeBaseline_settles⟩, settles⟩

/-- **Lost events.**  A round whose filters fail has moved the cursor past its status, and
the next round, which finds nothing after the cursor, succeeds without it.  A round that
uses up the budget ends the stream with its status polled and not handed out. -/
theorem applied_events_are_lost :
    (∃ trace finish, Run (PollStreamStep homeStream) .start trace finish
      ∧ finish.loop.state.sinceId = some "status-1" ∧ "update:status-1" ∉ finish.handed
      ∧ ¬Throughout (Settled true homeStream) trace)
    ∧ ∃ trace finish, Run (PollStreamStep homeStream) .start trace finish
      ∧ finish.ended = true ∧ "update:status-1" ∉ finish.handed
      ∧ ¬Throughout (Settled true homeStream) trace := by
  constructor
  · have failing : PollStreamStep homeStream homeBaseline
        (.polled (homeAnswers [homeStatus] (.error "D1_ERROR")) 20 40)
        (homeBaseline.round homeStream (homeAnswers [homeStatus] (.error "D1_ERROR")) 20 40) :=
      .polled _ 20 40 (by decide +kernel)
    have next : PollStreamStep homeStream
        (homeBaseline.round homeStream (homeAnswers [homeStatus] (.error "D1_ERROR")) 20 40)
        (.polled (homeAnswers [] (.ok none)) 40 60)
        ((homeBaseline.round homeStream (homeAnswers [homeStatus] (.error "D1_ERROR")) 20
          40).round homeStream (homeAnswers [] (.ok none)) 40 60) :=
      .polled _ 40 60 (by decide +kernel)
    refine ⟨_, _, .snoc (.snoc homeBaseline_run failing) next, by decide +kernel,
      by decide +kernel, ?_⟩
    intro done
    rcases (Throughout.snoc_iff.mp done).2 (by decide +kernel) "update:status-1"
      (by decide +kernel) with handed | ⟨_, got⟩
    · exact absurd handed (by decide +kernel)
    · exact absurd got (by decide +kernel)
  · have last : PollStreamStep homeStream homeBaseline
        (.polled (homeAnswers [homeStatus] (.ok none)) 880 900)
        (homeBaseline.round homeStream (homeAnswers [homeStatus] (.ok none)) 880 900) :=
      .polled _ 880 900 (by decide +kernel)
    refine ⟨_, _, .snoc homeBaseline_run last, by decide +kernel, by decide +kernel, ?_⟩
    intro done
    rcases (Throughout.snoc_iff.mp done).2 (by decide +kernel) "update:status-1"
      (by decide +kernel) with handed | ⟨_, got⟩
    · exact absurd handed (by decide +kernel)
    · exact absurd got (by decide +kernel)

end Cfwdon.Streaming
