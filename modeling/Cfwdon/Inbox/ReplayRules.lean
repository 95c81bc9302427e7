import Cfwdon.Inbox.Requests

/-!
# Replays of inbox activities

The domain knows an activity as absent, in flight or processed, and accepts it only when it is
absent.  The rows of `inbox_activities` go from one to the other as it says, in whatever order
the requests and the reclaim passes take their steps, so an activity that was processed once is
not taken again.
-/

namespace Cfwdon.Inbox

open Library

/-! ## The rules -/

inductive InboxActivityRecordState where
  | absent
  | inFlight
  | processed
  deriving DecidableEq

/-- The state after a receipt, and whether the activity is accepted. -/
def inboxActivityAfterReceive : InboxActivityRecordState → InboxActivityRecordState × Bool
  | .absent => (.inFlight, true)
  | .inFlight => (.inFlight, false)
  | .processed => (.processed, false)

def inboxActivityAfterSuccess : InboxActivityRecordState → Option InboxActivityRecordState
  | .inFlight => some .processed
  | .absent | .processed => none

def inboxActivityAfterFailure : InboxActivityRecordState → Option InboxActivityRecordState
  | .inFlight => some .absent
  | .absent | .processed => none

/-- What may become of an activity in a step. -/
inductive Allowed (state : InboxActivityRecordState) : InboxActivityRecordState → Prop where
  | stay : Allowed state state
  | receive : Allowed state (inboxActivityAfterReceive state).1
  | success {after : InboxActivityRecordState}
      (done : inboxActivityAfterSuccess state = some after) : Allowed state after
  | failure {after : InboxActivityRecordState}
      (done : inboxActivityAfterFailure state = some after) : Allowed state after

theorem Allowed.processed {after : InboxActivityRecordState}
    (allowed : Allowed .processed after) : after = .processed := by
  cases allowed with
  | stay | receive => rfl
  | success done | failure done => cases done

/-! ## The rows -/

def InboxActivity.record (row : InboxActivity) : InboxActivityRecordState :=
  if row.processedAt.isNone then .inFlight else .processed

def InboxState.record (s : InboxState) (key : String × String) : InboxActivityRecordState :=
  (s.activities.find key).elim .absent InboxActivity.record

/-- A request enters its handlers with an activity. -/
def Accepts (key : String × String) (before : InboxState) (event : InboxEvent)
    (after : InboxState) : Prop :=
  ∃ request, event = .begin request.number ∧ request.key = key
    ∧ before.requests.find request.number = some request
    ∧ after.requests.find request.number = some (request.begun before.now)

/-- A step follows the rules, and accepts an activity only if they do. -/
structure FollowsReplayRules (before : InboxState) (event : InboxEvent) (after : InboxState) :
    Prop where
  allowed : ∀ key, Allowed (before.record key) (after.record key)
  accepted : ∀ key, Accepts key before event after →
    (inboxActivityAfterReceive (before.record key)).2 = true

variable {s s' : InboxState} {event : InboxEvent} {key : String × String}

theorem InboxEvent.Drops.unprocessed {row : InboxActivity} (drops : event.Drops s row) :
    row.processedAt = none := by
  cases event with
  | receive | reclaimRelease => exact (unprocessed_of_staleClaim drops).1
  | release => exact drops.1
  | _ => exact drops.elim

/-- **A step moves every activity by the rules.** -/
theorem InboxStep.allowed (step : InboxStep s event s') (key : String × String) :
    Allowed (s.record key) (s'.record key) := by
  cases got : s.activities.find key with
  | none =>
    have absent : s.record key = .absent := by rw [InboxState.record, got]; rfl
    rw [absent]
    cases got' : s'.activities.find key with
    | none =>
      rw [InboxState.record, got']
      exact .stay
    | some row =>
      obtain ⟨request, _, _, rfl, _⟩ := step.activity_none got got'
      rw [InboxState.record, got']
      exact .receive
  | some row =>
    have stored : s.record key = row.record := by rw [InboxState.record, got]; rfl
    rw [stored]
    rcases step.activity_some got with kept | ⟨_, marked⟩ | ⟨drops, gone⟩
    · rw [InboxState.record, kept]
      exact .stay
    · rw [InboxState.record, marked]
      cases pre : row.processedAt with
      | none => exact .success (by rw [InboxActivity.record, pre]; rfl)
      | some instant =>
        have done : row.record = .processed := by rw [InboxActivity.record, pre]; rfl
        rw [done]
        exact .stay
    · rw [InboxState.record, gone]
      exact .failure (by rw [InboxActivity.record, drops.unprocessed]; rfl)

/-- A request enters its handlers only with an activity that has no row. -/
theorem InboxStep.absent_of_accepts (step : InboxStep s event s')
    (accepts : Accepts key s event s') : s.activities.find key = none := by
  obtain ⟨request, rfl, rfl, got, began⟩ := accepts
  cases step with
  | begin found received free =>
    obtain rfl := Option.some.inj (found.symm.trans got)
    exact free
  | skip found received taken =>
    rw [Table.find_run, got, Option.map_some, setPhase_onRow_self, Option.some.injEq] at began
    cases congrArg InboxRequest.phase began

theorem InboxStep.followsReplayRules (step : InboxStep s event s') :
    FollowsReplayRules s event s' where
  allowed := step.allowed
  accepted := by
    intro key accepts
    rw [InboxState.record, step.absent_of_accepts accepts]
    rfl

end Cfwdon.Inbox
