import Cfwdon.Delivery.Workers

/-!
# Terminal outbox rows

A delivered or failed row should stay as it is.  Every state-writing statement
asks for the state it moves a row out of, except the completion of generic rows
without targets.  A worker that completes such a row after its lease was
requeued to exhaustion turns a failed row into a delivered one.
-/

namespace Cfwdon.Delivery

open Library

/-- Rows that are delivered or failed keep their state. -/
def TerminalStatesKept (before : State) (_ : Event) (after : State) : Prop :=
  ∀ id row, before.outbox.find id = some row → row.state.isTerminal = true →
    ∃ row', after.outbox.find id = some row' ∧ row'.state = row.state

def CompletesNoFailedRow (s : State) : Event → Prop
  | .fanOut (.completeWithoutTargets deliveryIds) _ =>
    ∀ id ∈ deliveryIds, ∀ row, s.outbox.find id = some row → row.state ≠ .failed
  | _ => True

/-! ## Guarded statements leave terminal rows alone -/

section Guarded

variable {row : OutboxDelivery} {update : Update OutboxDelivery OutboxDelivery.id}

theorem onRow_of_isTerminal
    (guarded : update.guard row = true → row.state.isTerminal = false)
    (terminal : row.state.isTerminal = true) : update.onRow row = row := by
  rcases update.onRow_cases row with ⟨met, _⟩ | eq
  · have waits := guarded met
    rw [terminal] at waits
    cases waits
  · exact eq

theorem not_isTerminal_of_inFlight {cond : Bool}
    (met : (cond && row.state == .inFlight) = true) : row.state.isTerminal = false := by
  have inFlight : row.state = .inFlight := by
    rw [Bool.and_eq_true, beq_iff_eq] at met
    exact met.2
  rw [inFlight]
  rfl

theorem requeueStale_onRow_of_isTerminal (now : Nat) (terminal : row.state.isTerminal = true) :
    (requeueStaleInFlightOutboxDeliveries now).onRow row = row := by
  refine onRow_of_isTerminal (fun met => ?_) terminal
  have inFlight : row.state = .inFlight := by
    simp only [requeueStaleInFlightOutboxDeliveries, Bool.and_eq_true, beq_iff_eq] at met
    exact met.1
  rw [inFlight]
  rfl

theorem cancel_onRow_of_isTerminal (accountId targetInbox : String)
    (terminal : row.state.isTerminal = true) :
    (cancelPendingOutboxDeliveriesForInbox accountId targetInbox).onRow row = row := by
  refine onRow_of_isTerminal (fun met => ?_) terminal
  simp only [cancelPendingOutboxDeliveriesForInbox, Bool.and_eq_true, Bool.or_eq_true,
    beq_iff_eq] at met
  rcases met.2 with (state | state) | state <;> rw [state] <;> rfl

/-- A claim changes no terminal row, since it returns queued rows only. -/
theorem claim_onRow_of_isTerminal {now : Nat} {ids : List String}
    (queued : row.id ∈ ids → row.state = .queued) (terminal : row.state.isTerminal = true) :
    (claimPendingOutboxDeliveries now ids).onRow row = row := by
  refine onRow_of_isTerminal (fun met => ?_) terminal
  have took : row.id ∈ ids := by simpa [claimPendingOutboxDeliveries] using met
  rw [queued took]
  rfl

end Guarded

/-! ## One step -/

section OneStep

variable {s s' : State} {event : Event} {id : String} {row : OutboxDelivery}

/-- A completion writes `delivered` on exactly the rows it names. -/
theorem state_completeWithoutTargets (now : Nat) (deliveryIds : List String)
    (row : OutboxDelivery) :
    ((markOutboxDeliveriesCompletedWithoutTargets now deliveryIds).onRow row).state
      = if row.id ∈ deliveryIds then .delivered else row.state := by
  by_cases named : row.id ∈ deliveryIds
  · have met : (markOutboxDeliveriesCompletedWithoutTargets now deliveryIds).guard row = true := by
      simpa [markOutboxDeliveriesCompletedWithoutTargets] using named
    rw [if_pos named, Update.onRow_of_guard met]
    rfl
  · have unmet :
        (markOutboxDeliveriesCompletedWithoutTargets now deliveryIds).guard row = false := by
      simpa [markOutboxDeliveriesCompletedWithoutTargets] using named
    rw [if_neg named, Update.onRow_of_not_guard unmet]

/-- **Every other event leaves a terminal row as it is.** -/
theorem Step.onRow_of_isTerminal (step : Step s event s')
    (got : s.outbox.find id = some row) (terminal : row.state.isTerminal = true)
    (notCompletion : ∀ deliveryIds ids, event ≠ .fanOut (.completeWithoutTargets deliveryIds) ids) :
    event.onRow s.now row = row := by
  have isId : row.id = id := Table.key_of_find got
  cases step with
  | tick | enqueueGeneric | enqueueTargeted | resolveTargets => rfl
  | claimGeneric sel | claimTarget sel =>
    refine claim_onRow_of_isTerminal (fun mem => ?_) terminal
    have met := sel.guard_of_find got (isId ▸ mem)
    exact queued_of_isDue (Bool.and_eq_true_iff.mp met).1
  | @fanOut stmt ids =>
    cases stmt with
    | completeWithoutTargets deliveryIds => exact absurd rfl (notCompletion deliveryIds ids)
    | insertTargets chunk => rfl
    | markExpanded deliveries =>
      exact Delivery.onRow_of_isTerminal not_isTerminal_of_inFlight terminal
  | markDelivered | markTerminalFailure | reschedule =>
    exact Delivery.onRow_of_isTerminal not_isTerminal_of_inFlight terminal
  | requeueStale => exact requeueStale_onRow_of_isTerminal s.now terminal
  | cancelForInbox accountId targetInbox =>
    exact cancel_onRow_of_isTerminal accountId targetInbox terminal

/-- **One step keeps the terminal rows exactly when it completes no failed row.** -/
theorem Step.terminalStatesKept_iff (step : Step s event s') :
    TerminalStatesKept s event s' ↔ CompletesNoFailedRow s event := by
  by_cases completion : ∃ deliveryIds ids, event = .fanOut (.completeWithoutTargets deliveryIds) ids
  · obtain ⟨deliveryIds, ids, rfl⟩ := completion
    constructor
    · intro kept id named row got failed
      obtain ⟨row', got', eq⟩ := kept id row got (by rw [failed]; rfl)
      rw [step.find_some got, Option.some.injEq] at got'
      have wrote := state_completeWithoutTargets s.now deliveryIds row
      rw [if_pos ((Table.key_of_find got).symm ▸ named)] at wrote
      rw [← got', failed] at eq
      exact absurd (wrote.symm.trans eq) (by decide)
    · intro completesNone id row got terminal
      refine ⟨_, step.find_some got, ?_⟩
      refine (state_completeWithoutTargets s.now deliveryIds row).trans ?_
      by_cases named : row.id ∈ deliveryIds
      · rw [if_pos named]
        have notFailed := completesNone id ((Table.key_of_find got) ▸ named) row got
        cases state : row.state with
        | delivered => rfl
        | failed => exact absurd state notFailed
        | queued | expanded | inFlight => rw [state] at terminal; cases terminal
      · rw [if_neg named]
  · have other : ∀ deliveryIds ids, event ≠ .fanOut (.completeWithoutTargets deliveryIds) ids :=
      fun deliveryIds ids eq => completion ⟨deliveryIds, ids, eq⟩
    constructor
    · intro _
      unfold CompletesNoFailedRow
      split
      · exact absurd rfl (other _ _)
      · trivial
    · intro _ id row got terminal
      refine ⟨row, ?_, rfl⟩
      rw [step.find_some got, step.onRow_of_isTerminal got terminal other]

end OneStep

/-- A fan-out of an account without followers. -/
def lonelyRow (state : OutboxState) (attemptCount : Nat) (lastAttemptAt : Option Nat)
    (nextAttemptAt : Option Nat) : OutboxDelivery where
  id := "d"
  accountId := "alice"
  statusId := some "1"
  activityId := "https://local.example/users/alice/statuses/1/activity"
  activityType := "Create"
  targetInbox := none
  payloadJson := "{}"
  state := state
  attemptCount := attemptCount
  lastAttemptAt := lastAttemptAt
  nextAttemptAt := nextAttemptAt
  createdAt := 0

def lonelyCopy (attemptCount : Nat) : OutboxDeliveryRow :=
  (lonelyRow .inFlight attemptCount none none).returning

/-- The outbox with that one row, claimed by workers that have not resolved its
targets. -/
def lonelyState (now : Nat) (row : OutboxDelivery) (claims : List Nat) : State where
  now := now
  outbox := Table.singleton row
  claimedGeneric := claims.map fun attemptCount => [lonelyCopy attemptCount]
  fanOuts := []
  sending := []
  claimLog := claims.map fun _ => "d"

/-- The fan-out of the last worker to hold a lease: no target at all. -/
def lonelyFanOut : FanOut :=
  FanOut.begin [lonelyCopy 4] Table.empty

/-- Five leases have expired, so the row has failed; then the last worker
resolves its targets. -/
def exhaustedState : State :=
  { lonelyState 4500 (lonelyRow .failed 5 (some 3600) (some 3600)) [3, 2, 1, 0] with
    fanOuts := [lonelyFanOut]
    claimLog := List.replicate 5 "d" }

/-- The last worker completes the delivery it holds. -/
def completion : Event :=
  .fanOut (.completeWithoutTargets ["d"]) []

def revivedState : State :=
  { lonelyState 4500 (lonelyRow .delivered 5 (some 4500) none) [3, 2, 1, 0] with
    fanOuts := [lonelyFanOut.advance (.completeWithoutTargets ["d"]) [] (by decide)]
    claimLog := List.replicate 5 "d" }

theorem lease_expires {trace : List (Transition State Event)} {s took requeued : State}
    {row : OutboxDelivery} (run : OutboxRun trace s) (claim : Step s (.claimGeneric [row]) took)
    (stale : Step { took with now := took.now + 900 } .requeueStale requeued) :
    ∃ trace', OutboxRun trace' requeued :=
  ⟨_, ((run.snoc claim).snoc (Step.tick _ 900)).snoc stale⟩

/-- The row as the requeue of its `attemptCount`-th lease leaves it. -/
def requeuedRow (attemptCount : Nat) : OutboxDelivery :=
  lonelyRow .queued attemptCount (some (900 * (attemptCount - 1))) (some (900 * attemptCount))

theorem exhaustedState_reachable : ∃ trace, OutboxRun trace exhaustedState := by
  have queued : Step State.initial
      (.enqueueGeneric "d" "alice" "1" "https://local.example/users/alice/statuses/1/activity"
        "Create" "{}") (lonelyState 0 (lonelyRow .queued 0 none (some 0)) []) :=
    Step.enqueueGeneric _ rfl
  obtain ⟨_, first⟩ : ∃ trace, OutboxRun trace (lonelyState 900 (requeuedRow 1) [0]) :=
    lease_expires (Run.start.snoc queued)
      (Step.claimGeneric _ (Selection.singleton (by decide))) (Step.requeueStale _)
  obtain ⟨_, second⟩ : ∃ trace, OutboxRun trace (lonelyState 1800 (requeuedRow 2) [1, 0]) :=
    lease_expires first (Step.claimGeneric _ (Selection.singleton (by decide)))
      (Step.requeueStale _)
  obtain ⟨_, third⟩ : ∃ trace, OutboxRun trace (lonelyState 2700 (requeuedRow 3) [2, 1, 0]) :=
    lease_expires second (Step.claimGeneric _ (Selection.singleton (by decide)))
      (Step.requeueStale _)
  obtain ⟨_, fourth⟩ : ∃ trace, OutboxRun trace (lonelyState 3600 (requeuedRow 4) [3, 2, 1, 0]) :=
    lease_expires third (Step.claimGeneric _ (Selection.singleton (by decide)))
      (Step.requeueStale _)
  obtain ⟨_, fifth⟩ : ∃ trace, OutboxRun trace
      (lonelyState 4500 (lonelyRow .failed 5 (some 3600) (some 3600)) [4, 3, 2, 1, 0]) :=
    lease_expires fourth (Step.claimGeneric _ (Selection.singleton (by decide)))
      (Step.requeueStale _)
  have took :
      (lonelyState 4500 (lonelyRow .failed 5 (some 3600) (some 3600)) [4, 3, 2, 1, 0]).claimedGeneric
        = [] ++ [lonelyCopy 4]
          :: [[lonelyCopy 3], [lonelyCopy 2], [lonelyCopy 1], [lonelyCopy 0]] := rfl
  have got : Step
      (lonelyState 4500 (lonelyRow .failed 5 (some 3600) (some 3600)) [4, 3, 2, 1, 0])
      (.resolveTargets [lonelyCopy 4] Table.empty) exhaustedState :=
    Step.resolveTargets _ _ took
  exact ⟨_, fifth.snoc got⟩

theorem completion_step : Step exhaustedState completion revivedState := by
  have runs : exhaustedState.fanOuts = [] ++ lonelyFanOut :: [] := rfl
  exact Step.fanOut _ runs (by decide) ⟨rfl, List.nodup_nil, by simp⟩

end Cfwdon.Delivery
