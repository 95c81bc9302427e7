import Cfwdon.Delivery.Workers

/-!
# The delivery rules and the workers

The domain states what an attempt makes of a delivery and what its expansion makes of a
delivery to followers, one step at a time.  Workers do the same in several statements, with
a lease between them, from copies that may be old.  To the rules a row in flight is queued.
-/

namespace Cfwdon.Delivery

open Library

/-! ## The rules -/

inductive OutboxDeliveryRecordState where
  | queued
  | expanded
  | delivered
  | failed
  deriving DecidableEq

inductive DeliveryAttemptOutcome where
  | success
  | failure
  | permanentFailure

def outboxDeliveryStateAfterAttempt (current : OutboxDeliveryRecordState) (nextAttempt : Nat) :
    DeliveryAttemptOutcome → OutboxDeliveryRecordState
  | .success => .delivered
  | .permanentFailure => .failed
  | .failure =>
    match current with
    | .queued => if isDeliveryTerminal nextAttempt then .failed else .queued
    | terminal => terminal

def genericOutboxParentStateAfterExpand (followerTargetCount : Nat) :
    OutboxDeliveryRecordState :=
  if followerTargetCount = 0 then .delivered else .expanded

/-- A delivery as the rules see it. -/
structure TargetSlotState where
  state : OutboxDeliveryRecordState
  attemptCount : Nat

/-- `apply_outbox_pipeline_target_outcome`, for a queued slot. -/
def applyOutboxPipelineTargetOutcome (slot : TargetSlotState) (outcome : DeliveryAttemptOutcome) :
    TargetSlotState where
  state :=
    outboxDeliveryStateAfterAttempt slot.state (nextDeliveryAttemptCount slot.attemptCount) outcome
  attemptCount :=
    match outcome with
    | .success => slot.attemptCount
    | .failure | .permanentFailure => nextDeliveryAttemptCount slot.attemptCount

/-- What may become of a delivery: nothing, an attempt, its expansion, or its end with the
follower it is for. -/
inductive Allowed (slot : TargetSlotState) : TargetSlotState → Prop where
  | stay : Allowed slot slot
  | attempt (queued : slot.state = .queued) (outcome : DeliveryAttemptOutcome) :
      Allowed slot (applyOutboxPipelineTargetOutcome slot outcome)
  | expand (queued : slot.state = .queued) (followerTargetCount : Nat) :
      Allowed slot { slot with state := genericOutboxParentStateAfterExpand followerTargetCount }
  | cancel (pending : slot.state = .queued ∨ slot.state = .expanded) :
      Allowed slot { slot with state := .failed }

/-- There is an attempt left for a queued delivery. -/
def TargetSlotState.Bounded (slot : TargetSlotState) : Prop :=
  slot.attemptCount ≤ deliveryMaxAttempts
    ∧ (slot.state = .queued → slot.attemptCount < deliveryMaxAttempts)

section Rules

variable {slot slot' : TargetSlotState}

theorem nextDeliveryAttemptCount_of_lt {attemptCount : Nat}
    (below : attemptCount < deliveryMaxAttempts) :
    nextDeliveryAttemptCount attemptCount = attemptCount + 1 := by
  simp only [nextDeliveryAttemptCount, saturatingAdd, deliveryMaxAttempts] at *
  omega

theorem Allowed.count (allowed : Allowed slot slot') :
    slot'.attemptCount = slot.attemptCount
      ∨ slot'.attemptCount = nextDeliveryAttemptCount slot.attemptCount := by
  cases allowed with
  | attempt queued outcome =>
    cases outcome with
    | success => exact Or.inl rfl
    | failure | permanentFailure => exact Or.inr rfl
  | stay | expand | cancel => exact Or.inl rfl

theorem Allowed.before_delivered (allowed : Allowed slot slot') (done : slot'.state = .delivered) :
    slot.state = .queued ∨ slot.state = .delivered := by
  cases allowed with
  | stay => exact Or.inr done
  | attempt queued | expand queued => exact Or.inl queued
  | cancel => cases done

/-- **The rules leave an attempt for every queued delivery.** -/
theorem Allowed.bounded (allowed : Allowed slot slot') (bounded : slot.Bounded) :
    slot'.Bounded := by
  cases allowed with
  | stay => exact bounded
  | expand queued count =>
    refine ⟨bounded.1, fun state => ?_⟩
    unfold genericOutboxParentStateAfterExpand at state
    split_ifs at state
  | cancel => exact ⟨bounded.1, fun state => by cases state⟩
  | attempt queued outcome =>
    have below := bounded.2 queued
    cases outcome with
    | success => exact ⟨bounded.1, fun state => by cases state⟩
    | permanentFailure =>
      refine ⟨?_, fun state => by cases state⟩
      rw [applyOutboxPipelineTargetOutcome, nextDeliveryAttemptCount_of_lt below]
      exact below
    | failure =>
      have next := nextDeliveryAttemptCount_of_lt below
      refine ⟨next.trans_le below, fun state => ?_⟩
      simp only [applyOutboxPipelineTargetOutcome, outboxDeliveryStateAfterAttempt, queued]
        at state ⊢
      split_ifs at state with last
      rw [isDeliveryTerminal, decide_eq_true_eq] at last
      exact Nat.lt_of_not_le last

end Rules

/-! ## The rows -/

def OutboxState.record : OutboxState → OutboxDeliveryRecordState
  | .queued | .inFlight => .queued
  | .expanded => .expanded
  | .delivered => .delivered
  | .failed => .failed

def OutboxDelivery.slot (row : OutboxDelivery) : TargetSlotState where
  state := row.state.record
  attemptCount := row.attemptCount

/-- Stored rows stay stored, changed as the rules allow. -/
def FollowsRules (before : State) (_ : Event) (after : State) : Prop :=
  ∀ id row, before.outbox.find id = some row →
    ∃ row', after.outbox.find id = some row' ∧ Allowed row.slot row'.slot

/-- A mark writes the stored count or the next one, and a completion finds no row that was
expanded or given up. -/
def MarksFollowRules (s : State) : Event → Prop
  | .reschedule delivery | .markTerminalFailure delivery =>
    ∀ row, s.outbox.find delivery.id = some row → row.state = .inFlight →
      nextDeliveryAttemptCount delivery.attemptCount = row.attemptCount
        ∨ nextDeliveryAttemptCount delivery.attemptCount
          = nextDeliveryAttemptCount row.attemptCount
  | .fanOut (.completeWithoutTargets deliveryIds) _ =>
    ∀ id ∈ deliveryIds, ∀ row, s.outbox.find id = some row →
      row.state ≠ .expanded ∧ row.state ≠ .failed
  | _ => True

/-- Every stored row is bounded as the rules see it. -/
def State.Bounded (s : State) : Prop :=
  ∀ id row, s.outbox.find id = some row → row.slot.Bounded

section OneStep

variable {s s' : State} {event : Event} {id : String} {row : OutboxDelivery}

theorem allowed_onRow {update : Update OutboxDelivery OutboxDelivery.id}
    (allowed : update.guard row = true → Allowed row.slot (update.set row).slot) :
    Allowed row.slot (update.onRow row).slot := by
  rcases update.onRow_cases row with ⟨met, changed⟩ | eq
  · rw [changed]
    exact allowed met
  · rw [eq]
    exact .stay

theorem slot_of_inFlight {cond : Bool} (met : (cond && row.state == .inFlight) = true) :
    row.state = .inFlight ∧ row.slot.state = .queued := by
  rw [Bool.and_eq_true, beq_iff_eq] at met
  rw [OutboxDelivery.slot, met.2]
  exact ⟨rfl, rfl⟩

theorem allowed_claim {now : Nat} {ids : List String}
    (queued : row.id ∈ ids → row.state = .queued) :
    Allowed row.slot ((claimPendingOutboxDeliveries now ids).onRow row).slot := by
  refine allowed_onRow fun met => ?_
  have waits := queued (by simpa [claimPendingOutboxDeliveries] using met)
  have same : ((claimPendingOutboxDeliveries now ids).set row).slot = row.slot := by
    rw [OutboxDelivery.slot, OutboxDelivery.slot, waits]
    rfl
  rw [same]
  exact .stay

/-- A failed attempt, by the attempt number that a mark writes. -/
theorem attempt_failure {slot : TargetSlotState} {nextAttempt : Nat} (queued : slot.state = .queued)
    (next : nextAttempt = nextDeliveryAttemptCount slot.attemptCount) :
    Allowed slot
      ⟨if isDeliveryTerminal nextAttempt then .failed else .queued, nextAttempt⟩ := by
  have allowed := Allowed.attempt queued .failure
  rwa [applyOutboxPipelineTargetOutcome, queued, outboxDeliveryStateAfterAttempt, ← next] at allowed

/-- **A step changes every stored row as the rules allow**, if its marks follow the rules. -/
theorem Step.allowed (step : Step s event s') (follows : MarksFollowRules s event)
    (got : s.outbox.find id = some row) (bounded : row.slot.Bounded) :
    Allowed row.slot (event.onRow s.now row).slot := by
  have isId : row.id = id := Table.key_of_find got
  cases step with
  | tick | enqueueGeneric | enqueueTargeted | resolveTargets => exact .stay
  | claimGeneric sel | claimTarget sel =>
    refine allowed_claim fun mem => ?_
    have met := sel.guard_of_find got (isId ▸ mem)
    exact queued_of_isDue (Bool.and_eq_true_iff.mp met).1
  | @fanOut stmt ids =>
    cases stmt with
    | insertTargets chunk => exact .stay
    | markExpanded deliveries =>
      exact allowed_onRow fun met => .expand (slot_of_inFlight met).2 1
    | completeWithoutTargets deliveryIds =>
      refine allowed_onRow fun met => ?_
      have named : row.id ∈ deliveryIds := by
        simpa [markOutboxDeliveriesCompletedWithoutTargets] using met
      obtain ⟨notExpanded, notFailed⟩ := follows row.id named row (isId ▸ got)
      cases state : row.state with
      | expanded => exact absurd state notExpanded
      | failed => exact absurd state notFailed
      | queued | inFlight =>
        have queued : row.slot.state = .queued := by rw [OutboxDelivery.slot, state]; rfl
        exact .expand queued 0
      | delivered =>
        have same : row.slot = ⟨.delivered, row.attemptCount⟩ := by
          rw [OutboxDelivery.slot, state]
          rfl
        rw [same]
        exact .stay
  | markDelivered => exact allowed_onRow fun met => .attempt (slot_of_inFlight met).2 .success
  | @markTerminalFailure delivery =>
    refine allowed_onRow fun met => ?_
    obtain ⟨inFlight, queued⟩ := slot_of_inFlight met
    have isRow : row.id = delivery.id := beq_iff_eq.mp (Bool.and_eq_true_iff.mp met).1
    have counted := follows row (isRow.symm.trans isId ▸ got) inFlight
    simp only [OutboxDelivery.slot, markOutboxDeliveryTerminalFailure]
    rcases counted with eq | eq
    · rw [eq]
      exact .cancel (Or.inl queued)
    · rw [eq]
      exact .attempt queued .permanentFailure
  | @reschedule delivery _ _ held retried =>
    refine allowed_onRow fun met => ?_
    obtain ⟨inFlight, queued⟩ := slot_of_inFlight met
    have isRow : row.id = delivery.id := beq_iff_eq.mp (Bool.and_eq_true_iff.mp met).1
    have counted := follows row (isRow.symm.trans isId ▸ got) inFlight
    simp only [OutboxDelivery.slot, rescheduleOutboxDelivery]
    rcases counted with eq | eq
    · rw [eq, inFlight]
      exact .stay
    · have failed := attempt_failure queued eq
      rw [retried] at failed
      exact failed
  | requeueStale =>
    refine allowed_onRow fun met => ?_
    have queued := (slot_of_inFlight ((Bool.and_comm _ _).trans met)).2
    have failed := attempt_failure queued (nextDeliveryAttemptCount_of_lt (bounded.2 queued)).symm
    simp only [OutboxDelivery.slot, requeueStaleInFlightOutboxDeliveries,
      apply_ite OutboxState.record]
    simp only [isDeliveryTerminal, decide_eq_true_eq] at failed
    exact failed
  | cancelForInbox accountId targetInbox =>
    refine allowed_onRow fun met => .cancel ?_
    simp only [cancelPendingOutboxDeliveriesForInbox, Bool.and_eq_true, Bool.or_eq_true,
      beq_iff_eq] at met
    rcases met.2 with (state | state) | state <;>
      simp [OutboxDelivery.slot, state, OutboxState.record]

/-- **A step follows the rules exactly when its marks do.** -/
theorem Step.followsRules_iff (bounded : s.Bounded) (step : Step s event s') :
    FollowsRules s event s' ↔ MarksFollowRules s event := by
  constructor
  · intro follows
    -- What a mark or a completion makes of the row it finds.
    have after : ∀ {id : String} {row : OutboxDelivery}, s.outbox.find id = some row →
        Allowed row.slot (event.onRow s.now row).slot := by
      intro id row got
      obtain ⟨row', got', allowed⟩ := follows id row got
      rw [step.find_some got, Option.some.injEq] at got'
      rwa [got']
    cases event with
    | reschedule delivery | markTerminalFailure delivery =>
      intro row got inFlight
      have allowed := after got
      rw [Event.onRow, Update.onRow_of_guard (by
        simp [rescheduleOutboxDelivery, markOutboxDeliveryTerminalFailure, inFlight,
          Table.key_of_find got])] at allowed
      exact allowed.count
    | fanOut stmt ids =>
      cases stmt with
      | insertTargets | markExpanded => trivial
      | completeWithoutTargets deliveryIds =>
        intro id named row got
        have allowed := after got
        have isId : row.id = id := Table.key_of_find got
        rw [Event.onRow, GenericStatement.onRow, Update.onRow_of_guard (by
          simpa [markOutboxDeliveriesCompletedWithoutTargets, isId] using named)] at allowed
        have pre := allowed.before_delivered rfl
        constructor <;> intro state <;> simp [OutboxDelivery.slot, state, OutboxState.record] at pre
    | _ => trivial
  · intro follows id row got
    exact ⟨_, step.find_some got, step.allowed follows got (bounded id row got)⟩

theorem Step.bounded (step : Step s event s') (bounded : s.Bounded)
    (follows : FollowsRules s event s') : s'.Bounded := by
  intro id row got
  cases pre : s.outbox.find id with
  | some prior =>
    obtain ⟨row', got', allowed⟩ := follows id prior pre
    obtain rfl := Option.some.inj (got'.symm.trans got)
    exact allowed.bounded (bounded id prior pre)
  | none =>
    obtain ⟨_, unattempted⟩ := step.find_none pre got
    have count : row.slot.attemptCount = 0 := unattempted
    exact ⟨by rw [count]; decide, fun _ => by rw [count]; decide⟩

end OneStep

end Cfwdon.Delivery
