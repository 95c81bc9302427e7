import Cfwdon.Delivery.Workers

/-!
# Attempt counts bound the claims of a row

A failed send is recorded by writing `attempt_count` as the worker's own copy
plus one, under the single guard that the row is in flight.  A worker that comes
back after its lease was requeued and claimed again therefore writes a count
older than the stored one, and the row is sent more often than
`DELIVERY_MAX_ATTEMPTS` allows.
-/

namespace Cfwdon.Delivery

open Library

/-- Claims are paid for by attempts: one ahead while in flight, at most five ever. -/
def ClaimsPaid (claims : Nat) (row : OutboxDelivery) : Prop :=
  match row.state with
  | .queued => claims ≤ row.attemptCount ∧ row.attemptCount < deliveryMaxAttempts
  | .inFlight => claims ≤ row.attemptCount + 1 ∧ row.attemptCount < deliveryMaxAttempts
  | _ => claims ≤ deliveryMaxAttempts

theorem ClaimsPaid.le_max {claims : Nat} {row : OutboxDelivery} (paid : ClaimsPaid claims row) :
    claims ≤ deliveryMaxAttempts := by
  cases state : row.state with
  | queued =>
    simp only [ClaimsPaid, state] at paid
    exact Nat.le_of_lt (Nat.lt_of_le_of_lt paid.1 paid.2)
  | inFlight =>
    simp only [ClaimsPaid, state] at paid
    exact Nat.le_trans paid.1 paid.2
  | expanded | delivered | failed => simpa only [ClaimsPaid, state] using paid

theorem claimsPaid_of_inFlight {claims : Nat} {row : OutboxDelivery}
    (paid : ClaimsPaid claims row) (inFlight : row.state = .inFlight) :
    claims ≤ row.attemptCount + 1 ∧ row.attemptCount < deliveryMaxAttempts := by
  simpa only [ClaimsPaid, inFlight] using paid

theorem claimsPaid_of_settled {claims : Nat} {row row' : OutboxDelivery}
    (paid : ClaimsPaid claims row)
    (done : row'.state = .expanded ∨ row'.state = .delivered ∨ row'.state = .failed) :
    ClaimsPaid claims row' := by
  have bounded := paid.le_max
  rcases done with state | state | state <;> simpa only [ClaimsPaid, state] using bounded

/-! ## Marks that keep the count -/

/-- The marks of an event write no count below the stored one: a reschedule comes
from a copy at least as new as the row in flight, and a terminal failure is
recorded under an attempt number that the row has not passed. -/
def MarksKeepCount (s : State) : Event → Prop
  | .reschedule delivery =>
    ∀ row, s.outbox.find delivery.id = some row → row.state = .inFlight →
      row.attemptCount ≤ delivery.attemptCount
  | .markTerminalFailure delivery =>
    ∀ row, s.outbox.find delivery.id = some row → row.state = .inFlight →
      row.attemptCount ≤ nextDeliveryAttemptCount delivery.attemptCount
  | _ => True

/-- Stored rows stay stored, with no smaller attempt count. -/
def AttemptCountsKept (before : State) (_ : Event) (after : State) : Prop :=
  ∀ id row, before.outbox.find id = some row →
    ∃ row', after.outbox.find id = some row' ∧ row.attemptCount ≤ row'.attemptCount

/-- No row has been claimed more often than its attempts allow. -/
structure ClaimInvariant (s : State) : Prop where
  paid : ∀ id row, s.outbox.find id = some row → ClaimsPaid (s.claims id) row
  unclaimed : ∀ id, s.outbox.find id = none → s.claims id = 0

theorem ClaimInvariant.initial : ClaimInvariant State.initial where
  paid := fun _ _ got => by simp [State.initial] at got
  unclaimed := fun _ _ => rfl

/-! ## One step -/

variable (now : Nat)

section OneRow

variable {s s' : State} {event : Event} {id : String} {row : OutboxDelivery}

def Event.isClaimOf (event : Event) (id : String) : Bool :=
  match event with
  | .claimGeneric chosen => decide (id ∈ chosen.map OutboxDelivery.id)
  | .claimTarget chosen => decide (id ∈ chosen.map OutboxDelivery.id)
  | _ => false

theorem Step.claims_eq (step : Step s event s') :
    s'.claims id = (if event.isClaimOf id then 1 else 0) + s.claims id := by
  cases step with
  | claimGeneric sel | claimTarget sel =>
    simp only [State.claims, Event.isClaimOf, claims_append sel.keys_nodup, decide_eq_true_eq]
  | _ => simp [State.claims, Event.isClaimOf]

theorem Step.queued_of_isClaimOf (step : Step s event s')
    (got : s.outbox.find id = some row) (took : event.isClaimOf id = true) :
    row.state = .queued := by
  cases step with
  | claimGeneric sel | claimTarget sel =>
    have met := sel.guard_of_find got (of_decide_eq_true took)
    exact queued_of_isDue (Bool.and_eq_true_iff.mp met).1
  | _ => simp [Event.isClaimOf] at took

/-- What one step owes a stored row: paid claims and no smaller count. -/
def Settles (claims : Nat) (row row' : OutboxDelivery) : Prop :=
  ClaimsPaid claims row' ∧ row.attemptCount ≤ row'.attemptCount

variable {claims : Nat}

theorem Settles.unchanged (paid : ClaimsPaid claims row) :
    Settles claims row row :=
  ⟨paid, Nat.le_refl _⟩

theorem Settles.of_settled {row' : OutboxDelivery} (paid : ClaimsPaid claims row)
    (done : row'.state = .expanded ∨ row'.state = .delivered ∨ row'.state = .failed)
    (eq : row'.attemptCount = row.attemptCount) : Settles claims row row' :=
  ⟨claimsPaid_of_settled paid done, Nat.le_of_eq eq.symm⟩

theorem settles_claim {ids : List String} (paid : ClaimsPaid claims row)
    (mem : id ∈ ids → row.state = .queued) (isId : row.id = id) :
    Settles ((if id ∈ ids then 1 else 0) + claims) row
      ((claimPendingOutboxDeliveries now ids).onRow row) := by
  by_cases took : id ∈ ids
  · have guard : (claimPendingOutboxDeliveries now ids).guard row = true := by
      simpa [claimPendingOutboxDeliveries, isId] using took
    rw [if_pos took, Update.onRow_of_guard guard]
    have queued := mem took
    simp only [ClaimsPaid, queued] at paid
    refine ⟨?_, Nat.le_refl _⟩
    simp only [ClaimsPaid, claimPendingOutboxDeliveries]
    omega
  · have guard : (claimPendingOutboxDeliveries now ids).guard row = false := by
      simpa [claimPendingOutboxDeliveries, isId] using took
    rw [if_neg took, Update.onRow_of_not_guard guard, Nat.zero_add]
    exact Settles.unchanged paid

theorem settles_fanOut (stmt : GenericStatement) (paid : ClaimsPaid claims row) :
    Settles claims row (stmt.onRow now row) := by
  cases stmt with
  | completeWithoutTargets deliveryIds =>
    rcases (markOutboxDeliveriesCompletedWithoutTargets now deliveryIds).onRow_cases row with
      ⟨_, changed⟩ | eq
    · rw [GenericStatement.onRow, changed]
      exact Settles.of_settled paid (Or.inr (Or.inl rfl)) rfl
    · rw [GenericStatement.onRow, eq]
      exact Settles.unchanged paid
  | insertTargets chunk => exact Settles.unchanged paid
  | markExpanded deliveries =>
    rcases (markOutboxDeliveriesExpanded
      (deliveries.map OutboxDeliveryRow.id)).onRow_cases row with ⟨_, changed⟩ | eq
    · rw [GenericStatement.onRow, changed]
      exact Settles.of_settled paid (Or.inl rfl) rfl
    · rw [GenericStatement.onRow, eq]
      exact Settles.unchanged paid

theorem settles_requeueStale (paid : ClaimsPaid claims row) :
    Settles claims row ((requeueStaleInFlightOutboxDeliveries now).onRow row) := by
  rcases (requeueStaleInFlightOutboxDeliveries now).onRow_cases row with ⟨met, changed⟩ | eq
  · have inFlight : row.state = .inFlight := by
      simp only [requeueStaleInFlightOutboxDeliveries, Bool.and_eq_true, beq_iff_eq] at met
      exact met.1
    obtain ⟨bounded, below⟩ := claimsPaid_of_inFlight paid inFlight
    rw [changed]
    refine ⟨?_, Nat.le_succ _⟩
    simp only [ClaimsPaid, requeueStaleInFlightOutboxDeliveries]
    by_cases last : deliveryMaxAttempts ≤ row.attemptCount + 1
    · simp only [if_pos last]
      omega
    · simp only [if_neg last]
      omega
  · rw [eq]
    exact Settles.unchanged paid

theorem settles_reschedule {delivery : OutboxDeliveryRow} (paid : ClaimsPaid claims row)
    (retried : isDeliveryTerminal (nextDeliveryAttemptCount delivery.attemptCount) = false)
    (cur : row.id = delivery.id → row.state = .inFlight →
      row.attemptCount ≤ delivery.attemptCount) :
    Settles claims row ((rescheduleOutboxDelivery now delivery.id
      (nextDeliveryAttemptCount delivery.attemptCount)).onRow row) := by
  obtain ⟨nextIs, below⟩ := nextAttempts_of_not_terminal retried
  rw [nextIs]
  rcases (rescheduleOutboxDelivery now delivery.id
    (delivery.attemptCount + 1)).onRow_cases row with ⟨met, changed⟩ | eq
  · simp only [rescheduleOutboxDelivery, Bool.and_eq_true, beq_iff_eq] at met
    have bounded := (claimsPaid_of_inFlight paid met.2).1
    have newer := cur met.1 met.2
    rw [changed]
    simp only [Settles, ClaimsPaid, rescheduleOutboxDelivery]
    omega
  · rw [eq]
    exact Settles.unchanged paid

theorem settles_terminalFailure {delivery : OutboxDeliveryRow}
    (paid : ClaimsPaid claims row)
    (cur : row.id = delivery.id → row.state = .inFlight →
      row.attemptCount ≤ nextDeliveryAttemptCount delivery.attemptCount) :
    Settles claims row ((markOutboxDeliveryTerminalFailure now delivery.id
      (nextDeliveryAttemptCount delivery.attemptCount)).onRow row) := by
  rcases (markOutboxDeliveryTerminalFailure now delivery.id
    (nextDeliveryAttemptCount delivery.attemptCount)).onRow_cases row with ⟨met, changed⟩ | eq
  · simp only [markOutboxDeliveryTerminalFailure, Bool.and_eq_true, beq_iff_eq] at met
    rw [changed]
    exact ⟨claimsPaid_of_settled paid (Or.inr (Or.inr rfl)), cur met.1 met.2⟩
  · rw [eq]
    exact Settles.unchanged paid

/-- **One step settles every stored row**, if its marks keep the count. -/
theorem Step.settles (step : Step s event s') (keeps : MarksKeepCount s event)
    (got : s.outbox.find id = some row) (paid : ClaimsPaid (s.claims id) row) :
    Settles (s'.claims id) row (event.onRow s.now row) := by
  have isId : row.id = id := Table.key_of_find got
  have queued := fun took => step.queued_of_isClaimOf got took
  rw [step.claims_eq]
  cases step with
  | claimGeneric sel | claimTarget sel =>
    simp only [Event.isClaimOf, decide_eq_true_eq] at queued ⊢
    exact settles_claim s.now paid queued isId
  | fanOut =>
    have done := settles_fanOut s.now ‹GenericStatement› paid
    simpa [Event.isClaimOf, Event.onRow] using done
  | requeueStale =>
    simpa [Event.isClaimOf, Event.onRow] using settles_requeueStale s.now paid
  | reschedule held retried =>
    have done := settles_reschedule s.now paid retried (fun eq => keeps row (eq ▸ isId ▸ got))
    simpa [Event.isClaimOf, Event.onRow] using done
  | @markTerminalFailure delivery _ _ held =>
    have done := settles_terminalFailure s.now paid (fun eq => keeps row (eq ▸ isId ▸ got))
    simpa [Event.isClaimOf, Event.onRow] using done
  | @markDelivered delivery _ _ held =>
    have done : Settles (s.claims id) row
        ((markOutboxDeliveryDelivered s.now delivery.id).onRow row) := by
      rcases (markOutboxDeliveryDelivered s.now delivery.id).onRow_cases row with
        ⟨_, changed⟩ | eq
      · rw [changed]
        exact Settles.of_settled paid (Or.inr (Or.inl rfl)) rfl
      · rw [eq]
        exact Settles.unchanged paid
    simpa [Event.isClaimOf, Event.onRow] using done
  | cancelForInbox accountId targetInbox =>
    have done : Settles (s.claims id) row
        ((cancelPendingOutboxDeliveriesForInbox accountId targetInbox).onRow row) := by
      rcases (cancelPendingOutboxDeliveriesForInbox accountId targetInbox).onRow_cases row with
        ⟨_, changed⟩ | eq
      · rw [changed]
        exact Settles.of_settled paid (Or.inr (Or.inr rfl)) rfl
      · rw [eq]
        exact Settles.unchanged paid
    simpa [Event.isClaimOf, Event.onRow] using done
  | tick | enqueueGeneric | enqueueTargeted | resolveTargets =>
    simpa [Event.isClaimOf, Event.onRow] using Settles.unchanged paid

theorem Step.not_isClaimOf_of_none (step : Step s event s')
    (gone : s.outbox.find id = none) : event.isClaimOf id = false := by
  rw [Bool.eq_false_iff]
  intro took
  cases step with
  | claimGeneric sel | claimTarget sel =>
    obtain ⟨row, chosen, sameId⟩ := List.mem_map.mp (of_decide_eq_true took)
    have held := List.mem_of_mem_filter (sel.subset row chosen)
    exact Table.find_eq_none.mp gone row held sameId
  | _ => simp [Event.isClaimOf] at took

end OneRow

/-- **The claim invariant is preserved** by every step whose marks keep the count. -/
theorem ClaimInvariant.step {s s' : State} {event : Event} (inv : ClaimInvariant s)
    (keeps : MarksKeepCount s event) (step : Step s event s') : ClaimInvariant s' where
  paid := by
    intro id row got
    cases pre : s.outbox.find id with
    | some prior =>
      have paid := inv.paid id prior pre
      rw [step.find_some pre, Option.some.injEq] at got
      exact got ▸ (step.settles keeps pre paid).1
    | none =>
      obtain ⟨queued, uncounted⟩ := step.find_none pre got
      have unclaimed := inv.unclaimed id pre
      rw [step.claims_eq, step.not_isClaimOf_of_none pre, unclaimed]
      simp [ClaimsPaid, queued, uncounted, deliveryMaxAttempts]
  unclaimed := by
    intro id gone
    cases pre : s.outbox.find id with
    | some prior =>
      rw [step.find_some pre] at gone
      cases gone
    | none =>
      rw [step.claims_eq, step.not_isClaimOf_of_none pre, inv.unclaimed id pre]
      rfl

theorem ClaimInvariant.attemptCountsKept {s s' : State} {event : Event}
    (inv : ClaimInvariant s) (keeps : MarksKeepCount s event) (step : Step s event s') :
    AttemptCountsKept s event s' := by
  intro id row got
  have done := step.settles keeps got (inv.paid id row got)
  exact ⟨event.onRow s.now row, step.find_some got, done.2⟩

/-- Rows are claimed at most `DELIVERY_MAX_ATTEMPTS` times. -/
theorem ClaimInvariant.claims_le {s : State} (inv : ClaimInvariant s) (id : String) :
    s.claims id ≤ deliveryMaxAttempts := by
  cases got : s.outbox.find id with
  | some row => exact (inv.paid id row got).le_max
  | none =>
    rw [inv.unclaimed id got]
    exact Nat.zero_le _

/-- **Attempt counts never decrease and claims are bounded**, along every run whose
marks keep the stored counts. -/
theorem attemptCounts_and_claims_of_marks_keep_count
    {trace : List (Transition State Event)} {s : State} (run : OutboxRun trace s)
    (keeps : Along MarksKeepCount trace) :
    Throughout AttemptCountsKept trace ∧ ∀ id, s.claims id ≤ deliveryMaxAttempts := by
  refine ⟨?_, ?_⟩
  · exact run.forall_transitions ClaimInvariant.initial
      (fun inv kept step => inv.step kept step)
      (fun inv kept step => inv.attemptCountsKept kept step) keeps
  · have inv : ClaimInvariant s := run.invariant ClaimInvariant.initial
      (fun holds kept step => holds.step kept step) keeps
    exact inv.claims_le

/-! ## A late reschedule -/

/-- A delivery of one status to one inbox. -/
def leasedRow (state : OutboxState) (attemptCount : Nat) (lastAttemptAt : Option Nat)
    (nextAttemptAt : Nat) : OutboxDelivery where
  id := "d"
  accountId := "alice"
  statusId := some "1"
  activityId := "https://local.example/users/alice/statuses/1/activity"
  activityType := "Create"
  targetInbox := some "https://remote.example/inbox"
  payloadJson := "{}"
  state := state
  attemptCount := attemptCount
  lastAttemptAt := lastAttemptAt
  nextAttemptAt := some nextAttemptAt
  createdAt := 0

def leasedCopy (attemptCount : Nat) : OutboxDeliveryRow :=
  (leasedRow .inFlight attemptCount none 0).returning

def leasedState (now : Nat) (row : OutboxDelivery) (sending : List OutboxDeliveryRow)
    (claims : Nat) : State where
  now := now
  outbox := Table.singleton row
  claimedGeneric := []
  fanOuts := []
  sending := sending
  claimLog := List.replicate claims "d"

/-- Two leases expire one after the other, and a third worker has the row. -/
def thirdLease : State :=
  leasedState 1800 (leasedRow .inFlight 2 (some 1800) 1800)
    [leasedCopy 2, leasedCopy 1, leasedCopy 0] 3

/-- The first worker records its failure after the third lease began. -/
def lateReschedule : State :=
  leasedState 1800 (leasedRow .queued 1 (some 1800) 1860) [leasedCopy 2, leasedCopy 1] 3

theorem thirdLease_reachable :
    ∃ trace, OutboxRun trace thirdLease ∧ Along MarksKeepCount trace := by
  have queued : Step State.initial
      (.enqueueTargeted "alice" (some "1")
        "https://local.example/users/alice/statuses/1/activity" "Create" "{}"
        ["https://remote.example/inbox"] ["d"])
      (leasedState 0 (leasedRow .queued 0 none 0) [] 0) :=
    Step.enqueueTargeted _ ⟨rfl, by decide, by decide⟩
  have firstClaim : Step (leasedState 0 (leasedRow .queued 0 none 0) [] 0)
      (.claimTarget [leasedRow .queued 0 none 0])
      (leasedState 0 (leasedRow .inFlight 0 (some 0) 0) [leasedCopy 0] 1) :=
    Step.claimTarget _ (Selection.singleton (by decide))
  have firstStale : Step (leasedState 900 (leasedRow .inFlight 0 (some 0) 0) [leasedCopy 0] 1)
      .requeueStale (leasedState 900 (leasedRow .queued 1 (some 0) 900) [leasedCopy 0] 1) :=
    Step.requeueStale _
  have secondClaim : Step (leasedState 900 (leasedRow .queued 1 (some 0) 900) [leasedCopy 0] 1)
      (.claimTarget [leasedRow .queued 1 (some 0) 900])
      (leasedState 900 (leasedRow .inFlight 1 (some 900) 900) [leasedCopy 1, leasedCopy 0] 2) :=
    Step.claimTarget _ (Selection.singleton (by decide))
  have secondStale : Step
      (leasedState 1800 (leasedRow .inFlight 1 (some 900) 900) [leasedCopy 1, leasedCopy 0] 2)
      .requeueStale
      (leasedState 1800 (leasedRow .queued 2 (some 900) 1800) [leasedCopy 1, leasedCopy 0] 2) :=
    Step.requeueStale _
  have thirdClaim : Step
      (leasedState 1800 (leasedRow .queued 2 (some 900) 1800) [leasedCopy 1, leasedCopy 0] 2)
      (.claimTarget [leasedRow .queued 2 (some 900) 1800]) thirdLease :=
    Step.claimTarget _ (Selection.singleton (by decide))
  refine ⟨_, (((((((Run.start.snoc queued).snoc firstClaim).snoc (Step.tick _ 900)).snoc
    firstStale).snoc secondClaim).snoc (Step.tick _ 900)).snoc secondStale).snoc thirdClaim, ?_⟩
  simp [Along, MarksKeepCount]

theorem lateReschedule_step : Step thirdLease (.reschedule (leasedCopy 0)) lateReschedule := by
  have held : thirdLease.sending = [leasedCopy 2, leasedCopy 1] ++ leasedCopy 0 :: [] := rfl
  exact Step.reschedule _ held (by decide)

/-- **A late reschedule lowers the count**, so the bound fails over all runs. -/
theorem stale_reschedule_lowers_attemptCount :
    ¬ ∀ (trace : List (Transition State Event)) (s : State), OutboxRun trace s →
      Throughout AttemptCountsKept trace ∧ ∀ id, s.claims id ≤ deliveryMaxAttempts := by
  intro took
  obtain ⟨trace, run, _⟩ := thirdLease_reachable
  obtain ⟨kept, _⟩ := took _ _ (run.snoc lateReschedule_step)
  obtain ⟨row, got, notBelow⟩ := (Throughout.snoc_iff.mp kept).2 "d"
    (leasedRow .inFlight 2 (some 1800) 1800) (by decide)
  have lowered : lateReschedule.outbox.find "d"
      = some (leasedRow .queued 1 (some 1800) 1860) := by decide
  rw [lowered, Option.some.injEq] at got
  subst got
  exact absurd notBelow (by decide)

/-- The third worker records its own failure instead. -/
def currentReschedule : State :=
  leasedState 1800 (leasedRow .queued 3 (some 1800) 2700) [leasedCopy 1, leasedCopy 0] 3

/-- The run in which the third worker reschedules keeps every count. -/
theorem attemptCounts_and_claims_of_currentReschedule :
    ∃ trace, OutboxRun trace currentReschedule ∧ Throughout AttemptCountsKept trace
      ∧ ∀ id, currentReschedule.claims id ≤ deliveryMaxAttempts := by
  obtain ⟨trace, run, keeps⟩ := thirdLease_reachable
  have held : thirdLease.sending = [] ++ leasedCopy 2 :: [leasedCopy 1, leasedCopy 0] := rfl
  have step : Step thirdLease (.reschedule (leasedCopy 2)) currentReschedule :=
    Step.reschedule _ held (by decide)
  have cur : MarksKeepCount thirdLease (.reschedule (leasedCopy 2)) := by
    intro row got _
    have stored : thirdLease.outbox.find "d" = some (leasedRow .inFlight 2 (some 1800) 1800) := by
      decide
    have eq := stored.symm.trans got
    rw [Option.some.injEq] at eq
    exact eq ▸ Nat.le_refl _
  exact ⟨_, run.snoc step, attemptCounts_and_claims_of_marks_keep_count (run.snoc step)
    (Along.snoc_iff.mpr ⟨keeps, cur⟩)⟩

end Cfwdon.Delivery
