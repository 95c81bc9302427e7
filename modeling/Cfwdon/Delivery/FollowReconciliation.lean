import Cfwdon.Delivery.OutboundActivities

/-!
# Follows of terminally failed activities

A follow should fail only with its `Follow` activity.  The mark of a terminal
failure is guarded by `in_flight` and reports whether it changed the row, but the
worker runs the follow update whatever the mark reports.  A late worker therefore
fails the follow of an activity that another worker has delivered.
-/

namespace Cfwdon.Delivery

open Library

def ActivityFailed (activities : OutboundActivities) (activityId : String) : Prop :=
  (∃ row ∈ activities.rows, row.activityId = activityId)
    ∧ ∀ row ∈ activities.rows, row.activityId = activityId → row.state = .failed

/-- A follow that fails in the step has its activity failed after it. -/
def FollowFailuresBacked (before : OutboundState) (_ : OutboundEvent) (after : OutboundState) : Prop :=
  ∀ key follow follow', before.follows.find key = some follow →
    after.follows.find key = some follow' → follow.state ≠ .failed → follow'.state = .failed →
      ∃ activityId, follow'.followActivityId = some activityId
        ∧ ActivityFailed after.activities activityId

def OutboundActivityRow.FailsFollow (delivery : OutboundActivityRow) : Prop :=
  delivery.activityType = "Follow" ∧ delivery.targetActorUri.isSome = true

/-- Terminal marks of a `Follow` find the row in flight or failed already, and no
enqueue requeues an activity between its mark and its follow update. -/
def TerminalMarksLand (s : OutboundState) : OutboundEvent → Prop
  | .markTerminalFailure delivery =>
    delivery.FailsFollow → ∀ row, s.activities.find delivery.id = some row →
      row.state = .inFlight ∨ row.state = .failed
  | .enqueue _ _ activityId _ _ _ _ =>
    ∀ delivery ∈ s.reconciling, delivery.FailsFollow → delivery.activityId ≠ activityId
  | _ => True

/-! ## What a step makes of an outbound row -/

variable {update : Update OutboundActivity OutboundActivity.id} {now : Nat}

section OneStep

variable {s s' : OutboundState} {event : OutboundEvent} {id : String} {row : OutboundActivity}

def OutboundEvent.onRow (now : Nat) : OutboundEvent → OutboundActivity → OutboundActivity
  | .enqueue _ _ activityId activityType targetActorUri targetInbox payloadJson, row =>
    (requeueOutboundActivity now activityId activityType targetActorUri targetInbox
      payloadJson).onRow row
  | .claim chosen, row =>
    (claimPendingOutboundActivities now (chosen.map OutboundActivity.id)).onRow row
  | .markDelivered delivery, row => (markOutboundActivityDelivered now delivery.id).onRow row
  | .reschedule delivery, row =>
    (rescheduleOutboundActivity now delivery.id
      (nextDeliveryAttemptCount delivery.attemptCount)).onRow row
  | .markTerminalFailure delivery, row =>
    (markOutboundActivityTerminalFailure now delivery.id
      (nextDeliveryAttemptCount delivery.attemptCount)).onRow row
  | .requeueStale, row => (requeueStaleInFlightOutboundActivities now).onRow row
  | .tick _, row => row
  | .upsertFollow .., row => row
  | .deleteFollow .., row => row
  | .followResponse .., row => row
  | .reconcileFollow _, row => row

theorem requeue_onRow_of_ne {actId activityType : String}
    {targetUri : Option String} {targetInbox payload : String}
    (other : row.activityId ≠ actId) :
    (requeueOutboundActivity now actId activityType targetUri targetInbox
      payload).onRow row = row := by
  refine Update.onRow_of_not_guard ?_
  simpa [requeueOutboundActivity] using other

/-- **A stored row stays stored**, changed as its event says. -/
theorem OutboundStep.find_some (step : OutboundStep s event s')
    (got : s.activities.find id = some row) :
    s'.activities.find id = some (event.onRow s.now row) := by
  cases step with
  | enqueue newId accountId activityId =>
    simp only [OutboundEvent.onRow, enqueueOutboundActivity]
    split_ifs with here
    · simp only [Table.find_run, got, Option.map_some]
    · have other : row.activityId ≠ activityId := by
        intro eq
        exact here (List.any_eq_true.mpr ⟨row, Table.mem_of_find got, by simpa using eq⟩)
      rw [requeue_onRow_of_ne other, Table.find_insert, got, Option.some_or]
  | tick | upsertFollow | deleteFollow | followResponse | reconcileFollow => exact got
  | claim | markDelivered | reschedule | markTerminalFailure | requeueStale =>
    simp only [OutboundEvent.onRow, Table.find_run, got, Option.map_some]

theorem OutboundEvent.activityId_onRow (event : OutboundEvent) (now : Nat)
    (row : OutboundActivity) : (event.onRow now row).activityId = row.activityId := by
  have kept : ∀ update : Update OutboundActivity OutboundActivity.id,
      (update.set row).activityId = row.activityId →
        (update.onRow row).activityId = row.activityId := by
    intro update setKeeps
    rcases update.onRow_cases row with ⟨_, changed⟩ | eq
    · rw [changed, setKeeps]
    · rw [eq]
  cases event with
  | enqueue | claim chosen | markDelivered delivery | reschedule delivery
  | markTerminalFailure delivery | requeueStale => exact kept _ rfl
  | tick seconds | upsertFollow | deleteFollow | followResponse | reconcileFollow delivery => rfl

def OutboundEvent.enqueues (activityId : String) : OutboundEvent → Bool
  | .enqueue _ _ enqueued _ _ _ _ => enqueued == activityId
  | _ => false

theorem onRow_of_failed
    (guarded : update.guard row = true → row.state = .inFlight) (failed : row.state = .failed) :
    update.onRow row = row := by
  rcases update.onRow_cases row with ⟨met, _⟩ | eq
  · have inFlight := guarded met
    rw [failed] at inFlight
    cases inFlight
  · exact eq

theorem inFlight_of_guard {cond : Bool} (met : (cond && row.state == .inFlight) = true) :
    row.state = .inFlight := by
  rw [Bool.and_eq_true, beq_iff_eq] at met
  exact met.2

/-- **A failed row stays failed** unless its activity is enqueued again. -/
theorem OutboundStep.onRow_of_failed (step : OutboundStep s event s')
    (got : s.activities.find id = some row) (failed : row.state = .failed)
    (notEnqueued : event.enqueues row.activityId = false) : event.onRow s.now row = row := by
  have isId : row.id = id := Table.key_of_find got
  cases step with
  | enqueue newId accountId activityId =>
    have other : row.activityId ≠ activityId := by
      intro eq
      simp [OutboundEvent.enqueues, eq] at notEnqueued
    exact requeue_onRow_of_ne other
  | @claim chosen sel =>
    have unmet : (claimPendingOutboundActivities s.now
        (chosen.map OutboundActivity.id)).guard row = false := by
      rw [Bool.eq_false_iff]
      intro met
      have mem : row.id ∈ chosen.map OutboundActivity.id := by
        simpa [claimPendingOutboundActivities] using met
      have pending := sel.guard_of_find got (isId ▸ mem)
      simp only [pendingOutbound, Bool.and_eq_true, beq_iff_eq] at pending
      have queued := pending.1
      rw [failed] at queued
      cases queued
    exact Update.onRow_of_not_guard unmet
  | markDelivered | reschedule | markTerminalFailure =>
    exact Delivery.onRow_of_failed inFlight_of_guard failed
  | requeueStale =>
    refine Delivery.onRow_of_failed (fun met => ?_) failed
    simp only [requeueStaleInFlightOutboundActivities, Bool.and_eq_true, beq_iff_eq] at met
    exact met.1
  | tick | upsertFollow | deleteFollow | followResponse | reconcileFollow => rfl

end OneStep

/-! ## The invariant -/

/-- No two rows are of one activity. -/
def ActivityIdsUnique (activities : OutboundActivities) : Prop :=
  ∀ row ∈ activities.rows, ∀ row' ∈ activities.rows, row.activityId = row'.activityId → row = row'

variable {activities : OutboundActivities}

theorem ActivityIdsUnique.run
    (unique : ActivityIdsUnique activities)
    (kept : ∀ row, (update.set row).activityId = row.activityId) :
    ActivityIdsUnique (update.run activities) := by
  have sameAct : ∀ row, (update.onRow row).activityId = row.activityId := by
    intro row
    rcases update.onRow_cases row with ⟨_, changed⟩ | eq
    · rw [changed, kept]
    · rw [eq]
  intro row mem row' mem' eq
  obtain ⟨prior, held, rfl⟩ := List.mem_map.mp mem
  obtain ⟨earlier', held', rfl⟩ := List.mem_map.mp mem'
  rw [sameAct, sameAct] at eq
  rw [unique prior held earlier' held' eq]

theorem ActivityIdsUnique.insert {row : OutboundActivity} (unique : ActivityIdsUnique activities)
    (absent : ∀ held ∈ activities.rows, held.activityId ≠ row.activityId) :
    ActivityIdsUnique (activities.insert row) := by
  obtain ⟨eq, _⟩ | ⟨fresh, added, _⟩ :=
    Table.orIgnore_cases (fun _ _ => false) row activities
  · rw [Table.insert, eq]
    exact unique
  · rw [Table.insert, added]
    intro first mem second mem' sameAct
    rcases List.mem_append.mp mem with old | isNew <;>
      rcases List.mem_append.mp mem' with old' | isNew'
    · exact unique first old second old' sameAct
    · rw [List.mem_singleton] at isNew'
      exact absurd (sameAct.trans (congrArg _ isNew')) (absent first old)
    · rw [List.mem_singleton] at isNew
      exact absurd (sameAct.symm.trans (congrArg _ isNew)) (absent second old')
    · rw [List.mem_singleton] at isNew isNew'
      rw [isNew, isNew']

theorem ActivityIdsUnique.step {s s' : OutboundState} {event : OutboundEvent}
    (unique : ActivityIdsUnique s.activities) (step : OutboundStep s event s') :
    ActivityIdsUnique s'.activities := by
  cases step with
  | enqueue id accountId actId =>
    simp only [enqueueOutboundActivity]
    split_ifs with here
    · exact unique.run fun _ => rfl
    · refine unique.insert fun held mem eq => here ?_
      exact List.any_eq_true.mpr ⟨held, mem, by simpa using eq⟩
  | tick | upsertFollow | deleteFollow | followResponse | reconcileFollow => exact unique
  | claim | markDelivered | reschedule | markTerminalFailure | requeueStale =>
    exact unique.run fun _ => rfl

def StoredCopy (activities : OutboundActivities) (delivery : OutboundActivityRow) : Prop :=
  ∃ row, activities.find delivery.id = some row ∧ row.activityId = delivery.activityId

def FailedCopy (activities : OutboundActivities) (delivery : OutboundActivityRow) : Prop :=
  ∃ row, activities.find delivery.id = some row ∧ row.activityId = delivery.activityId
    ∧ row.state = .failed

/-- Copies are of stored rows, and of failed ones once they are reconciled. -/
structure ReconcileInvariant (s : OutboundState) : Prop where
  unique : ActivityIdsUnique s.activities
  sending : ∀ delivery ∈ s.sending, StoredCopy s.activities delivery
  reconciling : ∀ delivery ∈ s.reconciling, delivery.FailsFollow → FailedCopy s.activities delivery

theorem ReconcileInvariant.initial : ReconcileInvariant OutboundState.initial where
  unique := fun _ mem => by simp [OutboundState.initial, Table.empty] at mem
  sending := fun _ mem => by simp [OutboundState.initial] at mem
  reconciling := fun _ mem => by simp [OutboundState.initial] at mem

section Preservation

variable {s s' : OutboundState} {event : OutboundEvent} {delivery : OutboundActivityRow}

theorem StoredCopy.step (copy : StoredCopy s.activities delivery)
    (step : OutboundStep s event s') : StoredCopy s'.activities delivery := by
  obtain ⟨row, got, sameAct⟩ := copy
  exact ⟨_, step.find_some got, (event.activityId_onRow s.now row).trans sameAct⟩

theorem FailedCopy.step (copy : FailedCopy s.activities delivery)
    (step : OutboundStep s event s') (notEnqueued : event.enqueues delivery.activityId = false) :
    FailedCopy s'.activities delivery := by
  obtain ⟨row, got, sameAct, failed⟩ := copy
  have kept := step.onRow_of_failed got failed (sameAct ▸ notEnqueued)
  exact ⟨row, (step.find_some got).trans (congrArg some kept), sameAct, failed⟩

theorem not_enqueues_of_condition (cond : TerminalMarksLand s event)
    (mem : delivery ∈ s.reconciling) (failsFollow : delivery.FailsFollow) :
    event.enqueues delivery.activityId = false := by
  cases event with
  | enqueue id accountId actId =>
    have other := cond delivery mem failsFollow
    simpa [OutboundEvent.enqueues] using fun eq => other eq.symm
  | _ => rfl

theorem failedCopy_of_mark {later : OutboundState}
    (step : OutboundStep s (.markTerminalFailure delivery) later)
    (cond : TerminalMarksLand s (.markTerminalFailure delivery))
    (copy : StoredCopy s.activities delivery) (failsFollow : delivery.FailsFollow) :
    FailedCopy later.activities delivery := by
  obtain ⟨row, got, sameAct⟩ := copy
  have isId : row.id = delivery.id := Table.key_of_find got
  refine ⟨_, step.find_some got, (OutboundEvent.activityId_onRow _ s.now row).trans sameAct, ?_⟩
  rcases cond failsFollow row got with inFlight | failed
  · have met : (markOutboundActivityTerminalFailure s.now delivery.id
        (nextDeliveryAttemptCount delivery.attemptCount)).guard row = true := by
      simp [markOutboundActivityTerminalFailure, isId, inFlight]
    rw [OutboundEvent.onRow, Update.onRow_of_guard met]
    rfl
  · rw [step.onRow_of_failed got failed rfl]
    exact failed

theorem failedCopy_of_requeue
    (mem : delivery ∈ requeueTerminalFailures s.now s.activities) :
    FailedCopy ((requeueStaleInFlightOutboundActivities s.now).run s.activities) delivery := by
  simp only [requeueTerminalFailures, List.mem_map, List.mem_filter] at mem
  obtain ⟨given, ⟨⟨row, selected, rfl⟩, failed⟩, rfl⟩ := mem
  obtain ⟨held, met⟩ := List.mem_filter.mp selected
  refine ⟨(requeueStaleInFlightOutboundActivities s.now).set row, ?_, rfl, by simpa using failed⟩
  have got := Table.find_of_mem held
  have sameId : ((requeueStaleInFlightOutboundActivities s.now).set row).returning.id = row.id :=
    rfl
  rw [sameId, Table.find_run, got, Option.map_some, Update.onRow_of_guard met]

theorem OutboundStep.sending_origin (step : OutboundStep s event s')
    (mem : delivery ∈ s'.sending) :
    delivery ∈ s.sending ∨ StoredCopy s.activities delivery := by
  cases step with
  | @claim chosen sel =>
    rcases List.mem_append.mp mem with isCopy | old
    · obtain ⟨row, chosenRow, rfl⟩ := List.mem_map.mp isCopy
      have stored := List.mem_of_mem_filter (sel.subset row chosenRow)
      exact Or.inr ⟨row, Table.find_of_mem stored, rfl⟩
    · exact Or.inl old
  | markDelivered held | reschedule held | markTerminalFailure held =>
    exact Or.inl (held ▸ mem_of_mem_taken_out mem)
  | _ => exact Or.inl mem

theorem OutboundStep.reconciling_origin (step : OutboundStep s event s')
    (mem : delivery ∈ s'.reconciling) :
    delivery ∈ s.reconciling
      ∨ (event = .markTerminalFailure delivery ∧ delivery ∈ s.sending)
      ∨ FailedCopy s'.activities delivery := by
  cases step with
  | markTerminalFailure held =>
    rcases List.mem_cons.mp mem with rfl | old
    · refine Or.inr (Or.inl ⟨rfl, ?_⟩)
      rw [held]
      exact List.mem_append_right _ (List.mem_cons_self ..)
    · exact Or.inl old
  | reconcileFollow marked => exact Or.inl (marked ▸ mem_of_mem_taken_out mem)
  | requeueStale =>
    rcases List.mem_append.mp mem with given | old
    · exact Or.inr (Or.inr (failedCopy_of_requeue given))
    · exact Or.inl old
  | _ => exact Or.inl mem

end Preservation

/-- **The invariant is preserved** by every step that meets the condition. -/
theorem ReconcileInvariant.step {s s' : OutboundState} {event : OutboundEvent}
    (inv : ReconcileInvariant s) (cond : TerminalMarksLand s event)
    (step : OutboundStep s event s') : ReconcileInvariant s' where
  unique := inv.unique.step step
  sending := by
    intro delivery mem
    rcases step.sending_origin mem with old | copy
    · exact (inv.sending delivery old).step step
    · exact copy.step step
  reconciling := by
    intro delivery mem failsFollow
    rcases step.reconciling_origin mem with old | ⟨rfl, held⟩ | failed
    · exact (inv.reconciling delivery old failsFollow).step step
        (not_enqueues_of_condition cond old failsFollow)
    · exact failedCopy_of_mark step cond (inv.sending delivery held) failsFollow
    · exact failed

/-! ## Follow updates -/

variable {delivery : OutboundActivityRow} {key : String × String} {follow : Follow}

theorem activityFailed_of_failedCopy
    (unique : ActivityIdsUnique activities) (copy : FailedCopy activities delivery) :
    ActivityFailed activities delivery.activityId := by
  obtain ⟨row, got, sameAct, failed⟩ := copy
  have held := Table.mem_of_find got
  refine ⟨⟨row, held, sameAct⟩, fun other mem eq => ?_⟩
  rw [unique other mem row held (eq.trans sameAct.symm)]
  exact failed

theorem asState_ne_failed (resp : FollowInboxResponse) : resp.asState ≠ .failed := by
  cases resp <;> decide

theorem initialRemoteFollowState_ne_failed (actorLocked : Bool) :
    initialRemoteFollowState actorLocked ≠ .failed := by
  cases actorLocked <;> decide

theorem find_upsertRemoteFollow {followerAccountId targetUri followId : String}
    {actorLocked : Bool} {follows : Follows}
    (got : (upsertRemoteFollow followerAccountId targetUri followId actorLocked
      follows).find key = some follow) :
    follows.find key = some follow ∨ follow.state = initialRemoteFollowState actorLocked := by
  rw [upsertRemoteFollow, Table.find_upsert] at got
  split_ifs at got with isKey
  · right
    rw [Option.some.injEq] at got
    subst got
    cases follows.find key with
    | none | some held => rfl
  · exact Or.inl got

/-- The guard of the follow update names the follow of a `Follow` delivery. -/
theorem failsFollow_of_guard
    (met : (reconcileFollowStateForTerminalOutbound delivery).guard follow = true) :
    delivery.FailsFollow ∧ follow.followActivityId = some delivery.activityId := by
  simp only [reconcileFollowStateForTerminalOutbound, Bool.and_eq_true, beq_iff_eq] at met
  obtain ⟨⟨⟨⟨hasState, isTarget⟩, _⟩, isActivity⟩, _⟩ := met
  refine ⟨⟨?_, by rw [isTarget]; rfl⟩, isActivity⟩
  by_contra other
  simp [outboundTerminalFailureFollowState, other] at hasState

/-- **Only the follow update of a `Follow` delivery makes a follow fail.** -/
theorem OutboundStep.follow_fails {s s' : OutboundState} {event : OutboundEvent}
    (step : OutboundStep s event s') {follow follow' : Follow}
    (pre : s.follows.find key = some follow) (post : s'.follows.find key = some follow')
    (notFailed : follow.state ≠ .failed) (failed : follow'.state = .failed) :
    ∃ delivery ∈ s.reconciling, event = .reconcileFollow delivery ∧ delivery.FailsFollow
      ∧ follow'.followActivityId = some delivery.activityId := by
  have same : s'.follows.find key ≠ s.follows.find key := by
    intro eq
    rw [post, pre, Option.some.injEq] at eq
    exact notFailed (eq ▸ failed)
  cases step with
  | upsertFollow followerAccountId targetUri followId actorLocked =>
    rcases find_upsertRemoteFollow post with eq | isInitial
    · exact absurd (post.trans eq.symm) same
    · exact absurd (isInitial.symm.trans failed) (initialRemoteFollowState_ne_failed actorLocked)
  | deleteFollow followerAccountId targetUri =>
    exfalso
    simp only [deleteFollowByTarget, Table.find_deleteWhere, pre] at post
    rw [Option.filter_some] at post
    split_ifs at post
    rw [Option.some.injEq] at post
    exact notFailed (post ▸ failed)
  | followResponse followId resp =>
    exfalso
    simp only [Table.find_run, pre, Option.map_some, Option.some.injEq] at post
    rcases (updateFollowStateFromResponse followId resp).onRow_cases follow with
      ⟨_, changed⟩ | eq
    · rw [changed] at post
      subst post
      exact asState_ne_failed resp failed
    · exact notFailed (eq ▸ post ▸ failed)
  | @reconcileFollow delivery prior later marked =>
    simp only [Table.find_run, pre, Option.map_some, Option.some.injEq] at post
    rcases (reconcileFollowStateForTerminalOutbound delivery).onRow_cases follow with
      ⟨met, changed⟩ | eq
    · obtain ⟨failsFollow, isActivity⟩ := failsFollow_of_guard met
      rw [changed] at post
      subst post
      refine ⟨delivery, ?_, rfl, failsFollow, isActivity⟩
      rw [marked]
      exact List.mem_append_right _ (List.mem_cons_self ..)
    · exact absurd (eq ▸ post ▸ failed) notFailed
  | _ => exact absurd rfl same

theorem ReconcileInvariant.followFailuresBacked {s s' : OutboundState} {event : OutboundEvent}
    (inv : ReconcileInvariant s) (cond : TerminalMarksLand s event)
    (step : OutboundStep s event s') : FollowFailuresBacked s event s' := by
  intro key follow follow' pre post notFailed failed
  obtain ⟨delivery, mem, rfl, failsFollow, isActivity⟩ :=
    step.follow_fails pre post notFailed failed
  have copy := inv.reconciling delivery mem failsFollow
  have unique := (inv.step cond step).unique
  exact ⟨delivery.activityId, isActivity, activityFailed_of_failedCopy unique (copy.step step rfl)⟩

/-- **Follows fail only with their activities**, along every run whose terminal
marks land. -/
theorem followFailures_backed_of_marks_land
    {trace : List (Transition OutboundState OutboundEvent)} {s : OutboundState}
    (run : OutboundRun trace s) (land : Along TerminalMarksLand trace) :
    Throughout FollowFailuresBacked trace :=
  run.forall_transitions ReconcileInvariant.initial
    (fun inv cond step => inv.step cond step)
    (fun inv cond step => inv.followFailuresBacked cond step) land

/-! ## A late terminal mark -/

/-- Alice's follow of the locked actor Bob, on its way. -/
def followRow (state : OutboxState) (attemptCount : Nat) (lastAttemptAt nextAttemptAt : Option Nat) :
    OutboundActivity where
  id := "d"
  accountId := "alice"
  activityId := "https://local.example/users/alice/follows/1"
  activityType := "Follow"
  targetActorUri := some "https://remote.example/users/bob"
  targetInbox := "https://remote.example/inbox"
  payloadJson := "{}"
  state := state
  attemptCount := attemptCount
  lastAttemptAt := lastAttemptAt
  nextAttemptAt := nextAttemptAt
  createdAt := 0

def followCopy (attemptCount : Nat) : OutboundActivityRow :=
  (followRow .inFlight attemptCount none none).returning

def aliceFollowsBob (state : RemoteFollowState) : Follow where
  followerAccountId := "alice"
  targetActorUri := "https://remote.example/users/bob"
  followActivityId := some "https://local.example/users/alice/follows/1"
  state := state

/-- Both rows, and the copies in workers' hands. -/
def followState (now : Nat) (row : OutboundActivity) (follow : RemoteFollowState)
    (sending reconciling : List OutboundActivityRow) : OutboundState where
  now := now
  activities := Table.singleton row
  follows := Table.singleton (aliceFollowsBob follow)
  sending := sending
  reconciling := reconciling

/-- One worker has claimed the activity. -/
def followClaimed : OutboundState :=
  followState 0 (followRow .inFlight 0 (some 0) (some 0)) .pending [followCopy 0] []

theorem followClaimed_reachable :
    ∃ trace, OutboundRun trace followClaimed ∧ Along TerminalMarksLand trace := by
  have queued : OutboundStep OutboundState.initial
      (.enqueue "d" "alice" "https://local.example/users/alice/follows/1" "Follow"
        (some "https://remote.example/users/bob") "https://remote.example/inbox" "{}")
      { OutboundState.initial with
        activities := Table.singleton (followRow .queued 0 none (some 0)) } :=
    OutboundStep.enqueue _ _ _ _ _ _ _ _
  have upserted : OutboundStep
      { OutboundState.initial with
        activities := Table.singleton (followRow .queued 0 none (some 0)) }
      (.upsertFollow "alice" "https://remote.example/users/bob"
        "https://local.example/users/alice/follows/1" true)
      (followState 0 (followRow .queued 0 none (some 0)) .pending [] []) :=
    OutboundStep.upsertFollow _ _ _ _ _
  have took : OutboundStep (followState 0 (followRow .queued 0 none (some 0)) .pending [] [])
      (.claim [followRow .queued 0 none (some 0)]) followClaimed :=
    OutboundStep.claim _ (Selection.singleton (by decide))
  refine ⟨_, ((Run.start.snoc queued).snoc upserted).snoc took, ?_⟩
  simp [Along, TerminalMarksLand, OutboundState.initial]

/-- Another worker has delivered the activity after the lease went stale, and the
first one has run its terminal mark. -/
def followMarkedLate : OutboundState :=
  followState 900 (followRow .delivered 1 (some 900) none) .pending [] [followCopy 0]

theorem followMarkedLate_reachable : ∃ trace, OutboundRun trace followMarkedLate := by
  obtain ⟨trace, run, _⟩ := followClaimed_reachable
  have stale : OutboundStep { followClaimed with now := 900 } .requeueStale
      (followState 900 (followRow .queued 1 (some 0) (some 900)) .pending [followCopy 0] []) :=
    OutboundStep.requeueStale _
  have took : OutboundStep
      (followState 900 (followRow .queued 1 (some 0) (some 900)) .pending [followCopy 0] [])
      (.claim [followRow .queued 1 (some 0) (some 900)])
      (followState 900 (followRow .inFlight 1 (some 900) (some 900)) .pending
        [followCopy 1, followCopy 0] []) :=
    OutboundStep.claim _ (Selection.singleton (by decide))
  have second : (followState 900 (followRow .inFlight 1 (some 900) (some 900)) .pending
      [followCopy 1, followCopy 0] []).sending = [] ++ followCopy 1 :: [followCopy 0] := rfl
  have delivered : OutboundStep
      (followState 900 (followRow .inFlight 1 (some 900) (some 900)) .pending
        [followCopy 1, followCopy 0] [])
      (.markDelivered (followCopy 1))
      (followState 900 (followRow .delivered 1 (some 900) none) .pending [followCopy 0] []) :=
    OutboundStep.markDelivered _ second
  have first : (followState 900 (followRow .delivered 1 (some 900) none) .pending
      [followCopy 0] []).sending = [] ++ followCopy 0 :: [] := rfl
  have marked : OutboundStep
      (followState 900 (followRow .delivered 1 (some 900) none) .pending [followCopy 0] [])
      (.markTerminalFailure (followCopy 0)) followMarkedLate :=
    OutboundStep.markTerminalFailure _ first
  exact ⟨_, ((((run.snoc (OutboundStep.tick _ 900)).snoc stale).snoc took).snoc
    delivered).snoc marked⟩

/-- **A late terminal mark fails the follow of a delivered activity.** -/
theorem late_terminal_mark_fails_delivered_follow :
    ¬ ∀ (trace : List (Transition OutboundState OutboundEvent)) (s : OutboundState),
      OutboundRun trace s → Throughout FollowFailuresBacked trace := by
  intro took
  obtain ⟨trace, run⟩ := followMarkedLate_reachable
  have waiting : followMarkedLate.reconciling = [] ++ followCopy 0 :: [] := rfl
  have reconciled : OutboundStep followMarkedLate (.reconcileFollow (followCopy 0))
      (followState 900 (followRow .delivered 1 (some 900) none) .failed [] []) :=
    OutboundStep.reconcileFollow _ waiting
  have backed := (Throughout.snoc_iff.mp (took _ _ (run.snoc reconciled))).2
  obtain ⟨actId, isActivity, _, allFailed⟩ := backed
    ("alice", "https://remote.example/users/bob") (aliceFollowsBob .pending)
    (aliceFollowsBob .failed) (by decide) (by decide) (by decide) rfl
  have failed := allFailed (followRow .delivered 1 (some 900) none)
    (List.mem_singleton_self _) (Option.some.inj isActivity)
  exact absurd failed (by decide)

/-- The run in which the only worker gives the activity up backs the failed follow. -/
theorem followFailures_backed_of_only_worker :
    ∃ trace, OutboundRun trace (followState 0 (followRow .failed 1 (some 0) none) .failed [] [])
      ∧ Throughout FollowFailuresBacked trace := by
  obtain ⟨trace, run, land⟩ := followClaimed_reachable
  have held : followClaimed.sending = [] ++ followCopy 0 :: [] := rfl
  have marked : OutboundStep followClaimed (.markTerminalFailure (followCopy 0))
      (followState 0 (followRow .failed 1 (some 0) none) .pending [] [followCopy 0]) :=
    OutboundStep.markTerminalFailure _ held
  have lands : TerminalMarksLand followClaimed (.markTerminalFailure (followCopy 0)) := by
    intro _ row got
    have stored : followClaimed.activities.find "d"
        = some (followRow .inFlight 0 (some 0) (some 0)) := by decide
    have eq := stored.symm.trans got
    rw [Option.some.injEq] at eq
    exact eq ▸ Or.inl rfl
  have waiting : (followState 0 (followRow .failed 1 (some 0) none) .pending []
      [followCopy 0]).reconciling = [] ++ followCopy 0 :: [] := rfl
  have reconciled : OutboundStep
      (followState 0 (followRow .failed 1 (some 0) none) .pending [] [followCopy 0])
      (.reconcileFollow (followCopy 0))
      (followState 0 (followRow .failed 1 (some 0) none) .failed [] []) :=
    OutboundStep.reconcileFollow _ waiting
  exact ⟨_, (run.snoc marked).snoc reconciled,
    followFailures_backed_of_marks_land ((run.snoc marked).snoc reconciled)
      (Along.snoc_iff.mpr ⟨Along.snoc_iff.mpr ⟨land, lands⟩, trivial⟩)⟩

end Cfwdon.Delivery
