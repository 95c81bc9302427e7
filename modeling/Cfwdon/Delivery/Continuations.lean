import Cfwdon.Delivery.QueueConsumer
import Cfwdon.Library.Weights
import Mathlib.Data.Prod.Lex

/-!
# The chain of continuation messages ends

A row that is queued or in flight weighs what its remaining attempts allow, a row that is
over weighs nothing.  The backlog counts the generic rows first and the remaining attempts
of the other rows second: expanding a generic row adds rows of the second kind, but takes
one of the first away.

A batch that asks for a continuation has claimed a row, which already lowers the backlog,
and nothing else in the batch raises it beyond that.
-/

namespace Cfwdon.Delivery

open Library

/-- What is left to do for a row: two for each remaining attempt, and one less once it is
in flight. -/
def deliveryWeight (state : OutboxState) (attemptCount : Nat) : Nat :=
  match state with
  | .queued => 2 * (deliveryMaxAttempts - attemptCount) + 2
  | .inFlight => 2 * (deliveryMaxAttempts - attemptCount) + 1
  | _ => 0

/-- The columns by which a copy in the consumer's hands is compared with its row. -/
structure CopyColumns (Row Copy : Type*) where
  state : Row → OutboxState
  attemptCount : Row → Nat
  copyId : Copy → String
  copyAttemptCount : Copy → Nat

def outboxColumns : CopyColumns OutboxDelivery OutboxDeliveryRow where
  state := OutboxDelivery.state
  attemptCount := OutboxDelivery.attemptCount
  copyId := OutboxDeliveryRow.id
  copyAttemptCount := OutboxDeliveryRow.attemptCount

def outboundColumns : CopyColumns OutboundActivity OutboundActivityRow where
  state := OutboundActivity.state
  attemptCount := OutboundActivity.attemptCount
  copyId := OutboundActivityRow.id
  copyAttemptCount := OutboundActivityRow.attemptCount

namespace CopyColumns

variable {Row Copy : Type*} {key : Row → String} (columns : CopyColumns Row Copy)

def weight (row : Row) : Nat :=
  deliveryWeight (columns.state row) (columns.attemptCount row)

/-- The statement raises no row's weight. -/
def Lowers (statement : Update Row key) (table : Table Row key) : Prop :=
  ∀ row ∈ table.rows, statement.guard row = true →
    columns.weight (statement.set row) ≤ columns.weight row

/-- A row still in flight has the attempts of its copies. -/
def Agree (table : Table Row key) (held : List Copy) : Prop :=
  ∀ copy ∈ held, ∀ row ∈ table.rows, key row = columns.copyId copy →
    columns.state row = .inFlight → columns.attemptCount row = columns.copyAttemptCount copy

/-- The statement settles the row of a copy: the row is over, or queued once more. -/
structure Settles (statement : Update Row key) (copy : Copy) : Prop where
  guarded : ∀ {row}, statement.guard row = true →
    key row = columns.copyId copy ∧ columns.state row = .inFlight
  settled : ∀ row, (columns.state (statement.set row)).isTerminal = true
    ∨ (columns.state (statement.set row) = .queued
      ∧ columns.attemptCount (statement.set row) = columns.copyAttemptCount copy + 1
      ∧ columns.copyAttemptCount copy + 1 < deliveryMaxAttempts)

variable {columns} {table : Table Row key} {held : List Copy} {statement : Update Row key}
  {copy : Copy}

theorem weight_of_terminal {row : Row} (ended : (columns.state row).isTerminal = true) :
    columns.weight row = 0 := by
  unfold weight
  cases state : columns.state row <;> simp_all [OutboxState.isTerminal, deliveryWeight]

/-- **Settling a copy** lowers the weight of its row. -/
theorem Settles.lowers (settles : columns.Settles statement copy)
    (agree : columns.Agree table held) (mem : copy ∈ held) :
    columns.Lowers statement table := by
  intro row stored met
  obtain ⟨ofCopy, inFlight⟩ := settles.guarded met
  have attempts := agree copy mem row stored ofCopy inFlight
  rcases settles.settled row with ended | ⟨queued, next, more⟩
  · rw [weight_of_terminal ended]
    exact Nat.zero_le _
  · simp only [weight, queued, next, inFlight, attempts, deliveryWeight]
    omega

theorem Agree.run (agree : columns.Agree table held)
    (ends : ∀ row, statement.guard row = true → columns.state (statement.set row) ≠ .inFlight) :
    columns.Agree (statement.run table) held := by
  intro copy mem row stored ofCopy inFlight
  obtain ⟨old, oldStored, rfl⟩ := List.mem_map.mp stored
  rw [statement.key_onRow] at ofCopy
  obtain ⟨met, changed⟩ | unchanged := statement.onRow_cases old
  · rw [changed] at inFlight
    exact absurd inFlight (ends old met)
  · rw [unchanged] at inFlight ⊢
    exact agree copy mem old oldStored ofCopy inFlight

theorem Agree.subset (agree : columns.Agree table held) {fewer : List Copy}
    (among : ∀ copy ∈ fewer, copy ∈ held) : columns.Agree table fewer :=
  fun copy mem => agree copy (among copy mem)

theorem Agree.nil : columns.Agree table [] := by
  intro copy mem
  cases mem

theorem Settles.agree (settles : columns.Settles statement copy)
    (agree : columns.Agree table held) : columns.Agree (statement.run table) held := by
  apply agree.run
  intro row _ inFlight
  rcases settles.settled row with ended | ⟨queued, _⟩
  · rw [inFlight] at ended
    cases ended
  · rw [inFlight] at queued
    cases queued

theorem agree_of_claim {returning : Row → Copy} {chosen : List Row}
    (stored : ∀ row ∈ chosen, row ∈ table.rows)
    (sameAttempts : ∀ row, columns.attemptCount (statement.set row) = columns.attemptCount row)
    (copyId : ∀ row, columns.copyId (returning row) = key row)
    (copyAttempts : ∀ row, columns.copyAttemptCount (returning row) = columns.attemptCount row) :
    columns.Agree (statement.run table) (chosen.map returning) := by
  intro copy mem row rowStored ofCopy _
  obtain ⟨source, inChosen, rfl⟩ := List.mem_map.mp mem
  obtain ⟨old, oldStored, rfl⟩ := List.mem_map.mp rowStored
  rw [statement.key_onRow, copyId] at ofCopy
  obtain rfl := Table.eq_of_key_eq oldStored (stored source inChosen) ofCopy
  rw [copyAttempts]
  obtain ⟨_, changed⟩ | unchanged := statement.onRow_cases old
  · rw [changed, sameAttempts]
  · rw [unchanged]

end CopyColumns

/-! ## The backlog -/

def unexpandedWeight (row : OutboxDelivery) : Nat :=
  if row.targetInbox.isNone then outboxColumns.weight row else 0

def targetWeight (row : OutboxDelivery) : Nat :=
  if row.targetInbox.isSome then outboxColumns.weight row else 0

/-- What is left of the generic rows. -/
def Consumer.unexpanded (s : Consumer) : Nat := s.outbox.weight unexpandedWeight

/-- What is left of the target rows and of the outbound activities. -/
def Consumer.remainingAttempts (s : Consumer) : Nat :=
  s.outbox.weight targetWeight + s.activities.weight outboundColumns.weight

/-- The backlog: the generic rows first. -/
def Consumer.backlog (s : Consumer) : ℕ ×ₗ ℕ := toLex (s.unexpanded, s.remainingAttempts)

variable {counted : Option String → Bool} {chosen : List OutboundActivity}

section Outbox

variable {statement : Update OutboxDelivery OutboxDelivery.id} {outbox : OutboxDeliveries}

/-- The statement leaves the target of every row. -/
def KeepsTargets (statement : Update OutboxDelivery OutboxDelivery.id) : Prop :=
  ∀ row, (statement.set row).targetInbox = row.targetInbox

theorem weight_set_le (keeps : KeepsTargets statement)
    (lowers : outboxColumns.Lowers statement outbox) :
    ∀ row ∈ outbox.rows, statement.guard row = true →
      (if counted (statement.set row).targetInbox then outboxColumns.weight (statement.set row)
        else 0)
        ≤ if counted row.targetInbox then outboxColumns.weight row else 0 := by
  intro row stored met
  rw [keeps row]
  split_ifs
  · exact lowers row stored met
  · exact Nat.le_refl _

theorem unexpanded_run_le (keeps : KeepsTargets statement)
    (lowers : outboxColumns.Lowers statement outbox) :
    (statement.run outbox).weight unexpandedWeight ≤ outbox.weight unexpandedWeight :=
  Table.weight_run_le (weight_set_le keeps lowers)

theorem target_run_le (keeps : KeepsTargets statement)
    (lowers : outboxColumns.Lowers statement outbox) :
    (statement.run outbox).weight targetWeight ≤ outbox.weight targetWeight :=
  Table.weight_run_le (weight_set_le keeps lowers)

end Outbox

/-! ## The statements of a batch -/

variable (delivery : OutboxDeliveryRow)

section Statements

variable {now : Nat} {outbox : OutboxDeliveries} {activities : OutboundActivities}

theorem lowers_of_terminal {Row Copy : Type*} {key : Row → String}
    {columns : CopyColumns Row Copy} {statement : Update Row key} {table : Table Row key}
    (ended : ∀ row, (columns.state (statement.set row)).isTerminal = true) :
    columns.Lowers statement table := by
  intro row _ _
  rw [CopyColumns.weight_of_terminal (ended row)]
  exact Nat.zero_le _

theorem requeuedWeight_le (attemptCount : Nat) :
    deliveryWeight (if deliveryMaxAttempts ≤ attemptCount + 1 then .failed else .queued)
      (attemptCount + 1) ≤ deliveryWeight .inFlight attemptCount := by
  split_ifs with last
  · exact Nat.zero_le _
  · simp only [deliveryWeight]
    omega

theorem lowers_requeueDeliveries :
    outboxColumns.Lowers (requeueStaleInFlightOutboxDeliveries now) outbox := by
  intro row _ met
  have inFlight : row.state = .inFlight := by
    simpa using (Bool.and_eq_true_iff.mp met).1
  have requeued := requeuedWeight_le row.attemptCount
  rw [← inFlight] at requeued
  exact requeued

theorem lowers_requeueActivities :
    outboundColumns.Lowers (requeueStaleInFlightOutboundActivities now) activities := by
  intro row _ met
  have inFlight : row.state = .inFlight := by
    simpa using (Bool.and_eq_true_iff.mp met).1
  have requeued := requeuedWeight_le row.attemptCount
  rw [← inFlight] at requeued
  exact requeued

theorem claimedWeight_lt (attemptCount : Nat) :
    deliveryWeight .inFlight attemptCount < deliveryWeight .queued attemptCount := by
  simp only [deliveryWeight]
  omega

theorem mem_chosen_of_claimed {Row : Type*} {key : Row → String} {table : Table Row key}
    {chosen : List Row} (among : ∀ row ∈ chosen, row ∈ table.rows) {row : Row}
    (stored : row ∈ table.rows) (met : (chosen.map key).contains (key row) = true) :
    row ∈ chosen := by
  obtain ⟨other, inChosen, sameKey⟩ := List.mem_map.mp (List.contains_iff_mem.mp met)
  obtain rfl := Table.eq_of_key_eq (among other inChosen) stored sameKey
  exact inChosen

theorem lowers_claimDeliveries {chosen : List OutboxDelivery}
    (among : ∀ row ∈ chosen, row ∈ outbox.rows) (queued : ∀ row ∈ chosen, row.state = .queued) :
    outboxColumns.Lowers (claimPendingOutboxDeliveries now (chosen.map OutboxDelivery.id))
      outbox := by
  intro row stored met
  have took := claimedWeight_lt row.attemptCount
  rw [← queued row (mem_chosen_of_claimed among stored met)] at took
  exact took.le

theorem lowers_claimActivities
    (among : ∀ row ∈ chosen, row ∈ activities.rows)
    (queued : ∀ row ∈ chosen, row.state = .queued) :
    outboundColumns.Lowers
      (claimPendingOutboundActivities now (chosen.map OutboundActivity.id)) activities := by
  intro row stored met
  have took := claimedWeight_lt row.attemptCount
  rw [← queued row (mem_chosen_of_claimed among stored met)] at took
  exact took.le

theorem settles_markDeliveryTerminal
    (nextAttempt : Nat) :
    outboxColumns.Settles (markOutboxDeliveryTerminalFailure now delivery.id nextAttempt)
      delivery where
  guarded := by
    intro row met
    simpa [markOutboxDeliveryTerminalFailure, outboxColumns] using met
  settled _ := Or.inl rfl

theorem settles_markTerminal (delivery : OutboundActivityRow)
    (nextAttempt : Nat) :
    outboundColumns.Settles (markOutboundActivityTerminalFailure now delivery.id nextAttempt)
      delivery where
  guarded := by
    intro row met
    simpa [markOutboundActivityTerminalFailure, outboundColumns] using met
  settled _ := Or.inl rfl

theorem next_of_not_terminal {attemptCount : Nat} {isPermanent : Bool}
    (more : isTerminalSend attemptCount isPermanent = false) :
    nextDeliveryAttemptCount attemptCount = attemptCount + 1
      ∧ attemptCount + 1 < deliveryMaxAttempts :=
  nextAttempts_of_not_terminal (Bool.or_eq_false_iff.mp more).2

/-- **A sent target delivery** is settled. -/
theorem settles_settleTargetDelivery (result : SendResult) :
    outboxColumns.Settles (settleTargetDelivery now delivery result) delivery := by
  cases result with
  | ok =>
    refine ⟨?_, fun _ => Or.inl rfl⟩
    intro row met
    simpa [settleTargetDelivery, markOutboxDeliveryDelivered, outboxColumns] using met
  | error isPermanent =>
    simp only [settleTargetDelivery]
    split_ifs with last
    · exact settles_markDeliveryTerminal delivery _
    · obtain ⟨next, more⟩ := next_of_not_terminal (Bool.eq_false_iff.mpr last)
      refine ⟨?_, fun _ => Or.inr ⟨rfl, next, more⟩⟩
      intro row met
      simpa [rescheduleOutboxDelivery, outboxColumns] using met

/-- **A sent outbound activity** is settled. -/
theorem settles_settleOutboundActivity (delivery : OutboundActivityRow) (result : SendResult) :
    outboundColumns.Settles (settleOutboundActivity now delivery result) delivery := by
  cases result with
  | ok =>
    refine ⟨?_, fun _ => Or.inl rfl⟩
    intro row met
    simpa [settleOutboundActivity, markOutboundActivityDelivered, outboundColumns] using met
  | error isPermanent =>
    simp only [settleOutboundActivity]
    split_ifs with last
    · exact settles_markTerminal delivery _
    · obtain ⟨next, more⟩ := next_of_not_terminal (Bool.eq_false_iff.mpr last)
      refine ⟨?_, fun _ => Or.inr ⟨rfl, next, more⟩⟩
      intro row met
      simpa [rescheduleOutboundActivity, outboundColumns] using met

theorem keepsTargets_settleTargetDelivery (result : SendResult) :
    KeepsTargets (settleTargetDelivery now delivery result) := by
  intro row
  cases result with
  | ok => rfl
  | error isPermanent =>
    simp only [settleTargetDelivery]
    split_ifs <;> rfl

/-- **The statements of an expansion** leave no generic row heavier. -/
theorem unexpanded_genericStatement_le (ids : List String) (statement : GenericStatement) :
    (statement.run now ids outbox).weight unexpandedWeight ≤ outbox.weight unexpandedWeight := by
  cases statement with
  | completeWithoutTargets deliveryIds =>
    exact unexpanded_run_le (fun _ => rfl) (lowers_of_terminal fun _ => rfl)
  | insertTargets chunk =>
    refine (Table.weight_insertAll ?_).le
    intro row mem
    obtain ⟨⟨id, delivery, target⟩, _, rfl⟩ := List.mem_map.mp mem
    rfl
  | markExpanded deliveries =>
    exact unexpanded_run_le (fun _ => rfl) fun _ _ _ => Nat.zero_le _

end Statements

/-- An admitted target delivery is settled, kept or passed over; the counters of the
expansion stay. -/
theorem TargetLoop.turn_cases (hostStr : String → Option String) (dir : Directory)
    (now : Nat) (delivery : OutboxDeliveryRow) (loop : TargetLoop) :
    ((loop.turn hostStr dir now delivery).outbox = loop.outbox
      ∨ ∃ nextAttempt, (loop.turn hostStr dir now delivery).outbox
          = (markOutboxDeliveryTerminalFailure now delivery.id nextAttempt).run loop.outbox)
    ∧ (loop.turn hostStr dir now delivery).summary.expanded = loop.summary.expanded
    ∧ (loop.turn hostStr dir now delivery).summary.completedWithoutTargets
        = loop.summary.completedWithoutTargets
    ∧ ∀ job ∈ (loop.turn hostStr dir now delivery).jobs, job = delivery ∨ job ∈ loop.jobs := by
  unfold TargetLoop.turn
  cases delivery.targetInbox with
  | none => exact ⟨Or.inl rfl, rfl, rfl, fun _ => Or.inr⟩
  | some targetInbox =>
    dsimp only
    split_ifs
    · exact ⟨Or.inr ⟨_, rfl⟩, rfl, rfl, fun _ => Or.inr⟩
    · exact ⟨Or.inr ⟨_, rfl⟩, rfl, rfl, fun _ => Or.inr⟩
    · refine ⟨Or.inl rfl, rfl, rfl, ?_⟩
      intro job mem
      simpa [or_comm] using mem

theorem OutboundLoop.turn_cases (hostStr : String → Option String) (dir : Directory)
    (now : Nat) (delivery : OutboundActivityRow) (loop : OutboundLoop) :
    ((loop.turn hostStr dir now delivery).activities = loop.activities
      ∨ ∃ nextAttempt, (loop.turn hostStr dir now delivery).activities
          = (markOutboundActivityTerminalFailure now delivery.id nextAttempt).run loop.activities)
    ∧ (loop.turn hostStr dir now delivery).summary.expanded = loop.summary.expanded
    ∧ (loop.turn hostStr dir now delivery).summary.completedWithoutTargets
        = loop.summary.completedWithoutTargets
    ∧ ∀ job ∈ (loop.turn hostStr dir now delivery).jobs, job = delivery ∨ job ∈ loop.jobs := by
  unfold OutboundLoop.turn
  split_ifs
  · exact ⟨Or.inr ⟨_, rfl⟩, rfl, rfl, fun _ => Or.inr⟩
  · refine ⟨Or.inl rfl, rfl, rfl, ?_⟩
    intro job mem
    simpa [or_comm] using mem

/-! ## What a batch does to the backlog -/

/-- The generic deliveries in the consumer's hands. -/
def Phase.generic : Phase → List OutboxDeliveryRow
  | .resolveTargets deliveries => deliveries
  | .fanOut running => running.deliveries
  | _ => []

/-- The target deliveries in the consumer's hands. -/
def Phase.targets : Phase → List OutboxDeliveryRow
  | .claimDeliveries targets _ => targets.getD []
  | .admitTargets _ waiting jobs _ => waiting ++ jobs
  | .sendTargets _ jobs _ => jobs
  | _ => []

/-- The outbound activities in the consumer's hands. -/
def Phase.outbound : Phase → List OutboundActivityRow
  | .claimDeliveries _ outbound => outbound.getD []
  | .admitTargets _ _ _ outbound => outbound
  | .sendTargets _ _ outbound => outbound
  | .admitOutbound _ waiting jobs => waiting ++ jobs
  | .sendOutbound jobs => jobs
  | _ => []

/-- The batch has claimed no generic delivery. -/
def Consumer.NoGeneric (s : Consumer) : Prop :=
  s.phase.generic = [] ∧ s.summary.expanded = 0 ∧ s.summary.completedWithoutTargets = 0

/-- The batch has claimed nothing to send. -/
def Consumer.NothingSent (s : Consumer) : Prop :=
  s.phase.targets = [] ∧ s.phase.outbound = [] ∧ s.summary.delivered = 0 ∧ s.summary.failed = 0

/-- The backlog is at most what it was, and lower once the batch has claimed something. -/
def Lowered (start : ℕ × ℕ) (s : Consumer) : Prop :=
  s.unexpanded < start.1
    ∨ (s.unexpanded = start.1 ∧ s.NoGeneric
      ∧ (s.remainingAttempts < start.2 ∨ (s.remainingAttempts = start.2 ∧ s.NothingSent)))

/-- What holds of the consumer since a moment of rest: the backlog is lowered, and the
copies in its hands agree with their rows. -/
structure InBatch (start : ℕ × ℕ) (s : Consumer) : Prop where
  lowered : Lowered start s
  targets : outboxColumns.Agree s.outbox s.phase.targets
  outbound : outboundColumns.Agree s.activities s.phase.outbound

section Descent

variable {start : ℕ × ℕ} {s s' : Consumer}

/-- A step keeps the backlog lowered if it takes from the generic rows, or else claims none
of them and takes from the remaining attempts, or else claims nothing. -/
theorem Lowered.next (lowered : Lowered start s) (fewer : s'.unexpanded ≤ s.unexpanded)
    (generic : s.NoGeneric → s'.unexpanded < s.unexpanded
      ∨ (s'.NoGeneric ∧ s'.remainingAttempts ≤ s.remainingAttempts))
    (sent : s.NoGeneric → s.NothingSent → s'.unexpanded < s.unexpanded
      ∨ s'.remainingAttempts < s.remainingAttempts ∨ s'.NothingSent) :
    Lowered start s' := by
  rcases lowered with below | ⟨eq, noGeneric, attempts⟩
  · exact Or.inl (by omega)
  · rcases generic noGeneric with expanding | ⟨noGeneric', attempts'⟩
    · exact Or.inl (by omega)
    · rcases Nat.lt_or_ge s'.unexpanded s.unexpanded with expanding | same
      · exact Or.inl (by omega)
      · refine Or.inr ⟨by omega, noGeneric', ?_⟩
        rcases attempts with below | ⟨sameAttempts, nothing⟩
        · exact Or.inl (by omega)
        · rcases sent noGeneric nothing with expanding | below | nothing'
          · omega
          · exact Or.inl (by omega)
          · rcases Nat.lt_or_ge s'.remainingAttempts start.2 with below | unchanged'
            · exact Or.inl below
            · exact Or.inr ⟨by omega, nothing'⟩

/-- **A batch that made progress has lowered the backlog.** -/
theorem Lowered.backlog_lt_of_progress (lowered : Lowered start s)
    (progress : outboxBatchMadeProgress s.summary = true) :
    s.backlog < toLex start := by
  rw [Consumer.backlog, Prod.Lex.toLex_lt_toLex]
  rcases lowered with below | ⟨eq, ⟨_, expanded, done⟩, attempts⟩
  · exact Or.inl below
  · refine Or.inr ⟨eq, ?_⟩
    rcases attempts with below | ⟨_, _, _, delivered, failed⟩
    · exact below
    · simp [outboxBatchMadeProgress, expanded, done, delivered, failed] at progress

/-- A consumer between two messages. -/
def Consumer.AtRest (s : Consumer) : Prop :=
  s.phase = .idle ∧ s.summary = .default

theorem InBatch.of_atRest (atRest : s.AtRest) :
    InBatch (s.unexpanded, s.remainingAttempts) s where
  lowered := by
    refine Or.inr ⟨rfl, ⟨?_, ?_, ?_⟩, Or.inr ⟨rfl, ?_, ?_, ?_, ?_⟩⟩
    all_goals first | rw [atRest.1] | rw [atRest.2]
    all_goals rfl
  targets := by
    rw [atRest.1]
    exact CopyColumns.Agree.nil
  outbound := by
    rw [atRest.1]
    exact CopyColumns.Agree.nil

theorem InBatch.quiet (inBatch : InBatch start s) (outbox : s'.outbox = s.outbox)
    (activities : s'.activities = s.activities) (generic : s.NoGeneric → s'.NoGeneric)
    (sent : s.NothingSent → s'.NothingSent)
    (targets : ∀ copy ∈ s'.phase.targets, copy ∈ s.phase.targets)
    (outbound : ∀ copy ∈ s'.phase.outbound, copy ∈ s.phase.outbound) : InBatch start s' where
  lowered := by
    have sameUnexpanded : s'.unexpanded = s.unexpanded := by
      rw [Consumer.unexpanded, outbox, Consumer.unexpanded]
    have sameAttempts : s'.remainingAttempts = s.remainingAttempts := by
      rw [Consumer.remainingAttempts, outbox, activities, Consumer.remainingAttempts]
    apply inBatch.lowered.next sameUnexpanded.le
    · intro noGeneric
      exact Or.inr ⟨generic noGeneric, sameAttempts.le⟩
    · intro _ nothing
      exact Or.inr (Or.inr (sent nothing))
  targets := by
    rw [outbox]
    exact inBatch.targets.subset targets
  outbound := by
    rw [activities]
    exact inBatch.outbound.subset outbound

/-- A statement on the outbox that makes no row heavier, in a batch that goes on without
further generic deliveries. -/
theorem InBatch.runOutbox (inBatch : InBatch start s)
    {statement : Update OutboxDelivery OutboxDelivery.id}
    (outbox : s'.outbox = statement.run s.outbox) (activities : s'.activities = s.activities)
    (keeps : KeepsTargets statement) (lowers : outboxColumns.Lowers statement s.outbox)
    (generic : s.NoGeneric → s'.NoGeneric)
    (sent : s.NothingSent → s'.remainingAttempts < s.remainingAttempts ∨ s'.NothingSent)
    (targets : outboxColumns.Agree s'.outbox s'.phase.targets)
    (outbound : ∀ copy ∈ s'.phase.outbound, copy ∈ s.phase.outbound) : InBatch start s' where
  lowered := by
    apply inBatch.lowered.next
    · rw [Consumer.unexpanded, outbox]
      exact unexpanded_run_le keeps lowers
    · intro noGeneric
      refine Or.inr ⟨generic noGeneric, ?_⟩
      rw [Consumer.remainingAttempts, outbox, activities]
      exact Nat.add_le_add_right (target_run_le keeps lowers) _
    · intro _ nothing
      exact Or.inr (sent nothing)
  targets := targets
  outbound := by
    rw [activities]
    exact inBatch.outbound.subset outbound

theorem InBatch.runActivities (inBatch : InBatch start s)
    {statement : Update OutboundActivity OutboundActivity.id}
    (outbox : s'.outbox = s.outbox) (activities : s'.activities = statement.run s.activities)
    (lowers : outboundColumns.Lowers statement s.activities)
    (generic : s.NoGeneric → s'.NoGeneric)
    (sent : s.NothingSent → s'.remainingAttempts < s.remainingAttempts ∨ s'.NothingSent)
    (targets : ∀ copy ∈ s'.phase.targets, copy ∈ s.phase.targets)
    (outbound : outboundColumns.Agree s'.activities s'.phase.outbound) :
    InBatch start s' where
  lowered := by
    apply inBatch.lowered.next
    · rw [Consumer.unexpanded, outbox, Consumer.unexpanded]
    · intro noGeneric
      refine Or.inr ⟨generic noGeneric, ?_⟩
      rw [Consumer.remainingAttempts, outbox, activities]
      exact Nat.add_le_add_left (Table.weight_run_le lowers) _
    · intro _ nothing
      exact Or.inr (sent nothing)
  targets := by
    rw [outbox]
    exact inBatch.targets.subset targets
  outbound := outbound

end Descent

/-! ## The three claims -/

section Claims

variable {now : Nat} {outbox : OutboxDeliveries} {activities : OutboundActivities}

/-- **A claimed delivery** takes from the rows that are counted with it. -/
theorem weight_claimOutbox_lt {weight : OutboxDelivery → Nat}
    (isWeight : ∀ row, weight row = if counted row.targetInbox then outboxColumns.weight row else 0)
    {chosen : List OutboxDelivery} (took : chosen ≠ [])
    (among : ∀ row ∈ chosen, row ∈ outbox.rows) (queued : ∀ row ∈ chosen, row.state = .queued)
    (counts : ∀ row ∈ chosen, counted row.targetInbox = true) :
    ((claimPendingOutboxDeliveries now (chosen.map OutboxDelivery.id)).run outbox).weight weight
      < outbox.weight weight := by
  obtain rfl := funext isWeight
  obtain ⟨row, mem⟩ := List.exists_mem_of_ne_nil chosen took
  have strictly := claimedWeight_lt row.attemptCount
  rw [← queued row mem] at strictly
  apply Table.weight_run_lt
  · exact weight_set_le (fun _ => rfl) (lowers_claimDeliveries among queued)
  · exact among row mem
  · exact List.contains_iff_mem.mpr (List.mem_map_of_mem mem)
  · rw [if_pos (counts row mem)]
    exact (if_pos (counts row mem)).trans_lt strictly

/-- **A claimed outbound activity** takes from the remaining attempts. -/
theorem weight_claimOutbound_lt (took : chosen ≠ [])
    (among : ∀ row ∈ chosen, row ∈ activities.rows)
    (queued : ∀ row ∈ chosen, row.state = .queued) :
    ((claimPendingOutboundActivities now (chosen.map OutboundActivity.id)).run
      activities).weight outboundColumns.weight < activities.weight outboundColumns.weight := by
  obtain ⟨row, mem⟩ := List.exists_mem_of_ne_nil chosen took
  have strictly := claimedWeight_lt row.attemptCount
  rw [← queued row mem] at strictly
  apply Table.weight_run_lt
  · exact lowers_claimActivities among queued
  · exact among row mem
  · exact List.contains_iff_mem.mpr (List.mem_map_of_mem mem)
  · exact strictly

end Claims

variable {trace : List (Transition Consumer ConsumerEvent)}

section Steps

variable {hostStr : String → Option String} {start : ℕ × ℕ} {s s' : Consumer}

theorem inBatch_claimGeneric (inBatch : InBatch start s) {chosen : List OutboxDelivery}
    (sel : Selection OutboxDelivery.createdAt genericClaimLimit
      (s.outbox.select (pendingGeneric s.now)) chosen) :
    InBatch start
      { s with
        outbox :=
          (claimPendingOutboxDeliveries s.now (chosen.map OutboxDelivery.id)).run s.outbox
        phase := .resolveTargets (chosen.map OutboxDelivery.returning) } := by
  have chosenRows : ∀ row ∈ chosen, row ∈ s.outbox.rows ∧ row.state = .queued
      ∧ row.targetInbox.isNone = true := by
    intro row mem
    have selected := List.mem_filter.mp (sel.subset row mem)
    simp only [pendingGeneric, OutboxDelivery.isDue, Bool.and_eq_true, beq_iff_eq] at selected
    exact ⟨selected.1, selected.2.1.1, selected.2.2⟩
  have among := fun row mem => (chosenRows row mem).1
  have queued := fun row mem => (chosenRows row mem).2.1
  have keeps : KeepsTargets
      (claimPendingOutboxDeliveries s.now (chosen.map OutboxDelivery.id)) := fun _ => rfl
  have lowers := @lowers_claimDeliveries s.now s.outbox chosen among queued
  refine ⟨inBatch.lowered.next (unexpanded_run_le keeps lowers) ?_ ?_, ?_, ?_⟩
  · rintro ⟨_, expanded, done⟩
    rcases eq_or_ne chosen [] with rfl | took
    · exact Or.inr ⟨⟨rfl, expanded, done⟩, Nat.add_le_add_right (target_run_le keeps lowers) _⟩
    · exact Or.inl (weight_claimOutbox_lt (fun _ => rfl) took among queued
        fun row mem => (chosenRows row mem).2.2)
  · rintro _ ⟨_, _, delivered, failed⟩
    exact Or.inr (Or.inr ⟨rfl, rfl, delivered, failed⟩)
  · exact CopyColumns.Agree.nil
  · exact CopyColumns.Agree.nil

theorem inBatch_fanOut (inBatch : InBatch start s) {runs : FanOut}
    {statement : GenericStatement} {ids : List String} {left : List GenericStatement}
    (here : s.phase = .fanOut runs) (next : runs.remaining = statement :: left) :
    InBatch start
      { s with
        outbox := statement.run s.now ids s.outbox
        phase := .fanOut (runs.advance statement left next)
        summary := countGenericStatement runs.targetsByAccount s.summary statement } := by
  have expanding : ¬ s.NoGeneric := by
    rintro ⟨noDeliveries, _⟩
    rw [here] at noDeliveries
    have full := runs.complete
    have none : runs.deliveries = [] := noDeliveries
    rw [none, next] at full
    exact absurd full (by
      simp [genericStatements, partitionGenericOutboxDeliveriesByTargets, completionStatements,
        expansionStatements])
  refine ⟨inBatch.lowered.next (unexpanded_genericStatement_le ids statement) ?_ ?_, ?_, ?_⟩
  · intro noGeneric
    exact absurd noGeneric expanding
  · intro noGeneric
    exact absurd noGeneric expanding
  · exact CopyColumns.Agree.nil
  · exact CopyColumns.Agree.nil

theorem inBatch_claimTargets (inBatch : InBatch start s)
    {outbound : Option (List OutboundActivityRow)} {chosen : List OutboxDelivery}
    (here : s.phase = .claimDeliveries none outbound)
    (sel : Selection OutboxDelivery.createdAt targetClaimLimit
      (s.outbox.select (pendingTarget s.now)) chosen) :
    InBatch start
      { s with
        outbox :=
          (claimPendingOutboxDeliveries s.now (chosen.map OutboxDelivery.id)).run s.outbox
        phase := .claimDeliveries (some (chosen.map OutboxDelivery.returning)) outbound } := by
  have chosenRows : ∀ row ∈ chosen, row ∈ s.outbox.rows ∧ row.state = .queued
      ∧ row.targetInbox.isSome = true := by
    intro row mem
    have selected := List.mem_filter.mp (sel.subset row mem)
    simp only [pendingTarget, OutboxDelivery.isDue, Bool.and_eq_true, beq_iff_eq] at selected
    exact ⟨selected.1, selected.2.1.1, selected.2.2⟩
  have among := fun row mem => (chosenRows row mem).1
  have queued := fun row mem => (chosenRows row mem).2.1
  refine inBatch.runOutbox rfl rfl (fun _ => rfl) (lowers_claimDeliveries among queued) ?_ ?_ ?_ ?_
  · rintro ⟨_, expanded, done⟩
    exact ⟨rfl, expanded, done⟩
  · rintro ⟨_, noOutbound, delivered, failed⟩
    rcases eq_or_ne chosen [] with rfl | took
    · rw [here] at noOutbound
      exact Or.inr ⟨rfl, noOutbound, delivered, failed⟩
    · exact Or.inl (Nat.add_lt_add_right (weight_claimOutbox_lt (fun _ => rfl) took among queued
        fun row mem => (chosenRows row mem).2.2) _)
  · exact CopyColumns.agree_of_claim among (fun _ => rfl) (fun _ => rfl) fun _ => rfl
  · intro copy mem
    rw [here]
    exact mem

theorem inBatch_claimOutbound (inBatch : InBatch start s)
    {targets : Option (List OutboxDeliveryRow)}
    (here : s.phase = .claimDeliveries targets none)
    (sel : Selection OutboundActivity.createdAt outboundClaimLimit
      (s.activities.select (pendingOutbound s.now)) chosen) :
    InBatch start
      { s with
        activities := (claimPendingOutboundActivities s.now
          (chosen.map OutboundActivity.id)).run s.activities
        phase := .claimDeliveries targets (some (chosen.map OutboundActivity.returning)) } := by
  have chosenRows : ∀ row ∈ chosen, row ∈ s.activities.rows ∧ row.state = .queued := by
    intro row mem
    have selected := List.mem_filter.mp (sel.subset row mem)
    simp only [pendingOutbound, Bool.and_eq_true, beq_iff_eq] at selected
    exact ⟨selected.1, selected.2.1⟩
  have among := fun row mem => (chosenRows row mem).1
  have queued := fun row mem => (chosenRows row mem).2
  refine inBatch.runActivities rfl rfl (lowers_claimActivities among queued) ?_ ?_ ?_ ?_
  · rintro ⟨_, expanded, done⟩
    exact ⟨rfl, expanded, done⟩
  · rintro ⟨noTargets, _, delivered, failed⟩
    rcases eq_or_ne chosen [] with rfl | took
    · rw [here] at noTargets
      exact Or.inr ⟨noTargets, rfl, delivered, failed⟩
    · exact Or.inl (Nat.add_lt_add_left (weight_claimOutbound_lt took among queued) _)
  · intro copy mem
    rw [here]
    exact mem
  · exact CopyColumns.agree_of_claim among (fun _ => rfl) (fun _ => rfl) fun _ => rfl

theorem inBatch_settleTarget (inBatch : InBatch start s) {delivery : OutboxDeliveryRow}
    (held : delivery ∈ s.phase.targets)
    (outbox : s'.outbox = s.outbox
      ∨ ∃ statement, s'.outbox = Update.run statement s.outbox ∧ KeepsTargets statement
          ∧ outboxColumns.Settles statement delivery)
    (activities : s'.activities = s.activities) (generic : s.NoGeneric → s'.NoGeneric)
    (targets : ∀ copy ∈ s'.phase.targets, copy ∈ s.phase.targets)
    (outbound : ∀ copy ∈ s'.phase.outbound, copy ∈ s.phase.outbound) : InBatch start s' := by
  have sending : ¬ s.NothingSent := by
    rintro ⟨noTargets, _⟩
    rw [noTargets] at held
    cases held
  rcases outbox with eq | ⟨statement, run, keeps, settles⟩
  · exact inBatch.quiet eq activities generic (fun nothing => absurd nothing sending) targets
      outbound
  · apply inBatch.runOutbox run activities keeps (settles.lowers inBatch.targets held) generic
    · intro nothing
      exact absurd nothing sending
    · rw [run]
      exact (settles.agree inBatch.targets).subset targets
    · exact outbound

theorem inBatch_settleOutbound (inBatch : InBatch start s) {delivery : OutboundActivityRow}
    (held : delivery ∈ s.phase.outbound) (outbox : s'.outbox = s.outbox)
    (activities : s'.activities = s.activities
      ∨ ∃ statement, s'.activities = Update.run statement s.activities
          ∧ outboundColumns.Settles statement delivery)
    (generic : s.NoGeneric → s'.NoGeneric)
    (targets : ∀ copy ∈ s'.phase.targets, copy ∈ s.phase.targets)
    (outbound : ∀ copy ∈ s'.phase.outbound, copy ∈ s.phase.outbound) : InBatch start s' := by
  have sending : ¬ s.NothingSent := by
    rintro ⟨_, noOutbound, _⟩
    rw [noOutbound] at held
    cases held
  rcases activities with eq | ⟨statement, run, settles⟩
  · exact inBatch.quiet outbox eq generic (fun nothing => absurd nothing sending) targets outbound
  · apply inBatch.runActivities outbox run (settles.lowers inBatch.outbound held) generic
    · intro nothing
      exact absurd nothing sending
    · exact targets
    · rw [run]
      exact (settles.agree inBatch.outbound).subset outbound

theorem inBatch_rest (inBatch : InBatch start s) (outbox : s'.outbox = s.outbox)
    (activities : s'.activities = s.activities) (generic : s'.phase.generic = [])
    (targets : s'.phase.targets = []) (outbound : s'.phase.outbound = [])
    (summary : s'.summary = .default) : InBatch start s' := by
  refine inBatch.quiet outbox activities ?_ ?_ ?_ ?_
  · intro _
    exact ⟨generic, by rw [summary]; rfl, by rw [summary]; rfl⟩
  · intro _
    exact ⟨targets, outbound, by rw [summary]; rfl, by rw [summary]; rfl⟩
  · rw [targets]
    exact fun _ mem => absurd mem List.not_mem_nil
  · rw [outbound]
    exact fun _ mem => absurd mem List.not_mem_nil

theorem inBatch_phase (inBatch : InBatch start s) {phase : Phase}
    (generic : s.phase.generic = [] → phase.generic = [])
    (targets : phase.targets = s.phase.targets) (outbound : phase.outbound = s.phase.outbound) :
    InBatch start { s with phase := phase } := by
  refine inBatch.quiet rfl rfl ?_ ?_ ?_ ?_
  · rintro ⟨noGeneric, expanded, done⟩
    exact ⟨generic noGeneric, expanded, done⟩
  · rintro ⟨noTargets, noOutbound, delivered, failed⟩
    exact ⟨targets.trans noTargets, outbound.trans noOutbound, delivered, failed⟩
  · exact fun copy mem => targets ▸ mem
  · exact fun copy mem => outbound ▸ mem

/-- **One step of the consumer** keeps the backlog lowered and the copies in agreement. -/
theorem inBatch_step {ev : ConsumerEvent} (inBatch : InBatch start s)
    (taken : ConsumerStep hostStr s ev s') : InBatch start s' := by
  cases taken with
  | tick seconds => exact ⟨inBatch.lowered, inBatch.targets, inBatch.outbound⟩
  | cancelForInbox accountId targetInbox =>
    refine inBatch.runOutbox rfl rfl (fun _ => rfl) (lowers_of_terminal fun _ => rfl) id
      Or.inr ?_ fun _ => id
    apply inBatch.targets.run
    intro row _ inFlight
    cases inFlight
  | idleBatch here noWork => exact inBatch
  | beginBatch here work => exact inBatch_rest inBatch rfl rfl rfl rfl rfl rfl
  | requeueOutbox here =>
    refine inBatch.runOutbox rfl rfl (fun _ => rfl)
      lowers_requeueDeliveries ?_ ?_ CopyColumns.Agree.nil ?_
    · rintro ⟨_, expanded, done⟩
      exact ⟨rfl, expanded, done⟩
    · rintro ⟨_, _, delivered, failed⟩
      exact Or.inr ⟨rfl, rfl, delivered, failed⟩
    · exact fun _ mem => absurd mem List.not_mem_nil
  | requeueOutbound here =>
    refine inBatch.runActivities rfl rfl lowers_requeueActivities ?_ ?_ ?_ CopyColumns.Agree.nil
    · rintro ⟨_, expanded, done⟩
      exact ⟨rfl, expanded, done⟩
    · rintro ⟨_, _, delivered, failed⟩
      exact Or.inr ⟨rfl, rfl, delivered, failed⟩
    · exact fun _ mem => absurd mem List.not_mem_nil
  | claimGeneric here sel => exact inBatch_claimGeneric inBatch sel
  | noGeneric here | fanOutDone here full | targetsAdmitted here | outboundAdmitted here
  | allSent here =>
    exact inBatch_phase inBatch (fun _ => rfl) (by rw [here]; rfl) (by rw [here]; rfl)
  | resolveTargets targetsByAccount here took =>
    apply inBatch_phase inBatch
    · rw [here]
      exact id
    · rw [here]
      rfl
    · rw [here]
      rfl
  | fanOut here next fresh => exact inBatch_fanOut inBatch here next
  | claimTargets here sel => exact inBatch_claimTargets inBatch here sel
  | claimOutbound here sel => exact inBatch_claimOutbound inBatch here sel
  | preloadAccounts dir here =>
    apply inBatch_phase inBatch (fun _ => rfl)
    · rw [here]
      exact List.append_nil _
    · rw [here]
      rfl
  | @admitTarget dir delivery waiting jobs outbound here =>
    obtain ⟨wrote, expanded, done, kept⟩ := TargetLoop.turn_cases hostStr dir
      s.now delivery ⟨s.outbox, s.summary, jobs⟩
    refine @inBatch_settleTarget start s _ inBatch delivery ?_ ?_ rfl ?_ ?_ ?_
    · simp [here, Phase.targets]
    · rcases wrote with eq | ⟨nextAttempt, run⟩
      · exact Or.inl eq
      · exact Or.inr ⟨_, run, fun _ => rfl, settles_markDeliveryTerminal delivery nextAttempt⟩
    · rintro ⟨_, noExpanded, noCompleted⟩
      exact ⟨rfl, expanded.trans noExpanded, done.trans noCompleted⟩
    · intro copy mem
      rw [here]
      rcases List.mem_append.mp mem with waits | job
      · simp [Phase.targets, waits]
      · rcases kept copy job with rfl | old
        · simp [Phase.targets]
        · simp [Phase.targets, show copy ∈ jobs from old]
    · intro copy mem
      rw [here]
      exact mem
  | @targetSent dir delivery prior later outbound result here =>
    refine @inBatch_settleTarget start s _ inBatch delivery ?_ (Or.inr ⟨_, rfl, ?_, ?_⟩) rfl
      ?_ ?_ ?_
    · simp [here, Phase.targets]
    · exact keepsTargets_settleTargetDelivery delivery result
    · exact settles_settleTargetDelivery delivery result
    · rintro ⟨_, expanded, done⟩
      cases result with
      | ok | error isPermanent => exact ⟨rfl, expanded, done⟩
    · intro copy mem
      rw [here]
      exact mem_of_mem_taken_out mem
    · intro copy mem
      rw [here]
      exact mem
  | targetsSent here =>
    apply inBatch_phase inBatch (fun _ => rfl)
    · rw [here]
      rfl
    · rw [here]
      exact List.append_nil _
  | @admitOutbound dir delivery waiting jobs here =>
    obtain ⟨wrote, expanded, done, kept⟩ := OutboundLoop.turn_cases hostStr dir
      s.now delivery ⟨s.activities, s.summary, jobs⟩
    refine @inBatch_settleOutbound start s _ inBatch delivery ?_ rfl ?_ ?_ ?_ ?_
    · simp [here, Phase.outbound]
    · rcases wrote with eq | ⟨nextAttempt, run⟩
      · exact Or.inl eq
      · exact Or.inr ⟨_, run, settles_markTerminal delivery nextAttempt⟩
    · rintro ⟨_, noExpanded, noCompleted⟩
      exact ⟨rfl, expanded.trans noExpanded, done.trans noCompleted⟩
    · exact fun _ mem => absurd mem List.not_mem_nil
    · intro copy mem
      rw [here]
      rcases List.mem_append.mp mem with waits | job
      · simp [Phase.outbound, waits]
      · rcases kept copy job with rfl | old
        · simp [Phase.outbound]
        · simp [Phase.outbound, show copy ∈ jobs from old]
  | @outboundSent delivery prior later result here =>
    refine @inBatch_settleOutbound start s _ inBatch delivery ?_ rfl (Or.inr ⟨_, rfl, ?_⟩)
      ?_ ?_ ?_
    · simp [here, Phase.outbound]
    · exact settles_settleOutboundActivity delivery result
    · rintro ⟨_, expanded, done⟩
      cases result with
      | ok => exact ⟨rfl, expanded, done⟩
      | error isPermanent =>
        refine ⟨rfl, ?_, ?_⟩
        · simp only [countOutboundActivity]
          split_ifs <;> exact expanded
        · simp only [countOutboundActivity]
          split_ifs <;> exact done
    · exact fun _ mem => absurd mem List.not_mem_nil
    · intro copy mem
      rw [here]
      exact mem_of_mem_taken_out mem
  | enqueueContinuation here asks | endBatch here | fail runs =>
    exact inBatch_rest inBatch rfl rfl rfl rfl rfl rfl

theorem inBatch_run (atRest : s.AtRest)
    (run : Run (ConsumerStep hostStr) s trace s') :
    InBatch (s.unexpanded, s.remainingAttempts) s' := by
  let Since : Consumer → Prop := InBatch (s.unexpanded, s.remainingAttempts)
  have init : Since s := InBatch.of_atRest atRest
  exact run.invariant_of_step init fun inBatch taken => inBatch_step inBatch taken

theorem backlog_lt_of_enqueueContinuation
    {post : Consumer} (atRest : s.AtRest) (run : Run (ConsumerStep hostStr) s trace s')
    (taken : ConsumerStep hostStr s' .enqueueContinuation post) :
    post.AtRest ∧ post.backlog < s.backlog := by
  have inBatch := inBatch_run atRest run
  cases taken with
  | enqueueContinuation here asks =>
    have progress := (Bool.and_eq_true_iff.mp asks).1
    exact ⟨⟨rfl, rfl⟩, inBatch.lowered.backlog_lt_of_progress progress⟩

theorem exists_run_of_endless {states : Nat → Consumer} {events : Nat → ConsumerEvent}
    (steps : ∀ n, ConsumerStep hostStr (states n) (events n) (states (n + 1))) (n length : Nat) :
    ∃ trace, Run (ConsumerStep hostStr) (states n) trace (states (n + length)) := by
  induction length with
  | zero => exact ⟨[], Run.start⟩
  | succ length ih =>
    obtain ⟨trace, run⟩ := ih
    exact ⟨_, run.snoc (steps (n + length))⟩

end Steps

/-- **The chain of continuation messages ends.**  From any two tables, a batch that asks
for a continuation lowers the backlog, whatever came between, and an endless run of the
consumer asks for finitely many continuations. -/
theorem continuations_end (hostStr : String → Option String) :
    (∀ {start before after : Consumer} {trace : List (Transition Consumer ConsumerEvent)},
      start.AtRest → Run (ConsumerStep hostStr) start trace before →
      ConsumerStep hostStr before .enqueueContinuation after →
      after.AtRest ∧ after.backlog < start.backlog)
    ∧ ∀ (states : Nat → Consumer) (events : Nat → ConsumerEvent), (states 0).AtRest →
        (∀ n, ConsumerStep hostStr (states n) (events n) (states (n + 1))) →
        ∃ last, ∀ n, last ≤ n → events n ≠ .enqueueContinuation := by
  refine ⟨backlog_lt_of_enqueueContinuation, ?_⟩
  intro states events atRest steps
  let resting : Nat → Prop := fun n => (states n).AtRest
  refine @eventually_never (ℕ ×ₗ ℕ) _ _ resting (fun n => events n = .enqueueContinuation)
    (fun n => (states n).backlog) ?_ 0 atRest
  intro n m later rests happens
  obtain ⟨length, rfl⟩ := Nat.exists_eq_add_of_le later
  obtain ⟨trace, run⟩ := exists_run_of_endless steps n length
  have asked := steps (n + length)
  rw [happens] at asked
  exact backlog_lt_of_enqueueContinuation rests run asked

/-! ## A batch that asks for a continuation -/

def dueDelivery : OutboxDelivery :=
  queuedOutboxDelivery 0 "delivery" "account" none "activity" "Create" none "payload"

def laterActivity : OutboundActivity where
  id := "outbound"
  accountId := "account"
  activityId := "like"
  activityType := "Like"
  targetActorUri := none
  targetInbox := "inbox"
  payloadJson := "payload"
  state := .queued
  attemptCount := 0
  lastAttemptAt := none
  nextAttemptAt := some 60
  createdAt := 0

def oneDueOneLater : Consumer where
  now := 0
  outbox := Table.singleton dueDelivery
  activities := Table.singleton laterActivity
  phase := .idle
  summary := .default

/-- The delivery is completed without targets; by the end of the batch the activity is due,
and the continuation has a smaller backlog. -/
theorem continuations_end_oneDueOneLater :
    ∃ after : Consumer, after.AtRest ∧ after.backlog < oneDueOneLater.backlog := by
  obtain ⟨lowers, _⟩ := continuations_end fun _ => none
  have expanded := (((((((Run.start.snoc
    (@ConsumerStep.beginBatch (fun _ => none) oneDueOneLater rfl (by decide +kernel))).snoc
    (.requeueOutbox _ rfl)).snoc
    (.requeueOutbound _ rfl)).snoc
    (@ConsumerStep.claimGeneric _ _ [dueDelivery] rfl (Selection.singleton (by decide)))).snoc
    (.resolveTargets _ Table.empty rfl (List.cons_ne_nil _ _))).snoc
    (@ConsumerStep.fanOut _ _ _ _ [] _ rfl rfl
      ⟨rfl, List.nodup_nil, fun _ mem => absurd mem List.not_mem_nil⟩)).snoc
    (.fanOutDone _ rfl rfl))
  have sent := (((((((expanded.snoc
    (@ConsumerStep.claimTargets _ _ _ [] rfl Selection.nil)).snoc
    (@ConsumerStep.claimOutbound _ _ _ [] rfl Selection.nil)).snoc
    (.preloadAccounts _ ⟨fun _ => true, fun _ => []⟩ rfl)).snoc
    (.targetsAdmitted _ rfl)).snoc
    (.targetsSent _ rfl)).snoc
    (.outboundAdmitted _ rfl)).snoc
    (.allSent _ rfl)).snoc (.tick _ 60)
  exact ⟨_, lowers ⟨rfl, rfl⟩ sent (.enqueueContinuation _ rfl (by decide +kernel))⟩

end Cfwdon.Delivery
