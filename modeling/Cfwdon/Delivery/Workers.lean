import Cfwdon.Delivery.Outbox
import Cfwdon.Library.Run

/-!
# Delivery workers

The steps of the workers that share the outbox, and what a step makes of one row.
-/

namespace Cfwdon.Delivery

section Workers

/-! ## Delivery workers over the outbox

Any number of workers share `outbox_deliveries`.  A worker claims target rows
and settles each of its copies once, or claims generic rows, resolves their
targets and runs the statements of the expansion one after the other.  Nothing
but the table joins the workers: a copy may be settled long after its lease went
stale, and a worker that stops is one that takes no further step.

A step is one SQL statement.  The state keeps, next to the table, the copies in
workers' hands and the log of the ids handed out by claims.
-/

open Library

/-- A worker inside `process_generic_outbox_deliveries`, after the targets are
resolved: the statements it has run and those still to run. -/
structure FanOut where
  deliveries : List OutboxDeliveryRow
  targetsByAccount : TargetsByAccount
  executed : List GenericStatement
  remaining : List GenericStatement
  complete : executed ++ remaining = genericStatements deliveries targetsByAccount

/-- A fan-out none of whose statements has run. -/
def FanOut.begin (deliveries : List OutboxDeliveryRow) (targetsByAccount : TargetsByAccount) :
    FanOut where
  deliveries := deliveries
  targetsByAccount := targetsByAccount
  executed := []
  remaining := genericStatements deliveries targetsByAccount
  complete := List.nil_append _

def FanOut.advance (fanOut : FanOut) (statement : GenericStatement)
    (later : List GenericStatement) (next : fanOut.remaining = statement :: later) : FanOut where
  deliveries := fanOut.deliveries
  targetsByAccount := fanOut.targetsByAccount
  executed := fanOut.executed ++ [statement]
  remaining := later
  complete := by
    rw [List.append_assoc, List.singleton_append, ← next]
    exact fanOut.complete

/-- The table, the workers' copies and the claims handed out so far. -/
structure State where
  now : Nat
  outbox : OutboxDeliveries
  /-- Claimed generic deliveries whose targets are not resolved yet. -/
  claimedGeneric : List (List OutboxDeliveryRow)
  fanOuts : List FanOut
  /-- Claimed target deliveries that are being sent. -/
  sending : List OutboxDeliveryRow
  /-- The id of every row returned by a claim, once per claim. -/
  claimLog : List String

/-- An empty outbox, no worker. -/
def State.initial : State where
  now := 0
  outbox := Table.empty
  claimedGeneric := []
  fanOuts := []
  sending := []
  claimLog := []

/-- How often a row has been claimed. -/
def State.claims (s : State) (id : String) : Nat :=
  s.claimLog.count id

/-! ## Events -/

inductive Event where
  | tick (seconds : Nat)
  | enqueueGeneric (id accountId statusId activityId activityType payloadJson : String)
  | enqueueTargeted (accountId : String) (statusId : Option String)
      (activityId activityType payloadJson : String) (targetInboxes ids : List String)
  | claimGeneric (chosen : List OutboxDelivery)
  | claimTarget (chosen : List OutboxDelivery)
  | resolveTargets (deliveries : List OutboxDeliveryRow) (targetsByAccount : TargetsByAccount)
  | fanOut (statement : GenericStatement) (ids : List String)
  | markDelivered (delivery : OutboxDeliveryRow)
  | markTerminalFailure (delivery : OutboxDeliveryRow)
  | reschedule (delivery : OutboxDeliveryRow)
  | requeueStale
  | cancelForInbox (accountId targetInbox : String)

/-- The distinct nonempty inboxes of `enqueue_targeted_outbox_activity`. -/
def distinctInboxes (targetInboxes : List String) : List String :=
  ((targetInboxes.map trim).filter fun inbox => !inbox.isEmpty).eraseDups

/-- The rows of `enqueue_targeted_outbox_activity`, with their random ids. -/
def targetedOutboxRows (now : Nat) (accountId : String) (statusId : Option String)
    (activityId activityType payloadJson : String) (targetInboxes ids : List String) :
    List OutboxDelivery :=
  (ids.zip (distinctInboxes targetInboxes)).map fun (id, inbox) =>
    queuedOutboxDelivery now id accountId statusId activityId activityType (some inbox) payloadJson

def expandedOutboxRows (now : Nat) (chunk : List (OutboxDeliveryRow × String))
    (ids : List String) : List OutboxDelivery :=
  (ids.zip chunk).map fun (id, delivery, target) =>
    queuedOutboxDelivery now id delivery.accountId delivery.statusId delivery.activityId
      delivery.activityType (some target) delivery.payloadJson

/-- Random ids for `count` rows: distinct, and not in use. -/
def FreshIds (outbox : OutboxDeliveries) (count : Nat) (ids : List String) : Prop :=
  ids.length = count ∧ ids.Nodup ∧ ∀ id ∈ ids, outbox.find id = none

/-- How many random ids a fan-out statement draws. -/
def GenericStatement.idCount : GenericStatement → Nat
  | .insertTargets chunk => chunk.length
  | _ => 0

/-- What a fan-out statement makes of the table. -/
def GenericStatement.run (now : Nat) (ids : List String) (outbox : OutboxDeliveries) :
    GenericStatement → OutboxDeliveries
  | .completeWithoutTargets deliveryIds =>
    (markOutboxDeliveriesCompletedWithoutTargets now deliveryIds).run outbox
  | .insertTargets chunk =>
    insertOrIgnoreOutboxDeliveries (expandedOutboxRows now chunk ids) outbox
  | .markExpanded deliveries =>
    (markOutboxDeliveriesExpanded (deliveries.map OutboxDeliveryRow.id)).run outbox

/-! ## Steps -/

/-- The batch sizes of the two claims. -/
def genericClaimLimit : Nat := 16

def targetClaimLimit : Nat := 32

/-- One statement of some worker, or the passing of time. -/
inductive Step : State → Event → State → Prop where
  | tick (s : State) (seconds : Nat) :
      Step s (.tick seconds) { s with now := s.now + seconds }
  | enqueueGeneric (s : State)
      {id accountId statusId activityId activityType payloadJson : String}
      (fresh : s.outbox.find id = none) :
      Step s (.enqueueGeneric id accountId statusId activityId activityType payloadJson)
        { s with
          outbox := s.outbox.insert
            (queuedOutboxDelivery s.now id accountId (some statusId) activityId activityType
              none payloadJson) }
  | enqueueTargeted (s : State) {accountId : String} {statusId : Option String}
      {activityId activityType payloadJson : String} {targetInboxes ids : List String}
      (fresh : FreshIds s.outbox (distinctInboxes targetInboxes).length ids) :
      Step s
        (.enqueueTargeted accountId statusId activityId activityType payloadJson targetInboxes ids)
        { s with
          outbox := insertOrIgnoreOutboxDeliveries
            (targetedOutboxRows s.now accountId statusId activityId activityType payloadJson
              targetInboxes ids) s.outbox }
  | claimGeneric (s : State) {chosen : List OutboxDelivery}
      (selection : Selection OutboxDelivery.createdAt genericClaimLimit
        (s.outbox.select (pendingGeneric s.now)) chosen) :
      Step s (.claimGeneric chosen)
        { s with
          outbox :=
            (claimPendingOutboxDeliveries s.now (chosen.map OutboxDelivery.id)).run s.outbox
          claimedGeneric := chosen.map OutboxDelivery.returning :: s.claimedGeneric
          claimLog := chosen.map OutboxDelivery.id ++ s.claimLog }
  | claimTarget (s : State) {chosen : List OutboxDelivery}
      (selection : Selection OutboxDelivery.createdAt targetClaimLimit
        (s.outbox.select (pendingTarget s.now)) chosen) :
      Step s (.claimTarget chosen)
        { s with
          outbox :=
            (claimPendingOutboxDeliveries s.now (chosen.map OutboxDelivery.id)).run s.outbox
          sending := chosen.map OutboxDelivery.returning ++ s.sending
          claimLog := chosen.map OutboxDelivery.id ++ s.claimLog }
  | resolveTargets (s : State) {deliveries : List OutboxDeliveryRow}
      (targetsByAccount : TargetsByAccount) {earlier later : List (List OutboxDeliveryRow)}
      (claimed : s.claimedGeneric = earlier ++ deliveries :: later) :
      Step s (.resolveTargets deliveries targetsByAccount)
        { s with
          claimedGeneric := earlier ++ later
          fanOuts := FanOut.begin deliveries targetsByAccount :: s.fanOuts }
  | fanOut (s : State) {statement : GenericStatement} {ids : List String} {fanOut : FanOut}
      {earlier later : List FanOut} {remaining : List GenericStatement}
      (running : s.fanOuts = earlier ++ fanOut :: later)
      (next : fanOut.remaining = statement :: remaining)
      (fresh : FreshIds s.outbox statement.idCount ids) :
      Step s (.fanOut statement ids)
        { s with
          outbox := statement.run s.now ids s.outbox
          fanOuts := earlier ++ fanOut.advance statement remaining next :: later }
  | markDelivered (s : State) {delivery : OutboxDeliveryRow}
      {earlier later : List OutboxDeliveryRow}
      (held : s.sending = earlier ++ delivery :: later) :
      Step s (.markDelivered delivery)
        { s with
          outbox := (markOutboxDeliveryDelivered s.now delivery.id).run s.outbox
          sending := earlier ++ later }
  | markTerminalFailure (s : State) {delivery : OutboxDeliveryRow}
      {earlier later : List OutboxDeliveryRow}
      (held : s.sending = earlier ++ delivery :: later) :
      Step s (.markTerminalFailure delivery)
        { s with
          outbox := (markOutboxDeliveryTerminalFailure s.now delivery.id
            (nextDeliveryAttemptCount delivery.attemptCount)).run s.outbox
          sending := earlier ++ later }
  | reschedule (s : State) {delivery : OutboxDeliveryRow}
      {earlier later : List OutboxDeliveryRow}
      (held : s.sending = earlier ++ delivery :: later)
      (retried : isDeliveryTerminal (nextDeliveryAttemptCount delivery.attemptCount) = false) :
      Step s (.reschedule delivery)
        { s with
          outbox := (rescheduleOutboxDelivery s.now delivery.id
            (nextDeliveryAttemptCount delivery.attemptCount)).run s.outbox
          sending := earlier ++ later }
  | requeueStale (s : State) :
      Step s .requeueStale
        { s with outbox := (requeueStaleInFlightOutboxDeliveries s.now).run s.outbox }
  | cancelForInbox (s : State) (accountId targetInbox : String) :
      Step s (.cancelForInbox accountId targetInbox)
        { s with
          outbox :=
            (cancelPendingOutboxDeliveriesForInbox accountId targetInbox).run s.outbox }

/-- The runs of the delivery workers. -/
abbrev OutboxRun := Run Step State.initial

end Workers

section RowHistory

/-! ## What a step makes of one outbox row

Rows are never deleted by the delivery code, so the history of a row is the
sequence of changes its id sees.  `Event.onRow` is the change one event makes;
`Step.find_some` says that a step does exactly that, and `Step.find_none` that a
row appears only as a fresh queued one.
-/

open Library

/-- What a fan-out statement makes of a stored row. -/
def GenericStatement.onRow (now : Nat) : GenericStatement → OutboxDelivery → OutboxDelivery
  | .completeWithoutTargets deliveryIds, row =>
    (markOutboxDeliveriesCompletedWithoutTargets now deliveryIds).onRow row
  | .insertTargets _, row => row
  | .markExpanded deliveries, row =>
    (markOutboxDeliveriesExpanded (deliveries.map OutboxDeliveryRow.id)).onRow row

def Event.onRow (now : Nat) : Event → OutboxDelivery → OutboxDelivery
  | .claimGeneric chosen, row =>
    (claimPendingOutboxDeliveries now (chosen.map OutboxDelivery.id)).onRow row
  | .claimTarget chosen, row =>
    (claimPendingOutboxDeliveries now (chosen.map OutboxDelivery.id)).onRow row
  | .fanOut statement _, row => statement.onRow now row
  | .markDelivered delivery, row => (markOutboxDeliveryDelivered now delivery.id).onRow row
  | .markTerminalFailure delivery, row =>
    (markOutboxDeliveryTerminalFailure now delivery.id
      (nextDeliveryAttemptCount delivery.attemptCount)).onRow row
  | .reschedule delivery, row =>
    (rescheduleOutboxDelivery now delivery.id
      (nextDeliveryAttemptCount delivery.attemptCount)).onRow row
  | .requeueStale, row => (requeueStaleInFlightOutboxDeliveries now).onRow row
  | .cancelForInbox accountId targetInbox, row =>
    (cancelPendingOutboxDeliveriesForInbox accountId targetInbox).onRow row
  | .tick _, row => row
  | .enqueueGeneric .., row => row
  | .enqueueTargeted .., row => row
  | .resolveTargets .., row => row

variable {s s' : State} {event : Event} {id : String} {row : OutboxDelivery}

theorem GenericStatement.find_run_of_some {now : Nat} {ids : List String}
    {outbox : OutboxDeliveries} (stmt : GenericStatement)
    (got : outbox.find id = some row) :
    (stmt.run now ids outbox).find id = some (stmt.onRow now row) := by
  cases stmt with
  | completeWithoutTargets deliveryIds | markExpanded deliveries =>
    simp only [GenericStatement.run, GenericStatement.onRow, Table.find_run, got, Option.map_some]
  | insertTargets chunk =>
    exact Table.find_insertAll_of_some _ _ got

/-- **A stored row stays stored**, changed as its event says. -/
theorem Step.find_some (step : Step s event s') (got : s.outbox.find id = some row) :
    s'.outbox.find id = some (event.onRow s.now row) := by
  cases step with
  | tick | resolveTargets => exact got
  | enqueueGeneric => exact Table.find_orIgnore_of_some _ _ got
  | enqueueTargeted => exact Table.find_insertAll_of_some _ _ got
  | fanOut => exact GenericStatement.find_run_of_some _ got
  | claimGeneric | claimTarget | markDelivered | markTerminalFailure | reschedule
  | requeueStale | cancelForInbox => simp only [Event.onRow, Table.find_run, got, Option.map_some]

/-- A row as the enqueueing statements write it. -/
def OutboxDelivery.IsFresh (row : OutboxDelivery) : Prop :=
  row.state = .queued ∧ row.attemptCount = 0

theorem isFresh_of_mem_targetedOutboxRows {now : Nat} {accountId : String}
    {statusId : Option String} {actId activityType payload : String}
    {targetInboxes ids : List String}
    (mem : row ∈ targetedOutboxRows now accountId statusId actId activityType payload
      targetInboxes ids) : row.IsFresh := by
  obtain ⟨⟨id, inbox⟩, _, rfl⟩ := List.mem_map.mp mem
  exact ⟨rfl, rfl⟩

theorem isFresh_of_mem_expandedOutboxRows {now : Nat}
    {chunk : List (OutboxDeliveryRow × String)} {ids : List String}
    (mem : row ∈ expandedOutboxRows now chunk ids) : row.IsFresh := by
  obtain ⟨⟨id, delivery, target⟩, _, rfl⟩ := List.mem_map.mp mem
  exact ⟨rfl, rfl⟩

theorem find_run_ne_some_of_none {update : Update OutboxDelivery OutboxDelivery.id}
    {outbox : OutboxDeliveries} (gone : outbox.find id = none) :
    (update.run outbox).find id ≠ some row := by
  simp [gone]

/-- **A row appears only as a fresh one.** -/
theorem Step.find_none (step : Step s event s') (gone : s.outbox.find id = none)
    (got : s'.outbox.find id = some row) : row.IsFresh := by
  cases step with
  | tick | resolveTargets => simp [gone] at got
  | enqueueGeneric =>
    rcases Table.find_orIgnore _ _ got with old | ⟨_, eq⟩
    · simp [gone] at old
    · subst eq
      exact ⟨rfl, rfl⟩
  | enqueueTargeted fresh =>
    rcases Table.find_insertAll _ _ got with old | ⟨_, mem⟩
    · simp [gone] at old
    · exact isFresh_of_mem_targetedOutboxRows mem
  | @fanOut stmt ids =>
    cases stmt with
    | completeWithoutTargets | markExpanded =>
      exact absurd got (find_run_ne_some_of_none gone)
    | insertTargets chunk =>
      rcases Table.find_insertAll _ _ got with old | ⟨_, mem⟩
      · simp [gone] at old
      · exact isFresh_of_mem_expandedOutboxRows mem
  | claimGeneric | claimTarget | markDelivered | markTerminalFailure | reschedule
  | requeueStale | cancelForInbox => exact absurd got (find_run_ne_some_of_none gone)

/-! ## Claims -/

theorem claims_append {chosen : List OutboxDelivery} {log : List String}
    (nodup : (chosen.map OutboxDelivery.id).Nodup) :
    (chosen.map OutboxDelivery.id ++ log).count id
      = (if id ∈ chosen.map OutboxDelivery.id then 1 else 0) + log.count id := by
  rw [List.count_append, List.Nodup.count nodup]

theorem queued_of_isDue {now : Nat} (due : row.isDue now = true) : row.state = .queued := by
  simp only [OutboxDelivery.isDue, Bool.and_eq_true, beq_iff_eq] at due
  exact due.1

end RowHistory

end Cfwdon.Delivery
