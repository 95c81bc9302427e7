import Cfwdon.Delivery.OutboundActivities
import Cfwdon.Delivery.Workers

/-!
# The consumer of the outbox queue

One consumer handles the messages of the outbox queue one after the other.  For each it
checks that there is work, requeues what was left in flight, expands generic deliveries,
claims target deliveries and outbound activities, and settles every claimed row.  A batch
that made progress sends the next message itself, if there is work left.

A step is one statement of the batch, one turn of its two loops, or something that happens
meanwhile: time passes, or the deliveries to an inbox are cancelled.  A batch may fail
before any of its statements; what it has written stays, and no message is sent.

`hostStr` stands for the URL parser.
-/

namespace Cfwdon.Delivery

open Library

structure OutboxProcessResponse where
  expanded : Nat
  delivered : Nat
  failed : Nat
  completedWithoutTargets : Nat

/-- The summary a batch starts with. -/
def OutboxProcessResponse.default : OutboxProcessResponse where
  expanded := 0
  delivered := 0
  failed := 0
  completedWithoutTargets := 0

def outboxBatchMadeProgress (summary : OutboxProcessResponse) : Bool :=
  0 < summary.expanded || 0 < summary.delivered || 0 < summary.failed
    || 0 < summary.completedWithoutTargets

/-- A row is queued and due, or its lease is stale. -/
def pendingOutboxWorkExists (now : Nat) (outbox : OutboxDeliveries)
    (activities : OutboundActivities) : Bool :=
  outbox.exists? (OutboxDelivery.isDue now) || activities.exists? (pendingOutbound now)
    || outbox.exists? (requeueStaleInFlightOutboxDeliveries now).guard
    || activities.exists? (requeueStaleInFlightOutboundActivities now).guard

/-- Whether a statement changes a row. -/
def d1ResultDidChange {Row Key : Type*} {key : Row → Key} (statement : Update Row key)
    (table : Table Row key) : Bool :=
  table.exists? statement.guard

/-! ## Settling a claimed row -/

/-- What the batch looks up about local accounts: which it finds, and the domains they
block. -/
structure Directory where
  hasAccount : String → Bool
  blockedDomains : String → List String

/-- The answer of `send_signed_activity`. -/
inductive SendResult where
  | ok
  | error (isPermanent : Bool)

/-- Whether a failed send is the last one. -/
def isTerminalSend (attemptCount : Nat) (isPermanent : Bool) : Bool :=
  isPermanent || isDeliveryTerminal (nextDeliveryAttemptCount attemptCount)

/-- The table, the counters and the deliveries to send, in the loop over claimed target
deliveries. -/
structure TargetLoop where
  outbox : OutboxDeliveries
  summary : OutboxProcessResponse
  jobs : List OutboxDeliveryRow

section Loops

variable (hostStr : String → Option String)

/-- One turn of the loop that admits target deliveries: a delivery of a missing account or
to a blocked inbox fails for good, the others are sent. -/
def TargetLoop.turn (directory : Directory) (now : Nat) (delivery : OutboxDeliveryRow)
    (loop : TargetLoop) : TargetLoop :=
  match delivery.targetInbox with
  | none => loop
  | some targetInbox =>
    let failure := markOutboxDeliveryTerminalFailure now delivery.id
      (nextDeliveryAttemptCount delivery.attemptCount)
    if !directory.hasAccount delivery.accountId then
      { loop with
        outbox := failure.run loop.outbox
        summary := { loop.summary with failed := loop.summary.failed + 1 } }
    else if deliveryInboxBlockedByDomains hostStr targetInbox
        (directory.blockedDomains delivery.accountId) then
      { loop with
        outbox := failure.run loop.outbox
        summary :=
          { loop.summary with
            failed := loop.summary.failed + (d1ResultDidChange failure loop.outbox).toNat } }
    else { loop with jobs := loop.jobs ++ [delivery] }

/-- The same for claimed outbound activities. -/
structure OutboundLoop where
  activities : OutboundActivities
  summary : OutboxProcessResponse
  jobs : List OutboundActivityRow

def OutboundLoop.turn (directory : Directory) (now : Nat) (delivery : OutboundActivityRow)
    (loop : OutboundLoop) : OutboundLoop :=
  if !directory.hasAccount delivery.accountId
      || deliveryInboxBlockedByDomains hostStr delivery.targetInbox
        (directory.blockedDomains delivery.accountId) then
    { loop with
      activities := (markOutboundActivityTerminalFailure now delivery.id
        (nextDeliveryAttemptCount delivery.attemptCount)).run loop.activities
      summary := { loop.summary with failed := loop.summary.failed + 1 } }
  else { loop with jobs := loop.jobs ++ [delivery] }

end Loops

def settleTargetDelivery (now : Nat) (delivery : OutboxDeliveryRow) :
    SendResult → Update OutboxDelivery OutboxDelivery.id
  | .ok => markOutboxDeliveryDelivered now delivery.id
  | .error isPermanent =>
    let nextAttempt := nextDeliveryAttemptCount delivery.attemptCount
    if isTerminalSend delivery.attemptCount isPermanent then
      markOutboxDeliveryTerminalFailure now delivery.id nextAttempt
    else rescheduleOutboxDelivery now delivery.id nextAttempt

def countTargetDelivery (result : SendResult) (changed : Bool)
    (summary : OutboxProcessResponse) : OutboxProcessResponse :=
  match result with
  | .ok => { summary with delivered := summary.delivered + changed.toNat }
  | .error _ => { summary with failed := summary.failed + changed.toNat }

def settleOutboundActivity (now : Nat) (delivery : OutboundActivityRow) :
    SendResult → Update OutboundActivity OutboundActivity.id
  | .ok => markOutboundActivityDelivered now delivery.id
  | .error isPermanent =>
    let nextAttempt := nextDeliveryAttemptCount delivery.attemptCount
    if isTerminalSend delivery.attemptCount isPermanent then
      markOutboundActivityTerminalFailure now delivery.id nextAttempt
    else rescheduleOutboundActivity now delivery.id nextAttempt

/-- The counters after a sent outbound activity; a terminal failure always counts. -/
def countOutboundActivity (delivery : OutboundActivityRow) (result : SendResult)
    (changed : Bool) (summary : OutboxProcessResponse) : OutboxProcessResponse :=
  match result with
  | .ok => { summary with delivered := summary.delivered + changed.toNat }
  | .error isPermanent =>
    if isTerminalSend delivery.attemptCount isPermanent then
      { summary with failed := summary.failed + 1 }
    else { summary with failed := summary.failed + changed.toNat }

def countGenericStatement (targetsByAccount : TargetsByAccount)
    (summary : OutboxProcessResponse) : GenericStatement → OutboxProcessResponse
  | .completeWithoutTargets deliveryIds =>
    { summary with
      completedWithoutTargets := summary.completedWithoutTargets + deliveryIds.length }
  | .insertTargets _ => summary
  | .markExpanded deliveries =>
    { summary with
      expanded := summary.expanded
        + (collectOutboxDeliveryExpansions deliveries targetsByAccount).length }

/-! ## Phases of a batch -/

/-- Where the consumer is in `process_outbox_queue_batch`. -/
inductive Phase where
  /-- No message is being handled. -/
  | idle
  | requeueOutbox
  | requeueOutbound
  | claimGeneric
  | resolveTargets (deliveries : List OutboxDeliveryRow)
  | fanOut (running : FanOut)
  /-- The two claims, which may come in either order. -/
  | claimDeliveries (targets : Option (List OutboxDeliveryRow))
      (outbound : Option (List OutboundActivityRow))
  | admitTargets (directory : Directory) (waiting jobs : List OutboxDeliveryRow)
      (outbound : List OutboundActivityRow)
  | sendTargets (directory : Directory) (jobs : List OutboxDeliveryRow)
      (outbound : List OutboundActivityRow)
  | admitOutbound (directory : Directory) (waiting jobs : List OutboundActivityRow)
  | sendOutbound (jobs : List OutboundActivityRow)
  /-- The batch is done; the continuation is still to be decided. -/
  | finish

/-- The two delivery tables, and the consumer's place in its batch. -/
structure Consumer where
  now : Nat
  outbox : OutboxDeliveries
  activities : OutboundActivities
  phase : Phase
  summary : OutboxProcessResponse

inductive ConsumerEvent where
  | tick (seconds : Nat)
  | cancelForInbox (accountId targetInbox : String)
  | beginBatch
  | work
  | enqueueContinuation
  | endBatch

/-- The consumer between two messages. -/
def Consumer.rest (s : Consumer) : Consumer :=
  { s with phase := .idle, summary := .default }

def Consumer.asksForContinuation (s : Consumer) : Bool :=
  outboxBatchMadeProgress s.summary && pendingOutboxWorkExists s.now s.outbox s.activities

/-- One statement of the batch, one turn of a loop, or something that happens meanwhile. -/
inductive ConsumerStep (hostStr : String → Option String) :
    Consumer → ConsumerEvent → Consumer → Prop where
  | tick (s : Consumer) (seconds : Nat) :
      ConsumerStep hostStr s (.tick seconds) { s with now := s.now + seconds }
  | cancelForInbox (s : Consumer) (accountId targetInbox : String) :
      ConsumerStep hostStr s (.cancelForInbox accountId targetInbox)
        { s with
          outbox := (cancelPendingOutboxDeliveriesForInbox accountId targetInbox).run s.outbox }
  | idleBatch (s : Consumer) (here : s.phase = .idle)
      (noWork : pendingOutboxWorkExists s.now s.outbox s.activities = false) :
      ConsumerStep hostStr s .endBatch s
  | beginBatch (s : Consumer) (here : s.phase = .idle)
      (work : pendingOutboxWorkExists s.now s.outbox s.activities = true) :
      ConsumerStep hostStr s .beginBatch { s with phase := .requeueOutbox, summary := .default }
  | requeueOutbox (s : Consumer) (here : s.phase = .requeueOutbox) :
      ConsumerStep hostStr s .work
        { s with
          outbox := (requeueStaleInFlightOutboxDeliveries s.now).run s.outbox
          phase := .requeueOutbound }
  | requeueOutbound (s : Consumer) (here : s.phase = .requeueOutbound) :
      ConsumerStep hostStr s .work
        { s with
          activities := (requeueStaleInFlightOutboundActivities s.now).run s.activities
          phase := .claimGeneric }
  | claimGeneric (s : Consumer) {chosen : List OutboxDelivery} (here : s.phase = .claimGeneric)
      (selection : Selection OutboxDelivery.createdAt genericClaimLimit
        (s.outbox.select (pendingGeneric s.now)) chosen) :
      ConsumerStep hostStr s .work
        { s with
          outbox :=
            (claimPendingOutboxDeliveries s.now (chosen.map OutboxDelivery.id)).run s.outbox
          phase := .resolveTargets (chosen.map OutboxDelivery.returning) }
  | noGeneric (s : Consumer) (here : s.phase = .resolveTargets []) :
      ConsumerStep hostStr s .work { s with phase := .claimDeliveries none none }
  | resolveTargets (s : Consumer) {deliveries : List OutboxDeliveryRow}
      (targetsByAccount : TargetsByAccount) (here : s.phase = .resolveTargets deliveries)
      (claimed : deliveries ≠ []) :
      ConsumerStep hostStr s .work
        { s with phase := .fanOut (FanOut.begin deliveries targetsByAccount) }
  | fanOut (s : Consumer) {running : FanOut} {statement : GenericStatement}
      {ids : List String} {remaining : List GenericStatement} (here : s.phase = .fanOut running)
      (next : running.remaining = statement :: remaining)
      (fresh : FreshIds s.outbox statement.idCount ids) :
      ConsumerStep hostStr s .work
        { s with
          outbox := statement.run s.now ids s.outbox
          phase := .fanOut (running.advance statement remaining next)
          summary := countGenericStatement running.targetsByAccount s.summary statement }
  | fanOutDone (s : Consumer) {running : FanOut} (here : s.phase = .fanOut running)
      (complete : running.remaining = []) :
      ConsumerStep hostStr s .work { s with phase := .claimDeliveries none none }
  | claimTargets (s : Consumer) {outbound : Option (List OutboundActivityRow)}
      {chosen : List OutboxDelivery} (here : s.phase = .claimDeliveries none outbound)
      (selection : Selection OutboxDelivery.createdAt targetClaimLimit
        (s.outbox.select (pendingTarget s.now)) chosen) :
      ConsumerStep hostStr s .work
        { s with
          outbox :=
            (claimPendingOutboxDeliveries s.now (chosen.map OutboxDelivery.id)).run s.outbox
          phase := .claimDeliveries (some (chosen.map OutboxDelivery.returning)) outbound }
  | claimOutbound (s : Consumer) {targets : Option (List OutboxDeliveryRow)}
      {chosen : List OutboundActivity} (here : s.phase = .claimDeliveries targets none)
      (selection : Selection OutboundActivity.createdAt outboundClaimLimit
        (s.activities.select (pendingOutbound s.now)) chosen) :
      ConsumerStep hostStr s .work
        { s with
          activities := (claimPendingOutboundActivities s.now
            (chosen.map OutboundActivity.id)).run s.activities
          phase := .claimDeliveries targets (some (chosen.map OutboundActivity.returning)) }
  | preloadAccounts (s : Consumer) {targets : List OutboxDeliveryRow}
      {outbound : List OutboundActivityRow} (directory : Directory)
      (here : s.phase = .claimDeliveries (some targets) (some outbound)) :
      ConsumerStep hostStr s .work { s with phase := .admitTargets directory targets [] outbound }
  | admitTarget (s : Consumer) {directory : Directory} {delivery : OutboxDeliveryRow}
      {waiting jobs : List OutboxDeliveryRow} {outbound : List OutboundActivityRow}
      (here : s.phase = .admitTargets directory (delivery :: waiting) jobs outbound) :
      ConsumerStep hostStr s .work
        { s with
          outbox := (TargetLoop.turn hostStr directory s.now delivery
            ⟨s.outbox, s.summary, jobs⟩).outbox
          summary := (TargetLoop.turn hostStr directory s.now delivery
            ⟨s.outbox, s.summary, jobs⟩).summary
          phase := .admitTargets directory waiting
            (TargetLoop.turn hostStr directory s.now delivery
              ⟨s.outbox, s.summary, jobs⟩).jobs outbound }
  | targetsAdmitted (s : Consumer) {directory : Directory} {jobs : List OutboxDeliveryRow}
      {outbound : List OutboundActivityRow}
      (here : s.phase = .admitTargets directory [] jobs outbound) :
      ConsumerStep hostStr s .work { s with phase := .sendTargets directory jobs outbound }
  | targetSent (s : Consumer) {directory : Directory} {delivery : OutboxDeliveryRow}
      {earlier later : List OutboxDeliveryRow} {outbound : List OutboundActivityRow}
      (result : SendResult)
      (here : s.phase = .sendTargets directory (earlier ++ delivery :: later) outbound) :
      ConsumerStep hostStr s .work
        { s with
          outbox := (settleTargetDelivery s.now delivery result).run s.outbox
          summary := countTargetDelivery result
            (d1ResultDidChange (settleTargetDelivery s.now delivery result) s.outbox) s.summary
          phase := .sendTargets directory (earlier ++ later) outbound }
  | targetsSent (s : Consumer) {directory : Directory} {outbound : List OutboundActivityRow}
      (here : s.phase = .sendTargets directory [] outbound) :
      ConsumerStep hostStr s .work { s with phase := .admitOutbound directory outbound [] }
  | admitOutbound (s : Consumer) {directory : Directory} {delivery : OutboundActivityRow}
      {waiting jobs : List OutboundActivityRow}
      (here : s.phase = .admitOutbound directory (delivery :: waiting) jobs) :
      ConsumerStep hostStr s .work
        { s with
          activities := (OutboundLoop.turn hostStr directory s.now delivery
            ⟨s.activities, s.summary, jobs⟩).activities
          summary := (OutboundLoop.turn hostStr directory s.now delivery
            ⟨s.activities, s.summary, jobs⟩).summary
          phase := .admitOutbound directory waiting
            (OutboundLoop.turn hostStr directory s.now delivery
              ⟨s.activities, s.summary, jobs⟩).jobs }
  | outboundAdmitted (s : Consumer) {directory : Directory} {jobs : List OutboundActivityRow}
      (here : s.phase = .admitOutbound directory [] jobs) :
      ConsumerStep hostStr s .work { s with phase := .sendOutbound jobs }
  | outboundSent (s : Consumer) {delivery : OutboundActivityRow}
      {earlier later : List OutboundActivityRow} (result : SendResult)
      (here : s.phase = .sendOutbound (earlier ++ delivery :: later)) :
      ConsumerStep hostStr s .work
        { s with
          activities := (settleOutboundActivity s.now delivery result).run s.activities
          summary := countOutboundActivity delivery result
            (d1ResultDidChange (settleOutboundActivity s.now delivery result) s.activities)
            s.summary
          phase := .sendOutbound (earlier ++ later) }
  | allSent (s : Consumer) (here : s.phase = .sendOutbound []) :
      ConsumerStep hostStr s .work { s with phase := .finish }
  | enqueueContinuation (s : Consumer) (here : s.phase = .finish)
      (asks : s.asksForContinuation = true) :
      ConsumerStep hostStr s .enqueueContinuation s.rest
  /-- The batch asks for no continuation, or the queue does not take the message. -/
  | endBatch (s : Consumer) (here : s.phase = .finish) : ConsumerStep hostStr s .endBatch s.rest
  /-- A statement fails, and the messages are to be delivered again. -/
  | fail (s : Consumer) (running : s.phase ≠ .idle) : ConsumerStep hostStr s .endBatch s.rest

end Cfwdon.Delivery
