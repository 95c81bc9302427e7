import Cfwdon.Library.Run
import Cfwdon.Delivery.Outbox

/-!
# Outbound activities and follows

`outbound_activities` holds the activities sent to one remote actor, a `Follow`
among them; `follows` holds the state of the follow it asks for.  Workers claim
and settle outbound activities as they do outbox rows.  When a `Follow` fails for
good, the follow is set to failed by a second statement,
`reconcile_follow_state_for_terminal_outbound`.

`OutboundStep` has one constructor per statement, so another worker may step
between the mark of a terminal failure and the follow update after it.
-/

namespace Cfwdon.Delivery

open Library

structure OutboundActivity where
  id : String
  accountId : String
  activityId : String
  activityType : String
  targetActorUri : Option String
  targetInbox : String
  payloadJson : String
  state : OutboxState
  attemptCount : Nat
  lastAttemptAt : Option Nat
  nextAttemptAt : Option Nat
  createdAt : Nat
  deriving DecidableEq

/-- `outbound_activities`, keyed by id. -/
abbrev OutboundActivities := Table OutboundActivity OutboundActivity.id

/-- What a claim or a requeue returns to the worker. -/
structure OutboundActivityRow where
  id : String
  accountId : String
  activityId : String
  activityType : String
  targetActorUri : Option String
  targetInbox : String
  payloadJson : String
  attemptCount : Nat

def OutboundActivity.returning (row : OutboundActivity) : OutboundActivityRow where
  id := row.id
  accountId := row.accountId
  activityId := row.activityId
  activityType := row.activityType
  targetActorUri := row.targetActorUri
  targetInbox := row.targetInbox
  payloadJson := row.payloadJson
  attemptCount := row.attemptCount

inductive RemoteFollowState where
  | pending
  | accepted
  | rejected
  | failed
  deriving DecidableEq

/-- A row of `follows`, one per follower and target. -/
structure Follow where
  followerAccountId : String
  targetActorUri : String
  followActivityId : Option String
  state : RemoteFollowState
  deriving DecidableEq

def Follow.key (follow : Follow) : String × String :=
  (follow.followerAccountId, follow.targetActorUri)

abbrev Follows := Table Follow Follow.key

/-- A follow with another activity and state, between the same two parties. -/
def Follow.refollow (followActivityId : String) (state : RemoteFollowState) (follow : Follow) :
    Follow :=
  { follow with followActivityId := some followActivityId, state := state }

theorem Follow.key_refollow (followId : String) (state : RemoteFollowState)
    (follow : Follow) : (follow.refollow followId state).key = follow.key := rfl

/-- The answer of a remote actor to a follow. -/
inductive FollowInboxResponse where
  | accept
  | reject

def FollowInboxResponse.asState : FollowInboxResponse → RemoteFollowState
  | .accept => .accepted
  | .reject => .rejected

def initialRemoteFollowState (actorLocked : Bool) : RemoteFollowState :=
  if actorLocked then .pending else .accepted

/-- The follow state a terminal failure leads to: only `Follow` has one. -/
def outboundTerminalFailureFollowState (activityType : String) : Option RemoteFollowState :=
  if activityType = "Follow" then some .failed else none

/-! ## Statements on outbound activities -/

/-- The conflict branch of `enqueue_outbound_activity`: the row of that activity is
queued again with the new content. -/
def requeueOutboundActivity (now : Nat) (activityId activityType : String)
    (targetActorUri : Option String) (targetInbox payloadJson : String) :
    Update OutboundActivity OutboundActivity.id where
  guard row := row.activityId == activityId
  set row :=
    { row with
      activityType := activityType
      targetActorUri := targetActorUri
      targetInbox := targetInbox
      payloadJson := payloadJson
      state := .queued
      attemptCount := 0
      lastAttemptAt := none
      nextAttemptAt := some now }
  keeps _ := rfl

/-- One row per activity id, queued. -/
def enqueueOutboundActivity (now : Nat) (id accountId activityId activityType : String)
    (targetActorUri : Option String) (targetInbox payloadJson : String)
    (activities : OutboundActivities) : OutboundActivities :=
  if activities.exists? fun row => row.activityId == activityId then
    (requeueOutboundActivity now activityId activityType targetActorUri targetInbox
      payloadJson).run activities
  else
    activities.insert
      { id := id
        accountId := accountId
        activityId := activityId
        activityType := activityType
        targetActorUri := targetActorUri
        targetInbox := targetInbox
        payloadJson := payloadJson
        state := .queued
        attemptCount := 0
        lastAttemptAt := none
        nextAttemptAt := some now
        createdAt := now }

/-- The subselect of `claim_pending_outbound_activities`. -/
def pendingOutbound (now : Nat) (row : OutboundActivity) : Bool :=
  row.state == .queued
    && match row.nextAttemptAt with
      | none => true
      | some instant => decide (instant ≤ now)

def claimPendingOutboundActivities (now : Nat) (ids : List String) :
    Update OutboundActivity OutboundActivity.id where
  guard row := ids.contains row.id
  set row := { row with state := .inFlight, lastAttemptAt := some now }
  keeps _ := rfl

def markOutboundActivityDelivered (now : Nat) (id : String) :
    Update OutboundActivity OutboundActivity.id where
  guard row := row.id == id && row.state == .inFlight
  set row :=
    { row with state := .delivered, lastAttemptAt := some now, nextAttemptAt := none }
  keeps _ := rfl

def markOutboundActivityTerminalFailure (now : Nat) (id : String) (nextAttempt : Nat) :
    Update OutboundActivity OutboundActivity.id where
  guard row := row.id == id && row.state == .inFlight
  set row :=
    { row with
      state := .failed
      attemptCount := nextAttempt
      lastAttemptAt := some now
      nextAttemptAt := none }
  keeps _ := rfl

def rescheduleOutboundActivity (now : Nat) (id : String) (nextAttempt : Nat) :
    Update OutboundActivity OutboundActivity.id where
  guard row := row.id == id && row.state == .inFlight
  set row :=
    { row with
      state := .queued
      attemptCount := nextAttempt
      lastAttemptAt := some now
      nextAttemptAt := some (now + deliveryRetryDelayModifier nextAttempt) }
  keeps _ := rfl

def requeueStaleInFlightOutboundActivities (now : Nat) :
    Update OutboundActivity OutboundActivity.id where
  guard row :=
    row.state == .inFlight && isStaleSince now outboxInFlightStaleSeconds row.lastAttemptAt
  set row :=
    { row with
      attemptCount := row.attemptCount + 1
      state := if deliveryMaxAttempts ≤ row.attemptCount + 1 then .failed else .queued
      nextAttemptAt := if deliveryMaxAttempts ≤ row.attemptCount + 1 then none else some now }
  keeps _ := rfl

/-- The rows the requeue returns that it has given up. -/
def requeueTerminalFailures (now : Nat) (activities : OutboundActivities) :
    List OutboundActivityRow :=
  let requeue := requeueStaleInFlightOutboundActivities now
  (((activities.select requeue.guard).map requeue.set).filter fun row => row.state == .failed).map
    OutboundActivity.returning

/-! ## Statements on follows -/

def upsertRemoteFollow (followerAccountId targetActorUri followActivityId : String)
    (actorLocked : Bool) (follows : Follows) : Follows :=
  follows.upsert
    { followerAccountId := followerAccountId
      targetActorUri := targetActorUri
      followActivityId := some followActivityId
      state := initialRemoteFollowState actorLocked }
    (Follow.refollow followActivityId (initialRemoteFollowState actorLocked))
    (Follow.key_refollow followActivityId (initialRemoteFollowState actorLocked))

def deleteFollowByTarget (followerAccountId targetActorUri : String) (follows : Follows) :
    Follows :=
  follows.deleteWhere fun follow =>
    follow.followerAccountId == followerAccountId && follow.targetActorUri == targetActorUri

/-- `update_follow_state_from_response`, for a response of the followed actor. -/
def updateFollowStateFromResponse (followActivityId : String) (response : FollowInboxResponse) :
    Update Follow Follow.key where
  guard follow := follow.followActivityId == some followActivityId
  set follow := { follow with state := response.asState }
  keeps _ := rfl

/-- The update of `reconcile_follow_state_for_terminal_outbound`: the pending
follow of the activity fails.  Activities other than a `Follow` with a target
actor update nothing. -/
def reconcileFollowStateForTerminalOutbound (delivery : OutboundActivityRow) :
    Update Follow Follow.key where
  guard follow :=
    (outboundTerminalFailureFollowState delivery.activityType).isSome
      && delivery.targetActorUri == some follow.targetActorUri
      && follow.followerAccountId == delivery.accountId
      && follow.followActivityId == some delivery.activityId
      && follow.state == .pending
  set follow :=
    { follow with
      state := (outboundTerminalFailureFollowState delivery.activityType).getD follow.state }
  keeps _ := rfl

/-! ## Steps -/

/-- The two tables and the copies in workers' hands. -/
structure OutboundState where
  now : Nat
  activities : OutboundActivities
  follows : Follows
  /-- Claimed activities that are being sent. -/
  sending : List OutboundActivityRow
  /-- Activities given up, whose follow update has not run yet. -/
  reconciling : List OutboundActivityRow

def OutboundState.initial : OutboundState where
  now := 0
  activities := Table.empty
  follows := Table.empty
  sending := []
  reconciling := []

inductive OutboundEvent where
  | tick (seconds : Nat)
  | enqueue (id accountId activityId activityType : String) (targetActorUri : Option String)
      (targetInbox payloadJson : String)
  | upsertFollow (followerAccountId targetActorUri followActivityId : String)
      (actorLocked : Bool)
  | deleteFollow (followerAccountId targetActorUri : String)
  | followResponse (followActivityId : String) (response : FollowInboxResponse)
  | claim (chosen : List OutboundActivity)
  | markDelivered (delivery : OutboundActivityRow)
  | reschedule (delivery : OutboundActivityRow)
  | markTerminalFailure (delivery : OutboundActivityRow)
  | reconcileFollow (delivery : OutboundActivityRow)
  | requeueStale

/-- The batch size of the claim. -/
def outboundClaimLimit : Nat := 32

/-- One statement of some worker or request, or the passing of time. -/
inductive OutboundStep : OutboundState → OutboundEvent → OutboundState → Prop where
  | tick (s : OutboundState) (seconds : Nat) :
      OutboundStep s (.tick seconds) { s with now := s.now + seconds }
  | enqueue (s : OutboundState) (id accountId activityId activityType : String)
      (targetActorUri : Option String) (targetInbox payloadJson : String) :
      OutboundStep s
        (.enqueue id accountId activityId activityType targetActorUri targetInbox payloadJson)
        { s with
          activities := enqueueOutboundActivity s.now id accountId activityId activityType
            targetActorUri targetInbox payloadJson s.activities }
  | upsertFollow (s : OutboundState)
      (followerAccountId targetActorUri followActivityId : String) (actorLocked : Bool) :
      OutboundStep s
        (.upsertFollow followerAccountId targetActorUri followActivityId actorLocked)
        { s with
          follows :=
            upsertRemoteFollow followerAccountId targetActorUri followActivityId actorLocked
              s.follows }
  | deleteFollow (s : OutboundState) (followerAccountId targetActorUri : String) :
      OutboundStep s (.deleteFollow followerAccountId targetActorUri)
        { s with follows := deleteFollowByTarget followerAccountId targetActorUri s.follows }
  | followResponse (s : OutboundState) (followActivityId : String)
      (response : FollowInboxResponse) :
      OutboundStep s (.followResponse followActivityId response)
        { s with
          follows := (updateFollowStateFromResponse followActivityId response).run s.follows }
  | claim (s : OutboundState) {chosen : List OutboundActivity}
      (selection : Selection OutboundActivity.createdAt outboundClaimLimit
        (s.activities.select (pendingOutbound s.now)) chosen) :
      OutboundStep s (.claim chosen)
        { s with
          activities := (claimPendingOutboundActivities s.now
            (chosen.map OutboundActivity.id)).run s.activities
          sending := chosen.map OutboundActivity.returning ++ s.sending }
  | markDelivered (s : OutboundState) {delivery : OutboundActivityRow}
      {earlier later : List OutboundActivityRow}
      (held : s.sending = earlier ++ delivery :: later) :
      OutboundStep s (.markDelivered delivery)
        { s with
          activities := (markOutboundActivityDelivered s.now delivery.id).run s.activities
          sending := earlier ++ later }
  | reschedule (s : OutboundState) {delivery : OutboundActivityRow}
      {earlier later : List OutboundActivityRow}
      (held : s.sending = earlier ++ delivery :: later)
      (retried : isDeliveryTerminal (nextDeliveryAttemptCount delivery.attemptCount) = false) :
      OutboundStep s (.reschedule delivery)
        { s with
          activities := (rescheduleOutboundActivity s.now delivery.id
            (nextDeliveryAttemptCount delivery.attemptCount)).run s.activities
          sending := earlier ++ later }
  | markTerminalFailure (s : OutboundState) {delivery : OutboundActivityRow}
      {earlier later : List OutboundActivityRow}
      (held : s.sending = earlier ++ delivery :: later) :
      OutboundStep s (.markTerminalFailure delivery)
        { s with
          activities := (markOutboundActivityTerminalFailure s.now delivery.id
            (nextDeliveryAttemptCount delivery.attemptCount)).run s.activities
          sending := earlier ++ later
          reconciling := delivery :: s.reconciling }
  | reconcileFollow (s : OutboundState) {delivery : OutboundActivityRow}
      {earlier later : List OutboundActivityRow}
      (marked : s.reconciling = earlier ++ delivery :: later) :
      OutboundStep s (.reconcileFollow delivery)
        { s with
          follows := (reconcileFollowStateForTerminalOutbound delivery).run s.follows
          reconciling := earlier ++ later }
  | requeueStale (s : OutboundState) :
      OutboundStep s .requeueStale
        { s with
          activities := (requeueStaleInFlightOutboundActivities s.now).run s.activities
          reconciling := requeueTerminalFailures s.now s.activities ++ s.reconciling }

abbrev OutboundRun := Run OutboundStep OutboundState.initial

end Cfwdon.Delivery
