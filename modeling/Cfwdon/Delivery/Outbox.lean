import Cfwdon.Library.Lists
import Cfwdon.Library.Table
import Cfwdon.Library.Text

/-!
# The outbox

The outbox table with its statements, the inboxes that are not delivered to, and the expansion
of the deliveries to followers.
-/

namespace Cfwdon.Delivery

section Outbox

/-! ## The outbox table and its statements

`outbox_deliveries` holds one row per delivery.  A generic row (no target
inbox) stands for a fan-out to followers that has not been expanded; a row with
a target inbox is one signed POST.  Every write of the delivery code is a single
guarded statement, modelled here by name.  Instants are seconds, and a
`datetime` modifier is its number of seconds.

The claims select and update in one statement, so two workers never hold one
row under one lease.  The marks name rows by id; all but one of them also ask
that the row still be in flight.
-/

open Library

def deliveryMaxAttempts : Nat := 5

/-- Addition on `i32`, stopping at its largest value. -/
def saturatingAdd (count increment : Nat) : Nat :=
  min (count + increment) 2147483647

/-- The attempt number a failed send is recorded under. -/
def nextDeliveryAttemptCount (attemptCount : Nat) : Nat :=
  saturatingAdd attemptCount 1

/-- Whether a delivery is given up at this attempt number. -/
def isDeliveryTerminal (nextAttempt : Nat) : Bool :=
  deliveryMaxAttempts ≤ nextAttempt

/-- Seconds until the next attempt: one, five, fifteen, then sixty minutes. -/
def deliveryRetryDelayModifier : Nat → Nat
  | 1 => 60
  | 2 => 300
  | 3 => 900
  | _ => 3600

/-- `OUTBOX_IN_FLIGHT_STALE_MODIFIER`: a lease is stale after fifteen minutes. -/
def outboxInFlightStaleSeconds : Nat := 900

theorem nextAttempts_of_not_terminal {attemptCount : Nat}
    (retried : isDeliveryTerminal (nextDeliveryAttemptCount attemptCount) = false) :
    nextDeliveryAttemptCount attemptCount = attemptCount + 1
      ∧ attemptCount + 1 < deliveryMaxAttempts := by
  have below := of_decide_eq_false retried
  simp only [nextDeliveryAttemptCount, saturatingAdd, deliveryMaxAttempts] at *
  omega

/-! ## Rows -/

/-- The `state` column of both delivery tables. -/
inductive OutboxState where
  | queued
  | expanded
  | inFlight
  | delivered
  | failed
  deriving DecidableEq

/-- A delivery that has been given up or has arrived. -/
def OutboxState.isTerminal : OutboxState → Bool
  | .delivered => true
  | .failed => true
  | _ => false

structure OutboxDelivery where
  id : String
  accountId : String
  statusId : Option String
  activityId : String
  activityType : String
  targetInbox : Option String
  payloadJson : String
  state : OutboxState
  attemptCount : Nat
  lastAttemptAt : Option Nat
  nextAttemptAt : Option Nat
  createdAt : Nat
  deriving DecidableEq

/-- `outbox_deliveries`, keyed by id. -/
abbrev OutboxDeliveries := Table OutboxDelivery OutboxDelivery.id

/-- What a claim returns to the worker: its own copy of the row. -/
structure OutboxDeliveryRow where
  id : String
  accountId : String
  statusId : Option String
  activityId : String
  activityType : String
  targetInbox : Option String
  payloadJson : String
  attemptCount : Nat
  deriving DecidableEq

def OutboxDelivery.returning (row : OutboxDelivery) : OutboxDeliveryRow where
  id := row.id
  accountId := row.accountId
  statusId := row.statusId
  activityId := row.activityId
  activityType := row.activityType
  targetInbox := row.targetInbox
  payloadJson := row.payloadJson
  attemptCount := row.attemptCount

/-! ## Inserts -/

/-- The unique index on `(activity_id, target_inbox)`.  A null target equals no
target, itself included. -/
def conflictsOnActivityTarget (row stored : OutboxDelivery) : Bool :=
  row.activityId == stored.activityId && row.targetInbox.isSome
    && row.targetInbox == stored.targetInbox

/-- A fresh queued row. -/
def queuedOutboxDelivery (now : Nat) (id accountId : String) (statusId : Option String)
    (activityId activityType : String) (targetInbox : Option String) (payloadJson : String) :
    OutboxDelivery where
  id := id
  accountId := accountId
  statusId := statusId
  activityId := activityId
  activityType := activityType
  targetInbox := targetInbox
  payloadJson := payloadJson
  state := .queued
  attemptCount := 0
  lastAttemptAt := none
  nextAttemptAt := some now
  createdAt := now

/-- `INSERT OR IGNORE INTO outbox_deliveries`, several values at once. -/
def insertOrIgnoreOutboxDeliveries (values : List OutboxDelivery) (outbox : OutboxDeliveries) :
    OutboxDeliveries :=
  outbox.insertAllOrIgnore conflictsOnActivityTarget values

/-! ## Claims -/

def OutboxDelivery.isDue (now : Nat) (row : OutboxDelivery) : Bool :=
  row.state == .queued
    && match row.nextAttemptAt with
      | none => true
      | some instant => decide (instant ≤ now)

/-- The subselect of `claim_pending_generic_outbox_deliveries`. -/
def pendingGeneric (now : Nat) (row : OutboxDelivery) : Bool :=
  row.isDue now && row.targetInbox.isNone

/-- The subselect of `claim_pending_target_outbox_deliveries`. -/
def pendingTarget (now : Nat) (row : OutboxDelivery) : Bool :=
  row.isDue now && row.targetInbox.isSome

/-- The update of both claims: the selected rows go in flight. -/
def claimPendingOutboxDeliveries (now : Nat) (ids : List String) :
    Update OutboxDelivery OutboxDelivery.id where
  guard row := ids.contains row.id
  set row := { row with state := .inFlight, lastAttemptAt := some now }
  keeps _ := rfl

/-! ## Marks -/

/-- The fan-out rows whose target rows have been inserted. -/
def markOutboxDeliveriesExpanded (deliveryIds : List String) :
    Update OutboxDelivery OutboxDelivery.id where
  guard row := deliveryIds.contains row.id && row.state == .inFlight
  set row := { row with state := .expanded }
  keeps _ := rfl

/-- The fan-out rows without any target.  This statement has no state guard. -/
def markOutboxDeliveriesCompletedWithoutTargets (now : Nat) (deliveryIds : List String) :
    Update OutboxDelivery OutboxDelivery.id where
  guard row := deliveryIds.contains row.id
  set row :=
    { row with state := .delivered, lastAttemptAt := some now, nextAttemptAt := none }
  keeps _ := rfl

/-- A delivered target row. -/
def markOutboxDeliveryDelivered (now : Nat) (deliveryId : String) :
    Update OutboxDelivery OutboxDelivery.id where
  guard row := row.id == deliveryId && row.state == .inFlight
  set row :=
    { row with state := .delivered, lastAttemptAt := some now, nextAttemptAt := none }
  keeps _ := rfl

/-- A target row that is given up, with the attempt number it failed at. -/
def markOutboxDeliveryTerminalFailure (now : Nat) (deliveryId : String) (nextAttempt : Nat) :
    Update OutboxDelivery OutboxDelivery.id where
  guard row := row.id == deliveryId && row.state == .inFlight
  set row :=
    { row with
      state := .failed
      attemptCount := nextAttempt
      lastAttemptAt := some now
      nextAttemptAt := none }
  keeps _ := rfl

/-- A target row that will be sent again after its delay. -/
def rescheduleOutboxDelivery (now : Nat) (deliveryId : String) (nextAttempt : Nat) :
    Update OutboxDelivery OutboxDelivery.id where
  guard row := row.id == deliveryId && row.state == .inFlight
  set row :=
    { row with
      state := .queued
      attemptCount := nextAttempt
      lastAttemptAt := some now
      nextAttemptAt := some (now + deliveryRetryDelayModifier nextAttempt) }
  keeps _ := rfl

/-- Whether a lease was taken too long ago. -/
def isStaleSince (now staleSeconds : Nat) (lastAttemptAt : Option Nat) : Bool :=
  match lastAttemptAt with
  | none => false
  | some instant => decide (instant + staleSeconds ≤ now)

/-- Rows in flight under a stale lease are queued again, or given up at the
last attempt. -/
def requeueStaleInFlightOutboxDeliveries (now : Nat) :
    Update OutboxDelivery OutboxDelivery.id where
  guard row :=
    row.state == .inFlight && isStaleSince now outboxInFlightStaleSeconds row.lastAttemptAt
  set row :=
    { row with
      attemptCount := row.attemptCount + 1
      state := if deliveryMaxAttempts ≤ row.attemptCount + 1 then .failed else .queued
      nextAttemptAt :=
        if deliveryMaxAttempts ≤ row.attemptCount + 1 then row.nextAttemptAt else some now }
  keeps _ := rfl

/-- Pending deliveries of an account to one inbox are given up when its follower
there leaves. -/
def cancelPendingOutboxDeliveriesForInbox (accountId targetInbox : String) :
    Update OutboxDelivery OutboxDelivery.id where
  guard row :=
    row.accountId == accountId && row.targetInbox == some targetInbox
      && (row.state == .queued || row.state == .expanded || row.state == .inFlight)
  set row := { row with state := .failed }
  keeps _ := rfl

end Outbox

section DomainBlocks

/-! ## Inboxes on blocked domains

An inbox is blocked when its host is a blocked domain or a subdomain of one.
`hostStr` stands for the URL parser: the host of a URL, if it parses and has one.
-/

open Library

variable (hostStr : String → Option String)

def deliveryInboxBlockedByDomains (inboxUrl : String) (blockedDomains : List String) : Bool :=
  if blockedDomains.isEmpty then false
  else
    match hostStr inboxUrl with
    | none => false
    | some host =>
      blockedDomains.any fun blocked =>
        let domain := toAsciiLowercase (trim blocked)
        !domain.isEmpty
          && (toAsciiLowercase host == domain
            || endsWith (toAsciiLowercase host) ("." ++ domain))

def filterDeliveryInboxesForDomainBlocks (inboxes blockedDomains : List String) : List String :=
  inboxes.filter fun inbox => !deliveryInboxBlockedByDomains hostStr inbox blockedDomains

end DomainBlocks

section Expansion

/-! ## Expanding generic deliveries

A worker that has claimed generic deliveries resolves the target inboxes of
their accounts, completes the deliveries without any, inserts one row per
remaining delivery and target in chunks, and marks the parents expanded.  Once
the targets are known the rest is a fixed list of statements,
`genericStatements`; a worker may stop after any of them.
-/

open Library

/-- The target inboxes of each account, as a map from account ids. -/
abbrev TargetsByAccount := Table (String × List String) Prod.fst

/-- The inboxes stored for an account. -/
def TargetsByAccount.get (targetsByAccount : TargetsByAccount) (accountId : String) :
    Option (List String) :=
  (targetsByAccount.find accountId).map Prod.snd

/-- Whether a number of targets calls for an expansion. -/
def genericOutboxHasFollowerTargets (followerTargetCount : Nat) : Bool :=
  0 < followerTargetCount

def hasTargets (targetsByAccount : TargetsByAccount) (delivery : OutboxDeliveryRow) : Bool :=
  match targetsByAccount.get delivery.accountId with
  | some targets => genericOutboxHasFollowerTargets targets.length
  | none => false

/-- The deliveries to expand, and the ids of those without any target. -/
def partitionGenericOutboxDeliveriesByTargets (deliveries : List OutboxDeliveryRow)
    (targetsByAccount : TargetsByAccount) : List OutboxDeliveryRow × List String :=
  (deliveries.filter (hasTargets targetsByAccount),
    (deliveries.filter fun delivery => !hasTargets targetsByAccount delivery).map
      OutboxDeliveryRow.id)

/-- The pairs to insert: each delivery with each distinct target of its account. -/
def collectOutboxDeliveryExpansions (deliveries : List OutboxDeliveryRow)
    (targetsByAccount : TargetsByAccount) : List (OutboxDeliveryRow × String) :=
  deliveries.flatMap fun delivery =>
    match targetsByAccount.get delivery.accountId with
    | none => []
    | some targets => targets.eraseDups.map fun target => (delivery, target)

/-- **The expanded pairs** are the deliveries with the targets of their accounts. -/
theorem mem_expansions {deliveries : List OutboxDeliveryRow}
    {targetsByAccount : TargetsByAccount} {delivery : OutboxDeliveryRow} {target : String} :
    (delivery, target) ∈ collectOutboxDeliveryExpansions deliveries targetsByAccount
      ↔ delivery ∈ deliveries
        ∧ ∃ targets, targetsByAccount.get delivery.accountId = some targets ∧ target ∈ targets := by
  simp only [collectOutboxDeliveryExpansions, List.mem_flatMap]
  constructor
  · rintro ⟨source, mem, expanded⟩
    cases got : targetsByAccount.get source.accountId with
    | none => simp [got] at expanded
    | some targets =>
      simp only [got, List.mem_map, List.mem_eraseDups, Prod.mk.injEq] at expanded
      obtain ⟨inbox, listed, rfl, rfl⟩ := expanded
      exact ⟨mem, targets, got, listed⟩
  · rintro ⟨mem, targets, got, listed⟩
    refine ⟨delivery, mem, ?_⟩
    simp only [got, List.mem_map, List.mem_eraseDups]
    exact ⟨target, listed, rfl⟩

/-! ## The statements of one expansion -/

def outboxDeliveryExpandChunkSize : Nat := 40

/-- The writes of `process_generic_outbox_deliveries`. -/
inductive GenericStatement where
  | completeWithoutTargets (deliveryIds : List String)
  | insertTargets (chunk : List (OutboxDeliveryRow × String))
  | markExpanded (deliveries : List OutboxDeliveryRow)
  deriving DecidableEq

def completionStatements (completedWithoutTargets : List String) : List GenericStatement :=
  if completedWithoutTargets.isEmpty then [] else [.completeWithoutTargets completedWithoutTargets]

/-- The inserts of `expand_outbox_delivery_targets_for_deliveries`. -/
def insertionStatements (deliveriesWithTargets : List OutboxDeliveryRow)
    (targetsByAccount : TargetsByAccount) : List GenericStatement :=
  (chunks outboxDeliveryExpandChunkSize
    (collectOutboxDeliveryExpansions deliveriesWithTargets targetsByAccount)).map .insertTargets

/-- The inserts and the mark of the deliveries with targets, if there are such. -/
def expansionStatements (deliveriesWithTargets : List OutboxDeliveryRow)
    (targetsByAccount : TargetsByAccount) : List GenericStatement :=
  if deliveriesWithTargets.isEmpty then []
  else insertionStatements deliveriesWithTargets targetsByAccount
    ++ [.markExpanded deliveriesWithTargets]

/-- The writes for claimed deliveries whose targets have been resolved. -/
def genericStatements (deliveries : List OutboxDeliveryRow)
    (targetsByAccount : TargetsByAccount) : List GenericStatement :=
  let partition := partitionGenericOutboxDeliveriesByTargets deliveries targetsByAccount
  completionStatements partition.2 ++ expansionStatements partition.1 targetsByAccount

section Order

variable {deliveries marked : List OutboxDeliveryRow} {targetsByAccount : TargetsByAccount}

theorem markExpanded_not_mem_completionStatements {deliveryIds : List String} :
    .markExpanded marked ∉ completionStatements deliveryIds := by
  unfold completionStatements
  intro mem
  split at mem <;> simp at mem

theorem markExpanded_not_mem_insertionStatements :
    .markExpanded marked ∉ insertionStatements deliveries targetsByAccount := by
  simp [insertionStatements]

theorem exists_insertTargets {pair : OutboxDeliveryRow × String}
    (mem : pair ∈ collectOutboxDeliveryExpansions deliveries targetsByAccount) :
    ∃ chunk, .insertTargets chunk ∈ insertionStatements deliveries targetsByAccount
      ∧ pair ∈ chunk := by
  have pos : 0 < outboxDeliveryExpandChunkSize := by decide
  rw [← flatten_chunks pos (collectOutboxDeliveryExpansions deliveries targetsByAccount)] at mem
  obtain ⟨chunk, chunkMember, inChunk⟩ := List.mem_flatten.mp mem
  exact ⟨chunk, List.mem_map.mpr ⟨chunk, chunkMember, rfl⟩, inChunk⟩

/-- **Inserts come before the mark.**  Wherever the mark stands among the
statements, it marks the deliveries that have targets, and each pair they expand
to is inserted by an earlier statement. -/
theorem insertTargets_before_markExpanded {prior later : List GenericStatement}
    (split : prior ++ .markExpanded marked :: later
      = genericStatements deliveries targetsByAccount) :
    marked = deliveries.filter (hasTargets targetsByAccount)
      ∧ ∀ pair ∈ collectOutboxDeliveryExpansions marked targetsByAccount,
          ∃ chunk, .insertTargets chunk ∈ prior ∧ pair ∈ chunk := by
  obtain ⟨completed, stmts⟩ : ∃ completed,
      genericStatements deliveries targetsByAccount = completionStatements completed
        ++ expansionStatements (deliveries.filter (hasTargets targetsByAccount))
          targetsByAccount := ⟨_, rfl⟩
  rw [stmts] at split
  generalize deliveries.filter (hasTargets targetsByAccount) = withTargets at split ⊢
  unfold expansionStatements at split
  split_ifs at split with noTargets
  · rw [List.append_nil] at split
    have mem : .markExpanded marked ∈ completionStatements completed := split ▸ by simp
    exact absurd mem markExpanded_not_mem_completionStatements
  · rw [← List.append_assoc] at split
    rcases later.eq_nil_or_concat with rfl | ⟨init, last, rfl⟩
    · obtain ⟨sameEarlier, sameMark⟩ := List.append_inj' split rfl
      simp only [List.cons.injEq, GenericStatement.markExpanded.injEq, and_true] at sameMark
      refine ⟨sameMark, ?_⟩
      intro pair mem
      rw [sameMark] at mem
      obtain ⟨chunk, added, inChunk⟩ := exists_insertTargets mem
      exact ⟨chunk, sameEarlier ▸ List.mem_append_right _ added, inChunk⟩
    · rw [List.concat_eq_append, ← List.cons_append, ← List.append_assoc] at split
      obtain ⟨sameEarlier, _⟩ := List.append_inj' split rfl
      have mem : .markExpanded marked ∈ completionStatements completed
          ++ insertionStatements withTargets targetsByAccount := sameEarlier ▸ by simp
      rcases List.mem_append.mp mem with early | late
      · exact absurd early markExpanded_not_mem_completionStatements
      · exact absurd late markExpanded_not_mem_insertionStatements

end Order

end Expansion

end Cfwdon.Delivery
