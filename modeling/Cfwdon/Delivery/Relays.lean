import Cfwdon.ActivityPub.Objects
import Cfwdon.Delivery.Outbox

/-!
# Relay inboxes among the targets of a batch

Public activities also go to the accepted relays.  A worker decides this per
delivery, by the payload, but adds the relay inboxes to the targets of the
delivery's account, which every delivery of that account in the batch shares.

`fromStr` stands for the JSON parser and `hostStr` for the URL parser.
-/

namespace Cfwdon.Delivery

open Library ActivityPub

variable (fromStr : String → Option Json) (hostStr : String → Option String)

/-- Whether a payload goes to the relays: a public create or update, or any delete. -/
def outboxPayloadIsPublicRelayCandidate (payloadJson : String) : Bool :=
  match fromStr payloadJson with
  | none => false
  | some payload =>
    let activityType := ((payload.get "type").bind Json.asStr).getD ""
    if activityType ∉ ["Create", "Update", "Delete"] then false
    else if activityType = "Delete" then true
    else
      match payload.get "object" with
      | some object => noteTargetsPublic object
      | none => false

/-! ## Targets of a batch -/

def filterFollowerTargets (blockedDomains : String → List String)
    (targetsByAccount : TargetsByAccount) : TargetsByAccount :=
  let filtered : Update (String × List String) Prod.fst :=
    { guard := fun _ => true
      set := fun entry =>
        (entry.1, filterDeliveryInboxesForDomainBlocks hostStr entry.2 (blockedDomains entry.1))
      keeps := fun _ => rfl }
  (filtered.run targetsByAccount).deleteWhere fun entry => entry.2.isEmpty

/-- Add the relay inboxes to an account's entry, which is made if it is missing. -/
def addRelayInboxes (relayInboxes : List String) (accountId : String)
    (targetsByAccount : TargetsByAccount) : TargetsByAccount :=
  let pushed : Update (String × List String) Prod.fst :=
    { guard := fun entry => entry.1 == accountId
      set := fun entry => (entry.1, pushMissing entry.2 relayInboxes)
      keeps := fun _ => rfl }
  pushed.run (targetsByAccount.insert (accountId, []))

/-- Add the relay inboxes for each delivery of the batch that is a candidate. -/
def mergeRelayInboxes (relayInboxes : List String) (deliveries : List OutboxDeliveryRow)
    (targetsByAccount : TargetsByAccount) : TargetsByAccount :=
  if relayInboxes.isEmpty then targetsByAccount
  else
    deliveries.foldl
      (fun current delivery =>
        if outboxPayloadIsPublicRelayCandidate fromStr delivery.payloadJson then
          addRelayInboxes relayInboxes delivery.accountId current
        else current)
      targetsByAccount

/-- The targets by account that `process_generic_outbox_deliveries` resolves. -/
def resolveGenericTargets (blockedDomains : String → List String) (relayInboxes : List String)
    (deliveries : List OutboxDeliveryRow) (followerTargets : TargetsByAccount) :
    TargetsByAccount :=
  mergeRelayInboxes fromStr relayInboxes deliveries
    (filterFollowerTargets hostStr blockedDomains followerTargets)

/-- The pairs of delivery and inbox that `process_generic_outbox_deliveries` expands. -/
def expandedPairs (blockedDomains : String → List String) (relayInboxes : List String)
    (deliveries : List OutboxDeliveryRow) (followerTargets : TargetsByAccount) :
    List (OutboxDeliveryRow × String) :=
  let targetsByAccount :=
    resolveGenericTargets fromStr hostStr blockedDomains relayInboxes deliveries followerTargets
  collectOutboxDeliveryExpansions
    (partitionGenericOutboxDeliveriesByTargets deliveries targetsByAccount).1 targetsByAccount

/-! ## Entries of the map -/

/-- The inboxes of an account, none for an account without an entry. -/
def TargetsByAccount.inboxes (targetsByAccount : TargetsByAccount) (accountId : String) :
    List String :=
  (targetsByAccount.get accountId).getD []

variable {inbox : String} {targetsByAccount : TargetsByAccount}

variable {delivery : OutboxDeliveryRow}

theorem hasTargets_of_mem_inboxes
    (mem : inbox ∈ targetsByAccount.inboxes delivery.accountId) :
    hasTargets targetsByAccount delivery = true := by
  unfold TargetsByAccount.inboxes at mem
  unfold hasTargets
  cases got : targetsByAccount.get delivery.accountId with
  | none => simp [got] at mem
  | some targets =>
    rw [got] at mem
    exact decide_eq_true (List.length_pos_of_mem mem)

theorem mem_collect_partition {deliveries : List OutboxDeliveryRow} :
    (delivery, inbox) ∈ collectOutboxDeliveryExpansions
        (partitionGenericOutboxDeliveriesByTargets deliveries targetsByAccount).1 targetsByAccount
      ↔ delivery ∈ deliveries ∧ inbox ∈ targetsByAccount.inboxes delivery.accountId := by
  rw [mem_expansions]
  constructor
  · rintro ⟨mem, targets, got, listed⟩
    refine ⟨List.mem_of_mem_filter mem, ?_⟩
    rw [TargetsByAccount.inboxes, got]
    exact listed
  · rintro ⟨mem, listed⟩
    have kept := List.mem_filter.mpr ⟨mem, hasTargets_of_mem_inboxes listed⟩
    rw [TargetsByAccount.inboxes] at listed
    cases got : targetsByAccount.get delivery.accountId with
    | none => simp [got] at listed
    | some targets =>
      rw [got] at listed
      exact ⟨kept, targets, rfl, listed⟩

theorem mem_inboxes_filterFollowerTargets {blockedDomains : String → List String}
    {accountId : String} :
    inbox ∈ (filterFollowerTargets hostStr blockedDomains targetsByAccount).inboxes accountId
      ↔ inbox ∈ targetsByAccount.inboxes accountId
        ∧ deliveryInboxBlockedByDomains hostStr inbox (blockedDomains accountId) = false := by
  simp only [TargetsByAccount.inboxes, TargetsByAccount.get, filterFollowerTargets,
    Table.find_deleteWhere, Table.find_run]
  cases got : targetsByAccount.find accountId with
  | none => simp
  | some entry =>
    have isKey : entry.1 = accountId := Table.key_of_find got
    have kept : inbox ∈ filterDeliveryInboxesForDomainBlocks hostStr entry.2
          (blockedDomains accountId)
        ↔ inbox ∈ entry.2
          ∧ deliveryInboxBlockedByDomains hostStr inbox (blockedDomains accountId) = false := by
      simp [filterDeliveryInboxesForDomainBlocks]
    simp only [Option.map_some, Update.onRow, if_true, isKey, Option.filter_some,
      Option.getD_some]
    by_cases emptied : filterDeliveryInboxesForDomainBlocks hostStr entry.2
        (blockedDomains accountId) = []
    · simp only [emptied, List.isEmpty_nil, Bool.not_true, Bool.false_eq_true, if_false,
        Option.map_none, Option.getD_none]
      rw [← kept, emptied]
    · have ne : (filterDeliveryInboxesForDomainBlocks hostStr entry.2
          (blockedDomains accountId)).isEmpty = false := by
        simpa using emptied
      simp only [ne, Bool.not_false, if_true, Option.map_some, Option.getD_some]
      exact kept

theorem mem_inboxes_addRelayInboxes {relayInboxes : List String} {added accountId : String} :
    inbox ∈ (addRelayInboxes relayInboxes added targetsByAccount).inboxes accountId
      ↔ inbox ∈ targetsByAccount.inboxes accountId
        ∨ (added = accountId ∧ inbox ∈ relayInboxes) := by
  simp only [TargetsByAccount.inboxes, TargetsByAccount.get, addRelayInboxes, Table.find_run,
    Table.find_insert]
  cases got : targetsByAccount.find accountId with
  | some entry =>
    have isKey : entry.1 = accountId := Table.key_of_find got
    by_cases eq : added = accountId
    · simp [Update.onRow, isKey, eq, mem_pushMissing]
    · have other : ¬ accountId = added := fun h => eq h.symm
      simp [Update.onRow, isKey, eq, other]
  | none =>
    by_cases eq : added = accountId
    · simp [Update.onRow, eq, mem_pushMissing]
    · simp [eq]

theorem mem_inboxes_mergeRelayInboxes {relayInboxes : List String}
    {deliveries : List OutboxDeliveryRow} {accountId : String} :
    inbox ∈ (mergeRelayInboxes fromStr relayInboxes deliveries targetsByAccount).inboxes accountId
      ↔ inbox ∈ targetsByAccount.inboxes accountId
        ∨ (inbox ∈ relayInboxes ∧ ∃ delivery ∈ deliveries, delivery.accountId = accountId
            ∧ outboxPayloadIsPublicRelayCandidate fromStr delivery.payloadJson = true) := by
  unfold mergeRelayInboxes
  by_cases noRelays : relayInboxes.isEmpty = true
  · rw [if_pos noRelays]
    simp [List.isEmpty_iff.mp noRelays]
  · rw [if_neg noRelays]
    clear noRelays
    induction deliveries generalizing targetsByAccount with
    | nil => simp
    | cons delivery rest ih =>
      rw [List.foldl_cons, ih, List.exists_mem_cons_iff]
      by_cases cand :
          outboxPayloadIsPublicRelayCandidate fromStr delivery.payloadJson = true
      · rw [if_pos cand, mem_inboxes_addRelayInboxes]
        constructor
        · rintro ((old | ⟨eq, relay⟩) | ⟨relay, later⟩)
          · exact Or.inl old
          · exact Or.inr ⟨relay, Or.inl ⟨eq, cand⟩⟩
          · exact Or.inr ⟨relay, Or.inr later⟩
        · rintro (old | ⟨relay, ⟨eq, _⟩ | later⟩)
          · exact Or.inl (Or.inl old)
          · exact Or.inl (Or.inr ⟨eq, relay⟩)
          · exact Or.inr ⟨relay, later⟩
      · rw [if_neg cand]
        simp [cand]

/-! ## The pairs of a batch -/

def IsUnblockedFollowerTarget (blockedDomains : String → List String)
    (followerTargets : TargetsByAccount) (accountId inbox : String) : Prop :=
  inbox ∈ followerTargets.inboxes accountId
    ∧ deliveryInboxBlockedByDomains hostStr inbox (blockedDomains accountId) = false

section Batch

variable {blockedDomains : String → List String} {relayInboxes : List String}
  {deliveries : List OutboxDeliveryRow} {followerTargets : TargetsByAccount}

/-- **The pairs a batch expands to**: each delivery goes to the unblocked follower
targets of its account, and to the relays if some delivery of that account in
the batch is a candidate. -/
theorem mem_expandedPairs :
    (delivery, inbox) ∈ expandedPairs fromStr hostStr blockedDomains relayInboxes deliveries
        followerTargets
      ↔ delivery ∈ deliveries
        ∧ (IsUnblockedFollowerTarget hostStr blockedDomains followerTargets delivery.accountId inbox
          ∨ (inbox ∈ relayInboxes ∧ ∃ sibling ∈ deliveries,
              sibling.accountId = delivery.accountId
                ∧ outboxPayloadIsPublicRelayCandidate fromStr sibling.payloadJson = true)) := by
  rw [expandedPairs, mem_collect_partition, resolveGenericTargets, mem_inboxes_mergeRelayInboxes,
    mem_inboxes_filterFollowerTargets, IsUnblockedFollowerTarget]

end Batch

variable (blockedDomains : String → List String) (relayInboxes : List String)
  (deliveries : List OutboxDeliveryRow) (followerTargets : TargetsByAccount)

/-- A relay inbox that is no unblocked follower target of the delivery's account
is expanded only for a delivery whose own payload is a candidate. -/
def RelaysOnlyForCandidates : Prop :=
  ∀ delivery inbox,
    (delivery, inbox) ∈ expandedPairs fromStr hostStr blockedDomains relayInboxes deliveries
      followerTargets →
    inbox ∈ relayInboxes →
    ¬ IsUnblockedFollowerTarget hostStr blockedDomains followerTargets delivery.accountId inbox →
      outboxPayloadIsPublicRelayCandidate fromStr delivery.payloadJson = true

/-- A delivery that is no candidate has no candidate of its account beside it in
the batch, unless the relays are its account's follower targets anyway. -/
def NoCandidateBeside : Prop :=
  ∀ delivery ∈ deliveries,
    outboxPayloadIsPublicRelayCandidate fromStr delivery.payloadJson = false →
    ∀ sibling ∈ deliveries, sibling.accountId = delivery.accountId →
      outboxPayloadIsPublicRelayCandidate fromStr sibling.payloadJson = true →
        ∀ inbox ∈ relayInboxes,
          IsUnblockedFollowerTarget hostStr blockedDomains followerTargets delivery.accountId inbox

/-- **Relays receive candidates only, exactly when no other payload shares its
account with a candidate of the batch.** -/
theorem relays_only_for_candidates_iff :
    RelaysOnlyForCandidates fromStr hostStr blockedDomains relayInboxes deliveries followerTargets
      ↔ NoCandidateBeside fromStr hostStr blockedDomains relayInboxes deliveries
          followerTargets := by
  constructor
  · intro only delivery mem notCandidate sibling siblingMember sameAccount cand inbox relay
    by_contra notTarget
    have pair : (delivery, inbox) ∈ expandedPairs fromStr hostStr blockedDomains relayInboxes
        deliveries followerTargets :=
      (mem_expandedPairs fromStr hostStr).mpr
        ⟨mem, Or.inr ⟨relay, sibling, siblingMember, sameAccount, cand⟩⟩
    have own := only delivery inbox pair relay notTarget
    rw [notCandidate] at own
    cases own
  · intro alone delivery inbox pair relay notTarget
    obtain ⟨mem, target | ⟨_, sibling, siblingMember, sameAccount, cand⟩⟩ :=
      (mem_expandedPairs fromStr hostStr).mp pair
    · exact absurd target notTarget
    · cases own : outboxPayloadIsPublicRelayCandidate fromStr delivery.payloadJson with
      | true => rfl
      | false =>
        exact absurd (alone delivery mem own sibling siblingMember sameAccount cand
          inbox relay) notTarget

/-! ## A leak -/

def createPayload (audience : String) : String :=
  "\x7b\"type\":\"Create\",\"object\":\x7b\"to\":\"" ++ audience ++ "\"\x7d\x7d"

def createValue (audience : String) : Json :=
  .object [("type", .string "Create"), ("object", .object [("to", .string audience)])]

def aliceFollowers : String := "https://local.example/users/alice/followers"

/-- The parser at those two payloads. -/
def parseCreate (text : String) : Option Json :=
  if text = createPayload "as:Public" then some (createValue "as:Public")
  else if text = createPayload aliceFollowers then some (createValue aliceFollowers)
  else none

def aliceDelivery (id audience : String) : OutboxDeliveryRow where
  id := id
  accountId := "alice"
  statusId := some id
  activityId := "https://local.example/users/alice/statuses/" ++ id ++ "/activity"
  activityType := "Create"
  targetInbox := none
  payloadJson := createPayload audience
  attemptCount := 0

/-- A public and a followers-only create in one batch. -/
def mixedBatch : List OutboxDeliveryRow :=
  [aliceDelivery "1" "as:Public", aliceDelivery "2" aliceFollowers]

/-- The relay's inbox, and the URL parser at it. -/
def relayInbox : String := "https://relay.example/inbox"

def relayHost (url : String) : Option String :=
  if url = relayInbox then some "relay.example" else none

/-- **A public sibling leaks a followers-only payload to the relay.** -/
theorem public_sibling_leaks_to_relay :
    ¬ RelaysOnlyForCandidates parseCreate relayHost (fun _ => []) [relayInbox] mixedBatch
      Table.empty := by
  intro only
  have pair : (aliceDelivery "2" aliceFollowers, relayInbox)
      ∈ expandedPairs parseCreate relayHost (fun _ => []) [relayInbox] mixedBatch Table.empty := by
    decide
  have notTarget : ¬ IsUnblockedFollowerTarget relayHost (fun _ => []) Table.empty "alice"
      relayInbox := by
    rintro ⟨target, _⟩
    cases target
  have own := only _ _ pair (List.mem_singleton_self _) notTarget
  have followersOnly : outboxPayloadIsPublicRelayCandidate parseCreate
      (createPayload aliceFollowers) = false := by decide
  exact absurd own (Bool.eq_false_iff.mp followersOnly)

end Cfwdon.Delivery
