import Cfwdon.Collections.ApprovalOrigins
import Cfwdon.Collections.LocalItems
import Cfwdon.Library.Withdrawals

/-!
# Whether a revocation stands

An account that is featured in a collection can take its item back: a local account by
revoking the item, a remote actor by deleting the authorization it gave.  The item is then
`revoked`, and should not be accepted or pending again until the account consents anew.

A ledger notes what the featured accounts have decided, each at the time they decided it;
nothing of it is stored.  Stored is only the state of the item, and what writes it does not
look at the state before: an owner that adds the account again makes the item accepted or
pending, so does an activity of a remote owner, and an `Accept` makes it accepted however
late it arrives.  A deleted authorization of a remote collection is not even looked for
among its items.
-/

namespace Cfwdon.Collections

open Library Remote ActivityPub
open Conversations (LocalAccount LocalAccounts)

/-- A collection and an account it features, by the columns of the index of the items: those
of a local collection, or those of a remote one. -/
inductive FeaturedPair where
  | ofLocal (key : String × String)
  | ofRemote (key : String × String)
  deriving DecidableEq

/-- The tables of local and of remote collections, and what the featured accounts decided. -/
structure CollectionsState where
  locals : LocalCollections
  remote : Store
  ledger : Ledger FeaturedPair

def CollectionsState.empty : CollectionsState := ⟨.empty, .empty, .empty⟩

/-- Accepted or pending. -/
def CollectionItemRow.isLive (item : CollectionItemRow) : Bool :=
  item.state == .accepted || item.state == .pending

/-- Accepted or pending. -/
def RemoteCollectionItemRow.isLive (item : RemoteCollectionItemRow) : Bool :=
  item.state == .accepted || item.state == .pending

/-- **What is claimed of a state**: no item whose featured account has withdrawn is accepted
or pending. -/
structure RevocationsStand (s : CollectionsState) : Prop where
  locals : s.locals.items.Quiet (fun key => s.ledger.Withdrawn (.ofLocal key))
    CollectionItemRow.isLive
  remote : s.remote.items.Quiet (fun key => s.ledger.Withdrawn (.ofRemote key))
    RemoteCollectionItemRow.isLive

/-! ## Events -/

def collectionUri (instanceDomain : String) (owner : LocalAccount) (collectionId : String) :
    String :=
  actorUrl instanceDomain owner.username ++ "/collections/" ++ collectionId

def collectionItemUri (instanceDomain : String) (owner : LocalAccount)
    (collectionId itemId : String) : String :=
  collectionUri instanceDomain owner collectionId ++ "/items/" ++ itemId

def collectionFeatureRequestUri (instanceDomain : String) (owner : LocalAccount)
    (collectionId itemId : String) : String :=
  collectionItemUri instanceDomain owner collectionId itemId ++ "#feature_request"

/-- The write of `enqueue_collection_feature_request_activity`, for a remote actor. -/
def requestFeature (instanceDomain : String) (owner : LocalAccount) (collectionId : String)
    (target : AccountReference) (items : CollectionItems) : CollectionItems :=
  match target with
  | .localAccount _ => items
  | .remoteActor _ =>
    match items.find (collectionId, target.featured.1) with
    | none => items
    | some item =>
      (updateCollectionItemFeatureRequestUri collectionId item.id
        (collectionFeatureRequestUri instanceDomain owner collectionId item.id)).run items

/-- `create_alpha_collection_item_response`, for an account that
`account_reference_featureable_by_owner` lets the owner feature. -/
def createAlphaCollectionItem (instanceDomain : String) (owner : LocalAccount)
    (itemId collectionId : String) (target : AccountReference) (store : LocalCollections) :
    LocalCollections :=
  match store.collections.find collectionId with
  | none => store
  | some collection =>
    if collection.accountId ≠ owner.id then store
    else
      { store with
        items := requestFeature instanceDomain owner collectionId target
          (insertCollectionItem itemId collectionId target store.items) }

def isRemoteItem (collectionId itemId : String) (item : RemoteCollectionItemRow) : Bool :=
  item.collectionId == collectionId && item.id == itemId

def remoteCollectionItemById (collectionId itemId : String) (items : RemoteCollectionItems) :
    Option RemoteCollectionItemRow :=
  items.rows.find? (isRemoteItem collectionId itemId)

/-- The item that a request may revoke, by its collection: `can_revoke_collection_item`, and
for a remote collection the URL of the requester. -/
def revocableItem (instanceDomain : String) (requester : LocalAccount)
    (collectionId itemId : String) (s : CollectionsState) : Option FeaturedPair :=
  match s.locals.collections.find collectionId with
  | some _ =>
    (((collectionItemById collectionId itemId s.locals.items).filter fun item =>
      item.targetAccountRef == requester.id).map fun item => .ofLocal item.key)
  | none =>
    if s.remote.collections.exists? fun row => row.id == collectionId then
      (((remoteCollectionItemById collectionId itemId s.remote.items).filter fun item =>
        item.targetActorUri == actorUrl instanceDomain requester.username).map fun item =>
          .ofRemote item.key)
    else none

def revokeAlphaCollectionItem (instanceDomain : String) (requester : LocalAccount)
    (collectionId itemId : String) (time : Nat) (s : CollectionsState) : CollectionsState :=
  match revocableItem instanceDomain requester collectionId itemId s with
  | none => s
  | some (.ofLocal key) =>
    { s with
      locals := { s.locals with
        items := (revokeCollectionItem collectionId itemId).run s.locals.items }
      ledger := s.ledger.withdraw (.ofLocal key) time }
  | some (.ofRemote key) =>
    { s with
      remote := (revokeRemoteCollectionItem collectionId itemId s.remote).1
      ledger := s.ledger.withdraw (.ofRemote key) time }

/-- The item whose authorization an actor deletes. -/
def unauthorizedItem (instanceDomain : String) (activity : Json) (actorUri : String)
    (s : CollectionsState) : Option FeaturedPair := do
  let collectionUri ← deletedAuthorization activity actorUri
  match (localCollectionIdFromUri instanceDomain collectionUri).bind s.locals.collections.find with
  | some collection =>
    (s.locals.items.find (collection.id, remoteAccountRestId actorUri)).map fun item =>
      .ofLocal item.key
  | none =>
    (s.remote.items.find (remoteAccountRestId collectionUri, actorUri)).map fun item =>
      .ofRemote item.key

/-- What happens to items and to what their featured accounts have decided, in any order. -/
inductive FeatureEvent where
  /-- The owner adds an account, again or for the first time. -/
  | adds (owner : LocalAccount) (itemId collectionId : String) (target : AccountReference)
  | accepts (activity : Json) (actorUri : String)
  | rejects (activity : Json) (actorUri : String)
  | deletesAuthorization (activity : Json) (actorUri : String) (time : Nat)
  | revokes (requester : LocalAccount) (collectionId itemId : String) (time : Nat)
  /-- Items of local collections are deleted, by the owner or with their collection. -/
  | deletesItems (guard : CollectionItemRow → Bool)
  /-- Accounts and local collections change. -/
  | elsewhere (accounts : LocalAccounts) (collections : AccountCollections)
  | remote (event : ApprovalEvent)
  /-- A featured account consents, whether or not its answer has arrived. -/
  | consents (pair : FeaturedPair) (time : Nat)

def FeatureEvent.apply (site : Site) : FeatureEvent → CollectionsState → CollectionsState
  | .adds owner itemId collectionId target, s =>
    { s with locals :=
        createAlphaCollectionItem site.instanceDomain owner itemId collectionId target s.locals }
  | .accepts activity actorUri, s =>
    { s with locals := (handleInboxCollectionFeatureAccept activity actorUri s.locals).2 }
  | .rejects activity actorUri, s =>
    { s with locals := (handleInboxCollectionFeatureReject activity actorUri s.locals).2 }
  | .deletesAuthorization activity actorUri time, s =>
    { s with
      locals := (handleInboxCollectionFeatureAuthorizationDelete site.instanceDomain activity
        actorUri s.locals).2
      ledger :=
        match unauthorizedItem site.instanceDomain activity actorUri s with
        | none => s.ledger
        | some pair => s.ledger.withdraw pair time }
  | .revokes requester collectionId itemId time, s =>
    revokeAlphaCollectionItem site.instanceDomain requester collectionId itemId time s
  | .deletesItems guard, s =>
    { s with locals := { s.locals with items := s.locals.items.deleteWhere guard } }
  | .elsewhere accounts collections, s =>
    { s with locals := { s.locals with accounts, collections } }
  | .remote event, s => { s with remote := event.apply site s.remote }
  | .consents pair time, s => { s with ledger := s.ledger.consent pair time }

def Features (site : Site) (before : CollectionsState) (event : FeatureEvent)
    (after : CollectionsState) : Prop :=
  event.apply site before = after

/-! ## When revocations stand -/

/-- The item that an `Accept` is about, with the collection and the authorization. -/
def acceptedItem (store : LocalCollections) (activity : Json) (actorUri : String) :
    Option (CollectionRow × CollectionItemRow × String) := do
  let approvalUri ← featureResponseResultUri activity
  let (collection, item) ← answeredItem store activity actorUri
  let _ ← store.accounts.find collection.accountId
  return (collection, item, approvalUri)

/-- The item of a remote collection that an event writes as accepted or pending. -/
def ApprovalEvent.writtenItem (site : Site) (store : Store) :
    ApprovalEvent → Option (String × String)
  | .storeItem collectionUri object _ => do
    let collectionId := remoteAccountRestId collectionUri
    let item ← featuredItemFromObject object
    if isStorable store.items (collectionId, item.targetActorUri) (item.idIn collectionId) then
      some (collectionId, item.targetActorUri)
    else none
  | .revalidate collectionUri targetActorUri approvalUri _ =>
    if localUsernameFromActorUri site targetActorUri = none
        ∧ (fetchRemoteActivitypubDocument site.toWeb approvalUri store.requests).1.isSome then
      (store.items.find (remoteAccountRestId collectionUri, targetActorUri)).map
        RemoteCollectionItemRow.key
    else none
  | _ => none

/-- **The condition on an event**: it writes no item of a pair that is withdrawn, and does not
delete the authorization of a remote item that is accepted or pending, unless a later consent
was given. -/
def Respects (site : Site) (s : CollectionsState) : FeatureEvent → Prop
  | .adds owner _ collectionId target =>
    ∀ collection, s.locals.collections.find collectionId = some collection →
      collection.accountId = owner.id →
        ¬ s.ledger.Withdrawn (.ofLocal (collectionId, target.featured.1))
  | .accepts activity actorUri =>
    ∀ collection item approvalUri,
      acceptedItem s.locals activity actorUri = some (collection, item, approvalUri) →
        ∀ row ∈ s.locals.items.rows, isItem collection.id item.id row = true →
          ¬ s.ledger.Withdrawn (.ofLocal row.key)
  | .deletesAuthorization activity actorUri time =>
    ∀ key, unauthorizedItem site.instanceDomain activity actorUri s = some (.ofRemote key) →
      ∀ item, s.remote.items.find key = some item →
        s.ledger.NoConsentAfter (.ofRemote key) time → item.isLive = false
  | .remote event =>
    ∀ key, event.writtenItem site s.remote = some key → ¬ s.ledger.Withdrawn (.ofRemote key)
  | _ => True

/-! ## Local items -/

section Locals

variable {site : Site} {s : CollectionsState} {activity : Json} {actorUri : String}

theorem isLive_inserted (target : AccountReference) (item : CollectionItemRow) :
    CollectionItemRow.isLive { item with state := target.featured.2 } = true := by
  cases target <;> rfl

theorem quiet_createAlphaCollectionItem_iff {barred : String × String → Prop}
    {store : LocalCollections} (quiet : store.items.Quiet barred CollectionItemRow.isLive)
    (domain : String) (owner : LocalAccount) (itemId collectionId : String)
    (target : AccountReference) :
    (createAlphaCollectionItem domain owner itemId collectionId target
        store).items.Quiet barred CollectionItemRow.isLive
      ↔ ∀ coll, store.collections.find collectionId = some coll →
        coll.accountId = owner.id → ¬ barred (collectionId, target.featured.1) := by
  have inserts : (insertCollectionItem itemId collectionId target store.items).Quiet barred
        CollectionItemRow.isLive
      ↔ ¬ barred (collectionId, target.featured.1) := by
    refine (Table.quiet_upsert_iff quiet).trans ?_
    have isLive : CollectionItemRow.isLive ((store.items.find (collectionId,
          target.featured.1)).elim
        { id := itemId
          collectionId := collectionId
          targetAccountRef := target.featured.1
          state := target.featured.2
          activityUri := none
          featureAuthorization := none }
        fun held => { held with state := target.featured.2 }) = true := by
      cases store.items.find (collectionId, target.featured.1) with
      | none => cases target <;> rfl
      | some held => exact isLive_inserted target held
    constructor
    · intro silent isBarred
      exact absurd (isLive.symm.trans (silent isBarred)) (by decide)
    · intro spared isBarred
      exact absurd isBarred spared
  have reqs : ∀ items : CollectionItems,
      (requestFeature domain owner collectionId target items).Quiet barred CollectionItemRow.isLive
        ↔ items.Quiet barred CollectionItemRow.isLive := by
    intro items
    unfold requestFeature
    split
    · rfl
    · split
      · rfl
      · exact Table.quiet_run_of_same fun row => rfl
  unfold createAlphaCollectionItem
  cases got : store.collections.find collectionId with
  | none => simpa using quiet
  | some coll =>
    by_cases owned : coll.accountId = owner.id
    · simp only [owned, ne_eq, not_true_eq_false, if_false, reqs, inserts]
      simp [owned]
    · simp only [ne_eq, owned, not_false_eq_true, if_true]
      refine iff_of_true quiet ?_
      rintro other eq ofOwner
      obtain rfl := Option.some.inj eq
      exact absurd ofOwner owned

theorem handleAccept_eq (store : LocalCollections) :
    (handleInboxCollectionFeatureAccept activity actorUri store).2
      = match acceptedItem store activity actorUri with
        | none => store
        | some (coll, item, approvalUri) =>
          { store with
            items := (updateCollectionItemFeatureState coll.id item.id .accepted
              (some approvalUri)).run store.items } := by
  have eq : handleInboxCollectionFeatureAccept activity actorUri store
      = match acceptedItem store activity actorUri with
        | none => (false, store)
        | some (coll, item, approvalUri) =>
          (true, { store with
            items := (updateCollectionItemFeatureState coll.id item.id .accepted
              (some approvalUri)).run store.items }) := rfl
  rw [eq]
  split <;> rfl

theorem quiet_accept_iff {barred : String × String → Prop} {store : LocalCollections}
    (quiet : store.items.Quiet barred CollectionItemRow.isLive) (activity : Json)
    (actorUri : String) :
    (handleInboxCollectionFeatureAccept activity actorUri store).2.items.Quiet barred
        CollectionItemRow.isLive
      ↔ ∀ coll item approvalUri,
        acceptedItem store activity actorUri = some (coll, item, approvalUri) →
          ∀ row ∈ store.items.rows, isItem coll.id item.id row = true → ¬ barred row.key := by
  rw [handleAccept_eq]
  cases ans : acceptedItem store activity actorUri with
  | none => simpa using quiet
  | some got =>
    obtain ⟨coll, item, approvalUri⟩ := got
    dsimp only
    rw [Table.quiet_run_iff quiet]
    constructor
    · rintro silent _ _ _ ⟨⟩ row held isNamed isBarred
      have ok : CollectionItemRow.isLive ((updateCollectionItemFeatureState coll.id
        item.id .accepted (some approvalUri)).set row) = true := rfl
      rw [silent row held isNamed isBarred] at ok
      cases ok
    · intro spared row held isNamed isBarred
      exact absurd isBarred (spared coll item approvalUri rfl row held isNamed)

/-- A `Reject` keeps the revocations standing. -/
theorem quiet_reject {barred : String × String → Prop} {store : LocalCollections}
    (quiet : store.items.Quiet barred CollectionItemRow.isLive) :
    (handleInboxCollectionFeatureReject activity actorUri store).2.items.Quiet barred
      CollectionItemRow.isLive := by
  unfold handleInboxCollectionFeatureReject
  split
  · exact quiet
  · apply quiet.run
    intro row _ isLive
    cases isLive

end Locals

/-! ## Withdrawals -/

variable {itemId : String} {requester : LocalAccount} {domain : String}

section Withdraws

variable {site : Site} {s : CollectionsState} {activity : Json} {actorUri : String} {time : Nat}

variable {key : String × String} {collectionId : String}

/-- A withdrawal of a local item keeps the revocations standing if the item is neither
accepted nor pending any more. -/
theorem stands_withdraw_local (stands : RevocationsStand s)
    (silent : ∀ item, s.locals.items.find key = some item → item.isLive = false) :
    RevocationsStand { s with ledger := s.ledger.withdraw (.ofLocal key) time } where
  locals := by
    have one := (Table.quiet_or_iff stands.locals
      (s.ledger.NoConsentAfter (.ofLocal key) time)).mpr fun item got _ => silent item got
    apply one.mono
    intro other withdrawn
    apply (Ledger.withdrawn_withdraw.mp withdrawn).imp_right
    rintro ⟨eq, latest⟩
    exact ⟨FeaturedPair.ofLocal.inj eq, latest⟩
  remote := by
    apply stands.remote.mono
    intro other withdrawn
    have different : FeaturedPair.ofRemote other ≠ .ofLocal key := fun eq => nomatch eq
    exact (Ledger.withdrawn_withdraw_of_ne different).mp withdrawn

/-- A withdrawal of a remote item keeps the revocations standing exactly if the item is
neither accepted nor pending, or a later consent was given. -/
theorem stands_withdraw_remote_iff (stands : RevocationsStand s) :
    RevocationsStand { s with ledger := s.ledger.withdraw (.ofRemote key) time }
      ↔ ∀ item, s.remote.items.find key = some item →
        s.ledger.NoConsentAfter (.ofRemote key) time → item.isLive = false := by
  rw [← Table.quiet_or_iff stands.remote (s.ledger.NoConsentAfter (.ofRemote key) time)]
  have agree : ∀ other, (s.ledger.withdraw (.ofRemote key) time).Withdrawn (.ofRemote other)
      ↔ s.ledger.Withdrawn (.ofRemote other)
        ∨ (other = key ∧ s.ledger.NoConsentAfter (.ofRemote key) time) := by
    intro other
    rw [Ledger.withdrawn_withdraw, FeaturedPair.ofRemote.injEq]
  rw [← Table.quiet_congr agree]
  constructor
  · exact RevocationsStand.remote
  · intro remote
    refine ⟨stands.locals.mono ?_, remote⟩
    intro other withdrawn
    have different : FeaturedPair.ofLocal other ≠ .ofRemote key := fun eq => nomatch eq
    exact (Ledger.withdrawn_withdraw_of_ne different).mp withdrawn

theorem stands_revokes_local (stands : RevocationsStand s)
    (update : Update CollectionItemRow CollectionItemRow.key)
    (revokes : ∀ row, (update.set row).isLive = false) :
    RevocationsStand { s with locals := { s.locals with items := update.run s.locals.items } } where
  locals := stands.locals.run fun row _ isLive => by
    rw [revokes row] at isLive
    cases isLive
  remote := stands.remote

theorem silent_of_revoked {items : CollectionItems}
    {update : Update CollectionItemRow CollectionItemRow.key} {item : CollectionItemRow}
    (held : items.find item.key = some item) (met : update.guard item = true)
    (revokes : ∀ row, (update.set row).isLive = false) :
    ∀ post, (update.run items).find item.key = some post → post.isLive = false := by
  intro post got
  rw [Table.find_run, held, Option.map_some, Update.onRow_of_guard met] at got
  obtain rfl := Option.some.inj got
  exact revokes item

theorem forall_of_eq_none {α : Type*} {p : α → Prop} :
    ∀ key, (none : Option α) = some key → p key := by
  intro key eq
  cases eq

/-- **When a deleted authorization keeps the revocations standing.** -/
theorem stands_deletesAuthorization_iff (stands : RevocationsStand s) :
    RevocationsStand ((FeatureEvent.deletesAuthorization activity actorUri time).apply site s)
      ↔ Respects site s (.deletesAuthorization activity actorUri time) := by
  simp only [FeatureEvent.apply, Respects, handleInboxCollectionFeatureAuthorizationDelete,
    unauthorizedItem, Option.bind_eq_bind]
  cases deleted : deletedAuthorization activity actorUri with
  | none => simpa using stands
  | some collUri =>
    simp only [Option.bind_some]
    cases named : (localCollectionIdFromUri site.instanceDomain collUri).bind
        s.locals.collections.find with
    | none =>
      dsimp only
      cases got : s.remote.items.find (remoteAccountRestId collUri, actorUri) with
      | none => simpa using stands
      | some item =>
        rw [Option.map_some, stands_withdraw_remote_iff stands]
        constructor
        · rintro silent _ ⟨⟩
          exact silent
        · intro silent
          exact silent item.key rfl
    | some coll =>
      dsimp only
      cases got : s.locals.items.find (coll.id, remoteAccountRestId actorUri) with
      | none => simpa using stands
      | some item =>
        have isKey : item.key = (coll.id, remoteAccountRestId actorUri) :=
          Table.key_of_find got
        have met : isItem coll.id item.id item = true := by
          have ofCollection : item.collectionId = coll.id := congrArg Prod.fst isKey
          simp [isItem, ofCollection]
        dsimp only [Option.map_some]
        refine iff_of_true ?_ (by rintro _ ⟨⟩)
        have revoked := stands_revokes_local stands
          (updateCollectionItemFeatureState coll.id item.id .revoked none)
          fun row => rfl
        apply stands_withdraw_local revoked
        exact silent_of_revoked (Table.find_of_mem (Table.mem_of_find got)) met fun row => rfl

/-- Who may revoke a local item names it by its collection and its id. -/
theorem revocableItem_local
    (revocable : revocableItem domain requester collectionId itemId s = some (.ofLocal key)) :
    ∃ item, item ∈ s.locals.items.rows ∧ isItem collectionId itemId item = true
      ∧ item.key = key := by
  unfold revocableItem at revocable
  split at revocable
  · obtain ⟨item, got, eq⟩ := Option.map_eq_some_iff.mp revocable
    have isNamed := (Option.filter_eq_some_iff.mp got).1
    exact ⟨item, List.mem_of_find?_eq_some isNamed, List.find?_some isNamed,
      FeaturedPair.ofLocal.inj eq⟩
  · split_ifs at revocable
    obtain ⟨item, _, eq⟩ := Option.map_eq_some_iff.mp revocable
    cases eq

/-- And who may revoke a remote one. -/
theorem revocableItem_remote
    (revocable : revocableItem domain requester collectionId itemId s = some (.ofRemote key)) :
    ∃ item, item ∈ s.remote.items.rows
      ∧ isRemoteItem collectionId itemId item = true ∧ item.key = key := by
  unfold revocableItem at revocable
  split at revocable
  · obtain ⟨item, _, eq⟩ := Option.map_eq_some_iff.mp revocable
    cases eq
  · split_ifs at revocable
    obtain ⟨item, got, eq⟩ := Option.map_eq_some_iff.mp revocable
    have isNamed := (Option.filter_eq_some_iff.mp got).1
    exact ⟨item, List.mem_of_find?_eq_some isNamed, List.find?_some isNamed,
      FeaturedPair.ofRemote.inj eq⟩

theorem key_revoked (item : RemoteCollectionItemRow) :
    RemoteCollectionItemRow.key { item with state := .revoked } = item.key :=
  rfl

def revokesRemoteItem (collectionId itemId : String) :
    Update RemoteCollectionItemRow RemoteCollectionItemRow.key where
  guard := isRemoteItem collectionId itemId
  set item := { item with state := .revoked }
  keeps := key_revoked

theorem items_revokeItem {store : Store}
    (here : store.items.exists? (isRemoteItem collectionId itemId) = true) :
    (revokeRemoteCollectionItem collectionId itemId store).1.items
      = (revokesRemoteItem collectionId itemId).run store.items := by
  have isIf : revokeRemoteCollectionItem collectionId itemId store
      = if store.items.exists? (isRemoteItem collectionId itemId) then
          ({ store with items := (revokesRemoteItem collectionId itemId).run store.items }, true)
        else (store, false) := rfl
  rw [isIf, if_pos here]

theorem stands_revokes (stands : RevocationsStand s) (domain : String)
    (requester : LocalAccount) (collectionId itemId : String) (time : Nat) :
    RevocationsStand (revokeAlphaCollectionItem domain requester collectionId itemId time s) := by
  unfold revokeAlphaCollectionItem
  cases revocable : revocableItem domain requester collectionId itemId s with
  | none => exact stands
  | some pair =>
    cases pair with
    | ofLocal key =>
      obtain ⟨item, held, isNamed, rfl⟩ := revocableItem_local revocable
      have revoked := stands_revokes_local stands (revokeCollectionItem collectionId itemId)
        fun row => rfl
      apply stands_withdraw_local revoked
      exact silent_of_revoked (Table.find_of_mem held) isNamed fun row => rfl
    | ofRemote key =>
      obtain ⟨item, held, isNamed, rfl⟩ := revocableItem_remote revocable
      have here : s.remote.items.exists? (isRemoteItem collectionId itemId) = true :=
        List.any_eq_true.mpr ⟨item, held, isNamed⟩
      have revoked : RevocationsStand
          { s with remote := (revokeRemoteCollectionItem collectionId itemId s.remote).1 } := by
        refine ⟨stands.locals, ?_⟩
        rw [items_revokeItem here]
        exact stands.remote.run fun row _ isLive => (Bool.false_ne_true isLive).elim
      apply (stands_withdraw_remote_iff revoked).mpr
      intro post got _
      rw [items_revokeItem here, Table.find_run, Table.find_of_mem held,
        Option.map_some, Update.onRow_of_guard isNamed] at got
      obtain rfl := Option.some.inj got
      rfl

end Withdraws

/-! ## Remote items -/

section Remotes

variable {site : Site} {store : Store} {barred : String × String → Prop}

theorem verify_state (site : Site) (collUri targetUri : String) (approvalUri : Option String)
    (reqs : Nat) :
    (verifyRemoteCollectionItemApproval site collUri targetUri approvalUri reqs).1.state = .accepted
      ∨ (verifyRemoteCollectionItemApproval site collUri targetUri approvalUri
        reqs).1.state = .pending := by
  by_cases remote : (localUsernameFromActorUri site targetUri).isSome = true
  · left
    simp only [verifyRemoteCollectionItemApproval, remote, if_true]
    rfl
  · cases approvalUri with
    | none =>
      right
      rw [verify_of_none remote]
    | some approvalUri =>
      cases ans : (fetchRemoteActivitypubDocument site.toWeb approvalUri reqs).1 with
      | none =>
        right
        rw [verify_of_unanswered remote ans]
      | some fetched =>
        rw [verify_of_answered remote ans]
        split_ifs
        · exact Or.inl rfl
        · exact Or.inr rfl

theorem quiet_storeItem_iff (quiet : store.items.Quiet barred RemoteCollectionItemRow.isLive)
    (collUri : String) (object : Json) (now : Nat) :
    ((ApprovalEvent.storeItem collUri object now).apply site store).items.Quiet barred
        RemoteCollectionItemRow.isLive
      ↔ ∀ key, (ApprovalEvent.storeItem collUri object now).writtenItem site store = some key →
        ¬ barred key := by
  rw [ApprovalEvent.apply, ApprovalEvent.writtenItem]
  obtain ⟨read, eq⟩ | ⟨item, read, ⟨error, refused, asked⟩ | ⟨items, written, done⟩⟩ :=
    upsertItem_cases site now (remoteAccountRestId collUri) collUri object store
  · rw [eq, read]
    exact iff_of_true quiet forall_of_eq_none
  · have notStorable : ¬ isStorable store.items
        (remoteAccountRestId collUri, item.targetActorUri)
        (item.idIn (remoteAccountRestId collUri)) = true := by
      intro storable
      obtain ⟨written, succeeded⟩ : ∃ written, upsertItem (item.row now
          (remoteAccountRestId collUri) (item.check site collUri store).1) store.items
            = .ok written := isStorable_iff.mp storable
      rw [refused] at succeeded
      cases succeeded
    rw [asked, read]
    simp only [Option.bind_eq_bind, Option.bind_some, if_neg notStorable]
    exact iff_of_true quiet forall_of_eq_none
  · have storable : isStorable store.items
        (remoteAccountRestId collUri, item.targetActorUri)
        (item.idIn (remoteAccountRestId collUri)) = true :=
      isStorable_iff.mpr ⟨items, written⟩
    have isLive : ∀ held : Option RemoteCollectionItemRow, RemoteCollectionItemRow.isLive
        (held.elim (item.row now (remoteAccountRestId collUri) (item.check site collUri store).1)
          (item.row now (remoteAccountRestId collUri)
            (item.check site collUri store).1).overwrite) = true := by
      intro held
      have state := verify_state site collUri item.targetActorUri
        item.featureAuthorization store.requests
      simp only [RemoteCollectionItemRow.isLive, Bool.or_eq_true, beq_iff_eq]
      cases held <;> exact state
    rw [done, read]
    simp only [Option.bind_eq_bind, Option.bind_some, if_pos storable, Option.some.injEq,
      forall_eq']
    unfold upsertItem at written
    split_ifs at written
    cases written
    refine (Table.quiet_upsert_iff quiet).trans ?_
    rw [isLive]
    simp only [Bool.true_eq_false]
    rfl

/-- **When checking an authorization again keeps a table quiet.** -/
theorem quiet_revalidate_iff (quiet : store.items.Quiet barred RemoteCollectionItemRow.isLive)
    (collUri targetUri approvalUri : String) (now : Nat) :
    ((ApprovalEvent.revalidate collUri targetUri approvalUri now).apply site
        store).items.Quiet barred RemoteCollectionItemRow.isLive
      ↔ ∀ key, (ApprovalEvent.revalidate collUri targetUri approvalUri now).writtenItem
          site store = some key → ¬ barred key := by
  rw [ApprovalEvent.apply, ApprovalEvent.writtenItem]
  by_cases isLocal : (localUsernameFromActorUri site targetUri).isSome = true
  · have notRemote : localUsernameFromActorUri site targetUri ≠ none :=
      Option.isSome_iff_ne_none.mp isLocal
    rw [revalidate_of_local isLocal, if_neg fun both => notRemote both.1]
    exact iff_of_true quiet forall_of_eq_none
  · have remote : localUsernameFromActorUri site targetUri = none := by simpa using isLocal
    cases ans : (fetchRemoteActivitypubDocument site.toWeb approvalUri store.requests).1 with
    | none =>
      rw [revalidate_of_unanswered isLocal ans, if_neg fun both => Bool.false_ne_true both.2]
      exact iff_of_true quiet forall_of_eq_none
    | some fetched =>
      have asked : localUsernameFromActorUri site targetUri = none
          ∧ (some fetched).isSome = true := ⟨remote, rfl⟩
      rw [revalidate_of_answered isLocal ans, if_pos asked]
      unfold updateRemoteCollectionItemApprovalVerification
      generalize featureAuthorizationMatchesDocument fetched.document approvalUri collUri
        targetUri = verified
      have writes : ∀ row, RemoteCollectionItemRow.isLive ((setVerification now
          (remoteAccountRestId collUri) targetUri
          (if verified then .accepted else .pending) verified).set row) = true := by
        intro row
        cases verified <;> rfl
      refine (Table.quiet_run_iff quiet).trans ?_
      simp only [writes, Bool.true_eq_false]
      constructor
      · intro silent key got isBarred
        obtain ⟨item, isItem, rfl⟩ := Option.map_eq_some_iff.mp got
        have isKey : item.key = (remoteAccountRestId collUri, targetUri) :=
          Table.key_of_find isItem
        exact silent item (Table.mem_of_find isItem) (beq_iff_eq.mpr isKey) isBarred
      · intro spared row held met isBarred
        have isKey : row.key = (remoteAccountRestId collUri, targetUri) :=
          beq_iff_eq.mp met
        have got : store.items.find (remoteAccountRestId collUri, targetUri)
            = some row := isKey ▸ Table.find_of_mem held
        exact spared row.key (by rw [got]; rfl) isBarred

theorem quiet_remote_iff (site : Site)
    (quiet : store.items.Quiet barred RemoteCollectionItemRow.isLive) (ev : ApprovalEvent) :
    (ev.apply site store).items.Quiet barred RemoteCollectionItemRow.isLive
      ↔ ∀ key, ev.writtenItem site store = some key → ¬ barred key := by
  cases ev with
  | storeItem collUri object now => exact quiet_storeItem_iff quiet collUri object now
  | revalidate collUri targetUri approvalUri now =>
    exact quiet_revalidate_iff quiet collUri targetUri approvalUri now
  | revoke collectionId itemId =>
    refine iff_of_true ?_ forall_of_eq_none
    by_cases here : store.items.exists? (isRemoteItem collectionId itemId) = true
    · rw [ApprovalEvent.apply, items_revokeItem here]
      exact quiet.run fun row _ isLive => (Bool.false_ne_true isLive).elim
    · have eq : revokeRemoteCollectionItem collectionId itemId store = (store, false) :=
        if_neg here
      rw [ApprovalEvent.apply, eq]
      exact quiet
  | delete guard => exact iff_of_true (quiet.deleteWhere guard) forall_of_eq_none
  | elsewhere actors collections => exact iff_of_true quiet forall_of_eq_none

end Remotes

/-! ## Events and runs -/

variable {site : Site}

variable {s : CollectionsState} {post : Store}

/-- **One event keeps the revocations standing exactly under the condition.** -/
theorem stands_apply_iff (stands : RevocationsStand s)
    (event : FeatureEvent) : RevocationsStand (event.apply site s) ↔ Respects site s event := by
  cases event with
  | adds owner itemId collectionId target =>
    have exactly := quiet_createAlphaCollectionItem_iff stands.locals site.instanceDomain owner
      itemId collectionId target
    exact ⟨fun post => exactly.mp post.locals, fun met => ⟨exactly.mpr met, stands.remote⟩⟩
  | accepts activity actorUri =>
    have exactly := quiet_accept_iff stands.locals activity actorUri
    exact ⟨fun post => exactly.mp post.locals, fun met => ⟨exactly.mpr met, stands.remote⟩⟩
  | rejects activity actorUri =>
    exact iff_of_true ⟨quiet_reject stands.locals, stands.remote⟩ trivial
  | deletesAuthorization activity actorUri time => exact stands_deletesAuthorization_iff stands
  | revokes requester collectionId itemId time =>
    exact iff_of_true (stands_revokes stands site.instanceDomain requester collectionId itemId
      time) trivial
  | deletesItems guard =>
    exact iff_of_true ⟨stands.locals.deleteWhere guard, stands.remote⟩ trivial
  | elsewhere accounts collections => exact iff_of_true ⟨stands.locals, stands.remote⟩ trivial
  | remote event =>
    have exactly := quiet_remote_iff site stands.remote event
    exact ⟨fun post => exactly.mp post.remote, fun met => ⟨stands.locals, exactly.mpr met⟩⟩
  | consents pair time =>
    refine iff_of_true ⟨stands.locals.mono ?_, stands.remote.mono ?_⟩ trivial
    · exact fun key => Ledger.Withdrawn.of_consent
    · exact fun key => Ledger.Withdrawn.of_consent

/-- **Revocations stand** throughout a run of events, in whatever order, exactly if each of
its events meets the condition; and then they stand in the end. -/
theorem revocations_stand_iff {start finish : CollectionsState}
    {trace : List (Transition CollectionsState FeatureEvent)}
    (run : Run (Features site) start trace finish) (stands : RevocationsStand start) :
    (Throughout (fun _ _ after => RevocationsStand after) trace ↔ Along (Respects site) trace)
      ∧ (Along (Respects site) trace → RevocationsStand finish) := by
  apply run.throughout_iff_along_from_good stands
  · rintro pre ev after good rfl
    exact stands_apply_iff good ev
  · rintro pre ev after _ _ kept
    exact kept

theorem remote_isRun (steps : IsRun site s.remote post) :
    ∃ trace, Run (Features site) s trace { s with remote := post } := by
  obtain ⟨_, run⟩ := steps
  induction run with
  | start => exact ⟨[], .start⟩
  | @snoc _ pre _ ev _ taken ih =>
    obtain ⟨trace, prior⟩ := ih
    have step : Features site { s with remote := pre } (.remote ev)
        { s with remote := ev.apply site pre } := rfl
    rw [show ev.apply site pre = _ from taken] at step
    exact ⟨_, prior.snoc step⟩

/-- **Whatever an instance does about remote collections is a run of events**: an activity of
the owner, and the checks of authorizations that are shown or due. -/
theorem request_isRun
    (req : Request site s.remote post) :
    ∃ trace, Run (Features site) s trace { s with remote := post } :=
  remote_isRun req.isRun

theorem stands_empty : RevocationsStand .empty :=
  ⟨Table.quiet_empty, Table.quiet_empty⟩

/-! ## An owner and a revoked account -/

section OwnerAddsAgain

theorem isEntityId_a1 : Conversations.isEntityId "a1" = true := by decide

theorem isEntityId_b1 : Conversations.isEntityId "b1" = true := by decide

def owner : LocalAccount := ⟨"a1", "alice", isEntityId_a1⟩

def featured : LocalAccount := ⟨"b1", "bob", isEntityId_b1⟩

/-- An instance that reaches no other server. -/
def offline : Site := plainSite fun _ _ => .failed

def ownsCollection : FeatureEvent := .elsewhere Table.empty (Table.singleton ⟨"c1", "a1"⟩)

def addsFeatured (itemId : String) : FeatureEvent := .adds owner itemId "c1" (.localAccount featured)

def revokesItem : FeatureEvent := .revokes featured "c1" "d1" 1

def featuredOnce : CollectionsState :=
  (addsFeatured "d1").apply offline (ownsCollection.apply offline .empty)

def revokedOnce : CollectionsState := revokesItem.apply offline featuredOnce

theorem run_revokedOnce : Run (Features offline) .empty
    [⟨.empty, ownsCollection, ownsCollection.apply offline .empty⟩,
      ⟨ownsCollection.apply offline .empty, addsFeatured "d1", featuredOnce⟩,
      ⟨featuredOnce, revokesItem, revokedOnce⟩] revokedOnce :=
  ((Run.start.snoc rfl).snoc rfl).snoc rfl

/-- A revocation that nobody undoes stands. -/
theorem revocations_stand_revoked : RevocationsStand revokedOnce := by
  apply (revocations_stand_iff run_revokedOnce stands_empty).2
  intro move mem
  simp only [List.mem_cons, List.not_mem_nil, or_false] at mem
  rcases mem with rfl | rfl | rfl
  · trivial
  · intro coll _ _
    exact Ledger.not_withdrawn_empty
  · trivial

/-- **The claim fails**: the owner adds the account again, and the item is accepted. -/
theorem owner_adds_revoked_account : ∃ trace finish,
    Run (Features offline) .empty trace finish ∧ ¬ RevocationsStand finish := by
  refine ⟨_, (addsFeatured "d2").apply offline revokedOnce, run_revokedOnce.snoc rfl, ?_⟩
  intro stands
  have held : (⟨"d1", "c1", "b1", .accepted, none, none⟩ : CollectionItemRow)
      ∈ ((addsFeatured "d2").apply offline revokedOnce).locals.items.rows := by
    decide
  have withdrawn : ((addsFeatured "d2").apply offline revokedOnce).ledger.Withdrawn
      (.ofLocal ("c1", "b1")) := by
    decide
  have quiet := stands.locals _ held withdrawn
  cases quiet

end OwnerAddsAgain

end Cfwdon.Collections
