import Cfwdon.Collections.Inbox
import Cfwdon.Library.Run

/-!
# Checking authorizations again

An accepted item whose authorization was not verified for a day is checked again: when its
collection is shown, and from the scheduled trigger.  The document is fetched anew, and the
item is accepted or pending by what it says now; without an answer it stays as it is.  A
local account can revoke an item that features it.

The handlers and the two loops are runs of a few steps, which other requests may come
between: an item is stored, checked again, revoked or deleted.
-/

namespace Cfwdon.Collections

open Library Remote

variable (site : Site) (now : Nat)

/-- `UPDATE remote_account_collection_items SET state`, for the item of a collection that
features an actor. -/
def setVerification (collectionId targetActorUri : String) (state : ItemState)
    (approvalVerified : Bool) :
    Update RemoteCollectionItemRow RemoteCollectionItemRow.key where
  guard item := item.key == (collectionId, targetActorUri)
  set item := { item with
    state
    approvalLastVerifiedAt := if approvalVerified then some now else none }
  keeps _ := rfl

/-- `update_remote_collection_item_approval_verification`, with the document the state
rests on. -/
def updateRemoteCollectionItemApprovalVerification
    (collectionId collectionUri targetActorUri : String) (state : ItemState)
    (approvalVerified : Bool) (document : Fetched) (store : Store) : Store :=
  { store with
    items := (setVerification now collectionId targetActorUri state approvalVerified).run store.items
    writes :=
      if (store.items.find (collectionId, targetActorUri)).isSome then
        store.writes ++ [⟨collectionUri, targetActorUri, state, some document⟩]
      else store.writes }

/-- A turn of the loops: the store, and whether a document was fetched. -/
def revalidateApproval (collectionId collectionUri targetActorUri approvalUri : String)
    (store : Store) : Store × Bool :=
  if (localUsernameFromActorUri site targetActorUri).isSome then (store, false)
  else
    let answer := fetchRemoteActivitypubDocument site.toWeb approvalUri store.requests
    let requests := answer.2
    match answer.1 with
    | none => ({ store with requests }, false)
    | some fetched =>
      let verified := featureAuthorizationMatchesDocument fetched.document approvalUri
        collectionUri targetActorUri
      (updateRemoteCollectionItemApprovalVerification now collectionId collectionUri
        targetActorUri (if verified then .accepted else .pending) verified fetched
        { store with requests }, true)

def revokeRemoteCollectionItem (collectionId itemId : String) (store : Store) : Store × Bool :=
  if store.items.exists? fun item => item.collectionId == collectionId && item.id == itemId then
    ({ store with
      items := Update.run
        ⟨fun item => item.collectionId == collectionId && item.id == itemId,
          fun item => { item with state := .revoked }, fun _ => rfl⟩ store.items }, true)
  else (store, false)

/-! ## The loops -/

/-- The rows the two queries select: accepted, with an authorization, and not verified for
a day. -/
def RemoteCollectionItemRow.isDue (item : RemoteCollectionItemRow) : Bool :=
  item.state == .accepted && item.featureAuthorization.isSome
    && item.approvalLastVerifiedAt.all fun verified => decide (verified + 86400 ≤ now)

def RemoteCollectionItemRow.dueOrder (item : RemoteCollectionItemRow) : Nat :=
  item.approvalLastVerifiedAt.getD item.createdAt

def maxRemoteApprovalRevalidations : Nat := 10

def listRemoteCollectionItemsDueForApprovalRevalidation (collectionId : String) (store : Store)
    (chosen : List RemoteCollectionItemRow) : Prop :=
  Selection RemoteCollectionItemRow.dueOrder maxRemoteApprovalRevalidations
    (store.items.select fun item => item.collectionId == collectionId && item.isDue now) chosen

/-- `revalidate_remote_collection_item_approvals`, for the items that were listed. -/
def revalidateRemoteCollectionItemApprovals (collection : RemoteCollectionRow) :
    List RemoteCollectionItemRow → Store → Store
  | [], store => store
  | item :: rest, store =>
    match item.featureAuthorization with
    | none => revalidateRemoteCollectionItemApprovals collection rest store
    | some approvalUri =>
      revalidateRemoteCollectionItemApprovals collection rest
        (revalidateApproval site now collection.id collection.uri item.targetActorUri
          approvalUri store).1

/-- An item that is due, with its collection and its authorization. -/
structure RemoteCollectionItemRevalidationRow where
  collection : RemoteCollectionRow
  item : RemoteCollectionItemRow
  featureAuthorization : String
  joined : collection.id = item.collectionId
  authorized : item.featureAuthorization = some featureAuthorization

/-- Items that are due, each with its collection. -/
def listStaleRemoteCollectionItemsForApprovalRevalidation (limit : Nat) (store : Store)
    (chosen : List RemoteCollectionItemRevalidationRow) : Prop :=
  (∀ row ∈ chosen, row.collection ∈ store.collections.rows)
    ∧ Selection RemoteCollectionItemRow.dueOrder limit
      (store.items.select fun item => item.isDue now
        && store.collections.exists? fun row => row.id == item.collectionId)
      (chosen.map fun row => row.item)

/-- `revalidate_stale_remote_collection_item_approvals`, for the items that were listed, with
the number of items that were checked. -/
def revalidateStaleRemoteCollectionItemApprovals :
    List RemoteCollectionItemRevalidationRow → Store → Store × Nat
  | [], store => (store, 0)
  | row :: rest, store =>
    let (store, revalidated) := revalidateApproval site now row.item.collectionId
      row.collection.uri row.item.targetActorUri row.featureAuthorization store
    let (store, count) := revalidateStaleRemoteCollectionItemApprovals rest store
    (store, if revalidated then count + 1 else count)

/-! ## Steps -/

/-- What happens to the items, in any order. -/
inductive ApprovalEvent where
  | storeItem (collectionUri : String) (object : Json) (now : Nat)
  | revalidate (collectionUri targetActorUri approvalUri : String) (now : Nat)
  | revoke (collectionId itemId : String)
  | delete (guard : RemoteCollectionItemRow → Bool)
  /-- Other tables change. -/
  | elsewhere (actors : RemoteActors) (collections : RemoteCollections)

def ApprovalEvent.apply (site : Site) : ApprovalEvent → Store → Store
  | .storeItem collectionUri object now, store =>
    (upsertRemoteCollectionItemFromObject site now (remoteAccountRestId collectionUri)
      collectionUri object store).1
  | .revalidate collectionUri targetActorUri approvalUri now, store =>
    (revalidateApproval site now (remoteAccountRestId collectionUri) collectionUri
      targetActorUri approvalUri store).1
  | .revoke collectionId itemId, store =>
    (revokeRemoteCollectionItem collectionId itemId store).1
  | .delete guard, store => { store with items := store.items.deleteWhere guard }
  | .elsewhere actors collections, store => { store with actors, collections }

def Approves (site : Site) (before : Store) (event : ApprovalEvent) (after : Store) : Prop :=
  event.apply site before = after

/-- A change that is a run of steps. -/
def IsRun (site : Site) (before after : Store) : Prop :=
  ∃ trace, Run (Approves site) before trace after

variable {site now} {before middle after store : Store}

theorem IsRun.refl (store : Store) : IsRun site store store :=
  ⟨[], .start⟩

theorem IsRun.step (site : Site) (ev : ApprovalEvent) (store : Store) :
    IsRun site store (ev.apply site store) :=
  ⟨_, Run.start.snoc rfl⟩

theorem IsRun.trans (first : IsRun site before middle) (second : IsRun site middle after) :
    IsRun site before after := by
  obtain ⟨prior, run⟩ := first
  obtain ⟨later, more⟩ := second
  induction more with
  | start => exact ⟨prior, run⟩
  | snoc _ taken ih =>
    obtain ⟨trace, longer⟩ := ih
    exact ⟨_, longer.snoc taken⟩

/-! ## What a turn does -/

section Turn

variable {collectionId collectionUri targetActorUri approvalUri : String}

theorem revalidate_of_local
    (isLocal : (localUsernameFromActorUri site targetActorUri).isSome = true) :
    revalidateApproval site now collectionId collectionUri targetActorUri approvalUri store
      = (store, false) := by
  rw [revalidateApproval, if_pos isLocal]

theorem revalidate_of_unanswered
    (remote : ¬ (localUsernameFromActorUri site targetActorUri).isSome = true)
    (unanswered : (fetchRemoteActivitypubDocument site.toWeb approvalUri store.requests).1 = none) :
    (revalidateApproval site now collectionId collectionUri targetActorUri approvalUri store).1
      = { store with requests :=
          (fetchRemoteActivitypubDocument site.toWeb approvalUri store.requests).2 } := by
  rw [revalidateApproval, if_neg remote]
  dsimp only
  rw [unanswered]

theorem revalidate_of_answered {fetched : Fetched}
    (remote : ¬ (localUsernameFromActorUri site targetActorUri).isSome = true)
    (ans : (fetchRemoteActivitypubDocument site.toWeb approvalUri store.requests).1
      = some fetched) :
    let verified := featureAuthorizationMatchesDocument fetched.document approvalUri collectionUri
      targetActorUri
    (revalidateApproval site now collectionId collectionUri targetActorUri approvalUri store).1
      = updateRemoteCollectionItemApprovalVerification now collectionId collectionUri
          targetActorUri (if verified then .accepted else .pending) verified fetched
          { store with requests :=
            (fetchRemoteActivitypubDocument site.toWeb approvalUri store.requests).2 } := by
  rw [revalidateApproval, if_neg remote]
  dsimp only
  rw [ans]

end Turn

/-! ## The handlers and the loops are runs -/

section Runs

variable {uri collectionId collectionUri : String} {object : Json}
  {remoteActor : RemoteActorProfile}

theorem upsertItem_isRun (isId : collectionId = remoteAccountRestId collectionUri)
    (object : Json) (store : Store) :
    IsRun site store (upsertRemoteCollectionItemFromObject site now collectionId collectionUri
      object store).1 := by
  rw [isId]
  exact IsRun.step site (.storeItem collectionUri object now) store

theorem revalidateApproval_isRun (isId : collectionId = remoteAccountRestId collectionUri)
    (targetActorUri approvalUri : String) (store : Store) :
    IsRun site store (revalidateApproval site now collectionId collectionUri targetActorUri
      approvalUri store).1 := by
  rw [isId]
  exact IsRun.step site (.revalidate collectionUri targetActorUri approvalUri now) store

theorem deleteCollections_isRun (guard : RemoteCollectionRow → Bool) (store : Store) :
    IsRun site store (store.deleteCollections guard) := by
  have items := IsRun.step site (.delete fun item =>
    store.collections.exists? fun row => guard row && row.id == item.collectionId) store
  exact items.trans (IsRun.step site (.elsewhere store.actors (store.collections.deleteWhere guard)) _)

theorem upsertActor_isRun (actor : RemoteActorProfile) (store : Store) :
    IsRun site store (store.upsertRemoteActor actor) := by
  apply (deleteCollections_isRun (store.losesActor actor) store).trans
  exact IsRun.step site (.elsewhere (Remote.upsertRemoteActor actor store.actors)
    (store.deleteCollections (store.losesActor actor)).collections) _

theorem replaceItems_isRun (isId : collectionId = remoteAccountRestId collectionUri)
    (object : Json) (store : Store) :
    IsRun site store (replaceRemoteCollectionItemsFromObject site now collectionId collectionUri
      object store).1 := by
  apply upsertItems_keeps
  · exact IsRun.step site (.delete fun item => item.collectionId == collectionId) store
  · intro object middle prior
    exact prior.trans (upsertItem_isRun isId object middle)

theorem upsertFromObject_isRun (object : Json) (store : Store) :
    IsRun site store (upsertRemoteCollectionFromObject site now remoteActor object store).1 := by
  unfold upsertRemoteCollectionFromObject
  cases remoteCollectionDraftFromObject remoteActor object with
  | none => exact .refl store
  | some draft =>
    have row := IsRun.step site (.elsewhere store.actors
      (upsertRemoteCollectionDraft draft store.collections)) store
    dsimp only
    split_ifs
    · rw [Attempt.fst_andThen_ok]
      exact row.trans (replaceItems_isRun draft.idOfUri object _)
    · exact row

/-- **An activity is a run of steps.** -/
theorem receive_isRun (site : Site) (ev : CollectionActivity) (store : Store) :
    IsRun site store (receive site ev store) := by
  have effect := effect_receive site ev store
  generalize receive site ev store = after at effect ⊢
  cases effect with
  | nothing => exact .refl store
  | actor => exact upsertActor_isRun ev.sender store
  | collection object =>
    exact (upsertActor_isRun ev.sender store).trans (upsertFromObject_isRun object _)
  | item object collection =>
    exact (upsertActor_isRun ev.sender store).trans (upsertItem_isRun collection.idOfUri object _)
  | deleteCollection collectionUri => exact deleteCollections_isRun _ store
  | deleteItems object collection =>
    exact IsRun.step site (.delete fun item => item.collectionId == collection.id
      && ((activitypubValueId (some object)).isSome
          && item.uri == activitypubValueId (some object)
        || (activitypubValueId (object.get "featuredObject")).isSome
          && some item.targetActorUri == activitypubValueId (object.get "featuredObject"))) store

/-- **So is the loop over the items of a collection.** -/
theorem revalidate_isRun (coll : RemoteCollectionRow)
    (items : List RemoteCollectionItemRow) (store : Store) :
    IsRun site store (revalidateRemoteCollectionItemApprovals site now coll items store) := by
  induction items generalizing store with
  | nil => exact .refl store
  | cons item rest ih =>
    rw [revalidateRemoteCollectionItemApprovals]
    cases item.featureAuthorization with
    | none => exact ih store
    | some approvalUri =>
      exact (revalidateApproval_isRun coll.idOfUri item.targetActorUri approvalUri
        store).trans (ih _)

/-- **And the loop of the scheduled trigger.** -/
theorem revalidateStale_isRun (rows : List RemoteCollectionItemRevalidationRow) (store : Store) :
    IsRun site store (revalidateStaleRemoteCollectionItemApprovals site now rows store).1 := by
  induction rows generalizing store with
  | nil => exact .refl store
  | cons row rest ih =>
    have isId : row.item.collectionId = remoteAccountRestId row.collection.uri :=
      row.joined.symm.trans row.collection.idOfUri
    rw [revalidateStaleRemoteCollectionItemApprovals]
    exact (revalidateApproval_isRun isId row.item.targetActorUri row.featureAuthorization
      store).trans (ih _)

/-- What an instance does about remote collections, each taken as a whole. -/
inductive Request (site : Site) : Store → Store → Prop where
  | received (event : CollectionActivity) (store : Store) :
      Request site store (receive site event store)
  | shown (now : Nat) {collection : RemoteCollectionRow} {items : List RemoteCollectionItemRow}
      {store : Store} (stored : collection ∈ store.collections.rows)
      (listed : listRemoteCollectionItemsDueForApprovalRevalidation now collection.id store items) :
      Request site store (revalidateRemoteCollectionItemApprovals site now collection items store)
  | scheduled (now : Nat) {rows : List RemoteCollectionItemRevalidationRow} {store : Store}
      (listed : listStaleRemoteCollectionItemsForApprovalRevalidation now 50 store rows) :
      Request site store (revalidateStaleRemoteCollectionItemApprovals site now rows store).1
  | revoked (collectionId itemId : String) (store : Store) :
      Request site store (revokeRemoteCollectionItem collectionId itemId store).1

/-- **Each of them is a run of steps.** -/
theorem Request.isRun (req : Request site before after) : IsRun site before after := by
  cases req with
  | received ev => exact receive_isRun site ev before
  | shown now => exact revalidate_isRun _ _ before
  | scheduled now => exact revalidateStale_isRun _ before
  | revoked collectionId itemId => exact IsRun.step site (.revoke collectionId itemId) before

end Runs

end Cfwdon.Collections
