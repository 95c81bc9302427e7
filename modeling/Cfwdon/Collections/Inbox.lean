import Cfwdon.Collections.Store

/-!
# Activities about collections

The handlers of the activities, and the things an activity can do to the store.
-/

namespace Cfwdon.Collections

section Inbox

/-! ## Activities about collections

An actor stores its collections with `Add` and `Update`, adds an item to one with `Add`,
and takes a collection or an item back with `Remove`.  A collection that comes with items
replaces the stored ones.  For each item that features an actor of another server the
authorization it names is fetched.

A statement that fails ends the activity, and what was written before stays.
-/

open Library Remote

variable (site : Site) (now : Nat)

/-- What the check of an item gives: its state, whether a document says so, and the
document that was fetched. -/
structure Approval where
  state : ItemState
  verified : Bool
  document : Option Fetched

def verifyRemoteCollectionItemApproval (collectionUri targetActorUri : String)
    (featureAuthorization : Option String) : Online Approval :=
  if (localUsernameFromActorUri site targetActorUri).isSome then
    return ⟨.accepted, false, none⟩
  else
    match featureAuthorization with
    | none => return ⟨.pending, false, none⟩
    | some approvalUri => do
      match ← fetchRemoteActivitypubDocument site.toWeb approvalUri with
      | none => return ⟨.pending, false, none⟩
      | some fetched =>
        if featureAuthorizationMatchesDocument fetched.document approvalUri collectionUri
            targetActorUri then
          return ⟨.accepted, true, some fetched⟩
        else return ⟨.pending, false, some fetched⟩

def FeaturedItem.row (item : FeaturedItem) (collectionId : String) (approval : Approval) :
    RemoteCollectionItemRow where
  id := item.idIn collectionId
  collectionId
  uri := item.uri
  targetActorUri := item.targetActorUri
  state := approval.state
  featureAuthorization := item.featureAuthorization
  approvalLastVerifiedAt := if approval.verified then some now else none
  publishedAt := item.publishedAt
  createdAt := now

/-- The check of an item, with the number of the next request. -/
def FeaturedItem.check (item : FeaturedItem) (collectionUri : String) (store : Store) :
    Approval × Nat :=
  verifyRemoteCollectionItemApproval site collectionUri item.targetActorUri
    item.featureAuthorization store.requests

def upsertRemoteCollectionItemFromObject (collectionId collectionUri : String) (object : Json)
    (store : Store) : Attempt Store String Unit :=
  match featuredItemFromObject object with
  | none => (store, .ok ())
  | some item =>
    let approval := (item.check site collectionUri store).1
    let requests := (item.check site collectionUri store).2
    match upsertItem (item.row now collectionId approval) store.items with
    | .error error => ({ store with requests }, .error error)
    | .ok items =>
      let write : ItemWrite :=
        ⟨collectionUri, item.targetActorUri, approval.state, approval.document⟩
      ({ store with items, requests, writes := store.writes ++ [write] }, .ok ())

/-! ## Collections -/

/-- The loop of `replace_remote_collection_items_from_object`. -/
def upsertItemsInOrder (collectionId collectionUri : String) :
    List Json → Store → Attempt Store String Unit
  | [], store => (store, .ok ())
  | object :: rest, store =>
    (upsertRemoteCollectionItemFromObject site now collectionId collectionUri object
      store).andThen fun store _ => upsertItemsInOrder collectionId collectionUri rest store

def replaceRemoteCollectionItemsFromObject (collectionId collectionUri : String) (object : Json)
    (store : Store) : Attempt Store String Unit :=
  upsertItemsInOrder site now collectionId collectionUri (featuredCollectionItems object)
    (store.deleteItemsOf collectionId)

def upsertRemoteCollectionFromObject (remoteActor : RemoteActorProfile) (object : Json)
    (store : Store) : Attempt Store String (Option RemoteCollectionRow) :=
  match remoteCollectionDraftFromObject remoteActor object with
  | none => (store, .ok none)
  | some draft =>
    let store := { store with collections := upsertRemoteCollectionDraft draft store.collections }
    let row := store.collections.find draft.uri
    if row.isSome && draft.includesItems then
      (replaceRemoteCollectionItemsFromObject site now draft.id draft.uri object store).andThen
        fun store _ => (store, .ok row)
    else (store, .ok row)

/-! ## Activities -/

def objectOf (activity : Json) : Option Json :=
  (activity.get "object").filter fun value =>
    match value with
    | .object _ => true
    | _ => false

def handleInboxCollectionAdd (activity : Json) (remoteActor : RemoteActorProfile)
    (store : Store) : Attempt Store String Unit :=
  match activitypubValueId (activity.get "target"), objectOf activity with
  | some target, some object =>
    let store := store.upsertRemoteActor remoteActor
    if isRemoteActorCollectionsTarget remoteActor.actorUri target then
      (upsertRemoteCollectionFromObject site now remoteActor object store).andThen
        fun store _ => (store, .ok ())
    else
      match store.collections.find target with
      | none => (store, .ok ())
      | some collection =>
        if collection.actorUri ≠ remoteActor.actorUri then (store, .ok ())
        else
          upsertRemoteCollectionItemFromObject site now collection.id collection.uri object
            store
  | _, _ => (store, .ok ())

def handleInboxCollectionUpdate (activity : Json) (remoteActor : RemoteActorProfile)
    (store : Store) : Attempt Store String Bool :=
  match objectOf activity with
  | none => (store, .ok false)
  | some object =>
    if (object.get "type").bind Json.asStr ≠ some "FeaturedCollection" then (store, .ok false)
    else
      (upsertRemoteCollectionFromObject site now remoteActor object
        (store.upsertRemoteActor remoteActor)).andThen fun store _ => (store, .ok true)

def handleInboxCollectionRemove (activity : Json) (remoteActor : RemoteActorProfile)
    (store : Store) : Store :=
  match activitypubValueId (activity.get "target"), activity.get "object" with
  | some target, some object =>
    if isRemoteActorCollectionsTarget remoteActor.actorUri target then
      match activitypubValueId (some object) with
      | some collectionUri =>
        deleteRemoteCollectionByUri remoteActor.actorUri collectionUri store
      | none => store
    else
      match store.collections.find target with
      | none => store
      | some collection =>
        if collection.actorUri ≠ remoteActor.actorUri then store
        else deleteRemoteCollectionItemByObject collection.id object store
  | _, _ => store

/-- The activities that are about collections. -/
inductive ActivityKind where
  | add
  | update
  | remove

/-- An activity, with the actor its signature was verified for and the time. -/
structure CollectionActivity where
  kind : ActivityKind
  activity : Json
  sender : RemoteActorProfile
  now : Nat

/-- The store after an activity, whether or not its handler failed. -/
def receive (event : CollectionActivity) (store : Store) : Store :=
  match event.kind with
  | .add => (handleInboxCollectionAdd site event.now event.activity event.sender store).1
  | .update => (handleInboxCollectionUpdate site event.now event.activity event.sender store).1
  | .remove => handleInboxCollectionRemove event.activity event.sender store

/-! ## What a handler leaves alone -/

variable {site now} {uri collectionId collectionUri : String} {object : Json} {store : Store}

def FeaturedItem.asked (item : FeaturedItem) (site : Site) (collectionUri : String)
    (store : Store) : Store :=
  { store with requests := (item.check site collectionUri store).2 }

def FeaturedItem.stored (item : FeaturedItem) (site : Site) (collectionUri : String)
    (items : RemoteCollectionItems) (store : Store) : Store :=
  { store with
    items
    requests := (item.check site collectionUri store).2
    writes := store.writes ++ [⟨collectionUri, item.targetActorUri,
      (item.check site collectionUri store).1.state,
      (item.check site collectionUri store).1.document⟩] }

/-- What storing an item can do: nothing, ask for its authorization, or ask and store
it. -/
theorem upsertItem_cases (site : Site) (now : Nat) (collectionId collectionUri : String)
    (object : Json) (store : Store) :
    let post := (upsertRemoteCollectionItemFromObject site now collectionId collectionUri object
      store).1
    (featuredItemFromObject object = none ∧ post = store)
      ∨ ∃ item, featuredItemFromObject object = some item
        ∧ ((∃ error, upsertItem (item.row now collectionId (item.check site collectionUri store).1)
              store.items = .error error ∧ post = item.asked site collectionUri store)
          ∨ ∃ items, upsertItem (item.row now collectionId (item.check site collectionUri store).1)
              store.items = .ok items ∧ post = item.stored site collectionUri items store) := by
  dsimp only
  unfold upsertRemoteCollectionItemFromObject
  cases read : featuredItemFromObject object with
  | none => exact Or.inl ⟨rfl, rfl⟩
  | some item =>
    right
    refine ⟨item, rfl, ?_⟩
    dsimp only
    cases held : upsertItem (item.row now collectionId (item.check site collectionUri store).1)
        store.items with
    | error error => exact Or.inl ⟨error, rfl, rfl⟩
    | ok items => exact Or.inr ⟨items, rfl, rfl⟩

theorem untouched_upsertItem (other : collectionId ≠ remoteAccountRestId uri) :
    Store.Untouched uri store (upsertRemoteCollectionItemFromObject site now collectionId
      collectionUri object store).1 := by
  obtain ⟨_, eq⟩ | ⟨item, _, ⟨_, _, asked⟩ | ⟨items, held, done⟩⟩ :=
    upsertItem_cases site now collectionId collectionUri object store
  · rw [eq]
    exact .refl uri store
  · rw [asked]
    exact ⟨rfl, fun _ => rfl⟩
  · rw [done]
    exact ⟨rfl, fun _ => find_upsertItem_of_other other held⟩

theorem collections_upsertItem :
    (upsertRemoteCollectionItemFromObject site now collectionId collectionUri object
      store).1.collections = store.collections := by
  obtain ⟨_, eq⟩ | ⟨item, _, ⟨_, _, asked⟩ | ⟨items, _, done⟩⟩ :=
    upsertItem_cases site now collectionId collectionUri object store
  · rw [eq]
  · rw [asked]
    rfl
  · rw [done]
    rfl

theorem upsertItems_keeps {keeps : Store → Prop} {objects : List Json}
    (init : keeps store)
    (each : ∀ object store, keeps store →
      keeps (upsertRemoteCollectionItemFromObject site now collectionId collectionUri object
        store).1) :
    keeps (upsertItemsInOrder site now collectionId collectionUri objects store).1 := by
  induction objects generalizing store with
  | nil => exact init
  | cons object rest ih =>
    rw [upsertItemsInOrder]
    apply Attempt.andThen_keeps (each object store init)
    intro next _ kept
    exact ih kept

theorem untouched_replaceItems (other : collectionId ≠ remoteAccountRestId uri) :
    Store.Untouched uri store (replaceRemoteCollectionItemsFromObject site now collectionId
      collectionUri object store).1 := by
  apply upsertItems_keeps
  · apply Store.untouched_deleteItems other
    intro item deleted
    exact beq_iff_eq.mp deleted
  · intro object middle prior
    exact prior.trans (untouched_upsertItem other)

theorem collections_replaceItems :
    (replaceRemoteCollectionItemsFromObject site now collectionId collectionUri object
      store).1.collections = store.collections := by
  let eq (post : Store) : Prop := post.collections = store.collections
  suffices kept : eq (upsertItemsInOrder site now collectionId collectionUri
      (featuredCollectionItems object) (store.deleteItemsOf collectionId)).1 from kept
  apply upsertItems_keeps
  · rfl
  · intro object middle prior
    exact collections_upsertItem.trans prior

section Collection

variable {remoteActor : RemoteActorProfile} {draft : RemoteCollectionDraft}

theorem upsertFromObject_of_none
    (read : remoteCollectionDraftFromObject remoteActor object = none) :
    (upsertRemoteCollectionFromObject site now remoteActor object store).1 = store := by
  rw [upsertRemoteCollectionFromObject, read]

theorem collections_upsertFromObject
    (read : remoteCollectionDraftFromObject remoteActor object = some draft) :
    (upsertRemoteCollectionFromObject site now remoteActor object store).1.collections
      = upsertRemoteCollectionDraft draft store.collections := by
  rw [upsertRemoteCollectionFromObject, read]
  dsimp only
  split_ifs
  · rw [Attempt.fst_andThen_ok, collections_replaceItems]
  · rfl

theorem untouched_upsertFromObject
    (read : remoteCollectionDraftFromObject remoteActor object = some draft)
    (other : draft.uri ≠ uri) :
    Store.Untouched uri store
      (upsertRemoteCollectionFromObject site now remoteActor object store).1 := by
  have row : Store.Untouched uri store
      { store with collections := upsertRemoteCollectionDraft draft store.collections } := by
    refine ⟨?_, fun _ => rfl⟩
    rw [find_upsertDraft, if_neg other]
  rw [upsertRemoteCollectionFromObject, read]
  dsimp only
  split_ifs
  · rw [Attempt.fst_andThen_ok]
    apply row.trans
    apply untouched_replaceItems
    intro sameId
    exact other (restId_injective (draft.idOfUri.symm.trans sameId))
  · exact row

end Collection

end Inbox

section Activities

/-! ## What an activity about collections does

An activity does one of a few things to the store: it stores its sender, a collection or
an item, or deletes a collection or items.  What it stores is read off the activity before
anything is looked up.
-/

open Library Remote

def CollectionActivity.storesActor (event : CollectionActivity) : Bool :=
  match event.kind with
  | .add => (activitypubValueId (event.activity.get "target")).isSome
      && (objectOf event.activity).isSome
  | .update => (objectOf event.activity).any fun object =>
    (object.get "type").bind Json.asStr == some "FeaturedCollection"
  | .remove => false

def CollectionActivity.offersCollection (event : CollectionActivity) : Bool :=
  match event.kind with
  | .add => (activitypubValueId (event.activity.get "target")).any
      (isRemoteActorCollectionsTarget event.sender.actorUri)
  | .update => true
  | .remove => false

def CollectionActivity.draft (event : CollectionActivity) : Option RemoteCollectionDraft :=
  if event.offersCollection then
    (objectOf event.activity).bind (remoteCollectionDraftFromObject event.sender)
  else none

/-! ## What an activity does -/

variable {site : Site} {event : CollectionActivity} {store : Store}

/-- What the handlers do to a store. -/
inductive Effect (site : Site) (event : CollectionActivity) (store : Store) : Store → Prop where
  | nothing (noActor : event.storesActor = false) (noDraft : event.draft = none) :
      Effect site event store store
  | actor (stored : event.storesActor = true) (noDraft : event.draft = none) :
      Effect site event store (store.upsertRemoteActor event.sender)
  | collection (object : Json) (stored : event.storesActor = true)
      (reads : event.draft = remoteCollectionDraftFromObject event.sender object) :
      Effect site event store (upsertRemoteCollectionFromObject site event.now event.sender object
        (store.upsertRemoteActor event.sender)).1
  | item (object : Json) (collection : RemoteCollectionRow) (stored : event.storesActor = true)
      (noDraft : event.draft = none)
      (found : (store.upsertRemoteActor event.sender).collections.find collection.uri
        = some collection)
      (owned : collection.actorUri = event.sender.actorUri) :
      Effect site event store (upsertRemoteCollectionItemFromObject site event.now collection.id
        collection.uri object (store.upsertRemoteActor event.sender)).1
  | deleteCollection (collectionUri : String) (noActor : event.storesActor = false)
      (noDraft : event.draft = none) :
      Effect site event store
        (deleteRemoteCollectionByUri event.sender.actorUri collectionUri store)
  | deleteItems (object : Json) (collection : RemoteCollectionRow)
      (noActor : event.storesActor = false) (noDraft : event.draft = none)
      (found : store.collections.find collection.uri = some collection)
      (owned : collection.actorUri = event.sender.actorUri) :
      Effect site event store (deleteRemoteCollectionItemByObject collection.id object store)

theorem effect_add (isAdd : event.kind = .add) :
    Effect site event store
      (handleInboxCollectionAdd site event.now event.activity event.sender store).1 := by
  unfold handleInboxCollectionAdd
  cases targeted : activitypubValueId (event.activity.get "target") with
  | none =>
    apply Effect.nothing
    · simp [CollectionActivity.storesActor, isAdd, targeted]
    · simp [CollectionActivity.draft, CollectionActivity.offersCollection, isAdd, targeted]
  | some target =>
    cases carried : objectOf event.activity with
    | none =>
      apply Effect.nothing
      · simp [CollectionActivity.storesActor, isAdd, carried]
      · simp [CollectionActivity.draft, carried]
    | some object =>
      have held : event.storesActor = true := by
        simp [CollectionActivity.storesActor, isAdd, targeted, carried]
      dsimp only
      by_cases own : isRemoteActorCollectionsTarget event.sender.actorUri target = true
      · rw [if_pos own, Attempt.fst_andThen_ok]
        apply Effect.collection object held
        simp [CollectionActivity.draft, CollectionActivity.offersCollection, isAdd, targeted,
          own, carried]
      · have noDraft : event.draft = none := by
          simp [CollectionActivity.draft, CollectionActivity.offersCollection, isAdd,
            targeted, own]
        rw [if_neg own]
        cases got : (store.upsertRemoteActor event.sender).collections.find target with
        | none => exact .actor held noDraft
        | some coll =>
          have isUri : coll.uri = target := Table.key_of_find got
          dsimp only
          split_ifs with foreign
          · exact .actor held noDraft
          · exact .item object coll held noDraft (isUri.symm ▸ got) (not_not.mp foreign)

theorem effect_update (isUpdate : event.kind = .update) :
    Effect site event store
      (handleInboxCollectionUpdate site event.now event.activity event.sender store).1 := by
  unfold handleInboxCollectionUpdate
  cases carried : objectOf event.activity with
  | none =>
    apply Effect.nothing
    · simp [CollectionActivity.storesActor, isUpdate, carried]
    · simp [CollectionActivity.draft, carried]
  | some object =>
    dsimp only
    by_cases typed : (object.get "type").bind Json.asStr = some "FeaturedCollection"
    · rw [if_neg (not_not.mpr typed), Attempt.fst_andThen_ok]
      apply Effect.collection object
      · simp [CollectionActivity.storesActor, isUpdate, carried, typed]
      · simp [CollectionActivity.draft, CollectionActivity.offersCollection, isUpdate, carried]
    · rw [if_pos typed]
      apply Effect.nothing
      · simp [CollectionActivity.storesActor, isUpdate, carried, typed]
      · simp [CollectionActivity.draft, carried, remoteCollectionDraftFromObject, typed]

theorem effect_remove (isRemove : event.kind = .remove) :
    Effect site event store (handleInboxCollectionRemove event.activity event.sender store) := by
  have noActor : event.storesActor = false := by simp [CollectionActivity.storesActor, isRemove]
  have noDraft : event.draft = none := by
    simp [CollectionActivity.draft, CollectionActivity.offersCollection, isRemove]
  unfold handleInboxCollectionRemove
  cases activitypubValueId (event.activity.get "target") with
  | none => exact .nothing noActor noDraft
  | some target =>
    cases event.activity.get "object" with
    | none => exact .nothing noActor noDraft
    | some object =>
      dsimp only
      split_ifs with own
      · cases activitypubValueId (some object) with
        | none => exact .nothing noActor noDraft
        | some collectionUri => exact .deleteCollection collectionUri noActor noDraft
      · cases got : store.collections.find target with
        | none => exact .nothing noActor noDraft
        | some coll =>
          have isUri : coll.uri = target := Table.key_of_find got
          dsimp only
          split_ifs with foreign
          · exact .nothing noActor noDraft
          · exact .deleteItems object coll noActor noDraft (isUri.symm ▸ got)
              (not_not.mp foreign)

theorem effect_receive (site : Site) (event : CollectionActivity) (store : Store) :
    Effect site event store (receive site event store) := by
  unfold receive
  cases kind : event.kind with
  | add => exact effect_add kind
  | update => exact effect_update kind
  | remove => exact effect_remove kind

end Activities

end Cfwdon.Collections
