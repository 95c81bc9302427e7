import Cfwdon.Collections.Store
import Cfwdon.Conversations.Store

/-!
# Items of local collections

`account_collections` and `account_collection_items`, the statements on the items, and the
answers of featured actors.  A local account is featured at once; a remote actor is asked,
and answers with an `Accept` or a `Reject` of the request, or deletes the authorization it
gave before.
-/

namespace Cfwdon.Collections

open Library ActivityPub
open Conversations (LocalAccount LocalAccounts)

/-- The `state` of an item of a local collection. -/
inductive FeatureState where
  | accepted
  | pending
  | rejected
  | revoked
  deriving DecidableEq

/-- `CollectionRow`, without what it shows. -/
structure CollectionRow where
  id : String
  accountId : String

/-- `CollectionItemRow`, with its collection. -/
structure CollectionItemRow where
  id : String
  collectionId : String
  targetAccountRef : String
  state : FeatureState
  activityUri : Option String
  featureAuthorization : Option String
  deriving DecidableEq

/-- The columns of the unique index of items. -/
def CollectionItemRow.key (item : CollectionItemRow) : String × String :=
  (item.collectionId, item.targetAccountRef)

abbrev AccountCollections := Table CollectionRow CollectionRow.id

abbrev CollectionItems := Table CollectionItemRow CollectionItemRow.key

structure LocalCollections where
  accounts : LocalAccounts
  collections : AccountCollections
  items : CollectionItems

def LocalCollections.empty : LocalCollections := ⟨Table.empty, Table.empty, Table.empty⟩

/-! ## Statements on items -/

/-- A local account, or the URI of a remote actor. -/
inductive AccountReference where
  | localAccount (account : LocalAccount)
  | remoteActor (actorUri : String)

def AccountReference.featured : AccountReference → String × FeatureState
  | .localAccount account => (account.id, .accepted)
  | .remoteActor actorUri => (remoteAccountRestId actorUri, .pending)

/-- An item of the account that is stored already keeps its id and takes the state of a new
one. -/
def insertCollectionItem (itemId collectionId : String) (target : AccountReference)
    (items : CollectionItems) : CollectionItems :=
  items.upsert
    { id := itemId
      collectionId := collectionId
      targetAccountRef := target.featured.1
      state := target.featured.2
      activityUri := none
      featureAuthorization := none }
    (fun stored => { stored with state := target.featured.2 })
    fun _ => rfl

def isItem (collectionId itemId : String) (item : CollectionItemRow) : Bool :=
  item.collectionId == collectionId && item.id == itemId

def collectionItemById (collectionId itemId : String) (items : CollectionItems) :
    Option CollectionItemRow :=
  items.rows.find? (isItem collectionId itemId)

def updateCollectionItemFeatureRequestUri (collectionId itemId activityUri : String) :
    Update CollectionItemRow CollectionItemRow.key where
  guard := isItem collectionId itemId
  set item := { item with activityUri := some activityUri }
  keeps _ := rfl

def updateCollectionItemFeatureState (collectionId itemId : String) (state : FeatureState)
    (featureAuthorization : Option String) : Update CollectionItemRow CollectionItemRow.key where
  guard := isItem collectionId itemId
  set item :=
    { item with
      state := state
      featureAuthorization := featureAuthorization.or item.featureAuthorization }
  keeps _ := rfl

def revokeCollectionItem (collectionId itemId : String) :
    Update CollectionItemRow CollectionItemRow.key :=
  updateCollectionItemFeatureState collectionId itemId .revoked none

/-- The first item of a stored collection that was asked for with the activity. -/
def collectionItemByFeatureRequestUri (store : LocalCollections) (activityUri : String) :
    Option (CollectionRow × CollectionItemRow) := do
  let found ← store.items.rows.find? fun item =>
    item.activityUri == some activityUri && (store.collections.find item.collectionId).isSome
  let collection ← store.collections.find found.collectionId
  let item ← collectionItemById collection.id found.id store.items
  return (collection, item)

/-! ## Answers -/

def featureResponseObjectUri (activity : Json) : Option String :=
  activitypubValueId (activity.get "object")

def featureResponseResultUri (activity : Json) : Option String :=
  match activity.get "result" with
  | some (.array values) => values.findSome? fun value => activitypubValueId (some value)
  | value => activitypubValueId value

def answeredItem (store : LocalCollections) (activity : Json) (actorUri : String) :
    Option (CollectionRow × CollectionItemRow) := do
  let featureRequestUri ← featureResponseObjectUri activity
  let found ← collectionItemByFeatureRequestUri store featureRequestUri
  if found.2.targetAccountRef = remoteAccountRestId actorUri then return found else none

/-- Whether the activity is such an answer, and the tables after it. -/
def handleInboxCollectionFeatureAccept (activity : Json) (actorUri : String)
    (store : LocalCollections) : Bool × LocalCollections :=
  let answered := do
    let approvalUri ← featureResponseResultUri activity
    let (collection, item) ← answeredItem store activity actorUri
    let _ ← store.accounts.find collection.accountId
    return (collection, item, approvalUri)
  match answered with
  | none => (false, store)
  | some (collection, item, approvalUri) =>
    (true,
      { store with
        items :=
          (updateCollectionItemFeatureState collection.id item.id .accepted
            (some approvalUri)).run store.items })

def handleInboxCollectionFeatureReject (activity : Json) (actorUri : String)
    (store : LocalCollections) : Bool × LocalCollections :=
  match answeredItem store activity actorUri with
  | none => (false, store)
  | some (collection, item) =>
    (true,
      { store with
        items :=
          (updateCollectionItemFeatureState collection.id item.id .rejected none).run
            store.items })

def splitOnceAt (text separator : String) : Option (String × String) :=
  match splitOn text separator with
  | before :: after :: rest => some (before, joinWith (after :: rest) separator)
  | _ => none

def localCollectionIdFromUri (instanceDomain uri : String) : Option String := do
  let rest ← stripPrefix uri (instanceBaseUrl instanceDomain ++ "/users/")
  let (_, collectionId) ← splitOnceAt rest "/collections/"
  ((splitOn collectionId "/").head?.map trim).filter fun value => value ≠ ""

/-- The collection a deleted authorization is for, if it was the sender that was featured. -/
def deletedAuthorization (activity : Json) (actorUri : String) : Option String := do
  let object ← activity.get "object"
  let collectionUri ← activitypubValueId (object.get "interactingObject")
  let featuredActorUri ← activitypubValueId (object.get "interactionTarget")
  if (object.get "type").bind Json.asStr = some "FeatureAuthorization"
      ∧ featuredActorUri = actorUri then
    return collectionUri
  else none

def handleInboxCollectionFeatureAuthorizationDelete (instanceDomain : String) (activity : Json)
    (actorUri : String) (store : LocalCollections) : Bool × LocalCollections :=
  let collection := do
    let collectionUri ← deletedAuthorization activity actorUri
    let collectionId ← localCollectionIdFromUri instanceDomain collectionUri
    store.collections.find collectionId
  match collection with
  | none => (false, store)
  | some collection =>
    match store.items.find (collection.id, remoteAccountRestId actorUri) with
    | none => (true, store)
    | some item =>
      (true,
        { store with
          items :=
            (updateCollectionItemFeatureState collection.id item.id .revoked none).run
              store.items })

end Cfwdon.Collections
