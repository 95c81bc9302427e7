import Cfwdon.Library.Attempt
import Cfwdon.Library.Base64
import Cfwdon.Remote.Fetch

/-!
# Collections of other servers

What is read of a featured collection, and the tables it is stored in.
-/

namespace Cfwdon.Collections

section FeaturedObjects

/-! ## Featured collections of other servers

A server tells about the collections of its actors in `FeaturedCollection` objects with
`FeaturedItem` objects in them, and an actor that is featured answers with a
`FeatureAuthorization` document.  This is what is read off these three, and which URIs
the code derives from them.
-/

open Library Remote Accounts

def remoteAccountRestId (uri : String) : String :=
  "r_" ++ Base64.encodeUrlSafe uri.toUTF8.data.toList

/-- **An id stands for one URI.** -/
theorem restId_injective {uri uri' : String}
    (eq : remoteAccountRestId uri = remoteAccountRestId uri') : uri = uri' := by
  have encoded : Base64.encodeUrlSafe uri.toUTF8.data.toList
      = Base64.encodeUrlSafe uri'.toUTF8.data.toList := by
    have lists := congrArg String.toList eq
    rw [remoteAccountRestId, remoteAccountRestId, String.toList_append, String.toList_append] at lists
    exact String.toList_inj.mp (List.append_cancel_left lists)
  have bytes := Base64.encodeUrlSafe_injective encoded
  exact String.toByteArray_inj.mp (ByteArray.ext (Array.toList_inj.mp bytes))

def activitypubValueId : Option Json → Option String
  | some (.string value) => some value
  | some (.object fields) => (fields.lookup "id").bind Json.asStr
  | _ => none

def activitypubCollectionUri (actorUri path : String) : String :=
  trimEndMatches actorUri '/' ++ "/collections/" ++ path

def isRemoteActorCollectionsTarget (actorUri target : String) : Bool :=
  target == activitypubCollectionUri actorUri "featured"
    || target == trimEndMatches actorUri '/' ++ "/collections"

/-- This instance, with the URL parser and the other servers. -/
structure Site extends Web where
  instanceDomain : String
  /-- `Url::path_segments` of a parsed URL. -/
  pathSegments : String → Option (List String)

def localUsernameFromActorUri (site : Site) (actorUri : String) : Option String := do
  let parsed ← site.parseUrl actorUri
  let host ← site.hostOf parsed
  if toAsciiLowercase (trimEndMatches host '.') ≠ instanceHost site.instanceDomain then none
  else
    let segments ← site.pathSegments parsed
    match segments.filter fun segment => segment ≠ "" with
    | ["users", username] => some (toAsciiLowercase username)
    | [segment] =>
      ((stripPrefix segment "@").filter fun username => username ≠ "").map toAsciiLowercase
    | _ => none

/-! ## Collections -/

def collectionObjectAttributedToActor (object : Json) (actorUri : String) : Bool :=
  match object.get "attributedTo" with
  | some (.string value) => value == actorUri
  | some (.array values) =>
    values.any fun value => activitypubValueId (some value) == some actorUri
  | some value => activitypubValueId (some value) == some actorUri
  | none => false

/-- The summary, or the first text of the summary map in the order of its languages. -/
def featuredCollectionDescription (object : Json) : String × Option String :=
  match (object.get "summary").bind Json.asStr with
  | some summary => (summary, none)
  | none =>
    match object.get "summaryMap" with
    | some (.object entries) =>
      ((entries.mergeSort fun entry later => decide (entry.1 ≤ later.1)).findSome?
        fun (language, value) =>
          value.asStr.map fun description => (description, some language)).getD ("", none)
    | _ => ("", none)

def featuredCollectionTagName (object : Json) : Option String :=
  ((((object.get "topic").bind fun topic => (topic.get "name").or (topic.get "href")).bind
      Json.asStr).map fun value => toAsciiLowercase (trimStartMatches (trim value) "#")).filter
    fun value => value ≠ ""

def itemsField (object : Json) : Option Json :=
  (object.get "orderedItems").or (object.get "items")

def featuredCollectionItems (object : Json) : List Json :=
  match itemsField object with
  | some (.array items) => items
  | _ => []

/-- The id is that of the URI. -/
structure RemoteCollectionRow where
  id : String
  actorUri : String
  uri : String
  name : String
  description : String
  language : Option String
  sensitive : Bool
  discoverable : Bool
  tagName : Option String
  url : Option String
  publishedAt : Option String
  remoteUpdatedAt : Option String
  idOfUri : id = remoteAccountRestId uri

/-- A row to write, and whether items came with it. -/
structure RemoteCollectionDraft extends RemoteCollectionRow where
  includesItems : Bool

def remoteCollectionDraftFromObject (remoteActor : RemoteActorProfile) (object : Json) :
    Option RemoteCollectionDraft :=
  if (object.get "type").bind Json.asStr ≠ some "FeaturedCollection"
      ∨ !collectionObjectAttributedToActor object remoteActor.actorUri then none
  else do
    let collectionUri ← activitypubValueId (some object)
    let name ← (((object.get "name").bind Json.asStr).map trim).filter fun value => value ≠ ""
    let (description, language) := featuredCollectionDescription object
    return {
      id := remoteAccountRestId collectionUri
      actorUri := remoteActor.actorUri
      uri := collectionUri
      name, description, language
      sensitive :=
        match object.get "sensitive" with
        | some (.bool value) => value
        | _ => false
      discoverable :=
        match object.get "discoverable" with
        | some (.bool value) => value
        | _ => true
      tagName := featuredCollectionTagName object
      url := activitypubValueId (object.get "url")
      publishedAt := (object.get "published").bind Json.asStr
      remoteUpdatedAt := (object.get "updated").bind Json.asStr
      idOfUri := rfl
      includesItems := (itemsField object).isSome }

/-- **A collection that is read is one of the actor that sent it**, whatever its URI. -/
theorem draft_of_sender {actor : RemoteActorProfile} {object : Json}
    {draft : RemoteCollectionDraft}
    (read : remoteCollectionDraftFromObject actor object = some draft) :
    draft.actorUri = actor.actorUri ∧ activitypubValueId (some object) = some draft.uri := by
  unfold remoteCollectionDraftFromObject at read
  split_ifs at read
  simp only [bind, Option.bind_eq_some_iff] at read
  obtain ⟨collUri, named, _, _, built⟩ := read
  cases built
  exact ⟨rfl, named⟩

/-! ## Items and their authorizations -/

def featureAuthorizationMatchesDocument (document : Json)
    (approvalUri collectionUri targetActorUri : String) : Bool :=
  let interactingObject :=
    ((document.get "interactingObject").or (document.get "interacting_object")).bind
      fun value => activitypubValueId (some value)
  let interactionTarget :=
    ((document.get "interactionTarget").or (document.get "interaction_target")).bind
      fun value => activitypubValueId (some value)
  (document.get "type").bind Json.asStr == some "FeatureAuthorization"
    && activitypubValueId (some document) == some approvalUri
    && interactingObject == some collectionUri
    && interactionTarget == some targetActorUri

/-- What a `FeaturedItem` object says. -/
structure FeaturedItem where
  uri : Option String
  targetActorUri : String
  featureAuthorization : Option String
  publishedAt : Option String

/-- The reads of `upsert_remote_collection_item_from_object`. -/
def featuredItemFromObject (object : Json) : Option FeaturedItem :=
  if (object.get "type").bind Json.asStr ≠ some "FeaturedItem" then none
  else
    (activitypubValueId (object.get "featuredObject")).map fun targetActorUri =>
      { uri := activitypubValueId (some object)
        targetActorUri
        featureAuthorization := (object.get "featureAuthorization").bind Json.asStr
        publishedAt := (object.get "published").bind Json.asStr }

def FeaturedItem.idIn (item : FeaturedItem) (collectionId : String) : String :=
  match item.uri with
  | some uri => remoteAccountRestId uri
  | none => remoteAccountRestId (collectionId ++ ":" ++ item.targetActorUri)

end FeaturedObjects

section Store

/-! ## Stored collections of other servers

The tables of remote collections and their items, and the statements that write them.
A collection is stored under its URI, an item under its collection and the actor it
features.  The rows of a collection go with its actor, and the items with the
collection.

Every write of the state of an item is noted, with the document it rests on: the notes
are not stored, they say what was decided on which grounds.
-/

open Library Remote

inductive ItemState where
  | accepted
  | pending
  | revoked
  deriving DecidableEq

/-- `RemoteCollectionItemRow`, with its collection.  Times are in seconds. -/
structure RemoteCollectionItemRow where
  id : String
  collectionId : String
  uri : Option String
  targetActorUri : String
  state : ItemState
  featureAuthorization : Option String
  approvalLastVerifiedAt : Option Nat
  publishedAt : Option String
  createdAt : Nat

/-- The columns of the unique index of items. -/
def RemoteCollectionItemRow.key (item : RemoteCollectionItemRow) : String × String :=
  (item.collectionId, item.targetActorUri)

abbrev RemoteCollections := Table RemoteCollectionRow RemoteCollectionRow.uri

abbrev RemoteCollectionItems := Table RemoteCollectionItemRow RemoteCollectionItemRow.key

/-- A write of the state of an item, with the document it rests on. -/
structure ItemWrite where
  collectionUri : String
  targetActorUri : String
  state : ItemState
  document : Option Fetched

/-- The tables, the number of the next request, and the notes. -/
structure Store where
  actors : RemoteActors
  collections : RemoteCollections
  items : RemoteCollectionItems
  requests : Nat
  writes : List ItemWrite

def Store.empty : Store := ⟨Table.empty, Table.empty, Table.empty, 0, []⟩

/-! ## Collections -/

/-- A stored row of the URI keeps its id. -/
def upsertRemoteCollectionDraft (draft : RemoteCollectionDraft)
    (collections : RemoteCollections) : RemoteCollections :=
  collections.upsert draft.toRemoteCollectionRow
    (fun stored =>
      { draft.toRemoteCollectionRow with
        id := stored.id, uri := stored.uri, idOfUri := stored.idOfUri })
    fun _ => rfl

def Store.deleteCollections (store : Store) (guard : RemoteCollectionRow → Bool) : Store :=
  { store with
    collections := store.collections.deleteWhere guard
    items := store.items.deleteWhere fun item =>
      store.collections.exists? fun row => guard row && row.id == item.collectionId }

/-- A collection of an actor whose handle another actor takes over. -/
def Store.losesActor (store : Store) (actor : RemoteActorProfile) (row : RemoteCollectionRow) :
    Bool :=
  store.actors.exists? fun other => takesHandleOf actor other && other.actorUri == row.actorUri

def Store.upsertRemoteActor (store : Store) (actor : RemoteActorProfile) : Store :=
  { store.deleteCollections (store.losesActor actor) with
    actors := Remote.upsertRemoteActor actor store.actors }

def deleteRemoteCollectionByUri (actorUri collectionUri : String) (store : Store) : Store :=
  store.deleteCollections fun row => row.actorUri == actorUri && row.uri == collectionUri

/-! ## Items -/

def RemoteCollectionItemRow.overwrite (excluded : RemoteCollectionItemRow)
    (stored : RemoteCollectionItemRow) : RemoteCollectionItemRow :=
  { stored with
    uri := excluded.uri
    state := excluded.state
    featureAuthorization := excluded.featureAuthorization
    publishedAt := excluded.publishedAt
    approvalLastVerifiedAt := excluded.approvalLastVerifiedAt.or stored.approvalLastVerifiedAt }

theorem RemoteCollectionItemRow.key_overwrite (excluded held : RemoteCollectionItemRow) :
    (excluded.overwrite held).key = held.key := rfl

/-- `INSERT INTO remote_account_collection_items … ON CONFLICT(collection_id,
target_actor_uri) DO UPDATE`.  A new item cannot have the id of a stored one. -/
def upsertItem (item : RemoteCollectionItemRow) (items : RemoteCollectionItems) :
    Except String RemoteCollectionItems :=
  if (items.find item.key).isNone ∧ items.exists? fun stored => stored.id == item.id then
    .error "UNIQUE constraint failed: remote_account_collection_items.id"
  else .ok (items.upsert item item.overwrite item.key_overwrite)

/-- `DELETE FROM remote_account_collection_items WHERE collection_id`. -/
def Store.deleteItemsOf (store : Store) (collectionId : String) : Store :=
  { store with items := store.items.deleteWhere fun item => item.collectionId == collectionId }

def deleteRemoteCollectionItemByObject (collectionId : String) (object : Json) (store : Store) :
    Store :=
  let itemUri := activitypubValueId (some object)
  let targetActorUri := activitypubValueId (object.get "featuredObject")
  { store with
    items := store.items.deleteWhere fun item =>
      item.collectionId == collectionId
        && (itemUri.isSome && item.uri == itemUri
          || targetActorUri.isSome && some item.targetActorUri == targetActorUri) }

/-! ## What a statement leaves alone -/

/-- The collection under a URI and its items are what they were. -/
structure Store.Untouched (uri : String) (before after : Store) : Prop where
  collection : after.collections.find uri = before.collections.find uri
  items : ∀ targetActorUri, after.items.find (remoteAccountRestId uri, targetActorUri)
    = before.items.find (remoteAccountRestId uri, targetActorUri)

variable {uri : String} {before middle after store : Store}

theorem Store.Untouched.refl (uri : String) (store : Store) : store.Untouched uri store :=
  ⟨rfl, fun _ => rfl⟩

theorem Store.Untouched.trans (first : Store.Untouched uri before middle)
    (second : Store.Untouched uri middle after) : Store.Untouched uri before after :=
  ⟨second.collection.trans first.collection, fun targetUri =>
    (second.items targetUri).trans (first.items targetUri)⟩

theorem find_deleteWhere_of_spared {Row Key : Type*} {key : Row → Key} [DecidableEq Key]
    {table : Table Row key} {guard : Row → Bool} {k : Key}
    (spared : ∀ row, key row = k → row ∈ table.rows → guard row = false) :
    (table.deleteWhere guard).find k = table.find k := by
  rw [Table.find_deleteWhere]
  cases got : table.find k with
  | none => rfl
  | some row =>
    have kept := spared row (Table.key_of_find got) (Table.mem_of_find got)
    rw [Option.filter_some, if_pos (by simp [kept])]

theorem Store.untouched_deleteCollections {guard : RemoteCollectionRow → Bool}
    (spared : ∀ row ∈ store.collections.rows, row.uri = uri → guard row = false) :
    Store.Untouched uri store (store.deleteCollections guard) := by
  constructor
  · apply find_deleteWhere_of_spared
    intro row sameUri mem
    exact spared row mem sameUri
  · intro targetUri
    apply find_deleteWhere_of_spared
    rintro item sameKey -
    have ofCollection : item.collectionId = remoteAccountRestId uri := congrArg Prod.fst sameKey
    rw [Table.exists?, List.any_eq_false]
    intro row mem deleted
    rw [Bool.and_eq_true, beq_iff_eq] at deleted
    have sameUri : row.uri = uri := by
      apply restId_injective
      rw [← row.idOfUri, deleted.2, ofCollection]
    rw [spared row mem sameUri] at deleted
    cases deleted.1

theorem Store.untouched_upsertActor {actor : RemoteActorProfile}
    (spared : ∀ row ∈ store.collections.rows, row.uri = uri → store.losesActor actor row = false) :
    Store.Untouched uri store (store.upsertRemoteActor actor) := by
  have kept := Store.untouched_deleteCollections spared
  exact ⟨kept.collection, kept.items⟩

/-- A collection that is stored after an actor was stored before, and not for one whose
handle is taken over. -/
theorem Store.find_of_find_upsertActor {actor : RemoteActorProfile}
    {row : RemoteCollectionRow}
    (got : (store.upsertRemoteActor actor).collections.find uri = some row) :
    store.collections.find uri = some row ∧ store.losesActor actor row = false :=
  Table.find_of_find_deleteWhere got

theorem Store.actorUri_ne_of_losesActor {actor : RemoteActorProfile} {row : RemoteCollectionRow}
    (loses : store.losesActor actor row = true) : row.actorUri ≠ actor.actorUri := by
  rw [losesActor, Table.exists?, List.any_eq_true] at loses
  obtain ⟨other, _, takes⟩ := loses
  rw [Bool.and_eq_true, beq_iff_eq, takesHandleOf, Bool.and_eq_true, decide_eq_true_eq] at takes
  exact takes.2 ▸ takes.1.2

theorem find_upsertDraft (draft : RemoteCollectionDraft)
    (collections : RemoteCollections) :
    (upsertRemoteCollectionDraft draft collections).find uri
      = if draft.uri = uri then some draft.toRemoteCollectionRow else collections.find uri := by
  rw [upsertRemoteCollectionDraft, Table.find_upsert]
  split_ifs with eq
  · cases got : collections.find uri with
    | none => rfl
    | some held =>
      have sameUri : held.uri = draft.uri := (Table.key_of_find got).trans eq.symm
      have sameId : held.id = draft.id := by
        rw [held.idOfUri, draft.idOfUri, sameUri]
      obtain ⟨⟨id, actorUri, uri', name, description, language, sensitive, discoverable,
        tagName, url, publishedAt, remoteUpdatedAt, idOfUri⟩, includesItems⟩ := draft
      dsimp only at sameUri sameId
      subst sameUri sameId
      rfl
  · rfl

theorem Store.untouched_deleteItems {guard : RemoteCollectionItemRow → Bool}
    {collId : String} (other : collId ≠ remoteAccountRestId uri)
    (only : ∀ item, guard item = true → item.collectionId = collId) :
    Store.Untouched uri store { store with items := store.items.deleteWhere guard } := by
  refine ⟨rfl, fun targetUri => find_deleteWhere_of_spared ?_⟩
  rintro item sameKey -
  have ofCollection : item.collectionId = remoteAccountRestId uri := congrArg Prod.fst sameKey
  rw [← Bool.not_eq_true]
  intro deleted
  exact other ((only item deleted).symm.trans ofCollection)

theorem find_upsertItem_of_other {item : RemoteCollectionItemRow}
    {items wrote : RemoteCollectionItems} {targetUri : String}
    (other : item.collectionId ≠ remoteAccountRestId uri)
    (held : upsertItem item items = .ok wrote) :
    wrote.find (remoteAccountRestId uri, targetUri)
      = items.find (remoteAccountRestId uri, targetUri) := by
  unfold upsertItem at held
  split_ifs at held
  cases held
  rw [Table.find_upsert, if_neg]
  intro sameKey
  exact other (congrArg Prod.fst sameKey)

theorem mem_of_mem_upsertItem {item row : RemoteCollectionItemRow}
    {items wrote : RemoteCollectionItems} (held : upsertItem item items = .ok wrote)
    (mem : row ∈ wrote.rows) :
    (row.key = item.key ∧ row.state = item.state) ∨ row ∈ items.rows := by
  unfold upsertItem at held
  split_ifs at held
  cases held
  rcases (Table.mem_upsert_iff _ _ _ _).mp mem with rfl | ⟨prior, _⟩
  · left
    cases got : items.find item.key with
    | none => exact ⟨rfl, rfl⟩
    | some overwritten =>
      have isKey : overwritten.key = item.key := Table.key_of_find got
      exact ⟨isKey, rfl⟩
  · exact Or.inr prior

end Store

end Cfwdon.Collections
