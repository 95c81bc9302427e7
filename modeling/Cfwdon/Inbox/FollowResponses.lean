import Cfwdon.Collections.LocalItems
import Cfwdon.Delivery.OutboundActivities

/-!
# Answers to follows

The actor that is followed answers with an `Accept` or a `Reject`, whose object is the
`Follow`: its URI, or the activity itself.  The account the answer is for is found by
`activity_object_id`, which reads both, and so do the handlers of collections, which are
asked first.  The state of the follow is written by `update_follow_state_from_response`,
which reads the `id` of an object.
-/

namespace Cfwdon.Inbox

open Library ActivityPub Collections
open Delivery (Follow Follows FollowInboxResponse)
open Conversations (LocalAccount isEntityId)

/-- The tables an answer is looked up in and written to. -/
structure ResponseStore where
  collections : LocalCollections
  follows : Follows
  /-- The unique index of the activities. -/
  activitiesDistinct : ∀ follow ∈ follows.rows, ∀ other ∈ follows.rows,
    follow.followActivityId.isSome → other.followActivityId = follow.followActivityId →
      other = follow
  /-- The foreign key of the follower. -/
  followersStored : ∀ follow ∈ follows.rows,
    (collections.accounts.find follow.followerAccountId).isSome
  /-- The ids are those of `followActivityId`, which have no blanks around them. -/
  idsTrimmed : ∀ follow ∈ follows.rows, ∀ id, follow.followActivityId = some id →
    nonBlank id = some id

def findFollowByActivityId (follows : Follows) (id : String) : Option Follow :=
  follows.rows.find? fun follow => follow.followActivityId == some id

def resolveFollowResponseTargetAccount (activity : Json) (store : ResponseStore) :
    Option LocalAccount := do
  let id ← activityObjectId (activity.get "object")
  let follow ← findFollowByActivityId store.follows id
  store.collections.accounts.find follow.followerAccountId

/-! ## Handlers -/

def updateFollowStateFromResponse (activity : Json) (actorUri : String)
    (response : FollowInboxResponse) (follows : Follows) : Follows :=
  match ((activity.get "object").bind (Json.get "id")).bind Json.asStr with
  | none => follows
  | some id =>
    match findFollowByActivityId follows id with
    | none => follows
    | some follow =>
      if follow.targetActorUri ≠ actorUri then follows
      else (Delivery.updateFollowStateFromResponse id response).run follows

def handleInboxCollectionFeatureResponse : FollowInboxResponse → Json → String →
    LocalCollections → Bool × LocalCollections
  | .accept => handleInboxCollectionFeatureAccept
  | .reject => handleInboxCollectionFeatureReject

/-- `handle_inbox_accept` or `handle_inbox_reject`: the local collections and the follows
after the answer of an actor. -/
def handleInboxResponse (response : FollowInboxResponse) (activity : Json) (actorUri : String)
    (store : ResponseStore) : LocalCollections × Follows :=
  let handled := handleInboxCollectionFeatureResponse response activity actorUri store.collections
  if handled.1 then (handled.2, store.follows)
  else
    (store.collections, updateFollowStateFromResponse activity actorUri response store.follows)

/-! ## The law -/

/-- An object stands for the `Follow` of a URI: it is the URI, or the activity with it. -/
inductive Encodes (uri : String) : Json → Prop where
  | bare : Encodes uri (.string uri)
  | embedded {fields : List (String × Json)} (named : fields.lookup "id" = some (.string uri))
      (isFollow : activitypubHasType (.object fields) "Follow" = true) :
      Encodes uri (.object fields)

def withObject (object : Json) (fields : List (String × Json)) : Json :=
  .object (("object", object) :: fields)

def IsAnswered (uri actorUri : String) (follow : Follow) : Prop :=
  (∃ id, nonBlank uri = some id ∧ follow.followActivityId = some id)
    ∧ follow.targetActorUri = actorUri

/-- **The encodings are alike**: they do the same to the follows, and with each the follow
the answer is for gets the state of the answer, if the account it is for is found. -/
structure EncodingsAlike (store : ResponseStore) (response : FollowInboxResponse)
    (actorUri uri : String) (fields : List (String × Json)) : Prop where
  sameEffect : ∀ object object', Encodes uri object → Encodes uri object' →
    (handleInboxResponse response (withObject object fields) actorUri store).2
      = (handleInboxResponse response (withObject object' fields) actorUri store).2
  answered : ∀ object, Encodes uri object →
    (resolveFollowResponseTargetAccount (withObject object fields) store).isSome →
    ∀ follow ∈ store.follows.rows, IsAnswered uri actorUri follow →
      ((handleInboxResponse response (withObject object fields) actorUri store).2.find
        follow.key).map Follow.state = some response.asState

variable {store : ResponseStore} {response : FollowInboxResponse} {actorUri uri : String}
  {fields : List (String × Json)} {object : Json} {follow : Follow}

/-! ## Looking follows up -/

theorem get_withObject : (withObject object fields).get "object" = some object := rfl

theorem Encodes.activityObjectId (encodes : Encodes uri object) :
    activityObjectId ((withObject object fields).get "object") = nonBlank uri := by
  rw [get_withObject]
  cases encodes with
  | bare => simp only [ActivityPub.activityObjectId, Option.bind_some, idOf]
  | embedded named =>
    simp only [ActivityPub.activityObjectId, Option.bind_some, idOf, named, Option.some_or,
      Json.asStr]

theorem ResponseStore.findFollow (held : follow ∈ store.follows.rows) {id : String}
    (ofActivity : follow.followActivityId = some id) :
    findFollowByActivityId store.follows id = some follow := by
  cases got : findFollowByActivityId store.follows id with
  | none =>
    have gone := List.find?_eq_none.mp got follow held
    simp [ofActivity] at gone
  | some other =>
    have named : other.followActivityId = some id := by simpa using List.find?_some got
    exact congrArg some (store.activitiesDistinct follow held other
      (List.mem_of_find?_eq_some got) (by simp [ofActivity]) (named.trans ofActivity.symm))

theorem ResponseStore.resolves (encodes : Encodes uri object)
    (held : follow ∈ store.follows.rows) (ans : IsAnswered uri actorUri follow) :
    (resolveFollowResponseTargetAccount (withObject object fields) store).isSome := by
  obtain ⟨⟨id, named, ofActivity⟩, _⟩ := ans
  simp only [resolveFollowResponseTargetAccount, encodes.activityObjectId, named,
    Option.bind_eq_bind, Option.bind_some, store.findFollow held ofActivity]
  exact store.followersStored follow held

theorem id_of_embedded {followFields : List (String × Json)}
    (named : followFields.lookup "id" = some (.string uri)) :
    (((withObject (.object followFields) fields).get "object").bind (Json.get "id")).bind
      Json.asStr = some uri := by
  have inner : (Json.object followFields).get "id" = some (.string uri) := named
  rw [get_withObject, Option.bind_some, inner]
  rfl

/-! ## What an answer writes -/

/-- **Nothing is written of an answer whose object is a URI.** -/
theorem updateFollowState_bare (follows : Follows) :
    updateFollowStateFromResponse (withObject (.string uri) fields) actorUri response follows
      = follows := rfl

theorem run_updateFollowState_of_settled {follows : Follows} {id : String}
    (done : ∀ follow ∈ follows.rows, follow.followActivityId = some id →
      follow.state = response.asState) :
    (Delivery.updateFollowStateFromResponse id response).run follows = follows := by
  have eq : ∀ follow ∈ follows.rows,
      (Delivery.updateFollowStateFromResponse id response).onRow follow = follow := by
    intro follow held
    rcases (Delivery.updateFollowStateFromResponse id response).onRow_cases follow with
      ⟨met, changed⟩ | same
    · have state := done follow held (by simpa [Delivery.updateFollowStateFromResponse] using met)
      rw [changed, Delivery.updateFollowStateFromResponse, ← state]
    · exact same
  ext1
  exact (List.map_congr_left eq).trans (List.map_id' _)

theorem updateFollowState_of_settled (encodes : Encodes uri object)
    (done : ∀ follow ∈ store.follows.rows, IsAnswered uri actorUri follow →
      follow.state = response.asState) :
    updateFollowStateFromResponse (withObject object fields) actorUri response store.follows
      = store.follows := by
  cases encodes with
  | bare => rfl
  | @embedded followFields named _ =>
    simp only [updateFollowStateFromResponse, id_of_embedded named]
    cases got : findFollowByActivityId store.follows uri with
    | none => rfl
    | some follow =>
      dsimp only
      split_ifs with isTarget
      · rfl
      · have held := List.mem_of_find?_eq_some got
        have ofActivity : follow.followActivityId = some uri := by
          simpa using List.find?_some got
        apply run_updateFollowState_of_settled
        intro other otherHeld otherActivity
        obtain rfl := store.activitiesDistinct follow held other otherHeld
          (by simp [ofActivity]) (otherActivity.trans ofActivity.symm)
        exact done other held
          ⟨⟨uri, store.idsTrimmed other held uri ofActivity, ofActivity⟩, not_not.mp isTarget⟩

/-- **The two encodings are alike exactly if there is nothing to do**: each follow the answer
is for has the state of the answer before. -/
theorem encodings_alike_iff (store : ResponseStore) (response : FollowInboxResponse)
    (actorUri uri : String) (fields : List (String × Json)) :
    EncodingsAlike store response actorUri uri fields
      ↔ ∀ follow ∈ store.follows.rows, IsAnswered uri actorUri follow →
          follow.state = response.asState := by
  constructor
  · intro alike follow held ans
    have state := alike.answered _ .bare (store.resolves .bare held ans) follow held ans
    have unwritten : (handleInboxResponse response (withObject (.string uri) fields) actorUri
        store).2 = store.follows := by
      unfold handleInboxResponse
      dsimp only
      split_ifs with did
      · rfl
      · rw [updateFollowState_bare]
    rw [unwritten, Table.find_of_mem held] at state
    exact Option.some.inj state
  · intro done
    have eq : ∀ object, Encodes uri object →
        (handleInboxResponse response (withObject object fields) actorUri store).2
          = store.follows := by
      intro object encodes
      unfold handleInboxResponse
      dsimp only
      split_ifs with did
      · rfl
      · exact updateFollowState_of_settled encodes done
    refine ⟨fun object object' encodes encodes' => ?_, fun object encodes _ follow held ans => ?_⟩
    · rw [eq object encodes, eq object' encodes']
    · rw [eq object encodes, Table.find_of_mem held]
      exact congrArg some (done follow held ans)

/-! ## A follow whose answer is lost -/

def alicesFollowId : String := "https://local.example/users/alice/follows/0123456789abcdef01234567"

/-- Alice waits for bob to accept her follow. -/
def alicesFollow : Follow where
  followerAccountId := "a1"
  targetActorUri := "https://remote.example/users/bob"
  followActivityId := some alicesFollowId
  state := .pending

theorem isEntityId_alice : isEntityId "a1" = true := by decide

def waitingStore : ResponseStore where
  collections := ⟨Table.singleton ⟨"a1", "alice", isEntityId_alice⟩, Table.empty, Table.empty⟩
  follows := Table.singleton alicesFollow
  activitiesDistinct := by
    intro follow stored other otherStored _ _
    exact (List.mem_singleton.mp otherStored).trans (List.mem_singleton.mp stored).symm
  followersStored := by
    intro follow stored
    rw [List.mem_singleton.mp stored]
    rfl
  idsTrimmed := by
    intro follow stored id named
    rw [List.mem_singleton.mp stored] at named
    obtain rfl := Option.some.inj named
    decide +kernel

/-- **An `Accept` that names the follow by its URI is lost**: alice is found as the account
it is for, and her follow stays pending. -/
theorem bare_accept_is_lost :
    ¬ EncodingsAlike waitingStore .accept "https://remote.example/users/bob" alicesFollowId
      [("id", .string "https://remote.example/accepts/1"), ("type", .string "Accept"),
        ("actor", .string "https://remote.example/users/bob")] := by
  intro alike
  have ok := alike.answered _ .bare (by decide +kernel) alicesFollow
    (List.mem_singleton.mpr rfl) ⟨⟨alicesFollowId, by decide +kernel, rfl⟩, rfl⟩
  have waits : (waitingStore.follows.find alicesFollow.key).map Follow.state = some .pending := by
    decide +kernel
  exact absurd (waits.symm.trans ok) (by decide)

end Cfwdon.Inbox
