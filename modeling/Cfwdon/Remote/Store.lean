import Cfwdon.Library.Table
import Cfwdon.ActivityPub.Objects

/-!
# Stored remote statuses

`upsert_remote_status` turns an object and the profile of an actor into the
columns of a `remote_statuses` row, and writes them over the row of the same
object URI: the actor and the content are the incoming ones, whoever stored the
row before.
-/

namespace Cfwdon.Remote

open Library ActivityPub Statuses

/-- `RemoteActorProfile`, without what only profiles show. -/
structure RemoteActorProfile where
  actorUri : String
  username : String
  domain : String
  inboxUri : String
  sharedInboxUri : Option String
  publicKeyId : String
  publicKeyPem : String

inductive QuoteState where
  | accepted
  | pending
  | rejected
  | revoked
  deriving DecidableEq

def QuoteState.remoteForTarget (blockedByOwner policyAllows : Bool) : QuoteState :=
  if blockedByOwner then .rejected else if policyAllows then .accepted else .pending

/-- What the owner took back stays so. -/
def mergedQuoteStateForRemoteUpsert : QuoteState → QuoteState → QuoteState
  | .rejected, _ => .rejected
  | .revoked, _ => .revoked
  | _, incoming => incoming

structure RemoteQuoteLocalTarget where
  blockedByOwner : Bool
  policyAllows : Bool
  deriving DecidableEq

def initialQuoteState (quoteOfUri : Option String) (localTarget : Option RemoteQuoteLocalTarget) :
    QuoteState :=
  match quoteOfUri, localTarget with
  | some _, some target => .remoteForTarget target.blockedByOwner target.policyAllows
  | _, _ => .accepted

/-! ## Rows -/

structure RemoteStatus where
  id : String
  actorUri : String
  objectUri : String
  url : Option String
  inReplyToUri : Option String
  boostOfUri : Option String
  quoteOfUri : Option String
  contentHtml : String
  textContent : String
  spoilerText : String
  visibility : Visibility
  sensitive : Bool
  language : Option String
  quoteState : QuoteState
  publishedAt : String
  rawObjectJson : String
  editedAt : Option String
  inReplyToId : Option String
  deriving DecidableEq

/-- The `remote_statuses` table; `object_uri` is unique. -/
abbrev RemoteStatuses := Table RemoteStatus RemoteStatus.objectUri

abbrev RemoteActors := Table RemoteActorProfile RemoteActorProfile.actorUri

/-- What a status says: its texts and the document it was read from. -/
structure StatusContent where
  contentHtml : String
  textContent : String
  spoilerText : String
  rawObjectJson : String
  deriving DecidableEq

def RemoteStatus.content (status : RemoteStatus) : StatusContent where
  contentHtml := status.contentHtml
  textContent := status.textContent
  spoilerText := status.spoilerText
  rawObjectJson := status.rawObjectJson

def findRemoteStatusByUrlOrObjectUri (value : String) (statuses : RemoteStatuses) :
    Option RemoteStatus :=
  (statuses.find value).or (statuses.rows.find? fun status => status.url = some value)

/-! ## From an object to the columns -/

/-- The time and JSON formats of other crates. -/
structure Formats where
  /-- `normalize_rfc3339_millis_utc`, for a text that is such a time. -/
  normalizeTimestamp : String → Option String
  /-- `serde_json::to_string`. -/
  jsonText : Json → String

mutual
/-- The URIs of an audience value: strings and the `id` of objects. -/
def audiencesOf : Json → List String
  | .string uri => [uri]
  | .array values => audiencesOfList values
  | .object fields => ((fields.lookup "id").bind Json.asStr).toList
  | _ => []

def audiencesOfList : List Json → List String
  | [] => []
  | entry :: rest => audiencesOf entry ++ audiencesOfList rest
end

def collectActivitypubAudiences : Option Json → List String
  | some value => audiencesOf value
  | none => []

def textField (object : Json) (key : String) : Option String :=
  (object.get key).bind Json.asStr

def remoteStatusContentHtml (object : Json) : String :=
  match textField object "content" with
  | some content => sanitizeRemoteStatusHtml content
  | none => ((textField object "name").map renderStatusHtml).getD ""

/-- The first of the keys of an object, which a parsed object keeps in order. -/
def firstKey : List (String × Json) → Option String
  | [] => none
  | (key, _) :: rest =>
    match firstKey rest with
    | some later => some (if later < key then later else key)
    | none => some key

/-- The first key of the content map. -/
def remoteStatusLanguage (object : Json) : Option String :=
  match object.get "contentMap" with
  | some (.object fields) => firstKey fields
  | _ => none

def flagField (object : Json) (key : String) : Option Bool :=
  match object.get key with
  | some (.bool value) => some value
  | _ => none

def normalizedRemoteTimestamp (formats : Formats) (value : String) : String :=
  (formats.normalizeTimestamp value).getD (trim value)

/-- `object_id` of the input, as `into_incoming` keeps it. -/
def incomingObjectUri (object : Json) : Option String :=
  (textField object "id").bind nonBlank

/-- The visibility a status is stored with. -/
def incomingVisibility (object : Json) : Visibility :=
  let toAudiences := collectActivitypubAudiences (object.get "to")
  let ccAudiences := collectActivitypubAudiences (object.get "cc")
  visibilityFromActivitypubAudiences (toAudiences.any isPublicAudienceUri)
    (ccAudiences.any isPublicAudienceUri)
    (toAudiences.any isFollowersCollectionUri || ccAudiences.any isFollowersCollectionUri)

/-- The time a status was published, or updated; empty if the object has neither. -/
def incomingPublishedAt (formats : Formats) (object : Json) : String :=
  let stamp key := (textField object key).map (normalizedRemoteTimestamp formats)
  trim (((stamp "published").or (stamp "updated")).getD "")

def incomingContent (formats : Formats) (object : Json) : StatusContent where
  contentHtml := remoteStatusContentHtml object
  textContent := stripHtmlTags (remoteStatusContentHtml object)
  spoilerText := ((textField object "summary").map fun summary =>
    trim (sanitizeRemotePlainText summary)).getD ""
  rawObjectJson := formats.jsonText object

/-- What one call of `upsert_remote_status` finds outside the remote statuses. -/
structure UpsertCall where
  statusId : String
  revisionAt : String
  receivedAt : String
  /-- The local status a quote names, with what its owner allows. -/
  localQuoteTarget : String → Option RemoteQuoteLocalTarget
  /-- The local status a reply names. -/
  localStatusId : String → Option String

/-- `build_remote_status_store_intent`, up to the quote state and the reply. -/
def buildRemoteStatusStoreIntent (formats : Formats) (call : UpsertCall)
    (actor : RemoteActorProfile) (object : Json) (objectUri : String) : RemoteStatus where
  id := call.statusId
  actorUri := actor.actorUri
  objectUri := objectUri
  url := (sanitizeRemoteHttpUrl (textField object "url")).bind nonBlank
  inReplyToUri := (textField object "inReplyTo").bind nonBlank
  boostOfUri := none
  quoteOfUri := quoteTargetUriFromObject object
  contentHtml := (incomingContent formats object).contentHtml
  textContent := (incomingContent formats object).textContent
  spoilerText := (incomingContent formats object).spoilerText
  visibility := incomingVisibility object
  sensitive := (flagField object "sensitive").getD false
  language := ((remoteStatusLanguage object).map fun language =>
    toAsciiLowercase (trim language)).filter fun language => language ≠ ""
  quoteState :=
    initialQuoteState (quoteTargetUriFromObject object)
      ((quoteTargetUriFromObject object).bind call.localQuoteTarget)
  publishedAt :=
    if incomingPublishedAt formats object = "" then call.receivedAt
    else incomingPublishedAt formats object
  rawObjectJson := (incomingContent formats object).rawObjectJson
  editedAt := none
  inReplyToId := none

/-- What the stored row of the object adds to the intent: its quote state, and the
mark of an edit. -/
def RemoteStatus.afterPrevious (call : UpsertCall) (previous : Option RemoteStatus)
    (intent : RemoteStatus) : RemoteStatus :=
  match previous with
  | none => intent
  | some previous =>
    { intent with
      quoteState := mergedQuoteStateForRemoteUpsert previous.quoteState intent.quoteState
      editedAt :=
        if previous.rawObjectJson = intent.rawObjectJson then intent.editedAt
        else some call.revisionAt }

def RemoteStatus.replyId (call : UpsertCall) (statuses : RemoteStatuses)
    (intent : RemoteStatus) : Option String :=
  intent.inReplyToUri.bind fun uri =>
    match findRemoteStatusByUrlOrObjectUri uri statuses with
    | some remote => some remote.id
    | none => call.localStatusId uri

/-! ## The write -/

/-- `ON CONFLICT(object_uri) DO UPDATE SET …`. -/
def RemoteStatus.overwrite (excluded stored : RemoteStatus) : RemoteStatus :=
  { excluded with
    id := stored.id
    objectUri := stored.objectUri
    quoteState := mergedQuoteStateForRemoteUpsert stored.quoteState excluded.quoteState
    editedAt := excluded.editedAt.or stored.editedAt
    inReplyToId := excluded.inReplyToId.or stored.inReplyToId }

theorem RemoteStatus.objectUri_overwrite (excluded held : RemoteStatus) :
    (excluded.overwrite held).objectUri = held.objectUri := rfl

/-- The row `upsert_remote_status` writes.  The stored row is looked up under the id
as the object has it, and written under the id without surrounding whitespace. -/
def incomingStatus (formats : Formats) (call : UpsertCall) (actor : RemoteActorProfile)
    (object : Json) (rawUri objectUri : String) (statuses : RemoteStatuses) : RemoteStatus :=
  let intent := (buildRemoteStatusStoreIntent formats call actor object objectUri).afterPrevious
    call (statuses.find rawUri)
  { intent with inReplyToId := intent.replyId call statuses }

def upsertRemoteStatus (formats : Formats) (call : UpsertCall) (actor : RemoteActorProfile)
    (object : Json) (statuses : RemoteStatuses) : Except String RemoteStatuses :=
  match textField object "id", incomingObjectUri object with
  | some rawUri, some objectUri =>
    let incoming := incomingStatus formats call actor object rawUri objectUri statuses
    .ok (statuses.upsert incoming incoming.overwrite incoming.objectUri_overwrite)
  | _, _ => .error "remote status object is missing id"

def takesHandleOf (actor other : RemoteActorProfile) : Bool :=
  toAsciiLowercase other.username == toAsciiLowercase actor.username
    && toAsciiLowercase other.domain == toAsciiLowercase actor.domain
    && other.actorUri ≠ actor.actorUri

/-- The statuses left after the actors whose handle is taken over are deleted, and
their statuses with them. -/
def clearConflictingHandles (actor : RemoteActorProfile) (actors : RemoteActors)
    (statuses : RemoteStatuses) : RemoteStatuses :=
  statuses.deleteWhere fun status =>
    actors.exists? fun other => takesHandleOf actor other && other.actorUri == status.actorUri

def upsertRemoteActor (actor : RemoteActorProfile) (actors : RemoteActors) : RemoteActors :=
  (actors.deleteWhere (takesHandleOf actor)).upsert actor
    (fun stored => { actor with actorUri := stored.actorUri }) fun _ => rfl

/-! ## What a write does -/

variable {formats : Formats} {call : UpsertCall} {actor : RemoteActorProfile} {object : Json}
  {statuses written : RemoteStatuses} {uri objectUri : String} {status : RemoteStatus}

/-- The row a write leaves under the URI of its object. -/
structure ShowsObject (formats : Formats) (actor : RemoteActorProfile) (object : Json)
    (objectUri : String) (status : RemoteStatus) : Prop where
  objectUri : status.objectUri = objectUri
  actorUri : status.actorUri = actor.actorUri
  content : status.content = incomingContent formats object

theorem showsObject_intent : ShowsObject formats actor object objectUri
    (buildRemoteStatusStoreIntent formats call actor object objectUri) :=
  ⟨rfl, rfl, rfl⟩

theorem ShowsObject.afterPrevious (shows : ShowsObject formats actor object objectUri status)
    (prev : Option RemoteStatus) :
    ShowsObject formats actor object objectUri (status.afterPrevious call prev) := by
  cases prev with
  | none => exact shows
  | some prev => exact ⟨shows.objectUri, shows.actorUri, shows.content⟩

theorem showsObject_incomingStatus (rawUri : String) :
    ShowsObject formats actor object objectUri
      (incomingStatus formats call actor object rawUri objectUri statuses) := by
  have prepared : ShowsObject formats actor object objectUri
      ((buildRemoteStatusStoreIntent formats call actor object objectUri).afterPrevious call
        (statuses.find rawUri)) := showsObject_intent.afterPrevious _
  exact ⟨prepared.objectUri, prepared.actorUri, prepared.content⟩

theorem ShowsObject.overwrite (shows : ShowsObject formats actor object objectUri status)
    {held : RemoteStatus} (eq : held.objectUri = objectUri) :
    ShowsObject formats actor object objectUri (status.overwrite held) :=
  ⟨eq, shows.actorUri, shows.content⟩

theorem find_write {incoming : RemoteStatus} (statuses : RemoteStatuses)
    (shows : ShowsObject formats actor object objectUri incoming) :
    ∃ status, ShowsObject formats actor object objectUri status
      ∧ ∀ uri, (statuses.upsert incoming incoming.overwrite incoming.objectUri_overwrite).find uri
        = if uri = objectUri then some status else statuses.find uri := by
  refine ⟨(statuses.find objectUri).elim incoming incoming.overwrite, ?_, ?_⟩
  · cases got : statuses.find objectUri with
    | none => exact shows
    | some held => exact shows.overwrite (Table.key_of_find got)
  · intro uri
    rw [Table.find_upsert, shows.objectUri]
    by_cases eq : objectUri = uri
    · subst eq
      rw [if_pos rfl]
    · rw [if_neg eq, if_neg fun h => eq h.symm]

/-- **A write replaces the row of its object** and no other, whatever the row showed
before. -/
theorem find_upsertRemoteStatus
    (ok : upsertRemoteStatus formats call actor object statuses = .ok written) :
    ∃ objectUri status, incomingObjectUri object = some objectUri
      ∧ ShowsObject formats actor object objectUri status
      ∧ ∀ uri, written.find uri = if uri = objectUri then some status else statuses.find uri := by
  unfold upsertRemoteStatus at ok
  split at ok
  case h_1 rawUri objectUri _ named =>
      cases ok
      have incoming : ShowsObject formats actor object objectUri
          (incomingStatus formats call actor object rawUri objectUri statuses) :=
        showsObject_incomingStatus rawUri
      obtain ⟨status, shows, finds⟩ := find_write statuses incoming
      exact ⟨objectUri, status, named, shows, finds⟩
  case h_2 => cases ok

theorem upsertRemoteStatus_eq_ok_iff :
    (∃ written, upsertRemoteStatus formats call actor object statuses = .ok written)
      ↔ ∃ objectUri, incomingObjectUri object = some objectUri := by
  unfold upsertRemoteStatus
  constructor
  · rintro ⟨written, ok⟩
    split at ok
    case h_1 rawUri objectUri _ named => exact ⟨objectUri, named⟩
    case h_2 => cases ok
  · rintro ⟨objectUri, named⟩
    have text : ∃ rawUri, textField object "id" = some rawUri := by
      cases raw : textField object "id" with
      | none => rw [incomingObjectUri, raw] at named; cases named
      | some rawUri => exact ⟨rawUri, rfl⟩
    obtain ⟨rawUri, raw⟩ := text
    rw [raw, named]
    exact ⟨_, rfl⟩

theorem find_of_clearHandles {actors : RemoteActors}
    (got : (clearConflictingHandles actor actors statuses).find uri = some status) :
    statuses.find uri = some status := by
  rw [clearConflictingHandles, Table.find_deleteWhere, Option.filter_eq_some_iff] at got
  exact got.1

end Cfwdon.Remote
