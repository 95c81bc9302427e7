import Cfwdon.Remote.Fetch

/-!
# How remote statuses come in

Three paths lead to `upsert_remote_status`, and each decides on its own which
documents may be stored for which actor:

* an inbox `Create` or `Update` checks that the object is attributed to the
  verified signer;
* hydrating a thread fetches the replies collection of a document and stores what
  it lists, inline or linked, for the actor each reply names;
* resolving a link checks that the URL, the object and its author share an
  authority.

What a path decided is a list of documents to store, each with the URIs it came
from: the signer, or the URLs that were asked for it.
-/

namespace Cfwdon.Remote

open Library ActivityPub Federation Statuses

/-- A call of `upsert_remote_status`: the object, the actor it is stored for, and the
signer or the URLs the object came from. -/
structure RemoteDocument where
  actor : RemoteActorProfile
  object : Json
  sources : List String

/-! ## The inbox -/

/-- A verified delivery that is not relayed. -/
structure InboxDelivery where
  /-- The actor whose key verified the signature. -/
  signer : RemoteActorProfile
  activity : Json
  /-- The usernames of the target accounts. -/
  accounts : List String
  /-- `handle_inbox_poll_vote`, for a target account: whether the object is a vote in
  one of its polls, or the error. -/
  pollVote : String → Except String Bool

def activityObject (activity : Json) : Option Json :=
  match activity.get "object" with
  | some (.object fields) => some (.object fields)
  | _ => none

/-- The error of a handler for an object of someone else. -/
def attributionMismatch : String :=
  "activitypub unauthorized: object attribution mismatch"

def someAccountAddressed (delivery : InboxDelivery) (instanceDomain : String) (object : Json) :
    List String → Except String Bool
  | [] => .ok false
  | account :: rest => do
    let vote ← delivery.pollVote account
    let later ← someAccountAddressed delivery instanceDomain object rest
    return (!vote && noteTargetsAccountOrFollowers object account instanceDomain) || later

/-- The object to store, if any. -/
def handleInboxCreateForAccounts (instanceDomain : String) (delivery : InboxDelivery) :
    Except String (Option Json) :=
  match activityObject delivery.activity with
  | none => .ok none
  | some object =>
    if !objectHasSupportedRemoteStatusType object then .ok none
    else if !objectAttributedToRemoteActor object delivery.activity delivery.signer.actorUri then
      .error attributionMismatch
    else do
      let addressed ← someAccountAddressed delivery instanceDomain object delivery.accounts
      return if addressed then some object else none

/-- The object to store, if any. -/
def handleInboxUpdateForAccounts (instanceDomain : String) (delivery : InboxDelivery) :
    Except String (Option Json) :=
  match activityObject delivery.activity with
  | none => .ok none
  | some object =>
    if objectHasActivitypubActorType object then .ok none
    -- `handle_inbox_collection_update`
    else if textField object "type" = some "FeaturedCollection" then .ok none
    else if !objectHasSupportedRemoteStatusType object then .ok none
    else if !objectAttributedToRemoteActor object delivery.activity delivery.signer.actorUri then
      .error attributionMismatch
    else if !delivery.accounts.any fun account =>
        noteTargetsAccountOrFollowers object account instanceDomain then .ok none
    else .ok (some object)

/-- `process_verified_inbox_activity`, for the activities that store a status. -/
def processVerifiedInboxActivity (instanceDomain : String) (delivery : InboxDelivery) :
    Except String (Option Json) :=
  if delivery.accounts.isEmpty then .ok none
  else if inboxActivityType delivery.activity = "Create" then
    handleInboxCreateForAccounts instanceDomain delivery
  else if inboxActivityType delivery.activity = "Update" then
    handleInboxUpdateForAccounts instanceDomain delivery
  else .ok none

/-- The document a delivery leads to: the object, for its signer. -/
def documentOfDelivery (instanceDomain : String) (delivery : InboxDelivery) :
    List RemoteDocument :=
  match processVerifiedInboxActivity instanceDomain delivery with
  | .ok (some object) => [⟨delivery.signer, object, [delivery.signer.actorUri]⟩]
  | _ => []

/-! ## Replies collections -/

def remoteContextReplyPageFetchLimit : Nat := 8

def remoteContextReplyItemFetchLimit : Nat := 128

mutual
/-- The URL a value refers to: a text, one of three fields, or that of the object it
wraps. -/
def replyReferenceOf : Json → Option String
  | .string url => nonBlank url
  | .object fields =>
    match (((fields.lookup "id").or (fields.lookup "url")).or (fields.lookup "href")).bind
      Json.asStr with
    | some url => nonBlank url
    | none => replyReferenceOfWrapped fields
  | _ => none

def replyReferenceOfWrapped : List (String × Json) → Option String
  | [] => none
  | (key, value) :: rest =>
    if key = "object" then replyReferenceOf value else replyReferenceOfWrapped rest
end

def extractRemoteReplyReference (value : Option Json) : Option String :=
  value.bind replyReferenceOf

inductive RemoteReplyReference where
  | uri (uri : String)
  | document (document : Json)

def RemoteReplyReference.key (formats : Formats) : RemoteReplyReference → String
  | .uri target => "uri:" ++ target
  | .document body =>
    match extractRemoteReplyReference (some body) with
    | some target => "doc:" ++ target
    | none => "doc:" ++ formats.jsonText body

def extractRemoteReplyReferenceItem (item : Json) : Option RemoteReplyReference :=
  match extractRemoteNoteObject item with
  | some object => some (.document object)
  | none => (extractRemoteReplyReference (some item)).map .uri

def extractRemoteReplyReferences (collection : Json) : List RemoteReplyReference :=
  match (collection.get "orderedItems").or (collection.get "items") with
  | some (.array items) => items.filterMap extractRemoteReplyReferenceItem
  | _ => []

/-- A reference with the URLs asked for the collection that lists it. -/
structure ListedReply where
  reference : RemoteReplyReference
  sources : List String

/-- The references collected so far, with their keys. -/
structure CollectedReplies where
  listed : List ListedReply
  seen : List String

/-- The loop of `append_remote_reply_references`, which ends at the limit. -/
def appendReferences (formats : Formats) (sources : List String) :
    List RemoteReplyReference → CollectedReplies → CollectedReplies
  | [], collected => collected
  | reference :: rest, collected =>
    if reference.key formats ∈ collected.seen then
      appendReferences formats sources rest collected
    else
      let collected : CollectedReplies :=
        { listed := collected.listed ++ [⟨reference, sources⟩]
          seen := reference.key formats :: collected.seen }
      if remoteContextReplyItemFetchLimit ≤ collected.listed.length then collected
      else appendReferences formats sources rest collected

def appendRemoteReplyReferences (formats : Formats) (sources : List String) (collection : Json)
    (collected : CollectedReplies) : CollectedReplies :=
  appendReferences formats sources (extractRemoteReplyReferences collection) collected

section
variable (web : Web) (formats : Formats)

/-- The page loop of `fetch_remote_reply_references`, with the pages that may still be
fetched. -/
def fetchReplyPages : Nat → Option String → List String → CollectedReplies →
    Online CollectedReplies
  | 0, _, _, collected => return collected
  | _, none, _, collected => return collected
  | pagesLeft + 1, some pageUri, seenPages, collected =>
    if pageUri ∈ seenPages then return collected
    else if remoteContextReplyItemFetchLimit ≤ collected.listed.length then return collected
    else do
      match ← fetchRemoteActivitypubDocument web pageUri with
      | none => return collected
      | some page =>
        fetchReplyPages pagesLeft (extractRemoteReplyReference (page.document.get "next"))
          (pageUri :: seenPages)
          (appendRemoteReplyReferences formats page.asked page.document collected)

/-- `fetch_remote_reply_references`, for a document that came from the sources. -/
def fetchRemoteReplyReferences (replies : Option Json) (sources : List String) :
    Online (List ListedReply) := do
  match replies with
  | none => return []
  | some replies =>
    let inline := appendRemoteReplyReferences formats sources replies ⟨[], []⟩
    match replies.get "first" with
    | none =>
      if !inline.listed.isEmpty then return inline.listed
      else
        let collected ← fetchReplyPages web formats remoteContextReplyPageFetchLimit
          (extractRemoteReplyReference (replies.get "next")) [] inline
        return collected.listed
    | some first =>
      match extractRemoteReplyReference (some first) with
      | some firstUri =>
        let collected ← fetchReplyPages web formats remoteContextReplyPageFetchLimit
          (some firstUri) [] inline
        return collected.listed
      | none =>
        let collected ← fetchReplyPages web formats remoteContextReplyPageFetchLimit
          (extractRemoteReplyReference (first.get "next")) []
          (appendRemoteReplyReferences formats sources first inline)
        return collected.listed

/-! ## Hydrating a thread -/

/-- The document of a reference, with its sources: listed inline or fetched. -/
def replyDocument (reply : ListedReply) : Online (Option (Json × List String)) := do
  match reply.reference with
  | .document document => return some (document, reply.sources)
  | .uri uri =>
    match ← fetchRemoteActivitypubDocument web uri with
    | none => return none
    | some fetched =>
      return (extractRemoteNoteObject fetched.document).map fun object =>
        (object, fetched.asked)

/-- The actor a reply is stored for: the one it names, or that of its parent. -/
def namedActor (document : Json) (fallbackActorUri : Option String) : Option String :=
  ((textField document "attributedTo").or fallbackActorUri).filter fun uri => trim uri ≠ ""

def replyToStore (reply : ListedReply) (fallbackActorUri : Option String) :
    Online (Option RemoteDocument) := do
  match ← replyDocument web reply with
  | none => return none
  | some (document, sources) =>
    if !isPublicActivitypubVisibility (visibilityFromActivitypubObject document) then
      return none
    else
      match namedActor document fallbackActorUri with
      | none => return none
      | some actorUri =>
        return (← fetchRemoteActorProfile web actorUri).map fun actor =>
          ⟨actor, document, sources⟩

/-- The loop of `hydrate_remote_reply_descendants` over the references, with what is
done below a stored reply.  An object without an id ends the loop. -/
def hydrateReplies (descend : RemoteDocument → Online (List RemoteDocument))
    (fallbackActorUri : Option String) : List ListedReply → Online (List RemoteDocument)
  | [] => return []
  | reply :: rest => do
    let request ← nextRequest
    if web.pastDeadline request then return []
    else
      match ← replyToStore web reply fallbackActorUri with
      | none => hydrateReplies descend fallbackActorUri rest
      | some found =>
        if (incomingObjectUri found.object).isNone then return [found]
        else do
          let below ← descend found
          let later ← hydrateReplies descend fallbackActorUri rest
          return found :: below ++ later

/-- `hydrate_remote_reply_descendants`, with the levels that may still be fetched. -/
def hydrateRemoteReplyDescendants : Nat → Json → List String → Option String →
    Online (List RemoteDocument)
  | 0, _, _, _ => return []
  | levelsLeft + 1, object, sources, fallbackActorUri => do
    let replies ← fetchRemoteReplyReferences web formats (object.get "replies") sources
    hydrateReplies web
      (fun found =>
        hydrateRemoteReplyDescendants levelsLeft found.object found.sources
          (some found.actor.actorUri))
      fallbackActorUri replies

def hydrateRemoteDescendantsForContext (root : RemoteStatus) : Online (List RemoteDocument) := do
  match ← fetchRemoteActivitypubDocument web root.objectUri with
  | none => return []
  | some fetched =>
    match extractRemoteNoteObject fetched.document with
    | none => return []
    | some object =>
      hydrateRemoteReplyDescendants web formats remoteContextReplyPageFetchLimit object
        fetched.asked (some root.actorUri)

end

/-! ## Resolving a link -/

/-- The object of a fetched document with the URI of its author, if
`resolve_remote_status_by_url` accepts both. -/
def resolvedObject (fetchUrl : String) (document : Json) : Option (Json × String) := do
  let object ← extractRemoteNoteObject document
  guard (isPublicActivitypubVisibility (visibilityFromActivitypubObject object))
  let objectId ← textField object "id"
  let actorUri ← (activityObjectId (object.get "attributedTo")).or
    (activityObjectId (document.get "actor"))
  guard (remoteStatusObjectAuthorityAllowed fetchUrl objectId actorUri).isOk
  return (object, actorUri)

/-- `resolve_remote_status_by_url`, for a URL no stored status has. -/
def resolveRemoteStatusByUrl (web : Web) (url : String) : Online (Option RemoteDocument) :=
  match parseRemoteHttpUrl web url with
  | none => return none
  | some fetchUrl => do
    match ← fetchRemoteActivitypubDocument web fetchUrl with
    | none => return none
    | some fetched =>
      match resolvedObject fetchUrl fetched.document with
      | none => return none
      | some (object, actorUri) =>
        return (← fetchRemoteActorProfile web actorUri).map fun actor =>
          ⟨actor, object, fetched.asked⟩

/-- A document whose id and actor are of one authority that had a say in it. -/
def RemoteDocument.OnItsHost (document : RemoteDocument) : Prop :=
  ∀ objectUri, incomingObjectUri document.object = some objectUri →
    ∃ host, remoteHttpAuthority objectUri = some host
      ∧ remoteHttpAuthority document.actor.actorUri = some host
      ∧ ∃ source ∈ document.sources, remoteHttpAuthority source = some host

theorem authority_of_incomingObjectUri {object : Json} {objectId uri : String}
    (raw : textField object "id" = some objectId)
    (named : incomingObjectUri object = some uri) :
    remoteHttpAuthority uri = remoteHttpAuthority objectId := by
  rw [incomingObjectUri, raw, Option.bind_some, nonBlank, Option.filter_eq_some_iff] at named
  obtain ⟨eq, -⟩ := named
  cases eq
  exact httpAuthority_trim objectId

theorem authority_of_resolvedObject {fetchUrl actorUri : String} {doc object : Json}
    (ok : resolvedObject fetchUrl doc = some (object, actorUri)) :
    ∃ objectId host, textField object "id" = some objectId
      ∧ remoteHttpAuthority fetchUrl = some host ∧ remoteHttpAuthority objectId = some host
      ∧ remoteHttpAuthority actorUri = some host := by
  simp only [resolvedObject, bind, Option.bind_eq_some_iff] at ok
  obtain ⟨object', _, _, _, objectId, raw, actorUri', _, _, may, built⟩ := ok
  cases built
  have met : (remoteStatusObjectAuthorityAllowed fetchUrl objectId actorUri).isOk = true :=
    (Option.guard_eq_some' _).mp may
  obtain ⟨host, ofUrl, ofObject, ofActor⟩ := authority_of_statusObjectAllowed met
  exact ⟨objectId, host, raw, ofUrl, ofObject, ofActor⟩

/-- **Link resolution stores documents of the host it asked.** -/
theorem onItsHost_of_resolved {web : Web} {url : String} {num : Nat}
    {doc : RemoteDocument}
    (resolved : (resolveRemoteStatusByUrl web url num).1 = some doc) :
    doc.OnItsHost := by
  intro uri named
  rw [resolveRemoteStatusByUrl] at resolved
  cases parsed : parseRemoteHttpUrl web url with
  | none =>
    rw [parsed] at resolved
    cases resolved
  | some fetchUrl =>
    rw [parsed] at resolved
    simp only [Online.bind_apply] at resolved
    cases answer : (fetchRemoteActivitypubDocument web fetchUrl num).1 with
    | none =>
      rw [answer] at resolved
      cases resolved
    | some fetched =>
      rw [answer] at resolved
      cases ok : resolvedObject fetchUrl fetched.document with
      | none =>
        simp only [ok] at resolved
        cases resolved
      | some pair =>
        simp only [ok, Online.bind_apply, Online.pure_apply,
          Option.map_eq_some_iff] at resolved
        obtain ⟨actor, got, rfl⟩ := resolved
        obtain ⟨objectId, host, raw, ofUrl, ofObject, ofActor⟩ :=
          authority_of_resolvedObject ok
        obtain ⟨host', ofActor', ofProfile⟩ := authority_of_fetchedActor got
        have sameHost : host = host' := by
          rw [ofActor] at ofActor'
          exact Option.some.inj ofActor'
        refine ⟨host, ?_, sameHost ▸ ofProfile, fetchUrl,
          mem_asked_of_fetched parsed answer, ofUrl⟩
        rw [authority_of_incomingObjectUri raw named, ofObject]

/-! ## Ingestion -/

/-- The path a document came in on. -/
inductive IngestionPath where
  | inbox
  | hydration
  | resolution
  deriving DecidableEq

/-- A document that is about to be stored. -/
structure PendingDocument where
  path : IngestionPath
  document : RemoteDocument

/-- The tables, and the documents each running handler has still to store. -/
structure IngestionState where
  actors : RemoteActors
  statuses : RemoteStatuses
  tasks : List (List PendingDocument)

/-- The state with one more running handler. -/
def IngestionState.schedule (path : IngestionPath) (documents : List RemoteDocument)
    (state : IngestionState) : IngestionState :=
  { state with tasks := state.tasks ++ [documents.map fun document => ⟨path, document⟩] }

/-- `upsert_remote_actor`. -/
def IngestionState.storeActor (actor : RemoteActorProfile) (state : IngestionState) :
    IngestionState :=
  { state with
    actors := upsertRemoteActor actor state.actors
    statuses := clearConflictingHandles actor state.actors state.statuses }

/-- `upsert_remote_status`, which changes nothing when it fails. -/
def IngestionState.storeStatus (formats : Formats) (call : UpsertCall)
    (document : RemoteDocument) (state : IngestionState) : IngestionState :=
  match upsertRemoteStatus formats call document.actor document.object state.statuses with
  | .ok written => { state with statuses := written }
  | .error _ => state

/-- What the ingestion of remote statuses reacts to. -/
inductive IngestionEvent where
  | receive (delivery : InboxDelivery)
  | hydrate (web : Web) (root : RemoteStatus)
  | resolve (web : Web) (url : String)
  | store (pending : PendingDocument) (call : UpsertCall)
  | storeActor (actor : RemoteActorProfile)
  | abandon (pending : PendingDocument)

/-- The steps of ingestion.  A handler decides what to store from what it received or
fetched, and then stores one document after the other; others may step in between.  A
write that fails is abandoned. -/
inductive IngestionStep (formats : Formats) (instanceDomain : String) :
    IngestionState → IngestionEvent → IngestionState → Prop where
  | receive {state : IngestionState} (delivery : InboxDelivery)
      (direct : extractActivityActorUri delivery.activity = some delivery.signer.actorUri) :
      IngestionStep formats instanceDomain state (.receive delivery)
        (state.schedule .inbox (documentOfDelivery instanceDomain delivery))
  | hydrate {state : IngestionState} (web : Web) {root : RemoteStatus}
      (stored : state.statuses.find root.objectUri = some root) :
      IngestionStep formats instanceDomain state (.hydrate web root)
        (state.schedule .hydration (hydrateRemoteDescendantsForContext web formats root 0).1)
  | resolve {state : IngestionState} (web : Web) {url : String}
      (missing : findRemoteStatusByUrlOrObjectUri url state.statuses = none) :
      IngestionStep formats instanceDomain state (.resolve web url)
        (state.schedule .resolution (resolveRemoteStatusByUrl web url 0).1.toList)
  | store {state : IngestionState} (call : UpsertCall) {earlier later : List (List PendingDocument)}
      {pending : PendingDocument} {rest : List PendingDocument}
      (taken : state.tasks = earlier ++ (pending :: rest) :: later) :
      IngestionStep formats instanceDomain state (.store pending call)
        (({ state with tasks := earlier ++ rest :: later }.storeActor
          pending.document.actor).storeStatus formats call pending.document)
  | storeActor {state : IngestionState} (actor : RemoteActorProfile) :
      IngestionStep formats instanceDomain state (.storeActor actor) (state.storeActor actor)
  | abandon {state : IngestionState} {earlier later : List (List PendingDocument)}
      {pending : PendingDocument} {rest : List PendingDocument}
      (taken : state.tasks = earlier ++ (pending :: rest) :: later) :
      IngestionStep formats instanceDomain state (.abandon pending)
        { state with tasks := earlier ++ rest :: later }

end Cfwdon.Remote
