import Cfwdon.BackgroundJobs.Queue
import Cfwdon.Collections.Inbox
import Cfwdon.Delivery.Outbox
import Cfwdon.Polls.Votes
import Cfwdon.Statuses.RenderedHashtags

/-!
# What a delivery to an inbox writes

A `Create` or an `Update` that is delivered to an inbox stores its actor, and a status of
that actor with what depends on it: hashtags, attachments, a poll, mentions, a card and
the earlier versions.  It asks for background jobs, and it can be a vote or a collection.

Here are the tables that are written, and `upsert_remote_actor` and `upsert_remote_status`
on all of them.  What is only read comes with the `InboxEnvironment`: the settings, the
other tables, the clock and the generated ids, and how the parts of a status are read from
its object.
-/

namespace Cfwdon.Inbox

open Library ActivityPub
open BackgroundJobs (JobTable softEnqueueBackgroundJob)
open Delivery (OutboxDelivery)
open Polls Remote Statuses

/-- A row of `remote_status_hashtags`, for one status. -/
structure RemoteStatusHashtag where
  tag : String
  actorUri : String
  publishedAt : String

/-- `RemoteStatusAttachmentRow`, for one status. -/
structure RemoteStatusAttachmentRow where
  id : String
  remoteUrl : String
  previewUrl : Option String
  contentType : String
  description : Option String
  blurhash : Option String
  width : Option Nat
  height : Option Nat
  createdAt : String

structure RemotePollOptionDraft where
  title : String
  votesCount : Nat
  deriving DecidableEq

structure RemotePollDraft where
  multiple : Bool
  expiresAt : Option String
  votersCount : Option Nat
  votesCount : Nat
  expired : Bool
  options : List RemotePollOptionDraft

/-- A row of `remote_status_polls`, with its options in order. -/
structure RemoteStatusPollRow where
  id : String
  multiple : Bool
  expiresAt : Option String
  votersCount : Option Int
  votesCount : Nat
  expired : Bool
  options : List RemotePollOptionDraft

/-- A row of `remote_status_poll_votes`, for the poll of one status. -/
structure RemoteStatusPollVoteRow where
  id : String
  accountId : String
  optionPosition : Int
  optionTitle : Option String
  deriving DecidableEq

/-- A `MentionRow`, with the time it is stored with. -/
structure MentionRow where
  mentionKey : String
  accountId : Option String
  actorUri : Option String
  username : String
  acct : String
  url : String
  publishedAt : String

/-- A row of `remote_status_edits`, for one status. -/
structure RemoteStatusEditRow where
  snapshotJson : String
  createdAt : String

/-- The rows of a status in the tables that depend on it, and the columns of its own row
that its `RemoteStatus` does not have. -/
@[ext]
structure StatusParts where
  hashtags : List RemoteStatusHashtag
  attachments : List RemoteStatusAttachmentRow
  poll : Option RemoteStatusPollRow
  pollVotes : List RemoteStatusPollVoteRow
  mentions : List MentionRow
  edits : List RemoteStatusEditRow
  cardJson : Option String
  federatedEmojisJson : String
  updatedAt : String

/-- No rows. -/
def StatusParts.empty : StatusParts := ⟨[], [], none, [], [], [], none, "", ""⟩

/-- The largest `i32`. -/
def i32Max : Nat := 2147483647

/-- The largest `u32`. -/
def u32Max : Nat := 4294967295

/-- `remote_status_poll_upsert_bindings`, with the options. -/
def RemotePollDraft.row (draft : RemotePollDraft) (statusId : String) :
    RemoteStatusPollRow where
  id := "remote-" ++ statusId
  multiple := draft.multiple
  expiresAt := draft.expiresAt
  votersCount := draft.votersCount.map fun count => (count : Int).bmod (2 * (i32Max + 1))
  votesCount := min draft.votesCount i32Max
  expired := draft.expired
  options := draft.options.map fun option =>
    { option with votesCount := min option.votesCount i32Max }

def resolveRemotePollVotePosition (options : List RemotePollOptionDraft) (optionPosition : Int)
    (optionTitle : Option String) : Option Nat :=
  let storedPosition :=
    if 0 ≤ optionPosition ∧ optionPosition ≤ u32Max then some optionPosition.toNat else none
  let ofTitle (title : String) :=
    (storedPosition.filter fun position => options[position]?.any fun option =>
      option.title == title).or
        ((options.findIdx? fun option => option.title == title).filter fun position =>
          decide (position ≤ u32Max))
  (optionTitle.bind ofTitle).or
    (storedPosition.filter fun position => decide (position < options.length))

/-! ## The tables -/

/-- The tables a `Create` or an `Update` writes.  A status is stored under an object URI
without surrounding whitespace. -/
@[ext]
structure InboxTables where
  actors : RemoteActors
  statuses : RemoteStatuses
  trimmed : ∀ status ∈ statuses.rows, trim status.objectUri = status.objectUri
  /-- The parts of a status, by its id. -/
  parts : String → StatusParts
  collections : Collections.RemoteCollections
  items : Collections.RemoteCollectionItems
  polls : PollTables
  outbox : List OutboxDelivery
  jobs : JobTable

/-- A local account a delivery is for. -/
structure Recipient where
  id : String
  username : String

/-- How the parts of a status are read. -/
structure PartReaders where
  /-- `remote_status_attachments_from_object`, for a status id. -/
  attachments : String → Json → List RemoteStatusAttachmentRow
  /-- `extract_remote_poll_draft`. -/
  pollDraft : Json → Option RemotePollDraft
  /-- The rows of `replace_remote_status_mentions`, among the stored actors. -/
  mentions : RemoteActors → RemoteStatus → Json → String → List MentionRow
  /-- `build_remote_status_card_value`, as a text. -/
  cardJson : String → List RemoteStatusAttachmentRow → Option String
  /-- `extract_federated_emojis_from_activitypub_object`, as a text. -/
  federatedEmojisJson : Json → String
  /-- The snapshot of `insert_previous_remote_status_snapshot`. -/
  snapshotJson : InboxTables → RemoteStatus → RemoteActorProfile → String

/-- What the handlers of a delivery read and do not write.  It is the same for all the
recipients: the clock stands still, another server gives the same answers again, and the
same ids are generated. -/
structure InboxEnvironment where
  instanceDomain : String
  formats : Formats
  rfc3339 : Rfc3339
  lookups : PollLookups
  call : UpsertCall
  readers : PartReaders
  site : Collections.Site
  /-- `CURRENT_TIMESTAMP`. -/
  currentTimestamp : String
  now : Nat
  /-- `env.is_some()`: the delivery is a live one. -/
  isLive : Bool
  voteId : String
  /-- The generated id of a job of a type. -/
  jobId : String → String
  /-- The rows `enqueue_status_update_activity` writes, for a status id. -/
  statusUpdateDeliveries : InboxTables → Recipient → String → List OutboxDelivery
  /-- `is_local_account_following_remote_actor`. -/
  isFollowing : String → String → Bool
  /-- `parse_remote_actor_profile_document`. -/
  parseActorProfile : Json → String → Except String RemoteActorProfile
  /-- `validate_remote_actor_profile_urls`. -/
  validateActorProfileUrls : RemoteActorProfile → Except String Unit
  /-- `fetch_remote_actor_profile`. -/
  fetchActorProfile : String → Except String RemoteActorProfile

namespace InboxTables

def store (tables : InboxTables) : Collections.Store :=
  ⟨tables.actors, tables.collections, tables.items, 0, []⟩

def changeParts (id : String) (change : StatusParts → StatusParts) (tables : InboxTables) :
    InboxTables :=
  { tables with parts := Function.update tables.parts id (change (tables.parts id)) }

/-- A status of an actor whose handle another actor takes over. -/
def losesActor (tables : InboxTables) (actor : RemoteActorProfile) (status : RemoteStatus) :
    Bool :=
  tables.actors.exists? fun other =>
    takesHandleOf actor other && other.actorUri == status.actorUri

/-- What is stored for the actors that give way goes with them. -/
def upsertRemoteActor (actor : RemoteActorProfile) (tables : InboxTables) : InboxTables :=
  { tables with
    actors := Remote.upsertRemoteActor actor tables.actors
    statuses := clearConflictingHandles actor tables.actors tables.statuses
    trimmed := fun status member => tables.trimmed status (List.mem_of_mem_filter member)
    parts := fun id =>
      if tables.statuses.exists? fun status => status.id == id && tables.losesActor actor status
      then StatusParts.empty else tables.parts id
    collections := (tables.store.upsertRemoteActor actor).collections
    items := (tables.store.upsertRemoteActor actor).items }

end InboxTables

/-! ## Parts of a status -/

variable (env : InboxEnvironment)

def plainText (status : RemoteStatus) : String :=
  if status.textContent ≠ "" then status.textContent else stripHtmlTags status.contentHtml

/-- The rows of tags that stay are not written. -/
def replaceRemoteStatusHashtags (status : RemoteStatus) (existing : List RemoteStatusHashtag) :
    List RemoteStatusHashtag :=
  let next := extractHashtagsFromHtml status.contentHtml
  (existing.filter fun row => next.contains row.tag)
    ++ (next.dedup.filter fun tag => !(existing.map (·.tag)).contains tag).map fun tag =>
      ⟨tag, status.actorUri, status.publishedAt⟩

/-- `upsert_remote_status_poll` or `delete_remote_status_poll_by_status_id`. -/
def replaceRemoteStatusPoll (statusId : String) (object : Json) (parts : StatusParts) :
    StatusParts :=
  match env.readers.pollDraft object with
  | some draft =>
    let row := draft.row statusId
    { parts with
      poll := some row
      pollVotes := parts.pollVotes.filter fun vote =>
        (resolveRemotePollVotePosition row.options vote.optionPosition vote.optionTitle).isSome }
  | none => { parts with poll := none, pollVotes := [] }

/-- `INSERT OR REPLACE`, for the mentions of one status. -/
def insertMentions (rows : List MentionRow) : List MentionRow :=
  rows.foldl (fun stored row =>
    (stored.filter fun other => other.mentionKey ≠ row.mentionKey) ++ [row]) []

/-- `replace_remote_status_dependents`, with the columns that are written beside it. -/
def replaceRemoteStatusDependents (actors : RemoteActors) (status : RemoteStatus) (object : Json)
    (parts : StatusParts) : StatusParts :=
  let attachments := env.readers.attachments status.id object
  { replaceRemoteStatusPoll env status.id object parts with
    hashtags := replaceRemoteStatusHashtags status parts.hashtags
    attachments
    mentions := insertMentions (env.readers.mentions actors status object (plainText status))
    cardJson := env.readers.cardJson (plainText status) attachments
    federatedEmojisJson := env.readers.federatedEmojisJson object
    updatedAt := env.currentTimestamp }

/-! ## Jobs -/

def jobCardUnfurl : String := "card_unfurl"

def jobResolveInReplyTo : String := "resolve_in_reply_to"

def jobRemoteStatusNotify : String := "remote_status_notify"

def cardUnfurlPayload (statusKind statusId : String) : String :=
  env.formats.jsonText
    (.object [("status_kind", .string statusKind), ("status_id", .string statusId)])

def resolveInReplyToPayload (remoteStatusId : String) : String :=
  env.formats.jsonText (.object [("remote_status_id", .string remoteStatusId)])

def remoteStatusNotifyPayload (statusId actorUri kind : String) : String :=
  env.formats.jsonText (.object [("status_id", .string statusId),
    ("actor_uri", .string actorUri), ("kind", .string kind)])

def remoteStatusNotifyKind (isLiveIngest isNew contentChanged : Bool) : Option String :=
  if !isLiveIngest then none
  else if isNew then some "create"
  else if contentChanged then some "update" else none

/-- `soft_enqueue_background_job`, due now. -/
def enqueueJob (jobType payloadJson : String) (jobs : JobTable) : JobTable :=
  softEnqueueBackgroundJob (env.jobId jobType) jobType payloadJson env.now env.now jobs

def enqueueStatusJobs (actor : RemoteActorProfile) (status : RemoteStatus)
    (kind : Option String) (jobs : JobTable) : JobTable :=
  let jobs := enqueueJob env jobCardUnfurl (cardUnfurlPayload env "remote" status.id) jobs
  let jobs :=
    if status.inReplyToId.isNone && status.inReplyToUri.isSome then
      enqueueJob env jobResolveInReplyTo (resolveInReplyToPayload env status.id) jobs
    else jobs
  match kind with
  | none => jobs
  | some kind =>
    enqueueJob env jobRemoteStatusNotify
      (remoteStatusNotifyPayload env status.id actor.actorUri kind) jobs

/-! ## Storing a status -/

/-- The stored row says something else than the incoming one. -/
def contentChanged (previous : Option RemoteStatus) (intent : RemoteStatus) : Bool :=
  previous.any fun previous => previous.rawObjectJson ≠ intent.rawObjectJson

/-- `insert_previous_remote_status_snapshot_if_changed`. -/
def insertPreviousSnapshotIfChanged (previous : Option RemoteStatus) (intent : RemoteStatus)
    (tables : InboxTables) : InboxTables :=
  match previous with
  | none => tables
  | some previous =>
    if previous.rawObjectJson = intent.rawObjectJson then tables
    else match tables.actors.find previous.actorUri with
      | none => tables
      | some actor =>
        tables.changeParts previous.id fun parts =>
          { parts with
            edits := parts.edits
              ++ [⟨env.readers.snapshotJson tables previous actor, env.call.revisionAt⟩] }

variable {statuses : RemoteStatuses} {object : Json}

theorem trimmed_upsert {intent : RemoteStatus}
    (trimmed : ∀ status ∈ statuses.rows, trim status.objectUri = status.objectUri)
    (intentTrimmed : trim intent.objectUri = intent.objectUri) :
    ∀ status ∈ (statuses.upsert intent intent.overwrite intent.objectUri_overwrite).rows,
      trim status.objectUri = status.objectUri := by
  intro status mem
  rcases (Table.mem_upsert_iff _ _ _ _).mp mem with rfl | ⟨prior, _⟩
  · cases got : statuses.find intent.objectUri with
    | none => exact intentTrimmed
    | some held =>
      have sameUri : held.objectUri = intent.objectUri := Table.key_of_find got
      change trim held.objectUri = held.objectUri
      rw [sameUri]
      exact intentTrimmed
  · exact trimmed status prior

def upsertRemoteStatusDraft (intent : RemoteStatus)
    (intentTrimmed : trim intent.objectUri = intent.objectUri) (tables : InboxTables) :
    InboxTables :=
  { tables with
    statuses := tables.statuses.upsert intent intent.overwrite intent.objectUri_overwrite
    trimmed := trimmed_upsert tables.trimmed intentTrimmed }

theorem trim_of_incomingObjectUri {objectUri : String}
    (named : incomingObjectUri object = some objectUri) : trim objectUri = objectUri := by
  obtain ⟨rawUri, -, kept⟩ := Option.bind_eq_some_iff.mp named
  rw [nonBlank, Option.filter_eq_some_iff] at kept
  obtain ⟨eq, -⟩ := kept
  cases eq
  exact trim_trim rawUri

theorem trim_incomingStatus {formats : Formats} {call : UpsertCall} {actor : RemoteActorProfile}
    {rawUri uri : String}
    (uriTrimmed : trim uri = uri) :
    trim (incomingStatus formats call actor object rawUri uri statuses).objectUri
      = (incomingStatus formats call actor object rawUri uri statuses).objectUri := by
  rw [(showsObject_incomingStatus rawUri).objectUri]
  exact uriTrimmed

/-- `upsert_remote_status`, for an object whose id is read. -/
def writeRemoteStatus (actor : RemoteActorProfile) (object : Json) (rawUri objectUri : String)
    (uriTrimmed : trim objectUri = objectUri) (tables : InboxTables) :
    Attempt InboxTables String Unit :=
  let previous := tables.statuses.find rawUri
  let intent :=
    incomingStatus env.formats env.call actor object rawUri objectUri tables.statuses
  let tables := insertPreviousSnapshotIfChanged env previous intent tables
  let tables := upsertRemoteStatusDraft intent (trim_incomingStatus uriTrimmed) tables
  match tables.statuses.find objectUri with
  | none => (tables, .error "cached remote status could not be reloaded")
  | some status =>
    let tables := tables.changeParts status.id
      (replaceRemoteStatusDependents env tables.actors status object)
    let kind := remoteStatusNotifyKind env.isLive previous.isNone (contentChanged previous intent)
    ({ tables with jobs := enqueueStatusJobs env actor status kind tables.jobs }, .ok ())

def upsertRemoteStatus (actor : RemoteActorProfile) (object : Json) (tables : InboxTables) :
    Attempt InboxTables String Unit :=
  match textField object "id", named : incomingObjectUri object with
  | some rawUri, some objectUri =>
    writeRemoteStatus env actor object rawUri objectUri (trim_of_incomingObjectUri named) tables
  | _, _ => (tables, .error "remote status object is missing id")

def storeStatus (actor : RemoteActorProfile) (object : Json) (tables : InboxTables) :
    Attempt InboxTables String Unit :=
  upsertRemoteStatus env actor object (tables.upsertRemoteActor actor)

end Cfwdon.Inbox
