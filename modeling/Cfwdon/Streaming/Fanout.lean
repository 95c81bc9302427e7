import Cfwdon.Statuses.Content
import Cfwdon.Streaming.Connections
import Cfwdon.Streaming.Poll

/-!
# The fan-out of a created status

A status that is created, here or at its server, is published to hubs: to the home
streams of the followers, to the public and hashtag channels, to the lists it shows on,
and a direct status to its recipients, who get the status and then its conversation.
Every event is an `update`.

Whom the tables list as followers, lists and recipients is given.  Serializing an event
and reading it back is taken as one, and a publish may fail.
-/

namespace Cfwdon.Streaming

open Library Statuses

/-- A rendered document, with the id it carries. -/
structure Document where
  id : String
  text : String

/-- `StreamHubEvent`, with the hub it is published to. -/
structure StreamHubEvent where
  hub : String
  stream : String
  tag : Option String
  list : Option String
  event : String
  payload : String
  deriving DecidableEq

def userStreamHubEvent (accountId event payload : String) : StreamHubEvent :=
  ⟨streamHubSessionIdName accountId, "user", none, none, event, payload⟩

def directStreamHubEvent (accountId event payload : String) : StreamHubEvent :=
  ⟨streamHubSessionIdName accountId, "direct", none, none, event, payload⟩

def listStreamHubEvent (ownerAccountId listId event payload : String) : StreamHubEvent :=
  ⟨streamHubSessionIdName ownerAccountId, "list", none, some listId, event, payload⟩

def publicTimelineStreams (hasMedia : Bool) : List String :=
  ["public", "public:local"] ++ if hasMedia then ["public:media", "public:local:media"] else []

def remotePublicTimelineStreams (hasMedia : Bool) : List String :=
  ["public", "public:remote"] ++ if hasMedia then ["public:media", "public:remote:media"] else []

def visibilityReachesFollowerHomeTimelines : Visibility → Bool
  | .publicPost => true
  | .unlisted => true
  | .followersOnly => true
  | .direct => false

/-- `publish_public_timeline_events_soft` and `publish_remote_public_timeline_events_soft`,
by the streams. -/
def publicTimelineEvents (streams : List String) (event payload : String) :
    List StreamHubEvent :=
  streams.map fun stream =>
    ⟨streamHubChannelIdName stream none, stream, none, none, event, payload⟩

/-- `publish_hashtag_timeline_events_soft` and
`publish_remote_hashtag_timeline_events_soft`, by the streams. -/
def hashtagTimelineEvents (streams tags : List String) (event payload : String) :
    List StreamHubEvent :=
  tags.flatMap fun tag => streams.map fun stream =>
    ⟨streamHubChannelIdName "hashtag" (some tag), stream, some tag, none, event, payload⟩

/-- A list that a status shows on, with its owner. -/
structure ListFanout where
  ownerAccountId : String
  listId : String

/-- `publish_list_timeline_events_soft` and `publish_remote_list_timeline_events_soft`. -/
def listTimelineEvents (lists : List ListFanout) (event payload : String) :
    List StreamHubEvent :=
  lists.map fun list => listStreamHubEvent list.ownerAccountId list.listId event payload

/-- A recipient of a direct status, with the document of the conversation if the
recipient has it. -/
structure DirectRecipient where
  accountId : String
  conversation : Option Document

/-- Where a status comes from: an account of this server, which gets a document of its
own, or a remote actor. -/
inductive StatusOrigin where
  | local (author : String) (authorDocument : Document)
  | remote

def StatusOrigin.documents (document : Document) : StatusOrigin → List Document
  | .local _ authorDocument => [authorDocument, document]
  | .remote => [document]

/-- A status that is created, with whom it goes to.  Its documents carry its id, and the
conversation that recipients have is its own. -/
structure StatusArrival where
  id : String
  origin : StatusOrigin
  visibility : Visibility
  hasMedia : Bool
  tags : List String
  document : Document
  followers : List String
  lists : List ListFanout
  recipients : List DirectRecipient
  conversationId : Option String
  documentIds : ∀ rendered ∈ origin.documents document, rendered.id = id
  conversationIds : ∀ recipient ∈ recipients, ∀ conversation ∈ recipient.conversation,
    conversationId = some conversation.id

/-- `publish_direct_conversation_stream_events_soft`. -/
def directConversationEvents (recipients : List DirectRecipient) : List StreamHubEvent :=
  recipients.filterMap fun recipient => recipient.conversation.map fun conversation =>
    directStreamHubEvent recipient.accountId "update" conversation.text

/-- `publish_local_status_create_stream_fanout_soft`. -/
def publishLocalStatusCreateStreamFanout (author : String) (arrival : StatusArrival) :
    List StreamHubEvent :=
  (if visibilityReachesFollowerHomeTimelines arrival.visibility then
      (arrival.followers.filter (· != author)).map
        (userStreamHubEvent · "update" arrival.document.text)
    else [])
  ++ (if arrival.visibility = .publicPost then
      publicTimelineEvents (publicTimelineStreams arrival.hasMedia) "update" arrival.document.text
        ++ hashtagTimelineEvents ["hashtag", "hashtag:local"] arrival.tags "update"
          arrival.document.text
        ++ listTimelineEvents arrival.lists "update" arrival.document.text
    else [])
  ++ (if arrival.visibility = .direct then
      arrival.recipients.map
          (fun recipient =>
            directStreamHubEvent recipient.accountId "update" arrival.document.text)
        ++ directConversationEvents arrival.recipients
    else [])

/-- `publish_remote_status_create_stream_fanout_soft`. -/
def publishRemoteStatusCreateStreamFanout (arrival : StatusArrival) : List StreamHubEvent :=
  (if visibilityReachesFollowerHomeTimelines arrival.visibility then
      arrival.followers.map (userStreamHubEvent · "update" arrival.document.text)
    else [])
  ++ (if arrival.visibility = .publicPost then
      publicTimelineEvents (remotePublicTimelineStreams arrival.hasMedia) "update"
          arrival.document.text
        ++ hashtagTimelineEvents ["hashtag"] arrival.tags "update" arrival.document.text
        ++ listTimelineEvents arrival.lists "update" arrival.document.text
    else [])

/-- What is published of a created status: `publish_created_status_stream_events`, or the
fan-out of a remote status. -/
def StatusArrival.published (arrival : StatusArrival) : List StreamHubEvent :=
  match arrival.origin with
  | .local author authorDocument =>
    userStreamHubEvent author "update" authorDocument.text
      :: publishLocalStatusCreateStreamFanout author arrival
  | .remote => publishRemoteStatusCreateStreamFanout arrival

def StatusArrival.statusDocuments (arrival : StatusArrival) : List Document :=
  arrival.origin.documents arrival.document

def StatusArrival.conversationDocuments (arrival : StatusArrival) : List Document :=
  arrival.recipients.filterMap DirectRecipient.conversation

variable {name payload : String}

section Published

variable {arrival : StatusArrival} {event : StreamHubEvent}

theorem document_mem_statusDocuments : arrival.document ∈ arrival.statusDocuments := by
  unfold StatusArrival.statusDocuments StatusOrigin.documents
  split
  · exact List.mem_cons_of_mem _ (List.mem_cons_self ..)
  · exact List.mem_cons_self ..

theorem conversationId_of_mem {conv : Document}
    (mem : conv ∈ arrival.conversationDocuments) :
    arrival.conversationId = some conv.id := by
  obtain ⟨recipient, listed, got⟩ := List.mem_filterMap.mp mem
  exact arrival.conversationIds recipient listed conv got

theorem mem_publicTimelineEvents {streams : List String}
    (mem : event ∈ publicTimelineEvents streams name payload) :
    event.stream ∈ streams ∧ event.event = name ∧ event.payload = payload := by
  obtain ⟨stream, listed, rfl⟩ := List.mem_map.mp mem
  exact ⟨listed, rfl, rfl⟩

theorem mem_hashtagTimelineEvents {streams tags : List String}
    (mem : event ∈ hashtagTimelineEvents streams tags name payload) :
    event.stream ∈ streams ∧ event.event = name ∧ event.payload = payload := by
  obtain ⟨tag, _, published⟩ := List.mem_flatMap.mp mem
  obtain ⟨stream, listed, rfl⟩ := List.mem_map.mp published
  exact ⟨listed, rfl, rfl⟩

theorem mem_listTimelineEvents {lists : List ListFanout}
    (mem : event ∈ listTimelineEvents lists name payload) :
    event.stream = "list" ∧ event.event = name ∧ event.payload = payload := by
  obtain ⟨list, _, rfl⟩ := List.mem_map.mp mem
  exact ⟨rfl, rfl, rfl⟩

theorem mem_directConversationEvents {recipients : List DirectRecipient}
    (mem : event ∈ directConversationEvents recipients) :
    ∃ recipient ∈ recipients, ∃ conv ∈ recipient.conversation,
      event = directStreamHubEvent recipient.accountId "update" conv.text := by
  obtain ⟨recipient, listed, published⟩ := List.mem_filterMap.mp mem
  obtain ⟨conv, got, rfl⟩ := Option.map_eq_some_iff.mp published
  exact ⟨recipient, listed, conv, got, rfl⟩

/-- What an event of the fan-out is: an update with the document of the status, or one of
the direct channel with that of the conversation, whose recipient gets the status too. -/
inductive PublishedAs (arrival : StatusArrival) (event : StreamHubEvent) : Prop where
  | status {document : Document} (own : document ∈ arrival.statusDocuments)
      (shown : event.payload = document.text) (named : event.event = "update")
  | conversation {recipient : DirectRecipient} {conversation : Document}
      (own : conversation ∈ arrival.conversationDocuments)
      (same : event = directStreamHubEvent recipient.accountId "update" conversation.text)
      (first : directStreamHubEvent recipient.accountId "update" arrival.document.text
        ∈ arrival.published)

theorem publishedAs_of_home {followers : List String}
    (mem : event ∈ followers.map (userStreamHubEvent · "update" arrival.document.text)) :
    PublishedAs arrival event := by
  obtain ⟨follower, _, rfl⟩ := List.mem_map.mp mem
  exact .status document_mem_statusDocuments rfl rfl

theorem publishedAs_of_open {streams hashtagStreams : List String}
    (mem : event ∈ publicTimelineEvents streams "update" arrival.document.text
      ++ hashtagTimelineEvents hashtagStreams arrival.tags "update" arrival.document.text
      ++ listTimelineEvents arrival.lists "update" arrival.document.text) :
    PublishedAs arrival event := by
  rcases List.mem_append.mp mem with both | listed
  · rcases List.mem_append.mp both with shown | tagged
    · obtain ⟨_, named, eq⟩ := mem_publicTimelineEvents shown
      exact .status document_mem_statusDocuments eq named
    · obtain ⟨_, named, eq⟩ := mem_hashtagTimelineEvents tagged
      exact .status document_mem_statusDocuments eq named
  · obtain ⟨_, named, eq⟩ := mem_listTimelineEvents listed
    exact .status document_mem_statusDocuments eq named

theorem publishedAs_of_local {author : String}
    (within : ∀ other ∈ publishLocalStatusCreateStreamFanout author arrival,
      other ∈ arrival.published)
    (mem : event ∈ publishLocalStatusCreateStreamFanout author arrival) :
    PublishedAs arrival event := by
  rcases List.mem_append.mp mem with both | directly
  · rcases List.mem_append.mp both with home | shown
    · split_ifs at home
      · exact publishedAs_of_home home
      · cases home
    · split_ifs at shown
      · exact publishedAs_of_open shown
      · cases shown
  · split_ifs at directly with direct
    · rcases List.mem_append.mp directly with sent | conv
      · obtain ⟨recipient, _, rfl⟩ := List.mem_map.mp sent
        exact .status document_mem_statusDocuments rfl rfl
      · obtain ⟨recipient, listed, doc, got, eq⟩ :=
          mem_directConversationEvents conv
        refine .conversation (List.mem_filterMap.mpr ⟨recipient, listed, got⟩) eq ?_
        apply within
        refine List.mem_append_right _ ?_
        rw [if_pos direct]
        exact List.mem_append_left _ (List.mem_map_of_mem listed)
    · cases directly

theorem publishedAs_of_remote (mem : event ∈ publishRemoteStatusCreateStreamFanout arrival) :
    PublishedAs arrival event := by
  rcases List.mem_append.mp mem with home | shown
  · split_ifs at home
    · exact publishedAs_of_home home
    · cases home
  · split_ifs at shown
    · exact publishedAs_of_open shown
    · cases shown

theorem publishedAs_of_mem (mem : event ∈ arrival.published) : PublishedAs arrival event := by
  unfold StatusArrival.published at mem
  split at mem
  · next author authorDocument created =>
      rcases List.mem_cons.mp mem with rfl | spread
      · refine .status ?_ rfl rfl
        rw [StatusArrival.statusDocuments, created]
        exact List.mem_cons_self ..
      · refine publishedAs_of_local (fun other mem => ?_) spread
        rw [StatusArrival.published, created]
        exact List.mem_cons_of_mem _ mem
  · exact publishedAs_of_remote mem

theorem PublishedAs.named (published : PublishedAs arrival event) : event.event = "update" := by
  cases published with
  | status _ _ named => exact named
  | conversation _ eq _ =>
    rw [eq]
    rfl

end Published

end Cfwdon.Streaming
