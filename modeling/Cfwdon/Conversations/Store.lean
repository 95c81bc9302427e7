import Cfwdon.Accounts.Handles
import Cfwdon.Library.Lists
import Cfwdon.Library.Table
import Cfwdon.Statuses.Content

/-!
# Direct conversations

A direct status belongs to a conversation: that of the status it replies to, or a
new one.  Its author and the accounts it mentions join the participants of the
conversation, and who may view a direct status is decided by conversation.

Participants are references: the id of a local account, the uri of a known remote
actor, or `user@domain`.
-/

namespace Cfwdon.Conversations

open Library Accounts Federation Statuses

/-- The ids `generate_entity_id` makes: hexadecimal digits. -/
def isEntityId (id : String) : Bool :=
  id ≠ "" && id.toList.all fun c => "0123456789abcdef".toList.contains c

structure LocalAccount where
  id : String
  username : String
  idGenerated : isEntityId id = true
  deriving DecidableEq

abbrev LocalAccounts := Table LocalAccount LocalAccount.id

def findAccountByUsername (accounts : LocalAccounts) (username : String) :
    Option LocalAccount :=
  accounts.rows.find? fun account => account.username == toAsciiLowercase (trim username)

structure RemoteActor where
  actorUri : String
  username : String
  domain : String

/-- The first match, if its uri is on the authority of the domain. The actors are in the
order of the query. -/
def findRemoteActorByUsernameDomain (actors : List RemoteActor) (username domain : String) :
    Option RemoteActor :=
  let username := toAsciiLowercase username
  let domain := toAsciiLowercase domain
  (actors.find? fun actor =>
      toAsciiLowercase actor.username == username
        && toAsciiLowercase actor.domain == domain).filter fun actor =>
    remoteActorCachedHandleAllowed actor.actorUri actor.username actor.domain username domain

/-! ## Rows -/

structure LocalStatus where
  id : String
  accountId : String
  text : String
  visibility : Visibility
  inReplyToId : Option String
  deriving DecidableEq

structure ConversationParticipant where
  conversationId : String
  participantRef : String
  deriving DecidableEq

structure ConversationStatus where
  statusId : String
  conversationId : String

structure ConversationState where
  conversationId : String
  accountId : String
  lastStatusId : Option String
  unread : Bool
  deletedAt : Option Nat
  deriving DecidableEq

def ConversationState.key (state : ConversationState) : String × String :=
  (state.conversationId, state.accountId)

/-- The tables of the conversations.  `ids` is the key of `conversations`. -/
structure ConversationTables where
  ids : List String
  participants : Table ConversationParticipant id
  statuses : Table ConversationStatus ConversationStatus.statusId
  states : Table ConversationState ConversationState.key

/-! ## Statements -/

def createConversation (conversationId : String) (tables : ConversationTables) :
    ConversationTables :=
  { tables with ids := conversationId :: tables.ids }

def findConversationIdByStatusId (tables : ConversationTables) (statusId : String) :
    Option String :=
  (tables.statuses.find statusId).map ConversationStatus.conversationId

def listConversationParticipants (tables : ConversationTables) (conversationId : String) :
    List String :=
  (tables.participants.select fun row => row.conversationId == conversationId).map
    ConversationParticipant.participantRef

/-- The rows of `add_conversation_participants`: references are trimmed, and empty
ones left out. -/
def participantRows (conversationId : String) (participantRefs : List String) :
    List ConversationParticipant :=
  ((participantRefs.map trim).filter (· ≠ "")).map (ConversationParticipant.mk conversationId)

def addConversationParticipants (conversationId : String) (participantRefs : List String)
    (tables : ConversationTables) : ConversationTables :=
  { tables with
    participants := tables.participants.insertAllOrIgnore (fun _ _ => false)
      (participantRows conversationId participantRefs) }

@[simp] theorem addConversationParticipants_ids {convId : String}
    {participantRefs : List String} {tables : ConversationTables} :
    (addConversationParticipants convId participantRefs tables).ids = tables.ids := rfl

def ConversationStatus.moveTo (conversationId : String) (row : ConversationStatus) :
    ConversationStatus :=
  { row with conversationId := conversationId }

theorem ConversationStatus.statusId_moveTo (convId : String) (row : ConversationStatus) :
    (row.moveTo convId).statusId = row.statusId := rfl

def attachStatusToConversation (conversationId statusId : String) (tables : ConversationTables) :
    ConversationTables :=
  { tables with
    statuses := tables.statuses.upsert ⟨statusId, conversationId⟩
      (ConversationStatus.moveTo conversationId)
      (ConversationStatus.statusId_moveTo conversationId) }

@[simp] theorem attachStatusToConversation_ids {convId statusId : String}
    {tables : ConversationTables} :
    (attachStatusToConversation convId statusId tables).ids = tables.ids := rfl

def ConversationState.renew (lastStatusId : String) (unread : Bool) (state : ConversationState) :
    ConversationState :=
  { state with lastStatusId := some lastStatusId, unread := unread, deletedAt := none }

theorem ConversationState.key_renew (lastStatusId : String) (unread : Bool)
    (state : ConversationState) : (state.renew lastStatusId unread).key = state.key := rfl

def upsertConversationState (conversationId accountId lastStatusId : String) (unread : Bool)
    (tables : ConversationTables) : ConversationTables :=
  { tables with
    states := tables.states.upsert
      { conversationId := conversationId
        accountId := accountId
        lastStatusId := some lastStatusId
        unread := unread
        deletedAt := none }
      (ConversationState.renew lastStatusId unread)
      (ConversationState.key_renew lastStatusId unread) }

/-- Only a conversation that is not deleted is found. -/
def deleteConversationForAccount (now : Nat) (accountId conversationId : String) :
    Update ConversationState ConversationState.key where
  guard state :=
    state.accountId == accountId && state.conversationId == conversationId && state.deletedAt.isNone
  set state := { state with deletedAt := some now }
  keeps _ := rfl

/-! ## The conversation of a direct status -/

/-- The reference a handle in the text of a direct status stands for. -/
def participantRef (instanceDomain : String) (accounts : LocalAccounts)
    (actors : List RemoteActor) (handle : AccountHandle) : Option String :=
  if handle.isLocalTo instanceDomain then
    (findAccountByUsername accounts handle.username).map LocalAccount.id
  else
    handle.domain.map fun domain =>
      ((findRemoteActorByUsernameDomain actors handle.username domain).map
        RemoteActor.actorUri).getD (handle.username ++ "@" ++ domain)

/-- The participants after a direct status: its author, those there were, and those
it mentions. -/
def directParticipants (instanceDomain : String) (accounts : LocalAccounts)
    (actors : List RemoteActor) (tables : ConversationTables) (conversationId : String)
    (status : LocalStatus) : List String :=
  pushMissing
    (pushMissing [status.accountId] (listConversationParticipants tables conversationId))
    ((extractAccountHandlesFromText status.text instanceDomain).filterMap
      (participantRef instanceDomain accounts actors))

def upsertParticipantStates (accounts : LocalAccounts) (conversationId : String)
    (status : LocalStatus) (participantRefs : List String) (tables : ConversationTables) :
    ConversationTables :=
  participantRefs.foldl
    (fun tables participant =>
      match accounts.find participant with
      | some account =>
        upsertConversationState conversationId account.id status.id
          (account.id != status.accountId) tables
      | none => tables)
    tables

/-- The conversation a direct status goes to: that of the status it replies to, or
a new one. -/
def conversationFor (tables : ConversationTables) (status : LocalStatus) (newId : String) :
    String :=
  (status.inReplyToId.bind (findConversationIdByStatusId tables)).getD newId

/-- `ensure_direct_conversation_for_status`, with the id a new conversation would
get. -/
def ensureDirectConversationForStatus (instanceDomain : String) (accounts : LocalAccounts)
    (actors : List RemoteActor) (newId : String) (status : LocalStatus)
    (tables : ConversationTables) : ConversationTables :=
  if status.visibility ≠ .direct then tables
  else
    let conversationId := conversationFor tables status newId
    let created :=
      if (status.inReplyToId.bind (findConversationIdByStatusId tables)).isSome then tables
      else createConversation newId tables
    let refs := directParticipants instanceDomain accounts actors created conversationId status
    upsertParticipantStates accounts conversationId status refs
      (attachStatusToConversation conversationId status.id
        (addConversationParticipants conversationId refs created))

def localAccountParticipatesInDirectStatus (tables : ConversationTables)
    (statusId accountId : String) : Bool :=
  match findConversationIdByStatusId tables statusId with
  | none => false
  | some conversationId =>
    (tables.states.exists? fun state =>
        state.conversationId == conversationId && state.accountId == accountId
          && state.deletedAt.isNone)
      || tables.participants.exists? fun row =>
        row.conversationId == conversationId && row.participantRef == accountId

/-- `can_view_local_status`.  `isFollower` tells the authorized local followers of
the owner. -/
def canViewLocalStatus (isFollower : String → String → Bool) (tables : ConversationTables)
    (status : LocalStatus) (viewer : Option LocalAccount) (ownerId : String) : Bool :=
  if isPublicActivitypubVisibility status.visibility then true
  else
    match viewer with
    | none => false
    | some viewer =>
      if viewer.id = ownerId then true
      else
        localStatusAllowsViewer status.visibility false
          (status.visibility == .followersOnly && isFollower viewer.id ownerId)
          (status.visibility == .direct
            && localAccountParticipatesInDirectStatus tables status.id viewer.id)

end Cfwdon.Conversations
