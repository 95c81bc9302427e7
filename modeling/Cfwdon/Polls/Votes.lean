import Cfwdon.ActivityPub.Objects
import Cfwdon.Library.Attempt
import Cfwdon.Library.Table
import Cfwdon.Library.TimeText
import Mathlib.Data.List.Pairwise

/-!
# Votes in local polls

A vote is a row of `status_poll_votes`, and every option of a poll counts its votes.  Rows
and counts are written by separate statements, in three operations: an account of this
server votes (`voteInPoll`), an actor of another server votes (`handleInboxPollVote`), and
it takes its vote back (`handleInboxPollVoteUndo`).

The operations are given as the statements they execute.  What they read of other tables
comes with the request, as `PollLookups`.
-/

namespace Cfwdon.Polls

open Library ActivityPub

/-- A row of `status_poll_options`.  Its position is its place among the options. -/
structure PollOption where
  title : String
  votesCount : Nat
  deriving DecidableEq

/-- A row of `status_polls`, with its options. -/
structure StatusPoll where
  id : String
  statusId : String
  multiple : Bool
  expiresAt : String
  options : List PollOption
  deriving DecidableEq

structure PollVote where
  id : String
  pollId : String
  accountId : String
  optionPosition : Nat
  activityUri : Option String
  deriving DecidableEq

/-- Two rows have a key of a unique index in common. -/
def Clash (vote vote' : PollVote) : Prop :=
  vote.id = vote'.id
    ∨ (vote.pollId = vote'.pollId ∧ vote.accountId = vote'.accountId
      ∧ vote.optionPosition = vote'.optionPosition)
    ∨ (vote.activityUri.isSome = true ∧ vote.activityUri = vote'.activityUri)

instance (vote vote' : PollVote) : Decidable (Clash vote vote') :=
  inferInstanceAs (Decidable (_ ∨ _ ∨ _))

/-- Rows of `status_poll_votes`, under its unique indexes. -/
@[ext]
structure PollVotes where
  rows : List PollVote
  unique : rows.Pairwise fun vote vote' => ¬ Clash vote vote'

@[ext]
structure PollTables where
  polls : Table StatusPoll StatusPoll.id
  votes : PollVotes

/-! ## Statements -/

/-- The statements of the three operations. -/
inductive PollStatement where
  | insertVote (vote : PollVote)
  | insertOrIgnoreVote (vote : PollVote)
  | incrementCount (pollId : String) (position : Nat)
  | decrementCount (pollId : String) (position : Nat)
  | deleteVotes (guard : PollVote → Bool)

/-- The triggers on `status_poll_votes` let a row in: it is of a poll, an account and an
option that exist. -/
def Referenced (accounts : List String) (polls : Table StatusPoll StatusPoll.id)
    (vote : PollVote) : Prop :=
  vote.accountId ∈ accounts
    ∧ ∃ poll ∈ polls.rows, poll.id = vote.pollId ∧ vote.optionPosition < poll.options.length

instance (accounts : List String) (polls : Table StatusPoll StatusPoll.id) (vote : PollVote) :
    Decidable (Referenced accounts polls vote) :=
  inferInstanceAs (Decidable (_ ∧ _))

/-- A row has no key of a unique index in common with a stored one. -/
def Unclashing (votes : PollVotes) (vote : PollVote) : Prop :=
  ∀ stored ∈ votes.rows, ¬ Clash stored vote

instance (votes : PollVotes) (vote : PollVote) : Decidable (Unclashing votes vote) :=
  inferInstanceAs (Decidable (∀ stored ∈ votes.rows, ¬ Clash stored vote))

namespace PollVotes

/-- The rows with one more. -/
def append (votes : PollVotes) (vote : PollVote) (unclashing : Unclashing votes vote) :
    PollVotes where
  rows := votes.rows ++ [vote]
  unique := List.pairwise_append.mpr
    ⟨votes.unique, List.pairwise_singleton _ _, fun stored member new isNew => by
      obtain rfl := List.mem_singleton.mp isNew
      exact unclashing stored member⟩

/-- `DELETE … WHERE guard`. -/
def deleteWhere (guard : PollVote → Bool) (votes : PollVotes) : PollVotes where
  rows := votes.rows.filter fun vote => !guard vote
  unique := votes.unique.filter _

@[simp] theorem rows_append {votes : PollVotes} {vote : PollVote}
    (apart : Unclashing votes vote) :
    (votes.append vote apart).rows = votes.rows ++ [vote] := rfl

@[simp] theorem rows_deleteWhere (guard : PollVote → Bool) (votes : PollVotes) :
    (votes.deleteWhere guard).rows = votes.rows.filter fun vote => !guard vote := rfl

theorem deleteWhere_of_forall {guard : PollVote → Bool} {votes : PollVotes}
    (kept : ∀ vote ∈ votes.rows, guard vote = false) : votes.deleteWhere guard = votes := by
  apply PollVotes.ext
  rw [rows_deleteWhere, List.filter_eq_self]
  intro vote mem
  rw [kept vote mem]
  rfl

end PollVotes

def changeCount (change : Nat → Nat) (position : Nat) (poll : StatusPoll) : StatusPoll :=
  { poll with
    options := poll.options.modify position fun option =>
      { option with votesCount := change option.votesCount } }

/-- `UPDATE status_poll_options SET votes_count = …` for one option. -/
def updateCount (change : Nat → Nat) (pollId : String) (position : Nat) :
    Update StatusPoll StatusPoll.id where
  guard poll := poll.id == pollId
  set := changeCount change position
  keeps _ := rfl

/-- A statement, which may fail: a trigger aborts an insert, and a plain insert fails if
its row clashes. -/
def executeStatement (accounts : List String) (statement : PollStatement)
    (tables : PollTables) : Option PollTables :=
  match statement with
  | .insertVote vote =>
    if Referenced accounts tables.polls vote then
      if unclashing : Unclashing tables.votes vote then
        some { tables with votes := tables.votes.append vote unclashing }
      else none
    else none
  | .insertOrIgnoreVote vote =>
    if Referenced accounts tables.polls vote then
      if unclashing : Unclashing tables.votes vote then
        some { tables with votes := tables.votes.append vote unclashing }
      else some tables
    else none
  | .incrementCount pollId position =>
    some { tables with polls := (updateCount (· + 1) pollId position).run tables.polls }
  | .decrementCount pollId position =>
    some { tables with polls := (updateCount (· - 1) pollId position).run tables.polls }
  | .deleteVotes guard => some { tables with votes := tables.votes.deleteWhere guard }

/-! ## Reads -/

structure PolledStatus where
  id : String
  accountId : String

/-- What the other tables and the clock answer while a request is handled. -/
structure PollLookups where
  accounts : List String
  now : ClockReading
  findStatusById : String → Option PolledStatus
  findLocalStatusByObjectUri : String → Option PolledStatus
  canViewLocalStatus : PolledStatus → String → Bool
  remoteActorMayInteract : PolledStatus → String → Bool

def findStatusPollByStatusId (tables : PollTables) (statusId : String) : Option StatusPoll :=
  tables.polls.rows.find? fun poll => poll.statusId == statusId

/-- `list_poll_vote_positions_for_account`, in the order of the rows. -/
def listPollVotePositionsForAccount (votes : PollVotes) (pollId accountId : String) :
    List Nat :=
  (votes.rows.filter fun vote => vote.pollId == pollId && vote.accountId == accountId).map
    (·.optionPosition)

variable (rfc3339 : Rfc3339)

def isIsoTimestampInPast (now : ClockReading) (value : String) : Option Bool := do
  let timestamp ← rfc3339.parse value
  let current ← rfc3339.parse now.isoString
  return decide (timestamp.instant ≤ current.instant)

/-- A poll takes no more votes. -/
def expired (now : ClockReading) (poll : StatusPoll) : Bool :=
  (isIsoTimestampInPast rfc3339 now poll.expiresAt).getD false

def choicePosition (poll : StatusPoll) (title : String) : Option Nat :=
  poll.options.findIdx? fun option => option.title == title

/-! ## A vote from here -/

/-- What `parse_poll_vote_request` asks of the choices. -/
def checkPollVoteRequest (choices : List Nat) : Except String Unit :=
  if choices = [] then .error "choices must not be empty"
  else if !decide choices.Nodup then .error "duplicate poll choices are not allowed"
  else .ok ()

def validateLocalPollVoteChoices (optionCount : Nat) (allowsMultiple : Bool)
    (choices : List Nat) : Except String Unit :=
  if choices.any fun choice => decide (optionCount ≤ choice) then
    .error "poll choice index is out of range"
  else if !allowsMultiple && choices.length != 1 then
    .error "poll does not allow multiple choices"
  else .ok ()

def validatePollVoteSubmission (existingVoteCount : Nat) (multiple : Bool)
    (choiceCount : Nat) : Except String Unit :=
  if existingVoteCount != 0 then .error "you have already voted in this poll"
  else if !multiple && choiceCount != 1 then .error "poll does not allow multiple choices"
  else .ok ()

def accountVotes (pollId accountId : String) (choices : List Nat) (voteId : Nat → String) :
    List PollVote :=
  choices.mapIdx fun index choice => ⟨voteId index, pollId, accountId, choice, none⟩

def insertAccountPollVotes (votes : List PollVote) : List PollStatement :=
  votes.flatMap fun vote => [.insertVote vote, .incrementCount vote.pollId vote.optionPosition]

def replaceAccountPollVotes (pollId accountId : String) (existing : List Nat)
    (votes : List PollVote) : List PollStatement :=
  existing.map (.decrementCount pollId)
    ++ .deleteVotes (fun vote => vote.pollId == pollId && vote.accountId == accountId)
      :: insertAccountPollVotes votes

/-- A vote in a poll by an account of this server. -/
structure LocalVote where
  pollId : String
  viewer : String
  choices : List Nat
  voteId : Nat → String

/-- The rows to insert, and the statements. -/
def applyPollVote (tables : PollTables) (poll : StatusPoll) (vote : LocalVote) :
    Except String (List PollStatement) := do
  validateLocalPollVoteChoices poll.options.length poll.multiple vote.choices
  let existing := listPollVotePositionsForAccount tables.votes poll.id vote.viewer
  validatePollVoteSubmission existing.length poll.multiple vote.choices.length
  return replaceAccountPollVotes poll.id vote.viewer existing
    (accountVotes poll.id vote.viewer vote.choices vote.voteId)

/-- `vote_in_poll`, for a poll of this server. -/
def voteInPoll (lookups : PollLookups) (tables : PollTables) (vote : LocalVote) :
    Except String (List PollStatement) := do
  let some pollId := nonBlank vote.pollId | .error "missing poll id route parameter"
  checkPollVoteRequest vote.choices
  let some poll := tables.polls.find pollId | .error "poll not found"
  let some status := lookups.findStatusById poll.statusId | .error "poll not found"
  if !lookups.accounts.contains status.accountId then .error "poll not found"
  else if !lookups.canViewLocalStatus status vote.viewer then .error "poll not found"
  else if expired rfc3339 lookups.now poll then .error "poll has already expired"
  else applyPollVote tables poll vote

/-! ## A vote from elsewhere -/

/-- A vote that is delivered to the inbox of an account. -/
structure IncomingVote where
  object : Json
  actorUri : String
  recipient : String
  activityUri : Option String
  voteId : String

/-- What `handle_inbox_poll_vote` looks up: the poll of the status that is replied to, if
the status is of the recipient and open to the actor, with the title of the choice. -/
def votedPoll (lookups : PollLookups) (tables : PollTables) (vote : IncomingVote) :
    Option (StatusPoll × String) := do
  let inReplyTo ← (vote.object.get "inReplyTo").bind Json.asStr
  let choiceName ← (vote.object.get "name").bind Json.asStr
  let status ← lookups.findLocalStatusByObjectUri inReplyTo
  if status.accountId != vote.recipient then none
  else if !lookups.remoteActorMayInteract status vote.actorUri then none
  else do
    let poll ← findStatusPollByStatusId tables status.id
    return (poll, choiceName)

def applyIncomingPollVote (tables : PollTables) (poll : StatusPoll) (choice : Nat)
    (vote : IncomingVote) : List PollStatement :=
  let existing := listPollVotePositionsForAccount tables.votes poll.id vote.actorUri
  if poll.options.length ≤ choice then []
  else if !poll.multiple && !existing.isEmpty then []
  else if existing.contains choice then []
  else [.insertOrIgnoreVote ⟨vote.voteId, poll.id, vote.actorUri, choice, vote.activityUri⟩]

/-- Whether the object is a vote, and the statements. -/
def handleInboxPollVote (lookups : PollLookups) (tables : PollTables) (vote : IncomingVote) :
    Bool × List PollStatement :=
  match votedPoll lookups tables vote with
  | none => (false, [])
  | some (poll, choiceName) =>
    if expired rfc3339 lookups.now poll then (true, [])
    else match choicePosition poll (trim choiceName) with
      | none => (true, [])
      | some choice => (true, applyIncomingPollVote tables poll choice vote)

/-! ## Taking a vote back -/

/-- An `Undo` that is delivered to the inbox of an account. -/
structure VoteUndo where
  activity : Json
  actorUri : String
  recipient : String

/-- `find_status_poll_vote_for_remote_actor_by_activity_uri`: the vote, with the status of
its poll. -/
def findPollVoteByActivityUri (lookups : PollLookups) (tables : PollTables)
    (actorUri activityUri : String) : Option (PollVote × PolledStatus) :=
  (tables.votes.rows.filter fun vote =>
      vote.accountId == actorUri && vote.activityUri == some activityUri).findSome? fun vote => do
    let poll ← tables.polls.find vote.pollId
    let status ← lookups.findStatusById poll.statusId
    return (vote, status)

/-- The poll and the status that `handle_inbox_poll_vote_undo` looks up. -/
def undonePoll (lookups : PollLookups) (tables : PollTables) (undo : VoteUndo)
    (activityUri inReplyTo : Option String) : Option (StatusPoll × PolledStatus) :=
  match activityUri.bind (findPollVoteByActivityUri lookups tables undo.actorUri) with
  | some (_, status) => do
    let poll ← findStatusPollByStatusId tables status.id
    return (poll, status)
  | none => do
    let status ← lookups.findLocalStatusByObjectUri (← inReplyTo)
    let poll ← findStatusPollByStatusId tables status.id
    return (poll, status)

/-- `IncomingPollVoteDeletionTarget`. -/
structure DeletionTarget where
  pollId : String
  optionPosition : Nat
  filter : PollVote → Bool

/-- `resolve_incoming_poll_vote_deletion_target`. -/
def resolveDeletionTarget (lookups : PollLookups) (tables : PollTables) (poll : StatusPoll)
    (actorUri : String) (activityUri choiceName : Option String) : Option DeletionTarget :=
  match activityUri with
  | some activityUri =>
    (findPollVoteByActivityUri lookups tables actorUri activityUri).map fun (target, _) =>
      { pollId := target.pollId
        optionPosition := target.optionPosition
        filter vote := vote.pollId == target.pollId && vote.accountId == actorUri
          && vote.activityUri == some activityUri }
  | none => do
    let position ← choicePosition poll (← choiceName)
    let target ← tables.votes.rows.find? fun vote =>
      vote.pollId == poll.id && vote.accountId == actorUri && vote.optionPosition == position
    return {
      pollId := poll.id
      optionPosition := position
      filter vote := vote.id == target.id }

/-- What `handle_inbox_poll_vote_undo` deletes. -/
def undoTarget (lookups : PollLookups) (tables : PollTables) (undo : VoteUndo) :
    Option DeletionTarget := do
  let object ← undo.activity.get "object"
  let activityUri := activityObjectId (some object)
  let nested := match object.get "object" with
    | some (.object fields) => some (Json.object fields)
    | _ => none
  let choiceName := ((nested.bind (Json.get "name")).bind Json.asStr).bind nonBlank
  let inReplyTo := (nested.bind (Json.get "inReplyTo")).bind Json.asStr
  let (poll, status) ← undonePoll lookups tables undo activityUri inReplyTo
  if status.accountId != undo.recipient then none
  else resolveDeletionTarget lookups tables poll undo.actorUri activityUri choiceName

/-- `delete_incoming_poll_vote`, for a target. -/
def deleteIncomingPollVote (target : DeletionTarget) : List PollStatement :=
  [.deleteVotes target.filter, .decrementCount target.pollId target.optionPosition]

def handleInboxPollVoteUndo (lookups : PollLookups) (tables : PollTables) (undo : VoteUndo) :
    List PollStatement :=
  ((undoTarget lookups tables undo).map deleteIncomingPollVote).getD []

/-! ## Requests -/

inductive PollOperation where
  | vote (vote : LocalVote)
  | incoming (vote : IncomingVote)
  | undo (undo : VoteUndo)

/-- A request, with the number of statements it gets to execute at most. -/
structure PollRequest where
  lookups : PollLookups
  operation : PollOperation
  reached : Nat

def statementsOf (lookups : PollLookups) (tables : PollTables) :
    PollOperation → List PollStatement
  | .vote vote => ((voteInPoll rfc3339 lookups tables vote).toOption).getD []
  | .incoming vote => (handleInboxPollVote rfc3339 lookups tables vote).2
  | .undo undo => handleInboxPollVoteUndo lookups tables undo

def tablesAfter (tables : PollTables) (request : PollRequest) : PollTables :=
  executeAll (executeStatement request.lookups.accounts)
    ((statementsOf rfc3339 request.lookups tables request.operation).take request.reached) tables

def PollStep (before : PollTables) (request : PollRequest) (after : PollTables) : Prop :=
  after = tablesAfter rfc3339 before request

end Cfwdon.Polls
