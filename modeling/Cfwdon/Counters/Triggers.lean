import Cfwdon.Library.Counters
import Cfwdon.Remote.Store
import Mathlib.Data.String.Basic

/-!
# Counted tables and their triggers

The tables whose rows are counted, and the triggers that count them.
-/

namespace Cfwdon.Counters

section Rows

/-! ## The counted tables

The tables whose rows are counted, the tables that hold the counts, and the foreign
keys between them, with the columns that the counting triggers and the foreign keys
read.  Every foreign key is `ON DELETE CASCADE`; `in_reply_to_id` and `quote_of_uri`
are plain columns.

`Tables` also lists the statuses that are already removed while the `AFTER DELETE`
triggers for them are still to run, which is the case in the middle of a statement
only.  A `Database` is the tables between two statements: every foreign key holds
and no trigger is outstanding.
-/

open Library Remote Statuses

structure Account where
  id : String
  deriving DecidableEq

structure RemoteActor where
  actorUri : String
  deriving DecidableEq

structure Status where
  id : String
  accountId : String
  inReplyToId : Option String
  visibility : Visibility
  quoteOfUri : Option String
  quoteState : QuoteState
  createdAt : String
  deriving DecidableEq

structure RemoteStatus where
  id : String
  actorUri : String
  inReplyToId : Option String
  visibility : Visibility
  quoteOfUri : Option String
  quoteState : QuoteState
  deriving DecidableEq

/-- A row of `favourites` or of `reblogs`. -/
structure Reaction where
  accountId : String
  targetUri : String
  statusId : Option String
  remoteStatusId : Option String
  deriving DecidableEq

/-- `PRIMARY KEY (account_id, target_uri)`. -/
def Reaction.key (reaction : Reaction) : String × String :=
  (reaction.accountId, reaction.targetUri)

/-- `(status_id IS NULL) = (remote_status_id IS NULL)` aborts the statement. -/
def Reaction.exactlyOneTarget (reaction : Reaction) : Bool :=
  reaction.statusId.isNone != reaction.remoteStatusId.isNone

/-- A row of `remote_favourites` or of `remote_reblogs`. -/
structure RemoteReaction where
  remoteActorUri : String
  targetUri : String
  statusId : String
  deriving DecidableEq

/-- `PRIMARY KEY (remote_actor_uri, target_uri)`. -/
def RemoteReaction.key (reaction : RemoteReaction) : String × String :=
  (reaction.remoteActorUri, reaction.targetUri)

structure Follower where
  id : String
  accountId : String
  deriving DecidableEq

/-- A row of `follows`.  The state is a text that no constraint restricts. -/
structure Follow where
  id : String
  followerAccountId : String
  targetAccountId : Option String
  state : String
  deriving DecidableEq

structure StatusCounts where
  statusId : String
  favouritesCount : Nat := 0
  reblogsCount : Nat := 0
  repliesCount : Nat := 0
  deriving DecidableEq

structure AccountStats where
  accountId : String
  followersCount : Nat := 0
  followingCount : Nat := 0
  statusesCount : Nat := 0
  lastStatusAt : Option String := none
  deriving DecidableEq

structure QuoteTargetCounts where
  targetUri : String
  quotesCount : Nat := 0

/-! ## Tables -/

abbrev Statuses := Table Status Status.id

abbrev RemoteStatuses := Table RemoteStatus RemoteStatus.id

abbrev StatusCountsTable := Table StatusCounts StatusCounts.statusId

abbrev AccountStatsTable := Table AccountStats AccountStats.accountId

abbrev QuoteTargetCountsTable := Table QuoteTargetCounts QuoteTargetCounts.targetUri

/-- The tables, and the removed statuses whose `AFTER DELETE` triggers are still to run. -/
structure Tables where
  accounts : Table Account Account.id
  remoteActors : Table RemoteActor RemoteActor.actorUri
  statuses : Statuses
  remoteStatuses : RemoteStatuses
  favourites : Table Reaction Reaction.key
  reblogs : Table Reaction Reaction.key
  remoteFavourites : Table RemoteReaction RemoteReaction.key
  remoteReblogs : Table RemoteReaction RemoteReaction.key
  followers : Table Follower Follower.id
  follows : Table Follow Follow.id
  statusCounts : StatusCountsTable
  remoteStatusCounts : StatusCountsTable
  accountStats : AccountStatsTable
  quoteTargetCounts : QuoteTargetCountsTable
  removedStatuses : List Status
  removedRemoteStatuses : List RemoteStatus

namespace Tables

def empty : Tables where
  accounts := Table.empty
  remoteActors := Table.empty
  statuses := Table.empty
  remoteStatuses := Table.empty
  favourites := Table.empty
  reblogs := Table.empty
  remoteFavourites := Table.empty
  remoteReblogs := Table.empty
  followers := Table.empty
  follows := Table.empty
  statusCounts := Table.empty
  remoteStatusCounts := Table.empty
  accountStats := Table.empty
  quoteTargetCounts := Table.empty
  removedStatuses := []
  removedRemoteStatuses := []

/-! ## Foreign keys -/

def hasAccount (tables : Tables) (id : String) : Bool := (tables.accounts.find id).isSome

def hasRemoteActor (tables : Tables) (actorUri : String) : Bool :=
  (tables.remoteActors.find actorUri).isSome

def hasStatus (tables : Tables) (id : String) : Bool := (tables.statuses.find id).isSome

def hasRemoteStatus (tables : Tables) (id : String) : Bool :=
  (tables.remoteStatuses.find id).isSome

/-- The foreign keys of `favourites` and of `reblogs`. -/
def groundsReaction (tables : Tables) (row : Reaction) : Bool :=
  tables.hasAccount row.accountId && row.statusId.all tables.hasStatus
    && row.remoteStatusId.all tables.hasRemoteStatus

/-- The foreign keys of `remote_favourites` and of `remote_reblogs`. -/
def groundsRemoteReaction (tables : Tables) (row : RemoteReaction) : Bool :=
  tables.hasRemoteActor row.remoteActorUri && tables.hasStatus row.statusId

/-- The foreign keys of `follows`. -/
def groundsFollow (tables : Tables) (row : Follow) : Bool :=
  tables.hasAccount row.followerAccountId && row.targetAccountId.all tables.hasAccount

/-- Every foreign key holds. -/
@[mk_iff]
structure Closed (tables : Tables) : Prop where
  statuses : ∀ row ∈ tables.statuses.rows, tables.hasAccount row.accountId
  remoteStatuses : ∀ row ∈ tables.remoteStatuses.rows, tables.hasRemoteActor row.actorUri
  favourites : ∀ row ∈ tables.favourites.rows, tables.groundsReaction row
  reblogs : ∀ row ∈ tables.reblogs.rows, tables.groundsReaction row
  remoteFavourites : ∀ row ∈ tables.remoteFavourites.rows, tables.groundsRemoteReaction row
  remoteReblogs : ∀ row ∈ tables.remoteReblogs.rows, tables.groundsRemoteReaction row
  followers : ∀ row ∈ tables.followers.rows, tables.hasAccount row.accountId
  follows : ∀ row ∈ tables.follows.rows, tables.groundsFollow row
  statusCounts : ∀ row ∈ tables.statusCounts.rows, tables.hasStatus row.statusId
  remoteStatusCounts : ∀ row ∈ tables.remoteStatusCounts.rows, tables.hasRemoteStatus row.statusId
  accountStats : ∀ row ∈ tables.accountStats.rows, tables.hasAccount row.accountId

instance (tables : Tables) : Decidable tables.Closed :=
  decidable_of_iff _ tables.closed_iff.symm

/-- No statement is under way. -/
@[mk_iff]
structure Settled (tables : Tables) : Prop where
  closed : tables.Closed
  statuses : tables.removedStatuses = []
  remoteStatuses : tables.removedRemoteStatuses = []

instance (tables : Tables) : Decidable tables.Settled :=
  decidable_of_iff _ tables.settled_iff.symm

end Tables

/-- The tables between two statements. -/
structure Database extends Tables where
  settled : toTables.Settled

end Rows

section Triggers

/-! ## The counting triggers

Each family of `AFTER INSERT`, `AFTER UPDATE` and `AFTER DELETE` triggers on one table
for one column of a counts table, under the common part of the names of the triggers.
Most count the rows by one nullable reference.  Two differ:

* the replies triggers watch `in_reply_to_id` and `visibility`, and raise the counter
  of a parent only in the counts table of the kind of status that the parent is;
* the statuses triggers on `account_stats` keep the last date beside the number, as a
  running maximum when a status comes and from the remaining statuses when one goes.
-/

open Library Remote Statuses

namespace StatusCounts

def favourites : CounterColumn StatusCounts StatusCounts.statusId where
  read := favouritesCount
  adjust f row := { row with favouritesCount := f row.favouritesCount }
  blank id := { statusId := id }
  read_adjust _ _ := rfl
  key_adjust _ _ := rfl
  read_blank _ := rfl
  key_blank _ := rfl

def reblogs : CounterColumn StatusCounts StatusCounts.statusId where
  read := reblogsCount
  adjust f row := { row with reblogsCount := f row.reblogsCount }
  blank id := { statusId := id }
  read_adjust _ _ := rfl
  key_adjust _ _ := rfl
  read_blank _ := rfl
  key_blank _ := rfl

def replies : CounterColumn StatusCounts StatusCounts.statusId where
  read := repliesCount
  adjust f row := { row with repliesCount := f row.repliesCount }
  blank id := { statusId := id }
  read_adjust _ _ := rfl
  key_adjust _ _ := rfl
  read_blank _ := rfl
  key_blank _ := rfl

theorem favourites_leaves_reblogs : favourites.Leaves reblogs.read 0 :=
  ⟨fun _ _ => rfl, fun _ => rfl⟩

theorem favourites_leaves_replies : favourites.Leaves replies.read 0 :=
  ⟨fun _ _ => rfl, fun _ => rfl⟩

theorem reblogs_leaves_favourites : reblogs.Leaves favourites.read 0 :=
  ⟨fun _ _ => rfl, fun _ => rfl⟩

theorem reblogs_leaves_replies : reblogs.Leaves replies.read 0 :=
  ⟨fun _ _ => rfl, fun _ => rfl⟩

theorem replies_leaves_favourites : replies.Leaves favourites.read 0 :=
  ⟨fun _ _ => rfl, fun _ => rfl⟩

theorem replies_leaves_reblogs : replies.Leaves reblogs.read 0 :=
  ⟨fun _ _ => rfl, fun _ => rfl⟩

end StatusCounts

namespace AccountStats

def followers : CounterColumn AccountStats AccountStats.accountId where
  read := followersCount
  adjust f row := { row with followersCount := f row.followersCount }
  blank id := { accountId := id }
  read_adjust _ _ := rfl
  key_adjust _ _ := rfl
  read_blank _ := rfl
  key_blank _ := rfl

def following : CounterColumn AccountStats AccountStats.accountId where
  read := followingCount
  adjust f row := { row with followingCount := f row.followingCount }
  blank id := { accountId := id }
  read_adjust _ _ := rfl
  key_adjust _ _ := rfl
  read_blank _ := rfl
  key_blank _ := rfl

end AccountStats

def QuoteTargetCounts.quotes :
    CounterColumn QuoteTargetCounts QuoteTargetCounts.targetUri where
  read := quotesCount
  adjust f row := { row with quotesCount := f row.quotesCount }
  blank uri := { targetUri := uri }
  read_adjust _ _ := rfl
  key_adjust _ _ := rfl
  read_blank _ := rfl
  key_blank _ := rfl

/-! ## Favourites and reblogs -/

def favouritesStatusCounts : Change Reaction → StatusCountsTable → StatusCountsTable :=
  (StatusCounts.favourites.triggers Reaction.statusId).fire

def favouritesRemoteStatusCounts : Change Reaction → StatusCountsTable → StatusCountsTable :=
  (StatusCounts.favourites.triggers Reaction.remoteStatusId).fire

def remoteFavouritesStatusCounts :
    Change RemoteReaction → StatusCountsTable → StatusCountsTable :=
  (StatusCounts.favourites.triggers fun row : RemoteReaction => some row.statusId).fire

def reblogsStatusCounts : Change Reaction → StatusCountsTable → StatusCountsTable :=
  (StatusCounts.reblogs.triggers Reaction.statusId).fire

def reblogsRemoteStatusCounts : Change Reaction → StatusCountsTable → StatusCountsTable :=
  (StatusCounts.reblogs.triggers Reaction.remoteStatusId).fire

def remoteReblogsStatusCounts :
    Change RemoteReaction → StatusCountsTable → StatusCountsTable :=
  (StatusCounts.reblogs.triggers fun row : RemoteReaction => some row.statusId).fire

/-! ## Followers and follows -/

def followersAccountStats : Change Follower → AccountStatsTable → AccountStatsTable :=
  (AccountStats.followers.triggers fun row : Follower => some row.accountId).fire

def Follow.acceptedFollower (row : Follow) : Option String :=
  if row.state = "accepted" then some row.followerAccountId else none

def Follow.acceptedTarget (row : Follow) : Option String :=
  if row.state = "accepted" then row.targetAccountId else none

/-- `trg_follows_account_stats_*_following*`. -/
def followsFollowing : Change Follow → AccountStatsTable → AccountStatsTable :=
  (AccountStats.following.triggers Follow.acceptedFollower).fire

/-- `trg_follows_account_stats_*_follower*`. -/
def followsFollower : Change Follow → AccountStatsTable → AccountStatsTable :=
  (AccountStats.followers.triggers Follow.acceptedTarget).fire

/-! ## Statuses of an account -/

/-- `substr(created_at, 1, 10)`. -/
def Status.date (status : Status) : String := String.ofList (status.createdAt.toList.take 10)

def datesOf (account : String) (rows : List Status) : List String :=
  (rows.filter fun row => decide (row.accountId = account)).map Status.date

/-- `SELECT MAX(substr(created_at, 1, 10)) FROM statuses WHERE account_id = …`. -/
def greatestDate (account : String) (rows : List Status) : Option String :=
  (datesOf account rows).max?

/-- One more status, and the later of the stored date and its own. -/
def countStatus (new : Status) (account : String) (stats : AccountStatsTable) :
    AccountStatsTable :=
  stats.upsert { accountId := account, statusesCount := 1, lastStatusAt := some new.date }
    (fun row =>
      { row with
        statusesCount := row.statusesCount + 1
        lastStatusAt := some (max (row.lastStatusAt.getD "") new.date) })
    (fun _ => rfl)

/-- One status fewer, and the greatest date of those that are left. -/
def uncountStatus (statuses : Statuses) (account : String) (stats : AccountStatsTable) :
    AccountStatsTable :=
  Update.run
    ⟨fun row => decide (row.accountId = account),
      fun row =>
        { row with
          statusesCount := row.statusesCount - 1
          lastStatusAt := greatestDate account statuses.rows },
      fun _ => rfl⟩
    stats

def accountTriggers (statuses : Statuses) : CounterTriggers Status String AccountStatsTable where
  reference row := some row.accountId
  increment := countStatus
  decrement _ := uncountStatus statuses

/-- `trg_statuses_account_stats_*`, over the statuses as the change left them. -/
def statusesAccountStats (statuses : Statuses) :
    Change Status → AccountStatsTable → AccountStatsTable :=
  (accountTriggers statuses).fire

/-! ## Replies -/

/-- What the replies triggers see of a local or a remote status. -/
structure Reply where
  inReplyToId : Option String
  visibility : Visibility

def Status.reply (status : Status) : Reply := ⟨status.inReplyToId, status.visibility⟩

def RemoteStatus.reply (status : RemoteStatus) : Reply := ⟨status.inReplyToId, status.visibility⟩

/-- The parent of a reply with `visibility IN ('public', 'unlisted')`. -/
def Reply.countedParent (reply : Reply) : Option String :=
  if isPublicActivitypubVisibility reply.visibility then reply.inReplyToId else none

/-- The triggers of a reply on one of the two counts tables, given which ids are statuses
of its kind: a parent of the other kind has no row there. -/
def parentTriggers (isStatus : String → Bool) :
    CounterTriggers Reply String StatusCountsTable where
  reference := Reply.countedParent
  increment _ parent counts :=
    if isStatus parent then StatusCounts.replies.increment parent counts else counts
  decrement _ := StatusCounts.replies.decrement

/-- `trg_statuses_replies_count_*` and `trg_remote_statuses_replies_count_*` on one of the
two counts tables. -/
def repliesCount (isStatus : String → Bool) :
    Change Reply → StatusCountsTable → StatusCountsTable :=
  (parentTriggers isStatus).fireWhen fun old new =>
    decide (old.inReplyToId ≠ new.inReplyToId) || decide (old.visibility ≠ new.visibility)

/-! ## Quotes -/

/-- `quote_of_uri` where `quote_state = 'accepted'`. -/
def acceptedQuote (quoteOfUri : Option String) (quoteState : QuoteState) : Option String :=
  if quoteState = .accepted then quoteOfUri else none

def Status.acceptedQuote (status : Status) : Option String :=
  Counters.acceptedQuote status.quoteOfUri status.quoteState

def RemoteStatus.acceptedQuote (status : RemoteStatus) : Option String :=
  Counters.acceptedQuote status.quoteOfUri status.quoteState

def statusesQuoteCounts : Change Status → QuoteTargetCountsTable → QuoteTargetCountsTable :=
  (QuoteTargetCounts.quotes.triggers Status.acceptedQuote).fire

def remoteStatusesQuoteCounts :
    Change RemoteStatus → QuoteTargetCountsTable → QuoteTargetCountsTable :=
  (QuoteTargetCounts.quotes.triggers RemoteStatus.acceptedQuote).fire

end Triggers

end Cfwdon.Counters
