import Cfwdon.Counters.Triggers

/-!
# Statements on the counted tables

A statement changes one row of one table, and the triggers of the table run.  After a
deletion more follows, in whatever order the database takes it: rows whose foreign
key no longer holds are deleted in turn, and the `AFTER DELETE` triggers of the
removed statuses run.  The statement is over when nothing is left to follow.

A statement on many rows is a statement for each of them, one after the other; an
upsert is the insert or the update that it comes to.  `INSERT OR REPLACE`, which deletes
without triggers, is used on none of these tables.
-/

namespace Cfwdon.Counters

open Library

namespace Tables

/-- The counting triggers of `statuses`. -/
def fireStatuses (change : Change Status) (tables : Tables) : Tables :=
  { tables with
    accountStats := statusesAccountStats tables.statuses change tables.accountStats
    statusCounts :=
      repliesCount tables.hasStatus (change.map Status.reply) tables.statusCounts
    remoteStatusCounts :=
      repliesCount tables.hasRemoteStatus (change.map Status.reply) tables.remoteStatusCounts
    quoteTargetCounts := statusesQuoteCounts change tables.quoteTargetCounts }

/-- The counting triggers of `remote_statuses`. -/
def fireRemoteStatuses (change : Change RemoteStatus) (tables : Tables) : Tables :=
  { tables with
    statusCounts :=
      repliesCount tables.hasStatus (change.map RemoteStatus.reply) tables.statusCounts
    remoteStatusCounts :=
      repliesCount tables.hasRemoteStatus (change.map RemoteStatus.reply) tables.remoteStatusCounts
    quoteTargetCounts := remoteStatusesQuoteCounts change tables.quoteTargetCounts }

/-- Change a row of `statuses`.  The triggers for a deletion run later. -/
def changeStatuses (change : Change Status) (tables : Tables) : Tables :=
  let changed := { tables with statuses := change.run tables.statuses }
  match change with
  | .delete old => { changed with removedStatuses := old :: tables.removedStatuses }
  | _ => changed.fireStatuses change

/-- Change a row of `remote_statuses`.  The triggers for a deletion run later. -/
def changeRemoteStatuses (change : Change RemoteStatus) (tables : Tables) : Tables :=
  let changed := { tables with remoteStatuses := change.run tables.remoteStatuses }
  match change with
  | .delete old => { changed with removedRemoteStatuses := old :: tables.removedRemoteStatuses }
  | _ => changed.fireRemoteStatuses change

/-- `SET in_reply_to_id = NULL` on one status. -/
def unlinkReply (tables : Tables) (id : String) : Tables :=
  match tables.statuses.find id with
  | some status => tables.changeStatuses (.update status { status with inReplyToId := none })
  | none => tables

/-- `trg_statuses_null_local_reply_refs_after_delete`. -/
def unlinkReplies (parent : String) (tables : Tables) : Tables :=
  ((tables.statuses.rows.filter fun row => decide (row.inReplyToId = some parent)).map
    Status.id).foldl unlinkReply tables

/-- The `AFTER DELETE` triggers of a removed row of `statuses`. -/
def afterStatusDelete (old : Status) (tables : Tables) : Tables :=
  ({ tables with removedStatuses := tables.removedStatuses.erase old }.fireStatuses
    (.delete old)).unlinkReplies old.id

/-- The `AFTER DELETE` triggers of a removed row of `remote_statuses`. -/
def afterRemoteStatusDelete (old : RemoteStatus) (tables : Tables) : Tables :=
  { tables with
    removedRemoteStatuses := tables.removedRemoteStatuses.erase old }.fireRemoteStatuses
    (.delete old)

/-! ## Other tables -/

def changeFavourites (change : Change Reaction) (tables : Tables) : Tables :=
  { tables with
    favourites := change.run tables.favourites
    statusCounts := favouritesStatusCounts change tables.statusCounts
    remoteStatusCounts := favouritesRemoteStatusCounts change tables.remoteStatusCounts }

def changeReblogs (change : Change Reaction) (tables : Tables) : Tables :=
  { tables with
    reblogs := change.run tables.reblogs
    statusCounts := reblogsStatusCounts change tables.statusCounts
    remoteStatusCounts := reblogsRemoteStatusCounts change tables.remoteStatusCounts }

def changeRemoteFavourites (change : Change RemoteReaction) (tables : Tables) : Tables :=
  { tables with
    remoteFavourites := change.run tables.remoteFavourites
    statusCounts := remoteFavouritesStatusCounts change tables.statusCounts }

def changeRemoteReblogs (change : Change RemoteReaction) (tables : Tables) : Tables :=
  { tables with
    remoteReblogs := change.run tables.remoteReblogs
    statusCounts := remoteReblogsStatusCounts change tables.statusCounts }

def changeFollowers (change : Change Follower) (tables : Tables) : Tables :=
  { tables with
    followers := change.run tables.followers
    accountStats := followersAccountStats change tables.accountStats }

def changeFollows (change : Change Follow) (tables : Tables) : Tables :=
  { tables with
    follows := change.run tables.follows
    accountStats := followsFollower change (followsFollowing change tables.accountStats) }

/-! ## Counts rows -/

def dropStatusCounts (row : StatusCounts) (tables : Tables) : Tables :=
  { tables with statusCounts := (Change.delete row).run tables.statusCounts }

def dropRemoteStatusCounts (row : StatusCounts) (tables : Tables) : Tables :=
  { tables with remoteStatusCounts := (Change.delete row).run tables.remoteStatusCounts }

def dropAccountStats (row : AccountStats) (tables : Tables) : Tables :=
  { tables with accountStats := (Change.delete row).run tables.accountStats }

end Tables

/-! ## Writes -/

/-- A change of one row of one table. -/
inductive Write where
  | accounts (change : Change Account)
  | remoteActors (change : Change RemoteActor)
  | statuses (change : Change Status)
  | remoteStatuses (change : Change RemoteStatus)
  | favourites (change : Change Reaction)
  | reblogs (change : Change Reaction)
  | remoteFavourites (change : Change RemoteReaction)
  | remoteReblogs (change : Change RemoteReaction)
  | followers (change : Change Follower)
  | follows (change : Change Follow)

namespace Write

/-- The row is changed and the triggers run. -/
def run (tables : Tables) : Write → Tables
  | accounts change => { tables with accounts := change.run tables.accounts }
  | remoteActors change => { tables with remoteActors := change.run tables.remoteActors }
  | statuses change => tables.changeStatuses change
  | remoteStatuses change => tables.changeRemoteStatuses change
  | favourites change => tables.changeFavourites change
  | reblogs change => tables.changeReblogs change
  | remoteFavourites change => tables.changeRemoteFavourites change
  | remoteReblogs change => tables.changeRemoteReblogs change
  | followers change => tables.changeFollowers change
  | follows change => tables.changeFollows change

/-- The statement is not refused: the row is there, the key is free, and a favourite or
a reblog has exactly one target. -/
def Applies (tables : Tables) : Write → Prop
  | accounts change => change.Applies tables.accounts
  | remoteActors change => change.Applies tables.remoteActors
  | statuses change => change.Applies tables.statuses
  | remoteStatuses change => change.Applies tables.remoteStatuses
  | favourites change =>
    change.Applies tables.favourites ∧ change.new?.all Reaction.exactlyOneTarget
  | reblogs change =>
    change.Applies tables.reblogs ∧ change.new?.all Reaction.exactlyOneTarget
  | remoteFavourites change => change.Applies tables.remoteFavourites
  | remoteReblogs change => change.Applies tables.remoteReblogs
  | followers change => change.Applies tables.followers
  | follows change => change.Applies tables.follows

def deletes : Write → Bool
  | accounts change => change.new?.isNone
  | remoteActors change => change.new?.isNone
  | statuses change => change.new?.isNone
  | remoteStatuses change => change.new?.isNone
  | favourites change => change.new?.isNone
  | reblogs change => change.new?.isNone
  | remoteFavourites change => change.new?.isNone
  | remoteReblogs change => change.new?.isNone
  | followers change => change.new?.isNone
  | follows change => change.new?.isNone

instance (tables : Tables) : (write : Write) → Decidable (write.Applies tables)
  | accounts change => inferInstanceAs (Decidable (change.Applies tables.accounts))
  | remoteActors change => inferInstanceAs (Decidable (change.Applies tables.remoteActors))
  | statuses change => inferInstanceAs (Decidable (change.Applies tables.statuses))
  | remoteStatuses change => inferInstanceAs (Decidable (change.Applies tables.remoteStatuses))
  | favourites change =>
    inferInstanceAs (Decidable (change.Applies tables.favourites
      ∧ change.new?.all Reaction.exactlyOneTarget))
  | reblogs change =>
    inferInstanceAs (Decidable (change.Applies tables.reblogs
      ∧ change.new?.all Reaction.exactlyOneTarget))
  | remoteFavourites change =>
    inferInstanceAs (Decidable (change.Applies tables.remoteFavourites))
  | remoteReblogs change => inferInstanceAs (Decidable (change.Applies tables.remoteReblogs))
  | followers change => inferInstanceAs (Decidable (change.Applies tables.followers))
  | follows change => inferInstanceAs (Decidable (change.Applies tables.follows))

/-- `ON DELETE CASCADE`: the write deletes a row that refers to a row which is not there. -/
def cascades (tables : Tables) : Write → Bool
  | statuses (.delete row) => !tables.hasAccount row.accountId
  | remoteStatuses (.delete row) => !tables.hasRemoteActor row.actorUri
  | favourites (.delete row) => !tables.groundsReaction row
  | reblogs (.delete row) => !tables.groundsReaction row
  | remoteFavourites (.delete row) => !tables.groundsRemoteReaction row
  | remoteReblogs (.delete row) => !tables.groundsRemoteReaction row
  | followers (.delete row) => !tables.hasAccount row.accountId
  | follows (.delete row) => !tables.groundsFollow row
  | _ => false

end Write

/-! ## Statements -/

/-- One thing that follows a deletion: a row whose foreign key no longer holds is
deleted, or the `AFTER DELETE` triggers of a removed status run. -/
inductive FollowUp (tables : Tables) : Tables → Prop where
  | cascade {write : Write} (applies : write.Applies tables) (cascades : write.cascades tables) :
      FollowUp tables (write.run tables)
  | statusCounts {row : StatusCounts} (stored : row ∈ tables.statusCounts.rows)
      (orphan : tables.hasStatus row.statusId = false) :
      FollowUp tables (tables.dropStatusCounts row)
  | remoteStatusCounts {row : StatusCounts} (stored : row ∈ tables.remoteStatusCounts.rows)
      (orphan : tables.hasRemoteStatus row.statusId = false) :
      FollowUp tables (tables.dropRemoteStatusCounts row)
  | accountStats {row : AccountStats} (stored : row ∈ tables.accountStats.rows)
      (orphan : tables.hasAccount row.accountId = false) :
      FollowUp tables (tables.dropAccountStats row)
  | statusTriggers {row : Status} (removed : row ∈ tables.removedStatuses) :
      FollowUp tables (tables.afterStatusDelete row)
  | remoteStatusTriggers {row : RemoteStatus} (removed : row ∈ tables.removedRemoteStatuses) :
      FollowUp tables (tables.afterRemoteStatusDelete row)

/-- One statement: an insert or an update leaves every foreign key intact, and a
deletion is followed up until nothing is left. -/
inductive Statement (before : Database) : Write → Database → Prop where
  | change {write : Write} {after : Database} (applies : write.Applies before.toTables)
      (keeps : write.deletes = false) (result : after.toTables = write.run before.toTables) :
      Statement before write after
  | delete {write : Write} {after : Database} (applies : write.Applies before.toTables)
      (deletes : write.deletes = true)
      (followed : Relation.ReflTransGen FollowUp (write.run before.toTables) after.toTables) :
      Statement before write after

variable (Inv : Tables → Prop) (parent : String)

/-- **The invariant rule of a statement**: what the write keeps and each thing that
follows keeps. -/
theorem Statement.invariant {pre post : Database} {write : Write}
    (stmt : Statement pre write post)
    (wrote : write.Applies pre.toTables → Inv (write.run pre.toTables))
    (followed : ∀ {tables tables'}, Inv tables → FollowUp tables tables' → Inv tables') :
    Inv post.toTables := by
  cases stmt with
  | change fit _ result =>
    rw [result]
    exact wrote fit
  | delete fit _ follows =>
    have holds := wrote fit
    generalize post.toTables = last at follows ⊢
    induction follows with
    | refl => exact holds
    | tail _ followUp ih => exact followed ih followUp

/-! ## What is there -/

namespace Tables

variable {tables : Tables} {id : String}

theorem hasStatus_of_changeStatuses {change : Change Status}
    (fit : change.Applies tables.statuses)
    (here : (tables.changeStatuses change).hasStatus id) :
    tables.hasStatus id ∨ ∃ new, change.new? = some new ∧ new.id = id := by
  have got : ((change.run tables.statuses).find id).isSome := by
    cases change <;> exact here
  exact Change.find_isSome_of_changed fit got

theorem hasRemoteStatus_of_changeRemoteStatuses {change : Change RemoteStatus}
    (fit : change.Applies tables.remoteStatuses)
    (here : (tables.changeRemoteStatuses change).hasRemoteStatus id) :
    tables.hasRemoteStatus id ∨ ∃ new, change.new? = some new ∧ new.id = id := by
  have got : ((change.run tables.remoteStatuses).find id).isSome := by
    cases change <;> exact here
  exact Change.find_isSome_of_changed fit got

theorem applies_unlink {status : Status} (got : tables.statuses.find id = some status) :
    (Change.update status { status with inReplyToId := none }).Applies tables.statuses := by
  have isKey : status.id = id := Table.key_of_find got
  exact ⟨by rw [isKey]; exact got, Or.inl rfl⟩

/-- **The rule of unlinking**: what the unlinking of one status keeps, the unlinking of
all replies keeps. -/
theorem unlinkReplies_invariant
    (unlinked : ∀ {tables : Tables} {id : String} {status : Status},
      tables.statuses.find id = some status → Inv tables →
      Inv (tables.changeStatuses (.update status { status with inReplyToId := none })))
    (parent : String) (holds : Inv tables) : Inv (tables.unlinkReplies parent) := by
  unfold unlinkReplies
  generalize (tables.statuses.rows.filter fun row =>
    decide (row.inReplyToId = some parent)).map Status.id = children
  induction children generalizing tables with
  | nil => exact holds
  | cons child rest ih =>
    refine @ih (tables.unlinkReply child) ?_
    unfold unlinkReply
    split
    · next status found => exact unlinked found holds
    · exact holds

theorem hasStatus_of_unlinkReplies {parent : String}
    (here : (tables.unlinkReplies parent).hasStatus id) : tables.hasStatus id := by
  have kept : (tables.unlinkReplies parent).hasStatus id → tables.hasStatus id := by
    apply unlinkReplies_invariant fun later => later.hasStatus id → tables.hasStatus id
    · intro later child status got holds here
      apply holds
      rcases hasStatus_of_changeStatuses (applies_unlink got) here with
        pre | ⟨new, isNew, rfl⟩
      · exact pre
      · obtain rfl := Option.some.inj isNew
        exact Option.isSome_iff_exists.mpr ⟨status, Table.find_of_mem (Table.mem_of_find got)⟩
    · exact fun here => here
  exact kept here

theorem hasRemoteStatus_unlinkReplies :
    (tables.unlinkReplies parent).hasRemoteStatus = tables.hasRemoteStatus := by
  apply unlinkReplies_invariant fun later => later.hasRemoteStatus = tables.hasRemoteStatus
  · intro later child status got eq
    exact eq
  · rfl

theorem hasAccount_unlinkReplies :
    (tables.unlinkReplies parent).hasAccount = tables.hasAccount := by
  apply unlinkReplies_invariant fun later => later.hasAccount = tables.hasAccount
  · intro later child status got eq
    exact eq
  · rfl

end Tables

namespace FollowUp

variable {tables tables' : Tables} {id : String}

theorem hasAccount (followUp : FollowUp tables tables') :
    tables'.hasAccount = tables.hasAccount := by
  cases followUp with
  | @cascade write fit cascades =>
    cases write with
    | accounts change => exact absurd cascades Bool.false_ne_true
    | statuses change | remoteStatuses change => cases change <;> rfl
    | _ => rfl
  | statusTriggers removed => exact Tables.hasAccount_unlinkReplies _
  | _ => rfl

theorem hasStatus (followUp : FollowUp tables tables') (here : tables'.hasStatus id) :
    tables.hasStatus id := by
  cases followUp with
  | @cascade write fit cascades =>
    cases write with
    | statuses change =>
      rcases Tables.hasStatus_of_changeStatuses fit here with pre | ⟨new, isNew, _⟩
      · exact pre
      · cases change with
        | delete old => cases isNew
        | insert new | update old new => exact absurd cascades Bool.false_ne_true
    | remoteStatuses change => cases change <;> exact here
    | _ => exact here
  | statusTriggers removed =>
    have pre := Tables.hasStatus_of_unlinkReplies here
    exact pre
  | _ => exact here

theorem hasRemoteStatus (followUp : FollowUp tables tables')
    (here : tables'.hasRemoteStatus id) : tables.hasRemoteStatus id := by
  cases followUp with
  | @cascade write fit cascades =>
    cases write with
    | remoteStatuses change =>
      rcases Tables.hasRemoteStatus_of_changeRemoteStatuses fit here with
        pre | ⟨new, isNew, _⟩
      · exact pre
      · cases change with
        | delete old => cases isNew
        | insert new | update old new => exact absurd cascades Bool.false_ne_true
    | statuses change => cases change <;> exact here
    | _ => exact here
  | statusTriggers removed =>
    rw [Tables.afterStatusDelete, Tables.hasRemoteStatus_unlinkReplies] at here
    exact here
  | _ => exact here

end FollowUp

end Cfwdon.Counters
