import Cfwdon.Counters.Migrations
import Cfwdon.Library.Run

/-!
# Favourites and reblogs are counted right

For every status, local or remote, the counters of its counts row are the numbers of
favourites and reblogs that refer to it.
-/

namespace Cfwdon.Counters

open Library

/-- The counts of a local status. -/
structure InteractionsAgree (tables : Tables) (id : String) : Prop where
  favourites : StatusCounts.favourites.value id tables.statusCounts = tables.favouritesOf id
  reblogs : StatusCounts.reblogs.value id tables.statusCounts = tables.reblogsOf id

/-- The counts of a remote status. -/
structure RemoteInteractionsAgree (tables : Tables) (id : String) : Prop where
  favourites :
    StatusCounts.favourites.value id tables.remoteStatusCounts = tables.favouritesOfRemote id
  reblogs :
    StatusCounts.reblogs.value id tables.remoteStatusCounts = tables.reblogsOfRemote id

/-! ## What the triggers of statuses leave alone -/

theorem valueOf_repliesCount {Value : Type*} {other : StatusCounts → Value} {default : Value}
    (leaves : StatusCounts.replies.Leaves other default) (isStatus : String → Bool)
    (change : Change Reply) (counts : StatusCountsTable) (k : String) :
    (repliesCount isStatus change counts).valueOf other default k
      = counts.valueOf other default k := by
  refine CounterTriggers.value_fireWhen
    (fun counts : StatusCountsTable => counts.valueOf other default k) ?_ ?_ change counts
  · intro row parent counts
    dsimp only [parentTriggers]
    split_ifs
    · exact leaves.valueOf_increment parent k counts
    · rfl
  · intro row parent counts
    exact leaves.valueOf_decrement parent k counts

/-- The reactions, and every count but that of the replies, are the same. -/
structure SameInteractions (tables tables' : Tables) : Prop where
  favourites : tables'.favourites = tables.favourites
  reblogs : tables'.reblogs = tables.reblogs
  remoteFavourites : tables'.remoteFavourites = tables.remoteFavourites
  remoteReblogs : tables'.remoteReblogs = tables.remoteReblogs
  statusCounts : ∀ other : StatusCounts → Nat, StatusCounts.replies.Leaves other 0 → ∀ k,
    tables'.statusCounts.valueOf other 0 k = tables.statusCounts.valueOf other 0 k
  remoteStatusCounts : ∀ other : StatusCounts → Nat, StatusCounts.replies.Leaves other 0 → ∀ k,
    tables'.remoteStatusCounts.valueOf other 0 k = tables.remoteStatusCounts.valueOf other 0 k

namespace SameInteractions

variable {first second third : Tables}

theorem trans (eq : SameInteractions first second) (eq' : SameInteractions second third) :
    SameInteractions first third where
  favourites := eq'.favourites.trans eq.favourites
  reblogs := eq'.reblogs.trans eq.reblogs
  remoteFavourites := eq'.remoteFavourites.trans eq.remoteFavourites
  remoteReblogs := eq'.remoteReblogs.trans eq.remoteReblogs
  statusCounts other leaves k :=
    (eq'.statusCounts other leaves k).trans (eq.statusCounts other leaves k)
  remoteStatusCounts other leaves k :=
    (eq'.remoteStatusCounts other leaves k).trans (eq.remoteStatusCounts other leaves k)

theorem fireStatuses (change : Change Status) (tables : Tables) :
    SameInteractions tables (tables.fireStatuses change) :=
  ⟨rfl, rfl, rfl, rfl, fun _ leaves k => valueOf_repliesCount leaves _ _ _ k,
    fun _ leaves k => valueOf_repliesCount leaves _ _ _ k⟩

theorem fireRemoteStatuses (change : Change RemoteStatus) (tables : Tables) :
    SameInteractions tables (tables.fireRemoteStatuses change) :=
  ⟨rfl, rfl, rfl, rfl, fun _ leaves k => valueOf_repliesCount leaves _ _ _ k,
    fun _ leaves k => valueOf_repliesCount leaves _ _ _ k⟩

theorem changeStatuses (change : Change Status) (tables : Tables) :
    SameInteractions tables (tables.changeStatuses change) := by
  have rows : SameInteractions tables { tables with statuses := change.run tables.statuses } :=
    ⟨rfl, rfl, rfl, rfl, fun _ _ _ => rfl, fun _ _ _ => rfl⟩
  cases change with
  | delete old => exact rows.trans ⟨rfl, rfl, rfl, rfl, fun _ _ _ => rfl, fun _ _ _ => rfl⟩
  | insert new | update old new => exact rows.trans (fireStatuses _ _)

theorem changeRemoteStatuses (change : Change RemoteStatus) (tables : Tables) :
    SameInteractions tables (tables.changeRemoteStatuses change) := by
  have rows : SameInteractions tables
      { tables with remoteStatuses := change.run tables.remoteStatuses } :=
    ⟨rfl, rfl, rfl, rfl, fun _ _ _ => rfl, fun _ _ _ => rfl⟩
  cases change with
  | delete old => exact rows.trans ⟨rfl, rfl, rfl, rfl, fun _ _ _ => rfl, fun _ _ _ => rfl⟩
  | insert new | update old new => exact rows.trans (fireRemoteStatuses _ _)

theorem afterStatusDelete (old : Status) (tables : Tables) :
    SameInteractions tables (tables.afterStatusDelete old) := by
  apply Tables.unlinkReplies_invariant (SameInteractions tables)
  · intro later _ child _ eq
    exact eq.trans (changeStatuses _ later)
  · have listed : SameInteractions tables
        { tables with removedStatuses := tables.removedStatuses.erase old } :=
      ⟨rfl, rfl, rfl, rfl, fun _ _ _ => rfl, fun _ _ _ => rfl⟩
    exact listed.trans (fireStatuses _ _)

theorem afterRemoteStatusDelete (old : RemoteStatus) (tables : Tables) :
    SameInteractions tables (tables.afterRemoteStatusDelete old) := by
  have listed : SameInteractions tables
      { tables with removedRemoteStatuses := tables.removedRemoteStatuses.erase old } :=
    ⟨rfl, rfl, rfl, rfl, fun _ _ _ => rfl, fun _ _ _ => rfl⟩
  exact listed.trans (fireRemoteStatuses _ _)

end SameInteractions

/-! ## Writes -/

namespace InteractionsAgree

variable {tables tables' : Tables} {id : String} {write : Write}

theorem of_same (agree : InteractionsAgree tables id) (eq : SameInteractions tables tables') :
    InteractionsAgree tables' id where
  favourites := by
    rw [Tables.favouritesOf, eq.favourites, eq.remoteFavourites]
    exact (eq.statusCounts _ StatusCounts.replies_leaves_favourites id).trans agree.favourites
  reblogs := by
    rw [Tables.reblogsOf, eq.reblogs, eq.remoteReblogs]
    exact (eq.statusCounts _ StatusCounts.replies_leaves_reblogs id).trans agree.reblogs

theorem run (agree : InteractionsAgree tables id) (fit : write.Applies tables) :
    InteractionsAgree (write.run tables) id := by
  cases write with
  | statuses change => exact agree.of_same (SameInteractions.changeStatuses change tables)
  | remoteStatuses change =>
    exact agree.of_same (SameInteractions.changeRemoteStatuses change tables)
  | favourites change =>
    refine ⟨?_, ?_⟩
    · exact (CounterColumn.triggers_keepsCount _ _ id).agrees fit.1 agree.favourites
    · exact (StatusCounts.favourites_leaves_reblogs.valueOf_fire _ id change _).trans
        agree.reblogs
  | reblogs change =>
    refine ⟨?_, ?_⟩
    · exact (StatusCounts.reblogs_leaves_favourites.valueOf_fire _ id change _).trans
        agree.favourites
    · exact (CounterColumn.triggers_keepsCount _ _ id).agrees fit.1 agree.reblogs
  | remoteFavourites change =>
    refine ⟨?_, ?_⟩
    · have swapped := agree.favourites.trans (Nat.add_comm _ _)
      have count := (CounterColumn.triggers_keepsCount _ _ id).agrees fit swapped
      exact count.trans (Nat.add_comm _ _)
    · exact (StatusCounts.favourites_leaves_reblogs.valueOf_fire _ id change _).trans
        agree.reblogs
  | remoteReblogs change =>
    refine ⟨?_, ?_⟩
    · exact (StatusCounts.reblogs_leaves_favourites.valueOf_fire _ id change _).trans
        agree.favourites
    · have swapped := agree.reblogs.trans (Nat.add_comm _ _)
      have count := (CounterColumn.triggers_keepsCount _ _ id).agrees fit swapped
      exact count.trans (Nat.add_comm _ _)
  | _ => exact ⟨agree.favourites, agree.reblogs⟩

/-- **An id without a status** is referred to by nothing and counted nowhere. -/
theorem of_closed (closed : tables.Closed) (gone : tables.hasStatus id = false) :
    InteractionsAgree tables id := by
  have noCounts : tables.statusCounts.find id = none := by
    rw [Table.find_eq_none]
    rintro row mem rfl
    simpa [gone] using closed.statusCounts row mem
  have noReaction : ∀ {row : Reaction}, tables.groundsReaction row → row.statusId ≠ some id := by
    intro row grounded refers
    simp [Tables.groundsReaction, refers, gone] at grounded
  have noRemoteReaction : ∀ {row : RemoteReaction}, tables.groundsRemoteReaction row →
      some row.statusId ≠ some id := by
    intro row grounded refers
    simp [Tables.groundsRemoteReaction, Option.some.inj refers, gone] at grounded
  refine ⟨(Table.valueOf_of_find_none noCounts).trans ?_,
    (Table.valueOf_of_find_none noCounts).trans ?_⟩
  · rw [Tables.favouritesOf,
      referring_eq_zero fun row mem => noReaction (closed.favourites row mem),
      referring_eq_zero fun row mem => noRemoteReaction (closed.remoteFavourites row mem)]
  · rw [Tables.reblogsOf,
      referring_eq_zero fun row mem => noReaction (closed.reblogs row mem),
      referring_eq_zero fun row mem => noRemoteReaction (closed.remoteReblogs row mem)]

/-- **What follows a deletion** keeps the counts of a status that is there. -/
theorem followUp (agree : InteractionsAgree tables id) (here : tables.hasStatus id)
    (followUp : FollowUp tables tables') : InteractionsAgree tables' id := by
  cases followUp with
  | cascade fit _ => exact agree.run fit
  | statusTriggers _ => exact agree.of_same (SameInteractions.afterStatusDelete _ tables)
  | remoteStatusTriggers _ =>
    exact agree.of_same (SameInteractions.afterRemoteStatusDelete _ tables)
  | @statusCounts row held orphan =>
    have other : row.statusId ≠ id := by
      rintro rfl
      rw [here] at orphan
      cases orphan
    refine ⟨?_, ?_⟩
    · exact (Table.valueOf_delete_of_ne other).trans agree.favourites
    · exact (Table.valueOf_delete_of_ne other).trans agree.reblogs
  | _ => exact ⟨agree.favourites, agree.reblogs⟩

end InteractionsAgree

namespace RemoteInteractionsAgree

variable {tables tables' : Tables} {id : String} {write : Write}

theorem of_same (agree : RemoteInteractionsAgree tables id)
    (eq : SameInteractions tables tables') : RemoteInteractionsAgree tables' id where
  favourites := by
    rw [Tables.favouritesOfRemote, eq.favourites]
    exact (eq.remoteStatusCounts _ StatusCounts.replies_leaves_favourites id).trans agree.favourites
  reblogs := by
    rw [Tables.reblogsOfRemote, eq.reblogs]
    exact (eq.remoteStatusCounts _ StatusCounts.replies_leaves_reblogs id).trans agree.reblogs

theorem run (agree : RemoteInteractionsAgree tables id) (fit : write.Applies tables) :
    RemoteInteractionsAgree (write.run tables) id := by
  cases write with
  | statuses change => exact agree.of_same (SameInteractions.changeStatuses change tables)
  | remoteStatuses change =>
    exact agree.of_same (SameInteractions.changeRemoteStatuses change tables)
  | favourites change =>
    refine ⟨?_, ?_⟩
    · exact (CounterColumn.triggers_keepsCount _ _ id).agrees_alone fit.1 agree.favourites
    · exact (StatusCounts.favourites_leaves_reblogs.valueOf_fire _ id change _).trans
        agree.reblogs
  | reblogs change =>
    refine ⟨?_, ?_⟩
    · exact (StatusCounts.reblogs_leaves_favourites.valueOf_fire _ id change _).trans
        agree.favourites
    · exact (CounterColumn.triggers_keepsCount _ _ id).agrees_alone fit.1 agree.reblogs
  | _ => exact ⟨agree.favourites, agree.reblogs⟩

/-- **An id without a remote status** is referred to by nothing and counted nowhere. -/
theorem of_closed (closed : tables.Closed) (gone : tables.hasRemoteStatus id = false) :
    RemoteInteractionsAgree tables id := by
  have noCounts : tables.remoteStatusCounts.find id = none := by
    rw [Table.find_eq_none]
    rintro row mem rfl
    simpa [gone] using closed.remoteStatusCounts row mem
  have noReaction : ∀ {row : Reaction}, tables.groundsReaction row →
      row.remoteStatusId ≠ some id := by
    intro row grounded refers
    simp [Tables.groundsReaction, refers, gone] at grounded
  refine ⟨(Table.valueOf_of_find_none noCounts).trans ?_,
    (Table.valueOf_of_find_none noCounts).trans ?_⟩
  · rw [Tables.favouritesOfRemote,
      referring_eq_zero fun row mem => noReaction (closed.favourites row mem)]
  · rw [Tables.reblogsOfRemote,
      referring_eq_zero fun row mem => noReaction (closed.reblogs row mem)]

/-- **What follows a deletion** keeps the counts of a remote status that is there. -/
theorem followUp (agree : RemoteInteractionsAgree tables id)
    (here : tables.hasRemoteStatus id) (followUp : FollowUp tables tables') :
    RemoteInteractionsAgree tables' id := by
  cases followUp with
  | cascade fit _ => exact agree.run fit
  | statusTriggers _ => exact agree.of_same (SameInteractions.afterStatusDelete _ tables)
  | remoteStatusTriggers _ =>
    exact agree.of_same (SameInteractions.afterRemoteStatusDelete _ tables)
  | @remoteStatusCounts row held orphan =>
    have other : row.statusId ≠ id := by
      rintro rfl
      rw [here] at orphan
      cases orphan
    refine ⟨?_, ?_⟩
    · exact (Table.valueOf_delete_of_ne other).trans agree.favourites
    · exact (Table.valueOf_delete_of_ne other).trans agree.reblogs
  | _ => exact ⟨agree.favourites, agree.reblogs⟩

end RemoteInteractionsAgree

/-! ## Statements and runs -/

/-- The counts of every status that is there. -/
structure InteractionsCounted (tables : Tables) : Prop where
  statuses : ∀ id, tables.hasStatus id → InteractionsAgree tables id
  remoteStatuses : ∀ id, tables.hasRemoteStatus id → RemoteInteractionsAgree tables id

namespace InteractionsCounted

theorem followUp {tables tables' : Tables} (count : InteractionsCounted tables)
    (followUp : FollowUp tables tables') : InteractionsCounted tables' where
  statuses id present :=
    have pre := followUp.hasStatus present
    (count.statuses id pre).followUp pre followUp
  remoteStatuses id present :=
    have pre := followUp.hasRemoteStatus present
    (count.remoteStatuses id pre).followUp pre followUp

theorem statement {pre post : Database} {write : Write}
    (count : InteractionsCounted pre.toTables) (stmt : Statement pre write post) :
    InteractionsCounted post.toTables := by
  have closed := pre.settled.closed
  apply stmt.invariant InteractionsCounted
  · intro fit
    refine ⟨fun id _ => ?_, fun id _ => ?_⟩
    · apply InteractionsAgree.run _ fit
      cases here : pre.hasStatus id with
      | true => exact count.statuses id here
      | false => exact InteractionsAgree.of_closed closed here
    · apply RemoteInteractionsAgree.run _ fit
      cases here : pre.hasRemoteStatus id with
      | true => exact count.remoteStatuses id here
      | false => exact RemoteInteractionsAgree.of_closed closed here
  · intro tables tables' count followUp
    exact count.followUp followUp

theorem migrated (tables : Tables) : InteractionsCounted tables.migrated where
  statuses _ present := ⟨Tables.favourites_migrated present, Tables.reblogs_migrated present⟩
  remoteStatuses _ present :=
    ⟨Tables.favouritesOfRemote_migrated present, Tables.reblogsOfRemote_migrated present⟩

end InteractionsCounted

/-- **Favourites and reblogs are counted right.**  After every sequence of statements
from the migrated database, the counters of every local and of every remote status are
the numbers of rows that refer to it. -/
theorem interactions_counted (db : Database) {trace : List (Transition Database Write)}
    {finish : Database} (run : Run Statement db.migrated trace finish) :
    InteractionsCounted finish.toTables := by
  let Right : Database → Prop := fun later => InteractionsCounted later.toTables
  have init : Right db.migrated := InteractionsCounted.migrated db.toTables
  exact run.invariant_of_step init (fun count stmt => InteractionsCounted.statement count stmt)

/-! ### A run with a cascade

Bob favourites two posts of alice, and one of them is deleted.  Its counts row goes
first, so that the favourite is counted down where there is no row any more. -/

/-- An account with two statuses, and a remote actor. -/
def twoPosts : Database where
  toTables :=
    { Tables.empty with
      accounts := Table.singleton ⟨"alice"⟩
      remoteActors := Table.singleton ⟨"https://remote.example/bob"⟩
      statuses :=
        { rows :=
            [⟨"kept", "alice", none, .publicPost, none, .accepted, "2024-05-01T00:00:00Z"⟩,
              ⟨"gone", "alice", none, .publicPost, none, .accepted, "2024-05-02T00:00:00Z"⟩]
          keysDistinct := by decide } }
  settled := by decide +kernel

def favouriteOf (id : String) : RemoteReaction :=
  ⟨"https://remote.example/bob", "https://local.example/" ++ id, id⟩

def oneFavourite : Database where
  toTables := (Write.remoteFavourites (.insert (favouriteOf "kept"))).run twoPosts.migrated.toTables
  settled := by decide +kernel

def twoFavourites : Database where
  toTables := (Write.remoteFavourites (.insert (favouriteOf "gone"))).run oneFavourite.toTables
  settled := by decide +kernel

def gonePost : Status :=
  ⟨"gone", "alice", none, .publicPost, none, .accepted, "2024-05-02T00:00:00Z"⟩

/-- The post is deleted, then its counts row, then the favourite, and then the triggers run. -/
def afterDeletion : Database where
  toTables :=
    let removed := (Write.statuses (.delete gonePost)).run twoFavourites.toTables
    let uncounted := removed.dropStatusCounts ⟨"gone", 1, 0, 0⟩
    ((Write.remoteFavourites (.delete (favouriteOf "gone"))).run uncounted).afterStatusDelete
      gonePost
  settled := by decide +kernel

/-- The favourite of the post that is kept is still counted. -/
theorem interactions_counted_kept_post :
    InteractionsCounted afterDeletion.toTables
      ∧ afterDeletion.hasStatus "kept"
      ∧ StatusCounts.favourites.value "kept" afterDeletion.statusCounts = 1 := by
  have first : Statement twoPosts.migrated (.remoteFavourites (.insert (favouriteOf "kept")))
      oneFavourite := Statement.change (by decide +kernel) rfl rfl
  have second : Statement oneFavourite (.remoteFavourites (.insert (favouriteOf "gone")))
      twoFavourites := Statement.change (by decide +kernel) rfl rfl
  have third : Statement twoFavourites (.statuses (.delete gonePost)) afterDeletion := by
    refine Statement.delete (by decide +kernel) rfl ?_
    refine Relation.ReflTransGen.head
      (@FollowUp.statusCounts _ ⟨"gone", 1, 0, 0⟩ (by decide +kernel) (by decide +kernel)) ?_
    refine Relation.ReflTransGen.head
      (@FollowUp.cascade _ (.remoteFavourites (.delete (favouriteOf "gone")))
        (by decide +kernel) (by decide +kernel)) ?_
    exact Relation.ReflTransGen.single (FollowUp.statusTriggers (by decide +kernel))
  exact ⟨interactions_counted twoPosts (((Run.start.snoc first).snoc second).snoc third),
    by decide +kernel, by decide +kernel⟩

end Cfwdon.Counters
