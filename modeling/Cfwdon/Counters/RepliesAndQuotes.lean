import Cfwdon.Counters.Migrations
import Cfwdon.Library.Run

/-!
# Replies and quotes are counted

For every URI the quotes counter is the number of accepted quotes of it.  For every
status, local or remote, the replies counter is the number of public or unlisted replies
to it, as long as the status came under an id that no such reply named already: the
triggers route the count of a reply to its parent if the parent is there, and nobody
counts again when a parent comes later.

* `mentions_changed`, `mentions_taken` -- how the number of mentions of a key moves when a
  status changes and when the triggers of a removed status run;
* `replies_counted`, `quotes_counted` -- the theorem for every run.
-/

namespace Cfwdon.Counters

open Library

variable {old : Status} {write : Write} {pre post : Database}

section Mentions

variable (reference : Status → Option String) (remoteReference : RemoteStatus → Option String)
  (k : String)

/-- The local and remote statuses that mention a key, and the removed ones whose triggers
are still to run. -/
def Tables.mentions (tables : Tables) : Nat :=
  referring reference k tables.statuses.rows
    + referring remoteReference k tables.remoteStatuses.rows
    + (referring reference k tables.removedStatuses
      + referring remoteReference k tables.removedRemoteStatuses)

variable {reference remoteReference k} {tables : Tables} {Counts : Type*}
  {value : Counts → Nat} {counts : Counts}

theorem Tables.Settled.mentions_eq (done : tables.Settled) :
    tables.mentions reference remoteReference k
      = referring reference k tables.statuses.rows
        + referring remoteReference k tables.remoteStatuses.rows := by
  rw [Tables.mentions, done.statuses, done.remoteStatuses]
  rfl

/-- The triggers of `statuses` keep a value equal to the number of mentions. -/
theorem mentions_changed {fire : Change Status → Counts → Counts} {change : Change Status}
    (keeps : KeepsCount (fun row => decide (reference row = some k)) value fire)
    (fit : change.Applies tables.statuses)
    (agree : value counts = tables.mentions reference remoteReference k) :
    value (fire change counts)
      = ({ tables with statuses := change.run tables.statuses } : Tables).mentions
          reference remoteReference k := by
  rw [Tables.mentions, Nat.add_assoc] at agree
  rw [Tables.mentions, Nat.add_assoc]
  exact keeps.agrees fit agree

variable {fire : Change RemoteStatus → Counts → Counts}

theorem mentions_changed_remote
    {change : Change RemoteStatus}
    (keeps : KeepsCount (fun row => decide (remoteReference row = some k)) value fire)
    (fit : change.Applies tables.remoteStatuses)
    (agree : value counts = tables.mentions reference remoteReference k) :
    value (fire change counts)
      = ({ tables with remoteStatuses := change.run tables.remoteStatuses } : Tables).mentions
          reference remoteReference k := by
  rw [Tables.mentions, Nat.add_comm (referring reference k _), Nat.add_assoc] at agree
  rw [Tables.mentions, Nat.add_comm (referring reference k _), Nat.add_assoc]
  exact keeps.agrees fit agree

/-- A removed status is still mentioned until its triggers have run. -/
theorem mentions_removed (fit : (Change.delete old).Applies tables.statuses) :
    (tables.changeStatuses (.delete old)).mentions reference remoteReference k
      = tables.mentions reference remoteReference k := by
  have moved := Change.countP_changed fit fun row => decide (reference row = some k)
  simp only [Change.old?, Change.new?, Change.weigh_some, Change.weigh_none,
    decide_eq_true_eq] at moved
  change referring reference k ((Change.delete old).run tables.statuses).rows
      + referring remoteReference k tables.remoteStatuses.rows
      + (referring reference k (old :: tables.removedStatuses)
        + referring remoteReference k tables.removedRemoteStatuses)
    = tables.mentions reference remoteReference k
  rw [referring_cons, Tables.mentions]
  simp only [referring] at moved ⊢
  omega

theorem mentions_removed_remote {old : RemoteStatus}
    (fit : (Change.delete old).Applies tables.remoteStatuses) :
    (tables.changeRemoteStatuses (.delete old)).mentions reference remoteReference k
      = tables.mentions reference remoteReference k := by
  have moved := Change.countP_changed fit fun row => decide (remoteReference row = some k)
  simp only [Change.old?, Change.new?, Change.weigh_some, Change.weigh_none,
    decide_eq_true_eq] at moved
  change referring reference k tables.statuses.rows
      + referring remoteReference k ((Change.delete old).run tables.remoteStatuses).rows
      + (referring reference k tables.removedStatuses
        + referring remoteReference k (old :: tables.removedRemoteStatuses))
    = tables.mentions reference remoteReference k
  rw [referring_cons, Tables.mentions]
  simp only [referring] at moved ⊢
  omega

theorem mentions_taken {fire : Change Status → Counts → Counts}
    (keeps : KeepsCount (fun row => decide (reference row = some k)) value fire)
    (removed : old ∈ tables.removedStatuses)
    (agree : value counts = tables.mentions reference remoteReference k) :
    value (fire (.delete old) counts)
      = ({ tables with removedStatuses := tables.removedStatuses.erase old } : Tables).mentions
          reference remoteReference k := by
  rw [Tables.mentions, referring_erase removed] at agree
  rw [Tables.mentions]
  apply keeps.agrees_taken
  simp only [decide_eq_true_eq]
  omega

theorem mentions_taken_remote
    {old : RemoteStatus}
    (keeps : KeepsCount (fun row => decide (remoteReference row = some k)) value fire)
    (removed : old ∈ tables.removedRemoteStatuses)
    (agree : value counts = tables.mentions reference remoteReference k) :
    value (fire (.delete old) counts)
      = ({ tables with
            removedRemoteStatuses := tables.removedRemoteStatuses.erase old } : Tables).mentions
          reference remoteReference k := by
  rw [Tables.mentions, referring_erase removed] at agree
  rw [Tables.mentions]
  apply keeps.agrees_taken
  simp only [decide_eq_true_eq]
  omega

end Mentions

/-! ## Quotes -/

def QuotesAgree (tables : Tables) (uri : String) : Prop :=
  QuoteTargetCounts.quotes.value uri tables.quoteTargetCounts
    = tables.mentions Status.acceptedQuote RemoteStatus.acceptedQuote uri

namespace QuotesAgree

variable {tables tables' : Tables} {uri : String}

theorem changeStatuses {change : Change Status} (agree : QuotesAgree tables uri)
    (fit : change.Applies tables.statuses) :
    QuotesAgree (tables.changeStatuses change) uri := by
  cases change with
  | delete old => exact Eq.trans agree (mentions_removed fit).symm
  | insert new => exact mentions_changed (CounterColumn.triggers_keepsCount _ _ uri) fit agree
  | update old new =>
    exact mentions_changed (CounterColumn.triggers_keepsCount _ _ uri) fit agree

theorem changeRemoteStatuses {change : Change RemoteStatus} (agree : QuotesAgree tables uri)
    (fit : change.Applies tables.remoteStatuses) :
    QuotesAgree (tables.changeRemoteStatuses change) uri := by
  cases change with
  | delete old => exact Eq.trans agree (mentions_removed_remote fit).symm
  | insert new | update old new =>
    exact mentions_changed_remote (CounterColumn.triggers_keepsCount _ _ uri) fit agree

theorem run (agree : QuotesAgree tables uri) (fit : write.Applies tables) :
    QuotesAgree (write.run tables) uri := by
  cases write with
  | statuses change => exact agree.changeStatuses fit
  | remoteStatuses change => exact agree.changeRemoteStatuses fit
  | _ => exact agree

theorem afterStatusDelete (agree : QuotesAgree tables uri)
    (removed : old ∈ tables.removedStatuses) :
    QuotesAgree (tables.afterStatusDelete old) uri := by
  apply Tables.unlinkReplies_invariant fun later => QuotesAgree later uri
  · intro later _ child got agree
    exact agree.changeStatuses (Tables.applies_unlink got)
  · exact mentions_taken (CounterColumn.triggers_keepsCount _ _ uri) removed agree

theorem followUp (agree : QuotesAgree tables uri) (followUp : FollowUp tables tables') :
    QuotesAgree tables' uri := by
  cases followUp with
  | cascade fit _ => exact agree.run fit
  | statusTriggers removed => exact agree.afterStatusDelete removed
  | remoteStatusTriggers removed =>
    exact mentions_taken_remote (CounterColumn.triggers_keepsCount _ _ uri) removed agree
  | _ => exact agree

end QuotesAgree

/-! ## Replies -/

/-- The two kinds of statuses, which have a counts table each. -/
inductive StatusKind where
  | own
  | remote

def Tables.has (tables : Tables) : StatusKind → String → Bool
  | .own => tables.hasStatus
  | .remote => tables.hasRemoteStatus

def Tables.countsOf (tables : Tables) : StatusKind → StatusCountsTable
  | .own => tables.statusCounts
  | .remote => tables.remoteStatusCounts

theorem repliesCount_keepsCount {isStatus : String → Bool} {id : String} (here : isStatus id) :
    KeepsCount (fun reply : Reply => decide (reply.countedParent = some id))
      (StatusCounts.replies.value id) (repliesCount isStatus) := by
  change KeepsCount ((parentTriggers isStatus).refersTo id) (StatusCounts.replies.value id)
    (repliesCount isStatus)
  apply CounterTriggers.keepsCount_fireWhen
  · intro reply parent counts _
    dsimp only [parentTriggers]
    by_cases eq : parent = id
    · subst eq
      rw [if_pos here, StatusCounts.replies.value_increment]
    · split_ifs
      · rw [StatusCounts.replies.value_increment, if_neg eq]
      · rfl
  · intro reply parent counts _
    exact StatusCounts.replies.value_decrement parent id counts
  · intro old new same
    simp only [Bool.or_eq_false_iff, decide_eq_false_iff_not, not_not] at same
    obtain ⟨parent, vis⟩ := same
    simp only [parentTriggers, Reply.countedParent, parent, vis]

def RepliesAgree (kind : StatusKind) (tables : Tables) (id : String) : Prop :=
  StatusCounts.replies.value id (tables.countsOf kind)
    = tables.mentions (fun row => row.reply.countedParent) (fun row => row.reply.countedParent) id

namespace RepliesAgree

variable {kind : StatusKind} {tables tables' : Tables} {id : String}

/-- **A change of a status keeps the count of a status that is there after it.** -/
theorem changeStatuses {change : Change Status} (agree : RepliesAgree kind tables id)
    (fit : change.Applies tables.statuses)
    (here : (tables.changeStatuses change).has kind id) :
    RepliesAgree kind (tables.changeStatuses change) id := by
  have count := mentions_changed ((repliesCount_keepsCount here).map Status.reply) fit agree
  cases change with
  | delete old =>
    refine Eq.trans ?_ (mentions_removed fit).symm
    cases kind <;> exact agree
  | insert new | update old new => cases kind <;> exact count

theorem changeRemoteStatuses {change : Change RemoteStatus} (agree : RepliesAgree kind tables id)
    (fit : change.Applies tables.remoteStatuses)
    (here : (tables.changeRemoteStatuses change).has kind id) :
    RepliesAgree kind (tables.changeRemoteStatuses change) id := by
  have count := mentions_changed_remote
    ((repliesCount_keepsCount here).map RemoteStatus.reply) fit agree
  cases change with
  | delete old =>
    refine Eq.trans ?_ (mentions_removed_remote fit).symm
    cases kind <;> exact agree
  | insert new | update old new => cases kind <;> exact count

/-- **A write keeps the count of a status that is there after it.** -/
theorem run (agree : RepliesAgree kind tables id)
    (fit : write.Applies tables) (here : (write.run tables).has kind id) :
    RepliesAgree kind (write.run tables) id := by
  cases write with
  | statuses change => exact agree.changeStatuses fit here
  | remoteStatuses change => exact agree.changeRemoteStatuses fit here
  | favourites change =>
    refine Eq.trans ?_ agree
    cases kind <;> exact StatusCounts.favourites_leaves_replies.valueOf_fire _ id change _
  | reblogs change =>
    refine Eq.trans ?_ agree
    cases kind <;> exact StatusCounts.reblogs_leaves_replies.valueOf_fire _ id change _
  | remoteFavourites change =>
    refine Eq.trans ?_ agree
    cases kind with
    | own => exact StatusCounts.favourites_leaves_replies.valueOf_fire _ id change _
    | remote => rfl
  | remoteReblogs change =>
    refine Eq.trans ?_ agree
    cases kind with
    | own => exact StatusCounts.reblogs_leaves_replies.valueOf_fire _ id change _
    | remote => rfl
  | _ => cases kind <;> exact agree

theorem afterStatusDelete (agree : RepliesAgree kind tables id)
    (here : tables.has kind id) (removed : old ∈ tables.removedStatuses) :
    RepliesAgree kind (tables.afterStatusDelete old) id := by
  have both : (tables.afterStatusDelete old).has kind id
      ∧ RepliesAgree kind (tables.afterStatusDelete old) id := by
    apply Tables.unlinkReplies_invariant fun later =>
      later.has kind id ∧ RepliesAgree kind later id
    · rintro later _ child got ⟨there, agree⟩
      have fit := Tables.applies_unlink got
      have still : (later.changeStatuses
          (.update child { child with inReplyToId := none })).has kind id := by
        cases kind with
        | own => exact Change.find_isSome_updated rfl there
        | remote => exact there
      exact ⟨still, agree.changeStatuses fit still⟩
    · have taken := mentions_taken ((repliesCount_keepsCount here).map Status.reply) removed agree
      cases kind <;> exact ⟨here, taken⟩
  exact both.2

/-- **What follows a deletion** keeps the count of a status that is there. -/
theorem followUp (agree : RepliesAgree kind tables id) (followUp : FollowUp tables tables')
    (here : tables'.has kind id) : RepliesAgree kind tables' id := by
  have pre : tables.has kind id := by
    cases kind with
    | own => exact followUp.hasStatus here
    | remote => exact followUp.hasRemoteStatus here
  cases followUp with
  | cascade fit _ => exact agree.run fit here
  | statusTriggers removed => exact agree.afterStatusDelete pre removed
  | remoteStatusTriggers removed =>
    have taken := mentions_taken_remote
      ((repliesCount_keepsCount pre).map RemoteStatus.reply) removed agree
    cases kind <;> exact taken
  | @statusCounts row held orphan =>
    cases kind with
    | own =>
      have other : row.statusId ≠ id := by
        rintro rfl
        rw [show tables.hasStatus row.statusId = true from pre] at orphan
        cases orphan
      exact (Table.valueOf_delete_of_ne other).trans agree
    | remote => exact agree
  | @remoteStatusCounts row held orphan =>
    cases kind with
    | own => exact agree
    | remote =>
      have other : row.statusId ≠ id := by
        rintro rfl
        rw [show tables.hasRemoteStatus row.statusId = true from pre] at orphan
        cases orphan
      exact (Table.valueOf_delete_of_ne other).trans agree
  | accountStats _ _ => cases kind <;> exact agree

theorem of_unnamed (done : tables.Settled) (gone : tables.has kind id = false)
    (unnamed : tables.repliesTo id = 0) : RepliesAgree kind tables id := by
  have closed := done.closed
  have noCounts : (tables.countsOf kind).find id = none := by
    rw [Table.find_eq_none]
    rintro row mem rfl
    cases kind with
    | own =>
      have there := closed.statusCounts row mem
      rw [show tables.hasStatus row.statusId = false from gone] at there
      cases there
    | remote =>
      have there := closed.remoteStatusCounts row mem
      rw [show tables.hasRemoteStatus row.statusId = false from gone] at there
      cases there
  refine (Table.valueOf_of_find_none noCounts).trans ?_
  rw [done.mentions_eq]
  exact unnamed.symm

end RepliesAgree

/-! ## Statements and runs -/

theorem QuotesAgree.statement {uri : String}
    (agree : QuotesAgree pre.toTables uri) (stmt : Statement pre write post) :
    QuotesAgree post.toTables uri := by
  apply stmt.invariant fun later => QuotesAgree later uri
  · exact fun fit => agree.run fit
  · exact fun agree followUp => agree.followUp followUp

def Write.brings (id : String) : StatusKind → Write → Bool
  | .own, .statuses (.insert new) => decide (new.id = id)
  | .own, .statuses (.update old new) => decide (new.id = id) && decide (old.id ≠ id)
  | .remote, .remoteStatuses (.insert new) => decide (new.id = id)
  | .remote, .remoteStatuses (.update old new) => decide (new.id = id) && decide (old.id ≠ id)
  | _, _ => false

variable {kind : StatusKind}

theorem Write.has_of_run {tables : Tables} {id : String}
    (fit : write.Applies tables) (here : (write.run tables).has kind id) :
    tables.has kind id ∨ write.brings id kind := by
  cases kind with
  | own =>
    cases write with
    | statuses change =>
      rcases Tables.hasStatus_of_changeStatuses fit here with there | ⟨new, isNew, rfl⟩
      · exact Or.inl there
      · cases change with
        | delete old => cases isNew
        | insert status =>
          obtain rfl := Option.some.inj isNew
          exact Or.inr (decide_eq_true rfl)
        | update old status =>
          obtain rfl := Option.some.inj isNew
          by_cases kept : old.id = status.id
          · left
            have held : tables.statuses.find old.id = some old := fit.1
            rw [← kept]
            exact Option.isSome_iff_exists.mpr ⟨old, held⟩
          · right
            simp [brings, kept]
    | remoteStatuses change => cases change <;> exact Or.inl here
    | _ => exact Or.inl here
  | remote =>
    cases write with
    | remoteStatuses change =>
      rcases Tables.hasRemoteStatus_of_changeRemoteStatuses fit here with
        there | ⟨new, isNew, rfl⟩
      · exact Or.inl there
      · cases change with
        | delete old => cases isNew
        | insert status =>
          obtain rfl := Option.some.inj isNew
          exact Or.inr (decide_eq_true rfl)
        | update old status =>
          obtain rfl := Option.some.inj isNew
          by_cases kept : old.id = status.id
          · left
            have held : tables.remoteStatuses.find old.id = some old := fit.1
            rw [← kept]
            exact Option.isSome_iff_exists.mpr ⟨old, held⟩
          · right
            simp [brings, kept]
    | statuses change => cases change <;> exact Or.inl here
    | _ => exact Or.inl here

/-- **A statement that brings no status under a named id keeps the replies counter.** -/
theorem RepliesAgree.statement
    {id : String}
    (agree : pre.has kind id → RepliesAgree kind pre.toTables id)
    (unnamed : write.brings id kind → pre.repliesTo id = 0)
    (stmt : Statement pre write post) (here : post.has kind id) :
    RepliesAgree kind post.toTables id := by
  have kept : post.has kind id → RepliesAgree kind post.toTables id := by
    apply stmt.invariant fun later => later.has kind id → RepliesAgree kind later id
    · intro fit there
      refine RepliesAgree.run ?_ fit there
      cases was : pre.has kind id with
      | true => exact agree was
      | false =>
        apply RepliesAgree.of_unnamed pre.settled was
        rcases Write.has_of_run fit there with wasThere | brought
        · exact absurd (was.symm.trans wasThere) Bool.false_ne_true
        · exact unnamed brought
    · intro tables tables' agree followUp there
      have pre : tables.has kind id := by
        cases kind with
        | own => exact followUp.hasStatus there
        | remote => exact followUp.hasRemoteStatus there
      exact (agree pre).followUp followUp there
  exact kept here

theorem quotesAgree_migrated (db : Database) (uri : String) :
    QuotesAgree db.migrated.toTables uri :=
  (Tables.quotes_migrated uri).trans db.migrated.settled.mentions_eq.symm

theorem repliesAgree_migrated (db : Database) {id : String}
    (here : db.has kind id) : RepliesAgree kind db.migrated.toTables id := by
  refine Eq.trans ?_ db.migrated.settled.mentions_eq.symm
  cases kind with
  | own => exact Tables.replies_migrated here
  | remote => exact Tables.replies_migrated_remote here

/-- **Replies and quotes are counted right.**  After every sequence of statements from the
migrated database the quotes counter of every URI is the number of accepted quotes of it,
and the replies counter of every status is the number of public or unlisted replies to it,
if whenever a status came under its id no such reply named the id already. -/
theorem replies_and_quotes_counted (db : Database) {trace : List (Transition Database Write)}
    {finish : Database} (run : Run Statement db.migrated trace finish) :
    (∀ uri, QuoteTargetCounts.quotes.value uri finish.quoteTargetCounts = finish.quotesOf uri)
      ∧ ∀ kind id, finish.has kind id →
          Along (fun before write => write.brings id kind → before.repliesTo id = 0) trace →
          StatusCounts.replies.value id (finish.countsOf kind) = finish.repliesTo id := by
  refine ⟨fun uri => ?_, fun kind id here met => ?_⟩
  · let Right : Database → Prop := fun later => QuotesAgree later.toTables uri
    have init : Right db.migrated := quotesAgree_migrated db uri
    have agree : QuotesAgree finish.toTables uri :=
      run.invariant_of_step init fun agree stmt => QuotesAgree.statement agree stmt
    exact Eq.trans agree finish.settled.mentions_eq
  · let Right : Database → Prop := fun later =>
      later.has kind id → RepliesAgree kind later.toTables id
    have init : Right db.migrated := fun here =>
      repliesAgree_migrated db (by cases kind <;> exact here)
    have agree : Right finish := run.invariant init
      (fun agree unnamed stmt there => RepliesAgree.statement agree unnamed stmt there)
      met
    exact Eq.trans (agree here) finish.settled.mentions_eq

/-! ### A parent and a reply, in both orders -/

/-- An account and a remote actor. -/
def twoAuthors : Database where
  toTables :=
    { Tables.empty with
      accounts := Table.singleton ⟨"alice"⟩
      remoteActors := Table.singleton ⟨"https://remote.example/bob"⟩ }
  settled := by decide +kernel

def parentPost : Status :=
  ⟨"parent", "alice", none, .publicPost, none, .accepted, "2024-05-01T00:00:00Z"⟩

/-- A public reply that quotes the post as well. -/
def bobsReply : RemoteStatus :=
  ⟨"reply", "https://remote.example/bob", some "parent", .publicPost,
    some "https://local.example/parent", .accepted⟩

def withParent : Database where
  toTables := (Write.statuses (.insert parentPost)).run twoAuthors.migrated.toTables
  settled := by decide +kernel

def withParentThenReply : Database where
  toTables := (Write.remoteStatuses (.insert bobsReply)).run withParent.toTables
  settled := by decide +kernel

/-- The parent comes first: its reply and its quote are counted. -/
theorem replies_and_quotes_counted_parent :
    StatusCounts.replies.value "parent" (withParentThenReply.countsOf .own) = 1
      ∧ QuoteTargetCounts.quotes.value "https://local.example/parent"
          withParentThenReply.quoteTargetCounts = 1 := by
  have first : Statement twoAuthors.migrated (.statuses (.insert parentPost)) withParent :=
    Statement.change (by decide +kernel) rfl rfl
  have second : Statement withParent (.remoteStatuses (.insert bobsReply)) withParentThenReply :=
    Statement.change (by decide +kernel) rfl rfl
  obtain ⟨quotes, replies⟩ := replies_and_quotes_counted twoAuthors
    ((Run.start.snoc first).snoc second)
  refine ⟨(replies .own "parent" (by decide +kernel) ?_).trans (by decide +kernel),
    (quotes _).trans (by decide +kernel)⟩
  rw [Along.snoc_iff, Along.snoc_iff]
  exact ⟨⟨Along.nil, fun _ => by decide +kernel⟩, fun brought => by cases brought⟩

def withReply : Database where
  toTables := (Write.remoteStatuses (.insert bobsReply)).run twoAuthors.migrated.toTables
  settled := by decide +kernel

def withReplyThenParent : Database where
  toTables := (Write.statuses (.insert parentPost)).run withReply.toTables
  settled := by decide +kernel

/-- **The condition on the ids is needed**: the reply to a parent that comes later is not
counted. -/
theorem late_parent_is_not_counted :
    ¬ ∀ (db : Database) (trace : List (Transition Database Write)) (finish : Database),
      Run Statement db.migrated trace finish →
        (∀ uri, QuoteTargetCounts.quotes.value uri finish.quoteTargetCounts = finish.quotesOf uri)
          ∧ ∀ kind id, finish.has kind id →
              StatusCounts.replies.value id (finish.countsOf kind) = finish.repliesTo id := by
  intro took
  have first : Statement twoAuthors.migrated (.remoteStatuses (.insert bobsReply)) withReply :=
    Statement.change (by decide +kernel) rfl rfl
  have second : Statement withReply (.statuses (.insert parentPost)) withReplyThenParent :=
    Statement.change (by decide +kernel) rfl rfl
  obtain ⟨_, replies⟩ := took twoAuthors _ _ ((Run.start.snoc first).snoc second)
  exact absurd (replies .own "parent" (by decide +kernel)) (by decide +kernel)

end Cfwdon.Counters
