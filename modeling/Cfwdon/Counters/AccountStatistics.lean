import Cfwdon.Counters.Migrations
import Cfwdon.Library.Run

/-!
# The statistics of an account

The numbers of followers, of accounts followed and of statuses in `account_stats` are
right after every sequence of statements.  The date of the last status is right too, as
long as a status that keeps its account keeps the date that it was created on: the
triggers look at the dates when a status comes, goes or changes hands, and not when its
date is rewritten.
-/

namespace Cfwdon.Counters

open Library

section Columns

open AccountStats

theorem followers_leaves_following : followers.Leaves following.read 0 :=
  ⟨fun _ _ => rfl, fun _ => rfl⟩

theorem following_leaves_followers : following.Leaves followers.read 0 :=
  ⟨fun _ _ => rfl, fun _ => rfl⟩

theorem followers_leaves_statuses : followers.Leaves statusesCount 0 :=
  ⟨fun _ _ => rfl, fun _ => rfl⟩

theorem following_leaves_statuses : following.Leaves statusesCount 0 :=
  ⟨fun _ _ => rfl, fun _ => rfl⟩

theorem followers_leaves_last : followers.Leaves lastStatusAt none :=
  ⟨fun _ _ => rfl, fun _ => rfl⟩

theorem following_leaves_last : following.Leaves lastStatusAt none :=
  ⟨fun _ _ => rfl, fun _ => rfl⟩

end Columns

/-! ## The triggers of statuses -/

def statusesCountOf (account : String) (stats : AccountStatsTable) : Nat :=
  stats.valueOf AccountStats.statusesCount 0 account

def lastStatusOf (account : String) (stats : AccountStatsTable) : Option String :=
  stats.valueOf AccountStats.lastStatusAt none account

theorem statusesCountOf_countStatus (new : Status) (j account : String)
    (stats : AccountStatsTable) :
    statusesCountOf account (countStatus new j stats)
      = statusesCountOf account stats + if j = account then 1 else 0 := by
  refine (Table.valueOf_upsert (· + 1) ?_ ?_).trans ?_
  · rfl
  · exact fun _ => rfl
  · dsimp only
    split_ifs <;> rfl

theorem statusesCountOf_uncountStatus (statuses : Statuses) (j account : String)
    (stats : AccountStatsTable) :
    statusesCountOf account (uncountStatus statuses j stats)
      = statusesCountOf account stats - if j = account then 1 else 0 := by
  refine (Table.valueOf_update (· - 1) ?_ fun _ => Or.inr rfl).trans ?_
  · exact fun _ => rfl
  · split_ifs <;> rfl

theorem statusesAccountStats_keepsCount (statuses : Statuses) (account : String) :
    KeepsCount ((accountTriggers statuses).refersTo account) (statusesCountOf account)
      (statusesAccountStats statuses) := by
  apply CounterTriggers.keepsCount_fire
  · intro row j stats _
    exact statusesCountOf_countStatus row j account stats
  · intro row j stats _
    exact statusesCountOf_uncountStatus statuses j account stats

theorem valueOf_statusesAccountStats (other : AccountStats → Nat)
    (count : ∀ row n last, other { row with statusesCount := n, lastStatusAt := last } = other row)
    (first : ∀ account n last,
      other { accountId := account, statusesCount := n, lastStatusAt := last } = 0)
    (statuses : Statuses) (change : Change Status) (stats : AccountStatsTable)
    (account : String) :
    (statusesAccountStats statuses change stats).valueOf other 0 account
      = stats.valueOf other 0 account := by
  refine CounterTriggers.value_fireWhen
    (fun stats : AccountStatsTable => stats.valueOf other 0 account) ?_ ?_ change stats
  · intro row j stats
    refine (Table.valueOf_upsert id (first _ _ _) fun held => count held _ _).trans ?_
    split_ifs <;> rfl
  · intro row j stats
    refine (Table.valueOf_update id (fun held => count held _ _) fun _ => Or.inr rfl).trans ?_
    split_ifs <;> rfl

/-- `coalesce(last_status_at, '')` is before every date. -/
theorem empty_le (text : String) : "" ≤ text := by
  apply le_of_not_gt
  rw [String.lt_iff_toList_lt]
  simp

theorem lastStatusOf_countStatus (new : Status) (j account : String)
    (stats : AccountStatsTable) :
    lastStatusOf account (countStatus new j stats)
      = if j = account then some (max ((lastStatusOf account stats).getD "") new.date)
        else lastStatusOf account stats := by
  refine Table.valueOf_upsert (fun last => some (max (last.getD "") new.date)) ?_ ?_
  · dsimp only
    rw [Option.getD_none, max_eq_right (empty_le _)]
  · exact fun _ => rfl

variable {statuses : Statuses} {change : Change Status}

theorem lastStatusOf_uncountStatus {j account : String} {stats : AccountStatsTable}
    (count : j = account → statusesCountOf account stats ≠ 0) :
    lastStatusOf account (uncountStatus statuses j stats)
      = if j = account then greatestDate account statuses.rows
        else lastStatusOf account stats := by
  by_cases eq : j = account
  · subst eq
    refine Table.valueOf_update (fun _ => greatestDate j statuses.rows) ?_ ?_
    · exact fun _ => rfl
    · exact fun _ => Or.inl (Table.find_isSome_of_valueOf_ne (count rfl))
  · rw [if_neg eq]
    refine (Table.valueOf_update (fun _ => greatestDate j statuses.rows) ?_ ?_).trans ?_
    · exact fun _ => rfl
    · exact fun isKey => absurd isKey eq
    · exact if_neg eq

/-! ## The dates of the statuses -/

theorem datesOf_append (account : String) (rows rows' : List Status) :
    datesOf account (rows ++ rows') = datesOf account rows ++ datesOf account rows' := by
  rw [datesOf, List.filter_append, List.map_append]
  rfl

theorem datesOf_singleton_of_ne {account : String} {status : Status}
    (other : status.accountId ≠ account) : datesOf account [status] = [] := by
  simp [datesOf, other]

theorem datesOf_singleton (status : Status) :
    datesOf status.accountId [status] = [status.date] := by
  simp [datesOf]

theorem perm_datesOf_changed (fit : change.Applies statuses) (account : String) :
    (datesOf account (change.run statuses).rows ++ datesOf account change.old?.toList).Perm
      (datesOf account statuses.rows ++ datesOf account change.new?.toList) := by
  rw [← datesOf_append, ← datesOf_append]
  exact ((Change.perm_changed fit).filter _).map _

theorem greatestDate_changed_of_same {account : String} (fit : change.Applies statuses)
    (eq : datesOf account change.old?.toList = datesOf account change.new?.toList) :
    greatestDate account (change.run statuses).rows = greatestDate account statuses.rows := by
  have moved := perm_datesOf_changed fit account
  rw [eq, List.perm_append_right_iff] at moved
  exact max?_congr fun date => moved.mem_iff

theorem greatestDate_changed_of_new {new : Status} (fit : change.Applies statuses)
    (isNew : change.new? = some new) (notOld : datesOf new.accountId change.old?.toList = []) :
    greatestDate new.accountId (change.run statuses).rows
      = some (max ((greatestDate new.accountId statuses.rows).getD "") new.date) := by
  have moved := perm_datesOf_changed fit new.accountId
  rw [notOld, List.append_nil, isNew, Option.toList_some, datesOf_singleton] at moved
  apply max?_add
  · exact empty_le _
  · intro date
    rw [moved.mem_iff]
    simp

/-! ## The agreement -/

/-- The numbers of an account.  A removed status counts until its triggers have run. -/
structure StatsAgree (tables : Tables) (account : String) : Prop where
  followers :
    AccountStats.followers.value account tables.accountStats = tables.followersOf account
  following :
    AccountStats.following.value account tables.accountStats = tables.followingOf account
  statuses :
    statusesCountOf account tables.accountStats
      = tables.statusesOf account
        + referring (fun row : Status => some row.accountId) account tables.removedStatuses

/-- The last date of an account, once the triggers for its removed statuses have run. -/
def LastAgrees (tables : Tables) (account : String) : Prop :=
  (∀ row ∈ tables.removedStatuses, row.accountId ≠ account) →
    lastStatusOf account tables.accountStats = greatestDate account tables.statuses.rows

/-- A write keeps the dates of an account: a status that stays with it keeps its date. -/
def Write.keepsDate (account : String) : Write → Prop
  | .statuses (.update old new) =>
    old.accountId = account → new.accountId = account → new.date = old.date
  | _ => True

variable {write : Write} {pre post : Database}

namespace StatsAgree

variable {tables tables' : Tables} {account : String}

theorem of_statusesAccountStats (agree : StatsAgree tables account) (change : Change Status)
    (followers : tables'.followers = tables.followers)
    (follows : tables'.follows = tables.follows)
    (stats : tables'.accountStats
      = statusesAccountStats tables'.statuses change tables.accountStats)
    (statuses : statusesCountOf account tables'.accountStats
      = tables'.statusesOf account
        + referring (fun row : Status => some row.accountId) account tables'.removedStatuses) :
    StatsAgree tables' account where
  followers := by
    rw [Tables.followersOf, followers, follows, stats]
    exact (valueOf_statusesAccountStats _ (fun _ _ _ => rfl) (fun _ _ _ => rfl) _ _ _ _).trans
      agree.followers
  following := by
    rw [Tables.followingOf, follows, stats]
    exact (valueOf_statusesAccountStats _ (fun _ _ _ => rfl) (fun _ _ _ => rfl) _ _ _ _).trans
      agree.following
  statuses := statuses

theorem changeStatuses (agree : StatsAgree tables account)
    (fit : change.Applies tables.statuses) :
    StatsAgree (tables.changeStatuses change) account := by
  have count := (statusesAccountStats_keepsCount (change.run tables.statuses) account).agrees
    fit agree.statuses
  cases change with
  | insert new => exact agree.of_statusesAccountStats (.insert new) rfl rfl rfl count
  | update old new => exact agree.of_statusesAccountStats (.update old new) rfl rfl rfl count
  | delete old =>
    refine ⟨agree.followers, agree.following, ?_⟩
    have moved := Change.countP_changed fit
      fun row : Status => decide (some row.accountId = some account)
    have pre := agree.statuses
    simp only [Change.old?, Change.new?, Change.weigh_some, Change.weigh_none,
      decide_eq_true_eq] at moved
    change statusesCountOf account tables.accountStats
      = referring (fun row : Status => some row.accountId) account
          ((Change.delete old).run tables.statuses).rows
        + referring (fun row : Status => some row.accountId) account
          (old :: tables.removedStatuses)
    rw [referring_cons]
    simp only [Tables.statusesOf, referring] at pre ⊢
    omega

theorem fireStatuses_delete {old : Status} (agree : StatsAgree tables account)
    (removed : old ∈ tables.removedStatuses) :
    StatsAgree
      ({ tables with removedStatuses := tables.removedStatuses.erase old }.fireStatuses
        (.delete old)) account := by
  have pre := agree.statuses
  rw [referring_erase removed, ← Nat.add_assoc] at pre
  have taken : statusesCountOf account
        (statusesAccountStats tables.statuses (.delete old) tables.accountStats)
      = tables.statusesOf account
        + referring (fun row : Status => some row.accountId) account
          (tables.removedStatuses.erase old) := by
    apply (statusesAccountStats_keepsCount tables.statuses account).agrees_taken
    simpa [CounterTriggers.refersTo, accountTriggers] using pre
  exact agree.of_statusesAccountStats (.delete old) rfl rfl rfl taken

theorem afterStatusDelete {old : Status} (agree : StatsAgree tables account)
    (removed : old ∈ tables.removedStatuses) :
    StatsAgree (tables.afterStatusDelete old) account := by
  apply Tables.unlinkReplies_invariant fun later => StatsAgree later account
  · intro later _ child got agree
    exact agree.changeStatuses (Tables.applies_unlink got)
  · exact agree.fireStatuses_delete removed

theorem run (agree : StatsAgree tables account)
    (fit : write.Applies tables) : StatsAgree (write.run tables) account := by
  cases write with
  | statuses change => exact agree.changeStatuses fit
  | remoteStatuses change =>
    cases change <;> exact ⟨agree.followers, agree.following, agree.statuses⟩
  | followers change =>
    refine ⟨?_, ?_, ?_⟩
    · exact (CounterColumn.triggers_keepsCount _ _ account).agrees fit agree.followers
    · exact (followers_leaves_following.valueOf_fire _ account change _).trans agree.following
    · exact (followers_leaves_statuses.valueOf_fire _ account change _).trans agree.statuses
  | follows change =>
    refine ⟨?_, ?_, ?_⟩
    · have swapped := agree.followers.trans (Nat.add_comm _ _)
      have still := (following_leaves_followers.valueOf_fire Follow.acceptedFollower account
        change tables.accountStats).trans swapped
      have count := (CounterColumn.triggers_keepsCount _ _ account).agrees fit still
      exact count.trans (Nat.add_comm _ _)
    · exact (followers_leaves_following.valueOf_fire _ account change _).trans
        ((CounterColumn.triggers_keepsCount _ _ account).agrees_alone fit agree.following)
    · exact (followers_leaves_statuses.valueOf_fire _ account change _).trans
        ((following_leaves_statuses.valueOf_fire _ account change _).trans agree.statuses)
  | _ => exact ⟨agree.followers, agree.following, agree.statuses⟩

theorem of_closed (done : tables.Settled) (gone : tables.hasAccount account = false) :
    StatsAgree tables account := by
  have closed := done.closed
  have noStats : tables.accountStats.find account = none := by
    rw [Table.find_eq_none]
    rintro row mem rfl
    simpa [gone] using closed.accountStats row mem
  have noFollow : ∀ row ∈ tables.follows.rows,
      row.followerAccountId ≠ account ∧ row.targetAccountId ≠ some account := by
    intro row mem
    have grounded := closed.follows row mem
    refine ⟨?_, ?_⟩
    · rintro rfl
      simp [Tables.groundsFollow, gone] at grounded
    · intro refers
      simp [Tables.groundsFollow, refers, gone] at grounded
  have noFollower : ∀ row ∈ tables.followers.rows, some row.accountId ≠ some account := by
    intro row mem refers
    have grounded := closed.followers row mem
    simp [Option.some.inj refers, gone] at grounded
  have noStatus : ∀ row ∈ tables.statuses.rows, some row.accountId ≠ some account := by
    intro row mem refers
    have grounded := closed.statuses row mem
    simp [Option.some.inj refers, gone] at grounded
  refine ⟨(Table.valueOf_of_find_none noStats).trans ?_,
    (Table.valueOf_of_find_none noStats).trans ?_,
    (Table.valueOf_of_find_none noStats).trans ?_⟩
  · rw [Tables.followersOf, referring_eq_zero noFollower, referring_eq_zero]
    intro row mem
    unfold Follow.acceptedTarget
    split_ifs
    · exact (noFollow row mem).2
    · exact fun refers => by cases refers
  · rw [Tables.followingOf, referring_eq_zero]
    intro row mem
    unfold Follow.acceptedFollower
    split_ifs
    · exact fun refers => (noFollow row mem).1 (Option.some.inj refers)
    · exact fun refers => by cases refers
  · rw [Tables.statusesOf, referring_eq_zero noStatus, done.statuses]
    rfl

/-- **What follows a deletion** keeps the numbers of an account that is there. -/
theorem followUp (agree : StatsAgree tables account) (here : tables.hasAccount account)
    (followUp : FollowUp tables tables') : StatsAgree tables' account := by
  cases followUp with
  | cascade fit _ => exact agree.run fit
  | statusTriggers removed => exact agree.afterStatusDelete removed
  | @accountStats row held orphan =>
    have other : row.accountId ≠ account := by
      rintro rfl
      rw [here] at orphan
      cases orphan
    refine ⟨?_, ?_, ?_⟩
    · exact (Table.valueOf_delete_of_ne other).trans agree.followers
    · exact (Table.valueOf_delete_of_ne other).trans agree.following
    · exact (Table.valueOf_delete_of_ne other).trans agree.statuses
  | _ => exact ⟨agree.followers, agree.following, agree.statuses⟩

end StatsAgree

namespace LastAgrees

variable {tables tables' : Tables} {account : String}

theorem insert {new : Status} (last : LastAgrees tables account)
    (fit : (Change.insert new).Applies tables.statuses) :
    LastAgrees (tables.changeStatuses (.insert new)) account := by
  intro noneRemoved
  refine (lastStatusOf_countStatus new new.accountId account tables.accountStats).trans ?_
  by_cases own : new.accountId = account
  · subst own
    rw [if_pos rfl, last noneRemoved]
    exact (greatestDate_changed_of_new fit rfl rfl).symm
  · rw [if_neg own, last noneRemoved]
    refine (greatestDate_changed_of_same fit ?_).symm
    exact (datesOf_singleton_of_ne own).symm

variable {old : Status}

theorem datesOf_kept {new : Status} (eq : new.accountId = old.accountId)
    (keeps : (Write.statuses (.update old new)).keepsDate account) :
    datesOf account [old] = datesOf account [new] := by
  by_cases own : old.accountId = account
  · have date := keeps own (eq.trans own)
    rw [← own, datesOf_singleton old, ← eq, datesOf_singleton new, date]
  · rw [datesOf_singleton_of_ne own, datesOf_singleton_of_ne fun h => own (eq.symm.trans h)]

/-- An update: nothing is written where the account stays; the account that loses the
status takes the greatest date that is left, the one that gains it the later date. -/
theorem update {new : Status} (agree : StatsAgree tables account) (last : LastAgrees tables account)
    (fit : (Change.update old new).Applies tables.statuses)
    (keeps : (Write.statuses (.update old new)).keepsDate account) :
    LastAgrees (tables.changeStatuses (.update old new)) account := by
  intro noneRemoved
  change lastStatusOf account
      (if decide (some new.accountId ≠ some old.accountId) then
        countStatus new new.accountId
          (uncountStatus ((Change.update old new).run tables.statuses) old.accountId
            tables.accountStats)
      else tables.accountStats)
    = greatestDate account ((Change.update old new).run tables.statuses).rows
  by_cases eq : new.accountId = old.accountId
  · rw [if_neg (by simpa using eq), last noneRemoved]
    exact (greatestDate_changed_of_same fit (datesOf_kept eq keeps)).symm
  · rw [if_pos (by simpa using eq), lastStatusOf_countStatus]
    by_cases isOld : old.accountId = account
    · have isNew : ¬ new.accountId = account := fun h => eq (h.trans isOld.symm)
      have count : statusesCountOf account tables.accountStats ≠ 0 := by
        have held := Change.weigh_old_le fit
          fun row : Status => decide (some row.accountId = some account)
        have numbers := agree.statuses
        simp only [Change.old?, Change.weigh_some, isOld, decide_true, if_true] at held
        simp only [Tables.statusesOf, referring] at numbers
        omega
      rw [if_neg isNew, lastStatusOf_uncountStatus fun _ => count, if_pos isOld]
    · rw [lastStatusOf_uncountStatus fun h => absurd h isOld, if_neg isOld, last noneRemoved]
      by_cases isNew : new.accountId = account
      · subst isNew
        rw [if_pos rfl]
        exact (greatestDate_changed_of_new fit rfl (datesOf_singleton_of_ne isOld)).symm
      · rw [if_neg isNew]
        refine (greatestDate_changed_of_same fit ?_).symm
        exact (datesOf_singleton_of_ne isOld).trans (datesOf_singleton_of_ne isNew).symm

theorem delete (last : LastAgrees tables account)
    (fit : (Change.delete old).Applies tables.statuses) :
    LastAgrees (tables.changeStatuses (.delete old)) account := by
  intro noneRemoved
  have notOld := noneRemoved old (List.mem_cons_self ..)
  refine (last fun row mem => noneRemoved row (List.mem_cons_of_mem _ mem)).trans ?_
  exact (greatestDate_changed_of_same fit (datesOf_singleton_of_ne notOld)).symm

theorem changeStatuses (agree : StatsAgree tables account)
    (last : LastAgrees tables account) (fit : change.Applies tables.statuses)
    (keeps : (Write.statuses change).keepsDate account) :
    LastAgrees (tables.changeStatuses change) account := by
  cases change with
  | insert new => exact last.insert fit
  | update old new => exact last.update agree fit keeps
  | delete old => exact last.delete fit

theorem fireStatuses_delete (agree : StatsAgree tables account) (last : LastAgrees tables account)
    (removed : old ∈ tables.removedStatuses) :
    LastAgrees
      ({ tables with removedStatuses := tables.removedStatuses.erase old }.fireStatuses
        (.delete old)) account := by
  intro noneRemoved
  change lastStatusOf account (uncountStatus tables.statuses old.accountId tables.accountStats) = _
  by_cases own : old.accountId = account
  · have count : statusesCountOf account tables.accountStats ≠ 0 := by
      have numbers := agree.statuses
      rw [referring_erase removed, if_pos (congrArg some own)] at numbers
      omega
    rw [lastStatusOf_uncountStatus fun _ => count, if_pos own]
    rfl
  · rw [lastStatusOf_uncountStatus fun h => absurd h own, if_neg own]
    apply last
    intro row mem
    by_cases isOld : row = old
    · exact isOld ▸ own
    · exact noneRemoved row ((List.mem_erase_of_ne isOld).mpr mem)

theorem afterStatusDelete (agree : StatsAgree tables account) (last : LastAgrees tables account)
    (removed : old ∈ tables.removedStatuses) :
    LastAgrees (tables.afterStatusDelete old) account := by
  have both : StatsAgree (tables.afterStatusDelete old) account
      ∧ LastAgrees (tables.afterStatusDelete old) account := by
    apply Tables.unlinkReplies_invariant fun later =>
      StatsAgree later account ∧ LastAgrees later account
    · rintro later _ child got ⟨agree, last⟩
      have fit := Tables.applies_unlink got
      exact ⟨agree.changeStatuses fit, last.changeStatuses agree fit fun _ _ => rfl⟩
    · exact ⟨agree.fireStatuses_delete removed, last.fireStatuses_delete agree removed⟩
  exact both.2

/-- **A write that keeps the dates of an account keeps its last date.** -/
theorem run (agree : StatsAgree tables account) (last : LastAgrees tables account)
    (fit : write.Applies tables) (keeps : write.keepsDate account) :
    LastAgrees (write.run tables) account := by
  cases write with
  | statuses change => exact last.changeStatuses agree fit keeps
  | remoteStatuses change => cases change <;> exact last
  | followers change =>
    intro noneRemoved
    exact (followers_leaves_last.valueOf_fire _ account change _).trans (last noneRemoved)
  | follows change =>
    intro noneRemoved
    exact (followers_leaves_last.valueOf_fire _ account change _).trans
      ((following_leaves_last.valueOf_fire _ account change _).trans (last noneRemoved))
  | _ => exact last

theorem of_closed (closed : tables.Closed) (gone : tables.hasAccount account = false) :
    LastAgrees tables account := by
  intro _
  have noStats : tables.accountStats.find account = none := by
    rw [Table.find_eq_none]
    rintro row mem rfl
    simpa [gone] using closed.accountStats row mem
  have noDates : datesOf account tables.statuses.rows = [] := by
    rw [datesOf, List.map_eq_nil_iff, List.filter_eq_nil_iff]
    intro row mem own
    have grounded := closed.statuses row mem
    simp [of_decide_eq_true own, gone] at grounded
  rw [greatestDate, noDates]
  exact Table.valueOf_of_find_none noStats

/-- **What follows a deletion** keeps the last date of an account that is there. -/
theorem followUp (agree : StatsAgree tables account) (last : LastAgrees tables account)
    (here : tables.hasAccount account) (followUp : FollowUp tables tables') :
    LastAgrees tables' account := by
  cases followUp with
  | @cascade write fit cascades =>
    apply last.run agree fit
    cases write with
    | statuses change =>
      cases change with
      | update old new => exact absurd cascades Bool.false_ne_true
      | insert new | delete old => trivial
    | _ => trivial
  | statusTriggers removed => exact last.afterStatusDelete agree removed
  | @accountStats row held orphan =>
    have other : row.accountId ≠ account := by
      rintro rfl
      rw [here] at orphan
      cases orphan
    intro noneRemoved
    exact (Table.valueOf_delete_of_ne other).trans (last noneRemoved)
  | _ => exact last

end LastAgrees

/-! ## Statements and runs -/

theorem StatsAgree.statement {account : String}
    (agree : pre.hasAccount account → StatsAgree pre.toTables account)
    (stmt : Statement pre write post) (here : post.hasAccount account) :
    StatsAgree post.toTables account := by
  have kept : post.hasAccount account → StatsAgree post.toTables account := by
    apply stmt.invariant fun later => later.hasAccount account → StatsAgree later account
    · intro fit _
      apply StatsAgree.run _ fit
      cases there : pre.hasAccount account with
      | true => exact agree there
      | false => exact StatsAgree.of_closed pre.settled there
    · intro tables tables' agree followUp there
      rw [followUp.hasAccount] at there
      exact (agree there).followUp there followUp
  exact kept here

/-- **A statement that keeps the dates of an account keeps its last date.** -/
theorem LastAgrees.statement {account : String}
    (agree : pre.hasAccount account →
      StatsAgree pre.toTables account ∧ LastAgrees pre.toTables account)
    (keeps : write.keepsDate account) (stmt : Statement pre write post)
    (here : post.hasAccount account) :
    StatsAgree post.toTables account ∧ LastAgrees post.toTables account := by
  have kept : post.hasAccount account →
      StatsAgree post.toTables account ∧ LastAgrees post.toTables account := by
    apply stmt.invariant fun later =>
      later.hasAccount account → StatsAgree later account ∧ LastAgrees later account
    · intro fit _
      have start : StatsAgree pre.toTables account ∧ LastAgrees pre.toTables account := by
        cases there : pre.hasAccount account with
        | true => exact agree there
        | false =>
          exact ⟨StatsAgree.of_closed pre.settled there,
            LastAgrees.of_closed pre.settled.closed there⟩
      exact ⟨start.1.run fit, start.2.run start.1 fit keeps⟩
    · intro tables tables' agree followUp there
      rw [followUp.hasAccount] at there
      obtain ⟨numbers, last⟩ := agree there
      exact ⟨numbers.followUp there followUp, last.followUp numbers there followUp⟩
  exact kept here

theorem statsAgree_migrated (db : Database) {account : String}
    (here : db.hasAccount account) :
    StatsAgree db.migrated.toTables account ∧ LastAgrees db.migrated.toTables account := by
  have noneRemoved : db.migrated.removedStatuses = [] := db.migrated.settled.statuses
  refine ⟨⟨?_, ?_, ?_⟩, ?_⟩
  · exact Tables.valueOf_migrated_accountStats AccountStats.followersCount 0 here
  · exact Tables.valueOf_migrated_accountStats AccountStats.followingCount 0 here
  · rw [noneRemoved]
    exact Tables.valueOf_migrated_accountStats AccountStats.statusesCount 0 here
  · intro _
    exact Tables.valueOf_migrated_accountStats AccountStats.lastStatusAt none here

/-- **The statistics of an account are right.**  After every sequence of statements from
the migrated database, `followers_count` is the number of followers and of accepted
follows that target the account, `following_count` that of its accepted follows, and
`statuses_count` that of its statuses.  `last_status_at` is the greatest creation date of
its statuses if no status that stayed with the account had its creation date rewritten. -/
theorem accountStats_counted (db : Database) {trace : List (Transition Database Write)}
    {finish : Database} (run : Run Statement db.migrated trace finish) {account : String}
    (present : finish.hasAccount account) :
    AccountStats.followers.value account finish.accountStats = finish.followersOf account
      ∧ AccountStats.following.value account finish.accountStats = finish.followingOf account
      ∧ statusesCountOf account finish.accountStats = finish.statusesOf account
      ∧ (Along (fun _ write => write.keepsDate account) trace →
          lastStatusOf account finish.accountStats
            = greatestDate account finish.statuses.rows) := by
  have numbers : finish.hasAccount account → StatsAgree finish.toTables account := by
    let Right : Database → Prop := fun later =>
      later.hasAccount account → StatsAgree later.toTables account
    have init : Right db.migrated := fun present => (statsAgree_migrated db present).1
    exact run.invariant_of_step init (fun agree stmt there => StatsAgree.statement agree stmt there)
  have agree := numbers present
  refine ⟨agree.followers, agree.following, ?_, ?_⟩
  · have count := agree.statuses
    rwa [finish.settled.statuses] at count
  · intro met
    have both : finish.hasAccount account →
        StatsAgree finish.toTables account ∧ LastAgrees finish.toTables account := by
      let Right : Database → Prop := fun later => later.hasAccount account →
        StatsAgree later.toTables account ∧ LastAgrees later.toTables account
      have init : Right db.migrated := fun present => statsAgree_migrated db present
      exact run.invariant init
        (fun agree keeps stmt there => LastAgrees.statement agree keeps stmt there) met
    apply (both present).2
    intro row mem
    rw [finish.settled.statuses] at mem
    cases mem

/-! ### A run with cascades

Alice has two posts and carol, who follows her, has one.  Alice deletes her later post,
and then the account of carol is deleted with all that hangs on it. -/

def postOf (id account createdAt : String) : Status :=
  ⟨id, account, none, .publicPost, none, .accepted, createdAt⟩

def carolFollowsAlice : Follow := ⟨"follow", "carol", some "alice", "accepted"⟩

def twoAccounts : Database where
  toTables :=
    { Tables.empty with
      accounts := { rows := [⟨"alice"⟩, ⟨"carol"⟩], keysDistinct := by decide }
      statuses :=
        { rows :=
            [postOf "first" "alice" "2024-05-01T00:00:00Z",
              postOf "second" "alice" "2024-05-02T00:00:00Z",
              postOf "hers" "carol" "2024-05-03T00:00:00Z"]
          keysDistinct := by decide }
      follows := Table.singleton carolFollowsAlice }
  settled := by decide +kernel

def secondPost : Status := postOf "second" "alice" "2024-05-02T00:00:00Z"

def carolsPost : Status := postOf "hers" "carol" "2024-05-03T00:00:00Z"

def withoutSecond : Database where
  toTables :=
    let removed := (Write.statuses (.delete secondPost)).run twoAccounts.migrated.toTables
    (removed.dropStatusCounts ⟨"second", 0, 0, 0⟩).afterStatusDelete secondPost
  settled := by decide +kernel

/-- The follow, the statistics and the post go, and the triggers of the post run last. -/
def withoutCarol : Database where
  toTables :=
    let removed := (Write.accounts (.delete ⟨"carol"⟩)).run withoutSecond.toTables
    let unfollowed := (Write.follows (.delete carolFollowsAlice)).run removed
    let unlisted := unfollowed.dropAccountStats ⟨"carol", 0, 0, 1, some "2024-05-03"⟩
    let emptied := (Write.statuses (.delete carolsPost)).run unlisted
    (emptied.dropStatusCounts ⟨"hers", 0, 0, 0⟩).afterStatusDelete carolsPost
  settled := by decide +kernel

theorem secondPost_deleted :
    Statement twoAccounts.migrated (.statuses (.delete secondPost)) withoutSecond := by
  refine Statement.delete (by decide +kernel) rfl ?_
  refine Relation.ReflTransGen.head
    (@FollowUp.statusCounts _ ⟨"second", 0, 0, 0⟩ (by decide +kernel) (by decide +kernel)) ?_
  exact Relation.ReflTransGen.single (@FollowUp.statusTriggers _ secondPost (by decide +kernel))

theorem carol_deleted : Statement withoutSecond (.accounts (.delete ⟨"carol"⟩)) withoutCarol := by
  refine Statement.delete (by decide +kernel) rfl ?_
  refine Relation.ReflTransGen.head
    (@FollowUp.cascade _ (.follows (.delete carolFollowsAlice)) (by decide +kernel)
      (by decide +kernel)) ?_
  refine Relation.ReflTransGen.head
    (@FollowUp.accountStats _ ⟨"carol", 0, 0, 1, some "2024-05-03"⟩ (by decide +kernel)
      (by decide +kernel)) ?_
  refine Relation.ReflTransGen.head
    (@FollowUp.cascade _ (.statuses (.delete carolsPost)) (by decide +kernel)
      (by decide +kernel)) ?_
  refine Relation.ReflTransGen.head
    (@FollowUp.statusCounts _ ⟨"hers", 0, 0, 0⟩ (by decide +kernel) (by decide +kernel)) ?_
  exact Relation.ReflTransGen.single (@FollowUp.statusTriggers _ carolsPost (by decide +kernel))

/-- Alice has lost a follower and a post, and her last post is the first again. -/
theorem accountStats_counted_alice :
    AccountStats.followers.value "alice" withoutCarol.accountStats = 0
      ∧ statusesCountOf "alice" withoutCarol.accountStats = 1
      ∧ lastStatusOf "alice" withoutCarol.accountStats = some "2024-05-01" := by
  have run := (Run.start.snoc secondPost_deleted).snoc carol_deleted
  have right := accountStats_counted twoAccounts run
    (by decide +kernel : withoutCarol.hasAccount "alice")
  obtain ⟨followers, _, statuses, last⟩ := right
  refine ⟨followers.trans (by decide +kernel), statuses.trans (by decide +kernel), ?_⟩
  refine (last ?_).trans (by decide +kernel)
  rw [Along.snoc_iff, Along.snoc_iff]
  exact ⟨⟨Along.nil, trivial⟩, trivial⟩

/-! ### A creation date that is rewritten -/

def rewrittenPost : Status := postOf "second" "alice" "2024-06-01T00:00:00Z"

def rewritten : Database where
  toTables := (Write.statuses (.update secondPost rewrittenPost)).run twoAccounts.migrated.toTables
  settled := by decide +kernel

/-- **The condition on the dates is needed**: a status that keeps its account but not its
creation date leaves the date that is no longer there. -/
theorem rewritten_date_is_kept :
    ¬ ∀ (db : Database) (trace : List (Transition Database Write)) (finish : Database),
      Run Statement db.migrated trace finish → ∀ account, finish.hasAccount account →
        AccountStats.followers.value account finish.accountStats = finish.followersOf account
          ∧ AccountStats.following.value account finish.accountStats = finish.followingOf account
          ∧ statusesCountOf account finish.accountStats = finish.statusesOf account
          ∧ lastStatusOf account finish.accountStats
            = greatestDate account finish.statuses.rows := by
  intro took
  have update : Statement twoAccounts.migrated (.statuses (.update secondPost rewrittenPost))
      rewritten := Statement.change (by decide +kernel) rfl rfl
  obtain ⟨_, _, _, last⟩ := took twoAccounts _ _ (Run.start.snoc update) "alice" (by decide +kernel)
  exact absurd last (by decide +kernel)

end Cfwdon.Counters
