import Cfwdon.Counters.Statements
import Mathlib.Data.List.Dedup

/-!
# The counts as the migrations fill them in

The migrations that create the counts tables fill them from the rows that are already
there.  The replies column comes later than the table it stands in, so its numbers are
written over the rows that exist.

* `favourites_migrated` and the lemmas like it -- after the migrations each counter is
  the number of rows that it counts;
* `settled_migrated` -- the migrations keep every foreign key.
-/

namespace Cfwdon.Counters

open Library

namespace Tables

/-- The rows of `favourites` and `remote_favourites` that refer to a local status. -/
def favouritesOf (tables : Tables) (id : String) : Nat :=
  referring Reaction.statusId id tables.favourites.rows
    + referring (fun row : RemoteReaction => some row.statusId) id tables.remoteFavourites.rows

/-- The rows of `reblogs` and `remote_reblogs` that refer to a local status. -/
def reblogsOf (tables : Tables) (id : String) : Nat :=
  referring Reaction.statusId id tables.reblogs.rows
    + referring (fun row : RemoteReaction => some row.statusId) id tables.remoteReblogs.rows

/-- The rows of `favourites` that refer to a remote status. -/
def favouritesOfRemote (tables : Tables) (id : String) : Nat :=
  referring Reaction.remoteStatusId id tables.favourites.rows

/-- The rows of `reblogs` that refer to a remote status. -/
def reblogsOfRemote (tables : Tables) (id : String) : Nat :=
  referring Reaction.remoteStatusId id tables.reblogs.rows

def followersOf (tables : Tables) (account : String) : Nat :=
  referring (fun row : Follower => some row.accountId) account tables.followers.rows
    + referring Follow.acceptedTarget account tables.follows.rows

def followingOf (tables : Tables) (account : String) : Nat :=
  referring Follow.acceptedFollower account tables.follows.rows

def statusesOf (tables : Tables) (account : String) : Nat :=
  referring (fun row : Status => some row.accountId) account tables.statuses.rows

/-- The public or unlisted statuses, local and remote, that reply to a status. -/
def repliesTo (tables : Tables) (id : String) : Nat :=
  referring (fun row : Status => row.reply.countedParent) id tables.statuses.rows
    + referring (fun row : RemoteStatus => row.reply.countedParent) id tables.remoteStatuses.rows

/-- The local and remote statuses that quote a URI and are accepted. -/
def quotesOf (tables : Tables) (uri : String) : Nat :=
  referring Status.acceptedQuote uri tables.statuses.rows
    + referring RemoteStatus.acceptedQuote uri tables.remoteStatuses.rows

/-! ## Migrations -/

/-- `081_status_interaction_counts.sql`. -/
def countInteractions (tables : Tables) : Tables :=
  { tables with
    statusCounts := tables.statuses.view
      (fun status : Status =>
        { statusId := status.id
          favouritesCount := tables.favouritesOf status.id
          reblogsCount := tables.reblogsOf status.id })
      (fun _ => rfl)
    remoteStatusCounts := tables.remoteStatuses.view
      (fun status : RemoteStatus =>
        { statusId := status.id
          favouritesCount := tables.favouritesOfRemote status.id
          reblogsCount := tables.reblogsOfRemote status.id })
      (fun _ => rfl) }

/-- `082_account_stats.sql`. -/
def countAccounts (tables : Tables) : Tables :=
  { tables with
    accountStats := tables.accounts.view
      (fun account : Account =>
        { accountId := account.id
          followersCount := tables.followersOf account.id
          followingCount := tables.followingOf account.id
          statusesCount := tables.statusesOf account.id
          lastStatusAt := greatestDate account.id tables.statuses.rows })
      (fun _ => rfl) }

/-- The URIs of the accepted quotes, `UNION ALL` over the two tables. -/
def quotedUris (tables : Tables) : List String :=
  tables.statuses.rows.filterMap Status.acceptedQuote
    ++ tables.remoteStatuses.rows.filterMap RemoteStatus.acceptedQuote

/-- `114_quote_target_counts.sql`: `GROUP BY target_uri`. -/
def countQuotes (tables : Tables) : Tables :=
  { tables with
    quoteTargetCounts :=
      { rows := tables.quotedUris.dedup.map fun uri =>
          { targetUri := uri, quotesCount := tables.quotedUris.count uri }
        keysDistinct := by
          rw [List.map_map]
          exact (List.map_id _).symm ▸ List.nodup_dedup _ } }

/-- The parents of the counted replies, `UNION ALL` over the two tables. -/
def repliedIds (tables : Tables) : List String :=
  tables.statuses.rows.filterMap (fun row => row.reply.countedParent)
    ++ tables.remoteStatuses.rows.filterMap (fun row => row.reply.countedParent)

def writeReplies (parents : List String) (numberOf : String → Nat) (counts : StatusCountsTable) :
    StatusCountsTable :=
  parents.foldl
    (fun counts parent =>
      counts.upsert { statusId := parent, repliesCount := numberOf parent }
        (fun row => { row with repliesCount := numberOf parent }) (fun _ => rfl))
    counts

/-- `122_status_replies_count.sql`, for the parents that are statuses of the kind. -/
def countReplies (tables : Tables) : Tables :=
  { tables with
    statusCounts := writeReplies ((tables.repliedIds.filter tables.hasStatus).dedup)
      (fun parent => tables.repliedIds.count parent) tables.statusCounts
    remoteStatusCounts := writeReplies ((tables.repliedIds.filter tables.hasRemoteStatus).dedup)
      (fun parent => tables.repliedIds.count parent) tables.remoteStatusCounts }

/-- The counting migrations, in order. -/
def migrated (tables : Tables) : Tables :=
  tables.countInteractions.countAccounts.countQuotes.countReplies

end Tables

/-! ## The numbers after the migrations -/

theorem referring_eq_count {Row : Type*} (ref : Row → Option String) (k : String)
    (rows : List Row) : referring ref k rows = (rows.filterMap ref).count k := by
  rw [referring, List.count, List.countP_filterMap]
  refine List.countP_congr fun row _ => ?_
  cases ref row with
  | none | some j => simp

theorem valueOf_writeReplies {Value : Type*} {column : StatusCounts → Value} {default : Value}
    (columnKept : ∀ row n, column { row with repliesCount := n } = column row)
    (first : ∀ id n, column { statusId := id, repliesCount := n } = default)
    (parents : List String) (numberOf : String → Nat) (counts : StatusCountsTable) (k : String) :
    (Tables.writeReplies parents numberOf counts).valueOf column default k
      = counts.valueOf column default k := by
  unfold Tables.writeReplies
  induction parents generalizing counts with
  | nil => rfl
  | cons parent rest ih =>
    rw [List.foldl_cons, ih, Table.valueOf_upsert id (first _ _) fun held => columnKept held _]
    split_ifs <;> rfl

theorem replies_writeReplies (parents : List String) (numberOf : String → Nat)
    (counts : StatusCountsTable) (k : String) :
    StatusCounts.replies.value k (Tables.writeReplies parents numberOf counts)
      = if k ∈ parents then numberOf k else StatusCounts.replies.value k counts := by
  unfold Tables.writeReplies
  induction parents generalizing counts with
  | nil => simp
  | cons parent rest ih =>
    have wrote : StatusCounts.replies.value k
          (counts.upsert { statusId := parent, repliesCount := numberOf parent }
            (fun row => { row with repliesCount := numberOf parent }) (fun _ => rfl))
        = if parent = k then numberOf parent else StatusCounts.replies.value k counts :=
      Table.valueOf_upsert (fun _ => numberOf parent) rfl fun _ => rfl
    rw [List.foldl_cons, ih, wrote]
    by_cases later : k ∈ rest
    · simp [later]
    · by_cases eq : parent = k
      · simp [later, eq]
      · have other : ¬ k = parent := fun h => eq h.symm
        simp [later, eq, other]

theorem find_writeReplies_isSome {parents : List String} {numberOf : String → Nat}
    {counts : StatusCountsTable} {k : String}
    (got : ((Tables.writeReplies parents numberOf counts).find k).isSome) :
    k ∈ parents ∨ (counts.find k).isSome := by
  unfold Tables.writeReplies at got
  induction parents generalizing counts with
  | nil => exact Or.inr got
  | cons parent rest ih =>
    rcases ih got with later | held
    · exact Or.inl (List.mem_cons_of_mem _ later)
    · rw [Table.find_upsert] at held
      split_ifs at held with eq
      · exact Or.inl (by simp [← eq])
      · exact Or.inr held

namespace Tables

variable {tables : Tables} {id account : String}

/-! ### Interactions -/

theorem favourites_migrated (held : tables.hasStatus id) :
    StatusCounts.favourites.value id tables.migrated.statusCounts = tables.favouritesOf id := by
  obtain ⟨status, got⟩ := Option.isSome_iff_exists.mp held
  rw [← Table.key_of_find got]
  refine (valueOf_writeReplies (fun _ _ => rfl) (fun _ _ => rfl) _ _ _ _).trans ?_
  exact Table.valueOf_view (fun _ => rfl) (by rwa [Table.key_of_find got])

theorem reblogs_migrated (held : tables.hasStatus id) :
    StatusCounts.reblogs.value id tables.migrated.statusCounts = tables.reblogsOf id := by
  obtain ⟨status, got⟩ := Option.isSome_iff_exists.mp held
  rw [← Table.key_of_find got]
  refine (valueOf_writeReplies (fun _ _ => rfl) (fun _ _ => rfl) _ _ _ _).trans ?_
  exact Table.valueOf_view (fun _ => rfl) (by rwa [Table.key_of_find got])

theorem favouritesOfRemote_migrated (held : tables.hasRemoteStatus id) :
    StatusCounts.favourites.value id tables.migrated.remoteStatusCounts
      = tables.favouritesOfRemote id := by
  obtain ⟨status, got⟩ := Option.isSome_iff_exists.mp held
  rw [← Table.key_of_find got]
  refine (valueOf_writeReplies (fun _ _ => rfl) (fun _ _ => rfl) _ _ _ _).trans ?_
  exact Table.valueOf_view (fun _ => rfl) (by rwa [Table.key_of_find got])

theorem reblogsOfRemote_migrated (held : tables.hasRemoteStatus id) :
    StatusCounts.reblogs.value id tables.migrated.remoteStatusCounts
      = tables.reblogsOfRemote id := by
  obtain ⟨status, got⟩ := Option.isSome_iff_exists.mp held
  rw [← Table.key_of_find got]
  refine (valueOf_writeReplies (fun _ _ => rfl) (fun _ _ => rfl) _ _ _ _).trans ?_
  exact Table.valueOf_view (fun _ => rfl) (by rwa [Table.key_of_find got])

theorem valueOf_migrated_accountStats {Value : Type*} (column : AccountStats → Value)
    (default : Value) (held : tables.hasAccount account) :
    tables.migrated.accountStats.valueOf column default account
      = column
          { accountId := account
            followersCount := tables.followersOf account
            followingCount := tables.followingOf account
            statusesCount := tables.statusesOf account
            lastStatusAt := greatestDate account tables.statuses.rows } := by
  obtain ⟨row, got⟩ := Option.isSome_iff_exists.mp held
  rw [← Table.key_of_find got]
  exact Table.valueOf_view (fun _ => rfl) (by rwa [Table.key_of_find got])

/-! ### Quotes and replies -/

theorem count_quotedUris (uri : String) : tables.quotedUris.count uri = tables.quotesOf uri := by
  rw [quotedUris, List.count_append, quotesOf, referring_eq_count, referring_eq_count]

theorem count_repliedIds : tables.repliedIds.count id = tables.repliesTo id := by
  rw [repliedIds, List.count_append, repliesTo, referring_eq_count, referring_eq_count]

theorem quotes_migrated (uri : String) :
    QuoteTargetCounts.quotes.value uri tables.migrated.quoteTargetCounts = tables.quotesOf uri := by
  rw [← count_quotedUris]
  by_cases quoted : uri ∈ tables.quotedUris
  · have got : tables.migrated.quoteTargetCounts.find uri
        = some { targetUri := uri, quotesCount := tables.quotedUris.count uri } :=
      Table.find_iff.mpr ⟨List.mem_map.mpr ⟨uri, List.mem_dedup.mpr quoted, rfl⟩, rfl⟩
    exact Table.valueOf_of_find got
  · have gone : tables.migrated.quoteTargetCounts.find uri = none := by
      rw [Table.find_eq_none]
      intro row mem isKey
      obtain ⟨other, listed, rfl⟩ := List.mem_map.mp mem
      exact quoted (isKey ▸ List.mem_dedup.mp listed)
    rw [List.count_eq_zero_of_not_mem quoted]
    exact Table.valueOf_of_find_none gone

/-- **122** on one counts table: over a blank column, each status of the kind gets the
number of its replies. -/
theorem replies_written {isStatus : String → Bool} {counts : StatusCountsTable}
    (held : isStatus id) (blank : StatusCounts.replies.value id counts = 0) :
    StatusCounts.replies.value id
        (writeReplies ((tables.repliedIds.filter isStatus).dedup)
          (fun parent => tables.repliedIds.count parent) counts)
      = tables.repliesTo id := by
  rw [replies_writeReplies, ← count_repliedIds, blank]
  by_cases replied : id ∈ tables.repliedIds
  · exact if_pos (by simpa using ⟨replied, held⟩)
  · rw [if_neg (by simpa using fun mem => absurd mem replied),
      List.count_eq_zero_of_not_mem replied]

theorem replies_migrated (held : tables.hasStatus id) :
    StatusCounts.replies.value id tables.migrated.statusCounts = tables.repliesTo id := by
  obtain ⟨status, got⟩ := Option.isSome_iff_exists.mp held
  have blank : StatusCounts.replies.value id tables.countInteractions.statusCounts = 0 :=
    Table.valueOf_view (fun _ => rfl) got
  exact @replies_written tables id _ _ held blank

theorem replies_migrated_remote (held : tables.hasRemoteStatus id) :
    StatusCounts.replies.value id tables.migrated.remoteStatusCounts = tables.repliesTo id := by
  obtain ⟨status, got⟩ := Option.isSome_iff_exists.mp held
  have blank : StatusCounts.replies.value id tables.countInteractions.remoteStatusCounts = 0 :=
    Table.valueOf_view (fun _ => rfl) got
  exact @replies_written tables id _ _ held blank

theorem settled_migrated (done : tables.Settled) : tables.migrated.Settled := by
  have closed := done.closed
  refine ⟨?_, done.statuses, done.remoteStatuses⟩
  refine { closed with statusCounts := ?_, remoteStatusCounts := ?_, accountStats := ?_ }
  · intro row mem
    rcases find_writeReplies_isSome (Option.isSome_iff_exists.mpr ⟨row, Table.find_of_mem mem⟩)
      with parent | viewed
    · exact (List.mem_filter.mp (List.mem_dedup.mp parent)).2
    · have here : (tables.statuses.find row.statusId).isSome := by
        simpa [countQuotes, countAccounts, countInteractions] using viewed
      exact here
  · intro row mem
    rcases find_writeReplies_isSome (Option.isSome_iff_exists.mpr ⟨row, Table.find_of_mem mem⟩)
      with parent | viewed
    · exact (List.mem_filter.mp (List.mem_dedup.mp parent)).2
    · have here : (tables.remoteStatuses.find row.statusId).isSome := by
        simpa [countQuotes, countAccounts, countInteractions] using viewed
      exact here
  · intro row mem
    exact Table.find_isSome_of_mem_view (fun _ => rfl) mem

end Tables

def Database.migrated (db : Database) : Database where
  toTables := db.toTables.migrated
  settled := Tables.settled_migrated db.settled

end Cfwdon.Counters
