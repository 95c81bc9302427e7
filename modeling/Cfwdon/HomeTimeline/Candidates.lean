import Cfwdon.Library.Table
import Cfwdon.Statuses.Content
import Cfwdon.Timelines.Cursors

/-!
# Candidates of the home timeline

The candidates come from five branches: own statuses, those of followed accounts and those
of followed tags, each for the statuses of this server and of others.  Every branch is
ordered and limited by itself before the branches are put together, and a branch of tags
lists a status once for every tag of it that is followed.
-/

namespace Cfwdon.HomeTimeline

open Library Statuses Timelines

/-- What the timeline reads of a row of `statuses` or `remote_statuses`.  The author is an
account or an actor, and the time is `created_at` or `published_at`. -/
structure TimelineStatus where
  id : String
  source : HomeTimelineCandidateSource
  author : String
  visibility : Visibility
  timestamp : String

structure TimelineFollow where
  followerAccountId : String
  targetAccountId : Option String
  targetActorUri : String
  accepted : Bool

structure FollowedTag where
  accountId : String
  tagName : String

structure StatusHashtag where
  statusId : String
  tag : String

/-- The tables that the home timeline reads.  Both tables of statuses share their ids. -/
structure TimelineTables where
  statuses : Table TimelineStatus TimelineStatus.id
  follows : List TimelineFollow
  followedTags : List FollowedTag
  statusHashtags : List StatusHashtag
  remoteStatusHashtags : List StatusHashtag

/-! ## Branches -/

inductive CandidateBranch where
  | localOwnStatuses
  | localFollowedAccounts
  | localFollowedTags
  | remoteFollowedAccounts
  | remoteFollowedTags

def branches (includeFollowedTags : Bool) :
    HomeTimelineCandidateSource → List CandidateBranch
  | .localSource =>
    if includeFollowedTags then
      [.localOwnStatuses, .localFollowedAccounts, .localFollowedTags]
    else [.localOwnStatuses, .localFollowedAccounts]
  | .remoteSource =>
    if includeFollowedTags then [.remoteFollowedAccounts, .remoteFollowedTags]
    else [.remoteFollowedAccounts]

def candidateRow (status : TimelineStatus) : HomeTimelineCandidateRow :=
  ⟨status.source, status.id, status.timestamp⟩

variable (tables : TimelineTables) (viewer : String) (cursor : ResolvedTimelineCursor)

/-- The candidates within the cursor that are statuses with a property. -/
def candidatesWhere (holds : TimelineStatus → Bool) : List HomeTimelineCandidateRow :=
  ((tables.statuses.select holds).map candidateRow).filter cursor.admits

def visibleToFollowers (visibility : Visibility) : Bool :=
  visibility == .publicPost || visibility == .unlisted || visibility == .followersOnly

def acceptedFollows : List TimelineFollow :=
  tables.follows.filter fun follow => follow.followerAccountId == viewer && follow.accepted

/-- The statuses of an actor of another server. -/
def actorCandidates (follow : TimelineFollow) : List HomeTimelineCandidateRow :=
  candidatesWhere tables cursor fun status =>
    status.source == .remoteSource && status.author == follow.targetActorUri
      && visibleToFollowers status.visibility

/-- The rows of hashtags that the viewer follows, once for each tag. -/
def followedHashtags (hashtags : List StatusHashtag) : List StatusHashtag :=
  (tables.followedTags.filter fun followed => followed.accountId == viewer).flatMap
    fun followed => hashtags.filter fun hashtag => hashtag.tag == followed.tagName

/-- The public statuses of the tags that the viewer follows. -/
def tagCandidates (source : HomeTimelineCandidateSource) (hashtags : List StatusHashtag) :
    List HomeTimelineCandidateRow :=
  (followedHashtags tables viewer hashtags).flatMap fun hashtag =>
    candidatesWhere tables cursor fun status =>
      status.source == source && status.id == hashtag.statusId && status.visibility == .publicPost

def joinRows : CandidateBranch → List HomeTimelineCandidateRow
  | .localOwnStatuses =>
    candidatesWhere tables cursor fun status =>
      status.source == .localSource && status.author == viewer
  | .localFollowedAccounts =>
    (acceptedFollows tables viewer).flatMap fun follow =>
      candidatesWhere tables cursor fun status =>
        status.source == .localSource && follow.targetAccountId == some status.author
          && visibleToFollowers status.visibility
  | .localFollowedTags => tagCandidates tables viewer cursor .localSource tables.statusHashtags
  | .remoteFollowedAccounts =>
    (acceptedFollows tables viewer).flatMap (actorCandidates tables cursor)
  | .remoteFollowedTags =>
    tagCandidates tables viewer cursor .remoteSource tables.remoteStatusHashtags

/-! ## Queries -/

variable (limit : UInt32)

/-- `LIMIT`, bound as `i32`: a negative number is no limit. -/
def sqlLimit (rows : List HomeTimelineCandidateRow) : List HomeTimelineCandidateRow :=
  if limit.toNat < 2147483648 then rows.take limit.toNat else rows

/-- `branch_sql` and `per_actor_branch_sql`. -/
def branchSql (branch : CandidateBranch) : List HomeTimelineCandidateRow :=
  match branch with
  | .remoteFollowedAccounts =>
    sqlLimit limit (orderBy cursor.forward
      ((acceptedFollows tables viewer).flatMap fun follow =>
        sqlLimit limit (orderBy cursor.forward (actorCandidates tables cursor follow))))
  | branch => sqlLimit limit (orderBy cursor.forward (joinRows tables viewer cursor branch))

/-- The branches of a source, put together by `UNION`. -/
def unionRows (includeFollowedTags : Bool) (source : HomeTimelineCandidateSource) :
    List HomeTimelineCandidateRow :=
  ((branches includeFollowedTags source).flatMap (branchSql tables viewer cursor limit)).dedup

def homeTimelineCandidateQuery (includeFollowedTags : Bool)
    (source : HomeTimelineCandidateSource) : List HomeTimelineCandidateRow :=
  sqlLimit limit (orderBy cursor.forward
    (unionRows tables viewer cursor limit includeFollowedTags source))

def mergeHomeTimelineCandidateRows (localRows remoteRows : List HomeTimelineCandidateRow)
    (forward : Bool) : List HomeTimelineCandidateRow :=
  keepTimelinePage
    (keepUnseen HomeTimelineCandidateRow.statusId ∅ (sortNewestFirst (localRows ++ remoteRows))).1
    limit.toNat forward

def listHomeTimelineCandidateIds (includeFollowedTags : Bool) : List HomeTimelineCandidateRow :=
  mergeHomeTimelineCandidateRows limit
    (homeTimelineCandidateQuery tables viewer cursor limit includeFollowedTags .localSource)
    (homeTimelineCandidateQuery tables viewer cursor limit includeFollowedTags .remoteSource)
    cursor.forward

/-! ## What it is for -/

def allBranches (includeFollowedTags : Bool) : List CandidateBranch :=
  branches includeFollowedTags .localSource ++ branches includeFollowedTags .remoteSource

/-- Every candidate within the cursor, without a limit. -/
def allCandidates (includeFollowedTags : Bool) : List HomeTimelineCandidateRow :=
  (allBranches includeFollowedTags).flatMap (joinRows tables viewer cursor)

/-- The first distinct rows in a direction, shown newest first. -/
def firstCandidates (keep : Nat) (forward : Bool) (rows : List HomeTimelineCandidateRow) :
    List HomeTimelineCandidateRow :=
  keepTimelinePage (sortNewestFirst rows.dedup) keep forward

/-- Fewer rows than the limit come before a row in a branch, repetitions counted. -/
def AmongFirst (branch : CandidateBranch) (row : HomeTimelineCandidateRow) : Prop :=
  row ∈ joinRows tables viewer cursor branch
    ∧ ((joinRows tables viewer cursor branch).countP
          (fun other => decide (Before cursor.forward other row)) < limit.toNat
        ∨ 2147483648 ≤ limit.toNat)

/-! ## Branches and their limits -/

variable {tables} {viewer} {cursor} {limit}

variable {row : HomeTimelineCandidateRow} {rows : List HomeTimelineCandidateRow}

variable {branch : CandidateBranch} {forward : Bool}

theorem mem_joinRows
    (mem : row ∈ joinRows tables viewer cursor branch) :
    ∃ status ∈ tables.statuses.rows, row = candidateRow status := by
  have selected {holds : TimelineStatus → Bool}
      (mem : row ∈ candidatesWhere tables cursor holds) :
      ∃ status ∈ tables.statuses.rows, row = candidateRow status := by
    obtain ⟨listed, -⟩ := List.mem_filter.mp mem
    obtain ⟨status, held, rfl⟩ := List.mem_map.mp listed
    exact ⟨status, List.mem_of_mem_filter held, rfl⟩
  cases branch with
  | localOwnStatuses => exact selected mem
  | localFollowedAccounts | localFollowedTags | remoteFollowedAccounts | remoteFollowedTags =>
    obtain ⟨_, -, listed⟩ := List.mem_flatMap.mp mem
    exact selected listed

theorem oneRowPerId_of_statuses
    (held : ∀ row ∈ rows, ∃ status ∈ tables.statuses.rows, row = candidateRow status) :
    OneRowPerId rows := by
  intro row mem other otherMem eq
  obtain ⟨status, statusStored, rfl⟩ := held row mem
  obtain ⟨otherStatus, otherHeld, rfl⟩ := held other otherMem
  rw [Table.eq_of_key_eq otherHeld statusStored eq]

theorem oneRowPerId_joinRows (branch : CandidateBranch) :
    OneRowPerId (joinRows tables viewer cursor branch) :=
  oneRowPerId_of_statuses fun _ mem => mem_joinRows mem

theorem mem_orderBy : row ∈ orderBy forward rows ↔ row ∈ rows :=
  (List.perm_insertionSort (InDirection forward) rows).mem_iff

theorem sqlLimit_subset (rows : List HomeTimelineCandidateRow) : sqlLimit limit rows ⊆ rows := by
  rw [sqlLimit]
  split_ifs
  · exact List.take_subset _ _
  · exact List.Subset.refl _

/-- **What a branch keeps** are the rows that fewer than the limit come before; that the
actors are limited one by one changes nothing. -/
theorem mem_branchSql_iff :
    row ∈ branchSql tables viewer cursor limit branch
      ↔ AmongFirst tables viewer cursor limit branch row := by
  have one : OneRowPerId (joinRows tables viewer cursor branch) := oneRowPerId_joinRows branch
  rw [AmongFirst]
  by_cases limited : limit.toNat < 2147483648
  · have cut (rows : List HomeTimelineCandidateRow) :
        sqlLimit limit rows = rows.take limit.toNat := if_pos limited
    rw [or_iff_left (not_le.mpr limited)]
    cases branch with
    | remoteFollowedAccounts =>
      simp only [branchSql, cut]
      exact mem_groups_take_iff one
    | localOwnStatuses | localFollowedAccounts | localFollowedTags | remoteFollowedTags =>
      rw [branchSql, cut]
      · exact mem_orderBy_take_iff one
      · rintro ⟨⟩
  · have whole (rows : List HomeTimelineCandidateRow) : sqlLimit limit rows = rows :=
      if_neg limited
    rw [or_iff_right_of_imp fun _ => not_lt.mp limited, and_iff_left (not_lt.mp limited)]
    cases branch with
    | remoteFollowedAccounts =>
      simp only [branchSql, whole, mem_orderBy, joinRows, List.mem_flatMap]
    | localOwnStatuses | localFollowedAccounts | localFollowedTags | remoteFollowedTags =>
      rw [branchSql, whole]
      · exact mem_orderBy
      · rintro ⟨⟩

/-! ## The merge -/

variable {includeFollowedTags : Bool}

theorem mem_unionRows {source : HomeTimelineCandidateSource} :
    row ∈ unionRows tables viewer cursor limit includeFollowedTags source
      ↔ ∃ branch ∈ branches includeFollowedTags source,
        AmongFirst tables viewer cursor limit branch row := by
  simp only [unionRows, List.mem_dedup, List.mem_flatMap, mem_branchSql_iff]

theorem oneRowPerId_unionRows (source : HomeTimelineCandidateSource) :
    OneRowPerId (unionRows tables viewer cursor limit includeFollowedTags source) :=
  oneRowPerId_of_statuses fun _ mem => by
    obtain ⟨branch, -, listed, -⟩ := mem_unionRows.mp mem
    exact mem_joinRows listed

theorem homeCandidates_subset (source : HomeTimelineCandidateSource) :
    homeTimelineCandidateQuery tables viewer cursor limit includeFollowedTags source
      ⊆ unionRows tables viewer cursor limit includeFollowedTags source :=
  fun _ mem => mem_orderBy.mp (sqlLimit_subset _ mem)

theorem oneRowPerId_both :
    OneRowPerId
      (homeTimelineCandidateQuery tables viewer cursor limit includeFollowedTags .localSource
        ++ homeTimelineCandidateQuery tables viewer cursor limit includeFollowedTags
          .remoteSource) :=
  oneRowPerId_of_statuses fun row mem => by
    have listed : ∃ source,
        row ∈ unionRows tables viewer cursor limit includeFollowedTags source := by
      rcases List.mem_append.mp mem with mem | mem
      · exact ⟨_, homeCandidates_subset _ mem⟩
      · exact ⟨_, homeCandidates_subset _ mem⟩
    obtain ⟨source, listed⟩ := listed
    obtain ⟨branch, -, joined, -⟩ := mem_unionRows.mp listed
    exact mem_joinRows joined

theorem firstInDirection_queries :
    firstInDirection cursor.forward limit.toNat
        (homeTimelineCandidateQuery tables viewer cursor limit includeFollowedTags .localSource
          ++ homeTimelineCandidateQuery tables viewer cursor limit includeFollowedTags
            .remoteSource).toFinset
      = firstInDirection cursor.forward limit.toNat
        ((unionRows tables viewer cursor limit includeFollowedTags .localSource).toFinset
          ∪ (unionRows tables viewer cursor limit includeFollowedTags .remoteSource).toFinset) := by
  rw [List.toFinset_append]
  by_cases limited : limit.toNat < 2147483648
  · have cut (source : HomeTimelineCandidateSource) :
        (homeTimelineCandidateQuery tables viewer cursor limit includeFollowedTags source).toFinset
          = firstInDirection cursor.forward limit.toNat
            (unionRows tables viewer cursor limit includeFollowedTags source).toFinset := by
      rw [homeTimelineCandidateQuery, sqlLimit, if_pos limited]
      exact toFinset_orderBy_take (oneRowPerId_unionRows source) (List.nodup_dedup _)
    rw [cut, cut, firstInDirection_union]
  · have whole (source : HomeTimelineCandidateSource) :
        (homeTimelineCandidateQuery tables viewer cursor limit includeFollowedTags source).toFinset
          = (unionRows tables viewer cursor limit includeFollowedTags source).toFinset := by
      ext row
      rw [homeTimelineCandidateQuery, sqlLimit, if_neg limited, List.mem_toFinset,
        List.mem_toFinset, mem_orderBy]
    rw [whole, whole]

theorem oneRowPerId_allCandidates :
    OneRowPerId (allCandidates tables viewer cursor includeFollowedTags) :=
  oneRowPerId_of_statuses fun _ mem => by
    obtain ⟨branch, -, listed⟩ := List.mem_flatMap.mp mem
    exact mem_joinRows listed

theorem toFinset_firstCandidates {keep : Nat} (one : OneRowPerId rows) :
    (firstCandidates keep forward rows).toFinset = firstInDirection forward keep rows.toFinset := by
  rw [firstCandidates, (newestFirst_dedup one).toFinset_keepPage, toFinset_sortNewestFirst_dedup]

theorem unionRows_subset :
    (unionRows tables viewer cursor limit includeFollowedTags .localSource).toFinset
        ∪ (unionRows tables viewer cursor limit includeFollowedTags .remoteSource).toFinset
      ⊆ (allCandidates tables viewer cursor includeFollowedTags).toFinset := by
  intro row mem
  rw [List.mem_toFinset, allCandidates, List.mem_flatMap]
  rcases Finset.mem_union.mp mem with mem | mem
  · obtain ⟨branch, listed, joined, -⟩ := mem_unionRows.mp (List.mem_toFinset.mp mem)
    exact ⟨branch, List.mem_append_left _ listed, joined⟩
  · obtain ⟨branch, listed, joined, -⟩ := mem_unionRows.mp (List.mem_toFinset.mp mem)
    exact ⟨branch, List.mem_append_right _ listed, joined⟩

theorem toFinset_listHomeTimelineCandidateIds :
    (listHomeTimelineCandidateIds tables viewer cursor limit includeFollowedTags).toFinset
      = firstInDirection cursor.forward limit.toNat
        ((unionRows tables viewer cursor limit includeFollowedTags .localSource).toFinset
          ∪ (unionRows tables viewer cursor limit includeFollowedTags .remoteSource).toFinset) := by
  rw [listHomeTimelineCandidateIds, mergeHomeTimelineCandidateRows,
    (newestFirst_keepUnseen oneRowPerId_both).toFinset_keepPage,
    toFinset_keepUnseen oneRowPerId_both, firstInDirection_queries]

/-- The candidates are the first distinct ones exactly if the branches keep these. -/
theorem candidates_exact_iff_subset :
    listHomeTimelineCandidateIds tables viewer cursor limit includeFollowedTags
        = firstCandidates limit.toNat cursor.forward
          (allCandidates tables viewer cursor includeFollowedTags)
      ↔ firstInDirection cursor.forward limit.toNat
          (allCandidates tables viewer cursor includeFollowedTags).toFinset
        ⊆ (unionRows tables viewer cursor limit includeFollowedTags .localSource).toFinset
          ∪ (unionRows tables viewer cursor limit includeFollowedTags .remoteSource).toFinset := by
  have gave : NewestFirstList
      (listHomeTimelineCandidateIds tables viewer cursor limit includeFollowedTags) :=
    (newestFirst_keepUnseen oneRowPerId_both).sublist (keepPage_sublist _ _ _)
  have wanted : NewestFirstList (firstCandidates limit.toNat cursor.forward
      (allCandidates tables viewer cursor includeFollowedTags)) :=
    (newestFirst_dedup oneRowPerId_allCandidates).sublist (keepPage_sublist _ _ _)
  rw [gave.eq_iff_toFinset_eq wanted, toFinset_listHomeTimelineCandidateIds,
    toFinset_firstCandidates oneRowPerId_allCandidates,
    firstInDirection_eq_iff_subset unionRows_subset]

theorem mem_unionRows_iff :
    row ∈ (unionRows tables viewer cursor limit includeFollowedTags .localSource).toFinset
        ∪ (unionRows tables viewer cursor limit includeFollowedTags .remoteSource).toFinset
      ↔ ∃ branch ∈ allBranches includeFollowedTags,
        AmongFirst tables viewer cursor limit branch row := by
  rw [Finset.mem_union, List.mem_toFinset, List.mem_toFinset, mem_unionRows, mem_unionRows]
  simp only [allBranches, List.mem_append, or_and_right, exists_or]

/-- **The candidates are the first distinct ones of all branches exactly if each of these
is among the first rows of a branch, repetitions counted.** -/
theorem home_timeline_candidates_exact_iff (tables : TimelineTables) (viewer : String)
    (cursor : ResolvedTimelineCursor) (limit : UInt32) (includeFollowedTags : Bool) :
    listHomeTimelineCandidateIds tables viewer cursor limit includeFollowedTags
        = firstCandidates limit.toNat cursor.forward
          (allCandidates tables viewer cursor includeFollowedTags)
      ↔ ∀ row ∈ firstCandidates limit.toNat cursor.forward
            (allCandidates tables viewer cursor includeFollowedTags),
          ∃ branch ∈ allBranches includeFollowedTags,
            AmongFirst tables viewer cursor limit branch row := by
  rw [candidates_exact_iff_subset, ← toFinset_firstCandidates oneRowPerId_allCandidates]
  exact forall_congr' fun row => imp_congr List.mem_toFinset mem_unionRows_iff

/-! ## A status with several followed tags -/

/-- A public status of another server. -/
def taggedStatus (id timestamp : String) : TimelineStatus where
  id := id
  source := .remoteSource
  author := "https://remote.example/users/carol"
  visibility := .publicPost
  timestamp := timestamp

/-- The newer status has four tags that are followed, the older one has one of them. -/
def fourTags : TimelineTables where
  statuses :=
    { rows := [taggedStatus "status-b" "2099-01-02T00:00:00Z",
        taggedStatus "status-a" "2099-01-01T00:00:00Z"]
      keysDistinct := by decide }
  follows := []
  followedTags := ["cats", "dogs", "birds", "fish"].map (FollowedTag.mk "viewer")
  statusHashtags := []
  remoteStatusHashtags :=
    ["cats", "dogs", "birds", "fish"].map (StatusHashtag.mk "status-b") ++ [⟨"status-a", "cats"⟩]

/-- For a page of one, four candidates are fetched: all four are the newer status, and the
older one is missing. -/
theorem older_status_is_starved :
    listHomeTimelineCandidateIds fourTags "viewer" .unbounded 4 true
        = [⟨.remoteSource, "status-b", "2099-01-02T00:00:00Z"⟩]
      ∧ firstCandidates 4 false (allCandidates fourTags "viewer" .unbounded true)
        = [⟨.remoteSource, "status-b", "2099-01-02T00:00:00Z"⟩,
          ⟨.remoteSource, "status-a", "2099-01-01T00:00:00Z"⟩]
      ∧ listHomeTimelineCandidateIds fourTags "viewer" .unbounded 4 true
        ≠ firstCandidates 4 false (allCandidates fourTags "viewer" .unbounded true) := by
  decide +kernel

end Cfwdon.HomeTimeline
