import Cfwdon.Search.DateBounds
import Cfwdon.Timelines.TagTimeline

/-!
# The search for tags

How a page of tags is searched, and whether the pages are those of one list.
-/

namespace Cfwdon.Search

section TagSearch

/-! ## The search for tags

A search fetches the tags that begin with its needle, the most used first, as many as the
page and the pages before it have room for, but at most two hundred.  If that leaves room,
tags of recent public posts whose folded name begins with the needle are added.  What has
been fetched is ranked again: an exact match comes first, then use decides.  The page is
cut from this ranking.

An offset is a natural number: the sum of limit and offset is clamped far below the point
where it would saturate.
-/

open Library Statuses
open Timelines (normalizeHashtag)

/-- A row of `statuses` or `remote_statuses`, by what a search for tags reads of it. -/
structure PostedStatus where
  id : String
  visibility : Visibility
  /-- `account_id` or `actor_uri`. -/
  author : String
  /-- `text` or `content_html`. -/
  content : String
  /-- `created_at` or `published_at`. -/
  timestamp : String

/-- A row of `status_hashtags` or `remote_status_hashtags`. -/
structure HashtagRow where
  statusId : String
  tag : String
  /-- `account_id` or `actor_uri`. -/
  author : String
  /-- `created_at` or `published_at`. -/
  timestamp : String

/-- `PRIMARY KEY (status_id, tag)`. -/
def HashtagRow.key (row : HashtagRow) : String × String := (row.statusId, row.tag)

/-- `substr(timestamp, 1, 10)`. -/
def HashtagRow.day (row : HashtagRow) : String :=
  String.ofList (row.timestamp.toList.take 10)

structure TagTables where
  statuses : Table PostedStatus PostedStatus.id
  statusHashtags : Table HashtagRow HashtagRow.key
  remoteStatuses : Table PostedStatus PostedStatus.id
  remoteStatusHashtags : Table HashtagRow HashtagRow.key
  /-- `remote_actors`, by their URIs. -/
  remoteActors : List String

structure TagSearchMetrics where
  statusesCount : Nat
  accountsCount : Nat
  lastStatusAt : Option String

/-! ## Metrics -/

def publicHashtags (statuses : Table PostedStatus PostedStatus.id)
    (hashtags : Table HashtagRow HashtagRow.key) : List HashtagRow :=
  hashtags.select fun row =>
    statuses.exists? fun status => status.id == row.statusId && status.visibility == .publicPost

def groupMetrics (rows : List HashtagRow) : TagSearchMetrics where
  statusesCount := rows.length
  accountsCount := (rows.map (·.author)).dedup.length
  lastStatusAt := (rows.map (·.day)).max?

namespace TagTables

variable (tables : TagTables)

def localHashtags : List HashtagRow := publicHashtags tables.statuses tables.statusHashtags

def remoteHashtags : List HashtagRow :=
  publicHashtags tables.remoteStatuses tables.remoteStatusHashtags

/-- The metrics of a tag, over both tables. -/
def metricsOf (tag : String) : TagSearchMetrics :=
  let ours := groupMetrics (tables.localHashtags.filter (·.tag == tag))
  let theirs := groupMetrics (tables.remoteHashtags.filter (·.tag == tag))
  { statusesCount := ours.statusesCount + theirs.statusesCount
    accountsCount := ours.accountsCount + theirs.accountsCount
    lastStatusAt := (ours.lastStatusAt.toList ++ theirs.lastStatusAt.toList).max? }

def publicTags : List String :=
  ((tables.localHashtags ++ tables.remoteHashtags).map (·.tag)).dedup

def row (tag : String) : String × TagSearchMetrics := (tag, tables.metricsOf tag)

end TagTables

/-- `ORDER BY statuses_count DESC, last_status_at DESC, tag ASC`. -/
abbrev UsageKey := Natᵒᵈ ×ₗ (WithBot String)ᵒᵈ ×ₗ String

/-- The key of a row in the order of the SQL query. -/
def usageKey (row : String × TagSearchMetrics) : UsageKey :=
  toLex (OrderDual.toDual row.2.statusesCount,
    toLex (OrderDual.toDual (row.2.lastStatusAt : WithBot String), row.1))

def tagSearchMetricsSql (tables : TagTables) (tagPredicate : String → Bool) (limit : Nat) :
    List (String × TagSearchMetrics) :=
  (((tables.publicTags.filter tagPredicate).map tables.row).insertionSort
    fun row other => usageKey row ≤ usageKey other).take limit

/-! ## Names -/

section Names

variable (env : SearchEnvironment)

def searchTagNameFromPath (path : String) : Option String :=
  let segments := (splitOn (splitFirst (splitFirst path '?') '#') "/").filter (· ≠ "")
  let named (tag : String) : Option String :=
    let normalized := normalizeHashtag env.lowercase ((env.percentDecode tag).getD tag)
    if normalized ≠ "" then some normalized else none
  match segments with
  | [tags, tag] => if toAsciiLowercase tags = "tags" then named tag else none
  | [explore, tags, tag] =>
    if toAsciiLowercase explore = "explore" ∧ toAsciiLowercase tags = "tags" then named tag
    else none
  | _ => none

def resolveSearchTagName (query : String) : Option String :=
  let query := trim query
  if query = "" then none
  else if startsWith query "#" then
    let tag := normalizeHashtag env.lowercase query
    if tag ≠ "" then some tag else none
  else
    match env.urlParser.parse query with
    | .ok url => searchTagNameFromPath env url.path
    | .error _ => if startsWith query "/" then searchTagNameFromPath env query else none

def tagNeedle (query : String) : String :=
  (resolveSearchTagName env query).getD (normalizeHashtag env.lowercase query)

def tagMatchesSearchQuery (query tag : String) : Bool :=
  let query := normalizeHashtag env.lowercase query
  let tag := normalizeHashtag env.lowercase tag
  query != "" && startsWith tag query

def tagSearchRank (query tag : String) : Nat × String :=
  (searchTextMatchRank env query tag, normalizeHashtag env.lowercase tag)

end Names

/-! ## What is fetched -/

/-- `char::from_u32` of the code after that of a character. -/
def nextChar (c : Char) : Option Char :=
  if (c.toNat + 1).isValidChar then some (Char.ofNat (c.toNat + 1)) else none

def tagPrefixUpperBound (value : String) : Option String := do
  let last ← value.toList.getLast?
  let next ← nextChar last
  return String.ofList (value.toList.dropLast ++ [next])

/-- `h.tag >= ?1 AND h.tag < ?2`. -/
def inTagRange (needle tag : String) : Bool :=
  let upperBound := (tagPrefixUpperBound needle).getD (needle.push (Char.ofNat 0x10ffff))
  decide (needle ≤ tag) && decide (tag < upperBound)

section Fetching

variable (env : SearchEnvironment) (tables : TagTables)

def searchIndexedTagsForV2 (needle : String) (fetchLimit : Nat) :
    List (String × TagSearchMetrics) :=
  tagSearchMetricsSql tables (inTagRange needle) fetchLimit

def loadTagSearchMetricsForTags (tags : List String) : List (String × TagSearchMetrics) :=
  if tags = [] then [] else tagSearchMetricsSql tables (fun tag => tags.contains tag) tags.length

/-- Public rows, the newest first: the timelines without a cursor. -/
def newestPublic (statuses : List PostedStatus) (limit : Nat) : List PostedStatus :=
  ((statuses.filter (·.visibility == .publicPost)).insertionSort fun status other =>
    toLex (other.timestamp, other.id) ≤ toLex (status.timestamp, status.id)).take limit

/-- `list_local_public_timeline_statuses`, without a cursor. -/
def listLocalPublicTimelineStatuses (limit : Nat) : List PostedStatus :=
  newestPublic tables.statuses.rows limit

/-- `list_remote_public_timeline_statuses`, without a cursor: the actor has to be known. -/
def listRemotePublicTimelineStatuses (limit : Nat) : List PostedStatus :=
  newestPublic (tables.remoteStatuses.select fun status =>
    tables.remoteActors.contains status.author) limit

/-- The hashtags of the newest public posts of both kinds. -/
def recentHashtags (limit : Nat) : List String :=
  (listLocalPublicTimelineStatuses tables limit).flatMap
      (fun status => extractHashtagsFromText status.content)
    ++ (listRemotePublicTimelineStatuses tables limit).flatMap
      fun status => extractHashtagsFromHtml status.content

def scanRecentFoldedTagsForV2 (needle : String) (fetchLimit : Nat) (known : List String) :
    List String :=
  pushMissing [] ((recentHashtags tables fetchLimit).filter fun tag =>
    tagMatchesSearchQuery env needle tag && !known.contains tag)

/-! ## Pages -/

/-- `tag_search_sort_key`, as it is compared. -/
abbrev TagSearchSortKey := Nat ×ₗ Nat ×ₗ (WithBot String)ᵒᵈ ×ₗ String

def tagSearchSortKey (query tag : String) (statusesCount : Nat) (lastStatusAt : Option String) :
    TagSearchSortKey :=
  let (matchRank, normalized) := tagSearchRank env query tag
  toLex (matchRank, toLex (18446744073709551615 - statusesCount,
    toLex (OrderDual.toDual (lastStatusAt : WithBot String), normalized)))

def rowSortKey (query : String) (row : String × TagSearchMetrics) : TagSearchSortKey :=
  tagSearchSortKey env query row.1 row.2.statusesCount row.2.lastStatusAt

def paginateTagSearchMatches (query : String) (found : List (String × TagSearchMetrics))
    (limit offset : Nat) : List (String × TagSearchMetrics) :=
  ((found.insertionSort fun row other =>
    rowSortKey env query row ≤ rowSortKey env query other).drop offset).take limit

def searchV2Limit (limit : Option Nat) : Nat :=
  min (max (limit.getD 20) 1) 40

/-- `limit.saturating_add(offset).clamp(limit, 200)`. -/
def fetchLimit (limit offset : Nat) : Nat :=
  max limit (min (limit + offset) 200)

/-- `search_tags_for_v2`, by the names of the tags that the responses are built of. -/
def searchTagsForV2 (query : String) (limit offset : Nat) : List String :=
  let needle := tagNeedle env query
  if needle = "" then []
  else
    let window := fetchLimit limit offset
    let indexed := searchIndexedTagsForV2 tables needle window
    let found :=
      if indexed.length < window then
        let known := indexed.map Prod.fst
        let folded := scanRecentFoldedTagsForV2 env tables needle window known
        indexed ++ loadTagSearchMetricsForTags tables folded
      else indexed
    (paginateTagSearchMatches env needle found limit offset).map Prod.fst

end Fetching

end TagSearch

section TagPages

/-! ## The pages of a search for tags

Each page of a search is cut from the tags that its own window has fetched.  The window
takes the most used tags, and the ranking then puts an exact match first; so a tag that is
ranked early may not be fetched before a later page, whose cut begins after it.
-/

open Library

section Windows

variable (env : SearchEnvironment) (tables : TagTables) (needle : String)

/-- The public tags of a kind, the most used first. -/
def tagsByUsage (tagPredicate : String → Bool) : List String :=
  (tables.publicTags.filter tagPredicate).insertionSort fun tag other =>
    usageKey (tables.row tag) ≤ usageKey (tables.row other)

def indexedTags : List String := tagsByUsage tables (inTagRange needle)

/-- The further tags of recent posts. -/
def foldedTags (window : Nat) : List String :=
  tagsByUsage tables fun tag =>
    (scanRecentFoldedTagsForV2 env tables needle window (indexedTags tables needle)).contains tag

def drawnTags (window : Nat) : List String :=
  (indexedTags tables needle).take window
    ++ if (indexedTags tables needle).length < window then foldedTags env tables needle window
      else []

/-- The sort key of a tag; the tags of the range come first where it is the same, and then
the more used ones. -/
def tagRankKey (tag : String) : TagSearchSortKey ×ₗ Nat ×ₗ UsageKey :=
  toLex (rowSortKey env needle (tables.row tag),
    toLex (if inTagRange needle tag then 0 else 1, usageKey (tables.row tag)))

def rankedTags (window : Nat) : List String :=
  (drawnTags env tables needle window).insertionSort fun tag other =>
    tagRankKey env tables needle tag ≤ tagRankKey env tables needle other

variable {env tables needle}

theorem tagSearchMetricsSql_eq (tagPredicate : String → Bool) (limit : Nat) :
    tagSearchMetricsSql tables tagPredicate limit
      = ((tagsByUsage tables tagPredicate).take limit).map tables.row := by
  rw [tagSearchMetricsSql, tagsByUsage, List.map_take,
    List.map_insertionSort _ (fun row other => usageKey row ≤ usageKey other) tables.row]
  exact fun _ _ _ _ => Iff.rfl

theorem mem_tagsByUsage {tagPredicate : String → Bool} {tag : String} :
    tag ∈ tagsByUsage tables tagPredicate ↔ tag ∈ tables.publicTags ∧ tagPredicate tag = true := by
  rw [tagsByUsage, List.mem_insertionSort, List.mem_filter]

theorem nodup_tagsByUsage (tagPredicate : String → Bool) :
    (tagsByUsage tables tagPredicate).Nodup :=
  (List.perm_insertionSort _ _).nodup_iff.mpr ((List.nodup_dedup _).filter _)

theorem sorted_tagsByUsage (tagPredicate : String → Bool) :
    (tagsByUsage tables tagPredicate).Pairwise fun tag other =>
      usageKey (tables.row tag) ≤ usageKey (tables.row other) :=
  List.pairwise_insertionSort _ _

theorem usageKey_injective : Function.Injective fun tag => usageKey (tables.row tag) := by
  intro tag other eq
  have parts := congrArg (fun key => (ofLex (ofLex key).2).2) eq
  exact parts

theorem tagRankKey_injective : Function.Injective (tagRankKey env tables needle) := by
  intro tag other eq
  have parts := congrArg (fun key => (ofLex (ofLex key).2).2) eq
  exact usageKey_injective parts

theorem loadTagSearchMetricsForTags_eq (tags : List String) :
    loadTagSearchMetricsForTags tables tags
      = (tagsByUsage tables fun tag => tags.contains tag).map tables.row := by
  rw [loadTagSearchMetricsForTags]
  by_cases none : tags = []
  · subst none
    simp [tagsByUsage]
  · have few : (tagsByUsage tables fun tag => tags.contains tag).length ≤ tags.length := by
      refine (List.Nodup.subperm (nodup_tagsByUsage _) fun tag mem => ?_).length_le
      exact List.contains_iff_mem.mp (mem_tagsByUsage.mp mem).2
    rw [if_neg none, tagSearchMetricsSql_eq, List.take_of_length_le few]

theorem fetched_eq (window : Nat) :
    (let indexed := searchIndexedTagsForV2 tables needle window
      if indexed.length < window then
        let known := indexed.map Prod.fst
        let folded := scanRecentFoldedTagsForV2 env tables needle window known
        indexed ++ loadTagSearchMetricsForTags tables folded
      else indexed) = (drawnTags env tables needle window).map tables.row := by
  have indexed : searchIndexedTagsForV2 tables needle window
      = ((indexedTags tables needle).take window).map tables.row :=
    tagSearchMetricsSql_eq _ _
  have names (tags : List String) : (tags.map tables.row).map Prod.fst = tags := by
    rw [List.map_map]
    exact List.map_id' tags
  simp only [indexed, names, loadTagSearchMetricsForTags_eq, List.length_map, List.length_take,
    drawnTags, List.map_append]
  by_cases room : (indexedTags tables needle).length < window
  · rw [if_pos room, if_pos (by omega), List.take_of_length_le room.le]
    rfl
  · rw [if_neg room, if_neg (by omega), List.map_nil, List.append_nil]

theorem mem_scanRecentFoldedTagsForV2 {window : Nat} {known : List String} {tag : String} :
    tag ∈ scanRecentFoldedTagsForV2 env tables needle window known
      ↔ tag ∈ recentHashtags tables window ∧ tagMatchesSearchQuery env needle tag = true
        ∧ tag ∉ known := by
  rw [scanRecentFoldedTagsForV2, mem_pushMissing, List.mem_filter, Bool.and_eq_true,
    Bool.not_eq_true', ← Bool.not_eq_true, List.contains_iff_mem]
  simp

theorem mem_foldedTags {window : Nat} {tag : String} :
    tag ∈ foldedTags env tables needle window
      ↔ tag ∈ tables.publicTags ∧ tag ∈ recentHashtags tables window
        ∧ tagMatchesSearchQuery env needle tag = true ∧ inTagRange needle tag = false := by
  rw [foldedTags, mem_tagsByUsage, List.contains_iff_mem, mem_scanRecentFoldedTagsForV2,
    indexedTags, mem_tagsByUsage]
  constructor
  · rintro ⟨held, recent, folds, unknown⟩
    exact ⟨held, recent, folds, Bool.eq_false_iff.mpr fun inside => unknown ⟨held, inside⟩⟩
  · rintro ⟨held, recent, folds, outside⟩
    exact ⟨held, recent, folds, fun known => Bool.eq_false_iff.mp outside known.2⟩

/-- **A stable sort of a window by the sort key ranks it.** -/
theorem insertionSort_drawnTags (window : Nat) :
    (drawnTags env tables needle window).insertionSort (fun tag other =>
      rowSortKey env needle (tables.row tag) ≤ rowSortKey env needle (tables.row other))
      = rankedTags env tables needle window := by
  apply insertionSort_eq_of_ties
  · exact fun tag other less => Prod.Lex.toLex_le_toLex.mpr (.inl less)
  · -- within both parts the more used tags come first
    have tie {tags : List String} {place : Nat}
        (sorted : tags.Pairwise fun tag other =>
          usageKey (tables.row tag) ≤ usageKey (tables.row other))
        (placed : ∀ tag ∈ tags, (if inTagRange needle tag then 0 else 1) = place) :
        tags.Pairwise fun tag other =>
          rowSortKey env needle (tables.row tag) = rowSortKey env needle (tables.row other)
            → tagRankKey env tables needle tag ≤ tagRankKey env tables needle other := by
      refine sorted.imp_of_mem fun mem otherMem le eq => ?_
      rw [tagRankKey, tagRankKey, placed _ mem, placed _ otherMem, eq]
      exact Prod.Lex.toLex_le_toLex.mpr (.inr ⟨rfl, Prod.Lex.toLex_le_toLex.mpr (.inr ⟨rfl, le⟩)⟩)
    have inside (tag : String) (mem : tag ∈ (indexedTags tables needle).take window) :
        inTagRange needle tag = true :=
      (mem_tagsByUsage.mp (List.mem_of_mem_take mem)).2
    have outside (tag : String)
        (mem : tag ∈ if (indexedTags tables needle).length < window then
          foldedTags env tables needle window else []) : inTagRange needle tag = false := by
      split at mem
      · exact (mem_foldedTags.mp mem).2.2.2
      · cases mem
    rw [drawnTags, List.pairwise_append]
    refine ⟨tie ((sorted_tagsByUsage _).sublist (List.take_sublist _ _)) fun tag mem =>
      if_pos (inside tag mem), ?_, fun tag mem other otherMem eq => ?_⟩
    · refine tie ?_ fun tag mem => if_neg (Bool.eq_false_iff.mp (outside tag mem))
      split
      · exact sorted_tagsByUsage _
      · exact List.Pairwise.nil
    · -- and the tags of the range stand before the further ones
      rw [tagRankKey, tagRankKey, eq, if_pos (inside tag mem),
        if_neg (Bool.eq_false_iff.mp (outside other otherMem))]
      exact Prod.Lex.toLex_le_toLex.mpr
        (.inr ⟨rfl, Prod.Lex.toLex_le_toLex.mpr (.inl Nat.zero_lt_one)⟩)
  · intro tag other le
    rcases Prod.Lex.toLex_le_toLex.mp le with less | ⟨eq, -⟩
    · exact le_of_lt less
    · exact le_of_eq eq

theorem paginateTagSearchMatches_drawnTags (window limit offset : Nat) :
    paginateTagSearchMatches env needle ((drawnTags env tables needle window).map tables.row)
        limit offset
      = (((rankedTags env tables needle window).drop offset).take limit).map tables.row := by
  rw [paginateTagSearchMatches, ← insertionSort_drawnTags, List.map_take, List.map_drop,
    List.map_insertionSort _ (fun row other =>
      rowSortKey env needle row ≤ rowSortKey env needle other) tables.row]
  exact fun _ _ _ _ => Iff.rfl

/-- **A page is cut from the ranked tags of its window.** -/
theorem searchTagsForV2_eq {query : String} (named : tagNeedle env query ≠ "")
    (limit offset : Nat) :
    searchTagsForV2 env tables query limit offset
      = ((rankedTags env tables (tagNeedle env query) (fetchLimit limit offset)).drop
          offset).take limit := by
  have fetched := @fetched_eq env tables (tagNeedle env query) (fetchLimit limit offset)
  simp only [searchTagsForV2, if_neg named] at fetched ⊢
  rw [fetched, paginateTagSearchMatches_drawnTags, List.map_map]
  exact List.map_id' _

theorem recentHashtags_subset {window wider : Nat} (le : window ≤ wider) :
    recentHashtags tables window ⊆ recentHashtags tables wider := by
  have newest (statuses : List PostedStatus) :
      newestPublic statuses window ⊆ newestPublic statuses wider :=
    (List.take_prefix_take_left le).subset
  intro tag mem
  rw [recentHashtags, List.mem_append, List.mem_flatMap, List.mem_flatMap] at mem ⊢
  refine mem.imp (fun got => ?_) fun got => ?_
  · obtain ⟨status, listed, tagged⟩ := got
    exact ⟨status, newest _ listed, tagged⟩
  · obtain ⟨status, listed, tagged⟩ := got
    exact ⟨status, newest _ listed, tagged⟩

theorem mem_rankedTags {window : Nat} {tag : String} :
    tag ∈ rankedTags env tables needle window ↔ tag ∈ drawnTags env tables needle window :=
  List.mem_insertionSort _

/-- **A window has the most used tags in the range of the needle**, and those of recent posts
if they leave room. -/
theorem mem_drawnTags_iff {window : Nat} {tag : String} :
    tag ∈ drawnTags env tables needle window
      ↔ tag ∈ tables.publicTags
        ∧ (inTagRange needle tag = true
            ∧ placeIn (fun tag => usageKey (tables.row tag)) (indexedTags tables needle) tag
              < window
          ∨ inTagRange needle tag = false ∧ tagMatchesSearchQuery env needle tag = true
            ∧ (indexedTags tables needle).length < window
            ∧ tag ∈ recentHashtags tables window) := by
  have first : tag ∈ (indexedTags tables needle).take window
      ↔ (tag ∈ tables.publicTags ∧ inTagRange needle tag = true)
        ∧ placeIn (fun tag => usageKey (tables.row tag)) (indexedTags tables needle) tag
          < window := by
    have held := @mem_tagsByUsage tables (inTagRange needle) tag
    rw [← held]
    exact mem_take_iff (sorted_tagsByUsage _) fun other _ eq => usageKey_injective eq
  rw [drawnTags, List.mem_append, first]
  constructor
  · rintro (⟨⟨held, inside⟩, early⟩ | further)
    · exact ⟨held, .inl ⟨inside, early⟩⟩
    · by_cases room : (indexedTags tables needle).length < window
      · rw [if_pos room, mem_foldedTags] at further
        obtain ⟨held, recent, folds, outside⟩ := further
        exact ⟨held, .inr ⟨outside, folds, room, recent⟩⟩
      · rw [if_neg room] at further
        cases further
  · rintro ⟨held, ⟨inside, early⟩ | ⟨outside, folds, room, recent⟩⟩
    · exact .inl ⟨⟨held, inside⟩, early⟩
    · rw [if_pos room, mem_foldedTags]
      exact .inr ⟨held, recent, folds, outside⟩

theorem nodup_drawnTags (window : Nat) : (drawnTags env tables needle window).Nodup := by
  rw [drawnTags]
  refine List.nodup_append'.mpr
    ⟨(nodup_tagsByUsage _).sublist (List.take_sublist _ _), ?_, fun tag mem further => ?_⟩
  · split
    · exact nodup_tagsByUsage _
    · exact List.nodup_nil
  · have inside := (mem_tagsByUsage.mp (List.mem_of_mem_take mem)).2
    split at further
    · rw [(mem_foldedTags.mp further).2.2.2] at inside
      cases inside
    · cases further

/-! ## Pages -/

/-- The public tags that a search for a needle is about: those in its range, and those whose
folded name begins with it. -/
def matchingTags (env : SearchEnvironment) (tables : TagTables) (needle : String) :
    List String :=
  if needle = "" then []
  else tables.publicTags.filter fun tag =>
    inTagRange needle tag || tagMatchesSearchQuery env needle tag

theorem mem_matchingTags (named : needle ≠ "") {tag : String} :
    tag ∈ matchingTags env tables needle
      ↔ tag ∈ tables.publicTags
        ∧ (inTagRange needle tag = true ∨ tagMatchesSearchQuery env needle tag = true) := by
  rw [matchingTags, if_neg named, List.mem_filter, Bool.or_eq_true]

/-- **A wider window has all that a narrower one has.** -/
theorem draws_rankedTags (named : needle ≠ "") (limit : Nat) :
    Draws (tagRankKey env tables needle) (matchingTags env tables needle) fun page =>
      rankedTags env tables needle (fetchLimit limit (page * limit)) where
  injective := tagRankKey_injective
  distinct := by
    rw [matchingTags, if_neg named]
    exact (List.nodup_dedup _).filter _
  sorted page :=
    (List.pairwise_insertionSort _ _).imp₂
      (fun tag other le different => lt_of_le_of_ne le (tagRankKey_injective.ne different))
      ((List.perm_insertionSort _ _).nodup_iff.mpr (nodup_drawnTags _))
  within page tag member := by
    obtain ⟨held, ⟨inside, -⟩ | ⟨-, folds, -⟩⟩ :=
      mem_drawnTags_iff.mp (mem_rankedTags.mp member)
    · exact (mem_matchingTags named).mpr ⟨held, .inl inside⟩
    · exact (mem_matchingTags named).mpr ⟨held, .inr folds⟩
  grows {page later} le tag member := by
    have wider : fetchLimit limit (page * limit) ≤ fetchLimit limit (later * limit) := by
      have := Nat.mul_le_mul_right limit le
      rw [fetchLimit, fetchLimit]
      omega
    obtain ⟨held, ⟨inside, early⟩ | ⟨outside, folds, room, recent⟩⟩ :=
      mem_drawnTags_iff.mp (mem_rankedTags.mp member)
    · exact mem_rankedTags.mpr (mem_drawnTags_iff.mpr ⟨held, .inl ⟨inside, early.trans_le wider⟩⟩)
    · exact mem_rankedTags.mpr (mem_drawnTags_iff.mpr ⟨held, .inr
        ⟨outside, folds, room.trans_le wider, recentHashtags_subset wider recent⟩⟩)

/-- The pages of a search are those of one list that has each matching tag once. -/
def PagesOfOneList (env : SearchEnvironment) (tables : TagTables) (query : String)
    (limit : Nat) : Prop :=
  ∃ ranked : List String, ranked.Nodup
    ∧ (∀ tag, tag ∈ ranked ↔ tag ∈ matchingTags env tables (tagNeedle env query))
    ∧ ∀ page, searchTagsForV2 env tables query limit (page * limit)
      = (ranked.drop (page * limit)).take limit

/-- A tag is fetched by the page that its rank among the matching tags puts it on: as one of
the most used in the range, or from the recent posts if the range leaves room. -/
def FetchedByItsPage (env : SearchEnvironment) (tables : TagTables) (needle : String)
    (limit : Nat) (tag : String) : Prop :=
  let rank := placeIn (tagRankKey env tables needle) (matchingTags env tables needle) tag
  let window := fetchLimit limit (rank / limit * limit)
  if inTagRange needle tag then
    placeIn (fun tag => usageKey (tables.row tag)) (indexedTags tables needle) tag < window
  else (indexedTags tables needle).length < window ∧ tag ∈ recentHashtags tables window

end Windows

theorem one_le_searchV2Limit (requested : Option Nat) : 0 < searchV2Limit requested := by
  rw [searchV2Limit]
  omega

/-- **The pages of a search for tags are those of one list of all matching tags exactly if
each matching tag is fetched by the page that its rank puts it on.** -/
theorem tag_pages_iff (env : SearchEnvironment) (tables : TagTables) (query : String)
    (requested : Option Nat) :
    PagesOfOneList env tables query (searchV2Limit requested)
      ↔ ∀ tag ∈ matchingTags env tables (tagNeedle env query),
        FetchedByItsPage env tables (tagNeedle env query) (searchV2Limit requested) tag := by
  by_cases named : tagNeedle env query = ""
  · -- without a needle nothing matches, and every page is empty
    have none : matchingTags env tables (tagNeedle env query) = [] := if_pos named
    rw [PagesOfOneList, none]
    constructor
    · rintro - tag mem
      cases mem
    · intro _
      refine ⟨[], List.nodup_nil, fun _ => Iff.rfl, fun page => ?_⟩
      simp [searchTagsForV2, named]
  · have draws := @draws_rankedTags env tables _ named (searchV2Limit requested)
    rw [PagesOfOneList]
    simp only [searchTagsForV2_eq named]
    rw [draws.pages_iff (one_le_searchV2Limit requested)]
    refine forall₂_congr fun tag mem => ?_
    obtain ⟨held, hit⟩ := (mem_matchingTags named).mp mem
    rw [mem_rankedTags, mem_drawnTags_iff, FetchedByItsPage]
    by_cases inside : inTagRange (tagNeedle env query) tag = true
    · simp [inside, held]
    · have folds := hit.resolve_left inside
      simp [inside, held, folds]

/-! ## An exact match -/

/-- The rows of one tag of one post and of another tag of two. -/
def rustRows : List HashtagRow :=
  [⟨"1", "rust", "alice", "2026-01-01T00:00:00Z"⟩,
    ⟨"2", "rustlang", "alice", "2026-01-02T00:00:00Z"⟩,
    ⟨"3", "rustlang", "alice", "2026-01-03T00:00:00Z"⟩]

def rustPosts : List PostedStatus :=
  [⟨"1", .publicPost, "alice", "#rust", "2026-01-01T00:00:00Z"⟩,
    ⟨"2", .publicPost, "alice", "#rustlang", "2026-01-02T00:00:00Z"⟩,
    ⟨"3", .publicPost, "alice", "#rustlang", "2026-01-03T00:00:00Z"⟩]

theorem nodup_rustRows : (rustRows.map HashtagRow.key).Nodup := by decide

theorem nodup_rustPosts : (rustPosts.map PostedStatus.id).Nodup := by decide

def rustTables : TagTables where
  statuses := ⟨rustPosts, nodup_rustPosts⟩
  statusHashtags := ⟨rustRows, nodup_rustRows⟩
  remoteStatuses := .empty
  remoteStatusHashtags := .empty
  remoteActors := []

/-- The exact match is on no page, and the other tag is on two. -/
theorem exact_match_is_on_no_page :
    (searchTagsForV2 plainEnvironment rustTables "rust" 1 0 = ["rustlang"]
      ∧ searchTagsForV2 plainEnvironment rustTables "rust" 1 1 = ["rustlang"]
      ∧ searchTagsForV2 plainEnvironment rustTables "rust" 1 2 = [])
      ∧ ¬ PagesOfOneList plainEnvironment rustTables "rust" (searchV2Limit (some 1)) := by
  have first : searchTagsForV2 plainEnvironment rustTables "rust" 1 0 = ["rustlang"] := by
    decide +kernel
  have second : searchTagsForV2 plainEnvironment rustTables "rust" 1 1 = ["rustlang"] := by
    decide +kernel
  refine ⟨⟨first, second, by decide +kernel⟩, ?_⟩
  rintro ⟨ranked, nodup, -, pages⟩
  have atFirst : ranked.take 1 = ["rustlang"] := (pages 0).symm.trans first
  have atSecond : (ranked.drop 1).take 1 = ["rustlang"] := (pages 1).symm.trans second
  have twice : ranked.take (1 + 1) = ["rustlang", "rustlang"] := by
    rw [List.take_add, atFirst, atSecond]
    rfl
  have once := nodup.sublist (List.take_sublist (1 + 1) ranked)
  rw [twice] at once
  simp at once

end TagPages

end Cfwdon.Search
