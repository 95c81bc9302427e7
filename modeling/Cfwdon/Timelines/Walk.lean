import Cfwdon.HomeTimeline.Candidates
import Cfwdon.Library.Lists

/-!
# Walking through the home timeline

The pages of the home timeline, and the walk from one to the next.
-/

namespace Cfwdon.Timelines

section Pages

/-! ## Pages of the home timeline

A page is asked for with a cursor and a limit.  Four times as many candidates are fetched,
the muted ones are left out, and what is left is shown up to the limit.  A link to the
next page is offered if more is left than that.

* `fetch_after`, `fetch_first` -- the candidates of a page are the next ones of the
  timeline;

The candidates are the first of all entries within the cursor, as
`home_timeline_candidates_of_nodup` has them.
-/

open Library HomeTimeline

structure TimelinePaginationQuery where
  limit : Option Nat
  maxId : Option String
  sinceId : Option String
  minId : Option String

/-- The entries of a timeline.  Their ids are generated: they are not empty, and have no
whitespace around them. -/
structure TimelineEntries where
  table : Table HomeTimelineCandidateRow HomeTimelineCandidateRow.statusId
  plain : ∀ row ∈ table.rows, trim row.statusId = row.statusId ∧ row.statusId ≠ ""

def normalizeTimelineCursor (value : Option String) : Option String :=
  (value.map trim).filter (· != "")

variable (entries : TimelineEntries) (muted : HomeTimelineCandidateRow → Bool)
  (query : TimelinePaginationQuery)

def resolveTimelineCursorTimestamp (cursorId : Option String) : Option String := do
  let row ← entries.table.find (← cursorId)
  return row.timestamp

def resolveTimelineCursor : ResolvedTimelineCursor :=
  let maxId := normalizeTimelineCursor query.maxId
  let minId := normalizeTimelineCursor (query.minId.or query.sinceId)
  { forward := (normalizeTimelineCursor query.minId).isSome
    maxTimestamp := resolveTimelineCursorTimestamp entries maxId
    minTimestamp := resolveTimelineCursorTimestamp entries minId
    maxId := maxId
    minId := minId }

def timelineCursorIsUnresolved (cursor : ResolvedTimelineCursor) : Bool :=
  let hasMaxId := (normalizeTimelineCursor query.maxId).isSome
  let hasMinId := (normalizeTimelineCursor (query.minId.or query.sinceId)).isSome
  (hasMaxId && cursor.maxTimestamp.isNone) || (hasMinId && cursor.minTimestamp.isNone)

/-! ## Pages -/

def selectPublicTimelineCandidates (candidates : List HomeTimelineCandidateRow) (limit : Nat)
    (forward : Bool) : List HomeTimelineCandidateRow :=
  keepTimelinePage (sortNewestFirst candidates) (limit + 1) forward

/-- Rows without their status, by a muted author or in a muted thread are left out. -/
def timelineEntriesFromCandidateRows (candidateRows : List HomeTimelineCandidateRow)
    (limit : Nat) (forward : Bool) : List HomeTimelineCandidateRow :=
  selectPublicTimelineCandidates
    ((keepUnseen HomeTimelineCandidateRow.statusId ∅ candidateRows).1.filter fun row => !muted row)
    limit forward

/-- A page, with the ids that its links to the previous and the next page name. -/
structure TimelinePage where
  rows : List HomeTimelineCandidateRow
  firstId : Option String
  lastId : Option String

def linkId (row : Option HomeTimelineCandidateRow) : Option String :=
  (row.map (·.statusId)).filter (· != "")

def timelinePageResponse (rows : List HomeTimelineCandidateRow) (limit : Nat)
    (forward : Bool) : TimelinePage :=
  let rows := sortNewestFirst rows
  let hasNextPage := forward || decide (limit < rows.length)
  let page := keepTimelinePage rows limit forward
  { rows := page
    firstId := linkId page.head?
    lastId := if hasNextPage then linkId page.getLast? else none }

/-- `home_timeline_response`. -/
def homeTimelinePage : TimelinePage :=
  let limit := timelineLimit query.limit
  let cursor := resolveTimelineCursor entries query
  if timelineCursorIsUnresolved query cursor then ⟨[], none, none⟩
  else
    let candidateRows := firstCandidates (timelineFetchLimit limit) cursor.forward
      (entries.table.rows.filter cursor.admits)
    timelinePageResponse
      (timelineEntriesFromCandidateRows muted candidateRows limit cursor.forward)
      limit cursor.forward

/-- The request of a link to the next page. -/
def nextQuery (maxId : String) : TimelinePaginationQuery where
  limit := some (timelineLimit query.limit)
  maxId := some maxId
  sinceId := none
  minId := none

/-! ## The timeline -/

variable {entries} {muted} {query}

/-- All entries, newest first. -/
def timeline (entries : TimelineEntries) : List HomeTimelineCandidateRow :=
  sortNewestFirst entries.table.rows.dedup

theorem oneRowPerId_entries : OneRowPerId entries.table.rows :=
  fun _ mem _ otherMem eq => Table.eq_of_key_eq otherMem mem eq

theorem newestFirst_timeline : NewestFirstList (timeline entries) :=
  newestFirst_dedup oneRowPerId_entries

theorem mem_timeline {row : HomeTimelineCandidateRow} :
    row ∈ timeline entries ↔ row ∈ entries.table.rows := by
  rw [← List.mem_toFinset, timeline, toFinset_sortNewestFirst_dedup, List.mem_toFinset]

def cursorAfter (row : HomeTimelineCandidateRow) : ResolvedTimelineCursor where
  maxId := some row.statusId
  maxTimestamp := some row.timestamp
  minId := none
  minTimestamp := none
  forward := false

theorem admits_cursorAfter {row other : HomeTimelineCandidateRow} :
    (cursorAfter row).admits other = true ↔ rowKey other < rowKey row := by
  rw [rowKey, rowKey, Prod.Lex.toLex_lt_toLex]
  simp only [ResolvedTimelineCursor.admits, cursorAfter, Bool.and_true, Bool.and_eq_true,
    Bool.or_eq_true, decide_eq_true_eq]
  constructor
  · rintro ⟨most, prior | smaller⟩
    · exact .inl prior
    · rcases lt_or_eq_of_le most with prior | eq
      · exact .inl prior
      · exact .inr ⟨eq, smaller⟩
  · rintro (prior | ⟨eq, smaller⟩)
    · exact ⟨le_of_lt prior, .inl prior⟩
    · exact ⟨le_of_eq eq, .inr smaller⟩

theorem fetch_first (keep : Nat) :
    firstCandidates keep false (entries.table.rows.filter ResolvedTimelineCursor.unbounded.admits)
      = (timeline entries).take keep := by
  have all : entries.table.rows.filter ResolvedTimelineCursor.unbounded.admits
      = entries.table.rows := List.filter_eq_self.mpr fun _ _ => rfl
  rw [firstCandidates, keepPage_backward, all]
  rfl

variable {back front : List HomeTimelineCandidateRow}

theorem newestFirst_after {row : HomeTimelineCandidateRow}
    (split : timeline entries = front ++ row :: back) :
    NewestFirstList back := by
  have list : NewestFirstList (front ++ row :: back) := split ▸ newestFirst_timeline
  exact list.sublist ((List.sublist_cons_self row back).trans (List.sublist_append_right front _))

/-- What is older than an entry comes after it. -/
theorem older_iff_mem_after {row other : HomeTimelineCandidateRow}
    (split : timeline entries = front ++ row :: back) :
    other ∈ entries.table.rows ∧ rowKey other < rowKey row ↔ other ∈ back := by
  have list : NewestFirstList (timeline entries) := newestFirst_timeline
  have ordered := list.ordered
  have nodup := list.distinct
  rw [split] at ordered nodup
  obtain ⟨-, behind, between⟩ := List.pairwise_append.mp ordered
  have notAgain : row ∉ back :=
    (List.nodup_cons.mp (List.nodup_append.mp nodup).2.1).1
  rw [← mem_timeline, split, List.mem_append, List.mem_cons]
  constructor
  · rintro ⟨pre | rfl | post, less⟩
    · exact absurd less (not_lt.mpr (newestFirst_iff.mp (between other pre row (by simp))))
    · exact absurd less (lt_irrefl _)
    · exact post
  · intro post
    refine ⟨.inr (.inr post), lt_of_le_of_ne ?_ fun eq => notAgain ?_⟩
    · exact newestFirst_iff.mp ((List.pairwise_cons.mp behind).1 other post)
    · have mem (x : HomeTimelineCandidateRow) (listed : x ∈ row :: back) :
          x ∈ timeline entries := by
        rw [split]
        exact List.mem_append_right _ listed
      rwa [← list.one.injective row (mem row List.mem_cons_self) other
        (mem other (List.mem_cons_of_mem _ post)) eq]

/-- **The candidates after an entry** are the next ones of the timeline. -/
theorem fetch_after {row : HomeTimelineCandidateRow}
    (split : timeline entries = front ++ row :: back) (keep : Nat) :
    firstCandidates keep false (entries.table.rows.filter (cursorAfter row).admits)
      = back.take keep := by
  have within : OneRowPerId (entries.table.rows.filter (cursorAfter row).admits) :=
    oneRowPerId_entries.subset List.filter_sublist.subset
  have rest := newestFirst_after split
  have eq : sortNewestFirst (entries.table.rows.filter (cursorAfter row).admits).dedup = back := by
    rw [(newestFirst_dedup within).eq_iff_toFinset_eq rest, toFinset_sortNewestFirst_dedup]
    ext other
    rw [List.mem_toFinset, List.mem_toFinset, List.mem_filter, admits_cursorAfter,
      older_iff_mem_after split]
  rw [firstCandidates, keepPage_backward, eq]

/-! ## The entries of a page -/

theorem timelinePageResponse_backward {window : List HomeTimelineCandidateRow}
    (list : NewestFirstList window) (limit : Nat) :
    timelinePageResponse (timelineEntriesFromCandidateRows muted window limit false) limit false
      = { rows := (window.filter fun row => !muted row).take limit
          firstId := linkId ((window.filter fun row => !muted row).take limit).head?
          lastId := if limit < (window.filter fun row => !muted row).length then
              linkId ((window.filter fun row => !muted row).take limit).getLast?
            else none } := by
  have ids : (window.map HomeTimelineCandidateRow.statusId).Nodup :=
    List.Nodup.map_on (fun row mem other otherMem eq =>
      (list.one row mem other otherMem eq.symm).symm) list.distinct
  have kept : (keepUnseen HomeTimelineCandidateRow.statusId ∅ window).1 = window :=
    keepUnseen_eq_self ids fun _ _ => Finset.notMem_empty _
  have shown := list.sublist (List.filter_sublist (p := fun row => !muted row))
  have sorted (rows : List HomeTimelineCandidateRow) (ordered : rows.Pairwise NewestFirst) :
      sortNewestFirst rows = rows := ordered.insertionSort_eq
  rw [timelineEntriesFromCandidateRows, selectPublicTimelineCandidates, kept,
    sorted _ shown.ordered, keepPage_backward, timelinePageResponse,
    sorted _ (shown.sublist (List.take_sublist _ _)).ordered, keepPage_backward,
    List.take_take, Nat.min_eq_left (Nat.le_succ limit), List.length_take]
  have more : limit < min (limit + 1) (window.filter fun row => !muted row).length
      ↔ limit < (window.filter fun row => !muted row).length := by omega
  simp only [Bool.false_or, decide_eq_true_eq, more]

def pageOf (muted : HomeTimelineCandidateRow → Bool) (limit : Nat)
    (next : List HomeTimelineCandidateRow) : TimelinePage :=
  let shown := (next.take (timelineFetchLimit limit)).filter fun row => !muted row
  { rows := shown.take limit
    firstId := linkId (shown.take limit).head?
    lastId := if limit < shown.length then linkId (shown.take limit).getLast? else none }

/-- **The first page** shows the first entries of the timeline. -/
theorem page_first (limit : Option Nat) :
    homeTimelinePage entries muted ⟨limit, none, none, none⟩
      = pageOf muted (timelineLimit limit) (timeline entries) := by
  have list : NewestFirstList (timeline entries) := newestFirst_timeline
  rw [pageOf, ← timelinePageResponse_backward (list.sublist (List.take_sublist _ _)), ← fetch_first]
  rfl

/-- **A page after an entry** shows the next entries of the timeline. -/
theorem page_after {row : HomeTimelineCandidateRow}
    (split : timeline entries = front ++ row :: back) (limit : Option Nat) :
    homeTimelinePage entries muted ⟨limit, some row.statusId, none, none⟩
      = pageOf muted (timelineLimit limit) back := by
  have held : row ∈ entries.table.rows := by
    rw [← mem_timeline, split]
    simp
  obtain ⟨trimmed, given⟩ := entries.plain row held
  have normal : normalizeTimelineCursor (some row.statusId) = some row.statusId := by
    rw [normalizeTimelineCursor, Option.map_some, trimmed, Option.filter_some,
      if_pos (by simpa using given)]
  have got : resolveTimelineCursor entries ⟨limit, some row.statusId, none, none⟩
      = cursorAfter row := by
    rw [resolveTimelineCursor]
    simp only [normal, resolveTimelineCursorTimestamp, Option.bind_eq_bind, Option.bind_some,
      Table.find_of_mem held]
    rfl
  have rest := newestFirst_after split
  rw [pageOf, ← timelinePageResponse_backward (rest.sublist (List.take_sublist _ _)),
    ← fetch_after split, homeTimelinePage]
  simp only [got, timelineCursorIsUnresolved, normal]
  rfl

end Pages

section Walk

/-! ## Walking through a timeline

A client starts without a cursor and follows the links to the next page until none is
offered.  A page fetches a bounded number of entries, and offers a next page only if more
of them are visible than it shows.

* `Walk.unique`, `walk_from` -- every walk ends, in one way.
-/

open Library HomeTimeline

variable (entries : TimelineEntries) (muted : HomeTimelineCandidateRow → Bool)

/-- The entries that are shown by the pages from a request on. -/
inductive Walk : TimelinePaginationQuery → List HomeTimelineCandidateRow → Prop where
  | last {query : TimelinePaginationQuery}
      (ended : (homeTimelinePage entries muted query).lastId = none) :
      Walk query (homeTimelinePage entries muted query).rows
  | next {query : TimelinePaginationQuery} {id : String}
      {later : List HomeTimelineCandidateRow}
      (offered : (homeTimelinePage entries muted query).lastId = some id)
      (walk : Walk (nextQuery query id) later) :
      Walk query ((homeTimelinePage entries muted query).rows ++ later)

/-- The walk from the start visits every entry that is not muted once. -/
def WalkComplete (limit : Option Nat) : Prop :=
  ∃ visited, Walk entries muted ⟨limit, none, none, none⟩ visited
    ∧ visited.Perm (entries.table.rows.filter fun row => !muted row)

/-- Of the next entries, those that are fetched hold one visible entry more than a page,
or all. -/
def WindowReaches (limit : Nat) (next : List HomeTimelineCandidateRow) : Prop :=
  min (limit + 1) (next.filter fun row => !muted row).length
    ≤ ((next.take (timelineFetchLimit limit)).filter fun row => !muted row).length

variable {entries} {muted}

theorem Walk.unique {query : TimelinePaginationQuery}
    {visited visited' : List HomeTimelineCandidateRow} (walk : Walk entries muted query visited)
    (walk' : Walk entries muted query visited') : visited = visited' := by
  induction walk generalizing visited' with
  | last ended =>
    cases walk' with
    | last _ => rfl
    | next offered _ =>
      rw [ended] at offered
      cases offered
  | next offered _ ih =>
    cases walk' with
    | last ended =>
      rw [ended] at offered
      cases offered
    | next offered' walk' =>
      rw [offered] at offered'
      cases offered'
      rw [ih walk']

/-! ## From a page boundary on -/

theorem timelineLimit_pos (limit : Option Nat) : 0 < timelineLimit limit := by
  rw [timelineLimit]
  omega

theorem timelineLimit_timelineLimit (limit : Option Nat) :
    timelineLimit (some (timelineLimit limit)) = timelineLimit limit := by
  rw [timelineLimit, timelineLimit, Option.getD_some]
  omega

section

variable {limit : Nat} {next : List HomeTimelineCandidateRow}

theorem window_comes_first : ((next.take (timelineFetchLimit limit)).filter fun row => !muted row)
    <+: next.filter fun row => !muted row :=
  (List.take_prefix _ _).filter _

theorem rows_pageOf (more : limit
      < ((next.take (timelineFetchLimit limit)).filter fun row => !muted row).length) :
    (pageOf muted limit next).rows = (next.filter fun row => !muted row).take limit := by
  obtain ⟨later, split⟩ := @window_comes_first muted limit next
  rw [pageOf, ← split, List.take_append_of_le_length (le_of_lt more)]

theorem rows_pageOf_of_le (less :
      ((next.take (timelineFetchLimit limit)).filter fun row => !muted row).length ≤ limit) :
    (pageOf muted limit next).rows
      = (next.take (timelineFetchLimit limit)).filter fun row => !muted row :=
  List.take_of_length_le less

/-- Such a page shows all visible entries exactly if what is fetched reaches far enough,
and then it does so at every boundary. -/
theorem last_page_complete_iff (pos : 0 < limit) (less :
      ((next.take (timelineFetchLimit limit)).filter fun row => !muted row).length ≤ limit) :
    (pageOf muted limit next).rows = (next.filter fun row => !muted row)
      ↔ ∀ pages, WindowReaches muted limit
        (dropHits (fun row => !muted row) (pages * limit) next) := by
  rw [rows_pageOf_of_le less]
  constructor
  · intro all pages
    rw [WindowReaches, filter_dropHits, List.length_drop]
    cases pages with
    | zero => rw [Nat.zero_mul, dropHits_zero, all, Nat.sub_zero]; exact min_le_right _ _
    | succ pages =>
      have gone : (next.filter fun row => !muted row).length - (pages + 1) * limit = 0 := by
        rw [← all, Nat.sub_eq_zero_iff_le, Nat.succ_mul]
        omega
      rw [gone]
      omega
  · intro reaches
    have reach := reaches 0
    rw [Nat.zero_mul, dropHits_zero, WindowReaches] at reach
    exact window_comes_first.eq_of_length_le (by omega)

end

theorem exists_next_boundary {limit : Option Nat} {query : TimelinePaginationQuery}
    (sameLimit : timelineLimit query.limit = timelineLimit limit)
    {front next : List HomeTimelineCandidateRow} (suffix : timeline entries = front ++ next)
    (more : timelineLimit limit
      < ((next.take (timelineFetchLimit (timelineLimit limit))).filter
        fun row => !muted row).length) :
    ∃ row between, next = between ++ row :: dropHits (fun row => !muted row) (timelineLimit limit) next
      ∧ (pageOf muted (timelineLimit limit) next).lastId = some row.statusId
      ∧ homeTimelinePage entries muted (nextQuery query row.statusId)
        = pageOf muted (timelineLimit limit)
          (dropHits (fun row => !muted row) (timelineLimit limit) next) := by
  have pos := timelineLimit_pos limit
  have enough : timelineLimit limit ≤ (next.filter fun row => !muted row).length :=
    (le_of_lt more).trans window_comes_first.length_le
  obtain ⟨between, row, split, last⟩ := exists_split_dropHits pos enough
  have held : row ∈ entries.table.rows := by
    rw [← mem_timeline, suffix, split]
    simp
  refine ⟨row, between, split, ?_, ?_⟩
  · have shown := rows_pageOf more
    rw [pageOf] at shown ⊢
    dsimp only at shown ⊢
    rw [if_pos more, shown, last, linkId, Option.map_some, Option.filter_some,
      if_pos (by simpa using (entries.plain row held).2)]
  · have whole : timeline entries = (front ++ between)
        ++ row :: dropHits (fun row => !muted row) (timelineLimit limit) next := by
      rw [suffix, List.append_assoc, ← split]
    rw [nextQuery, page_after whole, sameLimit, timelineLimit_timelineLimit]

/-- **From a page boundary on**, the walk ends, what it visits comes first of what is
visible, and it is all of it exactly if the entries that are fetched reach far enough at
every boundary. -/
theorem walk_from (limit : Option Nat) (query : TimelinePaginationQuery)
    (sameLimit : timelineLimit query.limit = timelineLimit limit)
    (front next : List HomeTimelineCandidateRow) (suffix : timeline entries = front ++ next)
    (page : homeTimelinePage entries muted query = pageOf muted (timelineLimit limit) next) :
    ∃ visited, Walk entries muted query visited
      ∧ visited <+: (next.filter fun row => !muted row)
      ∧ (visited = (next.filter fun row => !muted row)
        ↔ ∀ pages, WindowReaches muted (timelineLimit limit)
          (dropHits (fun row => !muted row) (pages * timelineLimit limit) next)) := by
  have pos := timelineLimit_pos limit
  induction length : next.length using Nat.strongRecOn generalizing query front next with
  | ind size ih =>
    by_cases more : timelineLimit limit
        < ((next.take (timelineFetchLimit (timelineLimit limit))).filter
          fun row => !muted row).length
    · obtain ⟨row, between, split, lastId, pageNext⟩ :=
        exists_next_boundary sameLimit suffix more
      have shorter : (dropHits (fun row => !muted row) (timelineLimit limit) next).length
          < size := by
        have lengths := congrArg List.length split
        rw [List.length_append, List.length_cons] at lengths
        omega
      have whole : timeline entries = (front ++ between ++ [row])
          ++ dropHits (fun row => !muted row) (timelineLimit limit) next := by
        rw [suffix, List.append_assoc, List.append_assoc, List.singleton_append, ← split]
      obtain ⟨later, walk, pre, full⟩ := ih _ shorter
        (nextQuery query row.statusId) (by rw [nextQuery, sameLimit, timelineLimit_timelineLimit])
        _ _ whole pageNext rfl
      have rows : (homeTimelinePage entries muted query).rows
          = (next.filter fun row => !muted row).take (timelineLimit limit) := by
        rw [page, rows_pageOf more]
      rw [filter_dropHits] at pre full
      refine ⟨_, Walk.next (by rw [page, lastId]) walk, ?_, ?_⟩
      · rw [rows]
        obtain ⟨tail, joined⟩ := pre
        exact ⟨tail, by rw [List.append_assoc, joined, List.take_append_drop]⟩
      · have visited : (homeTimelinePage entries muted query).rows ++ later
              = (next.filter fun row => !muted row)
            ↔ later = (next.filter fun row => !muted row).drop (timelineLimit limit) := by
          rw [rows]
          nth_rewrite 2 [← List.take_append_drop (timelineLimit limit)
            (next.filter fun row => !muted row)]
          exact List.append_right_inj _
        rw [visited, full]
        constructor
        · intro reaches pages
          cases pages with
          | zero =>
            rw [Nat.zero_mul, dropHits_zero, WindowReaches]
            omega
          | succ pages =>
            rw [Nat.succ_mul, Nat.add_comm, dropHits_add]
            exact reaches pages
        · intro reaches pages
          have reach := reaches (pages + 1)
          rwa [Nat.succ_mul, Nat.add_comm, dropHits_add] at reach
    · have less := not_lt.mp more
      have ended : (homeTimelinePage entries muted query).lastId = none := by
        rw [page, pageOf]
        exact if_neg more
      refine ⟨_, Walk.last ended, ?_, ?_⟩
      · rw [page, rows_pageOf_of_le less]
        exact window_comes_first
      · rw [page]
        exact last_page_complete_iff pos less

/-! ## From the start -/

theorem exists_walk (entries : TimelineEntries) (muted : HomeTimelineCandidateRow → Bool)
    (limit : Option Nat) :
    ∃ visited, Walk entries muted ⟨limit, none, none, none⟩ visited := by
  obtain ⟨visited, walk, -⟩ := @walk_from entries muted limit ⟨limit, none, none, none⟩ rfl []
    (timeline entries) rfl (page_first limit)
  exact ⟨visited, walk⟩

theorem timeline_perm : (timeline entries).Perm entries.table.rows :=
  (List.perm_ext_iff_of_nodup newestFirst_timeline.distinct
    (List.Nodup.of_map _ entries.table.keysDistinct)).mpr fun _ => mem_timeline

def entryOf (id day : String) : HomeTimelineCandidateRow :=
  ⟨.remoteSource, id, "2099-01-" ++ day ++ "T00:00:00Z"⟩

def fiveEntries : TimelineEntries where
  table :=
    { rows := [entryOf "status-e" "05", entryOf "status-d" "04", entryOf "status-c" "03",
        entryOf "status-b" "02", entryOf "status-a" "01"]
      keysDistinct := by decide }
  plain := by decide +kernel

/-- The three entries in the middle are by a muted author. -/
def middleMuted (row : HomeTimelineCandidateRow) : Bool :=
  row.statusId == "status-d" || row.statusId == "status-c" || row.statusId == "status-b"

end Walk

end Cfwdon.Timelines
