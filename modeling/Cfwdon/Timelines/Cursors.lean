import Cfwdon.Library.Slices
import Cfwdon.Library.Unseen
import Mathlib.Data.Prod.Lex
import Mathlib.Data.String.Basic

/-!
# Cursors and pages of timelines

A timeline is ordered by the time of its entries, and by their ids where times agree.  A
cursor bounds an entry from above, from below, or both.  A page holds the newest entries
within the bounds, or the oldest ones if the cursor asks forward; either way it shows them
newest first.
-/

namespace Cfwdon.Timelines

open Library

/-- Where a status comes from. -/
inductive HomeTimelineCandidateSource where
  | localSource
  | remoteSource
  deriving DecidableEq

structure HomeTimelineCandidateRow where
  source : HomeTimelineCandidateSource
  statusId : String
  timestamp : String
  deriving DecidableEq

def NewestFirst (left right : HomeTimelineCandidateRow) : Prop :=
  right.timestamp < left.timestamp
    ∨ right.timestamp = left.timestamp ∧ right.statusId ≤ left.statusId

instance : DecidableRel NewestFirst :=
  fun _ _ => inferInstanceAs (Decidable (_ ∨ _))

/-- The order of a query: `ASC` or `DESC`, by time and id. -/
def InDirection (forward : Bool) (left right : HomeTimelineCandidateRow) : Prop :=
  if forward then NewestFirst right left else NewestFirst left right

instance (forward : Bool) : DecidableRel (InDirection forward) :=
  fun left right => inferInstanceAs
    (Decidable (if forward then NewestFirst right left else NewestFirst left right))

/-- `ORDER BY timestamp, id` in a direction. -/
def orderBy (forward : Bool) (rows : List HomeTimelineCandidateRow) :
    List HomeTimelineCandidateRow :=
  rows.insertionSort (InDirection forward)

/-! ## Cursors -/

structure ResolvedTimelineCursor where
  maxId : Option String
  maxTimestamp : Option String
  minId : Option String
  minTimestamp : Option String
  forward : Bool

namespace ResolvedTimelineCursor

/-- No bounds. -/
def unbounded : ResolvedTimelineCursor := ⟨none, none, none, none, false⟩

/-- `seekable_resolved_timeline_cursor_predicates`: a bound needs its time and its id. -/
def admits (cursor : ResolvedTimelineCursor) (row : HomeTimelineCandidateRow) : Bool :=
  (match cursor.maxTimestamp, cursor.maxId with
    | some timestamp, some id =>
      decide (row.timestamp ≤ timestamp)
        && (decide (row.timestamp < timestamp) || decide (row.statusId < id))
    | _, _ => true)
  && match cursor.minTimestamp, cursor.minId with
    | some timestamp, some id =>
      decide (timestamp ≤ row.timestamp)
        && (decide (timestamp < row.timestamp) || decide (id < row.statusId))
    | _, _ => true

end ResolvedTimelineCursor

/-! ## Limits and pages -/

def timelineLimit (limit : Option Nat) : Nat := min (max (limit.getD 20) 1) 40

/-- `timeline_fetch_limit`, whose product saturates far above 160. -/
def timelineFetchLimit (limit : Nat) : Nat := min (max (limit * 4) limit) 160

def keepTimelinePage {Row : Type*} (rows : List Row) (keep : Nat) (forward : Bool) : List Row :=
  if rows.length ≤ keep then rows
  else if forward then rows.drop (rows.length - keep)
  else rows.take keep

/-- The sort of a page by `sort_by`. -/
def sortNewestFirst (rows : List HomeTimelineCandidateRow) : List HomeTimelineCandidateRow :=
  rows.insertionSort NewestFirst

/-! ## The order of entries -/

/-- The time and the id of a row. -/
def rowKey (row : HomeTimelineCandidateRow) : String ×ₗ String :=
  toLex (row.timestamp, row.statusId)

theorem newestFirst_iff {left right : HomeTimelineCandidateRow} :
    NewestFirst left right ↔ rowKey right ≤ rowKey left := by
  rw [NewestFirst, rowKey, rowKey, Prod.Lex.toLex_le_toLex]

instance : Std.Total NewestFirst where
  total left right := by
    rw [newestFirst_iff, newestFirst_iff]
    exact le_total _ _

instance : IsTrans HomeTimelineCandidateRow NewestFirst where
  trans left middle right first second := by
    rw [newestFirst_iff] at first second ⊢
    exact second.trans first

instance (forward : Bool) : Std.Total (InDirection forward) where
  total left right := by
    cases forward with
    | true => exact total_of NewestFirst right left
    | false => exact total_of NewestFirst left right

instance (forward : Bool) : IsTrans HomeTimelineCandidateRow (InDirection forward) where
  trans left middle right first second := by
    cases forward with
    | true => exact trans_of NewestFirst second first
    | false => exact trans_of NewestFirst first second

/-- One row comes before another in a direction. -/
def Before (forward : Bool) (row other : HomeTimelineCandidateRow) : Prop :=
  ¬ InDirection forward other row

instance (forward : Bool) : DecidableRel (Before forward) :=
  fun row other => inferInstanceAs (Decidable (¬ InDirection forward other row))

def OneRowPerId (rows : List HomeTimelineCandidateRow) : Prop :=
  ∀ row ∈ rows, ∀ other ∈ rows, other.statusId = row.statusId → other = row

theorem OneRowPerId.injective {rows : List HomeTimelineCandidateRow} (one : OneRowPerId rows) :
    ∀ row ∈ rows, ∀ other ∈ rows, rowKey other = rowKey row → other = row := by
  intro row mem other otherMem eq
  exact one row mem other otherMem (congrArg (fun key => (ofLex key).2) eq)

theorem OneRowPerId.subset {rows part : List HomeTimelineCandidateRow} (one : OneRowPerId rows)
    (subset : part ⊆ rows) : OneRowPerId part :=
  fun row mem other otherMem => one row (subset mem) other (subset otherMem)

/-! ## The first rows in a direction -/

def firstInDirection (forward : Bool) (n : Nat) (rows : Finset HomeTimelineCandidateRow) :
    Finset HomeTimelineCandidateRow :=
  if forward then firstOf rowKey n rows else firstOf (OrderDual.toDual ∘ rowKey) n rows

variable {forward : Bool} {n : Nat} {rows : List HomeTimelineCandidateRow}

theorem firstInDirection_eq_iff_subset {part whole : Finset HomeTimelineCandidateRow}
    (subset : part ⊆ whole) :
    firstInDirection forward n part = firstInDirection forward n whole
      ↔ firstInDirection forward n whole ⊆ part := by
  cases forward with
  | true | false => exact firstOf_eq_iff_subset subset

theorem firstInDirection_union (first second : Finset HomeTimelineCandidateRow) :
    firstInDirection forward n
        (firstInDirection forward n first ∪ firstInDirection forward n second)
      = firstInDirection forward n (first ∪ second) := by
  cases forward with
  | true | false => exact firstOf_union first second

theorem toFinset_orderBy_take (one : OneRowPerId rows) (nodup : rows.Nodup) :
    ((orderBy forward rows).take n).toFinset = firstInDirection forward n rows.toFinset := by
  have perm := List.perm_insertionSort (InDirection forward) rows
  have sorted := List.pairwise_insertionSort (InDirection forward) rows
  have inj := (one.subset perm.subset).injective
  rw [← List.toFinset_eq_of_perm _ _ perm, orderBy]
  cases forward with
  | true =>
    refine toFinset_take (sorted.imp fun ordered => ?_) inj (perm.nodup_iff.mpr nodup)
    exact newestFirst_iff.mp ordered
  | false =>
    refine toFinset_take (sorted.imp fun ordered => ?_) (fun row mem other otherMem eq =>
      inj row mem other otherMem (OrderDual.toDual.injective eq))
      (perm.nodup_iff.mpr nodup)
    exact newestFirst_iff.mp ordered

variable {row : HomeTimelineCandidateRow}

theorem before_iff {other : HomeTimelineCandidateRow} :
    Before forward row other
      ↔ if forward then rowKey row < rowKey other else rowKey other < rowKey row := by
  rw [Before, InDirection]
  cases forward with
  | true | false => exact (not_congr newestFirst_iff).trans not_le

theorem OneRowPerId.same (one : OneRowPerId rows) (mem : row ∈ rows) :
    ∀ other ∈ rows, rowKey other = rowKey row → other = row :=
  one.injective row mem

/-- **What a query with an order and a limit keeps**, also where it lists a row twice. -/
theorem mem_orderBy_take_iff (one : OneRowPerId rows) :
    row ∈ (orderBy forward rows).take n
      ↔ row ∈ rows ∧ rows.countP (fun other => decide (Before forward other row)) < n := by
  have perm := List.perm_insertionSort (InDirection forward) rows
  have sorted := List.pairwise_insertionSort (InDirection forward) rows
  by_cases mem : row ∈ rows
  · have eq : ∀ other ∈ orderBy forward rows, rowKey other = rowKey row → other = row :=
      fun other listed => one.same mem other (perm.subset listed)
    rw [← perm.mem_iff, ← perm.countP_eq]
    simp only [before_iff]
    cases forward with
    | true => exact mem_take_iff (sorted.imp newestFirst_iff.mp) eq
    | false =>
      refine @mem_take_iff _ _ _ (OrderDual.toDual ∘ rowKey) _ _ _
        (sorted.imp newestFirst_iff.mp) fun other listed equal => ?_
      exact eq other listed (OrderDual.toDual.injective equal)
  · refine iff_of_false (fun kept => mem ?_) fun both => mem both.1
    exact perm.subset (List.mem_of_mem_take kept)

/-- **Groups of rows may be cut before they are merged.** -/
theorem mem_groups_take_iff {Group : Type*} {groups : List Group}
    {rowsOf : Group → List HomeTimelineCandidateRow} (one : OneRowPerId (groups.flatMap rowsOf)) :
    row ∈ (orderBy forward (groups.flatMap fun group =>
        (orderBy forward (rowsOf group)).take n)).take n
      ↔ row ∈ groups.flatMap rowsOf
        ∧ (groups.flatMap rowsOf).countP (fun other => decide (Before forward other row)) < n := by
  have perm := List.perm_insertionSort (InDirection forward)
  have sorted := List.pairwise_insertionSort (InDirection forward)
  by_cases mem : row ∈ groups.flatMap rowsOf
  · simp only [before_iff]
    cases forward with
    | true =>
      exact mem_take_flatMap_iff perm (fun rows => (sorted rows).imp newestFirst_iff.mp)
        (one.same mem)
    | false =>
      refine @mem_take_flatMap_iff _ _ _ (OrderDual.toDual ∘ rowKey) _ _ _ _ perm
        (fun rows => (sorted rows).imp newestFirst_iff.mp) _ _ fun other listed equal => ?_
      exact one.same mem other listed (OrderDual.toDual.injective equal)
  · refine iff_of_false (fun kept => mem ?_) fun both => mem both.1
    obtain ⟨group, listed, inGroup⟩ :=
      List.mem_flatMap.mp ((perm _).subset (List.mem_of_mem_take kept))
    exact List.mem_flatMap.mpr ⟨group, listed, (perm _).subset (List.mem_of_mem_take inGroup)⟩

/-! ## Pages -/

/-- A list that is ordered newest first, with every entry once. -/
structure NewestFirstList (rows : List HomeTimelineCandidateRow) : Prop where
  ordered : rows.Pairwise NewestFirst
  distinct : rows.Nodup
  one : OneRowPerId rows

theorem NewestFirstList.sublist {part : List HomeTimelineCandidateRow}
    (list : NewestFirstList rows) (sublist : part.Sublist rows) : NewestFirstList part where
  ordered := list.ordered.sublist sublist
  distinct := list.distinct.sublist sublist
  one := list.one.subset sublist.subset

theorem keepPage_sublist {Row : Type*} (rows : List Row) (keep : Nat) (forward : Bool) :
    (keepTimelinePage rows keep forward).Sublist rows := by
  rw [keepTimelinePage]
  split_ifs
  · exact List.Sublist.refl _
  · exact List.drop_sublist _ _
  · exact List.take_sublist _ _

theorem keepPage_backward {Row : Type*} (rows : List Row) (keep : Nat) :
    keepTimelinePage rows keep false = rows.take keep := by
  rw [keepTimelinePage]
  by_cases short : rows.length ≤ keep
  · rw [if_pos short, List.take_of_length_le short]
  · rw [if_neg short]
    rfl

theorem keepPage_forward {Row : Type*} (rows : List Row) (keep : Nat) :
    keepTimelinePage rows keep true = (rows.reverse.take keep).reverse := by
  rw [keepTimelinePage, List.take_reverse, List.reverse_reverse]
  by_cases short : rows.length ≤ keep
  · rw [if_pos short, Nat.sub_eq_zero_of_le short, List.drop_zero]
  · rw [if_neg short]
    rfl

/-- **What a page keeps** of an ordered list are the first entries in its direction. -/
theorem NewestFirstList.toFinset_keepPage (list : NewestFirstList rows) :
    (keepTimelinePage rows n forward).toFinset = firstInDirection forward n rows.toFinset := by
  cases forward with
  | true =>
    rw [keepPage_forward, List.toFinset_reverse, ← @List.toFinset_reverse _ _ rows]
    refine @toFinset_take _ _ _ rowKey _ _ _ ?_ ?_ (List.nodup_reverse.mpr list.distinct)
    · exact List.pairwise_reverse.mpr (list.ordered.imp newestFirst_iff.mp)
    · intro row mem other otherMem eq
      exact list.one.injective row (List.mem_reverse.mp mem) other
        (List.mem_reverse.mp otherMem) eq
  | false =>
    rw [keepPage_backward]
    refine @toFinset_take _ _ _ (OrderDual.toDual ∘ rowKey) _ _ _
      (list.ordered.imp newestFirst_iff.mp) ?_ list.distinct
    intro row mem other otherMem eq
    exact list.one.injective row mem other otherMem (OrderDual.toDual.injective eq)

/-- **Ordered lists with the same entries are the same.** -/
theorem NewestFirstList.eq_iff_toFinset_eq {other : List HomeTimelineCandidateRow}
    (list : NewestFirstList rows) (otherList : NewestFirstList other) :
    rows = other ↔ rows.toFinset = other.toFinset := by
  constructor
  · rintro rfl
    rfl
  · intro eq
    have mem (row : HomeTimelineCandidateRow) : row ∈ rows ↔ row ∈ other := by
      rw [← List.mem_toFinset, eq, List.mem_toFinset]
    refine List.Perm.eq_of_pairwise ?_ list.ordered otherList.ordered
      ((List.perm_ext_iff_of_nodup list.distinct otherList.distinct).mpr mem)
    intro row row' member mem' first second
    exact otherList.one.injective row' mem' row ((mem row).mp member)
      (le_antisymm (newestFirst_iff.mp second) (newestFirst_iff.mp first))

theorem newestFirst_keepUnseen (one : OneRowPerId rows) :
    NewestFirstList (keepUnseen HomeTimelineCandidateRow.statusId ∅ (sortNewestFirst rows)).1 where
  ordered := (List.pairwise_insertionSort NewestFirst rows).sublist keepUnseen_sublist
  distinct := List.Nodup.of_map _ keys_keepUnseen_nodup
  one := one.subset fun _ mem =>
    (List.perm_insertionSort NewestFirst rows).subset (mem_of_mem_keepUnseen mem)

theorem toFinset_keepUnseen (one : OneRowPerId rows) :
    (keepUnseen HomeTimelineCandidateRow.statusId ∅ (sortNewestFirst rows)).1.toFinset
      = rows.toFinset := by
  have perm := List.perm_insertionSort NewestFirst rows
  ext row
  rw [List.mem_toFinset, List.mem_toFinset]
  constructor
  · intro kept
    exact perm.subset (mem_of_mem_keepUnseen kept)
  · intro mem
    have known : row.statusId ∈ (keepUnseen HomeTimelineCandidateRow.statusId ∅
        (sortNewestFirst rows)).1.map HomeTimelineCandidateRow.statusId :=
      mem_keys_keepUnseen.mpr ⟨Finset.notMem_empty _, List.mem_map_of_mem (perm.symm.subset mem)⟩
    obtain ⟨kept, keptMember, eq⟩ := List.mem_map.mp known
    rwa [← one row mem kept (perm.subset (mem_of_mem_keepUnseen keptMember)) eq]

theorem newestFirst_dedup (one : OneRowPerId rows) :
    NewestFirstList (sortNewestFirst rows.dedup) where
  ordered := List.pairwise_insertionSort NewestFirst _
  distinct := (List.perm_insertionSort NewestFirst _).nodup_iff.mpr rows.nodup_dedup
  one := one.subset fun _ mem =>
    List.mem_dedup.mp ((List.perm_insertionSort NewestFirst _).subset mem)

theorem toFinset_sortNewestFirst_dedup : (sortNewestFirst rows.dedup).toFinset = rows.toFinset := by
  ext row
  rw [List.mem_toFinset, List.mem_toFinset, sortNewestFirst,
    (List.perm_insertionSort NewestFirst rows.dedup).mem_iff, List.mem_dedup]

end Cfwdon.Timelines
