import Cfwdon.Library.CursorWalks
import Cfwdon.ScheduledStatuses.Publishing
import Mathlib.Tactic.Linarith

/-!
# Walking through the scheduled statuses

The list of scheduled statuses is paged by the row ids.  One row more than the page is
fetched, to tell whether there are others.  A request with `min_id` fetches the rows after
it in ascending order and reverses them, and then cuts the page at its end as the other
requests do: the row it drops is the oldest one, not the one beyond the page.
-/

namespace Cfwdon.ScheduledStatuses

open Library

/-- A row of `scheduled_statuses` with its row id, which SQLite counts from one. -/
structure NumberedStatus extends ScheduledStatus where
  rowid : Nat
  deriving DecidableEq

abbrev NumberedStatuses := Table NumberedStatus NumberedStatus.rowid

/-- `i32::try_from(value).unwrap_or(i32::MAX)`: how a number is bound. -/
def bindInteger (value : Int) : Int :=
  if -2147483648 ≤ value ∧ value ≤ 2147483647 then value else 2147483647

/-- The cursors of a request, `InternalPaginationIds`. -/
structure PaginationIds where
  maxId : Option Int
  sinceId : Option Int
  minId : Option Int

variable (statuses : NumberedStatuses) (accountId : String) (requestApplicationId : Option Int)

/-- The scheduled statuses of an account, or of one of its applications. -/
def ofRequest : List NumberedStatus :=
  statuses.select fun row =>
    row.accountId == accountId
      && requestApplicationId.all fun id => row.applicationId == some (bindInteger id)

/-- `ORDER BY rowid ASC`. -/
def Ascending (left right : NumberedStatus) : Prop := left.rowid ≤ right.rowid

/-- `ORDER BY rowid DESC`. -/
def Descending (left right : NumberedStatus) : Prop := right.rowid ≤ left.rowid

instance : DecidableRel Ascending := fun _ _ => inferInstanceAs (Decidable (_ ≤ _))

instance : DecidableRel Descending := fun _ _ => inferInstanceAs (Decidable (_ ≤ _))

instance : Std.Total Ascending where
  total left right := Nat.le_total left.rowid right.rowid

instance : Std.Total Descending where
  total left right := Nat.le_total right.rowid left.rowid

instance : IsTrans NumberedStatus Ascending where
  trans _ _ _ first second := Nat.le_trans first second

instance : IsTrans NumberedStatus Descending where
  trans _ _ _ first second := Nat.le_trans second first

/-- `rowid < ?2`. -/
def belowId (maxId : Option Int) (row : NumberedStatus) : Bool :=
  maxId.all fun id => decide ((row.rowid : Int) < bindInteger id)

/-- `rowid > ?3`, `rowid > ?4`. -/
def aboveId (minId : Option Int) (row : NumberedStatus) : Bool :=
  minId.all fun id => decide (bindInteger id < row.rowid)

def listScheduledStatusesForAccount (limit : Nat) (ids : PaginationIds) :
    List NumberedStatus :=
  if ids.minId.isSome then
    ((((ofRequest statuses accountId requestApplicationId).filter fun row =>
      belowId ids.maxId row && aboveId ids.minId row).insertionSort Ascending).take limit).reverse
  else
    (((ofRequest statuses accountId requestApplicationId).filter fun row =>
      belowId ids.maxId row && aboveId ids.sinceId row).insertionSort Descending).take limit

/-- The limit of `scheduled_statuses_response`. -/
def scheduledLimit (limit : Option Nat) : Nat := min (max (limit.getD 20) 1) 40

/-- The statuses that `scheduled_statuses_response` shows. -/
def scheduledPage (limit : Option Nat) (ids : PaginationIds) : List NumberedStatus :=
  (listScheduledStatusesForAccount statuses accountId requestApplicationId
    (scheduledLimit limit + 1) ids).take (scheduledLimit limit)

/-- The pages of a client that follows `max_id`. -/
def backwardPage (limit : Option Nat) (maxId : Option Int) : List NumberedStatus :=
  scheduledPage statuses accountId requestApplicationId limit ⟨maxId, none, none⟩

/-- The next `max_id`: the oldest id of a page. -/
def nextMaxId (page : List NumberedStatus) : Option (Option Int) :=
  page.getLast?.map fun row => some (row.rowid : Int)

/-- The pages of a client that follows `min_id`. -/
def forwardPage (limit : Option Nat) (minId : Int) : List NumberedStatus :=
  scheduledPage statuses accountId requestApplicationId limit ⟨none, none, some minId⟩

/-- The next `min_id`: the newest id of a page. -/
def nextMinId (page : List NumberedStatus) : Option Int :=
  page.head?.map fun row => (row.rowid : Int)

def statusesBefore (start : Option Int) : List NumberedStatus :=
  (ofRequest statuses accountId requestApplicationId).filter fun row =>
    start.all fun id => decide ((row.rowid : Int) < id)

def statusesAfter (start : Int) : List NumberedStatus :=
  (ofRequest statuses accountId requestApplicationId).filter fun row =>
    decide (start < row.rowid)

variable {statuses} {accountId} {requestApplicationId}

/-! ## Ids and bindings -/

theorem scheduledLimit_pos (limit : Option Nat) : 0 < scheduledLimit limit := by
  rw [scheduledLimit]
  omega

theorem bindInteger_rowid (row : NumberedStatus) :
    bindInteger row.rowid = min (row.rowid : Int) 2147483647 := by
  rw [bindInteger]
  split_ifs with fits
  · omega
  · omega

theorem nodup_ofRequest : (ofRequest statuses accountId requestApplicationId).Nodup :=
  (List.Nodup.of_map _ statuses.keysDistinct).filter _

variable {row : NumberedStatus} {visited : List NumberedStatus}

theorem eq_of_rowid {row' : NumberedStatus}
    (mem : row ∈ ofRequest statuses accountId requestApplicationId)
    (mem' : row' ∈ ofRequest statuses accountId requestApplicationId)
    (eq : row.rowid = row'.rowid) : row = row' :=
  Table.eq_of_key_eq (List.mem_of_mem_filter mem) (List.mem_of_mem_filter mem') eq

/-! ## Backward -/

def newestFirst (statuses : NumberedStatuses) (accountId : String)
    (requestApplicationId : Option Int) : List NumberedStatus :=
  (ofRequest statuses accountId requestApplicationId).insertionSort Descending

/-- A page with `max_id` holds the first rows of the list that the cursor admits. -/
theorem backwardPage_eq (limit : Option Nat) :
    backwardPage statuses accountId requestApplicationId limit
      = admittedPage (newestFirst statuses accountId requestApplicationId) belowId
        (scheduledLimit limit) := by
  funext maxId
  have bounds : (fun row => belowId maxId row && aboveId none row) = belowId maxId := by
    funext row
    rw [aboveId, Option.all_none, Bool.and_true]
  rw [backwardPage, scheduledPage, listScheduledStatusesForAccount, Option.isSome_none,
    if_neg Bool.false_ne_true, bounds, List.take_take, admittedPage, newestFirst,
    filter_insertionSort, min_eq_left (Nat.le_succ _)]
  intro row mem row' mem' first second
  exact eq_of_rowid mem mem' (le_antisymm second first)

theorem belowId_some {id : Int} :
    belowId (some id) row = true ↔ (row.rowid : Int) < bindInteger id := by
  rw [belowId, Option.all_some, decide_eq_true_eq]

theorem bindInteger_le (id : Int) : bindInteger id ≤ 2147483647 := by
  rw [bindInteger]
  split_ifs with fits
  · exact fits.2
  · exact le_refl _

variable {last : NumberedStatus} {start : Int} {limit : Option Nat} {minId : Int}
  {younger : List NumberedStatus} {oldest : NumberedStatus}

theorem belowId_of_belowId {start : Option Int}
    (admitted : belowId start last = true) (later : belowId (some (last.rowid : Int)) row = true) :
    belowId start row = true := by
  cases start with
  | none => rfl
  | some id =>
    rw [belowId_some] at admitted later ⊢
    rw [bindInteger_rowid] at later
    exact (lt_of_lt_of_le later (min_le_left _ _)).trans admitted

theorem not_belowId_self (row : NumberedStatus) : belowId (some (row.rowid : Int)) row = false := by
  refine Bool.eq_false_iff.mpr fun below => ?_
  rw [belowId_some, bindInteger_rowid] at below
  exact absurd below (not_lt.mpr (min_le_left _ _))

/-- The client sees every status before the start once. -/
def BackwardComplete (statuses : NumberedStatuses) (accountId : String)
    (requestApplicationId : Option Int) (limit : Option Nat) (start : Option Int) : Prop :=
  CursorWalkVisits (backwardPage statuses accountId requestApplicationId limit) nextMaxId start
    (statusesBefore statuses accountId requestApplicationId start)

/-- The statuses that the first request of a walk backward may show, the newest first. -/
def admittedBefore (statuses : NumberedStatuses) (accountId : String)
    (requestApplicationId : Option Int) (start : Option Int) : List NumberedStatus :=
  (newestFirst statuses accountId requestApplicationId).filter (belowId start)

/-- The start of a walk is bound as itself, as far as its statuses can tell. -/
def StartBindsBefore (statuses : NumberedStatuses) (accountId : String)
    (requestApplicationId : Option Int) (start : Option Int) : Prop :=
  ∀ row ∈ ofRequest statuses accountId requestApplicationId,
    belowId start row = start.all fun id => decide ((row.rowid : Int) < id)

theorem admittedBefore_perm {start : Option Int}
    (binds : StartBindsBefore statuses accountId requestApplicationId start) :
    (admittedBefore statuses accountId requestApplicationId start).Perm
      (statusesBefore statuses accountId requestApplicationId start) := by
  have filtered := List.filter_congr binds
  rw [statusesBefore, ← filtered]
  exact (List.perm_insertionSort Descending _).filter _

theorem admittedBefore_sorted (statuses : NumberedStatuses) (accountId : String)
    (requestApplicationId start : Option Int) :
    (admittedBefore statuses accountId requestApplicationId start).Pairwise Descending :=
  (List.pairwise_insertionSort Descending _).filter _

theorem admittedBefore_nodup (statuses : NumberedStatuses) (accountId : String)
    (requestApplicationId start : Option Int) :
    (admittedBefore statuses accountId requestApplicationId start).Nodup :=
  ((List.perm_insertionSort Descending _).nodup_iff.mpr nodup_ofRequest).filter _

theorem le_of_take {listed : List NumberedStatus}
    (sorted : listed.Pairwise Descending) (atEnd : last ∈ listed.getLast?) (mem : row ∈ listed) :
    last.rowid ≤ row.rowid := by
  obtain ⟨pre, rfl⟩ := List.getLast?_eq_some_iff.mp atEnd
  rcases List.mem_append.mp mem with prior | eq
  · exact (List.pairwise_append.mp sorted).2.2 row prior last (List.mem_singleton_self _)
  · rw [List.mem_singleton.mp eq]

theorem older_of_drop {start : Option Int} {cut : Nat}
    (atEnd : last ∈ ((admittedBefore statuses accountId requestApplicationId start).take
      cut).getLast?)
    (mem : row ∈ (admittedBefore statuses accountId requestApplicationId start).drop cut) :
    row.rowid < last.rowid := by
  have sorted := admittedBefore_sorted statuses accountId requestApplicationId start
  have nodup := admittedBefore_nodup statuses accountId requestApplicationId start
  rw [← List.take_append_drop cut (admittedBefore statuses accountId requestApplicationId start)]
    at sorted nodup
  have shown := List.mem_of_getLast? atEnd
  have held {row : NumberedStatus}
      (listed : row ∈ admittedBefore statuses accountId requestApplicationId start) :
      row ∈ ofRequest statuses accountId requestApplicationId :=
    (List.perm_insertionSort Descending _).subset (List.mem_of_mem_filter listed)
  refine lt_of_le_of_ne ((List.pairwise_append.mp sorted).2.2 last shown row mem) fun eq => ?_
  have one := eq_of_rowid (held (List.mem_of_mem_drop mem)) (held (List.mem_of_mem_take shown)) eq
  exact List.disjoint_of_nodup_append nodup (one ▸ shown) mem

/-- Page ends tell rows apart exactly if the row ids after the first page are below the
largest number that is bound. -/
theorem endsApart_iff_fits {limit : Nat} (pos : 0 < limit) (start : Option Int) :
    EndsApart belowId (fun row => some (row.rowid : Int)) limit
        (admittedBefore statuses accountId requestApplicationId start)
      ↔ ∀ row ∈ (admittedBefore statuses accountId requestApplicationId start).drop limit,
          (row.rowid : Int) < 2147483647 := by
  constructor
  · intro apart row mem
    have shown : (admittedBefore statuses accountId requestApplicationId start).take limit ≠ [] := by
      rw [ne_eq, List.take_eq_nil_iff, not_or]
      refine ⟨Nat.pos_iff_ne_zero.mp pos, fun none => ?_⟩
      rw [none, List.drop_nil] at mem
      cases mem
    have atEnd := List.getLast?_eq_getLast_of_ne_nil shown
    have admitted := (apart 0 _ (by rw [Nat.zero_add, Nat.one_mul]; exact atEnd)).2 row
      (by rw [Nat.zero_add, Nat.one_mul]; exact mem)
    rw [belowId_some, bindInteger_rowid] at admitted
    exact lt_of_lt_of_le admitted (min_le_right _ _)
  · intro fit pages last atEnd
    constructor
    · intro row mem
      refine Bool.eq_false_iff.mpr fun below => ?_
      rw [belowId_some, bindInteger_rowid] at below
      have oldest := le_of_take ((admittedBefore_sorted _ _ _ _).take) atEnd mem
      have younger := lt_of_lt_of_le below (min_le_left _ _)
      omega
    · intro row mem
      have older := older_of_drop atEnd mem
      have far : limit ≤ (pages + 1) * limit := Nat.le_mul_of_pos_left _ (Nat.succ_pos _)
      have fits := fit row (List.drop_subset_drop_left _ far mem)
      rw [belowId_some, bindInteger_rowid, lt_min_iff]
      exact ⟨by exact_mod_cast older, fits⟩

theorem startBindsBefore_of_visited {limit : Nat} {start : Option Int} (pos : 0 < limit)
    (shows : (admittedBefore statuses accountId requestApplicationId start).take limit ⊆ visited)
    (within : visited ⊆ admittedBefore statuses accountId requestApplicationId start)
    (every : visited.Perm (statusesBefore statuses accountId requestApplicationId start)) :
    StartBindsBefore statuses accountId requestApplicationId start := by
  intro row mem
  cases start with
  | none => rfl
  | some id =>
    by_cases low : id < -2147483648
    · -- nothing is before such an id, so nothing is shown
      have pre : statusesBefore statuses accountId requestApplicationId (some id) = [] := by
        refine List.filter_eq_nil_iff.mpr fun other _ => ?_
        rw [Option.all_some, decide_eq_true_eq]
        omega
      rw [pre, List.perm_nil] at every
      have none : admittedBefore statuses accountId requestApplicationId (some id) = [] := by
        rw [every] at shows
        have cut := List.subset_nil.mp shows
        exact (List.take_eq_nil_iff.mp cut).resolve_left (Nat.pos_iff_ne_zero.mp pos)
      have spared := List.filter_eq_nil_iff.mp none row
        ((List.perm_insertionSort Descending _).symm.subset mem)
      rw [Bool.not_eq_true] at spared
      rw [spared, Option.all_some, eq_comm, decide_eq_false_iff_not]
      omega
    · -- the rows before the id are shown, so they are before its binding too
      rw [Bool.eq_iff_iff, belowId_some, Option.all_some, decide_eq_true_eq]
      have bound : bindInteger id ≤ id := by
        rw [bindInteger]
        split_ifs with fits
        · exact le_refl _
        · omega
      refine ⟨fun below => below.trans_le bound, fun pre => ?_⟩
      have shown : row ∈ statusesBefore statuses accountId requestApplicationId (some id) := by
        refine List.mem_filter.mpr ⟨mem, ?_⟩
        rw [Option.all_some, decide_eq_true_eq]
        exact pre
      exact belowId_some.mp (List.mem_filter.mp (within (every.symm.subset shown))).2

/-- **A walk with `max_id` visits every status before its start once exactly if the start
is bound as itself, and the row ids after the first page are below the largest number that
is bound.** -/
theorem backward_complete_iff (statuses : NumberedStatuses) (accountId : String)
    (requestApplicationId : Option Int) (limit : Option Nat) (start : Option Int) :
    BackwardComplete statuses accountId requestApplicationId limit start
      ↔ StartBindsBefore statuses accountId requestApplicationId start
        ∧ ∀ row ∈ (admittedBefore statuses accountId requestApplicationId start).drop
            (scheduledLimit limit), (row.rowid : Int) < 2147483647 := by
  have pos := scheduledLimit_pos limit
  obtain ⟨visited, walk, within, full⟩ := @walk_of_admitted _ _
    (newestFirst statuses accountId requestApplicationId) belowId
    (fun row => some (row.rowid : Int)) _ pos
    ((List.perm_insertionSort Descending _).nodup_iff.mpr nodup_ofRequest)
    (fun row _ => not_belowId_self row)
    (fun _ _ _ _ admitted later => belowId_of_belowId admitted later) start
  have shows : (admittedBefore statuses accountId requestApplicationId start).take
      (scheduledLimit limit) ⊆ visited := walk.page_prefix.subset
  rw [← admittedBefore, endsApart_iff_fits pos start] at full
  rw [BackwardComplete, CursorWalkVisits, backwardPage_eq]
  constructor
  · rintro ⟨visited', walk', every⟩
    rw [walk'.unique walk] at every
    have binds := startBindsBefore_of_visited pos shows within every
    exact ⟨binds, full.mp (every.trans (admittedBefore_perm binds).symm)⟩
  · rintro ⟨binds, fit⟩
    exact ⟨visited, walk, (full.mpr fit).trans (admittedBefore_perm binds)⟩

/-! ## Forward -/

/-- The statuses that the bound cursor of a request forward admits, the oldest first. -/
def admittedAfter (statuses : NumberedStatuses) (accountId : String)
    (requestApplicationId : Option Int) (start : Int) : List NumberedStatus :=
  ((ofRequest statuses accountId requestApplicationId).filter (aboveId (some start))).insertionSort
    Ascending

theorem mem_admittedAfter :
    row ∈ admittedAfter statuses accountId requestApplicationId start
      ↔ row ∈ ofRequest statuses accountId requestApplicationId
        ∧ bindInteger start < row.rowid := by
  rw [admittedAfter, List.mem_insertionSort, List.mem_filter, aboveId, Option.all_some,
    decide_eq_true_eq]

theorem admittedAfter_sorted (statuses : NumberedStatuses) (accountId : String)
    (requestApplicationId : Option Int) (start : Int) :
    (admittedAfter statuses accountId requestApplicationId start).Pairwise Ascending :=
  List.pairwise_insertionSort Ascending _

theorem admittedAfter_nodup (statuses : NumberedStatuses) (accountId : String)
    (requestApplicationId : Option Int) (start : Int) :
    (admittedAfter statuses accountId requestApplicationId start).Nodup :=
  (List.perm_insertionSort Ascending _).nodup_iff.mpr (nodup_ofRequest.filter _)

/-- A page with `min_id` holds the last of the rows that are fetched. -/
theorem forwardPage_eq (limit : Option Nat) (minId : Int) :
    forwardPage statuses accountId requestApplicationId limit minId
      = (((admittedAfter statuses accountId requestApplicationId minId).take
          (scheduledLimit limit + 1)).drop
        (((admittedAfter statuses accountId requestApplicationId minId).take
          (scheduledLimit limit + 1)).length - scheduledLimit limit)).reverse := by
  have bounds : (fun row => belowId none row && aboveId (some minId) row)
      = aboveId (some minId) := by
    funext row
    rw [belowId, Option.all_none, Bool.true_and]
  rw [forwardPage, scheduledPage, listScheduledStatusesForAccount, Option.isSome_some,
    if_pos rfl, bounds, ← admittedAfter, List.take_reverse]

theorem forwardPage_of_le
    (few : (admittedAfter statuses accountId requestApplicationId minId).length
      ≤ scheduledLimit limit) :
    forwardPage statuses accountId requestApplicationId limit minId
      = (admittedAfter statuses accountId requestApplicationId minId).reverse := by
  rw [forwardPage_eq, List.take_of_length_le (le_trans few (Nat.le_succ _)),
    Nat.sub_eq_zero_of_le few, List.drop_zero]

theorem mem_of_mem_forwardPage
    (mem : row ∈ forwardPage statuses accountId requestApplicationId limit minId) :
    row ∈ admittedAfter statuses accountId requestApplicationId minId := by
  rw [forwardPage_eq, List.mem_reverse] at mem
  exact List.mem_of_mem_take (List.mem_of_mem_drop mem)

theorem admittedAfter_eq_nil
    (empty : forwardPage statuses accountId requestApplicationId limit minId = []) :
    admittedAfter statuses accountId requestApplicationId minId = [] := by
  have pos := scheduledLimit_pos limit
  have sizes := congrArg List.length empty
  rw [forwardPage_eq, List.length_reverse, List.length_drop, List.length_take,
    List.length_nil] at sizes
  rw [← List.length_eq_zero_iff]
  omega

/-- If there are more rows than a page holds, the oldest one is not shown. -/
theorem oldest_not_mem_forwardPage
    (rows : admittedAfter statuses accountId requestApplicationId minId = oldest :: younger)
    (many : scheduledLimit limit ≤ younger.length) :
    oldest ∉ forwardPage statuses accountId requestApplicationId limit minId := by
  have nodup := admittedAfter_nodup statuses accountId requestApplicationId minId
  rw [rows] at nodup
  have cut : (oldest :: younger).take (scheduledLimit limit + 1)
      = oldest :: younger.take (scheduledLimit limit) := rfl
  have size : (oldest :: younger.take (scheduledLimit limit)).length - scheduledLimit limit = 1 := by
    rw [List.length_cons, List.length_take, min_eq_left many]
    omega
  rw [forwardPage_eq, rows, cut, size, List.mem_reverse]
  exact fun mem => (List.nodup_cons.mp nodup).1 (List.mem_of_mem_take mem)

theorem nextMinId_eq_some {minId minId' : Int}
    (offered : nextMinId (forwardPage statuses accountId requestApplicationId limit minId)
      = some minId') :
    ∃ newest ∈ admittedAfter statuses accountId requestApplicationId minId,
      minId' = newest.rowid := by
  rw [nextMinId, Option.map_eq_some_iff] at offered
  obtain ⟨newest, first, rfl⟩ := offered
  exact ⟨newest, mem_of_mem_forwardPage (List.mem_of_head? first), rfl⟩

/-- A walk never ends before a row whose id does not fit. -/
theorem rowid_le_of_walk
    (walk : CursorWalk (forwardPage statuses accountId requestApplicationId limit) nextMinId
      start visited) (mem : row ∈ admittedAfter statuses accountId requestApplicationId start) :
    (row.rowid : Int) ≤ 2147483647 := by
  induction walk with
  | @ended cursor none =>
    have empty : forwardPage statuses accountId requestApplicationId limit cursor = [] := by
      rw [nextMinId, Option.map_eq_none_iff] at none
      exact List.head?_eq_none_iff.mp none
    rw [admittedAfter_eq_nil empty] at mem
    cases mem
  | onward offered _ ih =>
    obtain ⟨newest, -, rfl⟩ := nextMinId_eq_some offered
    by_contra beyond
    refine beyond (ih (mem_admittedAfter.mpr ⟨(mem_admittedAfter.mp mem).1, ?_⟩))
    exact lt_of_le_of_lt (bindInteger_le _) (not_le.mp beyond)

theorem mem_of_walk
    (walk : CursorWalk (forwardPage statuses accountId requestApplicationId limit) nextMinId
      start visited) (mem : row ∈ visited) :
    row ∈ admittedAfter statuses accountId requestApplicationId start := by
  induction walk with
  | ended _ => exact mem_of_mem_forwardPage mem
  | @onward cursor _ _ offered _ ih =>
    rcases List.mem_append.mp mem with first | later
    · exact mem_of_mem_forwardPage first
    · obtain ⟨newest, newestMember, rfl⟩ := nextMinId_eq_some offered
      obtain ⟨held, post⟩ := mem_admittedAfter.mp (ih later)
      refine mem_admittedAfter.mpr ⟨held, lt_of_le_of_lt ?_ post⟩
      rw [bindInteger_rowid, le_min_iff]
      exact ⟨(mem_admittedAfter.mp newestMember).2.le, bindInteger_le _⟩

/-- The client sees every status after the start once. -/
def ForwardComplete (statuses : NumberedStatuses) (accountId : String)
    (requestApplicationId : Option Int) (limit : Option Nat) (start : Int) : Prop :=
  CursorWalkVisits (forwardPage statuses accountId requestApplicationId limit) nextMinId start
    (statusesAfter statuses accountId requestApplicationId start)

/-- The start of a walk is bound as itself, as far as its statuses can tell. -/
def StartBindsAfter (statuses : NumberedStatuses) (accountId : String)
    (requestApplicationId : Option Int) (start : Int) : Prop :=
  ∀ row ∈ ofRequest statuses accountId requestApplicationId,
    bindInteger start < row.rowid ↔ start < row.rowid

theorem mem_statusesAfter :
    row ∈ statusesAfter statuses accountId requestApplicationId start
      ↔ row ∈ ofRequest statuses accountId requestApplicationId ∧ start < row.rowid := by
  rw [statusesAfter, List.mem_filter, decide_eq_true_eq]

theorem admittedAfter_perm
    (binds : StartBindsAfter statuses accountId requestApplicationId start) :
    (admittedAfter statuses accountId requestApplicationId start).Perm
      (statusesAfter statuses accountId requestApplicationId start) := by
  refine (List.perm_ext_iff_of_nodup (admittedAfter_nodup _ _ _ _)
    (nodup_ofRequest.filter _)).mpr fun row => ?_
  rw [← statusesAfter, mem_admittedAfter, mem_statusesAfter]
  exact and_congr_right fun held => binds row held

theorem startBindsAfter_of_visited
    (walk : CursorWalk (forwardPage statuses accountId requestApplicationId limit) nextMinId
      start visited)
    (every : visited.Perm (statusesAfter statuses accountId requestApplicationId start)) :
    StartBindsAfter statuses accountId requestApplicationId start := by
  intro row held
  by_cases fits : -2147483648 ≤ start ∧ start ≤ 2147483647
  · rw [bindInteger, if_pos fits]
  · have bound : bindInteger start = 2147483647 := by rw [bindInteger, if_neg fits]
    constructor
    · intro post
      have small := rowid_le_of_walk walk (mem_admittedAfter.mpr ⟨held, post⟩)
      omega
    · intro post
      have shown := every.symm.subset (mem_statusesAfter.mpr ⟨held, post⟩)
      exact (mem_admittedAfter.mp (mem_of_walk walk shown)).2

/-- A walk over more rows than a page holds never shows the oldest one. -/
theorem oldest_not_visited
    (walk : CursorWalk (forwardPage statuses accountId requestApplicationId limit) nextMinId
      start visited)
    (rows : admittedAfter statuses accountId requestApplicationId start = oldest :: younger)
    (many : scheduledLimit limit ≤ younger.length) : oldest ∉ visited := by
  have hidden := oldest_not_mem_forwardPage rows many
  cases walk with
  | ended _ => exact hidden
  | onward offered walk =>
    obtain ⟨newest, mem, rfl⟩ := nextMinId_eq_some offered
    rintro shown
    have later := mem_of_walk walk ((List.mem_append.mp shown).resolve_left hidden)
    have post := (mem_admittedAfter.mp later).2
    have fits := rowid_le_of_walk walk later
    have sorted := admittedAfter_sorted statuses accountId requestApplicationId start
    rw [rows] at sorted mem
    have least : oldest.rowid ≤ newest.rowid := by
      rcases List.mem_cons.mp mem with eq | young
      · rw [eq]
      · exact (List.pairwise_cons.mp sorted).1 newest young
    rw [bindInteger_rowid] at post
    omega

theorem le_of_newest {listed older : List NumberedStatus} {first : NumberedStatus}
    (sorted : listed.Pairwise Ascending) (newest : listed.reverse = first :: older)
    (mem : row ∈ listed) : row.rowid ≤ first.rowid := by
  rw [← List.mem_reverse, newest] at mem
  have descending := List.pairwise_reverse.mpr sorted
  rw [newest] at descending
  rcases List.mem_cons.mp mem with eq | old
  · rw [eq]
  · exact (List.pairwise_cons.mp descending).1 row old

/-- **A walk with `min_id` visits every status after its start once exactly if the start is
bound as itself, no row id after it exceeds the largest number that is bound, and they
all fit one page.** -/
theorem forward_complete_iff (statuses : NumberedStatuses) (accountId : String)
    (requestApplicationId : Option Int) (limit : Option Nat) (start : Int) :
    ForwardComplete statuses accountId requestApplicationId limit start
      ↔ StartBindsAfter statuses accountId requestApplicationId start
        ∧ (∀ row ∈ statusesAfter statuses accountId requestApplicationId start,
          (row.rowid : Int) ≤ 2147483647)
        ∧ (statusesAfter statuses accountId requestApplicationId start).length
          ≤ scheduledLimit limit := by
  constructor
  · rintro ⟨visited, walk, every⟩
    have binds := startBindsAfter_of_visited walk every
    have eq := admittedAfter_perm binds
    refine ⟨binds, fun row mem => rowid_le_of_walk walk (eq.symm.subset mem), ?_⟩
    by_contra many
    rw [← eq.length_eq] at many
    cases rows : admittedAfter statuses accountId requestApplicationId start with
    | nil =>
      rw [rows, List.length_nil] at many
      exact many (Nat.zero_le _)
    | cons oldest younger =>
      rw [rows, List.length_cons] at many
      refine oldest_not_visited walk rows (by omega) (every.symm.subset (eq.subset ?_))
      rw [rows]
      exact List.mem_cons_self
  · rintro ⟨binds, fit, few⟩
    have eq := admittedAfter_perm binds
    rw [← eq.length_eq] at few
    have page := forwardPage_of_le few
    refine ⟨_, ?_, (List.reverse_perm _).trans eq⟩
    cases newest : (admittedAfter statuses accountId requestApplicationId start).reverse with
    | nil =>
      rw [← newest, ← page]
      refine CursorWalk.ended ?_
      rw [page, newest]
      rfl
    | cons first older =>
      have firstAfter : first ∈ admittedAfter statuses accountId requestApplicationId start := by
        rw [← List.mem_reverse, newest]
        exact List.mem_cons_self
      have firstFits := fit first (eq.subset firstAfter)
      have bound : bindInteger first.rowid = first.rowid := by
        rw [bindInteger_rowid, min_eq_left firstFits]
      have nothing : forwardPage statuses accountId requestApplicationId limit first.rowid
          = [] := by
        refine List.eq_nil_iff_forall_not_mem.mpr fun row mem => ?_
        obtain ⟨held, post⟩ := mem_admittedAfter.mp (mem_of_mem_forwardPage mem)
        rw [bound] at post
        have listed : row ∈ admittedAfter statuses accountId requestApplicationId start :=
          mem_admittedAfter.mpr ⟨held, (mem_admittedAfter.mp firstAfter).2.trans post⟩
        have least := le_of_newest (admittedAfter_sorted _ _ _ _) newest listed
        omega
      have offered : nextMinId (forwardPage statuses accountId requestApplicationId limit start)
          = some (first.rowid : Int) := by
        rw [page, newest]
        rfl
      have walk := CursorWalk.onward offered (CursorWalk.ended (by rw [nothing]; rfl))
      rw [nothing, List.append_nil, page, newest] at walk
      exact walk

/-- **The walks through the scheduled statuses of a request.**  Forward, every status after
the start is visited once exactly if one page holds them all; backward, every status before
the start is visited once, where row ids fit the numbers that they are bound as. -/
theorem scheduled_walks_iff (statuses : NumberedStatuses) (accountId : String)
    (requestApplicationId : Option Int) (limit : Option Nat) (after : Int)
    (before : Option Int) :
    (ForwardComplete statuses accountId requestApplicationId limit after
      ↔ StartBindsAfter statuses accountId requestApplicationId after
        ∧ (∀ row ∈ statusesAfter statuses accountId requestApplicationId after,
          (row.rowid : Int) ≤ 2147483647)
        ∧ (statusesAfter statuses accountId requestApplicationId after).length
          ≤ scheduledLimit limit)
    ∧ (BackwardComplete statuses accountId requestApplicationId limit before
      ↔ StartBindsBefore statuses accountId requestApplicationId before
        ∧ ∀ row ∈ (admittedBefore statuses accountId requestApplicationId before).drop
            (scheduledLimit limit), (row.rowid : Int) < 2147483647) :=
  ⟨forward_complete_iff statuses accountId requestApplicationId limit after,
    backward_complete_iff statuses accountId requestApplicationId limit before⟩

/-! ## Two statuses on two pages -/

def scheduledOf (accountId id : String) (rowid : Nat) : NumberedStatus where
  id := id
  accountId := accountId
  textContent := ""
  visibility := .publicPost
  mediaIds := []
  applicationId := none
  scheduledAt := ⟨0, 0⟩
  claimedAt := none
  rowid := rowid

def twoScheduled : NumberedStatuses where
  rows := [scheduledOf "account-a" "status-a" 1, scheduledOf "account-a" "status-b" 2]
  keysDistinct := by decide

/-- With one status a page, the walk forward shows the newer one, goes on after it, and
never shows the older one. -/
theorem older_scheduled_is_not_visited :
    CursorWalk (forwardPage twoScheduled "account-a" none (some 1)) nextMinId 0
        [scheduledOf "account-a" "status-b" 2]
      ∧ ¬ ForwardComplete twoScheduled "account-a" none (some 1) 0 := by
  have first : forwardPage twoScheduled "account-a" none (some 1) 0
      = [scheduledOf "account-a" "status-b" 2] := by
    decide +kernel
  have second : forwardPage twoScheduled "account-a" none (some 1) 2 = [] := by
    decide +kernel
  have walk : CursorWalk (forwardPage twoScheduled "account-a" none (some 1)) nextMinId 0
      (forwardPage twoScheduled "account-a" none (some 1) 0
        ++ forwardPage twoScheduled "account-a" none (some 1) 2) :=
    CursorWalk.onward (by rw [first]; rfl) (CursorWalk.ended (by rw [second]; rfl))
  rw [first, second, List.append_nil] at walk
  refine ⟨walk, ?_⟩
  rintro ⟨visited, walk', every⟩
  rw [walk'.unique walk] at every
  have two : [scheduledOf "account-a" "status-b" 2].length
      = (statusesAfter twoScheduled "account-a" none 0).length := every.length_eq
  exact absurd two (by decide +kernel)

end Cfwdon.ScheduledStatuses
