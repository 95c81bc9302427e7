import Cfwdon.Inbox.StatusTables
import Cfwdon.ScheduledStatuses.PageWalks

/-!
# Cursors of pages

Domain blocks, favourites, bookmarks and scheduled statuses are paged by the ids of their
rows.  A page links to the next one with the id of its last entry.  The id comes back as a
text, is read as an `i64`, and is bound to the statement as an `i32`: by a wrapping cast, or
as the largest one.
-/

namespace Cfwdon.Http

open Library Inbox ScheduledStatuses

/-- `value as i32`. -/
def asI32 (value : Int) : Int := Int.bmod value 4294967296

/-- A number is an `i32`. -/
def FitsI32 (value : Int) : Prop := -2147483648 ≤ value ∧ value ≤ 2147483647

theorem asI32_range (value : Int) : FitsI32 (asI32 value) := by
  rw [FitsI32, asI32, Int.bmod_def]
  split_ifs <;> omega

theorem asI32_eq_iff {value : Int} : asI32 value = value ↔ FitsI32 value := by
  constructor
  · intro eq
    exact eq ▸ asI32_range value
  · rintro ⟨low, high⟩
    rw [asI32, Int.bmod_def]
    split_ifs <;> omega

theorem bindInteger_eq_iff {value : Int} : bindInteger value = value ↔ FitsI32 value := by
  rw [bindInteger, FitsI32]
  split_ifs with fits
  · exact iff_of_true rfl fits
  · refine iff_of_false (fun eq => fits ?_) fits
    omega

/-! ## Requests -/

def isSign (c : Char) : Bool := c == '+' || c == '-'

/-- A blank is absent, and what is no number, or none of an `i64`, is nothing. -/
def castPaginationId (value : Option String) : Option (Option Int) :=
  match (value.map trim).filter (· ≠ "") with
  | none => some none
  | some value =>
    let signs := value.toList.takeWhile isSign
    let digits := (value.toList.dropWhile isSign).takeWhile Char.isDigit
    if 1 < signs.length then none
    else if digits = [] then none
    else (parseI64 (String.ofList (signs ++ digits))).map some

structure PageRequest where
  limit : Option Nat
  maxId : Option String
  sinceId : Option String
  minId : Option String

/-- `InternalPaginationIds::parse`. -/
def PageRequest.ids (request : PageRequest) : Option PaginationIds := do
  return ⟨← castPaginationId request.maxId, ← castPaginationId request.sinceId,
    ← castPaginationId request.minId⟩

/-- **An id is read from its text.** -/
theorem castPaginationId_toString {id : Nat} (fits : id ≤ 9223372036854775807) :
    castPaginationId (some (toString (id : Int))) = some (some (id : Int)) := by
  have text : (toString (id : Int)).toList = id.repr.toList := rfl
  have unsigned : ∀ c ∈ id.repr.toList, ¬ isSign c = true := by
    intro c mem sign
    have digit := isDigit_of_mem_repr mem
    rcases Bool.or_eq_true_iff.mp sign with plus | minus
    · rw [eq_of_beq plus] at digit
      cases digit
    · rw [eq_of_beq minus] at digit
      cases digit
  have ne : id.repr.toList ≠ [] := by
    rw [← text]
    exact fun empty => toString_ne_empty (id : Int) (String.toList_eq_nil_iff.mp empty)
  have noSigns : id.repr.toList.takeWhile isSign = [] := by
    rw [List.takeWhile_eq_nil_iff]
    exact fun long => unsigned _ (List.getElem_mem long)
  have rest : id.repr.toList.dropWhile isSign = id.repr.toList := by
    rw [List.dropWhile_eq_self_iff]
    exact fun long => unsigned _ (List.getElem_mem long)
  have digits : id.repr.toList.takeWhile Char.isDigit = id.repr.toList :=
    List.takeWhile_eq_self_iff.mpr fun c mem => isDigit_of_mem_repr mem
  have whole : String.ofList id.repr.toList = toString (id : Int) := by
    rw [← text, String.ofList_toList]
  have here : decide (toString (id : Int) ≠ "") = true :=
    decide_eq_true (toString_ne_empty (id : Int))
  rw [castPaginationId, Option.map_some, trim_toString, Option.filter_some, if_pos here]
  dsimp only
  rw [text, noSigns, rest, digits, List.nil_append, whole,
    parseI64_toString (Int.natCast_nonneg id) (by omega), if_neg (by simp), if_neg ne]
  rfl

/-! ## Pages -/

section Pages

variable {Row : Type} (id : Row → Int)

/-- `ORDER BY id DESC LIMIT ?`. -/
def newest (limit : Nat) (rows : List Row) : List Row :=
  (rows.insertionSort fun row row' => id row' ≤ id row).take limit

/-- `ORDER BY id ASC LIMIT ?`, and then reversed. -/
def oldest (limit : Nat) (rows : List Row) : List Row :=
  ((rows.insertionSort fun row row' => id row ≤ id row').take limit).reverse

/-- `?2 IS NULL OR id < ?2`. -/
def belowCursor (maxId : Option Int) (row : Row) : Bool :=
  maxId.all fun cursor => decide (id row < asI32 cursor)

/-- `?3 IS NULL OR id > ?3`. -/
def aboveCursor (minId : Option Int) (row : Row) : Bool :=
  minId.all fun cursor => decide (asI32 cursor < id row)

end Pages

structure DomainBlockEntryRow where
  id : Int
  accountId : String
  domain : String

def listAccountDomainBlocks (rows : List DomainBlockEntryRow) (accountId : String)
    (limit : Nat) (maxId sinceId : Option Int) : List DomainBlockEntryRow :=
  newest DomainBlockEntryRow.id limit (rows.filter fun row =>
    row.accountId == accountId && belowCursor DomainBlockEntryRow.id maxId row
      && aboveCursor DomainBlockEntryRow.id sinceId row)

def domainBlocksLimit (limit : Option Nat) : Nat := min (max (limit.getD 100) 1) 200

/-- The rows that `domain_blocks_response` shows. -/
def domainBlocksPage (rows : List DomainBlockEntryRow) (accountId : String)
    (request : PageRequest) : List DomainBlockEntryRow :=
  request.ids.elim [] fun ids =>
    listAccountDomainBlocks rows accountId (domainBlocksLimit request.limit) ids.maxId
      (ids.sinceId.or ids.minId)

/-- A row of `favourites` or `bookmarks`, with its row id. -/
structure SavedStatusRow where
  cursorId : Int
  accountId : String
  statusId : Option String
  remoteStatusId : Option String

/-- `list_saved_status_rows`, three times the limit. -/
def listSavedStatusRows (rows : List SavedStatusRow) (accountId : String) (limit : Nat)
    (ids : PaginationIds) : List SavedStatusRow :=
  let admitted := rows.filter fun row =>
    row.accountId == accountId && belowCursor SavedStatusRow.cursorId ids.maxId row
      && aboveCursor SavedStatusRow.cursorId (ids.minId.or ids.sinceId) row
  if ids.minId.isSome then oldest SavedStatusRow.cursorId (limit * 3) admitted
  else newest SavedStatusRow.cursorId (limit * 3) admitted

/-- The limit of `SavedStatusesPage::from_request`. -/
def savedStatusesLimit (limit : Option Nat) : Nat := min (max (limit.getD 20) 1) 40

/-- The rows that a page of favourites or bookmarks is made of. -/
def savedStatusesPage (rows : List SavedStatusRow) (accountId : String)
    (request : PageRequest) : List SavedStatusRow :=
  request.ids.elim [] fun ids =>
    listSavedStatusRows rows accountId (savedStatusesLimit request.limit) ids

/-- The rows that `scheduled_statuses_response` fetches. -/
def scheduledStatusesPage (statuses : NumberedStatuses) (accountId : String)
    (requestApplicationId : Option Int) (request : PageRequest) : List NumberedStatus :=
  request.ids.elim [] fun ids =>
    listScheduledStatusesForAccount statuses accountId requestApplicationId
      (scheduledLimit request.limit + 1) ids

/-! ## Links -/

/-- The id of an entry: SQLite counts rows from one, up to the largest `i64`. -/
structure RowId where
  value : Nat
  positive : 1 ≤ value
  fits : value ≤ 9223372036854775807

/-- The link behind an entry, in a query. -/
def RowId.next (entry : RowId) (limit : Option Nat) : PageRequest :=
  ⟨limit, some (toString (entry.value : Int)), none, none⟩

/-- The link before an entry, of the domain blocks. -/
def RowId.since (entry : RowId) (limit : Option Nat) : PageRequest :=
  ⟨limit, none, some (toString (entry.value : Int)), none⟩

/-- The link before an entry, of the others. -/
def RowId.prev (entry : RowId) (limit : Option Nat) : PageRequest :=
  ⟨limit, none, none, some (toString (entry.value : Int))⟩

/-- What is paged by row ids.  Favourites and bookmarks are listed alike. -/
inductive CursorEndpoint where
  | domainBlocks
  | favourites
  | bookmarks
  | scheduledStatuses

/-- **What a link is to lead to**: the first of the entries that are older than the one it
names, or newer. -/
def Continues (entry : RowId) : CursorEndpoint → Prop
  | .domainBlocks => ∀ rows accountId limit,
      domainBlocksPage rows accountId (entry.next limit)
          = newest DomainBlockEntryRow.id (domainBlocksLimit limit) (rows.filter fun row =>
            row.accountId == accountId && decide (row.id < entry.value))
        ∧ domainBlocksPage rows accountId (entry.since limit)
          = newest DomainBlockEntryRow.id (domainBlocksLimit limit) (rows.filter fun row =>
            row.accountId == accountId && decide ((entry.value : Int) < row.id))
  | .favourites | .bookmarks => ∀ rows accountId limit,
      savedStatusesPage rows accountId (entry.next limit)
          = newest SavedStatusRow.cursorId (savedStatusesLimit limit * 3) (rows.filter fun row =>
            row.accountId == accountId && decide (row.cursorId < entry.value))
        ∧ savedStatusesPage rows accountId (entry.prev limit)
          = oldest SavedStatusRow.cursorId (savedStatusesLimit limit * 3) (rows.filter fun row =>
            row.accountId == accountId && decide ((entry.value : Int) < row.cursorId))
  | .scheduledStatuses => ∀ statuses accountId requestApplicationId limit,
      scheduledStatusesPage statuses accountId requestApplicationId (entry.next limit)
          = ((statusesBefore statuses accountId requestApplicationId
              (some entry.value)).insertionSort Descending).take (scheduledLimit limit + 1)
        ∧ scheduledStatusesPage statuses accountId requestApplicationId (entry.prev limit)
          = (((statusesAfter statuses accountId requestApplicationId
              entry.value).insertionSort Ascending).take (scheduledLimit limit + 1)).reverse

variable {Row : Type}

section Continued

variable (entry : RowId) (limit : Option Nat)

theorem RowId.ids_next : (entry.next limit).ids = some ⟨some entry.value, none, none⟩ := by
  rw [PageRequest.ids, next, castPaginationId_toString entry.fits]
  rfl

theorem RowId.ids_since : (entry.since limit).ids = some ⟨none, some entry.value, none⟩ := by
  rw [PageRequest.ids, since, castPaginationId_toString entry.fits]
  rfl

theorem RowId.ids_prev : (entry.prev limit).ids = some ⟨none, none, some entry.value⟩ := by
  rw [PageRequest.ids, prev, castPaginationId_toString entry.fits]
  rfl

variable {entry}

/-- An `i32` is bound as itself. -/
theorem RowId.bound (small : entry.value ≤ 2147483647) :
    asI32 entry.value = entry.value ∧ bindInteger entry.value = entry.value := by
  have fits : FitsI32 entry.value := ⟨by omega, by exact_mod_cast small⟩
  exact ⟨asI32_eq_iff.mpr fits, bindInteger_eq_iff.mpr fits⟩

theorem belowCursor_of_small (small : entry.value ≤ 2147483647) (id : Row → Int)
    (row : Row) : belowCursor id (some entry.value) row = decide (id row < entry.value) := by
  rw [belowCursor, Option.all_some]
  exact decide_eq_decide.mpr (by rw [(RowId.bound small).1])

theorem aboveCursor_of_small (small : entry.value ≤ 2147483647) (id : Row → Int)
    (row : Row) :
    aboveCursor id (some entry.value) row = decide ((entry.value : Int) < id row) := by
  rw [aboveCursor, Option.all_some]
  exact decide_eq_decide.mpr (by rw [(RowId.bound small).1])

theorem belowCursor_none (id : Row → Int) (row : Row) :
    belowCursor id none row = true := rfl

theorem aboveCursor_none (id : Row → Int) (row : Row) :
    aboveCursor id none row = true := rfl

theorem domainBlocks_continue (small : entry.value ≤ 2147483647) :
    Continues entry .domainBlocks := by
  intro rows accountId limit
  rw [domainBlocksPage, domainBlocksPage, entry.ids_next, entry.ids_since]
  simp only [Option.elim_some, listAccountDomainBlocks, belowCursor_of_small small,
    aboveCursor_of_small small, belowCursor_none, aboveCursor_none, Bool.and_true,
    Option.or_none, RowId.next, RowId.since, and_self]

theorem savedStatuses_continue (small : entry.value ≤ 2147483647) :
    Continues entry .favourites := by
  intro rows accountId limit
  rw [savedStatusesPage, savedStatusesPage, entry.ids_next, entry.ids_prev]
  simp only [Option.elim_some, listSavedStatusRows, belowCursor_of_small small,
    aboveCursor_of_small small, belowCursor_none, aboveCursor_none, Bool.and_true,
    Option.or_none, Option.isSome_none, Option.isSome_some, if_true,
    Bool.false_eq_true, if_false, RowId.next, RowId.prev, and_self]

theorem scheduledStatuses_continue (small : entry.value ≤ 2147483647) :
    Continues entry .scheduledStatuses := by
  intro statuses accountId appId limit
  rw [scheduledStatusesPage, scheduledStatusesPage, entry.ids_next, entry.ids_prev]
  simp only [Option.elim_some, listScheduledStatusesForAccount, belowId, aboveId,
    (RowId.bound small).2, statusesBefore, statusesAfter, Option.all_some, Option.all_none,
    Bool.true_and, Bool.and_true, Option.isSome_none, Option.isSome_some, if_true,
    Bool.false_eq_true, if_false, RowId.next, RowId.prev, and_self]

theorem distinct_lastScheduled :
    ([scheduledOf "account-a" "status-a" 2147483647].map NumberedStatus.rowid).Nodup :=
  List.nodup_singleton _

/-- A scheduled status with the largest id that is an `i32`. -/
def lastScheduled : NumberedStatuses where
  rows := [scheduledOf "account-a" "status-a" 2147483647]
  keysDistinct := distinct_lastScheduled

theorem belowCursor_of_le {id : Row → Int} {row : Row}
    (reach : asI32 entry.value ≤ id row) : belowCursor id (some entry.value) row = false := by
  rw [belowCursor, Option.all_some]
  exact decide_eq_false (not_lt.mpr reach)

theorem RowId.exists_lost (large : 2147483647 < entry.value) :
    ∃ lost : Int, 1 ≤ lost ∧ asI32 entry.value ≤ lost ∧ lost < entry.value := by
  have high := (asI32_range entry.value).2
  refine ⟨max 1 (asI32 entry.value), le_max_left _ _, le_max_right _ _, ?_⟩
  omega

theorem not_continues (large : 2147483647 < entry.value) (endpoint : CursorEndpoint) :
    ¬ Continues entry endpoint := by
  obtain ⟨lost, -, reach, pre⟩ := RowId.exists_lost large
  have older : decide (lost < entry.value) = true := decide_eq_true pre
  have saved : ¬ Continues entry .favourites := by
    intro continues
    have page := (continues [⟨lost, "a", none, none⟩] "a" none).1
    rw [savedStatusesPage, entry.ids_next, Option.elim_some, listSavedStatusRows] at page
    dsimp only at page
    rw [List.filter_cons_of_neg, List.filter_cons_of_pos] at page
    · exact List.cons_ne_nil _ _ page.symm
    · rw [older, Bool.and_true]
      rfl
    · rw [belowCursor_of_le reach]
      simp
  cases endpoint with
  | domainBlocks =>
    intro continues
    have page := (continues [⟨lost, "a", "a.example"⟩] "a" none).1
    rw [domainBlocksPage, entry.ids_next, Option.elim_some, listAccountDomainBlocks,
      List.filter_cons_of_neg, List.filter_cons_of_pos] at page
    · exact List.cons_ne_nil _ _ page.symm
    · rw [older, Bool.and_true]
      rfl
    · rw [belowCursor_of_le reach]
      simp
  | favourites | bookmarks => exact saved
  | scheduledStatuses =>
    intro continues
    have unfit : bindInteger entry.value = 2147483647 := if_neg (by omega)
    have listed : ofRequest lastScheduled "account-a" none = lastScheduled.rows := rfl
    have page := (continues lastScheduled "account-a" none none).1
    rw [scheduledStatusesPage, entry.ids_next, Option.elim_some,
      listScheduledStatusesForAccount, Option.isSome_none, if_neg Bool.false_ne_true,
      statusesBefore, listed, lastScheduled, List.filter_cons_of_neg,
      List.filter_cons_of_pos] at page
    · exact List.cons_ne_nil _ _ page.symm
    · exact decide_eq_true (by exact_mod_cast large)
    · rw [belowId, Option.all_some, unfit, Bool.and_eq_true, decide_eq_true_eq]
      rintro ⟨less, -⟩
      exact absurd less (by decide)

/-- **A page continues behind the entry that its link names**, exactly if the id of the entry
is an `i32`. -/
theorem continues_iff (entry : RowId) (endpoint : CursorEndpoint) :
    Continues entry endpoint ↔ entry.value ≤ 2147483647 := by
  constructor
  · intro continues
    by_contra large
    exact not_continues (not_le.mp large) endpoint continues
  · intro small
    cases endpoint with
    | domainBlocks => exact domainBlocks_continue small
    | favourites | bookmarks => exact savedStatuses_continue small
    | scheduledStatuses => exact scheduledStatuses_continue small

end Continued

/-- **What is bound is the number that was meant**, exactly if it is an `i32`: for a cursor
that is cast or clamped, for the counts of a poll, and so for the pages behind every entry.
The limits of pages always are. -/
theorem cursors_are_bound_iff (cursor : Int) :
    ((asI32 cursor = cursor ↔ FitsI32 cursor) ∧ (bindInteger cursor = cursor ↔ FitsI32 cursor))
      ∧ (∀ limit : Option Nat, asI32 (domainBlocksLimit limit) = domainBlocksLimit limit
        ∧ asI32 (savedStatusesLimit limit * 3 : Nat) = (savedStatusesLimit limit * 3 : Nat)
        ∧ asI32 (scheduledLimit limit + 1 : Nat) = (scheduledLimit limit + 1 : Nat))
      ∧ (∀ (draft : RemotePollDraft) (statusId : String),
        ((draft.row statusId).votesCount = draft.votesCount ↔ FitsI32 draft.votesCount)
        ∧ ∀ voters, draft.votersCount = some voters →
          ((draft.row statusId).votersCount = some (voters : Int) ↔ FitsI32 voters))
      ∧ ∀ entry endpoint, Continues entry endpoint ↔ FitsI32 entry.value := by
  refine ⟨⟨asI32_eq_iff, bindInteger_eq_iff⟩, fun limit => ?_, fun draft statusId => ?_,
    fun entry endpoint => ?_⟩
  · simp only [asI32_eq_iff, FitsI32, domainBlocksLimit, savedStatusesLimit, scheduledLimit]
    omega
  · constructor
    · rw [RemotePollDraft.row, FitsI32, Inbox.i32Max]
      dsimp only
      omega
    · intro voters count
      have held : (draft.row statusId).votersCount = some (asI32 voters) := by
        rw [RemotePollDraft.row, count]
        rfl
      rw [held, Option.some.injEq]
      exact asI32_eq_iff
  · rw [continues_iff, FitsI32]
    omega

/-! ### A page behind a large id -/

theorem positive_largeId : 1 ≤ 4294967297 := by decide

theorem fits_largeId : 4294967297 ≤ 9223372036854775807 := by decide

/-- An entry with an id above those of an `i32`. -/
def largeId : RowId := ⟨4294967297, positive_largeId, fits_largeId⟩

/-- It is bound as 1, and the page behind it does not show the entry before it. -/
theorem page_behind_large_id :
    asI32 largeId.value = 1
      ∧ domainBlocksPage [⟨4294967297, "account-a", "b.example"⟩,
          ⟨4294967296, "account-a", "a.example"⟩] "account-a" (largeId.next none) = []
      ∧ ¬ Continues largeId .domainBlocks := by
  have bound : asI32 largeId.value = 1 := by decide
  refine ⟨bound, ?_, fun continues => ?_⟩
  · rw [domainBlocksPage, largeId.ids_next, Option.elim_some, listAccountDomainBlocks]
    dsimp only
    rw [List.filter_cons_of_neg, List.filter_cons_of_neg]
    · rfl
    · rw [belowCursor, Option.all_some, bound]
      decide
    · rw [belowCursor, Option.all_some, bound]
      decide
  · exact absurd ((continues_iff largeId .domainBlocks).mp continues) (by decide)

end Cfwdon.Http
