import Mathlib.Data.List.Nodup
import Mathlib.Data.List.Perm.Basic
import Mathlib.Data.List.Sort
import Mathlib.Data.Nat.Basic
import Mathlib.Tactic.NthRewrite
import Mathlib.Tactic.Set

/-!
# Walks by a cursor

A client reads a page at a cursor, derives the next cursor from the page, and goes on
until a page offers none.  Where the pages are the first rows of one list that a cursor
admits, and the next cursor is that of the last row, a walk always ends, and it visits
every row once exactly if each page end tells the rows before it from those after it.

* `CursorWalk.unique` -- there is one walk;
* `filter_insertionSort` -- the rows that a cursor admits are in the order of all rows.
-/

namespace Cfwdon.Library

variable {Item Cursor : Type*}

/-- The rows that are visited from a cursor on. -/
inductive CursorWalk (page : Cursor → List Item) (next : List Item → Option Cursor) :
    Cursor → List Item → Prop where
  | ended {cursor : Cursor} (none : next (page cursor) = none) :
      CursorWalk page next cursor (page cursor)
  | onward {cursor cursor' : Cursor} {later : List Item}
      (offered : next (page cursor) = some cursor') (walk : CursorWalk page next cursor' later) :
      CursorWalk page next cursor (page cursor ++ later)

def CursorWalkVisits (page : Cursor → List Item) (next : List Item → Option Cursor)
    (start : Cursor) (rows : List Item) : Prop :=
  ∃ visited, CursorWalk page next start visited ∧ visited.Perm rows

variable {next : List Item → Option Cursor} {page : Cursor → List Item} {cursor : Cursor}

theorem CursorWalk.unique
    {visited visited' : List Item} (walk : CursorWalk page next cursor visited)
    (walk' : CursorWalk page next cursor visited') : visited = visited' := by
  induction walk generalizing visited' with
  | ended none =>
    cases walk' with
    | ended _ => rfl
    | onward offered _ =>
      rw [none] at offered
      cases offered
  | onward offered _ ih =>
    cases walk' with
    | ended none =>
      rw [none] at offered
      cases offered
    | onward offered' walk' =>
      rw [offered] at offered'
      cases offered'
      rw [ih walk']

theorem CursorWalk.page_prefix
    {visited : List Item} (walk : CursorWalk page next cursor visited) :
    page cursor <+: visited := by
  cases walk with
  | ended _ => exact List.prefix_rfl
  | onward _ _ => exact List.prefix_append _ _

theorem filter_insertionSort {order : Item → Item → Prop} [DecidableRel order]
    [Std.Total order] [IsTrans Item order] {rows : List Item}
    (one : ∀ row ∈ rows, ∀ row' ∈ rows, order row row' → order row' row → row = row')
    (holds : Item → Bool) :
    (rows.filter holds).insertionSort order = (rows.insertionSort order).filter holds := by
  have sorted := List.perm_insertionSort order (rows.filter holds)
  refine List.Perm.eq_of_pairwise ?_ (List.pairwise_insertionSort order _)
    ((List.pairwise_insertionSort order rows).filter _)
    (sorted.trans ((List.perm_insertionSort order rows).filter holds).symm)
  intro row row' mem mem' first second
  exact one row (List.mem_of_mem_filter (sorted.subset mem)) row'
    ((List.perm_insertionSort order rows).subset (List.mem_of_mem_filter mem')) first second

/-! ## Pages of one list -/

section

variable (rows : List Item) (admits : Cursor → Item → Bool) (cursorOf : Item → Cursor)
  (limit : Nat)

def admittedPage (cursor : Cursor) : List Item :=
  (rows.filter (admits cursor)).take limit

def lastCursor (page : List Item) : Option Cursor :=
  page.getLast?.map cursorOf

/-- A page end tells the rows up to it from those after it. -/
def EndsApart (listed : List Item) : Prop :=
  ∀ pages, ∀ last ∈ (listed.take ((pages + 1) * limit)).getLast?,
    (∀ row ∈ listed.take ((pages + 1) * limit), admits (cursorOf last) row = false)
      ∧ ∀ row ∈ listed.drop ((pages + 1) * limit), admits (cursorOf last) row = true

variable {rows} {admits} {cursorOf} {limit}

variable {listed : List Item}

theorem getLast?_take_succ {pages : Nat} (more : listed.drop limit ≠ []) (pos : 0 < limit) :
    (listed.take ((pages + 1 + 1) * limit)).getLast?
      = ((listed.drop limit).take ((pages + 1) * limit)).getLast? := by
  have split : listed.take ((pages + 1 + 1) * limit)
      = listed.take limit ++ (listed.drop limit).take ((pages + 1) * limit) := by
    rw [Nat.succ_mul (pages + 1), Nat.add_comm, List.take_add]
  rw [split, List.getLast?_append]
  have some : ((listed.drop limit).take ((pages + 1) * limit)) ≠ [] := by
    rw [ne_eq, List.take_eq_nil_iff, not_or]
    exact ⟨Nat.pos_iff_ne_zero.mp (Nat.mul_pos (Nat.succ_pos _) pos), more⟩
  rw [List.getLast?_eq_getLast_of_ne_nil some, Option.some_or]

/-- Whether page ends tell rows apart is asked at the first page, and of the rows after
it. -/
theorem endsApart_iff {last : Item} (pos : 0 < limit)
    (ends : (listed.take limit).getLast? = some last)
    (inherits : ∀ later ∈ listed.drop limit, ∀ row,
      admits (cursorOf last) later = true → admits (cursorOf later) row = true →
        admits (cursorOf last) row = true) :
    EndsApart admits cursorOf limit listed
      ↔ (∀ row ∈ listed.take limit, admits (cursorOf last) row = false)
        ∧ (∀ row ∈ listed.drop limit, admits (cursorOf last) row = true)
        ∧ EndsApart admits cursorOf limit (listed.drop limit) := by
  constructor
  · intro apart
    obtain ⟨pre, post⟩ := apart 0 last (by rw [Nat.zero_add, Nat.one_mul]; exact ends)
    rw [Nat.zero_add, Nat.one_mul] at pre post
    refine ⟨pre, post, fun pages later atEnd => ?_⟩
    have more : listed.drop limit ≠ [] := by
      intro none
      rw [none, List.take_nil] at atEnd
      cases atEnd
    obtain ⟨prior, further⟩ := apart (pages + 1) later
      (by rw [getLast?_take_succ more pos]; exact atEnd)
    rw [Nat.succ_mul (pages + 1), Nat.add_comm] at prior further
    rw [← List.drop_drop] at further
    refine ⟨fun row mem => prior row ?_, further⟩
    rw [List.take_add]
    exact List.mem_append_right _ mem
  · rintro ⟨pre, post, apart⟩ pages later atEnd
    cases pages with
    | zero =>
      rw [Nat.zero_add, Nat.one_mul] at atEnd ⊢
      rw [ends] at atEnd
      cases atEnd
      exact ⟨pre, post⟩
    | succ pages =>
      by_cases more : listed.drop limit = []
      · -- the first page holds everything
        have short : listed.length ≤ limit := List.drop_eq_nil_iff.mp more
        have all : listed.take ((pages + 1 + 1) * limit) = listed.take limit := by
          have far : limit ≤ (pages + 1 + 1) * limit := Nat.le_mul_of_pos_left _ (Nat.succ_pos _)
          rw [List.take_of_length_le short, List.take_of_length_le (le_trans short far)]
        have none : listed.drop ((pages + 1 + 1) * limit) = [] :=
          List.drop_eq_nil_iff.mpr (le_trans short (Nat.le_mul_of_pos_left _ (Nat.succ_pos _)))
        rw [all, ends] at atEnd
        cases atEnd
        rw [all, none]
        exact ⟨pre, fun _ mem => absurd mem List.not_mem_nil⟩
      · rw [getLast?_take_succ more pos] at atEnd
        have laterListed : later ∈ listed.drop limit :=
          List.mem_of_mem_take (List.mem_of_getLast? atEnd)
        obtain ⟨prior, further⟩ := apart pages later atEnd
        rw [Nat.succ_mul (pages + 1), Nat.add_comm, List.take_add, ← List.drop_drop]
        refine ⟨fun row mem => ?_, further⟩
        rcases List.mem_append.mp mem with first | second
        · cases admitted : admits (cursorOf later) row with
          | false => rfl
          | true =>
            have again := inherits later laterListed row (post later laterListed) admitted
            rw [pre row first] at again
            cases again
        · exact prior row second

/-- A row of the first page that the cursor of another one admits comes again among the
first rows that it admits. -/
theorem mem_page_again {holds : Item → Bool} {last row : Item} (shown : last ∈ listed.take limit)
    (spared : holds last = false) (mem : row ∈ listed.take limit) (again : holds row = true) :
    row ∈ (listed.filter holds).take limit := by
  have fewer : ((listed.take limit).filter holds).length < limit := by
    have within := List.length_filter_le holds (listed.take limit)
    have size := List.length_take_le limit listed
    refine lt_of_lt_of_le (lt_of_le_of_ne within fun all => ?_) size
    have everyone := List.length_filter_eq_length_iff.mp all last shown
    rw [spared] at everyone
    cases everyone
  nth_rewrite 1 [← List.take_append_drop limit listed]
  rw [List.filter_append, List.take_append, List.take_of_length_le (le_of_lt fewer)]
  exact List.mem_append_left _ (List.mem_filter.mpr ⟨mem, again⟩)

/-- The rows that the cursor at the end of a page admits are those after the page, if it
tells them apart. -/
theorem filter_eq_drop {holds : Item → Bool} (pre : ∀ row ∈ listed.take limit, holds row = false)
    (post : ∀ row ∈ listed.drop limit, holds row = true) :
    listed.filter holds = listed.drop limit := by
  have none : (listed.take limit).filter holds = [] := by
    refine List.filter_eq_nil_iff.mpr fun row mem => ?_
    rw [pre row mem]
    exact Bool.false_ne_true
  nth_rewrite 1 [← List.take_append_drop limit listed]
  rw [List.filter_append, none, List.filter_eq_self.mpr post, List.nil_append]

/-- **The walk from a cursor** ends, visits only rows that the cursor admits, and visits
each of them once exactly if the page ends tell rows apart. -/
theorem walk_of_admitted (pos : 0 < limit) (nodup : rows.Nodup)
    (apart : ∀ row ∈ rows, admits (cursorOf row) row = false)
    (inherits : ∀ cursor, ∀ last ∈ rows, ∀ row,
      admits cursor last = true → admits (cursorOf last) row = true → admits cursor row = true)
    (start : Cursor) :
    ∃ visited, CursorWalk (admittedPage rows admits limit) (lastCursor cursorOf) start visited
      ∧ (∀ row ∈ visited, row ∈ rows.filter (admits start))
      ∧ (visited.Perm (rows.filter (admits start))
        ↔ EndsApart admits cursorOf limit (rows.filter (admits start))) := by
  induction length : (rows.filter (admits start)).length using Nat.strongRecOn
    generalizing start with
  | ind size ih =>
    set listed := rows.filter (admits start) with listed_def
    have listedDistinct : listed.Nodup := nodup.filter _
    cases ends : (listed.take limit).getLast? with
    | none =>
      -- nothing is admitted
      have empty : listed = [] := by
        have page := List.getLast?_eq_none_iff.mp ends
        exact (List.take_eq_nil_iff.mp page).resolve_left (Nat.pos_iff_ne_zero.mp pos)
      have page : admittedPage rows admits limit start = [] := by
        rw [admittedPage, ← listed_def, empty, List.take_nil]
      refine ⟨_, CursorWalk.ended (by rw [page]; rfl), by rw [page]; simp, ?_⟩
      rw [page, empty]
      exact ⟨fun _ _ _ mem => by simp at mem, fun _ => List.Perm.refl _⟩
    | some last =>
      have shown : last ∈ listed.take limit := List.mem_of_getLast? ends
      have lastListed : last ∈ listed := List.mem_of_mem_take shown
      obtain ⟨held, admitted⟩ := List.mem_filter.mp lastListed
      set rest := rows.filter (admits (cursorOf last)) with rest_def
      have restListed : rest = listed.filter (admits (cursorOf last)) := by
        rw [listed_def, List.filter_filter, rest_def]
        refine List.filter_congr fun row mem => ?_
        cases later : admits (cursorOf last) row with
        | false => rfl
        | true => rw [inherits start last held row admitted later]; rfl
      have shorter : rest.length < size := by
        rw [restListed, ← length]
        refine lt_of_le_of_ne (List.length_filter_le _ _) fun all => ?_
        have mem := List.length_filter_eq_length_iff.mp all last lastListed
        rw [apart last held] at mem
        cases mem
      obtain ⟨later, walk, within, full⟩ :=
        ih _ shorter (cursorOf last) rfl
      rw [← rest_def] at within full
      have page : admittedPage rows admits limit start = listed.take limit := rfl
      have next : lastCursor cursorOf (admittedPage rows admits limit start)
          = some (cursorOf last) := by
        rw [page, lastCursor, ends, Option.map_some]
      refine ⟨_, CursorWalk.onward next walk, ?_, ?_⟩
      · intro row mem
        rcases List.mem_append.mp mem with first | second
        · exact List.mem_of_mem_take first
        · have inRest := within row second
          rw [restListed] at inRest
          exact List.mem_of_mem_filter inRest
      · have cut : (admittedPage rows admits limit start ++ later).Perm listed
            ↔ later.Perm (listed.drop limit) := by
          rw [page]
          nth_rewrite 2 [← List.take_append_drop limit listed]
          exact List.perm_append_left_iff _
        have firstEnd := endsApart_iff pos ends fun other otherListed row =>
          inherits (cursorOf last) other
            (List.mem_of_mem_filter (List.mem_of_mem_drop otherListed)) row
        rw [cut, firstEnd]
        constructor
        · intro all
          have post : ∀ row ∈ listed.drop limit, admits (cursorOf last) row = true := by
            intro row mem
            exact (List.mem_filter.mp (within row (all.symm.subset mem))).2
          have pre : ∀ row ∈ listed.take limit, admits (cursorOf last) row = false := by
            intro row mem
            cases again : admits (cursorOf last) row with
            | false => rfl
            | true =>
              have visited := walk.page_prefix.subset (restListed ▸
                mem_page_again shown (apart last held) mem again)
              have split := List.take_append_drop limit listed ▸ listedDistinct
              exact absurd (all.subset visited) ((List.disjoint_of_nodup_append split) mem)
          have eq : rest = listed.drop limit :=
            restListed.trans (filter_eq_drop pre post)
          exact ⟨pre, post, by rw [← eq]; exact full.mp (eq ▸ all)⟩
        · rintro ⟨pre, post, further⟩
          have eq : rest = listed.drop limit :=
            restListed.trans (filter_eq_drop pre post)
          rw [← eq] at further ⊢
          exact full.mpr further

end

/-! ## Pages of what is left at a cursor -/

/-- The cursors that a walk asks for. -/
inductive CursorAsked (page : Cursor → List Item) (next : List Item → Option Cursor)
    (start : Cursor) : Cursor → Prop where
  | start : CursorAsked page next start start
  | onward {cursor cursor' : Cursor} (asked : CursorAsked page next start cursor)
      (offered : next (page cursor) = some cursor') : CursorAsked page next start cursor'

/-- **A walk visits what is left at its first cursor, in order**, where each page it asks for
is the beginning of what is left, and what is left at an item is what comes behind it. -/
theorem walk_of_left {page : Cursor → List Item} {cursorOf : Item → Cursor} {start cursor : Cursor}
    {left : Cursor → List Item} {limit : Nat} (pos : 0 < limit)
    (pages : ∀ cursor, CursorAsked page (lastCursor cursorOf) start cursor →
      page cursor = (left cursor).take limit)
    (behind : ∀ cursor front last more, left cursor = front ++ last :: more →
      left (cursorOf last) = more)
    (asked : CursorAsked page (lastCursor cursorOf) start cursor) :
    CursorWalk page (lastCursor cursorOf) cursor (left cursor) := by
  induction length : (left cursor).length using Nat.strongRecOn generalizing cursor with
  | ind size ih =>
    have shown := pages cursor asked
    cases ends : ((left cursor).take limit).getLast? with
    | none =>
      have empty := List.getLast?_eq_none_iff.mp ends
      have nothing := (List.take_eq_nil_iff.mp empty).resolve_left (Nat.pos_iff_ne_zero.mp pos)
      rw [empty] at shown
      rw [nothing, ← shown]
      exact .ended (by rw [shown]; rfl)
    | some last =>
      obtain ⟨front, isLast⟩ := List.getLast?_eq_some_iff.mp ends
      have parts : left cursor = front ++ last :: (left cursor).drop limit := by
        rw [List.append_cons, ← isLast, List.take_append_drop]
      have offered : lastCursor cursorOf (page cursor) = some (cursorOf last) := by
        rw [shown, lastCursor, ends, Option.map_some]
      have post := behind cursor front last _ parts
      have shorter : (left (cursorOf last)).length < size := by
        have sizes := congrArg List.length parts
        rw [List.length_append, List.length_cons] at sizes
        rw [post]
        omega
      have walk := CursorWalk.onward offered (ih _ shorter (asked.onward offered) rfl)
      rw [post, shown, List.take_append_drop] at walk
      exact walk

end Cfwdon.Library
