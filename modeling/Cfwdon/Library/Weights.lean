import Cfwdon.Library.Lists
import Cfwdon.Library.Table

/-!
# Weights of tables, and events that stop

The weight of a table adds up a number for each of its rows.  A statement that raises
the weight of no row does not raise the weight of the table, and lowers it if it lowers
the weight of one row.
-/

namespace Cfwdon.Library

section Totals

variable {α : Type*} {measure : α → Nat} {change : α → α} {xs : List α}

theorem total_map_le (lower : ∀ x ∈ xs, measure (change x) ≤ measure x) :
    total measure (xs.map change) ≤ total measure xs := by
  induction xs with
  | nil => exact Nat.le_refl _
  | cons x rest ih =>
    have here := lower x (List.mem_cons_self ..)
    have there := ih fun y mem => lower y (List.mem_cons_of_mem _ mem)
    rw [List.map_cons, total_cons, total_cons]
    omega

theorem total_map_lt (lower : ∀ x ∈ xs, measure (change x) ≤ measure x) {x : α}
    (mem : x ∈ xs) (strictly : measure (change x) < measure x) :
    total measure (xs.map change) < total measure xs := by
  induction xs with
  | nil => cases mem
  | cons y rest ih =>
    have here := lower y (List.mem_cons_self ..)
    have later : ∀ z ∈ rest, measure (change z) ≤ measure z :=
      fun z inRest => lower z (List.mem_cons_of_mem _ inRest)
    rw [List.map_cons, total_cons, total_cons]
    rcases List.mem_cons.mp mem with rfl | inRest
    · have there := total_map_le later
      omega
    · have there := ih later inRest
      omega

end Totals

namespace Table

variable {Row Key : Type*} {key : Row → Key} {measure : Row → Nat} {table : Table Row key}

/-- The sum of a number for each row. -/
def weight (measure : Row → Nat) (table : Table Row key) : Nat :=
  total measure table.rows

variable {update : Update Row key} {row : Row} {conflicts : Row → Row → Bool}

theorem onRow_le
    (lower : update.guard row = true → measure (update.set row) ≤ measure row) :
    measure (update.onRow row) ≤ measure row := by
  obtain ⟨met, changed⟩ | unchanged := update.onRow_cases row
  · rw [changed]
    exact lower met
  · rw [unchanged]

/-- **An update that raises no row's weight** does not raise the table's. -/
theorem weight_run_le
    (lower : ∀ row ∈ table.rows, update.guard row = true → measure (update.set row) ≤ measure row) :
    (update.run table).weight measure ≤ table.weight measure :=
  total_map_le fun row mem => onRow_le (lower row mem)

theorem weight_run_lt
    (lower : ∀ row ∈ table.rows, update.guard row = true → measure (update.set row) ≤ measure row)
    (mem : row ∈ table.rows) (met : update.guard row = true)
    (strictly : measure (update.set row) < measure row) :
    (update.run table).weight measure < table.weight measure := by
  apply total_map_lt
  · intro other otherMem
    exact onRow_le (lower other otherMem)
  · exact mem
  · rw [Update.onRow_of_guard met]
    exact strictly

variable [DecidableEq Key]

theorem weight_orIgnore
    (weightless : measure row = 0) :
    (table.insertOrIgnore conflicts row).weight measure = table.weight measure := by
  obtain ⟨eq, _⟩ | ⟨fresh, added, _⟩ := orIgnore_cases conflicts row table
  · rw [eq]
  · rw [added, weight, weight, append, total_append, total_cons, weightless]
    rfl

/-- **Rows without weight** leave the weight of the table. -/
theorem weight_insertAll {values : List Row}
    (weightless : ∀ row ∈ values, measure row = 0) :
    (table.insertAllOrIgnore conflicts values).weight measure = table.weight measure := by
  induction values generalizing table with
  | nil => rfl
  | cons row rest ih =>
    have later : ((table.insertOrIgnore conflicts row).insertAllOrIgnore conflicts rest).weight
        measure = (table.insertOrIgnore conflicts row).weight measure :=
      ih fun other mem => weightless other (List.mem_cons_of_mem _ mem)
    exact later.trans (weight_orIgnore (weightless row (List.mem_cons_self ..)))

end Table

/-- **Events that lower a rank stop.**  If an event that comes at or after a moment of
rest ends in rest, at a rank below the one it started from, then only finitely many
events come. -/
theorem eventually_never {Rank : Type*} [LT Rank] [WellFoundedLT Rank]
    {rest ev : Nat → Prop} {rank : Nat → Rank}
    (drops : ∀ {n m}, n ≤ m → rest n → ev m → rest (m + 1) ∧ rank (m + 1) < rank n)
    {n : Nat} (resting : rest n) : ∃ last, ∀ m, last ≤ m → ¬ ev m := by
  generalize start : rank n = value
  induction value using WellFoundedLT.induction generalizing n with
  | ind value ih =>
    by_cases more : ∃ m, n ≤ m ∧ ev m
    · obtain ⟨m, later, happens⟩ := more
      obtain ⟨restsAgain, lower⟩ := drops later resting happens
      exact ih _ (start ▸ lower) restsAgain rfl
    · push Not at more
      exact ⟨n, more⟩

end Cfwdon.Library
