import Cfwdon.Library.Lists
import Cfwdon.Library.Table
import Mathlib.Order.Lattice
import Mathlib.Order.MinMax

/-!
# Row triggers and the counters they keep

The changes that a row trigger is fired for, and counters that triggers keep in step with the
rows of other tables.
-/

namespace Cfwdon.Library

section RowChanges

/-! ## Changes of single rows

What a row trigger of SQL is fired for: one row is inserted, one is replaced by
another (under the same key or a free one), or one is deleted.  A change carries
the row before and the row after it, `OLD` and `NEW`.
-/

/-- One row inserted, updated or deleted. -/
inductive Change (Row : Type*) where
  | insert (new : Row)
  | update (old new : Row)
  | delete (old : Row)

namespace Change

variable {Row Row' Key : Type*} {key : Row → Key}

/-- The row before, `OLD`. -/
def old? : Change Row → Option Row
  | insert _ => none
  | update old _ => some old
  | delete old => some old

/-- The row after, `NEW`. -/
def new? : Change Row → Option Row
  | insert new => some new
  | update _ new => some new
  | delete _ => none

/-- The change as seen through some of the columns. -/
def map (view : Row → Row') : Change Row → Change Row'
  | insert new => insert (view new)
  | update old new => update (view old) (view new)
  | delete old => delete (view old)

@[simp] theorem old?_map (view : Row → Row') (change : Change Row) :
    (change.map view).old? = change.old?.map view := by
  cases change <;> rfl

@[simp] theorem new?_map (view : Row → Row') (change : Change Row) :
    (change.map view).new? = change.new?.map view := by
  cases change <;> rfl

section Tables

variable [DecidableEq Key]

/-- The change can be made: the row before is stored, and the key of the row after
is its own or free. -/
def Applies (table : Table Row key) : Change Row → Prop
  | insert new => table.find (key new) = none
  | update old new =>
    table.find (key old) = some old ∧ (key new = key old ∨ table.find (key new) = none)
  | delete old => table.find (key old) = some old

instance [DecidableEq Row] (table : Table Row key) :
    (change : Change Row) → Decidable (change.Applies table)
  | insert new => inferInstanceAs (Decidable (table.find (key new) = none))
  | update old new =>
    inferInstanceAs (Decidable (table.find (key old) = some old
      ∧ (key new = key old ∨ table.find (key new) = none)))
  | delete old => inferInstanceAs (Decidable (table.find (key old) = some old))

def without (k : Key) (table : Table Row key) : Table Row key :=
  table.deleteWhere fun row => decide (key row = k)

def run (table : Table Row key) : Change Row → Table Row key
  | insert new => table.insert new
  | update old new => (without (key old) table).insert new
  | delete old => without (key old) table

/-! ## Rows after a change -/

variable {table : Table Row key} {old : Row} {change : Change Row} {k : Key}

theorem rows_insert {new : Row} (free : table.find (key new) = none) :
    (table.insert new).rows = table.rows ++ [new] := by
  obtain ⟨_, used | conflict⟩ | ⟨fresh, added, _⟩ :=
    Table.orIgnore_cases (fun _ _ => false) new table
  · have here := Table.find_isSome_iff.mpr used
    rw [free] at here
    cases here
  · simp [Table.exists?] at conflict
  · rw [Table.insert, added]
    rfl

theorem filter_key_eq
    (held : table.find (key old) = some old) :
    table.rows.filter (fun row => decide (key row = key old)) = [old] := by
  have mem := Table.mem_of_find held
  have nodup : ((table.rows.filter fun row => decide (key row = key old)).map key).Nodup :=
    (List.filter_sublist.map key).nodup table.keysDistinct
  have inside : old ∈ table.rows.filter fun row => decide (key row = key old) := by
    simp [mem]
  have single := length_eq_one_of_one_key nodup
    (fun row inFilter => by simpa using List.of_mem_filter inFilter)
    (List.mem_map_of_mem inside)
  obtain ⟨row, only⟩ := List.length_eq_one_iff.mp single
  rw [only, List.mem_singleton] at inside
  rw [only, inside]

theorem perm_without
    (held : table.find (key old) = some old) :
    ((without (key old) table).rows ++ [old]).Perm table.rows := by
  have split := List.filter_append_perm (fun row => decide (key row = key old)) table.rows
  rw [filter_key_eq held] at split
  exact List.perm_append_comm.trans split

/-- **What a change does to the rows**: together with the row before it, the rows
after it are the rows before it together with the row after it. -/
theorem perm_changed
    (fit : change.Applies table) :
    ((change.run table).rows ++ change.old?.toList).Perm (table.rows ++ change.new?.toList) := by
  cases change with
  | insert new =>
    have free : table.find (key new) = none := fit
    simp [run, old?, new?, rows_insert free]
  | update old new =>
    obtain ⟨held, free⟩ := fit
    have free' : (without (key old) table).find (key new) = none := by
      rw [without, Table.find_deleteWhere]
      rcases free with eq | free
      · rw [eq, held, Option.filter_some, if_neg (by simp)]
      · rw [free, Option.filter_none]
    simp only [run, old?, new?, rows_insert free', Option.toList_some, List.append_assoc]
    refine (List.perm_append_comm.append_left _).trans ?_
    rw [← List.append_assoc]
    exact (perm_without held).append_right [new]
  | delete old =>
    have held : table.find (key old) = some old := fit
    simpa [run, old?, new?] using perm_without held

theorem mem_of_mem_changed {row : Row}
    (fit : change.Applies table) (mem : row ∈ (change.run table).rows) :
    row ∈ table.rows ∨ change.new? = some row := by
  have inBoth := (perm_changed fit).subset (List.mem_append_left _ mem)
  simpa [Option.mem_toList] using inBoth

theorem find_isSome_of_changed
    (fit : change.Applies table) (got : ((change.run table).find k).isSome) :
    (table.find k).isSome ∨ ∃ new, change.new? = some new ∧ key new = k := by
  obtain ⟨row, held⟩ := Option.isSome_iff_exists.mp got
  have isKey := Table.key_of_find held
  rcases mem_of_mem_changed fit (Table.mem_of_find held) with mem | new
  · left
    rw [← isKey, Table.find_of_mem mem]
    rfl
  · exact Or.inr ⟨row, new, isKey⟩

theorem find_isSome_updated {old new : Row}
    (eq : key new = key old) (got : (table.find k).isSome) :
    (((Change.update old new).run table).find k).isSome := by
  rw [run, Table.find_insert, without, Table.find_deleteWhere]
  obtain ⟨row, held⟩ := Option.isSome_iff_exists.mp got
  have isKey := Table.key_of_find held
  by_cases target : key new = k
  · simp [target]
  · have other : ¬ key row = key old := fun h => target (eq.trans (h.symm.trans isKey))
    simp [held, other]

theorem mem_of_old {row : Row}
    (fit : change.Applies table) (old : change.old? = some row) : row ∈ table.rows := by
  cases change with
  | insert new => cases old
  | update pre post =>
    obtain rfl := Option.some.inj old
    exact Table.mem_of_find fit.1
  | delete pre =>
    obtain rfl := Option.some.inj old
    exact Table.mem_of_find fit

/-! ## Counting -/

/-- One for a row with the property, none for another row or no row. -/
def weigh (counted : Row → Bool) (row : Option Row) : Nat := row.toList.countP counted

omit [DecidableEq Key] in
@[simp] theorem weigh_none (counted : Row → Bool) : weigh counted none = 0 := rfl

omit [DecidableEq Key] in
@[simp] theorem weigh_some (counted : Row → Bool) (row : Row) :
    weigh counted (some row) = if counted row then 1 else 0 := by
  simp [weigh]

omit [DecidableEq Key] in
theorem weigh_map (counted : Row' → Bool) (view : Row → Row') (row : Option Row) :
    weigh counted (row.map view) = weigh (fun row => counted (view row)) row := by
  cases row with
  | none => rfl
  | some row => simp

/-- **The number of rows with a property** goes up with the row after a change and
down with the row before it. -/
theorem countP_changed
    (fit : change.Applies table) (counted : Row → Bool) :
    (change.run table).rows.countP counted + weigh counted change.old?
      = table.rows.countP counted + weigh counted change.new? := by
  have eq := (perm_changed fit).countP_eq counted
  rwa [List.countP_append, List.countP_append] at eq

theorem weigh_old_le
    (fit : change.Applies table) (counted : Row → Bool) :
    weigh counted change.old? ≤ table.rows.countP counted := by
  cases old : change.old? with
  | none => exact Nat.zero_le _
  | some row =>
    rw [weigh_some]
    split_ifs with holds
    · exact List.countP_pos_iff.mpr ⟨row, mem_of_old fit old, holds⟩
    · exact Nat.zero_le _

end Tables

end Change

end RowChanges

section Counters

/-! ## Counters kept by row triggers

A counters table holds, under a key, numbers that triggers on other tables keep
in step with how many rows refer to the key.  The number under a key without a row
is the default of its column.

Lowering stops at zero, so it is the agreement itself that keeps it from losing a
step: a row that is taken away was counted.
-/

namespace Table

variable {Row Key Value : Type*} {key : Row → Key} [DecidableEq Key]

def valueOf (column : Row → Value) (default : Value) (table : Table Row key) (k : Key) : Value :=
  (table.find k).elim default column

variable {column : Row → Value} {default : Value} {table : Table Row key} {k : Key}

theorem valueOf_of_find_none (gone : table.find k = none) :
    table.valueOf column default k = default := by
  simp [valueOf, gone]

variable {row : Row}

theorem valueOf_of_find (got : table.find k = some row) :
    table.valueOf column default k = column row := by
  simp [valueOf, got]

theorem valueOf_view {Row' : Type*} {key' : Row' → Key} {view : Row → Row'}
    (eq : ∀ row, key' (view row) = key row) {column' : Row' → Value}
    (got : table.find k = some row) :
    (table.view view eq).valueOf column' default k = column' (view row) := by
  simp [valueOf, got]

theorem valueOf_delete_of_ne (other : key row ≠ k) :
    ((Change.delete row).run table).valueOf column default k = table.valueOf column default k := by
  have kept : ((Change.delete row).run table).find k = table.find k := by
    rw [Change.run, Change.without, find_deleteWhere]
    cases got : table.find k with
    | none => rfl
    | some held =>
      have apart : key held ≠ key row := by
        rw [key_of_find got]
        exact fun eq => other eq.symm
      simp [apart]
  rw [valueOf, valueOf, kept]

theorem find_isSome_of_valueOf_ne (other : table.valueOf column default k ≠ default) :
    (table.find k).isSome := by
  cases got : table.find k with
  | none => exact absurd (valueOf_of_find_none got) other
  | some row => rfl

/-- **An upsert** applies one function to the value under its key, if it stores the
function at the default and merges by the function. -/
theorem valueOf_upsert {merge : Row → Row}
    {keeps : ∀ held, key (merge held) = key held} (apply : Value → Value)
    (first : column row = apply default)
    (merged : ∀ held, column (merge held) = apply (column held)) :
    (table.upsert row merge keeps).valueOf column default k
      = if key row = k then apply (table.valueOf column default k)
        else table.valueOf column default k := by
  simp only [valueOf, find_upsert]
  split_ifs with eq
  · cases got : table.find k with
    | none => simpa using first
    | some held => simpa using merged held
  · rfl

/-- **An update** of the row under a key applies a function to its value. -/
theorem valueOf_update {target : Key} {set : Row → Row}
    {keeps : ∀ row, key (set row) = key row} (apply : Value → Value)
    (sets : ∀ held, column (set held) = apply (column held))
    (covered : target = k → (table.find k).isSome ∨ apply default = default) :
    (Update.run ⟨fun row => decide (key row = target), set, keeps⟩ table).valueOf column default k
      = if target = k then apply (table.valueOf column default k)
        else table.valueOf column default k := by
  simp only [valueOf, find_run]
  cases got : table.find k with
  | none =>
    split_ifs with eq
    · have fixed := (covered eq).resolve_left (by simp [got])
      simpa using fixed.symm
    · rfl
  | some held =>
    have isKey : key held = k := key_of_find got
    split_ifs with eq
    · subst eq
      simp [Update.onRow, isKey, sets]
    · have other : ¬ k = target := fun h => eq h.symm
      simp [Update.onRow, isKey, other]

end Table

section Greatest

variable {α : Type*} [LinearOrder α]

/-- The greatest value depends on the values only. -/
theorem max?_congr {xs ys : List α} (eq : ∀ x, x ∈ xs ↔ x ∈ ys) : xs.max? = ys.max? := by
  cases greatest : ys.max? with
  | none =>
    have empty : ys = [] := List.max?_eq_none_iff.mp greatest
    rw [List.max?_eq_none_iff, List.eq_nil_iff_forall_not_mem]
    intro x mem
    simpa [empty] using (eq x).mp mem
  | some x =>
    obtain ⟨mem, bound⟩ := List.max?_eq_some_iff.mp greatest
    exact List.max?_eq_some_iff.mpr ⟨(eq x).mpr mem, fun y listed => bound y ((eq y).mp listed)⟩

/-- One more value: the later of it and the greatest so far, which is `least` where
there is none. -/
theorem max?_add {xs ys : List α} {added least : α} (bottom : least ≤ added)
    (eq : ∀ x, x ∈ ys ↔ x ∈ xs ∨ x = added) :
    ys.max? = some (max (xs.max?.getD least) added) := by
  rw [List.max?_eq_some_iff]
  cases greatest : xs.max? with
  | none =>
    have empty : xs = [] := List.max?_eq_none_iff.mp greatest
    rw [Option.getD_none, max_eq_right bottom]
    simp [eq, empty]
  | some x =>
    obtain ⟨mem, bound⟩ := List.max?_eq_some_iff.mp greatest
    rw [Option.getD_some]
    refine ⟨?_, ?_⟩
    · rw [eq]
      rcases max_choice x added with first | second
      · rw [first]
        exact Or.inl mem
      · exact Or.inr second
    · intro y listed
      rcases (eq y).mp listed with pre | rfl
      · exact le_max_of_le_left (bound y pre)
      · exact le_max_right _ _

end Greatest

/-! ## Triggers that count -/

def referring {Row Key : Type*} [DecidableEq Key] (reference : Row → Option Key) (k : Key)
    (rows : List Row) : Nat :=
  rows.countP fun row => decide (reference row = some k)

theorem referring_cons {Row Key : Type*} [DecidableEq Key] (ref : Row → Option Key)
    (k : Key) (row : Row) (rows : List Row) :
    referring ref k (row :: rows) = referring ref k rows + if ref row = some k then 1 else 0 := by
  simp [referring, List.countP_cons]

theorem referring_erase {Row Key : Type*} [DecidableEq Key] [DecidableEq Row]
    {ref : Row → Option Key} {k : Key} {row : Row} {rows : List Row}
    (listed : row ∈ rows) :
    referring ref k rows
      = referring ref k (rows.erase row) + if ref row = some k then 1 else 0 := by
  rw [← referring_cons]
  exact (List.perm_cons_erase listed).countP_eq _

theorem referring_eq_zero {Row Key : Type*} [DecidableEq Key] {ref : Row → Option Key}
    {k : Key} {rows : List Row} (unreferenced : ∀ row ∈ rows, ref row ≠ some k) :
    referring ref k rows = 0 :=
  List.countP_eq_zero.mpr fun row mem => by simpa using unreferenced row mem

section Counting

variable {Row Key Counts : Type*}

/-- **A trigger keeps a count**: the value goes up with the row after a change and
down with the row before it, as long as the value covers the row before. -/
def KeepsCount (counted : Row → Bool) (value : Counts → Nat)
    (fire : Change Row → Counts → Counts) : Prop :=
  ∀ change counts, Change.weigh counted change.old? ≤ value counts →
    value (fire change counts) + Change.weigh counted change.old?
      = value counts + Change.weigh counted change.new?

variable {counted : Row → Bool} {counts : Counts} {key : Row → Key}

/-- **Agreement is kept.**  A value that is the number of rows of a kind, and of
others beside, is so after a change of the rows. -/
theorem KeepsCount.agrees [DecidableEq Key]
    {value : Counts → Nat} {fire : Change Row → Counts → Counts}
    (keeps : KeepsCount counted value fire) {table : Table Row key} {change : Change Row}
    (fit : change.Applies table) {others : Nat}
    (agree : value counts = table.rows.countP counted + others) :
    value (fire change counts) = (change.run table).rows.countP counted + others := by
  have covered := Change.weigh_old_le fit counted
  have moved := keeps change counts (by omega)
  have rows := Change.countP_changed fit counted
  omega

theorem KeepsCount.agrees_alone [DecidableEq Key]
    {value : Counts → Nat} {fire : Change Row → Counts → Counts}
    (keeps : KeepsCount counted value fire) {table : Table Row key} {change : Change Row}
    (fit : change.Applies table)
    (agree : value counts = table.rows.countP counted) :
    value (fire change counts) = (change.run table).rows.countP counted :=
  keeps.agrees fit (agree.trans (Nat.add_zero _).symm)

theorem KeepsCount.agrees_taken {value : Counts → Nat}
    {fire : Change Row → Counts → Counts} (keeps : KeepsCount counted value fire) {old : Row}
    {others : Nat}
    (agree : value counts = others + if counted old then 1 else 0) :
    value (fire (.delete old) counts) = others := by
  have moved := keeps (.delete old) counts
  simp only [Change.old?, Change.new?, Change.weigh_some, Change.weigh_none] at moved
  have lowered := moved (by omega)
  omega

theorem KeepsCount.map {Source : Type*} {value : Counts → Nat}
    {fire : Change Row → Counts → Counts} (keeps : KeepsCount counted value fire)
    (view : Source → Row) :
    KeepsCount (fun source => counted (view source)) value
      (fun change => fire (change.map view)) := by
  intro change counts covered
  have moved := keeps (change.map view) counts
  rw [Change.old?_map, Change.new?_map, Change.weigh_map, Change.weigh_map] at moved
  exact moved covered

/-- What the triggers of a reference share: the key that a row refers to, and the
statements that raise and lower the counter of that key for the row. -/
structure CounterTriggers (Row Key Counts : Type*) where
  reference : Row → Option Key
  increment : Row → Key → Counts → Counts
  decrement : Row → Key → Counts → Counts

namespace CounterTriggers

variable (triggers : CounterTriggers Row Key Counts)

def raise (row : Row) (counts : Counts) : Counts :=
  match triggers.reference row with
  | some k => triggers.increment row k counts
  | none => counts

def lower (row : Row) (counts : Counts) : Counts :=
  match triggers.reference row with
  | some k => triggers.decrement row k counts
  | none => counts

/-- `AFTER INSERT`, `AFTER UPDATE` where something watched differs, `AFTER DELETE`. -/
def fireWhen (differs : Row → Row → Bool) : Change Row → Counts → Counts
  | .insert new, counts => triggers.raise new counts
  | .update old new, counts =>
    if differs old new then triggers.raise new (triggers.lower old counts) else counts
  | .delete old, counts => triggers.lower old counts

/-- The triggers that watch the reference itself. -/
def fire [DecidableEq Key] : Change Row → Counts → Counts :=
  triggers.fireWhen fun old new => decide (triggers.reference new ≠ triggers.reference old)

def refersTo [DecidableEq Key] (k : Key) (row : Row) : Bool :=
  decide (triggers.reference row = some k)

variable {triggers} [DecidableEq Key] {value : Counts → Nat} {k : Key}

theorem value_raise
    (increments : ∀ row j counts, triggers.reference row = some j →
      value (triggers.increment row j counts) = value counts + if j = k then 1 else 0)
    (row : Row) (counts : Counts) :
    value (triggers.raise row counts)
      = value counts + Change.weigh (triggers.refersTo k) (some row) := by
  cases ref : triggers.reference row with
  | none => simp [raise, refersTo, ref]
  | some j => simp [raise, refersTo, ref, increments]

theorem value_lower
    (decrements : ∀ row j counts, triggers.reference row = some j →
      value (triggers.decrement row j counts) = value counts - if j = k then 1 else 0)
    (row : Row) (counts : Counts) :
    value (triggers.lower row counts)
      = value counts - Change.weigh (triggers.refersTo k) (some row) := by
  cases ref : triggers.reference row with
  | none => simp [lower, refersTo, ref]
  | some j => simp [lower, refersTo, ref, decrements]

/-- **The triggers of a reference keep the count of the rows that refer to a key**, if
they watch all that the reference depends on. -/
theorem keepsCount_fireWhen {differs : Row → Row → Bool}
    (increments : ∀ row j counts, triggers.reference row = some j →
      value (triggers.increment row j counts) = value counts + if j = k then 1 else 0)
    (decrements : ∀ row j counts, triggers.reference row = some j →
      value (triggers.decrement row j counts) = value counts - if j = k then 1 else 0)
    (watched : ∀ old new, differs old new = false →
      triggers.reference new = triggers.reference old) :
    KeepsCount (triggers.refersTo k) value (triggers.fireWhen differs) := by
  intro change counts covered
  cases change with
  | insert new =>
    simp only [fireWhen, Change.old?, Change.new?, Change.weigh_none, Nat.add_zero]
    exact value_raise increments new counts
  | update old new =>
    simp only [fireWhen, Change.old?, Change.new?] at covered ⊢
    by_cases moved : differs old new = true
    · rw [if_pos moved, value_raise increments, value_lower decrements]
      omega
    · have eq := watched old new (by simpa using moved)
      rw [if_neg moved]
      simp [refersTo, eq]
  | delete old =>
    simp only [fireWhen, Change.old?, Change.new?, Change.weigh_none, Nat.add_zero] at covered ⊢
    rw [value_lower decrements]
    omega

theorem keepsCount_fire
    (increments : ∀ row j counts, triggers.reference row = some j →
      value (triggers.increment row j counts) = value counts + if j = k then 1 else 0)
    (decrements : ∀ row j counts, triggers.reference row = some j →
      value (triggers.decrement row j counts) = value counts - if j = k then 1 else 0) :
    KeepsCount (triggers.refersTo k) value triggers.fire :=
  keepsCount_fireWhen increments decrements (by simp)

omit [DecidableEq Key] in
theorem value_fireWhen {Value : Type*} (value : Counts → Value) {differs : Row → Row → Bool}
    (increments : ∀ row j counts, value (triggers.increment row j counts) = value counts)
    (decrements : ∀ row j counts, value (triggers.decrement row j counts) = value counts)
    (change : Change Row) (counts : Counts) :
    value (triggers.fireWhen differs change counts) = value counts := by
  have raised : ∀ row counts, value (triggers.raise row counts) = value counts := by
    intro row counts
    unfold raise
    split
    · exact increments _ _ _
    · rfl
  have lowered : ∀ row counts, value (triggers.lower row counts) = value counts := by
    intro row counts
    unfold lower
    split
    · exact decrements _ _ _
    · rfl
  cases change with
  | insert new => exact raised new counts
  | update old new =>
    simp only [fireWhen]
    split_ifs
    · rw [raised, lowered]
    · rfl
  | delete old => exact lowered old counts

end CounterTriggers

end Counting

/-! ## Counter columns -/

/-- A numeric column of a counters table: how it is read and adjusted, and the row of
a key with every column at its default. -/
structure CounterColumn (Row : Type*) {Key : Type*} (key : Row → Key) where
  read : Row → Nat
  adjust : (Nat → Nat) → Row → Row
  blank : Key → Row
  read_adjust : ∀ f row, read (adjust f row) = f (read row)
  key_adjust : ∀ f row, key (adjust f row) = key row
  read_blank : ∀ k, read (blank k) = 0
  key_blank : ∀ k, key (blank k) = k

namespace CounterColumn

variable {Row Key Source Value : Type*} {key : Row → Key} [DecidableEq Key]
  (column : CounterColumn Row key)

/-- The number under a key. -/
def value (k : Key) (counts : Table Row key) : Nat := counts.valueOf column.read 0 k

/-- `INSERT … VALUES (k, 1) ON CONFLICT DO UPDATE SET column = column + 1`. -/
def increment (k : Key) (counts : Table Row key) : Table Row key :=
  counts.upsert (column.adjust (· + 1) (column.blank k)) (column.adjust (· + 1))
    (column.key_adjust _)

/-- `UPDATE … SET column = max(column - 1, 0) WHERE key = k`. -/
def decrement (k : Key) (counts : Table Row key) : Table Row key :=
  Update.run ⟨fun row => decide (key row = k), column.adjust (· - 1), column.key_adjust _⟩ counts

def triggers (reference : Source → Option Key) : CounterTriggers Source Key (Table Row key) where
  reference := reference
  increment _ := column.increment
  decrement _ := column.decrement

theorem value_increment (j k : Key) (counts : Table Row key) :
    column.value k (column.increment j counts)
      = column.value k counts + if j = k then 1 else 0 := by
  rw [value, increment, Table.valueOf_upsert (· + 1) (by rw [column.read_adjust, column.read_blank])
    (column.read_adjust _), column.key_adjust, column.key_blank]
  split_ifs <;> rfl

theorem value_decrement (j k : Key) (counts : Table Row key) :
    column.value k (column.decrement j counts)
      = column.value k counts - if j = k then 1 else 0 := by
  rw [value, decrement, Table.valueOf_update (· - 1) (column.read_adjust _) fun _ => Or.inr rfl]
  split_ifs <;> rfl

theorem triggers_keepsCount (ref : Source → Option Key) (k : Key) :
    KeepsCount ((column.triggers ref).refersTo k) (column.value k) (column.triggers ref).fire :=
  CounterTriggers.keepsCount_fire (fun _ j counts _ => column.value_increment j k counts)
    (fun _ j counts _ => column.value_decrement j k counts)

/-! ### Other columns -/

/-- The statements of the column leave another reading of the row alone. -/
structure Leaves (other : Row → Value) (default : Value) : Prop where
  adjust : ∀ f row, other (column.adjust f row) = other row
  blank : ∀ k, other (column.blank k) = default

variable {column} {other : Row → Value} {default : Value}

theorem Leaves.valueOf_increment (leaves : column.Leaves other default) (j k : Key)
    (counts : Table Row key) :
    (column.increment j counts).valueOf other default k = counts.valueOf other default k := by
  rw [increment, Table.valueOf_upsert id (by rw [leaves.adjust, leaves.blank]; rfl)
    (leaves.adjust _)]
  split_ifs <;> rfl

theorem Leaves.valueOf_decrement (leaves : column.Leaves other default) (j k : Key)
    (counts : Table Row key) :
    (column.decrement j counts).valueOf other default k = counts.valueOf other default k := by
  rw [decrement, Table.valueOf_update id (leaves.adjust _) fun _ => Or.inr rfl]
  split_ifs <;> rfl

theorem Leaves.valueOf_fire (leaves : column.Leaves other default)
    (ref : Source → Option Key) (k : Key) (change : Change Source)
    (counts : Table Row key) :
    ((column.triggers ref).fire change counts).valueOf other default k
      = counts.valueOf other default k :=
  CounterTriggers.value_fireWhen (fun counts => counts.valueOf other default k)
    (fun _ j => leaves.valueOf_increment j k) (fun _ j => leaves.valueOf_decrement j k)
    change counts

end CounterColumn

end Counters

end Cfwdon.Library
