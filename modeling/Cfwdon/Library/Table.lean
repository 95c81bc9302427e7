import Mathlib.Data.List.Find
import Mathlib.Data.List.Nodup

/-!
# Tables with a primary key

Tables and the single-statement writes of SQL, what a write does to one row, and which writes
change nothing.
-/

namespace Cfwdon.Library

variable {limit : Nat} {Row' : Type*}

section Table

/-! ## Tables with a primary key

A table is a list of rows whose keys are pairwise distinct; the distinctness is
a field, so a table with two rows of one key cannot be built.  The operations
are the single-statement writes of SQL: a guarded update, a guarded delete, a
plain insert and an insert that is dropped on a conflict.  Each is one atomic
change of the whole table.

What a write does to one row is read off `find`:

* `find_orIgnore` -- an insert adds its own row or changes nothing.

`Selection` is `SELECT … ORDER BY … LIMIT …` with ties left open.
-/

@[ext]
structure Table (Row : Type*) {Key : Type*} (key : Row → Key) where
  rows : List Row
  keysDistinct : (rows.map key).Nodup

/-- `UPDATE … SET set WHERE guard`, for a `set` that leaves the key alone. -/
structure Update (Row : Type*) {Key : Type*} (key : Row → Key) where
  guard : Row → Bool
  set : Row → Row
  keeps : ∀ row, key (set row) = key row

namespace Update

variable {Row Key : Type*} {key : Row → Key}

def onRow (update : Update Row key) (row : Row) : Row :=
  if update.guard row then update.set row else row

variable {update : Update Row key} {row : Row}

theorem onRow_of_guard (met : update.guard row = true) : update.onRow row = update.set row :=
  if_pos met

theorem onRow_of_not_guard (unmet : update.guard row = false) : update.onRow row = row := by
  simp [onRow, unmet]

theorem onRow_cases (update : Update Row key) (row : Row) :
    (update.guard row = true ∧ update.onRow row = update.set row) ∨ update.onRow row = row := by
  by_cases met : update.guard row = true
  · exact Or.inl ⟨met, onRow_of_guard met⟩
  · exact Or.inr (onRow_of_not_guard (by simpa using met))

theorem key_onRow (update : Update Row key) (row : Row) : key (update.onRow row) = key row := by
  by_cases met : update.guard row = true
  · rw [onRow_of_guard met, update.keeps]
  · rw [onRow_of_not_guard (by simpa using met)]

def run (update : Update Row key) (table : Table Row key) : Table Row key where
  rows := table.rows.map update.onRow
  keysDistinct := by
    have same : (table.rows.map update.onRow).map key = table.rows.map key := by
      rw [List.map_map]
      exact List.map_congr_left fun row _ => update.key_onRow row
    rw [same]
    exact table.keysDistinct

end Update

namespace Table

variable {Row Key : Type*} {key : Row → Key}

/-! ## Statements -/

def empty : Table Row key where
  rows := []
  keysDistinct := List.nodup_nil

def singleton (row : Row) : Table Row key where
  rows := [row]
  keysDistinct := List.nodup_singleton _

def find [DecidableEq Key] (table : Table Row key) (k : Key) : Option Row :=
  table.rows.find? fun row => key row = k

def exists? (guard : Row → Bool) (table : Table Row key) : Bool :=
  table.rows.any guard

def select (guard : Row → Bool) (table : Table Row key) : List Row :=
  table.rows.filter guard

/-- `DELETE … WHERE guard`. -/
def deleteWhere (guard : Row → Bool) (table : Table Row key) : Table Row key where
  rows := table.rows.filter fun row => !guard row
  keysDistinct := (List.filter_sublist.map key).nodup table.keysDistinct

/-- Add a row whose key is not in use. -/
def append (table : Table Row key) (row : Row) (fresh : key row ∉ table.rows.map key) :
    Table Row key where
  rows := table.rows ++ [row]
  keysDistinct := by
    rw [List.map_append, List.map_singleton]
    exact List.nodup_append.mpr ⟨table.keysDistinct, List.nodup_singleton _, by
      intro k member k' single same
      rw [List.mem_singleton] at single
      exact fresh (single ▸ same ▸ member)⟩

/-- `INSERT OR IGNORE`: the row is added unless its key is in use or a stored
row conflicts with it on another unique index. -/
def insertOrIgnore [DecidableEq Key] (conflicts : Row → Row → Bool) (row : Row)
    (table : Table Row key) : Table Row key :=
  if fresh : key row ∈ table.rows.map key then table
  else if table.exists? (conflicts row) then table
  else table.append row fresh

/-- A plain `INSERT`: on a key in use the statement fails and nothing changes. -/
def insert [DecidableEq Key] (row : Row) (table : Table Row key) : Table Row key :=
  table.insertOrIgnore (fun _ _ => false) row

/-- `INSERT OR REPLACE`: a stored row of the key gives way. -/
def insertOrReplace [DecidableEq Key] (row : Row) (table : Table Row key) : Table Row key :=
  (table.deleteWhere fun stored => decide (key stored = key row)).insert row

/-- `INSERT … SELECT` into an empty table: one row for each stored one, under its key. -/
def view {Row' : Type*} {key' : Row' → Key} (columns : Row → Row')
    (same : ∀ row, key' (columns row) = key row) (table : Table Row key) : Table Row' key' where
  rows := table.rows.map columns
  keysDistinct := by
    have keys : (table.rows.map columns).map key' = table.rows.map key := by
      rw [List.map_map]
      exact List.map_congr_left fun row _ => same row
    rw [keys]
    exact table.keysDistinct

/-- `INSERT … ON CONFLICT(key) DO UPDATE SET merge`. -/
def upsert [DecidableEq Key] (row : Row) (merge : Row → Row)
    (keeps : ∀ stored, key (merge stored) = key stored) (table : Table Row key) : Table Row key :=
  if (table.find (key row)).isSome then
    Update.run ⟨fun stored => decide (key stored = key row), merge, keeps⟩ table
  else table.insert row

/-- Several `INSERT OR IGNORE` values, in order. -/
def insertAllOrIgnore [DecidableEq Key] (conflicts : Row → Row → Bool) (values : List Row)
    (table : Table Row key) : Table Row key :=
  values.foldl (fun current row => current.insertOrIgnore conflicts row) table

/-! ## Lookup -/

theorem eq_of_key_eq {table : Table Row key} {row row' : Row} (mem : row ∈ table.rows)
    (mem' : row' ∈ table.rows) (eq : key row = key row') : row = row' :=
  List.inj_on_of_nodup_map table.keysDistinct mem mem' eq

section Lookup

variable [DecidableEq Key] {table : Table Row key} {row : Row} {k : Key}

theorem find_eq_some (got : table.find k = some row) : row ∈ table.rows ∧ key row = k :=
  ⟨List.mem_of_find?_eq_some got, by simpa using List.find?_some got⟩

theorem key_of_find (got : table.find k = some row) : key row = k :=
  (find_eq_some got).2

theorem mem_of_find (got : table.find k = some row) : row ∈ table.rows :=
  (find_eq_some got).1

theorem find_of_mem (mem : row ∈ table.rows) : table.find (key row) = some row := by
  cases got : table.find (key row) with
  | none =>
    have gone := List.find?_eq_none.mp got row mem
    simp at gone
  | some other =>
    obtain ⟨stored, eq⟩ := find_eq_some got
    rw [eq_of_key_eq stored mem eq]

theorem find_iff : table.find k = some row ↔ row ∈ table.rows ∧ key row = k := by
  constructor
  · exact find_eq_some
  · rintro ⟨mem, rfl⟩
    exact find_of_mem mem

theorem find_eq_none : table.find k = none ↔ ∀ row ∈ table.rows, key row ≠ k := by
  simp [find, List.find?_eq_none]

@[simp] theorem find_empty : (empty : Table Row key).find k = none := rfl

theorem find_isSome_iff : (table.find k).isSome ↔ k ∈ table.rows.map key := by
  constructor
  · intro here
    obtain ⟨row, got⟩ := Option.isSome_iff_exists.mp here
    exact List.mem_map.mpr ⟨row, mem_of_find got, key_of_find got⟩
  · intro mem
    obtain ⟨row, stored, rfl⟩ := List.mem_map.mp mem
    simp [find_of_mem stored]

/-! ## What each statement does to one row -/

/-- **An update acts row by row.** -/
@[simp] theorem find_run (update : Update Row key) (table : Table Row key) (k : Key) :
    (update.run table).find k = (table.find k).map update.onRow := by
  simp only [find, Update.run, List.find?_map, Function.comp_def, Update.key_onRow]

@[simp] theorem find_view {key' : Row' → Key} (columns : Row → Row')
    (eq : ∀ row, key' (columns row) = key row) (table : Table Row key) (k : Key) :
    (table.view columns eq).find k = (table.find k).map columns := by
  simp only [find, view, List.find?_map, Function.comp_def, eq]

theorem find_isSome_of_mem_view {key' : Row' → Key} {columns : Row → Row'}
    (eq : ∀ row, key' (columns row) = key row) {row' : Row'}
    (mem : row' ∈ (table.view columns eq).rows) : (table.find (key' row')).isSome := by
  obtain ⟨row, stored, rfl⟩ := List.mem_map.mp mem
  rw [eq, find_of_mem stored]
  rfl

/-- **A delete keeps exactly the rows outside its guard.** -/
theorem find_deleteWhere (guard : Row → Bool) (table : Table Row key) (k : Key) :
    (table.deleteWhere guard).find k = (table.find k).filter fun row => !guard row := by
  cases got : table.find k with
  | none =>
    simp only [Option.filter_none]
    rw [find_eq_none]
    intro row mem
    exact find_eq_none.mp got row (List.mem_of_mem_filter mem)
  | some row =>
    obtain ⟨mem, eq⟩ := find_eq_some got
    by_cases met : guard row = true
    · rw [Option.filter_some, if_neg (by simp [met]), find_eq_none]
      intro other otherMem otherKey
      have kept := List.of_mem_filter otherMem
      have eq' : other = row :=
        eq_of_key_eq (List.mem_of_mem_filter otherMem) mem (otherKey.trans eq.symm)
      simp [eq', met] at kept
    · rw [Option.filter_some, if_pos (by simpa using met)]
      exact find_iff.mpr ⟨List.mem_filter.mpr ⟨mem, by simpa using met⟩, eq⟩

theorem find_of_find_deleteWhere {guard : Row → Bool}
    (got : (table.deleteWhere guard).find k = some row) :
    table.find k = some row ∧ guard row = false := by
  rw [find_deleteWhere] at got
  obtain ⟨stored, kept⟩ := Option.filter_eq_some_iff.mp got
  exact ⟨stored, by simpa using kept⟩

theorem find_append (fresh : key row ∉ table.rows.map key) (k : Key) :
    (table.append row fresh).find k = if key row = k then some row else table.find k := by
  by_cases eq : key row = k
  · rw [if_pos eq]
    exact find_iff.mpr ⟨by simp [append], eq⟩
  · rw [if_neg eq]
    simp [find, append, List.find?_append, eq]

variable (clash : Row → Row → Bool)

/-- **An insert adds its own row or changes nothing.** -/
theorem orIgnore_cases (row : Row)
    (table : Table Row key) :
    (table.insertOrIgnore clash row = table
        ∧ (key row ∈ table.rows.map key ∨ table.exists? (clash row) = true))
      ∨ ∃ fresh, table.insertOrIgnore clash row = table.append row fresh
          ∧ table.exists? (clash row) = false := by
  unfold insertOrIgnore
  by_cases used : key row ∈ table.rows.map key
  · left
    simp [used]
  · by_cases conflict : table.exists? (clash row) = true
    · left
      simp [used, conflict]
    · right
      refine ⟨used, ?_, by simpa using conflict⟩
      simp [used, conflict]

variable {stored : Row} {row' : Row} {values : List Row}

/-- A row that was there before an `INSERT OR IGNORE` is there after it. -/
theorem find_orIgnore_of_some (row : Row)
    (got : table.find k = some stored) :
    (table.insertOrIgnore clash row).find k = some stored := by
  obtain ⟨eq, _⟩ | ⟨fresh, eq, _⟩ := orIgnore_cases clash row table
  · rw [eq]
    exact got
  · rw [eq, find_append]
    have other : key row ≠ k := by
      rintro rfl
      exact fresh (find_isSome_iff.mp (by simp [got]))
    rw [if_neg other]
    exact got

theorem find_orIgnore (row : Row)
    (got : (table.insertOrIgnore clash row).find k = some stored) :
    table.find k = some stored ∨ (table.find k = none ∧ stored = row) := by
  obtain ⟨eq, _⟩ | ⟨fresh, eq, _⟩ := orIgnore_cases clash row table
  · rw [eq] at got
    exact Or.inl got
  · rw [eq, find_append] at got
    by_cases isKey : key row = k
    · rw [if_pos isKey, Option.some.injEq] at got
      refine Or.inr ⟨?_, got.symm⟩
      rw [← Option.not_isSome_iff_eq_none, find_isSome_iff, ← isKey]
      exact fresh
    · rw [if_neg isKey] at got
      exact Or.inl got

/-- **A plain insert stores its row under a free key.** -/
theorem find_insert (row : Row) (table : Table Row key) (k : Key) :
    (table.insert row).find k = (table.find k).or (if key row = k then some row else none) := by
  obtain ⟨eq, used | conflict⟩ | ⟨fresh, added, _⟩ :=
    orIgnore_cases (fun _ _ => false) row table
  · rw [insert, eq]
    cases got : table.find k with
    | some stored => rfl
    | none =>
      have other : key row ≠ k := by
        rintro rfl
        have here := find_isSome_iff.mpr used
        rw [got] at here
        cases here
      simp [other]
  · simp [exists?] at conflict
  · rw [insert, added, find_append]
    by_cases isKey : key row = k
    · have gone : table.find k = none := by
        rw [← Option.not_isSome_iff_eq_none, find_isSome_iff, ← isKey]
        exact fresh
      rw [if_pos isKey, if_pos isKey, gone, Option.none_or]
    · rw [if_neg isKey, if_neg isKey, Option.or_none]

/-- **A replacing insert stores its row and leaves the other keys alone.** -/
theorem find_insertOrReplace (row : Row) (table : Table Row key) (k : Key) :
    (table.insertOrReplace row).find k = if key row = k then some row else table.find k := by
  rw [insertOrReplace, find_insert, find_deleteWhere]
  by_cases isKey : key row = k
  · rw [if_pos isKey, if_pos isKey]
    cases got : table.find k with
    | none => rfl
    | some stored =>
      have eq : key stored = key row := (key_of_find got).trans isKey.symm
      rw [Option.filter_some, if_neg (by simp [eq]), Option.none_or]
  · rw [if_neg isKey, if_neg isKey, Option.or_none]
    cases got : table.find k with
    | none => rfl
    | some stored =>
      have other : key stored ≠ key row := by
        rw [key_of_find got]
        exact fun eq => isKey eq.symm
      rw [Option.filter_some, if_pos (by simp [other])]

theorem mem_insertOrReplace_iff :
    row' ∈ (table.insertOrReplace row).rows
      ↔ row' = row ∨ row' ∈ table.rows ∧ key row' ≠ key row := by
  have atKey : row' ∈ (table.insertOrReplace row).rows
      ↔ (table.insertOrReplace row).find (key row') = some row' := by
    rw [find_iff]
    simp
  rw [atKey, find_insertOrReplace]
  by_cases eq : key row = key row'
  · rw [if_pos eq, Option.some.injEq]
    simp [eq, eq_comm]
  · rw [if_neg eq, find_iff]
    constructor
    · rintro ⟨stored, _⟩
      exact Or.inr ⟨stored, fun h => eq h.symm⟩
    · rintro (rfl | ⟨stored, _⟩)
      · exact absurd rfl eq
      · exact ⟨stored, rfl⟩

/-- **An upsert merges into the stored row, or stores its own.** -/
theorem find_upsert (row : Row) (merge : Row → Row)
    (keeps : ∀ stored, key (merge stored) = key stored) (table : Table Row key) (k : Key) :
    (table.upsert row merge keeps).find k
      = if key row = k then some ((table.find k).elim row merge) else table.find k := by
  unfold upsert
  by_cases eq : key row = k
  · subst eq
    cases got : table.find (key row) with
    | none => simp [find_insert, got]
    | some stored =>
      have isKey : key stored = key row := key_of_find got
      simp [got, Update.onRow, isKey]
  · rw [if_neg eq]
    split_ifs with here
    · rw [find_run]
      cases got : table.find k with
      | none => rfl
      | some stored =>
        have other : ¬ key stored = key row := by
          rw [key_of_find got]
          exact fun h => eq h.symm
        simp [Update.onRow, other]
    · rw [find_insert, if_neg eq, Option.or_none]

/-- **The rows after an upsert**: its own, and those of the other keys. -/
theorem mem_upsert_iff (row : Row) (merge : Row → Row)
    (keeps : ∀ stored, key (merge stored) = key stored) (table : Table Row key) :
    row' ∈ (table.upsert row merge keeps).rows
      ↔ row' = (table.find (key row)).elim row merge ∨ row' ∈ table.rows ∧ key row' ≠ key row := by
  have keyOfWritten : key ((table.find (key row)).elim row merge) = key row := by
    cases got : table.find (key row) with
    | none => rfl
    | some stored => exact (keeps stored).trans (key_of_find got)
  have atKey : row' ∈ (table.upsert row merge keeps).rows
      ↔ (table.upsert row merge keeps).find (key row') = some row' := by
    rw [find_iff]
    simp
  rw [atKey, find_upsert]
  by_cases eq : key row = key row'
  · rw [if_pos eq, Option.some.injEq, ← eq]
    simp [eq_comm]
  · rw [if_neg eq, find_iff]
    constructor
    · rintro ⟨stored, _⟩
      exact Or.inr ⟨stored, fun h => eq h.symm⟩
    · rintro (rfl | ⟨stored, _⟩)
      · exact absurd keyOfWritten.symm eq
      · exact ⟨stored, rfl⟩

theorem find_insertAll_of_some
    (values : List Row) (got : table.find k = some stored) :
    (table.insertAllOrIgnore clash values).find k = some stored := by
  induction values generalizing table with
  | nil => exact got
  | cons row rest ih =>
    exact ih (find_orIgnore_of_some clash row got)

theorem find_insertAll
    (values : List Row)
    (got : (table.insertAllOrIgnore clash values).find k = some stored) :
    table.find k = some stored ∨ (table.find k = none ∧ stored ∈ values) := by
  induction values generalizing table with
  | nil => exact Or.inl got
  | cons row rest ih =>
    rcases ih got with pre | ⟨gone, mem⟩
    · rcases find_orIgnore clash row pre with old | ⟨gone, eq⟩
      · exact Or.inl old
      · exact Or.inr ⟨gone, eq ▸ List.mem_cons_self ..⟩
    · cases old : table.find k with
      | none => exact Or.inr ⟨rfl, List.mem_cons_of_mem _ mem⟩
      | some kept =>
        rw [find_orIgnore_of_some clash row old] at gone
        cases gone

theorem mem_insertAll_of_mem (values : List Row)
    (mem : row ∈ table.rows) : row ∈ (table.insertAllOrIgnore clash values).rows :=
  mem_of_find (find_insertAll_of_some clash values (find_of_mem mem))

/-- A row that is its own key is stored after a list of inserts when it was stored
before or is one of the values. -/
theorem mem_insertAll_iff [DecidableEq Row] {table : Table Row id}
    :
    row ∈ (table.insertAllOrIgnore (fun _ _ => false) values).rows
      ↔ row ∈ table.rows ∨ row ∈ values := by
  constructor
  · intro mem
    rcases find_insertAll _ _ (find_of_mem mem) with old | ⟨_, value⟩
    · exact Or.inl (mem_of_find old)
    · exact Or.inr value
  · induction values generalizing table with
    | nil => simp [insertAllOrIgnore]
    | cons value rest ih =>
      intro mem
      refine @ih (table.insert value) ?_
      rcases mem with old | mem
      · exact Or.inl (mem_of_find (find_orIgnore_of_some _ _ (find_of_mem old)))
      · rcases List.mem_cons.mp mem with rfl | later
        · have stored := find_insert row table row
          rw [if_pos (show id row = row from rfl)] at stored
          cases old : table.find row with
          | none => exact Or.inl (mem_of_find (stored.trans (by rw [old]; rfl)))
          | some other =>
            have eq : other = row := key_of_find old
            subst eq
            exact Or.inl (mem_of_find (stored.trans (by rw [old]; rfl)))
        · exact Or.inr later

/-- **No value is lost.**  After a list of inserts under fresh keys, each value is
stored or a stored row conflicts with it. -/
theorem mem_or_conflict_insertAll {conflicts : Row → Row → Bool}
    (nodup : (values.map key).Nodup) (fresh : ∀ value ∈ values, table.find (key value) = none)
    (mem : row ∈ values) :
    row ∈ (table.insertAllOrIgnore conflicts values).rows
      ∨ ∃ stored ∈ (table.insertAllOrIgnore conflicts values).rows,
          conflicts row stored = true := by
  induction values generalizing table with
  | nil => cases mem
  | cons value rest ih =>
    obtain ⟨notLater, distinctRest⟩ := List.nodup_cons.mp nodup
    rcases List.mem_cons.mp mem with rfl | later
    · obtain ⟨eq, used | conflict⟩ | ⟨unused, appended, _⟩ :=
        orIgnore_cases conflicts row table
      · have here := find_isSome_iff.mpr used
        rw [fresh row (List.mem_cons_self ..)] at here
        cases here
      · obtain ⟨stored, storedMember, clash⟩ := List.any_eq_true.mp conflict
        have kept : stored ∈ (table.insertOrIgnore conflicts row).rows := by
          rw [eq]
          exact storedMember
        exact Or.inr ⟨stored, mem_insertAll_of_mem conflicts rest kept, clash⟩
      · have added : row ∈ (table.insertOrIgnore conflicts row).rows := by
          rw [appended]
          simp [append]
        exact Or.inl (mem_insertAll_of_mem conflicts rest added)
    · refine ih distinctRest (fun other otherMem => ?_) later
      have gone := fresh other (List.mem_cons_of_mem _ otherMem)
      cases got : (table.insertOrIgnore conflicts value).find (key other) with
      | none => rfl
      | some stored =>
        exfalso
        rcases find_orIgnore conflicts value got with old | ⟨_, rfl⟩
        · rw [gone] at old
          cases old
        · exact notLater (key_of_find got ▸ List.mem_map_of_mem otherMem)

end Lookup

end Table

/-! ## Ordered selections with a limit -/

/-- `SELECT … ORDER BY order ASC LIMIT limit` over the candidates: some sorted
arrangement of them, cut after `limit` rows.  Rows of equal order may come in
any arrangement. -/
def Selection {Row : Type*} (order : Row → Nat) (limit : Nat)
    (candidates chosen : List Row) : Prop :=
  ∃ sorted : List Row, sorted.Perm candidates
    ∧ sorted.Pairwise (fun row row' => order row ≤ order row')
    ∧ chosen = sorted.take limit

theorem Selection.subset {Row : Type*} {order : Row → Nat}
    {candidates chosen : List Row} (sel : Selection order limit candidates chosen) :
    ∀ row ∈ chosen, row ∈ candidates := by
  obtain ⟨sorted, arrangement, _, rfl⟩ := sel
  intro row mem
  exact arrangement.subset (List.mem_of_mem_take mem)

theorem Selection.guard_of_find {Row Key : Type*} {key : Row → Key} [DecidableEq Key]
    {order : Row → Nat} {table : Table Row key} {guard : Row → Bool} {chosen : List Row}
    {row : Row} {k : Key} (sel : Selection order limit (table.select guard) chosen)
    (got : table.find k = some row) (mem : k ∈ chosen.map key) : guard row = true := by
  obtain ⟨other, chosenOther, sameId⟩ := List.mem_map.mp mem
  obtain ⟨held, met⟩ := List.mem_filter.mp (sel.subset other chosenOther)
  have eq : other = row := Table.eq_of_key_eq held (Table.mem_of_find got)
    (sameId.trans (Table.key_of_find got).symm)
  exact eq ▸ met

theorem Selection.keys_nodup {Row Key : Type*} {key : Row → Key} {order : Row → Nat}
    {table : Table Row key} {guard : Row → Bool} {chosen : List Row}
    (sel : Selection order limit (table.select guard) chosen) :
    (chosen.map key).Nodup := by
  obtain ⟨sorted, arrangement, _, rfl⟩ := sel
  have cands : ((table.select guard).map key).Nodup :=
    (List.filter_sublist.map key).nodup table.keysDistinct
  have arranged : (sorted.map key).Nodup := (arrangement.map key).nodup_iff.mpr cands
  exact ((List.take_sublist limit sorted).map key).nodup arranged

theorem Selection.nil {Row : Type*} {order : Row → Nat} {limit : Nat} :
    Selection order limit [] [] :=
  ⟨[], List.Perm.refl _, List.Pairwise.nil, List.take_nil.symm⟩

theorem Selection.singleton {Row : Type*} {order : Row → Nat} {row : Row}
    (room : 1 ≤ limit) : Selection order limit [row] [row] :=
  ⟨[row], List.Perm.refl _, List.pairwise_singleton _ _,
    (List.take_of_length_le (by simpa using room)).symm⟩

end Table

end Cfwdon.Library

namespace Cfwdon.Library.Table

section IdleWrites

/-! ## Writes that change nothing

A statement leaves its table as it is when no row meets its guard, or when each row it
sets has the values already.  So does one that is executed a second time.

* `deleteWhere_of_forall`, `run_of_forall` -- no row is met, or no row is changed.
-/

variable {Row Key : Type*} {key : Row → Key} {table : Table Row key} {guard : Row → Bool}
  {row stored : Row}

theorem deleteWhere_of_forall (unmet : ∀ row ∈ table.rows, guard row = false) :
    table.deleteWhere guard = table := by
  apply Table.ext
  apply List.filter_eq_self.mpr
  intro row mem
  rw [unmet row mem]
  rfl

theorem run_of_forall {update : Update Row key}
    (eq : ∀ row ∈ table.rows, update.onRow row = row) : update.run table = table := by
  apply Table.ext
  have rows : table.rows.map update.onRow = table.rows.map id := List.map_congr_left eq
  rw [List.map_id] at rows
  exact rows

variable [DecidableEq Key]

theorem insert_of_used (used : (table.find (key row)).isSome) : table.insert row = table := by
  rw [insert, insertOrIgnore, dif_pos (find_isSome_iff.mp used)]

variable {merge : Row → Row}

variable (keeps : ∀ stored, key (merge stored) = key stored)

theorem upsert_of_merged
    (got : table.find (key row) = some stored) (merged : merge stored = stored) :
    table.upsert row merge keeps = table := by
  rw [upsert, if_pos (by rw [got]; rfl)]
  apply run_of_forall
  intro other mem
  by_cases eq : key other = key row
  · have isStored : other = stored :=
      eq_of_key_eq mem (mem_of_find got) (eq.trans (key_of_find got).symm)
    rw [Update.onRow_of_guard (by simpa using eq), isStored]
    exact merged
  · exact Update.onRow_of_not_guard (by simpa using eq)

/-- **A delete does not see a row that was written for it to delete**, if it looks at the
keys of rows alone. -/
theorem deleteWhere_upsert
    (byKey : ∀ row row', key row = key row' → guard row = guard row')
    (deleted : guard row = true) :
    (table.upsert row merge keeps).deleteWhere guard = table.deleteWhere guard := by
  apply Table.ext
  rw [upsert]
  split_ifs with here
  · -- the row of the key is deleted, before and after the update
    change (table.rows.map _).filter _ = table.rows.filter _
    rw [List.filter_map]
    have sameGuard : ((fun row => !guard row) ∘ Update.onRow
        (⟨fun stored => decide (key stored = key row), merge, keeps⟩ : Update Row key))
          = fun row => !guard row := by
      funext other
      rw [Function.comp_apply, byKey _ other (Update.key_onRow _ other)]
    rw [sameGuard]
    have eq : ∀ other ∈ table.rows.filter fun row => !guard row, Update.onRow
        (⟨fun stored => decide (key stored = key row), merge, keeps⟩ : Update Row key) other
          = other := by
      intro other mem
      apply Update.onRow_of_not_guard
      rw [decide_eq_false_iff_not]
      intro isRow
      have kept := List.of_mem_filter mem
      rw [byKey other row isRow, deleted] at kept
      cases kept
    rw [List.map_congr_left eq, List.map_id']
  · obtain ⟨eq, _⟩ | ⟨fresh, added, _⟩ :=
      orIgnore_cases (fun _ _ => false) row table
    · rw [insert, eq]
    · rw [insert, added]
      change (table.rows ++ [row]).filter _ = table.rows.filter _
      rw [List.filter_append, List.filter_cons_of_neg (by simp [deleted]), List.filter_nil,
        List.append_nil]

/-- **A search does not see a row that it skips before and after the write.** -/
theorem findRow_upsert
    {found : Row → Bool} (skipsNew : found row = false)
    (skipsStored : ∀ stored, table.find (key row) = some stored →
      found stored = false ∧ found (merge stored) = false) :
    (table.upsert row merge keeps).rows.find? found = table.rows.find? found := by
  rw [upsert]
  split_ifs with here
  · change (table.rows.map (Update.onRow
      (⟨fun stored => decide (key stored = key row), merge, keeps⟩ : Update Row key))).find? found
        = table.rows.find? found
    rw [List.find?_map]
    have sameRows : ∀ other ∈ table.rows, (found ∘ Update.onRow
        (⟨fun stored => decide (key stored = key row), merge, keeps⟩ : Update Row key)) other
          = found other := by
      intro other mem
      rw [Function.comp_apply]
      by_cases isRow : key other = key row
      · obtain ⟨pre, post⟩ := skipsStored other (find_iff.mpr ⟨mem, isRow⟩)
        rw [Update.onRow_of_guard (by simpa using isRow), pre, post]
      · rw [Update.onRow_of_not_guard (by simpa using isRow)]
    rw [List.find?_congr sameRows]
    cases first : table.rows.find? found with
    | none => rfl
    | some other =>
      have mem := List.mem_of_find?_eq_some first
      have isRow : key other ≠ key row := by
        intro isRow
        have skipped := (skipsStored other (find_iff.mpr ⟨mem, isRow⟩)).1
        rw [List.find?_some first] at skipped
        cases skipped
      rw [Option.map_some, Update.onRow_of_not_guard (by simpa using isRow)]
  · obtain ⟨eq, _⟩ | ⟨fresh, added, _⟩ :=
      orIgnore_cases (fun _ _ => false) row table
    · rw [insert, eq]
    · rw [insert, added]
      change (table.rows ++ [row]).find? found = table.rows.find? found
      rw [List.find?_append, List.find?_cons_of_neg (by simp [skipsNew]), List.find?_nil,
        Option.or_none]

end IdleWrites

end Cfwdon.Library.Table
