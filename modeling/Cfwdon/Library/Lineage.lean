import Mathlib.Data.List.Nodup
import Mathlib.Logic.Relation

/-!
# Ancestors along a parent function

Every element of a type has a parent or none.  `ancestor parent k x` is what `k` steps up
from `x` lead to, and `lineage parent n x` lists the first `n` ancestors of `x`.
-/

namespace Cfwdon.Library

variable {α : Type*}

/-- What some steps up lead to. -/
def ancestor (parent : α → Option α) : Nat → α → Option α
  | 0, x => some x
  | k + 1, x => (ancestor parent k x).bind parent

/-- The first ancestors, the parent first. -/
def lineage (parent : α → Option α) : Nat → α → List α
  | 0, _ => []
  | n + 1, x =>
    match parent x with
    | none => []
    | some y => y :: lineage parent n y

/-- No element is an ancestor of itself. -/
def Acyclic (parent : α → Option α) : Prop :=
  ∀ k x, ancestor parent (k + 1) x ≠ some x

variable {parent : α → Option α} {x y z : α} {j k n : Nat}

@[simp] theorem ancestor_zero : ancestor parent 0 x = some x := rfl

theorem ancestor_succ : ancestor parent (k + 1) x = (ancestor parent k x).bind parent := rfl

@[simp] theorem ancestor_one : ancestor parent 1 x = parent x := rfl

theorem ancestor_add (j k : Nat) (x : α) :
    ancestor parent (j + k) x = (ancestor parent j x).bind (ancestor parent k) := by
  induction k with
  | zero => simp [ancestor]
  | succ k ih =>
    rw [← Nat.add_assoc, ancestor_succ, ih, Option.bind_assoc]
    rfl

theorem ancestor_succ' (k : Nat) (x : α) :
    ancestor parent (k + 1) x = (parent x).bind (ancestor parent k) := by
  rw [Nat.add_comm, ancestor_add, ancestor_one]

theorem ancestor_isSome_of_le (got : (ancestor parent k x).isSome = true) (lower : j ≤ k) :
    (ancestor parent j x).isSome = true := by
  obtain ⟨d, rfl⟩ := Nat.exists_eq_add_of_le lower
  rw [ancestor_add] at got
  cases reach : ancestor parent j x with
  | none => simp [reach] at got
  | some y => rfl

theorem transGen_iff :
    Relation.TransGen (fun x y => parent x = some y) x y
      ↔ ∃ k, ancestor parent (k + 1) x = some y := by
  constructor
  · intro chain
    induction chain with
    | single step => exact ⟨0, step⟩
    | tail _ step ih =>
      obtain ⟨k, reach⟩ := ih
      exact ⟨k + 1, by rw [ancestor_succ, reach]; exact step⟩
  · rintro ⟨k, reach⟩
    induction k generalizing y with
    | zero => exact Relation.TransGen.single reach
    | succ k ih =>
      rw [ancestor_succ] at reach
      obtain ⟨z, lower, step⟩ := Option.bind_eq_some_iff.mp reach
      exact Relation.TransGen.tail (ih lower) step

/-- **Without cycles an ancestor stands at one height.** -/
theorem ancestor_injective (acyclic : Acyclic parent) (first : ancestor parent j x = some y)
    (second : ancestor parent k x = some y) : j = k := by
  rcases Nat.lt_trichotomy j k with less | eq | more
  · obtain ⟨d, rfl⟩ := Nat.exists_eq_add_of_lt less
    rw [Nat.add_assoc, ancestor_add, first] at second
    exact absurd second (acyclic d y)
  · exact eq
  · obtain ⟨d, rfl⟩ := Nat.exists_eq_add_of_lt more
    rw [Nat.add_assoc, ancestor_add, second] at first
    exact absurd first (acyclic d y)

/-- **A cycle never ends**: if an ancestor comes again, there are ancestors at every height. -/
theorem ancestor_isSome_of_repeat (first : ancestor parent j x = some y)
    (again : ancestor parent k x = some y) (later : j < k) (n : Nat) :
    (ancestor parent n x).isSome = true := by
  obtain ⟨d, rfl⟩ := Nat.exists_eq_add_of_lt later
  rw [Nat.add_assoc, ancestor_add, first] at again
  have around (i : Nat) : ancestor parent (i * (d + 1)) y = some y := by
    induction i with
    | zero => rw [Nat.zero_mul, ancestor_zero]
    | succ i ih =>
      rw [Nat.succ_mul, ancestor_add, ih]
      exact again
  have high : (ancestor parent (j + n * (d + 1)) x).isSome = true := by
    rw [ancestor_add, first, Option.bind_some, around]
    rfl
  refine ancestor_isSome_of_le high ?_
  have enough : n * 1 ≤ n * (d + 1) := Nat.mul_le_mul_left n (Nat.succ_pos d)
  omega

/-! ## The list of the ancestors -/

theorem lineage_of_parent (step : parent x = some y) :
    lineage parent (n + 1) x = y :: lineage parent n y := by
  simp [lineage, step]

theorem lineage_of_root (root : parent x = none) : lineage parent n x = [] := by
  cases n <;> simp [lineage, root]

theorem mem_lineage_iff : y ∈ lineage parent n x ↔ ∃ k < n, ancestor parent (k + 1) x = some y := by
  induction n generalizing x with
  | zero => simp [lineage]
  | succ n ih =>
    cases step : parent x with
    | none =>
      rw [lineage_of_root step]
      simp [ancestor_succ', step]
    | some z =>
      rw [lineage_of_parent step, List.mem_cons, ih]
      simp only [ancestor_succ' _ x, step, Option.bind_some]
      constructor
      · rintro (rfl | ⟨k, less, reach⟩)
        · exact ⟨0, Nat.succ_pos n, rfl⟩
        · exact ⟨k + 1, Nat.succ_lt_succ less, reach⟩
      · rintro ⟨k, less, reach⟩
        cases k with
        | zero => exact Or.inl (Option.some.inj reach).symm
        | succ k => exact Or.inr ⟨k, Nat.lt_of_succ_lt_succ less, reach⟩

theorem lineage_nodup (acyclic : Acyclic parent) : (lineage parent n x).Nodup := by
  induction n generalizing x with
  | zero => exact List.nodup_nil
  | succ n ih =>
    cases step : parent x with
    | none =>
      rw [lineage_of_root step]
      exact List.nodup_nil
    | some y =>
      rw [lineage_of_parent step]
      refine List.nodup_cons.mpr ⟨?_, ih⟩
      intro mem
      obtain ⟨k, _, reach⟩ := mem_lineage_iff.mp mem
      exact acyclic k y reach

theorem length_lineage (got : (ancestor parent n x).isSome = true) :
    (lineage parent n x).length = n := by
  induction n generalizing x with
  | zero => rfl
  | succ n ih =>
    rw [ancestor_succ'] at got
    cases step : parent x with
    | none => simp [step] at got
    | some y =>
      rw [step, Option.bind_some] at got
      rw [lineage_of_parent step, List.length_cons, ih got]

theorem lineage_snoc (reach : ancestor parent n x = some y) (step : parent y = some z) :
    lineage parent (n + 1) x = lineage parent n x ++ [z] := by
  induction n generalizing x with
  | zero =>
    obtain rfl := Option.some.inj reach
    rw [lineage_of_parent step]
    rfl
  | succ n ih =>
    rw [ancestor_succ'] at reach
    obtain ⟨w, first, rest⟩ := Option.bind_eq_some_iff.mp reach
    rw [lineage_of_parent first, lineage_of_parent first, ih rest, List.cons_append]

end Cfwdon.Library
