import Mathlib.Data.Finset.Insert
import Mathlib.Data.Finset.Dedup

/-!
# Keeping the first element of each key

A list is filtered against a set of keys that have been seen, and the set grows by the
keys that are kept.

* `mem_seen_keepUnseen` -- afterwards the keys of the list have been seen;
* `keepUnseen_sublist` -- what is kept stays in its order.
-/

namespace Cfwdon.Library

variable {Item Key : Type*} [DecidableEq Key]

/-- Keep the elements whose key has not been seen, with the keys seen in the end. -/
def keepUnseen (key : Item → Key) (seen : Finset Key) : List Item → List Item × Finset Key
  | [] => ([], seen)
  | item :: rest =>
    if key item ∈ seen then keepUnseen key seen rest
    else
      let later := keepUnseen key (insert (key item) seen) rest
      (item :: later.1, later.2)

variable {key : Item → Key} {seen : Finset Key} {items : List Item} {k : Key}

variable {item : Item}

theorem keepUnseen_cons_seen (known : key item ∈ seen) :
    keepUnseen key seen (item :: items) = keepUnseen key seen items := by
  rw [keepUnseen, if_pos known]

theorem keepUnseen_cons_new (new : key item ∉ seen) :
    keepUnseen key seen (item :: items)
      = (item :: (keepUnseen key (insert (key item) seen) items).1,
        (keepUnseen key (insert (key item) seen) items).2) := by
  rw [keepUnseen, if_neg new]

theorem mem_seen_keepUnseen : k ∈ (keepUnseen key seen items).2 ↔ k ∈ seen ∨ k ∈ items.map key := by
  induction items generalizing seen with
  | nil => simp [keepUnseen]
  | cons item rest ih =>
    by_cases known : key item ∈ seen
    · rw [keepUnseen_cons_seen known, ih, List.map_cons, List.mem_cons]
      constructor
      · exact Or.imp_right Or.inr
      · rintro (pre | rfl | later)
        · exact Or.inl pre
        · exact Or.inl known
        · exact Or.inr later
    · rw [keepUnseen_cons_new known, ih, Finset.mem_insert, List.map_cons, List.mem_cons]
      tauto

/-- **The kept keys** are those of the list that had not been seen. -/
theorem mem_keys_keepUnseen :
    k ∈ (keepUnseen key seen items).1.map key ↔ k ∉ seen ∧ k ∈ items.map key := by
  induction items generalizing seen with
  | nil => simp [keepUnseen]
  | cons item rest ih =>
    by_cases known : key item ∈ seen
    · rw [keepUnseen_cons_seen known, ih, List.map_cons, List.mem_cons]
      constructor
      · exact And.imp_right Or.inr
      · rintro ⟨new, rfl | later⟩
        · exact absurd known new
        · exact ⟨new, later⟩
    · rw [keepUnseen_cons_new known, List.map_cons, List.mem_cons, ih,
        Finset.mem_insert, List.map_cons, List.mem_cons, not_or]
      by_cases eq : k = key item
      · simp [eq, known]
      · simp [eq]

theorem keepUnseen_sublist : (keepUnseen key seen items).1.Sublist items := by
  induction items generalizing seen with
  | nil => exact List.Sublist.refl _
  | cons first rest ih =>
    by_cases known : key first ∈ seen
    · rw [keepUnseen_cons_seen known]
      exact ih.cons first
    · rw [keepUnseen_cons_new known]
      exact ih.cons_cons first

theorem mem_of_mem_keepUnseen (kept : item ∈ (keepUnseen key seen items).1) : item ∈ items :=
  keepUnseen_sublist.subset kept

theorem keepUnseen_eq_self (nodup : (items.map key).Nodup)
    (new : ∀ item ∈ items, key item ∉ seen) : (keepUnseen key seen items).1 = items := by
  induction items generalizing seen with
  | nil => rfl
  | cons item rest ih =>
    rw [List.map_cons, List.nodup_cons] at nodup
    rw [keepUnseen_cons_new (new item List.mem_cons_self), ih nodup.2]
    intro other mem known
    rcases Finset.mem_insert.mp known with eq | pre
    · exact nodup.1 (eq ▸ List.mem_map_of_mem mem)
    · exact new other (List.mem_cons_of_mem _ mem) pre

/-- **No key is kept twice.** -/
theorem keys_keepUnseen_nodup : ((keepUnseen key seen items).1.map key).Nodup := by
  induction items generalizing seen with
  | nil => exact List.nodup_nil
  | cons item rest ih =>
    by_cases known : key item ∈ seen
    · rw [keepUnseen_cons_seen known]
      exact ih
    · rw [keepUnseen_cons_new known, List.map_cons, List.nodup_cons, mem_keys_keepUnseen]
      exact ⟨fun kept => kept.1 (Finset.mem_insert_self _ _), ih⟩

/-! ## How much is unseen -/

/-- The number of elements whose key has not been seen. -/
def unseenCount (key : Item → Key) (items : List Item) (seen : Finset Key) : Nat :=
  (items.filter fun item => decide (key item ∉ seen)).length

variable {later : Finset Key}

theorem unseen_sublist (grows : seen ⊆ later) :
    (items.filter fun item => decide (key item ∉ later)).Sublist
      (items.filter fun item => decide (key item ∉ seen)) := by
  refine List.monotone_filter_right items ?_
  intro item unseen
  simp only [decide_eq_true_eq] at unseen ⊢
  exact fun known => unseen (grows known)

theorem unseenCount_le_length : unseenCount key items seen ≤ items.length :=
  List.length_filter_le ..

theorem unseenCount_le (grows : seen ⊆ later) :
    unseenCount key items later ≤ unseenCount key items seen :=
  (unseen_sublist grows).length_le

/-- **Seeing a new element leaves less unseen.** -/
theorem unseenCount_lt (grows : seen ⊆ later) (mem : item ∈ items)
    (new : key item ∉ seen) (known : key item ∈ later) :
    unseenCount key items later < unseenCount key items seen := by
  refine Nat.lt_of_le_of_ne (unseenCount_le grows) fun eq => ?_
  have equal := (unseen_sublist grows).eq_of_length eq
  have unseen : item ∈ items.filter fun item => decide (key item ∉ seen) :=
    List.mem_filter.mpr ⟨mem, by simpa using new⟩
  rw [← equal] at unseen
  have stillUnseen := (List.mem_filter.mp unseen).2
  simp only [decide_eq_true_eq] at stillUnseen
  exact stillUnseen known

end Cfwdon.Library
