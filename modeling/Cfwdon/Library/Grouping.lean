import Cfwdon.Library.Lists
import Mathlib.Data.List.Induction
import Mathlib.Data.List.Nodup
import Mathlib.Logic.Function.Basic

/-!
# Grouping by a key

The elements of a list are put into a map from keys to groups, one after another, and the
keys are noted in the order they first occur in.
-/

namespace Cfwdon.Library

variable {Key α : Type*} [DecidableEq Key]

structure Grouping (Key α : Type*) where
  order : List Key
  members : Key → List α

namespace Grouping

def empty : Grouping Key α := ⟨[], fun _ => []⟩

def push (key : α → Key) (grouping : Grouping Key α) (x : α) : Grouping Key α where
  order :=
    if (grouping.members (key x)).isEmpty then grouping.order ++ [key x] else grouping.order
  members := Function.update grouping.members (key x) (grouping.members (key x) ++ [x])

def groups (grouping : Grouping Key α) : List (Key × List α) :=
  grouping.order.map fun key => (key, grouping.members key)

end Grouping

def grouped (key : α → Key) (xs : List α) : Grouping Key α :=
  xs.foldl (Grouping.push key) .empty

variable {key : α → Key} {xs : List α}

theorem grouped_concat (xs : List α) (x : α) :
    grouped key (xs ++ [x]) = (grouped key xs).push key x := by
  rw [grouped, List.foldl_append]
  rfl

/-- **The group of a key** is the elements with the key, in order. -/
theorem members_grouped (k : Key) : (grouped key xs).members k = xs.filter fun x => key x = k := by
  induction xs using List.reverseRecOn with
  | nil => rfl
  | append_singleton xs x ih =>
    rw [grouped_concat, Grouping.push, List.filter_append]
    dsimp only
    by_cases eq : key x = k
    · rw [← eq, Function.update_self, eq, ih,
        List.filter_cons_of_pos (by simpa using eq), List.filter_nil]
    · rw [Function.update_of_ne (Ne.symm eq), ih,
        List.filter_cons_of_neg (by simpa using eq), List.filter_nil, List.append_nil]

/-- **The keys in the order they first occur in.** -/
theorem order_grouped : (grouped key xs).order = pushMissing [] (xs.map key) := by
  induction xs using List.reverseRecOn with
  | nil => rfl
  | append_singleton xs x ih =>
    have fresh : ((grouped key xs).members (key x)).isEmpty = true
        ↔ key x ∉ pushMissing [] (xs.map key) := by
      rw [List.isEmpty_iff, members_grouped, List.filter_eq_nil_iff, mem_pushMissing, List.mem_map]
      simp
    have last : pushMissing [] ((xs ++ [x]).map key)
        = if key x ∈ pushMissing [] (xs.map key) then pushMissing [] (xs.map key)
          else pushMissing [] (xs.map key) ++ [key x] := by
      rw [List.map_append, pushMissing, List.foldl_append]
      rfl
    rw [grouped_concat, Grouping.push, last, ih]
    by_cases known : key x ∈ pushMissing [] (xs.map key)
    · rw [if_pos known, if_neg (fun none => fresh.mp none known)]
    · rw [if_neg known, if_pos (fresh.mpr known)]

theorem nodup_order_grouped : (grouped key xs).order.Nodup := by
  rw [order_grouped]
  exact nodup_pushMissing List.nodup_nil

theorem mem_order_grouped {k : Key} : k ∈ (grouped key xs).order ↔ ∃ x ∈ xs, key x = k := by
  rw [order_grouped, mem_pushMissing, List.mem_map]
  simp

theorem mem_groups_iff {k : Key} {members : List α} :
    (k, members) ∈ (grouped key xs).groups
      ↔ (∃ x ∈ xs, key x = k) ∧ members = xs.filter fun x => key x = k := by
  rw [Grouping.groups, List.mem_map]
  constructor
  · rintro ⟨k, known, eq⟩
    obtain ⟨rfl, rfl⟩ := Prod.mk.inj eq
    exact ⟨mem_order_grouped.mp known, members_grouped k⟩
  · rintro ⟨known, rfl⟩
    exact ⟨k, mem_order_grouped.mpr known, by rw [members_grouped]⟩

theorem map_fst_groups : (grouped key xs).groups.map Prod.fst = (grouped key xs).order := by
  rw [Grouping.groups, List.map_map]
  exact List.map_id _

theorem perm_flatMap_update {order : List Key} (nodup : order.Nodup) {k : Key}
    (known : k ∈ order) (members : Key → List α) (x : α) :
    (order.flatMap (Function.update members k (members k ++ [x]))).Perm
      (order.flatMap members ++ [x]) := by
  obtain ⟨front, back, rfl⟩ := List.append_of_mem known
  have apart := List.nodup_middle.mp nodup
  rw [List.nodup_cons, List.mem_append, not_or] at apart
  have others {keys : List Key} (absent : k ∉ keys) :
      keys.flatMap (Function.update members k (members k ++ [x])) = keys.flatMap members :=
    List.flatMap_congr fun other mem =>
      Function.update_of_ne (ne_of_mem_of_not_mem mem absent) _ _
  rw [List.flatMap_append, List.flatMap_cons, List.flatMap_append, List.flatMap_cons,
    others apart.1.1, others apart.1.2, Function.update_self]
  simp only [List.append_assoc]
  have moved : ([x] ++ back.flatMap members).Perm (back.flatMap members ++ [x]) :=
    List.perm_append_comm
  exact (moved.append_left _).append_left _

/-- **The groups together are the list.** -/
theorem perm_flatten_groups : ((grouped key xs).groups.flatMap Prod.snd).Perm xs := by
  have flat (grouping : Grouping Key α) :
      grouping.groups.flatMap Prod.snd = grouping.order.flatMap grouping.members := by
    rw [Grouping.groups, List.flatMap_map]
  rw [flat]
  induction xs using List.reverseRecOn with
  | nil => exact List.Perm.nil
  | append_singleton xs x ih =>
    rw [grouped_concat, Grouping.push]
    dsimp only
    split_ifs with fresh
    · have absent : key x ∉ (grouped key xs).order := by
        intro known
        obtain ⟨y, mem, eq⟩ := mem_order_grouped.mp known
        rw [List.isEmpty_iff, members_grouped, List.filter_eq_nil_iff] at fresh
        exact fresh y mem (decide_eq_true eq)
      have others : (grouped key xs).order.flatMap (Function.update (grouped key xs).members
          (key x) ((grouped key xs).members (key x) ++ [x]))
            = (grouped key xs).order.flatMap (grouped key xs).members :=
        List.flatMap_congr fun other mem =>
          Function.update_of_ne (ne_of_mem_of_not_mem mem absent) _ _
      rw [List.flatMap_append, others, List.flatMap_singleton, Function.update_self,
        List.isEmpty_iff.mp fresh, List.nil_append]
      exact ih.append_right _
    · have known : key x ∈ (grouped key xs).order := by
        rw [List.isEmpty_iff, members_grouped, List.filter_eq_nil_iff] at fresh
        push Not at fresh
        obtain ⟨y, mem, eq⟩ := fresh
        exact mem_order_grouped.mpr ⟨y, mem, of_decide_eq_true eq⟩
      exact (perm_flatMap_update nodup_order_grouped known _ x).trans (ih.append_right _)

end Cfwdon.Library
