import Mathlib.Data.List.Basic

/-!
# Lists cut into chunks, measured and grown without repetition

List operations of the standard iterators: cutting a list into consecutive
chunks of a bounded size, adding up a measure, and pushing the values of a second
list that the first does not hold yet.

* `mem_pushMissing` -- pushing missing values adds exactly the pushed values;
* `nodup_pushMissing` -- and repeats none;
* `length_keepLast` -- keeping the last elements keeps at most so many;
* `length_eq_one_of_one_key` -- distinct keys that are all one are one key;
* `filter_dropHits` -- dropping a list up to a number of hits drops these hits;
* `exists_split_dropHits` -- the last element that is dropped is the last of these hits.
-/

namespace Cfwdon.Library

variable {α : Type*}

/-- Cut off chunks of the given size, at most `fuel` of them. -/
def chunksUpTo (size : Nat) : Nat → List α → List (List α)
  | 0, _ => []
  | _ + 1, [] => []
  | fuel + 1, x :: xs => (x :: xs).take size :: chunksUpTo size fuel ((x :: xs).drop size)

/-- Consecutive chunks of the given size, the last one possibly shorter. -/
def chunks (size : Nat) (xs : List α) : List (List α) :=
  chunksUpTo size xs.length xs

variable {size : Nat} {prior later : List α} {xs : List α} {β : Type*} {holds : α → Bool} {x : α}
  {n : Nat} {existing additions : List α}

theorem flatten_chunksUpTo (pos : 0 < size) :
    ∀ (fuel : Nat) (xs : List α), xs.length ≤ fuel → (chunksUpTo size fuel xs).flatten = xs := by
  intro fuel
  induction fuel with
  | zero =>
    intro xs short
    have empty : xs = [] := List.length_eq_zero_iff.mp (Nat.le_zero.mp short)
    rw [empty]
    rfl
  | succ fuel ih =>
    intro xs short
    cases xs with
    | nil => rfl
    | cons x xs =>
      have shorter : ((x :: xs).drop size).length ≤ fuel := by
        rw [List.length_drop]
        simp only [List.length_cons] at short ⊢
        omega
      rw [chunksUpTo, List.flatten_cons, ih _ shorter, List.take_append_drop]

/-- **The chunks put together are the list.** -/
theorem flatten_chunks (pos : 0 < size) (xs : List α) : (chunks size xs).flatten = xs :=
  flatten_chunksUpTo pos xs.length xs (Nat.le_refl _)

theorem mem_of_mem_taken_out {taken x : α}
    (mem : x ∈ prior ++ later) : x ∈ prior ++ taken :: later := by
  rcases List.mem_append.mp mem with pre | post
  · exact List.mem_append_left _ pre
  · exact List.mem_append_right _ (List.mem_cons_of_mem _ post)

theorem eq_or_mem_of_mem_replaced {new x : α} (old : α)
    (mem : x ∈ prior ++ new :: later) : x = new ∨ x ∈ prior ++ old :: later := by
  rcases List.mem_append.mp mem with pre | here
  · exact Or.inr (List.mem_append_left _ pre)
  · rcases List.mem_cons.mp here with isNew | post
    · exact Or.inl isNew
    · exact Or.inr (List.mem_append_right _ (List.mem_cons_of_mem _ post))

def total (measure : α → Nat) : List α → Nat
  | [] => 0
  | x :: xs => measure x + total measure xs

variable (measure : α → Nat) (limit : Nat)

theorem total_cons (x : α) (xs : List α) :
    total measure (x :: xs) = measure x + total measure xs := rfl

theorem total_append (xs ys : List α) :
    total measure (xs ++ ys) = total measure xs + total measure ys := by
  induction xs with
  | nil => rw [List.nil_append, total, Nat.zero_add]
  | cons x xs ih =>
    rw [List.cons_append, total_cons, total_cons, ih, Nat.add_assoc]

theorem total_eq_zero {measure : α → Nat} (zero : ∀ x ∈ xs, measure x = 0) :
    total measure xs = 0 := by
  induction xs with
  | nil => rfl
  | cons x xs ih =>
    have rest := ih fun y mem => zero y (List.mem_cons_of_mem _ mem)
    rw [total_cons, zero x (List.mem_cons_self ..), rest]

theorem findSome?_eq_of_forall {first second : α → Option β}
    (eq : ∀ x ∈ xs, first x = second x) : xs.findSome? first = xs.findSome? second := by
  induction xs with
  | nil => rfl
  | cons x rest ih =>
    rw [List.forall_mem_cons] at eq
    rw [List.findSome?_cons, List.findSome?_cons, eq.1, ih eq.2]

theorem length_le_one_of_forall_eq {x : Option α} (nodup : xs.Nodup)
    (single : ∀ y ∈ xs, x = some y) : xs.length ≤ 1 := by
  match xs with
  | [] => exact Nat.zero_le 1
  | [_] => exact Nat.le_refl 1
  | y :: z :: rest =>
    have first := single y List.mem_cons_self
    have second := single z (List.mem_cons_of_mem _ List.mem_cons_self)
    have eq : y = z := Option.some.inj (first.symm.trans second)
    rw [eq] at nodup
    exact absurd List.mem_cons_self (List.nodup_cons.mp nodup).1

theorem length_eq_one_of_one_key {key : α → β} {k : β}
    (nodup : (xs.map key).Nodup) (one : ∀ x ∈ xs, key x = k) (occurs : k ∈ xs.map key) :
    xs.length = 1 := by
  have single : ∀ y ∈ xs.map key, some k = some y := by
    intro y mem
    obtain ⟨x, listed, rfl⟩ := List.mem_map.mp mem
    rw [one x listed]
  have most := length_le_one_of_forall_eq nodup single
  have here := List.length_pos_of_mem occurs
  rw [List.length_map] at most here
  omega

/-- When as many elements with wanted keys have a property as keys are wanted, and keys are
distinct, all of these elements have it. -/
theorem holds_of_length_filter [DecidableEq β] {key : α → β} {keys : List β}
    (nodup : (xs.map key).Nodup)
    (enough : keys.length ≤ (xs.filter fun x => decide (key x ∈ keys) && holds x).length)
    (mem : x ∈ xs) (wanted : key x ∈ keys) : holds x = true := by
  have nested : (xs.filter fun x => decide (key x ∈ keys) && holds x)
      = (xs.filter fun x => decide (key x ∈ keys)).filter holds := by
    rw [List.filter_filter]
    exact List.filter_congr fun x _ => Bool.and_comm ..
  have keysOfWanted : ((xs.filter fun x => decide (key x ∈ keys)).map key) ⊆ keys := by
    intro k listed
    obtain ⟨y, kept, rfl⟩ := List.mem_map.mp listed
    simpa using List.of_mem_filter kept
  have most : (xs.filter fun x => decide (key x ∈ keys)).length ≤ keys.length := by
    have bound := ((List.filter_sublist.map key).nodup nodup).length_le_of_subset keysOfWanted
    rwa [List.length_map] at bound
  have whole : ((xs.filter fun x => decide (key x ∈ keys)).filter holds).length
      = (xs.filter fun x => decide (key x ∈ keys)).length := by
    refine Nat.le_antisymm (List.length_filter_le _ _) ?_
    rw [← nested]
    exact Nat.le_trans most enough
  have kept : x ∈ xs.filter fun x => decide (key x ∈ keys) :=
    List.mem_filter.mpr ⟨mem, by simpa using wanted⟩
  exact List.length_filter_eq_length_iff.mp whole x kept

theorem take_filterMap_of_isSome {f : α → Option β} {rows : List α}
    (defined : ∀ row ∈ rows, (f row).isSome = true) (n : Nat) :
    (rows.filterMap f).take n = (rows.take n).filterMap f := by
  induction rows generalizing n with
  | nil => simp
  | cons row rest ih =>
    obtain ⟨value, value_eq⟩ := Option.isSome_iff_exists.mp (defined row List.mem_cons_self)
    cases n with
    | zero => simp
    | succ n =>
      rw [List.filterMap_cons_some value_eq, List.take_succ_cons, List.take_succ_cons,
        List.filterMap_cons_some value_eq,
        ih fun later mem => defined later (List.mem_cons_of_mem _ mem)]

def keepLast (limit : Nat) (xs : List α) : List α := xs.drop (xs.length - limit)

theorem keepLast_sublist (xs : List α) : (keepLast limit xs).Sublist xs :=
  List.drop_sublist ..

theorem length_keepLast (xs : List α) : (keepLast limit xs).length ≤ limit := by
  rw [keepLast, List.length_drop]
  omega

/-! ## Elements with a property -/

/-- Drop a list up to and including a number of elements with a property. -/
def dropHits (holds : α → Bool) : Nat → List α → List α
  | 0, xs => xs
  | _ + 1, [] => []
  | n + 1, x :: xs => if holds x then dropHits holds n xs else dropHits holds (n + 1) xs

@[simp] theorem dropHits_zero (holds : α → Bool) (xs : List α) : dropHits holds 0 xs = xs := by
  rw [dropHits]

theorem dropHits_cons_of_hit
    (hit : holds x = true) : dropHits holds (n + 1) (x :: xs) = dropHits holds n xs := by
  rw [dropHits, if_pos hit]

theorem dropHits_cons_of_miss
    (miss : ¬ holds x = true) :
    dropHits holds (n + 1) (x :: xs) = dropHits holds (n + 1) xs := by
  rw [dropHits, if_neg miss]

theorem filter_dropHits (holds : α → Bool) (n : Nat) (xs : List α) :
    (dropHits holds n xs).filter holds = (xs.filter holds).drop n := by
  induction xs generalizing n with
  | nil => cases n <;> rfl
  | cons x xs ih =>
    cases n with
    | zero => simp
    | succ n =>
      by_cases hit : holds x = true
      · rw [dropHits_cons_of_hit hit, ih, List.filter_cons_of_pos hit, List.drop_succ_cons]
      · rw [dropHits_cons_of_miss hit, ih, List.filter_cons_of_neg hit]

theorem dropHits_add (holds : α → Bool) (first second : Nat) (xs : List α) :
    dropHits holds (first + second) xs = dropHits holds second (dropHits holds first xs) := by
  induction xs generalizing first with
  | nil => cases first <;> cases second <;> rfl
  | cons x xs ih =>
    cases first with
    | zero => simp
    | succ first =>
      by_cases hit : holds x = true
      · rw [Nat.succ_add, dropHits_cons_of_hit hit, dropHits_cons_of_hit hit, ih]
      · rw [dropHits_cons_of_miss hit, ← ih, Nat.succ_add, dropHits_cons_of_miss hit]

theorem exists_split_dropHits (pos : 0 < n)
    (enough : n ≤ (xs.filter holds).length) :
    ∃ front x, xs = front ++ x :: dropHits holds n xs
      ∧ ((xs.filter holds).take n).getLast? = some x := by
  induction xs generalizing n with
  | nil => exact absurd enough (Nat.not_le.mpr pos)
  | cons first rest ih =>
    obtain ⟨n, rfl⟩ := Nat.exists_eq_succ_of_ne_zero (Nat.ne_of_gt pos)
    by_cases hit : holds first = true
    · rw [List.filter_cons_of_pos hit, List.length_cons] at enough
      rw [dropHits_cons_of_hit hit, List.filter_cons_of_pos hit, List.take_succ_cons]
      rcases Nat.eq_zero_or_pos n with rfl | more
      · exact ⟨[], first, by simp, rfl⟩
      · obtain ⟨front, x, split, last⟩ :=
          ih more (Nat.le_of_succ_le_succ enough)
        refine ⟨first :: front, x, by rw [List.cons_append, ← split], ?_⟩
        rw [List.getLast?_cons, last]
        rfl
    · rw [List.filter_cons_of_neg hit] at enough
      rw [dropHits_cons_of_miss hit, List.filter_cons_of_neg hit]
      obtain ⟨front, x, split, last⟩ := ih pos enough
      exact ⟨first :: front, x, by rw [List.cons_append, ← split], last⟩

/-! ## Pushing -/

variable [DecidableEq α]

/-- Push each value the list does not hold yet. -/
def pushMissing (existing additions : List α) : List α :=
  additions.foldl (fun current x => if x ∈ current then current else current ++ [x]) existing

theorem mem_pushMissing : x ∈ pushMissing existing additions ↔ x ∈ existing ∨ x ∈ additions := by
  induction additions generalizing existing with
  | nil => simp [pushMissing]
  | cons y rest ih =>
    have unfolded : pushMissing existing (y :: rest)
        = pushMissing (if y ∈ existing then existing else existing ++ [y]) rest := rfl
    rw [unfolded, ih]
    by_cases held : y ∈ existing
    · rw [if_pos held, List.mem_cons]
      constructor
      · rintro (old | later)
        · exact Or.inl old
        · exact Or.inr (Or.inr later)
      · rintro (old | rfl | later)
        · exact Or.inl old
        · exact Or.inl held
        · exact Or.inr later
    · rw [if_neg held, List.mem_append, List.mem_singleton, List.mem_cons, or_assoc]

theorem nodup_pushMissing (nodup : existing.Nodup) : (pushMissing existing additions).Nodup := by
  induction additions generalizing existing with
  | nil => exact nodup
  | cons x rest ih =>
    have unfolded : pushMissing existing (x :: rest)
        = pushMissing (if x ∈ existing then existing else existing ++ [x]) rest := rfl
    rw [unfolded]
    apply ih
    split_ifs with held
    · exact nodup
    · exact List.nodup_append.mpr ⟨nodup, List.pairwise_singleton _ x, by
        rintro y old z new rfl
        rw [List.mem_singleton] at new
        exact held (new ▸ old)⟩

/-- An element that some of the parts hold once, and the others not, is counted once for each
of these parts. -/
theorem count_flatMap_of_indicator [DecidableEq β] {parts : α → List β}
    {y : β}
    (indicates : ∀ x ∈ xs, (parts x).count y = if holds x then 1 else 0) :
    (xs.flatMap parts).count y = xs.countP holds := by
  induction xs with
  | nil => rfl
  | cons x xs ih =>
    have rest := ih fun other mem =>
      indicates other (List.mem_cons_of_mem x mem)
    rw [List.flatMap_cons, List.count_append, rest, indicates x (List.mem_cons_self ..),
      List.countP_cons, Nat.add_comm]

section Normalized

variable {α : Type*} {f : α → α} {keep : α → Bool}

/-- **Normalizing twice** is normalizing once. -/
theorem normalized_list (idem : ∀ x, f (f x) = f x) (xs : List α) :
    (((xs.map f).filter keep).map f).filter keep = (xs.map f).filter keep := by
  have fixed : ∀ x ∈ (xs.map f).filter keep, f x = x := by
    intro x mem
    obtain ⟨y, _, rfl⟩ := List.mem_map.mp (List.mem_filter.mp mem).1
    exact idem y
  rw [List.map_congr_left fixed, List.map_id', List.filter_filter]
  simp

theorem normalized_option (idem : ∀ x, f (f x) = f x) (x : Option α) :
    (((x.map f).filter keep).map f).filter keep = (x.map f).filter keep := by
  cases x with
  | none => rfl
  | some x => cases kept : keep (f x) <;> simp [Option.filter_some, kept, idem]

end Normalized

end Cfwdon.Library
