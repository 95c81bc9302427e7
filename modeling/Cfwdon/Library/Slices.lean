import Mathlib.Algebra.GroupWithZero.Nat
import Mathlib.Data.Finset.Dedup
import Mathlib.Data.Finset.Max
import Mathlib.Data.List.Nodup
import Mathlib.Data.List.Sort

/-!
# First elements, and pages cut from them

The first elements of a set by a key, and the pages of a listing that draws more of them for
each page.
-/

namespace Cfwdon.Library

section Slices

/-! ## The first elements of a set

The first `n` elements of a finite set, in the order of a key, are those that fewer than
`n` elements come before.  Where a set is put together from parts, each part may be cut to
its first `n` elements without losing one of the first `n` of the whole.

* `toFinset_take` -- of a list without duplicates, they are the first elements.
-/

variable {Item Key : Type*} [LinearOrder Key] (key : Item → Key)

/-- The elements of a set that fewer than `n` come before. -/
def firstOf (n : Nat) (items : Finset Item) : Finset Item :=
  items.filter fun item => (items.filter fun other => key other < key item).card < n

variable {key} {n : Nat} {items part : Finset Item} {item : Item}

theorem mem_firstOf : item ∈ firstOf key n items
    ↔ item ∈ items ∧ (items.filter fun other => key other < key item).card < n :=
  Finset.mem_filter

theorem firstOf_subset : firstOf key n items ⊆ items := Finset.filter_subset _ _

section

variable [DecidableEq Item]

/-- Among `n` elements there are `n` first ones. -/
theorem le_card_firstOf (enough : n ≤ items.card) : n ≤ (firstOf key n items).card := by
  by_contra few
  have later : (items \ firstOf key n items).Nonempty := by
    rw [Finset.nonempty_iff_ne_empty]
    intro none
    have all := Finset.card_le_card (Finset.sdiff_eq_empty_iff_subset.mp none)
    omega
  obtain ⟨least, mem, first⟩ := Finset.exists_min_image _ key later
  obtain ⟨held, beyond⟩ := Finset.mem_sdiff.mp mem
  -- whatever comes before the least of the others is a first element
  have pre : (items.filter fun other => key other < key least) ⊆ firstOf key n items := by
    intro other prior
    obtain ⟨otherHeld, less⟩ := Finset.mem_filter.mp prior
    by_contra otherBeyond
    exact absurd (first other (Finset.mem_sdiff.mpr ⟨otherHeld, otherBeyond⟩)) (not_le.mpr less)
  have fewer := Finset.card_le_card pre
  exact beyond (mem_firstOf.mpr ⟨held, by omega⟩)

/-- **A subset that holds the first elements of the whole has them as its first ones.** -/
theorem firstOf_of_subset (subset : part ⊆ items) (holds : firstOf key n items ⊆ part) :
    firstOf key n part = firstOf key n items := by
  ext item
  rw [mem_firstOf, mem_firstOf]
  constructor
  · rintro ⟨mem, few⟩
    refine ⟨subset mem, ?_⟩
    by_contra many
    -- the first `n` of what comes before the item in the whole
    have enough : n ≤ (firstOf key n (items.filter fun other => key other < key item)).card :=
      le_card_firstOf (not_lt.mp many)
    refine absurd (enough.trans (Finset.card_le_card fun other first => ?_)) (not_le.mpr few)
    obtain ⟨prior, fewBefore⟩ := mem_firstOf.mp first
    obtain ⟨held, less⟩ := Finset.mem_filter.mp prior
    refine Finset.mem_filter.mpr ⟨holds (mem_firstOf.mpr ⟨held, ?_⟩), less⟩
    refine lt_of_le_of_lt (Finset.card_le_card fun third pre => ?_) fewBefore
    obtain ⟨thirdStored, thirdLess⟩ := Finset.mem_filter.mp pre
    exact Finset.mem_filter.mpr
      ⟨Finset.mem_filter.mpr ⟨thirdStored, thirdLess.trans less⟩, thirdLess⟩
  · rintro ⟨mem, few⟩
    refine ⟨holds (mem_firstOf.mpr ⟨mem, few⟩), ?_⟩
    exact lt_of_le_of_lt (Finset.card_le_card (Finset.filter_subset_filter _ subset)) few

/-- A subset has the first elements of the whole exactly if it holds them. -/
theorem firstOf_eq_iff_subset (subset : part ⊆ items) :
    firstOf key n part = firstOf key n items ↔ firstOf key n items ⊆ part := by
  constructor
  · intro eq
    rw [← eq]
    exact firstOf_subset
  · exact firstOf_of_subset subset

/-- **Both parts of a union may be cut.** -/
theorem firstOf_union (first second : Finset Item) :
    firstOf key n (firstOf key n first ∪ firstOf key n second)
      = firstOf key n (first ∪ second) := by
  apply firstOf_of_subset (Finset.union_subset_union firstOf_subset firstOf_subset)
  intro item mem
  obtain ⟨held, few⟩ := mem_firstOf.mp mem
  rw [Finset.mem_union] at held ⊢
  refine held.imp (fun held => ?_) fun held => ?_
  · refine mem_firstOf.mpr ⟨held, lt_of_le_of_lt (Finset.card_le_card ?_) few⟩
    exact Finset.filter_subset_filter _ Finset.subset_union_left
  · refine mem_firstOf.mpr ⟨held, lt_of_le_of_lt (Finset.card_le_card ?_) few⟩
    exact Finset.filter_subset_filter _ Finset.subset_union_right

end

/-! ## Lists -/

variable {rows : List Item} {row : Item}

theorem countP_take {bound : Key} (sorted : rows.Pairwise fun left right => key left ≤ key right) :
    (rows.take n).countP (fun row => decide (key row < bound))
      = min n (rows.countP fun row => decide (key row < bound)) := by
  induction rows generalizing n with
  | nil => simp
  | cons first rest ih =>
    obtain ⟨least, sortedRest⟩ := List.pairwise_cons.mp sorted
    cases n with
    | zero => simp
    | succ n =>
      rw [List.take_succ_cons, List.countP_cons, List.countP_cons, ih sortedRest]
      by_cases less : key first < bound
      · simp only [less, decide_true, if_true]
        omega
      · have none : (rest.countP fun row => decide (key row < bound)) = 0 := by
          rw [List.countP_eq_zero]
          intro row mem
          simpa using (not_lt.mp less).trans (least row mem)
        simp [less, none]

/-- **The first rows of a sorted list** are those that fewer than `n` rows come before. -/
theorem mem_take_iff (sorted : rows.Pairwise fun left right => key left ≤ key right)
    (eq : ∀ other ∈ rows, key other = key row → other = row) :
    row ∈ rows.take n
      ↔ row ∈ rows ∧ rows.countP (fun other => decide (key other < key row)) < n := by
  induction rows generalizing n with
  | nil => simp
  | cons first rest ih =>
    obtain ⟨least, sortedRest⟩ := List.pairwise_cons.mp sorted
    have sameRest := fun other mem => eq other (List.mem_cons_of_mem _ mem)
    cases n with
    | zero => simp
    | succ n =>
      rw [List.take_succ_cons, List.mem_cons, List.mem_cons, List.countP_cons,
        ih sortedRest sameRest]
      by_cases less : key first < key row
      · have different : row ≠ first := by
          rintro rfl
          exact lt_irrefl _ less
        simp [less, different]
      · have none : (rest.countP fun other => decide (key other < key row)) = 0 := by
          rw [List.countP_eq_zero]
          intro other mem
          simpa using (not_lt.mp less).trans (least other mem)
        simp only [less, none, decide_false, Bool.false_eq_true, if_false]
        constructor
        · rintro (first | ⟨later, -⟩)
          · exact ⟨.inl first, n.succ_pos⟩
          · exact ⟨.inr later, n.succ_pos⟩
        · rintro ⟨first | later, -⟩
          · exact .inl first
          · -- an equal key, so the first row itself
            have equal := le_antisymm (least row later) (not_lt.mp less)
            exact .inl (eq first List.mem_cons_self equal).symm

theorem toFinset_take [DecidableEq Item]
    (sorted : rows.Pairwise fun left right => key left ≤ key right)
    (inj : ∀ row ∈ rows, ∀ other ∈ rows, key other = key row → other = row)
    (nodup : rows.Nodup) : (rows.take n).toFinset = firstOf key n rows.toFinset := by
  have count (row : Item) :
      rows.countP (fun other => decide (key other < key row))
        = (rows.toFinset.filter fun other => key other < key row).card := by
    rw [List.countP_eq_length_filter, ← List.toFinset_card_of_nodup (nodup.filter _),
      List.toFinset_filter]
    simp
  ext row
  rw [List.mem_toFinset, mem_firstOf, List.mem_toFinset, ← count]
  constructor
  · intro mem
    exact (mem_take_iff sorted (inj row (List.mem_of_mem_take mem))).mp mem
  · rintro ⟨mem, few⟩
    exact (mem_take_iff sorted (inj row mem)).mpr ⟨mem, few⟩

/-- Counts that are cut to `n` have a sum below `n` exactly if the counts have. -/
theorem sum_min_lt_iff {counts : List Nat} {bound : Nat} (le : bound ≤ n) :
    (counts.map (min n)).sum < bound ↔ counts.sum < bound := by
  induction counts generalizing bound with
  | nil => rfl
  | cons count rest ih =>
    rw [List.map_cons, List.sum_cons, List.sum_cons]
    by_cases small : count < bound
    · have cut : min n count = count := by omega
      have others : (rest.map (min n)).sum < bound - count ↔ rest.sum < bound - count :=
        ih (by omega)
      omega
    · omega

/-- **The groups of a list may be cut before they are merged**: the first rows of the cut
groups are those that fewer than `n` rows of all groups come before, also if a row occurs
twice. -/
theorem mem_take_flatMap_iff {Group : Type*} {sort : List Item → List Item}
    (perm : ∀ rows, (sort rows).Perm rows)
    (sorted : ∀ rows, (sort rows).Pairwise fun left right => key left ≤ key right)
    {groups : List Group} {rowsOf : Group → List Item}
    (eq : ∀ other ∈ groups.flatMap rowsOf, key other = key row → other = row) :
    row ∈ (sort (groups.flatMap fun group => (sort (rowsOf group)).take n)).take n
      ↔ row ∈ groups.flatMap rowsOf
        ∧ (groups.flatMap rowsOf).countP (fun other => decide (key other < key row)) < n := by
  have inGroup {group : Group} {other : Item} (mem : other ∈ (sort (rowsOf group)).take n) :
      other ∈ rowsOf group := (perm _).mem_iff.mp (List.mem_of_mem_take mem)
  have sameCut : ∀ other ∈ sort (groups.flatMap fun group => (sort (rowsOf group)).take n),
      key other = key row → other = row := by
    intro other mem
    obtain ⟨group, listed, cut⟩ := List.mem_flatMap.mp ((perm _).mem_iff.mp mem)
    exact eq other (List.mem_flatMap.mpr ⟨group, listed, inGroup cut⟩)
  have counts : (groups.flatMap fun group => (sort (rowsOf group)).take n).countP
        (fun other => decide (key other < key row)) < n
      ↔ (groups.flatMap rowsOf).countP (fun other => decide (key other < key row)) < n := by
    rw [List.countP_flatMap, List.countP_flatMap]
    have each : (List.countP (fun other => decide (key other < key row))
          ∘ fun group => (sort (rowsOf group)).take n)
        = min n ∘ (List.countP (fun other => decide (key other < key row)) ∘ rowsOf) := by
      funext group
      rw [Function.comp_apply, countP_take (sorted _), (perm _).countP_eq]
      rfl
    rw [each, ← List.map_map]
    exact sum_min_lt_iff le_rfl
  rw [mem_take_iff (sorted _) sameCut, (perm _).mem_iff, (perm _).countP_eq, counts]
  refine and_congr_left fun few => ?_
  rw [List.mem_flatMap, List.mem_flatMap]
  constructor
  · rintro ⟨group, listed, mem⟩
    exact ⟨group, listed, inGroup mem⟩
  · rintro ⟨group, listed, mem⟩
    refine ⟨group, listed, (mem_take_iff (sorted _) ?_).mpr ⟨(perm _).mem_iff.mpr mem, ?_⟩⟩
    · intro other inSorted
      exact eq other (List.mem_flatMap.mpr ⟨group, listed, (perm _).mem_iff.mp inSorted⟩)
    · rw [(perm _).countP_eq]
      obtain ⟨front, back, split⟩ := List.append_of_mem listed
      rw [split, List.flatMap_append, List.flatMap_cons, List.countP_append,
        List.countP_append] at few
      omega

end Slices

variable {index : Nat}

section WindowedPages

/-! ## Pages that are cut from growing windows

A listing draws some of its elements, ranks them by a key and cuts a page out of them; for
a later page it draws more.  Its pages are the pages of one list exactly if every element
has been drawn by the page that its place among all elements is on.
-/

section Stable

variable {Item Key Finer : Type*} [LinearOrder Key] [LinearOrder Finer]
variable {key : Item → Key} {finer : Item → Finer}

theorem orderedInsert_congr {first second : Item → Item → Prop} [DecidableRel first]
    [DecidableRel second] {item : Item} {rows : List Item}
    (eq : ∀ row ∈ rows, (first item row ↔ second item row)) :
    rows.orderedInsert first item = rows.orderedInsert second item := by
  induction rows with
  | nil => rfl
  | cons row rest ih =>
    obtain ⟨here, later⟩ := List.forall_mem_cons.mp eq
    rw [List.orderedInsert_cons, List.orderedInsert_cons, ih later]
    by_cases pre : first item row
    · rw [if_pos pre, if_pos (here.mp pre)]
    · rw [if_neg pre, if_neg (mt here.mpr pre)]

/-- **A stable sort by a key sorts by a finer key**, if the elements stand in the order of
the finer key wherever the key is the same. -/
theorem insertionSort_eq_of_ties {rows : List Item}
    (refines : ∀ row other, key row < key other → finer row ≤ finer other)
    (ties : rows.Pairwise fun row other => key row = key other → finer row ≤ finer other)
    (strict : ∀ row other, finer row ≤ finer other → key row ≤ key other) :
    rows.insertionSort (fun row other => key row ≤ key other)
      = rows.insertionSort fun row other => finer row ≤ finer other := by
  induction rows with
  | nil => rfl
  | cons row rest ih =>
    obtain ⟨here, later⟩ := List.pairwise_cons.mp ties
    rw [List.insertionSort_cons, List.insertionSort_cons, ih later]
    apply orderedInsert_congr
    intro other mem
    have follows := here other ((List.mem_insertionSort _).mp mem)
    constructor
    · intro le
      exact le.lt_or_eq.elim (refines row other) follows
    · exact strict row other

end Stable

/-! ## Places -/

variable {Item Key : Type*} [LinearOrder Key] {key : Item → Key}

/-- How many elements come before one. -/
def placeIn (key : Item → Key) (all : List Item) (item : Item) : Nat :=
  all.countP fun other => decide (key other < key item)

theorem placeIn_lt_placeIn {all : List Item} {item other : Item} (mem : item ∈ all)
    (less : key item < key other) : placeIn key all item < placeIn key all other := by
  rw [placeIn, placeIn, List.countP_eq_length_filter, List.countP_eq_length_filter]
  have sublist : (all.filter fun third => decide (key third < key item)).Sublist
      (all.filter fun third => decide (key third < key other)) :=
    List.monotone_filter_right all fun third pre => by
      rw [decide_eq_true_eq] at pre ⊢
      exact pre.trans less
  refine lt_of_le_of_ne sublist.length_le fun eq => ?_
  -- the element itself comes before the later one only
  have equal := sublist.eq_of_length eq
  have held : item ∈ all.filter fun third => decide (key third < key other) :=
    List.mem_filter.mpr ⟨mem, decide_eq_true less⟩
  rw [← equal, List.mem_filter, decide_eq_true_eq] at held
  exact lt_irrefl _ held.2

theorem eq_of_placeIn_eq (inj : Function.Injective key) {all : List Item}
    {item other : Item} (mem : item ∈ all) (otherMem : other ∈ all)
    (eq : placeIn key all item = placeIn key all other) : item = other := by
  rcases lt_trichotomy (key item) (key other) with less | equal | greater
  · exact absurd eq (placeIn_lt_placeIn mem less).ne
  · exact inj equal
  · exact absurd eq (placeIn_lt_placeIn otherMem greater).ne'

theorem placeIn_lt_length {all : List Item} {item : Item} (mem : item ∈ all) :
    placeIn key all item < all.length := by
  rw [placeIn, List.countP_eq_length_filter]
  refine lt_of_le_of_ne (List.length_filter_le _ _) fun eq => ?_
  have every := List.length_filter_eq_length_iff.mp eq item mem
  exact lt_irrefl _ (of_decide_eq_true every)

theorem placeIn_le_placeIn {part all : List Item} (subperm : part.Subperm all) (item : Item) :
    placeIn key part item ≤ placeIn key all item :=
  subperm.countP_le _

theorem placeIn_of_getElem? {rows : List Item} {item : Item}
    (sorted : rows.Pairwise fun left right => key left < key right)
    (got : rows[index]? = some item) : placeIn key rows item = index := by
  induction rows generalizing index with
  | nil => simp at got
  | cons first rest ih =>
    obtain ⟨least, sortedRest⟩ := List.pairwise_cons.mp sorted
    rw [placeIn, List.countP_cons, ← placeIn]
    cases index with
    | zero =>
      rw [List.getElem?_cons_zero, Option.some.injEq] at got
      subst got
      have none : placeIn key rest first = 0 := by
        rw [placeIn, List.countP_eq_zero]
        intro other mem
        simpa using (least other mem).le
      simp [none]
    | succ index =>
      rw [List.getElem?_cons_succ] at got
      rw [ih sortedRest got]
      simp [least item (List.mem_of_getElem? got)]

theorem eq_of_le_of_injective {count : Nat} {moved : Nat → Nat}
    (bounded : ∀ index < count, moved index < count)
    (raises : ∀ index < count, index ≤ moved index)
    (inj : ∀ index < count, ∀ other < count, moved index = moved other → index = other)
    (inside : index < count) : moved index = index := by
  -- from the last number down, each of them has been taken by itself
  induction left : count - index using Nat.strong_induction_on generalizing index with
  | _ left ih =>
    rcases (raises index inside).lt_or_eq with higher | equal
    · have target := bounded index inside
      have fixed := ih (count - moved index) (by omega) target rfl
      exact inj _ target _ inside fixed
    · exact equal.symm

/-! ## Windows -/

/-- **A window that holds the first elements of all starts with them.** -/
theorem take_eq_of_drawn [DecidableEq Item] (inj : Function.Injective key)
    {window all : List Item} {n : Nat}
    (sorted : all.Pairwise fun left right => key left < key right)
    (windowSorted : window.Pairwise fun left right => key left < key right)
    (within : window ⊆ all) (drawn : ∀ item ∈ all, placeIn key all item < n → item ∈ window) :
    window.take n = all.take n := by
  have le {rows : List Item} (sorted : rows.Pairwise fun left right => key left < key right) :
      rows.Pairwise fun left right => key left ≤ key right := sorted.imp le_of_lt
  have nodup {rows : List Item}
      (sorted : rows.Pairwise fun left right => key left < key right) : rows.Nodup :=
    sorted.imp fun less => ne_of_apply_ne key less.ne
  have eq (rows : List Item) : ∀ row ∈ rows, ∀ other ∈ rows, key other = key row → other = row :=
    fun row _ other _ equal => inj equal
  have sets : (window.take n).toFinset = (all.take n).toFinset := by
    rw [toFinset_take (le windowSorted) (eq window) (nodup windowSorted),
      toFinset_take (le sorted) (eq all) (nodup sorted)]
    refine firstOf_of_subset (fun item mem => ?_) fun item first => ?_
    · exact List.mem_toFinset.mpr (within (List.mem_toFinset.mp mem))
    · rw [← toFinset_take (le sorted) (eq all) (nodup sorted), List.mem_toFinset,
        mem_take_iff (le sorted) fun other _ equal => inj equal] at first
      exact List.mem_toFinset.mpr (drawn item first.1 first.2)
  have perm : (window.take n).Perm (all.take n) :=
    (List.perm_ext_iff_of_nodup ((nodup windowSorted).sublist (List.take_sublist _ _))
      ((nodup sorted).sublist (List.take_sublist _ _))).mpr fun item => by
        rw [← List.mem_toFinset, sets, List.mem_toFinset]
  exact perm.eq_of_pairwise (fun _ _ _ _ less greater => absurd (less.trans greater) (lt_irrefl _))
    (windowSorted.sublist (List.take_sublist _ _)) (sorted.sublist (List.take_sublist _ _))

/-- What a listing draws for each page, ranked, of all its elements. -/
structure Draws (key : Item → Key) (all : List Item) (drawn : Nat → List Item) : Prop where
  injective : Function.Injective key
  distinct : all.Nodup
  sorted : ∀ page, (drawn page).Pairwise fun left right => key left < key right
  within : ∀ page, drawn page ⊆ all
  grows : ∀ {page later}, page ≤ later → drawn page ⊆ drawn later

namespace Draws

variable {all : List Item} {drawn : Nat → List Item} {limit : Nat}

theorem getElem?_drawn {ranked : List Item}
    (pages : ∀ page, ((drawn page).drop (page * limit)).take limit
      = (ranked.drop (page * limit)).take limit)
    (pos : 0 < limit) {item : Item} (got : ranked[index]? = some item) :
    (drawn (index / limit))[index]? = some item := by
  have inside : index % limit < limit := Nat.mod_lt _ pos
  have parts : index / limit * limit + index % limit = index := Nat.div_add_mod' index limit
  have slice := congrArg (fun rows => rows[index % limit]?) (pages (index / limit))
  simp only [List.getElem?_take_of_lt inside, List.getElem?_drop, parts] at slice
  rw [slice, got]

/-- **In a list that has the pages, each element is at its place.** -/
theorem placeIn_eq_of_pages (draws : Draws key all drawn) (pos : 0 < limit)
    {ranked : List Item} (nodup : ranked.Nodup) (members : ∀ item, item ∈ ranked ↔ item ∈ all)
    (pages : ∀ page, ((drawn page).drop (page * limit)).take limit
      = (ranked.drop (page * limit)).take limit)
    {item : Item} (got : ranked[index]? = some item) :
    placeIn key all item = index := by
  have length : ranked.length = all.length :=
    ((List.perm_ext_iff_of_nodup nodup draws.distinct).mpr members).length_eq
  have at_ {index : Nat} (inside : index < ranked.length) :
      ranked[index]? = some ranked[index] := List.getElem?_eq_getElem inside
  have mem {index : Nat} (inside : index < ranked.length) : ranked[index] ∈ all :=
    (members _).mp (List.getElem_mem inside)
  -- what comes before an element on its page comes before it in all
  have raises : ∀ index < ranked.length, index ≤ (ranked[index]?.elim 0 (placeIn key all)) := by
    intro index inside
    rw [at_ inside, Option.elim_some]
    have distinctDrawn : (drawn (index / limit)).Nodup :=
      (draws.sorted _).imp fun less => ne_of_apply_ne key less.ne
    have placed := placeIn_of_getElem? (draws.sorted _) (getElem?_drawn pages pos (at_ inside))
    exact placed.symm.le.trans (placeIn_le_placeIn (distinctDrawn.subperm (draws.within _)) _)
  obtain ⟨inside, rfl⟩ := List.getElem?_eq_some_iff.mp got
  have bounded : ∀ index < ranked.length,
      (ranked[index]?.elim 0 (placeIn key all)) < ranked.length := by
    intro index inside
    rw [at_ inside, Option.elim_some, length]
    exact placeIn_lt_length (mem inside)
  have apart : ∀ index < ranked.length, ∀ other < ranked.length,
      ranked[index]?.elim 0 (placeIn key all) = ranked[other]?.elim 0 (placeIn key all)
        → index = other := by
    intro index inside other otherInside eq
    rw [at_ inside, at_ otherInside, Option.elim_some, Option.elim_some] at eq
    have equal := eq_of_placeIn_eq draws.injective (mem inside) (mem otherInside) eq
    exact nodup.getElem_inj_iff.mp equal
  have fixed := eq_of_le_of_injective bounded raises apart inside
  rwa [at_ inside, Option.elim_some] at fixed

/-- **The pages are those of one list exactly if each element is drawn in time**: by the page
that its place among all elements is on. -/
theorem pages_iff [DecidableEq Item] (draws : Draws key all drawn) (pos : 0 < limit) :
    (∃ ranked : List Item, ranked.Nodup ∧ (∀ item, item ∈ ranked ↔ item ∈ all)
        ∧ ∀ page, ((drawn page).drop (page * limit)).take limit
          = (ranked.drop (page * limit)).take limit)
      ↔ ∀ item ∈ all, item ∈ drawn (placeIn key all item / limit) := by
  constructor
  · rintro ⟨ranked, nodup, members, pages⟩ item mem
    obtain ⟨index, got⟩ := List.mem_iff_getElem?.mp ((members item).mpr mem)
    rw [draws.placeIn_eq_of_pages pos nodup members pages got]
    exact List.mem_of_getElem? (getElem?_drawn pages pos got)
  · intro inTime
    have perm := List.perm_insertionSort (fun left right => key left ≤ key right) all
    have nodup := perm.nodup_iff.mpr draws.distinct
    have sorted : (all.insertionSort fun left right => key left ≤ key right).Pairwise
        fun left right => key left < key right :=
      (List.pairwise_insertionSort _ all).imp₂
        (fun left right le different => lt_of_le_of_ne le (draws.injective.ne different)) nodup
    refine ⟨_, nodup, fun item => perm.mem_iff, fun page => ?_⟩
    have first : ∀ item ∈ all.insertionSort (fun left right => key left ≤ key right),
        placeIn key (all.insertionSort fun left right => key left ≤ key right) item
          < page * limit + limit → item ∈ drawn page := by
      intro item mem pre
      rw [placeIn, perm.countP_eq, ← placeIn, ← Nat.succ_mul, ← Nat.div_lt_iff_lt_mul pos] at pre
      exact draws.grows (Nat.le_of_lt_succ pre) (inTime item (perm.mem_iff.mp mem))
    have eq := take_eq_of_drawn draws.injective sorted (draws.sorted page)
      (fun item mem => perm.mem_iff.mpr (draws.within page mem)) first
    rw [List.take_drop, List.take_drop, eq]

end Draws

end WindowedPages

end Cfwdon.Library
