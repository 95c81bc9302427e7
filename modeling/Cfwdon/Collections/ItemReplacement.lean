import Cfwdon.Collections.UriOwnership

/-!
# The items of a collection that is sent again

The stored items of a collection are deleted and those of the document are written one by
one, so a statement that fails between leaves some of them.  The id of a row is made of
the id the sender gave the item, and two items with one id for different actors clash.
-/

namespace Cfwdon.Collections

open Library Remote

/-! ## What a document says of its items -/

def featuredItemsOf (objects : List Json) : List FeaturedItem :=
  objects.filterMap featuredItemFromObject

/-- The last item that features an actor. -/
def lastItemOf (items : List FeaturedItem) (targetActorUri : String) : Option FeaturedItem :=
  items.reverse.find? fun item => item.targetActorUri == targetActorUri

def RemoteCollectionItemRow.says (row : RemoteCollectionItemRow) : FeaturedItem :=
  ⟨row.uri, row.targetActorUri, row.featureAuthorization, row.publishedAt⟩

def itemOf (items : RemoteCollectionItems) (collectionId targetActorUri : String) :
    Option FeaturedItem :=
  (items.find (collectionId, targetActorUri)).map RemoteCollectionItemRow.says

/-- The stored items of a collection are those before, or those of the document. -/
def KeptOrReplaced (collectionId : String) (objects : List Json)
    (before after : RemoteCollectionItems) : Prop :=
  (∀ targetActorUri,
      after.find (collectionId, targetActorUri) = before.find (collectionId, targetActorUri))
    ∨ ∀ targetActorUri,
        itemOf after collectionId targetActorUri
          = lastItemOf (featuredItemsOf objects) targetActorUri

section Stops

variable (site : Site) (now : Nat)

/-- The collection is stored and its items are deleted. -/
def Store.cleared (store : Store) (draft : RemoteCollectionDraft) : Store :=
  { store with collections := upsertRemoteCollectionDraft draft store.collections }.deleteItemsOf
    draft.id

/-- The store when a statement fails behind so many objects of the document.  A call that
fails earlier keeps the items. -/
def Store.stoppedBehind (store : Store) (draft : RemoteCollectionDraft) (objects : List Json)
    (count : Nat) : Attempt Store String Unit :=
  upsertItemsInOrder site now draft.id draft.uri (objects.take count) (store.cleared draft)

/-- Wherever the call stops, the items are kept or replaced, and it stops only where a
statement fails. -/
def ReplacesAllOrNothing (remoteActor : RemoteActorProfile) (object : Json) (store : Store) :
    Prop :=
  ∀ draft, remoteCollectionDraftFromObject remoteActor object = some draft →
    draft.includesItems = true →
      (∀ count, KeptOrReplaced draft.id (featuredCollectionItems object) store.items
          (store.stoppedBehind site now draft (featuredCollectionItems object) count).1.items)
        ∧ failureOf (upsertRemoteCollectionFromObject site now remoteActor object store).2 = none

end Stops

/-- All items of a document are one item, of a collection without stored items, and its
row has an id no other collection uses. -/
def OneNewItem (collectionId : String) (objects : List Json) (store : Store) : Prop :=
  ∀ item ∈ featuredItemsOf objects,
    (∀ other ∈ featuredItemsOf objects, other = item)
      ∧ (∀ targetActorUri, store.items.find (collectionId, targetActorUri) = none)
      ∧ ∀ row ∈ store.items.rows, row.id = item.idIn collectionId → row.collectionId = collectionId

/-! ## The last items of lists -/

theorem lastItemOf_append_self (items : List FeaturedItem) (item : FeaturedItem) :
    lastItemOf (items ++ [item]) item.targetActorUri = some item := by
  simp [lastItemOf]

theorem lastItemOf_self (item : FeaturedItem) :
    lastItemOf [item] item.targetActorUri = some item := lastItemOf_append_self [] item

theorem lastItemOf_cons (item : FeaturedItem) (items : List FeaturedItem)
    (targetActorUri : String) :
    lastItemOf (item :: items) targetActorUri
      = (lastItemOf items targetActorUri).or (lastItemOf [item] targetActorUri) := by
  simp [lastItemOf, List.find?_append]

theorem lastItemOf_of_same {items : List FeaturedItem} {item : FeaturedItem}
    (mem : item ∈ items) (eq : ∀ other ∈ items, other = item) (targetActorUri : String) :
    lastItemOf items targetActorUri = lastItemOf [item] targetActorUri := by
  induction items with
  | nil => cases mem
  | cons first rest ih =>
    obtain rfl := eq first (List.mem_cons_self ..)
    cases rest with
    | nil => rfl
    | cons next rest =>
      have sameNext := eq next (List.mem_cons_of_mem _ (List.mem_cons_self ..))
      rw [lastItemOf_cons, ih (sameNext ▸ List.mem_cons_self ..) fun other later =>
        eq other (List.mem_cons_of_mem _ later), Option.or_self]

/-! ## What the loop stores -/

section Loop

variable {site now} {collectionId collectionUri targetActorUri : String} {object : Json}
variable {store : Store} {item : FeaturedItem}

theorem itemOf_upsertItem {approval : Approval} {items wrote : RemoteCollectionItems}
    (held : upsertItem (item.row now collectionId approval) items = .ok wrote) :
    itemOf wrote collectionId targetActorUri
      = (lastItemOf [item] targetActorUri).or (itemOf items collectionId targetActorUri) := by
  unfold upsertItem at held
  split_ifs at held
  cases held
  rw [itemOf, Table.find_upsert, itemOf]
  by_cases eq : item.targetActorUri = targetActorUri
  · subst eq
    have isKey : (item.row now collectionId approval).key = (collectionId, item.targetActorUri) :=
      rfl
    rw [if_pos isKey, lastItemOf_self]
    cases got : items.find (collectionId, item.targetActorUri) with
    | none => rfl
    | some prior =>
      have isTarget : prior.targetActorUri = item.targetActorUri :=
        congrArg Prod.snd (Table.key_of_find got)
      simp [RemoteCollectionItemRow.overwrite, RemoteCollectionItemRow.says, FeaturedItem.row,
        isTarget]
  · have noLast : lastItemOf [item] targetActorUri = none := by simp [lastItemOf, eq]
    rw [noLast, if_neg, Option.none_or]
    intro sameKey
    exact eq (congrArg Prod.snd sameKey)

theorem upsertItem_of_read (read : featuredItemFromObject object = some item)
    (store : Store) :
    upsertRemoteCollectionItemFromObject site now collectionId collectionUri object store
      = match upsertItem (item.row now collectionId (item.check site collectionUri store).1)
          store.items with
        | .error error => (item.asked site collectionUri store, .error error)
        | .ok items => (item.stored site collectionUri items store, .ok ()) := by
  rw [upsertRemoteCollectionItemFromObject, read]
  rfl

/-- **What the loop stores**, where no item clashes. -/
theorem itemOf_upsertItems {objects : List Json}
    (ans : failureOf (upsertItemsInOrder site now collectionId collectionUri objects store).2
      = none) :
    itemOf (upsertItemsInOrder site now collectionId collectionUri objects store).1.items
        collectionId targetActorUri
      = (lastItemOf (featuredItemsOf objects) targetActorUri).or
          (itemOf store.items collectionId targetActorUri) := by
  induction objects generalizing store with
  | nil => rfl
  | cons object rest ih =>
    rw [upsertItemsInOrder] at ans ⊢
    cases read : featuredItemFromObject object with
    | none =>
      rw [upsertRemoteCollectionItemFromObject, read] at ans ⊢
      rw [featuredItemsOf, List.filterMap_cons_none read]
      exact ih ans
    | some item =>
      rw [upsertItem_of_read read] at ans ⊢
      rw [featuredItemsOf, List.filterMap_cons_some read, lastItemOf_cons, Option.or_assoc]
      cases held : upsertItem (item.row now collectionId
          (item.check site collectionUri store).1) store.items with
      | error error =>
        rw [held] at ans
        cases ans
      | ok items =>
        rw [held] at ans
        exact (ih ans).trans (congrArg _ (itemOf_upsertItem held))

/-- **An item fails exactly where its row would be new and its id is taken**, in a document
with one item however often it is repeated. -/
theorem failure_upsertItems_iff {objects : List Json}
    (one : ∀ other ∈ featuredItemsOf objects, other = item) :
    failureOf (upsertItemsInOrder site now collectionId collectionUri objects store).2 = none
      ↔ (featuredItemsOf objects ≠ [] →
          store.items.find (collectionId, item.targetActorUri) = none →
            store.items.exists? (fun row => row.id == item.idIn collectionId) = false) := by
  induction objects generalizing store with
  | nil => simp [upsertItemsInOrder, featuredItemsOf, failureOf]
  | cons object rest ih =>
    rw [upsertItemsInOrder]
    cases read : featuredItemFromObject object with
    | none =>
      rw [upsertRemoteCollectionItemFromObject, read]
      rw [featuredItemsOf, List.filterMap_cons_none read] at one ⊢
      exact ih one
    | some got =>
      rw [featuredItemsOf, List.filterMap_cons_some read] at one ⊢
      obtain rfl : got = item := one got (List.mem_cons_self ..)
      rw [upsertItem_of_read read]
      cases held : upsertItem (got.row now collectionId
          (got.check site collectionUri store).1) store.items with
      | error error =>
        unfold upsertItem at held
        split_ifs at held with clash
        obtain ⟨new, taken⟩ := clash
        have absent : store.items.find (collectionId, got.targetActorUri) = none :=
          Option.isNone_iff_eq_none.mp new
        have isTaken : store.items.exists? (fun row => row.id == got.idIn collectionId)
          = true := taken
        simp [Attempt.andThen_error, failureOf, absent, isTaken]
      | ok items =>
        have here : items.find (collectionId, got.targetActorUri) ≠ none := by
          intro absent
          have kept : itemOf items collectionId got.targetActorUri
            = (lastItemOf [got] got.targetActorUri).or _ := itemOf_upsertItem held
          rw [itemOf, absent, lastItemOf_self] at kept
          cases kept
        have goesOn := (@ih (got.stored site collectionUri items store) fun other later =>
          one other (List.mem_cons_of_mem _ later)).mpr fun _ absent => absurd absent here
        refine iff_of_true goesOn fun _ absent => ?_
        rw [← Bool.not_eq_true]
        intro taken
        rw [upsertItem, if_pos ⟨Option.isNone_iff_eq_none.mpr absent, taken⟩] at held
        cases held

theorem failure_upsertItems_take {objects : List Json}
    (ans : failureOf (upsertItemsInOrder site now collectionId collectionUri objects store).2
      = none) (count : Nat) :
    failureOf (upsertItemsInOrder site now collectionId collectionUri (objects.take count)
      store).2 = none := by
  induction objects generalizing store count with
  | nil => rwa [List.take_nil]
  | cons object rest ih =>
    cases count with
    | zero => rfl
    | succ count =>
      obtain ⟨value, isOk⟩ := failureOf_eq_none_iff.mp ans
      obtain ⟨_, first, later⟩ := Attempt.andThen_eq_ok_iff.mp isOk
      have front := ih (failureOf_eq_none_iff.mpr ⟨value, later⟩) count
      obtain ⟨value', rest_ok⟩ := failureOf_eq_none_iff.mp front
      exact failureOf_eq_none_iff.mpr
        ⟨value', Attempt.andThen_eq_ok_iff.mpr ⟨_, first, rest_ok⟩⟩

end Loop

/-! ## Exactly when the replacement is atomic -/

section Replacement

variable {object : Json} {objects : List Json} {draft : RemoteCollectionDraft} {store : Store}

theorem find_cleared (targetActorUri : String) :
    (store.cleared draft).items.find (draft.id, targetActorUri) = none := by
  rw [Store.cleared, Store.deleteItemsOf, Table.find_deleteWhere, Option.filter_eq_none_iff]
  intro row got
  have ofCollection : row.collectionId = draft.id := congrArg Prod.fst (Table.key_of_find got)
  simp [ofCollection]

theorem exists_cleared_iff {id : String} :
    (store.cleared draft).items.exists? (fun row => row.id == id) = false
      ↔ ∀ row ∈ store.items.rows, row.id = id → row.collectionId = draft.id := by
  rw [Table.exists?, List.any_eq_false]
  constructor
  · intro free row mem eq
    by_contra other
    exact free row (List.mem_filter.mpr ⟨mem, by simpa using other⟩) (beq_iff_eq.mpr eq)
  · intro ofCollection row mem eq
    have kept := List.of_mem_filter mem
    simp [ofCollection row (List.mem_of_mem_filter mem) (beq_iff_eq.mp eq)] at kept

theorem lastItemOf_cons_ne_none {first : FeaturedItem} {items : List FeaturedItem} :
    lastItemOf (first :: items) first.targetActorUri ≠ none := by
  intro absent
  rw [lastItemOf_cons, Option.or_eq_none_iff, lastItemOf_self] at absent
  cases absent.2

theorem featuredItemsOf_take {front back : List Json} {item : FeaturedItem}
    (read : featuredItemFromObject object = some item) :
    featuredItemsOf ((front ++ object :: back).take (front.length + 1))
      = featuredItemsOf front ++ [item] := by
  rw [List.take_length_add_append, featuredItemsOf, List.filterMap_append]
  simp [read, featuredItemsOf]

/-- **Only repetitions of one item are complete after the first**: where every beginning
with an item has the last items of the whole, the items are all the same. -/
theorem eq_of_lastItemOf_take
    (full : ∀ count, featuredItemsOf (objects.take count) ≠ [] → ∀ targetActorUri,
      lastItemOf (featuredItemsOf (objects.take count)) targetActorUri
        = lastItemOf (featuredItemsOf objects) targetActorUri) :
    ∀ item ∈ featuredItemsOf objects, ∀ other ∈ featuredItemsOf objects, other = item := by
  cases listed : featuredItemsOf objects with
  | nil =>
    intro item mem
    cases mem
  | cons first rest =>
    obtain ⟨front, object, back, parts, skipped, read, -⟩ := List.filterMap_eq_cons_iff.mp listed
    have start : featuredItemsOf (objects.take (front.length + 1)) = [first] := by
      rw [parts, featuredItemsOf_take read, featuredItemsOf,
        List.filterMap_eq_nil_iff.mpr skipped, List.nil_append]
    have isFirst : ∀ item ∈ first :: rest, item = first := by
      intro item mem
      rw [← listed] at mem
      obtain ⟨object', among, read'⟩ := List.mem_filterMap.mp mem
      obtain ⟨front', back', parts'⟩ := List.append_of_mem among
      have upTo : featuredItemsOf (objects.take (front'.length + 1))
          = featuredItemsOf front' ++ [item] := by rw [parts', featuredItemsOf_take read']
      have last := full (front'.length + 1) (by simp [upTo]) item.targetActorUri
      have alone := full (front.length + 1) (by simp [start]) item.targetActorUri
      rw [upTo, lastItemOf_append_self] at last
      rw [start, ← last] at alone
      exact List.mem_singleton.mp (List.mem_reverse.mp (List.mem_of_find?_eq_some alone))
    intro item mem other otherMem
    rw [isFirst item mem, isFirst other otherMem]

/-- Of states that say what the beginnings of a document say, every one is that before or the
whole exactly where the items are one item and none is stored before. -/
theorem keptOrReplaced_iff {collectionId : String} {pre : RemoteCollectionItems}
    {states : Nat → RemoteCollectionItems}
    (said : ∀ count targetActorUri, itemOf (states count) collectionId targetActorUri
      = lastItemOf (featuredItemsOf (objects.take count)) targetActorUri) :
    (∀ count, KeptOrReplaced collectionId objects pre (states count))
      ↔ ∀ item ∈ featuredItemsOf objects, (∀ other ∈ featuredItemsOf objects, other = item)
          ∧ ∀ targetActorUri, pre.find (collectionId, targetActorUri) = none := by
  have stored_none {count : Nat} (empty : featuredItemsOf (objects.take count) = [])
      (targetActorUri : String) : (states count).find (collectionId, targetActorUri) = none := by
    have none_said := said count targetActorUri
    rw [empty] at none_said
    exact Option.map_eq_none_iff.mp none_said
  constructor
  · intro replaced item mem
    have unstored (targetActorUri : String) : pre.find (collectionId, targetActorUri) = none := by
      rcases replaced 0 with kept | whole
      · rw [← kept, stored_none rfl]
      · obtain ⟨first, rest, listed⟩ := List.exists_cons_of_ne_nil (List.ne_nil_of_mem mem)
        have empty := (said 0 first.targetActorUri).symm.trans (whole first.targetActorUri)
        rw [listed] at empty
        exact absurd empty.symm lastItemOf_cons_ne_none
    refine ⟨fun other otherMem => ?_, unstored⟩
    refine eq_of_lastItemOf_take (fun count ne targetActorUri => ?_) item mem other otherMem
    rcases replaced count with kept | whole
    · obtain ⟨first, rest, listed⟩ := List.exists_cons_of_ne_nil ne
      have none_said := said count first.targetActorUri
      rw [itemOf, kept, unstored, listed] at none_said
      exact absurd none_said.symm lastItemOf_cons_ne_none
    · rw [← said, whole]
  · intro one count
    cases taken : featuredItemsOf (objects.take count) with
    | nil =>
      cases listed : featuredItemsOf objects with
      | nil => exact Or.inr fun targetActorUri => by rw [said, taken, listed]
      | cons first rest =>
        obtain ⟨-, unstored⟩ := one first (listed ▸ List.mem_cons_self ..)
        exact Or.inl fun targetActorUri => by rw [stored_none taken, unstored]
    | cons first rest =>
      right
      intro targetActorUri
      have among : ∀ item ∈ featuredItemsOf (objects.take count),
          item ∈ featuredItemsOf objects := fun item mem =>
        ((List.take_sublist count objects).filterMap featuredItemFromObject).subset mem
      have mem : first ∈ featuredItemsOf (objects.take count) := taken ▸ List.mem_cons_self ..
      have eq := (one first (among first mem)).1
      rw [said, lastItemOf_of_same mem fun item listed => eq item (among item listed),
        lastItemOf_of_same (among first mem) eq]

theorem upsertCollectionFrom_of_read {site : Site} {now : Nat}
    {actor : RemoteActorProfile}
    (read : remoteCollectionDraftFromObject actor object = some draft)
    (includes : draft.includesItems = true) :
    failureOf (upsertRemoteCollectionFromObject site now actor object store).2
      = failureOf (upsertItemsInOrder site now draft.id draft.uri (featuredCollectionItems object)
          (store.cleared draft)).2 := by
  have here : ((upsertRemoteCollectionDraft draft store.collections).find draft.uri).isSome := by
    rw [find_upsertDraft, if_pos rfl]
    rfl
  rw [upsertRemoteCollectionFromObject, read]
  simp only [if_pos (Bool.and_eq_true_iff.mpr ⟨here, includes⟩)]
  exact Attempt.failure_andThen_ok

/-- **The items of a collection that is sent are replaced all or nothing exactly where they
are one new item.** -/
theorem replacesAllOrNothing_iff (site : Site) (now : Nat) (remoteActor : RemoteActorProfile)
    (object : Json) (store : Store) :
    ReplacesAllOrNothing site now remoteActor object store
      ↔ ∀ draft, remoteCollectionDraftFromObject remoteActor object = some draft →
          draft.includesItems = true →
            OneNewItem draft.id (featuredCollectionItems object) store := by
  refine forall_congr' fun draft => forall_congr' fun read => forall_congr' fun includes => ?_
  rw [upsertCollectionFrom_of_read read includes]
  have said (ans : failureOf (upsertItemsInOrder site now draft.id draft.uri
      (featuredCollectionItems object) (store.cleared draft)).2 = none) (count : Nat)
      (targetActorUri : String) :
      itemOf (store.stoppedBehind site now draft (featuredCollectionItems object) count).1.items
          draft.id targetActorUri
        = lastItemOf (featuredItemsOf ((featuredCollectionItems object).take count))
            targetActorUri := by
    rw [Store.stoppedBehind, itemOf_upsertItems (failure_upsertItems_take ans _),
      itemOf, find_cleared, Option.map_none, Option.or_none]
  constructor
  · rintro ⟨replaced, ans⟩ item mem
    obtain ⟨eq, unstored⟩ := (keptOrReplaced_iff (said ans)).mp replaced item mem
    refine ⟨eq, unstored, exists_cleared_iff.mp ?_⟩
    exact (failure_upsertItems_iff eq).mp ans (List.ne_nil_of_mem mem) (find_cleared _)
  · intro one
    have ans : failureOf (upsertItemsInOrder site now draft.id draft.uri
        (featuredCollectionItems object) (store.cleared draft)).2 = none := by
      cases listed : featuredItemsOf (featuredCollectionItems object) with
      | nil =>
        have none_differs : ∀ other ∈ featuredItemsOf (featuredCollectionItems object),
            other = ⟨none, "", none, none⟩ := by
          rw [listed]
          exact List.forall_mem_nil _
        exact (failure_upsertItems_iff none_differs).mpr fun ne =>
          absurd listed ne
      | cons first rest =>
        obtain ⟨eq, -, free⟩ := one first (listed ▸ List.mem_cons_self ..)
        exact (failure_upsertItems_iff eq).mpr fun _ _ => exists_cleared_iff.mpr free
    exact ⟨(keptOrReplaced_iff (said ans)).mpr fun item mem =>
      ⟨(one item mem).1, (one item mem).2.1⟩, ans⟩

end Replacement

/-- A collection in which one item id features two actors. -/
def oneIdForTwo : Json :=
  let item (featured : String) : Json := .object [("type", .string "FeaturedItem"),
    ("id", .string (aliceCollection ++ "/items/1")), ("featuredObject", .string featured)]
  .object [("type", .string "FeaturedCollection"), ("id", .string aliceCollection),
    ("attributedTo", .string "https://good.example/users/alice"), ("name", .string "Art"),
    ("items", .array [item "https://b.example/users/bob", item "https://c.example/users/carol"])]

/-- **Two actors featured under one item id make the call fail after it wrote the first.** -/
theorem oneIdForTwo_fails :
    ¬ ∀ (site : Site) (now : Nat) (remoteActor : RemoteActorProfile) (object : Json)
      (store : Store), ReplacesAllOrNothing site now remoteActor object store := by
  intro law
  have read : (remoteCollectionDraftFromObject (actorAt "good.example" "alice") oneIdForTwo).map
      (fun draft => draft.includesItems) = some true := by decide +kernel
  obtain ⟨draft, isDraft, includes⟩ := Option.map_eq_some_iff.mp read
  have succeeds := (law alone 0 (actorAt "good.example" "alice") oneIdForTwo Store.empty draft
    isDraft includes).2
  have failed : failureOf (upsertRemoteCollectionFromObject alone 0
      (actorAt "good.example" "alice") oneIdForTwo Store.empty).2 ≠ none := by decide +kernel
  exact failed succeeds

end Cfwdon.Collections
