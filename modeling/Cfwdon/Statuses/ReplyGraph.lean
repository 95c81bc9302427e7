import Cfwdon.Library.Lineage
import Cfwdon.Statuses.ContextWalks

/-!
# The reply graph

A stored status replies to the stored statuses that its `in_reply_to_id` or its
`in_reply_to_uri` names.  `ContextsMatch` says what the contexts of a store should be: they
are built, the descendants are exactly what replies to a status directly or transitively,
and ancestors are the converse of descendants.

Where no local status replies to a remote one and no URI names a status of each table,
`parentItem` is the one parent of a status (`repliesTo_iff`), and what is below a status is
what it is an ancestor of (`below_iff`).
-/

namespace Cfwdon.Statuses

open Library

variable (store : ThreadStore) (reads : ContextReads)

def ContextItem.IsStored : ContextItem → Prop
  | .status row => row ∈ store.statuses.rows
  | .remote row => row ∈ store.remoteStatuses.rows

/-- A status names a parent: local ones by id, remote ones by URI. -/
def ContextItem.Names : ContextItem → ContextItem → Prop
  | .status child, .status parent => child.inReplyToId = some parent.id
  | .status child, .remote parent => child.inReplyToId = some parent.id
  | .remote child, .status parent =>
    child.inReplyToUri.isSome = true ∧ child.inReplyToUri = parent.apId
  | .remote child, .remote parent => child.inReplyToUri = some parent.objectUri

/-- **A reply**, between stored statuses. -/
def RepliesTo (child parent : ContextItem) : Prop :=
  child.IsStored store ∧ parent.IsStored store ∧ child.Names parent

/-- A direct or transitive reply. -/
abbrev Below : ContextItem → ContextItem → Prop := Relation.TransGen (RepliesTo store)

/-- A transitive reply through so many replies. -/
inductive RepliesIn : Nat → ContextItem → ContextItem → Prop where
  | direct {child parent : ContextItem} (reply : RepliesTo store child parent) :
      RepliesIn 1 child parent
  | through {k : Nat} {child between parent : ContextItem} (reply : RepliesTo store child between)
      (rest : RepliesIn k between parent) : RepliesIn (k + 1) child parent

/-- Every stored status may be seen by the viewer and has a stored owner or actor. -/
structure AllVisible : Prop where
  owned : ∀ status ∈ store.statuses.rows, (reads.username status.accountId).isSome = true
  seen : ∀ status ∈ store.statuses.rows, reads.canViewLocalStatus status = true
  isPublic : ∀ status ∈ store.remoteStatuses.rows,
    isPublicActivitypubVisibility status.visibility = true
  hasActor : ∀ status ∈ store.remoteStatuses.rows, reads.hasRemoteActor status.actorUri = true

/-- The threads are within the limits of depth and count. -/
structure WithinLimits : Prop where
  depth : ∀ limit, contextDescendantMaxDepth reads.isAuthenticated = some limit →
    ∀ child parent, Below store child parent → ∃ k ≤ limit, RepliesIn store k child parent
  descendants : ∀ (item : ContextItem) (below : List ContextItem), below.Nodup →
    (∀ other ∈ below, Below store other item) →
    below.length ≤ contextDescendantLimit reads.isAuthenticated
  ancestors : ∀ (item : ContextItem) (above : List ContextItem), above.Nodup →
    (∀ other ∈ above, Below store item other) →
    above.length ≤ contextAncestorLimit reads.isAuthenticated
      ∧ above.length ≤ maxContextAncestorDepth

/-- A parent that is not stored is not fetched for the viewer either. -/
def Offline : Prop :=
  ∀ uri, findStatusByApId store uri = none → store.remoteStatuses.find uri = none →
    reads.resolveRemoteStatusByUrl uri = none

structure ContextsMatch : Prop where
  built : ∀ item, item.IsStored store → (buildStatusContext store reads item).isSome = true
  descendants : ∀ item context, item.IsStored store →
    buildStatusContext store reads item = some context →
    context.descendants.Nodup ∧ ∀ other, other ∈ context.descendants ↔ Below store other item
  converse : ∀ item other context otherContext, item.IsStored store → other.IsStored store →
    buildStatusContext store reads item = some context →
    buildStatusContext store reads other = some otherContext →
    (item ∈ otherContext.descendants ↔ other ∈ context.ancestors)

/-- **The threads that the walkers follow**: no local status replies to a remote one, no
status is below itself, no URI of a parent names a status of each table, and the local
statuses above a remote one are public. -/
structure WalkableThreads : Prop where
  localParents : ∀ status ∈ store.statuses.rows, ∀ remote ∈ store.remoteStatuses.rows,
    status.inReplyToId ≠ some remote.id
  acyclic : ∀ item, ¬ Below store item item
  oneParent : ∀ child ∈ store.remoteStatuses.rows, ∀ status ∈ store.statuses.rows,
    child.inReplyToUri = status.apId →
    ∀ remote ∈ store.remoteStatuses.rows, child.inReplyToUri ≠ some remote.objectUri
  publicParents : ∀ child status, Below store (.remote child) (.status status) →
    isPublicActivitypubVisibility status.visibility = true

/-! ## The parent of a status -/

/-- The stored status of a URI, a local one first. -/
def itemAt (uri : String) : Option ContextItem :=
  ((findStatusByApId store uri).map .status).or ((store.remoteStatuses.find uri).map .remote)

/-- The stored parent that the walkers know of. -/
def parentItem : ContextItem → Option ContextItem
  | .status child => (child.inReplyToId.bind store.statuses.find).map .status
  | .remote child => child.inReplyToUri.bind (itemAt store)

section

variable {store} {item child parent other : ContextItem} {k : Nat}

/-- Two stored statuses of one `ap_id` are one. -/
theorem eq_of_apId_eq {first second : LocalThreadStatus} (held : first ∈ store.statuses.rows)
    (held' : second ∈ store.statuses.rows) (eq : first.apId = second.apId) :
    first = second :=
  List.inj_on_of_nodup_map store.apIdsDistinct held held' eq

theorem eq_of_remoteId_eq {first second : RemoteThreadStatus}
    (held : first ∈ store.remoteStatuses.rows)
    (held' : second ∈ store.remoteStatuses.rows) (eq : first.id = second.id) :
    first = second :=
  List.inj_on_of_nodup_map store.remoteIdsDistinct held held' eq

theorem findByApId_eq_some {uri : String} {status : LocalThreadStatus} :
    findStatusByApId store uri = some status
      ↔ status ∈ store.statuses.rows ∧ status.apId = some uri := by
  constructor
  · intro got
    exact ⟨List.mem_of_find?_eq_some got, by simpa using List.find?_some got⟩
  · rintro ⟨held, named⟩
    cases got : findStatusByApId store uri with
    | none =>
      have gone := List.find?_eq_none.mp got status held
      simp [named] at gone
    | some other =>
      have sameUri : other.apId = some uri := by simpa using List.find?_some got
      rw [eq_of_apId_eq (List.mem_of_find?_eq_some got) held (sameUri.trans named.symm)]

theorem itemAt_isStored {uri : String} (got : itemAt store uri = some item) :
    item.IsStored store := by
  unfold itemAt at got
  cases named : findStatusByApId store uri with
  | some status =>
    simp only [named, Option.map_some, Option.some_or, Option.some.injEq] at got
    exact got ▸ (findByApId_eq_some.mp named).1
  | none =>
    simp only [named, Option.map_none, Option.none_or] at got
    obtain ⟨remote, held, rfl⟩ := Option.map_eq_some_iff.mp got
    exact Table.mem_of_find held

theorem parentItem_isStored (got : parentItem store child = some parent) :
    parent.IsStored store := by
  cases child with
  | status row =>
    obtain ⟨status, named, rfl⟩ := Option.map_eq_some_iff.mp got
    obtain ⟨_, _, held⟩ := Option.bind_eq_some_iff.mp named
    exact Table.mem_of_find held
  | remote row =>
    obtain ⟨_, _, named⟩ := Option.bind_eq_some_iff.mp got
    exact itemAt_isStored named

theorem repliesTo_of_parentItem (held : child.IsStored store)
    (got : parentItem store child = some parent) : RepliesTo store child parent := by
  refine ⟨held, parentItem_isStored got, ?_⟩
  cases child with
  | status row =>
    obtain ⟨status, named, rfl⟩ := Option.map_eq_some_iff.mp got
    obtain ⟨id, replies, parentStored⟩ := Option.bind_eq_some_iff.mp named
    rw [ContextItem.Names, replies, Table.key_of_find parentStored]
  | remote row =>
    obtain ⟨uri, replies, named⟩ := Option.bind_eq_some_iff.mp got
    unfold itemAt at named
    cases atApId : findStatusByApId store uri with
    | some status =>
      simp only [atApId, Option.map_some, Option.some_or, Option.some.injEq] at named
      subst named
      rw [ContextItem.Names, replies]
      exact ⟨rfl, (findByApId_eq_some.mp atApId).2.symm⟩
    | none =>
      simp only [atApId, Option.map_none, Option.none_or] at named
      obtain ⟨remote, parentStored, rfl⟩ := Option.map_eq_some_iff.mp named
      rw [ContextItem.Names, replies, Table.key_of_find parentStored]

/-- **In walkable threads a status has one parent.** -/
theorem repliesTo_iff (walkable : WalkableThreads store) :
    RepliesTo store child parent ↔ child.IsStored store ∧ parentItem store child = some parent := by
  constructor
  · rintro ⟨held, parentStored, names⟩
    refine ⟨held, ?_⟩
    cases child with
    | status row =>
      cases parent with
      | status status =>
        have replies : row.inReplyToId = some status.id := names
        rw [parentItem, replies, Option.bind_some, Table.find_of_mem parentStored,
          Option.map_some]
      | remote remote => exact absurd names (walkable.localParents row held remote parentStored)
    | remote row =>
      cases parent with
      | status status =>
        obtain ⟨replies, sameUri⟩ := names
        obtain ⟨uri, isUri⟩ := Option.isSome_iff_exists.mp replies
        have got : findStatusByApId store uri = some status :=
          findByApId_eq_some.mpr ⟨parentStored, sameUri.symm.trans isUri⟩
        rw [parentItem, isUri, Option.bind_some, itemAt, got, Option.map_some, Option.some_or]
      | remote remote =>
        have replies : row.inReplyToUri = some remote.objectUri := names
        have noStatus : findStatusByApId store remote.objectUri = none := by
          cases got : findStatusByApId store remote.objectUri with
          | none => rfl
          | some status =>
            obtain ⟨here, sameUri⟩ := findByApId_eq_some.mp got
            exact absurd replies (walkable.oneParent row held status here
              (replies.trans sameUri.symm) remote parentStored)
        rw [parentItem, replies, Option.bind_some, itemAt, noStatus, Option.map_none,
          Option.none_or, Table.find_of_mem parentStored, Option.map_some]
  · rintro ⟨held, got⟩
    exact repliesTo_of_parentItem held got

/-- **What is below a status is what it is an ancestor of.** -/
theorem below_iff (walkable : WalkableThreads store) :
    Below store child parent
      ↔ child.IsStored store ∧ ∃ k, ancestor (parentItem store) (k + 1) child = some parent := by
  rw [← transGen_iff]
  constructor
  · intro chain
    induction chain with
    | single reply =>
      obtain ⟨held, got⟩ := (repliesTo_iff walkable).mp reply
      exact ⟨held, Relation.TransGen.single got⟩
    | tail _ reply ih =>
      exact ⟨ih.1, ih.2.tail ((repliesTo_iff walkable).mp reply).2⟩
  · rintro ⟨held, chain⟩
    have both : Below store child parent ∧ parent.IsStored store := by
      induction chain with
      | single got =>
        exact ⟨Relation.TransGen.single (repliesTo_of_parentItem held got),
          parentItem_isStored got⟩
      | tail _ got ih =>
        exact ⟨ih.1.tail (repliesTo_of_parentItem ih.2 got), parentItem_isStored got⟩
    exact both.1

theorem parentItem_acyclic (walkable : WalkableThreads store) : Acyclic (parentItem store) := by
  intro k item reach
  have held : item.IsStored store := by
    rw [ancestor_succ] at reach
    obtain ⟨_, _, got⟩ := Option.bind_eq_some_iff.mp reach
    exact parentItem_isStored got
  exact walkable.acyclic item ((below_iff walkable).mpr ⟨held, k, reach⟩)

theorem ancestor_isStored (held : item.IsStored store)
    (reach : ancestor (parentItem store) k item = some other) : other.IsStored store := by
  cases k with
  | zero => exact Option.some.inj reach ▸ held
  | succ k =>
    rw [ancestor_succ] at reach
    obtain ⟨_, _, got⟩ := Option.bind_eq_some_iff.mp reach
    exact parentItem_isStored got

theorem repliesIn_iff (walkable : WalkableThreads store) :
    RepliesIn store k child parent
      ↔ 0 < k ∧ child.IsStored store ∧ ancestor (parentItem store) k child = some parent := by
  constructor
  · intro chain
    induction chain with
    | direct reply =>
      obtain ⟨held, got⟩ := (repliesTo_iff walkable).mp reply
      exact ⟨Nat.one_pos, held, got⟩
    | through reply _ ih =>
      obtain ⟨held, got⟩ := (repliesTo_iff walkable).mp reply
      refine ⟨Nat.succ_pos _, held, ?_⟩
      rw [ancestor_succ', got]
      exact ih.2.2
  · rintro ⟨pos, held, reach⟩
    induction k generalizing child with
    | zero => exact absurd pos (Nat.lt_irrefl 0)
    | succ k ih =>
      rw [ancestor_succ'] at reach
      obtain ⟨between, got, rest⟩ := Option.bind_eq_some_iff.mp reach
      have reply := repliesTo_of_parentItem held got
      cases k with
      | zero => exact Option.some.inj rest ▸ RepliesIn.direct reply
      | succ k =>
        exact RepliesIn.through reply (ih (Nat.succ_pos k) reply.2.1 rest)

end

end Cfwdon.Statuses
