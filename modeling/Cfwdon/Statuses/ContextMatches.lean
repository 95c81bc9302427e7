import Cfwdon.Statuses.ContextAncestors

/-!
# When the contexts match the thread

The walkers follow the local replies to local statuses and the remote replies to statuses
of both tables.  They do not follow a local status to or from a remote parent, and the walk
up does not stop at its own root.

`contextsMatch_iff` -- the contexts of a store are what they should be exactly when its
threads are walkable.
-/

namespace Cfwdon.Statuses

open Library

variable {store : ThreadStore} {reads : ContextReads}

def collectAncestors (store : ThreadStore) (reads : ContextReads) :
    ContextItem → Option (List ContextItem)
  | .status root => some (collectAncestorsForLocalRoot store reads root)
  | .remote root => collectAncestorsForRemoteRoot store reads root

theorem context_eq_some {root : ContextItem} {context : StatusContext} :
    buildStatusContext store reads root = some context
      ↔ collectAncestors store reads root = some context.ancestors
        ∧ collectDescendants store reads root = some context.descendants := by
  cases root with
  | status root =>
    simp only [buildStatusContext, collectAncestors, collectDescendants,
      Option.map_eq_some_iff, Option.some.injEq]
    constructor
    · rintro ⟨descendants, collected, rfl⟩
      exact ⟨rfl, collected⟩
    · rintro ⟨ancestors, collected⟩
      exact ⟨context.descendants, collected, by rw [ancestors]⟩
  | remote root =>
    simp only [buildStatusContext, collectAncestors, collectDescendants, Option.bind_eq_bind,
      Option.bind_eq_some_iff]
    constructor
    · rintro ⟨ancestors, up, descendants, down, eq⟩
      obtain rfl := Option.some.inj eq
      exact ⟨up, down⟩
    · rintro ⟨up, down⟩
      exact ⟨_, up, _, down, rfl⟩

/-- **The builders end**, whatever is stored. -/
theorem context_isSome (offline : Offline store reads) (root : ContextItem) :
    ∃ context, buildStatusContext store reads root = some context := by
  have down : ∃ descendants, collectDescendants store reads root = some descendants := by
    obtain ⟨walk, ended⟩ := @exists_descendantWalk store reads (startWalk reads root)
    rw [collectDescendants_eq, ended]
    exact ⟨_, rfl⟩
  have up : ∃ ancestors, collectAncestors store reads root = some ancestors := by
    cases root with
    | status root => exact ⟨_, rfl⟩
    | remote root =>
      obtain ⟨walk, ended⟩ := exists_ancestorWalk offline root
      rw [collectAncestors, collectAncestorsForRemoteRoot, ended]
      exact ⟨_, rfl⟩
  obtain ⟨descendants, down⟩ := down
  obtain ⟨ancestors, up⟩ := up
  exact ⟨⟨ancestors, descendants⟩, context_eq_some.mpr ⟨up, down⟩⟩

theorem mem_ancestors_iff (walkable : WalkableThreads store) (visible : AllVisible store reads)
    (limits : WithinLimits store reads) (offline : Offline store reads) {root item : ContextItem}
    (held : root.IsStored store) {ancestors : List ContextItem}
    (collected : collectAncestors store reads root = some ancestors) :
    item ∈ ancestors ↔ Below store root item := by
  cases root with
  | status root =>
    obtain rfl := Option.some.inj collected
    exact mem_ancestors_local_iff walkable visible limits held
  | remote root =>
    exact mem_ancestors_remote_iff walkable visible limits offline held collected

/-- **Walkable threads are enough.** -/
theorem contextsMatch_of_walkable (walkable : WalkableThreads store)
    (visible : AllVisible store reads) (limits : WithinLimits store reads)
    (offline : Offline store reads) : ContextsMatch store reads := by
  refine ⟨fun item _ => ?_, fun item context held built => ?_, ?_⟩
  · obtain ⟨context, built⟩ := context_isSome offline item
    rw [built]
    rfl
  · exact mem_descendants_iff walkable visible limits held (context_eq_some.mp built).2
  · intro item other context otherContext held otherHeld built otherBuilt
    rw [(mem_descendants_iff walkable visible limits otherHeld
        (context_eq_some.mp otherBuilt).2).2 item,
      mem_ancestors_iff walkable visible limits offline held (context_eq_some.mp built).1]

/-- **Walkable threads are needed.** -/
theorem walkable_of_contextsMatch (offline : Offline store reads)
    (contexts : ContextsMatch store reads) : WalkableThreads store := by
  have descendant {item other : ContextItem} (below : Below store item other)
      (held : other.IsStored store) : ∃ context,
      buildStatusContext store reads other = some context ∧ item ∈ context.descendants := by
    obtain ⟨context, built⟩ := context_isSome offline other
    exact ⟨context, built, ((contexts.descendants other context held built).2 item).mpr below⟩
  have ancestor {item other : ContextItem} (below : Below store item other)
      (held : item.IsStored store) (otherHeld : other.IsStored store) : ∃ ancestors,
      collectAncestors store reads item = some ancestors ∧ other ∈ ancestors := by
    obtain ⟨context, built⟩ := context_isSome offline item
    obtain ⟨otherContext, otherBuilt, mem⟩ := descendant below otherHeld
    exact ⟨context.ancestors, (context_eq_some.mp built).1,
      (contexts.converse item other context otherContext held otherHeld built otherBuilt).mp mem⟩
  refine ⟨?_, ?_, ?_, ?_⟩
  · -- the descendants of a remote status are remote
    intro status held remote remoteStored replies
    have below : Below store (.status status) (.remote remote) :=
      Relation.TransGen.single ⟨held, remoteStored, replies⟩
    obtain ⟨context, built, mem⟩ := descendant below remoteStored
    obtain ⟨_, isRemote⟩ :=
      remote_of_mem_descendants (context_eq_some.mp built).2 mem
    cases isRemote
  · -- no status is among its own descendants
    intro item cycle
    have held : item.IsStored store := by
      obtain ⟨_, last⟩ := Relation.TransGen.tail'_iff.mp cycle
      exact last.2.2.1
    obtain ⟨context, built, mem⟩ := descendant cycle held
    exact root_not_mem_descendants (context_eq_some.mp built).2 mem
  · -- the walk up takes the local status of a URI
    intro child held status statusStored sameUri remote remoteStored replies
    have got : findStatusByApId store remote.objectUri = some status :=
      findByApId_eq_some.mpr ⟨statusStored, sameUri.symm.trans replies⟩
    have below : Below store (.remote child) (.remote remote) :=
      Relation.TransGen.single ⟨held, remoteStored, replies⟩
    obtain ⟨ancestors, collected, mem⟩ := ancestor below held remoteStored
    obtain ⟨_, isStatus⟩ :=
      local_of_mem_ancestors offline replies (by rw [got]; rfl) collected mem
    cases isStatus
  · -- the walk up stops below a local status that is not public
    intro child status below
    have held : (ContextItem.remote child).IsStored store := by
      obtain ⟨_, first⟩ := Relation.TransGen.head'_iff.mp below
      exact first.1.1
    have statusStored : (ContextItem.status status).IsStored store := by
      obtain ⟨_, last⟩ := Relation.TransGen.tail'_iff.mp below
      exact last.2.2.1
    obtain ⟨ancestors, collected, mem⟩ := ancestor below held statusStored
    exact isPublic_of_mem_ancestors offline collected mem

theorem below_of_one_reply {child parent item other : ContextItem}
    (one : ∀ item other, RepliesTo store item other → item = child ∧ other = parent)
    (different : child ≠ parent) (below : Below store item other) :
    item = child ∧ other = parent ∧ RepliesTo store item other := by
  induction below with
  | single reply =>
    obtain ⟨isChild, isParent⟩ := one _ _ reply
    exact ⟨isChild, isParent, reply⟩
  | tail _ reply ih =>
    obtain ⟨isChild, _⟩ := one _ _ reply
    exact absurd (isChild.symm.trans ih.2.1) different

theorem length_le_one {item : ContextItem} {items : List ContextItem} (nodup : items.Nodup)
    (all : ∀ other ∈ items, other = item) : items.length ≤ 1 := by
  rw [List.eq_replicate_of_mem all] at nodup ⊢
  simpa using List.nodup_replicate.mp nodup

theorem withinLimits_of_one_reply {child parent : ContextItem}
    (one : ∀ item other, RepliesTo store item other → item = child ∧ other = parent)
    (different : child ≠ parent) : WithinLimits store reads := by
  refine ⟨?_, ?_, ?_⟩
  · intro limit limited item other below
    obtain ⟨_, _, reply⟩ := below_of_one_reply one different below
    refine ⟨1, ?_, RepliesIn.direct reply⟩
    unfold contextDescendantMaxDepth at limited
    split_ifs at limited
    exact Option.some.inj limited ▸ Nat.le_of_ble_eq_true rfl
  · intro item below nodup all
    have few := length_le_one nodup fun other mem =>
      (below_of_one_reply one different (all other mem)).1
    have pos : 1 ≤ contextDescendantLimit reads.isAuthenticated := by
      cases reads.isAuthenticated <;> decide
    exact Nat.le_trans few pos
  · intro item above nodup all
    have few := length_le_one nodup fun other mem =>
      (below_of_one_reply one different (all other mem)).2.1
    have pos : 1 ≤ contextAncestorLimit reads.isAuthenticated := by
      cases reads.isAuthenticated <;> decide
    exact ⟨Nat.le_trans few pos, Nat.le_trans few (by decide)⟩

/-- Everything is visible, and nothing is fetched. -/
def exampleReads : ContextReads where
  isAuthenticated := false
  username _ := some "ana"
  actorUrl username := "https://here.example/users/" ++ username
  canViewLocalStatus _ := true
  hasRemoteActor _ := true
  resolveRemoteStatusByUrl _ := none

def exampleLocal (inReplyToId : Option String) : LocalThreadStatus where
  id := "l"
  accountId := "1"
  apId := some "https://here.example/users/ana/statuses/l"
  inReplyToId := inReplyToId
  visibility := .publicPost
  createdAt := "2024-01-02T00:00:00.000Z"

def exampleRemote (inReplyToUri : Option String) : RemoteThreadStatus where
  id := "r"
  actorUri := "https://far.example/users/bea"
  objectUri := "https://far.example/1"
  inReplyToUri := inReplyToUri
  visibility := .publicPost
  publishedAt := "2024-01-01T00:00:00.000Z"

/-- A local and a remote status. -/
def pairStore (inReplyToId inReplyToUri : Option String) : ThreadStore where
  statuses := Table.singleton (exampleLocal inReplyToId)
  remoteStatuses := Table.singleton (exampleRemote inReplyToUri)
  apIdStored status stored := by
    obtain rfl := List.mem_singleton.mp stored
    rfl
  apIdsDistinct := List.nodup_singleton _
  remoteIdsDistinct := List.nodup_singleton _

variable (inReplyToId inReplyToUri : Option String)

theorem allVisible_pairStore :
    AllVisible (pairStore inReplyToId inReplyToUri) exampleReads where
  owned _ _ := rfl
  seen _ _ := rfl
  isPublic status stored := by
    obtain rfl := List.mem_singleton.mp stored
    rfl
  hasActor _ _ := rfl

theorem offline_pairStore : Offline (pairStore inReplyToId inReplyToUri) exampleReads :=
  fun _ _ _ => rfl

theorem eq_of_isStored_pairStore {inReplyToId inReplyToUri : Option String} {item : ContextItem}
    (held : item.IsStored (pairStore inReplyToId inReplyToUri)) :
    item = .status (exampleLocal inReplyToId) ∨ item = .remote (exampleRemote inReplyToUri) := by
  cases item with
  | status row => exact Or.inl (congrArg _ (List.mem_singleton.mp held))
  | remote row => exact Or.inr (congrArg _ (List.mem_singleton.mp held))

theorem one_remote_reply (item other : ContextItem)
    (reply : RepliesTo (pairStore none (some "https://here.example/users/ana/statuses/l"))
      item other) :
    item = .remote (exampleRemote (some "https://here.example/users/ana/statuses/l"))
      ∧ other = .status (exampleLocal none) := by
  obtain ⟨held, otherHeld, names⟩ := reply
  rcases eq_of_isStored_pairStore held with rfl | rfl
  · rcases eq_of_isStored_pairStore otherHeld with rfl | rfl <;> cases names
  · rcases eq_of_isStored_pairStore otherHeld with rfl | rfl
    · exact ⟨rfl, rfl⟩
    · have sameUri : some "https://here.example/users/ana/statuses/l"
          = some "https://far.example/1" := names
      exact absurd sameUri (by decide)

theorem one_local_reply (item other : ContextItem)
    (reply : RepliesTo (pairStore (some "r") none) item other) :
    item = .status (exampleLocal (some "r")) ∧ other = .remote (exampleRemote none) := by
  obtain ⟨held, otherHeld, names⟩ := reply
  rcases eq_of_isStored_pairStore held with rfl | rfl
  · rcases eq_of_isStored_pairStore otherHeld with rfl | rfl
    · have sameId : some "r" = some "l" := names
      exact absurd sameId (by decide)
    · exact ⟨rfl, rfl⟩
  · rcases eq_of_isStored_pairStore otherHeld with rfl | rfl
    · cases names.1
    · cases names

theorem walkable_of_remote_reply :
    WalkableThreads (pairStore none (some "https://here.example/users/ana/statuses/l")) where
  localParents status stored remote _ := by
    obtain rfl := List.mem_singleton.mp stored
    intro replies
    cases replies
  acyclic item cycle := by
    obtain ⟨isChild, isParent, _⟩ := below_of_one_reply one_remote_reply (by decide) cycle
    cases isChild.symm.trans isParent
  oneParent child stored status _ _ remote remoteStored := by
    obtain rfl := List.mem_singleton.mp stored
    obtain rfl := List.mem_singleton.mp remoteStored
    decide
  publicParents child status below := by
    obtain ⟨_, isParent, _⟩ := below_of_one_reply one_remote_reply (by decide) below
    cases isParent
    rfl

end Cfwdon.Statuses
