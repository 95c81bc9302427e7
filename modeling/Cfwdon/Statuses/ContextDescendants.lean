import Cfwdon.Statuses.ReplyGraph

/-!
# The walk down a thread

Both walkers down a thread are one: that of a remote status is that of a local one without
local levels (`whileLoop_remote`).
-/

namespace Cfwdon.Statuses

open Library

variable {store : ThreadStore} {reads : ContextReads}

section Queries

variable {Row : Type} {date : Row → String} {rows : List Row} {row : Row}

theorem oldestFirst_perm (date : Row → String) (rows : List Row) :
    (oldestFirst date rows).Perm rows :=
  List.mergeSort_perm ..

@[simp] theorem mem_oldestFirst : row ∈ oldestFirst date rows ↔ row ∈ rows :=
  (oldestFirst_perm date rows).mem_iff

theorem nodup_oldestFirst {Key : Type} {key : Row → Key} (nodup : (rows.map key).Nodup) :
    ((oldestFirst date rows).map key).Nodup :=
  ((oldestFirst_perm date rows).map key).nodup_iff.mpr nodup

end Queries

variable {status : LocalThreadStatus} {key : String}

theorem mem_localRepliesTo {ids : List String} :
    status ∈ listDirectLocalRepliesToIds store ids
      ↔ status ∈ store.statuses.rows ∧ ∃ id, status.inReplyToId = some id ∧ id ∈ ids := by
  simp [listDirectLocalRepliesToIds, Table.select, Option.any_eq_true]

theorem mem_remoteRepliesTo {uris : List String} {status : RemoteThreadStatus} :
    status ∈ listDirectRemoteRepliesByUris store reads uris
      ↔ status ∈ store.remoteStatuses.rows
        ∧ (∃ uri, status.inReplyToUri = some uri ∧ uri ∈ uris)
        ∧ reads.hasRemoteActor status.actorUri = true := by
  simp [listDirectRemoteRepliesByUris, Table.select, Option.any_eq_true]

theorem nodup_localRepliesTo (ids : List String) :
    ((listDirectLocalRepliesToIds store ids).map LocalThreadStatus.id).Nodup :=
  nodup_oldestFirst ((List.filter_sublist.map _).nodup store.statuses.keysDistinct)

theorem nodup_remoteRepliesTo (uris : List String) :
    ((listDirectRemoteRepliesByUris store reads uris).map RemoteThreadStatus.id).Nodup :=
  nodup_oldestFirst ((List.filter_sublist.map _).nodup store.remoteIdsDistinct)

/-! ## The loop over the replies of a level -/

section Visit

variable {Row : Type} {id : Row → String} {parent : Row → Option String} {visible : Row → Bool}
  {depths : List (String × Nat)} {seenIds : Finset String} {replies : List Row} {k : Nat}

theorem parentDepth_of_level (level : ∀ entry ∈ depths, entry.2 = k)
    (mem : key ∈ depths.map Prod.fst) : parentDepth depths key = some k := by
  unfold parentDepth
  cases got : depths.reverse.lookup key with
  | none =>
    rw [List.lookup_eq_none_iff] at got
    obtain ⟨entry, held, rfl⟩ := List.mem_map.mp mem
    have other := got entry (List.mem_reverse.mpr held)
    simp at other
  | some depth =>
    obtain ⟨pre, post, split, _⟩ := List.lookup_eq_some_iff.mp got
    have held : (key, depth) ∈ depths := by
      rw [← List.mem_reverse, split]
      simp
    rw [← level _ held]

/-- **A reply that is kept had not been seen, and is now.** -/
theorem new_of_mem_visitReplies {entry : Row × Nat}
    (kept : entry ∈ (visitReplies reads id parent visible depths seenIds replies).1) :
    entry.1 ∈ replies ∧ id entry.1 ∉ seenIds
      ∧ id entry.1 ∈ (visitReplies reads id parent visible depths seenIds replies).2
      ∧ visible entry.1 = true := by
  obtain ⟨placed, fresh, ok⟩ := List.mem_filterMap.mp kept
  obtain ⟨childDepth, _, shown⟩ := Option.bind_eq_some_iff.mp ok
  split_ifs at shown with isVisible
  obtain rfl := Option.some.inj shown
  have listed := mem_of_mem_keepUnseen fresh
  obtain ⟨reply, here, isReply⟩ := List.mem_filterMap.mp listed
  obtain ⟨depth, _, rfl⟩ := Option.map_eq_some_iff.mp isReply
  have key := mem_keys_keepUnseen.mp (List.mem_map_of_mem
    (f := fun entry : Row × Nat => id entry.1) fresh)
  exact ⟨here, key.1, mem_seen_keepUnseen.mpr (Or.inr key.2), isVisible⟩

/-- **A level whose replies are all new, visible and within the depth** is kept whole. -/
theorem visitReplies_level (level : ∀ entry ∈ depths, entry.2 = k)
    (placed : ∀ reply ∈ replies, ∃ key, parent reply = some key ∧ key ∈ depths.map Prod.fst)
    (nodup : (replies.map id).Nodup) (new : ∀ reply ∈ replies, id reply ∉ seenIds)
    (within : ∀ reply ∈ replies,
      nextContextChildDepth (contextDescendantMaxDepth reads.isAuthenticated) k = some (k + 1))
    (shown : ∀ reply ∈ replies, visible reply = true) :
    (visitReplies reads id parent visible depths seenIds replies).1
        = replies.map (fun reply => (reply, k + 1))
      ∧ ∀ key, key ∈ (visitReplies reads id parent visible depths seenIds replies).2
        ↔ key ∈ seenIds ∨ key ∈ replies.map id := by
  have all : (replies.filterMap fun reply =>
      ((parent reply).bind (parentDepth depths)).map fun depth => (reply, depth))
        = replies.map fun reply => (reply, k) := by
    rw [← List.filterMap_eq_map]
    refine List.filterMap_congr fun reply mem => ?_
    obtain ⟨key, isParent, here⟩ := placed reply mem
    rw [isParent, Option.bind_some, parentDepth_of_level level here]
    rfl
  have keys : (replies.map fun reply => (reply, k)).map (fun entry => id entry.1)
      = replies.map id := by
    rw [List.map_map]
    rfl
  have fresh : (keepUnseen (fun entry : Row × Nat => id entry.1) seenIds
      (replies.map fun reply => (reply, k))).1 = replies.map fun reply => (reply, k) := by
    refine keepUnseen_eq_self (by rw [keys]; exact nodup) ?_
    intro entry mem
    obtain ⟨reply, here, rfl⟩ := List.mem_map.mp mem
    exact new reply here
  unfold visitReplies
  rw [all]
  refine ⟨?_, fun key => ?_⟩
  · dsimp only
    rw [fresh, List.filterMap_map, ← List.filterMap_eq_map]
    refine List.filterMap_congr fun reply mem => ?_
    simp only [Function.comp_apply, within reply mem, Option.bind_some, shown reply mem, if_true]
  · rw [mem_seen_keepUnseen, keys]

end Visit

/-! ## The walk ends -/

theorem LocalDescendantWalk.seenLocalIds_subset (walk : LocalDescendantWalk) :
    walk.seenLocalIds ⊆ (walk.next store reads).seenLocalIds := by
  intro id seen
  exact mem_seen_keepUnseen.mpr (Or.inl seen)

theorem LocalDescendantWalk.seenRemoteIds_subset (walk : LocalDescendantWalk) :
    walk.seenRemoteIds ⊆ (walk.next store reads).seenRemoteIds := by
  intro id seen
  exact mem_seen_keepUnseen.mpr (Or.inl seen)

/-- The statuses not seen yet, and one more while the walk goes on. -/
def LocalDescendantWalk.measure (store : ThreadStore) (walk : LocalDescendantWalk) : Nat :=
  unseenCount LocalThreadStatus.id store.statuses.rows walk.seenLocalIds
    + unseenCount RemoteThreadStatus.id store.remoteStatuses.rows walk.seenRemoteIds
    + if walk.continues then 1 else 0

/-- **A level that is not the last one adds a status that was not seen.** -/
theorem LocalDescendantWalk.measure_next_lt {walk : LocalDescendantWalk}
    (goesOn : walk.continues = true) :
    (walk.next store reads).measure store < walk.measure store := by
  have locals : unseenCount LocalThreadStatus.id store.statuses.rows
        (walk.next store reads).seenLocalIds
      ≤ unseenCount LocalThreadStatus.id store.statuses.rows walk.seenLocalIds :=
    unseenCount_le walk.seenLocalIds_subset
  have remotes : unseenCount RemoteThreadStatus.id store.remoteStatuses.rows
        (walk.next store reads).seenRemoteIds
      ≤ unseenCount RemoteThreadStatus.id store.remoteStatuses.rows walk.seenRemoteIds :=
    unseenCount_le walk.seenRemoteIds_subset
  unfold LocalDescendantWalk.measure
  rw [if_pos goesOn]
  cases goesOnNext : (walk.next store reads).continues with
  | false => simp only [Bool.false_eq_true, if_false]; omega
  | true =>
    simp only [if_true]
    have added : unseenCount LocalThreadStatus.id store.statuses.rows
          (walk.next store reads).seenLocalIds
        < unseenCount LocalThreadStatus.id store.statuses.rows walk.seenLocalIds
      ∨ unseenCount RemoteThreadStatus.id store.remoteStatuses.rows
          (walk.next store reads).seenRemoteIds
        < unseenCount RemoteThreadStatus.id store.remoteStatuses.rows walk.seenRemoteIds := by
      rcases Bool.or_eq_true_iff.mp goesOnNext with ne | ne
      · left
        obtain ⟨node, mem⟩ := List.exists_mem_of_ne_nil _ (by simpa using ne)
        obtain ⟨entry, kept, _⟩ := List.mem_map.mp mem
        obtain ⟨listed, new, seen, _⟩ := new_of_mem_visitReplies kept
        exact unseenCount_lt walk.seenLocalIds_subset (mem_localRepliesTo.mp listed).1 new seen
      · right
        obtain ⟨node, mem⟩ := List.exists_mem_of_ne_nil _ (by simpa using ne)
        obtain ⟨entry, kept, _⟩ := List.mem_map.mp mem
        obtain ⟨listed, new, seen, _⟩ := new_of_mem_visitReplies kept
        exact unseenCount_lt walk.seenRemoteIds_subset (mem_remoteRepliesTo.mp listed).1 new seen
    omega

theorem LocalDescendantWalk.measure_le (walk : LocalDescendantWalk) :
    walk.measure store ≤ walkRounds store := by
  have locals : unseenCount LocalThreadStatus.id store.statuses.rows walk.seenLocalIds
      ≤ store.statuses.rows.length := unseenCount_le_length
  have remotes : unseenCount RemoteThreadStatus.id store.remoteStatuses.rows walk.seenRemoteIds
      ≤ store.remoteStatuses.rows.length := unseenCount_le_length
  unfold LocalDescendantWalk.measure walkRounds
  split_ifs <;> omega

/-- **The walk down ends**, whatever is stored. -/
theorem exists_descendantWalk (walk : LocalDescendantWalk) :
    ∃ ended, whileLoop LocalDescendantWalk.continues (LocalDescendantWalk.next store reads)
      (walkRounds store) walk = some ended :=
  exists_whileLoop (fun _ => True) (LocalDescendantWalk.measure store) trivial
    (fun _ _ _ => trivial) (fun _ _ goesOn => LocalDescendantWalk.measure_next_lt goesOn)
    walk.measure_le

/-! ## The walk from a remote status -/

def RemoteDescendantWalk.asLocal (walk : RemoteDescendantWalk) : LocalDescendantWalk where
  localLevel := []
  remoteLevel := walk.level
  seenLocalIds := ∅
  seenRemoteIds := walk.seenRemoteIds
  descendants := walk.descendants

theorem RemoteDescendantWalk.asLocal_next (walk : RemoteDescendantWalk) :
    walk.asLocal.next store reads = (walk.next store reads).asLocal := by
  have noReplies : listDirectLocalRepliesToIds store [] = [] := by
    refine List.eq_nil_iff_forall_not_mem.mpr fun status mem => ?_
    obtain ⟨_, _, _, none⟩ := mem_localRepliesTo.mp mem
    cases none
  simp [LocalDescendantWalk.next, RemoteDescendantWalk.next, RemoteDescendantWalk.asLocal,
    noReplies, visitLocalReplies, visitReplies, keepUnseen]

/-- **The walk from a remote status is one from a local status.** -/
theorem whileLoop_remote (walk : RemoteDescendantWalk) (fuel : Nat) :
    whileLoop LocalDescendantWalk.continues (LocalDescendantWalk.next store reads) fuel walk.asLocal
      = (whileLoop RemoteDescendantWalk.continues (RemoteDescendantWalk.next store reads) fuel
          walk).map RemoteDescendantWalk.asLocal :=
  whileLoop_map RemoteDescendantWalk.asLocal (fun _ => by rfl) fun walk _ => walk.asLocal_next

/-- The walk that begins with a status. -/
def startWalk (reads : ContextReads) : ContextItem → LocalDescendantWalk
  | .status root => .start reads root
  | .remote root => (RemoteDescendantWalk.start root).asLocal

/-- `collect_descendants_for_local_root` or `collect_descendants_for_remote_root`. -/
def collectDescendants (store : ThreadStore) (reads : ContextReads) :
    ContextItem → Option (List ContextItem)
  | .status root => collectDescendantsForLocalRoot store reads root
  | .remote root => collectDescendantsForRemoteRoot store reads root

/-- **Both walkers down** are the one walk. -/
theorem collectDescendants_eq (root : ContextItem) :
    collectDescendants store reads root
      = (whileLoop LocalDescendantWalk.continues (LocalDescendantWalk.next store reads)
          (walkRounds store) (startWalk reads root)).map
        fun walk => finishDescendants reads walk.descendants := by
  cases root with
  | status root => rfl
  | remote root =>
    rw [startWalk, whileLoop_remote, Option.map_map]
    rfl

/-! ## What the walk never holds -/

def LocalDescendantWalk.HasSeen (walk : LocalDescendantWalk) : ContextItem → Prop
  | .status row => row.id ∈ walk.seenLocalIds
  | .remote row => row.id ∈ walk.seenRemoteIds

variable {item : ContextItem} {descendants : List ContextItem}

theorem LocalDescendantWalk.hasSeen_next {walk : LocalDescendantWalk} (seen : walk.HasSeen item) :
    (walk.next store reads).HasSeen item := by
  cases item with
  | status row => exact walk.seenLocalIds_subset seen
  | remote row => exact walk.seenRemoteIds_subset seen

theorem LocalDescendantWalk.mem_next {walk : LocalDescendantWalk}
    (mem : item ∈ (walk.next store reads).descendants) :
    item ∈ walk.descendants ∨ ¬ walk.HasSeen item := by
  rcases List.mem_append.mp mem with former | remote
  · rcases List.mem_append.mp former with pre | status
    · exact Or.inl pre
    · obtain ⟨entry, kept, rfl⟩ := List.mem_map.mp status
      exact Or.inr (new_of_mem_visitReplies kept).2.1
  · obtain ⟨entry, kept, rfl⟩ := List.mem_map.mp remote
    exact Or.inr (new_of_mem_visitReplies kept).2.1

theorem mem_of_mem_finishDescendants (mem : item ∈ finishDescendants reads descendants) :
    item ∈ descendants :=
  mem_oldestFirst.mp (List.mem_of_mem_take mem)

theorem startWalk_hasSeen (root : ContextItem) : (startWalk reads root).HasSeen root := by
  cases root with
  | status root | remote root => exact Finset.mem_singleton_self root.id

/-- **A status is not among its own descendants.** -/
theorem root_not_mem_descendants {root : ContextItem}
    (collected : collectDescendants store reads root = some descendants) :
    root ∉ descendants := by
  rw [collectDescendants_eq] at collected
  obtain ⟨walk, ended, rfl⟩ := Option.map_eq_some_iff.mp collected
  have holds : walk.HasSeen root ∧ root ∉ walk.descendants := by
    refine (whileLoop_invariant (fun walk => walk.HasSeen root ∧ root ∉ walk.descendants) ended
      ⟨startWalk_hasSeen root, ?_⟩ ?_).1
    · cases root <;> exact List.not_mem_nil
    · rintro walk ⟨seen, other⟩ _
      refine ⟨LocalDescendantWalk.hasSeen_next seen, fun mem => ?_⟩
      rcases LocalDescendantWalk.mem_next mem with pre | new
      · exact other pre
      · exact new seen
  exact fun mem => holds.2 (mem_of_mem_finishDescendants mem)

/-- **The descendants of a remote status are remote.** -/
theorem remote_of_mem_descendants {root : RemoteThreadStatus}
    (collected : collectDescendants store reads (.remote root) = some descendants)
    (mem : item ∈ descendants) : ∃ row, item = .remote row := by
  obtain ⟨walk, ended, rfl⟩ := Option.map_eq_some_iff.mp collected
  have holds : ∀ item ∈ walk.descendants, ∃ row, item = ContextItem.remote row := by
    refine (whileLoop_invariant (fun walk : RemoteDescendantWalk =>
      ∀ item ∈ walk.descendants, ∃ row, item = ContextItem.remote row) ended ?_ ?_).1
    · intro item none
      cases none
    · intro walk remote _ item mem
      rcases List.mem_append.mp mem with pre | new
      · exact remote item pre
      · obtain ⟨entry, _, rfl⟩ := List.mem_map.mp new
        exact ⟨entry.1, rfl⟩
  exact holds item (mem_of_mem_finishDescendants mem)

/-! ## The levels of walkable threads -/

theorem localObjectUri_of_apId {uri : String}
    (named : status.apId = some uri) : localContextObjectUri reads status = uri := by
  rw [localContextObjectUri, named, Option.getD_some]

/-- **After `k` rounds** the levels hold the statuses `k` replies below the root, and the
descendants are those between. -/
structure LevelReached (store : ThreadStore) (reads : ContextReads) (root : ContextItem)
    (k : Nat) (walk : LocalDescendantWalk) : Prop where
  localLevel : ∀ node, node ∈ walk.localLevel ↔ ∃ status ∈ store.statuses.rows,
    ancestor (parentItem store) k (.status status) = some root
      ∧ node = ⟨status.id, localContextObjectUri reads status, k⟩
  remoteLevel : ∀ node, node ∈ walk.remoteLevel ↔ ∃ status ∈ store.remoteStatuses.rows,
    ancestor (parentItem store) k (.remote status) = some root ∧ node = ⟨status.objectUri, k⟩
  seenLocal : ∀ id, id ∈ walk.seenLocalIds ↔ ∃ status ∈ store.statuses.rows,
    status.id = id ∧ ∃ j ≤ k, ancestor (parentItem store) j (.status status) = some root
  seenRemote : ∀ id, id ∈ walk.seenRemoteIds ↔ ∃ status ∈ store.remoteStatuses.rows,
    status.id = id ∧ ∃ j ≤ k, ancestor (parentItem store) j (.remote status) = some root
  descendants : ∀ item, item ∈ walk.descendants ↔ item.IsStored store
    ∧ ∃ j, 0 < j ∧ j ≤ k ∧ ancestor (parentItem store) j item = some root
  distinct : walk.descendants.Nodup

section Levels

variable {root : ContextItem} {walk : LocalDescendantWalk} {k : Nat}

theorem LevelReached.start (held : root.IsStored store) :
    LevelReached store reads root 0 (startWalk reads root) := by
  cases root with
  | status root =>
    have own {status : LocalThreadStatus} :
        ancestor (parentItem store) 0 (.status status) = some (.status root)
          ↔ status = root := by simp
    refine ⟨fun node => ?_, fun node => ?_, fun id => ?_, fun id => ?_, fun item => ?_,
      List.nodup_nil⟩
    · simp only [own, startWalk, LocalDescendantWalk.start, List.mem_singleton]
      constructor
      · rintro rfl
        exact ⟨root, held, rfl, rfl⟩
      · rintro ⟨_, _, rfl, rfl⟩
        rfl
    · simp [startWalk, LocalDescendantWalk.start]
    · simp only [Nat.le_zero, exists_eq_left, own, startWalk, LocalDescendantWalk.start,
        Finset.mem_singleton]
      constructor
      · rintro rfl
        exact ⟨root, held, rfl, rfl⟩
      · rintro ⟨_, _, rfl, rfl⟩
        rfl
    · simp [startWalk, LocalDescendantWalk.start]
    · simp only [startWalk, LocalDescendantWalk.start, List.not_mem_nil, false_iff]
      rintro ⟨_, j, pos, zero, _⟩
      omega
  | remote root =>
    have own {status : RemoteThreadStatus} :
        ancestor (parentItem store) 0 (.remote status) = some (.remote root)
          ↔ status = root := by simp
    refine ⟨fun node => ?_, fun node => ?_, fun id => ?_, fun id => ?_, fun item => ?_,
      List.nodup_nil⟩
    · simp [startWalk, RemoteDescendantWalk.asLocal]
    · simp only [own, startWalk, RemoteDescendantWalk.asLocal, RemoteDescendantWalk.start,
        List.mem_singleton]
      constructor
      · rintro rfl
        exact ⟨root, held, rfl, rfl⟩
      · rintro ⟨_, _, rfl, rfl⟩
        rfl
    · simp [startWalk, RemoteDescendantWalk.asLocal]
    · simp only [Nat.le_zero, exists_eq_left, own, startWalk, RemoteDescendantWalk.asLocal,
        RemoteDescendantWalk.start, Finset.mem_singleton]
      constructor
      · rintro rfl
        exact ⟨root, held, rfl, rfl⟩
      · rintro ⟨_, _, rfl, rfl⟩
        rfl
    · simp only [startWalk, RemoteDescendantWalk.asLocal, RemoteDescendantWalk.start,
        List.not_mem_nil, false_iff]
      rintro ⟨_, j, pos, zero, _⟩
      omega

theorem LevelReached.mem_localReplies (reach : LevelReached store reads root k walk)
    :
    status ∈ listDirectLocalRepliesToIds store
        ((walk.localLevel.map fun node => (node.statusId, node.depth)).map Prod.fst)
      ↔ status ∈ store.statuses.rows
        ∧ ancestor (parentItem store) (k + 1) (.status status) = some root := by
  rw [mem_localRepliesTo, ancestor_succ', List.map_map]
  refine and_congr_right fun _ => ?_
  constructor
  · rintro ⟨id, replies, mem⟩
    obtain ⟨node, inLevel, rfl⟩ := List.mem_map.mp mem
    obtain ⟨parent, held, above, rfl⟩ := (reach.localLevel node).mp inLevel
    have got : parentItem store (.status status) = some (.status parent) := by
      rw [parentItem, replies, Option.bind_some]
      exact congrArg _ (Table.find_of_mem held)
    rw [got]
    exact above
  · intro above
    obtain ⟨item, got, above⟩ := Option.bind_eq_some_iff.mp above
    obtain ⟨parent, named, rfl⟩ := Option.map_eq_some_iff.mp got
    obtain ⟨id, replies, held⟩ := Option.bind_eq_some_iff.mp named
    have inLevel := (reach.localLevel _).mpr ⟨parent, Table.mem_of_find held, above, rfl⟩
    have sameId : parent.id = id := Table.key_of_find held
    exact ⟨id, replies, List.mem_map.mpr ⟨_, inLevel, sameId⟩⟩

theorem LevelReached.mem_remoteReplies (walkable : WalkableThreads store)
    (visible : AllVisible store reads) (reach : LevelReached store reads root k walk)
    {status : RemoteThreadStatus} :
    status ∈ listDirectRemoteRepliesByUris store reads
        (((walk.localLevel.map fun node => (node.objectUri, node.depth))
          ++ walk.remoteLevel.map fun node => (node.objectUri, node.depth)).map Prod.fst)
      ↔ status ∈ store.remoteStatuses.rows
        ∧ ancestor (parentItem store) (k + 1) (.remote status) = some root := by
  rw [mem_remoteRepliesTo, ancestor_succ', List.map_append, List.map_map, List.map_map]
  refine and_congr_right fun child => ?_
  rw [and_iff_left (visible.hasActor status child)]
  constructor
  · rintro ⟨uri, replies, mem⟩
    have parentFound : ∃ parent, RepliesTo store (.remote status) parent
        ∧ ancestor (parentItem store) k parent = some root := by
      rcases List.mem_append.mp mem with inLocal | inRemote
      · obtain ⟨node, inLevel, rfl⟩ := List.mem_map.mp inLocal
        obtain ⟨parent, held, above, rfl⟩ := (reach.localLevel node).mp inLevel
        obtain ⟨apId, named⟩ := Option.isSome_iff_exists.mp (store.apIdStored parent held)
        refine ⟨.status parent, ⟨child, held, ?_⟩, above⟩
        refine ⟨by rw [replies]; rfl, replies.trans ?_⟩
        rw [named]
        exact congrArg some (localObjectUri_of_apId named)
      · obtain ⟨node, inLevel, rfl⟩ := List.mem_map.mp inRemote
        obtain ⟨parent, held, above, rfl⟩ := (reach.remoteLevel node).mp inLevel
        exact ⟨.remote parent, ⟨child, held, replies⟩, above⟩
    obtain ⟨parent, reply, above⟩ := parentFound
    rw [((repliesTo_iff walkable).mp reply).2]
    exact above
  · intro above
    obtain ⟨parent, got, above⟩ := Option.bind_eq_some_iff.mp above
    have isChild : (ContextItem.remote status).IsStored store := child
    obtain ⟨_, held, names⟩ := repliesTo_of_parentItem isChild got
    cases parent with
    | status parent =>
      obtain ⟨replies, sameUri⟩ := names
      obtain ⟨uri, isUri⟩ := Option.isSome_iff_exists.mp replies
      refine ⟨uri, isUri, List.mem_append_left _ (List.mem_map.mpr ⟨_,
        (reach.localLevel _).mpr ⟨parent, held, above, rfl⟩, ?_⟩)⟩
      exact localObjectUri_of_apId (sameUri.symm.trans isUri)
    | remote parent =>
      exact ⟨parent.objectUri, names, List.mem_append_right _ (List.mem_map.mpr ⟨_,
        (reach.remoteLevel _).mpr ⟨parent, held, above, rfl⟩, rfl⟩)⟩

theorem childDepth_of_ancestor (walkable : WalkableThreads store)
    (limits : WithinLimits store reads) (held : item.IsStored store)
    (above : ancestor (parentItem store) (k + 1) item = some root) :
    nextContextChildDepth (contextDescendantMaxDepth reads.isAuthenticated) k = some (k + 1) := by
  unfold nextContextChildDepth
  cases limited : contextDescendantMaxDepth reads.isAuthenticated with
  | none => rfl
  | some limit =>
    obtain ⟨j, small, chain⟩ := limits.depth limit limited item root
      ((below_iff walkable).mpr ⟨held, k, above⟩)
    obtain ⟨_, _, reach⟩ := (repliesIn_iff walkable).mp chain
    have eq := ancestor_injective (parentItem_acyclic walkable) reach above
    have notDeeper : ¬ limit < k + 1 := by omega
    exact if_neg fun deeper => notDeeper (of_decide_eq_true deeper)

theorem LevelReached.visit_local (walkable : WalkableThreads store)
    (visible : AllVisible store reads) (limits : WithinLimits store reads)
    (reach : LevelReached store reads root k walk) :
    let depths := walk.localLevel.map fun node => (node.statusId, node.depth)
    let replies := listDirectLocalRepliesToIds store (depths.map Prod.fst)
    (visitLocalReplies reads depths walk.seenLocalIds replies).1
        = replies.map (fun reply => (reply, k + 1))
      ∧ ∀ id, id ∈ (visitLocalReplies reads depths walk.seenLocalIds replies).2
        ↔ id ∈ walk.seenLocalIds ∨ id ∈ replies.map LocalThreadStatus.id := by
  intro depths replies
  apply visitReplies_level
  · intro entry mem
    obtain ⟨node, inLevel, rfl⟩ := List.mem_map.mp mem
    obtain ⟨_, _, _, rfl⟩ := (reach.localLevel node).mp inLevel
    rfl
  · intro reply mem
    exact (mem_localRepliesTo.mp mem).2
  · exact nodup_localRepliesTo _
  · intro reply mem seen
    obtain ⟨held, above⟩ := reach.mem_localReplies.mp mem
    obtain ⟨status, held', sameId, j, low, above'⟩ := (reach.seenLocal reply.id).mp seen
    obtain rfl := Table.eq_of_key_eq held' held sameId
    have eq := ancestor_injective (parentItem_acyclic walkable) above' above
    omega
  · intro reply mem
    obtain ⟨held, above⟩ := reach.mem_localReplies.mp mem
    have isStored : (ContextItem.status reply).IsStored store := held
    exact childDepth_of_ancestor walkable limits isStored above
  · intro reply mem
    obtain ⟨held, _⟩ := reach.mem_localReplies.mp mem
    rw [visible.owned reply held, visible.seen reply held]
    rfl

theorem LevelReached.visit_remote (walkable : WalkableThreads store)
    (visible : AllVisible store reads) (limits : WithinLimits store reads)
    (reach : LevelReached store reads root k walk) :
    let depths := (walk.localLevel.map fun node => (node.objectUri, node.depth))
      ++ walk.remoteLevel.map fun node => (node.objectUri, node.depth)
    let replies := listDirectRemoteRepliesByUris store reads (depths.map Prod.fst)
    (visitRemoteReplies reads depths walk.seenRemoteIds replies).1
        = replies.map (fun reply => (reply, k + 1))
      ∧ ∀ id, id ∈ (visitRemoteReplies reads depths walk.seenRemoteIds replies).2
        ↔ id ∈ walk.seenRemoteIds ∨ id ∈ replies.map RemoteThreadStatus.id := by
  intro depths replies
  apply visitReplies_level
  · intro entry mem
    rcases List.mem_append.mp mem with inLocal | inRemote
    · obtain ⟨node, inLevel, rfl⟩ := List.mem_map.mp inLocal
      obtain ⟨_, _, _, rfl⟩ := (reach.localLevel node).mp inLevel
      rfl
    · obtain ⟨node, inLevel, rfl⟩ := List.mem_map.mp inRemote
      obtain ⟨_, _, _, rfl⟩ := (reach.remoteLevel node).mp inLevel
      rfl
  · intro reply mem
    exact (mem_remoteRepliesTo.mp mem).2.1
  · exact nodup_remoteRepliesTo _
  · intro reply mem seen
    obtain ⟨held, above⟩ := (reach.mem_remoteReplies walkable visible).mp mem
    obtain ⟨status, held', sameId, j, low, above'⟩ := (reach.seenRemote reply.id).mp seen
    obtain rfl := eq_of_remoteId_eq held' held sameId
    have eq := ancestor_injective (parentItem_acyclic walkable) above' above
    omega
  · intro reply mem
    obtain ⟨held, above⟩ := (reach.mem_remoteReplies walkable visible).mp mem
    have isStored : (ContextItem.remote reply).IsStored store := held
    exact childDepth_of_ancestor walkable limits isStored above
  · intro reply mem
    exact visible.isPublic reply ((reach.mem_remoteReplies walkable visible).mp mem).1

/-- Seen after one more round: at a height up to `k`, or at the next one. -/
theorem seen_succ_iff {Row : Type} {id : Row → String} {rows replies : List Row}
    {item : Row → ContextItem}
    (next : ∀ row, row ∈ replies
      ↔ row ∈ rows ∧ ancestor (parentItem store) (k + 1) (item row) = some root) :
    ((∃ row ∈ rows, id row = key
        ∧ ∃ j ≤ k, ancestor (parentItem store) j (item row) = some root)
        ∨ key ∈ replies.map id)
      ↔ ∃ row ∈ rows, id row = key
        ∧ ∃ j ≤ k + 1, ancestor (parentItem store) j (item row) = some root := by
  constructor
  · rintro (⟨row, held, isKey, j, low, above⟩ | mem)
    · exact ⟨row, held, isKey, j, Nat.le_succ_of_le low, above⟩
    · obtain ⟨row, isReply, isKey⟩ := List.mem_map.mp mem
      obtain ⟨held, above⟩ := (next row).mp isReply
      exact ⟨row, held, isKey, k + 1, Nat.le_refl _, above⟩
  · rintro ⟨row, held, isKey, j, low, above⟩
    rcases Nat.lt_or_eq_of_le low with less | rfl
    · exact Or.inl ⟨row, held, isKey, j, Nat.le_of_lt_succ less, above⟩
    · exact Or.inr (List.mem_map.mpr ⟨row, (next row).mpr ⟨held, above⟩, isKey⟩)

structure RoundKeeps (store : ThreadStore) (reads : ContextReads) (root : ContextItem) (k : Nat)
    (walk : LocalDescendantWalk) (locals : List LocalThreadStatus)
    (remotes : List RemoteThreadStatus) : Prop where
  localLevel : (walk.next store reads).localLevel
    = locals.map fun status => ⟨status.id, localContextObjectUri reads status, k + 1⟩
  remoteLevel : (walk.next store reads).remoteLevel
    = remotes.map fun status => ⟨status.objectUri, k + 1⟩
  seenLocal : ∀ id, id ∈ (walk.next store reads).seenLocalIds
    ↔ id ∈ walk.seenLocalIds ∨ id ∈ locals.map LocalThreadStatus.id
  seenRemote : ∀ id, id ∈ (walk.next store reads).seenRemoteIds
    ↔ id ∈ walk.seenRemoteIds ∨ id ∈ remotes.map RemoteThreadStatus.id
  descendants : (walk.next store reads).descendants
    = walk.descendants ++ locals.map ContextItem.status ++ remotes.map ContextItem.remote
  localsDistinct : (locals.map LocalThreadStatus.id).Nodup
  remotesDistinct : (remotes.map RemoteThreadStatus.id).Nodup
  mem_locals : ∀ status, status ∈ locals ↔ status ∈ store.statuses.rows
    ∧ ancestor (parentItem store) (k + 1) (.status status) = some root
  mem_remotes : ∀ status, status ∈ remotes ↔ status ∈ store.remoteStatuses.rows
    ∧ ancestor (parentItem store) (k + 1) (.remote status) = some root

theorem LevelReached.roundKeeps (walkable : WalkableThreads store)
    (visible : AllVisible store reads) (limits : WithinLimits store reads)
    (reach : LevelReached store reads root k walk) :
    ∃ locals remotes, RoundKeeps store reads root k walk locals remotes := by
  obtain ⟨keptLocal, seenLocal⟩ := reach.visit_local walkable visible limits
  obtain ⟨keptRemote, seenRemote⟩ := reach.visit_remote walkable visible limits
  refine ⟨_, _, ⟨?_, ?_, seenLocal, seenRemote, ?_, nodup_localRepliesTo _,
    nodup_remoteRepliesTo _, fun _ => reach.mem_localReplies,
    fun _ => reach.mem_remoteReplies walkable visible⟩⟩
  · dsimp only [LocalDescendantWalk.next]
    rw [keptLocal, List.map_map]
    rfl
  · dsimp only [LocalDescendantWalk.next]
    rw [keptRemote, List.map_map]
    rfl
  · dsimp only [LocalDescendantWalk.next]
    rw [keptLocal, keptRemote]
    simp only [List.map_map, Function.comp_def]

theorem LevelReached.next (walkable : WalkableThreads store) (visible : AllVisible store reads)
    (limits : WithinLimits store reads) (reach : LevelReached store reads root k walk) :
    LevelReached store reads root (k + 1) (walk.next store reads) := by
  obtain ⟨locals, remotes, kept⟩ := reach.roundKeeps walkable visible limits
  have acyclic := parentItem_acyclic walkable
  -- what a round adds stands one reply lower than what was there
  have lower {item : ContextItem} (pre : item ∈ walk.descendants)
      (above : ancestor (parentItem store) (k + 1) item = some root) : False := by
    obtain ⟨_, j, _, low, above'⟩ := (reach.descendants item).mp pre
    have eq := ancestor_injective acyclic above' above
    omega
  refine ⟨fun node => ?_, fun node => ?_, fun id => ?_, fun id => ?_, fun item => ?_, ?_⟩
  · rw [kept.localLevel, List.mem_map]
    constructor
    · rintro ⟨status, mem, rfl⟩
      obtain ⟨held, above⟩ := (kept.mem_locals status).mp mem
      exact ⟨status, held, above, rfl⟩
    · rintro ⟨status, held, above, rfl⟩
      exact ⟨status, (kept.mem_locals status).mpr ⟨held, above⟩, rfl⟩
  · rw [kept.remoteLevel, List.mem_map]
    constructor
    · rintro ⟨status, mem, rfl⟩
      obtain ⟨held, above⟩ := (kept.mem_remotes status).mp mem
      exact ⟨status, held, above, rfl⟩
    · rintro ⟨status, held, above, rfl⟩
      exact ⟨status, (kept.mem_remotes status).mpr ⟨held, above⟩, rfl⟩
  · rw [kept.seenLocal, reach.seenLocal]
    exact seen_succ_iff kept.mem_locals
  · rw [kept.seenRemote, reach.seenRemote]
    exact seen_succ_iff kept.mem_remotes
  · rw [kept.descendants, List.mem_append, List.mem_append, reach.descendants]
    constructor
    · rintro ((⟨held, j, pos, low, above⟩ | mem) | mem)
      · exact ⟨held, j, pos, Nat.le_succ_of_le low, above⟩
      · obtain ⟨status, isReply, rfl⟩ := List.mem_map.mp mem
        obtain ⟨held, above⟩ := (kept.mem_locals status).mp isReply
        exact ⟨held, k + 1, Nat.succ_pos k, Nat.le_refl _, above⟩
      · obtain ⟨status, isReply, rfl⟩ := List.mem_map.mp mem
        obtain ⟨held, above⟩ := (kept.mem_remotes status).mp isReply
        exact ⟨held, k + 1, Nat.succ_pos k, Nat.le_refl _, above⟩
    · rintro ⟨held, j, pos, low, above⟩
      rcases Nat.lt_or_eq_of_le low with less | rfl
      · exact Or.inl (Or.inl ⟨held, j, pos, Nat.le_of_lt_succ less, above⟩)
      · cases item with
        | status status =>
          exact Or.inl (Or.inr (List.mem_map_of_mem ((kept.mem_locals status).mpr ⟨held, above⟩)))
        | remote status =>
          exact Or.inr (List.mem_map_of_mem ((kept.mem_remotes status).mpr ⟨held, above⟩))
  · rw [kept.descendants]
    refine List.nodup_append.mpr ⟨List.nodup_append.mpr ⟨reach.distinct, ?_, ?_⟩, ?_, ?_⟩
    · exact kept.localsDistinct.of_map.map fun _ _ eq => ContextItem.status.inj eq
    · rintro item pre _ mem rfl
      obtain ⟨status, isReply, rfl⟩ := List.mem_map.mp mem
      exact lower pre ((kept.mem_locals status).mp isReply).2
    · exact kept.remotesDistinct.of_map.map fun _ _ eq => ContextItem.remote.inj eq
    · rintro item pre _ mem rfl
      obtain ⟨status, isReply, rfl⟩ := List.mem_map.mp mem
      rcases List.mem_append.mp pre with pre | isLocal
      · exact lower pre ((kept.mem_remotes status).mp isReply).2
      · obtain ⟨_, _, eq⟩ := List.mem_map.mp isLocal
        cases eq

theorem LevelReached.height_le (reach : LevelReached store reads root k walk)
    (ended : walk.continues = false) {j : Nat} (held : item.IsStored store)
    (above : ancestor (parentItem store) j item = some root) : j < k := by
  by_contra atLeast
  obtain ⟨d, rfl⟩ := Nat.exists_eq_add_of_le (Nat.le_of_not_lt atLeast)
  rw [Nat.add_comm, ancestor_add] at above
  obtain ⟨between, climbed, above⟩ := Option.bind_eq_some_iff.mp above
  have betweenStored := ancestor_isStored held climbed
  have levels : walk.localLevel = [] ∧ walk.remoteLevel = [] := by
    simpa [LocalDescendantWalk.continues] using ended
  cases between with
  | status status =>
    have mem := (reach.localLevel _).mpr ⟨status, betweenStored, above, rfl⟩
    rw [levels.1] at mem
    cases mem
  | remote status =>
    have mem := (reach.remoteLevel _).mpr ⟨status, betweenStored, above, rfl⟩
    rw [levels.2] at mem
    cases mem

/-- **The descendants in walkable threads** are the statuses below the root, each once. -/
theorem mem_descendants_iff (walkable : WalkableThreads store) (visible : AllVisible store reads)
    (limits : WithinLimits store reads) (held : root.IsStored store)
    (collected : collectDescendants store reads root = some descendants) :
    descendants.Nodup ∧ ∀ item, item ∈ descendants ↔ Below store item root := by
  rw [collectDescendants_eq] at collected
  obtain ⟨walk, ended, rfl⟩ := Option.map_eq_some_iff.mp collected
  obtain ⟨⟨k, reach⟩, stop⟩ := whileLoop_invariant
    (fun walk => ∃ k, LevelReached store reads root k walk) ended
    ⟨0, LevelReached.start held⟩
    fun walk ⟨k, reach⟩ _ => ⟨k + 1, reach.next walkable visible limits⟩
  have below (item : ContextItem) : item ∈ walk.descendants ↔ Below store item root := by
    rw [reach.descendants, below_iff walkable]
    refine and_congr_right fun itemStored => ?_
    constructor
    · rintro ⟨j, pos, _, above⟩
      obtain ⟨i, rfl⟩ := Nat.exists_eq_add_of_lt pos
      exact ⟨0 + i, above⟩
    · rintro ⟨j, above⟩
      exact ⟨j + 1, Nat.succ_pos j, Nat.le_of_lt (reach.height_le stop itemStored above), above⟩
  have sorted := oldestFirst_perm ContextItem.date walk.descendants
  have whole : finishDescendants reads walk.descendants
      = oldestFirst ContextItem.date walk.descendants := by
    refine List.take_of_length_le ?_
    rw [sorted.length_eq]
    exact limits.descendants root _ reach.distinct fun item mem => (below item).mp mem
  rw [whole]
  exact ⟨sorted.nodup_iff.mpr reach.distinct, fun item => mem_oldestFirst.trans (below item)⟩

end Levels

end Cfwdon.Statuses
