import Cfwdon.Statuses.ContextDescendants

/-!
# The walks up a thread

A local status has the local parents above it, as one query lists them; a remote one is
followed along URIs, and along local parents from the first local status on.
-/

namespace Cfwdon.Statuses

open Library

variable {store : ThreadStore} {reads : ContextReads}

theorem lineage_status (n : Nat) (root : LocalThreadStatus) :
    lineage (parentItem store) n (.status root)
      = ((root.inReplyToId.map (listLocalReplyChain store n)).getD []).map .status := by
  induction n generalizing root with
  | zero =>
    cases root.inReplyToId with
    | none | some id => rfl
  | succ n ih =>
    cases replies : root.inReplyToId with
    | none =>
      rw [lineage_of_root (by rw [parentItem, replies]; rfl)]
      rfl
    | some id =>
      rw [Option.map_some, Option.getD_some, listLocalReplyChain]
      cases got : store.statuses.find id with
      | none =>
        rw [lineage_of_root (by rw [parentItem, replies, Option.bind_some, got]; rfl)]
        rfl
      | some parent =>
        have isParent : parentItem store (.status root) = some (.status parent) := by
          rw [parentItem, replies, Option.bind_some, got]
          rfl
        rw [lineage_of_parent isParent, ih parent]
        rfl

theorem visitReplyChain_of_new (visible : AllVisible store reads) {seenIds : Finset String}
    {chain : List LocalThreadStatus} (held : ∀ status ∈ chain, status ∈ store.statuses.rows)
    (nodup : (chain.map LocalThreadStatus.id).Nodup)
    (new : ∀ status ∈ chain, status.id ∉ seenIds) :
    visitReplyChain reads seenIds chain = chain.map .status := by
  induction chain generalizing seenIds with
  | nil => rfl
  | cons status rest ih =>
    have here := held status List.mem_cons_self
    have owned : (reads.username status.accountId).isNone = false := by
      rw [Option.isNone_eq_false_iff]
      exact visible.owned status here
    have seen : reads.canViewLocalStatus status = true := visible.seen status here
    rw [List.map_cons, List.nodup_cons] at nodup
    rw [visitReplyChain, if_neg (new status List.mem_cons_self), owned, seen]
    simp only [Bool.false_eq_true, if_false, Bool.not_true, List.map_cons]
    congr 1
    refine ih (fun other mem => held other (List.mem_cons_of_mem _ mem))
      nodup.2 fun other mem known => ?_
    rcases Finset.mem_insert.mp known with eq | pre
    · exact nodup.1 (eq ▸ List.mem_map_of_mem mem)
    · exact new other (List.mem_cons_of_mem _ mem) pre

/-! ## From a remote status: the walk ends -/

def AncestorCursor.item (store : ThreadStore) : AncestorCursor → Option ContextItem
  | .uri objectUri => itemAt store objectUri
  | .status row => some (.status row)

/-- Steps that may be made without seeing a status. -/
def cursorSteps : Option AncestorCursor → Nat
  | none => 0
  | some (.status _) => 1
  | some (.uri _) => 2

def AncestorWalk.measure (store : ThreadStore) (walk : AncestorWalk) : Nat :=
  unseenCount LocalThreadStatus.id store.statuses.rows walk.seenLocalIds
    + unseenCount RemoteThreadStatus.id store.remoteStatuses.rows walk.seenRemoteIds
    + cursorSteps walk.current

/-- A cursor at a local status stands at a stored one. -/
def AncestorWalk.AtStored (store : ThreadStore) (walk : AncestorWalk) : Prop :=
  ∀ status, walk.current = some (.status status) → status ∈ store.statuses.rows

theorem AncestorWalk.visitRemote_cases (reads : ContextReads) (walk : AncestorWalk)
    (status : RemoteThreadStatus) :
    walk.visitRemote reads status = walk.stop
      ∨ status.id ∉ walk.seenRemoteIds
        ∧ walk.visitRemote reads status
          = { walk with
              current := status.inReplyToUri.map .uri
              seenRemoteIds := insert status.id walk.seenRemoteIds
              ancestors := walk.ancestors ++ [.remote status] } := by
  unfold AncestorWalk.visitRemote
  split_ifs with seen
  · exact Or.inl rfl
  · exact Or.inl rfl
  · exact Or.inl rfl
  · exact Or.inr ⟨seen, rfl⟩

theorem AncestorWalk.visitLocal_cases (store : ThreadStore) (reads : ContextReads)
    (walk : AncestorWalk) (status : LocalThreadStatus) :
    walk.visitLocal store reads status = walk.stop
      ∨ status.id ∉ walk.seenLocalIds
        ∧ isPublicActivitypubVisibility status.visibility = true
        ∧ walk.visitLocal store reads status
          = { walk with
              current := (status.inReplyToId.bind store.statuses.find).map .status
              seenLocalIds := insert status.id walk.seenLocalIds
              ancestors := walk.ancestors ++ [.status status] } := by
  unfold AncestorWalk.visitLocal
  split_ifs with seen _ hidden
  · exact Or.inl rfl
  · exact Or.inl rfl
  · exact Or.inl rfl
  · exact Or.inr ⟨seen, by simpa using hidden, rfl⟩

/-- **One step of the walk**: it stops, changes to the local parents, or sees a status. -/
theorem AncestorWalk.next_cases (offline : Offline store reads) {walk : AncestorWalk}
    (goesOn : walk.continues = true) :
    walk.next store reads = walk.stop
      ∨ (∃ uri status, walk.current = some (.uri uri)
          ∧ findStatusByApId store uri = some status
          ∧ walk.next store reads = { walk with current := some (.status status) })
      ∨ (∃ uri status, walk.current = some (.uri uri)
          ∧ findStatusByApId store uri = none ∧ store.remoteStatuses.find uri = some status
          ∧ status.id ∉ walk.seenRemoteIds
          ∧ walk.next store reads
            = { walk with
                current := status.inReplyToUri.map .uri
                seenRemoteIds := insert status.id walk.seenRemoteIds
                ancestors := walk.ancestors ++ [.remote status] })
      ∨ ∃ status, walk.current = some (.status status) ∧ status.id ∉ walk.seenLocalIds
          ∧ isPublicActivitypubVisibility status.visibility = true
          ∧ walk.next store reads
            = { walk with
                current := (status.inReplyToId.bind store.statuses.find).map .status
                seenLocalIds := insert status.id walk.seenLocalIds
                ancestors := walk.ancestors ++ [.status status] } := by
  obtain ⟨cursor, current⟩ := Option.isSome_iff_exists.mp goesOn
  unfold AncestorWalk.next
  rw [current]
  cases cursor with
  | uri uri =>
    cases isLocal : findStatusByApId store uri with
    | some status =>
      refine Or.inr (Or.inl ⟨uri, status, rfl, isLocal, ?_⟩)
      simp only [isLocal]
    | none =>
      cases isRemote : store.remoteStatuses.find uri with
      | none =>
        left
        simp only [isLocal, isRemote, offline uri isLocal isRemote, Option.or_none]
      | some status =>
        simp only [isLocal, isRemote, Option.some_or]
        rcases AncestorWalk.visitRemote_cases reads walk status with stops | ⟨new, goes⟩
        · exact Or.inl stops
        · exact Or.inr (Or.inr (Or.inl ⟨uri, status, rfl, isLocal, isRemote, new, goes⟩))
  | status status =>
    rcases AncestorWalk.visitLocal_cases store reads walk status with
      stops | ⟨new, isPublic, goes⟩
    · exact Or.inl stops
    · exact Or.inr (Or.inr (Or.inr ⟨status, rfl, new, isPublic, goes⟩))

theorem AncestorWalk.atStored_next (offline : Offline store reads) {walk : AncestorWalk}
    (goesOn : walk.continues = true) : (walk.next store reads).AtStored store := by
  rcases AncestorWalk.next_cases offline goesOn with stops | ⟨uri, status, _, got, goes⟩
    | ⟨uri, status, _, _, _, _, goes⟩ | ⟨status, _, _, _, goes⟩
  · rw [stops]
    intro status none
    cases none
  · rw [goes]
    rintro other cur
    obtain rfl := AncestorCursor.status.inj (Option.some.inj cur)
    exact (findByApId_eq_some.mp got).1
  · rw [goes]
    rintro other cur
    obtain ⟨_, _, isUri⟩ := Option.map_eq_some_iff.mp cur
    cases isUri
  · rw [goes]
    rintro other cur
    obtain ⟨parent, named, isStatus⟩ := Option.map_eq_some_iff.mp cur
    obtain ⟨_, _, held⟩ := Option.bind_eq_some_iff.mp named
    exact AncestorCursor.status.inj isStatus ▸ Table.mem_of_find held

theorem cursorSteps_le (cur : Option AncestorCursor) : cursorSteps cur ≤ 2 := by
  rcases cur with _ | cursor
  · exact Nat.zero_le 2
  · cases cursor <;> simp [cursorSteps]

/-- **Every step brings the walk closer to its end.** -/
theorem AncestorWalk.measure_next_lt (offline : Offline store reads) {walk : AncestorWalk}
    (atStored : walk.AtStored store) (goesOn : walk.continues = true) :
    (walk.next store reads).measure store < walk.measure store := by
  unfold AncestorWalk.measure
  rcases AncestorWalk.next_cases offline goesOn with stops | ⟨uri, status, cur, _, goes⟩
    | ⟨uri, status, cur, _, got, new, goes⟩ | ⟨status, cur, new, _, goes⟩
  · obtain ⟨cursor, cur⟩ := Option.isSome_iff_exists.mp goesOn
    rw [stops, cur]
    cases cursor <;> simp [AncestorWalk.stop, cursorSteps]
  · rw [goes, cur]
    simp [cursorSteps]
  · have fewer : unseenCount RemoteThreadStatus.id store.remoteStatuses.rows
          (insert status.id walk.seenRemoteIds)
        < unseenCount RemoteThreadStatus.id store.remoteStatuses.rows walk.seenRemoteIds :=
      unseenCount_lt (Finset.subset_insert _ _) (Table.mem_of_find got) new
        (Finset.mem_insert_self _ _)
    have steps := cursorSteps_le (status.inReplyToUri.map .uri)
    have atUri : cursorSteps walk.current = 2 := by
      rw [cur]
      rfl
    rw [goes]
    dsimp only
    omega
  · have fewer : unseenCount LocalThreadStatus.id store.statuses.rows
          (insert status.id walk.seenLocalIds)
        < unseenCount LocalThreadStatus.id store.statuses.rows walk.seenLocalIds :=
      unseenCount_lt (Finset.subset_insert _ _) (atStored status cur) new
        (Finset.mem_insert_self _ _)
    have steps : cursorSteps ((status.inReplyToId.bind store.statuses.find).map .status) ≤ 1 := by
      cases status.inReplyToId.bind store.statuses.find <;> simp [cursorSteps]
    have atStatus : cursorSteps walk.current = 1 := by
      rw [cur]
      rfl
    rw [goes]
    dsimp only
    omega

/-- **The walk up ends**, whatever is stored. -/
theorem exists_ancestorWalk (offline : Offline store reads) (root : RemoteThreadStatus) :
    ∃ ended, whileLoop AncestorWalk.continues (AncestorWalk.next store reads)
      (walkRounds store) (.start root) = some ended := by
  refine exists_whileLoop (AncestorWalk.AtStored store) (AncestorWalk.measure store) ?_
    (fun _ _ goesOn => AncestorWalk.atStored_next offline goesOn)
    (fun _ atStored goesOn => AncestorWalk.measure_next_lt offline atStored goesOn) ?_
  · intro status cur
    obtain ⟨_, _, isUri⟩ := Option.map_eq_some_iff.mp cur
    cases isUri
  · have locals : unseenCount LocalThreadStatus.id store.statuses.rows ∅
        ≤ store.statuses.rows.length := unseenCount_le_length
    have remotes : unseenCount RemoteThreadStatus.id store.remoteStatuses.rows ∅
        ≤ store.remoteStatuses.rows.length := unseenCount_le_length
    have steps := cursorSteps_le (AncestorWalk.start root).current
    unfold AncestorWalk.measure walkRounds
    dsimp only [AncestorWalk.start] at steps ⊢
    omega

/-! ## What the walk never holds -/

variable {ancestors : List ContextItem}

variable {item : ContextItem}

theorem mem_of_mem_trimAncestors
    (mem : item ∈ trimContextAncestors reads.isAuthenticated ancestors.reverse) :
    item ∈ ancestors :=
  List.mem_reverse.mp ((keepLast_sublist _ _).subset mem)

theorem trimAncestors_of_le
    (few : ancestors.length ≤ contextAncestorLimit reads.isAuthenticated) :
    trimContextAncestors reads.isAuthenticated ancestors = ancestors := by
  rw [trimContextAncestors, keepLast, Nat.sub_eq_zero_of_le few, List.drop_zero]

/-- **Local ancestors of a remote status are public.** -/
theorem isPublic_of_mem_ancestors (offline : Offline store reads) {root : RemoteThreadStatus}
    {status : LocalThreadStatus}
    (collected : collectAncestorsForRemoteRoot store reads root = some ancestors)
    (mem : .status status ∈ ancestors) :
    isPublicActivitypubVisibility status.visibility = true := by
  obtain ⟨walk, ended, rfl⟩ := Option.map_eq_some_iff.mp collected
  have holds : ∀ status, .status status ∈ walk.ancestors →
      isPublicActivitypubVisibility status.visibility = true := by
    refine (whileLoop_invariant (fun walk : AncestorWalk => ∀ status,
      .status status ∈ walk.ancestors → isPublicActivitypubVisibility status.visibility = true)
      ended ?_ ?_).1
    · intro status none
      cases none
    · intro walk allPublic goesOn status mem
      rcases AncestorWalk.next_cases offline goesOn with stops | ⟨_, _, _, _, goes⟩
        | ⟨_, _, _, _, _, _, goes⟩ | ⟨row, _, _, isPublic, goes⟩
      · rw [stops] at mem
        exact allPublic status mem
      · rw [goes] at mem
        exact allPublic status mem
      · rw [goes] at mem
        rcases List.mem_append.mp mem with pre | new
        · exact allPublic status pre
        · cases List.mem_singleton.mp new
      · rw [goes] at mem
        rcases List.mem_append.mp mem with pre | new
        · exact allPublic status pre
        · cases List.mem_singleton.mp new
          exact isPublic
  exact holds status (mem_of_mem_trimAncestors mem)

/-- The walk has changed to local parents, or is about to. -/
structure AmongLocals (store : ThreadStore) (walk : AncestorWalk) : Prop where
  ancestors : ∀ item ∈ walk.ancestors, ∃ row, item = ContextItem.status row
  current : ∀ uri, walk.current = some (.uri uri) → (findStatusByApId store uri).isSome = true

/-- **A remote status whose parent URI names a local one has local ancestors only.** -/
theorem local_of_mem_ancestors (offline : Offline store reads) {root : RemoteThreadStatus}
    {uri : String} (replies : root.inReplyToUri = some uri)
    (isLocal : (findStatusByApId store uri).isSome = true)
    (collected : collectAncestorsForRemoteRoot store reads root = some ancestors)
    (mem : item ∈ ancestors) : ∃ row, item = .status row := by
  obtain ⟨walk, ended, rfl⟩ := Option.map_eq_some_iff.mp collected
  have holds : AmongLocals store walk := by
    refine (whileLoop_invariant (AmongLocals store) ended ⟨?_, ?_⟩ ?_).1
    · intro item none
      cases none
    · intro other cur
      rw [AncestorWalk.start, replies] at cur
      obtain rfl := AncestorCursor.uri.inj (Option.some.inj cur)
      exact isLocal
    · intro walk among goesOn
      rcases AncestorWalk.next_cases offline goesOn with stops | ⟨_, _, _, _, goes⟩
        | ⟨uri, _, cur, notLocal, _⟩ | ⟨row, _, _, _, goes⟩
      · rw [stops]
        exact ⟨among.ancestors, fun _ none => by cases none⟩
      · rw [goes]
        exact ⟨among.ancestors, fun _ other => by cases other⟩
      · have got := among.current uri cur
        rw [notLocal] at got
        cases got
      · rw [goes]
        refine ⟨fun item mem => ?_, fun uri cur => ?_⟩
        · rcases List.mem_append.mp mem with pre | new
          · exact among.ancestors item pre
          · exact ⟨row, List.mem_singleton.mp new⟩
        · obtain ⟨_, _, isUri⟩ := Option.map_eq_some_iff.mp cur
          cases isUri
  exact holds.ancestors item (mem_of_mem_trimAncestors mem)

/-! ## The ancestors in walkable threads -/

/-- **After some steps** the walk has listed the lineage up to a status, and stands at the
parent of that status. -/
structure HeightReached (store : ThreadStore) (root : RemoteThreadStatus) (k : Nat)
    (walk : AncestorWalk) : Prop where
  ancestors : walk.ancestors = lineage (parentItem store) k (.remote root)
  current : ∃ item, ancestor (parentItem store) k (.remote root) = some item
    ∧ walk.current.bind (AncestorCursor.item store) = parentItem store item
  seenLocal : ∀ id ∈ walk.seenLocalIds, ∃ status ∈ store.statuses.rows, status.id = id
    ∧ .status status ∈ walk.ancestors
  seenRemote : ∀ id ∈ walk.seenRemoteIds, ∃ status ∈ store.remoteStatuses.rows,
    status.id = id ∧ .remote status ∈ walk.ancestors

section Heights

variable {root : RemoteThreadStatus} {walk : AncestorWalk} {k : Nat}

theorem HeightReached.not_mem (walkable : WalkableThreads store)
    (reach : HeightReached store root k walk)
    (above : ancestor (parentItem store) (k + 1) (.remote root) = some item) :
    item ∉ walk.ancestors := by
  intro mem
  rw [reach.ancestors] at mem
  obtain ⟨j, less, above'⟩ := mem_lineage_iff.mp mem
  have eq := ancestor_injective (parentItem_acyclic walkable) above' above
  omega

theorem HeightReached.ancestor_succ (reach : HeightReached store root k walk)
    (standsAt : walk.current.bind (AncestorCursor.item store) = some item) :
    ancestor (parentItem store) (k + 1) (.remote root) = some item
      ∧ walk.ancestors ++ [item] = lineage (parentItem store) (k + 1) (.remote root) := by
  obtain ⟨lower, above, isParent⟩ := reach.current
  have got : parentItem store lower = some item := isParent.symm.trans standsAt
  constructor
  · rw [Library.ancestor_succ, above]
    exact got
  · rw [lineage_snoc above got, reach.ancestors]

theorem HeightReached.next (walkable : WalkableThreads store) (visible : AllVisible store reads)
    (offline : Offline store reads) (held : root ∈ store.remoteStatuses.rows)
    (reach : HeightReached store root k walk) (goesOn : walk.continues = true) :
    ∃ j, HeightReached store root j (walk.next store reads) := by
  obtain ⟨cursor, current⟩ := Option.isSome_iff_exists.mp goesOn
  unfold AncestorWalk.next
  rw [current]
  cases cursor with
  | uri uri =>
    have standsAt : walk.current.bind (AncestorCursor.item store) = itemAt store uri := by
      rw [current]
      rfl
    cases isLocal : findStatusByApId store uri with
    | some status =>
      simp only [isLocal]
      refine ⟨k, reach.ancestors, ?_, reach.seenLocal, reach.seenRemote⟩
      obtain ⟨lower, above, isParent⟩ := reach.current
      refine ⟨lower, above, ?_⟩
      rw [← isParent, standsAt, itemAt, isLocal]
      rfl
    | none =>
      cases isRemote : store.remoteStatuses.find uri with
      | none =>
        simp only [isLocal, isRemote, offline uri isLocal isRemote, Option.or_none]
        refine ⟨k, reach.ancestors, ?_, reach.seenLocal, reach.seenRemote⟩
        obtain ⟨lower, above, isParent⟩ := reach.current
        refine ⟨lower, above, ?_⟩
        rw [← isParent, standsAt, itemAt, isLocal, isRemote]
        rfl
      | some status =>
        simp only [isLocal, isRemote, Option.some_or]
        have here := Table.mem_of_find isRemote
        have isItem : itemAt store uri = some (.remote status) := by
          rw [itemAt, isLocal, isRemote]
          rfl
        obtain ⟨above, listed⟩ := reach.ancestor_succ (standsAt.trans isItem)
        have new : status.id ∉ walk.seenRemoteIds := by
          intro seen
          obtain ⟨other, present', sameId, mem⟩ := reach.seenRemote _ seen
          obtain rfl := eq_of_remoteId_eq present' here sameId
          exact reach.not_mem walkable above mem
        have goes : walk.visitRemote reads status
            = { walk with
                current := status.inReplyToUri.map .uri
                seenRemoteIds := insert status.id walk.seenRemoteIds
                ancestors := walk.ancestors ++ [.remote status] } := by
          rw [AncestorWalk.visitRemote, if_neg new, visible.isPublic status here,
            visible.hasActor status here]
          rfl
        rw [goes]
        refine ⟨k + 1, listed, ⟨_, above, ?_⟩, ?_, ?_⟩
        · rw [parentItem]
          cases status.inReplyToUri <;> rfl
        · intro id seen
          obtain ⟨other, present', sameId, mem⟩ := reach.seenLocal id seen
          exact ⟨other, present', sameId, List.mem_append_left _ mem⟩
        · intro id seen
          rcases Finset.mem_insert.mp seen with rfl | pre
          · exact ⟨status, here, rfl, List.mem_append_right _ List.mem_cons_self⟩
          · obtain ⟨other, present', sameId, mem⟩ := reach.seenRemote id pre
            exact ⟨other, present', sameId, List.mem_append_left _ mem⟩
  | status status =>
    have standsAt : walk.current.bind (AncestorCursor.item store) = some (.status status) := by
      rw [current]
      rfl
    obtain ⟨above, listed⟩ := reach.ancestor_succ standsAt
    have rootStored : (ContextItem.remote root).IsStored store := held
    have here : status ∈ store.statuses.rows := ancestor_isStored rootStored above
    have isPublic : isPublicActivitypubVisibility status.visibility = true :=
      walkable.publicParents root status ((below_iff walkable).mpr ⟨rootStored, k, above⟩)
    have owned : (reads.username status.accountId).isNone = false := by
      rw [Option.isNone_eq_false_iff]
      exact visible.owned status here
    have new : status.id ∉ walk.seenLocalIds := by
      intro seen
      obtain ⟨other, present', sameId, mem⟩ := reach.seenLocal _ seen
      obtain rfl := Table.eq_of_key_eq present' here sameId
      exact reach.not_mem walkable above mem
    have goes : walk.visitLocal store reads status
        = { walk with
            current := (status.inReplyToId.bind store.statuses.find).map .status
            seenLocalIds := insert status.id walk.seenLocalIds
            ancestors := walk.ancestors ++ [.status status] } := by
      rw [AncestorWalk.visitLocal, if_neg new, owned, isPublic]
      rfl
    dsimp only
    rw [goes]
    refine ⟨k + 1, listed, ⟨_, above, ?_⟩, ?_, ?_⟩
    · rw [parentItem]
      cases status.inReplyToId.bind store.statuses.find <;> rfl
    · intro id seen
      rcases Finset.mem_insert.mp seen with rfl | pre
      · exact ⟨status, here, rfl, List.mem_append_right _ List.mem_cons_self⟩
      · obtain ⟨other, present', sameId, mem⟩ := reach.seenLocal id pre
        exact ⟨other, present', sameId, List.mem_append_left _ mem⟩
    · intro id seen
      obtain ⟨other, present', sameId, mem⟩ := reach.seenRemote id seen
      exact ⟨other, present', sameId, List.mem_append_left _ mem⟩

theorem mem_ancestors_remote_iff (walkable : WalkableThreads store)
    (visible : AllVisible store reads) (limits : WithinLimits store reads)
    (offline : Offline store reads) (held : root ∈ store.remoteStatuses.rows)
    (collected : collectAncestorsForRemoteRoot store reads root = some ancestors) :
    item ∈ ancestors ↔ Below store (.remote root) item := by
  obtain ⟨walk, ended, rfl⟩ := Option.map_eq_some_iff.mp collected
  have rootStored : (ContextItem.remote root).IsStored store := held
  have start : HeightReached store root 0 (.start root) := by
    refine ⟨rfl, ⟨_, rfl, ?_⟩, ?_, ?_⟩
    · rw [parentItem, AncestorWalk.start]
      cases root.inReplyToUri <;> rfl
    · intro id none
      cases none
    · intro id none
      cases none
  obtain ⟨⟨k, reach⟩, stop⟩ := whileLoop_invariant
    (fun walk => ∃ k, HeightReached store root k walk) ended ⟨0, start⟩ (by
      rintro walk ⟨k, reach⟩ goesOn
      exact reach.next walkable visible offline held goesOn)
  obtain ⟨top, above, isParent⟩ := reach.current
  have noParent : parentItem store top = none := by
    have ended : walk.current = none := by simpa [AncestorWalk.continues] using stop
    rw [← isParent, ended]
    rfl
  have nodup : walk.ancestors.Nodup := by
    rw [reach.ancestors]
    exact lineage_nodup (parentItem_acyclic walkable)
  have below (other : ContextItem) : other ∈ walk.ancestors ↔ Below store (.remote root) other := by
    rw [reach.ancestors, mem_lineage_iff, below_iff walkable]
    constructor
    · rintro ⟨j, _, got⟩
      exact ⟨rootStored, j, got⟩
    · rintro ⟨_, j, got⟩
      refine ⟨j, ?_, got⟩
      by_contra higher
      have more := ancestor_isSome_of_le (j := k + 1) (by rw [got]; rfl)
        (Nat.succ_le_succ (Nat.le_of_not_lt higher))
      rw [Library.ancestor_succ, above, Option.bind_some, noParent] at more
      cases more
  have whole : trimContextAncestors reads.isAuthenticated walk.ancestors.reverse
      = walk.ancestors.reverse := by
    have few := (limits.ancestors (.remote root) walk.ancestors nodup
      fun other mem => (below other).mp mem).1
    exact trimAncestors_of_le (by rw [List.length_reverse]; exact few)
  rw [whole, List.mem_reverse, below]

end Heights

theorem mem_ancestors_local_iff (walkable : WalkableThreads store)
    (visible : AllVisible store reads) (limits : WithinLimits store reads)
    {root : LocalThreadStatus} (held : root ∈ store.statuses.rows) :
    item ∈ collectAncestorsForLocalRoot store reads root ↔ Below store (.status root) item := by
  have acyclic := parentItem_acyclic walkable
  have rootStored : (ContextItem.status root).IsStored store := held
  have below (n : Nat) (other : ContextItem)
      (mem : other ∈ lineage (parentItem store) n (.status root)) :
      Below store (.status root) other := by
    obtain ⟨j, _, got⟩ := mem_lineage_iff.mp mem
    exact (below_iff walkable).mpr ⟨rootStored, j, got⟩
  let chain := (root.inReplyToId.map (listLocalReplyChain store maxContextAncestorDepth)).getD []
  have listed : lineage (parentItem store) maxContextAncestorDepth (.status root)
      = chain.map .status := lineage_status maxContextAncestorDepth root
  have here : ∀ status ∈ chain, status ∈ store.statuses.rows := by
    intro status mem
    have inLineage : .status status ∈ lineage (parentItem store) maxContextAncestorDepth
        (.status root) := listed ▸ List.mem_map_of_mem mem
    obtain ⟨j, _, got⟩ := mem_lineage_iff.mp inLineage
    exact ancestor_isStored rootStored got
  have distinct : (chain.map LocalThreadStatus.id).Nodup := by
    have nodup : (chain.map ContextItem.status).Nodup := listed ▸ lineage_nodup acyclic
    refine nodup.of_map.map_on fun first isFirst second isSecond eq => ?_
    exact Table.eq_of_key_eq (here first isFirst) (here second isSecond) eq
  have visited : visitReplyChain reads ∅ chain
      = lineage (parentItem store) maxContextAncestorDepth (.status root) := by
    rw [listed]
    exact visitReplyChain_of_new visible here distinct fun _ _ => Finset.notMem_empty _
  have whole : collectAncestorsForLocalRoot store reads root
      = (lineage (parentItem store) maxContextAncestorDepth (.status root)).reverse := by
    have few := (limits.ancestors (.status root) _ (lineage_nodup acyclic)
      (below maxContextAncestorDepth)).1
    change trimContextAncestors reads.isAuthenticated (visitReplyChain reads ∅ chain).reverse = _
    rw [visited]
    exact trimAncestors_of_le (by rw [List.length_reverse]; exact few)
  rw [whole, List.mem_reverse]
  constructor
  · exact below _ item
  · intro isBelow
    obtain ⟨_, k, got⟩ := (below_iff walkable).mp isBelow
    have short := (limits.ancestors (.status root) _ (lineage_nodup acyclic) (below (k + 1))).2
    rw [length_lineage (by rw [got]; rfl)] at short
    exact mem_lineage_iff.mpr ⟨k, short, got⟩

end Cfwdon.Statuses
