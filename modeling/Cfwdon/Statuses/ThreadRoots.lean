import Cfwdon.Library.Lineage
import Cfwdon.Library.Loops
import Cfwdon.Library.Table
import Cfwdon.Library.Unseen

/-!
# The roots of muted threads

A mute is kept on the root of a thread.  `resolveThreadRootStatusIds` loads the rows above
the given statuses, one query a round, until no parent is missing, and then walks up from
each status in the rows it has loaded.
-/

namespace Cfwdon.Statuses

open Library

/-- The columns of `statuses` that link a thread. -/
structure StatusReplyLinkRow where
  id : String
  inReplyToId : Option String
deriving DecidableEq

/-- The `statuses` table, or the part of it that has been loaded. -/
abbrev ReplyLinks := Table StatusReplyLinkRow StatusReplyLinkRow.id

/-- Put rows into a map, a later row in the place of an earlier one. -/
def insertLinks (links : ReplyLinks) (rows : List StatusReplyLinkRow) : ReplyLinks :=
  rows.foldl (fun current row => current.insertOrReplace row) links

/-- `SELECT id, in_reply_to_id FROM statuses WHERE id IN (…)`, as a map. -/
def loadStatusReplyLinks (statuses : ReplyLinks) (statusIds : List String) : ReplyLinks :=
  insertLinks Table.empty (statuses.select fun row => decide (row.id ∈ statusIds))

/-! ## Loading the rows above -/

/-- The parents that have not been loaded, each one once. -/
def missingParents (links : ReplyLinks) : List String :=
  (keepUnseen id ∅
    ((links.rows.filterMap StatusReplyLinkRow.inReplyToId).filter
      fun parent => (links.find parent).isNone)).1

def loadParents (statuses links : ReplyLinks) : ReplyLinks :=
  let missing := missingParents links
  insertLinks links (missing.filterMap (loadStatusReplyLinks statuses missing).find)

/-- Load until no parent is missing, for at most `rounds` rounds. -/
def loadLinks (statuses : ReplyLinks) (rounds : Nat) (inputs : List StatusReplyLinkRow) :
    Option ReplyLinks :=
  whileLoop (fun links => !(missingParents links).isEmpty) (loadParents statuses) rounds
    (insertLinks Table.empty inputs)

/-! ## Walking up -/

/-- The variables of a walk, with what it has returned. -/
structure RootWalk where
  currentId : String
  seen : Finset String
  returned : Option (Except String String)

def RootWalk.start (startId : String) : RootWalk :=
  { currentId := startId, seen := ∅, returned := none }

def RootWalk.return (walk : RootWalk) (answer : Except String String) : RootWalk :=
  { walk with returned := some answer }

/-- One round of `thread_root_from_parent_map`. -/
def RootWalk.next (links : ReplyLinks) (walk : RootWalk) : RootWalk :=
  if walk.currentId ∈ walk.seen then
    walk.return (.error "detected cycle while resolving thread root")
  else
    match (links.find walk.currentId).bind StatusReplyLinkRow.inReplyToId with
    | none => walk.return (.ok walk.currentId)
    | some parentId =>
      if (links.find parentId).isNone then walk.return (.ok walk.currentId)
      else
        { currentId := parentId, seen := insert walk.currentId walk.seen, returned := none }

/-- The root of a status in the rows that have been loaded. -/
def threadRootFromParentMap (links : ReplyLinks) (rounds : Nat) (startId : String) :
    Option (Except String String) :=
  (whileLoop (fun walk => walk.returned.isNone) (RootWalk.next links) rounds
    (RootWalk.start startId)).bind RootWalk.returned

/-! ## All statuses -/

/-- An entry of the answer. -/
structure ThreadRoot where
  statusId : String
  rootId : String
deriving DecidableEq

abbrev ThreadRoots := Table ThreadRoot ThreadRoot.statusId

/-- Walk up from each status; the first error is the answer. -/
def collectRoots (links : ReplyLinks) (rounds : Nat) :
    List StatusReplyLinkRow → ThreadRoots → Option (Except String ThreadRoots)
  | [], roots => some (.ok roots)
  | status :: rest, roots =>
    match threadRootFromParentMap links rounds status.id with
    | none => none
    | some (.error error) => some (.error error)
    | some (.ok rootId) =>
      collectRoots links rounds rest
        (roots.insertOrReplace { statusId := status.id, rootId := rootId })

/-- The roots of the given statuses, if each loop ends within `rounds` rounds. -/
def resolveThreadRootStatusIds (statuses : ReplyLinks) (rounds : Nat)
    (inputs : List StatusReplyLinkRow) : Option (Except String ThreadRoots) :=
  (loadLinks statuses rounds inputs).bind fun links =>
    collectRoots links rounds inputs Table.empty

/-! ## Threads -/

def parentRow (statuses : ReplyLinks) (row : StatusReplyLinkRow) : Option StatusReplyLinkRow :=
  row.inReplyToId.bind statuses.find

def IsTopAncestor (statuses : ReplyLinks) (row root : StatusReplyLinkRow) : Prop :=
  (∃ k, ancestor (parentRow statuses) k row = some root) ∧ parentRow statuses root = none

/-- Each given status is mapped to its topmost ancestor. -/
def MapsToTopAncestors (statuses : ReplyLinks) (inputs : List StatusReplyLinkRow)
    (roots : ThreadRoots) : Prop :=
  ∀ input ∈ inputs, ∃ root, IsTopAncestor statuses input root
    ∧ roots.find input.id = some { statusId := input.id, rootId := root.id }

def EndsAtRoot (statuses : ReplyLinks) (row : StatusReplyLinkRow) : Prop :=
  ∃ k root, ancestor (parentRow statuses) k row = some root ∧ root.inReplyToId = none

def ParentsStored (statuses : ReplyLinks) (row : StatusReplyLinkRow) : Prop :=
  ∀ k above parentId, ancestor (parentRow statuses) k row = some above →
    above.inReplyToId = some parentId → (statuses.find parentId).isSome = true

variable {statuses links : ReplyLinks} {inputs : List StatusReplyLinkRow}
  {row above parent root : StatusReplyLinkRow} {parentId : String} {rounds : Nat}

theorem parentRow_of_find (replies : row.inReplyToId = some parentId)
    (got : statuses.find parentId = some parent) : parentRow statuses row = some parent := by
  rw [parentRow, replies, Option.bind_some, got]

/-- **A thread that ends at a root** has all its parents. -/
theorem EndsAtRoot.parentsStored (ends : EndsAtRoot statuses row) :
    ParentsStored statuses row := by
  obtain ⟨height, root, reach, isRoot⟩ := ends
  intro k above parentId got replies
  have noMore : ancestor (parentRow statuses) (height + 1) row = none := by
    rw [ancestor_succ, reach, Option.bind_some, parentRow, isRoot, Option.bind_none]
  rcases Nat.lt_trichotomy k height with below | rfl | beyond
  · have higher : (ancestor (parentRow statuses) (k + 1) row).isSome = true :=
      ancestor_isSome_of_le (by rw [reach]; rfl) below
    rw [ancestor_succ, got, Option.bind_some, parentRow, replies, Option.bind_some] at higher
    exact higher
  · rw [reach] at got
    obtain rfl := Option.some.inj got
    rw [isRoot] at replies
    cases replies
  · have lower : (ancestor (parentRow statuses) (height + 1) row).isSome = true :=
      ancestor_isSome_of_le (by rw [got]; rfl) beyond
    rw [noMore] at lower
    cases lower

theorem IsTopAncestor.endsAtRoot (top : IsTopAncestor statuses row root)
    (held : ParentsStored statuses row) : EndsAtRoot statuses row := by
  obtain ⟨⟨k, reach⟩, noParent⟩ := top
  refine ⟨k, root, reach, ?_⟩
  cases replies : root.inReplyToId with
  | none => rfl
  | some parentId =>
    have got := held k root parentId reach replies
    rw [parentRow, replies, Option.bind_some] at noParent
    rw [noParent] at got
    cases got

theorem EndsAtRoot.not_endless (ends : EndsAtRoot statuses row)
    (endless : ∀ n, (ancestor (parentRow statuses) n row).isSome = true) : False := by
  obtain ⟨height, root, reach, isRoot⟩ := ends
  have higher := endless (height + 1)
  rw [ancestor_succ, reach, Option.bind_some, parentRow, isRoot] at higher
  cases higher

/-! ## What the rounds load -/

/-- The loaded rows are rows of the table. -/
def Within (statuses links : ReplyLinks) : Prop :=
  ∀ row ∈ links.rows, row ∈ statuses.rows

/-- **Rows of the table are put into a map of its rows.** -/
theorem mem_insertLinks_iff {rows : List StatusReplyLinkRow} (within : Within statuses links)
    (held : ∀ row ∈ rows, row ∈ statuses.rows) :
    row ∈ (insertLinks links rows).rows ↔ row ∈ links.rows ∨ row ∈ rows := by
  induction rows generalizing links with
  | nil => simp [insertLinks]
  | cons first rest ih =>
    have firstStored := held first List.mem_cons_self
    have next : ∀ other, other ∈ (links.insertOrReplace first).rows
        ↔ other = first ∨ other ∈ links.rows := by
      intro other
      rw [Table.mem_insertOrReplace_iff]
      constructor
      · exact Or.imp_right And.left
      · rintro (rfl | here)
        · exact Or.inl rfl
        · by_cases eq : other.id = first.id
          · exact Or.inl (Table.eq_of_key_eq (within other here) firstStored eq)
          · exact Or.inr ⟨here, eq⟩
    have nextWithin : Within statuses (links.insertOrReplace first) := by
      intro other mem
      rcases (next other).mp mem with rfl | here
      · exact firstStored
      · exact within other here
    have rest := ih nextWithin fun other mem => held other (List.mem_cons_of_mem _ mem)
    rw [insertLinks, List.foldl_cons]
    rw [insertLinks] at rest
    rw [rest, next, List.mem_cons]
    tauto

theorem within_empty : Within statuses Table.empty := by
  intro row mem
  cases mem

theorem mem_loadStatusReplyLinks_iff {statusIds : List String} :
    row ∈ (loadStatusReplyLinks statuses statusIds).rows
      ↔ row ∈ statuses.rows ∧ row.id ∈ statusIds := by
  have held : ∀ other ∈ statuses.select fun row => decide (row.id ∈ statusIds),
      other ∈ statuses.rows := fun other mem => List.mem_of_mem_filter mem
  rw [loadStatusReplyLinks, mem_insertLinks_iff within_empty held]
  simp [Table.empty, Table.select]

/-- **The missing parents** are those that a loaded row names and that are not loaded. -/
theorem mem_missingParents_iff :
    parentId ∈ missingParents links
      ↔ (∃ row ∈ links.rows, row.inReplyToId = some parentId) ∧ links.find parentId = none := by
  have kept := @mem_keys_keepUnseen String String _ id ∅
    ((links.rows.filterMap StatusReplyLinkRow.inReplyToId).filter
      fun parent => (links.find parent).isNone) parentId
  rw [List.map_id, List.map_id] at kept
  rw [missingParents, kept]
  simp [List.mem_filter]

/-- **One round** adds the missing rows that are stored. -/
theorem mem_loadParents_iff (within : Within statuses links) :
    row ∈ (loadParents statuses links).rows
      ↔ row ∈ links.rows ∨ row ∈ statuses.rows ∧ row.id ∈ missingParents links := by
  have loaded : ∀ other,
      other ∈ (missingParents links).filterMap
          (loadStatusReplyLinks statuses (missingParents links)).find
        ↔ other ∈ statuses.rows ∧ other.id ∈ missingParents links := by
    intro other
    rw [List.mem_filterMap]
    constructor
    · rintro ⟨parentId, _, got⟩
      exact mem_loadStatusReplyLinks_iff.mp (Table.mem_of_find got)
    · rintro ⟨held, gone⟩
      exact ⟨other.id, gone, Table.find_of_mem (mem_loadStatusReplyLinks_iff.mpr ⟨held, gone⟩)⟩
  rw [loadParents, mem_insertLinks_iff within fun other mem => ((loaded other).mp mem).1, loaded]

/-- What holds after every round: the loaded rows are ancestors of the given statuses. -/
structure Loading (statuses : ReplyLinks) (inputs : List StatusReplyLinkRow)
    (links : ReplyLinks) : Prop where
  within : Within statuses links
  given : ∀ input ∈ inputs, input ∈ links.rows
  above : ∀ row ∈ links.rows, ∃ input ∈ inputs, ∃ k,
    ancestor (parentRow statuses) k input = some row

theorem loading_start (held : ∀ input ∈ inputs, input ∈ statuses.rows) :
    Loading statuses inputs (insertLinks Table.empty inputs) := by
  have rows : ∀ row, row ∈ (insertLinks Table.empty inputs).rows ↔ row ∈ inputs := by
    intro row
    rw [mem_insertLinks_iff within_empty held]
    simp [Table.empty]
  refine ⟨fun row mem => held row ((rows row).mp mem),
    fun input mem => (rows input).mpr mem, fun row mem => ?_⟩
  exact ⟨row, (rows row).mp mem, 0, rfl⟩

theorem Loading.next (loading : Loading statuses inputs links) :
    Loading statuses inputs (loadParents statuses links) := by
  refine ⟨?_, ?_, ?_⟩
  · intro row mem
    rcases (mem_loadParents_iff loading.within).mp mem with old | ⟨held, _⟩
    · exact loading.within row old
    · exact held
  · intro input mem
    exact (mem_loadParents_iff loading.within).mpr (Or.inl (loading.given input mem))
  · intro row mem
    rcases (mem_loadParents_iff loading.within).mp mem with old | ⟨held, gone⟩
    · exact loading.above row old
    · obtain ⟨⟨child, here, replies⟩, _⟩ := mem_missingParents_iff.mp gone
      obtain ⟨input, given, k, reach⟩ := loading.above child here
      refine ⟨input, given, k + 1, ?_⟩
      rw [ancestor_succ, reach, Option.bind_some]
      exact parentRow_of_find replies (Table.find_of_mem held)

/-- Every parent of a loaded row is loaded. -/
def Complete (links : ReplyLinks) : Prop :=
  ∀ row ∈ links.rows, ∀ parentId, row.inReplyToId = some parentId →
    (links.find parentId).isSome = true

theorem complete_iff : Complete links ↔ (missingParents links).isEmpty = true := by
  rw [List.isEmpty_iff, List.eq_nil_iff_forall_not_mem]
  constructor
  · intro full parentId gone
    obtain ⟨⟨row, here, replies⟩, notLoaded⟩ := mem_missingParents_iff.mp gone
    have loaded := full row here parentId replies
    rw [notLoaded] at loaded
    cases loaded
  · intro none row here parentId replies
    by_contra notLoaded
    exact none parentId (mem_missingParents_iff.mpr
      ⟨⟨row, here, replies⟩, by simpa using notLoaded⟩)

theorem Within.find (within : Within statuses links) (got : links.find parentId = some row) :
    statuses.find parentId = some row := by
  obtain ⟨mem, rfl⟩ := Table.find_eq_some got
  exact Table.find_of_mem (within row mem)

/-- **Complete rows hold the whole thread** of each of them. -/
theorem Complete.ancestor_mem (full : Complete links) (within : Within statuses links)
    (here : row ∈ links.rows) (k : Nat)
    (reach : ancestor (parentRow statuses) k row = some above) : above ∈ links.rows := by
  induction k generalizing above with
  | zero =>
    obtain rfl := Option.some.inj reach
    exact here
  | succ k ih =>
    rw [ancestor_succ] at reach
    obtain ⟨child, lower, step⟩ := Option.bind_eq_some_iff.mp reach
    obtain ⟨parentId, replies, got⟩ := Option.bind_eq_some_iff.mp step
    have loaded := full child (ih lower) parentId replies
    obtain ⟨parent, isLoaded⟩ := Option.isSome_iff_exists.mp loaded
    have eq := within.find isLoaded
    rw [got] at eq
    obtain rfl := Option.some.inj eq
    exact Table.mem_of_find isLoaded

theorem Complete.parentsStored (full : Complete links) (within : Within statuses links)
    (here : row ∈ links.rows) : ParentsStored statuses row := by
  intro k above parentId reach replies
  have loaded := full above (full.ancestor_mem within here k reach) parentId replies
  obtain ⟨parent, isLoaded⟩ := Option.isSome_iff_exists.mp loaded
  rw [within.find isLoaded]
  rfl

theorem loadLinks_sound (held : ∀ input ∈ inputs, input ∈ statuses.rows)
    (ended : loadLinks statuses rounds inputs = some links) :
    Loading statuses inputs links ∧ Complete links := by
  obtain ⟨loading, stop⟩ := whileLoop_invariant (Loading statuses inputs) ended
    (loading_start held) fun links loading _ => loading.next
  exact ⟨loading, complete_iff.mpr (by simpa using stop)⟩

/-- The rows of the table that have not been loaded. -/
def unloaded (statuses links : ReplyLinks) : Nat :=
  unseenCount StatusReplyLinkRow.id statuses.rows (links.rows.map StatusReplyLinkRow.id).toFinset

theorem unloaded_loadParents (loading : Loading statuses inputs links)
    (held : ∀ input ∈ inputs, ParentsStored statuses input)
    (goesOn : (!(missingParents links).isEmpty) = true) :
    unloaded statuses (loadParents statuses links) < unloaded statuses links := by
  obtain ⟨parentId, gone⟩ := List.exists_mem_of_ne_nil (missingParents links)
    (by simpa using goesOn)
  obtain ⟨⟨row, here, replies⟩, notLoaded⟩ := mem_missingParents_iff.mp gone
  obtain ⟨input, given, k, reach⟩ := loading.above row here
  obtain ⟨parent, got⟩ :=
    Option.isSome_iff_exists.mp (held input given k row parentId reach replies)
  obtain ⟨mem, isParent⟩ := Table.find_eq_some got
  refine unseenCount_lt ?_ mem ?_ ?_
  · intro id known
    rw [List.mem_toFinset, List.mem_map] at known ⊢
    obtain ⟨other, old, eq⟩ := known
    exact ⟨other, (mem_loadParents_iff loading.within).mpr (Or.inl old), eq⟩
  · rw [List.mem_toFinset, isParent, ← Table.find_isSome_iff, notLoaded]
    exact Bool.false_ne_true
  · rw [List.mem_toFinset]
    refine List.mem_map_of_mem ((mem_loadParents_iff loading.within).mpr (Or.inr ⟨mem, ?_⟩))
    rw [isParent]
    exact gone

/-- **The rounds end exactly when every parent above is stored.**  A parent that is not
stored stays missing, and is asked for in every round. -/
theorem loadLinks_isSome_iff (held : ∀ input ∈ inputs, input ∈ statuses.rows) :
    (∃ rounds links, loadLinks statuses rounds inputs = some links)
      ↔ ∀ input ∈ inputs, ParentsStored statuses input := by
  constructor
  · rintro ⟨rounds, links, ended⟩ input given
    obtain ⟨loading, full⟩ := loadLinks_sound held ended
    exact full.parentsStored loading.within (loading.given input given)
  · intro parents
    obtain ⟨links, ended⟩ := exists_whileLoop (Loading statuses inputs) (unloaded statuses)
      (loading_start held) (fun links loading _ => loading.next)
      (fun links loading goesOn => unloaded_loadParents loading parents goesOn) (Nat.le_refl _)
    exact ⟨_, links, ended⟩

/-! ## What a walk returns -/

/-- What holds after every round of a walk up from `input`. -/
def RootWalk.Sound (statuses links : ReplyLinks) (input : StatusReplyLinkRow)
    (walk : RootWalk) : Prop :=
  match walk.returned with
  | none =>
    ∃ k row, ancestor (parentRow statuses) k input = some row ∧ row ∈ links.rows
      ∧ row.id = walk.currentId
      ∧ ∀ id ∈ walk.seen, ∃ j < k, ∃ below,
          ancestor (parentRow statuses) j input = some below ∧ below ∈ links.rows ∧ below.id = id
  | some (.ok rootId) => ∃ root, IsTopAncestor statuses input root ∧ root.id = rootId
  | some (.error _) => ∀ n, (ancestor (parentRow statuses) n input).isSome = true

variable {input : StatusReplyLinkRow} {walk : RootWalk}

theorem RootWalk.start_sound (here : input ∈ links.rows) :
    (RootWalk.start input.id).Sound statuses links input := by
  refine ⟨0, input, rfl, here, rfl, ?_⟩
  intro id known
  cases known

/-- **One round of a walk** in complete rows. -/
theorem RootWalk.Sound.next (sound : walk.Sound statuses links input)
    (goesOn : walk.returned.isNone = true) (within : Within statuses links)
    (full : Complete links) : (walk.next links).Sound statuses links input := by
  rw [Option.isNone_iff_eq_none] at goesOn
  simp only [RootWalk.Sound, goesOn] at sound
  obtain ⟨k, row, reach, here, isCurrent, below⟩ := sound
  have cur : links.find walk.currentId = some row := by
    rw [← isCurrent]
    exact Table.find_of_mem here
  unfold RootWalk.next
  split_ifs with seen
  · -- A status that comes again is below itself.
    obtain ⟨j, lower, again, reachedBelow, belowPresent, sameId⟩ := below _ seen
    have eq : again = row :=
      Table.eq_of_key_eq belowPresent here (sameId.trans isCurrent.symm)
    rw [eq] at reachedBelow
    exact ancestor_isSome_of_repeat reachedBelow reach lower
  · rw [cur, Option.bind_some]
    cases replies : row.inReplyToId with
    | none =>
      refine ⟨row, ⟨⟨k, reach⟩, ?_⟩, isCurrent⟩
      rw [parentRow, replies, Option.bind_none]
    | some parentId =>
      obtain ⟨parent, got⟩ :=
        Option.isSome_iff_exists.mp (full row here parentId replies)
      have isParent := parentRow_of_find replies (within.find got)
      simp only [got, Option.isNone_some, Bool.false_eq_true, if_false]
      refine ⟨k + 1, parent, ?_, Table.mem_of_find got, Table.key_of_find got, ?_⟩
      · rw [ancestor_succ, reach, Option.bind_some, isParent]
      · intro id known
        rcases Finset.mem_insert.mp known with rfl | pre
        · exact ⟨k, Nat.lt_succ_self k, row, reach, here, isCurrent⟩
        · obtain ⟨j, lower, rest⟩ := below id pre
          exact ⟨j, Nat.lt_succ_of_lt lower, rest⟩

/-- **What a walk returns** is the topmost ancestor, or an error where there is none. -/
theorem rootWalk_sound {answer : Except String String} (within : Within statuses links)
    (full : Complete links) (here : input ∈ links.rows)
    (returns : threadRootFromParentMap links rounds input.id = some answer) :
    (∃ root, IsTopAncestor statuses input root ∧ answer = .ok root.id)
      ∨ ∀ n, (ancestor (parentRow statuses) n input).isSome = true := by
  obtain ⟨walk, ended, gave⟩ := Option.bind_eq_some_iff.mp returns
  obtain ⟨sound, _⟩ := whileLoop_invariant (RootWalk.Sound statuses links input) ended
    (RootWalk.start_sound here) fun walk sound goesOn => sound.next goesOn within full
  simp only [RootWalk.Sound, gave] at sound
  cases answer with
  | error msg => exact Or.inr sound
  | ok rootId =>
    obtain ⟨root, top, rfl⟩ := sound
    exact Or.inl ⟨root, top, rfl⟩

/-- Rounds that a walk has left. -/
def RootWalk.measure (links : ReplyLinks) (walk : RootWalk) : Nat :=
  if walk.returned.isNone then unseenCount StatusReplyLinkRow.id links.rows walk.seen + 1 else 0

theorem RootWalk.measure_next (goesOn : walk.returned.isNone = true) :
    (walk.next links).measure links < walk.measure links := by
  have pre : walk.measure links
      = unseenCount StatusReplyLinkRow.id links.rows walk.seen + 1 := if_pos goesOn
  rw [pre]
  have done (answer : Except String String) :
      (walk.return answer).measure links
        < unseenCount StatusReplyLinkRow.id links.rows walk.seen + 1 :=
    Nat.succ_pos _
  unfold RootWalk.next
  split_ifs with seen
  · exact done _
  · cases got : links.find walk.currentId with
    | none => exact done _
    | some row =>
      cases replies : row.inReplyToId with
      | none =>
        simp only [Option.bind_some, replies]
        exact done _
      | some parentId =>
        simp only [Option.bind_some, replies]
        split_ifs
        · exact done _
        · obtain ⟨here, isCurrent⟩ := Table.find_eq_some got
          refine Nat.succ_lt_succ (unseenCount_lt (Finset.subset_insert _ _) here ?_ ?_)
          · rw [isCurrent]
            exact seen
          · rw [isCurrent]
            exact Finset.mem_insert_self _ _

/-- **Every walk returns**, after one round more than there are rows. -/
theorem exists_threadRoot (enough : links.rows.length + 1 ≤ rounds)
    (startId : String) : ∃ answer, threadRootFromParentMap links rounds startId = some answer := by
  have few : (RootWalk.start startId).measure links ≤ rounds := by
    have atMost : unseenCount StatusReplyLinkRow.id links.rows ∅ ≤ links.rows.length :=
      unseenCount_le_length
    simp only [RootWalk.measure, RootWalk.start, Option.isNone_none, if_true]
    omega
  obtain ⟨walk, ended⟩ := exists_whileLoop (fun _ => True) (RootWalk.measure links) trivial
    (fun _ _ _ => trivial) (fun walk _ goesOn => RootWalk.measure_next goesOn) few
  obtain ⟨_, stop⟩ := whileLoop_invariant (fun _ => True) ended trivial fun _ _ _ => trivial
  obtain ⟨answer, gave⟩ := Option.isSome_iff_exists.mp (by simpa using stop)
  exact ⟨answer, by rw [threadRootFromParentMap, ended, Option.bind_some, gave]⟩

/-! ## The answer for all statuses -/

theorem exists_collectRoots (enough : links.rows.length + 1 ≤ rounds)
    (inputs : List StatusReplyLinkRow) (roots : ThreadRoots) :
    ∃ answer, collectRoots links rounds inputs roots = some answer := by
  induction inputs generalizing roots with
  | nil => exact ⟨_, rfl⟩
  | cons status rest ih =>
    obtain ⟨answer, returns⟩ := exists_threadRoot enough status.id
    rw [collectRoots, returns]
    cases answer with
    | error msg => exact ⟨_, rfl⟩
    | ok rootId => exact ih _

/-- Each entry is what the walk from its status returns. -/
def Walked (links : ReplyLinks) (rounds : Nat) (roots : ThreadRoots) : Prop :=
  ∀ entry ∈ roots.rows,
    threadRootFromParentMap links rounds entry.statusId = some (.ok entry.rootId)

/-- **If every walk returns a root, there is an entry for every status.** -/
theorem collectRoots_of_ok {roots : ThreadRoots} (walked : Walked links rounds roots)
    (succeeds : ∀ input ∈ inputs, ∃ rootId,
      threadRootFromParentMap links rounds input.id = some (.ok rootId)) :
    ∃ all : ThreadRoots, collectRoots links rounds inputs roots = some (.ok all) ∧ Walked links rounds all
      ∧ (∀ id, (roots.find id).isSome = true → (all.find id).isSome = true)
      ∧ ∀ input ∈ inputs, (all.find input.id).isSome = true := by
  induction inputs generalizing roots with
  | nil => exact ⟨roots, rfl, walked, fun _ old => old, fun _ mem => by cases mem⟩
  | cons status rest ih =>
    obtain ⟨rootId, returns⟩ := succeeds status List.mem_cons_self
    have nextWalked : Walked links rounds
        (roots.insertOrReplace { statusId := status.id, rootId := rootId }) := by
      intro entry mem
      rcases Table.mem_insertOrReplace_iff.mp mem with rfl | ⟨old, _⟩
      · exact returns
      · exact walked entry old
    obtain ⟨all, collected, allWalked, keeps, holds⟩ := ih nextWalked
      fun input mem => succeeds input (List.mem_cons_of_mem _ mem)
    refine ⟨all, ?_, allWalked, ?_, ?_⟩
    · rw [collectRoots, returns]
      exact collected
    · intro id old
      refine keeps id ?_
      rw [Table.find_insertOrReplace]
      split_ifs
      · rfl
      · exact old
    · intro input mem
      rcases List.mem_cons.mp mem with rfl | later
      · refine keeps _ ?_
        rw [Table.find_insertOrReplace, if_pos rfl]
        rfl
      · exact holds input later

theorem collectRoots_of_endsAtRoot (loading : Loading statuses inputs links)
    (full : Complete links) (enough : links.rows.length + 1 ≤ rounds)
    (ends : ∀ input ∈ inputs, EndsAtRoot statuses input) :
    ∃ roots, collectRoots links rounds inputs Table.empty = some (.ok roots)
      ∧ MapsToTopAncestors statuses inputs roots := by
  have top : ∀ input ∈ inputs, ∃ root, IsTopAncestor statuses input root
      ∧ threadRootFromParentMap links rounds input.id = some (.ok root.id) := by
    intro input given
    obtain ⟨answer, returns⟩ := exists_threadRoot enough input.id
    rcases rootWalk_sound loading.within full (loading.given input given) returns with
      ⟨root, top, rfl⟩ | endless
    · exact ⟨root, top, returns⟩
    · exact ((ends input given).not_endless endless).elim
  have emptyWalked : Walked links rounds Table.empty := by
    intro entry mem
    cases mem
  have succeeds : ∀ input ∈ inputs, ∃ rootId,
      threadRootFromParentMap links rounds input.id = some (.ok rootId) := by
    intro input given
    obtain ⟨root, _, returns⟩ := top input given
    exact ⟨root.id, returns⟩
  obtain ⟨roots, collected, walked, _, holds⟩ := collectRoots_of_ok emptyWalked succeeds
  refine ⟨roots, collected, fun input given => ?_⟩
  obtain ⟨root, isTop, returns⟩ := top input given
  obtain ⟨entry, got⟩ := Option.isSome_iff_exists.mp (holds input given)
  obtain ⟨mem, eq⟩ := Table.find_eq_some got
  have again := walked entry mem
  rw [eq, returns, Option.some.injEq, Except.ok.injEq] at again
  refine ⟨root, isTop, ?_⟩
  rw [got, again, ← eq]

/-- **Which statuses are mapped to their topmost ancestors**: all, exactly when the thread
of each ends at a status that is no reply.  The function comes to an end exactly when each
parent above the given statuses is stored; a thread in which a parent is not stored keeps
it asking for that parent. -/
theorem resolveThreadRootStatusIds_iff (statuses : ReplyLinks)
    (inputs : List StatusReplyLinkRow) (stored : ∀ input ∈ inputs, input ∈ statuses.rows) :
    ((∃ rounds roots, resolveThreadRootStatusIds statuses rounds inputs = some (.ok roots)
        ∧ MapsToTopAncestors statuses inputs roots)
      ↔ ∀ input ∈ inputs, EndsAtRoot statuses input)
      ∧ ((∃ rounds answer, resolveThreadRootStatusIds statuses rounds inputs = some answer)
        ↔ ∀ input ∈ inputs, ParentsStored statuses input) := by
  -- Rounds that are enough for the loads are enough for them and the walks together.
  have more {rounds : Nat} {links : ReplyLinks}
      (ended : loadLinks statuses rounds inputs = some links) :
      loadLinks statuses (rounds + (links.rows.length + 1)) inputs = some links :=
    whileLoop_of_le ended (Nat.le_add_right _ _)
  have loads {rounds : Nat} {answer : Except String ThreadRoots}
      (got : resolveThreadRootStatusIds statuses rounds inputs = some answer) :
      ∀ input ∈ inputs, ParentsStored statuses input := by
    obtain ⟨links, ended, _⟩ := Option.bind_eq_some_iff.mp got
    exact (loadLinks_isSome_iff stored).mp ⟨rounds, links, ended⟩
  constructor
  · constructor
    · rintro ⟨rounds, roots, got, maps⟩ input given
      obtain ⟨root, top, _⟩ := maps input given
      exact top.endsAtRoot (loads got input given)
    · intro ends
      obtain ⟨rounds, links, ended⟩ := (loadLinks_isSome_iff stored).mpr
        fun input given => (ends input given).parentsStored
      obtain ⟨loading, full⟩ := loadLinks_sound stored ended
      obtain ⟨roots, collected, maps⟩ := collectRoots_of_endsAtRoot loading full
        (Nat.le_add_left (links.rows.length + 1) rounds) ends
      refine ⟨rounds + (links.rows.length + 1), roots, ?_, maps⟩
      rw [resolveThreadRootStatusIds, more ended, Option.bind_some, collected]
  · constructor
    · rintro ⟨rounds, answer, got⟩
      exact loads got
    · intro parents
      obtain ⟨rounds, links, ended⟩ := (loadLinks_isSome_iff stored).mpr parents
      obtain ⟨answer, collected⟩ := exists_collectRoots
        (Nat.le_add_left (links.rows.length + 1) rounds) inputs Table.empty
      refine ⟨rounds + (links.rows.length + 1), answer, ?_⟩
      rw [resolveThreadRootStatusIds, more ended, Option.bind_some, collected]

/-! ## A reply to a status of another server -/

/-- A local reply whose parent is a remote status, and so no row of `statuses`. -/
def replyOfRemote : StatusReplyLinkRow := { id := "reply", inReplyToId := some "remote-parent" }

def localReply : StatusReplyLinkRow := { id := "reply", inReplyToId := some "root" }

def localRoot : StatusReplyLinkRow := { id := "root", inReplyToId := none }

def localThread : ReplyLinks := ⟨[localRoot, localReply], by decide⟩

theorem resolveThreadRootStatusIds_iff_localThread :
    (∃ rounds roots, resolveThreadRootStatusIds localThread rounds [localReply]
        = some (.ok roots) ∧ MapsToTopAncestors localThread [localReply] roots) := by
  refine ((resolveThreadRootStatusIds_iff localThread [localReply] ?_).1).mpr ?_
  · intro input given
    obtain rfl := List.mem_singleton.mp given
    exact List.mem_cons_of_mem _ List.mem_cons_self
  · intro input given
    obtain rfl := List.mem_singleton.mp given
    exact ⟨1, localRoot, rfl, rfl⟩

/-- **The resolution of one reply never ends.** -/
theorem replyOfRemote_never_resolved :
    replyOfRemote ∈ (Table.singleton replyOfRemote : ReplyLinks).rows
      ∧ ∀ rounds,
        resolveThreadRootStatusIds (Table.singleton replyOfRemote) rounds [replyOfRemote]
          = none := by
  refine ⟨List.mem_cons_self, fun rounds => ?_⟩
  have endless : loadLinks (Table.singleton replyOfRemote) rounds [replyOfRemote] = none := by
    refine whileLoop_eq_none (fun links => links = Table.singleton replyOfRemote) ?_ ?_ ?_
    · exact Table.ext (by decide +kernel)
    · rintro links rfl _
      exact Table.ext (by decide +kernel)
    · rintro links rfl
      decide +kernel
  rw [resolveThreadRootStatusIds, endless, Option.bind_none]

end Cfwdon.Statuses
