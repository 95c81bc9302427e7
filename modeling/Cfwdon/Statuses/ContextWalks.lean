import Cfwdon.Library.Loops
import Cfwdon.Library.Table
import Cfwdon.Library.Unseen
import Cfwdon.Library.Lists
import Cfwdon.Statuses.Content

/-!
# The context of a status

The context of a status is what it replies to, up the thread, and what replies to it, down
the thread.  A local status names its parent by id, a remote one by URI.  Four walkers
build the two lists: up from a local status along the local parents, up from a remote
status along URIs and then along the local parents, and down from either, a level of
replies at a time.

The loops of the walkers run for as many rounds as there are stored statuses, and some
more; a loop that would go on has no result.
-/

namespace Cfwdon.Statuses

open Library

/-- The columns of a `statuses` row that the walkers read. -/
structure LocalThreadStatus where
  id : String
  accountId : String
  apId : Option String
  inReplyToId : Option String
  visibility : Visibility
  createdAt : String
  deriving DecidableEq

/-- The columns of a `remote_statuses` row that the walkers read. -/
structure RemoteThreadStatus where
  id : String
  actorUri : String
  objectUri : String
  inReplyToUri : Option String
  visibility : Visibility
  publishedAt : String
  deriving DecidableEq

/-- The two tables.  Every insert of a status writes its `ap_id`, which is unique, as is
the id of a remote status. -/
structure ThreadStore where
  statuses : Table LocalThreadStatus LocalThreadStatus.id
  remoteStatuses : Table RemoteThreadStatus RemoteThreadStatus.objectUri
  apIdStored : ∀ status ∈ statuses.rows, status.apId.isSome = true
  apIdsDistinct : (statuses.rows.map LocalThreadStatus.apId).Nodup
  remoteIdsDistinct : (remoteStatuses.rows.map RemoteThreadStatus.id).Nodup

/-- What the walkers read besides the two tables. -/
structure ContextReads where
  /-- Whether a viewer is signed in. -/
  isAuthenticated : Bool
  /-- The username of a stored account. -/
  username : String → Option String
  /-- `actor_url` of the instance. -/
  actorUrl : String → String
  /-- `can_view_local_status`, for the viewer. -/
  canViewLocalStatus : LocalThreadStatus → Bool
  /-- Whether a remote actor is stored. -/
  hasRemoteActor : String → Bool
  /-- `resolve_remote_status_by_url` for a signed-in viewer; nothing for others. -/
  resolveRemoteStatusByUrl : String → Option RemoteThreadStatus

/-- `StatusRenderItem`: a status of one of the tables. -/
inductive ContextItem where
  | status (row : LocalThreadStatus)
  | remote (row : RemoteThreadStatus)
  deriving DecidableEq

/-- The date that descendants are ordered by. -/
def ContextItem.date : ContextItem → String
  | .status row => row.createdAt
  | .remote row => row.publishedAt

variable (store : ThreadStore) (reads : ContextReads)

/-! ## Limits -/

def authContextLimit : Nat := 4096

def unauthContextAncestorLimit : Nat := 40

def unauthContextDescendantLimit : Nat := 60

def unauthContextDescendantMaxDepth : Nat := 20

def maxContextAncestorDepth : Nat := 256

def contextAncestorLimit (isAuthenticated : Bool) : Nat :=
  if isAuthenticated then authContextLimit else unauthContextAncestorLimit

def contextDescendantLimit (isAuthenticated : Bool) : Nat :=
  if isAuthenticated then authContextLimit else unauthContextDescendantLimit

def contextDescendantMaxDepth (isAuthenticated : Bool) : Option Nat :=
  if isAuthenticated then none else some unauthContextDescendantMaxDepth

/-- `next_context_child_depth`, also of the remote walker. -/
def nextContextChildDepth (maxDepth : Option Nat) (depth : Nat) : Option Nat :=
  if maxDepth.any fun limit => decide (limit < depth + 1) then none else some (depth + 1)

/-- The nearest ones, which stand last. -/
def trimContextAncestors (isAuthenticated : Bool) (ancestors : List ContextItem) :
    List ContextItem :=
  keepLast (contextAncestorLimit isAuthenticated) ancestors

def trimContextDescendants (isAuthenticated : Bool) (descendants : List ContextItem) :
    List ContextItem :=
  descendants.take (contextDescendantLimit isAuthenticated)

/-! ## Queries -/

/-- Rows in the order of their dates. -/
def oldestFirst {Row : Type} (date : Row → String) (rows : List Row) : List Row :=
  rows.mergeSort fun first second => decide (date first ≤ date second)

def listDirectLocalRepliesToIds (ids : List String) : List LocalThreadStatus :=
  oldestFirst LocalThreadStatus.createdAt
    (store.statuses.select fun status => status.inReplyToId.any ids.contains)

def listDirectRemoteRepliesByUris (uris : List String) : List RemoteThreadStatus :=
  oldestFirst RemoteThreadStatus.publishedAt
    (store.remoteStatuses.select fun status =>
      status.inReplyToUri.any uris.contains && reads.hasRemoteActor status.actorUri)

def findStatusByApId (apId : String) : Option LocalThreadStatus :=
  store.statuses.rows.find? fun status => status.apId = some apId

/-- A status and the local ones above it, the nearest first. -/
def listLocalReplyChain : Nat → String → List LocalThreadStatus
  | 0, _ => []
  | depth + 1, statusId =>
    match store.statuses.find statusId with
    | none => []
    | some status =>
      status :: (status.inReplyToId.map (listLocalReplyChain depth)).getD []

def localContextObjectUri (status : LocalThreadStatus) : String :=
  status.apId.getD
    (reads.actorUrl ((reads.username status.accountId).getD "") ++ "/statuses/" ++ status.id)

/-! ## Down the thread -/

structure LocalContextQueueNode where
  statusId : String
  objectUri : String
  depth : Nat

structure RemoteContextQueueNode where
  objectUri : String
  depth : Nat

/-- The depth that a map collected from pairs holds for a key: the last one. -/
def parentDepth (depths : List (String × Nat)) (key : String) : Option Nat :=
  depths.reverse.lookup key

/-- The loop over the replies of a level: those whose parent is in the level and that have
not been seen are seen, and those among them that are visible within the depth are kept,
with their depth. -/
def visitReplies {Row : Type} (id : Row → String) (parent : Row → Option String)
    (visible : Row → Bool) (depths : List (String × Nat)) (seenIds : Finset String)
    (replies : List Row) : List (Row × Nat) × Finset String :=
  let placed := replies.filterMap fun reply =>
    ((parent reply).bind (parentDepth depths)).map fun depth => (reply, depth)
  let fresh := keepUnseen (fun entry => id entry.1) seenIds placed
  (fresh.1.filterMap fun entry =>
    (nextContextChildDepth (contextDescendantMaxDepth reads.isAuthenticated) entry.2).bind
      fun childDepth => if visible entry.1 then some (entry.1, childDepth) else none,
    fresh.2)

def visitLocalReplies (depths : List (String × Nat)) (seenIds : Finset String)
    (replies : List LocalThreadStatus) : List (LocalThreadStatus × Nat) × Finset String :=
  visitReplies reads LocalThreadStatus.id LocalThreadStatus.inReplyToId
    (fun status => (reads.username status.accountId).isSome && reads.canViewLocalStatus status)
    depths seenIds replies

def visitRemoteReplies (depths : List (String × Nat)) (seenIds : Finset String)
    (replies : List RemoteThreadStatus) : List (RemoteThreadStatus × Nat) × Finset String :=
  visitReplies reads RemoteThreadStatus.id RemoteThreadStatus.inReplyToUri
    (fun status => isPublicActivitypubVisibility status.visibility) depths seenIds replies

/-- The state of the walk down from a local status. -/
structure LocalDescendantWalk where
  localLevel : List LocalContextQueueNode
  remoteLevel : List RemoteContextQueueNode
  seenLocalIds : Finset String
  seenRemoteIds : Finset String
  descendants : List ContextItem

def LocalDescendantWalk.continues (walk : LocalDescendantWalk) : Bool :=
  !walk.localLevel.isEmpty || !walk.remoteLevel.isEmpty

/-- One level of replies, local and remote. -/
def LocalDescendantWalk.next (walk : LocalDescendantWalk) : LocalDescendantWalk :=
  let localParentDepths := walk.localLevel.map fun node => (node.statusId, node.depth)
  let uriParentDepths :=
    (walk.localLevel.map fun node => (node.objectUri, node.depth))
      ++ walk.remoteLevel.map fun node => (node.objectUri, node.depth)
  let locals := visitLocalReplies reads localParentDepths walk.seenLocalIds
    (listDirectLocalRepliesToIds store (localParentDepths.map Prod.fst))
  let remotes := visitRemoteReplies reads uriParentDepths walk.seenRemoteIds
    (listDirectRemoteRepliesByUris store reads (uriParentDepths.map Prod.fst))
  { localLevel := locals.1.map fun entry =>
      ⟨entry.1.id, localContextObjectUri reads entry.1, entry.2⟩
    remoteLevel := remotes.1.map fun entry => ⟨entry.1.objectUri, entry.2⟩
    seenLocalIds := locals.2
    seenRemoteIds := remotes.2
    descendants := walk.descendants ++ (locals.1.map fun entry => .status entry.1)
      ++ remotes.1.map fun entry => .remote entry.1 }

/-- The state of the walk down from a remote status. -/
structure RemoteDescendantWalk where
  level : List RemoteContextQueueNode
  seenRemoteIds : Finset String
  descendants : List ContextItem

def RemoteDescendantWalk.continues (walk : RemoteDescendantWalk) : Bool :=
  !walk.level.isEmpty

/-- One level of remote replies. -/
def RemoteDescendantWalk.next (walk : RemoteDescendantWalk) : RemoteDescendantWalk :=
  let parentDepths := walk.level.map fun node => (node.objectUri, node.depth)
  let remotes := visitRemoteReplies reads parentDepths walk.seenRemoteIds
    (listDirectRemoteRepliesByUris store reads (parentDepths.map Prod.fst))
  { level := remotes.1.map fun entry => ⟨entry.1.objectUri, entry.2⟩
    seenRemoteIds := remotes.2
    descendants := walk.descendants ++ remotes.1.map fun entry => .remote entry.1 }

def walkRounds : Nat :=
  store.statuses.rows.length + store.remoteStatuses.rows.length + 2

def LocalDescendantWalk.start (root : LocalThreadStatus) : LocalDescendantWalk where
  localLevel := [⟨root.id, localContextObjectUri reads root, 0⟩]
  remoteLevel := []
  seenLocalIds := {root.id}
  seenRemoteIds := ∅
  descendants := []

def RemoteDescendantWalk.start (root : RemoteThreadStatus) : RemoteDescendantWalk where
  level := [⟨root.objectUri, 0⟩]
  seenRemoteIds := {root.id}
  descendants := []

/-- The order and the limit of the descendants. -/
def finishDescendants (descendants : List ContextItem) : List ContextItem :=
  trimContextDescendants reads.isAuthenticated (oldestFirst ContextItem.date descendants)

def collectDescendantsForLocalRoot (root : LocalThreadStatus) : Option (List ContextItem) :=
  (whileLoop LocalDescendantWalk.continues (LocalDescendantWalk.next store reads)
      (walkRounds store) (.start reads root)).map
    fun walk => finishDescendants reads walk.descendants

def collectDescendantsForRemoteRoot (root : RemoteThreadStatus) : Option (List ContextItem) :=
  (whileLoop RemoteDescendantWalk.continues (RemoteDescendantWalk.next store reads)
      (walkRounds store) (.start root)).map
    fun walk => finishDescendants reads walk.descendants

/-! ## Up the thread -/

/-- The loop over the local parents, which breaks off at a status seen before, without an
owner, or out of sight. -/
def visitReplyChain : Finset String → List LocalThreadStatus → List ContextItem
  | _, [] => []
  | seenLocalIds, status :: rest =>
    if status.id ∈ seenLocalIds then []
    else if (reads.username status.accountId).isNone then []
    else if !reads.canViewLocalStatus status then []
    else .status status :: visitReplyChain (insert status.id seenLocalIds) rest

/-- The ancestors in `build_local_status_context`. -/
def collectAncestorsForLocalRoot (root : LocalThreadStatus) : List ContextItem :=
  let chain :=
    (root.inReplyToId.map (listLocalReplyChain store maxContextAncestorDepth)).getD []
  trimContextAncestors reads.isAuthenticated (visitReplyChain reads ∅ chain).reverse

/-- Where the walk up from a remote status stands: at a URI, or among local parents. -/
inductive AncestorCursor where
  | uri (objectUri : String)
  | status (row : LocalThreadStatus)

/-- The state of the walk up from a remote status. -/
structure AncestorWalk where
  current : Option AncestorCursor
  seenLocalIds : Finset String
  seenRemoteIds : Finset String
  ancestors : List ContextItem

def AncestorWalk.continues (walk : AncestorWalk) : Bool :=
  walk.current.isSome

def AncestorWalk.stop (walk : AncestorWalk) : AncestorWalk :=
  { walk with current := none }

def AncestorWalk.visitRemote (walk : AncestorWalk) (status : RemoteThreadStatus) :
    AncestorWalk :=
  if status.id ∈ walk.seenRemoteIds then walk.stop
  else if !isPublicActivitypubVisibility status.visibility then walk.stop
  else if !reads.hasRemoteActor status.actorUri then walk.stop
  else
    { walk with
      current := status.inReplyToUri.map .uri
      seenRemoteIds := insert status.id walk.seenRemoteIds
      ancestors := walk.ancestors ++ [.remote status] }

def AncestorWalk.visitLocal (walk : AncestorWalk) (status : LocalThreadStatus) : AncestorWalk :=
  if status.id ∈ walk.seenLocalIds then walk.stop
  else if (reads.username status.accountId).isNone then walk.stop
  else if !isPublicActivitypubVisibility status.visibility then walk.stop
  else
    { walk with
      current := (status.inReplyToId.bind store.statuses.find).map .status
      seenLocalIds := insert status.id walk.seenLocalIds
      ancestors := walk.ancestors ++ [.status status] }

/-- One step up: once the walk has come to a local status it follows ids only. -/
def AncestorWalk.next (walk : AncestorWalk) : AncestorWalk :=
  match walk.current with
  | none => walk
  | some (.uri objectUri) =>
    match findStatusByApId store objectUri with
    | some status => { walk with current := some (.status status) }
    | none =>
      match (store.remoteStatuses.find objectUri).or
          (reads.resolveRemoteStatusByUrl objectUri) with
      | some status => walk.visitRemote reads status
      | none => walk.stop
  | some (.status status) => walk.visitLocal store reads status

def AncestorWalk.start (root : RemoteThreadStatus) : AncestorWalk where
  current := root.inReplyToUri.map .uri
  seenLocalIds := ∅
  seenRemoteIds := ∅
  ancestors := []

def collectAncestorsForRemoteRoot (root : RemoteThreadStatus) : Option (List ContextItem) :=
  (whileLoop AncestorWalk.continues (AncestorWalk.next store reads) (walkRounds store)
      (.start root)).map
    fun walk => trimContextAncestors reads.isAuthenticated walk.ancestors.reverse

/-- `MastodonContextResponse`, before its items are rendered. -/
structure StatusContext where
  ancestors : List ContextItem
  descendants : List ContextItem

def buildStatusContext : ContextItem → Option StatusContext
  | .status root =>
    (collectDescendantsForLocalRoot store reads root).map fun descendants =>
      ⟨collectAncestorsForLocalRoot store reads root, descendants⟩
  | .remote root => do
    let ancestors ← collectAncestorsForRemoteRoot store reads root
    let descendants ← collectDescendantsForRemoteRoot store reads root
    return ⟨ancestors, descendants⟩

end Cfwdon.Statuses
