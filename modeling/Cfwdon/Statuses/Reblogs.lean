import Cfwdon.Library.Run
import Cfwdon.Library.Table
import Cfwdon.Statuses.Content

/-!
# Reblogs

A reblog is kept in three places: the row of `reblogs`, a wrapper status of the account
that shows it in timelines, and the Announce activity sent for it.  Requests to reblog a
status and to take the reblog back read and write them by separate statements, and any of
them may fail.

The model follows one account and one target status.  A request is the statement it runs
next, with what it has read so far; `Executes` says what each statement does, and `Step`
interleaves the statements of any number of requests.
-/

namespace Cfwdon.Statuses

open Library

/-- Where the target status is stored. -/
inductive TargetKind where
  | localStatus
  | remoteStatus

/-- The target status, as seen by the account. -/
structure ReblogTarget where
  kind : TargetKind
  visibility : Visibility
  owned : Bool

/-- The visibility of a reblog; `none` if it is not permitted. -/
def reblogVisibility (target : Visibility) (owned : Bool) (requested : Option Visibility)
    (defaultVisibility : Visibility) : Option Visibility :=
  match target with
  | .direct => none
  | .followersOnly => if owned then some .followersOnly else none
  | .publicPost => some (requested.getD defaultVisibility)
  | .unlisted => some (requested.getD defaultVisibility)

/-! ## The tables -/

/-- A status of the account with the target in `boost_of_uri`. -/
structure ReblogWrapper where
  id : String
  visibility : Visibility
  createdAt : Nat
  updatedAt : Nat
deriving DecidableEq

/-- The row of `reblogs` for the account and the target, its primary key. -/
structure ReblogRow where
  visibility : Visibility
  apActivityId : Option String
deriving DecidableEq

/-- An activity put into the outbox. -/
inductive ReblogActivity where
  | announce (activityId wrapperId : String) (visibility : Visibility)
  | undoAnnounce (announceId : String) (visibility : Visibility)
deriving DecidableEq

/-- What is stored for the account and the target.  `activities` lists all activities put
into the outbox so far and `built` the ids of the Announces built so far; `replaced` are
the Announces that the row of `reblogs` named until another was written in their place. -/
structure ReblogStore where
  wrappers : Table ReblogWrapper ReblogWrapper.id
  reblog : Option ReblogRow
  activities : List ReblogActivity
  built : List String
  replaced : List String

def ReblogStore.empty : ReblogStore :=
  { wrappers := Table.empty, reblog := none, activities := [], built := [], replaced := [] }

/-- `find_reblog_activity_by_target_uri`, the id of the activity. -/
def ReblogStore.activityId (store : ReblogStore) : Option String :=
  store.reblog.bind ReblogRow.apActivityId

/-- `ORDER BY created_at DESC LIMIT 1`; ties are left open. -/
def ReblogStore.Newest (store : ReblogStore) (wrapper : ReblogWrapper) : Prop :=
  wrapper ∈ store.wrappers.rows ∧ ∀ other ∈ store.wrappers.rows, other.createdAt ≤ wrapper.createdAt

/-- `update_reblog_wrapper_status_row`. -/
def updateReblogWrapper (wrapperId : String) (visibility : Visibility) (updatedAt : Nat) :
    Update ReblogWrapper ReblogWrapper.id where
  guard wrapper := decide (wrapper.id = wrapperId)
  set wrapper := { wrapper with visibility := visibility, updatedAt := updatedAt }
  keeps _ := rfl

/-- The upsert of the row.  The activity is never NULL here, so that the COALESCE of the
one for local statuses takes it as well. -/
def ReblogStore.upsertReblog (store : ReblogStore) (visibility : Visibility)
    (activityId : String) : ReblogStore :=
  { store with
    reblog := some { visibility := visibility, apActivityId := some activityId }
    replaced := (store.activityId.toList ++ store.replaced).filter fun id => id ≠ activityId }

/-! ## Requests -/

/-- The statement a reblog runs next.  `existing` is the activity of the row, where it has
been read already; an Announce that was built by the request is marked `isNew`. -/
inductive ReblogPhase where
  | readActivityFirst
  | findWrapper (existing : Option String)
  | updateWrapper (wrapperId : String) (existing : Option String)
  | requireWrapper (wrapperId : String) (existing : Option String)
  | insertWrapper (existing : Option String)
  | readActivity (wrapperId : String)
  | enqueueAnnounce (wrapperId : String)
  | upsertReblog (activityId : String) (isNew : Bool)
deriving DecidableEq

/-- The statement an unreblog runs next. -/
inductive UnreblogPhase where
  | readReblog
  | enqueueUndo (announceId : String) (visibility : Visibility)
  | deleteReblog
  | deleteWrapper
deriving DecidableEq

inductive ReblogRequest where
  | reblog (visibility : Visibility) (phase : ReblogPhase)
  | unreblog (phase : UnreblogPhase)
deriving DecidableEq

/-- For a remote status the row of `reblogs` is read before the wrapper is written. -/
def ReblogPhase.first : TargetKind → ReblogPhase
  | .localStatus => .findWrapper none
  | .remoteStatus => .readActivityFirst

/-- An activity is built where the row names none. -/
def ReblogPhase.announceUnless (existing : Option String) (wrapperId : String) : ReblogPhase :=
  match existing with
  | none => .enqueueAnnounce wrapperId
  | some activityId => .upsertReblog activityId false

/-- For a local status the row is read once the wrapper is written. -/
def ReblogPhase.afterWrapper (kind : TargetKind) (wrapperId : String)
    (existing : Option String) : ReblogPhase :=
  match kind with
  | .localStatus => .readActivity wrapperId
  | .remoteStatus => .announceUnless existing wrapperId

/-- What an unreblog does about the row it has read. -/
def UnreblogPhase.undoOf (row : Option ReblogRow) : UnreblogPhase :=
  match row with
  | some { visibility, apActivityId := some announceId } => .enqueueUndo announceId visibility
  | _ => .deleteReblog

/-- What the next statement of a request does to the store, and what the request runs
afterwards; `none` if it is over. -/
inductive Executes (kind : TargetKind) :
    ReblogStore → ReblogRequest → ReblogStore → Option ReblogRequest → Prop where
  | readsActivityFirst {store : ReblogStore} {visibility : Visibility} :
      Executes kind store (.reblog visibility .readActivityFirst) store
        (some (.reblog visibility (.findWrapper store.activityId)))
  | findsWrapper {store : ReblogStore} {visibility : Visibility} {existing : Option String}
      {wrapper : ReblogWrapper} (newest : store.Newest wrapper) :
      Executes kind store (.reblog visibility (.findWrapper existing)) store
        (some (.reblog visibility (.updateWrapper wrapper.id existing)))
  | findsNoWrapper {store : ReblogStore} {visibility : Visibility} {existing : Option String}
      (missing : store.wrappers.rows = []) :
      Executes kind store (.reblog visibility (.findWrapper existing)) store
        (some (.reblog visibility (.insertWrapper existing)))
  | updatesWrapper {store : ReblogStore} {visibility : Visibility} {existing : Option String}
      {wrapperId : String} (now : Nat) :
      Executes kind store (.reblog visibility (.updateWrapper wrapperId existing))
        { store with
          wrappers := (updateReblogWrapper wrapperId visibility now).run store.wrappers }
        (some (.reblog visibility (.requireWrapper wrapperId existing)))
  | requiresWrapper {store : ReblogStore} {visibility : Visibility} {existing : Option String}
      {wrapperId : String} (stored : (store.wrappers.find wrapperId).isSome = true) :
      Executes kind store (.reblog visibility (.requireWrapper wrapperId existing)) store
        (some (.reblog visibility (.afterWrapper kind wrapperId existing)))
  -- "status not found"
  | missesWrapper {store : ReblogStore} {visibility : Visibility} {existing : Option String}
      {wrapperId : String} (missing : store.wrappers.find wrapperId = none) :
      Executes kind store (.reblog visibility (.requireWrapper wrapperId existing)) store none
  | insertsWrapper {store : ReblogStore} {visibility : Visibility} {existing : Option String}
      (wrapperId : String) (now : Nat) (unused : store.wrappers.find wrapperId = none) :
      Executes kind store (.reblog visibility (.insertWrapper existing))
        { store with wrappers := store.wrappers.insert ⟨wrapperId, visibility, now, now⟩ }
        (some (.reblog visibility (.afterWrapper kind wrapperId existing)))
  | readsActivity {store : ReblogStore} {visibility : Visibility} {wrapperId : String} :
      Executes kind store (.reblog visibility (.readActivity wrapperId)) store
        (some (.reblog visibility (.announceUnless store.activityId wrapperId)))
  -- The deliveries refer to the wrapper by a foreign key.
  | enqueuesAnnounce {store : ReblogStore} {visibility : Visibility} {wrapperId : String}
      (activityId : String) (fresh : activityId ∉ store.built)
      (stored : (store.wrappers.find wrapperId).isSome = true) :
      Executes kind store (.reblog visibility (.enqueueAnnounce wrapperId))
        { store with
          activities := store.activities ++ [.announce activityId wrapperId visibility]
          built := activityId :: store.built }
        (some (.reblog visibility (.upsertReblog activityId true)))
  -- With no inbox to deliver to nothing is enqueued, and the id is used all the same.
  | announcesNowhere {store : ReblogStore} {visibility : Visibility} {wrapperId : String}
      (activityId : String) (fresh : activityId ∉ store.built) :
      Executes kind store (.reblog visibility (.enqueueAnnounce wrapperId))
        { store with built := activityId :: store.built }
        (some (.reblog visibility (.upsertReblog activityId true)))
  | upsertsReblog {store : ReblogStore} {visibility : Visibility} {activityId : String}
      {isNew : Bool} :
      Executes kind store (.reblog visibility (.upsertReblog activityId isNew))
        (store.upsertReblog visibility activityId) none
  | readsReblog {store : ReblogStore} :
      Executes kind store (.unreblog .readReblog) store (some (.unreblog (.undoOf store.reblog)))
  -- The deliveries refer to the target by a foreign key to the local statuses, so that an
  -- Undo for a remote status cannot be enqueued.
  | enqueuesUndo {store : ReblogStore} {announceId : String} {visibility : Visibility}
      (isLocal : kind = .localStatus) :
      Executes kind store (.unreblog (.enqueueUndo announceId visibility))
        { store with activities := store.activities ++ [.undoAnnounce announceId visibility] }
        (some (.unreblog .deleteReblog))
  | undoesNowhere {store : ReblogStore} {announceId : String} {visibility : Visibility} :
      Executes kind store (.unreblog (.enqueueUndo announceId visibility)) store
        (some (.unreblog .deleteReblog))
  | deletesReblog {store : ReblogStore} :
      Executes kind store (.unreblog .deleteReblog) { store with reblog := none }
        (some (.unreblog .deleteWrapper))
  | deletesWrappers {store : ReblogStore} :
      Executes kind store (.unreblog .deleteWrapper) { store with wrappers := Table.empty } none

/-! ## Interleavings -/

/-- The store, and the requests in progress. -/
structure ReblogState where
  store : ReblogStore
  requests : List ReblogRequest

inductive ReblogEvent where
  | arrive (request : ReblogRequest)
  | execute (request : ReblogRequest)
  | fail (request : ReblogRequest)
deriving DecidableEq

/-- Requests arrive, run their statements in any order, and fail between any two. -/
inductive ReblogStep (target : ReblogTarget) : ReblogState → ReblogEvent → ReblogState → Prop where
  | arriveReblog {s : ReblogState} (requested : Option Visibility)
      (defaultVisibility : Visibility) {visibility : Visibility}
      (permitted : reblogVisibility target.visibility target.owned requested defaultVisibility
        = some visibility) :
      ReblogStep target s (.arrive (.reblog visibility (.first target.kind)))
        { s with requests := s.requests ++ [.reblog visibility (.first target.kind)] }
  | arriveUnreblog {s : ReblogState} :
      ReblogStep target s (.arrive (.unreblog .readReblog))
        { s with requests := s.requests ++ [.unreblog .readReblog] }
  | execute {s : ReblogState} {earlier later : List ReblogRequest} {request : ReblogRequest}
      {store : ReblogStore} {next : Option ReblogRequest}
      (running : s.requests = earlier ++ request :: later)
      (executed : Executes target.kind s.store request store next) :
      ReblogStep target s (.execute request)
        { store := store, requests := earlier ++ (next.toList ++ later) }
  | fail {s : ReblogState} {earlier later : List ReblogRequest} {request : ReblogRequest}
      (running : s.requests = earlier ++ request :: later) :
      ReblogStep target s (.fail request) { s with requests := earlier ++ later }

end Cfwdon.Statuses
