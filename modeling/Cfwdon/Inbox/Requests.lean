import Cfwdon.Library.Run
import Cfwdon.Library.Table
import Cfwdon.Library.Text

/-!
# Inbox requests and their claims

The store of inbox activities, and the requests that claim and finish an activity in it.
-/

namespace Cfwdon.Inbox

section ActivityStore

/-! ## The inbox activity store

`inbox_activities` has one row per actor and activity id.  A row without
`processed_at` is the claim of the request that is processing the activity; a
row with it keeps later deliveries of the activity out.

The claim carries no owner, so the statements that finish a request find it by
actor and activity id alone.  After a worker has died, `reclaimStaleMark` infers
from the statuses and actors in the database whether the activity was applied.
-/

open Library

structure InboxActivity where
  actorUri : String
  activityId : String
  activityType : String
  createdAt : Nat
  processedAt : Option Nat
  /-- The request whose insert made the row: history, read by no statement. -/
  heldBy : Nat
  deriving DecidableEq

def InboxActivity.key (row : InboxActivity) : String × String :=
  (row.actorUri, row.activityId)

/-- `inbox_activities`, keyed by actor and activity id. -/
abbrev InboxActivities := Table InboxActivity InboxActivity.key

/-- The identifying columns of `remote_statuses`. -/
structure StatusRef where
  objectUri : String
  url : Option String

/-- `remote_statuses`, with its unique `object_uri`. -/
abbrev StatusRefs := Table StatusRef StatusRef.objectUri

/-- `INBOX_IN_FLIGHT_STALE_MODIFIER`: fifteen minutes. -/
def inboxInFlightStaleSeconds : Nat := 900

def staleClaim (now : Nat) (row : InboxActivity) : Bool :=
  row.processedAt.isNone && decide (row.createdAt + inboxInFlightStaleSeconds ≤ now)

/-! ## Claims -/

/-- The first statement of `begin_inbox_activity_processing`: a stale claim of the
activity is dropped. -/
def dropStaleClaim (now : Nat) (actorUri activityId : String) (activities : InboxActivities) :
    InboxActivities :=
  activities.deleteWhere fun row => row.key == (actorUri, activityId) && staleClaim now row

/-- The claim a request inserts. -/
def newClaim (now : Nat) (actorUri activityId activityType : String) (heldBy : Nat) :
    InboxActivity where
  actorUri := actorUri
  activityId := activityId
  activityType := activityType
  createdAt := now
  processedAt := none
  heldBy := heldBy

/-- The second statement of `begin_inbox_activity_processing`: the activity is
claimed unless it has a row. -/
def insertClaim (now : Nat) (actorUri activityId activityType : String) (heldBy : Nat)
    (activities : InboxActivities) : InboxActivities :=
  activities.insert (newClaim now actorUri activityId activityType heldBy)

def markInboxActivityProcessed (now : Nat) (actorUri activityId : String) :
    Update InboxActivity InboxActivity.key where
  guard row := row.key == (actorUri, activityId)
  set row := { row with processedAt := some now }
  keeps _ := rfl

def releaseInboxActivityProcessing (actorUri activityId : String)
    (activities : InboxActivities) : InboxActivities :=
  activities.deleteWhere fun row => row.key == (actorUri, activityId) && row.processedAt.isNone

/-! ## Reclaiming stale claims -/

/-- The status a `Create` or `Update` is taken to be about: its id without
`/activity`. -/
def statusUriOfActivity (activityId : String) : String :=
  removeAll activityId "/activity"

/-- The test of `reclaim_stale_inbox_activities` for the side effects of an
activity: a `Create` has its status, an `Update` its status or its actor, and no
status has the id of a `Delete`. -/
def sideEffectsPresent (statuses : StatusRefs) (actors : List String) (row : InboxActivity) :
    Bool :=
  (row.activityType == "Create"
      && statuses.exists? fun status => status.objectUri == statusUriOfActivity row.activityId)
    || (row.activityType == "Update"
      && ((likeContains row.activityId "#updates/" && actors.contains row.actorUri)
        || statuses.exists? fun status =>
          status.objectUri == statusUriOfActivity row.activityId
            || status.objectUri == row.activityId))
    || (row.activityType == "Delete"
      && !statuses.exists? fun status =>
          status.objectUri == row.activityId || status.url == some row.activityId)

/-- The subselect of the first reclaim statement. -/
def reclaimable (now : Nat) (statuses : StatusRefs) (actors : List String)
    (row : InboxActivity) : Bool :=
  staleClaim now row && sideEffectsPresent statuses actors row

/-- The first statement of `reclaim_stale_inbox_activities`: the selected claims
are marked processed. -/
def reclaimStaleMark (now : Nat) (keys : List (String × String)) :
    Update InboxActivity InboxActivity.key where
  guard row := staleClaim now row && keys.contains row.key
  set row := { row with processedAt := some now }
  keeps _ := rfl

/-- The subselect of the second reclaim statement. -/
def releasable (now : Nat) (statuses : StatusRefs) (row : InboxActivity) : Bool :=
  staleClaim now row && row.activityType == "Create"
    && !statuses.exists? fun status => status.objectUri == statusUriOfActivity row.activityId

/-- The second statement of `reclaim_stale_inbox_activities`: the selected claims
of a `Create` are dropped. -/
def reclaimStaleRelease (now : Nat) (keys : List (String × String))
    (activities : InboxActivities) : InboxActivities :=
  activities.deleteWhere fun row =>
    staleClaim now row && row.activityType == "Create" && keys.contains row.key

/-! ## What the tests compare -/

theorem unprocessed_of_staleClaim {now : Nat} {row : InboxActivity}
    (stale : staleClaim now row = true) :
    row.processedAt = none ∧ row.createdAt + inboxInFlightStaleSeconds ≤ now := by
  simpa [staleClaim] using stale

end ActivityStore

section Requests

/-! ## Inbox requests

`process_verified_inbox_activity` is run by many requests at once, several of
them for deliveries of one activity.  A request drops a stale claim, inserts its
own, calls its handlers and finishes: it marks the activity processed when all of
them succeeded, and releases the claim when one failed.  A request that dies
takes no further step.

`InboxStep` has one constructor per statement, so another request or a reclaim
pass may step between any two statements of a request.  Handlers may write
anything to the statuses and actors, in part or in full, before they return,
fail or die.
-/

open Library

def inboxActivityIgnoresRecipient (activityType : String) : Bool :=
  ["Accept", "Reject", "Delete", "Add", "Remove"].contains activityType

/-- A call of a handler, for a target account, for all of them or for none. -/
inductive HandlerCall where
  | dispatch (account : Option String)
  | createForAccounts (accounts : List String)
  | updateForAccounts (accounts : List String)
  deriving DecidableEq

def handlerCalls (activityType : String) (accounts : List String) : List HandlerCall :=
  if accounts.isEmpty then [.dispatch none]
  else if activityType = "Create" then [.createForAccounts accounts]
  else if activityType = "Update" then [.updateForAccounts accounts]
  else if inboxActivityIgnoresRecipient activityType then [.dispatch accounts.head?]
  else accounts.map fun account => .dispatch (some account)

/-! ## Requests -/

inductive RequestPhase where
  /-- The stale claim is dropped, the insert is next. -/
  | received
  /-- The activity had a row: a replay. -/
  | skipped
  /-- The claim is inserted and these handler calls are left. -/
  | processing (claimedAt : Nat) (remaining : List HandlerCall)
  /-- A handler failed, the release is next. -/
  | failed
  | processed
  | released
  deriving DecidableEq

/-- All handlers have returned without an error. -/
def RequestPhase.completed : RequestPhase → Bool
  | .processing _ [] => true
  | .processed => true
  | _ => false

/-- A delivery of an activity. -/
structure InboxRequest where
  number : Nat
  actorUri : String
  activityId : String
  activityType : String
  /-- The id in the `object` of the activity: what a `Delete` names. -/
  objectUri : Option String
  /-- The target accounts. -/
  accounts : List String
  phase : RequestPhase
  deriving DecidableEq

/-- The activity a request delivers. -/
def InboxRequest.key (request : InboxRequest) : String × String :=
  (request.actorUri, request.activityId)

/-- The request with its claim inserted and its handlers to call. -/
def InboxRequest.begun (now : Nat) (request : InboxRequest) : InboxRequest :=
  { request with
    phase := .processing now (handlerCalls request.activityType request.accounts) }

/-- The requests received so far, by number. -/
abbrev InboxRequests := Table InboxRequest InboxRequest.number

def setPhase (number : Nat) (phase : RequestPhase) :
    Update InboxRequest InboxRequest.number where
  guard request := request.number == number
  set request := { request with phase := phase }
  keeps _ := rfl

/-- Some request for the activity has run its handlers to the end. -/
def HandlerCompleted (requests : InboxRequests) (key : String × String) : Prop :=
  ∃ request ∈ requests.rows, request.key = key ∧ request.phase.completed = true

/-! ## Steps -/

/-- The tables the inbox reads and writes, and the requests. -/
structure InboxState where
  now : Nat
  activities : InboxActivities
  requests : InboxRequests
  statuses : StatusRefs
  /-- The `actor_uri` column of `remote_actors`. -/
  actors : List String

def InboxState.initial : InboxState where
  now := 0
  activities := Table.empty
  requests := Table.empty
  statuses := Table.empty
  actors := []

inductive InboxEvent where
  | tick (seconds : Nat)
  | receive (number : Nat) (actorUri activityId activityType : String)
      (objectUri : Option String) (accounts : List String)
  | begin (number : Nat)
  | write (statuses : StatusRefs) (actors : List String)
  | handlerReturned (number : Nat)
  | handlerFailed (number : Nat)
  | markProcessed (number : Nat)
  | release (number : Nat)
  | reclaimMark (limit : Nat) (chosen : List InboxActivity)
  | reclaimRelease (limit : Nat) (chosen : List InboxActivity)

/-- One statement of a request or of a reclaim pass, a write of some handler, or
the passing of time. -/
inductive InboxStep : InboxState → InboxEvent → InboxState → Prop where
  | tick (s : InboxState) (seconds : Nat) :
      InboxStep s (.tick seconds) { s with now := s.now + seconds }
  | receive (s : InboxState) {number : Nat} (actorUri activityId activityType : String)
      (objectUri : Option String) (accounts : List String)
      (new : s.requests.find number = none) :
      InboxStep s (.receive number actorUri activityId activityType objectUri accounts)
        { s with
          activities := dropStaleClaim s.now actorUri activityId s.activities
          requests := s.requests.insert
            { number := number
              actorUri := actorUri
              activityId := activityId
              activityType := activityType
              objectUri := objectUri
              accounts := accounts
              phase := .received } }
  | begin (s : InboxState) {number : Nat} {request : InboxRequest}
      (found : s.requests.find number = some request) (received : request.phase = .received)
      (free : s.activities.find request.key = none) :
      InboxStep s (.begin number)
        { s with
          activities := insertClaim s.now request.actorUri request.activityId
            request.activityType number s.activities
          requests := (setPhase number (.processing s.now
            (handlerCalls request.activityType request.accounts))).run s.requests }
  | skip (s : InboxState) {number : Nat} {request : InboxRequest}
      (found : s.requests.find number = some request) (received : request.phase = .received)
      (taken : s.activities.find request.key ≠ none) :
      InboxStep s (.begin number)
        { s with
          activities := insertClaim s.now request.actorUri request.activityId
            request.activityType number s.activities
          requests := (setPhase number .skipped).run s.requests }
  | write (s : InboxState) (statuses : StatusRefs) (actors : List String) :
      InboxStep s (.write statuses actors) { s with statuses := statuses, actors := actors }
  | handlerReturned (s : InboxState) {number claimedAt : Nat} {request : InboxRequest}
      {call : HandlerCall} {remaining : List HandlerCall}
      (found : s.requests.find number = some request)
      (calling : request.phase = .processing claimedAt (call :: remaining)) :
      InboxStep s (.handlerReturned number)
        { s with requests := (setPhase number (.processing claimedAt remaining)).run s.requests }
  | handlerFailed (s : InboxState) {number claimedAt : Nat} {request : InboxRequest}
      {call : HandlerCall} {remaining : List HandlerCall}
      (found : s.requests.find number = some request)
      (calling : request.phase = .processing claimedAt (call :: remaining)) :
      InboxStep s (.handlerFailed number)
        { s with requests := (setPhase number .failed).run s.requests }
  | markProcessed (s : InboxState) {number claimedAt : Nat} {request : InboxRequest}
      (found : s.requests.find number = some request)
      (handled : request.phase = .processing claimedAt []) :
      InboxStep s (.markProcessed number)
        { s with
          activities := (markInboxActivityProcessed s.now request.actorUri
            request.activityId).run s.activities
          requests := (setPhase number .processed).run s.requests }
  | release (s : InboxState) {number : Nat} {request : InboxRequest}
      (found : s.requests.find number = some request) (failed : request.phase = .failed) :
      InboxStep s (.release number)
        { s with
          activities := releaseInboxActivityProcessing request.actorUri request.activityId
            s.activities
          requests := (setPhase number .released).run s.requests }
  | reclaimMark (s : InboxState) {limit : Nat} {chosen : List InboxActivity}
      (selection : Selection (fun _ => 0) limit
        (s.activities.select (reclaimable s.now s.statuses s.actors)) chosen) :
      InboxStep s (.reclaimMark limit chosen)
        { s with
          activities :=
            (reclaimStaleMark s.now (chosen.map InboxActivity.key)).run s.activities }
  | reclaimRelease (s : InboxState) {limit : Nat} {chosen : List InboxActivity}
      (selection : Selection (fun _ => 0) limit
        (s.activities.select (releasable s.now s.statuses)) chosen) :
      InboxStep s (.reclaimRelease limit chosen)
        { s with
          activities := reclaimStaleRelease s.now (chosen.map InboxActivity.key) s.activities }

abbrev InboxRun := Run InboxStep InboxState.initial

/-! ## What a step makes of a request -/

section OneStep

variable {s s' : InboxState} {event : InboxEvent} {number : Nat} {request : InboxRequest}
  {key : String × String} {row : InboxActivity}

/-- The phases a request reaches by its own steps. -/
inductive Advance (s : InboxState) (request : InboxRequest) : InboxEvent → RequestPhase → Prop
  where
  | begin (received : request.phase = .received)
      (free : s.activities.find request.key = none) :
      Advance s request (.begin request.number)
        (.processing s.now (handlerCalls request.activityType request.accounts))
  | skip (received : request.phase = .received) :
      Advance s request (.begin request.number) .skipped
  | handlerReturned {claimedAt : Nat} {call : HandlerCall} {remaining : List HandlerCall}
      (calling : request.phase = .processing claimedAt (call :: remaining)) :
      Advance s request (.handlerReturned request.number) (.processing claimedAt remaining)
  | handlerFailed {claimedAt : Nat} {call : HandlerCall} {remaining : List HandlerCall}
      (calling : request.phase = .processing claimedAt (call :: remaining)) :
      Advance s request (.handlerFailed request.number) .failed
  | markProcessed {claimedAt : Nat} (handled : request.phase = .processing claimedAt []) :
      Advance s request (.markProcessed request.number) .processed
  | release (failed : request.phase = .failed) :
      Advance s request (.release request.number) .released

theorem setPhase_onRow_of_ne {named : Nat} {phase : RequestPhase}
    (other : request.number ≠ named) : (setPhase named phase).onRow request = request :=
  Update.onRow_of_not_guard (by simpa [setPhase] using other)

theorem setPhase_onRow_self (request : InboxRequest) (phase : RequestPhase) :
    (setPhase request.number phase).onRow request = { request with phase := phase } :=
  Update.onRow_of_guard (by simp [setPhase])

theorem find_setPhase {acting : InboxRequest} {phase : RequestPhase}
    (advance : Advance s acting event phase)
    (foundActing : s.requests.find acting.number = some acting)
    (got : s.requests.find number = some request) :
    ∃ reach, ((setPhase acting.number phase).run s.requests).find number
        = some { request with phase := reach }
      ∧ (reach = request.phase ∨ Advance s request event reach) := by
  rw [Table.find_run, got, Option.map_some]
  by_cases eq : request.number = acting.number
  · have isActing : request = acting :=
      Table.eq_of_key_eq (Table.mem_of_find got) (Table.mem_of_find foundActing) eq
    subst isActing
    exact ⟨phase, by rw [setPhase_onRow_self], Or.inr advance⟩
  · exact ⟨request.phase, by rw [setPhase_onRow_of_ne eq], Or.inl rfl⟩

/-- **A request stays**, in its phase or advanced by the event. -/
theorem InboxStep.request_some (step : InboxStep s event s')
    (got : s.requests.find number = some request) :
    ∃ reach, s'.requests.find number = some { request with phase := reach }
      ∧ (reach = request.phase ∨ Advance s request event reach) := by
  cases step with
  | tick | write | reclaimMark | reclaimRelease => exact ⟨request.phase, got, Or.inl rfl⟩
  | receive =>
    refine ⟨request.phase, ?_, Or.inl rfl⟩
    rw [Table.find_insert, got, Option.some_or]
  | begin foundActing received free =>
    obtain rfl := Table.key_of_find foundActing
    exact find_setPhase (Advance.begin received free) foundActing got
  | skip foundActing received =>
    obtain rfl := Table.key_of_find foundActing
    exact find_setPhase (Advance.skip received) foundActing got
  | handlerReturned foundActing calling =>
    obtain rfl := Table.key_of_find foundActing
    exact find_setPhase (Advance.handlerReturned calling) foundActing got
  | handlerFailed foundActing calling =>
    obtain rfl := Table.key_of_find foundActing
    exact find_setPhase (Advance.handlerFailed calling) foundActing got
  | markProcessed foundActing did =>
    obtain rfl := Table.key_of_find foundActing
    exact find_setPhase (Advance.markProcessed did) foundActing got
  | release foundActing failed =>
    obtain rfl := Table.key_of_find foundActing
    exact find_setPhase (Advance.release failed) foundActing got

/-- **A new request has only been received.** -/
theorem InboxStep.request_none (step : InboxStep s event s')
    (gone : s.requests.find number = none)
    (got' : s'.requests.find number = some request) : request.phase = .received := by
  cases step with
  | tick | write | reclaimMark | reclaimRelease => rw [gone] at got'; cases got'
  | receive =>
    rw [Table.find_insert, gone, Option.none_or] at got'
    split_ifs at got'
    obtain rfl := Option.some.inj got'
    rfl
  | begin | skip | handlerReturned | handlerFailed | markProcessed | release =>
    rw [Table.find_run, gone] at got'; cases got'

theorem Advance.completed {reach : RequestPhase} (advance : Advance s request event reach)
    (done : request.phase.completed = true) : reach.completed = true := by
  cases advance with
  | begin received | skip received => rw [received] at done; cases done
  | handlerReturned calling | handlerFailed calling => rw [calling] at done; cases done
  | markProcessed => rfl
  | release failed => rw [failed] at done; cases done

theorem HandlerCompleted.step (completed : HandlerCompleted s.requests key)
    (step : InboxStep s event s') : HandlerCompleted s'.requests key := by
  obtain ⟨request, mem, isKey, done⟩ := completed
  obtain ⟨reach, got', kept | advance⟩ := step.request_some (Table.find_of_mem mem)
  · exact ⟨_, Table.mem_of_find got', isKey, kept ▸ done⟩
  · exact ⟨_, Table.mem_of_find got', isKey, advance.completed done⟩

/-! ## What a step makes of an activity row -/

def InboxEvent.Marks (s : InboxState) (row : InboxActivity) : InboxEvent → Prop
  | .markProcessed number => ∃ request, s.requests.find number = some request
      ∧ request.key = row.key ∧ request.phase.completed = true
  | .reclaimMark _ _ => reclaimable s.now s.statuses s.actors row = true
  | _ => False

def InboxEvent.Drops (s : InboxState) (row : InboxActivity) : InboxEvent → Prop
  | .receive _ _ _ _ _ _ => staleClaim s.now row = true
  | .release number => row.processedAt = none ∧ ∃ request, s.requests.find number = some request
      ∧ request.key = row.key
  | .reclaimRelease _ _ => staleClaim s.now row = true
  | _ => False

theorem find_deleteWhere_cases {activities : InboxActivities} (guard : InboxActivity → Bool)
    (got : activities.find key = some row) :
    (activities.deleteWhere guard).find key = some row
      ∨ (guard row = true ∧ (activities.deleteWhere guard).find key = none) := by
  rw [Table.find_deleteWhere, got, Option.filter_some]
  by_cases met : guard row = true
  · exact Or.inr ⟨met, by simp [met]⟩
  · exact Or.inl (by simp [met])

/-- **A stored row is left, marked processed or dropped.** -/
theorem InboxStep.activity_some (step : InboxStep s event s')
    (got : s.activities.find key = some row) :
    s'.activities.find key = some row
      ∨ (event.Marks s row ∧ s'.activities.find key = some { row with processedAt := some s.now })
      ∨ (event.Drops s row ∧ s'.activities.find key = none) := by
  cases step with
  | tick | write | handlerReturned | handlerFailed => exact Or.inl got
  | receive actorUri actId =>
    rcases find_deleteWhere_cases
      (fun row => row.key == (actorUri, actId) && staleClaim s.now row) got
      with kept | ⟨met, gone⟩
    · exact Or.inl kept
    · rw [Bool.and_eq_true] at met
      exact Or.inr (Or.inr ⟨met.2, gone⟩)
  | begin | skip => exact Or.inl (Table.find_orIgnore_of_some _ _ got)
  | @markProcessed number claimedAt request foundRequest did =>
    rw [Table.find_run, got, Option.map_some]
    rcases (markInboxActivityProcessed s.now request.actorUri
      request.activityId).onRow_cases row with ⟨met, changed⟩ | eq
    · have isKey : request.key = row.key := (beq_iff_eq.mp met).symm
      exact Or.inr (Or.inl ⟨⟨request, foundRequest, isKey, by rw [did]; rfl⟩,
        congrArg some changed⟩)
    · exact Or.inl (congrArg some eq)
  | @release number request foundRequest =>
    rcases find_deleteWhere_cases (fun row => row.key == (request.actorUri, request.activityId)
      && row.processedAt.isNone) got with kept | ⟨met, gone⟩
    · exact Or.inl kept
    · rw [Bool.and_eq_true, beq_iff_eq, Option.isNone_iff_eq_none] at met
      exact Or.inr (Or.inr ⟨⟨met.2, request, foundRequest, met.1.symm⟩, gone⟩)
  | @reclaimMark limit chosen sel =>
    rw [Table.find_run, got, Option.map_some]
    rcases (reclaimStaleMark s.now (chosen.map InboxActivity.key)).onRow_cases row
      with ⟨met, changed⟩ | eq
    · have mem : row.key ∈ chosen.map InboxActivity.key := by
        simpa using (Bool.and_eq_true_iff.mp met).2
      obtain ⟨other, chosenOther, sameKey⟩ := List.mem_map.mp mem
      obtain ⟨held, test⟩ := List.mem_filter.mp (sel.subset other chosenOther)
      have isRow : other = row := Table.eq_of_key_eq held (Table.mem_of_find got) sameKey
      exact Or.inr (Or.inl ⟨isRow ▸ test, congrArg some changed⟩)
    · exact Or.inl (congrArg some eq)
  | @reclaimRelease limit chosen =>
    rcases find_deleteWhere_cases (fun row => staleClaim s.now row
      && row.activityType == "Create" && (chosen.map InboxActivity.key).contains row.key) got
      with kept | ⟨met, gone⟩
    · exact Or.inl kept
    · rw [Bool.and_eq_true, Bool.and_eq_true] at met
      exact Or.inr (Or.inr ⟨met.1.1, gone⟩)

/-- **A row appears only as the claim of a request.** -/
theorem InboxStep.activity_none (step : InboxStep s event s')
    (gone : s.activities.find key = none) (got' : s'.activities.find key = some row) :
    ∃ request, s.requests.find request.number = some request ∧ request.key = key
      ∧ row = newClaim s.now request.actorUri request.activityId request.activityType request.number
      ∧ s'.requests.find request.number = some (request.begun s.now) := by
  have absent : ∀ {guard : InboxActivity → Bool},
      (s.activities.deleteWhere guard).find key = some row → False := by
    intro guard here
    rw [Table.find_deleteWhere, gone] at here
    cases here
  have unmarked : ∀ {update : Update InboxActivity InboxActivity.key},
      (update.run s.activities).find key = some row → False := by
    intro update here
    rw [Table.find_run, gone] at here
    cases here
  have kept : s.activities.find key = some row → False := by
    intro here
    rw [gone] at here
    cases here
  cases step with
  | tick | write | handlerReturned | handlerFailed => exact (kept got').elim
  | receive | release | reclaimRelease => exact (absent got').elim
  | @begin number request got =>
    obtain rfl := Table.key_of_find got
    rcases Table.find_orIgnore _ _ got' with old | ⟨_, isNew⟩
    · exact (kept old).elim
    · refine ⟨request, got, ?_, isNew, ?_⟩
      · rw [← Table.key_of_find got', isNew]
        rfl
      · rw [Table.find_run, got, Option.map_some, setPhase_onRow_self]
        rfl
  | @skip number request _ _ taken =>
    rcases Table.find_orIgnore _ _ got' with old | ⟨_, isNew⟩
    · exact (kept old).elim
    · have isKey : request.key = key := by
        rw [← Table.key_of_find got', isNew]
        rfl
      exact absurd (isKey ▸ gone) taken
  | markProcessed | reclaimMark => exact (unmarked got').elim

end OneStep

end Requests

end Cfwdon.Inbox
