import Cfwdon.Library.Run

/-!
# The capability bits of an account

Five bits tell in which of five tables an account has any row at all, so that a reader of a
table can skip it.  They are cached twice: in KV, for an hour, and in a map of the isolate that
runs the request.  A load looks in the map, then in KV, and then probes the five tables, writes
the map and puts the bits into KV.  A mutation writes its row, removes the entry of the map of
its own isolate and deletes that of KV.

Any number of requests run side by side, in any isolates, each with any number of loads and
mutations; a read of a table, a get, a put and a delete of KV are steps of their own, and so is
what the request does when it is answered.  The state is that of one account.  A handler of
fetch events empties the map of its isolate; the handlers of queue and cron events do not.
-/

namespace Cfwdon.AppCache

open Library

/-- The five tables. -/
inductive Category where
  | threadMutes
  | followedTags
  | filters
  | domainBlocks
  | bookmarks
  deriving DecidableEq

/-- The queries of `probe_account_capabilities`. -/
def Category.all : List Category :=
  [.threadMutes, .followedTags, .filters, .domainBlocks, .bookmarks]

structure AccountCapabilities where
  hasThreadMutes : Bool := false
  hasFollowedTags : Bool := false
  hasFilters : Bool := false
  hasDomainBlocks : Bool := false
  hasBookmarks : Bool := false
  deriving DecidableEq

namespace AccountCapabilities

variable (caps : AccountCapabilities)

/-- The bit of a table. -/
def has : Category → Bool
  | .threadMutes => caps.hasThreadMutes
  | .followedTags => caps.hasFollowedTags
  | .filters => caps.hasFilters
  | .domainBlocks => caps.hasDomainBlocks
  | .bookmarks => caps.hasBookmarks

/-- The bit of a table, as its query has answered. -/
def answered (found : Bool) : Category → AccountCapabilities
  | .threadMutes => { caps with hasThreadMutes := found }
  | .followedTags => { caps with hasFollowedTags := found }
  | .filters => { caps with hasFilters := found }
  | .domainBlocks => { caps with hasDomainBlocks := found }
  | .bookmarks => { caps with hasBookmarks := found }

theorem has_answered (got : Bool) (category other : Category) :
    (caps.answered got category).has other = if other = category then got else caps.has other := by
  cases category <;> cases other <;> rfl

end AccountCapabilities

/-! ## States -/

/-- A row of one of the tables.  Its number tells it apart from rows that had the same key
before. -/
structure CapabilityRow where
  category : Category
  key : String
  number : Nat

/-- How far a load or a mutation has come. -/
inductive Activity where
  | idle
  /-- The map has no entry, and KV is asked. -/
  | gettingKv
  /-- KV has answered. -/
  | fromKv (caps : AccountCapabilities)
  /-- The queries that have answered, and those that have not. -/
  | probing (found : AccountCapabilities) (pending : List Category)
  /-- The map has the bits, and KV is given them. -/
  | puttingKv (caps : AccountCapabilities)
  /-- A row has been inserted, or some have been deleted. -/
  | written (number : Option Nat)
  /-- The map has lost its entry, and that of KV is deleted. -/
  | deletingKv (number : Option Nat)
  /-- KV has lost its entry as well. -/
  | invalidated (number : Option Nat)
  deriving DecidableEq

/-- A request, or the handling of a queue or cron event. -/
structure CacheRequest where
  isolate : Nat
  /-- The rows whose insertion had been answered when the request began. -/
  settled : List Nat
  activity : Nat → Activity
  /-- What its loads have returned. -/
  loaded : List AccountCapabilities

/-- The account, its cached bits, and the requests. -/
structure CacheState where
  rows : List CapabilityRow
  nextNumber : Nat
  kv : Option AccountCapabilities
  /-- `ACCOUNT_CAPABILITIES_L1`, of each isolate. -/
  l1 : Nat → Option AccountCapabilities
  requests : Nat → Option CacheRequest
  /-- The rows whose insertion has deleted the entry of KV. -/
  purged : List Nat
  /-- The rows whose insertion has been answered. -/
  settled : List Nat

namespace CacheState

/-- Nothing is stored, cached or under way. -/
def initial : CacheState where
  rows := []
  nextNumber := 0
  kv := none
  l1 := fun _ => none
  requests := fun _ => none
  purged := []
  settled := []

variable (state : CacheState)

def accountHasAnyRow (category : Category) : Bool :=
  state.rows.any (·.category == category)

def rowNumber (category : Category) (key : String) : Option Nat :=
  (state.rows.find? fun row => row.category == category && row.key == key).map CapabilityRow.number

/-- The request is as given now. -/
def put (id : Nat) (request : CacheRequest) : CacheState :=
  { state with requests := Function.update state.requests id (some request) }

def l1Put (isolate : Nat) (caps : AccountCapabilities) : CacheState :=
  { state with l1 := Function.update state.l1 isolate (some caps) }

/-- `l1_remove`, and `reset_app_cache_request_state` as far as the account is concerned. -/
def l1Remove (isolate : Nat) : CacheState :=
  { state with l1 := Function.update state.l1 isolate none }

/-- `kv_put_account_capabilities`. -/
def kvPut (caps : AccountCapabilities) : CacheState := { state with kv := some caps }

/-- `kv_delete_account_capabilities`. -/
def kvDelete : CacheState := { state with kv := none }

/-- `INSERT … ON CONFLICT DO NOTHING`, or an update that keeps the row. -/
def insertRow (category : Category) (key : String) : CacheState :=
  if (state.rowNumber category key).isSome then state
  else
    { state with
      rows := ⟨category, key, state.nextNumber⟩ :: state.rows
      nextNumber := state.nextNumber + 1 }

/-- `DELETE`. -/
def deleteRow (category : Category) (key : String) : CacheState :=
  { state with
    rows := state.rows.filter fun row => !(row.category == category && row.key == key) }

/-- The rows of an insertion have lost their entry of KV. -/
def markPurged (number : Option Nat) : CacheState :=
  { state with purged := number.toList ++ state.purged }

/-- The insertion has been answered. -/
def markSettled (number : Option Nat) : CacheState :=
  { state with settled := number.toList ++ state.settled }

@[simp] theorem requests_put (id : Nat) (request : CacheRequest) :
    (state.put id request).requests = Function.update state.requests id (some request) := rfl

@[simp] theorem l1_l1Put (isolate : Nat) (caps : AccountCapabilities) :
    (state.l1Put isolate caps).l1 = Function.update state.l1 isolate (some caps) := rfl

@[simp] theorem l1_l1Remove (isolate : Nat) :
    (state.l1Remove isolate).l1 = Function.update state.l1 isolate none := rfl

end CacheState

/-! ## Steps -/

/-- The steps of a load or a mutation. -/
inductive TaskStep where
  | l1Get
  | kvGet
  | keepKv
  | probe (category : Category)
  | keepProbe
  | kvPut
  | insert (category : Category) (key : String)
  | delete (category : Category) (key : String)
  | l1Remove
  | kvDelete
  | answer

inductive CacheEvent where
  /-- A fetch event begins, in an isolate. -/
  | fetch (id isolate : Nat)
  /-- A queue or cron event begins. -/
  | queueOrCron (id isolate : Nat)
  /-- A load or a mutation of a request does a step. -/
  | task (id task : Nat) (step : TaskStep)
  /-- A row goes with what it refers to. -/
  | cascade (category : Category) (key : String)
  /-- The entry of KV expires. -/
  | expire
  /-- An isolate is replaced. -/
  | recycle (isolate : Nat)

namespace CacheRequest

variable (request : CacheRequest)

/-- The load or mutation is as far as given. -/
def reach (task : Nat) (activity : Activity) : CacheRequest :=
  { request with activity := Function.update request.activity task activity }

@[simp] theorem activity_reach (task : Nat) (activity : Activity) :
    (request.reach task activity).activity = Function.update request.activity task activity := rfl

def returns (task : Nat) (caps : AccountCapabilities) : CacheRequest :=
  { request.reach task .idle with loaded := caps :: request.loaded }

def fresh (isolate : Nat) (settled : List Nat) : CacheRequest :=
  ⟨isolate, settled, fun _ => .idle, []⟩

end CacheRequest

namespace CacheState

variable (state : CacheState)

/-- What a load or a mutation of a request does in one step. -/
def advance (id task : Nat) (request : CacheRequest) : TaskStep → Option CacheState
  | .l1Get =>
    match request.activity task, state.l1 request.isolate with
    | .idle, some caps => some (state.put id (request.returns task caps))
    | .idle, none => some (state.put id (request.reach task .gettingKv))
    | _, _ => none
  | .kvGet =>
    match request.activity task, state.kv with
    | .gettingKv, some caps => some (state.put id (request.reach task (.fromKv caps)))
    | .gettingKv, none => some (state.put id (request.reach task (.probing {} Category.all)))
    | _, _ => none
  | .keepKv =>
    match request.activity task with
    | .fromKv caps =>
      some ((state.l1Put request.isolate caps).put id (request.returns task caps))
    | _ => none
  | .probe category =>
    match request.activity task with
    | .probing found pending =>
      if category ∈ pending then
        some (state.put id (request.reach task (.probing
          (found.answered (state.accountHasAnyRow category) category)
          (pending.filter (· != category)))))
      else none
    | _ => none
  | .keepProbe =>
    match request.activity task with
    | .probing found [] =>
      some ((state.l1Put request.isolate found).put id (request.reach task (.puttingKv found)))
    | _ => none
  | .kvPut =>
    match request.activity task with
    | .puttingKv caps => some ((state.kvPut caps).put id (request.returns task caps))
    | _ => none
  | .insert category key =>
    match request.activity task with
    | .idle =>
      some ((state.insertRow category key).put id (request.reach task
        (.written ((state.insertRow category key).rowNumber category key))))
    | _ => none
  | .delete category key =>
    match request.activity task with
    | .idle =>
      some ((state.deleteRow category key).put id (request.reach task (.written none)))
    | _ => none
  | .l1Remove =>
    match request.activity task with
    | .written number =>
      some ((state.l1Remove request.isolate).put id (request.reach task (.deletingKv number)))
    | _ => none
  | .kvDelete =>
    match request.activity task with
    | .deletingKv number =>
      some ((state.kvDelete.markPurged number).put id
        (request.reach task (.invalidated number)))
    | _ => none
  | .answer =>
    match request.activity task with
    | .invalidated number =>
      some ((state.markSettled number).put id (request.reach task .idle))
    | _ => none

def next : CacheEvent → Option CacheState
  | .fetch id isolate =>
    if (state.requests id).isSome then none
    else some ((state.l1Remove isolate).put id (.fresh isolate state.settled))
  | .queueOrCron id isolate =>
    if (state.requests id).isSome then none
    else some (state.put id (.fresh isolate state.settled))
  | .task id task step =>
    (state.requests id).bind fun request => state.advance id task request step
  | .cascade category key => some (state.deleteRow category key)
  | .expire => some state.kvDelete
  | .recycle isolate => some (state.l1Remove isolate)

def Taken (before : CacheState) (event : CacheEvent) (after : CacheState) : Prop :=
  before.next event = some after

end CacheState

end Cfwdon.AppCache
