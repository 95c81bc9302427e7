import Cfwdon.BackgroundJobs.WakeUps
import Cfwdon.Remote.Store

/-!
# Arriving replies and the jobs that link them

A remote status names the status it replies to by a URI, `in_reply_to_uri`.  The stored row
of that status may be there when the reply arrives, or come later, so `in_reply_to_id` is
set in two places: by `upsert_remote_status`, which looks the parent up before it writes its
row, and by the job `resolve_in_reply_to`, which the upsert enqueues for a row it left
without a link.

Any number of arrivals and job bodies run side by side.  A lookup is up to four reads, the
write of the row, its reload and the enqueue are statements of their own, and so is the
write of a link by a job.  The jobs are those of `BackgroundJobs.Workers`.
-/

namespace Cfwdon.Remote

open Library Statuses
open BackgroundJobs (JobRun)

/-- The columns of a `statuses` row that the lookups read. -/
structure LocalStatusRow where
  id : String
  accountId : String
  apId : Option String

abbrev LocalStatuses := Table LocalStatusRow LocalStatusRow.id

/-- What the lookups of a local status read besides `statuses`. -/
structure LocalUris where
  /-- `local_status_identity_from_uri`: the username and the status id in a URI of this
  instance. -/
  localStatusIdentityFromUri : String → Option (String × String)
  /-- The username of a stored account. -/
  username : String → Option String

/-- The JSON text of the payload, written and read by `serde_json`. -/
structure ReplyPayloads where
  /-- `resolve_in_reply_to_payload`. -/
  resolveInReplyToPayload : String → String
  /-- `ResolveInReplyToPayload`, read back. -/
  remoteStatusId : String → Option String
  readBack : ∀ id, remoteStatusId (resolveInReplyToPayload id) = some id

variable (uris : LocalUris) (payloads : ReplyPayloads)

def findLocalStatusByIdentity (uri : String) (locals : LocalStatuses) : Option LocalStatusRow := do
  let (username, statusId) ← uris.localStatusIdentityFromUri uri
  let status ← locals.find statusId
  let owner ← uris.username status.accountId
  if toAsciiLowercase owner = toAsciiLowercase username then some status else none

def findLocalStatusByObjectUri (uri : String) (locals : LocalStatuses) :
    Option LocalStatusRow :=
  (locals.rows.find? fun status => status.apId = some uri).or
    (findLocalStatusByIdentity uris uri locals)

def parentId (remote : RemoteStatuses) (locals : LocalStatuses) (uri : String) : Option String :=
  ((findRemoteStatusByUrlOrObjectUri uri remote).map RemoteStatus.id).or
    ((findLocalStatusByObjectUri uris uri locals).map LocalStatusRow.id)

/-- Where a lookup stands: the read it makes next, or what it has found. -/
inductive Lookup where
  | byObjectUri
  | byUrl
  | byApId
  | byIdentity
  | done (found : Option String)

/-- A read that either ends the lookup or leads to the next one. -/
def Lookup.orNext (found : Option String) (next : Lookup) : Lookup :=
  match found with
  | some id => .done (some id)
  | none => next

def Lookup.read (uri : String) (remote : RemoteStatuses) (locals : LocalStatuses) :
    Lookup → Lookup
  | .byObjectUri => .orNext ((remote.find uri).map RemoteStatus.id) .byUrl
  | .byUrl =>
    .orNext ((remote.rows.find? fun status => status.url = some uri).map RemoteStatus.id) .byApId
  | .byApId =>
    .orNext ((locals.rows.find? fun status => status.apId = some uri).map LocalStatusRow.id)
      .byIdentity
  | .byIdentity => .done ((findLocalStatusByIdentity uris uri locals).map LocalStatusRow.id)
  | .done found => .done found

/-! ## Arrivals and bodies -/

/-- How far an arrival has come. -/
inductive ArrivalPhase where
  /-- It looks its parent up. -/
  | looking (lookup : Lookup)
  /-- Its row is written, and will be reloaded. -/
  | stored
  /-- The reloaded row has no link, and its job will be enqueued. -/
  | asking (statusId : String)

/-- One `upsert_remote_status`: the columns built from the object, and how far it is. -/
structure Arrival where
  intent : RemoteStatus
  phase : ArrivalPhase

/-- The lookup that an arrival starts with. -/
def firstLookup (intent : RemoteStatus) : Lookup :=
  if intent.inReplyToUri.isSome then .byObjectUri else .done none

/-- How far the body of a job has come. -/
inductive Body where
  | begin
  | looking (statusId uri : String) (lookup : Lookup)
  | succeeded
  | failed

/-- The first read of `handle_resolve_in_reply_to`. -/
def readStatus (remote : RemoteStatuses) (payloadJson : String) : Body :=
  match payloads.remoteStatusId payloadJson with
  | none => .failed
  | some statusId =>
    match remote.rows.find? fun status => status.id = statusId with
    | none => .succeeded
    | some status =>
      match status.inReplyToId, status.inReplyToUri with
      | none, some uri => .looking statusId uri .byObjectUri
      | _, _ => .succeeded

/-- A body that is at its end: a lookup that found nothing leaves nothing to do. -/
def Body.isOver : Body → Bool
  | .succeeded => true
  | .looking _ _ (.done none) => true
  | _ => false

/-! ## Statements -/

def RemoteStatus.linkedTo (found : Option String) (intent : RemoteStatus) : RemoteStatus :=
  { intent with inReplyToId := found }

/-- The write of an arrival. -/
def storeRemoteStatus (intent : RemoteStatus) (found : Option String)
    (remote : RemoteStatuses) : RemoteStatuses :=
  remote.upsert (intent.linkedTo found) (intent.linkedTo found).overwrite
    (intent.linkedTo found).objectUri_overwrite

/-- The write of a job: `UPDATE remote_statuses SET in_reply_to_id = ? WHERE id = ?`. -/
def setInReplyToId (statusId found : String) : Update RemoteStatus RemoteStatus.objectUri where
  guard status := status.id == statusId
  set status := { status with inReplyToId := some found }
  keeps _ := rfl

/-! ## States and steps -/

def jobResolveInReplyTo : String := "resolve_in_reply_to"

/-- The type of the job that an event enqueues or whose body it starts or ends. -/
def jobTypeOf : BackgroundJobs.Event → Option String
  | .enqueue _ jobType _ _ => some jobType
  | .start run => some run.job.jobType
  | .complete run => some run.job.jobType
  | .fail run _ => some run.job.jobType
  | .cancelRunning run => some run.job.jobType
  | _ => none

structure ReplyState where
  queue : BackgroundJobs.State
  remote : RemoteStatuses
  locals : LocalStatuses
  arrivals : List Arrival
  bodies : List (JobRun × Body)

/-- Nothing stored, nothing in flight. -/
def ReplyState.initial : ReplyState where
  queue := .initial
  remote := Table.empty
  locals := Table.empty
  arrivals := []
  bodies := []

inductive ReplyEvent where
  | createLocal (status : LocalStatusRow)
  | arrive (intent : RemoteStatus)
  | read
  | store (intent : RemoteStatus) (found : Option String)
  | link (statusId found : String)
  | queue (event : BackgroundJobs.Event)

/-- One statement of an arrival, a body or a worker. -/
inductive ReplyStep : ReplyState → ReplyEvent → ReplyState → Prop where
  | createLocal (s : ReplyState) {status : LocalStatusRow}
      (fresh : s.locals.find status.id = none) :
      ReplyStep s (.createLocal status) { s with locals := s.locals.insert status }
  | arrive (s : ReplyState) (intent : RemoteStatus) :
      ReplyStep s (.arrive intent)
        { s with arrivals := ⟨intent, .looking (firstLookup intent)⟩ :: s.arrivals }
  | readForArrival (s : ReplyState) {intent : RemoteStatus} {uri : String} {lookup : Lookup}
      {earlier later : List Arrival} (isReply : intent.inReplyToUri = some uri)
      (held : s.arrivals = earlier ++ ⟨intent, .looking lookup⟩ :: later) :
      ReplyStep s .read
        { s with
          arrivals :=
            earlier ++ ⟨intent, .looking (lookup.read uris uri s.remote s.locals)⟩ :: later }
  | store (s : ReplyState) {intent : RemoteStatus} {found : Option String}
      {earlier later : List Arrival}
      (held : s.arrivals = earlier ++ ⟨intent, .looking (.done found)⟩ :: later)
      (fresh : ∀ status ∈ s.remote.rows, status.id ≠ intent.id) :
      ReplyStep s (.store intent found)
        { s with
          remote := storeRemoteStatus intent found s.remote
          arrivals := earlier ++ ⟨intent, .stored⟩ :: later }
  | reloadUnlinked (s : ReplyState) {intent status : RemoteStatus}
      {earlier later : List Arrival}
      (held : s.arrivals = earlier ++ ⟨intent, .stored⟩ :: later)
      (found : s.remote.find intent.objectUri = some status)
      (unlinked : status.inReplyToId = none) (isReply : status.inReplyToUri.isSome = true) :
      ReplyStep s .read { s with arrivals := earlier ++ ⟨intent, .asking status.id⟩ :: later }
  | reloadDone (s : ReplyState) {intent : RemoteStatus} {earlier later : List Arrival}
      (held : s.arrivals = earlier ++ ⟨intent, .stored⟩ :: later)
      (settled : ∀ status, s.remote.find intent.objectUri = some status →
        status.inReplyToId.isSome = true ∨ status.inReplyToUri = none) :
      ReplyStep s .read { s with arrivals := earlier ++ later }
  | ask (s : ReplyState) {intent : RemoteStatus} {statusId id : String} {nextRunAt : Nat}
      {queue' : BackgroundJobs.State} {earlier later : List Arrival}
      (held : s.arrivals = earlier ++ ⟨intent, .asking statusId⟩ :: later)
      (enqueued : BackgroundJobs.Step s.queue
        (.enqueue id jobResolveInReplyTo (payloads.resolveInReplyToPayload statusId) nextRunAt)
        queue') :
      ReplyStep s
        (.queue (.enqueue id jobResolveInReplyTo (payloads.resolveInReplyToPayload statusId)
          nextRunAt))
        { s with queue := queue', arrivals := earlier ++ later }
  | start (s : ReplyState) {run : JobRun} {queue' : BackgroundJobs.State}
      (isResolve : run.job.jobType = jobResolveInReplyTo)
      (started : BackgroundJobs.Step s.queue (.start run) queue') :
      ReplyStep s (.queue (.start run))
        { s with queue := queue', bodies := (run, .begin) :: s.bodies }
  | readStatus (s : ReplyState) {run : JobRun} {earlier later : List (JobRun × Body)}
      (held : s.bodies = earlier ++ (run, .begin) :: later) :
      ReplyStep s .read
        { s with
          bodies := earlier ++ (run, readStatus payloads s.remote run.job.payloadJson) :: later }
  | readForBody (s : ReplyState) {run : JobRun} {statusId uri : String} {lookup : Lookup}
      {earlier later : List (JobRun × Body)}
      (held : s.bodies = earlier ++ (run, .looking statusId uri lookup) :: later) :
      ReplyStep s .read
        { s with
          bodies := earlier
            ++ (run, .looking statusId uri (lookup.read uris uri s.remote s.locals)) :: later }
  | link (s : ReplyState) {run : JobRun} {statusId uri found : String}
      {earlier later : List (JobRun × Body)}
      (held : s.bodies = earlier ++ (run, .looking statusId uri (.done (some found))) :: later) :
      ReplyStep s (.link statusId found)
        { s with
          remote := (setInReplyToId statusId found).run s.remote
          bodies := earlier ++ (run, .succeeded) :: later }
  | complete (s : ReplyState) {run : JobRun} {body : Body} {queue' : BackgroundJobs.State}
      {earlier later : List (JobRun × Body)} (held : s.bodies = earlier ++ (run, body) :: later)
      (ended : body.isOver = true)
      (completed : BackgroundJobs.Step s.queue (.complete run) queue') :
      ReplyStep s (.queue (.complete run)) { s with queue := queue', bodies := earlier ++ later }
  | fail (s : ReplyState) {run : JobRun} {body : Body} {error : String}
      {queue' : BackgroundJobs.State} {earlier later : List (JobRun × Body)}
      (held : s.bodies = earlier ++ (run, body) :: later) (unfinished : body.isOver = false)
      (failed : BackgroundJobs.Step s.queue (.fail run error) queue') :
      ReplyStep s (.queue (.fail run error)) { s with queue := queue', bodies := earlier ++ later }
  | cancel (s : ReplyState) {run : JobRun} {body : Body} {queue' : BackgroundJobs.State}
      {earlier later : List (JobRun × Body)} (held : s.bodies = earlier ++ (run, body) :: later)
      (cancelled : BackgroundJobs.Step s.queue (.cancelRunning run) queue') :
      ReplyStep s (.queue (.cancelRunning run))
        { s with queue := queue', bodies := earlier ++ later }
  | other (s : ReplyState) {event : BackgroundJobs.Event} {queue' : BackgroundJobs.State}
      (taken : BackgroundJobs.Step s.queue event queue')
      (elsewhere : jobTypeOf event ≠ some jobResolveInReplyTo) :
      ReplyStep s (.queue event) { s with queue := queue' }

/-- The runs of arrivals and jobs. -/
abbrev ReplyTrace := Run (ReplyStep uris payloads) ReplyState.initial

end Cfwdon.Remote
