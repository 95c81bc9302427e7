import Cfwdon.Library.Integers
import Cfwdon.Library.Lists
import Cfwdon.Library.Run
import Cfwdon.Library.Table
import Cfwdon.Statuses.Content

/-!
# Publishing scheduled statuses

A sweep lists the scheduled statuses that are due and publishes them one after
the other.  It claims the row, checks account, media, reply and quote, inserts a
status with a fresh id, runs the statements that complete it and deletes the row.
A claim older than five minutes counts as abandoned, by the clock the sweep read
when it started.

`ScheduleStep` has one constructor per statement.  A sweep gives up the row at
hand when any statement fails, and takes no further step when it dies; the claim
stays in both cases.
-/

namespace Cfwdon.ScheduledStatuses

open Library Statuses

/-- A time as `scheduled_at` stores it: the date and time as written, in seconds, and
the offset from UTC it is written with.  The statements compare the texts, so the
date and time as written decide. -/
structure ScheduledTime where
  written : Nat
  utcOffset : Int
  deriving DecidableEq

def ScheduledTime.instant (time : ScheduledTime) : Int :=
  time.written - time.utcOffset

structure ScheduledStatus where
  id : String
  accountId : String
  textContent : String
  visibility : Visibility
  mediaIds : List String
  applicationId : Option Int
  scheduledAt : ScheduledTime
  claimedAt : Option Nat
  deriving DecidableEq

abbrev ScheduledStatusTable := Table ScheduledStatus ScheduledStatus.id

/-- A row as a sweep lists it. -/
structure DueScheduledStatus where
  id : String
  accountId : String
  textContent : String
  visibility : Visibility
  mediaIds : List String
  scheduledAt : ScheduledTime

/-- The listed columns of a row. -/
def ScheduledStatus.due (row : ScheduledStatus) : DueScheduledStatus where
  id := row.id
  accountId := row.accountId
  textContent := row.textContent
  visibility := row.visibility
  mediaIds := row.mediaIds
  scheduledAt := row.scheduledAt

structure MediaAttachment where
  id : String
  accountId : String
  statusId : Option String

abbrev MediaAttachments := Table MediaAttachment MediaAttachment.id

/-- A status created by a sweep, with the scheduled row it was created for:
history, no column links the two. -/
structure CreatedStatus where
  statusId : String
  accountId : String
  textContent : String
  visibility : Visibility
  scheduledId : String

/-- The deliveries of a `Create`: one fan-out to the followers, and the targeted
deliveries to the actors addressed. -/
inductive CreateDelivery where
  | fanOut
  | targeted
  deriving DecidableEq

/-- An enqueued `Create`, with the scheduled row its status was created for. -/
structure EnqueuedCreate where
  statusId : String
  delivery : CreateDelivery
  scheduledId : String

/-! ## Statements -/

def scheduledStatusClaimTtlSecs : Nat := 300

/-- Whether a row is unclaimed or its claim is as old as
`scheduled_status_stale_claim_threshold`. -/
def claimable (nowIso : Nat) (row : ScheduledStatus) : Bool :=
  match row.claimedAt with
  | none => true
  | some instant => decide (instant + scheduledStatusClaimTtlSecs ≤ nowIso)

/-- The condition of `list_due_scheduled_statuses`. -/
def dueForPublishing (nowIso : Nat) (row : ScheduledStatus) : Bool :=
  decide (row.scheduledAt.written ≤ nowIso) && claimable nowIso row

def claimScheduledStatus (nowIso : Nat) (id : String) (scheduledAt : ScheduledTime) :
    Update ScheduledStatus ScheduledStatus.id where
  guard row := row.id == id && row.scheduledAt == scheduledAt && claimable nowIso row
  set row := { row with claimedAt := some nowIso }
  keeps _ := rfl

def deleteScheduledStatusById (id : String) (scheduled : ScheduledStatusTable) :
    ScheduledStatusTable :=
  scheduled.deleteWhere fun row => row.id == id

/-- The rows an author reaches through an application, and those of every
application without one.  An id beyond `i32` is bound as `i32::MAX`. -/
def ofAuthor (accountId : String) (requestApplicationId : Option Int) (id : String)
    (row : ScheduledStatus) : Bool :=
  row.accountId == accountId && row.id == id
    && match requestApplicationId with
      | none => true
      | some applicationId => row.applicationId == some (toI32OrMax applicationId)

/-- The claim is left as it is. -/
def updateScheduledStatusTime (accountId : String) (requestApplicationId : Option Int)
    (id : String) (scheduledAt : ScheduledTime) : Update ScheduledStatus ScheduledStatus.id where
  guard := ofAuthor accountId requestApplicationId id
  set row := { row with scheduledAt := scheduledAt }
  keeps _ := rfl

/-- `delete_scheduled_status`, by the author. -/
def deleteScheduledStatus (accountId : String) (requestApplicationId : Option Int) (id : String)
    (scheduled : ScheduledStatusTable) : ScheduledStatusTable :=
  scheduled.deleteWhere (ofAuthor accountId requestApplicationId id)

/-- The media of a draft, each id once. -/
def resolveAttachableMedia (media : MediaAttachments) (accountId : String) :
    List String → List String → Except String (List String)
  | [], seen => .ok seen.reverse
  | id :: rest, seen =>
    if id ∈ seen then resolveAttachableMedia media accountId rest seen
    else
      match media.find id with
      | none => .error ("media attachment " ++ id ++ " was not found")
      | some row =>
        if row.accountId ≠ accountId then
          .error ("media attachment " ++ id ++ " does not belong to the authenticated account")
        else if row.statusId.isSome then
          .error ("media attachment " ++ id ++ " is already attached")
        else resolveAttachableMedia media accountId rest (id :: seen)

/-- The update of `attach_media_and_enqueue_outbox`: all of the media, or none when
one of them is attached already. -/
def attachMedia (statusId : String) (mediaIds : List String) (media : MediaAttachments) :
    Option MediaAttachments :=
  let unattached (row : MediaAttachment) : Bool := mediaIds.contains row.id && row.statusId.isNone
  if (media.select unattached).length = mediaIds.length then
    some (Update.run ⟨unattached, fun row => { row with statusId := some statusId },
      fun _ => rfl⟩ media)
  else none

/-! ## Creating the status -/

/-- The statements that complete a status after its insert. -/
inductive CreateStatement where
  /-- Hashtags, mentions, poll, card, conversation and the response. -/
  | saveDetails
  | attachMedia (mediaIds : List String)
  | enqueue (delivery : CreateDelivery)
  deriving DecidableEq

/-- Whether the fan-out is enqueued in the batch of the insert: not for a direct
status, and not before the media are attached. -/
def fanOutWithInsert (mediaIds : List String) (visibility : Visibility) : Bool :=
  mediaIds.isEmpty && visibility != .direct

/-- The statements of `insert_status` and `create_published_status_and_response`
after the insert. -/
def createStatements (mediaIds : List String) (visibility : Visibility) : List CreateStatement :=
  if mediaIds.isEmpty then [.enqueue .targeted, .saveDetails]
  else if visibility = .direct then
    [.saveDetails, .attachMedia mediaIds, .enqueue .targeted]
  else
    [.saveDetails, .attachMedia mediaIds, .enqueue .fanOut, .enqueue .targeted]

/-- Where the publication of a listed row is. -/
inductive PublishStage where
  | claimed
  /-- The checks have passed, with these media. -/
  | resolved (pendingMedia : List String)
  /-- The status is inserted and these statements are left. -/
  | inserted (statusId : String) (remaining : List CreateStatement)

/-- The status is not inserted yet. -/
def PublishStage.beforeInsert : PublishStage → Bool
  | .claimed => true
  | .resolved _ => true
  | .inserted _ _ => false

/-- The statements left after the insert. -/
def PublishStage.remaining : PublishStage → List CreateStatement
  | .inserted _ remaining => remaining
  | _ => []

/-- The publication of a row by a sweep that has claimed it. -/
structure Publication where
  due : DueScheduledStatus
  /-- How many claims of the row there were with this one: history. -/
  ordinal : Nat
  stage : PublishStage

/-- A run of `process_due_scheduled_statuses_for_config`. -/
structure Sweep where
  /-- The clock reading all its claims use. -/
  nowIso : Nat
  queue : List DueScheduledStatus
  current : Option Publication

def Sweep.atStage (sweep : Sweep) (publication : Publication) (stage : PublishStage) : Sweep :=
  { sweep with current := some { publication with stage := stage } }

/-! ## Steps -/

/-- The tables, the sweeps and the history. -/
structure ScheduleState where
  now : Nat
  scheduled : ScheduledStatusTable
  media : MediaAttachments
  /-- The sweeps that have been started. -/
  sweeps : List Sweep
  /-- The statuses created by sweeps, newest first. -/
  created : List CreatedStatus
  /-- The creates enqueued by sweeps, newest first. -/
  outbox : List EnqueuedCreate
  /-- The rows claimed, newest first: history. -/
  claims : List String

def ScheduleState.initial : ScheduleState where
  now := 0
  scheduled := Table.empty
  media := Table.empty
  sweeps := []
  created := []
  outbox := []
  claims := []

inductive ScheduleEvent where
  | tick (seconds : Nat)
  | schedule (row : ScheduledStatus)
  | updateTime (accountId : String) (requestApplicationId : Option Int) (id : String)
      (scheduledAt : ScheduledTime)
  | unschedule (accountId : String) (requestApplicationId : Option Int) (id : String)
  | writeMedia (media : MediaAttachments)
  | startSweep (limit : Nat) (chosen : List ScheduledStatus)
  | claim (sweep : Sweep)
  | skip (sweep : Sweep)
  | resolve (sweep : Sweep)
  | insertStatus (sweep : Sweep) (statusId : String)
  | runStatement (sweep : Sweep)
  | deleteScheduled (sweep : Sweep)
  | giveUp (sweep : Sweep)

/-- What a statement after the insert does to the state, when it succeeds. -/
def CreateStatement.run (due : DueScheduledStatus) (statusId : String) (s : ScheduleState) :
    CreateStatement → Option ScheduleState
  | .saveDetails => some s
  | .attachMedia mediaIds =>
    (Cfwdon.ScheduledStatuses.attachMedia statusId mediaIds s.media).map fun media =>
      { s with media := media }
  | .enqueue delivery =>
    some { s with outbox := ⟨statusId, delivery, due.id⟩ :: s.outbox }

/-- One statement of a sweep or of an author, or the passing of time. -/
inductive ScheduleStep : ScheduleState → ScheduleEvent → ScheduleState → Prop where
  | tick (s : ScheduleState) (seconds : Nat) :
      ScheduleStep s (.tick seconds) { s with now := s.now + seconds }
  | schedule (s : ScheduleState) {row : ScheduledStatus} (fresh : s.scheduled.find row.id = none)
      (unclaimed : row.claimedAt = none) :
      ScheduleStep s (.schedule row) { s with scheduled := s.scheduled.insert row }
  | updateTime (s : ScheduleState) (accountId : String) (requestApplicationId : Option Int)
      (id : String) (scheduledAt : ScheduledTime) :
      ScheduleStep s (.updateTime accountId requestApplicationId id scheduledAt)
        { s with
          scheduled := (updateScheduledStatusTime accountId requestApplicationId id
            scheduledAt).run s.scheduled }
  | unschedule (s : ScheduleState) (accountId : String) (requestApplicationId : Option Int)
      (id : String) :
      ScheduleStep s (.unschedule accountId requestApplicationId id)
        { s with
          scheduled := deleteScheduledStatus accountId requestApplicationId id s.scheduled }
  | writeMedia (s : ScheduleState) (media : MediaAttachments) :
      ScheduleStep s (.writeMedia media) { s with media := media }
  | startSweep (s : ScheduleState) {limit : Nat} {chosen : List ScheduledStatus}
      (selection : Selection (fun row => row.scheduledAt.written) limit
        (s.scheduled.select (dueForPublishing s.now)) chosen) :
      ScheduleStep s (.startSweep limit chosen)
        { s with sweeps := ⟨s.now, chosen.map ScheduledStatus.due, none⟩ :: s.sweeps }
  | claim (s : ScheduleState) {nowIso : Nat} {due : DueScheduledStatus}
      {queue : List DueScheduledStatus} {earlier later : List Sweep}
      (running : s.sweeps = earlier ++ ⟨nowIso, due :: queue, none⟩ :: later)
      (met : s.scheduled.exists? (claimScheduledStatus nowIso due.id due.scheduledAt).guard
        = true) :
      ScheduleStep s (.claim ⟨nowIso, due :: queue, none⟩)
        { s with
          scheduled := (claimScheduledStatus nowIso due.id due.scheduledAt).run s.scheduled
          sweeps := earlier
            ++ ⟨nowIso, queue, some ⟨due, s.claims.count due.id + 1, .claimed⟩⟩ :: later
          claims := due.id :: s.claims }
  | skip (s : ScheduleState) {nowIso : Nat} {due : DueScheduledStatus}
      {queue : List DueScheduledStatus} {earlier later : List Sweep}
      (running : s.sweeps = earlier ++ ⟨nowIso, due :: queue, none⟩ :: later)
      (unmet : s.scheduled.exists? (claimScheduledStatus nowIso due.id due.scheduledAt).guard
        = false) :
      ScheduleStep s (.skip ⟨nowIso, due :: queue, none⟩)
        { s with sweeps := earlier ++ ⟨nowIso, queue, none⟩ :: later }
  | resolve (s : ScheduleState) {sweep : Sweep} {publication : Publication}
      {pendingMedia : List String} {earlier later : List Sweep}
      (running : s.sweeps = earlier ++ sweep :: later)
      (publishing : sweep.current = some publication) (claimed : publication.stage = .claimed)
      (attachable : resolveAttachableMedia s.media publication.due.accountId
        publication.due.mediaIds [] = .ok pendingMedia) :
      ScheduleStep s (.resolve sweep)
        { s with
          sweeps := earlier ++ sweep.atStage publication (.resolved pendingMedia) :: later }
  | insertStatus (s : ScheduleState) {sweep : Sweep} {publication : Publication}
      {pendingMedia : List String} {statusId : String} {earlier later : List Sweep}
      (running : s.sweeps = earlier ++ sweep :: later)
      (publishing : sweep.current = some publication)
      (resolved : publication.stage = .resolved pendingMedia)
      (fresh : statusId ∉ s.created.map CreatedStatus.statusId) :
      ScheduleStep s (.insertStatus sweep statusId)
        { s with
          sweeps := earlier ++ sweep.atStage publication
            (.inserted statusId (createStatements pendingMedia publication.due.visibility)) :: later
          created := ⟨statusId, publication.due.accountId, publication.due.textContent,
            publication.due.visibility, publication.due.id⟩ :: s.created
          outbox :=
            if fanOutWithInsert pendingMedia publication.due.visibility then
              ⟨statusId, .fanOut, publication.due.id⟩ :: s.outbox
            else s.outbox }
  | runStatement (s : ScheduleState) {sweep : Sweep} {publication : Publication}
      {statusId : String} {statement : CreateStatement} {remaining : List CreateStatement}
      {earlier later : List Sweep} {ran : ScheduleState}
      (running : s.sweeps = earlier ++ sweep :: later)
      (publishing : sweep.current = some publication)
      (next : publication.stage = .inserted statusId (statement :: remaining))
      (succeeds : statement.run publication.due statusId s = some ran) :
      ScheduleStep s (.runStatement sweep)
        { ran with
          sweeps := earlier ++ sweep.atStage publication (.inserted statusId remaining) :: later }
  | deleteScheduled (s : ScheduleState) {sweep : Sweep} {publication : Publication}
      {statusId : String} {earlier later : List Sweep}
      (running : s.sweeps = earlier ++ sweep :: later)
      (publishing : sweep.current = some publication)
      (complete : publication.stage = .inserted statusId []) :
      ScheduleStep s (.deleteScheduled sweep)
        { s with
          scheduled := deleteScheduledStatusById publication.due.id s.scheduled
          sweeps := earlier ++ { sweep with current := none } :: later }
  | giveUp (s : ScheduleState) {sweep : Sweep} {earlier later : List Sweep}
      (running : s.sweeps = earlier ++ sweep :: later) (publishing : sweep.current ≠ none) :
      ScheduleStep s (.giveUp sweep)
        { s with sweeps := earlier ++ { sweep with current := none } :: later }

abbrev ScheduleRun := Run ScheduleStep ScheduleState.initial

end Cfwdon.ScheduledStatuses
