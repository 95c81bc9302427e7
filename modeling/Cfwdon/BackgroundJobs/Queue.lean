import Mathlib.Algebra.Group.Nat.Defs
import Cfwdon.Library.Run
import Cfwdon.Library.Table

/-!
# Background jobs

The table of jobs with its statements, and the workers that share it.
-/

namespace Cfwdon.BackgroundJobs

section Queue

/-! ## The background job table and its statements

`background_jobs` holds one row per job.  A job is enqueued pending, claimed by a worker
as running, and settled as completed or failed; a failure before the last attempt, and a
claim that went stale, make it pending again.  Every write is a single statement.  The
claims and the reclaims choose their rows by state; the outcome of a run is written by id
alone.  Instants are seconds.
-/

open Library

def maxAttempts : Nat := 5

def baseBackoffSecs : Nat := 60

/-- `BACKGROUND_JOB_STALE_MODIFIER`: a claim is stale after fifteen minutes. -/
def backgroundJobStaleSeconds : Nat := 900

def staleReclaimError : String :=
  "reclaimed after stale running state (worker cancellation or timeout)"

inductive JobStatus where
  | pending
  | running
  | completed
  | failed
  deriving DecidableEq

/-- A job that is done or given up. -/
def JobStatus.isSettled : JobStatus → Bool
  | .completed => true
  | .failed => true
  | _ => false

structure BackgroundJob where
  id : String
  jobType : String
  payloadJson : String
  status : JobStatus
  attempts : Nat
  nextRunAt : Nat
  lastError : Option String
  createdAt : Nat
  updatedAt : Nat
  deriving DecidableEq

/-- `background_jobs`, keyed by id. -/
abbrev JobTable := Table BackgroundJob BackgroundJob.id

/-- What a claim returns to the worker: its own copy of the row. -/
structure BackgroundJobRow where
  id : String
  jobType : String
  payloadJson : String
  attempts : Nat

def BackgroundJob.returning (job : BackgroundJob) : BackgroundJobRow where
  id := job.id
  jobType := job.jobType
  payloadJson := job.payloadJson
  attempts := job.attempts

def BackgroundJob.asks (jobType payloadJson : String) (job : BackgroundJob) : Bool :=
  job.jobType == jobType && job.payloadJson == payloadJson

/-- A row that is pending or running. -/
def BackgroundJob.isActive (job : BackgroundJob) : Bool :=
  job.status == .pending || job.status == .running

/-! ## Statements -/

/-- A fresh pending row. -/
def pendingJob (id jobType payloadJson : String) (nextRunAt now : Nat) : BackgroundJob where
  id := id
  jobType := jobType
  payloadJson := payloadJson
  status := .pending
  attempts := 0
  nextRunAt := nextRunAt
  lastError := none
  createdAt := now
  updatedAt := now

/-- Nothing is inserted beside a pending or running row for the same work. -/
def softEnqueueBackgroundJob (id jobType payloadJson : String) (nextRunAt now : Nat)
    (jobs : JobTable) : JobTable :=
  if jobs.exists? fun job => job.asks jobType payloadJson && job.isActive then jobs
  else jobs.insert (pendingJob id jobType payloadJson nextRunAt now)

/-- The rows of the subselects of `reclaim_stale_background_jobs`. -/
def isStale (clock : Nat) (job : BackgroundJob) : Bool :=
  job.status == .running && decide (job.updatedAt + backgroundJobStaleSeconds ≤ clock)

/-- The first reclaim: stale rows at their last attempt. -/
def isExhausted (clock : Nat) (job : BackgroundJob) : Bool :=
  isStale clock job && decide (maxAttempts ≤ job.attempts + 1)

/-- The second reclaim: stale rows with attempts left. -/
def isReclaimable (clock : Nat) (job : BackgroundJob) : Bool :=
  isStale clock job && decide (job.attempts + 1 < maxAttempts)

def reclaimStaleBackgroundJobs (status : JobStatus) (now : Nat) (ids : List String) :
    Update BackgroundJob BackgroundJob.id where
  guard job := ids.contains job.id
  set job :=
    { job with
      status := status
      attempts := job.attempts + 1
      nextRunAt := now
      lastError := some staleReclaimError
      updatedAt := now }
  keeps _ := rfl

/-- The rows that `process_due_background_jobs` claims. -/
def isDue (now : Nat) (job : BackgroundJob) : Bool :=
  job.status == .pending && decide (job.nextRunAt ≤ now)

/-- The rows that `run_pending_background_job_now` claims. -/
def isDueFor (jobType payloadJson : String) (now : Nat) (job : BackgroundJob) : Bool :=
  job.asks jobType payloadJson && isDue now job

def claimBackgroundJobs (now : Nat) (ids : List String) :
    Update BackgroundJob BackgroundJob.id where
  guard job := ids.contains job.id && job.status == .pending
  set job := { job with status := .running, updatedAt := now }
  keeps _ := rfl

/-- The outcome of a run that succeeded, written by id alone. -/
def completeBackgroundJob (now : Nat) (id : String) : Update BackgroundJob BackgroundJob.id where
  guard job := job.id == id
  set job := { job with status := .completed, updatedAt := now }
  keeps _ := rfl

/-- Whether a failed run was the last attempt, by the worker's copy. -/
def isLastAttempt (copy : BackgroundJobRow) : Bool :=
  decide (maxAttempts ≤ copy.attempts + 1)

def backoffSecs (nextAttempts : Nat) : Nat :=
  baseBackoffSecs * 2 ^ min nextAttempts 6

/-- The outcome of a run that failed, written by id alone and from the worker's copy. -/
def retryOrFailBackgroundJob (now : Nat) (copy : BackgroundJobRow) (error : String) :
    Update BackgroundJob BackgroundJob.id where
  guard job := job.id == copy.id
  set job :=
    { job with
      status := if isLastAttempt copy then .failed else .pending
      attempts := copy.attempts + 1
      nextRunAt := if isLastAttempt copy then now else now + backoffSecs (copy.attempts + 1)
      lastError := some error
      updatedAt := now }
  keeps _ := rfl

end Queue

section Workers

/-! ## Background job workers

Any number of workers share `background_jobs`.  A worker claims rows, in a batch or the
one row of a piece of work, and runs its copies one after the other; each run ends in one
write of its outcome.  A worker may be cancelled at any point, and a write of an outcome
may fail: then a run ends without one.  Reclaims make the rows of stale claims pending
again, while the worker that held them may still be running.

A step is one SQL statement, the start of a run, or the end of one.  The state keeps, next
to the table, the claimed copies that wait for their start, the copies being run, the log
of starts, and the work that was asked for since a run of it last started.
-/

open Library

/-- A claimed copy, with the instant of its claim. -/
structure JobRun where
  job : BackgroundJobRow
  now : Nat

structure State where
  now : Nat
  jobs : JobTable
  /-- The claimed copies whose run has not started. -/
  waiting : List JobRun
  /-- The copies whose run has started. -/
  running : List JobRun
  /-- The id of the row of every run that has started. -/
  startLog : List String
  /-- The types and payloads enqueued since a run of them last started. -/
  unserved : List (String × String)

def State.initial : State where
  now := 0
  jobs := Table.empty
  waiting := []
  running := []
  startLog := []
  unserved := []

inductive Event where
  | tick (seconds : Nat)
  | enqueue (id jobType payloadJson : String) (nextRunAt : Nat)
  | reclaimFailed (limit now : Nat) (chosen : List BackgroundJob)
  | reclaimRequeued (limit now : Nat) (chosen : List BackgroundJob)
  | claimDue (limit now : Nat) (chosen : List BackgroundJob)
  | claimNow (jobType payloadJson : String) (now : Nat) (chosen : List BackgroundJob)
  | start (run : JobRun)
  | complete (run : JobRun)
  | fail (run : JobRun) (error : String)
  | cancelWaiting (run : JobRun)
  | cancelRunning (run : JobRun)

/-- The copies of claimed rows. -/
def claimedRuns (now : Nat) (chosen : List BackgroundJob) : List JobRun :=
  chosen.map fun job => ⟨job.returning, now⟩

/-- One statement of some worker, the start or the end of a run, or the passing of time.
The instants that statements write were read from the clock some time before. -/
inductive Step : State → Event → State → Prop where
  | tick (s : State) (seconds : Nat) :
      Step s (.tick seconds) { s with now := s.now + seconds }
  | enqueue (s : State) {id : String} (jobType payloadJson : String) (nextRunAt : Nat)
      (fresh : s.jobs.find id = none) :
      Step s (.enqueue id jobType payloadJson nextRunAt)
        { s with
          jobs := softEnqueueBackgroundJob id jobType payloadJson nextRunAt s.now s.jobs
          unserved := (jobType, payloadJson) :: s.unserved }
  | reclaimFailed (s : State) {limit now : Nat} {chosen : List BackgroundJob}
      (past : now ≤ s.now)
      (selection : Selection BackgroundJob.updatedAt limit (s.jobs.select (isExhausted s.now))
        chosen) :
      Step s (.reclaimFailed limit now chosen)
        { s with
          jobs := (reclaimStaleBackgroundJobs .failed now (chosen.map BackgroundJob.id)).run
            s.jobs }
  | reclaimRequeued (s : State) {limit now : Nat} {chosen : List BackgroundJob}
      (past : now ≤ s.now)
      (selection : Selection BackgroundJob.updatedAt limit (s.jobs.select (isReclaimable s.now))
        chosen) :
      Step s (.reclaimRequeued limit now chosen)
        { s with
          jobs := (reclaimStaleBackgroundJobs .pending now (chosen.map BackgroundJob.id)).run
            s.jobs }
  | claimDue (s : State) {limit now : Nat} {chosen : List BackgroundJob} (past : now ≤ s.now)
      (selection : Selection BackgroundJob.nextRunAt limit (s.jobs.select (isDue now)) chosen) :
      Step s (.claimDue limit now chosen)
        { s with
          jobs := (claimBackgroundJobs now (chosen.map BackgroundJob.id)).run s.jobs
          waiting := claimedRuns now chosen ++ s.waiting }
  | claimNow (s : State) {jobType payloadJson : String} {now : Nat}
      {chosen : List BackgroundJob} (past : now ≤ s.now)
      (selection : Selection BackgroundJob.nextRunAt 1
        (s.jobs.select (isDueFor jobType payloadJson now)) chosen) :
      Step s (.claimNow jobType payloadJson now chosen)
        { s with
          jobs := (claimBackgroundJobs now (chosen.map BackgroundJob.id)).run s.jobs
          waiting := claimedRuns now chosen ++ s.waiting }
  | start (s : State) {run : JobRun} {earlier later : List JobRun}
      (held : s.waiting = earlier ++ run :: later) :
      Step s (.start run)
        { s with
          waiting := earlier ++ later
          running := run :: s.running
          startLog := run.job.id :: s.startLog
          unserved := s.unserved.filter fun work =>
            work ≠ (run.job.jobType, run.job.payloadJson) }
  | complete (s : State) {run : JobRun} {earlier later : List JobRun}
      (held : s.running = earlier ++ run :: later) :
      Step s (.complete run)
        { s with
          jobs := (completeBackgroundJob run.now run.job.id).run s.jobs
          running := earlier ++ later }
  | fail (s : State) {run : JobRun} (error : String) {earlier later : List JobRun}
      (held : s.running = earlier ++ run :: later) :
      Step s (.fail run error)
        { s with
          jobs := (retryOrFailBackgroundJob run.now run.job error).run s.jobs
          running := earlier ++ later }
  | cancelWaiting (s : State) {run : JobRun} {earlier later : List JobRun}
      (held : s.waiting = earlier ++ run :: later) :
      Step s (.cancelWaiting run) { s with waiting := earlier ++ later }
  | cancelRunning (s : State) {run : JobRun} {earlier later : List JobRun}
      (held : s.running = earlier ++ run :: later) :
      Step s (.cancelRunning run) { s with running := earlier ++ later }

abbrev JobTrace := Run Step State.initial

/-! ## What a step makes of one row -/

def Event.onRow : Event → BackgroundJob → BackgroundJob
  | .reclaimFailed _ now chosen, job =>
    (reclaimStaleBackgroundJobs .failed now (chosen.map BackgroundJob.id)).onRow job
  | .reclaimRequeued _ now chosen, job =>
    (reclaimStaleBackgroundJobs .pending now (chosen.map BackgroundJob.id)).onRow job
  | .claimDue _ now chosen, job =>
    (claimBackgroundJobs now (chosen.map BackgroundJob.id)).onRow job
  | .claimNow _ _ now chosen, job =>
    (claimBackgroundJobs now (chosen.map BackgroundJob.id)).onRow job
  | .complete run, job => (completeBackgroundJob run.now run.job.id).onRow job
  | .fail run error, job => (retryOrFailBackgroundJob run.now run.job error).onRow job
  | _, job => job

section

variable {s s' : State} {event : Event} {id : String} {job : BackgroundJob}

theorem softEnqueue_cases (id jobType payload : String) (nextRunAt now : Nat)
    (jobs : JobTable) :
    ((∃ job ∈ jobs.rows, job.asks jobType payload = true ∧ job.isActive = true)
        ∧ softEnqueueBackgroundJob id jobType payload nextRunAt now jobs = jobs)
      ∨ softEnqueueBackgroundJob id jobType payload nextRunAt now jobs
        = jobs.insert (pendingJob id jobType payload nextRunAt now) := by
  unfold softEnqueueBackgroundJob
  split_ifs with here
  · refine Or.inl ⟨?_, rfl⟩
    simpa [Table.exists?] using here
  · exact Or.inr rfl

/-- **A stored row stays stored**, changed as its event says. -/
theorem Step.find_some (step : Step s event s') (got : s.jobs.find id = some job) :
    s'.jobs.find id = some (event.onRow job) := by
  cases step with
  | enqueue jobType payload nextRunAt =>
    rcases softEnqueue_cases _ jobType payload nextRunAt s.now s.jobs with ⟨_, eq⟩ | added
    · dsimp only
      rw [eq]
      exact got
    · dsimp only
      rw [added, Table.find_insert, got]
      rfl
  | reclaimFailed | reclaimRequeued | claimDue | claimNow | complete | fail =>
    simp only [Event.onRow, Table.find_run, got, Option.map_some]
  | _ => exact got

/-- **A row appears only as a fresh one.** -/
theorem Step.find_none (step : Step s event s') (gone : s.jobs.find id = none)
    (got : s'.jobs.find id = some job) : job.status = .pending ∧ job.attempts = 0 := by
  cases step with
  | enqueue jobType payload nextRunAt =>
    rcases softEnqueue_cases _ jobType payload nextRunAt s.now s.jobs with ⟨_, eq⟩ | added
    · dsimp only at got
      rw [eq, gone] at got
      cases got
    · dsimp only at got
      rw [added, Table.find_insert, gone, Option.none_or] at got
      split_ifs at got
      rw [← Option.some.inj got]
      exact ⟨rfl, rfl⟩
  | reclaimFailed | reclaimRequeued | claimDue | claimNow | complete | fail =>
    simp [gone] at got
  | _ => rw [gone] at got; cases got

end

end Workers

end Cfwdon.BackgroundJobs
