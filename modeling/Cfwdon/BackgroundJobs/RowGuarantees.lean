import Cfwdon.BackgroundJobs.Queue

/-!
# What runs owe a job row

The outcome of a run is written by id alone and from the worker's copy.  A worker that
comes back after its claim was taken over therefore writes over whatever the row has
become: it lowers the attempts, revives a settled row, or makes a row claimable that
another worker is running.
-/

namespace Cfwdon.BackgroundJobs

open Library

/-- How many runs of a row are claimed and have not ended. -/
def State.liveRuns (s : State) (id : String) : Nat :=
  (s.waiting ++ s.running).countP fun run => run.job.id = id

/-- How often the job of a row was started. -/
def State.starts (s : State) (id : String) : Nat :=
  s.startLog.count id

/-- Stored rows stay stored, with no smaller attempts. -/
def AttemptsKept (before after : State) : Prop :=
  ∀ id job, before.jobs.find id = some job →
    ∃ job', after.jobs.find id = some job' ∧ job.attempts ≤ job'.attempts

/-- Rows that are completed or failed keep their status. -/
def SettledKept (before after : State) : Prop :=
  ∀ id job, before.jobs.find id = some job → job.status.isSettled = true →
    ∃ job', after.jobs.find id = some job' ∧ job'.status = job.status

/-- A failure makes no row claimable while another run of it is live. -/
def NoEarlyWake (before : State) : Event → State → Prop
  | .fail run _, after =>
    ∀ job job', before.jobs.find run.job.id = some job →
      after.jobs.find run.job.id = some job' → job.status ≠ .pending →
        job'.status = .pending → after.liveRuns run.job.id = 0
  | _, _ => True

/-- What a step owes the rows. -/
structure Guarantees (before : State) (event : Event) (after : State) : Prop where
  attempts : AttemptsKept before after
  settled : SettledKept before after
  wake : NoEarlyWake before event after

/-- The outcome of a run fits its row: a success finds no failed row; a failure finds no
completed one, none with more attempts than it writes, no failed one unless it is the last
attempt itself, and no row that another run has, unless it is the last attempt. -/
def OutcomeFits (s : State) : Event → Prop
  | .complete run => ∀ job, s.jobs.find run.job.id = some job → job.status ≠ .failed
  | .fail run _ =>
    ∀ job, s.jobs.find run.job.id = some job →
      job.attempts ≤ run.job.attempts + 1 ∧ job.status ≠ .completed
        ∧ (isLastAttempt run.job = false →
          job.status ≠ .failed ∧ (job.status = .running → s.liveRuns run.job.id ≤ 1))
  | _ => True

/-- And a failure that is retried finds the row running under no newer copy. -/
def RetriesCurrent (s : State) (event : Event) : Prop :=
  OutcomeFits s event ∧ match event with
    | .fail run _ =>
      ∀ job, s.jobs.find run.job.id = some job → isLastAttempt run.job = false →
        job.status = .running → job.attempts ≤ run.job.attempts
    | _ => True

/-! ## One row -/

section OneRow

variable {s s' : State} {event : Event} {id : String} {job : BackgroundJob}

theorem claim_onRow_cases (now : Nat) (ids : List String) (job : BackgroundJob) :
    (job.id ∈ ids ∧ job.status = .pending
        ∧ (claimBackgroundJobs now ids).onRow job
          = { job with status := .running, updatedAt := now })
      ∨ (¬ (job.id ∈ ids ∧ job.status = .pending)
        ∧ (claimBackgroundJobs now ids).onRow job = job) := by
  by_cases met : job.id ∈ ids ∧ job.status = .pending
  · have guarded : (claimBackgroundJobs now ids).guard job = true := by
      simp [claimBackgroundJobs, met.1, met.2]
    exact Or.inl ⟨met.1, met.2, Update.onRow_of_guard guarded⟩
  · have unmet : (claimBackgroundJobs now ids).guard job = false := by
      simpa [claimBackgroundJobs] using met
    exact Or.inr ⟨met, Update.onRow_of_not_guard unmet⟩

theorem reclaim_onRow_cases (status : JobStatus) (now : Nat) (ids : List String)
    (job : BackgroundJob) :
    (job.id ∈ ids ∧ ((reclaimStaleBackgroundJobs status now ids).onRow job).status = status
        ∧ ((reclaimStaleBackgroundJobs status now ids).onRow job).attempts = job.attempts + 1)
      ∨ (job.id ∉ ids ∧ (reclaimStaleBackgroundJobs status now ids).onRow job = job) := by
  by_cases met : job.id ∈ ids
  · have guarded : (reclaimStaleBackgroundJobs status now ids).guard job = true := by
      simpa [reclaimStaleBackgroundJobs] using met
    rw [Update.onRow_of_guard guarded]
    exact Or.inl ⟨met, rfl, rfl⟩
  · have unmet : (reclaimStaleBackgroundJobs status now ids).guard job = false := by
      simpa [reclaimStaleBackgroundJobs] using met
    exact Or.inr ⟨met, Update.onRow_of_not_guard unmet⟩

theorem complete_onRow (now : Nat) (job : BackgroundJob) (id : String) :
    (completeBackgroundJob now id).onRow job
      = if job.id = id then { job with status := .completed, updatedAt := now } else job := by
  simp [Update.onRow, completeBackgroundJob]

theorem fail_onRow (now : Nat) (copy : BackgroundJobRow) (error : String) (job : BackgroundJob) :
    (retryOrFailBackgroundJob now copy error).onRow job
      = if job.id = copy.id then (retryOrFailBackgroundJob now copy error).set job else job := by
  simp [Update.onRow, retryOrFailBackgroundJob]

theorem running_of_isStale {clock : Nat} (stale : isStale clock job = true) :
    job.status = .running := by
  simp only [isStale, Bool.and_eq_true, beq_iff_eq] at stale
  exact stale.1

def Event.claims (event : Event) (id : String) : Bool :=
  match event with
  | .claimDue _ _ chosen => decide (id ∈ chosen.map BackgroundJob.id)
  | .claimNow _ _ _ chosen => decide (id ∈ chosen.map BackgroundJob.id)
  | _ => false

theorem Step.pending_of_claims (step : Step s event s') (got : s.jobs.find id = some job)
    (claims : event.claims id = true) : job.status = .pending := by
  have waits : ∀ {now : Nat}, isDue now job = true → job.status = .pending := by
    intro now due
    simp only [isDue, Bool.and_eq_true, beq_iff_eq] at due
    exact due.1
  cases step with
  | claimDue past sel =>
    exact waits (sel.guard_of_find got (of_decide_eq_true claims))
  | claimNow past sel =>
    have met := sel.guard_of_find got (of_decide_eq_true claims)
    exact waits (Bool.and_eq_true_iff.mp met).2
  | _ => cases claims

inductive RowChange (event : Event) (id : String) (job : BackgroundJob) :
    BackgroundJob → Prop where
  | unchanged (unclaimed : event.claims id = false)
      (otherFail : ∀ run error, event = .fail run error → run.job.id ≠ id)
      (otherSuccess : ∀ run, event = .complete run → run.job.id ≠ id) :
      RowChange event id job job
  | claimed {job' : BackgroundJob} (pending : job.status = .pending)
      (running : job'.status = .running) (same : job'.attempts = job.attempts) :
      RowChange event id job job'
  | reclaimed {job' : BackgroundJob} (unclaimed : event.claims id = false)
      (running : job.status = .running) (counted : job'.attempts = job.attempts + 1)
      (settles : job'.status = .failed ∨ job'.status = .pending ∧ job'.attempts < maxAttempts) :
      RowChange event id job job'
  | completed {job' : BackgroundJob} {run : JobRun} (success : event = .complete run)
      (isRow : run.job.id = id) (status : job'.status = .completed)
      (same : job'.attempts = job.attempts) : RowChange event id job job'
  | failed {job' : BackgroundJob} {run : JobRun} {error : String}
      (failure : event = .fail run error) (isRow : run.job.id = id)
      (status : job'.status = if isLastAttempt run.job then .failed else .pending)
      (counted : job'.attempts = run.job.attempts + 1) : RowChange event id job job'

theorem Step.change (step : Step s event s') (got : s.jobs.find id = some job) :
    RowChange event id job (event.onRow job) := by
  have isId : job.id = id := Table.key_of_find got
  have took : ∀ {event : Event} (now : Nat) (chosen : List BackgroundJob),
      event.claims id = decide (id ∈ chosen.map BackgroundJob.id) →
      (event.claims id = true → job.status = .pending) →
      (∀ run error, event ≠ .fail run error) → (∀ run, event ≠ .complete run) →
      RowChange event id job ((claimBackgroundJobs now (chosen.map BackgroundJob.id)).onRow job) := by
    intro event now chosen isClaim chosenPending noFail noSuccess
    rcases claim_onRow_cases now (chosen.map BackgroundJob.id) job with
      ⟨_, waits, eq⟩ | ⟨unmet, eq⟩
    · rw [eq]
      exact .claimed waits rfl rfl
    · rw [eq]
      refine .unchanged ?_ (fun run error isFail => absurd isFail (noFail run error))
        (fun run success => absurd success (noSuccess run))
      rw [Bool.eq_false_iff]
      intro claims
      have mem := of_decide_eq_true (isClaim.symm.trans claims)
      exact unmet ⟨isId.symm ▸ mem, chosenPending claims⟩
  have reclaimed : ∀ {event : Event} {status : JobStatus} (now : Nat) (chosen : List BackgroundJob),
      event.claims id = false →
      (∀ run error, event ≠ .fail run error) → (∀ run, event ≠ .complete run) →
      (id ∈ chosen.map BackgroundJob.id → job.status = .running
        ∧ (status = .failed ∨ status = .pending ∧ job.attempts + 1 < maxAttempts)) →
      RowChange event id job
        ((reclaimStaleBackgroundJobs status now (chosen.map BackgroundJob.id)).onRow job) := by
    intro event status now chosen unclaimed noFail noSuccess stale
    rcases reclaim_onRow_cases status now (chosen.map BackgroundJob.id) job with
      ⟨mem, wrote, count⟩ | ⟨_, eq⟩
    · obtain ⟨runs, settles⟩ := stale (isId ▸ mem)
      exact .reclaimed unclaimed runs count (by rwa [wrote, count])
    · rw [eq]
      exact .unchanged unclaimed (fun run error isFail => absurd isFail (noFail run error))
        (fun run success => absurd success (noSuccess run))
  have chosenPending := fun claims => step.pending_of_claims got claims
  cases step with
  | claimDue | claimNow => exact took _ _ rfl chosenPending (by simp) (by simp)
  | reclaimFailed past sel =>
    refine reclaimed _ _ rfl (by simp) (by simp) fun mem => ?_
    have met := sel.guard_of_find got mem
    exact ⟨running_of_isStale (Bool.and_eq_true_iff.mp met).1, Or.inl rfl⟩
  | reclaimRequeued past sel =>
    refine reclaimed _ _ rfl (by simp) (by simp) fun mem => ?_
    have met := sel.guard_of_find got mem
    obtain ⟨stale, left⟩ := Bool.and_eq_true_iff.mp met
    exact ⟨running_of_isStale stale, Or.inr ⟨rfl, of_decide_eq_true left⟩⟩
  | @complete run =>
    rw [Event.onRow, complete_onRow]
    by_cases isRow : job.id = run.job.id
    · rw [if_pos isRow]
      exact .completed rfl (isRow.symm.trans isId) rfl rfl
    · rw [if_neg isRow]
      refine .unchanged rfl (by simp) fun run' success => ?_
      cases success
      exact fun eq => isRow (isId.trans eq.symm)
  | @fail run error =>
    rw [Event.onRow, fail_onRow]
    by_cases isRow : job.id = run.job.id
    · rw [if_pos isRow]
      exact .failed rfl (isRow.symm.trans isId) rfl rfl
    · rw [if_neg isRow]
      refine .unchanged rfl (fun run' error' err => ?_) (by simp)
      cases err
      exact fun eq => isRow (isId.trans eq.symm)
  | _ => exact .unchanged rfl (by simp) (by simp)

end OneRow

/-! ## One step -/

variable {run : JobRun} {error : String}

section OneStep

variable {s s' : State} {event : Event} {id : String} {job : BackgroundJob}

theorem Step.liveRuns_fail (step : Step s (.fail run error) s') :
    s.liveRuns run.job.id = s'.liveRuns run.job.id + 1 := by
  cases step with
  | fail error held =>
    simp only [State.liveRuns, held, List.countP_append, List.countP_cons, decide_true, if_true]
    omega

theorem Step.find_fail (step : Step s (.fail run error) s')
    (got : s.jobs.find run.job.id = some job) :
    ∃ job', s'.jobs.find run.job.id = some job'
      ∧ job'.status = (if isLastAttempt run.job then .failed else .pending)
      ∧ job'.attempts = run.job.attempts + 1 := by
  refine ⟨_, step.find_some got, ?_⟩
  rw [Event.onRow, fail_onRow, if_pos (Table.key_of_find got)]
  exact ⟨rfl, rfl⟩

theorem Step.find_complete (step : Step s (.complete run) s')
    (got : s.jobs.find run.job.id = some job) :
    ∃ job', s'.jobs.find run.job.id = some job' ∧ job'.status = .completed := by
  refine ⟨_, step.find_some got, ?_⟩
  rw [Event.onRow, complete_onRow, if_pos (Table.key_of_find got)]

theorem Step.outcomeFits (step : Step s event s') (kept : Guarantees s event s') :
    OutcomeFits s event := by
  cases event with
  | complete run =>
    intro job got failed
    obtain ⟨job', got', done⟩ := step.find_complete got
    obtain ⟨other, foundOther, eq⟩ := kept.settled _ _ got (by rw [failed]; rfl)
    rw [got', Option.some_inj] at foundOther
    rw [← foundOther, done, failed] at eq
    cases eq
  | fail run error =>
    intro job got
    obtain ⟨job', got', status, count⟩ := step.find_fail got
    have settled : job.status.isSettled = true → job'.status = job.status := by
      intro isSettled
      obtain ⟨other, foundOther, eq⟩ := kept.settled _ _ got isSettled
      rw [got', Option.some_inj] at foundOther
      rwa [foundOther]
    refine ⟨?_, ?_, fun retried => ⟨?_, ?_⟩⟩
    · obtain ⟨other, foundOther, le⟩ := kept.attempts _ _ got
      rw [got', Option.some_inj] at foundOther
      rwa [← foundOther, count] at le
    · intro done
      have eq := settled (by rw [done]; rfl)
      rw [status, done] at eq
      split_ifs at eq
    · intro failed
      have eq := settled (by rw [failed]; rfl)
      rw [status, failed, retried] at eq
      cases eq
    · intro runs
      have alone := kept.wake _ _ got got' (by rw [runs]; nofun) (by rw [status, retried]; rfl)
      exact Nat.le_of_eq (by rw [step.liveRuns_fail, alone])
  | _ => trivial

theorem Step.guarantees (step : Step s event s') (fits : OutcomeFits s event) :
    Guarantees s event s' where
  attempts := by
    intro id job got
    refine ⟨_, step.find_some got, ?_⟩
    have change := step.change got
    generalize event.onRow job = job' at change ⊢
    cases change with
    | unchanged => exact Nat.le_refl _
    | claimed _ _ eq | completed _ _ _ eq => exact Nat.le_of_eq eq.symm
    | reclaimed _ _ count _ => omega
    | failed err isRow _ count =>
      subst err isRow
      rw [count]
      exact (fits job got).1
  settled := by
    intro id job got isSettled
    refine ⟨_, step.find_some got, ?_⟩
    have change := step.change got
    generalize event.onRow job = job' at change ⊢
    cases change with
    | unchanged => rfl
    | claimed pending => rw [pending] at isSettled; cases isSettled
    | reclaimed _ running => rw [running] at isSettled; cases isSettled
    | completed success isRow status =>
      subst success isRow
      have notFailed := fits job got
      cases pre : job.status with
      | completed => exact status
      | failed => exact absurd pre notFailed
      | pending | running => rw [pre] at isSettled; cases isSettled
    | @failed _ run _ err isRow status =>
      subst err isRow
      obtain ⟨_, notCompleted, retried⟩ := fits job got
      rw [status]
      cases pre : job.status with
      | completed => exact absurd pre notCompleted
      | failed =>
        cases last : isLastAttempt run.job with
        | true => rfl
        | false => exact absurd pre (retried last).1
      | pending | running => rw [pre] at isSettled; cases isSettled
  wake := by
    cases event with
    | fail run error =>
      intro job job' got got' notPending pending
      obtain ⟨other, foundOther, status, _⟩ := step.find_fail got
      rw [got', Option.some_inj] at foundOther
      rw [← foundOther, pending] at status
      obtain ⟨_, notCompleted, retried⟩ := fits job got
      cases last : isLastAttempt run.job with
      | true => rw [last] at status; cases status
      | false =>
        obtain ⟨notFailed, alone⟩ := retried last
        have running : job.status = .running := by
          cases pre : job.status with
          | running => rfl
          | pending => exact absurd pre notPending
          | completed => exact absurd pre notCompleted
          | failed => exact absurd pre notFailed
        have one := alone running
        rw [step.liveRuns_fail] at one
        omega
    | _ => trivial

/-- **A step keeps the guarantees exactly when its outcome fits its row.** -/
theorem Step.guarantees_iff (step : Step s event s') :
    Guarantees s event s' ↔ OutcomeFits s event :=
  ⟨step.outcomeFits, step.guarantees⟩

end OneStep

/-! ## The starts of a row -/

/-- The starts of a row, with those that its claims have coming. -/
def State.owed (s : State) (id : String) : Nat :=
  s.starts id + s.waiting.countP fun run => run.job.id = id

/-- The row has paid for the starts of its job with its attempts, one ahead while it is
running. -/
def StartsPaid (owed : Nat) (job : BackgroundJob) : Prop :=
  match job.status with
  | .pending => owed ≤ job.attempts ∧ job.attempts < maxAttempts
  | .running => owed ≤ job.attempts + 1 ∧ job.attempts < maxAttempts
  | _ => owed ≤ maxAttempts

/-- No job has been started more often than its attempts allow. -/
structure StartInvariant (s : State) : Prop where
  paid : ∀ id job, s.jobs.find id = some job → StartsPaid (s.owed id) job
  unstarted : ∀ id, s.jobs.find id = none → s.owed id = 0

theorem StartInvariant.initial : StartInvariant State.initial where
  paid := fun _ _ got => by cases got
  unstarted := fun _ _ => rfl

section Starts

variable {s s' : State} {event : Event} {id : String} {job : BackgroundJob}

theorem StartsPaid.le_max {owed : Nat} (paid : StartsPaid owed job) : owed ≤ maxAttempts := by
  cases status : job.status with
  | pending | running => simp only [StartsPaid, status] at paid; omega
  | completed | failed => simpa only [StartsPaid, status] using paid

theorem StartsPaid.of_settled {owed : Nat} {job' : BackgroundJob} (paid : StartsPaid owed job)
    (done : job'.status.isSettled = true) : StartsPaid owed job' := by
  have bounded := paid.le_max
  cases status : job'.status with
  | completed | failed => simpa only [StartsPaid, status] using bounded
  | pending | running => rw [status] at done; cases done

theorem countP_claimedRuns {now : Nat} {chosen : List BackgroundJob}
    (nodup : (chosen.map BackgroundJob.id).Nodup) :
    ((claimedRuns now chosen).countP fun run => run.job.id = id)
      = if id ∈ chosen.map BackgroundJob.id then 1 else 0 := by
  have eq : ((claimedRuns now chosen).countP fun run => run.job.id = id)
      = (chosen.map BackgroundJob.id).count id := by
    rw [claimedRuns, List.countP_map, List.count, List.countP_map]
    exact List.countP_congr fun job _ => by simp [BackgroundJob.returning]
  rw [eq]
  split_ifs with mem
  · exact List.count_eq_one_of_mem nodup mem
  · exact List.count_eq_zero_of_not_mem mem

theorem Step.owed_le (step : Step s event s') (id : String) :
    s'.owed id ≤ s.owed id + if event.claims id then 1 else 0 := by
  cases step with
  | claimDue past sel | claimNow past sel =>
    simp only [State.owed, State.starts, Event.claims, List.countP_append,
      countP_claimedRuns sel.keys_nodup, decide_eq_true_eq]
    omega
  | start held =>
    simp only [State.owed, State.starts, held, List.countP_append, List.countP_cons,
      List.count_cons, beq_iff_eq, decide_eq_true_eq]
    omega
  | cancelWaiting held =>
    simp only [State.owed, State.starts, held, List.countP_append, List.countP_cons]
    omega
  | _ => exact Nat.le_add_right _ _

theorem StartsPaid.mono {owed owed' : Nat} (paid : StartsPaid owed job) (le : owed' ≤ owed) :
    StartsPaid owed' job := by
  unfold StartsPaid at *
  split at paid <;> omega

/-- A claim returns stored rows only. -/
theorem Step.not_claims_of_none (step : Step s event s') (gone : s.jobs.find id = none) :
    event.claims id = false := by
  rw [Bool.eq_false_iff]
  intro claims
  have absent : ∀ {order : BackgroundJob → Nat} {limit : Nat} {guard : BackgroundJob → Bool}
      {chosen : List BackgroundJob}, Selection order limit (s.jobs.select guard) chosen →
      id ∉ chosen.map BackgroundJob.id := by
    intro order limit guard chosen sel mem
    obtain ⟨job, chosenJob, sameId⟩ := List.mem_map.mp mem
    have held := List.mem_of_mem_filter (sel.subset job chosenJob)
    exact Table.find_eq_none.mp gone job held sameId
  cases step with
  | claimDue past sel | claimNow past sel =>
    exact absent sel (of_decide_eq_true claims)
  | _ => cases claims

/-- **A step keeps a row paid**, if a retry in it comes from a current copy. -/
theorem Step.startsPaid (step : Step s event s') (cur : RetriesCurrent s event)
    (got : s.jobs.find id = some job) (paid : StartsPaid (s.owed id) job) :
    StartsPaid (s'.owed id) (event.onRow job) := by
  have owes := step.owed_le id
  have change := step.change got
  generalize event.onRow job = job' at change ⊢
  cases change with
  | unchanged unclaimed =>
    rw [unclaimed] at owes
    exact paid.mono (by simpa using owes)
  | claimed pending running eq =>
    simp only [StartsPaid, pending] at paid
    simp only [StartsPaid, running, eq]
    split_ifs at owes <;> omega
  | reclaimed unclaimed running count settles =>
    rw [unclaimed] at owes
    simp only [Bool.false_eq_true, if_false, Nat.add_zero] at owes
    rcases settles with failed | ⟨pending, left⟩
    · exact (paid.mono owes).of_settled (by rw [failed]; rfl)
    · simp only [StartsPaid, running] at paid
      simp only [StartsPaid, pending]
      omega
  | completed success isRow status =>
    subst success
    exact (paid.mono (by simpa [Event.claims] using owes)).of_settled (by rw [status]; rfl)
  | @failed _ run _ err isRow status count =>
    subst err isRow
    have kept : StartsPaid (s'.owed run.job.id) job :=
      paid.mono (by simpa [Event.claims] using owes)
    obtain ⟨⟨within, notCompleted, retried⟩, newest⟩ := And.imp_left (· job got) cur
    cases last : isLastAttempt run.job with
    | true => exact kept.of_settled (by rw [status, last]; rfl)
    | false =>
      have left : run.job.attempts + 1 < maxAttempts := by
        simpa [isLastAttempt] using last
      simp only [StartsPaid, status, last, count]
      refine ⟨?_, left⟩
      cases pre : job.status with
      | pending =>
        simp only [StartsPaid, pre] at kept
        omega
      | running =>
        have le := newest job got last pre
        simp only [StartsPaid, pre] at kept
        omega
      | completed => exact absurd pre notCompleted
      | failed => exact absurd pre (retried last).1

theorem StartInvariant.step (inv : StartInvariant s) (cur : RetriesCurrent s event)
    (step : Step s event s') : StartInvariant s' where
  paid := by
    intro id job got'
    cases pre : s.jobs.find id with
    | some prior =>
      have eq := step.find_some pre
      rw [got', Option.some_inj] at eq
      rw [eq]
      exact step.startsPaid cur pre (inv.paid id prior pre)
    | none =>
      obtain ⟨waits, uncounted⟩ := step.find_none pre got'
      have owes := step.owed_le id
      rw [step.not_claims_of_none pre, inv.unstarted id pre] at owes
      simp only [StartsPaid, waits, uncounted, maxAttempts]
      simpa using owes
  unstarted := by
    intro id gone
    cases pre : s.jobs.find id with
    | some prior =>
      rw [step.find_some pre] at gone
      cases gone
    | none =>
      have owes := step.owed_le id
      rw [step.not_claims_of_none pre, inv.unstarted id pre] at owes
      simpa using owes

theorem StartInvariant.starts_le (inv : StartInvariant s) (id : String) :
    s.starts id ≤ maxAttempts := by
  have within : s.starts id ≤ s.owed id := Nat.le_add_right _ _
  cases got : s.jobs.find id with
  | some job => exact Nat.le_trans within (inv.paid id job got).le_max
  | none =>
    rw [inv.unstarted id got] at within
    exact Nat.le_trans within (Nat.zero_le _)

end Starts

/-- **The guarantees of the rows**: in a run, attempts never decrease, settled rows stay
settled and no late failure wakes a row that is being run exactly when every outcome fits
its row; and if besides each retry comes from a current copy, no job is started more than
`MAX_ATTEMPTS` times. -/
theorem guarantees_iff_and_starts_le {trace : List (Transition State Event)} {s : State}
    (run : JobTrace trace s) :
    (Throughout Guarantees trace ↔ Along OutcomeFits trace)
      ∧ (Along RetriesCurrent trace →
        Throughout Guarantees trace ∧ ∀ id, s.starts id ≤ maxAttempts) := by
  have exactly := run.throughout_iff_along fun step => step.guarantees_iff
  refine ⟨exactly, fun cur => ⟨exactly.mpr fun move mem => ?_, ?_⟩⟩
  · exact (cur move mem).1
  · have inv : StartInvariant s := run.invariant StartInvariant.initial
      (fun holds met step => holds.step met step) cur
    exact inv.starts_le

/-! ## A late failure -/

def cardJob (status : JobStatus) (attempts nextRunAt updatedAt : Nat)
    (lastError : Option String) : BackgroundJob where
  id := "j"
  jobType := "card_unfurl"
  payloadJson := "1"
  status := status
  attempts := attempts
  nextRunAt := nextRunAt
  lastError := lastError
  createdAt := 0
  updatedAt := updatedAt

/-- The copy that a worker got of it. -/
def cardRun (attempts now : Nat) : JobRun :=
  ⟨(cardJob .running attempts 0 0 none).returning, now⟩

def cardState (now : Nat) (job : BackgroundJob) (waiting running : List JobRun) (starts : Nat)
    (unserved : List (String × String)) : State where
  now := now
  jobs := Table.singleton job
  waiting := waiting
  running := running
  startLog := List.replicate starts "j"
  unserved := unserved

/-- The first worker has stalled, and a second one runs the job. -/
def takenOver : State :=
  cardState 900 (cardJob .running 1 900 900 (some staleReclaimError)) [] [cardRun 1 900, cardRun 0 0]
    2 []

def wokenUp : State :=
  cardState 900 (cardJob .pending 1 120 0 (some "timeout")) [] [cardRun 1 900] 2 []

theorem step_enqueued : Step State.initial (.enqueue "j" "card_unfurl" "1" 0)
    (cardState 0 (cardJob .pending 0 0 0 none) [] [] 0 [("card_unfurl", "1")]) :=
  Step.enqueue _ _ _ _ rfl

theorem step_started : Step
    (cardState 0 (cardJob .running 0 0 0 none) [cardRun 0 0] [] 0 [("card_unfurl", "1")])
    (.start (cardRun 0 0)) (cardState 0 (cardJob .running 0 0 0 none) [] [cardRun 0 0] 1 []) :=
  @Step.start _ (cardRun 0 0) [] [] rfl

theorem takenOver_reachable : ∃ trace, JobTrace trace takenOver ∧ Along RetriesCurrent trace := by
  have took : Step (cardState 0 (cardJob .pending 0 0 0 none) [] [] 0 [("card_unfurl", "1")])
      (.claimDue 48 0 [cardJob .pending 0 0 0 none])
      (cardState 0 (cardJob .running 0 0 0 none) [cardRun 0 0] [] 0 [("card_unfurl", "1")]) :=
    Step.claimDue _ (Nat.le_refl _) (Selection.singleton (by decide))
  have reclaimed : Step (cardState 900 (cardJob .running 0 0 0 none) [] [cardRun 0 0] 1 [])
      (.reclaimRequeued 50 900 [cardJob .running 0 0 0 none])
      (cardState 900 (cardJob .pending 1 900 900 (some staleReclaimError)) [] [cardRun 0 0] 1 []) :=
    Step.reclaimRequeued _ (Nat.le_refl _) (Selection.singleton (by decide))
  have claimedAgain : Step
      (cardState 900 (cardJob .pending 1 900 900 (some staleReclaimError)) [] [cardRun 0 0] 1 [])
      (.claimDue 48 900 [cardJob .pending 1 900 900 (some staleReclaimError)])
      (cardState 900 (cardJob .running 1 900 900 (some staleReclaimError)) [cardRun 1 900]
        [cardRun 0 0] 1 []) :=
    Step.claimDue _ (Nat.le_refl _) (Selection.singleton (by decide))
  have startedAgain : Step
      (cardState 900 (cardJob .running 1 900 900 (some staleReclaimError)) [cardRun 1 900]
        [cardRun 0 0] 1 [])
      (.start (cardRun 1 900)) takenOver :=
    @Step.start _ (cardRun 1 900) [] [] rfl
  refine ⟨_, ((((((Run.start.snoc step_enqueued).snoc took).snoc step_started).snoc
    (Step.tick _ 900)).snoc reclaimed).snoc claimedAgain).snoc startedAgain, ?_⟩
  simp [Along, RetriesCurrent, OutcomeFits]

theorem lateFailure_step : Step takenOver (.fail (cardRun 0 0) "timeout") wokenUp :=
  @Step.fail _ (cardRun 0 0) "timeout" [cardRun 1 900] [] rfl

/-- The guarantees at the run before the late failure, in which no run has ended. -/
theorem guarantees_of_takenOver :
    ∃ trace, JobTrace trace takenOver ∧ Throughout Guarantees trace
      ∧ ∀ id, takenOver.starts id ≤ maxAttempts := by
  obtain ⟨trace, run, cur⟩ := takenOver_reachable
  exact ⟨trace, run, (guarantees_iff_and_starts_le run).2 cur⟩

/-- **A late failure wakes a row that is being run**: the first worker makes the row
pending while the second runs its job. -/
theorem late_failure_wakes_running_row :
    ¬ ∀ (trace : List (Transition State Event)) (s : State), JobTrace trace s →
      Throughout Guarantees trace ∧ ∀ id, s.starts id ≤ maxAttempts := by
  intro took
  obtain ⟨trace, run, _⟩ := takenOver_reachable
  obtain ⟨kept, _⟩ := took _ _ (run.snoc lateFailure_step)
  have last := (Throughout.snoc_iff.mp kept).2
  have alone := last.wake (cardJob .running 1 900 900 (some staleReclaimError))
    (cardJob .pending 1 120 0 (some "timeout")) (by decide) (by decide) (by decide) rfl
  exact absurd alone (by decide)

end Cfwdon.BackgroundJobs
