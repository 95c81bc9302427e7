import Cfwdon.BackgroundJobs.WakeUps

/-!
# One row at work for each piece of work

A soft enqueue inserts no row beside a pending or running one of its type and payload, so
that no two workers are given the same work.  A failure that is retried makes its row pending
again, whatever has become of the row: it may revive a settled row beside another one.
-/

namespace Cfwdon.BackgroundJobs

open Library

/-- No two pending or running rows are for the same type and payload. -/
def State.OneActive (s : State) : Prop :=
  ∀ job ∈ s.jobs.rows, ∀ job' ∈ s.jobs.rows, job.asks job'.jobType job'.payloadJson = true →
    job.isActive = true → job'.isActive = true → job = job'

/-- A failure that is retried and finds its row settled finds no other row of its work
pending or running. -/
def RevivesAlone (s : State) : Event → Prop
  | .fail run _ =>
    isLastAttempt run.job = false →
      ∀ job, s.jobs.find run.job.id = some job → job.isActive = false →
        ¬ s.HasActive (job.jobType, job.payloadJson)
  | _ => True

section

variable {s s' : State} {event : Event} {trace : List (Transition State Event)}
  {job row : BackgroundJob}

theorem asks_iff {jobType payloadJson : String} :
    job.asks jobType payloadJson = true
      ↔ job.jobType = jobType ∧ job.payloadJson = payloadJson := by
  simp [BackgroundJob.asks]

theorem Event.work_onRow (event : Event) (job : BackgroundJob) :
    (event.onRow job).jobType = job.jobType ∧ (event.onRow job).payloadJson = job.payloadJson := by
  rw [← asks_iff, Event.onRow_asks, asks_iff]
  exact ⟨rfl, rfl⟩

/-- The event is a failure of a run of the row, to be retried. -/
def Event.Retries (event : Event) (id : String) : Prop :=
  ∃ run error, event = .fail run error ∧ run.job.id = id ∧ isLastAttempt run.job = false

/-- Only a failure that is retried makes a settled row active. -/
theorem Step.active_before (step : Step s event s') (held : job ∈ s.jobs.rows)
    (active : (event.onRow job).isActive = true) :
    job.isActive = true ∨ job.isActive = false ∧ event.Retries job.id := by
  have change := step.change (Table.find_of_mem held)
  generalize event.onRow job = row at change active
  cases change with
  | unchanged => exact Or.inl active
  | claimed pending => exact Or.inl (by simp [BackgroundJob.isActive, pending])
  | reclaimed _ running => exact Or.inl (by simp [BackgroundJob.isActive, running])
  | completed _ _ status => simp [BackgroundJob.isActive, status] at active
  | @failed _ run error failure isRow status =>
    cases before : job.isActive with
    | true => exact Or.inl rfl
    | false =>
      refine Or.inr ⟨rfl, run, error, failure, isRow, ?_⟩
      cases last : isLastAttempt run.job with
      | true => simp [BackgroundJob.isActive, status, last] at active
      | false => rfl

theorem RevivesAlone.not_active (alone : RevivesAlone s event) (held : job ∈ s.jobs.rows)
    (inactive : job.isActive = false) (retries : event.Retries job.id)
    (here : row ∈ s.jobs.rows) (same : row.asks job.jobType job.payloadJson = true) :
    row.isActive ≠ true := by
  obtain ⟨run, error, rfl, isRow, retried⟩ := retries
  intro active
  exact alone retried job (isRow ▸ Table.find_of_mem held) inactive ⟨row, here, same, active⟩

/-- A row after a step was there before, or was inserted for work without an active row. -/
theorem Step.mem_rows_cases (step : Step s event s') (held : row ∈ s'.jobs.rows) :
    (∃ job ∈ s.jobs.rows, row = event.onRow job)
      ∨ (∃ nextRunAt, event = .enqueue row.id row.jobType row.payloadJson nextRunAt
          ∧ row = pendingJob row.id row.jobType row.payloadJson nextRunAt s.now)
        ∧ ¬ s.HasActive (row.jobType, row.payloadJson) := by
  cases step with
  | @enqueue id jobType payload nextRunAt fresh =>
    have got := Table.find_of_mem held
    dsimp only at got
    unfold softEnqueueBackgroundJob at got
    split_ifs at got with served
    · exact Or.inl ⟨row, Table.mem_of_find got, rfl⟩
    · rw [Table.find_insert] at got
      cases pre : s.jobs.find row.id with
      | some job =>
        rw [pre, Option.some_or, Option.some.injEq] at got
        exact Or.inl ⟨row, got ▸ Table.mem_of_find pre, rfl⟩
      | none =>
        rw [pre, Option.none_or] at got
        split_ifs at got
        obtain rfl := Option.some.inj got
        refine Or.inr ⟨⟨nextRunAt, rfl, rfl⟩, ?_⟩
        rintro ⟨job, here, asks, active⟩
        refine served ?_
        simp only [Table.exists?, List.any_eq_true]
        exact ⟨job, here, Bool.and_eq_true_iff.mpr ⟨asks, active⟩⟩
  | tick | start | cancelWaiting | cancelRunning => exact Or.inl ⟨row, held, rfl⟩
  | _ =>
    obtain ⟨job, here, eq⟩ := List.mem_map.mp held
    exact Or.inl ⟨job, here, eq.symm⟩

/-- **A step leaves one active row for each piece of work exactly when a failure in it
revives no row beside another.** -/
theorem Step.oneActive_iff (step : Step s event s') (one : s.OneActive) :
    s'.OneActive ↔ RevivesAlone s event := by
  constructor
  · intro after
    cases event with
    | fail run error =>
      rintro retried job got inactive ⟨other, held, asks, active⟩
      have isRow : job.id = run.job.id := Table.key_of_find got
      have apart : other.id ≠ run.job.id := by
        intro eq
        obtain rfl := Table.eq_of_key_eq held (Table.mem_of_find got) (eq.trans isRow.symm)
        rw [inactive] at active
        cases active
      have kept := step.find_some (Table.find_of_mem held)
      rw [Event.onRow, fail_onRow, if_neg apart] at kept
      obtain ⟨revived, found, status, _⟩ := step.find_fail got
      have eq := step.find_some got
      rw [found, Option.some.injEq] at eq
      have same : other.asks revived.jobType revived.payloadJson = true := by
        obtain ⟨sameType, samePayload⟩ := Event.work_onRow (.fail run error) job
        rw [eq, sameType, samePayload]
        exact asks
      have back := after other (Table.mem_of_find kept) revived (Table.mem_of_find found) same
        active (by simp [BackgroundJob.isActive, status, retried])
      exact apart (back ▸ Table.key_of_find found)
    | _ => trivial
  · intro alone row held row' held' same active active'
    -- No active row was there for the work of a row that is inserted.
    have absent : ∀ {job inserted : BackgroundJob} {nextRunAt : Nat}, job ∈ s.jobs.rows →
        (event.onRow job).isActive = true →
        event = .enqueue inserted.id inserted.jobType inserted.payloadJson nextRunAt →
        job.asks inserted.jobType inserted.payloadJson = true →
        s.HasActive (inserted.jobType, inserted.payloadJson) := by
      rintro job inserted nextRunAt here before rfl asks
      exact ⟨job, here, asks, before⟩
    rcases step.mem_rows_cases held with ⟨job, here, rfl⟩ | ⟨⟨_, call, eq⟩, free⟩
    · rcases step.mem_rows_cases held' with ⟨job', here', rfl⟩ | ⟨⟨_, call', _⟩, free'⟩
      · obtain ⟨sameType, samePayload⟩ := event.work_onRow job'
        rw [Event.onRow_asks, sameType, samePayload] at same
        have back : job'.asks job.jobType job.payloadJson = true := by
          rw [asks_iff] at same ⊢
          exact ⟨same.1.symm, same.2.symm⟩
        rcases step.active_before here active with before | ⟨inactive, retries⟩
        · rcases step.active_before here' active' with before' | ⟨inactive', retries'⟩
          · rw [one job here job' here' same before before']
          · exact absurd before (alone.not_active here' inactive' retries' here same)
        · rcases step.active_before here' active' with before' | ⟨_, retries'⟩
          · exact absurd before' (alone.not_active here inactive retries here' back)
          · obtain ⟨run, error, rfl, isRow, _⟩ := retries
            obtain ⟨run', error', isFail, isRow', _⟩ := retries'
            cases isFail
            rw [Table.eq_of_key_eq here here' (isRow.symm.trans isRow')]
      · rw [Event.onRow_asks] at same
        exact absurd (absent here active call' same) free'
    · rcases step.mem_rows_cases held' with ⟨job', here', rfl⟩ | ⟨⟨_, call', eq'⟩, _⟩
      · obtain ⟨sameType, samePayload⟩ := event.work_onRow job'
        rw [sameType, samePayload, asks_iff] at same
        exact absurd (absent here' active' call (asks_iff.mpr ⟨same.1.symm, same.2.symm⟩)) free
      · obtain ⟨sameId, sameType, samePayload, sameTime⟩ :=
          Event.enqueue.inj (call.symm.trans call')
        refine eq.trans (Eq.trans ?_ eq'.symm)
        rw [sameId, sameType, samePayload, sameTime]

/-- **In every state that a run reaches each piece of work has at most one pending or
running row, exactly when no failure of the run revives a row beside another.** -/
theorem one_active_iff (run : JobTrace trace s) :
    (Throughout (fun _ _ post => State.OneActive post) trace ↔ Along RevivesAlone trace)
      ∧ (Along RevivesAlone trace → s.OneActive) := by
  have good : State.initial.OneActive := by
    intro job held
    cases held
  exact run.throughout_iff_along_from_good good (fun one taken => taken.oneActive_iff one)
    (fun _ _ one => one)

/-- A call beside a running row. -/
theorem one_active_askedAgain :
    ∃ trace, JobTrace trace askedAgain
      ∧ (Throughout (fun _ _ post => State.OneActive post) trace ↔ Along RevivesAlone trace) := by
  obtain ⟨trace, run, _⟩ := askedAgain_reachable
  exact ⟨trace, run, (one_active_iff run).1⟩

end

end Cfwdon.BackgroundJobs
