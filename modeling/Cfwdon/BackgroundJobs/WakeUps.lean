import Cfwdon.BackgroundJobs.RowGuarantees

/-!
# What becomes of a wake-up

A soft enqueue asks for work: a run of its type and payload is to begin after it.  The
statement inserts no row beside a pending or running one, so the wake-up may rest on the
row of a run that began earlier, and is lost if that row is settled before another run of
the work begins.
-/

namespace Cfwdon.BackgroundJobs

open Library

/-- The type and the payload that an event asks for. -/
def Event.enqueued : Event → Option (String × String)
  | .enqueue _ jobType payloadJson _ => some (jobType, payloadJson)
  | _ => none

/-- The type and the payload of the run that an event begins. -/
def Event.begun : Event → Option (String × String)
  | .start run => some (run.job.jobType, run.job.payloadJson)
  | _ => none

/-- Whether an event settles a row: by the end of its run, or by a last reclaim. -/
def Event.settles : Event → String → Bool
  | .reclaimFailed _ _ chosen, id => (chosen.map BackgroundJob.id).contains id
  | .complete run, id => id == run.job.id
  | .fail run _, id => id == run.job.id && isLastAttempt run.job
  | _, _ => false

/-- Some row of the work is pending or running. -/
def State.HasActive (s : State) (work : String × String) : Prop :=
  ∃ job ∈ s.jobs.rows, job.asks work.1 work.2 = true ∧ job.isActive = true

/-- Every wake-up that no run has answered rests on a pending or running row. -/
def State.KeepsWakeUps (s : State) : Prop :=
  ∀ work ∈ s.unserved, s.HasActive work

/-- After every call a run of its work has begun, or a row of it is pending or running. -/
def CallsServed (trace : List (Transition State Event)) (s : State) : Prop :=
  ∀ earlier call later work, trace = earlier ++ call :: later →
    call.event.enqueued = some work →
    (∃ transition ∈ later, transition.event.begun = some work) ∨ s.HasActive work

/-- **A step settles served work only**: each work enqueued since a run of it last began has
a pending or running row that the step does not settle. -/
def SettlesServedWork (s : State) (event : Event) : Prop :=
  ∀ work ∈ s.unserved, ∃ job ∈ s.jobs.rows,
    job.asks work.1 work.2 = true ∧ job.isActive = true ∧ event.settles job.id = false

/-! ## Unserved work -/

section

variable {s s' : State} {event : Event} {trace : List (Transition State Event)}
  {work : String × String}

/-- Work becomes unserved by a call, and stays so until a run of it begins. -/
theorem Step.mem_unserved_iff (step : Step s event s') :
    work ∈ s'.unserved
      ↔ event.enqueued = some work ∨ work ∈ s.unserved ∧ event.begun ≠ some work := by
  cases step with
  | enqueue | start => simp [Event.enqueued, Event.begun, @eq_comm _ work]
  | _ => simp [Event.enqueued, Event.begun]

/-- **Unserved work is the work of calls after which no run of it began.** -/
theorem State.unserved_iff (run : JobTrace trace s) :
    work ∈ s.unserved
      ↔ ∃ prior call later, trace = prior ++ call :: later
        ∧ call.event.enqueued = some work
        ∧ ∀ move ∈ later, move.event.begun ≠ some work := by
  induction run with
  | start => simp [State.initial]
  | @snoc trace pre post event _ taken ih =>
    rw [Step.mem_unserved_iff taken, ih]
    simp only [snoc_eq_append_cons_iff]
    constructor
    · rintro (asked | ⟨⟨prior, call, later, rfl, asked, silent⟩, other⟩)
      · exact ⟨trace, _, [], Or.inl ⟨rfl, rfl, rfl⟩, asked, by simp⟩
      · refine ⟨prior, call, later ++ [⟨pre, event, post⟩], Or.inr ⟨later, rfl, rfl⟩, asked, ?_⟩
        simpa [or_imp, forall_and] using ⟨silent, other⟩
    · rintro ⟨prior, call, later, ⟨_, rfl, _⟩ | ⟨rest, rfl, rfl⟩, asked, silent⟩
      · exact Or.inl asked
      · refine Or.inr ⟨⟨prior, call, rest, rfl, asked, ?_⟩, ?_⟩
        · intro move mem
          exact silent move (List.mem_append_left _ mem)
        · exact silent ⟨pre, event, post⟩ (by simp)

theorem callsServed_iff (run : JobTrace trace s) : CallsServed trace s ↔ s.KeepsWakeUps := by
  constructor
  · intro served work mem
    obtain ⟨prior, call, later, split, asked, silent⟩ := (State.unserved_iff run).mp mem
    rcases served prior call later work split asked with ⟨move, mem, began⟩ | active
    · exact absurd began (silent move mem)
    · exact active
  · intro kept prior call later work split asked
    by_cases began : ∃ move ∈ later, move.event.begun = some work
    · exact Or.inl began
    · push Not at began
      exact Or.inr (kept work ((State.unserved_iff run).mpr
        ⟨prior, call, later, split, asked, began⟩))

/-! ## Steps and active rows -/

theorem Event.onRow_asks (event : Event) (job : BackgroundJob) (jobType payloadJson : String) :
    (event.onRow job).asks jobType payloadJson = job.asks jobType payloadJson := by
  cases event with
  | reclaimFailed | reclaimRequeued | claimDue | claimNow | complete | fail =>
    dsimp only [Event.onRow, Update.onRow]
    split_ifs <;> rfl
  | _ => rfl

theorem Event.isActive_onRow {job : BackgroundJob} (active : job.isActive = true)
    (unsettled : event.settles job.id = false) : (event.onRow job).isActive = true := by
  cases event with
  | reclaimFailed limit now chosen | complete run =>
    rw [Event.onRow, Update.onRow_of_not_guard unsettled]
    exact active
  | fail run error =>
    by_cases own : (job.id == run.job.id) = true
    · have again : isLastAttempt run.job = false := by
        simpa [Event.settles, own] using unsettled
      rw [Event.onRow, Update.onRow_of_guard own]
      simp [retryOrFailBackgroundJob, again, BackgroundJob.isActive]
    · rw [Bool.not_eq_true] at own
      rw [Event.onRow, Update.onRow_of_not_guard own]
      exact active
  | reclaimRequeued limit now chosen =>
    rcases Update.onRow_cases (reclaimStaleBackgroundJobs .pending now
      (chosen.map BackgroundJob.id)) job with ⟨_, changed⟩ | eq
    · rw [Event.onRow, changed]
      rfl
    · rw [Event.onRow, eq]
      exact active
  | claimDue limit now chosen | claimNow jobType payload now chosen =>
    rcases Update.onRow_cases (claimBackgroundJobs now (chosen.map BackgroundJob.id)) job
      with ⟨_, changed⟩ | eq
    · rw [Event.onRow, changed]
      rfl
    · rw [Event.onRow, eq]
      exact active
  | _ => exact active

theorem Event.onRow_of_settles {id : String} (settles : event.settles id = true)
    (job : BackgroundJob) :
    (event.settles job.id = true ∧ (event.onRow job).isActive = false)
      ∨ event.settles job.id = false ∧ event.onRow job = job := by
  cases event with
  | reclaimFailed limit now chosen =>
    by_cases mem : (chosen.map BackgroundJob.id).contains job.id = true
    · refine Or.inl ⟨mem, ?_⟩
      rw [Event.onRow, Update.onRow_of_guard mem]
      rfl
    · rw [Bool.not_eq_true] at mem
      exact Or.inr ⟨mem, Update.onRow_of_not_guard mem⟩
  | complete run =>
    by_cases own : (job.id == run.job.id) = true
    · refine Or.inl ⟨own, ?_⟩
      rw [Event.onRow, Update.onRow_of_guard own]
      rfl
    · rw [Bool.not_eq_true] at own
      exact Or.inr ⟨own, Update.onRow_of_not_guard own⟩
  | fail run error =>
    obtain ⟨_, last⟩ := Bool.and_eq_true_iff.mp settles
    by_cases own : (job.id == run.job.id) = true
    · refine Or.inl ⟨Bool.and_eq_true_iff.mpr ⟨own, last⟩, ?_⟩
      rw [Event.onRow, Update.onRow_of_guard own]
      simp [retryOrFailBackgroundJob, last, BackgroundJob.isActive]
    · rw [Bool.not_eq_true] at own
      refine Or.inr ⟨?_, Update.onRow_of_not_guard own⟩
      rw [Event.settles, own, Bool.false_and]
  | _ => cases settles

theorem Event.begun_of_settles {id : String} (settles : event.settles id = true) :
    event.begun = none := by
  cases event with
  | start run => cases settles
  | _ => rfl

theorem Step.exists_onRow_of_settles {id : String} {row : BackgroundJob}
    (step : Step s event s') (settles : event.settles id = true) (held : row ∈ s'.jobs.rows) :
    ∃ job ∈ s.jobs.rows, event.onRow job = row := by
  cases step with
  | reclaimFailed | complete | fail => exact List.mem_map.mp held
  | _ => cases settles

theorem Step.hasActive_of_enqueued (step : Step s event s') (asked : event.enqueued = some work) :
    s'.HasActive work := by
  cases step with
  | @enqueue id jobType payload nextRunAt fresh =>
    obtain rfl := Option.some.inj asked
    rcases softEnqueue_cases id jobType payload nextRunAt s.now s.jobs with
      ⟨⟨job, held, asks, active⟩, eq⟩ | added
    · refine ⟨job, ?_, asks, active⟩
      dsimp only
      rw [eq]
      exact held
    · refine ⟨pendingJob id jobType payload nextRunAt s.now, ?_, ?_, rfl⟩
      · apply Table.mem_of_find (k := id)
        dsimp only
        rw [added, Table.find_insert, fresh]
        simp [pendingJob]
      · simp [pendingJob, BackgroundJob.asks]
  | _ => cases asked

theorem Step.hasActive_of_unsettled {job : BackgroundJob} (step : Step s event s')
    (held : job ∈ s.jobs.rows) (asks : job.asks work.1 work.2 = true)
    (active : job.isActive = true) (unsettled : event.settles job.id = false) :
    s'.HasActive work := by
  have got := step.find_some (Table.find_of_mem held)
  refine ⟨event.onRow job, Table.mem_of_find got, ?_, Event.isActive_onRow active unsettled⟩
  rw [Event.onRow_asks]
  exact asks

/-- **Work with a pending or running row keeps one exactly when the step leaves one of its
rows unsettled.** -/
theorem Step.hasActive_iff (step : Step s event s') (pre : s.HasActive work) :
    s'.HasActive work
      ↔ ∃ job ∈ s.jobs.rows,
        job.asks work.1 work.2 = true ∧ job.isActive = true ∧ event.settles job.id = false := by
  constructor
  · rintro ⟨row, held, asks, active⟩
    by_cases settles : ∃ id, event.settles id = true
    · obtain ⟨id, settles⟩ := settles
      obtain ⟨job, here, rfl⟩ := step.exists_onRow_of_settles settles held
      rcases Event.onRow_of_settles settles job with ⟨_, inactive⟩ | ⟨unsettled, eq⟩
      · rw [inactive] at active
        cases active
      · rw [eq] at asks active
        exact ⟨job, here, asks, active, unsettled⟩
    · push Not at settles
      obtain ⟨job, here, asks, active⟩ := pre
      exact ⟨job, here, asks, active, by simpa using settles job.id⟩
  · rintro ⟨job, held, asks, active, unsettled⟩
    exact step.hasActive_of_unsettled held asks active unsettled

/-- **Exactly the steps that settle served work keep the wake-ups.** -/
theorem Step.keepsWakeUps_iff (step : Step s event s') (kept : s.KeepsWakeUps) :
    s'.KeepsWakeUps ↔ SettlesServedWork s event := by
  constructor
  · intro post work unserved
    by_cases settles : ∃ id, event.settles id = true
    · obtain ⟨id, settles⟩ := settles
      have still : work ∈ s'.unserved :=
        step.mem_unserved_iff.mpr (Or.inr ⟨unserved, by simp [Event.begun_of_settles settles]⟩)
      exact (step.hasActive_iff (kept work unserved)).mp (post work still)
    · push Not at settles
      obtain ⟨job, held, asks, active⟩ := kept work unserved
      exact ⟨job, held, asks, active, by simpa using settles job.id⟩
  · intro served work unserved
    rcases step.mem_unserved_iff.mp unserved with asked | ⟨pre, _⟩
    · exact step.hasActive_of_enqueued asked
    · obtain ⟨job, held, asks, active, unsettled⟩ := served work pre
      exact step.hasActive_of_unsettled held asks active unsettled

/-- **The wake-ups of a run.**  In every state that a run reaches, each call has been followed
by the beginning of a run of its work or still has a pending or running row, exactly when
every step of the run settles served work only. -/
theorem calls_served_iff (run : JobTrace trace s) :
    (∀ earlier reached, JobTrace earlier reached → earlier <+: trace → CallsServed earlier reached)
      ↔ Along SettlesServedWork trace := by
  have good : State.initial.KeepsWakeUps := by
    intro work unserved
    cases unserved
  have exactly {trace' : List (Transition State Event)} {reached : State}
      (run' : JobTrace trace' reached) :
      (Throughout (fun _ _ post => State.KeepsWakeUps post) trace' ↔ Along SettlesServedWork trace')
        ∧ (Along SettlesServedWork trace' → reached.KeepsWakeUps) :=
    run'.throughout_iff_along_from_good good (fun kept taken => taken.keepsWakeUps_iff kept)
      (fun _ _ kept => kept)
  constructor
  · intro served
    refine (exactly run).1.mp ?_
    intro move mem
    obtain ⟨earlier, reached, begins⟩ := run.exists_of_mem mem
    exact (callsServed_iff reached).mp (served _ _ reached begins)
  · intro met earlier reached run' begins
    refine (callsServed_iff run').mpr ((exactly run').2 ?_)
    intro move mem
    exact met move (begins.subset mem)

end

/-! ## A wake-up that is lost -/

/-- A second call finds the row that a worker runs, and inserts none. -/
def askedAgain : State :=
  cardState 0 (cardJob .running 0 0 0 none) [] [cardRun 0 0] 1 [("card_unfurl", "1")]

def lostWakeUp : State :=
  cardState 0 (cardJob .completed 0 0 0 none) [] [] 1 [("card_unfurl", "1")]

theorem askedAgain_reachable : ∃ trace, JobTrace trace askedAgain
    ∧ Along SettlesServedWork trace := by
  have took : Step (cardState 0 (cardJob .pending 0 0 0 none) [] [] 0 [("card_unfurl", "1")])
      (.claimNow "card_unfurl" "1" 0 [cardJob .pending 0 0 0 none])
      (cardState 0 (cardJob .running 0 0 0 none) [cardRun 0 0] [] 0 [("card_unfurl", "1")]) :=
    Step.claimNow _ (Nat.le_refl _) (Selection.singleton (by decide))
  have again : Step (cardState 0 (cardJob .running 0 0 0 none) [] [cardRun 0 0] 1 [])
      (.enqueue "k" "card_unfurl" "1" 0) askedAgain :=
    Step.enqueue _ _ _ _ rfl
  refine ⟨_, (((Run.start.snoc step_enqueued).snoc took).snoc step_started).snoc again, ?_⟩
  simp [Along, SettlesServedWork, State.initial, cardState, Table.singleton, cardJob,
    BackgroundJob.asks, BackgroundJob.isActive, Event.settles]

theorem completion_step : Step askedAgain (.complete (cardRun 0 0)) lostWakeUp :=
  @Step.complete _ (cardRun 0 0) [] [] rfl

/-- Until the completion both calls are served. -/
theorem calls_served_of_askedAgain :
    ∃ trace, JobTrace trace askedAgain
      ∧ ∀ earlier reached, JobTrace earlier reached → earlier <+: trace →
        CallsServed earlier reached := by
  obtain ⟨trace, run, served⟩ := askedAgain_reachable
  exact ⟨trace, run, (calls_served_iff run).mpr served⟩

/-- **A wake-up is lost**: a call made while a worker runs the row inserts none, and the
completion of that row leaves no run to begin. -/
theorem wakeUp_lost_by_completion :
    ¬ ∀ (trace : List (Transition State Event)) (s : State), JobTrace trace s →
      CallsServed trace s := by
  intro took
  obtain ⟨trace, run, _⟩ := askedAgain_reachable
  have lost := run.snoc completion_step
  have kept := (callsServed_iff lost).mp (took _ _ lost)
  obtain ⟨job, held, _, active⟩ := kept ("card_unfurl", "1") (by decide)
  obtain rfl := List.mem_singleton.mp held
  cases active

end Cfwdon.BackgroundJobs
