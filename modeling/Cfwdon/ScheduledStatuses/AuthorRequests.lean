import Cfwdon.ScheduledStatuses.Publishing

/-!
# Requests about scheduled statuses

An author reschedules or cancels a scheduled status.  A reschedule looks the row up,
checks the new time, writes it and looks the row up again for the answer; a cancel
deletes the row and answers success when a row was deleted.  Neither looks at the
claim of a sweep.

`AuthorStep` puts the requests beside the steps of the sweeps.  The answers given
are kept as history: the time a reschedule answered for a row, until the time of
the row is written again, and the rows whose cancel was answered with success.
-/

namespace Cfwdon.ScheduledStatuses

open Library

/-- `validate_scheduled_at_minimum_offset`: more than five minutes ahead. -/
def validScheduledAt (now : Nat) (scheduledAt : ScheduledTime) : Bool :=
  decide ((now : Int) + 300 < scheduledAt.instant)

/-- Where `update_scheduled_status_response` is. -/
inductive UpdatePhase where
  /-- The row was found, with this time. -/
  | found (current : ScheduledTime)
  | validated (scheduledAt : ScheduledTime)
  | updated

/-- A running `update_scheduled_status_response`. -/
structure UpdateRequest where
  accountId : String
  requestApplicationId : Option Int
  id : String
  phase : UpdatePhase

def UpdateRequest.reaches (request : UpdateRequest) : ScheduledStatus → Bool :=
  ofAuthor request.accountId request.requestApplicationId request.id

/-! ## Steps -/

/-- The sweeps, the running requests and the answers given. -/
structure AuthorState where
  schedule : ScheduleState
  /-- The ids of the rows scheduled so far: ids are random, none is drawn twice. -/
  usedIds : List String
  requests : List UpdateRequest
  /-- The time answered for a row and not written over since: history. -/
  rescheduled : String → Option ScheduledTime
  /-- The rows whose cancel was answered with success: history. -/
  cancelled : List String

def AuthorState.initial : AuthorState where
  schedule := ScheduleState.initial
  usedIds := []
  requests := []
  rescheduled := fun _ => none
  cancelled := []

/-- The steps of the sweeps, of the clock and of the media. -/
def ScheduleEvent.ofSweep : ScheduleEvent → Bool
  | .schedule _ => false
  | .updateTime _ _ _ _ => false
  | .unschedule _ _ _ => false
  | _ => true

inductive AuthorEvent where
  | sweep (event : ScheduleEvent)
  | schedule (row : ScheduledStatus)
  | findCurrent (accountId : String) (requestApplicationId : Option Int) (id : String)
  | validate (request : UpdateRequest) (requested : Option ScheduledTime)
  | update (request : UpdateRequest)
  | answer (request : UpdateRequest)
  | stop (request : UpdateRequest)
  | cancel (accountId : String) (requestApplicationId : Option Int) (id : String)

/-- One statement of a sweep or of a request.  A request stops with an error answer,
or dies, after any statement. -/
inductive AuthorStep : AuthorState → AuthorEvent → AuthorState → Prop where
  | sweep (s : AuthorState) {event : ScheduleEvent} {swept : ScheduleState}
      (ofSweep : event.ofSweep = true) (step : ScheduleStep s.schedule event swept) :
      AuthorStep s (.sweep event) { s with schedule := swept }
  | schedule (s : AuthorState) {row : ScheduledStatus} (fresh : row.id ∉ s.usedIds)
      (unclaimed : row.claimedAt = none) :
      AuthorStep s (.schedule row)
        { s with
          schedule := { s.schedule with scheduled := s.schedule.scheduled.insert row }
          usedIds := row.id :: s.usedIds }
  | findCurrent (s : AuthorState) {accountId : String} {requestApplicationId : Option Int}
      {id : String} {row : ScheduledStatus} (found : s.schedule.scheduled.find id = some row)
      (reached : ofAuthor accountId requestApplicationId id row = true) :
      AuthorStep s (.findCurrent accountId requestApplicationId id)
        { s with
          requests := ⟨accountId, requestApplicationId, id, .found row.scheduledAt⟩ :: s.requests }
  | validate (s : AuthorState) {request : UpdateRequest} {current : ScheduledTime}
      {requested : Option ScheduledTime} {earlier later : List UpdateRequest}
      (running : s.requests = earlier ++ request :: later)
      (phase : request.phase = .found current)
      (accepted : validScheduledAt s.schedule.now (requested.getD current) = true) :
      AuthorStep s (.validate request requested)
        { s with
          requests := earlier
            ++ { request with phase := .validated (requested.getD current) } :: later }
  | update (s : AuthorState) {request : UpdateRequest} {scheduledAt : ScheduledTime}
      {earlier later : List UpdateRequest} (running : s.requests = earlier ++ request :: later)
      (phase : request.phase = .validated scheduledAt) :
      AuthorStep s (.update request)
        { s with
          schedule :=
            { s.schedule with
              scheduled := (updateScheduledStatusTime request.accountId
                request.requestApplicationId request.id scheduledAt).run s.schedule.scheduled }
          requests := earlier ++ { request with phase := .updated } :: later
          rescheduled :=
            if s.schedule.scheduled.exists? request.reaches then
              Function.update s.rescheduled request.id none
            else s.rescheduled }
  | answer (s : AuthorState) {request : UpdateRequest} {row : ScheduledStatus}
      {earlier later : List UpdateRequest} (running : s.requests = earlier ++ request :: later)
      (phase : request.phase = .updated)
      (found : s.schedule.scheduled.find request.id = some row)
      (reached : request.reaches row = true) :
      AuthorStep s (.answer request)
        { s with
          requests := earlier ++ later
          rescheduled := Function.update s.rescheduled request.id (some row.scheduledAt) }
  | stop (s : AuthorState) {request : UpdateRequest} {earlier later : List UpdateRequest}
      (running : s.requests = earlier ++ request :: later) :
      AuthorStep s (.stop request) { s with requests := earlier ++ later }
  | cancel (s : AuthorState) {accountId : String} {requestApplicationId : Option Int}
      {id : String}
      (met : s.schedule.scheduled.exists? (ofAuthor accountId requestApplicationId id) = true) :
      AuthorStep s (.cancel accountId requestApplicationId id)
        { s with
          schedule :=
            { s.schedule with
              scheduled := deleteScheduledStatus accountId requestApplicationId id
                s.schedule.scheduled }
          cancelled := id :: s.cancelled }

/-- The runs of sweeps and requests. -/
abbrev AuthorRun := Run AuthorStep AuthorState.initial

/-! ## What the steps of a sweep do -/

/-- A publication that has claimed its row and not inserted the status. -/
def Open (s : ScheduleState) (publication : Publication) : Prop :=
  ∃ sweep ∈ s.sweeps, sweep.current = some publication ∧ publication.stage.beforeInsert = true

/-- No publication of the row is between its claim and the insert of its status. -/
def NoOpenPublication (s : ScheduleState) (id : String) : Prop :=
  ∀ publication, Open s publication → publication.due.id ≠ id

def Sweep.listed (sweep : Sweep) : List DueScheduledStatus :=
  sweep.current.toList.map Publication.due ++ sweep.queue

/-- A sweep lists rows whose written time its clock reading has reached. -/
def Sweep.OnTime (now : Nat) (sweep : Sweep) : Prop :=
  sweep.nowIso ≤ now ∧ ∀ due ∈ sweep.listed, due.scheduledAt.written ≤ sweep.nowIso

variable {due : DueScheduledStatus}

section SweepSteps

variable {s s' : ScheduleState} {event : ScheduleEvent} {sweep sweep' : Sweep}
  {publication publication' : Publication} {earlier later : List Sweep} {now : Nat}

theorem Sweep.mem_listed_of_current (pub : sweep.current = some publication) :
    publication.due ∈ sweep.listed := by
  simp [Sweep.listed, pub]

theorem Sweep.mem_listed_of_queue (queued : due ∈ sweep.queue) : due ∈ sweep.listed :=
  List.mem_append_right _ queued

/-- A sweep that is done with its publication has listed no more than before. -/
theorem mem_listed_of_mem_listed_idle
    (listed : due ∈ Sweep.listed { sweep with current := none }) : due ∈ sweep.listed :=
  Sweep.mem_listed_of_queue (by simpa [Sweep.listed] using listed)

theorem CreateStatement.run_keeps {statusId : String}
    {stmt : CreateStatement} {ran : ScheduleState}
    (succeeds : stmt.run due statusId s = some ran) :
    ran.now = s.now ∧ ran.scheduled = s.scheduled := by
  cases stmt with
  | saveDetails | enqueue delivery =>
    obtain rfl := Option.some.inj succeeds
    exact ⟨rfl, rfl⟩
  | attachMedia mediaIds =>
    obtain ⟨media, -, rfl⟩ := Option.map_eq_some_iff.mp succeeds
    exact ⟨rfl, rfl⟩

/-- A sweep stays on time while what it has listed only shrinks. -/
theorem Sweep.OnTime.of_listed_subset (onTime : sweep.OnTime now)
    (eq : sweep'.nowIso = sweep.nowIso) (fewer : ∀ due ∈ sweep'.listed, due ∈ sweep.listed) :
    sweep'.OnTime now :=
  ⟨eq ▸ onTime.1, fun due mem => eq ▸ onTime.2 due (fewer due mem)⟩

theorem onTime_of_replaced (runs : s.sweeps = earlier ++ sweep :: later)
    (onTime : ∀ other ∈ s.sweeps, other.OnTime now) (eq : sweep'.nowIso = sweep.nowIso)
    (fewer : ∀ due ∈ sweep'.listed, due ∈ sweep.listed) :
    ∀ other ∈ earlier ++ sweep' :: later, other.OnTime now := by
  intro other mem
  rw [runs] at onTime
  rcases eq_or_mem_of_mem_replaced sweep mem with rfl | old
  · exact (onTime sweep (List.mem_append_right _ (List.mem_cons_self ..))).of_listed_subset eq fewer
  · exact onTime other old

/-- **Sweeps stay on time.** -/
theorem ScheduleStep.onTime (step : ScheduleStep s event s')
    (onTime : ∀ sweep ∈ s.sweeps, sweep.OnTime s.now) :
    ∀ sweep ∈ s'.sweeps, sweep.OnTime s'.now := by
  cases step with
  | tick seconds =>
    intro sweep mem
    exact ⟨Nat.le_trans (onTime sweep mem).1 (Nat.le_add_right _ _), (onTime sweep mem).2⟩
  | schedule | updateTime | unschedule | writeMedia => exact onTime
  | @startSweep limit chosen sel =>
    intro sweep mem
    rcases List.mem_cons.mp mem with rfl | old
    · refine ⟨Nat.le_refl _, ?_⟩
      intro due listed
      obtain ⟨row, isChosen, rfl⟩ := List.mem_map.mp (by simpa [Sweep.listed] using listed)
      have selected := sel.subset row isChosen
      have dueNow := (List.mem_filter.mp selected).2
      simp only [dueForPublishing, Bool.and_eq_true, decide_eq_true_eq] at dueNow
      exact dueNow.1
    · exact onTime sweep old
  | claim runs =>
    exact onTime_of_replaced runs onTime rfl (by simp [Sweep.listed])
  | skip runs =>
    refine onTime_of_replaced runs onTime rfl fun due listed => ?_
    exact Sweep.mem_listed_of_queue (List.mem_cons_of_mem _ (by simpa [Sweep.listed] using listed))
  | resolve runs pub | insertStatus runs pub =>
    exact onTime_of_replaced runs onTime rfl (by simp [Sweep.listed, Sweep.atStage, pub])
  | @runStatement sweep publication statusId stmt left earlier later ran runs
      pub next succeeds =>
      rw [(CreateStatement.run_keeps succeeds).1]
      exact onTime_of_replaced runs onTime rfl (by simp [Sweep.listed, Sweep.atStage, pub])
  | deleteScheduled runs | giveUp runs =>
    exact onTime_of_replaced runs onTime rfl fun _ => mem_listed_of_mem_listed_idle

/-- **A sweep leaves the time of a row alone.** -/
theorem ScheduleStep.find_some {id : String} {row' : ScheduledStatus}
    (step : ScheduleStep s event s') (ofSweep : event.ofSweep = true)
    (got : s'.scheduled.find id = some row') :
    ∃ row, s.scheduled.find id = some row ∧ row'.scheduledAt = row.scheduledAt := by
  cases step with
  | schedule | updateTime | unschedule => cases ofSweep
  | @claim nowIso due queue earlier later runs met =>
    rw [Table.find_run] at got
    obtain ⟨row, held, rfl⟩ := Option.map_eq_some_iff.mp got
    refine ⟨row, held, ?_⟩
    rcases (claimScheduledStatus nowIso due.id due.scheduledAt).onRow_cases row with
      ⟨_, took⟩ | eq
    · rw [took]
      rfl
    · rw [eq]
  | runStatement runs pub next succeeds =>
    rw [(CreateStatement.run_keeps succeeds).2] at got
    exact ⟨row', got, rfl⟩
  | deleteScheduled =>
    exact ⟨row', (Table.find_of_find_deleteWhere got).1, rfl⟩
  | _ => exact ⟨row', got, rfl⟩

theorem open_of_replaced (runs : s.sweeps = earlier ++ sweep :: later)
    (running' : s'.sweeps = earlier ++ sweep' :: later) (isOpen : Open s' publication) :
    (sweep'.current = some publication ∧ publication.stage.beforeInsert = true)
      ∨ Open s publication := by
  obtain ⟨other, mem, pub, pre⟩ := isOpen
  rw [running'] at mem
  rcases eq_or_mem_of_mem_replaced sweep mem with rfl | old
  · exact Or.inl ⟨pub, pre⟩
  · exact Or.inr ⟨other, runs ▸ old, pub, pre⟩

/-- **A publication is opened by a claim**, which finds the row with the time the sweep
has listed. -/
theorem ScheduleStep.open_cases (step : ScheduleStep s event s')
    (isOpen : Open s' publication) :
    (∃ publication', Open s publication' ∧ publication'.due = publication.due)
      ∨ ((∃ sweep ∈ s.sweeps, publication.due ∈ sweep.listed)
        ∧ ∃ row, s.scheduled.find publication.due.id = some row
          ∧ row.scheduledAt = publication.due.scheduledAt) := by
  cases step with
  | startSweep sel =>
    obtain ⟨other, mem, pub, pre⟩ := isOpen
    rcases List.mem_cons.mp mem with rfl | old
    · cases pub
    · exact Or.inl ⟨publication, ⟨other, old, pub, pre⟩, rfl⟩
  | @claim nowIso due queue earlier later runs met =>
    rcases open_of_replaced runs rfl isOpen with ⟨pub, _⟩ | old
    · obtain rfl := Option.some.inj pub
      refine Or.inr ⟨⟨⟨nowIso, due :: queue, none⟩, ?_, ?_⟩, ?_⟩
      · rw [runs]
        exact List.mem_append_right _ (List.mem_cons_self ..)
      · exact Sweep.mem_listed_of_queue (List.mem_cons_self ..)
      · obtain ⟨row, mem, guarded⟩ := List.any_eq_true.mp met
        simp only [claimScheduledStatus, Bool.and_eq_true, beq_iff_eq] at guarded
        exact ⟨row, guarded.1.1 ▸ Table.find_of_mem mem, guarded.1.2⟩
    · exact Or.inl ⟨publication, old, rfl⟩
  | skip runs | deleteScheduled runs | giveUp runs =>
    rcases open_of_replaced runs rfl isOpen with ⟨pub, _⟩ | old
    · cases pub
    · exact Or.inl ⟨publication, old, rfl⟩
  | @resolve sweep publication' pendingMedia earlier later runs pub took =>
    rcases open_of_replaced runs rfl isOpen with ⟨publishing', _⟩ | old
    · obtain rfl := Option.some.inj publishing'
      refine Or.inl ⟨publication', ⟨sweep, ?_, pub, ?_⟩, rfl⟩
      · rw [runs]
        exact List.mem_append_right _ (List.mem_cons_self ..)
      · rw [took]
        rfl
    · exact Or.inl ⟨publication, old, rfl⟩
  | insertStatus runs | runStatement runs =>
    rcases open_of_replaced runs rfl isOpen with ⟨pub, pre⟩ | old
    · obtain rfl := Option.some.inj pub
      cases pre
    · exact Or.inl ⟨publication, old, rfl⟩
  | _ => exact Or.inl ⟨publication, isOpen, rfl⟩

end SweepSteps

end Cfwdon.ScheduledStatuses
