import Cfwdon.ScheduledStatuses.AuthorRequests

/-!
# Rescheduled and cancelled statuses

Once a reschedule has answered a time, the status should not be published before it,
and once a cancel has answered success, it should not be published at all.  A sweep
publishes from the copy it listed: a request that writes the row between the claim
and the insert of the status comes too late.  The written time decides when a row is
due, so a time ahead of its instant, written with an offset west of UTC, is due early.

The invariant says that an open publication has the time of its row, which is then
the time answered last, and that cancelled rows have no open publication.
-/

namespace Cfwdon.ScheduledStatuses

open Library

/-- A status is published against no answered request: its row is not cancelled, and
the time answered for it has come. -/
def RequestHonoured (s : AuthorState) : AuthorEvent → AuthorState → Prop
  | .sweep (.insertStatus sweep _), _ => ∀ publication, sweep.current = some publication →
      publication.due.id ∉ s.cancelled
        ∧ ∀ time, s.rescheduled publication.due.id = some time → time.instant ≤ s.schedule.now
  | _, _ => True

/-- Requests write only rows without an open publication, and answer no time written
with an offset west of UTC. -/
def RequestsMeetIdleRows (s : AuthorState) : AuthorEvent → Prop
  | .update request => s.schedule.scheduled.exists? request.reaches = true →
      NoOpenPublication s.schedule request.id
  | .cancel _ _ id => NoOpenPublication s.schedule id
  | .answer request => ∀ row, s.schedule.scheduled.find request.id = some row →
      0 ≤ row.scheduledAt.utcOffset
  | _ => True

/-! ## The invariant -/

/-- Sweeps are on time, ids are used, and the answers agree with the rows and the open
publications. -/
structure AnswersHold (s : AuthorState) : Prop where
  onTime : ∀ sweep ∈ s.schedule.sweeps, sweep.OnTime s.schedule.now
  stored : ∀ id row, s.schedule.scheduled.find id = some row → id ∈ s.usedIds
  opened : ∀ publication, Open s.schedule publication → publication.due.id ∈ s.usedIds
  held : ∀ publication row, Open s.schedule publication →
    s.schedule.scheduled.find publication.due.id = some row →
      row.scheduledAt = publication.due.scheduledAt
  kept : ∀ id time, s.rescheduled id = some time →
    id ∈ s.usedIds ∧ 0 ≤ time.utcOffset
      ∧ (∀ row, s.schedule.scheduled.find id = some row → row.scheduledAt = time)
      ∧ ∀ publication, Open s.schedule publication → publication.due.id = id →
        publication.due.scheduledAt = time
  gone : ∀ id ∈ s.cancelled, id ∈ s.usedIds ∧ s.schedule.scheduled.find id = none
    ∧ NoOpenPublication s.schedule id

theorem AnswersHold.initial : AnswersHold AuthorState.initial where
  onTime := fun _ mem => by cases mem
  stored := fun _ _ got => by cases got
  opened := fun _ ⟨_, mem, _⟩ => by cases mem
  held := fun _ _ ⟨_, mem, _⟩ => by cases mem
  kept := fun _ _ ans => by cases ans
  gone := fun _ mem => by cases mem

variable {scheduled : ScheduledStatusTable} {row : ScheduledStatus}

section OneStep

variable {s s' : AuthorState} {event : AuthorEvent} {request : UpdateRequest}

theorem AnswersHold.sweep {sweepEvent : ScheduleEvent} {swept : ScheduleState}
    (inv : AnswersHold s) (ofSweep : sweepEvent.ofSweep = true)
    (step : ScheduleStep s.schedule sweepEvent swept) :
    AnswersHold { s with schedule := swept } where
  onTime := step.onTime inv.onTime
  stored := by
    intro id row got
    obtain ⟨pre, stored, _⟩ := step.find_some ofSweep got
    exact inv.stored id pre stored
  opened := by
    intro pub isOpen
    rcases step.open_cases isOpen with ⟨old, wasOpen, eq⟩ | ⟨_, row, stored, _⟩
    · exact eq ▸ inv.opened old wasOpen
    · exact inv.stored _ row stored
  held := by
    intro pub row isOpen got
    obtain ⟨pre, stored, sameTime⟩ := step.find_some ofSweep got
    rw [sameTime]
    rcases step.open_cases isOpen with ⟨old, wasOpen, eq⟩ | ⟨_, took, got', claimedTime⟩
    · exact eq ▸ inv.held old pre wasOpen (eq ▸ stored)
    · obtain rfl := Option.some.inj (stored.symm.trans got')
      exact claimedTime
  kept := by
    intro id time ans
    obtain ⟨used, east, rows, publications⟩ := inv.kept id time ans
    refine ⟨used, east, ?_, ?_⟩
    · intro row got
      obtain ⟨pre, stored, sameTime⟩ := step.find_some ofSweep got
      rw [sameTime, rows pre stored]
    · intro pub isOpen isRow
      rcases step.open_cases isOpen with ⟨old, wasOpen, eq⟩ | ⟨_, took, got', claimedTime⟩
      · exact eq ▸ publications old wasOpen (eq ▸ isRow)
      · rw [← claimedTime, rows took (isRow ▸ got')]
  gone := by
    intro id cancelled
    obtain ⟨used, missing, idle⟩ := inv.gone id cancelled
    refine ⟨used, ?_, ?_⟩
    · by_contra here
      obtain ⟨row, got⟩ := Option.ne_none_iff_exists'.mp here
      obtain ⟨pre, stored, _⟩ := step.find_some ofSweep got
      rw [missing] at stored
      cases stored
    · intro pub isOpen isRow
      rcases step.open_cases isOpen with ⟨old, wasOpen, eq⟩ | ⟨_, row, stored, _⟩
      · exact idle old wasOpen (eq ▸ isRow)
      · rw [isRow, missing] at stored
        cases stored

theorem AnswersHold.schedule (inv : AnswersHold s)
    (fresh : row.id ∉ s.usedIds) :
    AnswersHold { s with
      schedule := { s.schedule with scheduled := s.schedule.scheduled.insert row }
      usedIds := row.id :: s.usedIds } := by
  have other : ∀ {id}, id ∈ s.usedIds →
      (s.schedule.scheduled.insert row).find id = s.schedule.scheduled.find id := by
    intro id used
    have notRow : row.id ≠ id := fun eq => fresh (eq ▸ used)
    rw [Table.find_insert, if_neg notRow, Option.or_none]
  refine ⟨inv.onTime, ?_, ?_, ?_, ?_, ?_⟩
  · intro id got held
    by_cases isRow : row.id = id
    · exact isRow ▸ List.mem_cons_self ..
    · rw [Table.find_insert, if_neg isRow, Option.or_none] at held
      exact List.mem_cons_of_mem _ (inv.stored id got held)
  · exact fun pub isOpen => List.mem_cons_of_mem _ (inv.opened pub isOpen)
  · intro pub got isOpen held
    rw [other (inv.opened pub isOpen)] at held
    exact inv.held pub got isOpen held
  · intro id time ans
    obtain ⟨used, east, rows, publications⟩ := inv.kept id time ans
    refine ⟨List.mem_cons_of_mem _ used, east, fun got held => ?_, publications⟩
    rw [other used] at held
    exact rows got held
  · intro id cancelled
    obtain ⟨used, gone, idle⟩ := inv.gone id cancelled
    exact ⟨List.mem_cons_of_mem _ used, (other used).trans gone, idle⟩

variable {scheduledAt : ScheduledTime} {requests : List UpdateRequest}

theorem find_updateTime_of_ne {id : String} (scheduled : ScheduledStatusTable)
    (other : id ≠ request.id) :
    ((updateScheduledStatusTime request.accountId request.requestApplicationId request.id
      scheduledAt).run scheduled).find id = scheduled.find id := by
  rw [Table.find_run]
  cases got : scheduled.find id with
  | none => rfl
  | some row =>
    have unmet : request.reaches row = false := by
      have notRequest : row.id ≠ request.id := Table.key_of_find got ▸ other
      simp [UpdateRequest.reaches, ofAuthor, notRequest]
    rw [Option.map_some, Update.onRow_of_not_guard unmet]

theorem find_updateTime_of_unmet {id : String}
    (unmet : scheduled.exists? request.reaches = false) :
    ((updateScheduledStatusTime request.accountId request.requestApplicationId request.id
      scheduledAt).run scheduled).find id = scheduled.find id := by
  rw [Table.find_run]
  cases got : scheduled.find id with
  | none => rfl
  | some row =>
    have notReached : request.reaches row = false := by
      by_contra reach
      have met := List.any_eq_true.mpr ⟨row, Table.mem_of_find got, by simpa using reach⟩
      rw [Table.exists?] at unmet
      rw [unmet] at met
      cases met
    rw [Option.map_some, Update.onRow_of_not_guard notReached]

theorem AnswersHold.of_same_rows (inv : AnswersHold s)
    (eq : ∀ id, scheduled.find id = s.schedule.scheduled.find id) :
    AnswersHold { s with
      schedule := { s.schedule with scheduled := scheduled }
      requests := requests } where
  onTime := inv.onTime
  stored := fun id row got => inv.stored id row (eq id ▸ got)
  opened := inv.opened
  held := fun pub row isOpen got =>
    inv.held pub row isOpen (eq pub.due.id ▸ got)
  kept := by
    intro id time ans
    obtain ⟨used, east, rows, publications⟩ := inv.kept id time ans
    exact ⟨used, east, fun row got => rows row (eq id ▸ got), publications⟩
  gone := by
    intro id cancelled
    obtain ⟨used, missing, idle⟩ := inv.gone id cancelled
    exact ⟨used, (eq id).trans missing, idle⟩

/-- **An update of an idle row** takes the answer for it back. -/
theorem AnswersHold.update (inv : AnswersHold s)
    (met : s.schedule.scheduled.exists? request.reaches = true)
    (idle : NoOpenPublication s.schedule request.id) :
    AnswersHold { s with
      schedule := { s.schedule with
        scheduled := (updateScheduledStatusTime request.accountId request.requestApplicationId
          request.id scheduledAt).run s.schedule.scheduled }
      requests := requests
      rescheduled := Function.update s.rescheduled request.id none } := by
  have reachedUsed : request.id ∈ s.usedIds := by
    obtain ⟨row, mem, reach⟩ := List.any_eq_true.mp met
    simp only [UpdateRequest.reaches, ofAuthor, Bool.and_eq_true, beq_iff_eq] at reach
    exact reach.1.2 ▸ inv.stored row.id row (Table.find_of_mem mem)
  refine ⟨inv.onTime, ?_, inv.opened, ?_, ?_, ?_⟩
  · intro id row got
    by_cases isRow : id = request.id
    · exact isRow ▸ reachedUsed
    · exact inv.stored id row (find_updateTime_of_ne s.schedule.scheduled isRow ▸ got)
  · intro pub row isOpen got
    have other := idle pub isOpen
    exact inv.held pub row isOpen (find_updateTime_of_ne s.schedule.scheduled other ▸ got)
  · intro id time inForce
    have ans : Function.update s.rescheduled request.id none id = some time := inForce
    by_cases isRow : id = request.id
    · rw [isRow, Function.update_self] at ans
      cases ans
    · rw [Function.update_of_ne isRow] at ans
      obtain ⟨used, east, rows, publications⟩ := inv.kept id time ans
      exact ⟨used, east, fun row got =>
        rows row (find_updateTime_of_ne s.schedule.scheduled isRow ▸ got), publications⟩
  · intro id cancelled
    obtain ⟨used, gone, noOpen⟩ := inv.gone id cancelled
    refine ⟨used, ?_, noOpen⟩
    rw [Table.find_run, gone, Option.map_none]

/-- **An answer** is the time of the row, which open publications of it have too. -/
theorem AnswersHold.answer (inv : AnswersHold s)
    (got : s.schedule.scheduled.find request.id = some row)
    (east : 0 ≤ row.scheduledAt.utcOffset) :
    AnswersHold { s with
      requests := requests
      rescheduled := Function.update s.rescheduled request.id (some row.scheduledAt) } := by
  refine ⟨inv.onTime, inv.stored, inv.opened, inv.held, ?_, inv.gone⟩
  intro id time inForce
  have ans : Function.update s.rescheduled request.id (some row.scheduledAt) id = some time :=
    inForce
  by_cases isRow : id = request.id
  · subst isRow
    rw [Function.update_self, Option.some.injEq] at ans
    subst ans
    refine ⟨inv.stored _ row got, east, ?_, ?_⟩
    · intro other got'
      rw [Option.some.inj (got'.symm.trans got)]
    · intro pub isOpen isRow
      exact (inv.held pub row isOpen (isRow ▸ got)).symm
  · rw [Function.update_of_ne isRow] at ans
    exact inv.kept id time ans

/-- **A cancel of an idle row** leaves nothing to publish it from. -/
theorem AnswersHold.cancel {accountId id : String} {appId : Option Int}
    (inv : AnswersHold s)
    (met : s.schedule.scheduled.exists? (ofAuthor accountId appId id) = true)
    (idle : NoOpenPublication s.schedule id) :
    AnswersHold { s with
      schedule := { s.schedule with
        scheduled := deleteScheduledStatus accountId appId id s.schedule.scheduled }
      cancelled := id :: s.cancelled } := by
  obtain ⟨row, mem, reach⟩ := List.any_eq_true.mp met
  have isRow : row.id = id := by
    simp only [ofAuthor, Bool.and_eq_true, beq_iff_eq] at reach
    exact reach.1.2
  have held : s.schedule.scheduled.find id = some row := isRow ▸ Table.find_of_mem mem
  have pre : ∀ {other found}, (deleteScheduledStatus accountId appId id
      s.schedule.scheduled).find other = some found →
        s.schedule.scheduled.find other = some found :=
    fun found => (Table.find_of_find_deleteWhere found).1
  have deleted : (deleteScheduledStatus accountId appId id
      s.schedule.scheduled).find id = none := by
    rw [deleteScheduledStatus, Table.find_deleteWhere, held]
    simp [reach]
  refine ⟨inv.onTime, fun other found held' => inv.stored other found (pre held'),
    inv.opened, fun pub found isOpen held' =>
      inv.held pub found isOpen (pre held'), ?_, ?_⟩
  · intro other time ans
    obtain ⟨used, east, rows, publications⟩ := inv.kept other time ans
    exact ⟨used, east, fun found held' => rows found (pre held'), publications⟩
  · intro other cancelled
    rcases List.mem_cons.mp cancelled with rfl | old
    · exact ⟨inv.stored _ row held, deleted, idle⟩
    · obtain ⟨used, gone, noOpen⟩ := inv.gone other old
      refine ⟨used, ?_, noOpen⟩
      rw [deleteScheduledStatus, Table.find_deleteWhere, gone, Option.filter_none]

theorem AnswersHold.step (inv : AnswersHold s) (cond : RequestsMeetIdleRows s event)
    (step : AuthorStep s event s') : AnswersHold s' := by
  cases step with
  | sweep ofSweep swept => exact inv.sweep ofSweep swept
  | schedule fresh => exact inv.schedule fresh
  | findCurrent | validate | stop => exact inv.of_same_rows fun _ => rfl
  | @update request scheduledAt prior later runs phase =>
    by_cases met : s.schedule.scheduled.exists? request.reaches = true
    · rw [if_pos met]
      exact inv.update met (cond met)
    · rw [if_neg met]
      exact inv.of_same_rows fun _ => find_updateTime_of_unmet (by simpa using met)
  | answer runs phase got reach =>
    exact inv.answer got (cond _ got)
  | cancel met => exact inv.cancel met cond

/-- **A status is published against no answer that holds.** -/
theorem AnswersHold.honoured (inv : AnswersHold s) (step : AuthorStep s event s') :
    RequestHonoured s event s' := by
  cases step with
  | sweep ofSweep swept =>
    cases swept with
    | @insertStatus sweep publication pendingMedia statusId prior later runs pub
        got fresh =>
        intro publication' publishing'
        obtain rfl := Option.some.inj (pub.symm.trans publishing')
        have mem : sweep ∈ s.schedule.sweeps :=
          runs ▸ List.mem_append_right _ (List.mem_cons_self ..)
        have isOpen : Open s.schedule publication :=
          ⟨sweep, mem, pub, by rw [got]; rfl⟩
        refine ⟨fun cancelled => (inv.gone _ cancelled).2.2 publication isOpen rfl, ?_⟩
        intro time ans
        obtain ⟨_, east, _, publications⟩ := inv.kept _ time ans
        have sameTime := publications publication isOpen rfl
        have onTime := inv.onTime sweep mem
        have listed := onTime.2 publication.due (Sweep.mem_listed_of_current pub)
        rw [sameTime] at listed
        have reach : time.written ≤ s.schedule.now := Nat.le_trans listed onTime.1
        simp only [ScheduledTime.instant]
        omega
    | _ => exact trivial
  | _ => exact trivial

end OneStep

/-- **Answered requests are honoured** in every run in which requests write only rows
without an open publication, and no answered time is written with an offset west of
UTC. -/
theorem requests_honoured {trace : List (Transition AuthorState AuthorEvent)} {s : AuthorState}
    (run : AuthorRun trace s) (met : Along RequestsMeetIdleRows trace) :
    Throughout RequestHonoured trace :=
  run.forall_transitions AnswersHold.initial
    (fun inv cond step => inv.step cond step)
    (fun inv _ step => inv.honoured step) met

/-! ## A reschedule that is honoured -/

def reminderRow (scheduledAt : ScheduledTime) (claimedAt : Option Nat) : ScheduledStatus where
  id := "r"
  accountId := "alice"
  textContent := "reminder"
  visibility := .publicPost
  mediaIds := []
  applicationId := none
  scheduledAt := scheduledAt
  claimedAt := claimedAt

def reminderSweep (nowIso : Nat) (scheduledAt : ScheduledTime) (stage : PublishStage) : Sweep where
  nowIso := nowIso
  queue := []
  current := some ⟨(reminderRow scheduledAt none).due, 1, stage⟩

/-- These rows are stored, and these sweeps run. -/
def reminderSchedule (now : Nat) (scheduled : ScheduledStatusTable) (sweeps : List Sweep)
    (claims : List String) : ScheduleState where
  now := now
  scheduled := scheduled
  media := Table.empty
  sweeps := sweeps
  created := []
  outbox := []
  claims := claims

def reminderState (schedule : ScheduleState) (requests : List UpdateRequest)
    (rescheduled : String → Option ScheduledTime) (cancelled : List String) : AuthorState where
  schedule := schedule
  usedIds := ["r"]
  requests := requests
  rescheduled := rescheduled
  cancelled := cancelled

/-- The author's reschedule of the row, in a phase. -/
def reminderUpdate (phase : UpdatePhase) : UpdateRequest where
  accountId := "alice"
  requestApplicationId := none
  id := "r"
  phase := phase

/-- The row, to be published at this written time. -/
def reminderTable (written : Nat) (claimedAt : Option Nat) : ScheduledStatusTable :=
  Table.singleton (reminderRow ⟨written, 0⟩ claimedAt)

/-- The row is scheduled for the instant 0, and these requests run. -/
def reminderRequested (requests : List UpdateRequest) : AuthorState :=
  reminderState (reminderSchedule 0 (reminderTable 0 none) [] []) requests (fun _ => none) []

/-- The reschedule to the instant 1000 has been answered, and these sweeps run. -/
def reminderAnswered (now : Nat) (claimedAt : Option Nat) (sweeps : List Sweep)
    (claims : List String) : AuthorState :=
  reminderState (reminderSchedule now (reminderTable 1000 claimedAt) sweeps claims) []
    (Function.update (Function.update (fun _ => none) "r" none) "r" (some ⟨1000, 0⟩)) []

theorem reminderRequested_reachable :
    ∃ trace, AuthorRun trace (reminderRequested []) ∧ Along RequestsMeetIdleRows trace := by
  have scheduled : AuthorStep AuthorState.initial (.schedule (reminderRow ⟨0, 0⟩ none))
      (reminderRequested []) :=
    AuthorStep.schedule _ (by decide) rfl
  exact ⟨_, Run.start.snoc scheduled, Along.snoc_iff.mpr ⟨Along.nil, trivial⟩⟩

/-- The reschedule has been written. -/
def reminderUpdated : AuthorState :=
  reminderState (reminderSchedule 0 (reminderTable 1000 none) [] []) [reminderUpdate .updated]
    (Function.update (fun _ => none) "r" none) []

theorem reminderAnswered_reachable :
    ∃ trace, AuthorRun trace (reminderAnswered 0 none [] []) ∧ Along RequestsMeetIdleRows trace := by
  obtain ⟨_, run, met⟩ := reminderRequested_reachable
  have isAuthor : ofAuthor "alice" none "r" (reminderRow ⟨0, 0⟩ none) = true := by decide
  have got : AuthorStep (reminderRequested []) (.findCurrent "alice" none "r")
      (reminderRequested [reminderUpdate (.found ⟨0, 0⟩)]) :=
    AuthorStep.findCurrent _ rfl isAuthor
  have looking : (reminderRequested [reminderUpdate (.found ⟨0, 0⟩)]).requests
      = [] ++ reminderUpdate (.found ⟨0, 0⟩) :: [] := rfl
  have validated : AuthorStep (reminderRequested [reminderUpdate (.found ⟨0, 0⟩)])
      (.validate (reminderUpdate (.found ⟨0, 0⟩)) (some ⟨1000, 0⟩))
      (reminderRequested [reminderUpdate (.validated ⟨1000, 0⟩)]) :=
    AuthorStep.validate _ looking rfl (by decide)
  have writing : (reminderRequested [reminderUpdate (.validated ⟨1000, 0⟩)]).requests
      = [] ++ reminderUpdate (.validated ⟨1000, 0⟩) :: [] := rfl
  have updated : AuthorStep (reminderRequested [reminderUpdate (.validated ⟨1000, 0⟩)])
      (.update (reminderUpdate (.validated ⟨1000, 0⟩))) reminderUpdated :=
    AuthorStep.update _ writing rfl
  have answering : reminderUpdated.requests = [] ++ reminderUpdate .updated :: [] := rfl
  have reach : (reminderUpdate .updated).reaches (reminderRow ⟨1000, 0⟩ none) = true := by decide
  have ans : AuthorStep reminderUpdated (.answer (reminderUpdate .updated))
      (reminderAnswered 0 none [] []) :=
    AuthorStep.answer _ answering rfl rfl reach
  refine ⟨_, (((run.snoc got).snoc validated).snoc updated).snoc ans, ?_⟩
  simp only [Along.snoc_iff]
  refine ⟨⟨⟨⟨met, trivial⟩, trivial⟩, ?_⟩, ?_⟩
  · intro _ pub isOpen
    obtain ⟨_, mem, _⟩ := isOpen
    cases mem
  · intro row held
    obtain rfl := Option.some.inj held
    exact Int.le_refl _

/-- The law at a run that publishes the rescheduled row at its new time. -/
theorem requests_honoured_reminder :
    ∃ trace s, AuthorRun trace s ∧ (∃ status ∈ s.schedule.created, status.scheduledId = "r")
      ∧ Throughout RequestHonoured trace := by
  obtain ⟨_, run, met⟩ := reminderAnswered_reachable
  have ticked : AuthorStep (reminderAnswered 0 none [] []) (.sweep (.tick 1000))
      (reminderAnswered 1000 none [] []) :=
    AuthorStep.sweep _ rfl (ScheduleStep.tick _ 1000)
  have listed : AuthorStep (reminderAnswered 1000 none [] [])
      (.sweep (.startSweep 32 [reminderRow ⟨1000, 0⟩ none]))
      (reminderAnswered 1000 none [⟨1000, [(reminderRow ⟨1000, 0⟩ none).due], none⟩] []) :=
    AuthorStep.sweep _ rfl (ScheduleStep.startSweep _ (Selection.singleton (by decide)))
  have queued : (reminderAnswered 1000 none
      [⟨1000, [(reminderRow ⟨1000, 0⟩ none).due], none⟩] []).schedule.sweeps
        = [] ++ ⟨1000, [(reminderRow ⟨1000, 0⟩ none).due], none⟩ :: [] := rfl
  have took : AuthorStep
      (reminderAnswered 1000 none [⟨1000, [(reminderRow ⟨1000, 0⟩ none).due], none⟩] [])
      (.sweep (.claim ⟨1000, [(reminderRow ⟨1000, 0⟩ none).due], none⟩))
      (reminderAnswered 1000 (some 1000) [reminderSweep 1000 ⟨1000, 0⟩ .claimed] ["r"]) :=
    AuthorStep.sweep _ rfl (ScheduleStep.claim _ queued (by decide))
  have claiming : (reminderAnswered 1000 (some 1000) [reminderSweep 1000 ⟨1000, 0⟩ .claimed]
      ["r"]).schedule.sweeps = [] ++ reminderSweep 1000 ⟨1000, 0⟩ .claimed :: [] := rfl
  have got : AuthorStep
      (reminderAnswered 1000 (some 1000) [reminderSweep 1000 ⟨1000, 0⟩ .claimed] ["r"])
      (.sweep (.resolve (reminderSweep 1000 ⟨1000, 0⟩ .claimed)))
      (reminderAnswered 1000 (some 1000) [reminderSweep 1000 ⟨1000, 0⟩ (.resolved [])] ["r"]) :=
    AuthorStep.sweep _ rfl (ScheduleStep.resolve _ claiming rfl rfl rfl)
  have inserting : (reminderAnswered 1000 (some 1000) [reminderSweep 1000 ⟨1000, 0⟩ (.resolved [])]
      ["r"]).schedule.sweeps = [] ++ reminderSweep 1000 ⟨1000, 0⟩ (.resolved []) :: [] := rfl
  have added : AuthorStep
      (reminderAnswered 1000 (some 1000) [reminderSweep 1000 ⟨1000, 0⟩ (.resolved [])] ["r"])
      (.sweep (.insertStatus (reminderSweep 1000 ⟨1000, 0⟩ (.resolved [])) "s")) _ :=
    AuthorStep.sweep _ rfl (ScheduleStep.insertStatus _ inserting rfl rfl (by decide))
  have long := ((((run.snoc ticked).snoc listed).snoc took).snoc got).snoc added
  refine ⟨_, _, long, ⟨_, List.mem_cons_self .., rfl⟩, requests_honoured long ?_⟩
  simp only [Along.snoc_iff]
  exact ⟨⟨⟨⟨⟨met, trivial⟩, trivial⟩, trivial⟩, trivial⟩, trivial⟩

/-- A sweep of the instant 0 is at work, and these rows are cancelled. -/
def reminderSwept (scheduled : ScheduledStatusTable) (sweep : Sweep) (claims : List String)
    (cancelled : List String) : AuthorState :=
  reminderState (reminderSchedule 0 scheduled [sweep] claims) [] (fun _ => none) cancelled

/-- **A row cancelled between its claim and the insert is published all the same.** -/
theorem claimed_row_published_after_cancel :
    ¬ ∀ trace s, AuthorRun trace s → Throughout RequestHonoured trace := by
  intro honoured
  obtain ⟨_, run, _⟩ := reminderRequested_reachable
  have listed : AuthorStep (reminderRequested [])
      (.sweep (.startSweep 32 [reminderRow ⟨0, 0⟩ none]))
      (reminderSwept (reminderTable 0 none) ⟨0, [(reminderRow ⟨0, 0⟩ none).due], none⟩ [] []) :=
    AuthorStep.sweep _ rfl (ScheduleStep.startSweep _ (Selection.singleton (by decide)))
  have queued : (reminderSwept (reminderTable 0 none)
      ⟨0, [(reminderRow ⟨0, 0⟩ none).due], none⟩ [] []).schedule.sweeps
        = [] ++ ⟨0, [(reminderRow ⟨0, 0⟩ none).due], none⟩ :: [] := rfl
  have took : AuthorStep
      (reminderSwept (reminderTable 0 none) ⟨0, [(reminderRow ⟨0, 0⟩ none).due], none⟩ [] [])
      (.sweep (.claim ⟨0, [(reminderRow ⟨0, 0⟩ none).due], none⟩))
      (reminderSwept (reminderTable 0 (some 0)) (reminderSweep 0 ⟨0, 0⟩ .claimed) ["r"] []) :=
    AuthorStep.sweep _ rfl (ScheduleStep.claim _ queued (by decide))
  have cancelled : AuthorStep
      (reminderSwept (reminderTable 0 (some 0)) (reminderSweep 0 ⟨0, 0⟩ .claimed) ["r"] [])
      (.cancel "alice" none "r")
      (reminderSwept Table.empty (reminderSweep 0 ⟨0, 0⟩ .claimed) ["r"] ["r"]) :=
    AuthorStep.cancel _ (by decide)
  have claiming : (reminderSwept Table.empty (reminderSweep 0 ⟨0, 0⟩ .claimed) ["r"]
      ["r"]).schedule.sweeps = [] ++ reminderSweep 0 ⟨0, 0⟩ .claimed :: [] := rfl
  have got : AuthorStep
      (reminderSwept Table.empty (reminderSweep 0 ⟨0, 0⟩ .claimed) ["r"] ["r"])
      (.sweep (.resolve (reminderSweep 0 ⟨0, 0⟩ .claimed)))
      (reminderSwept Table.empty (reminderSweep 0 ⟨0, 0⟩ (.resolved [])) ["r"] ["r"]) :=
    AuthorStep.sweep _ rfl (ScheduleStep.resolve _ claiming rfl rfl rfl)
  have inserting : (reminderSwept Table.empty (reminderSweep 0 ⟨0, 0⟩ (.resolved [])) ["r"]
      ["r"]).schedule.sweeps = [] ++ reminderSweep 0 ⟨0, 0⟩ (.resolved []) :: [] := rfl
  have added : AuthorStep
      (reminderSwept Table.empty (reminderSweep 0 ⟨0, 0⟩ (.resolved [])) ["r"] ["r"])
      (.sweep (.insertStatus (reminderSweep 0 ⟨0, 0⟩ (.resolved [])) "s")) _ :=
    AuthorStep.sweep _ rfl (ScheduleStep.insertStatus _ inserting rfl rfl (by decide))
  have long := ((((run.snoc listed).snoc took).snoc cancelled).snoc got).snoc added
  have last := (Throughout.snoc_iff.mp (honoured _ _ long)).2
  exact (last _ rfl).1 (List.mem_cons_self ..)

end Cfwdon.ScheduledStatuses
