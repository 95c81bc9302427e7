import Cfwdon.ScheduledStatuses.Publishing

/-!
# One status for a scheduled row

A scheduled row should lead to one status.  The status is inserted with a fresh id
and the row is deleted at the end, in separate statements, and nothing links the
two: a sweep that gives up or dies in between leaves the row claimed, and when the
claim has expired the next sweep publishes it again.

The invariant counts, for each row, the statuses created and the publications
that may still create one under the last claim: together they are at most one.
-/

namespace Cfwdon.ScheduledStatuses

open Library Statuses

def createdFor (id : String) (created : List CreatedStatus) : Nat :=
  created.countP fun status => status.scheduledId == id

/-- The number of times a delivery has been enqueued for a row. -/
def enqueuedFor (delivery : CreateDelivery) (id : String) (outbox : List EnqueuedCreate) : Nat :=
  outbox.countP fun create => create.scheduledId == id && create.delivery == delivery

def AtMostOneStatus (s : ScheduleState) : Prop :=
  ∀ id, createdFor id s.created ≤ 1 ∧ ∀ delivery, enqueuedFor delivery id s.outbox ≤ 1

/-- A row is claimed only while no status has been created for it, and a sweep
inserts the status only while its claim is the last one of the row. -/
def ClaimsCurrent (s : ScheduleState) : ScheduleEvent → Prop
  | .claim sweep => ∀ due queue, sweep.queue = due :: queue → createdFor due.id s.created = 0
  | .insertStatus sweep _ => ∀ publication, sweep.current = some publication →
      publication.ordinal = s.claims.count publication.due.id
  | _ => True

/-! ## The invariant -/

/-- Whether a publication may still create the status of the row, under its last
claim. -/
def Publication.openClaims (claims : List String) (id : String) (publication : Publication) :
    Nat :=
  if publication.due.id = id ∧ publication.stage.beforeInsert = true
      ∧ publication.ordinal = claims.count id then 1
  else 0

/-- How often a publication has still to enqueue the delivery for the row. -/
def Publication.pendingCreates (delivery : CreateDelivery) (id : String)
    (publication : Publication) : Nat :=
  if publication.due.id = id then publication.stage.remaining.count (.enqueue delivery) else 0

/-- The same for the publication of a sweep, if it has one. -/
def Sweep.openClaims (claims : List String) (id : String) (sweep : Sweep) : Nat :=
  sweep.current.elim 0 (Publication.openClaims claims id)

def Sweep.pendingCreates (delivery : CreateDelivery) (id : String) (sweep : Sweep) : Nat :=
  sweep.current.elim 0 (Publication.pendingCreates delivery id)

/-- No publication has an ordinal beyond the claims of its row. -/
def Sweep.Bounded (claims : List String) (sweep : Sweep) : Prop :=
  ∀ publication, sweep.current = some publication →
    publication.ordinal ≤ claims.count publication.due.id

/-- The counts of every row. -/
structure PublishInvariant (s : ScheduleState) : Prop where
  bounded : ∀ sweep ∈ s.sweeps, sweep.Bounded s.claims
  single : ∀ id, createdFor id s.created + total (Sweep.openClaims s.claims id) s.sweeps ≤ 1
  matched : ∀ delivery id,
    enqueuedFor delivery id s.outbox + total (Sweep.pendingCreates delivery id) s.sweeps
      ≤ createdFor id s.created

theorem PublishInvariant.initial : PublishInvariant ScheduleState.initial where
  bounded := fun _ mem => by cases mem
  single := fun _ => by simp [ScheduleState.initial, createdFor, total]
  matched := fun _ _ => by simp [ScheduleState.initial, createdFor, enqueuedFor, total]

theorem PublishInvariant.atMostOneStatus {s : ScheduleState} (inv : PublishInvariant s) :
    AtMostOneStatus s := by
  intro id
  have single := inv.single id
  refine ⟨by omega, fun delivery => ?_⟩
  have hit := inv.matched delivery id
  omega

theorem createStatements_enqueue (mediaIds : List String) (vis : Visibility)
    (delivery : CreateDelivery) :
    (if fanOutWithInsert mediaIds vis = true ∧ delivery = .fanOut then 1 else 0)
      + (createStatements mediaIds vis).count (.enqueue delivery) ≤ 1 := by
  cases mediaIds with
  | nil => cases vis <;> cases delivery <;> decide
  | cons mediaId rest =>
    cases vis <;> cases delivery <;> simp [fanOutWithInsert, createStatements]

section OneStep

variable {s s' ran : ScheduleState} {event : ScheduleEvent} {sweep sweep' : Sweep}
  {earlier later : List Sweep} {claims : List String} {id : String} {delivery : CreateDelivery}
  {publication : Publication} {due : DueScheduledStatus}

theorem openClaims_of_current (pub : sweep.current = some publication) :
    sweep.openClaims claims id = publication.openClaims claims id := by
  simp [Sweep.openClaims, pub]

theorem pendingCreates_of_current (pub : sweep.current = some publication) :
    sweep.pendingCreates delivery id = publication.pendingCreates delivery id := by
  simp [Sweep.pendingCreates, pub]

theorem bounded_idle (nowIso : Nat) (queue : List DueScheduledStatus) :
    Sweep.Bounded claims ⟨nowIso, queue, none⟩ :=
  fun _ pub => by cases pub

/-! ## A new claim -/

theorem openClaims_cons_of_ne (other : due.id ≠ id) :
    Sweep.openClaims (due.id :: claims) id = Sweep.openClaims claims id := by
  have samePublication :
      Publication.openClaims (due.id :: claims) id = Publication.openClaims claims id := by
    funext publication
    simp [Publication.openClaims, List.count_cons_of_ne other]
  funext sweep
  rw [Sweep.openClaims, samePublication, Sweep.openClaims]

theorem openClaims_cons_self (bounded : sweep.Bounded claims) :
    sweep.openClaims (due.id :: claims) due.id = 0 := by
  cases pub : sweep.current with
  | none => simp [Sweep.openClaims, pub]
  | some publication =>
    rw [openClaims_of_current pub]
    refine if_neg fun ⟨sameRow, _, latest⟩ => ?_
    have old := bounded publication pub
    rw [sameRow] at old
    rw [List.count_cons_self] at latest
    omega

theorem Sweep.Bounded.claimed (bounded : sweep.Bounded claims) :
    sweep.Bounded (due.id :: claims) := by
  intro publication pub
  exact Nat.le_trans (bounded publication pub) List.count_le_count_cons

theorem CreateStatement.run_some {stmt : CreateStatement} {statusId : String}
    (succeeds : stmt.run due statusId s = some ran) :
    ran.created = s.created ∧ ran.claims = s.claims
      ∧ ∀ delivery id, enqueuedFor delivery id ran.outbox = enqueuedFor delivery id s.outbox
          + if due.id = id ∧ stmt = .enqueue delivery then 1 else 0 := by
  cases stmt with
  | saveDetails =>
    obtain rfl := Option.some.inj succeeds
    simp
  | attachMedia mediaIds =>
    obtain ⟨media, _, rfl⟩ := Option.map_eq_some_iff.mp succeeds
    simp
  | enqueue queued =>
    obtain rfl := Option.some.inj succeeds
    refine ⟨rfl, rfl, fun delivery id => ?_⟩
    simp [enqueuedFor, List.countP_cons]

/-! ## One step -/

/-- **A sweep that moves on without a new claim or status keeps the counts**, when it
has no more left to create and to enqueue than before. -/
theorem PublishInvariant.replace (inv : PublishInvariant s)
    (runs : s.sweeps = earlier ++ sweep :: later)
    (running' : s'.sweeps = earlier ++ sweep' :: later) (sameCreated : s'.created = s.created)
    (sameClaims : s'.claims = s.claims) (bounded : sweep'.Bounded s.claims)
    (open' : ∀ id, sweep'.openClaims s.claims id ≤ sweep.openClaims s.claims id)
    (waits : ∀ delivery id, enqueuedFor delivery id s'.outbox + sweep'.pendingCreates delivery id
      ≤ enqueuedFor delivery id s.outbox + sweep.pendingCreates delivery id) :
    PublishInvariant s' := by
  constructor
  · intro other mem
    rw [sameClaims]
    rw [running'] at mem
    rcases eq_or_mem_of_mem_replaced sweep mem with rfl | old
    · exact bounded
    · exact inv.bounded other (runs ▸ old)
  · intro id
    have single := inv.single id
    have fewer := open' id
    rw [runs, total_append, total_cons] at single
    rw [running', sameCreated, sameClaims, total_append, total_cons]
    omega
  · intro delivery id
    have hit := inv.matched delivery id
    have fewer := waits delivery id
    rw [runs, total_append, total_cons] at hit
    rw [running', sameCreated, total_append, total_cons]
    omega

/-- **A claim of a row without a status** is the only one that may create it. -/
theorem PublishInvariant.claim {nowIso : Nat} {queue : List DueScheduledStatus}
    (inv : PublishInvariant s)
    (runs : s.sweeps = earlier ++ ⟨nowIso, due :: queue, none⟩ :: later)
    (none' : createdFor due.id s.created = 0)
    (running' : s'.sweeps = earlier
      ++ ⟨nowIso, queue, some ⟨due, s.claims.count due.id + 1, .claimed⟩⟩ :: later)
    (sameCreated : s'.created = s.created) (sameOutbox : s'.outbox = s.outbox)
    (took : s'.claims = due.id :: s.claims) : PublishInvariant s' := by
  have boundedEarlier : ∀ other ∈ earlier, other.Bounded s.claims := fun other pre =>
    inv.bounded other (runs ▸ List.mem_append_left _ pre)
  have boundedLater : ∀ other ∈ later, other.Bounded s.claims := fun other behind =>
    inv.bounded other (runs ▸ List.mem_append_right _ (List.mem_cons_of_mem _ behind))
  constructor
  · intro other mem
    rw [took]
    rw [running'] at mem
    rcases eq_or_mem_of_mem_replaced ⟨nowIso, due :: queue, none⟩ mem with rfl | old
    · intro publication pub
      obtain rfl := Option.some.inj pub
      exact Nat.le_of_eq List.count_cons_self.symm
    · exact (inv.bounded other (runs ▸ old)).claimed
  · intro id
    rw [running', sameCreated, took, total_append, total_cons]
    by_cases isRow : due.id = id
    · subst isRow
      have closedEarlier : total (Sweep.openClaims (due.id :: s.claims) due.id) earlier = 0 :=
        total_eq_zero fun other pre => openClaims_cons_self (boundedEarlier other pre)
      have closedLater : total (Sweep.openClaims (due.id :: s.claims) due.id) later = 0 :=
        total_eq_zero fun other behind => openClaims_cons_self (boundedLater other behind)
      have own : Sweep.openClaims (due.id :: s.claims) due.id
          ⟨nowIso, queue, some ⟨due, s.claims.count due.id + 1, .claimed⟩⟩ ≤ 1 := by
        rw [openClaims_of_current rfl, Publication.openClaims]
        split <;> omega
      omega
    · have single := inv.single id
      rw [runs, total_append, total_cons] at single
      rw [openClaims_cons_of_ne isRow]
      have own : Sweep.openClaims s.claims id
          ⟨nowIso, queue, some ⟨due, s.claims.count due.id + 1, .claimed⟩⟩ = 0 :=
        if_neg fun ⟨sameRow, _⟩ => isRow sameRow
      omega
  · intro delivery id
    have hit := inv.matched delivery id
    have own : Sweep.pendingCreates delivery id
        ⟨nowIso, queue, some ⟨due, s.claims.count due.id + 1, .claimed⟩⟩ = 0 := by
      rw [pendingCreates_of_current rfl, Publication.pendingCreates]
      split <;> rfl
    rw [runs, total_append, total_cons] at hit
    rw [running', sameCreated, sameOutbox, total_append, total_cons]
    omega

/-- **An insert under the last claim of its row** uses up what the claim allowed. -/
theorem PublishInvariant.insertStatus {pendingMedia : List String} {statusId : String}
    (inv : PublishInvariant s) (runs : s.sweeps = earlier ++ sweep :: later)
    (pub : sweep.current = some publication)
    (got : publication.stage = .resolved pendingMedia)
    (latest : publication.ordinal = s.claims.count publication.due.id)
    (running' : s'.sweeps = earlier ++ sweep.atStage publication
      (.inserted statusId (createStatements pendingMedia publication.due.visibility)) :: later)
    (made : s'.created = ⟨statusId, publication.due.accountId, publication.due.textContent,
      publication.due.visibility, publication.due.id⟩ :: s.created)
    (outbox : s'.outbox = if fanOutWithInsert pendingMedia publication.due.visibility then
      ⟨statusId, .fanOut, publication.due.id⟩ :: s.outbox else s.outbox)
    (sameClaims : s'.claims = s.claims) : PublishInvariant s' := by
  have count : ∀ id, createdFor id s'.created
      = createdFor id s.created + if publication.due.id = id then 1 else 0 := by
    intro id
    simp [made, createdFor, List.countP_cons]
  constructor
  · intro other mem
    rw [sameClaims]
    rw [running'] at mem
    rcases eq_or_mem_of_mem_replaced sweep mem with rfl | old
    · intro publication' publishing'
      obtain rfl := Option.some.inj publishing'
      exact Nat.le_of_eq latest
    · exact inv.bounded other (runs ▸ old)
  · intro id
    have single := inv.single id
    have used : sweep.openClaims s.claims id = if publication.due.id = id then 1 else 0 := by
      rw [openClaims_of_current pub, Publication.openClaims]
      by_cases isRow : publication.due.id = id
      · subst isRow
        simp [got, PublishStage.beforeInsert, latest]
      · simp [isRow]
    have left : (sweep.atStage publication (.inserted statusId
        (createStatements pendingMedia publication.due.visibility))).openClaims s.claims id = 0 :=
      if_neg fun ⟨_, open', _⟩ => Bool.false_ne_true open'
    rw [runs, total_append, total_cons, used] at single
    rw [running', count, sameClaims, total_append, total_cons, left]
    omega
  · intro delivery id
    have hit := inv.matched delivery id
    have pre : sweep.pendingCreates delivery id = 0 := by
      rw [pendingCreates_of_current pub, Publication.pendingCreates, got]
      split <;> rfl
    have waits : (sweep.atStage publication (.inserted statusId
        (createStatements pendingMedia publication.due.visibility))).pendingCreates delivery id
          = if publication.due.id = id then
              (createStatements pendingMedia publication.due.visibility).count (.enqueue delivery)
            else 0 := rfl
    have queued : enqueuedFor delivery id s'.outbox = enqueuedFor delivery id s.outbox
        + if publication.due.id = id then
            if fanOutWithInsert pendingMedia publication.due.visibility = true
              ∧ delivery = .fanOut then 1 else 0
          else 0 := by
      rw [outbox]
      cases fanOutWithInsert pendingMedia publication.due.visibility <;> cases delivery <;>
        simp [enqueuedFor, List.countP_cons]
    have once := createStatements_enqueue pendingMedia publication.due.visibility delivery
    rw [runs, total_append, total_cons, pre] at hit
    rw [running', count, queued, total_append, total_cons, waits]
    by_cases isRow : publication.due.id = id
    · rw [if_pos isRow, if_pos isRow, if_pos isRow]
      omega
    · rw [if_neg isRow, if_neg isRow, if_neg isRow]
      omega

theorem PublishInvariant.step (inv : PublishInvariant s) (cond : ClaimsCurrent s event)
    (step : ScheduleStep s event s') : PublishInvariant s' := by
  cases step with
  | tick | schedule | updateTime | unschedule | writeMedia =>
    exact ⟨inv.bounded, inv.single, inv.matched⟩
  | startSweep =>
    refine ⟨?_, fun id => ?_, fun delivery id => ?_⟩
    · intro other mem
      rcases List.mem_cons.mp mem with rfl | old
      · exact bounded_idle _ _
      · exact inv.bounded other old
    · rw [total_cons]
      exact (Nat.zero_add _).symm ▸ inv.single id
    · rw [total_cons]
      exact (Nat.zero_add _).symm ▸ inv.matched delivery id
  | claim runs => exact inv.claim runs (cond _ _ rfl) rfl rfl rfl rfl
  | skip runs =>
    exact inv.replace runs rfl rfl rfl (bounded_idle _ _) (fun _ => Nat.le_refl _)
      (fun _ _ => Nat.le_refl _)
  | @resolve sweep publication pendingMedia earlier later runs pub took =>
    refine inv.replace runs rfl rfl rfl ?_ (fun id => ?_) (fun delivery id => ?_)
    · intro publication' publishing'
      obtain rfl := Option.some.inj publishing'
      exact inv.bounded sweep (runs ▸ List.mem_append_right _ (List.mem_cons_self ..))
        publication pub
    · rw [openClaims_of_current pub, openClaims_of_current rfl]
      simp [Publication.openClaims, took, PublishStage.beforeInsert]
    · rw [pendingCreates_of_current pub, pendingCreates_of_current rfl]
      simp [Publication.pendingCreates, PublishStage.remaining]
  | insertStatus runs pub got =>
    exact inv.insertStatus runs pub got (cond _ pub) rfl rfl rfl rfl
  | @runStatement sweep publication statusId stmt left earlier later ran runs
      pub next succeeds =>
      obtain ⟨sameCreated, sameClaims, queued⟩ := CreateStatement.run_some succeeds
      refine inv.replace runs rfl sameCreated sameClaims ?_ (fun id => ?_) (fun delivery id => ?_)
      · intro publication' publishing'
        obtain rfl := Option.some.inj publishing'
        exact inv.bounded sweep (runs ▸ List.mem_append_right _ (List.mem_cons_self ..))
          publication pub
      · rw [openClaims_of_current rfl]
        simp [Publication.openClaims, PublishStage.beforeInsert]
      · rw [pendingCreates_of_current pub, pendingCreates_of_current rfl, queued]
        by_cases isRow : publication.due.id = id
        · simp only [Publication.pendingCreates, isRow, next, PublishStage.remaining,
            List.count_cons, true_and, if_true, beq_iff_eq]
          omega
        · simp [Publication.pendingCreates, isRow]
  | deleteScheduled runs | giveUp runs =>
    exact inv.replace runs rfl rfl rfl (bounded_idle _ _) (fun _ => Nat.zero_le _)
      (fun _ _ => Nat.add_le_add_left (Nat.zero_le _) _)

end OneStep

/-- **At most one status for a scheduled row**, with each of its deliveries enqueued
at most once, in every run in which rows are claimed only without a status and
statuses are inserted only under the last claim. -/
theorem at_most_one_status {trace : List (Transition ScheduleState ScheduleEvent)}
    {s : ScheduleState} (run : ScheduleRun trace s) (met : Along ClaimsCurrent trace) :
    AtMostOneStatus s := by
  have inv : PublishInvariant s :=
    run.invariant PublishInvariant.initial (fun holds cond step => holds.step cond step) met
  exact inv.atMostOneStatus

/-! ## A sweep that fails after the insert -/

def helloRow (claimedAt : Option Nat) : ScheduledStatus where
  id := "d"
  accountId := "alice"
  textContent := "hello"
  visibility := .publicPost
  mediaIds := []
  applicationId := none
  scheduledAt := ⟨0, 0⟩
  claimedAt := claimedAt

def helloSweep (nowIso ordinal : Nat) (stage : PublishStage) : Sweep where
  nowIso := nowIso
  queue := []
  current := some ⟨(helloRow none).due, ordinal, stage⟩

/-- The row is stored, these sweeps run, and the statuses of these ids have been
created. -/
def helloState (now : Nat) (claimedAt : Option Nat) (sweeps : List Sweep)
    (statusIds claims : List String) : ScheduleState where
  now := now
  scheduled := Table.singleton (helloRow claimedAt)
  media := Table.empty
  sweeps := sweeps
  created := statusIds.map fun statusId => ⟨statusId, "alice", "hello", .publicPost, "d"⟩
  outbox := statusIds.map fun statusId => ⟨statusId, .fanOut, "d"⟩
  claims := claims

def helloInserted (statusId : String) : PublishStage :=
  .inserted statusId [.enqueue .targeted, .saveDetails]

/-- The first sweep has inserted a status. -/
def publishedOnce : ScheduleState :=
  helloState 0 (some 0) [helloSweep 0 1 (helloInserted "s1")] ["s1"] ["d"]

/-- It has given up, and a second sweep has inserted another one. -/
def publishedTwice : ScheduleState :=
  helloState 300 (some 300) [helloSweep 300 2 (helloInserted "s2"), ⟨0, [], none⟩] ["s2", "s1"]
    ["d", "d"]

theorem publishedOnce_reachable :
    ∃ trace, ScheduleRun trace publishedOnce ∧ Along ClaimsCurrent trace := by
  have scheduled : ScheduleStep ScheduleState.initial (.schedule (helloRow none))
      (helloState 0 none [] [] []) :=
    ScheduleStep.schedule _ rfl rfl
  have started : ScheduleStep (helloState 0 none [] [] []) (.startSweep 32 [helloRow none])
      (helloState 0 none [⟨0, [(helloRow none).due], none⟩] [] []) :=
    ScheduleStep.startSweep _ (Selection.singleton (by decide))
  have listed : (helloState 0 none [⟨0, [(helloRow none).due], none⟩] [] []).sweeps
      = [] ++ ⟨0, [(helloRow none).due], none⟩ :: [] := rfl
  have took : ScheduleStep (helloState 0 none [⟨0, [(helloRow none).due], none⟩] [] [])
      (.claim ⟨0, [(helloRow none).due], none⟩)
      (helloState 0 (some 0) [helloSweep 0 1 .claimed] [] ["d"]) :=
    ScheduleStep.claim _ listed (by decide)
  have claiming : (helloState 0 (some 0) [helloSweep 0 1 .claimed] [] ["d"]).sweeps
      = [] ++ helloSweep 0 1 .claimed :: [] := rfl
  have got : ScheduleStep (helloState 0 (some 0) [helloSweep 0 1 .claimed] [] ["d"])
      (.resolve (helloSweep 0 1 .claimed))
      (helloState 0 (some 0) [helloSweep 0 1 (.resolved [])] [] ["d"]) :=
    ScheduleStep.resolve _ claiming rfl rfl rfl
  have inserting : (helloState 0 (some 0) [helloSweep 0 1 (.resolved [])] [] ["d"]).sweeps
      = [] ++ helloSweep 0 1 (.resolved []) :: [] := rfl
  have added : ScheduleStep (helloState 0 (some 0) [helloSweep 0 1 (.resolved [])] [] ["d"])
      (.insertStatus (helloSweep 0 1 (.resolved [])) "s1") publishedOnce :=
    ScheduleStep.insertStatus _ inserting rfl rfl (by decide)
  refine ⟨_, ((((Run.start.snoc scheduled).snoc started).snoc took).snoc got).snoc added, ?_⟩
  simp only [Along.snoc_iff]
  refine ⟨⟨⟨⟨⟨Along.nil, trivial⟩, trivial⟩, fun _ _ _ => rfl⟩, trivial⟩, ?_⟩
  intro publication pub
  obtain rfl := Option.some.inj pub
  rfl

/-- The law at the run of one sweep. -/
theorem at_most_one_status_publishedOnce : AtMostOneStatus publishedOnce := by
  obtain ⟨_, run, met⟩ := publishedOnce_reachable
  exact at_most_one_status run met

theorem publishedTwice_reachable : ∃ trace, ScheduleRun trace publishedTwice := by
  obtain ⟨_, run, _⟩ := publishedOnce_reachable
  have pub : publishedOnce.sweeps = [] ++ helloSweep 0 1 (helloInserted "s1") :: [] := rfl
  have gaveUp : ScheduleStep publishedOnce (.giveUp (helloSweep 0 1 (helloInserted "s1")))
      (helloState 0 (some 0) [⟨0, [], none⟩] ["s1"] ["d"]) :=
    ScheduleStep.giveUp _ pub (by decide)
  have started : ScheduleStep (helloState 300 (some 0) [⟨0, [], none⟩] ["s1"] ["d"])
      (.startSweep 32 [helloRow (some 0)])
      (helloState 300 (some 0) [⟨300, [(helloRow none).due], none⟩, ⟨0, [], none⟩] ["s1"] ["d"]) :=
    ScheduleStep.startSweep _ (Selection.singleton (by decide))
  have listed : (helloState 300 (some 0) [⟨300, [(helloRow none).due], none⟩, ⟨0, [], none⟩] ["s1"]
      ["d"]).sweeps = [] ++ ⟨300, [(helloRow none).due], none⟩ :: [⟨0, [], none⟩] := rfl
  have took : ScheduleStep
      (helloState 300 (some 0) [⟨300, [(helloRow none).due], none⟩, ⟨0, [], none⟩] ["s1"] ["d"])
      (.claim ⟨300, [(helloRow none).due], none⟩)
      (helloState 300 (some 300) [helloSweep 300 2 .claimed, ⟨0, [], none⟩] ["s1"] ["d", "d"]) :=
    ScheduleStep.claim _ listed (by decide)
  have claiming : (helloState 300 (some 300) [helloSweep 300 2 .claimed, ⟨0, [], none⟩] ["s1"]
      ["d", "d"]).sweeps = [] ++ helloSweep 300 2 .claimed :: [⟨0, [], none⟩] := rfl
  have got : ScheduleStep
      (helloState 300 (some 300) [helloSweep 300 2 .claimed, ⟨0, [], none⟩] ["s1"] ["d", "d"])
      (.resolve (helloSweep 300 2 .claimed))
      (helloState 300 (some 300) [helloSweep 300 2 (.resolved []), ⟨0, [], none⟩] ["s1"]
        ["d", "d"]) :=
    ScheduleStep.resolve _ claiming rfl rfl rfl
  have inserting : (helloState 300 (some 300) [helloSweep 300 2 (.resolved []), ⟨0, [], none⟩]
      ["s1"] ["d", "d"]).sweeps = [] ++ helloSweep 300 2 (.resolved []) :: [⟨0, [], none⟩] := rfl
  have added : ScheduleStep
      (helloState 300 (some 300) [helloSweep 300 2 (.resolved []), ⟨0, [], none⟩] ["s1"] ["d", "d"])
      (.insertStatus (helloSweep 300 2 (.resolved [])) "s2") publishedTwice :=
    ScheduleStep.insertStatus _ inserting rfl rfl (by decide)
  exact ⟨_, (((((run.snoc gaveUp).snoc (ScheduleStep.tick _ 300)).snoc started).snoc took).snoc
    got).snoc added⟩

/-- **A sweep that fails after the insert is followed by a second status**, with a
second fan-out. -/
theorem failed_sweep_publishes_twice : ¬ ∀ trace s, ScheduleRun trace s → AtMostOneStatus s := by
  intro took
  obtain ⟨trace, run⟩ := publishedTwice_reachable
  have single := (took trace publishedTwice run "d").1
  exact absurd single (by decide)

end Cfwdon.ScheduledStatuses
