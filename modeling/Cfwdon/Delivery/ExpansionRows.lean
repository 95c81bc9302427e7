import Cfwdon.Delivery.Workers

/-!
# The rows of an expansion

Target rows are inserted under a unique index on activity and target, so a retry
never doubles them.  Parent rows have a null target, which the index does not
compare; each executed parent insert adds one.  A parent is marked expanded by
the last statement of an expansion, after all its inserts.

* `targets_unique` -- at most one row per activity and target inbox;
* `parentRows_length` -- as many parent rows of an activity as executed parent
  inserts;
* `expandedTargets_have_rows` -- once an expansion has marked its parents, every
  target inbox it resolved for them has a row, and a row is in state expanded
  only by such a mark.

`outboxRows_of_enqueues_and_expansions` puts the three together over all runs.
-/

namespace Cfwdon.Delivery

open Library

/-- The columns that say what is delivered, by whom and where to. -/
def OutboxDelivery.address (row : OutboxDelivery) : String × String × Option String :=
  (row.accountId, row.activityId, row.targetInbox)

theorem Event.address_onRow (event : Event) (now : Nat) (row : OutboxDelivery) :
    (event.onRow now row).address = row.address := by
  have kept : ∀ update : Update OutboxDelivery OutboxDelivery.id,
      (update.set row).address = row.address → (update.onRow row).address = row.address := by
    intro update setKeeps
    rcases update.onRow_cases row with ⟨_, changed⟩ | eq
    · rw [changed, setKeeps]
    · rw [eq]
  cases event with
  | fanOut stmt ids =>
    cases stmt with
    | completeWithoutTargets deliveryIds | markExpanded deliveries => exact kept _ rfl
    | insertTargets chunk => rfl
  | claimGeneric chosen | claimTarget chosen | markDelivered delivery
  | markTerminalFailure delivery | reschedule delivery | requeueStale
  | cancelForInbox accountId targetInbox => exact kept _ rfl
  | tick seconds | enqueueGeneric | enqueueTargeted | resolveTargets => rfl

/-! ## Stored addresses -/

def HasTargetRow (outbox : OutboxDeliveries) (activityId target : String) : Prop :=
  ∃ id row, outbox.find id = some row ∧ row.activityId = activityId ∧ row.targetInbox = some target

/-- The worker's copy agrees with the stored row about what is delivered. -/
def CopyOf (outbox : OutboxDeliveries) (delivery : OutboxDeliveryRow) : Prop :=
  ∃ row, outbox.find delivery.id = some row ∧ row.activityId = delivery.activityId
    ∧ row.accountId = delivery.accountId

variable {delivery : OutboxDeliveryRow} {update : Update OutboxDelivery OutboxDelivery.id}
  {now : Nat} {chunk : List (OutboxDeliveryRow × String)} {ids : List String}
  {deliveries : List OutboxDeliveryRow} {fanOut : FanOut}

section Persistence

variable {s s' : State} {event : Event}

theorem Step.exists_address {id : String} {row : OutboxDelivery} (step : Step s event s')
    (got : s.outbox.find id = some row) :
    ∃ row', s'.outbox.find id = some row' ∧ row'.accountId = row.accountId
      ∧ row'.activityId = row.activityId ∧ row'.targetInbox = row.targetInbox := by
  have eq := event.address_onRow s.now row
  simp only [OutboxDelivery.address, Prod.mk.injEq] at eq
  exact ⟨_, step.find_some got, eq⟩

theorem HasTargetRow.step {activityId target : String} (here : HasTargetRow s.outbox activityId
    target) (step : Step s event s') : HasTargetRow s'.outbox activityId target := by
  obtain ⟨id, row, got, rfl, isTarget⟩ := here
  obtain ⟨row', got', _, sameAct, sameTarget⟩ := step.exists_address got
  exact ⟨id, row', got', sameAct, sameTarget.trans isTarget⟩

theorem CopyOf.step (copy : CopyOf s.outbox delivery)
    (step : Step s event s') : CopyOf s'.outbox delivery := by
  obtain ⟨row, got, sameAct, sameAccount⟩ := copy
  obtain ⟨row', got', account, act, _⟩ := step.exists_address got
  exact ⟨row', got', act.trans sameAct, account.trans sameAccount⟩

end Persistence

/-! ## Unique targets -/

/-- No two rows deliver one activity to one inbox. -/
def TargetsUnique (outbox : OutboxDeliveries) : Prop :=
  ∀ row ∈ outbox.rows, ∀ row' ∈ outbox.rows, row.activityId = row'.activityId →
    row.targetInbox = row'.targetInbox → row.targetInbox.isSome = true → row = row'

variable {outbox : OutboxDeliveries} {activityId : String}

theorem TargetsUnique.run
    (unique : TargetsUnique outbox) (kept : ∀ row, (update.set row).address = row.address) :
    TargetsUnique (update.run outbox) := by
  have sameAddress : ∀ row, (update.onRow row).address = row.address := by
    intro row
    rcases update.onRow_cases row with ⟨_, changed⟩ | eq
    · rw [changed, kept]
    · rw [eq]
  simp only [OutboxDelivery.address, Prod.mk.injEq] at sameAddress
  intro row mem row' mem' sameAct sameTarget isTarget
  obtain ⟨prior, held, rfl⟩ := List.mem_map.mp mem
  obtain ⟨earlier', held', rfl⟩ := List.mem_map.mp mem'
  simp only [sameAddress] at sameAct sameTarget isTarget
  rw [unique prior held earlier' held' sameAct sameTarget isTarget]

theorem TargetsUnique.append {row : OutboxDelivery} (unique : TargetsUnique outbox)
    (fresh : row.id ∉ outbox.rows.map OutboxDelivery.id)
    (alone : ∀ held ∈ outbox.rows, row.activityId = held.activityId →
      row.targetInbox = held.targetInbox → row.targetInbox.isSome = true → False) :
    TargetsUnique (outbox.append row fresh) := by
  intro first mem second mem' sameAct sameTarget isTarget
  rcases List.mem_append.mp mem with old | isNew <;>
    rcases List.mem_append.mp mem' with old' | isNew'
  · exact unique first old second old' sameAct sameTarget isTarget
  · rw [List.mem_singleton] at isNew'
    subst isNew'
    exact (alone first old sameAct.symm sameTarget.symm (sameTarget ▸ isTarget)).elim
  · rw [List.mem_singleton] at isNew
    subst isNew
    exact (alone second old' sameAct sameTarget isTarget).elim
  · rw [List.mem_singleton] at isNew isNew'
    rw [isNew, isNew']

theorem TargetsUnique.insertOrIgnore (row : OutboxDelivery) (unique : TargetsUnique outbox) :
    TargetsUnique (outbox.insertOrIgnore conflictsOnActivityTarget row) := by
  obtain ⟨eq, _⟩ | ⟨fresh, added, noConflict⟩ :=
    Table.orIgnore_cases conflictsOnActivityTarget row outbox
  · rw [eq]
    exact unique
  · rw [added]
    refine unique.append fresh fun held mem sameAct sameTarget isTarget => ?_
    have conflict : conflictsOnActivityTarget row held = true := by
      simp [conflictsOnActivityTarget, sameAct, ← sameTarget, isTarget]
    have someConflict : outbox.exists? (conflictsOnActivityTarget row) = true :=
      List.any_eq_true.mpr ⟨held, mem, conflict⟩
    rw [someConflict] at noConflict
    cases noConflict

theorem TargetsUnique.insertAllOrIgnore (values : List OutboxDelivery)
    (unique : TargetsUnique outbox) :
    TargetsUnique (insertOrIgnoreOutboxDeliveries values outbox) := by
  unfold insertOrIgnoreOutboxDeliveries
  induction values generalizing outbox with
  | nil => exact unique
  | cons row rest ih => exact ih (unique.insertOrIgnore row)

theorem TargetsUnique.insert {row : OutboxDelivery} (unique : TargetsUnique outbox)
    (parent : row.targetInbox = none) :
    TargetsUnique (outbox.insert row) := by
  obtain ⟨eq, _⟩ | ⟨fresh, added, _⟩ :=
    Table.orIgnore_cases (fun _ _ => false) row outbox
  · rw [Table.insert, eq]
    exact unique
  · rw [Table.insert, added]
    refine unique.append fresh fun held _ _ _ isTarget => ?_
    rw [parent] at isTarget
    cases isTarget

theorem TargetsUnique.step {s s' : State} {event : Event} (unique : TargetsUnique s.outbox)
    (step : Step s event s') : TargetsUnique s'.outbox := by
  cases step with
  | tick | resolveTargets => exact unique
  | enqueueGeneric => exact unique.insert rfl
  | enqueueTargeted => exact unique.insertAllOrIgnore _
  | @fanOut stmt =>
    cases stmt with
    | completeWithoutTargets deliveryIds | markExpanded deliveries =>
      exact unique.run fun _ => rfl
    | insertTargets chunk => exact unique.insertAllOrIgnore _
  | claimGeneric | claimTarget | markDelivered | markTerminalFailure
  | reschedule | requeueStale | cancelForInbox => exact unique.run fun _ => rfl

/-! ## Parent rows -/

def isParentOf (activityId : String) (row : OutboxDelivery) : Bool :=
  row.activityId == activityId && row.targetInbox.isNone

def parentRows (outbox : OutboxDeliveries) (activityId : String) : Nat :=
  outbox.rows.countP (isParentOf activityId)

def Event.isParentInsert (activityId : String) : Event → Bool
  | .enqueueGeneric _ _ _ inserted _ _ => inserted == activityId
  | _ => false

def parentInserts (activityId : String) (trace : List (Transition State Event)) : Nat :=
  trace.countP fun transition => transition.event.isParentInsert activityId

theorem parentRows_run
    (kept : ∀ row, (update.set row).address = row.address) :
    parentRows (update.run outbox) activityId = parentRows outbox activityId := by
  have sameParent : ∀ row, isParentOf activityId (update.onRow row) = isParentOf activityId row := by
    intro row
    rcases update.onRow_cases row with ⟨_, changed⟩ | eq
    · have eq := kept row
      simp only [OutboxDelivery.address, Prod.mk.injEq] at eq
      rw [changed, isParentOf, isParentOf, eq.2.1, eq.2.2]
    · rw [eq]
  simp only [parentRows, Update.run, List.countP_map, Function.comp_def, sameParent]

theorem parentRows_orIgnore {clash : OutboxDelivery → OutboxDelivery → Bool}
    {row : OutboxDelivery} (child : row.targetInbox.isSome = true) :
    parentRows (outbox.insertOrIgnore clash row) activityId = parentRows outbox activityId := by
  obtain ⟨eq, _⟩ | ⟨fresh, added, _⟩ := Table.orIgnore_cases clash row outbox
  · rw [eq]
  · rw [added]
    simp [parentRows, Table.append, isParentOf, Option.isNone_eq_false_iff.mpr child]

theorem parentRows_insertAll {values : List OutboxDelivery}
    (children : ∀ row ∈ values, row.targetInbox.isSome = true) :
    parentRows (insertOrIgnoreOutboxDeliveries values outbox) activityId
      = parentRows outbox activityId := by
  unfold insertOrIgnoreOutboxDeliveries
  induction values generalizing outbox with
  | nil => rfl
  | cons row rest ih =>
    have others := fun other mem => children other (List.mem_cons_of_mem row mem)
    exact (ih others).trans (parentRows_orIgnore (children row (List.mem_cons_self ..)))

theorem isSome_target_of_mem_targetedOutboxRows {accountId : String}
    {statusId : Option String} {activityType payload : String} {targetInboxes ids : List String} :
    
    ∀ row ∈ targetedOutboxRows now accountId statusId activityId activityType payload
      targetInboxes ids, row.targetInbox.isSome = true := by
  intro row mem
  obtain ⟨⟨id, inbox⟩, _, rfl⟩ := List.mem_map.mp mem
  rfl

theorem isSome_target_of_mem_expandedOutboxRows
    :
    ∀ row ∈ expandedOutboxRows now chunk ids, row.targetInbox.isSome = true := by
  intro row mem
  obtain ⟨⟨id, delivery, target⟩, _, rfl⟩ := List.mem_map.mp mem
  rfl

theorem Step.parentRows_eq {s s' : State} {event : Event} (step : Step s event s')
    (activityId : String) :
    parentRows s'.outbox activityId = parentRows s.outbox activityId
      + if event.isParentInsert activityId then 1 else 0 := by
  cases step with
  | tick | resolveTargets => rfl
  | @enqueueGeneric id accountId statusId added activityType payload fresh =>
    obtain ⟨_, used | conflict⟩ | ⟨unused, appended, _⟩ :=
      Table.orIgnore_cases (fun _ _ => false)
        (queuedOutboxDelivery s.now id accountId (some statusId) added activityType none
          payload) s.outbox
    · have here := Table.find_isSome_iff.mpr used
      simp [queuedOutboxDelivery, fresh] at here
    · simp [Table.exists?] at conflict
    · simp only [Table.insert, appended]
      simp [parentRows, Table.append, isParentOf, queuedOutboxDelivery, Event.isParentInsert,
        List.countP_append, List.countP_singleton]
  | enqueueTargeted => exact parentRows_insertAll isSome_target_of_mem_targetedOutboxRows
  | @fanOut stmt =>
    cases stmt with
    | completeWithoutTargets deliveryIds | markExpanded deliveries =>
      exact parentRows_run fun _ => rfl
    | insertTargets chunk =>
      exact parentRows_insertAll isSome_target_of_mem_expandedOutboxRows
  | claimGeneric | claimTarget | markDelivered | markTerminalFailure
  | reschedule | requeueStale | cancelForInbox => exact parentRows_run fun _ => rfl

/-- **As many parent rows as parent inserts.** -/
theorem parentRows_eq_parentInserts {trace : List (Transition State Event)} {s : State}
    (run : OutboxRun trace s) (activityId : String) :
    parentRows s.outbox activityId = parentInserts activityId trace := by
  induction run with
  | start => rfl
  | snoc _ step ih =>
    rw [step.parentRows_eq, ih, parentInserts, parentInserts,
      List.countP_append, List.countP_singleton]

/-! ## Expansions -/

/-- What a run of the workers guarantees about their expansions. -/
structure ExpansionInvariant (s : State) : Prop where
  claimedCopies : ∀ deliveries ∈ s.claimedGeneric, ∀ delivery ∈ deliveries, CopyOf s.outbox delivery
  fanOutCopies : ∀ fanOut ∈ s.fanOuts, ∀ delivery ∈ fanOut.deliveries, CopyOf s.outbox delivery
  inserted : ∀ fanOut ∈ s.fanOuts, ∀ chunk, .insertTargets chunk ∈ fanOut.executed →
    ∀ pair ∈ chunk, HasTargetRow s.outbox pair.1.activityId pair.2
  marked : ∀ id row, s.outbox.find id = some row → row.state = .expanded →
    ∃ fanOut ∈ s.fanOuts, ∃ deliveries, .markExpanded deliveries ∈ fanOut.executed
      ∧ id ∈ deliveries.map OutboxDeliveryRow.id

theorem ExpansionInvariant.initial : ExpansionInvariant State.initial where
  claimedCopies := fun _ mem => by simp [State.initial] at mem
  fanOutCopies := fun _ mem => by simp [State.initial] at mem
  inserted := fun _ mem => by simp [State.initial] at mem
  marked := fun _ _ got => by simp [State.initial] at got

section OneStep

variable {s s' : State} {event : Event} {id : String} {row : OutboxDelivery}

theorem Step.expanded_cases (step : Step s event s') (got : s'.outbox.find id = some row)
    (expanded : row.state = .expanded) :
    (∃ prior, s.outbox.find id = some prior ∧ prior.state = .expanded)
      ∨ ∃ deliveries ids, event = .fanOut (.markExpanded deliveries) ids
          ∧ id ∈ deliveries.map OutboxDeliveryRow.id := by
  cases pre : s.outbox.find id with
  | none =>
    obtain ⟨queued, _⟩ := step.find_none pre got
    rw [queued] at expanded
    cases expanded
  | some prior =>
    rw [step.find_some pre, Option.some.injEq] at got
    subst got
    have isId : prior.id = id := Table.key_of_find pre
    have unmoved : ∀ (update : Update OutboxDelivery OutboxDelivery.id) (wrote : OutboxState),
        (update.onRow prior).state = .expanded → (update.set prior).state = wrote →
          wrote ≠ .expanded → prior.state = .expanded := by
      intro update wrote isExpanded isWritten otherwise
      rcases update.onRow_cases prior with ⟨_, changed⟩ | eq
      · rw [changed, isWritten] at isExpanded
        exact absurd isExpanded otherwise
      · rwa [eq] at isExpanded
    cases event with
    | fanOut stmt ids =>
      cases stmt with
      | completeWithoutTargets deliveryIds =>
        exact Or.inl ⟨prior, rfl, unmoved _ .delivered expanded rfl (by decide)⟩
      | insertTargets chunk => exact Or.inl ⟨prior, rfl, expanded⟩
      | markExpanded deliveries =>
        by_cases named : id ∈ deliveries.map OutboxDeliveryRow.id
        · exact Or.inr ⟨deliveries, ids, rfl, named⟩
        · refine Or.inl ⟨prior, rfl, ?_⟩
          have unmet : (markOutboxDeliveriesExpanded
              (deliveries.map OutboxDeliveryRow.id)).guard prior = false := by
            simpa [markOutboxDeliveriesExpanded, isId] using fun d mem eq =>
              absurd (List.mem_map.mpr ⟨d, mem, eq⟩) named
          simpa only [Event.onRow, GenericStatement.onRow,
            Update.onRow_of_not_guard unmet] using expanded
    | claimGeneric chosen | claimTarget chosen =>
      exact Or.inl ⟨prior, rfl, unmoved _ .inFlight expanded rfl (by decide)⟩
    | markDelivered delivery => exact Or.inl ⟨prior, rfl, unmoved _ .delivered expanded rfl (by decide)⟩
    | markTerminalFailure delivery => exact Or.inl ⟨prior, rfl, unmoved _ .failed expanded rfl (by decide)⟩
    | reschedule delivery => exact Or.inl ⟨prior, rfl, unmoved _ .queued expanded rfl (by decide)⟩
    | cancelForInbox accountId targetInbox =>
      exact Or.inl ⟨prior, rfl, unmoved _ .failed expanded rfl (by decide)⟩
    | requeueStale =>
      refine Or.inl ⟨prior, rfl, unmoved _ _ expanded rfl ?_⟩
      simp only [requeueStaleInFlightOutboxDeliveries]
      split_ifs <;> decide
    | tick seconds | enqueueGeneric | enqueueTargeted | resolveTargets =>
      exact Or.inl ⟨prior, rfl, expanded⟩

theorem Step.fanOut_stays (step : Step s event s')
    (mem : fanOut ∈ s.fanOuts) :
    ∃ fanOut' ∈ s'.fanOuts, fanOut'.deliveries = fanOut.deliveries
      ∧ ∀ stmt ∈ fanOut.executed, stmt ∈ fanOut'.executed := by
  cases step with
  | resolveTargets => exact ⟨fanOut, List.mem_cons_of_mem _ mem, rfl, fun _ => id⟩
  | @fanOut stmt ids advanced prior later left runs next fresh =>
    rw [runs] at mem
    rcases List.mem_append.mp mem with pre | here
    · exact ⟨fanOut, List.mem_append_left _ pre, rfl, fun _ => id⟩
    · rcases List.mem_cons.mp here with rfl | post
      · exact ⟨fanOut.advance stmt left next,
          List.mem_append_right _ (List.mem_cons_self ..), rfl,
          fun _ => List.mem_append_left _⟩
      · exact ⟨fanOut, List.mem_append_right _ (List.mem_cons_of_mem _ post), rfl, fun _ => id⟩
  | _ => exact ⟨fanOut, mem, rfl, fun _ => id⟩

theorem Step.fanOut_origin (step : Step s event s')
    (mem : fanOut ∈ s'.fanOuts) :
    fanOut ∈ s.fanOuts
      ∨ (fanOut.deliveries ∈ s.claimedGeneric ∧ fanOut.executed = [])
      ∨ ∃ prior ∈ s.fanOuts, ∃ stmt ids, event = .fanOut stmt ids
          ∧ fanOut.deliveries = prior.deliveries
          ∧ fanOut.executed = prior.executed ++ [stmt] := by
  cases step with
  | resolveTargets targetsByAccount took =>
    rcases List.mem_cons.mp mem with rfl | old
    · refine Or.inr (Or.inl ⟨?_, rfl⟩)
      rw [took]
      exact List.mem_append_right _ (List.mem_cons_self ..)
    · exact Or.inl old
  | @fanOut stmt ids advanced prior later left runs next fresh =>
    rw [runs]
    rcases eq_or_mem_of_mem_replaced advanced mem with rfl | old
    · exact Or.inr (Or.inr ⟨advanced, List.mem_append_right _ (List.mem_cons_self ..),
        stmt, ids, rfl, rfl, rfl⟩)
    · exact Or.inl old
  | _ => exact Or.inl mem

theorem Step.claimed_origin (step : Step s event s')
    (mem : deliveries ∈ s'.claimedGeneric) :
    deliveries ∈ s.claimedGeneric ∨ ∀ delivery ∈ deliveries, CopyOf s.outbox delivery := by
  cases step with
  | @claimGeneric chosen sel =>
    rcases List.mem_cons.mp mem with rfl | old
    · refine Or.inr fun delivery isCopy => ?_
      obtain ⟨row, chosenRow, rfl⟩ := List.mem_map.mp isCopy
      have held := List.mem_of_mem_filter (sel.subset row chosenRow)
      exact ⟨row, Table.find_of_mem held, rfl, rfl⟩
    · exact Or.inl old
  | resolveTargets targetsByAccount took =>
    exact Or.inl (took ▸ mem_of_mem_taken_out mem)
  | _ => exact Or.inl mem

theorem map_id_expandedOutboxRows
    (enough : ids.length = chunk.length) :
    (expandedOutboxRows now chunk ids).map OutboxDelivery.id = ids := by
  rw [expandedOutboxRows, List.map_map]
  exact List.map_fst_zip (Nat.le_of_eq enough)

/-- **A chunk is inserted whole**: after its statement every pair has a row. -/
theorem Step.hasTargetRow_of_insertTargets
    (step : Step s (.fanOut (.insertTargets chunk) ids) s')
    {pair : OutboxDeliveryRow × String} (mem : pair ∈ chunk) :
    HasTargetRow s'.outbox pair.1.activityId pair.2 := by
  cases step with
  | fanOut runs next fresh =>
    obtain ⟨enough, nodup, unused⟩ := fresh
    have sameIds : (expandedOutboxRows s.now chunk ids).map OutboxDelivery.id = ids :=
      map_id_expandedOutboxRows enough
    have distinctKeys : ((expandedOutboxRows s.now chunk ids).map OutboxDelivery.id).Nodup := by
      rw [sameIds]
      exact nodup
    have inZip : pair ∈ (ids.zip chunk).map Prod.snd := by
      rw [List.map_snd_zip (Nat.le_of_eq enough.symm)]
      exact mem
    obtain ⟨⟨id, _⟩, zipped, rfl⟩ := List.mem_map.mp inZip
    have value : _ ∈ expandedOutboxRows s.now chunk ids :=
      List.mem_map_of_mem zipped
    have freshKeys : ∀ value ∈ expandedOutboxRows s.now chunk ids,
        s.outbox.find value.id = none := by
      intro value valueMember
      have drawn : value.id ∈ ids := by
        rw [← sameIds]
        exact List.mem_map_of_mem valueMember
      exact unused _ drawn
    have kept : _ ∨ ∃ held ∈ (insertOrIgnoreOutboxDeliveries _ s.outbox).rows,
        conflictsOnActivityTarget _ held = true :=
      Table.mem_or_conflict_insertAll distinctKeys freshKeys value
    rcases kept with held | ⟨held, storedMember, conflict⟩
    · exact ⟨_, _, Table.find_of_mem held, rfl, rfl⟩
    · simp only [conflictsOnActivityTarget, Bool.and_eq_true, beq_iff_eq] at conflict
      exact ⟨_, _, Table.find_of_mem storedMember, conflict.1.1.symm, conflict.2.symm⟩

end OneStep

/-- **The expansion invariant is preserved** by every step. -/
theorem ExpansionInvariant.step {s s' : State} {event : Event} (inv : ExpansionInvariant s)
    (step : Step s event s') : ExpansionInvariant s' where
  claimedCopies := by
    intro deliveries mem delivery isCopy
    rcases step.claimed_origin mem with old | copies
    · exact (inv.claimedCopies deliveries old delivery isCopy).step step
    · exact (copies delivery isCopy).step step
  fanOutCopies := by
    intro fanOut mem delivery isCopy
    rcases step.fanOut_origin mem with old | ⟨took, _⟩ | ⟨prior, old, _, _, _, eq, _⟩
    · exact (inv.fanOutCopies fanOut old delivery isCopy).step step
    · exact (inv.claimedCopies _ took delivery isCopy).step step
    · exact (inv.fanOutCopies prior old delivery (eq ▸ isCopy)).step step
  inserted := by
    intro fanOut mem chunk executed pair inChunk
    rcases step.fanOut_origin mem with
      old | ⟨_, nothing⟩ | ⟨prior, old, stmt, ids, isStatement, _, grown⟩
    · exact (inv.inserted fanOut old chunk executed pair inChunk).step step
    · rw [nothing] at executed
      cases executed
    · rw [grown] at executed
      rcases List.mem_append.mp executed with pre | last
      · exact (inv.inserted prior old chunk pre pair inChunk).step step
      · rw [List.mem_singleton] at last
        subst isStatement last
        exact step.hasTargetRow_of_insertTargets inChunk
  marked := by
    intro id row got expanded
    rcases step.expanded_cases got expanded with
      ⟨prior, foundEarlier, wasExpanded⟩ | ⟨deliveries, ids, isMark, named⟩
    · obtain ⟨fanOut, mem, deliveries, executed, named⟩ :=
        inv.marked id prior foundEarlier wasExpanded
      obtain ⟨fanOut', mem', _, grown⟩ := step.fanOut_stays mem
      exact ⟨fanOut', mem', deliveries, grown _ executed, named⟩
    · subst isMark
      cases step with
      | fanOut runs next fresh =>
        exact ⟨_, List.mem_append_right _ (List.mem_cons_self ..), deliveries,
          List.mem_append_right _ (List.mem_singleton_self _), named⟩

/-! ## Runs -/

/-- What every run guarantees about the outbox rows of its enqueues and expansions. -/
structure OutboxRowsComplete (trace : List (Transition State Event)) (s : State) : Prop where
  /-- At most one row per activity and target inbox. -/
  targetsUnique : TargetsUnique s.outbox
  /-- One parent row per executed parent insert. -/
  parents : ∀ activityId, parentRows s.outbox activityId = parentInserts activityId trace
  /-- An expansion that has marked its parents has inserted all their targets. -/
  markedComplete : ∀ fanOut ∈ s.fanOuts, ∀ deliveries,
    .markExpanded deliveries ∈ fanOut.executed → ∀ delivery ∈ deliveries, ∀ targets,
      fanOut.targetsByAccount.get delivery.accountId = some targets → ∀ target ∈ targets,
        HasTargetRow s.outbox delivery.activityId target
  /-- A parent is in state expanded only by such a mark. -/
  expandedMarked : ∀ id row, s.outbox.find id = some row → row.state = .expanded →
    ∃ fanOut ∈ s.fanOuts, ∃ deliveries, .markExpanded deliveries ∈ fanOut.executed
      ∧ ∃ delivery ∈ deliveries, delivery.id = id ∧ delivery.activityId = row.activityId
          ∧ delivery.accountId = row.accountId

theorem ExpansionInvariant.markedComplete {s : State} (inv : ExpansionInvariant s)
    (mem : fanOut ∈ s.fanOuts)
    (executed : .markExpanded deliveries ∈ fanOut.executed)
    (named : delivery ∈ deliveries) {targets : List String}
    (got : fanOut.targetsByAccount.get delivery.accountId = some targets) {target : String}
    (listed : target ∈ targets) : HasTargetRow s.outbox delivery.activityId target := by
  obtain ⟨prior, later, split⟩ := List.append_of_mem executed
  have full := fanOut.complete
  rw [split, List.append_assoc, List.cons_append] at full
  obtain ⟨_, inserts⟩ := insertTargets_before_markExpanded full
  have pair : (delivery, target) ∈ collectOutboxDeliveryExpansions deliveries
      fanOut.targetsByAccount :=
    mem_expansions.mpr ⟨named, targets, got, listed⟩
  obtain ⟨chunk, added, inChunk⟩ := inserts _ pair
  have ran : .insertTargets chunk ∈ fanOut.executed := by
    rw [split]
    exact List.mem_append_left _ added
  exact inv.inserted fanOut mem chunk ran _ inChunk

theorem ExpansionInvariant.expandedMarked {s : State} (inv : ExpansionInvariant s)
    {id : String} {row : OutboxDelivery} (got : s.outbox.find id = some row)
    (expanded : row.state = .expanded) :
    ∃ fanOut ∈ s.fanOuts, ∃ deliveries, .markExpanded deliveries ∈ fanOut.executed
      ∧ ∃ delivery ∈ deliveries, delivery.id = id ∧ delivery.activityId = row.activityId
          ∧ delivery.accountId = row.accountId := by
  obtain ⟨fanOut, mem, deliveries, executed, named⟩ := inv.marked id row got expanded
  obtain ⟨delivery, listed, rfl⟩ := List.mem_map.mp named
  obtain ⟨prior, later, split⟩ := List.append_of_mem executed
  have full := fanOut.complete
  rw [split, List.append_assoc, List.cons_append] at full
  obtain ⟨isFilter, _⟩ := insertTargets_before_markExpanded full
  have took : delivery ∈ fanOut.deliveries :=
    List.mem_of_mem_filter (isFilter ▸ listed)
  obtain ⟨held, foundStored, sameAct, sameAccount⟩ :=
    inv.fanOutCopies fanOut mem delivery took
  rw [got, Option.some.injEq] at foundStored
  subst foundStored
  exact ⟨fanOut, mem, deliveries, executed, delivery, listed, rfl, sameAct.symm, sameAccount.symm⟩

/-- **Enqueues and expansions leave complete, undoubled rows**, however they are
interrupted and retried. -/
theorem outboxRows_of_enqueues_and_expansions {trace : List (Transition State Event)}
    {s : State} (run : OutboxRun trace s) : OutboxRowsComplete trace s := by
  have unique : TargetsUnique s.outbox :=
    run.invariant_of_step (fun _ mem => by simp [State.initial, Table.empty] at mem)
      (fun holds step => TargetsUnique.step holds step)
  have inv : ExpansionInvariant s :=
    run.invariant_of_step ExpansionInvariant.initial (fun holds step => holds.step step)
  exact {
    targetsUnique := unique
    parents := parentRows_eq_parentInserts run
    markedComplete := fun _ mem _ executed _ named _ resolved _ listed =>
      inv.markedComplete mem executed named resolved listed
    expandedMarked := fun _ _ got expanded => inv.expandedMarked got expanded }

/-! ## A repeated parent insert -/

def parentRow (id : String) (state : OutboxState) (lastAttemptAt : Option Nat) :
    OutboxDelivery where
  id := id
  accountId := "alice"
  statusId := some "1"
  activityId := "https://local.example/users/alice/statuses/1/activity"
  activityType := "Create"
  targetInbox := none
  payloadJson := "{}"
  state := state
  attemptCount := 0
  lastAttemptAt := lastAttemptAt
  nextAttemptAt := some 0
  createdAt := 0

def parentInsert (id : String) : Event :=
  .enqueueGeneric id "alice" "1" "https://local.example/users/alice/statuses/1/activity" "Create"
    "{}"

/-- The outbox after one parent insert, and after two. -/
def parentState : State :=
  { State.initial with outbox := Table.singleton (parentRow "p" .queued none) }

def doubledState : State :=
  { State.initial with
    outbox := ⟨[parentRow "p" .queued none, parentRow "q" .queued none], by decide⟩ }

theorem parentInsert_step : Step State.initial (parentInsert "p") parentState :=
  Step.enqueueGeneric _ rfl

/-- **A repeated parent insert doubles the row**: the unique index does not compare
null targets. -/
theorem repeated_parentInsert_doubles_row :
    ¬ ∀ (trace : List (Transition State Event)) (s : State), OutboxRun trace s →
      ∀ row ∈ s.outbox.rows, ∀ row' ∈ s.outbox.rows, row.activityId = row'.activityId →
        row.targetInbox = row'.targetInbox → row = row' := by
  intro took
  have again : Step parentState (parentInsert "q") doubledState := Step.enqueueGeneric _ (by decide)
  have eq := took _ _ ((Run.start.snoc parentInsert_step).snoc again)
    (parentRow "p" .queued none) (by decide) (parentRow "q" .queued none) (by decide) rfl rfl
  exact absurd eq (by decide)

/-- The one target row of that parent. -/
def childRow : OutboxDelivery :=
  { parentRow "c" .queued none with targetInbox := some "https://remote.example/inbox" }

def oneFollower : TargetsByAccount :=
  Table.singleton ("alice", ["https://remote.example/inbox"])

def parentCopy : OutboxDeliveryRow :=
  (parentRow "p" .inFlight none).returning

/-- The worker that expands it. -/
def followerFanOut : FanOut :=
  FanOut.begin [parentCopy] oneFollower

/-- The insert and the mark of that expansion. -/
def childInsert : GenericStatement :=
  .insertTargets [(parentCopy, "https://remote.example/inbox")]

def parentMark : GenericStatement :=
  .markExpanded [parentCopy]

/-- The outbox while a worker has the parent in flight, with its fan-outs so far. -/
def expandingState (rows : OutboxDeliveries) (claimedGeneric : List (List OutboxDeliveryRow))
    (fanOuts : List FanOut) : State :=
  { State.initial with
    outbox := rows
    claimedGeneric := claimedGeneric
    fanOuts := fanOuts
    claimLog := ["p"] }

def claimedRows : OutboxDeliveries := Table.singleton (parentRow "p" .inFlight (some 0))

def insertedRows : OutboxDeliveries := ⟨[parentRow "p" .inFlight (some 0), childRow], by decide⟩

def markedRows : OutboxDeliveries := ⟨[parentRow "p" .expanded (some 0), childRow], by decide⟩

/-- The worker after its insert, and after its mark. -/
def insertedFanOut : FanOut :=
  followerFanOut.advance childInsert [parentMark] (by decide)

def markedFanOut : FanOut :=
  insertedFanOut.advance parentMark [] rfl

/-- The law at the run that expands one parent to its one follower. -/
theorem outboxRows_of_one_expansion :
    ∃ trace, OutboxRun trace (expandingState markedRows [] [markedFanOut])
      ∧ OutboxRowsComplete trace (expandingState markedRows [] [markedFanOut]) := by
  have took : Step parentState (.claimGeneric [parentRow "p" .queued none])
      (expandingState claimedRows [[parentCopy]] []) :=
    Step.claimGeneric _ (Selection.singleton (by decide))
  have batch : (expandingState claimedRows [[parentCopy]] []).claimedGeneric
      = [] ++ [parentCopy] :: [] := rfl
  have got : Step (expandingState claimedRows [[parentCopy]] [])
      (.resolveTargets [parentCopy] oneFollower)
      (expandingState claimedRows [] [followerFanOut]) :=
    Step.resolveTargets _ oneFollower batch
  have begun : (expandingState claimedRows [] [followerFanOut]).fanOuts
      = [] ++ followerFanOut :: [] := rfl
  have added : Step (expandingState claimedRows [] [followerFanOut])
      (.fanOut childInsert ["c"]) (expandingState insertedRows [] [insertedFanOut]) :=
    Step.fanOut _ begun (by decide) ⟨rfl, by decide, by decide⟩
  have runs : (expandingState insertedRows [] [insertedFanOut]).fanOuts
      = [] ++ insertedFanOut :: [] := rfl
  have marked : Step (expandingState insertedRows [] [insertedFanOut]) (.fanOut parentMark [])
      (expandingState markedRows [] [markedFanOut]) :=
    Step.fanOut _ runs rfl ⟨rfl, List.nodup_nil, by simp⟩
  have run := ((((Run.start.snoc parentInsert_step).snoc took).snoc got).snoc added).snoc marked
  exact ⟨_, run, outboxRows_of_enqueues_and_expansions run⟩

end Cfwdon.Delivery
