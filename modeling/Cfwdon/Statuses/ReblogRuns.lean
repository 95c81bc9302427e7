import Cfwdon.Library.Lists
import Cfwdon.Statuses.Reblogs

/-!
# What reblogs leave behind

When all requests of an account about one target have finished, there should be one wrapper
and one row, or neither, and at most one Announce that is in force.  Double clicks break
this: two reblogs that both found no wrapper insert two.

The invariant allows for the requests halfway: a wrapper without a row is being written or
deleted by some request, and an Announce that is in force is named by the row or about to
be written there.
-/

namespace Cfwdon.Statuses

open Library

def ReblogActivity.announced : ReblogActivity → Option String
  | .announce activityId _ _ => some activityId
  | .undoAnnounce _ _ => none

/-- The Announces with an Undo in the outbox. -/
def ReblogActivity.undone : ReblogActivity → Option String
  | .announce _ _ _ => none
  | .undoAnnounce announceId _ => some announceId

def ReblogStore.announced (store : ReblogStore) : List String :=
  store.activities.filterMap ReblogActivity.announced

def ReblogStore.undone (store : ReblogStore) : List String :=
  store.activities.filterMap ReblogActivity.undone

/-- The Announces that are neither undone nor superseded by another. -/
def ReblogStore.inForce (store : ReblogStore) : List String :=
  store.announced.filter fun id => decide (id ∉ store.undone ∧ id ∉ store.replaced)

/-- One wrapper and one row or neither, and at most one Announce in force. -/
structure ReblogStore.Consistent (store : ReblogStore) : Prop where
  singleWrapper : store.wrappers.rows.length ≤ 1
  wrapperIffReblog : store.wrappers.rows ≠ [] ↔ store.reblog.isSome = true
  singleAnnounce : store.inForce.length ≤ 1

/-- A consistent store in which the row names the Announce in force. -/
structure ReblogStore.Settled (store : ReblogStore) : Prop where
  singleWrapper : store.wrappers.rows.length ≤ 1
  wrapperIffReblog : store.wrappers.rows ≠ [] ↔ store.reblog.isSome = true
  named : ∀ id ∈ store.inForce, store.activityId = some id
  distinct : store.announced.Nodup
  built : ∀ id ∈ store.announced, id ∈ store.built

/-! ## The condition -/

/-- The request has written its wrapper and not yet the row, or deleted the row and not yet
the wrapper. -/
def ReblogRequest.isHalfway : ReblogRequest → Bool
  | .reblog _ (.readActivity _) => true
  | .reblog _ (.enqueueAnnounce _) => true
  | .reblog _ (.upsertReblog _ _) => true
  | .unreblog .deleteWrapper => true
  | _ => false

/-- The Announce that the request has built and not yet written to the row. -/
def ReblogRequest.pendingAnnounce : ReblogRequest → Option String
  | .reblog _ (.upsertReblog activityId true) => some activityId
  | _ => none

/-- What the request has read is still so: there is no wrapper when it inserts one, there
is a wrapper when it writes the row, the Announce of the row is undone when it deletes the
row, and there is no row when it deletes the wrappers. -/
def ReblogRequest.UpToDate (store : ReblogStore) : ReblogRequest → Prop
  | .reblog _ (.insertWrapper _) => store.wrappers.rows = []
  | .reblog _ (.upsertReblog _ _) => store.wrappers.rows ≠ []
  | .unreblog .deleteReblog =>
    ∀ id, store.activityId = some id → id ∈ store.announced → id ∈ store.undone
  | .unreblog .deleteWrapper => store.reblog = none
  | _ => True

/-- The failure of the request leaves nothing half done: no wrapper without a row, and no
Announce that is not in the row. -/
def ReblogRequest.FailsCleanly (store : ReblogStore) (request : ReblogRequest) : Prop :=
  (request.isHalfway = true → store.wrappers.rows ≠ [] → store.reblog.isSome = true)
    ∧ ∀ id, request.pendingAnnounce = some id → id ∉ store.announced

/-- No request acts on what has changed since it read it, and none fails halfway. -/
def Undisturbed (s : ReblogState) : ReblogEvent → Prop
  | .arrive _ => True
  | .execute request => request.UpToDate s.store
  | .fail request => request.FailsCleanly s.store

/-! ## The invariant -/

/-- What holds between the statements. -/
structure ReblogState.Sound (s : ReblogState) : Prop where
  singleWrapper : s.store.wrappers.rows.length ≤ 1
  wrapped : s.store.reblog.isSome = true → s.store.wrappers.rows ≠ []
  halfway : s.store.wrappers.rows ≠ [] → s.store.reblog.isSome = true
    ∨ ∃ request ∈ s.requests, request.isHalfway = true
  named : ∀ id ∈ s.store.inForce, s.store.activityId = some id
    ∨ ∃ request ∈ s.requests, request.pendingAnnounce = some id
  distinct : s.store.announced.Nodup
  built : ∀ id ∈ s.store.announced, id ∈ s.store.built

variable {s s' : ReblogState} {store store' : ReblogStore} {request : ReblogRequest}
  {earlier later : List ReblogRequest} {next : Option ReblogRequest} {kind : TargetKind}

theorem ReblogStore.mem_inForce_iff {id : String} :
    id ∈ store.inForce ↔ id ∈ store.announced ∧ id ∉ store.undone ∧ id ∉ store.replaced := by
  simp [ReblogStore.inForce]

/-- **A settled store is consistent.** -/
theorem ReblogStore.Settled.consistent (done : store.Settled) : store.Consistent where
  singleWrapper := done.singleWrapper
  wrapperIffReblog := done.wrapperIffReblog
  singleAnnounce :=
    length_le_one_of_forall_eq (done.distinct.filter _) done.named

theorem ReblogState.sound_of_settled (done : s.store.Settled) : s.Sound where
  singleWrapper := done.singleWrapper
  wrapped := done.wrapperIffReblog.mpr
  halfway := fun here => Or.inl (done.wrapperIffReblog.mp here)
  named := fun id inForce => Or.inl (done.named id inForce)
  distinct := done.distinct
  built := done.built

theorem ReblogState.Sound.settled (sound : s.Sound) (finished : s.requests = []) :
    s.store.Settled where
  singleWrapper := sound.singleWrapper
  wrapperIffReblog := by
    refine ⟨fun here => ?_, sound.wrapped⟩
    rcases sound.halfway here with wrote | ⟨request, runs, _⟩
    · exact wrote
    · rw [finished] at runs
      cases runs
  named := by
    intro id inForce
    rcases sound.named id inForce with wrote | ⟨request, runs, _⟩
    · exact wrote
    · rw [finished] at runs
      cases runs
  distinct := sound.distinct
  built := sound.built

/-! ## One statement -/

theorem exists_goesOn {prop : ReblogRequest → Prop}
    (keeps : prop request → ∃ other ∈ next.toList, prop other)
    (pre : ∃ other ∈ earlier ++ request :: later, prop other) :
    ∃ other ∈ earlier ++ (next.toList ++ later), prop other := by
  obtain ⟨other, runs, holds⟩ := pre
  simp only [List.mem_append, List.mem_cons] at runs ⊢
  rcases runs with former | rfl | latter
  · exact ⟨other, Or.inl former, holds⟩
  · obtain ⟨post, goesOn, holdsAfter⟩ := keeps holds
    exact ⟨post, Or.inr (Or.inl goesOn), holdsAfter⟩
  · exact ⟨other, Or.inr (Or.inr latter), holds⟩

theorem mem_goesOn {following : ReblogRequest} :
    following ∈ earlier ++ ((some following).toList ++ later) := by
  simp

theorem ReblogState.Sound.reads (sound : s.Sound)
    (runs : s.requests = earlier ++ request :: later)
    (halfway : request.isHalfway = true → ∃ other ∈ next.toList, other.isHalfway = true)
    (waits : ∀ id, request.pendingAnnounce = some id →
      ∃ other ∈ next.toList, other.pendingAnnounce = some id) :
    ReblogState.Sound { store := s.store, requests := earlier ++ (next.toList ++ later) } where
  singleWrapper := sound.singleWrapper
  wrapped := sound.wrapped
  halfway := fun here =>
    (sound.halfway here).imp_right fun pre => exists_goesOn halfway (runs ▸ pre)
  named := fun id inForce =>
    (sound.named id inForce).imp_right fun pre => exists_goesOn (waits id) (runs ▸ pre)
  distinct := sound.distinct
  built := sound.built

/-- A request that is halfway after a statement may leave a wrapper without a row. -/
theorem halfway_of_next {following : ReblogRequest} (isHalfway : following.isHalfway = true) :
    ∃ other ∈ earlier ++ ((some following).toList ++ later), other.isHalfway = true :=
  ⟨following, mem_goesOn, isHalfway⟩

theorem isHalfway_afterWrapper (visibility : Visibility) (wrapperId : String)
    (old : Option String) :
    (ReblogRequest.reblog visibility (.afterWrapper kind wrapperId old)).isHalfway = true := by
  cases kind with
  | localStatus => rfl
  | remoteStatus =>
    cases old with
    | none | some actId => rfl

theorem isHalfway_announceUnless (visibility : Visibility) (wrapperId : String)
    (old : Option String) :
    (ReblogRequest.reblog visibility (.announceUnless old wrapperId)).isHalfway = true := by
  cases old with
  | none | some actId => rfl

theorem ReblogState.Sound.updates (sound : s.Sound)
    (runs : s.requests = earlier ++ request :: later)
    (update : Update ReblogWrapper ReblogWrapper.id)
    (reading : request.isHalfway = false ∧ request.pendingAnnounce = none) :
    ReblogState.Sound
      { store := { s.store with wrappers := update.run s.store.wrappers }
        requests := earlier ++ (next.toList ++ later) } := by
  have rest := @ReblogState.Sound.reads s request earlier later next sound runs
    (fun halfway => by rw [reading.1] at halfway; cases halfway)
    (fun id waits => by rw [reading.2] at waits; cases waits)
  have sameRows : (update.run s.store.wrappers).rows ≠ [] ↔ s.store.wrappers.rows ≠ [] := by
    simp [Update.run]
  refine ⟨?_, ?_, ?_, rest.named, rest.distinct, rest.built⟩
  · simpa [Update.run] using sound.singleWrapper
  · exact fun wrote => sameRows.mpr (rest.wrapped wrote)
  · exact fun here => rest.halfway (sameRows.mp here)

variable {visibility : Visibility}

theorem ReblogState.Sound.inserts {old : Option String} {wrapper : ReblogWrapper}
    (sound : s.Sound)
    (runs : s.requests = earlier ++ .reblog visibility (.insertWrapper old) :: later)
    (none : s.store.wrappers.rows = []) :
    ReblogState.Sound
      { store := { s.store with wrappers := s.store.wrappers.insert wrapper }
        requests := earlier
          ++ ((some (ReblogRequest.reblog visibility
            (.afterWrapper kind wrapper.id old))).toList ++ later) } := by
  have added : (s.store.wrappers.insert wrapper).rows = [wrapper] := by
    simp [Table.insert, Table.insertOrIgnore, Table.append, Table.exists?, none]
  refine ⟨?_, ?_, ?_, ?_, sound.distinct, sound.built⟩
  · simp [added]
  · simp [added]
  · exact fun _ => Or.inr (halfway_of_next (isHalfway_afterWrapper _ _ _))
  · intro id inForce
    refine (sound.named id inForce).imp_right fun pre => ?_
    exact exists_goesOn (fun waits => by cases waits) (runs ▸ pre)

/-- **An Announce is built**, and put into the outbox if there is an inbox to deliver to. -/
theorem ReblogState.Sound.announces {wrapperId activityId : String}
    {activities : List ReblogActivity} (sound : s.Sound)
    (runs : s.requests = earlier ++ .reblog visibility (.enqueueAnnounce wrapperId) :: later)
    (fresh : activityId ∉ s.store.built)
    (queued : activities = [] ∨ activities = [.announce activityId wrapperId visibility]) :
    ReblogState.Sound
      { store :=
          { s.store with
            activities := s.store.activities ++ activities
            built := activityId :: s.store.built }
        requests := earlier
          ++ ((some (ReblogRequest.reblog visibility (.upsertReblog activityId true))).toList
            ++ later) } := by
  have undone : activities.filterMap ReblogActivity.undone = [] := by
    rcases queued with rfl | rfl <;> rfl
  have announced : ∀ id ∈ activities.filterMap ReblogActivity.announced, id = activityId := by
    rcases queued with rfl | rfl
    · exact fun id mem => absurd mem List.not_mem_nil
    · exact fun id mem => List.mem_singleton.mp mem
  have distinctNew : (activities.filterMap ReblogActivity.announced).Nodup := by
    rcases queued with rfl | rfl
    · exact List.nodup_nil
    · exact List.nodup_singleton _
  refine ⟨sound.singleWrapper, sound.wrapped, ?_, ?_, ?_, ?_⟩
  · exact fun _ => Or.inr (halfway_of_next rfl)
  · intro id inForce
    simp only [ReblogStore.mem_inForce_iff, ReblogStore.announced, ReblogStore.undone,
      List.filterMap_append, List.mem_append, undone, List.append_nil] at inForce
    obtain ⟨old | new, notUndone, notReplaced⟩ := inForce
    · refine (sound.named id (ReblogStore.mem_inForce_iff.mpr
        ⟨old, notUndone, notReplaced⟩)).imp_right fun pre => ?_
      exact exists_goesOn (fun waits => by cases waits) (runs ▸ pre)
    · obtain rfl := announced id new
      exact Or.inr ⟨_, mem_goesOn, rfl⟩
  · simp only [ReblogStore.announced, List.filterMap_append]
    refine List.nodup_append.mpr ⟨sound.distinct, distinctNew, ?_⟩
    rintro id old other new rfl
    rw [announced id new] at old
    exact fresh (sound.built activityId old)
  · intro id mem
    simp only [ReblogStore.announced, List.filterMap_append, List.mem_append] at mem
    rcases mem with old | new
    · exact List.mem_cons_of_mem _ (sound.built id old)
    · rw [announced id new]
      exact List.mem_cons_self

/-- **The row is written** while there is a wrapper. -/
theorem ReblogState.Sound.upserts {actId : String} {isNew : Bool} (sound : s.Sound)
    (runs : s.requests = earlier ++ .reblog visibility (.upsertReblog actId isNew) :: later)
    (here : s.store.wrappers.rows ≠ []) :
    ReblogState.Sound
      { store := s.store.upsertReblog visibility actId
        requests := earlier ++ ((none : Option ReblogRequest).toList ++ later) } := by
  refine ⟨sound.singleWrapper, fun _ => here, fun _ => Or.inl rfl, ?_, sound.distinct, sound.built⟩
  intro id inForce
  obtain ⟨announced, notUndone, notReplaced⟩ := ReblogStore.mem_inForce_iff.mp inForce
  by_cases eq : id = actId
  · exact Or.inl (by rw [eq]; rfl)
  · -- Another Announce in force is not the one that the row named, which is replaced now.
    simp only [ReblogStore.upsertReblog, List.mem_filter, List.mem_append, Option.mem_toList,
      decide_eq_true_eq, eq, not_false_eq_true, and_true, not_or, ne_eq] at notReplaced
    have pre := sound.named id (ReblogStore.mem_inForce_iff.mpr
      ⟨announced, notUndone, notReplaced.2⟩)
    refine Or.inr (exists_goesOn ?_ (runs ▸ pre.resolve_left notReplaced.1))
    intro waits
    cases isNew with
    | false => cases waits
    | true => exact absurd (Option.some.inj waits).symm eq

theorem ReblogState.Sound.undoes {announceId : String} (sound : s.Sound)
    (runs : s.requests = earlier ++ .unreblog (.enqueueUndo announceId visibility) :: later) :
    ReblogState.Sound
      { store :=
          { s.store with
            activities := s.store.activities ++ [.undoAnnounce announceId visibility] }
        requests := earlier ++ ((some (ReblogRequest.unreblog .deleteReblog)).toList ++ later) } := by
  have sameAnnounced :
      (s.store.activities ++ [ReblogActivity.undoAnnounce announceId visibility]).filterMap
        ReblogActivity.announced = s.store.announced := by
    simp [ReblogStore.announced, ReblogActivity.announced]
  refine ⟨sound.singleWrapper, sound.wrapped, ?_, ?_, ?_, ?_⟩
  · intro here
    refine (sound.halfway here).imp_right fun pre => ?_
    exact exists_goesOn (fun halfway => by cases halfway) (runs ▸ pre)
  · intro id inForce
    simp only [ReblogStore.mem_inForce_iff, ReblogStore.undone, List.filterMap_append,
      List.mem_append, not_or] at inForce
    obtain ⟨announced, ⟨notUndone, _⟩, notReplaced⟩ := inForce
    rw [ReblogStore.announced, sameAnnounced] at announced
    refine (sound.named id (ReblogStore.mem_inForce_iff.mpr
      ⟨announced, notUndone, notReplaced⟩)).imp_right fun pre => ?_
    exact exists_goesOn (fun waits => by cases waits) (runs ▸ pre)
  · rw [ReblogStore.announced, sameAnnounced]
    exact sound.distinct
  · intro id announced
    rw [ReblogStore.announced, sameAnnounced] at announced
    exact sound.built id announced

/-- **The row is deleted** once its Announce is undone. -/
theorem ReblogState.Sound.deletesReblog (sound : s.Sound)
    (runs : s.requests = earlier ++ .unreblog .deleteReblog :: later)
    (undone : ∀ id, s.store.activityId = some id → id ∈ s.store.announced → id ∈ s.store.undone) :
    ReblogState.Sound
      { store := { s.store with reblog := none }
        requests := earlier
          ++ ((some (ReblogRequest.unreblog .deleteWrapper)).toList ++ later) } := by
  refine ⟨sound.singleWrapper, ?_, fun _ => Or.inr (halfway_of_next rfl), ?_, sound.distinct,
    sound.built⟩
  · intro wrote
    cases wrote
  · intro id inForce
    rcases sound.named id inForce with wrote | pre
    · obtain ⟨announced, notUndone, _⟩ := ReblogStore.mem_inForce_iff.mp inForce
      exact absurd (undone id wrote announced) notUndone
    · exact Or.inr (exists_goesOn (fun waits => by cases waits) (runs ▸ pre))

/-- **The wrappers are deleted** once there is no row. -/
theorem ReblogState.Sound.deletesWrappers (sound : s.Sound)
    (runs : s.requests = earlier ++ .unreblog .deleteWrapper :: later)
    (noRow : s.store.reblog = none) :
    ReblogState.Sound
      { store := { s.store with wrappers := Table.empty }
        requests := earlier ++ ((none : Option ReblogRequest).toList ++ later) } := by
  refine ⟨Nat.zero_le 1, ?_, fun here => absurd rfl here, ?_, sound.distinct, sound.built⟩
  · intro wrote
    rw [noRow] at wrote
    cases wrote
  · intro id inForce
    refine (sound.named id inForce).imp_right fun pre => ?_
    exact exists_goesOn (fun waits => by cases waits) (runs ▸ pre)

/-- **One statement** of a request that is up to date. -/
theorem ReblogState.Sound.executes (sound : s.Sound)
    (runs : s.requests = earlier ++ request :: later) (upToDate : request.UpToDate s.store)
    (executed : Executes kind s.store request store next) :
    ReblogState.Sound { store := store, requests := earlier ++ (next.toList ++ later) } := by
  cases executed with
  | readsActivityFirst | findsWrapper | findsNoWrapper | requiresWrapper | missesWrapper
  | readsReblog | undoesNowhere =>
    exact sound.reads runs (fun halfway => by cases halfway) fun _ waits => by cases waits
  | updatesWrapper now => exact sound.updates runs _ ⟨rfl, rfl⟩
  | insertsWrapper wrapperId now => exact sound.inserts runs upToDate
  | readsActivity =>
    refine sound.reads runs (fun _ => ?_) fun _ waits => by cases waits
    exact ⟨_, Option.mem_toList.mpr rfl, isHalfway_announceUnless _ _ _⟩
  | enqueuesAnnounce actId fresh =>
    exact sound.announces runs fresh (Or.inr rfl)
  | announcesNowhere actId fresh =>
    have announced := sound.announces runs fresh (Or.inl rfl)
    rw [List.append_nil] at announced
    exact announced
  | upsertsReblog => exact sound.upserts runs upToDate
  | enqueuesUndo => exact sound.undoes runs
  | deletesReblog => exact sound.deletesReblog runs upToDate
  | deletesWrappers => exact sound.deletesWrappers runs upToDate

/-! ## Runs -/

theorem ReblogState.Sound.arrives (sound : s.Sound) (request : ReblogRequest) :
    ReblogState.Sound { s with requests := s.requests ++ [request] } where
  singleWrapper := sound.singleWrapper
  wrapped := sound.wrapped
  halfway := fun here => (sound.halfway here).imp_right fun ⟨other, runs, halfway⟩ =>
    ⟨other, List.mem_append_left _ runs, halfway⟩
  named := fun id inForce => (sound.named id inForce).imp_right fun ⟨other, runs, waits⟩ =>
    ⟨other, List.mem_append_left _ runs, waits⟩
  distinct := sound.distinct
  built := sound.built

theorem ReblogState.Sound.fails (sound : s.Sound)
    (runs : s.requests = earlier ++ request :: later)
    (cleanly : request.FailsCleanly s.store) :
    ReblogState.Sound { s with requests := earlier ++ later } := by
  have others {prop : ReblogRequest → Prop}
      (pre : ∃ other ∈ s.requests, prop other) (notThis : ¬ prop request) :
      ∃ other ∈ earlier ++ later, prop other :=
    @exists_goesOn request earlier later none prop (fun holds => absurd holds notThis) (runs ▸ pre)
  refine ⟨sound.singleWrapper, sound.wrapped, ?_, ?_, sound.distinct, sound.built⟩
  · intro here
    rcases sound.halfway here with wrote | pre
    · exact Or.inl wrote
    · by_cases halfway : request.isHalfway = true
      · exact Or.inl (cleanly.1 halfway here)
      · exact Or.inr (others pre halfway)
  · intro id inForce
    rcases sound.named id inForce with wrote | pre
    · exact Or.inl wrote
    · refine Or.inr (others pre fun waits => ?_)
      exact cleanly.2 id waits (ReblogStore.mem_inForce_iff.mp inForce).1

theorem ReblogState.Sound.step {target : ReblogTarget} {ev : ReblogEvent} (sound : s.Sound)
    (calm : Undisturbed s ev) (taken : ReblogStep target s ev s') : s'.Sound := by
  cases taken with
  | arriveReblog | arriveUnreblog => exact sound.arrives _
  | execute runs executed => exact sound.executes runs calm executed
  | fail runs => exact sound.fails runs calm

/-- **What reblogs leave behind.**  In every run of requests about one target, from a settled
store, in which no request acts on what has changed since it read it and none fails halfway:
once all requests have finished there are one wrapper and one row or neither, and at most
one Announce is in force. -/
theorem reblogs_consistent (target : ReblogTarget) {start finish : ReblogState}
    {trace : List (Transition ReblogState ReblogEvent)} (settled : start.store.Settled)
    (run : Run (ReblogStep target) start trace finish) (undisturbed : Along Undisturbed trace)
    (finished : finish.requests = []) : finish.store.Consistent := by
  have sound : finish.Sound :=
    run.invariant (ReblogState.sound_of_settled settled)
      (fun holds cond taken => holds.step cond taken) undisturbed
  exact (sound.settled finished).consistent

/-! ## A double click -/

/-- A public status of someone else. -/
def somePost : ReblogTarget :=
  { kind := .localStatus, visibility := .publicPost, owned := false }

def click (phase : ReblogPhase) : ReblogRequest := .reblog .publicPost phase

def oneWrapper : ReblogStore :=
  { ReblogStore.empty with wrappers := Table.empty.insert ⟨"w1", .publicPost, 0, 0⟩ }

def twoWrappers : ReblogStore :=
  { oneWrapper with wrappers := oneWrapper.wrappers.insert ⟨"w2", .publicPost, 0, 0⟩ }

def announcing (store : ReblogStore) (activityId wrapperId : String) : ReblogStore :=
  { store with
    activities := store.activities ++ [.announce activityId wrapperId .publicPost]
    built := activityId :: store.built }

theorem clicks : ReblogStep somePost s (.arrive (click (.findWrapper none)))
    { s with requests := s.requests ++ [click (.findWrapper none)] } :=
  .arriveReblog none .publicPost rfl

theorem goesOn (earlier later : List ReblogRequest)
    (executed : Executes .localStatus store request store' next) :
    ReblogStep somePost { store := store, requests := earlier ++ request :: later }
      (.execute request) { store := store', requests := earlier ++ (next.toList ++ later) } :=
  .execute rfl executed

theorem settled_empty : ReblogStore.empty.Settled where
  singleWrapper := Nat.zero_le 1
  wrapperIffReblog := by simp [ReblogStore.empty, Table.empty]
  named := by
    intro id inForce
    cases inForce
  distinct := List.nodup_nil
  built := by
    intro id announced
    cases announced

theorem single_click :
    ∃ trace, Run (ReblogStep somePost) { store := .empty, requests := [] } trace
        { store := (announcing oneWrapper "a1" "w1").upsertReblog .publicPost "a1",
          requests := [] }
      ∧ Along Undisturbed trace := by
  have finds := goesOn [] []
    (@Executes.findsNoWrapper .localStatus ReblogStore.empty .publicPost none rfl)
  have inserts := goesOn [] []
    (@Executes.insertsWrapper .localStatus ReblogStore.empty .publicPost none "w1" 0 rfl)
  have reads := goesOn [] [] (@Executes.readsActivity .localStatus oneWrapper .publicPost "w1")
  have announces := goesOn [] []
    (@Executes.enqueuesAnnounce .localStatus oneWrapper .publicPost "w1" "a1" (by decide)
      (by decide))
  have writes := goesOn [] []
    (@Executes.upsertsReblog .localStatus (announcing oneWrapper "a1" "w1") .publicPost "a1" true)
  refine ⟨_, (((((Run.start.snoc clicks).snoc finds).snoc inserts).snoc reads).snoc
    announces).snoc writes, ?_⟩
  have here : oneWrapper.wrappers.rows ≠ [] := by decide
  simp only [Along.snoc_iff]
  exact ⟨⟨⟨⟨⟨⟨Along.nil, trivial⟩, trivial⟩, rfl⟩, trivial⟩, trivial⟩, here⟩

theorem reblogs_consistent_single_click :
    ((announcing oneWrapper "a1" "w1").upsertReblog .publicPost "a1").Consistent := by
  obtain ⟨trace, run, calm⟩ := single_click
  exact reblogs_consistent somePost settled_empty run calm rfl

/-- **A double click leaves two wrappers**: both reblogs look for a wrapper before either
inserts one. -/
theorem double_click_two_wrappers :
    ∃ trace finish, Run (ReblogStep somePost) { store := .empty, requests := [] } trace finish
      ∧ finish.requests = [] ∧ ¬ finish.store.Consistent := by
  have firstFinds := goesOn [] [click (.findWrapper none)]
    (@Executes.findsNoWrapper .localStatus ReblogStore.empty .publicPost none rfl)
  have secondFinds := goesOn [click (.insertWrapper none)] []
    (@Executes.findsNoWrapper .localStatus ReblogStore.empty .publicPost none rfl)
  have firstInserts := goesOn [] [click (.insertWrapper none)]
    (@Executes.insertsWrapper .localStatus ReblogStore.empty .publicPost none "w1" 0 rfl)
  have secondInserts := goesOn [click (.readActivity "w1")] []
    (@Executes.insertsWrapper .localStatus oneWrapper .publicPost none "w2" 0 (by decide))
  have firstReads := goesOn [] [click (.readActivity "w2")]
    (@Executes.readsActivity .localStatus twoWrappers .publicPost "w1")
  have secondReads := goesOn [click (.enqueueAnnounce "w1")] []
    (@Executes.readsActivity .localStatus twoWrappers .publicPost "w2")
  have firstAnnounces := goesOn [] [click (.enqueueAnnounce "w2")]
    (@Executes.enqueuesAnnounce .localStatus twoWrappers .publicPost "w1" "a1" (by decide)
      (by decide))
  have secondAnnounces := goesOn [click (.upsertReblog "a1" true)] []
    (@Executes.enqueuesAnnounce .localStatus (announcing twoWrappers "a1" "w1") .publicPost "w2"
      "a2" (by decide) (by decide))
  have firstWrites := goesOn [] [click (.upsertReblog "a2" true)]
    (@Executes.upsertsReblog .localStatus
      (announcing (announcing twoWrappers "a1" "w1") "a2" "w2") .publicPost "a1" true)
  have secondWrites := goesOn [] []
    (@Executes.upsertsReblog .localStatus
      ((announcing (announcing twoWrappers "a1" "w1") "a2" "w2").upsertReblog .publicPost "a1")
      .publicPost "a2" true)
  refine ⟨_, _, (((((((((((Run.start.snoc clicks).snoc clicks).snoc firstFinds).snoc
    secondFinds).snoc firstInserts).snoc secondInserts).snoc firstReads).snoc secondReads).snoc
    firstAnnounces).snoc secondAnnounces).snoc firstWrites).snoc secondWrites, rfl, ?_⟩
  intro agrees
  exact absurd agrees.singleWrapper (by decide)

end Cfwdon.Statuses
