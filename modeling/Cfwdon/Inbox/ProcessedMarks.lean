import Cfwdon.Inbox.Requests

/-!
# Processed marks

A row should be marked processed only after the handlers of its activity have
run to the end.  A request does so.  A reclaim pass does not know: it takes an
activity for applied when a status or an actor is stored or missing, and it looks
for the status of a `Delete` under the id of the `Delete` itself, where there is
none.  A `Delete` that died before its handler is therefore marked processed
while the status it names is still there, and its retries are skipped.
-/

namespace Cfwdon.Inbox

open Library

def ObjectGone (statuses : StatusRefs) (request : InboxRequest) : Prop :=
  ∀ objectUri, request.objectUri = some objectUri → statuses.find objectUri = none

/-- The handlers of every processed activity have run to the end. -/
def ProcessedRowsHandled (s : InboxState) : Prop :=
  ∀ key row, s.activities.find key = some row → row.processedAt ≠ none →
    HandlerCompleted s.requests key

/-- A reclaim pass marks a `Delete` only when the object it names is gone. -/
def ReclaimedDeletesGone (before : InboxState) : InboxEvent → InboxState → Prop
  | .reclaimMark _ _, after => ∀ key row row', before.activities.find key = some row →
      after.activities.find key = some row' → row.processedAt = none → row'.processedAt ≠ none →
        row.activityType = "Delete" →
          ∀ holder, before.requests.find row.heldBy = some holder →
            ObjectGone before.statuses holder
  | _, _ => True

/-- When a reclaim pass runs, a stale claim that passes the test of the pass is
not left by a request that stopped before its handlers had returned, unless
another request has applied the activity; and if it is of a `Delete`, the object
named is gone. -/
def StaleClaimsApplied (s : InboxState) : InboxEvent → Prop
  | .reclaimMark _ _ => ∀ row ∈ s.activities.rows,
      reclaimable s.now s.statuses s.actors row = true →
        ∀ holder, s.requests.find row.heldBy = some holder →
          (holder.phase.completed = false → HandlerCompleted s.requests row.key)
            ∧ (row.activityType = "Delete" → ObjectGone s.statuses holder)
  | _ => True

/-! ## The invariant -/

/-- Every row was inserted by a request for its activity. -/
def HoldersStored (s : InboxState) : Prop :=
  ∀ key row, s.activities.find key = some row →
    ∃ holder, s.requests.find row.heldBy = some holder ∧ holder.key = key

/-- Rows have holders, and processed rows have been handled. -/
structure MarksInvariant (s : InboxState) : Prop where
  held : HoldersStored s
  handled : ProcessedRowsHandled s

theorem MarksInvariant.initial : MarksInvariant InboxState.initial where
  held := fun _ _ got => by cases got
  handled := fun _ _ got => by cases got

section OneStep

variable {s s' : InboxState} {event : InboxEvent} {key : String × String} {row : InboxActivity}

theorem HoldersStored.step (held : HoldersStored s) (step : InboxStep s event s') :
    HoldersStored s' := by
  intro key row got'
  cases got : s.activities.find key with
  | none =>
    obtain ⟨req, _, isKey, isNew, begun⟩ := step.activity_none got got'
    subst isNew
    exact ⟨req.begun s.now, begun, isKey⟩
  | some prior =>
    obtain ⟨holder, foundHolder, isKey⟩ := held key prior got
    obtain ⟨reach, foundHolder', _⟩ := step.request_some foundHolder
    have sameHolder : row.heldBy = prior.heldBy := by
      rcases step.activity_some got with kept | ⟨_, marked⟩ | ⟨_, gone⟩
      · rw [kept, Option.some.injEq] at got'
        rw [got']
      · rw [marked, Option.some.injEq] at got'
        rw [← got']
      · rw [gone] at got'
        cases got'
    refine ⟨{ holder with phase := reach }, ?_, isKey⟩
    rw [sameHolder]
    exact foundHolder'

theorem handlerCompleted_of_marks (held : HoldersStored s) (cond : StaleClaimsApplied s event)
    (got : s.activities.find key = some row) (marks : event.Marks s row) :
    HandlerCompleted s.requests key := by
  cases event with
  | markProcessed num =>
    obtain ⟨req, foundRequest, isKey, done⟩ := marks
    exact ⟨req, Table.mem_of_find foundRequest, isKey.trans (Table.key_of_find got), done⟩
  | reclaimMark limit chosen =>
    obtain ⟨holder, foundHolder, isKey⟩ := held key row got
    have applied := (cond row (Table.mem_of_find got) marks holder foundHolder).1
    cases done : holder.phase.completed with
    | true => exact ⟨holder, Table.mem_of_find foundHolder, isKey, done⟩
    | false => exact Table.key_of_find got ▸ applied done
  | tick | receive | begin | write | handlerReturned | handlerFailed | release | reclaimRelease =>
    exact marks.elim

/-- **Processed rows stay handled**, and a mark under the condition is of a handled
activity. -/
theorem ProcessedRowsHandled.step (inv : MarksInvariant s)
    (cond : StaleClaimsApplied s event) (step : InboxStep s event s') :
    ProcessedRowsHandled s' := by
  intro key row got' processed
  cases got : s.activities.find key with
  | none =>
    obtain ⟨req, _, _, isNew, _⟩ := step.activity_none got got'
    exact absurd (isNew ▸ rfl) processed
  | some prior =>
    rcases step.activity_some got with kept | ⟨marks, _⟩ | ⟨_, gone⟩
    · rw [kept, Option.some.injEq] at got'
      subst got'
      exact (inv.handled key prior got processed).step step
    · exact (handlerCompleted_of_marks inv.held cond got marks).step step
    · rw [gone] at got'
      cases got'

theorem MarksInvariant.step (inv : MarksInvariant s) (cond : StaleClaimsApplied s event)
    (step : InboxStep s event s') : MarksInvariant s' where
  held := inv.held.step step
  handled := ProcessedRowsHandled.step inv cond step

/-- Under the condition, a reclaim pass marks no `Delete` whose object is left. -/
theorem InboxStep.reclaimedDeletesGone (step : InboxStep s event s')
    (cond : StaleClaimsApplied s event) : ReclaimedDeletesGone s event s' := by
  cases event with
  | reclaimMark limit chosen =>
    intro key row row' got got' unprocessed processed isDelete holder foundHolder
    rcases step.activity_some got with kept | ⟨marks, _⟩ | ⟨drops, _⟩
    · rw [kept, Option.some.injEq] at got'
      exact absurd (got' ▸ unprocessed) processed
    · exact (cond row (Table.mem_of_find got) marks holder foundHolder).2 isDelete
    · exact drops.elim
  | _ => trivial

end OneStep

def remoteNote : StatusRef where
  objectUri := "https://h/users/a/statuses/1"
  url := some "https://h/@a/1"

/-- The `Delete` of that status, as its actor sends it. -/
def deleteRequest (phase : RequestPhase) : InboxRequest where
  number := 0
  actorUri := "https://h/users/a"
  activityId := "https://h/users/a/statuses/1#delete"
  activityType := "Delete"
  objectUri := some "https://h/users/a/statuses/1"
  accounts := ["alice"]
  phase := phase

def deleteRow (processedAt : Option Nat) : InboxActivity where
  actorUri := "https://h/users/a"
  activityId := "https://h/users/a/statuses/1#delete"
  activityType := "Delete"
  createdAt := 0
  processedAt := processedAt
  heldBy := 0

/-- The `Delete` is in this phase, and these are the rows. -/
def deletingState (now : Nat) (phase : RequestPhase) (activities : InboxActivities)
    (statuses : StatusRefs) : InboxState where
  now := now
  activities := activities
  requests := Table.singleton (deleteRequest phase)
  statuses := statuses
  actors := ["https://h/users/a"]

/-- The handler of the `Delete` has been called. -/
def callingDelete (now : Nat) : InboxState :=
  deletingState now (.processing 0 [.dispatch (some "alice")])
    (Table.singleton (deleteRow none)) (Table.singleton remoteNote)

/-- The request stopped inside its handler, and a reclaim pass has run. -/
def reclaimedDelete : InboxState :=
  deletingState 900 (.processing 0 [.dispatch (some "alice")])
    (Table.singleton (deleteRow (some 900))) (Table.singleton remoteNote)

theorem callingDelete_reachable :
    ∃ trace, InboxRun trace (callingDelete 0) ∧ Along StaleClaimsApplied trace := by
  have held : InboxStep InboxState.initial
      (.write (Table.singleton remoteNote) ["https://h/users/a"])
      { InboxState.initial with
        statuses := Table.singleton remoteNote, actors := ["https://h/users/a"] } :=
    InboxStep.write _ _ _
  have received := InboxStep.receive
    { InboxState.initial with
      statuses := Table.singleton remoteNote, actors := ["https://h/users/a"] }
    "https://h/users/a" "https://h/users/a/statuses/1#delete" "Delete"
    (some "https://h/users/a/statuses/1") ["alice"] (rfl : Table.find _ 0 = none)
  have got : (deletingState 0 .received Table.empty (Table.singleton remoteNote)).requests.find 0
      = some (deleteRequest .received) := by decide
  have begun : InboxStep
      (deletingState 0 .received Table.empty (Table.singleton remoteNote)) (.begin 0)
      (callingDelete 0) :=
    InboxStep.begin _ got rfl rfl
  refine ⟨_, ((Run.start.snoc held).snoc received).snoc begun, ?_⟩
  simp [Along, StaleClaimsApplied]

theorem reclaim_step :
    InboxStep (callingDelete 900) (.reclaimMark 50 [deleteRow none]) reclaimedDelete := by
  have cands : (callingDelete 900).activities.select
      (reclaimable (callingDelete 900).now (callingDelete 900).statuses (callingDelete 900).actors)
        = [deleteRow none] := by decide
  exact InboxStep.reclaimMark _ (cands ▸ Selection.singleton (by decide))

/-- The handler has deleted the status and returned; the mark never ran. -/
def handledDelete (now : Nat) (processedAt : Option Nat) : InboxState :=
  deletingState now (.processing 0 []) (Table.singleton (deleteRow processedAt)) Table.empty

end Cfwdon.Inbox
