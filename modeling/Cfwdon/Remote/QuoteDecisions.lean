import Cfwdon.Library.Lists
import Cfwdon.Library.Run
import Cfwdon.Remote.Store

/-!
# Quotes and the decisions of their owners

The statements that write the state of a quote, and what becomes of a decided one.
-/

namespace Cfwdon.Remote

section QuoteStates

/-! ## Quote states of remote statuses

The quote state of a remote status is written by three statements: the upsert of a status,
the upsert of a reblog, and the update an owner's decision ends in.  Each comes after reads
of its own, and other statements may run in between: an upsert has read the row before and
what it finds of the quoted status, a decision has read the quote and checked that it is
pending and quotes the owner's status.

A step is the reading or the writing half of one of them.
-/

open Library ActivityPub Statuses

inductive OwnerQuoteAction where
  | approve
  | reject
  | revoke
  deriving DecidableEq

/-- `QuoteState::quote_state_after_owner_action`. -/
def QuoteState.afterOwnerAction (current : QuoteState) : OwnerQuoteAction → QuoteState
  | .approve => if current = .pending then .accepted else current
  | .reject => if current = .pending then .rejected else current
  | .revoke => .revoked

def RemoteStatus.effectiveQuoteState (status : RemoteStatus) : QuoteState :=
  if status.quoteOfUri = none then .accepted else status.quoteState

/-- The check of `apply_owner_action_to_remote_quote`. -/
def RemoteStatus.isPendingQuoteOf (status : RemoteStatus) (targetUri : String) : Bool :=
  status.quoteOfUri == some targetUri && status.effectiveQuoteState == .pending

/-- By id, whatever the row has become. -/
def updateRemoteStatusQuoteState (statusId : String) (quoteState : QuoteState) :
    Update RemoteStatus RemoteStatus.objectUri where
  guard status := status.id == statusId
  set status := { status with quoteState := quoteState }
  keeps _ := rfl

/-! ## Reblogs -/

/-- `build_remote_reblog_store_intent`, up to the merged quote state. -/
def buildRemoteReblogStoreIntent (formats : Formats) (call : UpsertCall)
    (actor : RemoteActorProfile) (activity : Json) (objectUri boostOfUri : String) :
    RemoteStatus where
  id := call.statusId
  actorUri := actor.actorUri
  objectUri := objectUri
  url := none
  inReplyToUri := none
  boostOfUri := some boostOfUri
  quoteOfUri := quoteTargetUriFromObject activity
  contentHtml := ""
  textContent := ""
  spoilerText := ""
  visibility := incomingVisibility activity
  sensitive := false
  language := none
  quoteState :=
    initialQuoteState (quoteTargetUriFromObject activity)
      ((quoteTargetUriFromObject activity).bind call.localQuoteTarget)
  publishedAt :=
    if incomingPublishedAt formats activity = "" then call.receivedAt
    else incomingPublishedAt formats activity
  rawObjectJson := formats.jsonText activity
  editedAt := none
  inReplyToId := none

/-- The row `upsert_remote_reblog_status` writes. -/
def incomingReblog (formats : Formats) (call : UpsertCall) (actor : RemoteActorProfile)
    (activity : Json) (rawUri objectUri boostOfUri : String) (statuses : RemoteStatuses) :
    RemoteStatus :=
  let intent := buildRemoteReblogStoreIntent formats call actor activity objectUri boostOfUri
  match statuses.find rawUri with
  | none => intent
  | some previous =>
    { intent with
      quoteState := mergedQuoteStateForRemoteUpsert previous.quoteState intent.quoteState }

/-- `ON CONFLICT(object_uri) DO UPDATE SET …` of a reblog, which leaves the columns of the
text, the edit and the reply alone. -/
def RemoteStatus.overwriteReblog (excluded stored : RemoteStatus) : RemoteStatus :=
  { excluded with
    id := stored.id
    objectUri := stored.objectUri
    textContent := stored.textContent
    quoteState := mergedQuoteStateForRemoteUpsert stored.quoteState excluded.quoteState
    editedAt := stored.editedAt
    inReplyToId := stored.inReplyToId }

/-! ## Halves of the operations -/

inductive UpsertKind where
  | status
  | reblog
  deriving DecidableEq

/-- What the conflict branch of an upsert makes of the stored row. -/
def UpsertKind.overwrite : UpsertKind → RemoteStatus → RemoteStatus → RemoteStatus
  | .status => RemoteStatus.overwrite
  | .reblog => RemoteStatus.overwriteReblog

theorem UpsertKind.objectUri_overwrite (kind : UpsertKind) (excluded held : RemoteStatus) :
    (kind.overwrite excluded held).objectUri = held.objectUri := by
  cases kind <;> rfl

/-- An upsert between its reads and its write. -/
structure PreparedUpsert where
  kind : UpsertKind
  /-- The row to write. -/
  incoming : RemoteStatus
  /-- What was found of the status it quotes. -/
  localTarget : Option RemoteQuoteLocalTarget
  deriving DecidableEq

/-- The reads of `upsert_remote_status`. -/
def prepareStatus (formats : Formats) (call : UpsertCall) (actor : RemoteActorProfile)
    (object : Json) (statuses : RemoteStatuses) : Option PreparedUpsert :=
  match textField object "id", incomingObjectUri object with
  | some rawUri, some objectUri =>
    some
      { kind := .status
        incoming := incomingStatus formats call actor object rawUri objectUri statuses
        localTarget := (quoteTargetUriFromObject object).bind call.localQuoteTarget }
  | _, _ => none

/-- The reads of `upsert_remote_reblog_status`. -/
def prepareReblog (formats : Formats) (call : UpsertCall) (actor : RemoteActorProfile)
    (activity : Json) (statuses : RemoteStatuses) : Option PreparedUpsert :=
  match textField activity "id", incomingObjectUri activity,
      (activityObjectId (activity.get "object")).bind nonBlank with
  | some rawUri, some objectUri, some boostOfUri =>
    some
      { kind := .reblog
        incoming := incomingReblog formats call actor activity rawUri objectUri boostOfUri
          statuses
        localTarget := (quoteTargetUriFromObject activity).bind call.localQuoteTarget }
  | _, _, _ => none

def PreparedUpsert.write (upsert : PreparedUpsert) (statuses : RemoteStatuses) :
    RemoteStatuses :=
  statuses.upsert upsert.incoming (upsert.kind.overwrite upsert.incoming)
    (upsert.kind.objectUri_overwrite upsert.incoming)

/-- A decision between its reads and its write, with the quote as it was read. -/
structure PreparedDecision where
  action : OwnerQuoteAction
  quote : RemoteStatus
  deriving DecidableEq

/-- The reads of `apply_owner_action_to_remote_quote`. -/
def prepareDecision (action : OwnerQuoteAction) (targetUri quoteUri : String)
    (statuses : RemoteStatuses) : Option PreparedDecision :=
  (statuses.find quoteUri).bind fun quote =>
    if quote.isPendingQuoteOf targetUri then some { action := action, quote := quote } else none

def PreparedDecision.write (decision : PreparedDecision) (statuses : RemoteStatuses) :
    RemoteStatuses :=
  (updateRemoteStatusQuoteState decision.quote.id
    (decision.quote.quoteState.afterOwnerAction decision.action)).run statuses

/-! ## Steps -/

/-- The table, and the operations that have read and not written yet. -/
structure QuoteStore where
  statuses : RemoteStatuses
  upserts : List PreparedUpsert
  decisions : List PreparedDecision

inductive QuoteEvent where
  | readUpsert (upsert : PreparedUpsert)
  | writeUpsert (upsert : PreparedUpsert)
  | readDecision (decision : PreparedDecision)
  | writeDecision (decision : PreparedDecision)

/-- One half of an operation. -/
inductive QuoteStep (formats : Formats) : QuoteStore → QuoteEvent → QuoteStore → Prop where
  | readStatus (s : QuoteStore) (call : UpsertCall) (actor : RemoteActorProfile)
      (object : Json) {upsert : PreparedUpsert}
      (prepared : prepareStatus formats call actor object s.statuses = some upsert) :
      QuoteStep formats s (.readUpsert upsert) { s with upserts := upsert :: s.upserts }
  | readReblog (s : QuoteStore) (call : UpsertCall) (actor : RemoteActorProfile)
      (activity : Json) {upsert : PreparedUpsert}
      (prepared : prepareReblog formats call actor activity s.statuses = some upsert) :
      QuoteStep formats s (.readUpsert upsert) { s with upserts := upsert :: s.upserts }
  | writeUpsert (s : QuoteStore) {upsert : PreparedUpsert} {earlier later : List PreparedUpsert}
      (prepared : s.upserts = earlier ++ upsert :: later) :
      QuoteStep formats s (.writeUpsert upsert)
        { s with statuses := upsert.write s.statuses, upserts := earlier ++ later }
  | readDecision (s : QuoteStore) (action : OwnerQuoteAction) (targetUri quoteUri : String)
      {decision : PreparedDecision}
      (prepared : prepareDecision action targetUri quoteUri s.statuses = some decision) :
      QuoteStep formats s (.readDecision decision) { s with decisions := decision :: s.decisions }
  | writeDecision (s : QuoteStore) {decision : PreparedDecision}
      {earlier later : List PreparedDecision}
      (prepared : s.decisions = earlier ++ decision :: later) :
      QuoteStep formats s (.writeDecision decision)
        { s with statuses := decision.write s.statuses, decisions := earlier ++ later }

end QuoteStates

section QuoteDecisions

/-! ## What becomes of a decided quote

An upsert writes the quoted URI and the quote state together, and the state it writes was
found for that very URI; and it leaves a state alone that is rejected or revoked.  So no
remote upsert brings a rejected or revoked quote back, in any order of reads and writes.

The decision of an owner is written by the id of the quote alone.  If an upsert has given
the quote another target since the owner's request read it, an approval accepts the quote
of the new target.
-/

open Library ActivityPub Statuses

/-- Rejected or revoked. -/
def QuoteState.isTakenBack : QuoteState → Bool
  | .rejected => true
  | .revoked => true
  | _ => false

def RemoteStatus.ShowsAccepted (status : RemoteStatus) (target : String) : Prop :=
  status.quoteOfUri = some target ∧ status.effectiveQuoteState = .accepted

/-- The target a step accepts a quote of: an upsert the one its own resolution accepts, an
approval the one the owner was asked about. -/
def QuoteEvent.accepts : QuoteEvent → Option String
  | .writeUpsert upsert =>
    if initialQuoteState upsert.incoming.quoteOfUri upsert.localTarget = .accepted then
      upsert.incoming.quoteOfUri
    else none
  | .writeDecision decision =>
    if decision.action = .approve then decision.quote.quoteOfUri else none
  | _ => none

/-- A quote that is shown as accepted after the step was so before, for the same target, or
the step accepts a quote of this target. -/
def AcceptedForTarget (before : QuoteStore) (event : QuoteEvent) (after : QuoteStore) : Prop :=
  ∀ uri row target, after.statuses.find uri = some row → row.ShowsAccepted target →
    (∃ old, before.statuses.find uri = some old ∧ old.ShowsAccepted target)
      ∨ event.accepts = some target

def UpsertKeepsDecision (before : QuoteStore) (event : QuoteEvent) (after : QuoteStore) :
    Prop :=
  ∀ upsert, event = .writeUpsert upsert → ∀ {uri old}, before.statuses.find uri = some old →
    old.quoteState.isTakenBack = true →
    ∃ row, after.statuses.find uri = some row ∧ row.quoteState = old.quoteState

/-- An approval is written while the quote still has the target it had when it was read, or
has none, or is accepted anyway. -/
def ApprovesCurrentTarget (before : QuoteStore) (event : QuoteEvent) : Prop :=
  ∀ decision, event = .writeDecision decision → decision.action = .approve →
    ∀ {uri row}, before.statuses.find uri = some row → row.id = decision.quote.id →
      row.quoteState = .accepted ∨ row.quoteOfUri = none
        ∨ row.quoteOfUri = decision.quote.quoteOfUri

def WritesNoApproval (_ : QuoteStore) (event : QuoteEvent) : Prop :=
  ∀ decision, event = .writeDecision decision → decision.action ≠ .approve

/-- What is known of the operations that have read and not written yet. -/
structure PreparedWell (s : QuoteStore) : Prop where
  upserts : ∀ upsert ∈ s.upserts, upsert.incoming.quoteState = .accepted →
    initialQuoteState upsert.incoming.quoteOfUri upsert.localTarget = .accepted
  decisions : ∀ decision ∈ s.decisions, decision.quote.quoteState = .pending

/-! ## Merging -/

theorem mergedQuoteState_of_isTakenBack {current incoming : QuoteState}
    (takenBack : current.isTakenBack = true) :
    mergedQuoteStateForRemoteUpsert current incoming = current := by
  cases current with
  | accepted | pending => cases takenBack
  | rejected | revoked => rfl

theorem accepted_of_merged {cur incoming : QuoteState}
    (merged : mergedQuoteStateForRemoteUpsert cur incoming = .accepted) :
    incoming = .accepted := by
  cases cur with
  | accepted | pending => exact merged
  | rejected | revoked => cases merged

theorem showsAccepted_iff {status : RemoteStatus} {target : String} :
    status.ShowsAccepted target
      ↔ status.quoteOfUri = some target ∧ status.quoteState = .accepted := by
  unfold RemoteStatus.ShowsAccepted RemoteStatus.effectiveQuoteState
  constructor
  · rintro ⟨quotes, ok⟩
    rw [if_neg (by simp [quotes])] at ok
    exact ⟨quotes, ok⟩
  · rintro ⟨quotes, ok⟩
    rw [if_neg (by simp [quotes])]
    exact ⟨quotes, ok⟩

theorem UpsertKind.quoteState_overwrite (kind : UpsertKind) (excluded held : RemoteStatus) :
    (kind.overwrite excluded held).quoteState
      = mergedQuoteStateForRemoteUpsert held.quoteState excluded.quoteState := by
  cases kind <;> rfl

theorem UpsertKind.quoteOfUri_overwrite (kind : UpsertKind) (excluded held : RemoteStatus) :
    (kind.overwrite excluded held).quoteOfUri = excluded.quoteOfUri := by
  cases kind <;> rfl

/-! ## The reading halves -/

section Reads

variable {formats : Formats} {call : UpsertCall} {actor : RemoteActorProfile} {object : Json}
  {statuses : RemoteStatuses} {upsert : PreparedUpsert}

/-- **The state a status is prepared with** is accepted only if its own target is. -/
theorem accepted_of_prepareStatus
    (prepared : prepareStatus formats call actor object statuses = some upsert)
    (ok : upsert.incoming.quoteState = .accepted) :
    initialQuoteState upsert.incoming.quoteOfUri upsert.localTarget = .accepted := by
  unfold prepareStatus at prepared
  split at prepared
  case h_1 rawUri objectUri _ _ =>
      cases prepared
      unfold incomingStatus RemoteStatus.afterPrevious at ok ⊢
      cases got : statuses.find rawUri with
      | none =>
        rw [got] at ok
        exact ok
      | some prev =>
        rw [got] at ok
        exact accepted_of_merged ok
  case h_2 => cases prepared

theorem accepted_of_prepareReblog
    (prepared : prepareReblog formats call actor object statuses = some upsert)
    (ok : upsert.incoming.quoteState = .accepted) :
    initialQuoteState upsert.incoming.quoteOfUri upsert.localTarget = .accepted := by
  unfold prepareReblog at prepared
  split at prepared
  case h_1 rawUri objectUri boostOfUri _ _ _ =>
      cases prepared
      unfold incomingReblog at ok ⊢
      cases got : statuses.find rawUri with
      | none =>
        rw [got] at ok
        exact ok
      | some prev =>
        rw [got] at ok
        exact accepted_of_merged ok
  case h_2 => cases prepared

theorem pending_of_prepareDecision {action : OwnerQuoteAction} {targetUri quoteUri : String}
    {decision : PreparedDecision}
    (prepared : prepareDecision action targetUri quoteUri statuses = some decision) :
    decision.quote.quoteState = .pending := by
  obtain ⟨quote, _, read⟩ := Option.bind_eq_some_iff.mp prepared
  split_ifs at read with checked
  cases read
  simp only [RemoteStatus.isPendingQuoteOf, Bool.and_eq_true, beq_iff_eq,
    RemoteStatus.effectiveQuoteState] at checked
  rw [if_neg (by simp [checked.1])] at checked
  exact checked.2

end Reads

/-! ## Steps -/

section Steps

variable {formats : Formats} {before after : QuoteStore} {event : QuoteEvent}

theorem preparedWell_step (well : PreparedWell before)
    (taken : QuoteStep formats before event after) : PreparedWell after := by
  cases taken with
  | readStatus call actor object prepared =>
    refine ⟨?_, well.decisions⟩
    intro upsert mem ok
    rcases List.mem_cons.mp mem with rfl | prior
    · exact accepted_of_prepareStatus prepared ok
    · exact well.upserts upsert prior ok
  | readReblog call actor act prepared =>
    refine ⟨?_, well.decisions⟩
    intro upsert mem ok
    rcases List.mem_cons.mp mem with rfl | prior
    · exact accepted_of_prepareReblog prepared ok
    · exact well.upserts upsert prior ok
  | writeUpsert prepared =>
    refine ⟨fun upsert mem => ?_, well.decisions⟩
    exact well.upserts upsert (prepared ▸ mem_of_mem_taken_out mem)
  | readDecision action targetUri quoteUri prepared =>
    refine ⟨well.upserts, ?_⟩
    intro decision mem
    rcases List.mem_cons.mp mem with rfl | prior
    · exact pending_of_prepareDecision prepared
    · exact well.decisions decision prior
  | writeDecision prepared =>
    refine ⟨well.upserts, fun decision mem => ?_⟩
    exact well.decisions decision (prepared ▸ mem_of_mem_taken_out mem)

/-- **No upsert brings a quote back** that is rejected or revoked. -/
theorem upsert_keeps_decision (taken : QuoteStep formats before event after) :
    UpsertKeepsDecision before event after := by
  rintro upsert rfl uri old got takenBack
  cases taken with
  | writeUpsert prepared =>
    simp only [PreparedUpsert.write, Table.find_upsert]
    by_cases eq : upsert.incoming.objectUri = uri
    · rw [if_pos eq, got]
      refine ⟨_, rfl, ?_⟩
      rw [Option.elim_some, UpsertKind.quoteState_overwrite,
        mergedQuoteState_of_isTakenBack takenBack]
    · rw [if_neg eq]
      exact ⟨old, got, rfl⟩

theorem acceptedForTarget_writeUpsert (well : PreparedWell before) {upsert : PreparedUpsert}
    (taken : QuoteStep formats before (.writeUpsert upsert) after) :
    AcceptedForTarget before (.writeUpsert upsert) after := by
  intro uri row target got shows
  cases taken with
  | @writeUpsert upsert prior later prepared =>
    have mem : upsert ∈ before.upserts := by simp [prepared]
    simp only [PreparedUpsert.write, Table.find_upsert] at got
    by_cases eq : upsert.incoming.objectUri = uri
    · rw [if_pos eq] at got
      obtain ⟨quotes, ok⟩ := showsAccepted_iff.mp shows
      have incoming : upsert.incoming.quoteOfUri = some target
          ∧ upsert.incoming.quoteState = .accepted := by
        cases held : before.statuses.find uri with
        | none =>
          rw [held] at got
          cases got
          exact ⟨quotes, ok⟩
        | some old =>
          rw [held] at got
          cases got
          rw [Option.elim_some, UpsertKind.quoteOfUri_overwrite] at quotes
          rw [Option.elim_some, UpsertKind.quoteState_overwrite] at ok
          exact ⟨quotes, accepted_of_merged ok⟩
      right
      rw [QuoteEvent.accepts, if_pos (well.upserts upsert mem incoming.2)]
      exact incoming.1
    · rw [if_neg eq] at got
      exact Or.inl ⟨row, got, shows⟩

theorem afterOwnerAction_eq_accepted_iff {action : OwnerQuoteAction} :
    QuoteState.afterOwnerAction .pending action = .accepted ↔ action = .approve := by
  cases action <;> decide

/-- **The write of a decision** accepts a quote for the target it was read with exactly when
the quote still has that target. -/
theorem acceptedForTarget_writeDecision_iff (well : PreparedWell before)
    {decision : PreparedDecision}
    (taken : QuoteStep formats before (.writeDecision decision) after) :
    AcceptedForTarget before (.writeDecision decision) after
      ↔ ApprovesCurrentTarget before (.writeDecision decision) := by
  cases taken with
  | @writeDecision decision prior later prepared =>
    have waits : decision.quote.quoteState = .pending :=
      well.decisions decision (by simp [prepared])
    have finds : ∀ uri, (decision.write before.statuses).find uri
        = (before.statuses.find uri).map (updateRemoteStatusQuoteState decision.quote.id
          (QuoteState.afterOwnerAction .pending decision.action)).onRow := by
      intro uri
      rw [PreparedDecision.write, waits, Table.find_run]
    constructor
    · rintro kept _ ⟨⟩ approves uri row held sameId
      cases quotes : row.quoteOfUri with
      | none => exact Or.inr (Or.inl rfl)
      | some target =>
        have wrote : (decision.write before.statuses).find uri
            = some { row with quoteState := .accepted } := by
          rw [finds, held, approves, Option.map_some, Update.onRow_of_guard]
          · rfl
          · simpa [updateRemoteStatusQuoteState] using sameId
        rcases kept _ _ _ wrote (showsAccepted_iff.mpr ⟨quotes, rfl⟩) with
          ⟨old, oldStored, shows⟩ | accepts
        · rw [held] at oldStored
          cases oldStored
          exact Or.inl (showsAccepted_iff.mp shows).2
        · rw [QuoteEvent.accepts, if_pos approves] at accepts
          exact Or.inr (Or.inr accepts.symm)
    · intro cur uri row target got shows
      obtain ⟨old, held, rfl⟩ := Option.map_eq_some_iff.mp ((finds uri).symm.trans got)
      obtain ⟨quotes, ok⟩ := showsAccepted_iff.mp shows
      obtain ⟨met, changed⟩ | unchanged := Update.onRow_cases
        (updateRemoteStatusQuoteState decision.quote.id
          (QuoteState.afterOwnerAction .pending decision.action)) old
      · rw [changed] at quotes ok
        have approves := afterOwnerAction_eq_accepted_iff.mp ok
        have sameId : old.id = decision.quote.id := by
          simpa [updateRemoteStatusQuoteState] using met
        rcases cur decision rfl approves held sameId with already | noQuote | eq
        · exact Or.inl ⟨old, held, showsAccepted_iff.mpr ⟨quotes, already⟩⟩
        · exact absurd (noQuote.symm.trans quotes) (by simp)
        · right
          rw [QuoteEvent.accepts, if_pos approves, ← eq]
          exact quotes
      · rw [unchanged] at shows
        exact Or.inl ⟨old, held, shows⟩

/-- **A step accepts a quote only of the target it is about**, exactly when it is not an
approval that comes after the target was changed. -/
theorem acceptedForTarget_iff (well : PreparedWell before)
    (taken : QuoteStep formats before event after) :
    AcceptedForTarget before event after ↔ ApprovesCurrentTarget before event := by
  cases event with
  | readUpsert upsert =>
    have eq : after.statuses = before.statuses := by
      cases taken <;> rfl
    constructor
    · rintro _ decision ⟨⟩
    · intro _ uri row target got shows
      exact Or.inl ⟨row, eq ▸ got, shows⟩
  | writeUpsert upsert =>
    constructor
    · rintro _ decision ⟨⟩
    · intro _
      exact acceptedForTarget_writeUpsert well taken
  | readDecision decision =>
    have eq : after.statuses = before.statuses := by
      cases taken
      rfl
    constructor
    · rintro _ decision ⟨⟩
    · intro _ uri row target got shows
      exact Or.inl ⟨row, eq ▸ got, shows⟩
  | writeDecision decision => exact acceptedForTarget_writeDecision_iff well taken

theorem takenBack_step (well : PreparedWell before)
    (taken : QuoteStep formats before event after) (noApproval : WritesNoApproval before event)
    {uri : String} {old : RemoteStatus} (got : before.statuses.find uri = some old)
    (takenBack : old.quoteState.isTakenBack = true) :
    ∃ row, after.statuses.find uri = some row ∧ row.quoteState.isTakenBack = true := by
  have kept := upsert_keeps_decision taken
  cases taken with
  | readStatus | readReblog | readDecision => exact ⟨old, got, takenBack⟩
  | writeUpsert =>
    obtain ⟨row, wrote, eq⟩ := kept _ rfl got takenBack
    exact ⟨row, wrote, eq ▸ takenBack⟩
  | @writeDecision decision prior later prepared =>
    have waits := well.decisions decision (by simp [prepared])
    refine ⟨_, (Table.find_run _ _ _).trans (congrArg (Option.map _) got), ?_⟩
    rw [waits]
    obtain ⟨_, changed⟩ | unchanged := Update.onRow_cases
      (updateRemoteStatusQuoteState decision.quote.id
        (QuoteState.afterOwnerAction .pending decision.action)) old
    · rw [changed]
      change (QuoteState.afterOwnerAction .pending decision.action).isTakenBack = true
      cases action : decision.action with
      | approve => exact absurd action (noApproval decision rfl)
      | reject | revoke => rfl
    · rw [unchanged]
      exact takenBack

end Steps

/-- **Quotes of remote statuses.**  Along every run of upserts and decisions, in any order of
their reads and writes: no upsert changes a rejected or revoked quote; without approvals such
a quote stays rejected or revoked; and no step accepts a quote for another target than it was
about, exactly when each approval is written before an upsert changes the target. -/
theorem quote_decisions {formats : Formats} {start finish : QuoteStore}
    {trace : List (Transition QuoteStore QuoteEvent)}
    (run : Run (QuoteStep formats) start trace finish) (noUpserts : start.upserts = [])
    (noDecisions : start.decisions = []) :
    Throughout UpsertKeepsDecision trace
      ∧ (Along WritesNoApproval trace → ∀ {uri old}, start.statuses.find uri = some old →
          old.quoteState.isTakenBack = true →
          ∃ row, finish.statuses.find uri = some row ∧ row.quoteState.isTakenBack = true)
      ∧ (Throughout AcceptedForTarget trace ↔ Along ApprovesCurrentTarget trace) := by
  have init : PreparedWell start := by
    constructor
    · rw [noUpserts]
      exact fun _ mem => absurd mem List.not_mem_nil
    · rw [noDecisions]
      exact fun _ mem => absurd mem List.not_mem_nil
  refine ⟨?_, ?_, ?_⟩
  · have met : Along (fun _ _ => True) trace := fun _ _ => trivial
    exact run.forall_transitions init (fun well _ taken => preparedWell_step well taken)
      (fun _ _ taken => upsert_keeps_decision taken) met
  · intro noApprovals uri old got takenBack
    let Kept : QuoteStore → Prop := fun s => PreparedWell s
      ∧ ∃ row, s.statuses.find uri = some row ∧ row.quoteState.isTakenBack = true
    have kept : Kept finish := by
      refine run.invariant (And.intro init ⟨old, got, takenBack⟩) ?_ noApprovals
      rintro before event after ⟨well, row, held, still⟩ noApproval taken
      exact ⟨preparedWell_step well taken, takenBack_step well taken noApproval held still⟩
    exact kept.2
  · refine (Run.throughout_iff_along_from_good run init ?_ ?_).1
    · intro before event after well taken
      exact acceptedForTarget_iff well taken
    · intro before event after well taken _
      exact preparedWell_step well taken

/-! ## An approval that comes too late -/

/-- Formats that change nothing. -/
def plainFormats : Formats where
  normalizeTimestamp := some
  jsonText _ := ""

/-- A note of a remote actor that quotes a local status, waiting for its owner. -/
def waitingQuote : RemoteStatus where
  id := "quote"
  actorUri := "https://remote.example/users/eve"
  objectUri := "https://remote.example/notes/1"
  url := none
  inReplyToUri := none
  boostOfUri := none
  quoteOfUri := some "https://social.example/users/alice/statuses/1"
  contentHtml := ""
  textContent := ""
  spoilerText := ""
  visibility := .direct
  sensitive := false
  language := none
  quoteState := .pending
  publishedAt := "2026-01-01T00:00:00.000Z"
  rawObjectJson := ""
  editedAt := none
  inReplyToId := none

/-- The table with that note, and nothing prepared. -/
def oneWaitingQuote : QuoteStore where
  statuses := Table.singleton waitingQuote
  upserts := []
  decisions := []

def quotingActor : RemoteActorProfile where
  actorUri := "https://remote.example/users/eve"
  username := "eve"
  domain := "remote.example"
  inboxUri := "https://remote.example/users/eve/inbox"
  sharedInboxUri := none
  publicKeyId := "https://remote.example/users/eve#main-key"
  publicKeyPem := ""

/-- An update of the note that quotes a status of another local account instead. -/
def retargetingObject : Json :=
  .object
    [("id", .string "https://remote.example/notes/1"),
      ("quoteUri", .string "https://social.example/users/bob/statuses/2")]

/-- The owner of that status lets nobody quote it. -/
def retargetingCall : UpsertCall where
  statusId := "fresh"
  revisionAt := "2026-01-02T00:00:00.000Z"
  receivedAt := "2026-01-02T00:00:00.000Z"
  localQuoteTarget _ := some { blockedByOwner := false, policyAllows := false }
  localStatusId _ := none

/-- What the update writes. -/
def retargetedUpsert : PreparedUpsert where
  kind := .status
  incoming :=
    { waitingQuote with
      id := "fresh"
      quoteOfUri := some "https://social.example/users/bob/statuses/2"
      publishedAt := "2026-01-02T00:00:00.000Z" }
  localTarget := some { blockedByOwner := false, policyAllows := false }

/-- What the note has become by the end. -/
def wronglyAccepted : RemoteStatus :=
  { waitingQuote with
    quoteOfUri := some "https://social.example/users/bob/statuses/2"
    publishedAt := "2026-01-02T00:00:00.000Z"
    quoteState := .accepted }

/-- The approval, as it was read before the update. -/
def earlyApproval : PreparedDecision where
  action := .approve
  quote := waitingQuote

/-- Without the update, the approval accepts the quote it was read with. -/
theorem quote_decisions_timely_approval :
    ∃ finish trace, Run (QuoteStep plainFormats) oneWaitingQuote trace finish
      ∧ (∃ row, finish.statuses.find "https://remote.example/notes/1" = some row
          ∧ row.ShowsAccepted "https://social.example/users/alice/statuses/1")
      ∧ Throughout AcceptedForTarget trace := by
  have run := (Run.start.snoc
    (@QuoteStep.readDecision plainFormats oneWaitingQuote .approve
      "https://social.example/users/alice/statuses/1" "https://remote.example/notes/1"
      earlyApproval (by decide +kernel))).snoc
    (@QuoteStep.writeDecision _ _ earlyApproval [] [] rfl)
  refine ⟨_, _, run, ⟨{ waitingQuote with quoteState := .accepted }, by decide +kernel,
    showsAccepted_iff.mpr ⟨rfl, rfl⟩⟩, (quote_decisions run rfl rfl).2.2.mpr ?_⟩
  refine Along.snoc_iff.mpr ⟨Along.snoc_iff.mpr ⟨Along.nil, ?_⟩, ?_⟩
  · rintro decision ⟨⟩
  · rintro decision ⟨⟩ _ uri row got _
    obtain rfl := List.mem_singleton.mp (Table.mem_of_find got)
    exact Or.inr (Or.inr rfl)

/-- The owner of the first status approves; the note is accepted as a quote of the second. -/
theorem late_approval_accepts_new_target :
    ∃ finish trace, Run (QuoteStep plainFormats) oneWaitingQuote trace finish
      ∧ (∃ row, finish.statuses.find "https://remote.example/notes/1" = some row
          ∧ row.ShowsAccepted "https://social.example/users/bob/statuses/2")
      ∧ ¬ Throughout AcceptedForTarget trace := by
  have run := (((Run.start.snoc
    (@QuoteStep.readDecision plainFormats oneWaitingQuote .approve
      "https://social.example/users/alice/statuses/1" "https://remote.example/notes/1"
      earlyApproval (by decide +kernel))).snoc
    (@QuoteStep.readStatus _ _ retargetingCall quotingActor retargetingObject retargetedUpsert
      (by decide +kernel))).snoc
    (@QuoteStep.writeUpsert _ _ retargetedUpsert [] [] rfl)).snoc
    (@QuoteStep.writeDecision _ _ earlyApproval [] [] rfl)
  have ok : wronglyAccepted.ShowsAccepted "https://social.example/users/bob/statuses/2" :=
    showsAccepted_iff.mpr ⟨rfl, rfl⟩
  refine ⟨_, _, run, ⟨wronglyAccepted, by decide +kernel, ok⟩, ?_⟩
  intro kept
  have last := (Throughout.snoc_iff.mp kept).2
  rcases last "https://remote.example/notes/1" wronglyAccepted _ (by decide +kernel) ok with
    ⟨old, got, shows⟩ | accepts
  · have waits : some old = some { wronglyAccepted with quoteState := .pending } :=
      got.symm.trans (by decide +kernel)
    cases waits
    exact absurd (showsAccepted_iff.mp shows).2 (by decide)
  · exact absurd accepts (by decide)

end QuoteDecisions

end Cfwdon.Remote
