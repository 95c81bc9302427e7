import Cfwdon.Remote.ReplyArrivals

/-!
# What the links of replies come to

A link fits if it names the stored status that the URI of the reply names, or if there is
no link and a job, or the arrival that will enqueue it, still waits to look for the parent.
-/

namespace Cfwdon.Remote

open Library
open BackgroundJobs (JobRun)

variable (uris : LocalUris) (payloads : ReplyPayloads)

/-- The id of the stored status that the URI of a reply names. -/
def ReplyState.parentOf (s : ReplyState) (status : RemoteStatus) : Option String :=
  status.inReplyToUri.bind (parentId uris s.remote s.locals)

/-- An arrival that will enqueue the job of a row. -/
def Arrival.asksFor (status : RemoteStatus) (arrival : Arrival) : Bool :=
  match arrival.phase with
  | .looking _ => false
  | .stored => arrival.intent.objectUri == status.objectUri
  | .asking statusId => statusId == status.id

/-- The work of the job of a row. -/
def replyWork (status : RemoteStatus) : String × String :=
  (jobResolveInReplyTo, payloads.resolveInReplyToPayload status.id)

/-- A row whose parent will still be looked for. -/
def ReplyState.Awaits (s : ReplyState) (status : RemoteStatus) : Prop :=
  (∃ arrival ∈ s.arrivals, arrival.asksFor status = true)
    ∨ s.queue.HasActive (replyWork payloads status)

/-- The link of a row is right, or there is none yet. -/
def ReplyState.Fits (s : ReplyState) (status : RemoteStatus) : Prop :=
  status.inReplyToId = s.parentOf uris status ∨ status.inReplyToId = none ∧ s.Awaits payloads status

def ReplyState.LinksFit (s : ReplyState) : Prop :=
  ∀ status ∈ s.remote.rows, s.Fits uris payloads status

/-- Every reply is linked to the stored status that its URI names. -/
def ReplyState.LinksRight (s : ReplyState) : Prop :=
  ∀ status ∈ s.remote.rows, status.inReplyToId = s.parentOf uris status

/-- Nothing is in flight, and no job of a reply is pending or running. -/
def ReplyState.Settled (s : ReplyState) : Prop :=
  s.arrivals = [] ∧ s.bodies = []
    ∧ ∀ job ∈ s.queue.jobs.rows, job.jobType = jobResolveInReplyTo → job.isActive = false

/-- An update that changes the URI of the parent links the new parent, or none. -/
def UpdateFits (before : ReplyState) (event : ReplyEvent) (after : ReplyState) : Prop :=
  ∀ intent found stored written, event = .store intent found →
    before.remote.find intent.objectUri = some stored →
    after.remote.find intent.objectUri = some written →
    written.inReplyToUri ≠ stored.inReplyToUri →
    written.inReplyToId = after.parentOf uris written ∨ written.inReplyToId = none

/-- A change of the tables that gives the URI of a reply another meaning finds the reply
without a link and waiting. -/
def ReplyState.Undisturbed (s : ReplyState) (remote : RemoteStatuses) (locals : LocalStatuses)
    (status : RemoteStatus) : Prop :=
  status.inReplyToUri.bind (parentId uris remote locals) ≠ s.parentOf uris status →
    status.inReplyToId = none ∧ s.Awaits payloads status

/-- **The steps that keep the links.**  A status is stored only where no reply that has a
link, or no longer waits, is to it; the row of an arrival gets the parent that its URI
names, or none; a job writes what the URI of its row still names; and no job ends as the
last one of a row without a link whose parent is stored. -/
def KeepsLinks (s : ReplyState) : ReplyEvent → Prop
  | .createLocal status =>
    ∀ reply ∈ s.remote.rows, s.Undisturbed uris payloads s.remote (s.locals.insert status) reply
  | .store intent found =>
    (∀ link, found.or ((s.remote.find intent.objectUri).bind RemoteStatus.inReplyToId)
        = some link →
      intent.inReplyToUri.bind (parentId uris (storeRemoteStatus intent found s.remote) s.locals)
        = some link)
      ∧ ∀ reply ∈ s.remote.rows, reply.objectUri ≠ intent.objectUri →
        s.Undisturbed uris payloads (storeRemoteStatus intent found s.remote) s.locals reply
  | .link statusId found =>
    ∀ reply ∈ s.remote.rows, reply.id = statusId → s.parentOf uris reply = some found
  | .queue event =>
    ∀ reply ∈ s.remote.rows, reply.inReplyToId ≠ s.parentOf uris reply →
      (∃ arrival ∈ s.arrivals, arrival.asksFor reply = true)
        ∨ ∃ job ∈ s.queue.jobs.rows,
          job.asks (replyWork payloads reply).1 (replyWork payloads reply).2 = true
            ∧ job.isActive = true ∧ event.settles job.id = false
  | _ => True

/-! ## What the statements leave -/

variable (intent : RemoteStatus)

section

variable {uris payloads} {s s' : ReplyState} {event : ReplyEvent} {status : RemoteStatus}

/-- The row that an arrival leaves. -/
def ReplyState.written (s : ReplyState) (intent : RemoteStatus) (found : Option String) :
    RemoteStatus :=
  (s.remote.find intent.objectUri).elim (intent.linkedTo found) (intent.linkedTo found).overwrite

theorem ReplyState.written_objectUri (got : Option String) :
    (s.written intent got).objectUri = intent.objectUri := by
  unfold ReplyState.written
  cases held : s.remote.find intent.objectUri with
  | none => rfl
  | some status =>
    exact (RemoteStatus.objectUri_overwrite _ status).trans (Table.key_of_find held)

theorem ReplyState.written_inReplyToUri (got : Option String) :
    (s.written intent got).inReplyToUri = intent.inReplyToUri := by
  unfold ReplyState.written
  cases s.remote.find intent.objectUri <;> rfl

theorem ReplyState.written_inReplyToId (got : Option String) :
    (s.written intent got).inReplyToId
      = got.or ((s.remote.find intent.objectUri).bind RemoteStatus.inReplyToId) := by
  unfold ReplyState.written
  cases s.remote.find intent.objectUri with
  | none => exact (Option.or_none).symm
  | some held => rfl

theorem ReplyState.mem_store_iff (got : Option String) :
    status ∈ (storeRemoteStatus intent got s.remote).rows
      ↔ status = s.written intent got
        ∨ status ∈ s.remote.rows ∧ status.objectUri ≠ intent.objectUri :=
  Table.mem_upsert_iff _ _ _ _

theorem parentId_setInReplyToId (statusId got : String) (remote : RemoteStatuses)
    (locals : LocalStatuses) :
    parentId uris ((setInReplyToId statusId got).run remote) locals
      = parentId uris remote locals := by
  have sameId (row : RemoteStatus) : ((setInReplyToId statusId got).onRow row).id = row.id := by
    rcases Update.onRow_cases (setInReplyToId statusId got) row with ⟨_, changed⟩ | eq
    · rw [changed]
      rfl
    · rw [eq]
  have sameUrl (row : RemoteStatus) : ((setInReplyToId statusId got).onRow row).url = row.url := by
    rcases Update.onRow_cases (setInReplyToId statusId got) row with ⟨_, changed⟩ | eq
    · rw [changed]
      rfl
    · rw [eq]
  funext uri
  unfold parentId findRemoteStatusByUrlOrObjectUri
  congr 1
  rw [Table.find_run]
  simp only [Update.run, List.find?_map, Function.comp_def, sameUrl]
  cases remote.find uri with
  | some row => simp [sameId]
  | none =>
    cases remote.rows.find? fun row => decide (row.url = some uri) with
    | some row => simp [sameId]
    | none => rfl

/-! ## Steps and links -/

/-- A row that a step does not write fits after it exactly if the step gives its URI no
other meaning while it has a link or waits no more. -/
theorem ReplyState.fits_iff_undisturbed (fits : s.Fits uris payloads status)
    (awaits : s'.Awaits payloads status ↔ s.Awaits payloads status) :
    s'.Fits uris payloads status ↔ s.Undisturbed uris payloads s'.remote s'.locals status := by
  unfold ReplyState.Undisturbed
  change _ ↔ (s'.parentOf uris status ≠ s.parentOf uris status → _)
  unfold ReplyState.Fits at fits ⊢
  rw [awaits]
  constructor
  · rintro (right | waits) changed
    · rcases fits with pre | waits
      · exact absurd (right.symm.trans pre) changed
      · exact waits
    · exact waits
  · intro calm
    by_cases eq : s'.parentOf uris status = s.parentOf uris status
    · rw [eq]
      exact fits
    · exact Or.inr (calm eq)

theorem ReplyState.linksFit_of_awaits (fit : s.LinksFit uris payloads)
    (sameRemote : s'.remote = s.remote) (sameLocals : s'.locals = s.locals)
    (awaits : ∀ status ∈ s.remote.rows, status.inReplyToId = none →
      status.inReplyToUri.isSome = true → s.Awaits payloads status → s'.Awaits payloads status) :
    s'.LinksFit uris payloads := by
  intro status held
  rw [sameRemote] at held
  have sameParent : s'.parentOf uris status = s.parentOf uris status := by
    rw [ReplyState.parentOf, ReplyState.parentOf, sameRemote, sameLocals]
  unfold ReplyState.Fits
  rw [sameParent]
  rcases fit status held with right | ⟨unlinked, waits⟩
  · exact Or.inl right
  · cases named : status.inReplyToUri with
    | none =>
      rw [unlinked, ReplyState.parentOf, named]
      exact Or.inl rfl
    | some uri =>
      exact Or.inr ⟨unlinked, awaits status held unlinked (by rw [named]; rfl) waits⟩

theorem asked_iff (prior later : List Arrival) (arrival : Arrival) :
    (∃ other ∈ prior ++ arrival :: later, other.asksFor status = true)
      ↔ arrival.asksFor status = true ∨ ∃ other ∈ prior ++ later, other.asksFor status = true := by
  simp only [List.mem_append, List.mem_cons]
  constructor
  · rintro ⟨other, former | rfl | latter, asks⟩
    · exact Or.inr ⟨other, Or.inl former, asks⟩
    · exact Or.inl asks
    · exact Or.inr ⟨other, Or.inr latter, asks⟩
  · rintro (asks | ⟨other, former | latter, asks⟩)
    · exact ⟨arrival, Or.inr (Or.inl rfl), asks⟩
    · exact ⟨other, Or.inl former, asks⟩
    · exact ⟨other, Or.inr (Or.inr latter), asks⟩

/-- **A step of the jobs** keeps the links exactly if the rows that still need one keep a
pending or running job. -/
theorem ReplyState.linksFit_queue_iff {step : BackgroundJobs.Event}
    (fit : s.LinksFit uris payloads) (taken : BackgroundJobs.Step s.queue step s'.queue)
    (sameRemote : s'.remote = s.remote) (sameLocals : s'.locals = s.locals)
    (sameArrivals : s'.arrivals = s.arrivals) :
    s'.LinksFit uris payloads ↔ KeepsLinks uris payloads s (.queue step) := by
  have sameParent (status : RemoteStatus) : s'.parentOf uris status = s.parentOf uris status := by
    rw [ReplyState.parentOf, ReplyState.parentOf, sameRemote, sameLocals]
  unfold ReplyState.LinksFit ReplyState.Fits ReplyState.Awaits
  simp only [KeepsLinks, sameRemote, sameParent, sameArrivals]
  refine forall₂_congr fun status held => ?_
  constructor
  · rintro (right | ⟨_, asked | active⟩) wrong
    · exact absurd right wrong
    · exact Or.inl asked
    · rcases fit status held with right | ⟨_, asked | pre⟩
      · exact absurd right wrong
      · exact Or.inl asked
      · exact Or.inr ((taken.hasActive_iff pre).mp active)
  · intro keeps
    rcases fit status held with right | ⟨unlinked, _⟩
    · exact Or.inl right
    · by_cases right : status.inReplyToId = s.parentOf uris status
      · exact Or.inl right
      · refine Or.inr ⟨unlinked, ?_⟩
        rcases keeps right with asked | ⟨job, here, asks, active, unsettled⟩
        · exact Or.inl asked
        · exact Or.inr (taken.hasActive_of_unsettled here asks active unsettled)

theorem ReplyStep.linksFit_store_iff {intent : RemoteStatus} {got : Option String}
    {prior later : List Arrival} (fit : s.LinksFit uris payloads)
    (held : s.arrivals = prior ++ ⟨intent, .looking (.done got)⟩ :: later)
    (post : s' = { s with
      remote := storeRemoteStatus intent got s.remote
      arrivals := prior ++ ⟨intent, .stored⟩ :: later }) :
    s'.LinksFit uris payloads ↔ KeepsLinks uris payloads s (.store intent got) := by
  have others (status : RemoteStatus) (other : status.objectUri ≠ intent.objectUri) :
      s'.Awaits payloads status ↔ s.Awaits payloads status := by
    unfold ReplyState.Awaits
    rw [held, post, asked_iff, asked_iff]
    simp [Arrival.asksFor, Ne.symm other]
  have own : s'.Fits uris payloads (s.written intent got)
      ↔ ∀ link, got.or ((s.remote.find intent.objectUri).bind RemoteStatus.inReplyToId)
          = some link →
        intent.inReplyToUri.bind (parentId uris (storeRemoteStatus intent got s.remote) s.locals)
          = some link := by
    have waits : s'.Awaits payloads (s.written intent got) := by
      refine Or.inl ?_
      rw [post, asked_iff]
      refine Or.inl ?_
      simp [Arrival.asksFor, ReplyState.written_objectUri]
    unfold ReplyState.Fits ReplyState.parentOf
    rw [ReplyState.written_inReplyToUri, ReplyState.written_inReplyToId, post]
    rw [post] at waits
    cases got.or ((s.remote.find intent.objectUri).bind RemoteStatus.inReplyToId) with
    | none => simp [waits]
    | some link => simp [eq_comm]
  unfold ReplyState.LinksFit
  rw [KeepsLinks, ← own]
  constructor
  · intro fits
    refine ⟨fits _ ?_, ?_⟩
    · rw [post]
      exact (ReplyState.mem_store_iff intent got).mpr (Or.inl rfl)
    · intro reply stored other
      have fitsAfter := fits reply (by
        rw [post]
        exact (ReplyState.mem_store_iff intent got).mpr (Or.inr ⟨stored, other⟩))
      have := (ReplyState.fits_iff_undisturbed (fit reply stored) (others reply other)).mp fitsAfter
      rw [post] at this
      exact this
  · rintro ⟨ownFits, calm⟩ reply stored
    rw [post] at stored
    rcases (ReplyState.mem_store_iff intent got).mp stored with rfl | ⟨pre, other⟩
    · exact ownFits
    · refine (ReplyState.fits_iff_undisturbed (fit reply pre) (others reply other)).mpr ?_
      rw [post]
      exact calm reply pre other

theorem ReplyStep.linksFit_link_iff {statusId got : String}
    {bodies : List (JobRun × Body)} (fit : s.LinksFit uris payloads)
    (post : s' = { s with
      remote := (setInReplyToId statusId got).run s.remote, bodies := bodies }) :
    s'.LinksFit uris payloads ↔ KeepsLinks uris payloads s (.link statusId got) := by
  have sameParent (status : RemoteStatus) : s'.parentOf uris status = s.parentOf uris status := by
    rw [ReplyState.parentOf, ReplyState.parentOf, post, parentId_setInReplyToId]
  have rows : s'.remote.rows = s.remote.rows.map (setInReplyToId statusId got).onRow := by
    rw [post]
    rfl
  unfold ReplyState.LinksFit
  rw [rows, KeepsLinks, List.forall_mem_map]
  refine forall₂_congr fun reply held => ?_
  by_cases isRow : reply.id = statusId
  · have changed : (setInReplyToId statusId got).onRow reply
        = { reply with inReplyToId := some got } :=
      Update.onRow_of_guard (by simp [setInReplyToId, isRow])
    rw [changed, ReplyState.Fits, sameParent]
    simp only [isRow, forall_const, reduceCtorEq, false_and, or_false]
    exact eq_comm
  · have eq : (setInReplyToId statusId got).onRow reply = reply :=
      Update.onRow_of_not_guard (by simp [setInReplyToId, isRow])
    simp only [isRow, false_implies, iff_true]
    rw [eq, ReplyState.Fits, sameParent]
    rcases fit reply held with right | waits
    · exact Or.inl right
    · refine Or.inr ⟨waits.1, ?_⟩
      rw [post]
      exact waits.2

theorem ReplyStep.linksFit_iff (step : ReplyStep uris payloads s event s')
    (fit : s.LinksFit uris payloads) :
    s'.LinksFit uris payloads ↔ KeepsLinks uris payloads s event := by
  cases step with
  | createLocal fresh =>
    exact forall₂_congr fun reply stored =>
      ReplyState.fits_iff_undisturbed (fit reply stored) Iff.rfl
  | arrive intent =>
    refine iff_of_true (ReplyState.linksFit_of_awaits fit rfl rfl ?_) trivial
    rintro status _ _ _ (⟨arrival, mem, asks⟩ | active)
    · exact Or.inl ⟨arrival, List.mem_cons_of_mem _ mem, asks⟩
    · exact Or.inr active
  | readForArrival isReply held =>
    refine iff_of_true (ReplyState.linksFit_of_awaits fit rfl rfl ?_) trivial
    rintro status _ _ _ (asked | active)
    · rw [held, asked_iff] at asked
      exact Or.inl ((asked_iff _ _ _).mpr asked)
    · exact Or.inr active
  | store held fresh => exact ReplyStep.linksFit_store_iff fit held rfl
  | @reloadUnlinked intent got _ _ held stored =>
    refine iff_of_true (ReplyState.linksFit_of_awaits fit rfl rfl ?_) trivial
    rintro status here _ _ (asked | active)
    · rw [held, asked_iff] at asked
      refine Or.inl ((asked_iff _ _ _).mpr (asked.imp_left fun own => ?_))
      have eq : intent.objectUri = status.objectUri := by simpa [Arrival.asksFor] using own
      have isRow : got = status := Table.eq_of_key_eq (Table.mem_of_find stored) here
        ((Table.key_of_find stored).trans eq)
      simp [Arrival.asksFor, isRow]
    · exact Or.inr active
  | @reloadDone intent _ _ held done =>
    refine iff_of_true (ReplyState.linksFit_of_awaits fit rfl rfl ?_) trivial
    rintro status here unlinked isReply (asked | active)
    · rw [held, asked_iff] at asked
      rcases asked with own | asked
      · have eq : intent.objectUri = status.objectUri := by simpa [Arrival.asksFor] using own
        have stored : s.remote.find intent.objectUri = some status := by
          rw [eq]
          exact Table.find_of_mem here
        rcases done status stored with linked | noReply
        · rw [unlinked] at linked
          cases linked
        · rw [noReply] at isReply
          cases isReply
      · exact Or.inl asked
    · exact Or.inr active
  | @ask intent statusId id nextRunAt _ _ _ held queued =>
    refine iff_of_true (ReplyState.linksFit_of_awaits fit rfl rfl ?_) ?_
    · rintro status _ _ _ (asked | ⟨job, stored, asks, active⟩)
      · rw [held, asked_iff] at asked
        rcases asked with own | asked
        · have isRow : statusId = status.id := by simpa [Arrival.asksFor] using own
          refine Or.inr (queued.hasActive_of_enqueued ?_)
          simp [BackgroundJobs.Event.enqueued, replyWork, isRow]
        · exact Or.inl asked
      · exact Or.inr (queued.hasActive_of_unsettled stored asks active rfl)
    · intro reply stored wrong
      rcases fit reply stored with right | ⟨_, asked | ⟨job, here, asks, active⟩⟩
      · exact absurd right wrong
      · exact Or.inl asked
      · exact Or.inr ⟨job, here, asks, active, rfl⟩
  | readStatus held | readForBody held =>
    exact iff_of_true (ReplyState.linksFit_of_awaits fit rfl rfl fun _ _ _ _ waits => waits)
      trivial
  | link held => exact ReplyStep.linksFit_link_iff fit rfl
  | start _ taken | complete _ _ taken | fail _ _ taken | cancel _ taken | other taken =>
    exact ReplyState.linksFit_queue_iff fit taken rfl rfl rfl

theorem ReplyState.linksRight_of_settled (fit : s.LinksFit uris payloads) (done : s.Settled) :
    s.LinksRight uris := by
  intro status held
  obtain ⟨noArrivals, _, inactive⟩ := done
  rcases fit status held with right | ⟨_, ⟨arrival, mem, _⟩ | ⟨job, here, asks, active⟩⟩
  · exact right
  · rw [noArrivals] at mem
    cases mem
  · have isResolve : job.jobType = jobResolveInReplyTo := by
      simp only [BackgroundJobs.BackgroundJob.asks, Bool.and_eq_true, beq_iff_eq] at asks
      exact asks.1
    rw [inactive job here isResolve] at active
    cases active

/-- A state whose links fit is one that updates may lead to. -/
theorem updateFits_of_linksFit (fit : s'.LinksFit uris payloads) : UpdateFits uris s event s' := by
  intro _ _ _ wrote _ _ got _
  exact (fit wrote (Table.mem_of_find got)).imp_right And.left

end

/-! ## A reply before its parent -/

/-- A payload text around the id of a row. -/
def examplePayloads : ReplyPayloads where
  resolveInReplyToPayload id :=
    String.ofList ("\x7b\"remote_status_id\":\"".toList ++ id.toList ++ "\"\x7d".toList)
  remoteStatusId text := some (String.ofList ((text.toList.drop 21).dropLast.dropLast))
  readBack id := by
    simp

/-- An instance of which the URIs below name no status. -/
def exampleUris : LocalUris where
  localStatusIdentityFromUri _ := none
  username _ := none

/-- A public note, a reply if it names a parent. -/
def note (id objectUri : String) (inReplyToUri : Option String) : RemoteStatus where
  id := id
  actorUri := "https://far.example/users/ana"
  objectUri := objectUri
  url := none
  inReplyToUri := inReplyToUri
  boostOfUri := none
  quoteOfUri := none
  contentHtml := ""
  textContent := ""
  spoilerText := ""
  visibility := .publicPost
  sensitive := false
  language := none
  quoteState := .accepted
  publishedAt := "2024-01-01T00:00:00.000Z"
  rawObjectJson := ""
  editedAt := none
  inReplyToId := none

def parentNote : RemoteStatus := note "p" "https://far.example/1" none

def replyNote : RemoteStatus := note "r" "https://far.example/2" (some "https://far.example/1")

def replyJob (status : BackgroundJobs.JobStatus) : BackgroundJobs.BackgroundJob where
  id := "j"
  jobType := jobResolveInReplyTo
  payloadJson := examplePayloads.resolveInReplyToPayload "r"
  status := status
  attempts := 0
  nextRunAt := 0
  lastError := none
  createdAt := 0
  updatedAt := 0

def replyRun : JobRun := ⟨(replyJob .running).returning, 0⟩

/-- The jobs while that job is handled. -/
def replyQueue (status : BackgroundJobs.JobStatus) (waiting running : List JobRun)
    (startLog : List String) (unserved : List (String × String)) : BackgroundJobs.State where
  now := 0
  jobs := Table.singleton (replyJob status)
  waiting := waiting
  running := running
  startLog := startLog
  unserved := unserved

def replyStored : RemoteStatuses := storeRemoteStatus replyNote none Table.empty

/-- The reply is stored, and will ask for its job. -/
def replyArrived : ReplyState :=
  { ReplyState.initial with remote := replyStored, arrivals := [⟨replyNote, .stored⟩] }

/-- The parent is stored after the job of the reply has ended. -/
def parentArrived : ReplyState where
  queue := replyQueue .completed [] [] ["j"] []
  remote := storeRemoteStatus parentNote none replyStored
  locals := Table.empty
  arrivals := []
  bodies := []

theorem replyArrived_reachable :
    ∃ trace, ReplyTrace exampleUris examplePayloads trace replyArrived
      ∧ Along (KeepsLinks exampleUris examplePayloads) trace := by
  have looked (lookup : Lookup) : ReplyStep exampleUris examplePayloads
      { ReplyState.initial with arrivals := [⟨replyNote, .looking lookup⟩] } .read
      { ReplyState.initial with
        arrivals := [⟨replyNote, .looking
          (lookup.read exampleUris "https://far.example/1" Table.empty Table.empty)⟩] } :=
    @ReplyStep.readForArrival _ _ _ replyNote _ lookup [] [] rfl rfl
  have held : ReplyStep exampleUris examplePayloads
      { ReplyState.initial with arrivals := [⟨replyNote, .looking (.done none)⟩] }
      (.store replyNote none) replyArrived :=
    @ReplyStep.store _ _ _ replyNote none [] [] rfl (by simp [ReplyState.initial, Table.empty])
  refine ⟨_, (((((Run.start.snoc (ReplyStep.arrive _ replyNote)).snoc (looked .byObjectUri)).snoc
    (looked .byUrl)).snoc (looked .byApId)).snoc (looked .byIdentity)).snoc held, ?_⟩
  simp [Along, KeepsLinks, ReplyState.initial, Table.empty, Table.find]

def betweenArrivals (queue : BackgroundJobs.State) (arrivals : List Arrival)
    (bodies : List (JobRun × Body)) : ReplyState where
  queue := queue
  remote := replyStored
  locals := Table.empty
  arrivals := arrivals
  bodies := bodies

/-- The work of the reply, as its job asks for it. -/
def exampleWork : String × String :=
  (jobResolveInReplyTo, examplePayloads.resolveInReplyToPayload "r")

theorem parentArrived_reachable :
    ∃ trace pre event, ReplyTrace exampleUris examplePayloads
      (trace ++ [⟨pre, event, parentArrived⟩]) parentArrived := by
  obtain ⟨trace, run, _⟩ := replyArrived_reachable
  have reloaded : ReplyStep exampleUris examplePayloads replyArrived .read
      (betweenArrivals .initial [⟨replyNote, .asking "r"⟩] []) :=
    @ReplyStep.reloadUnlinked _ _ _ replyNote replyNote [] [] rfl (by decide) rfl rfl
  have asked : ReplyStep exampleUris examplePayloads
      (betweenArrivals .initial [⟨replyNote, .asking "r"⟩] [])
      (.queue (.enqueue "j" exampleWork.1 exampleWork.2 0))
      (betweenArrivals (replyQueue .pending [] [] [] [exampleWork]) [] []) :=
    @ReplyStep.ask _ _ _ replyNote "r" "j" 0 _ [] [] rfl (BackgroundJobs.Step.enqueue _ _ _ _ rfl)
  have took : ReplyStep exampleUris examplePayloads
      (betweenArrivals (replyQueue .pending [] [] [] [exampleWork]) [] [])
      (.queue (.claimDue 48 0 [replyJob .pending]))
      (betweenArrivals (replyQueue .running [replyRun] [] [] [exampleWork]) [] []) :=
    ReplyStep.other _
      (BackgroundJobs.Step.claimDue _ (Nat.le_refl _) (Selection.singleton (by decide)))
      (by simp [jobTypeOf])
  have started : ReplyStep exampleUris examplePayloads
      (betweenArrivals (replyQueue .running [replyRun] [] [] [exampleWork]) [] [])
      (.queue (.start replyRun))
      (betweenArrivals (replyQueue .running [] [replyRun] ["j"] []) [] [(replyRun, .begin)]) :=
    ReplyStep.start _ rfl (@BackgroundJobs.Step.start _ replyRun [] [] rfl)
  have opened : ReplyStep exampleUris examplePayloads
      (betweenArrivals (replyQueue .running [] [replyRun] ["j"] []) [] [(replyRun, .begin)]) .read
      (betweenArrivals (replyQueue .running [] [replyRun] ["j"] []) []
        [(replyRun, .looking "r" "https://far.example/1" .byObjectUri)]) :=
    @ReplyStep.readStatus _ _ _ replyRun [] [] rfl
  have looked (lookup : Lookup) : ReplyStep exampleUris examplePayloads
      (betweenArrivals (replyQueue .running [] [replyRun] ["j"] []) []
        [(replyRun, .looking "r" "https://far.example/1" lookup)]) .read
      (betweenArrivals (replyQueue .running [] [replyRun] ["j"] []) []
        [(replyRun, .looking "r" "https://far.example/1"
          (lookup.read exampleUris "https://far.example/1" replyStored Table.empty))]) :=
    @ReplyStep.readForBody _ _ _ replyRun _ _ lookup [] [] rfl
  have done : ReplyStep exampleUris examplePayloads
      (betweenArrivals (replyQueue .running [] [replyRun] ["j"] []) []
        [(replyRun, .looking "r" "https://far.example/1" (.done none))])
      (.queue (.complete replyRun))
      (betweenArrivals (replyQueue .completed [] [] ["j"] []) [] []) :=
    @ReplyStep.complete _ _ _ replyRun _ _ [] [] rfl rfl
      (@BackgroundJobs.Step.complete _ replyRun [] [] rfl)
  have held : ReplyStep exampleUris examplePayloads
      (betweenArrivals (replyQueue .completed [] [] ["j"] [])
        [⟨parentNote, .looking (.done none)⟩] [])
      (.store parentNote none) { parentArrived with arrivals := [⟨parentNote, .stored⟩] } :=
    @ReplyStep.store _ _ _ parentNote none [] [] rfl (by decide)
  have ended : ReplyStep exampleUris examplePayloads
      { parentArrived with arrivals := [⟨parentNote, .stored⟩] } .read parentArrived :=
    @ReplyStep.reloadDone _ _ _ parentNote [] [] rfl (by
      intro status got
      obtain rfl : parentNote = status := Option.some.inj got
      exact Or.inr rfl)
  exact ⟨_, _, _, ((((((((((((run.snoc reloaded).snoc asked).snoc took).snoc started).snoc
    opened).snoc (looked .byObjectUri)).snoc (looked .byUrl)).snoc (looked .byApId)).snoc
    (looked .byIdentity)).snoc done).snoc (ReplyStep.arrive _ parentNote)).snoc
    held).snoc ended⟩

theorem parentArrived_settled : parentArrived.Settled :=
  ⟨rfl, rfl, by decide⟩

end Cfwdon.Remote
