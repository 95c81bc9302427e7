import Cfwdon.Library.Lists
import Cfwdon.Library.Run
import Cfwdon.Remote.Ingestion

/-!
# Hosts own their statuses

A host should own the statuses under its URIs: each stored row has an object and an
actor of one authority, and documents that came from one host only insert and
change the rows of that host.

Only link resolution compares the id of an object with anything.  The inbox checks
who an object is attributed to and hydration which actor it names, but neither looks
at the id, and the write replaces the row stored under it.  So the law holds of a run
exactly if the ids of the documents that came in on these two paths were of the host
they came from.
-/

namespace Cfwdon.Remote

open Library ActivityPub Federation

/-- The object and the actor of a row are of a host. -/
def RemoteStatus.OfHost (status : RemoteStatus) (host : String) : Prop :=
  remoteHttpAuthority status.objectUri = some host ∧ remoteHttpAuthority status.actorUri = some host

/-- The object and the actor of every row are of one host. -/
def HostsAgree (statuses : RemoteStatuses) : Prop :=
  ∀ status ∈ statuses.rows, ∃ host, status.OfHost host

def shownUnder (statuses : RemoteStatuses) (objectUri : String) :
    Option (String × StatusContent) :=
  (statuses.find objectUri).map fun status => (status.actorUri, status.content)

/-- A row that is new, or shows another actor or content than before, is and was a row
of the host. -/
def ChangesOnly (host : String) (before after : RemoteStatuses) : Prop :=
  ∀ status ∈ after.rows,
    shownUnder before status.objectUri ≠ some (status.actorUri, status.content) →
    status.OfHost host
      ∧ ∀ earlier, before.find status.objectUri = some earlier → earlier.OfHost host

def RemoteDocument.CameOnlyFrom (document : RemoteDocument) (host : String) : Prop :=
  ∀ source ∈ document.sources, remoteHttpAuthority source = some host

/-- What an event stores came from a host only.  An event that stores no document
came from any host. -/
def IngestionEvent.CameOnlyFrom : IngestionEvent → String → Prop
  | .store pending _, host => pending.document.CameOnlyFrom host
  | _, _ => True

/-- **Hosts own their statuses**, at one step. -/
def HostsOwnStatuses (before : IngestionState) (event : IngestionEvent)
    (after : IngestionState) : Prop :=
  HostsAgree after.statuses
    ∧ ∀ host, event.CameOnlyFrom host → ChangesOnly host before.statuses after.statuses

/-! ## When it holds -/

/-- The id of a document is of the host of its actor, and of the one host the document
came from unless the row already shows this actor and this content. -/
def IdOfItsHost (formats : Formats) (statuses : RemoteStatuses) (document : RemoteDocument) :
    Prop :=
  ∀ objectUri, incomingObjectUri document.object = some objectUri →
    ∃ host, remoteHttpAuthority objectUri = some host
      ∧ remoteHttpAuthority document.actor.actorUri = some host
      ∧ ∀ source, document.CameOnlyFrom source → source = host
        ∨ shownUnder statuses objectUri
          = some (document.actor.actorUri, incomingContent formats document.object)

/-- The condition on the documents stored from the inbox and from hydration. -/
def StoresIdsOfTheirHost (formats : Formats) (before : IngestionState)
    (event : IngestionEvent) : Prop :=
  match event with
  | .store ⟨.resolution, _⟩ _ => True
  | .store ⟨_, document⟩ _ => IdOfItsHost formats before.statuses document
  | _ => True

/-- What link resolution still has to store is on its host. -/
def ResolvedOnTheirHost (state : IngestionState) : Prop :=
  ∀ task ∈ state.tasks, ∀ pending ∈ task, pending.path = .resolution → pending.document.OnItsHost

variable {formats : Formats} {instanceDomain : String} {statuses after : RemoteStatuses}
  {document : RemoteDocument} {status : RemoteStatus} {host : String}

/-- A document on its host meets the condition, whatever is stored. -/
theorem idOfItsHost_of_onItsHost (onHost : document.OnItsHost) :
    IdOfItsHost formats statuses document := by
  intro objectUri named
  obtain ⟨host, ofObject, ofActor, source, mem, ofSource⟩ := onHost objectUri named
  refine ⟨host, ofObject, ofActor, fun other cameFrom => Or.inl ?_⟩
  have eq := cameFrom source mem
  rw [ofSource] at eq
  exact (Option.some.inj eq).symm

/-! ## Rows -/

theorem shownUnder_of_find (got : statuses.find status.objectUri = some status) :
    shownUnder statuses status.objectUri = some (status.actorUri, status.content) := by
  rw [shownUnder, got]
  rfl

theorem hostsOwn_of_rows_stored (agree : HostsAgree statuses)
    (held : ∀ status ∈ after.rows, statuses.find status.objectUri = some status) :
    HostsAgree after ∧ ∀ host, ChangesOnly host statuses after := by
  constructor
  · intro status mem
    exact agree status (Table.mem_of_find (held status mem))
  · intro host status mem changed
    exact absurd (shownUnder_of_find (held status mem)) changed

theorem RemoteStatus.OfHost.unique {other : String} {prior : RemoteStatus}
    (ofHost : status.OfHost host) (sameObject : prior.objectUri = status.objectUri)
    (agree : prior.OfHost other) : prior.OfHost host := by
  have eq : other = host := by
    have both := agree.1
    rw [sameObject, ofHost.1] at both
    exact (Option.some.inj both).symm
  exact eq ▸ agree

/-- A table after the write of a document: the row of the document under one object
URI, and other rows that were stored before. -/
structure WrittenBy (formats : Formats) (document : RemoteDocument) (statuses : RemoteStatuses)
    (objectUri : String) (status : RemoteStatus) (after : RemoteStatuses) : Prop where
  named : incomingObjectUri document.object = some objectUri
  shows : ShowsObject formats document.actor document.object objectUri status
  written : after.find objectUri = some status
  others : ∀ row ∈ after.rows, row.objectUri ≠ objectUri → statuses.find row.objectUri = some row

section Write

variable {objectUri : String}

theorem WrittenBy.eq_or_stored (writes : WrittenBy formats document statuses objectUri status after)
    {row : RemoteStatus} (mem : row ∈ after.rows) :
    row = status ∨ statuses.find row.objectUri = some row := by
  by_cases eq : row.objectUri = objectUri
  · left
    have got := Table.find_of_mem mem
    rw [eq, writes.written] at got
    exact (Option.some.inj got).symm
  · exact Or.inr (writes.others row mem eq)

/-- The table showed the document before exactly if its row is not changed. -/
theorem WrittenBy.shownUnder_iff
    (writes : WrittenBy formats document statuses objectUri status after) :
    shownUnder statuses status.objectUri = some (status.actorUri, status.content)
      ↔ shownUnder statuses objectUri
        = some (document.actor.actorUri, incomingContent formats document.object) := by
  rw [writes.shows.objectUri, writes.shows.actorUri, writes.shows.content]

theorem WrittenBy.idOfItsHost
    (writes : WrittenBy formats document statuses objectUri status after)
    (agree : HostsAgree after)
    (changesOnly : ∀ host, document.CameOnlyFrom host → ChangesOnly host statuses after) :
    IdOfItsHost formats statuses document := by
  intro uri sameNamed
  cases writes.named.symm.trans sameNamed
  have mem : status ∈ after.rows := Table.mem_of_find writes.written
  obtain ⟨host, ofObject, ofActor⟩ := agree status mem
  rw [writes.shows.objectUri] at ofObject
  refine ⟨host, ofObject, writes.shows.actorUri ▸ ofActor, fun source cameFrom => ?_⟩
  by_cases eq : shownUnder statuses objectUri
      = some (document.actor.actorUri, incomingContent formats document.object)
  · exact Or.inr eq
  · left
    have ofSource := (changesOnly source cameFrom status mem (mt writes.shownUnder_iff.mp eq)).1.1
    rw [writes.shows.objectUri, ofObject] at ofSource
    exact (Option.some.inj ofSource).symm

theorem WrittenBy.hostsOwn
    (writes : WrittenBy formats document statuses objectUri status after)
    (agree : HostsAgree statuses) (ofItsHost : IdOfItsHost formats statuses document) :
    HostsAgree after ∧ ∀ host, document.CameOnlyFrom host → ChangesOnly host statuses after := by
  obtain ⟨host, ofObject, ofActor, only⟩ := ofItsHost objectUri writes.named
  have ofHost : status.OfHost host :=
    ⟨writes.shows.objectUri ▸ ofObject, writes.shows.actorUri ▸ ofActor⟩
  constructor
  · intro row mem
    rcases writes.eq_or_stored mem with rfl | held
    · exact ⟨host, ofHost⟩
    · exact agree row (Table.mem_of_find held)
  · intro source cameFrom row mem changed
    rcases writes.eq_or_stored mem with rfl | held
    · rcases only source cameFrom with rfl | eq
      · refine ⟨ofHost, fun prior got => ?_⟩
        obtain ⟨other, agrees⟩ := agree prior (Table.mem_of_find got)
        exact ofHost.unique (Table.key_of_find got) agrees
      · exact absurd (writes.shownUnder_iff.mpr eq) changed
    · exact absurd (shownUnder_of_find held) changed

/-- **One write keeps the law exactly under the condition.** -/
theorem WrittenBy.hostsOwn_iff
    (writes : WrittenBy formats document statuses objectUri status after)
    (agree : HostsAgree statuses) :
    (HostsAgree after ∧ ∀ host, document.CameOnlyFrom host → ChangesOnly host statuses after)
      ↔ IdOfItsHost formats statuses document :=
  ⟨fun ⟨agreeAfter, changesOnly⟩ => writes.idOfItsHost agreeAfter changesOnly,
    writes.hostsOwn agree⟩

end Write

/-! ## Steps -/

variable {before next : IngestionState} {event : IngestionEvent}

theorem stored_of_mem_storeActor (actor : RemoteActorProfile)
    (mem : status ∈ (before.storeActor actor).statuses.rows) :
    before.statuses.find status.objectUri = some status :=
  find_of_clearHandles (Table.find_of_mem mem)

/-- Storing a document keeps the law exactly under the condition. -/
theorem hostsOwn_storeStatus_iff (before : IngestionState) (call : UpsertCall)
    (agree : HostsAgree before.statuses) :
    let next := (before.storeActor document.actor).storeStatus formats call document
    (HostsAgree next.statuses
        ∧ ∀ host, document.CameOnlyFrom host → ChangesOnly host before.statuses next.statuses)
      ↔ IdOfItsHost formats before.statuses document := by
  intro next
  cases result : upsertRemoteStatus formats call document.actor document.object
      (before.storeActor document.actor).statuses with
  | error issue =>
    have eq : next = before.storeActor document.actor := by
      simp only [next, IngestionState.storeStatus, result]
    have unnamed : ∀ objectUri, incomingObjectUri document.object ≠ some objectUri := by
      intro objectUri named
      obtain ⟨written, ok⟩ := upsertRemoteStatus_eq_ok_iff.mpr ⟨objectUri, named⟩
      rw [result] at ok
      cases ok
    have kept := hostsOwn_of_rows_stored agree fun status mem =>
      stored_of_mem_storeActor document.actor (eq ▸ mem)
    constructor
    · intro _ objectUri named
      exact absurd named (unnamed objectUri)
    · intro _
      exact ⟨kept.1, fun host _ => kept.2 host⟩
  | ok written =>
    have eq : next.statuses = written := by
      simp only [next, IngestionState.storeStatus, result]
    obtain ⟨objectUri, status, named, shows, finds⟩ := find_upsertRemoteStatus result
    have writes : WrittenBy formats document before.statuses objectUri status written := by
      refine ⟨named, shows, by rw [finds, if_pos rfl], fun row mem other => ?_⟩
      have got := Table.find_of_mem mem
      rw [finds, if_neg other] at got
      exact find_of_clearHandles got
    rw [eq]
    exact writes.hostsOwn_iff agree

theorem hostsOwnStatuses_of_same (agree : HostsAgree before.statuses)
    (eq : next.statuses = before.statuses) : HostsOwnStatuses before event next := by
  have kept := hostsOwn_of_rows_stored agree fun status (mem : status ∈ next.statuses.rows) =>
    Table.find_of_mem (eq ▸ mem)
  exact ⟨kept.1, fun host _ => kept.2 host⟩

/-- **A step keeps the law exactly under the condition.** -/
theorem IngestionStep.hostsOwn_iff
    (step : IngestionStep formats instanceDomain before event next)
    (got : ResolvedOnTheirHost before) (agree : HostsAgree before.statuses) :
    HostsOwnStatuses before event next ↔ StoresIdsOfTheirHost formats before event := by
  cases step with
  | receive delivery _ | hydrate web _ | resolve web _ | abandon _ =>
    exact iff_of_true (hostsOwnStatuses_of_same agree rfl) trivial
  | storeActor actor =>
    have kept := hostsOwn_of_rows_stored agree fun status mem =>
      stored_of_mem_storeActor actor mem
    exact iff_of_true ⟨kept.1, fun host _ => kept.2 host⟩ trivial
  | @store call prior later waits rest taken =>
    refine (hostsOwn_storeStatus_iff { before with tasks := prior ++ rest :: later } call
      agree).trans ?_
    obtain ⟨path, document⟩ := waits
    cases path with
    | inbox | hydration => exact Iff.rfl
    | resolution =>
      refine iff_of_true (idOfItsHost_of_onItsHost ?_) trivial
      exact got ((⟨.resolution, document⟩ : PendingDocument) :: rest) (by simp [taken])
        ⟨.resolution, document⟩ (by simp) rfl

theorem ResolvedOnTheirHost.of_taken {prior later : List (List PendingDocument)}
    {waits : PendingDocument} {rest : List PendingDocument}
    (got : ResolvedOnTheirHost before)
    (taken : before.tasks = prior ++ (waits :: rest) :: later)
    (left : next.tasks = prior ++ rest :: later) : ResolvedOnTheirHost next := by
  intro task mem
  rw [left] at mem
  rcases eq_or_mem_of_mem_replaced (waits :: rest) mem with rfl | old
  · intro other inRest
    exact got (waits :: task) (by simp [taken]) other (List.mem_cons_of_mem _ inRest)
  · exact got task (taken ▸ old)

theorem ResolvedOnTheirHost.schedule {path : IngestionPath} {documents : List RemoteDocument}
    (got : ResolvedOnTheirHost before)
    (onHost : path = .resolution → ∀ document ∈ documents, document.OnItsHost) :
    ResolvedOnTheirHost (before.schedule path documents) := by
  intro task mem waits inTask isResolution
  rcases List.mem_append.mp mem with old | new
  · exact got task old waits inTask isResolution
  · rw [List.mem_singleton.mp new] at inTask
    obtain ⟨document, inDocuments, rfl⟩ := List.mem_map.mp inTask
    exact onHost isResolution document inDocuments

/-- **Link resolution schedules documents on their host**, and no step brings others
in. -/
theorem ResolvedOnTheirHost.step (got : ResolvedOnTheirHost before)
    (step : IngestionStep formats instanceDomain before event next) :
    ResolvedOnTheirHost next := by
  cases step with
  | receive delivery _ | hydrate web _ =>
    exact got.schedule fun isResolution => by cases isResolution
  | resolve web _ =>
    refine got.schedule fun _ document mem => ?_
    exact onItsHost_of_resolved (Option.mem_toList.mp mem)
  | abandon taken => exact got.of_taken taken rfl
  | storeActor actor => exact got
  | store call taken =>
    refine got.of_taken taken ?_
    unfold IngestionState.storeStatus
    split <;> rfl

/-- **Hosts own their statuses, throughout a run, exactly if every document the inbox
and hydration store has an id of the host it came from.** -/
theorem hosts_own_statuses_iff {start finish : IngestionState}
    {trace : List (Transition IngestionState IngestionEvent)}
    (run : Run (IngestionStep formats instanceDomain) start trace finish)
    (idle : start.tasks = []) (agree : HostsAgree start.statuses) :
    (Throughout HostsOwnStatuses trace ↔ Along (StoresIdsOfTheirHost formats) trace)
      ∧ (Along (StoresIdsOfTheirHost formats) trace → HostsAgree finish.statuses) := by
  have init : ResolvedOnTheirHost start := by
    intro task mem
    rw [idle] at mem
    cases mem
  exact run.throughout_iff_along_keeping init agree
    (fun got taken => got.step taken)
    (fun owns => owns.1)
    (fun got agrees taken => taken.hostsOwn_iff got agrees)

/-! ## A note under a URI of another host -/

def noteBy (author id : String) : Json :=
  .object [("attributedTo", .string author), ("content", .string "hi"), ("id", .string id),
    ("to", .string "as:Public"), ("type", .string "Note")]

/-- The JSON text of the note; it has no time to normalize. -/
def noteFormats (author id : String) : Formats where
  normalizeTimestamp _ := none
  jsonText _ := "\x7b\"attributedTo\":\"" ++ author ++ "\",\"content\":\"hi\",\"id\":\"" ++ id
    ++ "\",\"to\":\"as:Public\",\"type\":\"Note\"\x7d"

def mallory : RemoteActorProfile where
  actorUri := "https://evil.example/users/mallory"
  username := "mallory"
  domain := "evil.example"
  inboxUri := "https://evil.example/inbox"
  sharedInboxUri := none
  publicKeyId := "https://evil.example/users/mallory#main-key"
  publicKeyPem := "pem"

/-- A `Create` mallory signed, of a note with the given id. -/
def createBy (id : String) : InboxDelivery where
  signer := mallory
  activity := .object [("type", .string "Create"), ("actor", .string mallory.actorUri),
    ("object", noteBy mallory.actorUri id)]
  accounts := ["ana"]
  pollVote _ := .ok false

def documentBy (id : String) : RemoteDocument :=
  ⟨mallory, noteBy mallory.actorUri id, [mallory.actorUri]⟩

def noteCall : UpsertCall where
  statusId := "2"
  revisionAt := "2026-01-01T00:00:00.000Z"
  receivedAt := "2026-01-01T00:00:00.000Z"
  localQuoteTarget _ := none
  localStatusId _ := none

/-- A note of another host. -/
def victimStatus : RemoteStatus where
  id := "1"
  actorUri := "https://victim.example/users/bob"
  objectUri := "https://victim.example/notes/1"
  url := none
  inReplyToUri := none
  boostOfUri := none
  quoteOfUri := none
  contentHtml := "<p>bob</p>"
  textContent := "bob"
  spoilerText := ""
  visibility := .publicPost
  sensitive := false
  language := none
  quoteState := .accepted
  publishedAt := "2025-12-31T00:00:00.000Z"
  rawObjectJson := "\x7b\"content\":\"bob\",\"type\":\"Note\"\x7d"
  editedAt := none
  inReplyToId := none

def victimStored : IngestionState where
  actors := Table.empty
  statuses := Table.singleton victimStatus
  tasks := []

/-- After the delivery is received. -/
def createReceived (id : String) : IngestionState :=
  victimStored.schedule .inbox (documentOfDelivery "local.example" (createBy id))

/-- After the note is stored. -/
def createStored (id : String) : IngestionState :=
  ({ victimStored with tasks := [] ++ [] :: [] }.storeActor mallory).storeStatus
    (noteFormats mallory.actorUri id) noteCall (documentBy id)

def createTrace (id : String) : List (Transition IngestionState IngestionEvent) :=
  [⟨victimStored, .receive (createBy id), createReceived id⟩,
    ⟨createReceived id, .store ⟨.inbox, documentBy id⟩ noteCall, createStored id⟩]

theorem createReceived_store (id : String) :
    IngestionStep (noteFormats mallory.actorUri id) "local.example" (createReceived id)
      (.store ⟨.inbox, documentBy id⟩ noteCall) (createStored id) :=
  IngestionStep.store noteCall (by rfl)

theorem create_reachable (id : String) :
    Run (IngestionStep (noteFormats mallory.actorUri id) "local.example") victimStored
      (createTrace id) (createStored id) :=
  Run.snoc (Run.snoc Run.start (.receive (createBy id) rfl)) (createReceived_store id)

theorem authority_mallory : remoteHttpAuthority mallory.actorUri = some "evil.example" := by
  decide +kernel

theorem authority_victimStatus :
    remoteHttpAuthority victimStatus.objectUri = some "victim.example" := by
  decide +kernel

theorem hostsAgree_victimStored : HostsAgree victimStored.statuses := by
  intro status mem
  rw [List.mem_singleton.mp mem]
  exact ⟨"victim.example", authority_victimStatus, by decide +kernel⟩

/-- **A `Create` takes over a status of another host.**  Mallory signs a note of its own
under the URI of the note of bob; the inbox finds the note attributed to the signer,
and the row of bob shows the actor and the content of mallory. -/
theorem foreign_create_overwrites_status :
    ¬ ∀ (formats : Formats) (instanceDomain : String) (start finish : IngestionState)
        (trace : List (Transition IngestionState IngestionEvent)),
      Run (IngestionStep formats instanceDomain) start trace finish →
      start.tasks = [] → HostsAgree start.statuses →
      Throughout HostsOwnStatuses trace := by
  intro law
  have throughout := law _ _ _ _ _ (create_reachable victimStatus.objectUri) rfl
    hostsAgree_victimStored
  have last : HostsOwnStatuses (createReceived victimStatus.objectUri) _ _ :=
    throughout ⟨createReceived victimStatus.objectUri,
      .store ⟨.inbox, documentBy victimStatus.objectUri⟩ noteCall,
      createStored victimStatus.objectUri⟩ (by simp [createTrace])
  have nothingResolved : ResolvedOnTheirHost (createReceived victimStatus.objectUri) := by
    intro task mem waits inTask isResolution
    rw [List.mem_singleton.mp mem] at inTask
    rw [List.mem_singleton.mp inTask] at isResolution
    cases isResolution
  obtain ⟨host, ofObject, ofActor, -⟩ :=
    ((createReceived_store _).hostsOwn_iff nothingResolved hostsAgree_victimStored).mp last
      victimStatus.objectUri (by decide +kernel)
  have eq : remoteHttpAuthority victimStatus.objectUri = remoteHttpAuthority mallory.actorUri :=
    ofObject.trans ofActor.symm
  rw [authority_victimStatus, authority_mallory] at eq
  exact absurd eq (by decide)

/-- A note under a URI of its own host is stored beside the note of bob, and the law
holds. -/
theorem hosts_own_statuses_iff_own_note :
    Throughout HostsOwnStatuses (createTrace "https://evil.example/notes/1")
      ∧ HostsAgree (createStored "https://evil.example/notes/1").statuses := by
  obtain ⟨exactly, good⟩ := hosts_own_statuses_iff
    (create_reachable "https://evil.example/notes/1") rfl hostsAgree_victimStored
  have met : Along (StoresIdsOfTheirHost
      (noteFormats mallory.actorUri "https://evil.example/notes/1"))
      (createTrace "https://evil.example/notes/1") := by
    intro move mem
    simp only [createTrace, List.mem_cons, List.not_mem_nil, or_false] at mem
    rcases mem with rfl | rfl
    · trivial
    · intro objectUri named
      have id : incomingObjectUri (noteBy mallory.actorUri "https://evil.example/notes/1")
          = some "https://evil.example/notes/1" := by decide +kernel
      cases id.symm.trans named
      refine ⟨"evil.example", by decide +kernel, authority_mallory,
        fun source cameFrom => Or.inl ?_⟩
      have ofSigner := cameFrom mallory.actorUri (by simp [documentBy])
      exact Option.some.inj (ofSigner.symm.trans authority_mallory)
  exact ⟨exactly.mpr met, good met⟩

end Cfwdon.Remote
