import Cfwdon.Inbox.StatusTables
import Mathlib.Data.List.Dedup

/-!
# Storing a status again

A status that was just stored is stored again for the next recipient of the same delivery.
Nothing gives way to its actor any more, the row has the values that are written, its parts
are replaced by themselves, and its jobs wait already.  Only the status a reply names is
looked up anew, and it can be the reply itself.
-/

namespace Cfwdon.Inbox

open Library Library.Attempt ActivityPub BackgroundJobs
open Remote Statuses

section Jobs

variable {env : InboxEnvironment} {jobType payloadJson jobType' payloadJson' : String}
  {jobs : JobTable} {actor : RemoteActorProfile} {status : RemoteStatus}

/-- Nothing is inserted for a piece of work: it waits, or its id is taken. -/
def Occupied (env : InboxEnvironment) (jobType payloadJson : String) (jobs : JobTable) : Prop :=
  (∃ job ∈ jobs.rows, job.asks jobType payloadJson = true ∧ job.isActive = true)
    ∨ env.jobId jobType ∈ jobs.rows.map (·.id)

theorem enqueueJob_cases (env : InboxEnvironment) (jobType payloadJson : String)
    (jobs : JobTable) :
    (enqueueJob env jobType payloadJson jobs = jobs ∧ Occupied env jobType payloadJson jobs)
      ∨ (enqueueJob env jobType payloadJson jobs).rows
        = jobs.rows ++ [pendingJob (env.jobId jobType) jobType payloadJson env.now env.now] := by
  rw [enqueueJob, softEnqueueBackgroundJob]
  split_ifs with waits
  · left
    obtain ⟨job, mem, both⟩ := List.any_eq_true.mp waits
    exact ⟨rfl, .inl ⟨job, mem, (Bool.and_eq_true ..).mp both⟩⟩
  · obtain ⟨eq, taken | conflict⟩ | ⟨fresh, added, _⟩ :=
      Table.orIgnore_cases (fun _ _ => false)
        (pendingJob (env.jobId jobType) jobType payloadJson env.now env.now) jobs
    · exact .inl ⟨eq, .inr taken⟩
    · simp [Table.exists?] at conflict
    · right
      rw [Table.insert, added]
      rfl

theorem enqueueJob_of_occupied (occupied : Occupied env jobType payloadJson jobs) :
    enqueueJob env jobType payloadJson jobs = jobs := by
  rw [enqueueJob, softEnqueueBackgroundJob]
  split_ifs with waits
  · rfl
  · obtain ⟨job, mem, both⟩ | taken := occupied
    · exact absurd (List.any_eq_true.mpr ⟨job, mem, (Bool.and_eq_true ..).mpr both⟩) waits
    · exact Table.insert_of_used (Table.find_isSome_iff.mpr taken)

theorem Occupied.enqueueJob (occupied : Occupied env jobType payloadJson jobs) :
    Occupied env jobType payloadJson (enqueueJob env jobType' payloadJson' jobs) := by
  obtain ⟨eq, -⟩ | inserted := enqueueJob_cases env jobType' payloadJson' jobs
  · rw [eq]
    exact occupied
  · rw [Occupied, inserted]
    obtain ⟨job, mem, both⟩ | taken := occupied
    · exact .inl ⟨job, List.mem_append_left _ mem, both⟩
    · rw [List.map_append]
      exact .inr (List.mem_append_left _ taken)

theorem occupied_enqueueJob :
    Occupied env jobType payloadJson (enqueueJob env jobType payloadJson jobs) := by
  obtain ⟨eq, occupied⟩ | inserted := enqueueJob_cases env jobType payloadJson jobs
  · rw [eq]
    exact occupied
  · rw [Occupied, inserted]
    refine .inl ⟨_, List.mem_append_right _ (List.mem_singleton_self _), ?_, rfl⟩
    simp [BackgroundJob.asks, pendingJob]

/-- **The jobs of a status are asked for once.** -/
theorem enqueueStatusJobs_again {kind kind' : Option String} (again : kind' = none ∨ kind' = kind) :
    enqueueStatusJobs env actor status kind' (enqueueStatusJobs env actor status kind jobs)
      = enqueueStatusJobs env actor status kind jobs := by
  let reply (jobs : JobTable) : JobTable :=
    if status.inReplyToId.isNone && status.inReplyToUri.isSome then
      enqueueJob env jobResolveInReplyTo (resolveInReplyToPayload env status.id) jobs
    else jobs
  let notify (kind : Option String) (jobs : JobTable) : JobTable :=
    kind.elim jobs fun kind => enqueueJob env jobRemoteStatusNotify
      (remoteStatusNotifyPayload env status.id actor.actorUri kind) jobs
  have steps (kind : Option String) (jobs : JobTable) : enqueueStatusJobs env actor status kind jobs
      = notify kind (reply (enqueueJob env jobCardUnfurl
        (cardUnfurlPayload env "remote" status.id) jobs)) := by
    cases kind with
    | none | some kind => rfl
  have keptByReply {jobType payloadJson : String} {jobs : JobTable}
      (occupied : Occupied env jobType payloadJson jobs) :
      Occupied env jobType payloadJson (reply jobs) := by
    change Occupied env jobType payloadJson (if _ then _ else _)
    split_ifs
    · exact occupied.enqueueJob
    · exact occupied
  have keptByNotify {jobType payloadJson : String} {kind : Option String} {jobs : JobTable}
      (occupied : Occupied env jobType payloadJson jobs) :
      Occupied env jobType payloadJson (notify kind jobs) := by
    cases kind with
    | none => exact occupied
    | some kind => exact occupied.enqueueJob
  have card : Occupied env jobCardUnfurl (cardUnfurlPayload env "remote" status.id)
      (enqueueStatusJobs env actor status kind jobs) := by
    rw [steps]
    exact keptByNotify (keptByReply occupied_enqueueJob)
  have replyIdle : reply (enqueueStatusJobs env actor status kind jobs)
      = enqueueStatusJobs env actor status kind jobs := by
    rw [steps]
    by_cases asks : (status.inReplyToId.isNone && status.inReplyToUri.isSome) = true
    · have first (jobs : JobTable) : reply jobs = enqueueJob env jobResolveInReplyTo
          (resolveInReplyToPayload env status.id) jobs := if_pos asks
      rw [first, first]
      exact enqueueJob_of_occupied (keptByNotify occupied_enqueueJob)
    · exact if_neg asks
  have notifyIdle : notify kind' (enqueueStatusJobs env actor status kind jobs)
      = enqueueStatusJobs env actor status kind jobs := by
    rcases again with rfl | rfl
    · rfl
    · rw [steps]
      cases kind' with
      | none => rfl
      | some kind => exact enqueueJob_of_occupied occupied_enqueueJob
  rw [steps kind', enqueueJob_of_occupied card, replyIdle, notifyIdle]

end Jobs

/-! ## The actor -/

section Actor

variable {actor : RemoteActorProfile} {tables : InboxTables}

/-- An actor is stored, and no other one has its handle. -/
structure ActorSettled (actor : RemoteActorProfile) (actors : RemoteActors) : Prop where
  stored : actors.find actor.actorUri = some actor
  alone : ∀ other ∈ actors.rows, takesHandleOf actor other = false

theorem not_takesHandleOf_self : takesHandleOf actor actor = false := by
  simp [takesHandleOf]

theorem actorSettled_upsertActor (actor : RemoteActorProfile) (actors : RemoteActors) :
    ActorSettled actor (Remote.upsertRemoteActor actor actors) := by
  have find (held : Option RemoteActorProfile) (isKey : ∀ row, held = some row →
      row.actorUri = actor.actorUri) :
      held.elim actor (fun held => { actor with actorUri := held.actorUri }) = actor := by
    cases held with
    | none => rfl
    | some row => rw [Option.elim_some, isKey row rfl]
  have wrote : ((actors.deleteWhere (takesHandleOf actor)).find actor.actorUri).elim actor
      (fun held => { actor with actorUri := held.actorUri }) = actor :=
    find _ fun row got => Table.key_of_find got
  constructor
  · rw [Remote.upsertRemoteActor, Table.find_upsert, if_pos rfl, wrote]
  · intro other mem
    rcases (Table.mem_upsert_iff _ _ _ _).mp mem with isActor | ⟨kept, _⟩
    · rw [isActor, wrote]
      exact not_takesHandleOf_self
    · simpa using List.of_mem_filter kept

theorem ActorSettled.takes_none (done : ActorSettled actor tables.actors) (uri : String) :
    (tables.actors.exists? fun other => takesHandleOf actor other && other.actorUri == uri)
      = false := by
  rw [Table.exists?, List.any_eq_false]
  intro other mem
  rw [done.alone other mem]
  simp

/-- **A settled actor is stored idly.** -/
theorem upsertActor_of_settled (done : ActorSettled actor tables.actors) :
    tables.upsertRemoteActor actor = tables := by
  have actors : Remote.upsertRemoteActor actor tables.actors = tables.actors := by
    rw [Remote.upsertRemoteActor, Table.deleteWhere_of_forall done.alone]
    exact Table.upsert_of_merged _ done.stored rfl
  have statuses : clearConflictingHandles actor tables.actors tables.statuses = tables.statuses :=
    Table.deleteWhere_of_forall fun status _ => done.takes_none status.actorUri
  have losesNone (row : Collections.RemoteCollectionRow) :
      tables.store.losesActor actor row = false := done.takes_none row.actorUri
  have collections : (tables.store.upsertRemoteActor actor).collections = tables.collections :=
    Table.deleteWhere_of_forall fun row _ => losesNone row
  have items : (tables.store.upsertRemoteActor actor).items = tables.items := by
    apply Table.deleteWhere_of_forall
    intro item _
    rw [Table.exists?, List.any_eq_false]
    intro row _
    rw [losesNone row]
    simp
  have parts (id : String) : (tables.statuses.exists? fun status =>
      status.id == id && tables.losesActor actor status) = false := by
    rw [Table.exists?, List.any_eq_false]
    intro status _
    rw [InboxTables.losesActor, done.takes_none]
    simp
  rw [InboxTables.upsertRemoteActor]
  apply InboxTables.ext
  · exact actors
  · exact statuses
  · funext id
    exact if_neg (Bool.eq_false_iff.mp (parts id))
  · exact collections
  · exact items
  · rfl
  · rfl
  · rfl

end Actor

/-! ## The status -/

section Parts

variable {env : InboxEnvironment} {actors : RemoteActors} {status : RemoteStatus}
  {object : Json} {parts : StatusParts}

theorem replaceHashtags_again (existing : List RemoteStatusHashtag) :
    replaceRemoteStatusHashtags status (replaceRemoteStatusHashtags status existing)
      = replaceRemoteStatusHashtags status existing := by
  let next := extractHashtagsFromHtml status.contentHtml
  have kept : ∀ row ∈ replaceRemoteStatusHashtags status existing,
      next.contains row.tag = true := by
    intro row mem
    rcases List.mem_append.mp mem with old | new
    · exact (List.mem_filter.mp old).2
    · obtain ⟨tag, inNext, rfl⟩ := List.mem_map.mp new
      have fresh := List.mem_filter.mp inNext
      exact List.contains_iff_mem.mpr (List.mem_dedup.mp fresh.1)
  have all : ∀ tag ∈ next.dedup,
      (!((replaceRemoteStatusHashtags status existing).map (·.tag)).contains tag) = false := by
    intro tag inNext
    rw [Bool.not_eq_false', List.contains_iff_mem]
    rw [replaceRemoteStatusHashtags, List.map_append, List.mem_append]
    by_cases known : tag ∈ existing.map (·.tag)
    · obtain ⟨row, held, rfl⟩ := List.mem_map.mp known
      refine .inl (List.mem_map_of_mem (List.mem_filter.mpr ⟨held, ?_⟩))
      exact List.contains_iff_mem.mpr (List.mem_dedup.mp inNext)
    · refine .inr (List.mem_map.mpr ⟨_, List.mem_map_of_mem (List.mem_filter.mpr
        ⟨inNext, ?_⟩), rfl⟩)
      rw [Bool.not_eq_true', Bool.eq_false_iff, ne_eq, List.contains_iff_mem]
      exact known
  have noneNew : (next.dedup.filter fun tag =>
      !((replaceRemoteStatusHashtags status existing).map (·.tag)).contains tag) = [] :=
    List.filter_eq_nil_iff.mpr fun tag inNext => by rw [all tag inNext]; exact Bool.false_ne_true
  rw [replaceRemoteStatusHashtags, List.filter_eq_self.mpr kept, noneNew, List.map_nil,
    List.append_nil]

theorem replacePoll_again :
    replaceRemoteStatusPoll env status.id object
        (replaceRemoteStatusPoll env status.id object parts)
      = replaceRemoteStatusPoll env status.id object parts := by
  unfold replaceRemoteStatusPoll
  cases env.readers.pollDraft object with
  | none => rfl
  | some draft => simp [List.filter_filter]

/-- **The parts of a status are replaced by themselves.** -/
theorem replaceDependents_again :
    replaceRemoteStatusDependents env actors status object
        (replaceRemoteStatusDependents env actors status object parts)
      = replaceRemoteStatusDependents env actors status object parts := by
  have hashtags := @replaceHashtags_again status parts.hashtags
  have polls := @replacePoll_again env status object parts
  have pollAlone (pre post : StatusParts) (samePoll : pre.poll = post.poll)
      (sameVotes : pre.pollVotes = post.pollVotes) (sameEdits : pre.edits = post.edits) :
      (replaceRemoteStatusPoll env status.id object pre).poll
        = (replaceRemoteStatusPoll env status.id object post).poll
      ∧ (replaceRemoteStatusPoll env status.id object pre).pollVotes
        = (replaceRemoteStatusPoll env status.id object post).pollVotes
      ∧ (replaceRemoteStatusPoll env status.id object pre).edits
        = (replaceRemoteStatusPoll env status.id object post).edits := by
    unfold replaceRemoteStatusPoll
    cases env.readers.pollDraft object with
    | none => exact ⟨rfl, rfl, sameEdits⟩
    | some draft => exact ⟨rfl, by rw [sameVotes], sameEdits⟩
  obtain ⟨samePoll, sameVotes, sameEdits⟩ := pollAlone
    (replaceRemoteStatusDependents env actors status object parts)
    (replaceRemoteStatusPoll env status.id object parts) rfl rfl rfl
  rw [polls] at samePoll sameVotes sameEdits
  apply StatusParts.ext
  · exact hashtags
  · rfl
  · exact samePoll
  · exact sameVotes
  · rfl
  · exact sameEdits
  · rfl
  · rfl
  · rfl

end Parts

/-- A status that replies to itself: it names its id, its URL or the URL it is stored with
until now. -/
def RepliesToItself (object : Json) (statuses : RemoteStatuses) : Prop :=
  ∃ objectUri uri, incomingObjectUri object = some objectUri
    ∧ (textField object "inReplyTo").bind nonBlank = some uri
    ∧ (uri = objectUri
      ∨ (sanitizeRemoteHttpUrl (textField object "url")).bind nonBlank = some uri
      ∨ ∃ stored, statuses.find objectUri = some stored ∧ stored.url = some uri)

section Row

variable {formats : Formats} {call : UpsertCall} {actor : RemoteActorProfile} {object : Json}
  {rawUri objectUri : String} {statuses : RemoteStatuses} {base incoming row : RemoteStatus}
  {reply : Option String}

/-- A row says what the intent of its object does.  It keeps its id, its quote state, the
mark of an edit, and the status it replies to where the object names none. -/
structure Shows (base : RemoteStatus) (reply : Option String) (row : RemoteStatus) : Prop where
  columns : row = { base with
    id := row.id
    quoteState := row.quoteState
    editedAt := row.editedAt
    inReplyToId := row.inReplyToId }
  quote : mergedQuoteStateForRemoteUpsert row.quoteState base.quoteState = row.quoteState
  reply : reply.or row.inReplyToId = row.inReplyToId

theorem shows_afterPrevious (prev : Option RemoteStatus) :
    Shows base reply { base.afterPrevious call prev with inReplyToId := reply } := by
  cases prev with
  | none =>
    refine ⟨rfl, ?_, Option.or_self⟩
    change mergedQuoteStateForRemoteUpsert base.quoteState base.quoteState = base.quoteState
    cases base.quoteState <;> rfl
  | some prev =>
    refine ⟨rfl, ?_, Option.or_self⟩
    change mergedQuoteStateForRemoteUpsert
      (mergedQuoteStateForRemoteUpsert prev.quoteState base.quoteState) base.quoteState
        = mergedQuoteStateForRemoteUpsert prev.quoteState base.quoteState
    cases prev.quoteState <;> cases base.quoteState <;> rfl

theorem Shows.overwrite (shows : Shows base reply incoming)
    (sameUri : row.objectUri = base.objectUri) (sameReply : incoming.inReplyToId = reply) :
    Shows base reply (incoming.overwrite row) := by
  refine ⟨?_, ?_, ?_⟩
  · rw [shows.columns, RemoteStatus.overwrite, sameUri]
  · have quote := shows.quote
    change mergedQuoteStateForRemoteUpsert
      (mergedQuoteStateForRemoteUpsert row.quoteState incoming.quoteState) base.quoteState
        = mergedQuoteStateForRemoteUpsert row.quoteState incoming.quoteState
    cases row.quoteState with
    | accepted | pending => exact quote
    | rejected | revoked => rfl
  · change reply.or (incoming.inReplyToId.or row.inReplyToId)
      = incoming.inReplyToId.or row.inReplyToId
    rw [sameReply, ← Option.or_assoc, Option.or_self]

/-- **A row that shows its object is overwritten by itself.** -/
theorem Shows.overwrite_again (shows : Shows base reply row) (unedited : base.editedAt = none)
    {prev : Option RemoteStatus} (eq : prev = none ∨ prev = some row) :
    RemoteStatus.overwrite
      { base.afterPrevious call prev with inReplyToId := reply } row = row := by
  have sameUri : row.objectUri = base.objectUri := by rw [shows.columns]
  have sameText : row.rawObjectJson = base.rawObjectJson := by rw [shows.columns]
  have wrote : RemoteStatus.overwrite
      { base.afterPrevious call prev with inReplyToId := reply } row
        = { base with
            id := row.id
            quoteState := row.quoteState
            editedAt := row.editedAt
            inReplyToId := row.inReplyToId } := by
    rcases eq with rfl | rfl
    · simp only [RemoteStatus.overwrite, RemoteStatus.afterPrevious, shows.quote, shows.reply,
        sameUri, unedited, Option.none_or]
    · have quote : mergedQuoteStateForRemoteUpsert row.quoteState row.quoteState
          = row.quoteState := by
        cases row.quoteState <;> rfl
      simp only [RemoteStatus.overwrite, RemoteStatus.afterPrevious, shows.quote, shows.reply,
        quote, sameUri, sameText, unedited, if_true, Option.none_or]
  exact wrote.trans shows.columns.symm

theorem incomingStatus_eq :
    incomingStatus formats call actor object rawUri objectUri statuses
      = { (buildRemoteStatusStoreIntent formats call actor object objectUri).afterPrevious call
          (statuses.find rawUri) with
        inReplyToId := (buildRemoteStatusStoreIntent formats call actor object
          objectUri).replyId call statuses } := by
  rw [incomingStatus]
  cases statuses.find rawUri with
  | none | some prev => rfl

/-- **A written row shows its object.** -/
theorem shows_written :
    Shows (buildRemoteStatusStoreIntent formats call actor object objectUri)
      ((buildRemoteStatusStoreIntent formats call actor object objectUri).replyId call statuses)
      ((statuses.find objectUri).elim
        (incomingStatus formats call actor object rawUri objectUri statuses)
        (incomingStatus formats call actor object rawUri objectUri statuses).overwrite) := by
  rw [incomingStatus_eq]
  cases got : statuses.find objectUri with
  | none => exact shows_afterPrevious _
  | some held => exact (shows_afterPrevious _).overwrite (Table.key_of_find got) rfl

/-- **The status a reply names is found as before** beside a written one, unless the reply
names what is written. -/
theorem replyId_upsert (named : incomingObjectUri object = some objectUri)
    (apart : ¬ RepliesToItself object statuses) (sameUri : incoming.objectUri = objectUri)
    (sameUrl : incoming.url = (sanitizeRemoteHttpUrl (textField object "url")).bind nonBlank) :
    (buildRemoteStatusStoreIntent formats call actor object objectUri).replyId call
        (statuses.upsert incoming incoming.overwrite incoming.objectUri_overwrite)
      = (buildRemoteStatusStoreIntent formats call actor object objectUri).replyId call
        statuses := by
  unfold RemoteStatus.replyId
  cases names : (buildRemoteStatusStoreIntent formats call actor object objectUri).inReplyToUri
  with
  | none => rfl
  | some uri =>
    have other : ¬ (uri = objectUri ∨ incoming.url = some uri
        ∨ ∃ held, statuses.find objectUri = some held ∧ held.url = some uri) := by
      intro one
      rw [sameUrl] at one
      exact apart ⟨objectUri, uri, named, names, one⟩
    rw [not_or, not_or] at other
    obtain ⟨otherUri, otherUrl, otherHeld⟩ := other
    have sameSearch :
        (statuses.upsert incoming incoming.overwrite incoming.objectUri_overwrite).rows.find?
            (fun status => decide (status.url = some uri))
          = statuses.rows.find? fun status => decide (status.url = some uri) := by
      apply Table.findRow_upsert
      · exact decide_eq_false_iff_not.mpr otherUrl
      · intro held got
        rw [sameUri] at got
        exact ⟨decide_eq_false_iff_not.mpr fun eq => otherHeld ⟨held, got, eq⟩,
          decide_eq_false_iff_not.mpr otherUrl⟩
    have got : findRemoteStatusByUrlOrObjectUri uri
        (statuses.upsert incoming incoming.overwrite incoming.objectUri_overwrite)
          = findRemoteStatusByUrlOrObjectUri uri statuses := by
      unfold findRemoteStatusByUrlOrObjectUri
      rw [sameSearch, Table.find_upsert, sameUri, if_neg fun h => otherUri h.symm]
    rw [Option.bind_some, Option.bind_some, got]

end Row

/-! ## Storing it again -/

section Write

variable {env : InboxEnvironment} {actor : RemoteActorProfile} {object : Json}
  {rawUri objectUri : String} {tables : InboxTables}

theorem previousSnapshot_eq (prev : Option RemoteStatus) (intent : RemoteStatus) :
    ∃ parts, insertPreviousSnapshotIfChanged env prev intent tables = { tables with parts } := by
  unfold insertPreviousSnapshotIfChanged
  cases prev with
  | none => exact ⟨tables.parts, rfl⟩
  | some prev =>
    dsimp only
    split_ifs
    · exact ⟨tables.parts, rfl⟩
    · cases tables.actors.find prev.actorUri with
      | none => exact ⟨tables.parts, rfl⟩
      | some actor => exact ⟨_, rfl⟩

theorem previousSnapshot_of_unchanged {prev : Option RemoteStatus}
    {intent : RemoteStatus} (same : contentChanged prev intent = false) :
    insertPreviousSnapshotIfChanged env prev intent tables = tables := by
  cases prev with
  | none => rfl
  | some prev =>
    have eq : prev.rawObjectJson = intent.rawObjectJson := by
      simpa [contentChanged] using same
    rw [insertPreviousSnapshotIfChanged, if_pos eq]

def writtenStatus (env : InboxEnvironment) (actor : RemoteActorProfile) (object : Json)
    (rawUri objectUri : String) (statuses : RemoteStatuses) : RemoteStatus :=
  (statuses.find objectUri).elim
    (incomingStatus env.formats env.call actor object rawUri objectUri statuses)
    (incomingStatus env.formats env.call actor object rawUri objectUri statuses).overwrite

def writtenStatuses (env : InboxEnvironment) (actor : RemoteActorProfile) (object : Json)
    (rawUri objectUri : String) (statuses : RemoteStatuses) : RemoteStatuses :=
  statuses.upsert (incomingStatus env.formats env.call actor object rawUri objectUri statuses)
    (incomingStatus env.formats env.call actor object rawUri objectUri statuses).overwrite
    (incomingStatus env.formats env.call actor object rawUri objectUri statuses).objectUri_overwrite

def writtenKind (env : InboxEnvironment) (actor : RemoteActorProfile) (object : Json)
    (rawUri objectUri : String) (statuses : RemoteStatuses) : Option String :=
  remoteStatusNotifyKind env.isLive (statuses.find rawUri).isNone
    (contentChanged (statuses.find rawUri)
      (incomingStatus env.formats env.call actor object rawUri objectUri statuses))

theorem find_writtenStatuses (statuses : RemoteStatuses) (uri : String) :
    (writtenStatuses env actor object rawUri objectUri statuses).find uri
      = if objectUri = uri then some (writtenStatus env actor object rawUri objectUri statuses)
        else statuses.find uri := by
  rw [writtenStatuses, Table.find_upsert, (showsObject_incomingStatus rawUri).objectUri]
  split_ifs with eq
  · rw [← eq]
    rfl
  · rfl

variable (uriTrimmed : trim objectUri = objectUri)

/-- **What writing an object does**, with the parts a snapshot leaves. -/
theorem writeRemoteStatus_eq
    {parts : String → StatusParts}
    (snapshot : insertPreviousSnapshotIfChanged env (tables.statuses.find rawUri)
      (incomingStatus env.formats env.call actor object rawUri objectUri tables.statuses) tables
        = { tables with parts }) :
    writeRemoteStatus env actor object rawUri objectUri uriTrimmed tables
      = ({ tables with
          statuses := writtenStatuses env actor object rawUri objectUri tables.statuses
          trimmed := trimmed_upsert tables.trimmed (trim_incomingStatus uriTrimmed)
          parts := Function.update parts
            (writtenStatus env actor object rawUri objectUri tables.statuses).id
            (replaceRemoteStatusDependents env tables.actors
              (writtenStatus env actor object rawUri objectUri tables.statuses) object
              (parts (writtenStatus env actor object rawUri objectUri tables.statuses).id))
          jobs := enqueueStatusJobs env actor
            (writtenStatus env actor object rawUri objectUri tables.statuses)
            (writtenKind env actor object rawUri objectUri tables.statuses) tables.jobs },
        .ok ()) := by
  have got := @find_writtenStatuses env actor object rawUri objectUri tables.statuses objectUri
  rw [if_pos rfl, writtenStatuses] at got
  unfold writeRemoteStatus
  dsimp only
  rw [snapshot]
  simp only [upsertRemoteStatusDraft, got]
  rfl

theorem find_rawUri (raw : textField object "id" = some rawUri)
    (named : incomingObjectUri object = some objectUri) (tables : InboxTables) :
    rawUri = objectUri ∨ tables.statuses.find rawUri = none := by
  rw [incomingObjectUri, raw, Option.bind_some, nonBlank, Option.filter_eq_some_iff] at named
  obtain ⟨eq, -⟩ := named
  cases eq
  cases got : tables.statuses.find rawUri with
  | none => exact .inr rfl
  | some held =>
    have trimmed := tables.trimmed held (Table.mem_of_find got)
    rw [Table.key_of_find got] at trimmed
    exact .inl trimmed.symm

theorem find_rawUri_written (raw : textField object "id" = some rawUri)
    (named : incomingObjectUri object = some objectUri) (tables : InboxTables) :
    let post := writtenStatuses env actor object rawUri objectUri tables.statuses
    post.find rawUri = some (writtenStatus env actor object rawUri objectUri tables.statuses)
      ∨ post.find rawUri = none ∧ tables.statuses.find rawUri = none := by
  dsimp only
  rw [find_writtenStatuses]
  split_ifs with eq
  · exact .inl rfl
  · obtain isUri | missing := find_rawUri raw named tables
    · exact absurd isUri.symm eq
    · exact .inr ⟨missing, missing⟩

/-- **The row of an object is written over itself.** -/
theorem incomingStatus_overwrite_again (raw : textField object "id" = some rawUri)
    (named : incomingObjectUri object = some objectUri) (tables : InboxTables)
    (apart : ¬ RepliesToItself object tables.statuses) :
    (incomingStatus env.formats env.call actor object rawUri objectUri
        (writtenStatuses env actor object rawUri objectUri tables.statuses)).overwrite
      (writtenStatus env actor object rawUri objectUri tables.statuses)
    = writtenStatus env actor object rawUri objectUri tables.statuses := by
  have sameUrl : (incomingStatus env.formats env.call actor object rawUri objectUri
      tables.statuses).url = (sanitizeRemoteHttpUrl (textField object "url")).bind nonBlank := by
    rw [incomingStatus_eq]
    cases tables.statuses.find rawUri with
    | none | some prev => rfl
  have sameReply := @replyId_upsert env.formats env.call actor object objectUri tables.statuses
    _ named apart (showsObject_incomingStatus rawUri).objectUri sameUrl
  rw [incomingStatus_eq, writtenStatuses, sameReply]
  apply shows_written.overwrite_again
  · rfl
  · obtain got | ⟨gone, -⟩ := @find_rawUri_written env actor object rawUri objectUri raw
      named tables
    · exact .inr got
    · exact .inl gone

theorem contentChanged_written (raw : textField object "id" = some rawUri)
    (named : incomingObjectUri object = some objectUri) (tables : InboxTables) :
    contentChanged ((writtenStatuses env actor object rawUri objectUri tables.statuses).find rawUri)
      (incomingStatus env.formats env.call actor object rawUri objectUri
        (writtenStatuses env actor object rawUri objectUri tables.statuses)) = false := by
  obtain got | ⟨gone, -⟩ := @find_rawUri_written env actor object rawUri objectUri raw named tables
  · have incoming : StatusContent.rawObjectJson (RemoteStatus.content
        (incomingStatus env.formats env.call actor object rawUri objectUri
          (writtenStatuses env actor object rawUri objectUri tables.statuses)))
          = (incomingContent env.formats object).rawObjectJson := by
      rw [(showsObject_incomingStatus rawUri).content]
    have wrote : (writtenStatus env actor object rawUri objectUri tables.statuses).rawObjectJson
        = (incomingContent env.formats object).rawObjectJson := by
      rw [writtenStatus, shows_written.columns]
      rfl
    rw [got]
    exact decide_eq_false (not_not.mpr (wrote.trans incoming.symm))
  · rw [gone]
    rfl

theorem writtenKind_again (raw : textField object "id" = some rawUri)
    (named : incomingObjectUri object = some objectUri) (tables : InboxTables) :
    let post := writtenStatuses env actor object rawUri objectUri tables.statuses
    writtenKind env actor object rawUri objectUri post = none
      ∨ writtenKind env actor object rawUri objectUri post
        = writtenKind env actor object rawUri objectUri tables.statuses := by
  dsimp only
  have eq := @contentChanged_written env actor object rawUri objectUri raw named tables
  rw [writtenKind, eq]
  obtain got | ⟨gone, pre⟩ := @find_rawUri_written env actor object rawUri objectUri raw
    named tables
  · left
    rw [got, remoteStatusNotifyKind]
    cases env.isLive <;> rfl
  · right
    rw [gone, writtenKind, pre]
    rfl

/-- **An object is written idly a second time**, unless it replies to itself. -/
theorem writeRemoteStatus_repeats (raw : textField object "id" = some rawUri)
    (named : incomingObjectUri object = some objectUri) (uriTrimmed : trim objectUri = objectUri)
    (apart : ¬ RepliesToItself object tables.statuses) :
    RepeatsIdly (writeRemoteStatus env actor object rawUri objectUri uriTrimmed) tables := by
  intro _
  obtain ⟨parts, snapshot⟩ := @previousSnapshot_eq env tables (tables.statuses.find rawUri)
    (incomingStatus env.formats env.call actor object rawUri objectUri tables.statuses)
  rw [writeRemoteStatus_eq uriTrimmed snapshot]
  have overwritten := @incomingStatus_overwrite_again env actor object rawUri objectUri raw named
    tables apart
  have eq := @contentChanged_written env actor object rawUri objectUri raw named tables
  have sameKind := @writtenKind_again env actor object rawUri objectUri raw named tables
  have got := @find_writtenStatuses env actor object rawUri objectUri tables.statuses objectUri
  rw [if_pos rfl] at got
  have sameStatus : writtenStatus env actor object rawUri objectUri
      (writtenStatuses env actor object rawUri objectUri tables.statuses)
        = writtenStatus env actor object rawUri objectUri tables.statuses := by
    conv_lhs => rw [writtenStatus]
    rw [got, Option.elim_some, overwritten]
  have sameStatuses : writtenStatuses env actor object rawUri objectUri
      (writtenStatuses env actor object rawUri objectUri tables.statuses)
        = writtenStatuses env actor object rawUri objectUri tables.statuses := by
    conv_lhs => rw [writtenStatuses]
    apply Table.upsert_of_merged _ _ overwritten
    rw [(showsObject_incomingStatus rawUri).objectUri]
    exact got
  rw [writeRemoteStatus_eq uriTrimmed (previousSnapshot_of_unchanged eq)]
  apply Prod.ext
  · apply InboxTables.ext
    · rfl
    · exact sameStatuses
    · dsimp only
      rw [sameStatus, Function.update_self, Function.update_idem, replaceDependents_again]
    · rfl
    · rfl
    · rfl
    · rfl
    · dsimp only
      rw [sameStatus, enqueueStatusJobs_again sameKind]
  · rfl

theorem upsertRemoteStatus_cases (env : InboxEnvironment) (actor : RemoteActorProfile)
    (object : Json) :
    (∃ rawUri objectUri, ∃ named : incomingObjectUri object = some objectUri,
        textField object "id" = some rawUri
          ∧ upsertRemoteStatus env actor object = writeRemoteStatus env actor object rawUri
            objectUri (trim_of_incomingObjectUri named))
      ∨ (textField object "id" = none ∨ incomingObjectUri object = none)
        ∧ ∀ tables, upsertRemoteStatus env actor object tables
          = (tables, .error "remote status object is missing id") := by
  obtain gone | ⟨rawUri, raw⟩ := (textField object "id").eq_none_or_eq_some
  · refine .inr ⟨.inl gone, fun tables => ?_⟩
    unfold upsertRemoteStatus
    split
    · rename_i got _
      rw [gone] at got
      cases got
    · rfl
  · obtain blank | ⟨objectUri, named⟩ := (incomingObjectUri object).eq_none_or_eq_some
    · refine .inr ⟨.inr blank, fun tables => ?_⟩
      unfold upsertRemoteStatus
      split
      · rename_i got
        rw [blank] at got
        cases got
      · rfl
    · refine .inl ⟨rawUri, objectUri, named, raw, ?_⟩
      funext tables
      unfold upsertRemoteStatus
      split
      · rename_i foundRaw foundUri
        obtain rfl : rawUri = _ := Option.some.inj (raw.symm.trans foundRaw)
        obtain rfl : objectUri = _ := Option.some.inj (named.symm.trans foundUri)
        rfl
      · rename_i neither
        exact absurd named (neither rawUri objectUri raw)

theorem writeRemoteStatus_leaves :
    (writeRemoteStatus env actor object rawUri objectUri uriTrimmed tables).1.actors = tables.actors
      ∧ (writeRemoteStatus env actor object rawUri objectUri uriTrimmed tables).1.polls
        = tables.polls := by
  obtain ⟨parts, snapshot⟩ := @previousSnapshot_eq env tables (tables.statuses.find rawUri)
    (incomingStatus env.formats env.call actor object rawUri objectUri tables.statuses)
  rw [writeRemoteStatus_eq uriTrimmed snapshot]
  exact ⟨rfl, rfl⟩

theorem polls_storeStatus : (storeStatus env actor object tables).1.polls = tables.polls := by
  obtain ⟨rawUri, objectUri, named, _, writes⟩ | missing :=
    upsertRemoteStatus_cases env actor object
  · rw [storeStatus, writes, (writeRemoteStatus_leaves _).2]
    rfl
  · rw [storeStatus, missing.2]
    rfl

/-- **A status is stored idly a second time**, unless it replies to itself. -/
theorem storeStatus_repeats (apart : ¬ RepliesToItself object tables.statuses) :
    RepeatsIdly (storeStatus env actor object) tables := by
  intro held
  have apartLater : ¬ RepliesToItself object (tables.upsertRemoteActor actor).statuses := by
    rintro ⟨objectUri, uri, named, replies, one⟩
    refine apart ⟨objectUri, uri, named, replies, one.imp_right (Or.imp_right ?_)⟩
    rintro ⟨row, got, names⟩
    exact ⟨row, (Table.find_of_find_deleteWhere got).1, names⟩
  obtain ⟨rawUri, objectUri, named, raw, writes⟩ | missing :=
    upsertRemoteStatus_cases env actor object
  · rw [storeStatus, writes] at held ⊢
    have again := writeRemoteStatus_repeats raw named (trim_of_incomingObjectUri named)
      apartLater held
    have done : ActorSettled actor (writeRemoteStatus env actor object rawUri objectUri
        (trim_of_incomingObjectUri named) (tables.upsertRemoteActor actor)).1.actors := by
      rw [(writeRemoteStatus_leaves _).1]
      exact actorSettled_upsertActor actor tables.actors
    rw [storeStatus, writes, upsertActor_of_settled done]
    exact again
  · rw [storeStatus, missing.2] at held
    cases held

end Write

end Cfwdon.Inbox
