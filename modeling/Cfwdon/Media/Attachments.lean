import Cfwdon.Library.Table

/-!
# Media attachments

A media attachment is a row of `media_attachments` and an object of the bucket.  A status
refers to its media through the column `status_id`: a new status attaches rows, an edit
replaces them, and a row that no status refers to can be deleted by its owner or, after a
day, by the pruning of orphans.  Creations and edits check the rows again in the statement
that attaches them; deletions and prunes read the rows first and delete by id and by key
later.

The requests run side by side.  A request is a task that goes on by one statement, or one
call of the bucket, at a time; either may fail.
-/

namespace Cfwdon.Media

open Library

/-- A row of `media_attachments`, as far as the statements read it. -/
structure MediaAttachmentRow where
  id : String
  accountId : String
  statusId : Option String
  objectKey : String
  createdAt : Nat
  deriving DecidableEq

/-- The columns that the pruning reads. -/
structure OrphanMediaRow where
  id : String
  objectKey : String

/-- A row of `media_deletion_queue`: an object that the bucket failed to delete. -/
structure QueuedMediaDeletionRow where
  objectKey : String
  updatedAt : Nat

abbrev MediaTable := Table MediaAttachmentRow MediaAttachmentRow.id

abbrev QueueTable := Table QueuedMediaDeletionRow QueuedMediaDeletionRow.objectKey

def MediaAttachmentRow.toOrphan (row : MediaAttachmentRow) : OrphanMediaRow :=
  ⟨row.id, row.objectKey⟩

/-! ## Reading rows for a status -/

/-- A row may be attached: no status refers to it, or the one that is edited does. -/
def isFree (edited : Option String) (row : MediaAttachmentRow) : Bool :=
  row.statusId.isNone || decide (row.statusId = edited)

/-- What both resolve functions do with one id. -/
def resolveMedia (edited : Option String) (table : MediaTable) (accountId mediaId : String) :
    Except String MediaAttachmentRow :=
  match table.find mediaId with
  | none => .error s!"media attachment {mediaId} was not found"
  | some row =>
    if row.accountId = accountId then
      if isFree edited row then .ok row
      else .error s!"media attachment {mediaId} is already attached"
    else
      .error s!"media attachment {mediaId} does not belong to the authenticated account"

def resolveAttachableMedia : MediaTable → String → String → Except String MediaAttachmentRow :=
  resolveMedia none

def resolveEditableMedia (statusId : String) :
    MediaTable → String → String → Except String MediaAttachmentRow :=
  resolveMedia (some statusId)

/-- The media of a new status, or of an edited one. -/
structure MediaRequest where
  accountId : String
  edited : Option String

def MediaRequest.resolve (request : MediaRequest) (table : MediaTable) (mediaId : String) :
    Except String MediaAttachmentRow :=
  match request.edited with
  | none => resolveAttachableMedia table request.accountId mediaId
  | some statusId => resolveEditableMedia statusId table request.accountId mediaId

/-! ## Attaching and replacing -/

/-- The ids of the rows, as the statements bind them. -/
def requestedMedia (media : List MediaAttachmentRow) : List String := media.map (·.id)

/-- `SELECT COUNT(*)` of the requested rows that may be attached. -/
def freeCount (edited : Option String) (requested : List String) (table : MediaTable) : Nat :=
  (table.select fun row => decide (row.id ∈ requested) && isFree edited row).length

/-- The guarded `UPDATE` of `attach_media_and_enqueue_outbox`. -/
def attachStatement (statusId : String) (media : List MediaAttachmentRow) (table : MediaTable) :
    Update MediaAttachmentRow MediaAttachmentRow.id where
  guard row := decide (row.id ∈ requestedMedia media) && row.statusId.isNone
    && decide (freeCount none (requestedMedia media) table = media.length)
  set row := { row with statusId := some statusId }
  keeps _ := rfl

/-- `attach_media_and_enqueue_outbox`, as far as the media rows go. -/
def attachMedia (statusId : String) (media : List MediaAttachmentRow) (table : MediaTable) :
    Except String MediaTable :=
  if media.isEmpty then .ok table
  else if table.exists? (attachStatement statusId media table).guard then
    .ok ((attachStatement statusId media table).run table)
  else .error "one or more media attachments are no longer attachable"

/-- The `UPDATE` of an edit that leaves the status no media. -/
def detachStatement (statusId : String) : Update MediaAttachmentRow MediaAttachmentRow.id where
  guard row := decide (row.statusId = some statusId)
  set row := { row with statusId := none }
  keeps _ := rfl

/-- The guarded `UPDATE` of `replace_status_media`. -/
def replaceStatement (statusId : String) (media : List MediaAttachmentRow) (table : MediaTable) :
    Update MediaAttachmentRow MediaAttachmentRow.id where
  guard row := (decide (row.statusId = some statusId) || decide (row.id ∈ requestedMedia media))
    && decide (freeCount (some statusId) (requestedMedia media) table = media.length)
  set row := { row with statusId := if row.id ∈ requestedMedia media then some statusId else none }
  keeps _ := rfl

def replaceStatusMedia (statusId : String) (media : List MediaAttachmentRow)
    (table : MediaTable) : Except String MediaTable :=
  if media.isEmpty then .ok ((detachStatement statusId).run table)
  else if table.exists? (replaceStatement statusId media table).guard then
    .ok ((replaceStatement statusId media table).run table)
  else .error "one or more media attachments are no longer editable"

/-- The rows after a statement that fails or changes nothing are the rows before it. -/
def rowsAfter (table : MediaTable) : Except String MediaTable → MediaTable
  | .ok after => after
  | .error _ => table

/-! ## The store -/

/-- The rows, the objects of the bucket, the deletion queue and the clock, in seconds. -/
structure MediaStore where
  media : MediaTable
  objects : List String
  queue : QueueTable
  now : Nat

namespace MediaStore

/-- The checks of `delete_media_attachment`, with the statuses of its answers. -/
def checkDeletion (store : MediaStore) (accountId mediaId : String) :
    Except (Nat × String) MediaAttachmentRow :=
  match store.media.find mediaId with
  | none => .error (404, "media not found")
  | some media =>
    if media.accountId = accountId then
      if media.statusId.isSome then .error (422, "media is already attached") else .ok media
    else .error (404, "media not found")

/-- The `WHERE` of `list_orphan_media`. -/
def isOrphan (store : MediaStore) (olderThanHours : Nat) (row : MediaAttachmentRow) : Bool :=
  row.statusId.isNone && decide (row.createdAt + olderThanHours * 3600 ≤ store.now)

def deleteMediaAttachmentRow (store : MediaStore) (mediaId : String) : MediaStore :=
  { store with media := store.media.deleteWhere fun row => decide (row.id = mediaId) }

def deleteR2Object (store : MediaStore) (objectKey : String) : MediaStore :=
  { store with objects := store.objects.filter fun key => decide (key ≠ objectKey) }

/-- A call of the bucket that fails: the object may be gone all the same. -/
def deleteR2ObjectFailing (store : MediaStore) (objectKey : String) (gone : Bool) : MediaStore :=
  if gone then store.deleteR2Object objectKey else store

def queueMediaDeletion (store : MediaStore) (objectKey : String) : MediaStore :=
  { store with
    queue := store.queue.upsert ⟨objectKey, store.now⟩
      (fun stored => { stored with updatedAt := store.now }) fun _ => rfl }

def deleteQueuedMediaDeletion (store : MediaStore) (objectKey : String) : MediaStore :=
  { store with queue := store.queue.deleteWhere fun row => decide (row.objectKey = objectKey) }

end MediaStore

/-! ## Requests -/

/-- Where a request has come to: what it does next. -/
inductive MediaTask where
  | resolves (request : MediaRequest) (unread seen : List String)
      (media : List MediaAttachmentRow)
  | attaches (statusId : String) (media : List MediaAttachmentRow)
  | replaces (statusId : String) (media : List MediaAttachmentRow)
  | checksDeletion (accountId mediaId : String)
  | deletesObject (media : MediaAttachmentRow)
  | deletesRow (media : MediaAttachmentRow)
  | listsQueue
  | deletesQueued (queued : List QueuedMediaDeletionRow)
  | dequeues (objectKey : String) (queued : List QueuedMediaDeletionRow)
  | requeues (objectKey : String) (queued : List QueuedMediaDeletionRow)
  | listsOrphans
  | deletesOrphans (orphans : List OrphanMediaRow)
  | deletesOrphanObject (orphan : OrphanMediaRow) (orphans : List OrphanMediaRow)
  | queuesOrphan (orphan : OrphanMediaRow) (orphans : List OrphanMediaRow)

/-- How a request goes on: with its next statement or call, with a call of the bucket that
fails, or not at all. -/
inductive MediaAct where
  | proceeds
  | bucketFails (gone : Bool)
  | fails

/-- One statement or call of a request: the store after it, and what the request does next
if it is not over. -/
inductive Works (store : MediaStore) :
    MediaTask → MediaAct → MediaStore → Option MediaTask → Prop where
  | skips {request : MediaRequest} {mediaId : String} {unread seen : List String}
      {media : List MediaAttachmentRow} (again : mediaId ∈ seen) :
      Works store (.resolves request (mediaId :: unread) seen media) .proceeds store
        (some (.resolves request unread seen media))
  | resolves {request : MediaRequest} {mediaId : String} {unread seen : List String}
      {media : List MediaAttachmentRow} {row : MediaAttachmentRow} (unseen : mediaId ∉ seen)
      (resolved : request.resolve store.media mediaId = .ok row) :
      Works store (.resolves request (mediaId :: unread) seen media) .proceeds store
        (some (.resolves request unread (mediaId :: seen) (media ++ [row])))
  | refuses {request : MediaRequest} {mediaId : String} {unread seen : List String}
      {media : List MediaAttachmentRow} {message : String} (unseen : mediaId ∉ seen)
      (refused : request.resolve store.media mediaId = .error message) :
      Works store (.resolves request (mediaId :: unread) seen media) .proceeds store none
  /-- `insert_status`, and the media of the new status are attached next. -/
  | insertsStatus {request : MediaRequest} {seen : List String}
      {media : List MediaAttachmentRow} (statusId : String) (isNew : request.edited = none) :
      Works store (.resolves request [] seen media) .proceeds store
        (some (.attaches statusId media))
  | updatesStatus {request : MediaRequest} {seen : List String}
      {media : List MediaAttachmentRow} {statusId : String}
      (isEdit : request.edited = some statusId) :
      Works store (.resolves request [] seen media) .proceeds store
        (some (.replaces statusId media))
  | attaches {statusId : String} {media : List MediaAttachmentRow} :
      Works store (.attaches statusId media) .proceeds
        { store with media := rowsAfter store.media (attachMedia statusId media store.media) } none
  | replaces {statusId : String} {media : List MediaAttachmentRow} :
      Works store (.replaces statusId media) .proceeds
        { store with
          media := rowsAfter store.media (replaceStatusMedia statusId media store.media) } none
  | checks {accountId mediaId : String} {media : MediaAttachmentRow}
      (allowed : store.checkDeletion accountId mediaId = .ok media) :
      Works store (.checksDeletion accountId mediaId) .proceeds store (some (.deletesObject media))
  | dismisses {accountId mediaId : String} {answer : Nat × String}
      (refused : store.checkDeletion accountId mediaId = .error answer) :
      Works store (.checksDeletion accountId mediaId) .proceeds store none
  | deletesObject {media : MediaAttachmentRow} :
      Works store (.deletesObject media) .proceeds (store.deleteR2Object media.objectKey)
        (some (.deletesRow media))
  | keepsObject {media : MediaAttachmentRow} (gone : Bool) :
      Works store (.deletesObject media) (.bucketFails gone)
        (store.deleteR2ObjectFailing media.objectKey gone) none
  | deletesRow {media : MediaAttachmentRow} :
      Works store (.deletesRow media) .proceeds (store.deleteMediaAttachmentRow media.id) none
  | listsQueue {queued : List QueuedMediaDeletionRow}
      (selection : Selection QueuedMediaDeletionRow.updatedAt 128 store.queue.rows queued) :
      Works store .listsQueue .proceeds store (some (.deletesQueued queued))
  | deletesQueued {row : QueuedMediaDeletionRow} {queued : List QueuedMediaDeletionRow} :
      Works store (.deletesQueued (row :: queued)) .proceeds (store.deleteR2Object row.objectKey)
        (some (.dequeues row.objectKey queued))
  | keepsQueued {row : QueuedMediaDeletionRow} {queued : List QueuedMediaDeletionRow}
      (gone : Bool) :
      Works store (.deletesQueued (row :: queued)) (.bucketFails gone)
        (store.deleteR2ObjectFailing row.objectKey gone) (some (.requeues row.objectKey queued))
  | dequeues {objectKey : String} {queued : List QueuedMediaDeletionRow} :
      Works store (.dequeues objectKey queued) .proceeds
        (store.deleteQueuedMediaDeletion objectKey) (some (.deletesQueued queued))
  | requeues {objectKey : String} {queued : List QueuedMediaDeletionRow} :
      Works store (.requeues objectKey queued) .proceeds (store.queueMediaDeletion objectKey)
        (some (.deletesQueued queued))
  | queueDone : Works store (.deletesQueued []) .proceeds store (some .listsOrphans)
  | listsOrphans {rows : List MediaAttachmentRow}
      (selection : Selection MediaAttachmentRow.createdAt 128
        (store.media.select (store.isOrphan 24)) rows) :
      Works store .listsOrphans .proceeds store
        (some (.deletesOrphans (rows.map MediaAttachmentRow.toOrphan)))
  | deletesOrphan {orphan : OrphanMediaRow} {orphans : List OrphanMediaRow} :
      Works store (.deletesOrphans (orphan :: orphans)) .proceeds
        (store.deleteMediaAttachmentRow orphan.id) (some (.deletesOrphanObject orphan orphans))
  | deletesOrphanObject {orphan : OrphanMediaRow} {orphans : List OrphanMediaRow} :
      Works store (.deletesOrphanObject orphan orphans) .proceeds
        (store.deleteR2Object orphan.objectKey) (some (.deletesOrphans orphans))
  | keepsOrphanObject {orphan : OrphanMediaRow} {orphans : List OrphanMediaRow} (gone : Bool) :
      Works store (.deletesOrphanObject orphan orphans) (.bucketFails gone)
        (store.deleteR2ObjectFailing orphan.objectKey gone) (some (.queuesOrphan orphan orphans))
  | queuesOrphan {orphan : OrphanMediaRow} {orphans : List OrphanMediaRow} :
      Works store (.queuesOrphan orphan orphans) .proceeds
        (store.queueMediaDeletion orphan.objectKey) (some (.deletesOrphans orphans))
  | orphansDone : Works store (.deletesOrphans []) .proceeds store none
  /-- A statement fails or the worker stops. -/
  | fails {task : MediaTask} : Works store task .fails store none

/-! ## Requests side by side -/

/-- The store and the requests that are running. -/
structure MediaState where
  store : MediaStore
  tasks : List MediaTask

def MediaState.start : MediaState := ⟨⟨Table.empty, [], Table.empty, 0⟩, []⟩

/-- The first thing that a request does. -/
inductive MediaTask.Starts : MediaTask → Prop where
  | create (accountId : String) (mediaIds : List String) :
      Starts (.resolves ⟨accountId, none⟩ mediaIds [] [])
  | edit (accountId statusId : String) (mediaIds : List String) :
      Starts (.resolves ⟨accountId, some statusId⟩ mediaIds [] [])
  | delete (accountId mediaId : String) : Starts (.checksDeletion accountId mediaId)
  | prune : Starts .listsQueue

/-- The rows that a request is going to delete: it has read that no status refers to them. -/
def MediaTask.held : MediaTask → List OrphanMediaRow
  | .deletesObject media | .deletesRow media => [media.toOrphan]
  | .deletesOrphans orphans => orphans
  | .deletesOrphanObject _ orphans => orphans
  | .queuesOrphan _ orphans => orphans
  | _ => []

/-- The objects that a request may still delete or queue although their rows are gone. -/
def MediaTask.left : MediaTask → List String
  | .deletesQueued queued => queued.map (·.objectKey)
  | .dequeues _ queued => queued.map (·.objectKey)
  | .requeues objectKey queued => objectKey :: queued.map (·.objectKey)
  | .deletesOrphanObject orphan _ => [orphan.objectKey]
  | .queuesOrphan orphan _ => [orphan.objectKey]
  | _ => []

/-- An id and a key that were not in use: `generate_entity_id` draws the id of a row, and
the key of its object ends with it. -/
structure MediaState.Fresh (s : MediaState) (row : MediaAttachmentRow) : Prop where
  stored : ∀ other ∈ s.store.media.rows, other.id ≠ row.id ∧ other.objectKey ≠ row.objectKey
  queued : ∀ other ∈ s.store.queue.rows, other.objectKey ≠ row.objectKey
  held : ∀ task ∈ s.tasks, ∀ orphan ∈ task.held,
    orphan.id ≠ row.id ∧ orphan.objectKey ≠ row.objectKey
  left : ∀ task ∈ s.tasks, row.objectKey ∉ task.left

inductive MediaEvent where
  | uploads (row : MediaAttachmentRow)
  | passes (seconds : Nat)
  | starts (task : MediaTask)
  | acts (task : MediaTask) (act : MediaAct)

inductive MediaStep (s : MediaState) : MediaEvent → MediaState → Prop where
  /-- `store_media_attachment`: the object is put, and then its row is inserted. -/
  | uploads {row : MediaAttachmentRow} (fresh : s.Fresh row) (loose : row.statusId = none) :
      MediaStep s (.uploads row)
        { s with
          store := { s.store with
            media := s.store.media.insert row, objects := s.store.objects ++ [row.objectKey] } }
  | passes {seconds : Nat} :
      MediaStep s (.passes seconds)
        { s with store := { s.store with now := s.store.now + seconds } }
  | starts {task : MediaTask} (first : task.Starts) :
      MediaStep s (.starts task) { s with tasks := s.tasks ++ [task] }
  | acts {earlier later : List MediaTask} {task : MediaTask} {act : MediaAct}
      {store : MediaStore} {next : Option MediaTask}
      (running : s.tasks = earlier ++ task :: later) (works : Works s.store task act store next) :
      MediaStep s (.acts task act) ⟨store, earlier ++ next.toList ++ later⟩

end Cfwdon.Media
