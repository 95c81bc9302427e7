import Cfwdon.Library.Attempt
import Cfwdon.Streaming.Subscriptions
import Mathlib.Data.Finset.Insert
import Mathlib.Data.List.Sort

/-!
# Batches of a polled stream

A poll lists what is new on a channel and makes a batch of it: the events, the ids to be
tracked for later changes, and the cursor the next poll starts from.  Home and list
batches name their events `update`, public and hashtag batches `conversation`, and the
direct batch lists conversations, by their own ids, as `update`.

The rows a builder lists, with the documents it renders for them, are the answer of the
tables, after the mute, media, tag and membership checks.
-/

namespace Cfwdon.Streaming

open Library

structure StreamingEvent where
  createdAt : String
  id : String
  event : String
  data : String
  deriving DecidableEq

def streamingEventKey (event : StreamingEvent) : String :=
  event.event ++ ":" ++ event.id

structure StreamingBatch where
  events : List StreamingEvent
  trackedStatusIds : List String
  lastId : Option String
  lastCreatedAt : Option String

def StreamingBatch.empty : StreamingBatch := ⟨[], [], none, none⟩

structure StreamingEntry where
  createdAt : String
  id : String
  data : String

/-- The order of entries: by time, then by id. -/
def StreamingEntry.notAfter (left right : StreamingEntry) : Prop :=
  left.createdAt < right.createdAt ∨ (left.createdAt = right.createdAt ∧ left.id ≤ right.id)

instance : DecidableRel StreamingEntry.notAfter := fun left right =>
  inferInstanceAs (Decidable (left.createdAt < right.createdAt
    ∨ (left.createdAt = right.createdAt ∧ left.id ≤ right.id)))

def streamingBatchFromEntries (entries : List StreamingEntry) (trackedStatusIds : List String)
    (event : String) : StreamingBatch :=
  let sorted := entries.insertionSort StreamingEntry.notAfter
  { events := sorted.map fun entry => ⟨entry.createdAt, entry.id, event, entry.data⟩
    trackedStatusIds := trackedStatusIds
    lastId := sorted.getLast?.map StreamingEntry.id
    lastCreatedAt := sorted.getLast?.map StreamingEntry.createdAt }

variable {entries : List StreamingEntry} {tracked : List String} {initialized : Bool}

theorem mem_batch
    {name : String} {event : StreamingEvent} :
    event ∈ (streamingBatchFromEntries entries tracked name).events
      ↔ ∃ entry ∈ entries, ⟨entry.createdAt, entry.id, name, entry.data⟩ = event := by
  simp [streamingBatchFromEntries, List.mem_insertionSort]

/-! ## Rows -/

structure ListedStatus where
  id : String
  createdAt : String
  data : String

/-- A direct status that is listed, with its conversation and the document of the
conversation, if the viewer has it. -/
structure DirectStatus where
  statusId : String
  createdAt : String
  conversationId : Option String
  document : Option String

/-- A notification that is listed, newest first, with its document if it renders. -/
structure NotificationCandidate where
  id : String
  createdAt : String
  document : Option String

structure BatchRows where
  statuses : List ListedStatus
  directStatuses : List DirectStatus
  candidates : List NotificationCandidate
  /-- `list_row_by_id` finds the list. -/
  listExists : Bool

/-! ## Builders -/

def statusBatch (statuses : List ListedStatus) (event : String) : StreamingBatch :=
  streamingBatchFromEntries
    (statuses.map fun status => ⟨status.createdAt, status.id, status.data⟩)
    (statuses.map ListedStatus.id) event

def streamingHomeBatch (rows : BatchRows) : StreamingBatch :=
  statusBatch rows.statuses "update"

def streamingListBatch (rows : BatchRows) : StreamingBatch :=
  if rows.listExists then statusBatch rows.statuses "update" else .empty

def streamingPublicBatch (stream : String) (tag : Option String) (rows : BatchRows) :
    StreamingBatch :=
  if startsWith stream "hashtag" && tag.isNone then .empty
  else statusBatch rows.statuses "conversation"

/-- The entries of the direct batch: each conversation once, at its newest listed
status. -/
def directEntries (seen : Finset String) : List DirectStatus → List StreamingEntry
  | [] => []
  | status :: rest =>
    match status.conversationId with
    | none => directEntries seen rest
    | some conversationId =>
      if conversationId ∈ seen then directEntries seen rest
      else
        match status.document with
        | none => directEntries (insert conversationId seen) rest
        | some document => ⟨status.createdAt, conversationId, document⟩
            :: directEntries (insert conversationId seen) rest

def streamingDirectBatch (rows : BatchRows) : StreamingBatch :=
  let entries := directEntries ∅ rows.directStatuses
  streamingBatchFromEntries entries (entries.map StreamingEntry.id) "update"

/-- The first poll renders nothing. -/
def streamingNotificationBatch (initialized : Bool) (rows : BatchRows) : StreamingBatch where
  events := if !initialized then [] else
    (rows.candidates.filterMap fun candidate => candidate.document.map fun document =>
      ⟨candidate.createdAt, candidate.id, "notification", document⟩).reverse
  trackedStatusIds := []
  lastId := rows.candidates.head?.map NotificationCandidate.id
  lastCreatedAt := rows.candidates.head?.map NotificationCandidate.createdAt

structure PolledStream where
  stream : String
  tag : Option String
  list : Option String
  viewer : Option String

def requiredStreamingViewer (viewer : Option String) (label : String) : Except String Unit :=
  if viewer.isSome then .ok ()
  else .error ("missing authenticated viewer for " ++ label ++ " stream")

def requiredStreamingListId (list : Option String) : Except String Unit :=
  if (nonblank list).isSome then .ok () else .error "missing list id for list stream"

def streamingBatchForStream (polled : PolledStream) (initialized : Bool)
    (rows : Except String BatchRows) : Except String StreamingBatch :=
  if polled.stream = "user" then do
    requiredStreamingViewer polled.viewer "user"
    return streamingHomeBatch (← rows)
  else if polled.stream = "user:notification" then do
    requiredStreamingViewer polled.viewer "notification"
    return streamingNotificationBatch initialized (← rows)
  else if polled.stream = "list" then do
    requiredStreamingViewer polled.viewer "list"
    requiredStreamingListId polled.list
    return streamingListBatch (← rows)
  else if polled.stream = "direct" then do
    requiredStreamingViewer polled.viewer "direct"
    return streamingDirectBatch (← rows)
  else do
    return streamingPublicBatch polled.stream polled.tag (← rows)

def batchOfRows (polled : PolledStream) (initialized : Bool) (rows : BatchRows) :
    StreamingBatch :=
  if polled.stream = "user" then streamingHomeBatch rows
  else if polled.stream = "user:notification" then streamingNotificationBatch initialized rows
  else if polled.stream = "list" then streamingListBatch rows
  else if polled.stream = "direct" then streamingDirectBatch rows
  else streamingPublicBatch polled.stream polled.tag rows

variable {polled : PolledStream}

theorem batchOfRows_of_built
    {rows : Except String BatchRows} {batch : StreamingBatch}
    (built : streamingBatchForStream polled initialized rows = .ok batch) :
    ∃ answer, rows = .ok answer ∧ batchOfRows polled initialized answer = batch := by
  unfold streamingBatchForStream at built
  unfold batchOfRows
  split_ifs at built with user notif list direct
  · obtain ⟨_, _, later⟩ := bind_eq_ok_iff.mp built
    obtain ⟨answer, ans, eq⟩ := bind_eq_ok_iff.mp later
    exact ⟨answer, ans, by simpa [user] using Except.ok.inj eq⟩
  · obtain ⟨_, _, later⟩ := bind_eq_ok_iff.mp built
    obtain ⟨answer, ans, eq⟩ := bind_eq_ok_iff.mp later
    exact ⟨answer, ans, by simpa [notif] using Except.ok.inj eq⟩
  · obtain ⟨_, _, listed⟩ := bind_eq_ok_iff.mp built
    obtain ⟨_, _, later⟩ := bind_eq_ok_iff.mp listed
    obtain ⟨answer, ans, eq⟩ := bind_eq_ok_iff.mp later
    exact ⟨answer, ans, by simpa [list] using Except.ok.inj eq⟩
  · obtain ⟨_, _, later⟩ := bind_eq_ok_iff.mp built
    obtain ⟨answer, ans, eq⟩ := bind_eq_ok_iff.mp later
    exact ⟨answer, ans, by simpa [direct] using Except.ok.inj eq⟩
  · obtain ⟨answer, ans, eq⟩ := bind_eq_ok_iff.mp built
    exact ⟨answer, ans, by
      simpa [user, notif, list, direct] using Except.ok.inj eq⟩

/-! ## Names and tracked ids -/

def batchEventName (stream : String) : String :=
  if stream = "user:notification" then "notification"
  else if stream = "user" ∨ stream = "list" ∨ stream = "direct" then "update"
  else "conversation"

section Names

variable {statuses : List ListedStatus} {name : String} {event : StreamingEvent}
  {rows : BatchRows}

theorem event_of_streamingBatchFromEntries
    (mem : event ∈ (streamingBatchFromEntries entries tracked
      name).events) : event.event = name := by
  obtain ⟨entry, _, rfl⟩ := mem_batch.mp mem
  rfl

theorem not_mem_empty : event ∉ StreamingBatch.empty.events := List.not_mem_nil

theorem event_of_streamingNotificationBatch
    (mem : event ∈ (streamingNotificationBatch initialized rows).events) :
    event.event = "notification" := by
  unfold streamingNotificationBatch at mem
  split_ifs at mem with first
  · cases mem
  · rw [List.mem_reverse, List.mem_filterMap] at mem
    obtain ⟨cand, _, rendered⟩ := mem
    obtain ⟨doc, _, rfl⟩ := Option.map_eq_some_iff.mp rendered
    rfl

/-- **The events of a channel have one name.** -/
theorem event_of_batch
    (mem : event ∈ (batchOfRows polled initialized rows).events) :
    event.event = batchEventName polled.stream := by
  unfold batchOfRows at mem
  unfold batchEventName
  split_ifs at mem with user notif list direct
  · rw [if_neg (by rw [user]; decide), if_pos (Or.inl user)]
    exact event_of_streamingBatchFromEntries mem
  · rw [if_pos notif]
    exact event_of_streamingNotificationBatch mem
  · rw [if_neg notif, if_pos (Or.inr (Or.inl list))]
    unfold streamingListBatch at mem
    split_ifs at mem with listed
    · exact event_of_streamingBatchFromEntries mem
    · exact absurd mem not_mem_empty
  · rw [if_neg notif, if_pos (Or.inr (Or.inr direct))]
    exact event_of_streamingBatchFromEntries mem
  · rw [if_neg notif, if_neg (by simp [user, list, direct])]
    unfold streamingPublicBatch at mem
    split_ifs at mem with untagged
    · exact absurd mem not_mem_empty
    · exact event_of_streamingBatchFromEntries mem

end Names

section Tracked

variable {rows : BatchRows} {id : String}

theorem tracked_of_statusBatch {statuses : List ListedStatus} {name : String} :
    id ∈ (statusBatch statuses name).trackedStatusIds
      ↔ ∃ status ∈ statuses, status.id = id := List.mem_map

theorem not_tracked_empty : id ∉ StreamingBatch.empty.trackedStatusIds := List.not_mem_nil

/-- **Outside the direct channel a batch tracks statuses that it lists.** -/
theorem tracked_of_batch
    (indirect : polled.stream ≠ "direct")
    (mem : id ∈ (batchOfRows polled initialized rows).trackedStatusIds) :
    ∃ status ∈ rows.statuses, status.id = id := by
  unfold batchOfRows at mem
  split_ifs at mem with user notif list
  · exact tracked_of_statusBatch.mp mem
  · cases mem
  · unfold streamingListBatch at mem
    split_ifs at mem with listed
    · exact tracked_of_statusBatch.mp mem
    · exact absurd mem not_tracked_empty
  · unfold streamingPublicBatch at mem
    split_ifs at mem with untagged
    · exact absurd mem not_tracked_empty
    · exact tracked_of_statusBatch.mp mem

end Tracked

end Cfwdon.Streaming
