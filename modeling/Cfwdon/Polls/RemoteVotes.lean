import Cfwdon.Inbox.StatusTables
import Mathlib.Data.List.Dedup
import Mathlib.Data.List.Sort

/-!
# Votes in remote polls

A vote in a poll of another server is stored with the position and the title of its option.
An update of the poll replaces the options.  The rows of the votes stay as they are, or go:
where a vote points is found again when it is read, by the title first.
-/

namespace Cfwdon.Polls

open Library Inbox

def pruneRemotePollVoteRows (options : List RemotePollOptionDraft)
    (votes : List RemoteStatusPollVoteRow) : List RemoteStatusPollVoteRow :=
  votes.filter fun vote =>
    (resolveRemotePollVotePosition options vote.optionPosition vote.optionTitle).isSome

/-- The row with its options, and the votes that are left. -/
def upsertRemoteStatusPoll (statusId : String) (draft : RemotePollDraft)
    (votes : List RemoteStatusPollVoteRow) :
    RemoteStatusPollRow × List RemoteStatusPollVoteRow :=
  (draft.row statusId, pruneRemotePollVoteRows (draft.row statusId).options votes)

/-- The positions in order, each once. -/
def remapRemotePollVotePositions (options : List RemotePollOptionDraft)
    (votes : List RemoteStatusPollVoteRow) : List Nat :=
  ((votes.filterMap fun vote =>
    resolveRemotePollVotePosition options vote.optionPosition vote.optionTitle).dedup).insertionSort
      (· ≤ ·)

/-! ## Where a vote points -/

section Resolved

variable (options : List RemotePollOptionDraft) (position : Int)

def storedOption : Option Nat :=
  (if 0 ≤ position ∧ position ≤ u32Max then some position.toNat else none).filter
    fun position => decide (position < options.length)

def HasTitle (title : String) (position : Nat) : Prop :=
  ∃ option, options[position]? = some option ∧ option.title = title

/-- The first option with a title, if its position is a `u32`. -/
def firstOption (title : String) : Option Nat :=
  (options.findIdx? fun option => option.title == title).filter fun position =>
    decide (position ≤ u32Max)

/-- A title is found at the stored position, or at the first option that has it. -/
def Findable (title : String) : Prop :=
  (∃ stored, storedOption options position = some stored ∧ HasTitle options title stored)
    ∨ (firstOption options title).isSome

variable {options position} {title : String}

theorem hasTitle_of_firstOption {first : Nat} (got : firstOption options title = some first) :
    HasTitle options title first := by
  obtain ⟨index, -⟩ := Option.filter_eq_some_iff.mp got
  obtain ⟨within, eq, -⟩ := List.findIdx?_eq_some_iff_getElem.mp index
  exact ⟨options[first], List.getElem?_eq_getElem within, eq_of_beq eq⟩

theorem stored_titled_eq_some {stored : Nat} :
    ((if 0 ≤ position ∧ position ≤ u32Max then some position.toNat else none).filter
        fun position => options[position]?.any fun option => option.title == title)
        = some stored
      ↔ storedOption options position = some stored ∧ HasTitle options title stored := by
  rw [storedOption, Option.filter_eq_some_iff, Option.filter_eq_some_iff, and_assoc]
  refine and_congr_right fun _ => ?_
  constructor
  · intro titled
    obtain ⟨option, inside, eq⟩ := (Option.any_eq_true _ _).mp titled
    obtain ⟨within, -⟩ := List.getElem?_eq_some_iff.mp inside
    exact ⟨decide_eq_true within, option, inside, eq_of_beq eq⟩
  · rintro ⟨-, option, inside, eq⟩
    exact (Option.any_eq_true _ _).mpr ⟨option, inside, beq_iff_eq.mpr eq⟩

/-- **A titled vote whose title is found** points at an option with the title. -/
theorem resolve_of_findable (got : Findable options position title) :
    ∃ place, resolveRemotePollVotePosition options position (some title) = some place
      ∧ HasTitle options title place := by
  rw [resolveRemotePollVotePosition]
  dsimp only [Option.bind_some]
  cases atStored : (if 0 ≤ position ∧ position ≤ u32Max then some position.toNat else none).filter
      fun position => options[position]?.any fun option => option.title == title with
  | some held =>
    exact ⟨held, rfl, (stored_titled_eq_some.mp atStored).2⟩
  | none =>
    rcases got with ⟨held, isStored, has⟩ | first
    · rw [stored_titled_eq_some.mpr ⟨isStored, has⟩] at atStored
      cases atStored
    · obtain ⟨place, isFirst⟩ := Option.isSome_iff_exists.mp first
      have index := isFirst
      rw [firstOption] at index
      rw [Option.none_or, index]
      exact ⟨place, rfl, hasTitle_of_firstOption isFirst⟩

/-- **A titled vote whose title is not found** points where its stored position does. -/
theorem resolve_of_not_findable (lost : ¬ Findable options position title) :
    resolveRemotePollVotePosition options position (some title)
      = storedOption options position := by
  obtain ⟨notStored, notFirst⟩ := not_or.mp lost
  have none : ((if 0 ≤ position ∧ position ≤ u32Max then some position.toNat else none).filter
      fun position => options[position]?.any fun option => option.title == title) = none := by
    rw [Option.eq_none_iff_forall_ne_some]
    intro held isStored
    exact notStored ⟨held, stored_titled_eq_some.mp isStored⟩
  have noFirst : firstOption options title = Option.none :=
    Option.not_isSome_iff_eq_none.mp notFirst
  rw [firstOption] at noFirst
  rw [resolveRemotePollVotePosition]
  dsimp only [Option.bind_some]
  rw [none, noFirst]
  rfl

theorem resolve_of_untitled :
    resolveRemotePollVotePosition options position none = storedOption options position := rfl

end Resolved

/-! ## Votes and what was chosen -/

/-- A vote row, and the title that the voter chose.  Rows of old do not have it. -/
structure CastVote where
  row : RemoteStatusPollVoteRow
  chosen : String
  recorded : row.optionTitle = none ∨ row.optionTitle = some chosen

/-- **What an update is to do with a vote**: it points at an option with the title that was
chosen, or is gone; and it is gone only with the title. -/
structure FollowsChoice (options : List RemotePollOptionDraft)
    (after : List RemoteStatusPollVoteRow) (vote : CastVote) : Prop where
  points : vote.row ∈ after → ∃ place,
    resolveRemotePollVotePosition options vote.row.optionPosition vote.row.optionTitle = some place
      ∧ HasTitle options vote.chosen place
  keeps : (∃ option ∈ options, option.title = vote.chosen) → vote.row ∈ after

/-- A vote with a title has its title among the options, or there is no option at its stored
position; a vote without one has the title at its stored position, or neither. -/
def StaysChosen (options : List RemotePollOptionDraft) (vote : CastVote) : Prop :=
  (if vote.row.optionTitle.isSome then Findable options vote.row.optionPosition vote.chosen
    else ∃ stored, storedOption options vote.row.optionPosition = some stored
      ∧ HasTitle options vote.chosen stored)
  ∨ storedOption options vote.row.optionPosition = none
    ∧ ∀ option ∈ options, option.title ≠ vote.chosen

theorem follows_iff_resolve {options : List RemotePollOptionDraft}
    {votes : List RemoteStatusPollVoteRow} {vote : CastVote} (held : vote.row ∈ votes) :
    FollowsChoice options (pruneRemotePollVoteRows options votes) vote
      ↔ (∃ place, resolveRemotePollVotePosition options vote.row.optionPosition
            vote.row.optionTitle = some place ∧ HasTitle options vote.chosen place)
        ∨ resolveRemotePollVotePosition options vote.row.optionPosition vote.row.optionTitle = none
          ∧ ∀ option ∈ options, option.title ≠ vote.chosen := by
  have kept : vote.row ∈ pruneRemotePollVoteRows options votes
      ↔ (resolveRemotePollVotePosition options vote.row.optionPosition
        vote.row.optionTitle).isSome = true := by
    rw [pruneRemotePollVoteRows, List.mem_filter]
    exact and_iff_right held
  constructor
  · intro follows
    cases got : resolveRemotePollVotePosition options vote.row.optionPosition
        vote.row.optionTitle with
    | none =>
      refine .inr ⟨rfl, fun option inside eq => ?_⟩
      have stays := kept.mp (follows.keeps ⟨option, inside, eq⟩)
      rw [got] at stays
      cases stays
    | some place =>
      have points := follows.points (kept.mpr (by rw [got]; rfl))
      rw [got] at points
      exact .inl points
  · rintro (⟨place, got, has⟩ | ⟨gone, lost⟩)
    · exact ⟨fun _ => ⟨place, got, has⟩, fun _ => kept.mpr (by rw [got]; rfl)⟩
    · refine ⟨fun stays => ?_, fun ⟨option, inside, eq⟩ => absurd eq (lost option inside)⟩
      rw [kept, gone] at stays
      cases stays

/-- **Votes follow their titles through an update**, exactly if for each of them the title is
found among the new options, or the title and the stored position are both gone; for a vote
that is stored without a title, if the stored position still has it. -/
theorem update_follows_iff (statusId : String) (draft : RemotePollDraft) (votes : List CastVote) :
    (∀ vote ∈ votes, FollowsChoice (upsertRemoteStatusPoll statusId draft
        (votes.map CastVote.row)).1.options
      (upsertRemoteStatusPoll statusId draft (votes.map CastVote.row)).2 vote)
      ↔ ∀ vote ∈ votes, StaysChosen (draft.row statusId).options vote := by
  refine forall₂_congr fun vote mem => ?_
  rw [upsertRemoteStatusPoll]
  dsimp only
  rw [follows_iff_resolve (List.mem_map_of_mem mem), StaysChosen]
  rcases vote.recorded with untitled | titled
  · rw [untitled, resolve_of_untitled, Option.isSome_none, if_neg Bool.false_ne_true]
  · rw [titled, Option.isSome_some, if_pos rfl]
    by_cases got : Findable (draft.row statusId).options vote.row.optionPosition vote.chosen
    · exact iff_of_true (.inl (resolve_of_findable got)) (.inl got)
    · rw [resolve_of_not_findable got]
      -- The title is not at the stored position, so the vote does not point at it.
      have elsewhere : ¬ ∃ place, storedOption (draft.row statusId).options
          vote.row.optionPosition = some place
            ∧ HasTitle (draft.row statusId).options vote.chosen place :=
        fun ⟨place, isStored, has⟩ => got (.inl ⟨place, isStored, has⟩)
      rw [or_iff_right elsewhere, or_iff_right got]

/-! ### An option is renamed -/

theorem recorded_orange : (some "orange" : Option String) = none ∨ some "orange" = some "orange" :=
  .inr rfl

/-- A vote for the first option of a poll. -/
def orangeVote : CastVote where
  row := ⟨"v1", "alice", 0, some "orange"⟩
  chosen := "orange"
  recorded := recorded_orange

def renamedDraft : RemotePollDraft where
  multiple := false
  expiresAt := none
  votersCount := none
  votesCount := 4
  expired := false
  options := [⟨"green", 3⟩, ⟨"blue", 1⟩]

/-- The vote stays, and is shown as one for the new title. -/
theorem renamed_option_takes_vote :
    (upsertRemoteStatusPoll "1" renamedDraft [orangeVote.row]).2 = [orangeVote.row]
      ∧ remapRemotePollVotePositions (upsertRemoteStatusPoll "1" renamedDraft
          [orangeVote.row]).1.options [orangeVote.row] = [0]
      ∧ ¬ FollowsChoice (upsertRemoteStatusPoll "1" renamedDraft [orangeVote.row]).1.options
          (upsertRemoteStatusPoll "1" renamedDraft [orangeVote.row]).2 orangeVote := by
  refine ⟨by decide, by decide, fun follows => ?_⟩
  obtain ⟨place, got, option, inside, eq⟩ := follows.points (by decide)
  have isFirst : resolveRemotePollVotePosition (upsertRemoteStatusPoll "1" renamedDraft
      [orangeVote.row]).1.options orangeVote.row.optionPosition orangeVote.row.optionTitle
      = some 0 := by decide
  rw [isFirst] at got
  cases got
  cases inside
  revert eq
  decide

end Cfwdon.Polls
