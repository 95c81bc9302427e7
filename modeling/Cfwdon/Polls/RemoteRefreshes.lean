import Cfwdon.Polls.RemoteVotes

/-!
# Votes and refreshes of a remote poll

A vote in a poll of another server is queued for it, and counted here at once.  A refresh
reads the counts of the origin and replaces those that are stored.  It gives way to votes
that were stored after the poll was last written, unless the origin has at least the stored
counts.  Every read and every write of these is a step of its own here, and votes and
refreshes take their steps in any order.
-/

namespace Cfwdon.Polls

open Library Inbox

/-- Of options with one title, the last. -/
def remotePollVotesByTitle (fetchedPoll : RemotePollDraft) (title : String) : Option Nat :=
  (fetchedPoll.options.reverse.find? fun option => option.title == title).map fun option =>
    option.votesCount

def remotePollHasExpectedVotersCount (fetchedPoll : RemotePollDraft)
    (expectedVotersCount : Option Int) : Bool :=
  expectedVotersCount.all fun expected =>
    decide (max expected 0 ≤ ((fetchedPoll.votersCount.getD 0 : Nat) : Int))

def expectedVotersCountAfterVote (poll : RemoteStatusPollRow) (hadExistingVotes : Bool)
    (newChoices : List Nat) : Option Int :=
  if hadExistingVotes || newChoices.isEmpty then poll.votersCount
  else some (poll.votersCount.getD 0 + 1)

def remotePollDraftAcknowledgesVote (poll : RemoteStatusPollRow)
    (options : List RemotePollOptionDraft) (fetchedPoll : RemotePollDraft)
    (hadExistingVotes : Bool) (newChoices : List Nat) : Bool :=
  fetchedPoll.multiple == poll.multiple
    && decide (poll.votesCount + newChoices.length ≤ fetchedPoll.votesCount)
    && (!poll.multiple || remotePollHasExpectedVotersCount fetchedPoll
      (expectedVotersCountAfterVote poll hadExistingVotes newChoices))
    && newChoices.all fun choice => options[choice]?.any fun option =>
      (remotePollVotesByTitle fetchedPoll option.title).any fun votes =>
        decide (option.votesCount + 1 ≤ votes)

def remotePollDraftAcknowledgesLocalSnapshot (poll : RemoteStatusPollRow)
    (options : List RemotePollOptionDraft) (fetchedPoll : RemotePollDraft) : Bool :=
  fetchedPoll.multiple == poll.multiple
    && decide (poll.votesCount ≤ fetchedPoll.votesCount)
    && (!poll.multiple || remotePollHasExpectedVotersCount fetchedPoll poll.votersCount)
    && options.all fun option =>
      (remotePollVotesByTitle fetchedPoll option.title).any fun votes =>
        decide (option.votesCount ≤ votes)

/-- `remote_poll_should_refresh`, for a viewer: neither is the poll marked as expired, nor is
its end among the times that are past.  A vote is refused otherwise. -/
def remotePollShouldRefresh (inPast : String → Bool) (poll : RemoteStatusPollRow) : Bool :=
  !poll.expired && !poll.expiresAt.any inPast

/-! ## A vote -/

def collectNewRemotePollChoices (optionCount : Nat) (existing choices : List Nat) :
    Except String (List Nat) :=
  choices.foldlM (fun newChoices choice =>
    if optionCount ≤ choice then .error "choices contains an out-of-range option"
    else if choice ∈ existing ∨ choice ∈ newChoices then .ok newChoices
    else .ok (newChoices ++ [choice])) []

/-- `RemotePollVotePlan`, with the poll row that was read before it. -/
structure RemotePollVotePlan where
  accountId : String
  poll : RemoteStatusPollRow
  options : List RemotePollOptionDraft
  hadExistingVotes : Bool
  newChoices : List Nat

def remotePollVotePlan (accountId : String) (poll : RemoteStatusPollRow)
    (options : List RemotePollOptionDraft) (existingVotes : List RemoteStatusPollVoteRow)
    (choices : List Nat) : Except String RemotePollVotePlan := do
  if options = [] then throw "poll not found"
  let existing := remapRemotePollVotePositions options existingVotes
  validatePollVoteSubmission existing.length poll.multiple choices.length
  let newChoices ← collectNewRemotePollChoices options.length existing choices
  if newChoices = [] then throw "you have already voted in this poll"
  return ⟨accountId, poll, options, existing ≠ [], newChoices⟩

/-! ## States -/

/-- A choice of a vote request, as it is sent to the origin. -/
structure Ballot where
  request : Nat
  position : Nat
  title : String
  deriving DecidableEq

def Ballot.pointsAt (options : List RemotePollOptionDraft) (ballot : Ballot) : Option Nat :=
  resolveRemotePollVotePosition options ballot.position (some ballot.title)

/-- A vote row, with the second it was stored in. -/
structure TimedVote where
  row : RemoteStatusPollVoteRow
  createdAt : Int

/-- What a request fetched: the document, and the ballots that it counts. -/
structure FetchedPoll where
  draft : RemotePollDraft
  counted : List Ballot

/-- Where a request stands: what it has read, and what it does next. -/
inductive PollRequest.Phase where
  /-- A refresh has read the poll row and fetches the document. -/
  | fetching (poll : RemoteStatusPollRow) (updatedAt : Int)
  /-- It looks for votes that are newer than the row. -/
  | checking (poll : RemoteStatusPollRow) (updatedAt : Int) (fetched : FetchedPoll)
  /-- It compares the document with the stored options. -/
  | comparing (poll : RemoteStatusPollRow) (fetched : FetchedPoll)
  /-- A vote has read the poll row. -/
  | planning (poll : RemoteStatusPollRow)
  /-- It queues and stores its choices. -/
  | storing (plan : RemotePollVotePlan) (left : List Nat)
  /-- It counts its choices in the poll row. -/
  | tallying (plan : RemotePollVotePlan)
  /-- It counts them in the options. -/
  | counting (plan : RemotePollVotePlan) (left : List Nat)
  /-- It fetches the document to see whether the vote is in it. -/
  | asking (plan : RemotePollVotePlan)
  /-- Either replaces the poll row and the options by the document. -/
  | replacing (fetched : FetchedPoll)
  /-- Either deletes the votes that point nowhere. -/
  | pruning

/-- The rows of one remote poll, the document of its origin, and the requests.  The second of
the clock is the same for all.  Which ballots were stored, counted here and counted there is
kept for the statements. -/
structure RefreshState where
  now : Int
  poll : RemoteStatusPollRow
  updatedAt : Int
  votes : List TimedVote
  origin : RemotePollDraft
  sent : List Ballot
  tallied : List Ballot
  acknowledged : List Ballot
  requests : Nat → Option PollRequest.Phase

/-! ## Steps -/

inductive RefreshEvent where
  /-- Time passes. -/
  | pass (seconds : Nat)
  /-- The origin has other counts or options, and counts some of the ballots it was sent. -/
  | serve (draft : RemotePollDraft) (counted : List Ballot)
  /-- A request begins, with a refresh or with a vote; these times are past. -/
  | openRefresh (request : Nat) (inPast : String → Bool)
  | openVote (request : Nat) (inPast : String → Bool)
  /-- The vote that has read the poll row is planned. -/
  | plan (request : Nat) (accountId : String) (choices : List Nat)
  /-- A request takes its next step. -/
  | advance (request : Nat) (voteId : String)
  /-- A request ends with an error. -/
  | abandon (request : Nat)

namespace RefreshState

variable (s : RefreshState)

def setRequest (request : Nat) (phase : Option PollRequest.Phase) : RefreshState :=
  { s with requests := Function.update s.requests request phase }

/-- `has_remote_poll_votes_created_after`. -/
def hasVotesCreatedAfter (createdAfter : Int) : Bool :=
  s.votes.any fun vote => decide (createdAfter < vote.createdAt)

/-- The document as it is now. -/
def fetch : FetchedPoll := ⟨s.origin, s.acknowledged⟩

/-- `insert_remote_poll_vote_row`, after the choice is queued. -/
def storeChoice (request : Nat) (plan : RemotePollVotePlan) (choice : Nat) (voteId : String) :
    RefreshState :=
  let title := (plan.options[choice]?.map fun option => option.title).getD ""
  let row : RemoteStatusPollVoteRow := ⟨voteId, plan.accountId, choice, some title⟩
  let taken := s.votes.any fun vote =>
    vote.row.accountId == plan.accountId && vote.row.optionPosition == choice
  { s with
    votes := if taken then s.votes else s.votes ++ [⟨row, s.now⟩]
    sent := ⟨request, choice, title⟩ :: s.sent }

/-- The update of the poll row in `apply_optimistic_remote_poll_vote_tally`. -/
def tallyPoll (plan : RemotePollVotePlan) : RefreshState :=
  { s with
    poll :=
      { s.poll with
        votesCount := s.poll.votesCount + plan.newChoices.length
        votersCount :=
          if plan.poll.multiple && !plan.hadExistingVotes then
            some (s.poll.votersCount.getD 0 + 1)
          else s.poll.votersCount }
    updatedAt := s.now }

/-- The update of one option in `apply_optimistic_remote_poll_vote_tally`. -/
def countChoice (request : Nat) (plan : RemotePollVotePlan) (choice : Nat) : RefreshState :=
  let title := (plan.options[choice]?.map fun option => option.title).getD ""
  { s with
    poll :=
      { s.poll with
        options := s.poll.options.modify choice fun option =>
          { option with votesCount := option.votesCount + 1 } }
    tallied := ⟨request, choice, title⟩ :: s.tallied }

/-- The batch of `upsert_remote_status_poll`. -/
def replace (statusId : String) (draft : RemotePollDraft) : RefreshState :=
  { s with poll := draft.row statusId, updatedAt := s.now }

/-- `prune_remote_poll_vote_rows`. -/
def prune : RefreshState :=
  { s with
    votes := s.votes.filter fun vote =>
      (resolveRemotePollVotePosition s.poll.options vote.row.optionPosition
        vote.row.optionTitle).isSome }

/-- The next step of a request. -/
def advance (statusId : String) (request : Nat) (voteId : String) :
    PollRequest.Phase → Option RefreshState
  | .fetching poll updatedAt =>
    some (s.setRequest request (some (.checking poll updatedAt s.fetch)))
  | .checking poll updatedAt fetched =>
    some (s.setRequest request (some
      (if s.hasVotesCreatedAfter updatedAt then .comparing poll fetched
        else .replacing fetched)))
  | .comparing poll fetched =>
    some (s.setRequest request
      (if remotePollDraftAcknowledgesLocalSnapshot poll s.poll.options fetched.draft then
        some (.replacing fetched)
      else none))
  | .planning _ => none
  | .storing plan (choice :: left) =>
    some ((s.storeChoice request plan choice voteId).setRequest request
      (some (.storing plan left)))
  | .storing plan [] => some (s.setRequest request (some (.tallying plan)))
  | .tallying plan =>
    some ((s.tallyPoll plan).setRequest request (some (.counting plan plan.newChoices)))
  | .counting plan (choice :: left) =>
    some ((s.countChoice request plan choice).setRequest request (some (.counting plan left)))
  | .counting plan [] => some (s.setRequest request (some (.asking plan)))
  | .asking plan =>
    some (s.setRequest request
      (if remotePollDraftAcknowledgesVote plan.poll plan.options s.origin plan.hadExistingVotes
          plan.newChoices then
        some (.replacing s.fetch)
      else none))
  | .replacing fetched =>
    some ((s.replace statusId fetched.draft).setRequest request (some .pruning))
  | .pruning => some (s.prune.setRequest request none)

end RefreshState

def refreshStep (statusId : String) (s : RefreshState) : RefreshEvent → Option RefreshState
  | .pass seconds => some { s with now := s.now + seconds }
  | .serve draft counted =>
    if ∀ ballot ∈ counted, ballot ∈ s.sent then
      some { s with origin := draft, acknowledged := counted ++ s.acknowledged }
    else none
  | .openRefresh request inPast =>
    if (s.requests request).isNone ∧ remotePollShouldRefresh inPast s.poll then
      some (s.setRequest request (some (.fetching s.poll s.updatedAt)))
    else none
  | .openVote request inPast =>
    if (s.requests request).isNone ∧ remotePollShouldRefresh inPast s.poll then
      some (s.setRequest request (some (.planning s.poll)))
    else none
  | .plan request accountId choices =>
    match s.requests request with
    | some (.planning poll) =>
      let own := (s.votes.map TimedVote.row).filter fun vote => vote.accountId == accountId
      some (s.setRequest request
        ((remotePollVotePlan accountId poll s.poll.options own choices).toOption.map fun plan =>
          .storing plan plan.newChoices))
    | _ => none
  | .advance request voteId => (s.requests request).bind (s.advance statusId request voteId)
  | .abandon request => some (s.setRequest request none)

section Guard

variable {statusId : String} {s after : RefreshState} {event : RefreshEvent}

end Guard

/-! ## What a replacement keeps -/

/-- The document that is written next. -/
def PollRequest.Phase.replacement : PollRequest.Phase → Option FetchedPoll
  | .replacing fetched => some fetched
  | _ => none

/-- The document that a step writes. -/
def RefreshState.replacement (s : RefreshState) : RefreshEvent → Option FetchedPoll
  | .advance request _ => (s.requests request).bind PollRequest.Phase.replacement
  | _ => none

/-- Ballots that are counted here and not in a document, for a position of its options. -/
def RefreshState.missingAt (s : RefreshState) (fetched : FetchedPoll) (position : Nat) :
    List Ballot :=
  s.tallied.filter fun ballot => decide (ballot ∉ fetched.counted)
    && ballot.pointsAt fetched.draft.options == some position

/-- **What a replacement is to leave**: no option is stored with less than its count in the
document and the ballots that are counted here and not there. -/
def LeavesVotes (before : RefreshState) (event : RefreshEvent) (after : RefreshState) : Prop :=
  ∀ fetched ∈ before.replacement event,
    ∀ position option fetchedOption, after.poll.options[position]? = some option →
      fetched.draft.options[position]? = some fetchedOption →
        fetchedOption.votesCount + (before.missingAt fetched position).length ≤ option.votesCount

/-- What a document that replaces the counts has: each ballot that is counted here and points
at one of its options, and no option with more votes than can be stored. -/
def CountsBallots (before : RefreshState) (event : RefreshEvent) : Prop :=
  ∀ fetched ∈ before.replacement event,
    (∀ option ∈ fetched.draft.options, option.votesCount ≤ Inbox.i32Max)
      ∧ ∀ ballot ∈ before.tallied,
        (ballot.pointsAt fetched.draft.options).isSome → ballot ∈ fetched.counted

instance (before : RefreshState) (event : RefreshEvent) : Decidable (CountsBallots before event) :=
  inferInstanceAs (Decidable (∀ fetched ∈ before.replacement event, _ ∧ _))

variable {fetched : FetchedPoll} {event : RefreshEvent}

section Replaced

variable {statusId : String} {before after : RefreshState}

theorem resolve_lt_length {options : List RemotePollOptionDraft} {pos : Int}
    {title : String} {place : Nat}
    (points : resolveRemotePollVotePosition options pos (some title) = some place) :
    place < options.length := by
  by_cases got : Findable options pos title
  · obtain ⟨titled, resolved, option, inside, -⟩ := resolve_of_findable got
    rw [resolved] at points
    cases points
    exact (List.getElem?_eq_some_iff.mp inside).1
  · rw [resolve_of_not_findable got, storedOption] at points
    exact of_decide_eq_true (Option.filter_eq_some_iff.mp points).2

theorem missingAt_eq_nil_iff :
    (∀ pos < fetched.draft.options.length, before.missingAt fetched pos = [])
      ↔ ∀ ballot ∈ before.tallied,
        (ballot.pointsAt fetched.draft.options).isSome → ballot ∈ fetched.counted := by
  constructor
  · intro noneMissing ballot mem points
    obtain ⟨pos, pointed⟩ := Option.isSome_iff_exists.mp points
    have here := noneMissing pos (resolve_lt_length pointed)
    rw [RefreshState.missingAt, List.filter_eq_nil_iff] at here
    have kept := here ballot mem
    rw [pointed, beq_self_eq_true, Bool.and_true, decide_eq_true_iff, not_not] at kept
    exact kept
  · intro all pos _
    rw [RefreshState.missingAt, List.filter_eq_nil_iff]
    intro ballot mem gone
    obtain ⟨uncounted, pointed⟩ := (Bool.and_eq_true_iff).mp gone
    apply of_decide_eq_true uncounted
    apply all ballot mem
    rw [eq_of_beq pointed]
    rfl

theorem replaced_option (fetched : FetchedPoll) (pos : Nat) :
    (before.replace statusId fetched.draft).poll.options[pos]?
      = fetched.draft.options[pos]?.map fun option =>
        { option with votesCount := min option.votesCount Inbox.i32Max } :=
  List.getElem?_map

/-- **A replacement keeps the votes** exactly if the document counts all of them that have an
option in it, and no option beyond what can be stored. -/
theorem replaced_keeps_iff (fetched : FetchedPoll) :
    (∀ pos option fetchedOption,
        (before.replace statusId fetched.draft).poll.options[pos]? = some option →
          fetched.draft.options[pos]? = some fetchedOption →
            fetchedOption.votesCount + (before.missingAt fetched pos).length ≤ option.votesCount)
      ↔ (∀ option ∈ fetched.draft.options, option.votesCount ≤ Inbox.i32Max)
        ∧ ∀ ballot ∈ before.tallied,
          (ballot.pointsAt fetched.draft.options).isSome → ballot ∈ fetched.counted := by
  rw [← missingAt_eq_nil_iff]
  constructor
  · intro kept
    have atPosition : ∀ pos fetchedOption,
        fetched.draft.options[pos]? = some fetchedOption →
          fetchedOption.votesCount + (before.missingAt fetched pos).length
            ≤ min fetchedOption.votesCount Inbox.i32Max := by
      intro pos fetchedOption inside
      have held : (before.replace statusId fetched.draft).poll.options[pos]?
          = some { fetchedOption with
              votesCount := min fetchedOption.votesCount Inbox.i32Max } := by
        rw [replaced_option, inside]
        rfl
      exact kept pos _ fetchedOption held inside
    constructor
    · intro option mem
      obtain ⟨pos, inside⟩ := List.getElem?_of_mem mem
      have := atPosition pos option inside
      omega
    · intro pos within
      have := atPosition pos _ (List.getElem?_eq_getElem within)
      apply List.eq_nil_of_length_eq_zero
      omega
  · rintro ⟨small, noneMissing⟩ pos option fetchedOption held inside
    rw [replaced_option, inside] at held
    obtain rfl := Option.some.inj held
    obtain ⟨within, -⟩ := List.getElem?_eq_some_iff.mp inside
    rw [noneMissing pos within]
    exact le_min le_rfl (small fetchedOption (List.mem_of_getElem? inside))

theorem poll_of_replacement
    (taken : refreshStep statusId before event = some after)
    (writes : fetched ∈ before.replacement event) :
    after.poll = (before.replace statusId fetched.draft).poll := by
  cases event with
  | advance req voteId =>
    obtain ⟨phase, stands, writing⟩ := Option.bind_eq_some_iff.mp writes
    rw [refreshStep, stands] at taken
    cases phase with
    | replacing doc =>
      obtain rfl := Option.some.inj writing
      obtain rfl := Option.some.inj taken
      rfl
    | fetching | checking | comparing | planning | storing | tallying | counting | asking
    | pruning => cases writing
  | pass | serve | openRefresh | openVote | plan | abandon => cases writes

theorem leavesVotes_iff
    (taken : refreshStep statusId before event = some after) :
    LeavesVotes before event after ↔ CountsBallots before event := by
  refine forall₂_congr fun fetched writes => ?_
  rw [poll_of_replacement taken writes]
  exact replaced_keeps_iff fetched

/-- **Refreshes keep the counted votes in a run**, exactly if each replacement is by a document
that counts all of them that have an option in it, and no option beyond what can be stored. -/
theorem refreshes_keep_iff {start finish : RefreshState}
    {trace : List (Transition RefreshState RefreshEvent)}
    (run : Run (fun s event after => refreshStep statusId s event = some after) start trace
      finish) :
    Throughout LeavesVotes trace ↔ Along CountsBallots trace :=
  run.throughout_iff_along fun taken => leavesVotes_iff taken

end Replaced

/-! ### A vote is erased -/

/-- A poll with one vote of another server. -/
def originDraft : RemotePollDraft where
  multiple := false
  expiresAt := none
  votersCount := none
  votesCount := 1
  expired := false
  options := [⟨"orange", 1⟩, ⟨"blue", 0⟩]

/-- It is stored, and nobody has voted here. -/
def beforeVotes : RefreshState where
  now := 100
  poll := originDraft.row "1"
  updatedAt := 40
  votes := []
  origin := originDraft
  sent := []
  tallied := []
  acknowledged := []
  requests := fun _ => none

/-- A vote is counted here and on its way, when a refresh fetches the poll. -/
def refreshBeforeDelivery : List RefreshEvent :=
  [.openVote 1 fun _ => false, .plan 1 "alice" [0]] ++ List.replicate 5 (.advance 1 "v1")
    ++ [.openRefresh 2 fun _ => false, .advance 2 "", .advance 2 ""]

/-- The vote arrives, and a refresh after it finds it counted. -/
def refreshAfterDelivery : List RefreshEvent :=
  [.openVote 1 fun _ => false, .plan 1 "alice" [0]] ++ List.replicate 5 (.advance 1 "v1")
    ++ [.serve { originDraft with votesCount := 2, options := [⟨"orange", 2⟩, ⟨"blue", 0⟩] }
        [⟨1, 0, "orange"⟩],
      .openRefresh 2 fun _ => false] ++ List.replicate 4 (.advance 2 "")

theorem refreshes_keep_delivered_vote :
    ∃ trace finish, Run (fun s event after => refreshStep "1" s event = some after) beforeVotes
        trace finish
      ∧ finish.poll.options = [⟨"orange", 2⟩, ⟨"blue", 0⟩] ∧ Throughout LeavesVotes trace := by
  have reach : (runWhere (refreshStep "1") CountsBallots refreshAfterDelivery
      beforeVotes).isSome = true := by decide
  obtain ⟨final, ran⟩ := Option.isSome_iff_exists.mp reach
  obtain ⟨trace, run, count⟩ := exists_run_of_runWhere ran
  obtain rfl := Option.some.inj ran
  exact ⟨trace, _, run, by decide, (refreshes_keep_iff run).mpr count⟩

/-- The refresh looks for votes that are newer than the row, finds none, and replaces the
counts: the vote that was counted here is no longer there. -/
theorem refresh_erases_vote :
    ∃ trace finish, Run (fun s event after => refreshStep "1" s event = some after) beforeVotes
        trace finish
      ∧ finish.votes ≠ [] ∧ finish.poll.options = originDraft.options
      ∧ ¬ Throughout LeavesVotes trace := by
  have reach : (runWhere (refreshStep "1") (fun _ _ => True) refreshBeforeDelivery
      beforeVotes).isSome = true := by decide
  obtain ⟨final, ran⟩ := Option.isSome_iff_exists.mp reach
  obtain ⟨trace, run, -⟩ := exists_run_of_runWhere ran
  obtain rfl := Option.some.inj ran
  refine ⟨_, _, @Run.snoc _ _ _ _ _ _ _ (.advance 2 "") run rfl, by decide, by decide,
    fun kept => ?_⟩
  have last := (Throughout.snoc_iff.mp kept).2 ⟨originDraft, []⟩ rfl 0 ⟨"orange", 1⟩
    ⟨"orange", 1⟩ rfl rfl
  revert last
  decide

end Cfwdon.Polls
