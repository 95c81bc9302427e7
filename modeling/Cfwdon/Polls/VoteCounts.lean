import Cfwdon.Library.Run
import Cfwdon.Polls.Votes

/-!
# The counts of a poll

The count of an option is to be the number of its votes, and a valid vote from elsewhere
is to be recorded.
-/

namespace Cfwdon.Polls

open Library ActivityPub

def votesAt (votes : PollVotes) (pollId : String) (position : Nat) : Nat :=
  votes.rows.countP fun vote => vote.pollId == pollId && vote.optionPosition == position

/-- Every option counts its votes. -/
def CountsMatch (tables : PollTables) : Prop :=
  ∀ poll ∈ tables.polls.rows, ∀ position option, poll.options[position]? = some option →
    option.votesCount = votesAt tables.votes poll.id position

/-- An actor has voted for an option. -/
def Recorded (votes : PollVotes) (pollId accountId : String) (position : Nat) : Prop :=
  ∃ vote ∈ votes.rows, vote.pollId = pollId ∧ vote.accountId = accountId
    ∧ vote.optionPosition = position

variable (rfc3339 : Rfc3339)

/-- A vote from elsewhere for an option of a poll that is open, by an actor that may have
several votes in it or has none. -/
def ValidVote (lookups : PollLookups) (tables : PollTables) (vote : IncomingVote)
    (poll : StatusPoll) (choice : Nat) : Prop :=
  (∃ choiceName, votedPoll lookups tables vote = some (poll, choiceName)
      ∧ choicePosition poll (trim choiceName) = some choice)
    ∧ expired rfc3339 lookups.now poll = false
    ∧ (poll.multiple = true
      ∨ listPollVotePositionsForAccount tables.votes poll.id vote.actorUri = [])

/-- After a request every option counts its votes, and a valid vote from elsewhere is
recorded if its handling is not cut short. -/
def PollVotesKept (before : PollTables) (request : PollRequest) (after : PollTables) : Prop :=
  CountsMatch after
    ∧ ∀ vote, request.operation = .incoming vote →
      (statementsOf rfc3339 request.lookups before request.operation).length ≤ request.reached →
      ∀ poll choice, ValidVote rfc3339 request.lookups before vote poll choice →
        Recorded after.votes poll.id vote.actorUri choice

/-! ## The condition -/

/-- Rows that can be inserted one after another. -/
def Insertable (accounts : List String) (tables : PollTables) (votes : List PollVote) : Prop :=
  (∀ vote ∈ votes, Referenced accounts tables.polls vote ∧ Unclashing tables.votes vote)
    ∧ votes.Pairwise fun vote vote' => ¬ Clash vote vote'

/-- A vote in a poll that `vote_in_poll` accepts. -/
structure AcceptedVote (lookups : PollLookups) (tables : PollTables) (vote : LocalVote)
    (poll : StatusPoll) : Prop where
  named : ∃ pollId, nonBlank vote.pollId = some pollId ∧ tables.polls.find pollId = some poll
  choices : vote.choices ≠ [] ∧ vote.choices.Nodup
  visible : ∃ status, lookups.findStatusById poll.statusId = some status
    ∧ status.accountId ∈ lookups.accounts
    ∧ lookups.canViewLocalStatus status vote.viewer = true
  openPoll : expired rfc3339 lookups.now poll = false
  inRange : ∀ choice ∈ vote.choices, choice < poll.options.length
  single : poll.multiple = true ∨ vote.choices.length = 1
  first : listPollVotePositionsForAccount tables.votes poll.id vote.viewer = []

/-- What is taken back is counted by an option. -/
def Counted (tables : PollTables) (pollId : String) (position : Nat) : Prop :=
  ∃ poll ∈ tables.polls.rows, poll.id = pollId ∧ position < poll.options.length

/-- A request does not end between a row and its count, and inserts no new vote from
elsewhere. -/
def Unbroken (tables : PollTables) (request : PollRequest) : Prop :=
  match request.operation with
  | .vote vote =>
    ∀ poll, AcceptedVote rfc3339 request.lookups tables vote poll →
      ∀ index < vote.choices.length, request.reached = 2 * index + 2 →
        ¬ Insertable request.lookups.accounts tables
          ((accountVotes poll.id vote.viewer vote.choices vote.voteId).take (index + 1))
  | .incoming vote =>
    ∀ poll choice, ValidVote rfc3339 request.lookups tables vote poll choice →
      ¬ Recorded tables.votes poll.id vote.actorUri choice → request.reached = 0
  | .undo undo =>
    ∀ target, undoTarget request.lookups tables undo = some target →
      Counted tables target.pollId target.optionPosition → request.reached ≠ 1

/-! ## One statement -/

def VotesAhead (tables : PollTables) (pollId : String) (position : Nat) : Prop :=
  ∀ poll ∈ tables.polls.rows, ∀ place option, poll.options[place]? = some option →
    votesAt tables.votes poll.id place
      = option.votesCount + if pollId = poll.id ∧ position = place then 1 else 0

def CountAhead (tables : PollTables) (pollId : String) (position : Nat) : Prop :=
  ∀ poll ∈ tables.polls.rows, ∀ place option, poll.options[place]? = some option →
    option.votesCount
      = votesAt tables.votes poll.id place + if pollId = poll.id ∧ position = place then 1 else 0

variable {vote : PollVote} {votes : PollVotes} {guard : PollVote → Bool} {poll : StatusPoll}
  {change : Nat → Nat}

theorem votesAt_append
    (apart : Unclashing votes vote) (pollId : String) (position : Nat) :
    votesAt (votes.append vote apart) pollId position
      = votesAt votes pollId position
        + if vote.pollId = pollId ∧ vote.optionPosition = position then 1 else 0 := by
  rw [votesAt, votesAt, PollVotes.append, List.countP_append, List.countP_singleton]
  congr 1
  simp

theorem votesAt_deleteWhere {target : PollVote}
    (held : target ∈ votes.rows)
    (only : ∀ vote ∈ votes.rows, guard vote = true ↔ vote = target)
    (pollId : String) (position : Nat) :
    votesAt votes pollId position
      = votesAt (votes.deleteWhere guard) pollId position
        + if target.pollId = pollId ∧ target.optionPosition = position then 1 else 0 := by
  obtain ⟨front, back, split⟩ := List.append_of_mem held
  have apart := votes.unique
  rw [split] at apart only
  obtain ⟨-, behind, between⟩ := List.pairwise_append.mp apart
  have keptFront : ∀ vote ∈ front, (!guard vote) = true := by
    intro vote mem
    rw [Bool.not_eq_true', Bool.eq_false_iff]
    intro deleted
    have eq := (only vote (List.mem_append_left _ mem)).mp deleted
    exact between vote mem target List.mem_cons_self (.inl (by rw [eq]))
  have keptBack : ∀ vote ∈ back, (!guard vote) = true := by
    intro vote mem
    rw [Bool.not_eq_true', Bool.eq_false_iff]
    intro deleted
    have eq := (only vote (List.mem_append_right _ (List.mem_cons_of_mem _ mem))).mp deleted
    exact (List.pairwise_cons.mp behind).1 vote mem (.inl (by rw [eq]))
  have gone : guard target = true := (only target (by simp)).mpr rfl
  have left : (votes.deleteWhere guard).rows = front ++ back := by
    rw [PollVotes.rows_deleteWhere, split, List.filter_append, List.filter_eq_self.mpr keptFront,
      List.filter_cons_of_neg (by simp [gone]), List.filter_eq_self.mpr keptBack]
  rw [votesAt, votesAt, left, split, List.countP_append, List.countP_append, List.countP_cons]
  simp only [Bool.and_eq_true, beq_iff_eq]
  omega

section

variable {tables : PollTables} {pollId : String} {position : Nat}

theorem VotesAhead.not_countsMatch (ahead : VotesAhead tables pollId position)
    (count : Counted tables pollId position) : ¬ CountsMatch tables := by
  obtain ⟨poll, held, rfl, inRange⟩ := count
  intro counts
  have got := List.getElem?_eq_getElem inRange
  have more := ahead poll held position _ got
  rw [← counts poll held position _ got, if_pos ⟨rfl, rfl⟩] at more
  omega

theorem CountAhead.not_countsMatch (ahead : CountAhead tables pollId position)
    (count : Counted tables pollId position) : ¬ CountsMatch tables := by
  obtain ⟨poll, held, rfl, inRange⟩ := count
  intro counts
  have got := List.getElem?_eq_getElem inRange
  have more := ahead poll held position _ got
  rw [← counts poll held position _ got, if_pos ⟨rfl, rfl⟩] at more
  omega

theorem option_updateCount {place : Nat}
    {option : PollOption}
    (mem : poll ∈ ((updateCount change pollId position).run tables.polls).rows)
    (got : poll.options[place]? = some option) :
    ∃ old ∈ tables.polls.rows, ∃ oldOption, old.id = poll.id
      ∧ old.options[place]? = some oldOption
      ∧ option.votesCount = if pollId = poll.id ∧ position = place
          then change oldOption.votesCount else oldOption.votesCount := by
  obtain ⟨old, held, rfl⟩ := List.mem_map.mp mem
  refine ⟨old, held, ?_⟩
  obtain ⟨here, set⟩ | ⟨elsewhere, set⟩ :
      (pollId = old.id ∧ (updateCount change pollId position).onRow old
          = changeCount change position old)
        ∨ (pollId ≠ old.id ∧ (updateCount change pollId position).onRow old = old) := by
    by_cases here : old.id = pollId
    · exact .inl ⟨here.symm, Update.onRow_of_guard (by simpa [updateCount] using here)⟩
    · exact .inr ⟨Ne.symm here, Update.onRow_of_not_guard (by simpa [updateCount] using here)⟩
  · rw [set, changeCount, List.getElem?_modify] at got
    obtain ⟨oldOption, oldFound, rfl⟩ := Option.map_eq_some_iff.mp got
    refine ⟨oldOption, by rw [set]; rfl, oldFound, ?_⟩
    rw [set]
    by_cases eq : position = place
    · simp [eq, here, changeCount]
    · simp [eq]
  · rw [set] at got ⊢
    exact ⟨option, rfl, got, by simp [elsewhere]⟩

theorem VotesAhead.countsMatch (ahead : VotesAhead tables pollId position) :
    CountsMatch { tables with
      polls := (updateCount (· + 1) pollId position).run tables.polls } := by
  intro poll mem place option got
  obtain ⟨old, held, oldOption, sameId, oldFound, count⟩ := option_updateCount mem got
  have votes := ahead old held place oldOption oldFound
  rw [sameId] at votes
  rw [count, votes]
  split_ifs <;> rfl

theorem CountAhead.countsMatch (ahead : CountAhead tables pollId position) :
    CountsMatch { tables with
      polls := (updateCount (· - 1) pollId position).run tables.polls } := by
  intro poll mem place option got
  obtain ⟨old, held, oldOption, sameId, oldFound, count⟩ := option_updateCount mem got
  have votes := ahead old held place oldOption oldFound
  rw [sameId] at votes
  rw [count, votes]
  split_ifs <;> rfl

theorem votesAhead_append (counts : CountsMatch tables)
    (apart : Unclashing tables.votes vote) :
    VotesAhead { tables with votes := tables.votes.append vote apart }
      vote.pollId vote.optionPosition := by
  intro poll held place option got
  rw [votesAt_append, counts poll held place option got]

theorem countAhead_deleteWhere (counts : CountsMatch tables)
    {target : PollVote} (held : target ∈ tables.votes.rows)
    (only : ∀ vote ∈ tables.votes.rows, guard vote = true ↔ vote = target) :
    CountAhead { tables with votes := tables.votes.deleteWhere guard }
      target.pollId target.optionPosition := by
  intro poll mem place option got
  rw [counts poll mem place option got, votesAt_deleteWhere held only]

theorem Referenced.counted {accounts : List String}
    (referenced : Referenced accounts tables.polls vote) :
    Counted tables vote.pollId vote.optionPosition :=
  referenced.2

theorem insertVote_cases (accounts : List String) (tables : PollTables) (vote : PollVote) :
    (executeStatement accounts (.insertVote vote) tables = none
        ∧ ¬ (Referenced accounts tables.polls vote ∧ Unclashing tables.votes vote))
      ∨ ∃ apart : Unclashing tables.votes vote, Referenced accounts tables.polls vote
        ∧ executeStatement accounts (.insertVote vote) tables
          = some { tables with votes := tables.votes.append vote apart } := by
  rw [executeStatement]
  by_cases referenced : Referenced accounts tables.polls vote
  · by_cases apart : Unclashing tables.votes vote
    · exact .inr ⟨apart, referenced, by rw [if_pos referenced, dif_pos apart]⟩
    · exact .inl ⟨by rw [if_pos referenced, dif_neg apart], fun both => apart both.2⟩
  · exact .inl ⟨by rw [if_neg referenced], fun both => referenced both.1⟩

/-- So does an insert that ignores a clash, except that it does not fail then. -/
theorem insertOrIgnoreVote_cases (accounts : List String) (tables : PollTables)
    (vote : PollVote) :
    (executeAll (executeStatement accounts) [.insertOrIgnoreVote vote] tables = tables
        ∧ ¬ (Referenced accounts tables.polls vote ∧ Unclashing tables.votes vote))
      ∨ ∃ apart : Unclashing tables.votes vote, Referenced accounts tables.polls vote
        ∧ executeAll (executeStatement accounts) [.insertOrIgnoreVote vote] tables
          = { tables with votes := tables.votes.append vote apart } := by
  rw [executeAll, executeStatement]
  by_cases referenced : Referenced accounts tables.polls vote
  · by_cases apart : Unclashing tables.votes vote
    · exact .inr ⟨apart, referenced, by rw [if_pos referenced, dif_pos apart]; rfl⟩
    · exact .inl ⟨by rw [if_pos referenced, dif_neg apart]; rfl, fun both => apart both.2⟩
  · exact .inl ⟨by rw [if_neg referenced], fun both => referenced both.1⟩

end

/-! ## The votes of an account -/

variable {accounts : List String}

variable {position : Nat} {pollId : String} {choice : Nat} {target : DeletionTarget}

theorem referenced_updateCount {polls : Table StatusPoll StatusPoll.id}
    :
    Referenced accounts ((updateCount change pollId position).run polls) vote
      ↔ Referenced accounts polls vote := by
  have options (poll : StatusPoll) :
      ((updateCount change pollId position).onRow poll).options.length = poll.options.length := by
    obtain ⟨-, set⟩ | same := (updateCount change pollId position).onRow_cases poll
    · rw [set]
      exact List.length_modify ..
    · rw [same]
  rw [Referenced, Referenced]
  refine and_congr_right fun _ => ?_
  constructor
  · rintro ⟨poll, mem, here, inRange⟩
    obtain ⟨old, held, rfl⟩ := List.mem_map.mp mem
    rw [options] at inRange
    exact ⟨old, held, (Update.key_onRow _ old).symm.trans here, inRange⟩
  · rintro ⟨poll, held, here, inRange⟩
    refine ⟨_, List.mem_map_of_mem held, (Update.key_onRow _ poll).trans here, ?_⟩
    rw [options]
    exact inRange

theorem unclashing_append {vote vote' : PollVote}
    (apart : Unclashing votes vote) :
    Unclashing (votes.append vote apart) vote' ↔ Unclashing votes vote' ∧ ¬ Clash vote vote' := by
  simp [Unclashing, or_imp, forall_and]

/-- Rows can be inserted exactly if the first one can, and after it and its count the
others can. -/
theorem insertable_cons_iff {tables : PollTables} {rest : List PollVote}
    (referenced : Referenced accounts tables.polls vote)
    (unclashing : Unclashing tables.votes vote) :
    Insertable accounts tables (vote :: rest)
      ↔ Insertable accounts
        ⟨(updateCount change pollId position).run tables.polls,
          tables.votes.append vote unclashing⟩ rest := by
  simp only [Insertable, List.forall_mem_cons, List.pairwise_cons, referenced_updateCount,
    unclashing_append]
  constructor
  · rintro ⟨⟨-, each⟩, apart, pairwise⟩
    exact ⟨fun vote' mem => ⟨(each vote' mem).1, (each vote' mem).2, apart vote' mem⟩, pairwise⟩
  · rintro ⟨each, pairwise⟩
    exact ⟨⟨⟨referenced, unclashing⟩, fun vote' mem =>
      ⟨(each vote' mem).1, (each vote' mem).2.1⟩⟩,
      fun vote' mem => (each vote' mem).2.2, pairwise⟩

/-- **The votes of an account are counted wherever the operation ends, except between a row
and its count.** -/
theorem insertAccountPollVotes_counts_match_iff {tables : PollTables}
    (counts : CountsMatch tables) (votes : List PollVote) (reached : Nat) :
    CountsMatch (executeAll (executeStatement accounts)
        ((insertAccountPollVotes votes).take reached) tables)
      ↔ ∀ index < votes.length, reached = 2 * index + 1 →
        ¬ Insertable accounts tables (votes.take (index + 1)) := by
  induction votes generalizing tables reached with
  | nil => simpa [insertAccountPollVotes] using counts
  | cons vote rest ih =>
    have stmts : insertAccountPollVotes (vote :: rest)
        = .insertVote vote :: .incrementCount vote.pollId vote.optionPosition
          :: insertAccountPollVotes rest := rfl
    rw [stmts]
    obtain ⟨failed, unmet⟩ | ⟨apart, referenced, added⟩ :=
      insertVote_cases accounts tables vote
    · -- the operation ends at the first row
      have ended : CountsMatch (executeAll (executeStatement accounts)
          ((PollStatement.insertVote vote :: .incrementCount vote.pollId vote.optionPosition
            :: insertAccountPollVotes rest).take reached) tables) := by
        cases reached with
        | zero => exact counts
        | succ reached =>
          rw [List.take_succ_cons, executeAll_cons_of_none failed]
          exact counts
      refine iff_of_true ended fun index _ _ insertable => unmet ?_
      exact insertable.1 vote (by simp)
    · match reached with
      | 0 => exact iff_of_true counts fun index _ bad => by omega
      | 1 =>
        rw [List.take_succ_cons, executeAll_cons_of_some added, List.take_zero, executeAll_nil]
        refine iff_of_false ((votesAhead_append counts apart).not_countsMatch
          referenced.counted) fun each => each 0 (by simp) rfl ?_
        exact ⟨by simpa using ⟨referenced, apart⟩, by simp⟩
      | reached + 2 =>
        rw [List.take_succ_cons, executeAll_cons_of_some added, List.take_succ_cons,
          executeAll_cons_of_some rfl]
        have count := (votesAhead_append counts apart).countsMatch
        rw [ih count reached]
        constructor
        · intro each index inRange here insertable
          cases index with
          | zero => omega
          | succ index =>
            refine each index (by simpa using inRange) (by omega) ?_
            rw [List.take_succ_cons] at insertable
            exact (insertable_cons_iff referenced apart).mp insertable
        · intro each index inRange here insertable
          refine each (index + 1) (by simpa using inRange) (by omega) ?_
          rw [List.take_succ_cons]
          exact (insertable_cons_iff referenced apart).mpr insertable

theorem checkPollVoteRequest_eq_ok_iff {choices : List Nat} :
    checkPollVoteRequest choices = .ok () ↔ choices ≠ [] ∧ choices.Nodup := by
  rw [checkPollVoteRequest]
  split_ifs <;> simp_all

theorem validateChoices_eq_ok_iff {optionCount : Nat} {allowsMultiple : Bool}
    {choices : List Nat} :
    validateLocalPollVoteChoices optionCount allowsMultiple choices = .ok ()
      ↔ (∀ choice ∈ choices, choice < optionCount)
        ∧ (allowsMultiple = true ∨ choices.length = 1) := by
  rw [validateLocalPollVoteChoices]
  cases allowsMultiple <;> split_ifs <;> simp_all

theorem validateSubmission_eq_ok_iff {old choiceCount : Nat} {multiple : Bool}
    (single : multiple = true ∨ choiceCount = 1) :
    validatePollVoteSubmission old multiple choiceCount = .ok () ↔ old = 0 := by
  rw [validatePollVoteSubmission]
  rcases single with rfl | rfl <;> split_ifs <;> simp_all

variable {rfc3339} {lookups : PollLookups} {tables : PollTables}

theorem AcceptedVote.unique {vote : LocalVote} {poll poll' : StatusPoll}
    (ok : AcceptedVote rfc3339 lookups tables vote poll)
    (accepted' : AcceptedVote rfc3339 lookups tables vote poll') : poll = poll' := by
  obtain ⟨pollId, named, got⟩ := ok.named
  obtain ⟨pollId', named', got'⟩ := accepted'.named
  rw [named] at named'
  cases named'
  rw [got] at got'
  exact Option.some.inj got'

theorem AcceptedVote.voteInPoll {vote : LocalVote}
    (ok : AcceptedVote rfc3339 lookups tables vote poll) :
    voteInPoll rfc3339 lookups tables vote
      = .ok (replaceAccountPollVotes poll.id vote.viewer []
        (accountVotes poll.id vote.viewer vote.choices vote.voteId)) := by
  obtain ⟨pollId, named, got⟩ := ok.named
  obtain ⟨status, statusFound, author, visible⟩ := ok.visible
  have checked := checkPollVoteRequest_eq_ok_iff.mpr ok.choices
  have inRange := validateChoices_eq_ok_iff.mpr ⟨ok.inRange, ok.single⟩
  have first := (validateSubmission_eq_ok_iff ok.single).mpr rfl
  rw [Polls.voteInPoll]
  simp only [named, checked, got, statusFound, bind, Except.bind, visible,
    ok.openPoll, List.contains_eq_mem, author, decide_true, Bool.not_true,
    Bool.false_eq_true, if_false]
  rw [applyPollVote]
  simp only [ok.first, inRange, List.length_nil, first, bind, Except.bind, pure, Except.pure]

theorem acceptedVote_of_voteInPoll {vote : LocalVote} {stmts : List PollStatement}
    (ans : voteInPoll rfc3339 lookups tables vote = .ok stmts) :
    ∃ poll, AcceptedVote rfc3339 lookups tables vote poll
      ∧ stmts = replaceAccountPollVotes poll.id vote.viewer []
        (accountVotes poll.id vote.viewer vote.choices vote.voteId) := by
  rw [voteInPoll] at ans
  split at ans
  · rename_i pollId named
    obtain ⟨⟨⟩, checked, ans⟩ := bind_eq_ok_iff.mp ans
    split at ans
    · rename_i poll got
      split at ans
      · rename_i status statusFound
        split_ifs at ans with author visible closed
        rw [applyPollVote] at ans
        obtain ⟨⟨⟩, inRange, ans⟩ := bind_eq_ok_iff.mp ans
        obtain ⟨⟨⟩, first, ans⟩ := bind_eq_ok_iff.mp ans
        obtain ⟨inRange, single⟩ := validateChoices_eq_ok_iff.mp inRange
        have none := List.length_eq_zero_iff.mp ((validateSubmission_eq_ok_iff single).mp first)
        rw [none] at ans
        cases ans
        refine ⟨poll, ?_, rfl⟩
        exact {
          named := ⟨pollId, named, got⟩
          choices := checkPollVoteRequest_eq_ok_iff.mp checked
          visible := ⟨status, statusFound, by simpa using author, by simpa using visible⟩
          openPoll := by simpa using closed
          inRange := inRange
          single := single
          first := none }
      · cases ans
    · cases ans
  · cases ans

/-- **What `vote_in_poll` writes**: the rows of a vote that it accepts, after deleting
nothing; and nothing for another. -/
theorem voteInPoll_cases (rfc3339 : Rfc3339) (lookups : PollLookups) (tables : PollTables)
    (vote : LocalVote) :
    (∃ poll, AcceptedVote rfc3339 lookups tables vote poll
        ∧ statementsOf rfc3339 lookups tables (.vote vote)
          = replaceAccountPollVotes poll.id vote.viewer []
            (accountVotes poll.id vote.viewer vote.choices vote.voteId))
      ∨ (statementsOf rfc3339 lookups tables (.vote vote) = []
        ∧ ∀ poll, ¬ AcceptedVote rfc3339 lookups tables vote poll) := by
  cases ans : voteInPoll rfc3339 lookups tables vote with
  | ok stmts =>
    obtain ⟨poll, accepted, eq⟩ := acceptedVote_of_voteInPoll ans
    refine .inl ⟨poll, accepted, ?_⟩
    rw [statementsOf, ans, eq]
    rfl
  | error msg =>
    refine .inr ⟨by rw [statementsOf, ans]; rfl, fun poll accepted => ?_⟩
    rw [accepted.voteInPoll] at ans
    cases ans

/-! ## A vote from elsewhere -/

theorem mem_votePositions {pollId accountId : String}
    :
    position ∈ listPollVotePositionsForAccount votes pollId accountId
      ↔ Recorded votes pollId accountId position := by
  simp [listPollVotePositionsForAccount, Recorded, and_assoc]

theorem ValidVote.unique {vote : IncomingVote} {poll poll' : StatusPoll} {choice choice' : Nat}
    (valid : ValidVote rfc3339 lookups tables vote poll choice)
    (valid' : ValidVote rfc3339 lookups tables vote poll' choice') :
    poll = poll' ∧ choice = choice' := by
  obtain ⟨⟨choiceName, got, position⟩, -⟩ := valid
  obtain ⟨⟨choiceName', got', position'⟩, -⟩ := valid'
  rw [got] at got'
  cases got'
  rw [position] at position'
  exact ⟨rfl, Option.some.inj position'⟩

theorem choicePosition_lt {title : String}
    (got : choicePosition poll title = some choice) : choice < poll.options.length := by
  obtain ⟨inRange, -⟩ := List.findIdx?_eq_some_iff_getElem.mp got
  exact inRange

/-- **What `handle_inbox_poll_vote` writes**: the row of a valid vote that is not recorded
yet, and no count. -/
theorem pollVote_cases (rfc3339 : Rfc3339) (lookups : PollLookups)
    (tables : PollTables) (vote : IncomingVote) :
    (∃ poll choice, ValidVote rfc3339 lookups tables vote poll choice
        ∧ ¬ Recorded tables.votes poll.id vote.actorUri choice
        ∧ statementsOf rfc3339 lookups tables (.incoming vote)
          = [.insertOrIgnoreVote ⟨vote.voteId, poll.id, vote.actorUri, choice, vote.activityUri⟩])
      ∨ (statementsOf rfc3339 lookups tables (.incoming vote) = []
        ∧ ∀ poll choice, ValidVote rfc3339 lookups tables vote poll choice →
          Recorded tables.votes poll.id vote.actorUri choice) := by
  rw [statementsOf, handleInboxPollVote]
  cases read : votedPoll lookups tables vote with
  | none =>
    refine .inr ⟨rfl, fun poll choice valid => ?_⟩
    obtain ⟨⟨choiceName, got, -⟩, -⟩ := valid
    rw [read] at got
    cases got
  | some named =>
    obtain ⟨poll, choiceName⟩ := named
    dsimp only
    cases closed : expired rfc3339 lookups.now poll with
    | true =>
      refine .inr ⟨rfl, fun poll' choice valid => ?_⟩
      obtain ⟨⟨choiceName', got, -⟩, openPoll, -⟩ := valid
      rw [read] at got
      cases got
      rw [closed] at openPoll
      cases openPoll
    | false =>
      cases position : choicePosition poll (trim choiceName) with
      | none =>
        refine .inr ⟨rfl, fun poll' choice valid => ?_⟩
        obtain ⟨⟨choiceName', got, position'⟩, -⟩ := valid
        rw [read] at got
        cases got
        rw [position] at position'
        cases position'
      | some choice =>
        simp only [Bool.false_eq_true, if_false]
        rw [applyIncomingPollVote, if_neg (not_le.mpr (choicePosition_lt position))]
        by_cases again : Recorded tables.votes poll.id vote.actorUri choice
        · -- the option has the vote of the actor already
          refine .inr ⟨?_, fun poll' choice' valid => ?_⟩
          · split_ifs with _ other
            · rfl
            · rfl
            · rw [List.contains_iff_mem, mem_votePositions] at other
              exact absurd again other
          · obtain ⟨⟨choiceName', got, position'⟩, -⟩ := valid
            rw [read] at got
            cases got
            rw [position] at position'
            cases position'
            exact again
        · have unrecorded : ¬ (listPollVotePositionsForAccount tables.votes poll.id
              vote.actorUri).contains choice = true := by
            rw [List.contains_iff_mem, mem_votePositions]
            exact again
          by_cases several : poll.multiple = true
              ∨ listPollVotePositionsForAccount tables.votes poll.id vote.actorUri = []
          · refine .inl ⟨poll, choice, ⟨⟨choiceName, read, position⟩, closed, several⟩,
              again, ?_⟩
            rw [if_neg, if_neg unrecorded]
            rcases several with multiple | first
            · simp [multiple]
            · simp [first]
          · refine .inr ⟨?_, fun poll' choice' valid => ?_⟩
            · rw [if_pos]
              rw [not_or] at several
              simpa using several
            · obtain ⟨⟨choiceName', got, -⟩, -, several'⟩ := valid
              rw [read] at got
              cases got
              exact absurd several' several

/-! ## A vote that is taken back -/

theorem Clash.symm {vote vote' : PollVote} (clash : Clash vote vote') : Clash vote' vote := by
  rcases clash with sameId | ⟨poll, account, position⟩ | ⟨given, sameUri⟩
  · exact .inl sameId.symm
  · exact .inr (.inl ⟨poll.symm, account.symm, position.symm⟩)
  · exact .inr (.inr ⟨sameUri ▸ given, sameUri.symm⟩)

theorem PollVotes.eq_of_clash {vote vote' : PollVote}
    (held : vote ∈ votes.rows) (held' : vote' ∈ votes.rows) (clash : Clash vote vote') :
    vote = vote' := by
  have : Std.Symm fun vote vote' : PollVote => ¬ Clash vote vote' :=
    ⟨fun _ _ apart clash => apart clash.symm⟩
  by_contra different
  exact votes.unique.forall held held' different clash

theorem findPollVoteByActivityUri_spec {actorUri activityUri : String}
    {status : PolledStatus}
    (got : findPollVoteByActivityUri lookups tables actorUri activityUri = some (vote, status)) :
    vote ∈ tables.votes.rows ∧ vote.accountId = actorUri ∧ vote.activityUri = some activityUri := by
  obtain ⟨held, mem, read⟩ := List.exists_of_findSome?_eq_some got
  obtain ⟨poll, -, read⟩ := Option.bind_eq_some_iff.mp read
  obtain ⟨status', -, read⟩ := Option.bind_eq_some_iff.mp read
  cases read
  rw [List.mem_filter, Bool.and_eq_true, beq_iff_eq, beq_iff_eq] at mem
  exact mem

theorem resolveDeletionTarget_spec {actorUri : String}
    {activityUri choiceName : Option String}
    (got : resolveDeletionTarget lookups tables poll actorUri activityUri choiceName
      = some target) :
    ∃ vote ∈ tables.votes.rows, vote.pollId = target.pollId
      ∧ vote.optionPosition = target.optionPosition
      ∧ ∀ other ∈ tables.votes.rows, target.filter other = true ↔ other = vote := by
  cases activityUri with
  | some activityUri =>
    obtain ⟨⟨vote, status⟩, read, rfl⟩ := Option.map_eq_some_iff.mp got
    obtain ⟨held, account, act⟩ := findPollVoteByActivityUri_spec read
    refine ⟨vote, held, rfl, rfl, fun other mem => ?_⟩
    simp only [Bool.and_eq_true, beq_iff_eq]
    constructor
    · rintro ⟨-, sameUri⟩
      exact PollVotes.eq_of_clash mem held
        (.inr (.inr ⟨by rw [sameUri]; rfl, sameUri.trans act.symm⟩))
    · rintro rfl
      exact ⟨⟨rfl, account⟩, act⟩
  | none =>
    obtain ⟨title, -, got⟩ := Option.bind_eq_some_iff.mp got
    obtain ⟨position, -, got⟩ := Option.bind_eq_some_iff.mp got
    obtain ⟨vote, read, got⟩ := Option.bind_eq_some_iff.mp got
    cases got
    have held := List.mem_of_find?_eq_some read
    have here := List.find?_some read
    simp only [Bool.and_eq_true, beq_iff_eq] at here
    refine ⟨vote, held, here.1.1, here.2, fun other mem => ?_⟩
    rw [beq_iff_eq]
    constructor
    · intro sameId
      exact PollVotes.eq_of_clash mem held (.inl sameId)
    · rintro rfl
      rfl

/-- **What `handle_inbox_poll_vote_undo` deletes** is one row, and the count it lowers is
the one of its option. -/
theorem undoTarget_spec {undo : VoteUndo}
    (got : undoTarget lookups tables undo = some target) :
    ∃ vote ∈ tables.votes.rows, vote.pollId = target.pollId
      ∧ vote.optionPosition = target.optionPosition
      ∧ ∀ other ∈ tables.votes.rows, target.filter other = true ↔ other = vote := by
  rw [undoTarget] at got
  obtain ⟨object, -, got⟩ := Option.bind_eq_some_iff.mp got
  obtain ⟨⟨poll, status⟩, -, got⟩ := Option.bind_eq_some_iff.mp got
  dsimp only at got
  split_ifs at got
  exact resolveDeletionTarget_spec got

/-- **A vote that is taken back is discounted wherever the operation ends, except between
the row and its count.** -/
theorem deleteIncomingPollVote_counts_match_iff
    (counts : CountsMatch tables) (held : vote ∈ tables.votes.rows)
    (poll : vote.pollId = target.pollId) (position : vote.optionPosition = target.optionPosition)
    (only : ∀ other ∈ tables.votes.rows, target.filter other = true ↔ other = vote)
    (reached : Nat) :
    CountsMatch (executeAll (executeStatement accounts)
        ((deleteIncomingPollVote target).take reached) tables)
      ↔ (Counted tables target.pollId target.optionPosition → reached ≠ 1) := by
  have ahead := countAhead_deleteWhere counts held only
  rw [poll, position] at ahead
  match reached with
  | 0 => exact iff_of_true counts fun _ => Nat.zero_ne_one
  | 1 =>
    rw [deleteIncomingPollVote, List.take_succ_cons, executeAll_cons_of_some rfl,
      List.take_zero, executeAll_nil]
    by_cases count : Counted tables target.pollId target.optionPosition
    · exact iff_of_false (ahead.not_countsMatch count) fun none => none count rfl
    · refine iff_of_true (fun poll mem place option got => ?_) fun exists_ => absurd exists_ count
      rw [ahead poll mem place option got, if_neg, Nat.add_zero]
      rintro ⟨here, rfl⟩
      obtain ⟨inRange, -⟩ := List.getElem?_eq_some_iff.mp got
      exact count ⟨poll, mem, here.symm, inRange⟩
  | reached + 2 =>
    rw [deleteIncomingPollVote, List.take_succ_cons, executeAll_cons_of_some rfl,
      List.take_succ_cons, executeAll_cons_of_some rfl, List.take_nil, executeAll_nil]
    exact iff_of_true ahead.countsMatch fun _ => by omega

/-! ## One request -/

/-- The votes of an accepted vote are counted, except where the operation ends between a
row and its count. -/
theorem AcceptedVote.counts_match_iff {vote : LocalVote}
    (ok : AcceptedVote rfc3339 lookups tables vote poll) (counts : CountsMatch tables)
    (reach : Nat) :
    CountsMatch (executeAll (executeStatement accounts)
        ((replaceAccountPollVotes poll.id vote.viewer []
          (accountVotes poll.id vote.viewer vote.choices vote.voteId)).take reach) tables)
      ↔ ∀ index < vote.choices.length, reach = 2 * index + 2 →
        ¬ Insertable accounts tables
          ((accountVotes poll.id vote.viewer vote.choices vote.voteId).take (index + 1)) := by
  cases reach with
  | zero => exact iff_of_true counts fun index _ bad => by omega
  | succ reach =>
    have none : tables.votes.deleteWhere
        (fun row => row.pollId == poll.id && row.accountId == vote.viewer) = tables.votes := by
      apply PollVotes.deleteWhere_of_forall
      intro row held
      have first := List.map_eq_nil_iff.mp ok.first
      exact Bool.eq_false_iff.mpr fun own => List.filter_eq_nil_iff.mp first row held own
    have deleted : executeStatement accounts
        (.deleteVotes fun row => row.pollId == poll.id && row.accountId == vote.viewer) tables
          = some tables := by
      rw [executeStatement, none]
    rw [replaceAccountPollVotes, List.map_nil, List.nil_append, List.take_succ_cons,
      executeAll_cons_of_some deleted, insertAccountPollVotes_counts_match_iff counts,
      accountVotes, List.length_mapIdx]
    simp only [Nat.add_right_cancel_iff]

/-- **A new vote from elsewhere that is written is not recorded, or not counted.** -/
theorem incoming_vote_not_kept {req : PollRequest} {vote : IncomingVote}
    (op : req.operation = .incoming vote) (counts : CountsMatch tables)
    (valid : ValidVote rfc3339 req.lookups tables vote poll choice)
    (unrecorded : ¬ Recorded tables.votes poll.id vote.actorUri choice)
    (wrote : req.reached ≠ 0) :
    ¬ PollVotesKept rfc3339 tables req (tablesAfter rfc3339 tables req) := by
  obtain ⟨poll', choice', valid', -, stmts⟩ | ⟨-, every⟩ :=
    pollVote_cases rfc3339 req.lookups tables vote
  · obtain ⟨rfl, rfl⟩ := valid.unique valid'
    obtain ⟨reach, pos⟩ := Nat.exists_eq_succ_of_ne_zero wrote
    rw [tablesAfter, op, stmts, pos, List.take_succ_cons, List.take_nil]
    rintro ⟨countsAfter, kept⟩
    have recorded := kept vote op
      (by rw [op, stmts, pos, List.length_singleton]; omega) poll choice valid
    obtain ⟨eq, -⟩ | ⟨apart, referenced, added⟩ :=
      insertOrIgnoreVote_cases req.lookups.accounts tables
        ⟨vote.voteId, poll.id, vote.actorUri, choice, vote.activityUri⟩
    · rw [eq] at recorded
      exact unrecorded recorded
    · rw [added] at countsAfter
      exact (votesAhead_append counts apart).not_countsMatch referenced.counted countsAfter
  · exact fun _ => unrecorded (every poll choice valid)

/-- **One request** keeps the counts and the votes exactly if it is unbroken. -/
theorem pollStep_kept_iff {before post : PollTables} {request : PollRequest}
    (counts : CountsMatch before) (step : PollStep rfc3339 before request post) :
    PollVotesKept rfc3339 before request post ↔ Unbroken rfc3339 before request := by
  rw [step]
  cases op : request.operation with
  | vote vote =>
    have only : PollVotesKept rfc3339 before request (tablesAfter rfc3339 before request)
        ↔ CountsMatch (tablesAfter rfc3339 before request) :=
      and_iff_left fun vote' incoming => by
        rw [op] at incoming
        cases incoming
    rw [only, tablesAfter, Unbroken, op]
    obtain ⟨poll, ok, stmts⟩ | ⟨stmts, refused⟩ :=
      voteInPoll_cases rfc3339 request.lookups before vote
    · rw [stmts, ok.counts_match_iff counts]
      constructor
      · intro each poll' accepted'
        obtain rfl := ok.unique accepted'
        exact each
      · intro each
        exact each poll ok
    · rw [stmts, List.take_nil, executeAll_nil]
      exact iff_of_true counts fun poll ok => absurd ok (refused poll)
  | incoming vote =>
    rw [Unbroken, op]
    constructor
    · intro kept poll choice valid unrecorded
      by_contra wrote
      exact incoming_vote_not_kept op counts valid unrecorded wrote kept
    · intro unwritten
      have same : tablesAfter rfc3339 before request = before := by
        rw [tablesAfter, op]
        obtain ⟨poll, choice, valid, unrecorded, -⟩ | ⟨stmts, -⟩ :=
          pollVote_cases rfc3339 request.lookups before vote
        · rw [unwritten poll choice valid unrecorded, List.take_zero, executeAll_nil]
        · rw [stmts, List.take_nil, executeAll_nil]
      rw [same]
      refine ⟨counts, fun vote' incoming full poll choice valid => ?_⟩
      rw [op] at incoming
      cases incoming
      by_contra unrecorded
      obtain ⟨poll', choice', -, -, stmts⟩ | ⟨-, every⟩ :=
        pollVote_cases rfc3339 request.lookups before vote
      · rw [op, stmts, unwritten poll choice valid unrecorded] at full
        cases full
      · exact unrecorded (every poll choice valid)
  | undo undo =>
    have only : PollVotesKept rfc3339 before request (tablesAfter rfc3339 before request)
        ↔ CountsMatch (tablesAfter rfc3339 before request) :=
      and_iff_left fun vote' incoming => by
        rw [op] at incoming
        cases incoming
    rw [only, tablesAfter, Unbroken, op]
    dsimp only [statementsOf, handleInboxPollVoteUndo]
    cases got : undoTarget request.lookups before undo with
    | none =>
      rw [Option.map_none, Option.getD_none, List.take_nil, executeAll_nil]
      exact iff_of_true counts fun target bad => by cases bad
    | some target =>
      obtain ⟨vote, held, poll, position, one⟩ := undoTarget_spec got
      rw [Option.map_some, Option.getD_some,
        deleteIncomingPollVote_counts_match_iff counts held poll position one]
      constructor
      · rintro each target' eq
        cases eq
        exact each
      · intro each
        exact each target rfl

/-- **Along a run from tables whose counts match, the counts and votes are kept exactly if
no request ends between a row and its count, and no new vote from elsewhere is written.** -/
theorem poll_votes_kept_iff {start finish : PollTables}
    {trace : List (Transition PollTables PollRequest)}
    (run : Run (PollStep rfc3339) start trace finish) (counts : CountsMatch start) :
    Throughout (PollVotesKept rfc3339) trace ↔ Along (Unbroken rfc3339) trace := by
  refine (run.throughout_iff_along_from_good counts ?_ ?_).1
  · intro pre req post good step
    exact pollStep_kept_iff good step
  · intro pre req post _ _ kept
    exact kept.1

/-! ## Two votes -/

def pollMidnight (date : CivilDate) : CivilTime := ⟨date, .midnight⟩

/-- A parser of two midnights. -/
def pollRfc3339 : Rfc3339 where
  parse text :=
    if text = "2099-01-01T00:00:00.000Z" then
      some (.utc (pollMidnight (.newYear 2099)))
    else if text = "2099-01-02T00:00:00Z" then
      some (.utc (pollMidnight (.ofNumbers 2099 1 2 (by decide))))
    else none
  format time := .ok time.text

def twoOptionPoll (votes : PollVotes) (firstCount : Nat) : PollTables where
  polls := Table.singleton
    ⟨"poll-1", "status-1", false, "2099-01-02T00:00:00Z", [⟨"yes", firstCount⟩, ⟨"no", 0⟩]⟩
  votes := votes

def noPollVotes : PollVotes := ⟨[], List.Pairwise.nil⟩

def bobsVote : PollVotes where
  rows := [⟨"vote-1", "poll-1", "acct-bob", 0, none⟩]
  unique := List.pairwise_singleton _ _

theorem counts_match_without_votes : CountsMatch (twoOptionPoll noPollVotes 0) := by
  intro poll held position option got
  obtain rfl := List.mem_singleton.mp held
  match position with
  | 0 | 1 =>
    cases got
    rfl
  | position + 2 => cases got

/-- The lookups of a day before the poll ends, for a public status. -/
def pollLookups : PollLookups where
  accounts := ["acct-alice", "acct-bob"]
  now := ⟨pollMidnight (.newYear 2099), 0, by decide⟩
  findStatusById id := if id = "status-1" then some ⟨"status-1", "acct-alice"⟩ else none
  findLocalStatusByObjectUri uri :=
    if uri = "https://local.example/users/alice/statuses/status-1" then
      some ⟨"status-1", "acct-alice"⟩
    else none
  canViewLocalStatus _ _ := true
  remoteActorMayInteract _ _ := true

/-- An account votes, and nothing ends the operation. -/
def bobVotes : PollRequest where
  lookups := pollLookups
  operation := .vote ⟨"poll-1", "acct-bob", [0], fun _ => "vote-1"⟩
  reached := 3

/-- An actor of another server votes, and nothing ends the operation. -/
def incomingYes : IncomingVote where
  object := .object [("type", .string "Note"), ("name", .string "yes"),
    ("inReplyTo", .string "https://local.example/users/alice/statuses/status-1")]
  actorUri := "https://remote.example/users/carol"
  recipient := "acct-alice"
  activityUri := some "https://remote.example/votes/1"
  voteId := "vote-2"

def carolVotes : PollRequest where
  lookups := pollLookups
  operation := .incoming incomingYes
  reached := 1

/-- The vote of an account that is not cut short is counted. -/
theorem poll_votes_kept_local :
    Throughout (PollVotesKept pollRfc3339)
      [⟨twoOptionPoll noPollVotes 0, bobVotes, twoOptionPoll bobsVote 1⟩] := by
  have run : Run (PollStep pollRfc3339) (twoOptionPoll noPollVotes 0)
      [⟨twoOptionPoll noPollVotes 0, bobVotes, twoOptionPoll bobsVote 1⟩]
      (twoOptionPoll bobsVote 1) :=
    Run.start.snoc
      (PollTables.ext (Table.ext (by decide +kernel)) (PollVotes.ext (by decide +kernel)))
  refine (poll_votes_kept_iff run counts_match_without_votes).mpr ?_
  intro move mem
  obtain rfl := List.mem_singleton.mp mem
  intro poll _ index _ cut
  have three : 3 = 2 * index + 2 := cut
  omega

/-- A valid vote from elsewhere is not recorded: its actor is no account. -/
theorem incoming_vote_is_lost :
    PollStep pollRfc3339 (twoOptionPoll noPollVotes 0) carolVotes (twoOptionPoll noPollVotes 0)
      ∧ CountsMatch (twoOptionPoll noPollVotes 0)
      ∧ ¬ PollVotesKept pollRfc3339 (twoOptionPoll noPollVotes 0) carolVotes
        (twoOptionPoll noPollVotes 0) := by
  refine ⟨PollTables.ext (Table.ext (by decide +kernel)) (PollVotes.ext (by decide +kernel)),
    counts_match_without_votes, fun kept => ?_⟩
  have valid : ValidVote pollRfc3339 pollLookups (twoOptionPoll noPollVotes 0) incomingYes
      ⟨"poll-1", "status-1", false, "2099-01-02T00:00:00Z", [⟨"yes", 0⟩, ⟨"no", 0⟩]⟩ 0 :=
    ⟨⟨"yes", by decide +kernel, by decide +kernel⟩, by decide +kernel, .inr rfl⟩
  obtain ⟨vote, held, -⟩ := kept.2 incomingYes rfl (by decide +kernel) _ _ valid
  cases held

end Cfwdon.Polls
