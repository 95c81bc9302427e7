import Cfwdon.Collections.UriOwnership
import Cfwdon.Inbox.StatusRewrites
import Cfwdon.Polls.VoteCounts
import Cfwdon.Remote.Ingestion
import Cfwdon.Remote.QuoteDecisions

/-!
# One delivery for several recipients

A `Create` or an `Update` that comes to the shared inbox is for a list of local accounts.
The handlers for the list, `handle_inbox_create_for_accounts` and
`handle_inbox_update_for_accounts`, look for poll votes recipient by recipient, and store
the collection or the status once.  Here they are compared with the handlers for one
recipient, `handle_inbox_create` and `handle_inbox_update`, run for each in turn.
-/

namespace Cfwdon.Inbox

open Library Library.Attempt ActivityPub Polls
open Remote

section

variable (env : InboxEnvironment)

/-- Execute statements; the operation fails with the first one that does. -/
def runStatements (accounts : List String) : List PollStatement → PollTables → Option PollTables
  | [], polls => some polls
  | statement :: rest, polls => do
    let polls ← executeStatement accounts statement polls
    runStatements accounts rest polls

/-- The error of the trigger that refuses the vote of an actor. -/
def voteRefused : String := "status_poll_votes.account_id must reference accounts.id"

def voteOf (object : Json) (remoteActor : RemoteActorProfile) (activityUri : Option String)
    (recipient : Recipient) : IncomingVote where
  object
  actorUri := remoteActor.actorUri
  recipient := recipient.id
  activityUri
  voteId := env.voteId

def handleInboxPollVote (object : Json) (remoteActor : RemoteActorProfile)
    (activityUri : Option String) (recipient : Recipient) (tables : InboxTables) :
    Attempt InboxTables String Bool :=
  let vote := voteOf env object remoteActor activityUri recipient
  match votedPoll env.lookups tables.polls vote with
  | none => (tables, .ok false)
  | some (poll, choiceName) =>
    if expired env.rfc3339 env.lookups.now poll then (tables, .ok true)
    else match choicePosition poll (trim choiceName) with
      | none => (tables, .ok true)
      | some choice =>
        match runStatements env.lookups.accounts
            (applyIncomingPollVote tables.polls poll choice vote) tables.polls with
        | none => (tables, .error voteRefused)
        | some polls =>
          let tables := { tables with polls }
          ({ tables with
            outbox := tables.outbox
              ++ env.statusUpdateDeliveries tables recipient poll.statusId }, .ok true)

/-- `note_targets_account_or_followers`. -/
def addressed (object : Json) (recipient : Recipient) : Bool :=
  noteTargetsAccountOrFollowers object recipient.username env.instanceDomain

def handleInboxCreate (activity : Json) (remoteActor : RemoteActorProfile)
    (recipient : Recipient) (tables : InboxTables) : Attempt InboxTables String Unit :=
  match activityObject activity with
  | none => (tables, .ok ())
  | some object =>
    if !objectHasSupportedRemoteStatusType object then (tables, .ok ())
    else if !objectAttributedToRemoteActor object activity remoteActor.actorUri then
      (tables, .error attributionMismatch)
    else
      checkThenStep (handleInboxPollVote env object remoteActor (textField activity "id"))
        (addressed env object) (storeStatus env remoteActor object) recipient tables

def handleInboxCreateForAccounts (activity : Json) (remoteActor : RemoteActorProfile)
    (accounts : List Recipient) (tables : InboxTables) : Attempt InboxTables String Unit :=
  match activityObject activity with
  | none => (tables, .ok ())
  | some object =>
    if !objectHasSupportedRemoteStatusType object then (tables, .ok ())
    else if !objectAttributedToRemoteActor object activity remoteActor.actorUri then
      (tables, .error attributionMismatch)
    else
      checkAllThenStep (handleInboxPollVote env object remoteActor (textField activity "id"))
        (addressed env object) (storeStatus env remoteActor object) accounts tables

def remoteActorDeliveryIdentityChanged (previous refreshed : RemoteActorProfile) : Bool :=
  previous.publicKeyPem ≠ refreshed.publicKeyPem
    || previous.publicKeyId ≠ refreshed.publicKeyId
    || previous.inboxUri ≠ refreshed.inboxUri
    || previous.sharedInboxUri ≠ refreshed.sharedInboxUri

/-- The profile `handle_inbox_actor_update` stores.  A new key or inbox has to be that of
the document of the actor. -/
def refreshedProfile (object : Json) (remoteActor : RemoteActorProfile) :
    Except String RemoteActorProfile := do
  let refreshed ← env.parseActorProfile object remoteActor.actorUri
  env.validateActorProfileUrls refreshed
  if remoteActorDeliveryIdentityChanged remoteActor refreshed then
    let confirmed ← env.fetchActorProfile refreshed.actorUri
    if confirmed.actorUri ≠ refreshed.actorUri
        || remoteActorDeliveryIdentityChanged confirmed refreshed then
      .error "remote actor Update identity fields did not match canonical fetch"
    else return confirmed
  else return refreshed

/-- `handle_inbox_actor_update`, for an account. -/
def handleInboxActorUpdate (activity : Json) (remoteActor : RemoteActorProfile)
    (account : Recipient) (tables : InboxTables) : Attempt InboxTables String Unit :=
  match activityObject activity with
  | none => (tables, .ok ())
  | some object =>
    let objectActorUri :=
      ((activityObjectId (some object)).or (activityObjectId (activity.get "actor"))).getD ""
    if !objectHasActivitypubActorType object then (tables, .ok ())
    else if objectActorUri ≠ remoteActor.actorUri then (tables, .ok ())
    else if !env.isFollowing account.id remoteActor.actorUri then (tables, .ok ())
    else match refreshedProfile env object remoteActor with
      | .error error => (tables, .error error)
      | .ok profile => (tables.upsertRemoteActor profile, .ok ())

def handleInboxCollectionUpdate (activity : Json) (remoteActor : RemoteActorProfile)
    (tables : InboxTables) : Attempt InboxTables String Bool :=
  match activityObject activity with
  | none => (tables, .ok false)
  | some object =>
    if (object.get "type").bind Json.asStr ≠ some "FeaturedCollection" then (tables, .ok false)
    else
      let tables := tables.upsertRemoteActor remoteActor
      let outcome := Collections.upsertRemoteCollectionFromObject env.site env.now remoteActor
        object tables.store
      ({ tables with collections := outcome.1.collections, items := outcome.1.items },
        outcome.2.map fun _ => true)

def handleInboxUpdate (activity : Json) (remoteActor : RemoteActorProfile)
    (account : Recipient) (tables : InboxTables) : Attempt InboxTables String Unit :=
  match activityObject activity with
  | none => (tables, .ok ())
  | some object =>
    if objectHasActivitypubActorType object then
      handleInboxActorUpdate env activity remoteActor account tables
    else (handleInboxCollectionUpdate env activity remoteActor tables).andThen
      fun tables handled =>
        if handled then (tables, .ok ())
        else if !objectHasSupportedRemoteStatusType object then (tables, .ok ())
        else if !objectAttributedToRemoteActor object activity remoteActor.actorUri then
          (tables, .error attributionMismatch)
        else if !addressed env object account then (tables, .ok ())
        else storeStatus env remoteActor object tables

def handleInboxUpdateForAccounts (activity : Json) (remoteActor : RemoteActorProfile)
    (accounts : List Recipient) (tables : InboxTables) : Attempt InboxTables String Unit :=
  match activityObject activity with
  | none => (tables, .ok ())
  | some object =>
    if objectHasActivitypubActorType object then
      eachInTurn (handleInboxActorUpdate env activity remoteActor) accounts tables
    else (handleInboxCollectionUpdate env activity remoteActor tables).andThen
      fun tables handled =>
        if handled then (tables, .ok ())
        else if !objectHasSupportedRemoteStatusType object then (tables, .ok ())
        else if !objectAttributedToRemoteActor object activity remoteActor.actorUri then
          (tables, .error attributionMismatch)
        else if !accounts.any (addressed env object) then (tables, .ok ())
        else storeStatus env remoteActor object tables

end

/-! ## The votes -/

section Votes

variable {env : InboxEnvironment} {object : Json} {remoteActor : RemoteActorProfile}
  {activityUri : Option String} {tables : InboxTables} {recipient : Recipient}

def IsVote (env : InboxEnvironment) (object : Json) (remoteActor : RemoteActorProfile)
    (activityUri : Option String) (tables : InboxTables) (recipient : Recipient) : Prop :=
  (votedPoll env.lookups tables.polls (voteOf env object remoteActor activityUri recipient)).isSome

/-- The object is a vote for a recipient whose poll is open and has the option it names. -/
def CastsVote (env : InboxEnvironment) (object : Json) (remoteActor : RemoteActorProfile)
    (activityUri : Option String) (tables : InboxTables) (recipient : Recipient) : Prop :=
  ∃ poll choiceName choice,
    votedPoll env.lookups tables.polls (voteOf env object remoteActor activityUri recipient)
        = some (poll, choiceName)
      ∧ expired env.rfc3339 env.lookups.now poll = false
      ∧ choicePosition poll (trim choiceName) = some choice

theorem polls_runStatements {accounts : List String} {poll : StatusPoll} {choice : Nat}
    {vote : IncomingVote} {polls after : PollTables}
    (ran : runStatements accounts (applyIncomingPollVote polls poll choice vote) polls
      = some after) : after.polls = polls.polls := by
  unfold applyIncomingPollVote at ran
  dsimp only at ran
  split_ifs at ran
  · cases ran
    rfl
  · cases ran
    rfl
  · cases ran
    rfl
  · rw [runStatements, executeStatement] at ran
    split_ifs at ran
    · cases ran
      rfl
    · cases ran
      rfl
    · cases ran

/-- **What the look at a vote can do**: the object is none, a vote that has no effect, one
that is refused, or one that is taken. -/
theorem pollVote_cases (env : InboxEnvironment) (object : Json)
    (remoteActor : RemoteActorProfile) (activityUri : Option String) (recipient : Recipient)
    (tables : InboxTables) :
    (¬ IsVote env object remoteActor activityUri tables recipient
        ∧ handleInboxPollVote env object remoteActor activityUri recipient tables
          = (tables, .ok false))
      ∨ IsVote env object remoteActor activityUri tables recipient
        ∧ (¬ CastsVote env object remoteActor activityUri tables recipient
            ∧ handleInboxPollVote env object remoteActor activityUri recipient tables
              = (tables, .ok true)
          ∨ CastsVote env object remoteActor activityUri tables recipient
            ∧ (handleInboxPollVote env object remoteActor activityUri recipient tables
                = (tables, .error voteRefused)
              ∨ ∃ polls outbox, polls.polls = tables.polls.polls
                ∧ handleInboxPollVote env object remoteActor activityUri recipient tables
                  = ({ tables with polls, outbox }, .ok true))) := by
  unfold handleInboxPollVote IsVote CastsVote
  dsimp only
  cases got : votedPoll env.lookups tables.polls
      (voteOf env object remoteActor activityUri recipient) with
  | none => exact .inl ⟨by simp, rfl⟩
  | some pair =>
    obtain ⟨poll, choiceName⟩ := pair
    refine .inr ⟨rfl, ?_⟩
    dsimp only
    by_cases isExpired : expired env.rfc3339 env.lookups.now poll = true
    · rw [if_pos isExpired]
      refine .inl ⟨?_, rfl⟩
      rintro ⟨_, _, _, eq, isOpen, _⟩
      cases eq
      rw [isExpired] at isOpen
      cases isOpen
    · rw [if_neg isExpired]
      cases named : choicePosition poll (trim choiceName) with
      | none =>
        refine .inl ⟨?_, rfl⟩
        rintro ⟨_, _, _, eq, _, pos⟩
        cases eq
        rw [named] at pos
        cases pos
      | some choice =>
        refine .inr ⟨⟨poll, choiceName, choice, rfl, by simpa using isExpired, named⟩, ?_⟩
        dsimp only
        cases ran : runStatements env.lookups.accounts (applyIncomingPollVote tables.polls poll
            choice (voteOf env object remoteActor activityUri recipient)) tables.polls with
        | none => exact .inl rfl
        | some polls => exact .inr ⟨polls, _, polls_runStatements ran, rfl⟩

theorem votedPoll_congr {lookups : PollLookups} {polls polls' : PollTables} {vote : IncomingVote}
    (eq : polls'.polls = polls.polls) :
    votedPoll lookups polls' vote = votedPoll lookups polls vote := by
  unfold votedPoll findStatusPollByStatusId
  rw [eq]

theorem checksKnown_pollVote (env : InboxEnvironment) (object : Json)
    (remoteActor : RemoteActorProfile) (activityUri : Option String) (tables : InboxTables)
    {step : InboxTables → Attempt InboxTables String Unit}
    (keepsPolls : ∀ tables, (step tables).1.polls = tables.polls) :
    ChecksKnown (handleInboxPollVote env object remoteActor activityUri) step
      (fun state => state.polls.polls = tables.polls.polls)
      (IsVote env object remoteActor activityUri tables)
      (fun recipient => ¬ CastsVote env object remoteActor activityUri tables recipient) := by
  have isVote {state : InboxTables} (seen : state.polls.polls = tables.polls.polls)
      (recipient : Recipient) : IsVote env object remoteActor activityUri state recipient
        ↔ IsVote env object remoteActor activityUri tables recipient := by
    rw [IsVote, IsVote, votedPoll_congr seen]
  have castsVote {state : InboxTables} (seen : state.polls.polls = tables.polls.polls)
      (recipient : Recipient) : CastsVote env object remoteActor activityUri state recipient
        ↔ CastsVote env object remoteActor activityUri tables recipient := by
    rw [CastsVote, CastsVote, votedPoll_congr seen]
  constructor
  · intro recipient state seen
    obtain ⟨_, done⟩ | ⟨_, ⟨_, done⟩ | ⟨_, done | ⟨polls, outbox, eq, done⟩⟩⟩ :=
      pollVote_cases env object remoteActor activityUri recipient state
    · rw [done]
      exact seen
    · rw [done]
      exact seen
    · rw [done]
      exact seen
    · rw [done]
      exact eq.trans seen
  · intro state seen
    rw [keepsPolls]
    exact seen
  · intro recipient state answer seen ans
    rw [← isVote seen]
    obtain ⟨noVote, done⟩ | ⟨vote, ⟨_, done⟩ | ⟨_, done | ⟨polls, outbox, eq, done⟩⟩⟩ :=
      pollVote_cases env object remoteActor activityUri recipient state
    · rw [done] at ans
      cases ans
      exact iff_of_false Bool.false_ne_true noVote
    · rw [done] at ans
      cases ans
      exact iff_of_true rfl vote
    · rw [done] at ans
      cases ans
    · rw [done] at ans
      cases ans
      exact iff_of_true rfl vote
  · intro recipient state seen idle
    rw [← castsVote seen] at idle
    obtain ⟨_, done⟩ | ⟨_, ⟨_, done⟩ | ⟨casts, _⟩⟩ :=
      pollVote_cases env object remoteActor activityUri recipient state
    · exact ⟨false, done⟩
    · exact ⟨true, done⟩
    · exact absurd casts idle

theorem statuses_pollVote :
    (handleInboxPollVote env object remoteActor activityUri recipient tables).1.statuses
      = tables.statuses := by
  obtain ⟨_, done⟩ | ⟨_, ⟨_, done⟩ | ⟨_, done | ⟨polls, outbox, _, done⟩⟩⟩ :=
    pollVote_cases env object remoteActor activityUri recipient tables
  · rw [done]
  · rw [done]
  · rw [done]
  · rw [done]

end Votes

/-! ## The collection -/

section Collection

variable {env : InboxEnvironment} {activity object : Json} {remoteActor : RemoteActorProfile}
  {tables : InboxTables} {site : Collections.Site} {now : Nat} {store after : Collections.Store}

theorem deleteItems_upsertItem (collectionId collUri : String) (object : Json) :
    (Collections.upsertRemoteCollectionItemFromObject site now collectionId collUri object
        store).1.items.deleteWhere (fun item => item.collectionId == collectionId)
      = store.items.deleteWhere fun item => item.collectionId == collectionId := by
  obtain ⟨_, eq⟩ | ⟨item, _, ⟨_, _, asked⟩ | ⟨items, held, done⟩⟩ :=
    Collections.upsertItem_cases site now collectionId collUri object store
  · rw [eq]
  · rw [asked]
    rfl
  · rw [done]
    unfold Collections.upsertItem at held
    split_ifs at held
    cases held
    apply Table.deleteWhere_upsert
    · intro row row' sameKey
      have sameCollection : row.collectionId = row'.collectionId := congrArg Prod.fst sameKey
      rw [sameCollection]
    · exact beq_self_eq_true collectionId

theorem replaceItems_leaves (collectionId collUri : String) (object : Json) :
    let after := (Collections.replaceRemoteCollectionItemsFromObject site now collectionId
      collUri object store).1
    after.actors = store.actors
      ∧ after.items.deleteWhere (fun item => item.collectionId == collectionId)
        = store.items.deleteWhere fun item => item.collectionId == collectionId := by
  let leaves (after : Collections.Store) : Prop := after.actors = store.actors
    ∧ after.items.deleteWhere (fun item => item.collectionId == collectionId)
      = store.items.deleteWhere fun item => item.collectionId == collectionId
  suffices left : leaves (Collections.upsertItemsInOrder site now collectionId collUri
      (Collections.featuredCollectionItems object) (store.deleteItemsOf collectionId)).1 from left
  apply Collections.upsertItems_keeps
  · refine ⟨rfl, ?_⟩
    apply Table.deleteWhere_of_forall
    intro item mem
    simpa using List.of_mem_filter mem
  · intro item middle ⟨sameActors, sameItems⟩
    constructor
    · obtain ⟨_, eq⟩ | ⟨_, _, ⟨_, _, asked⟩ | ⟨_, _, done⟩⟩ :=
        Collections.upsertItem_cases site now collectionId collUri item middle
      · rw [eq]
        exact sameActors
      · rw [asked]
        exact sameActors
      · rw [done]
        exact sameActors
    · exact (deleteItems_upsertItem collectionId collUri item).trans sameItems

theorem upsertDraft_again (draft : Collections.RemoteCollectionDraft)
    (collections : Collections.RemoteCollections) :
    Collections.upsertRemoteCollectionDraft draft
        (Collections.upsertRemoteCollectionDraft draft collections)
      = Collections.upsertRemoteCollectionDraft draft collections := by
  have got := @Collections.find_upsertDraft draft.uri draft collections
  rw [if_pos rfl] at got
  conv_lhs => rw [Collections.upsertRemoteCollectionDraft]
  exact Table.upsert_of_merged _ got rfl

/-- **A collection is stored idly a second time**, if its requests are answered as before. -/
theorem upsertCollection_again {row : Option Collections.RemoteCollectionRow}
    (held : Collections.upsertRemoteCollectionFromObject site now remoteActor object store
      = (after, .ok row)) :
    Collections.upsertRemoteCollectionFromObject site now remoteActor object
        { after with requests := store.requests, writes := store.writes }
      = (after, .ok row) := by
  unfold Collections.upsertRemoteCollectionFromObject at held ⊢
  cases read : Collections.remoteCollectionDraftFromObject remoteActor object with
  | none =>
    rw [read] at held
    cases held
    rfl
  | some draft =>
    rw [read] at held
    dsimp only at held ⊢
    have got := @Collections.find_upsertDraft draft.uri draft store.collections
    rw [if_pos rfl] at got
    by_cases withItems : draft.includesItems = true
    · rw [got, if_pos (by rw [withItems]; rfl)] at held
      obtain ⟨replaced, answer, isReplaced⟩ : ∃ replaced answer,
          Collections.replaceRemoteCollectionItemsFromObject site now draft.id draft.uri object
            { store with
              collections := Collections.upsertRemoteCollectionDraft draft store.collections }
            = (replaced, answer) := ⟨_, _, rfl⟩
      have sameCollections := @Collections.collections_replaceItems site now draft.id draft.uri
        object { store with
          collections := Collections.upsertRemoteCollectionDraft draft store.collections }
      have leaves := @replaceItems_leaves site now { store with
        collections := Collections.upsertRemoteCollectionDraft draft store.collections }
          draft.id draft.uri object
      dsimp only at leaves
      rw [isReplaced] at held leaves sameCollections
      cases answer with
      | error err => cases held
      | ok done =>
        cases held
        have sameStart : Collections.Store.deleteItemsOf
            { after with
              collections := Collections.upsertRemoteCollectionDraft draft after.collections
              requests := store.requests
              writes := store.writes } draft.id
            = Collections.Store.deleteItemsOf
              { store with
                collections := Collections.upsertRemoteCollectionDraft draft
                  store.collections } draft.id := by
          unfold Collections.Store.deleteItemsOf
          rw [leaves.1, leaves.2, sameCollections, upsertDraft_again]
        have foundAgain : (Collections.upsertRemoteCollectionDraft draft
            after.collections).find draft.uri = some draft.toRemoteCollectionRow := by
          rw [sameCollections, upsertDraft_again]
          exact got
        rw [foundAgain, if_pos (by rw [withItems]; rfl)]
        rw [Collections.replaceRemoteCollectionItemsFromObject] at isReplaced ⊢
        rw [sameStart, isReplaced]
        rfl
    · rw [got, if_neg (by simpa using withItems)] at held
      cases held
      rw [upsertDraft_again, got, if_neg (by simpa using withItems)]

theorem actors_upsertCollection :
    (Collections.upsertRemoteCollectionFromObject site now remoteActor object store).1.actors
      = store.actors := by
  unfold Collections.upsertRemoteCollectionFromObject
  cases Collections.remoteCollectionDraftFromObject remoteActor object with
  | none => rfl
  | some draft =>
    dsimp only
    split_ifs
    · rw [fst_andThen_ok]
      exact (replaceItems_leaves draft.id draft.uri object).1
    · rfl

theorem collectionUpdate_cases (env : InboxEnvironment) (activity : Json)
    (remoteActor : RemoteActorProfile) :
    (∀ tables, handleInboxCollectionUpdate env activity remoteActor tables = (tables, .ok false))
      ∨ ∃ object, ∀ tables, ∀ out, Collections.upsertRemoteCollectionFromObject env.site env.now
          remoteActor object (tables.upsertRemoteActor remoteActor).store = out →
        handleInboxCollectionUpdate env activity remoteActor tables
          = ({ tables.upsertRemoteActor remoteActor with
              collections := out.1.collections, items := out.1.items },
            out.2.map fun _ => true) := by
  unfold handleInboxCollectionUpdate
  cases activityObject activity with
  | none => exact .inl fun _ => rfl
  | some object =>
    dsimp only
    by_cases other : (object.get "type").bind Json.asStr ≠ some "FeaturedCollection"
    · exact .inl fun tables => by rw [if_pos other]
    · refine .inr ⟨object, ?_⟩
      rintro tables _ rfl
      rw [if_neg other]

/-- An update that is handled is one of a collection, or it is none whatever is stored. -/
theorem collectionUpdate_handled (env : InboxEnvironment) (activity : Json)
    (remoteActor : RemoteActorProfile) :
    (∀ tables, handleInboxCollectionUpdate env activity remoteActor tables = (tables, .ok false))
      ∨ ∀ tables did, (handleInboxCollectionUpdate env activity remoteActor tables).2
        = .ok did → did = true := by
  obtain no | ⟨object, updates⟩ := collectionUpdate_cases env activity remoteActor
  · exact .inl no
  · right
    intro tables did ans
    rw [updates tables _ rfl] at ans
    cases held : (Collections.upsertRemoteCollectionFromObject env.site env.now remoteActor
        object (tables.upsertRemoteActor remoteActor).store).2 with
    | error err =>
      rw [held] at ans
      cases ans
    | ok row =>
      rw [held] at ans
      cases ans
      rfl

/-- **An update of a collection is applied idly a second time.** -/
theorem collectionUpdate_again
    (ans : (handleInboxCollectionUpdate env activity remoteActor tables).2 = .ok true) :
    handleInboxCollectionUpdate env activity remoteActor
        (handleInboxCollectionUpdate env activity remoteActor tables).1
      = ((handleInboxCollectionUpdate env activity remoteActor tables).1, .ok true) := by
  obtain no | ⟨object, updates⟩ := collectionUpdate_cases env activity remoteActor
  · rw [no] at ans
    cases ans
  · obtain ⟨after, answer, held⟩ : ∃ after answer,
        Collections.upsertRemoteCollectionFromObject env.site env.now remoteActor object
          (tables.upsertRemoteActor remoteActor).store = (after, answer) := ⟨_, _, rfl⟩
    have sameActors := @actors_upsertCollection object remoteActor env.site env.now
      (tables.upsertRemoteActor remoteActor).store
    rw [held] at sameActors
    rw [updates tables _ held] at ans ⊢
    cases answer with
    | error err => cases ans
    | ok row =>
      have again := upsertCollection_again held
      have done : ActorSettled remoteActor (tables.upsertRemoteActor remoteActor).actors :=
        actorSettled_upsertActor remoteActor tables.actors
      have sameTables : InboxTables.upsertRemoteActor remoteActor
          { tables.upsertRemoteActor remoteActor with
            collections := after.collections, items := after.items }
          = { tables.upsertRemoteActor remoteActor with
            collections := after.collections, items := after.items } :=
        upsertActor_of_settled done
      have sameStore : InboxTables.store
          { tables.upsertRemoteActor remoteActor with
            collections := after.collections, items := after.items }
          = { after with requests := 0, writes := [] } := by
        rw [InboxTables.store]
        dsimp only
        rw [show (tables.upsertRemoteActor remoteActor).actors = after.actors from
          sameActors.symm]
      rw [updates _ (after, .ok row) (by rw [sameTables, sameStore]; exact again), sameTables]
      rfl

end Collection

/-! ## The list and each recipient in turn -/

section Shared

variable {env : InboxEnvironment} {activity object : Json} {remoteActor : RemoteActorProfile}
  {activityUri : Option String} {accounts : List Recipient} {tables : InboxTables}

/-- No recipient casts a vote behind one the status is stored for, and the status does not
reply to itself if it is stored for two. -/
def CreateSharable (env : InboxEnvironment) (object : Json) (remoteActor : RemoteActorProfile)
    (activityUri : Option String) (accounts : List Recipient) (tables : InboxTables) : Prop :=
  accounts.Pairwise fun earlier later =>
    Asks (IsVote env object remoteActor activityUri tables) (addressed env object) earlier →
      ¬ CastsVote env object remoteActor activityUri tables later
        ∧ (Asks (IsVote env object remoteActor activityUri tables) (addressed env object) later →
          ¬ RepliesToItself object tables.statuses)

/-- The status does not reply to itself if it is addressed to two recipients. -/
def UpdateSharable (env : InboxEnvironment) (object : Json) (accounts : List Recipient)
    (tables : InboxTables) : Prop :=
  accounts.Pairwise fun earlier later => addressed env object earlier = true →
    addressed env object later = true → ¬ RepliesToItself object tables.statuses

theorem storing_eq_each_in_turn
    (sharable : CreateSharable env object remoteActor activityUri accounts tables) :
    checkAllThenStep (handleInboxPollVote env object remoteActor activityUri)
        (addressed env object) (storeStatus env remoteActor object) accounts tables
      = eachInTurn (checkThenStep (handleInboxPollVote env object remoteActor activityUri)
        (addressed env object) (storeStatus env remoteActor object)) accounts tables := by
  let Fresh (state : InboxTables) : Prop := state.statuses = tables.statuses
  have freshCheck (recipient : Recipient) (state : InboxTables) (fresh : Fresh state) :
      Fresh (handleInboxPollVote env object remoteActor activityUri recipient state).1 :=
    statuses_pollVote.trans fresh
  have known := checksKnown_pollVote env object remoteActor activityUri tables
    fun _ => @polls_storeStatus env remoteActor object _
  refine checkAllThenStep_eq_eachInTurn known freshCheck (sharable.imp ?_) rfl rfl
  intro prior later alike asks
  obtain ⟨idle, apart⟩ := alike asks
  refine ⟨idle, fun asksToo state fresh => storeStatus_repeats ?_⟩
  rw [show state.statuses = tables.statuses from fresh]
  exact apart asksToo

theorem storing_unchecked_eq_each_in_turn (sharable : UpdateSharable env object accounts tables) :
    (if !accounts.any (addressed env object) then (tables, .ok ())
      else storeStatus env remoteActor object tables)
      = eachInTurn (checkThenStep (fun _ tables => (tables, .ok false)) (addressed env object)
        (storeStatus env remoteActor object)) accounts tables := by
  have known : ChecksKnown (fun (_ : Recipient) (tables : InboxTables) =>
      ((tables, .ok false) : Attempt InboxTables String Bool)) (storeStatus env remoteActor object)
      (fun _ => True) (fun _ => False) fun _ => True := by
    refine ⟨fun _ _ _ => trivial, fun _ _ => trivial, ?_, fun _ _ => ⟨false, rfl⟩⟩
    rintro recipient state answer - ans
    cases ans
    exact iff_of_false Bool.false_ne_true not_false
  let Fresh (state : InboxTables) : Prop := state.statuses = tables.statuses
  have freshCheck (recipient : Recipient) (state : InboxTables) (fresh : Fresh state) :
      Fresh ((state, .ok false) : Attempt InboxTables String Bool).1 := fresh
  rw [← checkAllThenStep_of_unchecked]
  refine checkAllThenStep_eq_eachInTurn known freshCheck (sharable.imp ?_) trivial rfl
  intro prior later apart asks
  refine ⟨trivial, fun asksToo state fresh => storeStatus_repeats ?_⟩
  rw [show state.statuses = tables.statuses from fresh]
  exact apart asks.2 asksToo.2

/-- A `Create` for a list of recipients is one for each in turn. -/
theorem create_eq_each_in_turn (ne : accounts ≠ [])
    (sharable : ∀ object, activityObject activity = some object →
      CreateSharable env object remoteActor (textField activity "id") accounts tables) :
    handleInboxCreateForAccounts env activity remoteActor accounts tables
      = eachInTurn (handleInboxCreate env activity remoteActor) accounts tables := by
  cases named : activityObject activity with
  | none =>
    have each (recipient : Recipient) (tables : InboxTables) :
        handleInboxCreate env activity remoteActor recipient tables = (tables, .ok ()) := by
      rw [handleInboxCreate, named]
    rw [handleInboxCreateForAccounts, named]
    exact (eachInTurn_of_unchanged fun recipient _ => each recipient tables).symm
  | some object =>
    by_cases supported : objectHasSupportedRemoteStatusType object = true
    · by_cases attributed : objectAttributedToRemoteActor object activity remoteActor.actorUri
          = true
      · have each : handleInboxCreate env activity remoteActor
            = checkThenStep (handleInboxPollVote env object remoteActor (textField activity "id"))
              (addressed env object) (storeStatus env remoteActor object) := by
          funext recipient tables
          rw [handleInboxCreate, named]
          dsimp only
          rw [if_neg (by simp [supported]), if_neg (by simp [attributed])]
        rw [each, handleInboxCreateForAccounts, named]
        dsimp only
        rw [if_neg (by simp [supported]), if_neg (by simp [attributed])]
        exact storing_eq_each_in_turn (sharable object named)
      · have each (recipient : Recipient) (tables : InboxTables) :
            handleInboxCreate env activity remoteActor recipient tables
              = (tables, .error attributionMismatch) := by
          rw [handleInboxCreate, named]
          dsimp only
          rw [if_neg (by simp [supported]), if_pos (by simpa using attributed)]
        rw [handleInboxCreateForAccounts, named]
        dsimp only
        rw [if_neg (by simp [supported]), if_pos (by simpa using attributed)]
        refine (eachInTurn_of_first ne (fun recipient => each recipient tables) ?_).symm
        intro bad
        cases bad
    · have each (recipient : Recipient) (tables : InboxTables) :
          handleInboxCreate env activity remoteActor recipient tables = (tables, .ok ()) := by
        rw [handleInboxCreate, named]
        dsimp only
        rw [if_pos (by simpa using supported)]
      rw [handleInboxCreateForAccounts, named]
      dsimp only
      rw [if_pos (by simpa using supported)]
      exact (eachInTurn_of_unchanged fun recipient _ => each recipient tables).symm

/-- An `Update` of a status for a list of recipients is one for each in turn. -/
theorem update_status_eq_each_in_turn (ne : accounts ≠ [])
    (named : activityObject activity = some object)
    (noActor : ¬ objectHasActivitypubActorType object = true)
    (noCollection : ∀ tables, handleInboxCollectionUpdate env activity remoteActor tables
      = (tables, .ok false))
    (sharable : UpdateSharable env object accounts tables) :
    handleInboxUpdateForAccounts env activity remoteActor accounts tables
      = eachInTurn (handleInboxUpdate env activity remoteActor) accounts tables := by
  have all : handleInboxUpdateForAccounts env activity remoteActor accounts tables
      = if !objectHasSupportedRemoteStatusType object then (tables, .ok ())
        else if !objectAttributedToRemoteActor object activity remoteActor.actorUri then
          (tables, .error attributionMismatch)
        else if !accounts.any (addressed env object) then (tables, .ok ())
        else storeStatus env remoteActor object tables := by
    rw [handleInboxUpdateForAccounts, named]
    dsimp only
    rw [if_neg noActor, noCollection, andThen_ok, if_neg Bool.false_ne_true]
  have each (recipient : Recipient) (tables : InboxTables) :
      handleInboxUpdate env activity remoteActor recipient tables
        = if !objectHasSupportedRemoteStatusType object then (tables, .ok ())
          else if !objectAttributedToRemoteActor object activity remoteActor.actorUri then
            (tables, .error attributionMismatch)
          else if !addressed env object recipient then (tables, .ok ())
          else storeStatus env remoteActor object tables := by
    rw [handleInboxUpdate, named]
    dsimp only
    rw [if_neg noActor, noCollection, andThen_ok, if_neg Bool.false_ne_true]
  rw [all]
  by_cases unsupported : (!objectHasSupportedRemoteStatusType object) = true
  · rw [if_pos unsupported]
    refine (eachInTurn_of_unchanged fun recipient _ => ?_).symm
    rw [each, if_pos unsupported]
  · rw [if_neg unsupported]
    by_cases forged : (!objectAttributedToRemoteActor object activity remoteActor.actorUri) = true
    · rw [if_pos forged]
      refine (eachInTurn_of_first ne (fun recipient => ?_) ?_).symm
      · rw [each, if_neg unsupported, if_pos forged]
      · intro bad
        cases bad
    · rw [if_neg forged, storing_unchecked_eq_each_in_turn sharable]
      congr 1
      funext recipient tables
      rw [each, if_neg unsupported, if_neg forged, checkThenStep, andThen_ok,
        if_neg Bool.false_ne_true]

/-- An `Update` for a list of recipients is one for each in turn. -/
theorem update_eq_each_in_turn (ne : accounts ≠ [])
    (sharable : ∀ object, activityObject activity = some object →
      UpdateSharable env object accounts tables) :
    handleInboxUpdateForAccounts env activity remoteActor accounts tables
      = eachInTurn (handleInboxUpdate env activity remoteActor) accounts tables := by
  cases named : activityObject activity with
  | none =>
    have each (recipient : Recipient) (tables : InboxTables) :
        handleInboxUpdate env activity remoteActor recipient tables = (tables, .ok ()) := by
      rw [handleInboxUpdate, named]
    rw [handleInboxUpdateForAccounts, named]
    exact (eachInTurn_of_unchanged fun recipient _ => each recipient tables).symm
  | some object =>
    by_cases ofActor : objectHasActivitypubActorType object = true
    · have each : handleInboxUpdate env activity remoteActor
          = handleInboxActorUpdate env activity remoteActor := by
        funext recipient tables
        rw [handleInboxUpdate, named]
        exact if_pos ofActor
      rw [each, handleInboxUpdateForAccounts, named]
      exact if_pos ofActor
    · obtain no | handles := collectionUpdate_handled env activity remoteActor
      · exact update_status_eq_each_in_turn ne named ofActor no (sharable object named)
      · have each (recipient : Recipient) (tables : InboxTables) :
            handleInboxUpdate env activity remoteActor recipient tables
              = (handleInboxCollectionUpdate env activity remoteActor tables).andThen
                fun tables _ => (tables, .ok ()) := by
          rw [handleInboxUpdate, named]
          dsimp only
          rw [if_neg ofActor]
          exact andThen_congr fun did ans => if_pos (handles tables did ans)
        have all : handleInboxUpdateForAccounts env activity remoteActor accounts tables
            = (handleInboxCollectionUpdate env activity remoteActor tables).andThen
              fun tables _ => (tables, .ok ()) := by
          rw [handleInboxUpdateForAccounts, named]
          dsimp only
          rw [if_neg ofActor]
          exact andThen_congr fun did ans => if_pos (handles tables did ans)
        rw [all]
        refine (eachInTurn_of_first ne (fun recipient => each recipient tables) ?_).symm
        intro held recipient
        obtain ⟨did, ans, -⟩ := andThen_eq_ok_iff.mp held
        obtain rfl := handles tables did ans
        rw [each, fst_andThen_ok, collectionUpdate_again ans]
        rfl

/-- **A `Create` or an `Update` for a list of recipients leaves the same state, and
succeeds or fails, as the handler for one recipient run for each in turn.**  There is a
recipient; none casts a vote behind one the status is stored for; and a status that is
stored for two does not reply to itself. -/
theorem for_accounts_eq_each_in_turn (env : InboxEnvironment) (activity : Json)
    (remoteActor : RemoteActorProfile) (accounts : List Recipient) (tables : InboxTables)
    (nonempty : accounts ≠ []) :
    ((∀ object, activityObject activity = some object →
        CreateSharable env object remoteActor (textField activity "id") accounts tables) →
      handleInboxCreateForAccounts env activity remoteActor accounts tables
        = eachInTurn (handleInboxCreate env activity remoteActor) accounts tables)
    ∧ ((∀ object, activityObject activity = some object →
        UpdateSharable env object accounts tables) →
      handleInboxUpdateForAccounts env activity remoteActor accounts tables
        = eachInTurn (handleInboxUpdate env activity remoteActor) accounts tables) :=
  ⟨create_eq_each_in_turn nonempty, update_eq_each_in_turn nonempty⟩

end Shared

/-! ## Deliveries for two accounts -/

/-- A server with two accounts, one of them with an open poll. -/
def sharedEnvironment : InboxEnvironment where
  instanceDomain := "local.example"
  formats := plainFormats
  rfc3339 := pollRfc3339
  lookups := pollLookups
  call :=
    { statusId := "remote-1"
      revisionAt := "2099-01-01T00:00:00.000Z"
      receivedAt := "2099-01-01T00:00:00.000Z"
      localQuoteTarget := fun _ => none
      localStatusId := fun _ => none }
  readers :=
    { attachments := fun _ _ => []
      pollDraft := fun _ => none
      mentions := fun _ _ _ _ => []
      cardJson := fun _ _ => none
      federatedEmojisJson := fun _ => ""
      snapshotJson := fun _ _ _ => "" }
  site := Collections.plainSite fun _ _ => .failed
  currentTimestamp := "2099-01-01 00:00:00"
  now := 0
  isLive := true
  voteId := "vote-2"
  jobId jobType := jobType
  statusUpdateDeliveries _ _ _ := []
  isFollowing _ _ := false
  parseActorProfile _ _ := .error ""
  validateActorProfileUrls _ := .ok ()
  fetchActorProfile _ := .error ""

theorem trimmed_empty :
    ∀ status ∈ (Table.empty : RemoteStatuses).rows, trim status.objectUri = status.objectUri := by
  intro status mem
  cases mem

/-- Nothing is stored but the poll. -/
def pollOnlyTables : InboxTables where
  actors := Table.empty
  statuses := Table.empty
  trimmed := trimmed_empty
  parts _ := StatusParts.empty
  collections := Table.empty
  items := Table.empty
  polls := twoOptionPoll noPollVotes 0
  outbox := []
  jobs := Table.empty

def pollOwner : Recipient := ⟨"acct-alice", "alice"⟩

def otherRecipient : Recipient := ⟨"acct-bob", "bob"⟩

def carol : RemoteActorProfile := Collections.actorAt "remote.example" "carol"

/-- A `Create` of a public note, with more fields. -/
def createNote (author : String) (fields : List (String × Json)) : Json :=
  .object [("id", .string "https://remote.example/creates/1"), ("type", .string "Create"),
    ("object", .object ([("id", .string "https://remote.example/notes/1"),
      ("type", .string "Note"), ("attributedTo", .string author),
      ("to", .string "https://www.w3.org/ns/activitystreams#Public")] ++ fields))]

/-- A note for two accounts is stored as for one after the other. -/
theorem for_accounts_eq_each_in_turn_note :
    handleInboxCreateForAccounts sharedEnvironment (createNote carol.actorUri []) carol
        [otherRecipient, pollOwner] pollOnlyTables
      = eachInTurn (handleInboxCreate sharedEnvironment (createNote carol.actorUri []) carol)
        [otherRecipient, pollOwner] pollOnlyTables := by
  refine (for_accounts_eq_each_in_turn sharedEnvironment (createNote carol.actorUri []) carol
    [otherRecipient, pollOwner] pollOnlyTables (by simp)).1 ?_
  intro object named
  cases named
  refine List.pairwise_pair.mpr fun _ => ⟨?_, fun _ => ?_⟩
  · rintro ⟨_, _, _, got, _⟩
    cases got
  · rintro ⟨_, _, _, replies, _⟩
    cases replies

/-- The list of recipients makes a difference: nobody is left to fail for, a vote is
refused before the note is stored, or a note finds itself as what it replies to. -/
theorem for_accounts_differ :
    handleInboxCreateForAccounts sharedEnvironment
        (createNote "https://remote.example/users/dave" []) carol [] pollOnlyTables
      ≠ eachInTurn (handleInboxCreate sharedEnvironment
        (createNote "https://remote.example/users/dave" []) carol) [] pollOnlyTables
    ∧ handleInboxCreateForAccounts sharedEnvironment (createNote carol.actorUri
        [("name", .string "yes"),
          ("inReplyTo", .string "https://local.example/users/alice/statuses/status-1")]) carol
        [otherRecipient, pollOwner] pollOnlyTables
      ≠ eachInTurn (handleInboxCreate sharedEnvironment (createNote carol.actorUri
        [("name", .string "yes"),
          ("inReplyTo", .string "https://local.example/users/alice/statuses/status-1")]) carol)
        [otherRecipient, pollOwner] pollOnlyTables
    ∧ handleInboxCreateForAccounts sharedEnvironment (createNote carol.actorUri
        [("inReplyTo", .string "https://remote.example/notes/1")]) carol
        [otherRecipient, pollOwner] pollOnlyTables
      ≠ eachInTurn (handleInboxCreate sharedEnvironment (createNote carol.actorUri
        [("inReplyTo", .string "https://remote.example/notes/1")]) carol)
        [otherRecipient, pollOwner] pollOnlyTables := by
  refine ⟨fun eq => ?_, fun eq => ?_, fun eq => ?_⟩
  · have answers := congrArg (fun out => failureOf out.2) eq
    revert answers
    decide +kernel
  · have held := congrArg (fun out => out.1.statuses.rows.length) eq
    revert held
    decide +kernel
  · have replies := congrArg (fun out => out.1.statuses.rows.map (·.inReplyToId)) eq
    revert replies
    decide +kernel

end Cfwdon.Inbox
