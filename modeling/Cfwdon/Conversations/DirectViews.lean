import Cfwdon.Conversations.Membership
import Cfwdon.Library.Run

/-!
# Who may view a direct status

A direct status should be visible to its author and to the accounts it mentions.
The code asks instead whether the viewer takes part in its conversation, and a
conversation is joined by whoever replies to one of its statuses and by whoever a
later reply mentions.

An account is addressed by a status that it has written or that mentions it.
-/

namespace Cfwdon.Conversations

open Library Accounts Federation Statuses

/-- The tables that creating and viewing local statuses read. -/
structure DirectState where
  accounts : LocalAccounts
  actors : List RemoteActor
  /-- The ids of remote statuses. -/
  remoteStatusIds : List String
  statuses : Table LocalStatus LocalStatus.id
  conversations : ConversationTables

def DirectState.initial : DirectState where
  accounts := Table.empty
  actors := []
  remoteStatusIds := []
  statuses := Table.empty
  conversations := ⟨[], Table.empty, Table.empty, Table.empty⟩

inductive DirectEvent where
  | register (account : LocalAccount)
  | writeRemote (actors : List RemoteActor) (remoteStatusIds : List String)
  | createStatus (status : LocalStatus) (newConversationId : String)
  | deleteConversation (now : Nat) (accountId conversationId : String)

/-- `resolve_in_reply_to_account_id` finds a status: it asks for its existence
only. -/
def resolvesInReplyTo (s : DirectState) (inReplyToId : String) : Bool :=
  (s.statuses.find inReplyToId).isSome || s.remoteStatusIds.contains inReplyToId

section Runs

variable (instanceDomain : String)

/-- One request of an account, or a write of the federation code. -/
inductive DirectStep : DirectState → DirectEvent → DirectState → Prop where
  | register (s : DirectState) {account : LocalAccount}
      (fresh : s.accounts.find account.id = none)
      (untaken : ∀ other ∈ s.accounts.rows, other.username ≠ account.username) :
      DirectStep s (.register account) { s with accounts := s.accounts.insert account }
  | writeRemote (s : DirectState) (actors : List RemoteActor) (remoteStatusIds : List String) :
      DirectStep s (.writeRemote actors remoteStatusIds)
        { s with actors := actors, remoteStatusIds := remoteStatusIds }
  | createStatus (s : DirectState) {author : LocalAccount} {status : LocalStatus}
      {newConversationId : String} (byAuthor : s.accounts.find status.accountId = some author)
      (fresh : s.statuses.find status.id = none)
      (freshConversation : newConversationId ∉ s.conversations.ids)
      (replied : ∀ inReplyToId, status.inReplyToId = some inReplyToId →
        resolvesInReplyTo s inReplyToId = true) :
      DirectStep s (.createStatus status newConversationId)
        { s with
          statuses := s.statuses.insert status
          conversations := ensureDirectConversationForStatus instanceDomain s.accounts s.actors
            newConversationId status s.conversations }
  | deleteConversation (s : DirectState) (now : Nat) (accountId conversationId : String) :
      DirectStep s (.deleteConversation now accountId conversationId)
        { s with
          conversations :=
            { s.conversations with
              states := (deleteConversationForAccount now accountId conversationId).run
                s.conversations.states } }

abbrev DirectRun := Run (DirectStep instanceDomain) DirectState.initial

/-! ## The property and its condition -/

def AddressedBy (accounts : LocalAccounts) (status : LocalStatus) (accountId : String) : Prop :=
  accountId = status.accountId ∨ accountId ∈ mentionedAccountIds instanceDomain accounts status.text

/-- Only its author and the accounts it mentions may view a direct status. -/
def DirectViewsAddressed (isFollower : String → String → Bool) (s : DirectState) : Prop :=
  ∀ status ∈ s.statuses.rows, status.visibility = .direct → ∀ viewer ∈ s.accounts.rows,
    canViewLocalStatus isFollower s.conversations status (some viewer) status.accountId = true →
      AddressedBy instanceDomain s.accounts status viewer.id

/-- A direct reply to a status of a conversation addresses every local participant
of the conversation, and every account it addresses was addressed by every status of
the conversation. -/
def RepliesKeepAudience (s : DirectState) : DirectEvent → Prop
  | .createStatus status _ => status.visibility = .direct →
      ∀ inReplyToId conversationId, status.inReplyToId = some inReplyToId →
        findConversationIdByStatusId s.conversations inReplyToId = some conversationId →
          (∀ account ∈ s.accounts.rows,
            Participates s.conversations conversationId account.id →
              AddressedBy instanceDomain s.accounts status account.id)
          ∧ ∀ account ∈ s.accounts.rows,
            AddressedBy instanceDomain s.accounts status account.id →
              ∀ earlier ∈ s.statuses.rows,
                findConversationIdByStatusId s.conversations earlier.id = some conversationId →
                  AddressedBy instanceDomain s.accounts earlier account.id
  | _ => True

end Runs

/-! ## The tables fit together -/

/-- Statuses have authors, conversations hold direct statuses, participants are
local accounts or remote references, and states are of participants. -/
structure Consistent (s : DirectState) : Prop where
  authors : ∀ status ∈ s.statuses.rows, ∃ account ∈ s.accounts.rows, account.id = status.accountId
  attached : ∀ statusId conversationId,
    findConversationIdByStatusId s.conversations statusId = some conversationId →
      conversationId ∈ s.conversations.ids
        ∧ ∃ status, s.statuses.find statusId = some status ∧ status.visibility = .direct
  participants : ∀ conversationId reference,
    Participates s.conversations conversationId reference →
      conversationId ∈ s.conversations.ids
        ∧ ((∃ account ∈ s.accounts.rows, account.id = reference) ∨ RemoteRef reference)
  states : ∀ state ∈ s.conversations.states.rows,
    Participates s.conversations state.conversationId state.accountId

theorem Consistent.initial : Consistent DirectState.initial where
  authors := fun _ mem => by cases mem
  attached := fun _ _ got => by cases got
  participants := fun _ _ mem => by cases mem
  states := fun _ mem => by cases mem

section OneStep

variable {instanceDomain : String} {isFollower : String → String → Bool} {s s' : DirectState}
  {event : DirectEvent} {status : LocalStatus} {newConversationId : String}

theorem Consistent.known (agrees : Consistent s) (convId reference : String)
    (participates : Participates s.conversations convId reference) :
    isEntityId reference = true ∨ RemoteRef reference := by
  rcases (agrees.participants convId reference participates).2 with
    ⟨account, _, isRef⟩ | remote
  · exact Or.inl (isRef ▸ account.idGenerated)
  · exact Or.inr remote

theorem Consistent.not_participates (agrees : Consistent s)
    (fresh : newConversationId ∉ s.conversations.ids) (reference : String) :
    ¬ Participates s.conversations newConversationId reference :=
  fun participates => fresh (agrees.participants _ _ participates).1

variable {account author : LocalAccount}

theorem Consistent.register (agrees : Consistent s) :
    Consistent { s with accounts := s.accounts.insert account } where
  authors := fun status mem => by
    obtain ⟨author, held, isAuthor⟩ := agrees.authors status mem
    exact ⟨author, Table.mem_of_find
      (Table.find_orIgnore_of_some _ _ (Table.find_of_mem held)), isAuthor⟩
  attached := agrees.attached
  participants := fun convId ref participates => by
    obtain ⟨inUse, ⟨participant, held, isRef⟩ | remote⟩ :=
      agrees.participants convId ref participates
    · exact ⟨inUse, Or.inl ⟨participant, Table.mem_of_find
        (Table.find_orIgnore_of_some _ _ (Table.find_of_mem held)), isRef⟩⟩
    · exact ⟨inUse, Or.inr remote⟩
  states := agrees.states

theorem Consistent.insertStatus (agrees : Consistent s)
    (byAuthor : s.accounts.find status.accountId = some author) :
    ∀ held ∈ (s.statuses.insert status).rows, ∃ account ∈ s.accounts.rows,
      account.id = held.accountId := by
  intro held mem
  rcases Table.find_orIgnore _ _ (Table.find_of_mem mem) with old | ⟨_, isNew⟩
  · exact agrees.authors held (Table.mem_of_find old)
  · exact ⟨author, Table.mem_of_find byAuthor, isNew ▸ Table.key_of_find byAuthor⟩

theorem Consistent.createDirect (agrees : Consistent s)
    (byAuthor : s.accounts.find status.accountId = some author)
    (fresh : s.statuses.find status.id = none) (isDirect : status.visibility = .direct) :
    Consistent
      { s with
        statuses := s.statuses.insert status
        conversations := ensureDirectConversationForStatus instanceDomain s.accounts s.actors
          newConversationId status s.conversations } where
  authors := agrees.insertStatus byAuthor
  attached := fun statusId convId got => by
    rw [findConversation_ensure isDirect] at got
    split_ifs at got with isNew
    · refine ⟨mem_ids_ensure isDirect (fun sid attached => (agrees.attached sid _ attached).1)
        (Or.inr (Option.some.inj got).symm), status, ?_, isDirect⟩
      rw [Table.find_insert, if_pos isNew, ← isNew, fresh, Option.none_or]
    · obtain ⟨inUse, attached, foundStatus, attachedDirect⟩ :=
        agrees.attached statusId convId got
      refine ⟨mem_ids_ensure isDirect (fun sid attached => (agrees.attached sid _ attached).1)
        (Or.inl inUse), attached, ?_, attachedDirect⟩
      rw [Table.find_insert, foundStatus, Option.some_or]
  participants := fun convId reference participates => by
    have known : convId ∈ s.conversations.ids
        ∨ convId = conversationFor s.conversations status newConversationId →
        convId ∈ (ensureDirectConversationForStatus instanceDomain s.accounts s.actors
          newConversationId status s.conversations).ids :=
      mem_ids_ensure isDirect fun sid attached => (agrees.attached sid _ attached).1
    rcases (participates_ensure isDirect).mp participates with old | ⟨isConv, _,
      participant, mem, trimmed⟩
    · obtain ⟨inUse, isKnown⟩ := agrees.participants convId reference old
      exact ⟨known (Or.inl inUse), isKnown⟩
    · refine ⟨known (Or.inr isConv), ?_⟩
      have local' : ∀ account ∈ s.accounts.rows, account.id = participant →
          ∃ account ∈ s.accounts.rows, account.id = reference := by
        intro account held isParticipant
        refine ⟨account, held, ?_⟩
        rw [← trimmed, ← isParticipant, trim_of_isEntityId account.idGenerated]
      rcases mem with isAuthor | prior | handle
      · exact Or.inl (local' author (Table.mem_of_find byAuthor)
          ((Table.key_of_find byAuthor).trans isAuthor.symm))
      · rcases (agrees.participants _ _ prior).2 with ⟨account, held, isRef⟩ | remote
        · exact Or.inl (local' account held isRef)
        · exact Or.inr (trimmed ▸ remote.trim)
      · rcases mem_handleRefs handle with mentioned | remote
        · obtain ⟨_, _, _, account, foundAccount, isRef⟩ := mem_mentionedAccountIds.mp mentioned
          exact Or.inl (local' account (mem_accounts_of_findAccountByUsername foundAccount) isRef)
        · exact Or.inr (trimmed ▸ remote.trim)
  states := fun state mem => by
    rw [participates_ensure isDirect]
    rcases mem_states_ensure isDirect mem with ⟨old, held, sameKey⟩ | ⟨isConv,
      participant, account, held, isAccount⟩
    · left
      have conv : old.conversationId = state.conversationId := congrArg Prod.fst sameKey
      have account : old.accountId = state.accountId := congrArg Prod.snd sameKey
      exact conv ▸ account ▸ agrees.states old held
    · right
      have generated : isEntityId state.accountId = true := isAccount ▸ account.idGenerated
      refine ⟨isConv, ?_, state.accountId, participant, trim_of_isEntityId generated⟩
      intro empty
      rw [empty] at generated
      exact absurd generated (by decide)

theorem Consistent.step (agrees : Consistent s) (step : DirectStep instanceDomain s event s') :
    Consistent s' := by
  cases step with
  | register => exact agrees.register
  | writeRemote =>
    exact ⟨agrees.authors, agrees.attached, agrees.participants, agrees.states⟩
  | @createStatus author status newConversationId byAuthor fresh =>
    by_cases isDirect : status.visibility = .direct
    · exact agrees.createDirect byAuthor fresh isDirect
    · rw [ensureDirectConversationForStatus, if_pos isDirect]
      refine ⟨agrees.insertStatus byAuthor, ?_, agrees.participants, agrees.states⟩
      intro statusId convId got
      obtain ⟨inUse, attached, foundStatus, attachedDirect⟩ :=
        agrees.attached statusId convId got
      refine ⟨inUse, attached, ?_, attachedDirect⟩
      rw [Table.find_insert, foundStatus, Option.some_or]
  | deleteConversation now accountId convId =>
    refine ⟨agrees.authors, agrees.attached, agrees.participants, ?_⟩
    intro state mem
    obtain ⟨old, held, rfl⟩ := List.mem_map.mp mem
    have sameKey := (deleteConversationForAccount now accountId convId).key_onRow old
    have conv : ((deleteConversationForAccount now accountId convId).onRow
        old).conversationId = old.conversationId := congrArg Prod.fst sameKey
    have account : ((deleteConversationForAccount now accountId convId).onRow
        old).accountId = old.accountId := congrArg Prod.snd sameKey
    rw [conv, account]
    exact agrees.states old held

/-! ## Viewing through the conversation -/

/-- Every local participant of a conversation is addressed by every status in it. -/
def ParticipantsAddressed (instanceDomain : String) (s : DirectState) : Prop :=
  ∀ status ∈ s.statuses.rows, status.visibility = .direct → ∀ conversationId,
    findConversationIdByStatusId s.conversations status.id = some conversationId →
      ∀ viewer ∈ s.accounts.rows, Participates s.conversations conversationId viewer.id →
        AddressedBy instanceDomain s.accounts status viewer.id

theorem participatesIn_iff (agrees : Consistent s) {accountId : String} :
    localAccountParticipatesInDirectStatus s.conversations status.id accountId = true
      ↔ ∃ convId,
          findConversationIdByStatusId s.conversations status.id = some convId
            ∧ Participates s.conversations convId accountId := by
  rw [localAccountParticipatesInDirectStatus]
  cases got : findConversationIdByStatusId s.conversations status.id with
  | none => simp
  | some convId =>
    simp only [Bool.or_eq_true, Table.exists?, List.any_eq_true, Bool.and_eq_true, beq_iff_eq,
      Option.some.injEq, exists_eq_left']
    constructor
    · rintro (⟨state, held, ⟨rfl, rfl⟩, _⟩ | ⟨row, held, rfl, rfl⟩)
      · exact agrees.states state held
      · exact held
    · intro participates
      exact Or.inr ⟨_, participates, rfl, rfl⟩

theorem canViewLocalStatus_direct (isDirect : status.visibility = .direct)
    {viewer : LocalAccount} (other : viewer.id ≠ status.accountId) :
    canViewLocalStatus isFollower s.conversations status (some viewer) status.accountId
      = localAccountParticipatesInDirectStatus s.conversations status.id viewer.id := by
  simp [canViewLocalStatus, isDirect, isPublicActivitypubVisibility, other, localStatusAllowsViewer]

/-- **The law, asked of conversations.** -/
theorem directViewsAddressed_iff (agrees : Consistent s) :
    DirectViewsAddressed instanceDomain isFollower s ↔ ParticipantsAddressed instanceDomain s := by
  constructor
  · intro shown status held isDirect convId attached viewer viewerStored participates
    by_cases isAuthor : viewer.id = status.accountId
    · exact Or.inl isAuthor
    · refine shown status held isDirect viewer viewerStored ?_
      rw [canViewLocalStatus_direct isDirect isAuthor]
      exact (participatesIn_iff agrees).mpr ⟨convId, attached, participates⟩
  · intro shown status held isDirect viewer viewerStored views
    by_cases isAuthor : viewer.id = status.accountId
    · exact Or.inl isAuthor
    · rw [canViewLocalStatus_direct isDirect isAuthor] at views
      obtain ⟨convId, attached, participates⟩ :=
        (participatesIn_iff agrees).mp views
      exact shown status held isDirect convId attached viewer viewerStored participates

/-! ## One step -/

theorem AddressedBy.register {accountId : String}
    (shown : AddressedBy instanceDomain s.accounts status accountId) :
    AddressedBy instanceDomain (s.accounts.insert account) status accountId := by
  have kept : ∀ username found, findAccountByUsername s.accounts username = some found →
      findAccountByUsername (s.accounts.insert account) username = some found := by
    intro username found known
    obtain ⟨eq, _⟩ | ⟨fresh, added, _⟩ :=
      Table.orIgnore_cases (fun _ _ => false) account s.accounts
    · rw [Table.insert, eq]
      exact known
    · rw [Table.insert, added]
      simp only [findAccountByUsername, Table.append, List.find?_append] at known ⊢
      rw [known, Option.some_or]
  rcases shown with isAuthor | mentioned
  · exact Or.inl isAuthor
  · right
    obtain ⟨handle, inText, isLocal, found, known, isRef⟩ := mem_mentionedAccountIds.mp mentioned
    exact mem_mentionedAccountIds.mpr ⟨handle, inText, isLocal, found, kept _ _ known, isRef⟩

/-- **A registration keeps the law**: the new account takes part in nothing. -/
theorem ParticipantsAddressed.register (agrees : Consistent s)
    (shown : ParticipantsAddressed instanceDomain s)
    (fresh : s.accounts.find account.id = none) :
    ParticipantsAddressed instanceDomain { s with accounts := s.accounts.insert account } := by
  intro status held isDirect convId attached viewer mem participates
  rcases Table.find_orIgnore _ _ (Table.find_of_mem mem) with old | ⟨_, isNew⟩
  · exact (shown status held isDirect convId attached viewer
      (Table.mem_of_find old) participates).register
  · exfalso
    subst isNew
    rcases (agrees.participants convId viewer.id participates).2 with
      ⟨other, otherHeld, eq⟩ | remote
    · exact Table.find_eq_none.mp fresh other otherHeld eq
    · exact not_remoteRef_of_isEntityId viewer.idGenerated remote

def DirectState.withDirectStatus (instanceDomain : String) (status : LocalStatus)
    (newConversationId : String) (s : DirectState) : DirectState :=
  { s with
    statuses := s.statuses.insert status
    conversations := ensureDirectConversationForStatus instanceDomain s.accounts s.actors
      newConversationId status s.conversations }

theorem mem_statuses_withDirectStatus {other : LocalStatus}
    (fresh : s.statuses.find status.id = none) :
    other ∈ (s.withDirectStatus instanceDomain status newConversationId).statuses.rows
      ↔ (other ∈ s.statuses.rows ∧ status.id ≠ other.id) ∨ other = status := by
  constructor
  · intro mem
    rcases Table.find_orIgnore _ _ (Table.find_of_mem mem) with pre | ⟨_, isStatus⟩
    · left
      refine ⟨Table.mem_of_find pre, fun eq => ?_⟩
      rw [← eq, fresh] at pre
      cases pre
    · exact Or.inr isStatus
  · rintro (⟨pre, _⟩ | rfl)
    · exact Table.mem_of_find (Table.find_orIgnore_of_some _ _ (Table.find_of_mem pre))
    · exact Table.mem_of_find (by
        rw [DirectState.withDirectStatus, Table.find_insert, fresh, Option.none_or]
        exact if_pos rfl)

/-- **The author and the accounts mentioned join the conversation**, and nobody else
does. -/
theorem participates_withDirectStatus {viewer : LocalAccount} {convId : String}
    (agrees : Consistent s) (byAuthor : s.accounts.find status.accountId = some author)
    (isDirect : status.visibility = .direct) :
    Participates (s.withDirectStatus instanceDomain status newConversationId).conversations
        convId viewer.id
      ↔ Participates s.conversations convId viewer.id
        ∨ (convId = conversationFor s.conversations status newConversationId
          ∧ AddressedBy instanceDomain s.accounts status viewer.id) :=
  participates_ensure_account isDirect agrees.known
    (Table.key_of_find byAuthor ▸ author.idGenerated) viewer.idGenerated

theorem attached_withDirectStatus (isDirect : status.visibility = .direct) (statusId : String) :
    findConversationIdByStatusId
        (s.withDirectStatus instanceDomain status newConversationId).conversations statusId
      = if status.id = statusId then
          some (conversationFor s.conversations status newConversationId)
        else findConversationIdByStatusId s.conversations statusId :=
  findConversation_ensure isDirect statusId

/-- If the law holds after a direct reply, the reply kept the audience of its
conversation. -/
theorem keepsAudience_of_participantsAddressed (agrees : Consistent s)
    (byAuthor : s.accounts.find status.accountId = some author)
    (fresh : s.statuses.find status.id = none) (isDirect : status.visibility = .direct)
    (shown : ParticipantsAddressed instanceDomain
      (s.withDirectStatus instanceDomain status newConversationId)) :
    RepliesKeepAudience instanceDomain s (.createStatus status newConversationId) := by
  intro _ inReplyToId conversationId isReply attached
  have isConv : conversationFor s.conversations status newConversationId = conversationId := by
    rw [conversationFor, isReply, Option.bind_some, attached, Option.getD_some]
  constructor
  · intro account held participates
    have attachedNew : findConversationIdByStatusId
        (s.withDirectStatus instanceDomain status newConversationId).conversations status.id
          = some conversationId := by
      rw [attached_withDirectStatus isDirect, if_pos rfl, isConv]
    exact shown status ((mem_statuses_withDirectStatus fresh).mpr (Or.inr rfl)) isDirect
      conversationId attachedNew account held
      ((participates_withDirectStatus agrees byAuthor isDirect).mpr (Or.inl participates))
  · intro account held addressedNew prior earlierStored attachedEarlier
    have notNew : status.id ≠ prior.id := by
      intro eq
      rw [eq, Table.find_of_mem earlierStored] at fresh
      cases fresh
    have attachedAfter : findConversationIdByStatusId
        (s.withDirectStatus instanceDomain status newConversationId).conversations prior.id
          = some conversationId := by
      rw [attached_withDirectStatus isDirect, if_neg notNew, attachedEarlier]
    have earlierDirect : prior.visibility = .direct := by
      obtain ⟨_, known, foundEarlier, knownDirect⟩ :=
        agrees.attached prior.id conversationId attachedEarlier
      rw [Table.find_of_mem earlierStored] at foundEarlier
      rw [Option.some.inj foundEarlier]
      exact knownDirect
    exact shown prior
      ((mem_statuses_withDirectStatus fresh).mpr (Or.inl ⟨earlierStored, notNew⟩)) earlierDirect
      conversationId attachedAfter account held
      ((participates_withDirectStatus agrees byAuthor isDirect).mpr
        (Or.inr ⟨isConv.symm, addressedNew⟩))

theorem ParticipantsAddressed.createDirect (agrees : Consistent s)
    (shown : ParticipantsAddressed instanceDomain s)
    (byAuthor : s.accounts.find status.accountId = some author)
    (fresh : s.statuses.find status.id = none)
    (freshConversation : newConversationId ∉ s.conversations.ids)
    (isDirect : status.visibility = .direct)
    (cond : RepliesKeepAudience instanceDomain s (.createStatus status newConversationId)) :
    ParticipantsAddressed instanceDomain
      (s.withDirectStatus instanceDomain status newConversationId) := by
  intro other mem otherDirect convId attached viewer held participates
  rw [attached_withDirectStatus isDirect] at attached
  rcases (participates_withDirectStatus agrees byAuthor isDirect).mp participates with
    old | ⟨isConv, addressedNew⟩
  · -- The viewer was a participant before the status.
    rcases (mem_statuses_withDirectStatus fresh).mp mem with ⟨pre, notNew⟩ | rfl
    · rw [if_neg notNew] at attached
      exact shown other pre otherDirect convId attached viewer held old
    · rw [if_pos rfl] at attached
      have conv := Option.some.inj attached
      rcases conversationFor_cases s.conversations other newConversationId with
        ⟨inReplyToId, isReply, attachedReply⟩ | ⟨_, isFresh⟩
      · exact (cond isDirect inReplyToId convId isReply (conv ▸ attachedReply)).1 viewer held old
      · rw [← conv, isFresh] at old
        exact absurd old (agrees.not_participates freshConversation viewer.id)
  · -- The viewer joins with the status.
    rcases (mem_statuses_withDirectStatus fresh).mp mem with ⟨pre, notNew⟩ | rfl
    · rw [if_neg notNew] at attached
      rcases conversationFor_cases s.conversations status newConversationId with
        ⟨inReplyToId, isReply, attachedReply⟩ | ⟨_, isFresh⟩
      · exact (cond isDirect inReplyToId convId isReply
          (isConv ▸ attachedReply)).2 viewer held addressedNew other pre attached
      · have inUse := (agrees.attached other.id convId attached).1
        rw [isConv, isFresh] at inUse
        exact absurd inUse freshConversation
    · exact addressedNew

/-- **One step keeps the law exactly when a reply made in it keeps the audience.** -/
theorem DirectStep.participantsAddressed_iff (step : DirectStep instanceDomain s event s')
    (agrees : Consistent s) (shown : ParticipantsAddressed instanceDomain s) :
    ParticipantsAddressed instanceDomain s' ↔ RepliesKeepAudience instanceDomain s event := by
  cases step with
  | register fresh =>
    exact iff_of_true (shown.register agrees fresh) trivial
  | writeRemote | deleteConversation => exact iff_of_true shown trivial
  | @createStatus author status newConversationId byAuthor fresh freshConversation =>
    by_cases isDirect : status.visibility = .direct
    · constructor
      · exact keepsAudience_of_participantsAddressed agrees byAuthor fresh isDirect
      · exact shown.createDirect agrees byAuthor fresh freshConversation isDirect
    · refine iff_of_true ?_ fun direct => absurd direct isDirect
      rw [ensureDirectConversationForStatus, if_pos isDirect]
      intro other mem otherDirect
      rcases Table.find_orIgnore _ _ (Table.find_of_mem mem) with pre | ⟨_, isStatus⟩
      · exact shown other (Table.mem_of_find pre) otherDirect
      · exact absurd (isStatus ▸ otherDirect) isDirect

end OneStep

/-- **Only author and mentioned accounts may view a direct status, in every state of a
run, exactly when every direct reply of the run keeps the audience of its
conversation.** -/
theorem direct_views_addressed_iff {instanceDomain : String}
    {isFollower : String → String → Bool} {trace : List (Transition DirectState DirectEvent)}
    {s : DirectState} (run : DirectRun instanceDomain trace s) :
    (Throughout (fun _ _ after => DirectViewsAddressed instanceDomain isFollower after) trace
        ↔ Along (RepliesKeepAudience instanceDomain) trace)
      ∧ (Along (RepliesKeepAudience instanceDomain) trace →
          DirectViewsAddressed instanceDomain isFollower s) := by
  refine run.throughout_iff_along_of_invariant Consistent.initial ?_
    (fun agrees step => agrees.step step) ?_
  · intro status mem
    cases mem
  · intro pre event after agrees shown step
    rw [directViewsAddressed_iff (agrees.step step)]
    exact step.participantsAddressed_iff agrees ((directViewsAddressed_iff agrees).mp shown)

/-! ## A stranger replies -/

def alice : LocalAccount := ⟨"a1", "alice", by decide⟩

def bob : LocalAccount := ⟨"b1", "bob", by decide⟩

def carol : LocalAccount := ⟨"c1", "carol", by decide⟩

def threeAccounts : DirectState :=
  { DirectState.initial with
    accounts := ((Table.empty.insert alice).insert bob).insert carol }

/-- A message of alice to bob. -/
def secret : LocalStatus where
  id := "s1"
  accountId := "a1"
  text := "@bob secret"
  visibility := .direct
  inReplyToId := none

/-- A direct reply of carol, to nobody. -/
def strangerReply : LocalStatus where
  id := "s2"
  accountId := "c1"
  text := "hi"
  visibility := .direct
  inReplyToId := some "s1"

def withStatus (s : DirectState) (status : LocalStatus) (newConversationId : String) :
    DirectState :=
  { s with
    statuses := s.statuses.insert status
    conversations := ensureDirectConversationForStatus "local.example" s.accounts s.actors
      newConversationId status s.conversations }

theorem secret_reachable :
    ∃ trace, DirectRun "local.example" trace (withStatus threeAccounts secret "v1") := by
  have first : DirectStep "local.example" DirectState.initial (.register alice)
      { DirectState.initial with accounts := Table.empty.insert alice } :=
    DirectStep.register _ rfl (by simp [DirectState.initial, Table.empty])
  have second : DirectStep "local.example"
      { DirectState.initial with accounts := Table.empty.insert alice } (.register bob)
      { DirectState.initial with accounts := (Table.empty.insert alice).insert bob } :=
    DirectStep.register _ (by decide) (by decide)
  have third : DirectStep "local.example"
      { DirectState.initial with accounts := (Table.empty.insert alice).insert bob }
      (.register carol) threeAccounts :=
    DirectStep.register _ (by decide) (by decide)
  have byAlice : threeAccounts.accounts.find secret.accountId = some alice := by decide
  have sent : DirectStep "local.example" threeAccounts (.createStatus secret "v1")
      (withStatus threeAccounts secret "v1") :=
    DirectStep.createStatus _ byAlice rfl (by decide) (by simp [secret])
  exact ⟨_, (((Run.start.snoc first).snoc second).snoc third).snoc sent⟩

/-- The law at the run of one message. -/
theorem direct_views_addressed_iff_secret :
    ∃ trace, DirectRun "local.example" trace (withStatus threeAccounts secret "v1")
      ∧ (Throughout
            (fun _ _ after => DirectViewsAddressed "local.example" (fun _ _ => false) after) trace
          ↔ Along (RepliesKeepAudience "local.example") trace)
      ∧ (Along (RepliesKeepAudience "local.example") trace →
          DirectViewsAddressed "local.example" (fun _ _ => false)
            (withStatus threeAccounts secret "v1")) := by
  obtain ⟨trace, run⟩ := secret_reachable
  exact ⟨trace, run, direct_views_addressed_iff run⟩

theorem strangerReply_step :
    DirectStep "local.example" (withStatus threeAccounts secret "v1")
      (.createStatus strangerReply "v2")
      (withStatus (withStatus threeAccounts secret "v1") strangerReply "v2") := by
  have byCarol : (withStatus threeAccounts secret "v1").accounts.find strangerReply.accountId
      = some carol := by decide
  refine DirectStep.createStatus _ byCarol (by decide) (by decide) ?_
  intro inReplyToId isReply
  obtain rfl := Option.some.inj isReply
  decide

/-- **Whoever replies to a direct status may view it.** -/
theorem reply_opens_direct_status :
    ¬ ∀ trace s, DirectRun "local.example" trace s →
      DirectViewsAddressed "local.example" (fun _ _ => false) s := by
  intro took
  obtain ⟨trace, run⟩ := secret_reachable
  have shown := took _ _ (run.snoc strangerReply_step)
  have held : secret ∈ (withStatus (withStatus threeAccounts secret "v1") strangerReply
      "v2").statuses.rows := by decide
  have registered : carol ∈ (withStatus (withStatus threeAccounts secret "v1") strangerReply
      "v2").accounts.rows := by decide
  have views : canViewLocalStatus (fun _ _ => false)
      (withStatus (withStatus threeAccounts secret "v1") strangerReply "v2").conversations secret
      (some carol) secret.accountId = true := by decide
  rcases shown secret held rfl carol registered views with isAuthor | mentioned
  · exact absurd isAuthor (by decide)
  · exact absurd mentioned (by decide)

end Cfwdon.Conversations
