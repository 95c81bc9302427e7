import Cfwdon.Conversations.Store

/-!
# Who joins a conversation

What `ensure_direct_conversation_for_status` does to the tables, read off row by
row: the status goes to its conversation, the participants grow by its author and
the accounts it mentions, and states are kept for participants only.

References of remote actors contain `:` or `@`, ids of local accounts neither, so a
local account is a participant only under its own id.
-/

namespace Cfwdon.Conversations

open Library Accounts Federation Statuses

def Participates (tables : ConversationTables) (conversationId participantRef : String) : Prop :=
  ConversationParticipant.mk conversationId participantRef ∈ tables.participants.rows

def mentionedAccountIds (instanceDomain : String) (accounts : LocalAccounts) (text : String) :
    List String :=
  (extractMentionsFromText text instanceDomain).filterMap fun handle =>
    (findAccountByUsername accounts handle.username).map LocalAccount.id

/-! ## References -/

/-- A reference to a remote actor. -/
def RemoteRef (participantRef : String) : Prop :=
  ':' ∈ participantRef.toList ∨ '@' ∈ participantRef.toList

theorem RemoteRef.trim {participantRef : String} (remote : RemoteRef participantRef) :
    RemoteRef (Library.trim participantRef) := by
  rcases remote with colon | at'
  · exact Or.inl (mem_trimMatches colon (by decide))
  · exact Or.inr (mem_trimMatches at' (by decide))

variable {id : String} {state : ConversationState} {refs : List String}

theorem mem_digits_of_isEntityId (generated : isEntityId id = true) {c : Char}
    (mem : c ∈ id.toList) : c ∈ "0123456789abcdef".toList := by
  rw [isEntityId, Bool.and_eq_true] at generated
  simpa using List.all_eq_true.mp generated.2 c mem

theorem not_remoteRef_of_isEntityId (generated : isEntityId id = true) : ¬ RemoteRef id := by
  rintro (colon | at')
  · exact absurd (mem_digits_of_isEntityId generated colon) (by decide)
  · exact absurd (mem_digits_of_isEntityId generated at') (by decide)

theorem trim_of_isEntityId (generated : isEntityId id = true) : trim id = id := by
  refine trimMatches_of_forall fun c mem => ?_
  have digits : ("0123456789abcdef".toList.all fun d => !isWhitespace d) = true := by decide
  simpa using List.all_eq_true.mp digits c (mem_digits_of_isEntityId generated mem)

theorem colon_of_httpAuthority {url authority : String}
    (got : remoteHttpAuthority url = some authority) : ':' ∈ url.toList := by
  have scheme : ∀ start rest, stripPrefix (trim url) start = some rest → ':' ∈ start.toList →
      ':' ∈ url.toList := by
    intro start rest stripped colon
    have inside : ':' ∈ (trim url).toList := by
      rw [toList_of_stripPrefix stripped]
      exact List.mem_append_left _ colon
    exact mem_of_mem_trimMatches inside
  rw [remoteHttpAuthority, httpScheme] at got
  cases https : stripPrefix (trim url) "https://" with
  | some rest => exact scheme _ rest https (by decide)
  | none =>
    cases http : stripPrefix (trim url) "http://" with
    | some rest => exact scheme _ rest http (by decide)
    | none => simp [https, http] at got

theorem remoteRef_of_findRemoteActor {actors : List RemoteActor} {username domain : String}
    {actor : RemoteActor}
    (got : findRemoteActorByUsernameDomain actors username domain = some actor) :
    RemoteRef actor.actorUri := by
  rw [findRemoteActorByUsernameDomain, Option.filter_eq_some_iff] at got
  have onAuthority := got.2
  simp only [remoteActorCachedHandleAllowed, Bool.and_eq_true] at onAuthority
  have matches' := onAuthority.2
  rw [remoteActorUriMatchesAcctDomain] at matches'
  cases authority : remoteHttpAuthority actor.actorUri with
  | none => rw [authority] at matches'; cases matches'
  | some authority => exact Or.inl (colon_of_httpAuthority (by assumption))

section References

variable {instanceDomain : String} {accounts : LocalAccounts} {actors : List RemoteActor}
  {handle : AccountHandle} {reference text : String}

/-- **A handle stands for a local account or for a remote actor.** -/
theorem participantRef_cases
    (got : participantRef instanceDomain accounts actors handle = some reference) :
    (handle.isLocalTo instanceDomain = true
        ∧ ∃ account, findAccountByUsername accounts handle.username = some account
          ∧ account.id = reference)
      ∨ RemoteRef reference := by
  rw [participantRef] at got
  split_ifs at got with isLocal
  · obtain ⟨account, foundAccount, isRef⟩ := Option.map_eq_some_iff.mp got
    exact Or.inl ⟨isLocal, account, foundAccount, isRef⟩
  · right
    obtain ⟨domain, _, isRef⟩ := Option.map_eq_some_iff.mp got
    subst isRef
    cases known : findRemoteActorByUsernameDomain actors handle.username domain with
    | some actor => exact remoteRef_of_findRemoteActor known
    | none => exact Or.inr (by simp)

theorem mem_accounts_of_findAccountByUsername {username : String} {account : LocalAccount}
    (got : findAccountByUsername accounts username = some account) : account ∈ accounts.rows :=
  List.mem_of_find?_eq_some got

theorem mem_mentionedAccountIds :
    reference ∈ mentionedAccountIds instanceDomain accounts text
      ↔ ∃ handle ∈ extractAccountHandlesFromText text instanceDomain,
          handle.isLocalTo instanceDomain = true
            ∧ ∃ account, findAccountByUsername accounts handle.username = some account
              ∧ account.id = reference := by
  simp only [mentionedAccountIds, extractMentionsFromText, List.mem_filterMap, List.mem_filter,
    Option.map_eq_some_iff, and_assoc]

theorem mem_handleRefs
    (mem : reference ∈ (extractAccountHandlesFromText text instanceDomain).filterMap
      (participantRef instanceDomain accounts actors)) :
    reference ∈ mentionedAccountIds instanceDomain accounts text ∨ RemoteRef reference := by
  obtain ⟨handle, inText, got⟩ := List.mem_filterMap.mp mem
  rcases participantRef_cases got with ⟨isLocal, account, foundAccount, isRef⟩ | remote
  · exact Or.inl (mem_mentionedAccountIds.mpr ⟨handle, inText, isLocal, account, foundAccount, isRef⟩)
  · exact Or.inr remote

theorem mem_handleRefs_of_mentioned
    (mentioned : reference ∈ mentionedAccountIds instanceDomain accounts text) :
    reference ∈ (extractAccountHandlesFromText text instanceDomain).filterMap
      (participantRef instanceDomain accounts actors) := by
  obtain ⟨handle, inText, isLocal, account, foundAccount, isRef⟩ :=
    mem_mentionedAccountIds.mp mentioned
  refine List.mem_filterMap.mpr ⟨handle, inText, ?_⟩
  rw [participantRef, if_pos isLocal, foundAccount, Option.map_some, isRef]

end References

/-! ## The tables after a direct status -/

section Ensure

variable {instanceDomain newId : String} {accounts : LocalAccounts} {actors : List RemoteActor}
  {tables : ConversationTables} {status : LocalStatus} {conversationId reference : String}

theorem mem_listConversationParticipants :
    reference ∈ listConversationParticipants tables conversationId
      ↔ Participates tables conversationId reference := by
  simp only [listConversationParticipants, Table.select, List.mem_map, List.mem_filter,
    beq_iff_eq, Participates]
  constructor
  · rintro ⟨⟨_, _⟩, ⟨mem, rfl⟩, rfl⟩
    exact mem
  · intro mem
    exact ⟨_, ⟨mem, rfl⟩, rfl⟩

theorem mem_participantRows {row : ConversationParticipant} :
    row ∈ participantRows conversationId refs
      ↔ row.conversationId = conversationId ∧ row.participantRef ≠ ""
        ∧ ∃ participant ∈ refs, trim participant = row.participantRef := by
  simp only [participantRows, List.mem_map, List.mem_filter, decide_eq_true_eq]
  constructor
  · rintro ⟨_, ⟨⟨participant, mem, rfl⟩, ne⟩, rfl⟩
    exact ⟨rfl, ne, participant, mem, rfl⟩
  · rintro ⟨rfl, ne, participant, mem, isRef⟩
    exact ⟨row.participantRef, ⟨⟨participant, mem, isRef⟩, ne⟩, rfl⟩

theorem mem_directParticipants :
    reference ∈ directParticipants instanceDomain accounts actors tables conversationId status
      ↔ reference = status.accountId ∨ Participates tables conversationId reference
        ∨ reference ∈ (extractAccountHandlesFromText status.text instanceDomain).filterMap
          (participantRef instanceDomain accounts actors) := by
  rw [directParticipants, mem_pushMissing, mem_pushMissing, List.mem_singleton,
    mem_listConversationParticipants, or_assoc]

theorem upsertParticipants_frame (refs : List String) :
    (upsertParticipantStates accounts conversationId status refs tables).ids = tables.ids
      ∧ (upsertParticipantStates accounts conversationId status refs tables).participants
        = tables.participants
      ∧ (upsertParticipantStates accounts conversationId status refs tables).statuses
        = tables.statuses := by
  induction refs generalizing tables with
  | nil => exact ⟨rfl, rfl, rfl⟩
  | cons participant rest ih =>
    rw [upsertParticipantStates, List.foldl_cons]
    cases accounts.find participant with
    | none | some account => exact ih

theorem mem_upsertParticipants
    (mem : state
      ∈ (upsertParticipantStates accounts conversationId status refs tables).states.rows) :
    (∃ old ∈ tables.states.rows, old.key = state.key)
      ∨ (state.conversationId = conversationId ∧ state.accountId ∈ refs
        ∧ ∃ account ∈ accounts.rows, account.id = state.accountId) := by
  induction refs generalizing tables with
  | nil => exact Or.inl ⟨state, mem, rfl⟩
  | cons participant rest ih =>
    rw [upsertParticipantStates, List.foldl_cons] at mem
    cases got : accounts.find participant with
    | none =>
      rw [got] at mem
      rcases ih mem with old | ⟨isConv, later, isAccount⟩
      · exact Or.inl old
      · exact Or.inr ⟨isConv, List.mem_cons_of_mem _ later, isAccount⟩
    | some account =>
      rw [got] at mem
      rcases ih mem with ⟨old, held, sameKey⟩ | ⟨isConv, later, isAccount⟩
      · have foundOld := Table.find_of_mem held
        simp only [upsertConversationState, Table.find_upsert] at foundOld
        split_ifs at foundOld with isNew
        · right
          have keys : (conversationId, account.id) = state.key := isNew.trans sameKey
          have isConv : conversationId = state.conversationId :=
            congrArg Prod.fst keys
          have isAccount : account.id = state.accountId := congrArg Prod.snd keys
          have isParticipant : account.id = participant := Table.key_of_find got
          exact ⟨isConv.symm, List.mem_cons.mpr (Or.inl (isAccount ▸ isParticipant)),
            account, Table.mem_of_find got, isAccount⟩
        · exact Or.inl ⟨old, Table.mem_of_find foundOld, sameKey⟩
      · exact Or.inr ⟨isConv, List.mem_cons_of_mem _ later, isAccount⟩

theorem conversationFor_cases (tables : ConversationTables) (status : LocalStatus)
    (newId : String) :
    (∃ inReplyToId, status.inReplyToId = some inReplyToId
        ∧ findConversationIdByStatusId tables inReplyToId
          = some (conversationFor tables status newId))
      ∨ (status.inReplyToId.bind (findConversationIdByStatusId tables) = none
        ∧ conversationFor tables status newId = newId) := by
  cases replied : status.inReplyToId.bind (findConversationIdByStatusId tables) with
  | none => exact Or.inr ⟨rfl, by rw [conversationFor, replied]; rfl⟩
  | some got =>
    left
    obtain ⟨inReplyToId, isReply, attached⟩ := Option.bind_eq_some_iff.mp replied
    exact ⟨inReplyToId, isReply, by rw [conversationFor, replied, attached]; rfl⟩

theorem ensure_of_direct (instanceDomain newId : String) (accounts : LocalAccounts)
    (actors : List RemoteActor) (tables : ConversationTables)
    (isDirect : status.visibility = .direct) :
    ∃ made : ConversationTables,
      made.participants = tables.participants ∧ made.statuses = tables.statuses
        ∧ made.states = tables.states
        ∧ (∀ conversationId, conversationId ∈ made.ids ↔ conversationId ∈ tables.ids
          ∨ (conversationId = newId
            ∧ status.inReplyToId.bind (findConversationIdByStatusId tables) = none))
        ∧ ensureDirectConversationForStatus instanceDomain accounts actors newId status tables
          = upsertParticipantStates accounts (conversationFor tables status newId) status
              (directParticipants instanceDomain accounts actors made
                (conversationFor tables status newId) status)
              (attachStatusToConversation (conversationFor tables status newId) status.id
                (addConversationParticipants (conversationFor tables status newId)
                  (directParticipants instanceDomain accounts actors made
                    (conversationFor tables status newId) status) made)) := by
  rw [ensureDirectConversationForStatus, if_neg (not_not.mpr isDirect)]
  cases replied : status.inReplyToId.bind (findConversationIdByStatusId tables) with
  | some got => exact ⟨tables, rfl, rfl, rfl, by simp, rfl⟩
  | none =>
    refine ⟨createConversation newId tables, rfl, rfl, rfl, ?_, rfl⟩
    intro conversationId
    simp [createConversation, or_comm]

/-- **The participants grow** by the author and by what the handles of the text
stand for. -/
theorem participates_ensure (isDirect : status.visibility = .direct) :
    Participates (ensureDirectConversationForStatus instanceDomain accounts actors newId status
        tables) conversationId reference
      ↔ Participates tables conversationId reference
        ∨ (conversationId = conversationFor tables status newId ∧ reference ≠ ""
          ∧ ∃ participant, (participant = status.accountId
              ∨ Participates tables (conversationFor tables status newId) participant
              ∨ participant ∈ (extractAccountHandlesFromText status.text instanceDomain).filterMap
                (participantRef instanceDomain accounts actors))
            ∧ trim participant = reference) := by
  obtain ⟨made, sameParticipants, _, _, _, ensured⟩ :=
    ensure_of_direct instanceDomain newId accounts actors tables isDirect
  rw [ensured, Participates, (upsertParticipants_frame _).2.1]
  refine Table.mem_insertAll_iff.trans (or_congr (by rw [sameParticipants]; rfl) ?_)
  simp only [mem_participantRows, mem_directParticipants, Participates, sameParticipants]

/-- **A direct status goes to its conversation**, and no other status moves. -/
theorem findConversation_ensure (isDirect : status.visibility = .direct)
    (statusId : String) :
    findConversationIdByStatusId (ensureDirectConversationForStatus instanceDomain accounts actors
        newId status tables) statusId
      = if status.id = statusId then some (conversationFor tables status newId)
        else findConversationIdByStatusId tables statusId := by
  obtain ⟨made, _, sameStatuses, _, _, ensured⟩ :=
    ensure_of_direct instanceDomain newId accounts actors tables isDirect
  rw [ensured, findConversationIdByStatusId, (upsertParticipants_frame _).2.2]
  simp only [attachStatusToConversation, addConversationParticipants, Table.find_upsert,
    sameStatuses]
  split_ifs
  · cases tables.statuses.find statusId <;> rfl
  · rfl

theorem mem_states_ensure (isDirect : status.visibility = .direct)
    (mem : state ∈ (ensureDirectConversationForStatus instanceDomain accounts actors newId
      status tables).states.rows) :
    (∃ old ∈ tables.states.rows, old.key = state.key)
      ∨ (state.conversationId = conversationFor tables status newId
        ∧ (state.accountId = status.accountId
          ∨ Participates tables (conversationFor tables status newId) state.accountId
          ∨ state.accountId ∈
            (extractAccountHandlesFromText status.text instanceDomain).filterMap
              (participantRef instanceDomain accounts actors))
        ∧ ∃ account ∈ accounts.rows, account.id = state.accountId) := by
  obtain ⟨made, sameParticipants, _, sameStates, _, ensured⟩ :=
    ensure_of_direct instanceDomain newId accounts actors tables isDirect
  rw [ensured] at mem
  rcases mem_upsertParticipants mem with ⟨old, held, sameKey⟩ | ⟨isConv, participant, isAccount⟩
  · left
    refine ⟨old, ?_, sameKey⟩
    rw [← sameStates]
    exact held
  · right
    rw [mem_directParticipants, Participates, sameParticipants] at participant
    exact ⟨isConv, participant, isAccount⟩

theorem mem_ids_ensure (isDirect : status.visibility = .direct)
    (known : ∀ statusId, findConversationIdByStatusId tables statusId = some conversationId →
      conversationId ∈ tables.ids)
    (inUse : conversationId ∈ tables.ids ∨ conversationId = conversationFor tables status newId) :
    conversationId ∈ (ensureDirectConversationForStatus instanceDomain accounts actors newId status
      tables).ids := by
  obtain ⟨made, _, _, _, ids, ensured⟩ :=
    ensure_of_direct instanceDomain newId accounts actors tables isDirect
  rw [ensured, (upsertParticipants_frame _).1, attachStatusToConversation_ids,
    addConversationParticipants_ids]
  apply (ids conversationId).mpr
  rcases inUse with old | isConv
  · exact Or.inl old
  · rcases conversationFor_cases tables status newId with ⟨inReplyToId, _, attached⟩ | ⟨fresh, isNew⟩
    · exact Or.inl (known inReplyToId (isConv ▸ attached))
    · exact Or.inr ⟨isConv.trans isNew, fresh⟩

theorem eq_of_trim_eq {participant : String}
    (known : isEntityId participant = true ∨ RemoteRef participant)
    (trimmed : trim participant = reference) (generated : isEntityId reference = true) :
    participant = reference := by
  rcases known with isId | remote
  · rw [← trimmed, trim_of_isEntityId isId]
  · exact absurd (trimmed ▸ remote.trim) (not_remoteRef_of_isEntityId generated)

theorem isEntityId_of_mentioned {text : String}
    (mentioned : reference ∈ mentionedAccountIds instanceDomain accounts text) :
    isEntityId reference = true := by
  obtain ⟨_, _, _, account, _, isRef⟩ := mem_mentionedAccountIds.mp mentioned
  exact isRef ▸ account.idGenerated

/-- **A local account joins a conversation only by writing a status of it or by being
mentioned in one.** -/
theorem participates_ensure_account (isDirect : status.visibility = .direct)
    (known : ∀ conversationId reference, Participates tables conversationId reference →
      isEntityId reference = true ∨ RemoteRef reference)
    (author : isEntityId status.accountId = true) (generated : isEntityId reference = true) :
    Participates (ensureDirectConversationForStatus instanceDomain accounts actors newId status
        tables) conversationId reference
      ↔ Participates tables conversationId reference
        ∨ (conversationId = conversationFor tables status newId
          ∧ (reference = status.accountId
            ∨ reference ∈ mentionedAccountIds instanceDomain accounts status.text)) := by
  rw [participates_ensure isDirect]
  constructor
  · rintro (old | ⟨rfl, _, participant, isAuthor | prior | handle, trimmed⟩)
    · exact Or.inl old
    · have eq := eq_of_trim_eq (Or.inl (isAuthor ▸ author)) trimmed generated
      exact Or.inr ⟨rfl, Or.inl (eq.symm.trans isAuthor)⟩
    · have eq := eq_of_trim_eq (known _ _ prior) trimmed generated
      exact Or.inl (eq ▸ prior)
    · rcases mem_handleRefs handle with mentioned | remote
      · have eq := eq_of_trim_eq (Or.inl (isEntityId_of_mentioned mentioned)) trimmed generated
        exact Or.inr ⟨rfl, Or.inr (eq ▸ mentioned)⟩
      · exact absurd (eq_of_trim_eq (Or.inr remote) trimmed generated ▸ remote)
          (not_remoteRef_of_isEntityId generated)
  · have ne : reference ≠ "" := by
      rintro rfl
      exact absurd generated (by decide)
    rintro (old | ⟨isConv, shown⟩)
    · exact Or.inl old
    · refine Or.inr ⟨isConv, ne, reference, ?_, trim_of_isEntityId generated⟩
      rcases shown with isAuthor | mentioned
      · exact Or.inl isAuthor
      · exact Or.inr (Or.inr (mem_handleRefs_of_mentioned mentioned))

end Ensure

end Cfwdon.Conversations
