import Cfwdon.Collections.Revalidation
import Cfwdon.Collections.UriOwnership

/-!
# Where authorizations come from

An item that features an actor of another server should be accepted only on a
`FeatureAuthorization` document that names its collection and the actor and was served by
the host of the actor.

The document is fetched from the URI that the item names, and the item comes from the owner
of the collection.  The type, the id, the collection and the actor of the document are
compared, and each of them is what the server that was asked wrote; the host that served it
is compared with nothing.  So the law holds exactly if the documents that match come from
the hosts of the actors they name.
-/

namespace Cfwdon.Collections

open Library Remote Federation

def Authorizes (document : Json) (collectionUri targetActorUri : String) : Prop :=
  ∃ approvalUri, featureAuthorizationMatchesDocument document approvalUri collectionUri
    targetActorUri = true

/-- The URL that answered with a document is of the host of an actor. -/
def ServedByHostOf (actorUri : String) (fetched : Fetched) : Prop :=
  ∃ url, fetched.asked.getLast? = some url ∧ SameHost url actorUri

/-- If an item of a remote actor was accepted, it was on an authorization that its host
served. -/
def ItemWrite.Grounded (site : Site) (write : ItemWrite) : Prop :=
  write.state = .accepted → localUsernameFromActorUri site write.targetActorUri = none →
    ∃ fetched, write.document = some fetched
      ∧ Authorizes fetched.document write.collectionUri write.targetActorUri
      ∧ ServedByHostOf write.targetActorUri fetched

def ItemWrite.Accepts (write : ItemWrite) (item : RemoteCollectionItemRow) : Prop :=
  write.state = .accepted ∧ remoteAccountRestId write.collectionUri = item.collectionId
    ∧ write.targetActorUri = item.targetActorUri

/-- **Items are accepted by their targets**: each time one was accepted, and each one that is
accepted now. -/
structure AcceptedByTargets (site : Site) (store : Store) : Prop where
  writes : ∀ write ∈ store.writes, write.Grounded site
  items : ∀ item ∈ store.items.rows, item.state = .accepted →
    ∃ write ∈ store.writes, write.Accepts item ∧ write.Grounded site

/-! ## When it holds -/

/-- What an item that is about to be written asks: whether its authorization can be had
under a URI. -/
structure Question where
  collectionUri : String
  targetActorUri : String
  approvalUri : String
  deriving DecidableEq

/-- Whether an item can be stored: under its key there is an item, or its id is free. -/
def isStorable (items : RemoteCollectionItems) (key : String × String) (id : String) : Bool :=
  (items.find key).isSome || !(items.exists? fun stored => stored.id == id)

def ApprovalEvent.question (store : Store) : ApprovalEvent → Option Question
  | .storeItem collectionUri object _ => do
    let collectionId := remoteAccountRestId collectionUri
    let item ← featuredItemFromObject object
    let approvalUri ← item.featureAuthorization
    if isStorable store.items (collectionId, item.targetActorUri) (item.idIn collectionId) then
      some ⟨collectionUri, item.targetActorUri, approvalUri⟩
    else none
  | .revalidate collectionUri targetActorUri approvalUri _ =>
    if (store.items.find (remoteAccountRestId collectionUri, targetActorUri)).isSome then
      some ⟨collectionUri, targetActorUri, approvalUri⟩
    else none
  | _ => none

/-- The answer to a question matches, for an actor of another server. -/
structure Question.Matches (question : Question) (site : Site) (fetched : Fetched) : Prop where
  remote : localUsernameFromActorUri site question.targetActorUri = none
  agrees : featureAuthorizationMatchesDocument fetched.document question.approvalUri
    question.collectionUri question.targetActorUri = true

/-- The condition on a step: a document that is fetched from the URI an item names, and
matches, is served by the host of the actor that the item features. -/
def AnsweredByTarget (site : Site) (store : Store) (event : ApprovalEvent) : Prop :=
  ∀ question fetched, event.question store = some question →
    (fetchRemoteActivitypubDocument site.toWeb question.approvalUri store.requests).1
      = some fetched →
    question.Matches site fetched → ServedByHostOf question.targetActorUri fetched

variable {site : Site} {store : Store} {event : ApprovalEvent}

/-! ## Checks -/

theorem grounded_answer_iff {question : Question} {fetched : Fetched} {state : ItemState}
    (accepts : state = .accepted ↔ featureAuthorizationMatchesDocument fetched.document
      question.approvalUri question.collectionUri question.targetActorUri = true) :
    ItemWrite.Grounded site ⟨question.collectionUri, question.targetActorUri, state, some fetched⟩
      ↔ (question.Matches site fetched → ServedByHostOf question.targetActorUri fetched) := by
  constructor
  · rintro grounded ⟨remote, agrees⟩
    obtain ⟨_, eq, _, served⟩ := grounded (accepts.mpr agrees) remote
    cases eq
    exact served
  · intro served ok remote
    have agrees := accepts.mp ok
    exact ⟨fetched, rfl, ⟨question.approvalUri, agrees⟩, served ⟨remote, agrees⟩⟩

theorem accepted_ite_iff {verified : Bool} :
    (if verified = true then ItemState.accepted else .pending) = .accepted ↔ verified = true := by
  cases verified <;> decide

variable {write : ItemWrite} {pre after : Store}

theorem grounded_of_pending (waits : write.state = .pending) :
    write.Grounded site := by
  intro ok
  rw [waits] at ok
  cases ok

section Check

variable {collectionUri targetActorUri approvalUri : String} {number : Nat}

theorem verify_of_none (remote : ¬ (localUsernameFromActorUri site targetActorUri).isSome = true) :
    (verifyRemoteCollectionItemApproval site collectionUri targetActorUri none number).1
      = ⟨.pending, false, none⟩ := by
  rw [verifyRemoteCollectionItemApproval, if_neg remote]
  rfl

theorem verify_of_unanswered
    (remote : ¬ (localUsernameFromActorUri site targetActorUri).isSome = true)
    (unanswered : (fetchRemoteActivitypubDocument site.toWeb approvalUri number).1 = none) :
    (verifyRemoteCollectionItemApproval site collectionUri targetActorUri (some approvalUri)
      number).1 = ⟨.pending, false, none⟩ := by
  rw [verifyRemoteCollectionItemApproval, if_neg remote, Online.bind_apply, unanswered]
  rfl

theorem verify_of_answered {fetched : Fetched}
    (remote : ¬ (localUsernameFromActorUri site targetActorUri).isSome = true)
    (ans : (fetchRemoteActivitypubDocument site.toWeb approvalUri number).1 = some fetched) :
    (verifyRemoteCollectionItemApproval site collectionUri targetActorUri (some approvalUri)
      number).1 = if featureAuthorizationMatchesDocument fetched.document approvalUri
        collectionUri targetActorUri then ⟨.accepted, true, some fetched⟩
      else ⟨.pending, false, some fetched⟩ := by
  rw [verifyRemoteCollectionItemApproval, if_neg remote, Online.bind_apply, ans]
  dsimp only
  split_ifs <;> rfl

end Check

/-- **The write of a checked item is grounded exactly if a matching answer is served by the
host of the actor.** -/
theorem grounded_check_iff (item : FeaturedItem) (collectionUri : String) :
    ItemWrite.Grounded site ⟨collectionUri, item.targetActorUri,
        (item.check site collectionUri store).1.state,
        (item.check site collectionUri store).1.document⟩
      ↔ ∀ approvalUri fetched, item.featureAuthorization = some approvalUri →
        (fetchRemoteActivitypubDocument site.toWeb approvalUri store.requests).1 = some fetched →
        Question.Matches ⟨collectionUri, item.targetActorUri, approvalUri⟩ site fetched →
        ServedByHostOf item.targetActorUri fetched := by
  unfold FeaturedItem.check
  by_cases isLocal : (localUsernameFromActorUri site item.targetActorUri).isSome = true
  · constructor
    · intro _ approvalUri fetched _ _ isMatch
      rw [isMatch.remote] at isLocal
      cases isLocal
    · intro _ _ remote
      rw [remote] at isLocal
      cases isLocal
  · cases named : item.featureAuthorization with
    | none =>
      rw [verify_of_none isLocal]
      refine iff_of_true (grounded_of_pending rfl) ?_
      intro approvalUri fetched bad
      cases bad
    | some approvalUri =>
      cases ans : (fetchRemoteActivitypubDocument site.toWeb approvalUri store.requests).1 with
      | none =>
        rw [verify_of_unanswered isLocal ans]
        refine iff_of_true (grounded_of_pending rfl) ?_
        rintro _ fetched ⟨⟩ got
        rw [ans] at got
        cases got
      | some fetched =>
        have alone : (∀ approvalUri' fetched', some approvalUri = some approvalUri' →
            (fetchRemoteActivitypubDocument site.toWeb approvalUri' store.requests).1
              = some fetched' →
            Question.Matches ⟨collectionUri, item.targetActorUri, approvalUri'⟩ site fetched' →
            ServedByHostOf item.targetActorUri fetched')
            ↔ (Question.Matches ⟨collectionUri, item.targetActorUri, approvalUri⟩ site fetched →
              ServedByHostOf item.targetActorUri fetched) := by
          constructor
          · intro each
            exact each approvalUri fetched rfl ans
          · rintro once _ fetched' ⟨⟩ got
            rw [ans] at got
            cases got
            exact once
        rw [alone, verify_of_answered isLocal ans]
        have answer := @grounded_answer_iff site
          ⟨collectionUri, item.targetActorUri, approvalUri⟩ fetched
        split_ifs with agrees
        · exact answer (iff_of_true rfl agrees)
        · exact answer (iff_of_false (fun ok => by cases ok) agrees)

/-! ## Steps -/

/-- An item can be stored exactly if the statement does not fail. -/
theorem isStorable_iff {item : RemoteCollectionItemRow} {items : RemoteCollectionItems} :
    isStorable items item.key item.id = true ↔ ∃ written, upsertItem item items = .ok written := by
  unfold upsertItem isStorable
  cases items.find item.key with
  | some held => simp
  | none =>
    cases items.exists? fun held => held.id == item.id with
    | true | false => simp

theorem answered_of_noQuestion (noQuestion : event.question store = none) :
    AnsweredByTarget site store event := by
  intro question fetched asked
  rw [noQuestion] at asked
  cases asked

theorem grounded_iff_of_silent (met : AnsweredByTarget site store event)
    (eq : (event.apply site store).writes = store.writes) :
    (∀ write ∈ (event.apply site store).writes, write.Grounded site)
      ↔ (∀ write ∈ store.writes, write.Grounded site) ∧ AnsweredByTarget site store event := by
  rw [eq]
  exact ⟨fun grounded => ⟨grounded, met⟩, And.left⟩

theorem grounded_iff_of_written
    (wrote : (event.apply site store).writes = store.writes ++ [write])
    (exactly : write.Grounded site ↔ AnsweredByTarget site store event) :
    (∀ write ∈ (event.apply site store).writes, write.Grounded site)
      ↔ (∀ write ∈ store.writes, write.Grounded site) ∧ AnsweredByTarget site store event := by
  rw [wrote, List.forall_mem_append, List.forall_mem_singleton, exactly]

theorem grounded_storeItem_iff (collectionUri : String) (object : Json) (now : Nat) :
    (∀ write ∈ ((ApprovalEvent.storeItem collectionUri object now).apply site store).writes,
        write.Grounded site)
      ↔ (∀ write ∈ store.writes, write.Grounded site)
        ∧ AnsweredByTarget site store (.storeItem collectionUri object now) := by
  obtain ⟨read, eq⟩ | ⟨item, read, ⟨error, refused, asked⟩ | ⟨items, held, done⟩⟩ :=
    upsertItem_cases site now (remoteAccountRestId collectionUri) collectionUri object store
  · apply grounded_iff_of_silent (answered_of_noQuestion (by simp [ApprovalEvent.question, read]))
    exact congrArg Store.writes eq
  · have notStorable : isStorable store.items
        (remoteAccountRestId collectionUri, item.targetActorUri)
        (item.idIn (remoteAccountRestId collectionUri)) = false := by
      rw [← Bool.not_eq_true]
      intro storable
      have succeeds : ∃ written, upsertItem (item.row now (remoteAccountRestId collectionUri)
          (item.check site collectionUri store).1) store.items = .ok written :=
        isStorable_iff.mp storable
      obtain ⟨written, succeeded⟩ := succeeds
      rw [refused] at succeeded
      cases succeeded
    apply grounded_iff_of_silent
      (answered_of_noQuestion (by simp [ApprovalEvent.question, read, notStorable]))
    exact (congrArg Store.writes asked :)
  · have storable : isStorable store.items
        (remoteAccountRestId collectionUri, item.targetActorUri)
        (item.idIn (remoteAccountRestId collectionUri)) = true :=
      isStorable_iff.mpr ⟨items, held⟩
    have written : ((ApprovalEvent.storeItem collectionUri object now).apply site store).writes
        = store.writes ++ [⟨collectionUri, item.targetActorUri,
          (item.check site collectionUri store).1.state,
          (item.check site collectionUri store).1.document⟩] :=
      congrArg Store.writes done
    apply grounded_iff_of_written written
    rw [grounded_check_iff]
    constructor
    · intro served question fetched asks
      simp only [ApprovalEvent.question, read, storable, if_true, Option.bind_eq_bind,
        Option.bind_some, Option.bind_eq_some_iff, Option.some.injEq] at asks
      obtain ⟨approvalUri, named, rfl⟩ := asks
      exact served approvalUri fetched named
    · intro met approvalUri fetched named
      apply met ⟨collectionUri, item.targetActorUri, approvalUri⟩ fetched
      simp [ApprovalEvent.question, read, storable, named]

theorem grounded_revalidate_iff (collectionUri targetActorUri approvalUri : String) (now : Nat) :
    (∀ write ∈ ((ApprovalEvent.revalidate collectionUri targetActorUri approvalUri now).apply site
        store).writes, write.Grounded site)
      ↔ (∀ write ∈ store.writes, write.Grounded site)
        ∧ AnsweredByTarget site store
          (.revalidate collectionUri targetActorUri approvalUri now) := by
  have asks {question : Question}
      (asked : (ApprovalEvent.revalidate collectionUri targetActorUri approvalUri now).question store
        = some question) : question = ⟨collectionUri, targetActorUri, approvalUri⟩ := by
    simp only [ApprovalEvent.question] at asked
    split_ifs at asked
    exact (Option.some.inj asked).symm
  by_cases isLocal : (localUsernameFromActorUri site targetActorUri).isSome = true
  · apply grounded_iff_of_silent
    · intro question fetched asked _ isMatch
      have remote := isMatch.remote
      rw [asks asked] at remote
      rw [remote] at isLocal
      cases isLocal
    · rw [ApprovalEvent.apply, revalidate_of_local isLocal]
  · cases ans : (fetchRemoteActivitypubDocument site.toWeb approvalUri store.requests).1 with
    | none =>
      apply grounded_iff_of_silent
      · intro question fetched asked got
        rw [asks asked, ans] at got
        cases got
      · rw [ApprovalEvent.apply, revalidate_of_unanswered isLocal ans]
    | some fetched =>
      have applied := @revalidate_of_answered site now store
        (remoteAccountRestId collectionUri) collectionUri targetActorUri approvalUri fetched
        isLocal ans
      cases here : (store.items.find (remoteAccountRestId collectionUri,
          targetActorUri)).isSome with
      | false =>
        apply grounded_iff_of_silent
        · exact answered_of_noQuestion (by simp [ApprovalEvent.question, here])
        · rw [ApprovalEvent.apply, applied]
          simp [updateRemoteCollectionItemApprovalVerification, here]
      | true =>
        have wrote : ((ApprovalEvent.revalidate collectionUri targetActorUri approvalUri
            now).apply site store).writes = store.writes ++ [⟨collectionUri, targetActorUri,
              if featureAuthorizationMatchesDocument fetched.document approvalUri collectionUri
                targetActorUri then .accepted else .pending, some fetched⟩] := by
          rw [ApprovalEvent.apply, applied]
          simp [updateRemoteCollectionItemApprovalVerification, here]
        apply grounded_iff_of_written wrote
        have exactly := @grounded_answer_iff site
          ⟨collectionUri, targetActorUri, approvalUri⟩ fetched _ accepted_ite_iff
        constructor
        · intro grounded question other asked got isMatch
          rw [asks asked] at got isMatch ⊢
          rw [ans] at got
          cases got
          exact exactly.mp grounded isMatch
        · intro met
          apply exactly.mpr
          exact met ⟨collectionUri, targetActorUri, approvalUri⟩ fetched
            (by simp [ApprovalEvent.question, here]) ans

/-- **One step keeps the law on writes exactly under the condition.** -/
theorem grounded_apply_iff (event : ApprovalEvent) :
    (∀ write ∈ (event.apply site store).writes, write.Grounded site)
      ↔ (∀ write ∈ store.writes, write.Grounded site) ∧ AnsweredByTarget site store event := by
  cases event with
  | storeItem collectionUri object now => exact grounded_storeItem_iff collectionUri object now
  | revalidate collectionUri targetActorUri approvalUri now =>
    exact grounded_revalidate_iff collectionUri targetActorUri approvalUri now
  | revoke collId itemId =>
    apply grounded_iff_of_silent (answered_of_noQuestion rfl)
    simp only [ApprovalEvent.apply, revokeRemoteCollectionItem]
    split_ifs <;> rfl
  | delete guard | elsewhere actors collections =>
    exact grounded_iff_of_silent (answered_of_noQuestion rfl) rfl

/-! ## Items that are accepted now -/

/-- Each item that is accepted was accepted by a write. -/
def AcceptedByWrites (store : Store) : Prop :=
  ∀ item ∈ store.items.rows, item.state = .accepted → ∃ write ∈ store.writes, write.Accepts item

theorem acceptedByWrites_of_kept (ok : AcceptedByWrites pre)
    (writesKept : ∀ write ∈ pre.writes, write ∈ after.writes)
    (kept : ∀ item ∈ after.items.rows, item.state = .accepted →
      (∃ prior ∈ pre.items.rows, prior.key = item.key ∧ prior.state = .accepted)
        ∨ ∃ write ∈ after.writes, write.Accepts item) : AcceptedByWrites after := by
  intro item mem isAccepted
  rcases kept item mem isAccepted with ⟨prior, held, sameKey, wasAccepted⟩ | wrote
  · obtain ⟨write, noted, accepts⟩ := ok prior held wasAccepted
    have sameCollection : prior.collectionId = item.collectionId := congrArg Prod.fst sameKey
    have sameTarget : prior.targetActorUri = item.targetActorUri := congrArg Prod.snd sameKey
    exact ⟨write, writesKept write noted, accepts.1, accepts.2.1.trans sameCollection,
      accepts.2.2.trans sameTarget⟩
  · exact wrote

theorem acceptedByWrites_of_subset (ok : AcceptedByWrites pre)
    (sameWrites : after.writes = pre.writes)
    (subset : ∀ item ∈ after.items.rows, item.state = .accepted → item ∈ pre.items.rows) :
    AcceptedByWrites after := by
  apply acceptedByWrites_of_kept ok
  · intro write mem
    rw [sameWrites]
    exact mem
  · intro item mem isAccepted
    exact Or.inl ⟨item, subset item mem isAccepted, rfl, isAccepted⟩

theorem acceptedByWrites_storeItem (ok : AcceptedByWrites store) (collectionUri : String)
    (object : Json) (now : Nat) :
    AcceptedByWrites ((ApprovalEvent.storeItem collectionUri object now).apply site store) := by
  rw [ApprovalEvent.apply]
  obtain ⟨read, eq⟩ | ⟨item, read, ⟨error, refused, asked⟩ | ⟨items, held, done⟩⟩ :=
    upsertItem_cases site now (remoteAccountRestId collectionUri) collectionUri object store
  · rw [eq]
    exact ok
  · rw [asked]
    exact ok
  · rw [done]
    apply acceptedByWrites_of_kept ok
    · intro write mem
      exact List.mem_append_left _ mem
    · intro row mem isAccepted
      rcases mem_of_mem_upsertItem held mem with ⟨sameKey, sameState⟩ | prior
      · right
        refine ⟨_, List.mem_append_right _ (List.mem_singleton.mpr rfl), ?_, ?_, ?_⟩
        · exact sameState.symm.trans isAccepted
        · exact (congrArg Prod.fst sameKey).symm
        · exact (congrArg Prod.snd sameKey).symm
      · exact Or.inl ⟨row, prior, rfl, isAccepted⟩

theorem acceptedByWrites_revalidate (ok : AcceptedByWrites store)
    (collectionUri targetActorUri approvalUri : String) (now : Nat) :
    AcceptedByWrites ((ApprovalEvent.revalidate collectionUri targetActorUri approvalUri now).apply
      site store) := by
  rw [ApprovalEvent.apply]
  by_cases isLocal : (localUsernameFromActorUri site targetActorUri).isSome = true
  · rw [revalidate_of_local isLocal]
    exact ok
  · cases ans : (fetchRemoteActivitypubDocument site.toWeb approvalUri store.requests).1 with
    | none =>
      rw [revalidate_of_unanswered isLocal ans]
      exact ok
    | some fetched =>
      rw [revalidate_of_answered isLocal ans]
      unfold updateRemoteCollectionItemApprovalVerification
      apply acceptedByWrites_of_kept ok
      · intro write mem
        dsimp only
        by_cases here : (store.items.find (remoteAccountRestId collectionUri,
            targetActorUri)).isSome = true
        · rw [if_pos here]
          exact List.mem_append_left _ mem
        · rw [if_neg here]
          exact mem
      · intro row mem isAccepted
        obtain ⟨prior, held, rfl⟩ := List.mem_map.mp mem
        rcases Update.onRow_cases (setVerification now (remoteAccountRestId collectionUri)
          targetActorUri _ _) prior with ⟨met, changed⟩ | eq
        · right
          have isKey : prior.key = (remoteAccountRestId collectionUri, targetActorUri) :=
            beq_iff_eq.mp met
          have here : (store.items.find (remoteAccountRestId collectionUri,
              targetActorUri)).isSome = true := by
            rw [← isKey, Table.find_of_mem held]
            rfl
          rw [changed] at isAccepted ⊢
          dsimp only
          rw [if_pos here]
          refine ⟨_, List.mem_append_right _ (List.mem_singleton.mpr rfl), isAccepted, ?_, ?_⟩
          · exact (congrArg Prod.fst isKey).symm
          · exact (congrArg Prod.snd isKey).symm
        · rw [eq] at isAccepted ⊢
          exact Or.inl ⟨prior, held, rfl, isAccepted⟩

/-- **Every step keeps the items accepted by writes.** -/
theorem acceptedByWrites_apply (ok : AcceptedByWrites store) (event : ApprovalEvent) :
    AcceptedByWrites (event.apply site store) := by
  cases event with
  | storeItem collectionUri object now =>
    exact acceptedByWrites_storeItem ok collectionUri object now
  | revalidate collectionUri targetActorUri approvalUri now =>
    exact acceptedByWrites_revalidate ok collectionUri targetActorUri approvalUri now
  | revoke collId itemId =>
    rw [ApprovalEvent.apply, revokeRemoteCollectionItem]
    split_ifs
    · refine acceptedByWrites_of_subset ok ?_ ?_
      · rfl
      intro item mem isAccepted
      obtain ⟨prior, held, rfl⟩ := List.mem_map.mp mem
      rcases Update.onRow_cases _ prior with ⟨_, revoked⟩ | eq
      · rw [revoked] at isAccepted
        cases isAccepted
      · rw [eq]
        exact held
    · exact ok
  | delete guard =>
    refine acceptedByWrites_of_subset ok ?_ ?_
    · rfl
    intro item mem _
    exact List.mem_of_mem_filter mem
  | elsewhere actors collections => exact ok

theorem acceptedByTargets_iff (ok : AcceptedByWrites store) :
    AcceptedByTargets site store ↔ ∀ write ∈ store.writes, write.Grounded site := by
  constructor
  · exact AcceptedByTargets.writes
  · intro grounded
    refine ⟨grounded, ?_⟩
    intro item mem isAccepted
    obtain ⟨write, noted, accepts⟩ := ok item mem isAccepted
    exact ⟨write, noted, accepts, grounded write noted⟩

/-- **Items are accepted by their targets** throughout a run exactly if the documents that
are fetched and match are served by the hosts of the targets. -/
theorem accepted_by_targets_iff {start finish : Store}
    {trace : List (Transition Store ApprovalEvent)} (run : Run (Approves site) start trace finish)
    (good : AcceptedByTargets site start) :
    (Throughout (fun _ _ after => AcceptedByTargets site after) trace
        ↔ Along (AnsweredByTarget site) trace)
      ∧ (Along (AnsweredByTarget site) trace → AcceptedByTargets site finish) := by
  have init : AcceptedByWrites start := by
    intro item mem isAccepted
    obtain ⟨write, noted, accepts, _⟩ := good.items item mem isAccepted
    exact ⟨write, noted, accepts⟩
  apply run.throughout_iff_along_of_invariant init good
  · rintro pre event after ok rfl
    exact acceptedByWrites_apply ok event
  · rintro pre event after ok goodBefore rfl
    rw [acceptedByTargets_iff (acceptedByWrites_apply ok event), grounded_apply_iff]
    exact and_iff_right goodBefore.writes

/-! ## An owner and its own authorization -/

def malloryCollection : String := "https://evil.example/users/mallory/collections/1"

def featuredActor : String := "https://good.example/users/alice"

/-- An authorization of the collection of Mallory. -/
def authorizationAt (approvalUri : String) : Json :=
  .object [("id", .string approvalUri), ("type", .string "FeatureAuthorization"),
    ("interactingObject", .string malloryCollection), ("interactionTarget", .string featuredActor)]

/-- An instance that finds the authorization under a URI, and nothing else. -/
def siteWith (approvalUri : String) : Site :=
  plainSite fun _ url =>
    if url = approvalUri then .document (authorizationAt approvalUri) else .failed

/-- An item that features the actor and names an authorization. -/
def itemWith (approvalUri : String) : Json :=
  .object [("type", .string "FeaturedItem"), ("featuredObject", .string featuredActor),
    ("featureAuthorization", .string approvalUri)]

/-- Mallory publishes the collection with the item. -/
def featuring (approvalUri : String) : CollectionActivity where
  kind := .update
  activity := .object [("type", .string "Update"), ("object", .object [
    ("type", .string "FeaturedCollection"), ("id", .string malloryCollection),
    ("attributedTo", .string "https://evil.example/users/mallory"), ("name", .string "Friends"),
    ("items", .array [itemWith approvalUri])])]
  sender := actorAt "evil.example" "mallory"
  now := 0

theorem acceptedByTargets_empty (site : Site) : AcceptedByTargets site Store.empty := by
  constructor
  · rintro write ⟨⟩
  · rintro item ⟨⟩

/-- The URI of an authorization that the featured actor serves. -/
def granted : String := "https://good.example/authorizations/1"

theorem answeredByTarget_granted :
    AnsweredByTarget (siteWith granted) Store.empty
      (.storeItem malloryCollection (itemWith granted) 0) := by
  intro question fetched asked got _
  have asks : (ApprovalEvent.storeItem malloryCollection (itemWith granted) 0).question Store.empty
      = some ⟨malloryCollection, featuredActor, granted⟩ := by decide +kernel
  rw [asks, Option.some.injEq] at asked
  subst asked
  have ans : (fetchRemoteActivitypubDocument (siteWith granted).toWeb granted 0).1.map
      (fun fetched => fetched.asked) = some [granted] := by decide +kernel
  have sameAsked : fetched.asked = [granted] := by
    have known := congrArg (Option.map fun fetched => fetched.asked) got
    exact Option.some.inj (known.symm.trans ans)
  refine ⟨granted, ?_, "good.example", by decide +kernel, by decide +kernel⟩
  rw [sameAsked]
  rfl

theorem granted_item_accepted_by_target : AcceptedByTargets (siteWith granted)
    ((ApprovalEvent.storeItem malloryCollection (itemWith granted) 0).apply (siteWith granted)
      Store.empty) := by
  have run : Run (Approves (siteWith granted)) Store.empty _ _ :=
    Run.start.snoc (show Approves (siteWith granted) Store.empty
      (.storeItem malloryCollection (itemWith granted) 0) _ from rfl)
  apply (accepted_by_targets_iff run (acceptedByTargets_empty _)).2
  intro move mem
  obtain rfl := List.mem_singleton.mp mem
  exact answeredByTarget_granted

/-- The URI of an authorization that Mallory serves. -/
def forged : String := "https://evil.example/authorizations/1"

/-- **An owner that serves the authorization itself has its item accepted.** -/
theorem owner_authorizes_its_own_item :
    ¬ ∀ (site : Site) (start finish : Store) (trace : List (Transition Store ApprovalEvent)),
      Run (Approves site) start trace finish → AcceptedByTargets site start →
      AcceptedByTargets site finish := by
  intro law
  obtain ⟨trace, run⟩ := receive_isRun (siteWith forged) (featuring forged) Store.empty
  have good := law (siteWith forged) _ _ trace run (acceptedByTargets_empty _)
  have noted : (receive (siteWith forged) (featuring forged) Store.empty).writes.map
      (fun write => (write.targetActorUri, write.state,
        write.document.map fun fetched => fetched.asked))
      = [(featuredActor, .accepted, some [forged])] := by decide +kernel
  obtain ⟨write, single, shape⟩ := List.map_eq_singleton_iff.mp noted
  simp only [Prod.mk.injEq] at shape
  obtain ⟨ofTarget, ok, doc⟩ := shape
  have remote : localUsernameFromActorUri (siteWith forged) featuredActor = none := by
    decide +kernel
  obtain ⟨fetched, isDocument, _, url, last, host, ofUrl, ofActor⟩ :=
    good.writes write (single ▸ List.mem_singleton.mpr rfl) ok (ofTarget ▸ remote)
  rw [isDocument, Option.map_some, Option.some.injEq] at doc
  rw [doc] at last
  obtain rfl := Option.some.inj last
  rw [ofTarget] at ofActor
  have different : remoteHttpAuthority forged ≠ remoteHttpAuthority featuredActor := by
    decide +kernel
  exact different (ofUrl.trans ofActor.symm)

end Cfwdon.Collections
