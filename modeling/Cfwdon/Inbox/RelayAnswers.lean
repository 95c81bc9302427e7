import Cfwdon.ActivityPub.Objects
import Cfwdon.Library.Run
import Cfwdon.Library.Table

/-!
# Answers of relays

A relay is configured by its inbox and asked with a `Follow`; it stays pending until it is
answered.  The answers are looked for among the deliveries that one actor signs for
another, and among these only if the signer belongs to a relay that is accepted already.

`hostStr` stands for the URL parser, and `relayActor` names the actor of a relay inbox.
-/

namespace Cfwdon.Inbox

open Library ActivityPub

inductive RelayState where
  | idle
  | pending
  | accepted
  | rejected
  deriving DecidableEq

structure FederationRelay where
  id : String
  inboxUrl : String
  actorUri : Option String
  followActivityId : Option String
  signingAccountId : String
  state : RelayState
  deriving DecidableEq

abbrev FederationRelays := Table FederationRelay FederationRelay.id

def markFederationRelayAccepted (followActivityId relayActorUri : String) :
    Update FederationRelay FederationRelay.id where
  guard row := row.followActivityId == some followActivityId
  set row := { row with state := .accepted, actorUri := some relayActorUri }
  keeps _ := rfl

def markFederationRelayRejected (followActivityId : String) :
    Update FederationRelay FederationRelay.id where
  guard row := row.followActivityId == some followActivityId
  set row := { row with state := .rejected }
  keeps _ := rfl

/-- The row that `create_and_enable_federation_relay` inserts: an inbox that is configured
already makes it fail. -/
def createFederationRelay (id inboxUrl followActivityId signingAccountId : String)
    (relays : FederationRelays) : FederationRelays :=
  relays.insertOrIgnore (fun row stored => stored.inboxUrl == row.inboxUrl)
    ⟨id, inboxUrl, none, some followActivityId, signingAccountId, .pending⟩

def disableFederationRelay (id : String) : Update FederationRelay FederationRelay.id where
  guard row := row.id == id && row.state != .idle
  set row := { row with state := .idle, followActivityId := none }
  keeps _ := rfl

variable (hostStr : String → Option String)

def relayDeliveryIsEnabled (relays : FederationRelays) (deliveryActor : String) : Bool :=
  let actorHost := (hostStr deliveryActor).map toAsciiLowercase
  (relays.select fun row => row.state == .accepted).any fun row =>
    row.actorUri == some deliveryActor
      || match (hostStr row.inboxUrl).map toAsciiLowercase with
        | none => false
        | some inboxHost => actorHost == some inboxHost

/-! ## Deliveries -/

/-- The inbox that a delivery comes to. -/
inductive InboxEndpoint where
  | shared
  | personal

/-- A delivery, with the actor whose key verifies its signature, if one does. -/
structure InboxDelivery where
  endpoint : InboxEndpoint
  activity : Json
  signer : Option String

/-- `VerifiedActivityPubDelivery`. -/
structure VerifiedDelivery where
  deliveryActor : String
  contentActorUri : String
  relayed : Bool

/-- `verify_incoming_activitypub_delivery`. -/
def verifyDelivery (delivery : InboxDelivery) : Option VerifiedDelivery := do
  let contentActorUri ← extractActivityActorUri delivery.activity
  let deliveryActor ← delivery.signer
  return ⟨deliveryActor, contentActorUri, deliveryActor != contentActorUri⟩

/-- The relays after it, and whether it took the activity. Activities of other types are
content. -/
def handleRelayDeliveredActivity (relays : FederationRelays) (activity : Json)
    (delivery : VerifiedDelivery) : FederationRelays × Bool :=
  if !delivery.relayed then (relays, false)
  else if !relayDeliveryIsEnabled hostStr relays delivery.deliveryActor then (relays, false)
  else if activitypubHasType activity "Accept" then
    match relayFollowActivityIdFromAccept activity with
    | some followActivityId =>
      ((markFederationRelayAccepted followActivityId delivery.deliveryActor).run relays, true)
    | none => (relays, true)
  else if activitypubHasType activity "Reject" then
    match relayFollowActivityIdFromAccept activity with
    | some followActivityId => ((markFederationRelayRejected followActivityId).run relays, true)
    | none => (relays, true)
  else (relays, true)

/-- The relays after a delivery: a personal inbox refuses relayed deliveries, and the
handlers of a delivery that is not relayed write no relay. -/
def relaysAfterDelivery (relays : FederationRelays) (delivery : InboxDelivery) :
    FederationRelays :=
  match delivery.endpoint, verifyDelivery delivery with
  | .shared, some verified =>
    if verified.relayed then
      (handleRelayDeliveredActivity hostStr relays delivery.activity verified).1
    else relays
  | _, _ => relays

inductive RelayEvent where
  | deliver (delivery : InboxDelivery)
  | enable (id inboxUrl followActivityId signingAccountId : String)
  | disable (id : String)
  | delete (id : String)

def relaysAfter (relays : FederationRelays) : RelayEvent → FederationRelays
  | .deliver delivery => relaysAfterDelivery hostStr relays delivery
  | .enable id inboxUrl followActivityId signingAccountId =>
    createFederationRelay id inboxUrl followActivityId signingAccountId relays
  | .disable id => (disableFederationRelay id).run relays
  | .delete id => relays.deleteWhere fun row => row.id == id

def RelayStep (s : FederationRelays) (event : RelayEvent) (s' : FederationRelays) : Prop :=
  s' = relaysAfter hostStr s event

/-! ## The property and its condition -/

variable (relayActor : String → String)

/-- A relay's own actor, signing for itself, accepts the `Follow` it was sent. -/
def OwnAccept (delivery : InboxDelivery) (row : FederationRelay) : Prop :=
  delivery.signer = some (relayActor row.inboxUrl)
    ∧ extractActivityActorUri delivery.activity = some (relayActor row.inboxUrl)
    ∧ activitypubHasType delivery.activity "Accept" = true
    ∧ row.followActivityId.isSome = true
    ∧ relayFollowActivityIdFromAccept delivery.activity = row.followActivityId

/-- A delivery changes the state of a relay only as an answer signed by the relay's own
actor, and accepts a pending relay that accepts. -/
def RelaysAnswered (s : FederationRelays) (event : RelayEvent) (s' : FederationRelays) : Prop :=
  ∀ delivery, event = .deliver delivery → ∀ row ∈ s.rows,
    (∀ row' ∈ s'.rows, row'.id = row.id → row'.state ≠ row.state →
        delivery.signer = some (relayActor row.inboxUrl)
          ∧ (activitypubHasType delivery.activity "Accept" = true
            ∨ activitypubHasType delivery.activity "Reject" = true))
      ∧ (row.state = .pending → OwnAccept relayActor delivery row →
        ∃ row' ∈ s'.rows, row'.id = row.id ∧ row'.state = .accepted)

def answeredState (activity : Json) : Option RelayState :=
  if activitypubHasType activity "Accept" then some .accepted
  else if activitypubHasType activity "Reject" then some .rejected
  else none

/-- A delivery is taken as an answer to a `Follow`: at the shared inbox, signed by an
actor of an accepted relay for another one. -/
def TakenAsAnswer (s : FederationRelays) (delivery : InboxDelivery) (signer : String)
    (state : RelayState) (followActivityId : String) : Prop :=
  delivery.endpoint = .shared ∧ delivery.signer = some signer
    ∧ (∃ content, extractActivityActorUri delivery.activity = some content ∧ signer ≠ content)
    ∧ relayDeliveryIsEnabled hostStr s signer = true
    ∧ answeredState delivery.activity = some state
    ∧ relayFollowActivityIdFromAccept delivery.activity = some followActivityId

/-- What is taken as an answer changes no relay of another actor, and no pending relay
accepts. -/
def NoForeignAnswer (s : FederationRelays) (event : RelayEvent) : Prop :=
  ∀ delivery, event = .deliver delivery →
    (∀ signer state followActivityId,
        TakenAsAnswer hostStr s delivery signer state followActivityId →
        ∀ row ∈ s.rows, row.followActivityId = some followActivityId → row.state ≠ state →
          signer = relayActor row.inboxUrl)
      ∧ ∀ row ∈ s.rows, row.state = .pending → ¬ OwnAccept relayActor delivery row

/-! ## What a delivery does -/

section

variable {hostStr} {relayActor} {s : FederationRelays} {delivery : InboxDelivery}

theorem taken_unique {signer signer' : String} {state state' : RelayState}
    {followId followActivityId' : String}
    (taken : TakenAsAnswer hostStr s delivery signer state followId)
    (taken' : TakenAsAnswer hostStr s delivery signer' state' followActivityId') :
    signer = signer' ∧ state = state' ∧ followId = followActivityId' := by
  obtain ⟨-, signed, -, -, answer, named⟩ := taken
  obtain ⟨-, signed', -, -, answer', named'⟩ := taken'
  rw [signed] at signed'
  rw [answer] at answer'
  rw [named] at named'
  exact ⟨Option.some.inj signed', Option.some.inj answer', Option.some.inj named'⟩

theorem TakenAsAnswer.not_ownAccept {signer : String} {state : RelayState}
    {followId : String}
    (taken : TakenAsAnswer hostStr s delivery signer state followId)
    (row : FederationRelay) : ¬ OwnAccept relayActor delivery row := by
  obtain ⟨-, signed, ⟨content, named, other⟩, -⟩ := taken
  rintro ⟨own, acting, -⟩
  rw [signed] at own
  rw [named] at acting
  exact other ((Option.some.inj own).trans (Option.some.inj acting).symm)

/-- An update that puts the relays of a `Follow` into a state. -/
structure Answers (update : Update FederationRelay FederationRelay.id)
    (followActivityId : String) (state : RelayState) : Prop where
  guard : ∀ row, update.guard row = true ↔ row.followActivityId = some followActivityId
  state : ∀ row, (update.set row).state = state

theorem answers_accepted (followId relayActorUri : String) :
    Answers (markFederationRelayAccepted followId relayActorUri) followId .accepted where
  guard _ := beq_iff_eq
  state _ := rfl

theorem answers_rejected (followId : String) :
    Answers (markFederationRelayRejected followId) followId .rejected where
  guard _ := beq_iff_eq
  state _ := rfl

/-- **What a relayed delivery does to the relays**: an answer of a relay that is accepted
puts the relays of its `Follow` into its state, and everything else leaves them alone. -/
theorem handleRelayDeliveredActivity_cases (hostStr : String → Option String)
    (s : FederationRelays) (act : Json) (signer content : String) :
    ((handleRelayDeliveredActivity hostStr s act ⟨signer, content, true⟩).1 = s
        ∧ ¬ (relayDeliveryIsEnabled hostStr s signer = true
          ∧ (answeredState act).isSome = true
          ∧ (relayFollowActivityIdFromAccept act).isSome = true))
      ∨ ∃ state followId update, relayDeliveryIsEnabled hostStr s signer = true
        ∧ answeredState act = some state
        ∧ relayFollowActivityIdFromAccept act = some followId
        ∧ Answers update followId state
        ∧ (handleRelayDeliveredActivity hostStr s act ⟨signer, content, true⟩).1
          = update.run s := by
  rw [handleRelayDeliveredActivity, answeredState]
  dsimp only
  cases enabled : relayDeliveryIsEnabled hostStr s signer with
  | false => exact .inl (by simp)
  | true =>
    cases named : relayFollowActivityIdFromAccept act with
    | none =>
      left
      split_ifs <;> simp_all
    | some followId =>
      by_cases accept : activitypubHasType act "Accept" = true
      · refine .inr ⟨.accepted, followId, _, rfl, ?_, rfl, answers_accepted followId signer, ?_⟩
        · rw [if_pos accept]
        · simp [accept]
      · by_cases reject : activitypubHasType act "Reject" = true
        · refine .inr ⟨.rejected, followId, _, rfl, ?_, rfl, answers_rejected followId, ?_⟩
          · rw [if_neg accept, if_pos reject]
          · simp [accept, reject]
        · left
          simp [accept, reject]

/-- A delivery that is taken as an answer puts the relays of its `Follow` into its state,
and every other delivery leaves the relays alone. -/
theorem relaysAfterDelivery_cases (hostStr : String → Option String) (s : FederationRelays)
    (delivery : InboxDelivery) :
    (relaysAfterDelivery hostStr s delivery = s
        ∧ ∀ signer state followId, ¬ TakenAsAnswer hostStr s delivery signer state followId)
      ∨ ∃ signer state followId update,
        TakenAsAnswer hostStr s delivery signer state followId
          ∧ Answers update followId state
          ∧ relaysAfterDelivery hostStr s delivery = update.run s := by
  rw [relaysAfterDelivery, verifyDelivery]
  cases endpoint : delivery.endpoint with
  | personal => exact .inl ⟨rfl, fun _ _ _ taken => by simp [TakenAsAnswer, endpoint] at taken⟩
  | shared =>
    cases acting : extractActivityActorUri delivery.activity with
    | none => exact .inl ⟨rfl, fun _ _ _ taken => by simp [TakenAsAnswer, acting] at taken⟩
    | some content =>
      cases signed : delivery.signer with
      | none => exact .inl ⟨rfl, fun _ _ _ taken => by simp [TakenAsAnswer, signed] at taken⟩
      | some signer =>
        by_cases eq : signer = content
        · refine .inl ⟨by simp [eq], fun signer' _ _ taken => ?_⟩
          obtain ⟨-, signed', ⟨content', acting', other⟩, -⟩ := taken
          rw [signed] at signed'
          rw [acting] at acting'
          cases signed'
          cases acting'
          exact other eq
        · have relayed : (signer != content) = true := by simpa using eq
          simp only [Option.bind_eq_bind, Option.bind_some, relayed, pure, if_true]
          rcases handleRelayDeliveredActivity_cases hostStr s delivery.activity signer
            content with ⟨stays, unmet⟩ | ⟨state, followId, update, enabled, answer,
              named, answers, wrote⟩
          · refine .inl ⟨stays, fun signer' state followId taken => unmet ?_⟩
            obtain ⟨-, signed', -, enabled, answer, named⟩ := taken
            rw [signed] at signed'
            cases signed'
            exact ⟨enabled, by rw [answer]; rfl, by rw [named]; rfl⟩
          · exact .inr ⟨signer, state, followId, update,
              ⟨endpoint, signed, ⟨content, acting, eq⟩, enabled, answer, named⟩,
              answers, wrote⟩

/-- An answer is an `Accept` or a `Reject`. -/
theorem hasType_of_answeredState {act : Json} {state : RelayState}
    (answer : answeredState act = some state) :
    activitypubHasType act "Accept" = true ∨ activitypubHasType act "Reject" = true := by
  rw [answeredState] at answer
  split_ifs at answer with accept reject
  · exact .inl accept
  · exact .inr reject

theorem relayStep_answered_iff {event : RelayEvent} {s' : FederationRelays}
    (step : RelayStep hostStr s event s') :
    RelaysAnswered relayActor s event s' ↔ NoForeignAnswer hostStr relayActor s event := by
  rw [RelaysAnswered, NoForeignAnswer]
  refine forall_congr' fun delivery => imp_congr_right fun eq => ?_
  have post : s' = relaysAfterDelivery hostStr s delivery := by
    rw [step, eq]
    rfl
  rcases relaysAfterDelivery_cases hostStr s delivery with ⟨stays, untaken⟩
    | ⟨signer, state, followId, update, taken, answers, wrote⟩
  · rw [post, stays]
    constructor
    · intro each
      refine ⟨fun signer state followId taken => absurd taken (untaken _ _ _), ?_⟩
      intro row mem waits own
      obtain ⟨row', mem', sameId, ok⟩ := (each row mem).2 waits own
      rw [Table.eq_of_key_eq mem' mem sameId, waits] at ok
      cases ok
    · rintro ⟨-, notOwn⟩ row mem
      refine ⟨fun row' mem' sameId changed => ?_, fun waits own => ?_⟩
      · rw [Table.eq_of_key_eq mem' mem sameId] at changed
        exact absurd rfl changed
      · exact absurd own (notOwn row mem waits)
  · rw [post, wrote]
    have rows {row row' : FederationRelay} (mem : row ∈ s.rows)
        (mem' : row' ∈ (update.run s).rows) (sameId : row'.id = row.id) :
        row' = update.onRow row := by
      obtain ⟨old, oldMember, rfl⟩ := List.mem_map.mp mem'
      have oldId : old.id = row.id := (update.key_onRow old).symm.trans sameId
      rw [Table.eq_of_key_eq oldMember mem oldId]
    constructor
    · intro each
      refine ⟨?_, fun row _ _ => taken.not_ownAccept row⟩
      intro signer' state' followActivityId' taken' row mem named different
      obtain ⟨rfl, rfl, rfl⟩ := taken_unique taken taken'
      have set : update.onRow row = update.set row :=
        Update.onRow_of_guard ((answers.guard row).mpr named)
      have changed : (update.onRow row).state ≠ row.state := by
        rw [set, answers.state]
        exact different.symm
      obtain ⟨signed, -⟩ := (each row mem).1 (update.onRow row)
        (List.mem_map_of_mem mem) (update.key_onRow row) changed
      exact Option.some.inj (taken.2.1.symm.trans signed)
    · rintro ⟨onlyOwn, -⟩ row mem
      refine ⟨fun row' mem' sameId changed => ?_, fun _ own => absurd own (taken.not_ownAccept row)⟩
      rw [rows mem mem' sameId] at changed
      obtain ⟨met, set⟩ | unchanged := update.onRow_cases row
      · rw [set, answers.state] at changed
        have own := onlyOwn signer state followId taken row mem
          ((answers.guard row).mp met) changed.symm
        exact ⟨own ▸ taken.2.1, hasType_of_answeredState taken.2.2.2.2.1⟩
      · rw [unchanged] at changed
        exact absurd rfl changed

end

variable {hostStr} {relayActor}

/-- **In every run, the relays change as their own actors say exactly if no answer taken
is for a relay of another actor and no pending relay accepts.** -/
theorem relays_answered_iff {start finish : FederationRelays}
    {trace : List (Transition FederationRelays RelayEvent)}
    (run : Run (RelayStep hostStr) start trace finish) :
    Throughout (RelaysAnswered relayActor) trace
      ↔ Along (NoForeignAnswer hostStr relayActor) trace :=
  run.throughout_iff_along fun step => relayStep_answered_iff step

/-! ## Two answers -/

def relayHost (_ : String) : Option String := some "relay.example"

def relayExampleActor (_ : String) : String := "https://relay.example/actor"

def relayExample (state : RelayState) : FederationRelay where
  id := "relay-1"
  inboxUrl := "https://relay.example/inbox"
  actorUri := none
  followActivityId := some "https://local.example/users/admin/relay-follows/1"
  signingAccountId := "acct-admin"
  state := state

/-- An answer to the `Follow`, by an actor, with the signature of the relay. -/
def answerOf (kind actor : String) : InboxDelivery where
  endpoint := .shared
  activity := .object [("type", .string kind), ("actor", .string actor),
    ("object", .string "https://local.example/users/admin/relay-follows/1")]
  signer := some "https://relay.example/actor"

/-- An accepted relay that signs a rejection for another actor: its own row changes. -/
theorem relays_answered_reject :
    Throughout (RelaysAnswered relayExampleActor)
      [⟨Table.singleton (relayExample .accepted),
        .deliver (answerOf "Reject" "https://relay.example/users/bob"),
        Table.singleton (relayExample .rejected)⟩] := by
  have run : Run (RelayStep relayHost) (Table.singleton (relayExample .accepted))
      [⟨Table.singleton (relayExample .accepted),
        .deliver (answerOf "Reject" "https://relay.example/users/bob"),
        Table.singleton (relayExample .rejected)⟩] (Table.singleton (relayExample .rejected)) :=
    Run.start.snoc (Table.ext (by decide +kernel))
  refine (relays_answered_iff run).mpr ?_
  intro move mem
  obtain rfl := List.mem_singleton.mp mem
  intro delivery eq
  cases eq
  refine ⟨fun signer state followId taken row _ _ _ => ?_, fun row held waits => ?_⟩
  · exact (Option.some.inj taken.2.1).symm
  · obtain rfl := List.mem_singleton.mp held
    cases waits

/-- A pending relay that accepts is not accepted. -/
theorem own_accept_is_passed_over :
    RelayStep relayHost (Table.singleton (relayExample .pending))
        (.deliver (answerOf "Accept" "https://relay.example/actor"))
        (Table.singleton (relayExample .pending))
      ∧ ¬ RelaysAnswered relayExampleActor (Table.singleton (relayExample .pending))
        (.deliver (answerOf "Accept" "https://relay.example/actor"))
        (Table.singleton (relayExample .pending)) := by
  refine ⟨Table.ext (by decide +kernel), fun ans => ?_⟩
  have own : OwnAccept relayExampleActor (answerOf "Accept" "https://relay.example/actor")
      (relayExample .pending) :=
    ⟨rfl, by decide +kernel, by decide +kernel, rfl, by decide +kernel⟩
  obtain ⟨row, held, -, ok⟩ :=
    (ans _ rfl _ (List.mem_singleton_self _)).2 rfl own
  obtain rfl := List.mem_singleton.mp held
  cases ok

end Cfwdon.Inbox
