import Cfwdon.Streaming.Forwarding

/-!
# Whether a completed subscribe stays forwarded

A socket that is subscribed to an open channel receives its events through the target its
hub has registered at the hub of the channel.  The target may go missing: a failed
registration is only logged, a publish that runs between a registration and the storing
of the subscription gets no delivery and drops the target, and a publish that writes back
the list it read drops what has registered since.

A target is relied on by a socket whose subscribe completed, by a handler that is
registered and still has to store its copy, and by a handler whose copy holds the
subscription of an earlier subscribe.
-/

namespace Cfwdon.Streaming

open Library

/-- **What is claimed of a state**: while a socket is subscribed to an open channel and
its subscribe completed, the hub of the channel has the target. -/
def Forwarded (s : HubsState) : Prop :=
  ∀ socket ∈ s.sockets, ∀ hub ∈ socket.attachment.sessionHub,
    ∀ subscription ∈ socket.attachment.subscriptions,
      (socket.id, ⟨hub, subscription⟩) ∈ s.completed →
        ∀ channelHub ∈ openChannelHub subscription hub, ⟨hub, subscription⟩ ∈ s.targets channelHub

/-- **What follows**: a publish of an event for such a subscription asks the hub of the
socket, which sends the event to the socket. -/
def Reached (s : HubsState) : Prop :=
  ∀ socket ∈ s.sockets, socket.attachment.sessionHub = some socket.hub →
    ∀ subscription ∈ socket.attachment.subscriptions,
      (socket.id, ⟨socket.hub, subscription⟩) ∈ s.completed →
        ∀ channelHub ∈ openChannelHub subscription socket.hub, ∀ event : PublishedEvent,
          subscription.matchesEvent event.stream event.tag event.list = true →
            ⟨socket.hub, subscription⟩
                ∈ (ForwardPublish.start channelHub event (s.targets channelHub)).remaining
              ∧ socket ∈ s.receivers socket.hub event

inductive ReliedOn (s : HubsState) (target : ForwardTarget) : Prop where
  /-- A socket is subscribed, after a completed subscribe. -/
  | subscribed {socket : HubSocket} (isOpen : socket ∈ s.sockets)
      (isHub : socket.attachment.sessionHub = some target.hub)
      (holds : target.subscription ∈ socket.attachment.subscriptions)
      (completed : (socket.id, target) ∈ s.completed)
  /-- A handler that has registered the target goes on. -/
  | registered {registration : Registration} (waits : registration ∈ s.registrations)
      (handled : registration.registered = true) (own : registration.target = target)
  /-- A handler for another target will store the subscription of an earlier subscribe
  of its socket. -/
  | copied {registration : Registration} {copy : SocketSubscriptionState}
      (waits : registration ∈ s.registrations) (copies : registration.copy = some copy)
      (isHub : copy.sessionHub = some target.hub)
      (holds : target.subscription ∈ copy.subscriptions)
      (other : registration.target ≠ target)
      (completed : (registration.socket, target) ∈ s.completed)

/-- Every target that is relied on is stored at the hub of its channel. -/
structure TargetsKept (s : HubsState) : Prop where
  /-- Registrations are made at the hub of the channel. -/
  channels : ∀ registration ∈ s.registrations,
    openChannelHub registration.target.subscription registration.target.hub
      = some registration.channelHub
  stored : ∀ target, ReliedOn s target →
    ∀ channelHub ∈ openChannelHub target.subscription target.hub, target ∈ s.targets channelHub

/-- **When a step keeps the targets.**  A handler ends with its target registered, and a
publish writes back a list without a stored target only if the target is not relied on. -/
def KeepsTargets (before : HubsState) : HubEvent → Prop
  | .ends registration true =>
    registration.registered = true ∨ registration.target ∈ before.targets registration.channelHub
  | .publishEnds publish => publish.stale ≠ [] →
      ∀ target ∈ before.targets publish.hub, target ∉ publish.kept →
        openChannelHub target.subscription target.hub = some publish.hub → ¬ ReliedOn before target
  | _ => True

theorem TargetsKept.forwarded {s : HubsState} (kept : TargetsKept s) : Forwarded s := by
  intro socket isOpen hub isHub sub holds done channelHub isChannel
  exact kept.stored ⟨hub, sub⟩ (.subscribed isOpen isHub holds done) channelHub isChannel

theorem Forwarded.reached {s : HubsState} (forwarded : Forwarded s) : Reached s := by
  intro socket isOpen isHub sub holds done channelHub isChannel event hit
  constructor
  · have held := forwarded socket isOpen _ isHub sub holds done channelHub isChannel
    exact List.mem_filter.mpr ⟨held, hit⟩
  · refine List.mem_filter.mpr ⟨isOpen, ?_⟩
    have receives : socket.receives event = true :=
      List.any_eq_true.mpr ⟨sub, holds, hit⟩
    rw [receives, beq_self_eq_true]
    rfl

variable {params : StreamHubConnectParams} {msg : IncomingMessage}

section Steps

variable {s before after : HubsState} {event : HubEvent} {target : ForwardTarget}

theorem ReliedOn.mono (relied : ReliedOn after target)
    (sockets : ∀ socket ∈ after.sockets, socket ∈ before.sockets)
    (registrations : ∀ registration ∈ after.registrations, registration ∈ before.registrations)
    (completed : ∀ entry ∈ after.completed, entry ∈ before.completed) :
    ReliedOn before target := by
  cases relied with
  | subscribed isOpen isHub holds done =>
    exact .subscribed (sockets _ isOpen) isHub holds (completed _ done)
  | registered waits did own => exact .registered (registrations _ waits) did own
  | copied waits copies isHub holds other done =>
    exact .copied (registrations _ waits) copies isHub holds other (completed _ done)

variable {registration : Registration} {channelHub : String} {earlier later : List Registration}

theorem target_eq {stream : String} {tag list : Option String}
    (norm : registration.subscription = .new stream tag list) :
    registration.target = ⟨registration.sessionHub, registration.subscription⟩ := by
  rw [Registration.target, norm]
  exact congrArg (ForwardTarget.mk _) (StreamSubscription.new_new stream tag list)

theorem normalized_of_subscription {client : ClientMessage} {sub : StreamSubscription}
    (named : client.subscription = some sub) :
    ∃ stream tag list, sub = .new stream tag list := by
  rw [ClientMessage.subscription, Option.map_eq_some_iff] at named
  obtain ⟨stream, _, rfl⟩ := named
  exact ⟨stream, client.tag, client.list, rfl⟩

theorem reliedOn_upgraded {id : Nat} {hub : String}
    (fresh : s.Fresh id)
    (relied : ReliedOn { s with
      sockets := s.sockets ++ [⟨id, hub, upgradeAttachment params⟩]
      registrations := s.registrations
        ++ HubsState.upgradeRegistrations id (upgradeAttachment params) } target) :
    ReliedOn s target := by
  have isNew : ∀ {registration : Registration},
      registration ∈ HubsState.upgradeRegistrations id (upgradeAttachment params) →
      registration.copy = none ∧ registration.registered = false := by
    intro registration mem
    simp only [HubsState.upgradeRegistrations, List.mem_filterMap, Option.bind_eq_some_iff,
      Option.map_eq_some_iff] at mem
    obtain ⟨_, _, _, _, _, _, rfl⟩ := mem
    exact ⟨rfl, rfl⟩
  cases relied with
  | subscribed isOpen isHub holds done =>
    rcases List.mem_append.mp isOpen with earlier | new
    · exact .subscribed earlier isHub holds done
    · rw [List.mem_singleton] at new
      subst new
      exact absurd rfl (fresh.2.2 _ done)
  | registered waits did own =>
    rcases List.mem_append.mp waits with earlier | new
    · exact .registered earlier did own
    · rw [(isNew new).2] at did
      cases did
  | copied waits copies isHub holds other done =>
    rcases List.mem_append.mp waits with earlier | new
    · exact .copied earlier copies isHub holds other done
    · rw [(isNew new).1] at copies
      cases copies

theorem reliedOn_storeAttachment {id : Nat} {attachment : SocketSubscriptionState}
    (relied : ReliedOn (s.storeAttachment id attachment) target) :
    ReliedOn s target
      ∨ (attachment.sessionHub = some target.hub
        ∧ target.subscription ∈ attachment.subscriptions ∧ (id, target) ∈ s.completed) := by
  cases relied with
  | subscribed isOpen isHub holds done =>
    obtain ⟨socket, earlier, rfl⟩ := List.mem_map.mp isOpen
    split_ifs at isHub holds done with eq
    · exact Or.inr ⟨isHub, holds, eq ▸ done⟩
    · exact Or.inl (.subscribed earlier isHub holds done)
  | registered waits did own => exact Or.inl (.registered waits did own)
  | copied waits copies isHub holds other done =>
    exact Or.inl (.copied waits copies isHub holds other done)

theorem reliedOn_storing {socket : HubSocket}
    {copy : SocketSubscriptionState} (isOpen : socket ∈ s.sockets)
    (did : websocketMessage socket.attachment msg = .storing copy)
    (relied : ReliedOn (s.storeAttachment socket.id copy) target)
    (isChannel : openChannelHub target.subscription target.hub ≠ none) : ReliedOn s target := by
  rcases reliedOn_storeAttachment relied with earlier | ⟨isHub, holds, done⟩
  · exact earlier
  · obtain ⟨client, sub, _, _, ⟨_, rfl, unforwarded⟩ | ⟨_, rfl⟩⟩ :=
      storing_cases did
    · rw [sessionHub_subscribed] at isHub
      rcases mem_subscribed.mp holds with held | isNew
      · exact .subscribed isOpen isHub held done
      · rw [isNew] at isChannel
        exact absurd (unforwarded _ isHub) isChannel
    · exact .subscribed isOpen isHub (mem_unsubscribed.mp holds).1 done

theorem reliedOn_subscribes {socket : HubSocket}
    {subscription : StreamSubscription} {sessionHub : String} {copy : SocketSubscriptionState}
    (isOpen : socket ∈ s.sockets)
    (did : websocketMessage socket.attachment msg
      = .registering subscription channelHub sessionHub copy)
    (relied : ReliedOn { s with registrations := s.registrations
      ++ [⟨socket.id, subscription, sessionHub, channelHub, some copy, false⟩] } target) :
    ReliedOn s target := by
  cases relied with
  | subscribed isOpen' isHub holds done => exact .subscribed isOpen' isHub holds done
  | registered waits isRegistered own =>
    rcases List.mem_append.mp waits with earlier | new
    · exact .registered earlier isRegistered own
    · rw [List.mem_singleton] at new
      subst new
      cases isRegistered
  | copied waits copies isHub holds other done =>
    rcases List.mem_append.mp waits with earlier | new
    · exact .copied earlier copies isHub holds other done
    · rw [List.mem_singleton] at new
      subst new
      cases copies
      obtain ⟨client, _, _, named, isSessionHub, _, rfl⟩ := registering_cases did
      rw [sessionHub_subscribed] at isHub
      rcases mem_subscribed.mp holds with held | isOwn
      · exact .subscribed isOpen isHub held done
      · obtain ⟨stream, tag, list, norm⟩ := normalized_of_subscription named
        obtain rfl := Option.some.inj (isSessionHub.symm.trans isHub)
        refine absurd ?_ other
        rw [target_eq norm, ← isOwn]

theorem reliedOn_registers {targets : String → List ForwardTarget}
    (waits : s.registrations = earlier ++ registration :: later)
    (relied : ReliedOn { s with
      targets := targets
      registrations := earlier ++ { registration with registered := true } :: later } target) :
    ReliedOn s target ∨ target = registration.target := by
  have isWaiting : registration ∈ s.registrations := by simp [waits]
  cases relied with
  | subscribed isOpen isHub holds done =>
    exact Or.inl (.subscribed isOpen isHub holds done)
  | registered mem did own =>
    rcases eq_or_mem_of_mem_replaced registration mem with rfl | before
    · exact Or.inr own.symm
    · exact Or.inl (.registered (waits ▸ before) did own)
  | copied mem copies isHub holds other done =>
    rcases eq_or_mem_of_mem_replaced registration mem with rfl | before
    · exact Or.inl (.copied isWaiting copies isHub holds other done)
    · exact Or.inl (.copied (waits ▸ before) copies isHub holds other done)

theorem reliedOn_ends (waits : s.registrations = earlier ++ registration :: later)
    (relied : ReliedOn { s.storeCopy registration with
      registrations := earlier ++ later
      completed := s.completed ++ [(registration.socket, registration.target)] } target) :
    ReliedOn s target ∨ target = registration.target := by
  by_cases isOwn : target = registration.target
  · exact Or.inr isOwn
  · left
    have completedBefore : ∀ {id : Nat},
        (id, target) ∈ s.completed ++ [(registration.socket, registration.target)] →
        (id, target) ∈ s.completed := by
      intro id mem
      rcases List.mem_append.mp mem with before | new
      · exact before
      · exact absurd (Prod.mk.inj (List.mem_singleton.mp new)).2 isOwn
    cases relied with
    | subscribed isOpen isHub holds completed =>
      unfold HubsState.storeCopy at isOpen
      cases copies : registration.copy with
      | none =>
        rw [copies] at isOpen
        exact .subscribed isOpen isHub holds (completedBefore completed)
      | some copy =>
        rw [copies] at isOpen
        have held : ReliedOn (s.storeAttachment registration.socket copy) target :=
          .subscribed isOpen isHub holds (completedBefore completed)
        rcases reliedOn_storeAttachment held with before | ⟨isHub, holds, completed⟩
        · exact before
        · exact .copied (by simp [waits]) copies isHub holds (Ne.symm isOwn) completed
    | registered mem did own =>
      exact .registered (waits ▸ mem_of_mem_taken_out mem) did own
    | copied mem copies isHub holds other completed =>
      exact .copied (waits ▸ mem_of_mem_taken_out mem) copies isHub holds other
        (completedBefore completed)

theorem channel_upgraded {id : Nat}
    (mem : registration ∈ HubsState.upgradeRegistrations id (upgradeAttachment params)) :
    openChannelHub registration.target.subscription registration.target.hub
      = some registration.channelHub := by
  simp only [HubsState.upgradeRegistrations, List.mem_filterMap, Option.bind_eq_some_iff,
    Option.map_eq_some_iff] at mem
  obtain ⟨sub, holds, sessionHub, _, channelHub, isChannel, rfl⟩ := mem
  simp only [upgradeAttachment, Option.mem_toList, Option.map_eq_some_iff] at holds
  obtain ⟨stream, _, rfl⟩ := holds
  rw [target_eq rfl]
  exact isChannel

theorem channels_after
    (channels : ∀ registration ∈ before.registrations,
      openChannelHub registration.target.subscription registration.target.hub
        = some registration.channelHub)
    (taken : HubStep before event after) : ∀ registration ∈ after.registrations,
      openChannelHub registration.target.subscription registration.target.hub
        = some registration.channelHub := by
  intro registration mem
  cases taken with
  | upgraded hub params fresh =>
    rcases List.mem_append.mp mem with earlier | new
    · exact channels registration earlier
    · exact channel_upgraded new
  | replied held isOpen did => exact channels registration mem
  | storing held isOpen did =>
    cases held <;> exact channels registration mem
  | subscribes isOpen did =>
    rcases List.mem_append.mp mem with earlier | new
    · exact channels registration earlier
    · rw [List.mem_singleton] at new
      obtain ⟨client, _, _, named, _, isChannel, _⟩ := registering_cases did
      obtain ⟨stream, tag, list, norm⟩ := normalized_of_subscription named
      subst new
      rw [target_eq norm]
      exact isChannel
  | @registers earlier later waiting waits =>
    rcases eq_or_mem_of_mem_replaced waiting mem with rfl | before
    · exact channels waiting (by simp [waits])
    · exact channels registration (waits ▸ before)
  | ends done waits =>
    exact channels registration (waits ▸ mem_of_mem_taken_out mem)
  | closed id | publishStarts hub event | publishAsks sent relayed runs next toSockets
  | publishErrs runs next | publishEnds runs asked | publishFails runs =>
    exact channels registration mem

theorem TargetsKept.registers (kept : TargetsKept s)
    (waits : s.registrations = earlier ++ registration :: later)
    (relied : ReliedOn s target ∨ target = registration.target)
    (isChannel : openChannelHub target.subscription target.hub = some channelHub) :
    target ∈ Function.update s.targets registration.channelHub
      (pushMissing (s.targets registration.channelHub) [registration.target]) channelHub := by
  have held : target ∈ s.targets channelHub ∨ target = registration.target :=
    relied.imp_left fun earlier => kept.stored target earlier channelHub isChannel
  by_cases atHub : channelHub = registration.channelHub
  · subst atHub
    rw [Function.update_self, mem_pushMissing]
    exact held.imp_right List.mem_singleton.mpr
  · rw [Function.update_of_ne atHub]
    rcases held with stored | rfl
    · exact stored
    · have own := kept.channels registration (by simp [waits])
      exact absurd (Option.some.inj (isChannel.symm.trans own)) atHub

theorem TargetsKept.completes (kept : TargetsKept s)
    (waits : s.registrations = earlier ++ registration :: later)
    (keeps : KeepsTargets s (.ends registration true))
    (relied : ReliedOn s target ∨ target = registration.target)
    (isChannel : openChannelHub target.subscription target.hub = some channelHub) :
    target ∈ (s.storeCopy registration).targets channelHub := by
  have targetsSame : (s.storeCopy registration).targets = s.targets := by
    unfold HubsState.storeCopy
    split <;> rfl
  have isWaiting : registration ∈ s.registrations := by simp [waits]
  rw [targetsSame]
  rcases relied with earlier | rfl
  · exact kept.stored target earlier channelHub isChannel
  · rcases keeps with did | held
    · exact kept.stored _ (.registered isWaiting did rfl) channelHub isChannel
    · have own := kept.channels registration isWaiting
      obtain rfl := Option.some.inj (isChannel.symm.trans own)
      exact held

theorem TargetsKept.writesBack (kept : TargetsKept s) {publish : ForwardPublish}
    (keeps : KeepsTargets s (.publishEnds publish)) (unclean : publish.stale ≠ [])
    (relied : ReliedOn s target)
    (isChannel : openChannelHub target.subscription target.hub = some channelHub) :
    target ∈ Function.update s.targets publish.hub publish.kept channelHub := by
  have held := kept.stored target relied channelHub isChannel
  by_cases atHub : channelHub = publish.hub
  · subst atHub
    rw [Function.update_self]
    by_contra dropped
    exact keeps unclean target held dropped isChannel relied
  · rw [Function.update_of_ne atHub]
    exact held

theorem targetsKept_after (kept : TargetsKept before) (keeps : KeepsTargets before event)
    (taken : HubStep before event after) : TargetsKept after := by
  refine ⟨channels_after kept.channels taken, ?_⟩
  intro target relied channelHub isChannel
  cases taken with
  | upgraded hub params fresh =>
    exact kept.stored target (reliedOn_upgraded fresh relied) channelHub isChannel
  | replied held isOpen did => exact kept.stored target relied channelHub isChannel
  | storing held isOpen did =>
    cases held with
    | false => exact kept.stored target relied channelHub isChannel
    | true =>
      have open' : openChannelHub target.subscription target.hub ≠ none := by
        rw [isChannel]
        exact Option.some_ne_none channelHub
      exact kept.stored target (reliedOn_storing isOpen did relied open') channelHub isChannel
  | subscribes isOpen did =>
    exact kept.stored target (reliedOn_subscribes isOpen did relied) channelHub isChannel
  | registers waits => exact kept.registers waits (reliedOn_registers waits relied) isChannel
  | ends done waits =>
    cases done with
    | false =>
      apply kept.stored target _ channelHub isChannel
      exact relied.mono (fun _ mem => mem)
        (fun _ mem => waits ▸ mem_of_mem_taken_out mem) (fun _ mem => mem)
    | true => exact kept.completes waits keeps (reliedOn_ends waits relied) isChannel
  | closed id =>
    apply kept.stored target _ channelHub isChannel
    exact relied.mono (fun _ mem => List.mem_of_mem_filter mem) (fun _ mem => mem)
      (fun _ mem => mem)
  | publishStarts hub event | publishAsks sent relayed runs next toSockets
  | publishErrs runs next | publishFails runs =>
    exact kept.stored target (relied.mono (fun _ => id) (fun _ => id) fun _ => id) channelHub
      isChannel
  | publishEnds runs asked =>
    have reliedBefore : ReliedOn before target :=
      relied.mono (fun _ => id) (fun _ => id) fun _ => id
    split_ifs with clean
    · exact kept.stored target reliedBefore channelHub isChannel
    · exact kept.writesBack keeps clean reliedBefore isChannel

end Steps

theorem targetsKept_initial : TargetsKept .initial where
  channels := by
    intro registration mem
    cases mem
  stored := by
    intro target relied
    cases relied with
    | subscribed isOpen _ _ _ => cases isOpen
    | registered waits _ _ | copied waits _ _ _ _ _ => cases waits

/-- **In every run whose handlers end with their targets registered and whose publishes
drop no target that is relied on, every completed subscribe of a socket that is still
subscribed has its target, in every state reached, and a later publish reaches the
socket.** -/
theorem completed_subscribes_stay_forwarded
    {trace : List (Transition HubsState HubEvent)} {finish : HubsState}
    (run : Run HubStep .initial trace finish) (met : Along KeepsTargets trace) :
    Throughout (fun _ _ after => Forwarded after ∧ Reached after) trace
      ∧ Forwarded finish ∧ Reached finish := by
  have forwarded : Forwarded finish :=
    (run.invariant targetsKept_initial targetsKept_after met).forwarded
  refine ⟨?_, forwarded, forwarded.reached⟩
  refine run.forall_transitions targetsKept_initial targetsKept_after ?_ met
  intro before event after kept keeps taken
  have forwardedAfter := (targetsKept_after kept keeps taken).forwarded
  exact ⟨forwardedAfter, forwardedAfter.reached⟩

/-! ## A socket and the public channel -/

section PublicChannel

def accountHub : String := streamHubSessionIdName "acct-1"

/-- A websocket opened without a first channel. -/
def blankUpgrade : StreamHubConnectParams := ⟨none, none, none, some "acct-1"⟩

/-- The handler of a subscribe message to the public channel. -/
def publicRegistration : Registration where
  socket := 0
  subscription := ⟨"public", none, none⟩
  sessionHub := accountHub
  channelHub := "public"
  copy := some ⟨[⟨"public", none, none⟩], some accountHub⟩
  registered := false

/-- The handler once the hub of the channel has handled its registration. -/
def publicRegistered : Registration := { publicRegistration with registered := true }

def publicMessage : IncomingMessage := .text ⟨"subscribe", some "public", none, none⟩

/-- The websocket, with an attachment that holds some subscriptions. -/
def accountSocket (subscriptions : List StreamSubscription) : HubSocket :=
  ⟨0, accountHub, ⟨subscriptions, some accountHub⟩⟩

/-- The hubs while the blank socket is open, with what the hub of the public channel
stores and what is awaited. -/
def blankOpen (stored : List ForwardTarget) (registrations : List Registration)
    (publishes : List ForwardPublish) : HubsState where
  sockets := [accountSocket []]
  targets := Function.update (fun _ => []) "public" stored
  registrations := registrations
  publishes := publishes
  completed := []

def publicSubscribed (stored : List ForwardTarget) : HubsState where
  sockets := [accountSocket [⟨"public", none, none⟩]]
  targets := Function.update (fun _ => []) "public" stored
  registrations := []
  publishes := []
  completed := [(0, publicRegistration.target)]

theorem blank_upgraded :
    HubStep .initial (.upgraded 0 accountHub blankUpgrade) (blankOpen [] [] []) := by
  have fresh : HubsState.initial.Fresh 0 := ⟨nofun, nofun, nofun⟩
  have taken := HubStep.upgraded accountHub blankUpgrade fresh
  have noTargets : HubsState.initial.targets = Function.update (fun _ => []) "public" [] :=
    (Function.update_eq_self "public" _).symm
  rw [noTargets] at taken
  exact taken

theorem public_subscribes : HubStep (blankOpen [] [] []) (.subscribes 0 publicMessage)
    (blankOpen [] [publicRegistration] []) :=
  @HubStep.subscribes _ (accountSocket []) publicMessage _ _ _ _ (List.mem_singleton.mpr rfl) rfl

theorem public_registers : HubStep (blankOpen [] [publicRegistration] [])
    (.registers publicRegistration)
    (blankOpen [publicRegistration.target] [publicRegistered] []) := by
  have waits : (blankOpen [] [publicRegistration] []).registrations
      = [] ++ publicRegistration :: [] := rfl
  have taken := HubStep.registers waits
  have held : Function.update (blankOpen [] [publicRegistration] []).targets "public"
      (pushMissing ((blankOpen [] [publicRegistration] []).targets "public")
        [publicRegistration.target])
      = Function.update (fun _ => []) "public" [publicRegistration.target] :=
    Function.update_idem ..
  rw [show publicRegistration.channelHub = "public" from rfl, held] at taken
  exact taken

theorem public_ends (held : List ForwardTarget) : HubStep
    (blankOpen held [publicRegistered] [])
    (.ends publicRegistered true) (publicSubscribed held) := by
  have waits : (blankOpen held [publicRegistered] []).registrations
      = [] ++ publicRegistered :: [] := rfl
  exact .ends true waits

/-- With one subscribe and nothing else: the target is stored. -/
theorem completed_subscribes_stay_forwarded_public :
    Forwarded (publicSubscribed [publicRegistration.target]) := by
  have run := (((Run.start.snoc blank_upgraded).snoc public_subscribes).snoc
    public_registers).snoc (public_ends _)
  apply (completed_subscribes_stay_forwarded run _).2.1
  simp [Along, KeepsTargets, publicRegistered]

/-- The publish of an event to the public channel, with the target it has read. -/
def publicPublish : ForwardPublish :=
  .start "public" ⟨"public", none, none⟩ [publicRegistration.target]

/-- The publish once the hub of the account has reported no delivery. -/
def askedPublish : ForwardPublish :=
  { publicPublish with remaining := [], stale := [publicRegistration.target] }

/-- **The claim fails**: a publish between the registration and the storing of the
subscription gets no delivery and drops the target, and the completed subscribe of a
socket that is still subscribed has none. -/
theorem publish_drops_registration : ∃ trace finish,
    Run HubStep .initial trace finish ∧ ¬ Forwarded finish := by
  have starts : HubStep
      (blankOpen [publicRegistration.target] [publicRegistered] [])
      (.publishStarts "public" ⟨"public", none, none⟩)
      (blankOpen [publicRegistration.target] [publicRegistered]
        [publicPublish]) := .publishStarts _ _
  have asks : HubStep
      (blankOpen [publicRegistration.target] [publicRegistered] [publicPublish])
      (.publishAsks publicPublish publicRegistration.target (some 0))
      (blankOpen [publicRegistration.target] [publicRegistered] [askedPublish]) := by
    have runs : (blankOpen [publicRegistration.target]
        [publicRegistered] [publicPublish]).publishes
        = [] ++ publicPublish :: [] := rfl
    exact .publishAsks 0 0 runs rfl (Nat.zero_le _)
  have ends : HubStep
      (blankOpen [publicRegistration.target] [publicRegistered] [askedPublish])
      (.publishEnds askedPublish)
      (blankOpen [] [publicRegistered] []) := by
    have runs : (blankOpen [publicRegistration.target] [publicRegistered]
        [askedPublish]).publishes = [] ++ askedPublish :: [] := rfl
    have taken := HubStep.publishEnds runs rfl
    have wrote : Function.update (blankOpen [publicRegistration.target] [publicRegistered]
        [askedPublish]).targets "public" [] = Function.update (fun _ => []) "public" [] :=
      Function.update_idem ..
    have kept : askedPublish.kept = [] := by decide
    have dropsOne : askedPublish.stale ≠ [] := List.cons_ne_nil _ _
    rw [if_neg dropsOne, show askedPublish.hub = "public" from rfl, kept, wrote] at taken
    exact taken
  refine ⟨_, _, ((((((Run.start.snoc blank_upgraded).snoc public_subscribes).snoc
    public_registers).snoc starts).snoc asks).snoc ends).snoc (public_ends []), ?_⟩
  intro forwarded
  have held := forwarded (accountSocket [⟨"public", none, none⟩]) (List.mem_singleton.mpr rfl)
    accountHub rfl ⟨"public", none, none⟩ (List.mem_singleton.mpr rfl)
    (List.mem_singleton.mpr rfl) "public" rfl
  cases held

end PublicChannel

end Cfwdon.Streaming
