import Cfwdon.Streaming.ForwardTargets

/-!
# How often a socket is sent a published event

A hub that handles a publish sends the event to each of its sockets with a matching
subscription, and then asks the hub of every matching target to publish it too.  A socket
is so sent an event once by its own hub and once for each target that names its hub.

Targets are stored by hub, stream, tag and list, while a subscription to a public channel
matches whatever its tag and list are.  An account that subscribes with two tags has two
targets for one event, and a socket of an anonymous client has none.

A publish is taken here as a whole: no socket or target changes while it runs, what an
open socket is sent arrives, and a request to another hub reaches it or fails before the
hub handles it.
-/

namespace Cfwdon.Streaming

open Library

structure PublishOutcome where
  /-- The sockets the event is sent to, one entry for each time it is sent. -/
  sent : List HubSocket
  after : HubsState

/-- The requests of `forward_publish` to its matching targets, one after the other, with
the targets that reported no delivery. -/
def askTargets (reaches : String → Bool) (request : String → HubsState → Option PublishOutcome) :
    List ForwardTarget → HubsState → Option (PublishOutcome × List ForwardTarget)
  | [], s => some (⟨[], s⟩, [])
  | target :: rest, s =>
    if reaches target.hub then
      (request target.hub s).bind fun answer =>
        (askTargets reaches request rest answer.after).map fun (later, stale) =>
          (⟨answer.sent ++ later.sent, later.after⟩,
            if answer.sent = [] then target :: stale else stale)
    else
      (askTargets reaches request rest s).map fun (later, stale) => (later, target :: stale)

/-- The stored targets of a hub without those that reported no delivery. -/
def HubsState.dropTargets (s : HubsState) (publish : ForwardPublish) : HubsState where
  __ := s
  targets := if publish.stale = [] then s.targets
    else Function.update s.targets publish.hub publish.kept

/-- `StreamHub::handle_publish`, to the given depth of hubs that ask hubs; `reaches` says
which hubs a request gets through to. -/
def handlePublish (reaches : String → Bool) (event : PublishedEvent) :
    Nat → String → HubsState → Option PublishOutcome
  | 0, _, _ => none
  | depth + 1, hub, s =>
    let publish := ForwardPublish.start hub event (s.targets hub)
    (askTargets reaches (handlePublish reaches event depth) publish.remaining s).map
      fun (relayed, stale) =>
        ⟨s.receivers hub event ++ relayed.sent,
          relayed.after.dropTargets { publish with remaining := [], stale := stale }⟩

/-! ## What is claimed -/

/-- An event is for a socket with a matching subscription; on the channels of an account, for
the sockets of its hub. -/
def HubSocket.Addressed (socket : HubSocket) (hub : String) (event : PublishedEvent) : Prop :=
  socket.receives event = true ∧ (streamIsSessionChannel event.stream = true → socket.hub = hub)

/-- **What is claimed of a publish**: every socket that the event is for is sent it once, and
no other socket is. -/
structure SentOnce (s : HubsState) (hub : String) (event : PublishedEvent)
    (sent : List HubSocket) : Prop where
  once : ∀ socket ∈ s.sockets, socket.Addressed hub event → sent.count socket = 1
  noOther : ∀ socket ∈ sent, socket ∈ s.sockets ∧ socket.Addressed hub event

/-- **When the claim holds**: the hub of every other socket that the event is for has exactly
one matching target, and is reached. -/
def OneTargetEach (s : HubsState) (reaches : String → Bool) (hub : String)
    (event : PublishedEvent) : Prop :=
  ∀ socket ∈ s.sockets, socket.hub ≠ hub → socket.Addressed hub event →
    reaches socket.hub = true
      ∧ (s.targets hub).countP (fun target => target.wants event && target.hub == socket.hub) = 1

/-! ## Where targets are stored -/

/-- Every target is stored at the hub of its channel, and no two sockets are one. -/
structure WellPlaced (s : HubsState) : Prop where
  channels : ∀ registration ∈ s.registrations,
    openChannelHub registration.target.subscription registration.target.hub
      = some registration.channelHub
  stored : ∀ hub, ∀ target ∈ s.targets hub, openChannelHub target.subscription target.hub = some hub
  read : ∀ publish ∈ s.publishes, ∀ target ∈ publish.targets,
    openChannelHub target.subscription target.hub = some publish.hub
  distinct : (s.sockets.map HubSocket.id).Nodup

theorem wellPlaced_initial : WellPlaced .initial where
  channels := by
    intro reg mem
    cases mem
  stored := by
    intro hub target mem
    cases mem
  read := by
    intro publish mem
    cases mem
  distinct := List.nodup_nil

variable {target : ForwardTarget}

variable (reg : Registration)

section Placing

variable {s before after : HubsState} {event : HubEvent}

@[simp] theorem ids_storeAttachment (id : Nat) (attachment : SocketSubscriptionState) :
    (s.storeAttachment id attachment).sockets.map HubSocket.id = s.sockets.map HubSocket.id := by
  unfold HubsState.storeAttachment
  rw [List.map_map]
  apply List.map_congr_left
  intro socket _
  simp only [Function.comp_apply]
  split_ifs <;> rfl

@[simp] theorem ids_storeCopy :
    (s.storeCopy reg).sockets.map HubSocket.id = s.sockets.map HubSocket.id := by
  unfold HubsState.storeCopy
  split
  · exact ids_storeAttachment ..
  · rfl

theorem targets_storeCopy : (s.storeCopy reg).targets = s.targets := by
  unfold HubsState.storeCopy
  split <;> rfl

theorem publishes_storeCopy : (s.storeCopy reg).publishes = s.publishes := by
  unfold HubsState.storeCopy
  split <;> rfl

theorem WellPlaced.stored_registers (placed : WellPlaced s) {reg : Registration}
    (waits : reg ∈ s.registrations) {hub : String}
    (mem : target ∈ Function.update s.targets reg.channelHub
      (pushMissing (s.targets reg.channelHub) [reg.target]) hub) :
    openChannelHub target.subscription target.hub = some hub := by
  by_cases atHub : hub = reg.channelHub
  · subst atHub
    rw [Function.update_self, mem_pushMissing, List.mem_singleton] at mem
    rcases mem with prior | rfl
    · exact placed.stored _ target prior
    · exact placed.channels reg waits
  · rw [Function.update_of_ne atHub] at mem
    exact placed.stored hub target mem

theorem WellPlaced.stored_dropTargets (placed : WellPlaced s) {publish : ForwardPublish}
    (read : ∀ target ∈ publish.targets,
      openChannelHub target.subscription target.hub = some publish.hub)
    {hub : String}
    (mem : target ∈ (s.dropTargets publish).targets hub) :
    openChannelHub target.subscription target.hub = some hub := by
  simp only [HubsState.dropTargets] at mem
  split_ifs at mem with clean
  · exact placed.stored hub target mem
  · by_cases atHub : hub = publish.hub
    · subst atHub
      rw [Function.update_self] at mem
      exact read target (List.mem_of_mem_filter mem)
    · rw [Function.update_of_ne atHub] at mem
      exact placed.stored hub target mem

theorem stored_after (placed : WellPlaced before) (taken : HubStep before event after) :
    ∀ hub, ∀ target ∈ after.targets hub,
      openChannelHub target.subscription target.hub = some hub := by
  intro hub target mem
  cases taken with
  | upgraded _ params fresh | replied held isOpen did | subscribes isOpen did
  | closed id | publishStarts _ event | publishAsks sent relayed runs next toSockets
  | publishErrs runs next | publishFails runs => exact placed.stored hub target mem
  | storing held isOpen did => cases held <;> exact placed.stored hub target mem
  | registers waits => exact placed.stored_registers (by simp [waits]) mem
  | @ends prior later reg done waits =>
    cases done with
    | false => exact placed.stored hub target mem
    | true => exact placed.stored hub target (targets_storeCopy (s := before) reg ▸ mem)
  | publishEnds runs asked =>
    exact placed.stored_dropTargets (placed.read _ (by simp [runs])) mem

theorem read_after (placed : WellPlaced before) (taken : HubStep before event after) :
    ∀ publish ∈ after.publishes, ∀ target ∈ publish.targets,
      openChannelHub target.subscription target.hub = some publish.hub := by
  intro publish mem
  cases taken with
  | upgraded hub params fresh | replied held isOpen did | subscribes isOpen did
  | registers waits | closed id => exact placed.read publish mem
  | storing held isOpen did => cases held <;> exact placed.read publish mem
  | @ends prior later reg done waits =>
    cases done with
    | false => exact placed.read publish mem
    | true => exact placed.read publish (publishes_storeCopy (s := before) reg ▸ mem)
  | publishStarts hub event =>
    rcases List.mem_append.mp mem with prior | new
    · exact placed.read publish prior
    · obtain rfl := List.mem_singleton.mp new
      exact placed.stored hub
  | @publishAsks prior later asking asked rest sent relayed runs next toSockets
  | @publishErrs prior later asking asked rest runs next =>
    rcases eq_or_mem_of_mem_replaced asking mem with rfl | other
    · exact placed.read asking (by simp [runs])
    · exact placed.read publish (runs ▸ other)
  | publishEnds runs asked =>
    exact placed.read publish (runs ▸ mem_of_mem_taken_out mem)
  | publishFails runs => exact placed.read publish (runs ▸ mem_of_mem_taken_out mem)

theorem distinct_after (placed : WellPlaced before) (taken : HubStep before event after) :
    (after.sockets.map HubSocket.id).Nodup := by
  cases taken with
  | upgraded hub params fresh =>
    rw [List.map_append, List.nodup_append]
    refine ⟨placed.distinct, List.nodup_singleton _, ?_⟩
    rintro id held _ new rfl
    obtain ⟨socket, isOpen, rfl⟩ := List.mem_map.mp held
    exact fresh.1 socket isOpen (List.mem_singleton.mp new)
  | storing stored isOpen did =>
    cases stored with
    | false => exact placed.distinct
    | true => exact (ids_storeAttachment (s := before) ..).symm ▸ placed.distinct
  | ends done waits =>
    cases done with
    | false => exact placed.distinct
    | true => exact (ids_storeCopy (s := before) _).symm ▸ placed.distinct
  | closed id => exact placed.distinct.sublist (List.filter_sublist.map _)
  | replied stored isOpen did | subscribes isOpen did | registers waits
  | publishStarts hub event | publishAsks sent relayed runs next toSockets
  | publishErrs runs next | publishEnds runs asked | publishFails runs =>
    exact placed.distinct

/-- **One step stores every target at the hub of its channel.** -/
theorem wellPlaced_after (placed : WellPlaced before) (taken : HubStep before event after) :
    WellPlaced after where
  channels := channels_after placed.channels taken
  stored := stored_after placed taken
  read := read_after placed taken
  distinct := distinct_after placed taken

theorem wellPlaced_of_run {trace : List (Transition HubsState HubEvent)}
    (run : Run HubStep .initial trace s) : WellPlaced s :=
  run.invariant_of_step wellPlaced_initial wellPlaced_after

end Placing

/-! ## A publish is forwarded once -/

section Forwards

variable {s : HubsState} {reaches : String → Bool} {event : PublishedEvent} {hub : String}

/-- A matching target is stored at the hub of the channel of the event, which is another hub
and no account's channel. -/
theorem WellPlaced.channel_of_wants (placed : WellPlaced s)
    (mem : target ∈ s.targets hub) (wants : target.wants event = true) :
    hub = streamHubChannelIdName event.stream event.tag ∧ target.hub ≠ hub
      ∧ streamIsSessionChannel event.stream = false := by
  have isStored := placed.stored hub target mem
  have sameStream : target.subscription.stream = event.stream :=
    StreamSubscription.stream_of_matchesEvent wants
  simp only [openChannelHub] at isStored
  split_ifs at isStored with session own
  obtain rfl := Option.some.inj isStored
  refine ⟨?_, fun eq => own eq.symm, ?_⟩
  · simp only [ForwardTarget.wants, StreamSubscription.matchesEvent] at wants
    unfold streamHubChannelIdName
    rw [sameStream] at wants ⊢
    split_ifs with isHashtag
    · have sameTag : target.subscription.tag = event.tag := by simpa [isHashtag] using wants
      rw [sameTag]
    · rfl
  · rw [← sameStream]
    simpa using session

/-- A hub without matching targets sends the event to its own sockets only. -/
theorem handlePublish_of_unwanted (depth : Nat)
    (unwanted : ∀ target ∈ s.targets hub, target.wants event = false) :
    handlePublish reaches event (depth + 1) hub s = some ⟨s.receivers hub event, s⟩ := by
  have noneRemains : (ForwardPublish.start hub event (s.targets hub)).remaining = [] := by
    apply List.filter_eq_nil_iff.mpr
    intro target mem
    simp [unwanted target mem]
  simp only [handlePublish, noneRemains, askTargets, Option.map_some, List.append_nil,
    HubsState.dropTargets, if_true]

/-- **A forwarded event is not forwarded again.** -/
theorem WellPlaced.unwanted_of_wants (placed : WellPlaced s)
    (mem : target ∈ s.targets hub) (wants : target.wants event = true) :
    ∀ other ∈ s.targets target.hub, other.wants event = false := by
  obtain ⟨isChannel, elsewhere, _⟩ := placed.channel_of_wants mem wants
  intro other held
  by_contra hit
  obtain ⟨again, _⟩ := placed.channel_of_wants held (by simpa using hit)
  exact elsewhere (again.trans isChannel.symm)

def silentTargets (s : HubsState) (reaches : String → Bool) (event : PublishedEvent)
    (targets : List ForwardTarget) : List ForwardTarget :=
  targets.filter fun target =>
    !reaches target.hub || (s.receivers target.hub event).isEmpty

def relayedTo (s : HubsState) (reaches : String → Bool) (event : PublishedEvent)
    (targets : List ForwardTarget) : List HubSocket :=
  (targets.filter fun target => reaches target.hub).flatMap fun target =>
    s.receivers target.hub event

/-- Targets whose hubs send the event to their own sockets only are asked one after the
other. -/
theorem askTargets_eq {req : String → HubsState → Option PublishOutcome}
    {targets : List ForwardTarget}
    (answers : ∀ target ∈ targets, req target.hub s = some ⟨s.receivers target.hub event, s⟩) :
    askTargets reaches req targets s
      = some (⟨relayedTo s reaches event targets, s⟩, silentTargets s reaches event targets) := by
  induction targets with
  | nil => rfl
  | cons target rest ih =>
    have later := ih fun other mem =>
      answers other (List.mem_cons_of_mem target mem)
    have answer := answers target (List.mem_cons_self ..)
    unfold askTargets
    cases reach : reaches target.hub with
    | false =>
      simp [later, relayedTo, silentTargets, reach]
    | true =>
      simp only [if_true, answer, Option.bind_some, later, Option.map_some, relayedTo,
        silentTargets, reach, List.filter_cons, List.flatMap_cons, Bool.not_true,
        Bool.false_or, List.isEmpty_iff]

def publishOutcome (s : HubsState) (reaches : String → Bool) (event : PublishedEvent)
    (hub : String) : PublishOutcome :=
  let publish := ForwardPublish.start hub event (s.targets hub)
  ⟨s.receivers hub event ++ relayedTo s reaches event publish.remaining,
    s.dropTargets { publish with
      remaining := []
      stale := silentTargets s reaches event publish.remaining }⟩

/-- **A publish ends**, with what its hub sends and what the hubs of the matching targets
send. -/
theorem handlePublish_eq (placed : WellPlaced s) (depth : Nat) :
    handlePublish reaches event (depth + 2) hub s = some (publishOutcome s reaches event hub) := by
  have answers : ∀ target ∈ (ForwardPublish.start hub event (s.targets hub)).remaining,
      handlePublish reaches event (depth + 1) target.hub s
        = some ⟨s.receivers target.hub event, s⟩ := by
    intro target remains
    obtain ⟨mem, wants⟩ := List.mem_filter.mp remains
    exact handlePublish_of_unwanted depth (placed.unwanted_of_wants mem wants)
  rw [handlePublish]
  simp only [askTargets_eq answers, Option.map_some, publishOutcome]

/-! ## How often a socket is sent the event -/

variable {socket : HubSocket}

theorem count_receivers (nodup : (s.sockets.map HubSocket.id).Nodup)
    (isOpen : socket ∈ s.sockets) (receives : socket.receives event = true) :
    (s.receivers hub event).count socket = if hub == socket.hub then 1 else 0 := by
  have once : (s.receivers hub event).Nodup := nodup.of_map.filter _
  rw [once.count]
  apply if_congr _ rfl rfl
  rw [HubsState.receivers, List.mem_filter, receives, Bool.and_true, beq_iff_eq, beq_iff_eq]
  exact ⟨fun here => here.2.symm, fun here => ⟨isOpen, here.symm⟩⟩

theorem count_relayedTo (nodup : (s.sockets.map HubSocket.id).Nodup)
    (isOpen : socket ∈ s.sockets) (receives : socket.receives event = true)
    (targets : List ForwardTarget) :
    (relayedTo s reaches event targets).count socket
      = targets.countP fun target => target.hub == socket.hub && reaches target.hub := by
  rw [relayedTo, count_flatMap_of_indicator fun target _ => count_receivers nodup isOpen receives,
    List.countP_filter]

/-- **How often a socket that receives the event is sent it**: once by its own hub, and once
for each matching target that names its hub. -/
theorem count_sent (placed : WellPlaced s) (isOpen : socket ∈ s.sockets)
    (receives : socket.receives event = true) :
    (publishOutcome s reaches event hub).sent.count socket
      = (if hub == socket.hub then 1 else 0)
        + if reaches socket.hub = true then
            (s.targets hub).countP fun target => target.wants event && target.hub == socket.hub
          else 0 := by
  have relayed : (relayedTo s reaches event
        (ForwardPublish.start hub event (s.targets hub)).remaining).count socket
      = if reaches socket.hub = true then
          (s.targets hub).countP fun target => target.wants event && target.hub == socket.hub
        else 0 := by
    rw [count_relayedTo placed.distinct isOpen receives, ForwardPublish.start, List.countP_filter]
    split_ifs with reach
    · apply List.countP_congr
      intro target _
      by_cases names : target.hub = socket.hub <;> simp [names, reach, Bool.and_comm]
    · rw [List.countP_eq_zero]
      intro target _
      by_cases names : target.hub = socket.hub <;> simp [names, reach]
  simp only [publishOutcome]
  rw [List.count_append, count_receivers placed.distinct isOpen receives, relayed]

theorem WellPlaced.no_target_for_own (placed : WellPlaced s) (onHub : socket.hub = hub) :
    (s.targets hub).countP (fun target => target.wants event && target.hub == socket.hub) = 0 := by
  rw [List.countP_eq_zero]
  rintro target mem hit
  rw [Bool.and_eq_true, beq_iff_eq] at hit
  exact (placed.channel_of_wants mem hit.1).2.1 (hit.2.trans onHub)

theorem addressed_of_sent (placed : WellPlaced s)
    (sent : socket ∈ (publishOutcome s reaches event hub).sent) :
    socket ∈ s.sockets ∧ socket.Addressed hub event := by
  rcases List.mem_append.mp sent with own | relayed
  · obtain ⟨isOpen, hit⟩ := List.mem_filter.mp own
    rw [Bool.and_eq_true, beq_iff_eq] at hit
    exact ⟨isOpen, hit.2, fun _ => hit.1⟩
  · obtain ⟨target, listed, received⟩ := List.mem_flatMap.mp relayed
    obtain ⟨isOpen, hit⟩ := List.mem_filter.mp received
    obtain ⟨mem, wants⟩ := List.mem_filter.mp (List.mem_of_mem_filter listed)
    have noSession := (placed.channel_of_wants mem wants).2.2
    rw [Bool.and_eq_true] at hit
    refine ⟨isOpen, hit.2, fun session => ?_⟩
    rw [noSession] at session
    cases session

/-- **A publish sends the event once to every socket that it is for, and to no other, exactly
when the hub of every such socket on another hub is reached and has one matching target.** -/
theorem sentOnce_publishOutcome (placed : WellPlaced s) :
    SentOnce s hub event (publishOutcome s reaches event hub).sent
      ↔ OneTargetEach s reaches hub event := by
  constructor
  · intro took socket isOpen elsewhere shown
    have once := took.once socket isOpen shown
    have other : (hub == socket.hub) = false := beq_false_of_ne fun eq => elsewhere eq.symm
    rw [count_sent placed isOpen shown.1, other] at once
    by_cases reach : reaches socket.hub = true
    · rw [if_pos reach, if_neg Bool.false_ne_true, Nat.zero_add] at once
      exact ⟨reach, once⟩
    · rw [if_neg reach] at once
      cases once
  · intro one
    refine ⟨fun socket isOpen shown => ?_, fun socket sent => addressed_of_sent placed sent⟩
    rw [count_sent placed isOpen shown.1]
    by_cases onHub : socket.hub = hub
    · rw [placed.no_target_for_own onHub]
      simp [onHub]
    · obtain ⟨reach, single⟩ := one socket isOpen onHub shown
      have other : (hub == socket.hub) = false := beq_false_of_ne fun eq => onHub eq.symm
      rw [single, other, if_pos reach]
      rfl

end Forwards

/-- **In every state that a run of the hubs reaches, every publish ends, and it sends the event
once to every socket that the event is for, and to no other, exactly when the hub of every
such socket on another hub is reached and has exactly one matching target.** -/
theorem sentOnce_iff {trace : List (Transition HubsState HubEvent)} {s : HubsState}
    (run : Run HubStep .initial trace s) (reaches : String → Bool) (hub : String)
    (event : PublishedEvent) (depth : Nat) :
    ∃ outcome, handlePublish reaches event (depth + 2) hub s = some outcome
      ∧ (SentOnce s hub event outcome.sent ↔ OneTargetEach s reaches hub event) :=
  have placed := wellPlaced_of_run run
  ⟨_, handlePublish_eq placed depth, sentOnce_publishOutcome placed⟩

/-! ## A socket that subscribes to the public channel twice -/

section TwoTags

def publicUpdate : PublishedEvent := ⟨"public", none, none⟩

/-- With one subscribe to the public channel, its events are sent once. -/
theorem sentOnce_public : ∃ outcome,
    handlePublish (fun _ => true) publicUpdate 2 "public"
        (publicSubscribed [publicRegistration.target]) = some outcome
      ∧ SentOnce (publicSubscribed [publicRegistration.target]) "public" publicUpdate
        outcome.sent := by
  have run := (((Run.start.snoc blank_upgraded).snoc public_subscribes).snoc
    public_registers).snoc (public_ends _)
  obtain ⟨outcome, ended, exactly⟩ := sentOnce_iff run (fun _ => true) "public" publicUpdate 0
  refine ⟨outcome, ended, exactly.mpr ?_⟩
  intro socket isOpen _ _
  obtain rfl := List.mem_singleton.mp isOpen
  exact ⟨rfl, by decide⟩

/-- The handler of a second subscribe message, with a tag. -/
def taggedRegistration : Registration where
  socket := 0
  subscription := ⟨"public", some "rust", none⟩
  sessionHub := accountHub
  channelHub := "public"
  copy := some ⟨[⟨"public", none, none⟩, ⟨"public", some "rust", none⟩], some accountHub⟩
  registered := false

/-- The handler once the hub of the channel has handled its registration. -/
def taggedRegistered : Registration := { taggedRegistration with registered := true }

/-- The client subscribes to the public channel with a tag. -/
def taggedMessage : IncomingMessage := .text ⟨"subscribe", some "public", some "rust", none⟩

/-- The hubs after the first subscribe, with what the hub of the public channel stores and
what is awaited. -/
def onceSubscribed (stored : List ForwardTarget) (registrations : List Registration) :
    HubsState :=
  { publicSubscribed stored with registrations := registrations }

def twiceSubscribed : HubsState where
  sockets := [accountSocket [⟨"public", none, none⟩, ⟨"public", some "rust", none⟩]]
  targets := Function.update (fun _ => []) "public"
    [publicRegistration.target, taggedRegistration.target]
  registrations := []
  publishes := []
  completed := [(0, publicRegistration.target), (0, taggedRegistration.target)]

theorem tagged_subscribes : HubStep (publicSubscribed [publicRegistration.target])
    (.subscribes 0 taggedMessage)
    (onceSubscribed [publicRegistration.target] [taggedRegistration]) :=
  @HubStep.subscribes _ (accountSocket [⟨"public", none, none⟩]) taggedMessage _ _ _ _
    (List.mem_singleton.mpr rfl) rfl

theorem tagged_registers :
    HubStep (onceSubscribed [publicRegistration.target] [taggedRegistration])
      (.registers taggedRegistration)
      (onceSubscribed [publicRegistration.target, taggedRegistration.target]
        [taggedRegistered]) := by
  have waits : (onceSubscribed [publicRegistration.target] [taggedRegistration]).registrations
      = [] ++ taggedRegistration :: [] := rfl
  have taken := HubStep.registers waits
  have pushed : pushMissing
      ((onceSubscribed [publicRegistration.target] [taggedRegistration]).targets "public")
      [taggedRegistration.target] = [publicRegistration.target, taggedRegistration.target] := by
    decide
  have held : Function.update
      (onceSubscribed [publicRegistration.target] [taggedRegistration]).targets "public"
      [publicRegistration.target, taggedRegistration.target]
        = Function.update (fun _ => []) "public"
          [publicRegistration.target, taggedRegistration.target] :=
    Function.update_idem ..
  rw [show taggedRegistration.channelHub = "public" from rfl, pushed, held] at taken
  exact taken

theorem tagged_ends :
    HubStep (onceSubscribed [publicRegistration.target, taggedRegistration.target]
        [taggedRegistered])
      (.ends taggedRegistered true) twiceSubscribed := by
  have waits : (onceSubscribed [publicRegistration.target, taggedRegistration.target]
      [taggedRegistered]).registrations = [] ++ taggedRegistered :: [] := rfl
  exact .ends true waits

/-- **The claim fails**: a socket that subscribed to the public channel without a tag and
with one is sent every event of the channel twice. -/
theorem publish_is_sent_twice : ∃ trace s outcome,
    Run HubStep .initial trace s
      ∧ handlePublish (fun _ => true) publicUpdate 2 "public" s = some outcome
      ∧ ¬ SentOnce s "public" publicUpdate outcome.sent := by
  have run := ((((((Run.start.snoc blank_upgraded).snoc public_subscribes).snoc
    public_registers).snoc (public_ends _)).snoc tagged_subscribes).snoc tagged_registers).snoc
    tagged_ends
  refine ⟨_, _, _, run, handlePublish_eq (wellPlaced_of_run run) 0, ?_⟩
  intro took
  have isOpen : accountSocket [⟨"public", none, none⟩, ⟨"public", some "rust", none⟩]
      ∈ twiceSubscribed.sockets := List.mem_singleton.mpr rfl
  have once := took.once _ isOpen ⟨by decide, fun session => nomatch session⟩
  have twice : (publishOutcome twiceSubscribed (fun _ => true) publicUpdate "public").sent.count
      (accountSocket [⟨"public", none, none⟩, ⟨"public", some "rust", none⟩]) = 2 := by
    decide
  rw [twice] at once
  cases once

end TwoTags

end Cfwdon.Streaming
