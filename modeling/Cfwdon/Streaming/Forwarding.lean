import Cfwdon.Library.Lists
import Cfwdon.Streaming.Connections

/-!
# Forwarding between stream hubs

The hub of an open channel keeps a list of targets: the hubs of accounts that want its
events, each with a subscription.  A subscribe message makes the hub of the account
register itself there, before it stores the subscription in the attachment of the socket;
an upgrade stores its subscription first.  A publish asks the hub of every matching target
to send the event to its own sockets, one after the other, and then drops the targets that
reported no delivery, by writing back the list it read at the start.

A hub handles other requests while it awaits another hub, so the steps of subscribe
messages, registrations and publishes interleave.  Each step here is what one hub does
between two awaits.  What a call to another hub returns is left open as far as the network
can change it: a registration may fail, and so may the request to a target.

The history `completed` lists, for each socket, the targets of its completed subscribes.
-/

namespace Cfwdon.Streaming

open Library

structure ForwardTarget where
  hub : String
  subscription : StreamSubscription
  deriving DecidableEq

/-- The channel of a `StreamHubPublishRequest`. -/
structure PublishedEvent where
  stream : String
  tag : Option String
  list : Option String

def ForwardTarget.wants (target : ForwardTarget) (event : PublishedEvent) : Bool :=
  target.subscription.matchesEvent event.stream event.tag event.list

structure HubSocket where
  id : Nat
  hub : String
  attachment : SocketSubscriptionState
  deriving DecidableEq

def HubSocket.receives (socket : HubSocket) (event : PublishedEvent) : Bool :=
  socket.attachment.matchesEvent event.stream event.tag event.list

/-- A handler that awaits the registration of a subscription. -/
structure Registration where
  socket : Nat
  subscription : StreamSubscription
  sessionHub : String
  channelHub : String
  /-- The copy of the attachment a message handler stores in the end; an upgrade stores
  nothing more. -/
  copy : Option SocketSubscriptionState
  /-- Whether the hub of the channel has handled the registration. -/
  registered : Bool

/-- The target of a registration, as `handle_forward_register` makes it. -/
def Registration.target (registration : Registration) : ForwardTarget where
  hub := registration.sessionHub
  subscription := .new registration.subscription.stream registration.subscription.tag
    registration.subscription.list

structure ForwardPublish where
  hub : String
  event : PublishedEvent
  /-- The targets read at the start. -/
  targets : List ForwardTarget
  /-- The matching targets still to be asked. -/
  remaining : List ForwardTarget
  stale : List ForwardTarget

/-- `forward_publish`, up to its first await. -/
def ForwardPublish.start (hub : String) (event : PublishedEvent) (targets : List ForwardTarget) :
    ForwardPublish where
  hub := hub
  event := event
  targets := targets
  remaining := targets.filter fun target => target.wants event
  stale := []

def ForwardPublish.kept (publish : ForwardPublish) : List ForwardTarget :=
  publish.targets.filter fun target => !publish.stale.contains target

/-- The hubs: their sockets, the stored targets of each, and what they are waiting for. -/
structure HubsState where
  sockets : List HubSocket
  targets : String → List ForwardTarget
  registrations : List Registration
  publishes : List ForwardPublish
  completed : List (Nat × ForwardTarget)

namespace HubsState

def initial : HubsState where
  sockets := []
  targets := fun _ => []
  registrations := []
  publishes := []
  completed := []

def receivers (s : HubsState) (hub : String) (event : PublishedEvent) : List HubSocket :=
  s.sockets.filter fun socket => socket.hub == hub && socket.receives event

def storeAttachment (s : HubsState) (id : Nat) (attachment : SocketSubscriptionState) :
    HubsState :=
  { s with sockets := s.sockets.map fun socket =>
      if socket.id = id then { socket with attachment := attachment } else socket }

/-- A message handler stores its copy in the end. -/
def storeCopy (s : HubsState) (registration : Registration) : HubsState :=
  match registration.copy with
  | some copy => s.storeAttachment registration.socket copy
  | none => s

def upgradeRegistrations (id : Nat) (attachment : SocketSubscriptionState) : List Registration :=
  attachment.subscriptions.filterMap fun subscription =>
    attachment.sessionHub.bind fun sessionHub =>
      (openChannelHub subscription sessionHub).map fun channelHub =>
        { socket := id, subscription := subscription, sessionHub := sessionHub,
          channelHub := channelHub, copy := none, registered := false }

/-- No other socket ever had the number. -/
def Fresh (s : HubsState) (id : Nat) : Prop :=
  (∀ socket ∈ s.sockets, socket.id ≠ id)
    ∧ (∀ registration ∈ s.registrations, registration.socket ≠ id)
    ∧ ∀ entry ∈ s.completed, entry.1 ≠ id

end HubsState

inductive HubEvent where
  /-- `handle_websocket_upgrade`, up to its first await. -/
  | upgraded (id : Nat) (hub : String) (params : StreamHubConnectParams)
  /-- A message of the client that is handled at once. -/
  | message (id : Nat) (message : IncomingMessage) (stored : Bool)
  /-- A message of the client whose handler awaits a registration. -/
  | subscribes (id : Nat) (message : IncomingMessage)
  /-- `handle_forward_register`. -/
  | registers (registration : Registration)
  /-- The handler goes on, with or without an error of the registration, and ends; it is
  completed unless its attachment could not be stored. -/
  | ends (registration : Registration) (completed : Bool)
  | closed (id : Nat)
  /-- `forward_publish`, up to its first await. -/
  | publishStarts (hub : String) (event : PublishedEvent)
  /-- The request to the next target returns the number of deliveries, or an error. -/
  | publishAsks (publish : ForwardPublish) (target : ForwardTarget) (delivered : Option Nat)
  /-- `forward_publish`, after its last await. -/
  | publishEnds (publish : ForwardPublish)
  /-- A publish fails or its hub is reset. -/
  | publishFails (publish : ForwardPublish)

open Function in
inductive HubStep : HubsState → HubEvent → HubsState → Prop where
  | upgraded {s : HubsState} {id : Nat} (hub : String) (params : StreamHubConnectParams)
      (fresh : s.Fresh id) :
      HubStep s (.upgraded id hub params)
        { s with
          sockets := s.sockets ++ [⟨id, hub, upgradeAttachment params⟩]
          registrations := s.registrations
            ++ HubsState.upgradeRegistrations id (upgradeAttachment params) }
  | replied {s : HubsState} {socket : HubSocket} {message : IncomingMessage} {reply : ErrorMessage}
      (stored : Bool) (isOpen : socket ∈ s.sockets)
      (handled : websocketMessage socket.attachment message = .replied reply) :
      HubStep s (.message socket.id message stored) s
  | storing {s : HubsState} {socket : HubSocket} {message : IncomingMessage}
      {copy : SocketSubscriptionState} (stored : Bool) (isOpen : socket ∈ s.sockets)
      (handled : websocketMessage socket.attachment message = .storing copy) :
      HubStep s (.message socket.id message stored)
        (if stored then s.storeAttachment socket.id copy else s)
  | subscribes {s : HubsState} {socket : HubSocket} {message : IncomingMessage}
      {subscription : StreamSubscription} {channelHub sessionHub : String}
      {copy : SocketSubscriptionState} (isOpen : socket ∈ s.sockets)
      (handled : websocketMessage socket.attachment message
        = .registering subscription channelHub sessionHub copy) :
      HubStep s (.subscribes socket.id message)
        { s with registrations := s.registrations
            ++ [⟨socket.id, subscription, sessionHub, channelHub, some copy, false⟩] }
  | registers {s : HubsState} {earlier later : List Registration} {registration : Registration}
      (waits : s.registrations = earlier ++ registration :: later) :
      HubStep s (.registers registration)
        { s with
          targets := update s.targets registration.channelHub
            (pushMissing (s.targets registration.channelHub) [registration.target])
          registrations := earlier ++ { registration with registered := true } :: later }
  | ends {s : HubsState} {earlier later : List Registration} {registration : Registration}
      (completed : Bool) (waits : s.registrations = earlier ++ registration :: later) :
      HubStep s (.ends registration completed)
        { (if completed then s.storeCopy registration else s) with
          registrations := earlier ++ later
          completed := if completed then
              s.completed ++ [(registration.socket, registration.target)]
            else s.completed }
  | closed {s : HubsState} (id : Nat) :
      HubStep s (.closed id) { s with sockets := s.sockets.filter fun socket => socket.id != id }
  | publishStarts {s : HubsState} (hub : String) (event : PublishedEvent) :
      HubStep s (.publishStarts hub event)
        { s with publishes := s.publishes ++ [.start hub event (s.targets hub)] }
  | publishAsks {s : HubsState} {earlier later : List ForwardPublish} {publish : ForwardPublish}
      {target : ForwardTarget} {rest : List ForwardTarget} (sent relayed : Nat)
      (running : s.publishes = earlier ++ publish :: later)
      (next : publish.remaining = target :: rest)
      (toSockets : sent ≤ (s.receivers target.hub publish.event).length) :
      HubStep s (.publishAsks publish target (some (sent + relayed)))
        { s with publishes := earlier ++ { publish with
            remaining := rest
            stale := if sent + relayed = 0 then publish.stale ++ [target] else publish.stale }
              :: later }
  | publishErrs {s : HubsState} {earlier later : List ForwardPublish} {publish : ForwardPublish}
      {target : ForwardTarget} {rest : List ForwardTarget}
      (running : s.publishes = earlier ++ publish :: later)
      (next : publish.remaining = target :: rest) :
      HubStep s (.publishAsks publish target none)
        { s with publishes := earlier ++ { publish with
            remaining := rest
            stale := publish.stale ++ [target] } :: later }
  | publishEnds {s : HubsState} {earlier later : List ForwardPublish} {publish : ForwardPublish}
      (running : s.publishes = earlier ++ publish :: later) (asked : publish.remaining = []) :
      HubStep s (.publishEnds publish)
        { s with
          targets := if publish.stale = [] then s.targets
            else update s.targets publish.hub publish.kept
          publishes := earlier ++ later }
  | publishFails {s : HubsState} {earlier later : List ForwardPublish} {publish : ForwardPublish}
      (running : s.publishes = earlier ++ publish :: later) :
      HubStep s (.publishFails publish) { s with publishes := earlier ++ later }

end Cfwdon.Streaming
