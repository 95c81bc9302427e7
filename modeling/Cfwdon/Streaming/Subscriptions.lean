import Cfwdon.Library.Text

/-!
# Channels and subscriptions

The channels a client may ask for, and what a socket of a hub is subscribed to.
-/

namespace Cfwdon.Streaming

section Channels

/-! ## Streaming channels

The channels a client may ask for, by name, and the check of a request for one.  A name
comes from the query or from the path below `/api/v1/streaming/`, never from both; it
is trimmed and put in lower case, and a path has `/` for `:`.  The hashtag channels need
a tag and the list channel a list.

A checked name is one of the twelve channels with events
(`supports_of_channelRequest`), and such a name is left alone by the
trimming that later steps repeat (`nonblank_of_supports`).
-/

open Library

/-- `map(str::trim)` and `filter(|value| !value.is_empty())` of a parameter. -/
def nonblank (value : Option String) : Option String :=
  (value.map trim).filter fun text => text != ""

/-- `streaming_channel_supports_live_events`, which lists the names that
`validate_streaming_channel_request` knows. -/
def streamingChannelSupportsLiveEvents (stream : String) : Bool :=
  ["public", "public:media", "public:local", "public:local:media", "public:remote",
    "public:remote:media", "hashtag", "hashtag:local", "user", "user:notification", "list",
    "direct"].contains stream

def streamingChannelRequiresAuth (stream : String) : Bool :=
  streamingChannelSupportsLiveEvents stream

def streamingChannelRequiresTag (stream : String) : Bool :=
  ["hashtag", "hashtag:local"].contains stream

def streamingChannelRequiresList (stream : String) : Bool :=
  stream == "list"

def normalizeStreamingChannel (value : Option String) : Option String :=
  (nonblank value).map toAsciiLowercase

def normalizeStreamingPathChannel (value : String) : Option String :=
  let path := trimMatches (· == '/') (trim value)
  if path = "" then none else normalizeStreamingChannel (some (replaceAll path "/" ":"))

inductive StreamingChannelValidationError where
  | unknownChannelRequested
  | missingTag
  | missingList

namespace StreamingChannelValidationError

/-- The text of `streaming_bad_request_response`. -/
def badRequestMessage : StreamingChannelValidationError → String
  | unknownChannelRequested => "Unknown channel requested"
  | missingTag => "Missing tag parameter"
  | missingList => "Missing list parameter"

/-- The text `handle_streaming_websocket_client_message` answers. -/
def websocketMessage : StreamingChannelValidationError → String
  | unknownChannelRequested => "Unknown stream type"
  | missingTag => "Missing tag parameter"
  | missingList => "Missing list parameter"

end StreamingChannelValidationError

/-- The name asked for, if there is one and only one. -/
def requestedChannel (stream extraPath : Option String) : Option String :=
  match nonblank extraPath with
  | some path =>
    if (nonblank stream).isSome then none else normalizeStreamingPathChannel path
  | none => normalizeStreamingChannel stream

def validateStreamingChannelRequest (stream tag list extraPath : Option String) :
    Except StreamingChannelValidationError String :=
  match requestedChannel stream extraPath with
  | none => .error .unknownChannelRequested
  | some stream =>
    if !streamingChannelSupportsLiveEvents stream then .error .unknownChannelRequested
    else if streamingChannelRequiresTag stream && (nonblank tag).isNone then
      .error .missingTag
    else if streamingChannelRequiresList stream && (nonblank list).isNone then
      .error .missingList
    else .ok stream

/-! ## Checked names -/

/-- **A checked name is a channel with events, and has its tag and its list.** -/
theorem channelRequest_ok {stream tag list extraPath : Option String}
    {channel : String}
    (checked : validateStreamingChannelRequest stream tag list extraPath = .ok channel) :
    streamingChannelSupportsLiveEvents channel = true
      ∧ (streamingChannelRequiresTag channel = true → (nonblank tag).isSome)
      ∧ (streamingChannelRequiresList channel = true → (nonblank list).isSome) := by
  unfold validateStreamingChannelRequest at checked
  split at checked
  case h_1 => cases checked
  case h_2 name _ =>
      split_ifs at checked with unsupported untagged unlisted
      cases checked
      refine ⟨by simpa using unsupported, ?_, ?_⟩
      · intro requires
        rw [requires, Bool.true_and, Option.isNone_iff_eq_none] at untagged
        exact Option.isSome_iff_ne_none.mpr untagged
      · intro requires
        rw [requires, Bool.true_and, Option.isNone_iff_eq_none] at unlisted
        exact Option.isSome_iff_ne_none.mpr unlisted

theorem supports_of_channelRequest
    {stream tag list extraPath : Option String} {channel : String}
    (checked : validateStreamingChannelRequest stream tag list extraPath = .ok channel) :
    streamingChannelSupportsLiveEvents channel = true :=
  (channelRequest_ok checked).1

theorem forall_supported {prop : String → Prop}
    (each : ∀ name ∈ ["public", "public:media", "public:local", "public:local:media",
      "public:remote", "public:remote:media", "hashtag", "hashtag:local", "user",
      "user:notification", "list", "direct"], prop name)
    {stream : String} (supports : streamingChannelSupportsLiveEvents stream = true) :
    prop stream := by
  apply each
  simpa [streamingChannelSupportsLiveEvents] using supports

theorem nonblank_of_supports {stream : String}
    (supports : streamingChannelSupportsLiveEvents stream = true) :
    nonblank (some stream) = some stream := by
  revert supports stream
  apply @forall_supported
  decide

theorem separator_notMem_of_supports {stream : String}
    (supports : streamingChannelSupportsLiveEvents stream = true) :
    Char.ofNat 0x1f ∉ stream.toList := by
  revert supports stream
  apply @forall_supported
  decide

theorem nonblank_nonblank (value : Option String) : nonblank (nonblank value) = nonblank value := by
  cases value with
  | none => rfl
  | some text =>
    by_cases blank : trim text = ""
    · simp [nonblank, blank, Option.filter]
    · simp [nonblank, blank, trim_trim, Option.filter]

end Channels

section Subscriptions

/-! ## Subscriptions of hub sockets

A stream hub keeps what a socket is subscribed to in the attachment of the socket: a list
of subscriptions and, for a socket of an account, the name of the hub the account has for
itself.  A published event goes to the sockets one of whose subscriptions matches it.

A message of the client is handled on a copy of the attachment.  Subscribing to an open
channel asks the hub of the channel to forward its events to this hub, and waits for the
answer before the copy is stored; every other accepted message stores the copy at once.
-/

open Library

structure StreamSubscription where
  stream : String
  tag : Option String
  list : Option String
  deriving DecidableEq

namespace StreamSubscription

def new (stream : String) (tag list : Option String) : StreamSubscription where
  stream := stream
  tag := nonblank tag
  list := nonblank list

/-- `StreamSubscription::matches`. -/
def matchesEvent (subscription : StreamSubscription) (stream : String)
    (tag list : Option String) : Bool :=
  if subscription.stream != stream then false
  else if startsWith subscription.stream "hashtag" then subscription.tag == tag
  else if subscription.stream == "list" then subscription.list == list
  else true

theorem stream_of_matchesEvent {subscription : StreamSubscription} {stream : String}
    {tag list : Option String} (hit : subscription.matchesEvent stream tag list = true) :
    subscription.stream = stream := by
  unfold matchesEvent at hit
  split_ifs at hit with other <;> simpa using other

theorem matchesEvent_self (subscription : StreamSubscription) :
    subscription.matchesEvent subscription.stream subscription.tag subscription.list = true := by
  simp [matchesEvent]

theorem new_new (stream : String) (tag list : Option String) :
    new stream (new stream tag list).tag (new stream tag list).list = new stream tag list := by
  simp only [new, nonblank_nonblank]

end StreamSubscription

/-- The attachment of a hub socket. -/
structure SocketSubscriptionState where
  subscriptions : List StreamSubscription
  sessionHub : Option String
  deriving DecidableEq

/-- `SocketSubscriptionState::matches`. -/
def SocketSubscriptionState.matchesEvent (state : SocketSubscriptionState) (stream : String)
    (tag list : Option String) : Bool :=
  state.subscriptions.any fun subscription => subscription.matchesEvent stream tag list

/-! ## Names of hubs -/

def streamHubSessionIdName (accountId : String) : String :=
  "user:" ++ accountId

def streamIsSessionChannel (stream : String) : Bool :=
  ["user", "user:notification", "direct", "list"].contains stream

def streamHubChannelIdName (stream : String) (tag : Option String) : String :=
  if startsWith stream "hashtag" then "hashtag:" ++ tag.getD "" else stream

/-- The hub `register_open_channel_forwarding` asks to forward a subscription to the
session hub, if any. -/
def openChannelHub (subscription : StreamSubscription) (sessionHub : String) : Option String :=
  if streamIsSessionChannel subscription.stream then none
  else
    let channelHub := streamHubChannelIdName subscription.stream subscription.tag
    if channelHub = sessionHub then none else some channelHub

/-! ## Messages of a client -/

/-- `StreamHubWebSocketClientMessage` and `StreamingWebSocketClientMessage`, which have
the same fields. -/
structure ClientMessage where
  messageType : String
  stream : Option String
  tag : Option String
  list : Option String

/-- A websocket message: a text with what the JSON reader made of it, an error or a
client message. -/
inductive IncomingMessage where
  | binary
  | malformed (error : String)
  | text (message : ClientMessage)

structure ErrorMessage where
  error : String
  status : Nat

/-- What `websocket_message` of the hub does with a message, up to its first await. -/
inductive HubHandling where
  | replied (message : ErrorMessage)
  /-- The copy of the attachment is stored. -/
  | storing (copy : SocketSubscriptionState)
  /-- The hub of the channel is asked to forward; the copy is stored after its answer. -/
  | registering (subscription : StreamSubscription) (channelHub sessionHub : String)
      (copy : SocketSubscriptionState)

def ClientMessage.subscription (message : ClientMessage) : Option StreamSubscription :=
  (message.stream.filter fun stream => trim stream != "").map fun stream =>
    .new stream message.tag message.list

/-- The attachment with a subscription, which it may have already. -/
def SocketSubscriptionState.subscribed (state : SocketSubscriptionState)
    (subscription : StreamSubscription) : SocketSubscriptionState :=
  if state.subscriptions.contains subscription then state
  else { state with subscriptions := state.subscriptions ++ [subscription] }

/-- The attachment without a subscription. -/
def SocketSubscriptionState.unsubscribed (state : SocketSubscriptionState)
    (subscription : StreamSubscription) : SocketSubscriptionState :=
  { state with subscriptions := state.subscriptions.filter fun existing =>
      existing != subscription }

/-- A subscribe message, up to its first await. -/
def subscribe (attachment : SocketSubscriptionState) (subscription : StreamSubscription) :
    HubHandling :=
  let copy := attachment.subscribed subscription
  match attachment.sessionHub with
  | none => .storing copy
  | some sessionHub =>
    match openChannelHub subscription sessionHub with
    | none => .storing copy
    | some channelHub => .registering subscription channelHub sessionHub copy

/-- `StreamHub::websocket_message`, up to its first await. -/
def websocketMessage (attachment : SocketSubscriptionState) : IncomingMessage → HubHandling
  | .binary => .replied ⟨"Only text websocket messages are supported", 400⟩
  | .malformed error => .replied ⟨"Malformed streaming message: " ++ error, 400⟩
  | .text message =>
    if message.messageType = "subscribe" ∨ message.messageType = "unsubscribe" then
      match message.subscription with
      | none => .replied ⟨"Unknown stream type", 400⟩
      | some subscription =>
        if message.messageType = "subscribe" then subscribe attachment subscription
        else .storing (attachment.unsubscribed subscription)
    else .replied ⟨"Unknown streaming message type", 400⟩

/-! ## What a message changes -/

section Changes

variable {attachment copy : SocketSubscriptionState} {subscription other : StreamSubscription}

theorem mem_subscribed : other ∈ (attachment.subscribed subscription).subscriptions
    ↔ other ∈ attachment.subscriptions ∨ other = subscription := by
  unfold SocketSubscriptionState.subscribed
  split_ifs with here
  · have mem : subscription ∈ attachment.subscriptions := by simpa using here
    constructor
    · exact Or.inl
    · rintro (held | rfl)
      · exact held
      · exact mem
  · simp

theorem mem_unsubscribed : other ∈ (attachment.unsubscribed subscription).subscriptions
    ↔ other ∈ attachment.subscriptions ∧ other ≠ subscription := by
  simp [SocketSubscriptionState.unsubscribed]

@[simp] theorem sessionHub_subscribed :
    (attachment.subscribed subscription).sessionHub = attachment.sessionHub := by
  unfold SocketSubscriptionState.subscribed
  split_ifs <;> rfl

@[simp] theorem sessionHub_unsubscribed :
    (attachment.unsubscribed subscription).sessionHub = attachment.sessionHub := rfl

/-- A subscription that is stored at once is added to the attachment, and is not
forwarded. -/
theorem subscribe_storing (stores : subscribe attachment subscription = .storing copy) :
    copy = attachment.subscribed subscription
      ∧ ∀ hub ∈ attachment.sessionHub, openChannelHub subscription hub = none := by
  unfold subscribe at stores
  cases isHub : attachment.sessionHub with
  | none =>
    rw [isHub] at stores
    cases stores
    exact ⟨rfl, nofun⟩
  | some sessionHub =>
    cases asked : openChannelHub subscription sessionHub with
    | none =>
      simp only [isHub, asked] at stores
      cases stores
      refine ⟨rfl, ?_⟩
      rintro _ ⟨⟩
      exact asked
    | some channelHub =>
      simp only [isHub, asked] at stores
      cases stores

theorem subscribe_registering {channelHub sessionHub : String}
    (registers : subscribe attachment other
      = .registering subscription channelHub sessionHub copy) :
    other = subscription ∧ attachment.sessionHub = some sessionHub
      ∧ openChannelHub subscription sessionHub = some channelHub
      ∧ copy = attachment.subscribed subscription := by
  unfold subscribe at registers
  cases isHub : attachment.sessionHub with
  | none =>
    rw [isHub] at registers
    cases registers
  | some hub =>
    cases asked : openChannelHub other hub with
    | none =>
      simp only [isHub, asked] at registers
      cases registers
    | some channel =>
      simp only [isHub, asked] at registers
      cases registers
      exact ⟨rfl, rfl, asked, rfl⟩

theorem accepted_cases {msg : IncomingMessage}
    (ok : ∀ reply, websocketMessage attachment msg ≠ .replied reply) :
    ∃ client subscription, msg = .text client ∧ client.subscription = some subscription
      ∧ ((client.messageType = "subscribe"
          ∧ websocketMessage attachment msg = subscribe attachment subscription)
        ∨ (client.messageType = "unsubscribe"
          ∧ websocketMessage attachment msg
            = .storing (attachment.unsubscribed subscription))) := by
  cases msg with
  | binary | malformed error => exact absurd rfl (ok _)
  | text client =>
    simp only [websocketMessage] at ok ⊢
    by_cases known : client.messageType = "subscribe" ∨ client.messageType = "unsubscribe"
    · rw [if_pos known] at ok ⊢
      cases named : client.subscription with
      | none => simp [named] at ok
      | some subscription =>
        refine ⟨client, subscription, rfl, named, ?_⟩
        by_cases subscribes : client.messageType = "subscribe"
        · exact Or.inl ⟨subscribes, by simp only [if_pos subscribes]⟩
        · exact Or.inr ⟨known.resolve_left subscribes, by simp only [if_neg subscribes]⟩
    · simp [if_neg known] at ok

/-- **What a message stores at once**: the attachment with the subscription of a
subscribe message, or without that of an unsubscribe message. -/
theorem storing_cases {msg : IncomingMessage}
    (stores : websocketMessage attachment msg = .storing copy) :
    ∃ client subscription, msg = .text client
      ∧ client.subscription = some subscription
      ∧ ((client.messageType = "subscribe" ∧ copy = attachment.subscribed subscription
          ∧ ∀ hub ∈ attachment.sessionHub, openChannelHub subscription hub = none)
        ∨ (client.messageType = "unsubscribe" ∧ copy = attachment.unsubscribed subscription)) := by
  obtain ⟨client, subscription, isText, named, ⟨subscribes, did⟩ | ⟨unsubscribes, did⟩⟩ :=
    accepted_cases fun reply replied => nomatch stores.symm.trans replied
  · rw [did] at stores
    exact ⟨client, subscription, isText, named, Or.inl ⟨subscribes, subscribe_storing stores⟩⟩
  · rw [did] at stores
    cases stores
    exact ⟨client, subscription, isText, named, Or.inr ⟨unsubscribes, rfl⟩⟩

/-- **What a message asks to forward**: the subscription of a subscribe message, for the
session hub of the attachment, at the hub of its open channel. -/
theorem registering_cases {msg : IncomingMessage} {channelHub sessionHub : String}
    (registers : websocketMessage attachment msg
      = .registering subscription channelHub sessionHub copy) :
    ∃ client, msg = .text client ∧ client.messageType = "subscribe"
      ∧ client.subscription = some subscription
      ∧ attachment.sessionHub = some sessionHub
      ∧ openChannelHub subscription sessionHub = some channelHub
      ∧ copy = attachment.subscribed subscription := by
  obtain ⟨client, named, isText, isNamed, ⟨subscribes, did⟩ | ⟨_, did⟩⟩ :=
    accepted_cases fun reply replied => nomatch registers.symm.trans replied
  · rw [did] at registers
    obtain ⟨rfl, isHub, asked, copied⟩ := subscribe_registering registers
    exact ⟨client, isText, subscribes, isNamed, isHub, asked, copied⟩
  · rw [did] at registers
    cases registers

end Changes

end Subscriptions

end Cfwdon.Streaming
