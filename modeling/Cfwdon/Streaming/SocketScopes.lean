import Cfwdon.Library.Lists
import Cfwdon.Streaming.Connections

/-!
# Which channels a websocket receives

A websocket is opened with a credential, which is checked for the first channel only.
After that the socket is told by messages what to subscribe to, and neither the hub nor
the polling Worker knows the credential any more.

The runs of a socket are the messages of its client, in any order and number, with the
handlers that wait for the hub of a channel.  Whether an attachment can be stored is left
open.

A query with a repeated token is no query for the Worker, which then checks no channel,
and names a first channel for the hub.
-/

namespace Cfwdon.Streaming

open Library

/-- What `handle_streaming_websocket_client_message` does with a message. -/
inductive WorkerHandling where
  | replied (message : ErrorMessage)
  | subscribing (subscription : PollSubscription)
  | unsubscribing (streamName : String) (tag list : Option String)

/-- `handle_streaming_websocket_client_message`, and the answer to a binary message. -/
def handleStreamingWebsocketClientMessage (viewer : Option String) :
    IncomingMessage → WorkerHandling
  | .binary => .replied ⟨"Only text websocket messages are supported", 400⟩
  | .malformed error => .replied ⟨"Malformed streaming message: " ++ error, 400⟩
  | .text message =>
    if message.messageType = "subscribe" ∨ message.messageType = "unsubscribe" then
      match validateStreamingChannelRequest message.stream message.tag message.list none with
      | .error error => .replied ⟨error.websocketMessage, 400⟩
      | .ok streamName =>
        if streamingChannelRequiresAuth streamName && viewer.isNone then
          .replied ⟨"The access token is invalid", 401⟩
        else if message.messageType = "subscribe" then
          .subscribing ⟨streamName, message.tag, message.list⟩
        else .unsubscribing streamName message.tag message.list
    else .replied ⟨"Unknown streaming message type", 400⟩

/-- The subscriptions after a message. -/
def WorkerHandling.apply (subscriptions : PollSubscriptions) : WorkerHandling → PollSubscriptions
  | .replied _ => subscriptions
  | .subscribing subscription => addStreamingWebsocketSubscription subscription subscriptions
  | .unsubscribing streamName tag list =>
    removeStreamingWebsocketSubscription streamName tag list subscriptions

/-- What happens to a socket.  `stored` tells whether the attachment could be stored. -/
inductive SocketEvent where
  /-- A message of the client, handled at once. -/
  | message (message : IncomingMessage) (stored : Bool)
  /-- A message of the client whose handler waits for the hub of a channel. -/
  | waits (message : IncomingMessage)
  /-- The hub of the channel answered, or failed. -/
  | answered (handler : WaitingHandler) (stored : Bool)

inductive SocketStep : StreamingSocket → SocketEvent → StreamingSocket → Prop where
  | replied {viewer : Option String} {attachment : SocketSubscriptionState}
      {waiting : List WaitingHandler} {message : IncomingMessage} {reply : ErrorMessage}
      (stored : Bool) (handled : websocketMessage attachment message = .replied reply) :
      SocketStep ⟨viewer, .hub attachment waiting⟩ (.message message stored)
        ⟨viewer, .hub attachment waiting⟩
  | storing {viewer : Option String} {attachment copy : SocketSubscriptionState}
      {waiting : List WaitingHandler} {message : IncomingMessage}
      (stored : Bool) (handled : websocketMessage attachment message = .storing copy) :
      SocketStep ⟨viewer, .hub attachment waiting⟩ (.message message stored)
        ⟨viewer, .hub (if stored then copy else attachment) waiting⟩
  | waits {viewer : Option String} {attachment copy : SocketSubscriptionState}
      {waiting : List WaitingHandler} {message : IncomingMessage}
      {subscription : StreamSubscription} {channelHub sessionHub : String}
      (handled : websocketMessage attachment message
        = .registering subscription channelHub sessionHub copy) :
      SocketStep ⟨viewer, .hub attachment waiting⟩ (.waits message)
        ⟨viewer, .hub attachment (waiting ++ [⟨subscription, copy⟩])⟩
  | answered {viewer : Option String} {attachment : SocketSubscriptionState}
      {earlier later : List WaitingHandler} {handler : WaitingHandler} (stored : Bool) :
      SocketStep ⟨viewer, .hub attachment (earlier ++ handler :: later)⟩
        (.answered handler stored)
        ⟨viewer, .hub (if stored then handler.copy else attachment) (earlier ++ later)⟩
  | polled {viewer : Option String} {subscriptions : PollSubscriptions}
      (message : IncomingMessage) (stored : Bool) :
      SocketStep ⟨viewer, .worker subscriptions⟩ (.message message stored)
        ⟨viewer, .worker
          ((handleStreamingWebsocketClientMessage viewer message).apply subscriptions)⟩

/-! ## What a socket receives -/

/-- A socket receives the events of a stream: the hub sends it an event that one of its
subscriptions matches, the Worker polls the stream of each subscription. -/
def StreamingSocket.Receives (socket : StreamingSocket) (stream : String) : Prop :=
  match socket.serving with
  | .hub attachment _ => ∃ tag list, attachment.matchesEvent stream tag list = true
  | .worker subscriptions =>
    ∃ subscription ∈ subscriptions.rows, subscription.streamName = stream

/-- **What is claimed of a socket**: it receives a channel only if its credential covers
it. -/
def OnlyCovered (credential : Credential) (socket : StreamingSocket) : Prop :=
  ∀ stream, streamingChannelSupportsLiveEvents stream = true → socket.Receives stream →
    credential.covers stream = true

/-- A stream of a subscription is no channel, or is covered. -/
def Credential.Allows (credential : Credential) (stream : String) : Prop :=
  streamingChannelSupportsLiveEvents stream = true → credential.covers stream = true

section Receiving

variable {credential : Credential} {viewer : Option String}
  {attachment : SocketSubscriptionState} {waiting : List WaitingHandler}
  {subscriptions : PollSubscriptions} {stream : String}

theorem receives_hub_iff :
    StreamingSocket.Receives ⟨viewer, .hub attachment waiting⟩ stream
      ↔ ∃ sub ∈ attachment.subscriptions, sub.stream = stream := by
  simp only [StreamingSocket.Receives, SocketSubscriptionState.matchesEvent, List.any_eq_true]
  constructor
  · rintro ⟨tag, list, sub, held, hit⟩
    exact ⟨sub, held, StreamSubscription.stream_of_matchesEvent hit⟩
  · rintro ⟨sub, held, rfl⟩
    exact ⟨sub.tag, sub.list, sub, held, sub.matchesEvent_self⟩

theorem onlyCovered_hub_iff : OnlyCovered credential ⟨viewer, .hub attachment waiting⟩
    ↔ ∀ sub ∈ attachment.subscriptions, credential.Allows sub.stream := by
  simp only [OnlyCovered, receives_hub_iff]
  constructor
  · intro only sub held supports
    exact only _ supports ⟨sub, held, rfl⟩
  · rintro may stream supports ⟨sub, held, rfl⟩
    exact may sub held supports

theorem onlyCovered_worker_iff : OnlyCovered credential ⟨viewer, .worker subscriptions⟩
    ↔ ∀ sub ∈ subscriptions.rows, credential.Allows sub.streamName := by
  simp only [OnlyCovered, StreamingSocket.Receives]
  constructor
  · intro only sub held supports
    exact only _ supports ⟨sub, held, rfl⟩
  · rintro may stream supports ⟨sub, held, rfl⟩
    exact may sub held supports

end Receiving

/-! ## What an event subscribes to -/

/-- The stream an event subscribes a socket to, if any: a subscribe message handled at
once and stored, with the stream as the client names it at the hub and checked at the
Worker, or a stored handler that had waited. -/
def SocketEvent.subscribesTo (socket : StreamingSocket) : SocketEvent → Option String
  | .message (.text client) stored =>
    if client.messageType = "subscribe" then
      match socket.serving with
      | .hub _ _ =>
        if stored then client.subscription.map StreamSubscription.stream else none
      | .worker _ =>
        if socket.viewer.isSome then
          (validateStreamingChannelRequest client.stream client.tag client.list none).toOption
        else none
    else none
  | .message _ _ => none
  | .waits _ => none
  | .answered handler stored => if stored then some handler.subscription.stream else none

def SubscribesCovered (credential : Credential) (before : StreamingSocket)
    (event : SocketEvent) : Prop :=
  ∀ stream ∈ event.subscribesTo before, credential.Allows stream

/-- A socket kept to the covered channels so far: no handler waits with another
subscription than its own to any other channel, and the Worker polls checked names. -/
structure Kept (credential : Credential) (socket : StreamingSocket) : Prop where
  covered : OnlyCovered credential socket
  waiting : ∀ attachment handlers, socket.serving = .hub attachment handlers →
    ∀ handler ∈ handlers, ∃ earlier : SocketSubscriptionState,
      handler.copy = earlier.subscribed handler.subscription
        ∧ ∀ subscription ∈ earlier.subscriptions, credential.Allows subscription.stream
  named : ∀ subscriptions, socket.serving = .worker subscriptions →
    ∀ subscription ∈ subscriptions.rows,
      streamingChannelSupportsLiveEvents subscription.streamName = true

variable {subscriptions : PollSubscriptions} {msg : IncomingMessage}
  {attachment : SocketSubscriptionState} {client : ClientMessage} {sub : PollSubscription}
  {stream : String} {held : Bool}

section Steps

variable {credential : Credential}

theorem allows_subscribed_iff
    {sub : StreamSubscription}
    (may : ∀ held ∈ attachment.subscriptions, credential.Allows held.stream) :
    (∀ held ∈ (attachment.subscribed sub).subscriptions, credential.Allows held.stream)
      ↔ credential.Allows sub.stream := by
  constructor
  · intro all
    exact all sub (mem_subscribed.mpr (Or.inr rfl))
  · rintro added held mem
    rcases mem_subscribed.mp mem with prior | rfl
    · exact may held prior
    · exact added

theorem subscribesTo_of_not_storing {viewer : Option String}
    {waiting : List WaitingHandler}
    {reply : ErrorMessage}
    (did : websocketMessage attachment msg = .replied reply) :
    (SocketEvent.message msg held).subscribesTo ⟨viewer, .hub attachment waiting⟩ = none := by
  cases msg with
  | binary | malformed error => rfl
  | text client =>
    simp only [SocketEvent.subscribesTo]
    split_ifs with subscribes isStored
    · cases named : client.subscription with
      | none => rfl
      | some sub =>
        simp only [websocketMessage, named, subscribes, true_or, if_true] at did
        unfold subscribe at did
        split at did
        · cases did
        · split at did <;> cases did
    · rfl
    · rfl

theorem subscribing_iff {viewer : Option String}
    :
    handleStreamingWebsocketClientMessage viewer (.text client) = .subscribing sub
      ↔ client.messageType = "subscribe" ∧ viewer.isSome
        ∧ validateStreamingChannelRequest client.stream client.tag client.list none
          = .ok sub.streamName
        ∧ sub.tag = client.tag ∧ sub.list = client.list := by
  obtain ⟨streamName, tag, list⟩ := sub
  simp only [handleStreamingWebsocketClientMessage]
  by_cases subscribes : client.messageType = "subscribe"
  · cases checked : validateStreamingChannelRequest client.stream client.tag client.list none with
    | error error => simp [subscribes]
    | ok name =>
      have requires : streamingChannelRequiresAuth name = true :=
        supports_of_channelRequest checked
      cases viewer with
      | none => simp [subscribes, requires]
      | some account => simp [subscribes, eq_comm]
  · simp only [subscribes, false_or, if_false, false_and, iff_false]
    split_ifs
    · split
      · simp
      · split_ifs <;> simp
    · simp

theorem subscribing_of_subscribesTo {viewer : Option String}
    (target : (SocketEvent.message (.text client) held).subscribesTo
      ⟨viewer, .worker subscriptions⟩ = some stream) :
    handleStreamingWebsocketClientMessage viewer (.text client)
      = .subscribing ⟨stream, client.tag, client.list⟩ := by
  simp only [SocketEvent.subscribesTo] at target
  split_ifs at target with subscribes here
  cases checked : validateStreamingChannelRequest client.stream client.tag client.list none with
  | error error =>
    rw [checked] at target
    cases target
  | ok name =>
    rw [checked] at target
    cases target
    exact subscribing_iff.mpr ⟨subscribes, here, checked, rfl, rfl⟩

theorem streamName_eq_of_key_eq {first second : PollSubscription}
    (supportsFirst : streamingChannelSupportsLiveEvents first.streamName = true)
    (supportsSecond : streamingChannelSupportsLiveEvents second.streamName = true)
    (eq : first.key = second.key) : first.streamName = second.streamName := by
  have nameOfKey : ∀ sub : PollSubscription,
      streamingChannelSupportsLiveEvents sub.streamName = true →
      splitFirst sub.key (Char.ofNat 0x1f) = sub.streamName :=
    fun sub supports => splitFirst_append (separator_notMem_of_supports supports)
  rw [← nameOfKey first supportsFirst, eq, nameOfKey second supportsSecond]

theorem allows_added_iff
    (may : ∀ held ∈ subscriptions.rows, credential.Allows held.streamName)
    (named : ∀ held ∈ subscriptions.rows, streamingChannelSupportsLiveEvents held.streamName = true)
    (supports : streamingChannelSupportsLiveEvents sub.streamName = true) :
    (∀ held ∈ (addStreamingWebsocketSubscription sub subscriptions).rows,
        credential.Allows held.streamName)
      ↔ credential.Allows sub.streamName := by
  obtain ⟨eq, used | conflict⟩ | ⟨fresh, appended, _⟩ :=
    Table.orIgnore_cases (fun _ _ => false) sub subscriptions
  · rw [addStreamingWebsocketSubscription, Table.insert, eq]
    obtain ⟨held, mem, sameKey⟩ := List.mem_map.mp used
    have sameName := streamName_eq_of_key_eq (named held mem) supports sameKey
    constructor
    · intro all
      exact sameName ▸ all held mem
    · exact fun _ => may
  · simp [Table.exists?] at conflict
  · rw [addStreamingWebsocketSubscription, Table.insert, appended]
    simp only [Table.append, List.mem_append, List.mem_singleton]
    constructor
    · intro all
      exact all sub (Or.inr rfl)
    · rintro added held (prior | rfl)
      · exact may held prior
      · exact added

theorem named_after {viewer : Option String}
    (named : ∀ held ∈ subscriptions.rows,
      streamingChannelSupportsLiveEvents held.streamName = true) :
    ∀ held ∈ ((handleStreamingWebsocketClientMessage viewer msg).apply subscriptions).rows,
      streamingChannelSupportsLiveEvents held.streamName = true := by
  intro held mem
  cases did : handleStreamingWebsocketClientMessage viewer msg with
  | replied reply =>
    rw [did] at mem
    exact named held mem
  | unsubscribing streamName tag list =>
    rw [did] at mem
    exact named held (List.mem_of_mem_filter mem)
  | subscribing sub =>
    rw [did] at mem
    have supports : streamingChannelSupportsLiveEvents sub.streamName = true := by
      cases msg with
      | binary | malformed error => cases did
      | text client =>
        obtain ⟨_, _, checked, _, _⟩ := subscribing_iff.mp did
        exact supports_of_channelRequest checked
    have got := Table.find_of_mem mem
    rw [WorkerHandling.apply, addStreamingWebsocketSubscription, Table.find_insert] at got
    cases prior : subscriptions.find held.key with
    | some row =>
      rw [prior, Option.some_or] at got
      cases got
      exact named held (Table.mem_of_find prior)
    | none =>
      rw [prior, Option.none_or] at got
      split_ifs at got
      cases got
      exact supports

/-- **A step of the Worker** keeps a socket to the covered channels exactly when it
subscribes to no other. -/
theorem onlyCovered_polled_iff {viewer : Option String}
    {stored : Bool}
    (kept : Kept credential ⟨viewer, .worker subscriptions⟩) :
    OnlyCovered credential ⟨viewer, .worker
        ((handleStreamingWebsocketClientMessage viewer msg).apply subscriptions)⟩
      ↔ SubscribesCovered credential ⟨viewer, .worker subscriptions⟩ (.message msg stored) := by
  have may := onlyCovered_worker_iff.mp kept.covered
  have named := kept.named subscriptions rfl
  rw [onlyCovered_worker_iff]
  cases msg with
  | binary | malformed error => exact iff_of_true may nofun
  | text client =>
    cases did : handleStreamingWebsocketClientMessage viewer (.text client) with
    | subscribing sub =>
      obtain ⟨subscribes, here, checked, _, _⟩ := subscribing_iff.mp did
      have target : (SocketEvent.message (.text client) stored).subscribesTo
          ⟨viewer, .worker subscriptions⟩ = some sub.streamName := by
        simp only [SocketEvent.subscribesTo, subscribes, here, checked, if_true]
        rfl
      rw [SubscribesCovered, target, WorkerHandling.apply,
        allows_added_iff may named (supports_of_channelRequest checked)]
      simp
    | replied reply =>
      apply iff_of_true may
      intro stream target
      exact nomatch did.symm.trans (subscribing_of_subscribesTo target)
    | unsubscribing streamName tag list =>
      apply iff_of_true
      · intro held mem
        exact may held (List.mem_of_mem_filter mem)
      · intro stream target
        exact nomatch did.symm.trans (subscribing_of_subscribesTo target)

/-- **One step** keeps a socket to the covered channels exactly when it stores no
subscription to another. -/
theorem onlyCovered_after_iff {pre post : StreamingSocket} {event : SocketEvent}
    (kept : Kept credential pre) (taken : SocketStep pre event post) :
    OnlyCovered credential post ↔ SubscribesCovered credential pre event := by
  cases taken with
  | replied stored did =>
    apply iff_of_true kept.covered
    intro stream target
    exact nomatch (subscribesTo_of_not_storing did).symm.trans target
  | @storing viewer attachment copy waiting msg stored did =>
    have may := onlyCovered_hub_iff.mp kept.covered
    obtain ⟨client, sub, rfl, named, ⟨subscribes, rfl, _⟩ | ⟨unsubscribes, rfl⟩⟩ :=
      storing_cases did
    · cases stored with
      | false =>
        apply iff_of_true kept.covered
        intro stream target
        simp [SocketEvent.subscribesTo, subscribes] at target
      | true =>
        have target : (SocketEvent.message (.text client) true).subscribesTo
            ⟨viewer, .hub attachment waiting⟩ = some sub.stream := by
          simp [SocketEvent.subscribesTo, subscribes, named]
        rw [if_pos rfl, onlyCovered_hub_iff, allows_subscribed_iff may,
          SubscribesCovered, target]
        simp
    · apply iff_of_true
      · rw [onlyCovered_hub_iff]
        cases stored with
        | false => exact may
        | true =>
          intro held mem
          exact may held (mem_unsubscribed.mp mem).1
      · intro stream target
        simp [SocketEvent.subscribesTo, unsubscribes] at target
  | waits did =>
    apply iff_of_true
    · exact onlyCovered_hub_iff.mpr (onlyCovered_hub_iff.mp kept.covered)
    · intro stream target
      cases target
  | @answered viewer attachment prior later handler stored =>
    have may := onlyCovered_hub_iff.mp kept.covered
    rw [onlyCovered_hub_iff]
    cases stored with
    | false =>
      apply iff_of_true may
      intro stream target
      cases target
    | true =>
      obtain ⟨held, copied, earlierAllowed⟩ :=
        kept.waiting attachment _ rfl handler (by simp)
      rw [if_pos rfl, copied, allows_subscribed_iff earlierAllowed, SubscribesCovered]
      simp [SocketEvent.subscribesTo]
  | polled msg stored => exact onlyCovered_polled_iff kept

theorem kept_after {pre after : StreamingSocket} {ev : SocketEvent}
    (kept : Kept credential pre) (taken : SocketStep pre ev after)
    (covered : OnlyCovered credential after) : Kept credential after := by
  cases taken with
  | replied held did => exact kept
  | storing held did =>
    refine ⟨covered, ?_, nofun⟩
    rintro _ _ ⟨⟩ handler mem
    exact kept.waiting _ _ rfl handler mem
  | @waits viewer attachment copy waiting msg sub channelHub sessionHub did =>
    refine ⟨covered, ?_, nofun⟩
    rintro _ _ ⟨⟩ handler mem
    rcases List.mem_append.mp mem with prior | new
    · exact kept.waiting _ _ rfl handler prior
    · rw [List.mem_singleton] at new
      obtain ⟨_, _, _, _, _, _, copied⟩ := registering_cases did
      subst new
      exact ⟨attachment, copied, onlyCovered_hub_iff.mp kept.covered⟩
  | answered held =>
    refine ⟨covered, ?_, nofun⟩
    rintro _ _ ⟨⟩ handler mem
    exact kept.waiting _ _ rfl handler (mem_of_mem_taken_out mem)
  | polled msg held =>
    refine ⟨covered, nofun, ?_⟩
    rintro _ ⟨⟩
    exact named_after (kept.named _ rfl)

end Steps

/-! ## From the request on -/

/-- The stream the hub takes from the query of the client: only when the Worker reads
none there does it set no header. -/
def queryStreamAtHub (request : StreamingRequest) (answers : StreamingAnswers) : Option String :=
  match request.initialStream with
  | .ok none => if answers.hubReachable then (readConnectQuery request.query).stream else none
  | _ => none

/-- The hub takes no other channel than a covered one from the query of the client. -/
def UpgradeCovered (request : StreamingRequest) (answers : StreamingAnswers) : Prop :=
  ∀ stream ∈ queryStreamAtHub request answers, (request.credential answers).Allows stream

theorem upgradeCovered_of_readable {request : StreamingRequest} {answers : StreamingAnswers}
    (once : readable ["access_token"] request.query = true) : UpgradeCovered request answers := by
  intro stream taken
  unfold queryStreamAtHub at taken
  split at taken
  · rename_i unnamed
    rw [readConnectQuery_stream once (query_of_initialStream_none unnamed), ite_self] at taken
    cases taken
  · cases taken

section Opening

variable {request : StreamingRequest} {answers : StreamingAnswers} {socket : StreamingSocket}

theorem streamName_of_initial {first : String} {tag list : Option String}
    {held : PollSubscription}
    (mem : held ∈ (initialPollSubscriptions (some first) tag list).rows) :
    held.streamName = first := by
  have got := Table.find_of_mem mem
  rw [initialPollSubscriptions, addStreamingWebsocketSubscription, Table.find_insert] at got
  simp only [Table.find, Table.empty, List.find?_nil, Option.none_or] at got
  split_ifs at got
  cases got
  rfl

/-- What a new socket is subscribed to: the first channel of the request, or what the
hub takes from the query. -/
theorem opened_cases (opened : streamingPlaceholderResponse request answers = .socket socket) :
    (∃ attachment, socket.serving = .hub attachment []
        ∧ ∀ stream, (∃ held ∈ attachment.subscriptions, held.stream = stream)
          ↔ queryStreamAtHub request answers = some stream
            ∨ request.initialStream = .ok (some stream))
      ∨ (∃ subscriptions, socket.serving = .worker subscriptions
        ∧ queryStreamAtHub request answers = none
        ∧ ∀ held ∈ subscriptions.rows, request.initialStream = .ok (some held.streamName)) := by
  obtain ⟨initialStream, viewer, named, checked, rfl⟩ :=
    socket_of_placeholder opened
  simp only [streamingWebsocketUpgradeResponse, queryStreamAtHub, named]
  cases initialStream with
  | none =>
    rw [streamHubWebsocketUpgradePlan, Option.map_some]
    cases answers.hubReachable with
    | false =>
      refine Or.inr ⟨_, rfl, rfl, ?_⟩
      intro held mem
      cases mem
    | true =>
      refine Or.inl ⟨_, rfl, ?_⟩
      intro stream
      have params : (streamHubConnectParams
          ⟨streamHubSessionIdName viewer, none, none, none, some viewer⟩
          request.query).stream = (readConnectQuery request.query).stream := rfl
      rw [upgradeAttachment, params]
      cases (readConnectQuery request.query).stream <;> simp [StreamSubscription.new]
  | some first =>
    obtain ⟨supports, _⟩ := checked first rfl
    cases planned : streamHubWebsocketUpgradePlan (some first) (some viewer)
        (readStreamingQuery request.query).tag (readStreamingQuery request.query).list with
    | none =>
      refine Or.inr ⟨_, rfl, rfl, ?_⟩
      intro held mem
      rw [streamName_of_initial mem]
    | some plan =>
      have planStream : plan.stream = some first := by
        rw [streamHubWebsocketUpgradePlan, Option.map_eq_some_iff] at planned
        obtain ⟨target, _, rfl⟩ := planned
        rfl
      cases answers.hubReachable with
      | false =>
        refine Or.inr ⟨_, rfl, rfl, ?_⟩
        intro held mem
        rw [streamName_of_initial mem]
      | true =>
        refine Or.inl ⟨_, rfl, ?_⟩
        intro stream
        rw [upgradeAttachment, streamHubConnectParams, planStream,
          nonblank_of_supports supports]
        simp [StreamSubscription.new]

theorem allows_first (opened : streamingPlaceholderResponse request answers = .socket socket)
    (named : request.initialStream = .ok (some stream)) :
    (request.credential answers).Allows stream := by
  obtain ⟨initialStream, viewer, isNamed, checked, _⟩ :=
    socket_of_placeholder opened
  rw [named] at isNamed
  cases isNamed
  exact fun _ => (checked stream rfl).2

/-- **A new socket** is kept to the covered channels exactly when the hub takes no other
from the query. -/
theorem onlyCovered_opened_iff
    (opened : streamingPlaceholderResponse request answers = .socket socket) :
    OnlyCovered (request.credential answers) socket ↔ UpgradeCovered request answers := by
  obtain ⟨viewer, serving⟩ := socket
  obtain ⟨attachment, rfl, subscribed⟩ | ⟨subscriptions, rfl, untaken, subscribed⟩ :=
    opened_cases opened
  · rw [onlyCovered_hub_iff]
    constructor
    · intro may stream taken
      obtain ⟨held, mem, rfl⟩ := (subscribed stream).mpr (Or.inl taken)
      exact may held mem
    · intro covered held mem
      rcases (subscribed held.stream).mp ⟨held, mem, rfl⟩ with taken | named
      · exact covered _ taken
      · exact allows_first opened named
  · rw [onlyCovered_worker_iff]
    apply iff_of_true
    · intro held mem
      exact allows_first opened (subscribed held mem)
    · intro stream taken
      rw [untaken] at taken
      cases taken

theorem kept_opened (opened : streamingPlaceholderResponse request answers = .socket socket)
    (covered : OnlyCovered (request.credential answers) socket) :
    Kept (request.credential answers) socket := by
  obtain ⟨viewer, serving⟩ := socket
  obtain ⟨attachment, rfl, _⟩ | ⟨subscriptions, rfl, _, subscribed⟩ := opened_cases opened
  · refine ⟨covered, ?_, nofun⟩
    rintro _ _ ⟨⟩ handler mem
    cases mem
  · refine ⟨covered, nofun, ?_⟩
    rintro _ ⟨⟩ held mem
    exact supports_of_initialStream (subscribed held mem)

variable {trace : List (Transition StreamingSocket SocketEvent)} {finish : StreamingSocket}

/-- **A websocket receives only the channels its credential covers, at its opening and
after every message, exactly when every subscription it is given is to one of them**: the
one the hub takes from the query, and each that a message or a waiting handler stores. -/
theorem receives_only_covered_channels
    (opened : streamingPlaceholderResponse request answers = .socket socket)
    (run : Run SocketStep socket trace finish) :
    (OnlyCovered (request.credential answers) socket
        ∧ Throughout (fun _ _ after => OnlyCovered (request.credential answers) after) trace)
      ↔ UpgradeCovered request answers
        ∧ Along (SubscribesCovered (request.credential answers)) trace := by
  rw [onlyCovered_opened_iff opened]
  apply and_congr_right
  intro covered
  have kept := kept_opened opened ((onlyCovered_opened_iff opened).mpr covered)
  exact (run.throughout_iff_along_from_good kept onlyCovered_after_iff kept_after).1

end Opening

/-! ## A token for statuses -/

/-- A token with `read:statuses` alone. -/
def statusesToken : StreamingAnswers where
  authentication := some (.oauthToken "acct-1" (OAuth.scopesToJson ["read:statuses"]))
  findToken := fun _ => some none
  hubReachable := true

/-- A websocket for the public channel. -/
def publicRequest : StreamingRequest where
  query := [("stream", "public")]
  extraPath := none
  upgrade := some "websocket"
  secWebSocketProtocol := none

def socketOf (streams : List String) : StreamingSocket where
  viewer := some "acct-1"
  serving := .hub ⟨streams.map fun stream => ⟨stream, none, none⟩, some "user:acct-1"⟩ []

def subscribeMessage (stream : String) : IncomingMessage :=
  .text ⟨"subscribe", some stream, none, none⟩

def subscribing (held : List String) (stream : String) : Transition StreamingSocket SocketEvent where
  before := socketOf held
  event := .message (subscribeMessage stream) true
  after := socketOf (held ++ [stream])

theorem publicRequest_opens :
    streamingPlaceholderResponse publicRequest statusesToken = .socket (socketOf ["public"]) := by
  rfl

/-- With a subscription to the home channel, which the token covers. -/
theorem receives_only_covered_channels_user :
    OnlyCovered (publicRequest.credential statusesToken) (socketOf ["public"])
      ∧ Throughout (fun _ _ after => OnlyCovered (publicRequest.credential statusesToken) after)
        [subscribing ["public"] "user"] := by
  have run : Run SocketStep (socketOf ["public"]) [subscribing ["public"] "user"]
      (socketOf ["public", "user"]) := .snoc .start (.storing true rfl)
  apply (receives_only_covered_channels publicRequest_opens run).mpr
  refine ⟨upgradeCovered_of_readable rfl, ?_⟩
  intro move mem stream target
  obtain rfl := List.mem_singleton.mp mem
  obtain rfl : "user" = stream := Option.some.inj target
  exact fun _ => rfl

/-- **The claim fails**: after a subscribe message the socket of a token for statuses
receives notifications. -/
theorem notifications_without_their_scope :
    ∃ trace finish, streamingPlaceholderResponse publicRequest statusesToken
        = .socket (socketOf ["public"])
      ∧ Run SocketStep (socketOf ["public"]) trace finish
      ∧ finish.Receives "user:notification"
      ∧ (publicRequest.credential statusesToken).covers "user:notification" = false := by
  have run : Run SocketStep (socketOf ["public"]) [subscribing ["public"] "user:notification"]
      (socketOf ["public", "user:notification"]) := .snoc .start (.storing true rfl)
  exact ⟨_, _, publicRequest_opens, run, ⟨none, none, rfl⟩, rfl⟩

end Cfwdon.Streaming
