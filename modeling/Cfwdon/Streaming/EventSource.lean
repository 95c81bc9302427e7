import Cfwdon.Streaming.Fanout
import Cfwdon.Streaming.HandedEvents

/-!
# A client served by a hub and by polls

A client of the event stream gets what the hub of its channel passes on, and every so
often what a poll finds.  Both go through one set of emitted keys: an event is sent once
for its name and the id in its document.  Two events of the hub have no document and are
always sent.

The JSON reader is a parameter.  The runs start after the first poll and end when the
stream is recycled.
-/

namespace Cfwdon.Streaming

open Library

def streamHubStreamLabels (stream : String) (tag list : Option String) : List String :=
  [stream] ++ (if startsWith stream "hashtag" then tag.toList else [])
    ++ (if stream = "list" then list.toList else [])

/-- The events of a hub that have no document. -/
def documentless : List String := ["filters_changed", "notifications_merged"]

/-- `stream_hub_fanout_message`, before it is serialized. -/
def streamHubFanoutMessage (event : StreamHubEvent) : Json :=
  .object ([("stream", .array ((streamHubStreamLabels event.stream event.tag event.list).map
      Json.string)), ("event", .string event.event)]
    ++ if event.event ∈ documentless then [] else [("payload", .string event.payload)])

/-- The id and the time. -/
def streamingEventIdentityFromPayload (parse : String → Option Json) (eventName data : String) :
    String × String :=
  match parse data with
  | some value =>
    ((((value.get "id").bind fun id => id.asStr.or (id.asI64.map toString)).getD
      (eventName ++ ":" ++ data)),
      ((value.get "created_at").bind Json.asStr).getD "1970-01-01T00:00:00Z")
  | none => (eventName ++ ":" ++ String.ofList (data.toList.take 64), "1970-01-01T00:00:00Z")

/-- The emitted keys, and the event that is sent. The text is given as what the JSON reader
makes of it. -/
def streamHubWebsocketTextToSseBytes (parse : String → Option Json) (text : Option Json)
    (emitted : Finset String) : Finset String × Option StreamingEvent :=
  match text with
  | none => (emitted, none)
  | some value =>
    if (value.get "error").isSome then (emitted, none)
    else
      let eventName := ((value.get "event").bind Json.asStr).getD ""
      if eventName = "" then (emitted, none)
      else if eventName = "filters_changed" then
        (emitted, some ⟨"", "", eventName, "undefined"⟩)
      else if eventName = "notifications_merged" then (emitted, some ⟨"", "", eventName, ""⟩)
      else
        let data := ((value.get "payload").bind Json.asStr).getD ""
        let identity := streamingEventIdentityFromPayload parse eventName data
        if eventName ++ ":" ++ identity.1 ∈ emitted then (emitted, none)
        else (insert (eventName ++ ":" ++ identity.1) emitted,
          some ⟨identity.2, identity.1, eventName, data⟩)

def hubEventNames : List String :=
  ["update", "status.update", "delete", "notification", "filters_changed",
    "notifications_merged", "announcement", "announcement.reaction"]

/-- An event published to a hub comes to a client: the client is subscribed to it, and it
is published to the hub of the client or to the hub that forwards to that one. -/
def PolledStream.Gets (polled : PolledStream) (event : StreamHubEvent) : Prop :=
  (StreamSubscription.new polled.stream polled.tag polled.list).matchesEvent event.stream
      event.tag event.list = true
    ∧ ∃ target ∈ streamHubProxyTarget polled.stream polled.viewer polled.tag polled.list,
      event.hub = target.1
        ∨ openChannelHub (.new polled.stream polled.tag polled.list) target.1 = some event.hub

/-! ## The stream of a client -/

/-- The stream of a client, with the events that it got. -/
structure EventSource where
  loop : PollLoop
  ended : Bool
  received : List StreamingEvent

namespace EventSource

def relay (parse : String → Option Json) (event : StreamHubEvent) (s : EventSource) :
    EventSource :=
  let outcome := streamHubWebsocketTextToSseBytes parse (some (streamHubFanoutMessage event))
    s.loop.state.emittedEventIds
  { s with
    loop := { s.loop with state := { s.loop.state with emittedEventIds := outcome.1 } }
    received := s.received ++ outcome.2.toList }

/-- The events a round hands out. -/
def told : StreamingPollYield → List StreamingEvent
  | .events events => events
  | .pollFailed => []
  | .recycle => []

def round (polled : PolledStream) (answers : PollAnswers) (queriesBefore queriesAfter : Nat)
    (s : EventSource) : EventSource :=
  let yielded := yieldStreamingPollRound polled answers queriesBefore queriesAfter s.loop
  { loop := yielded.1
    ended := yielded.2 == .recycle
    received := s.received ++ told yielded.2 }

end EventSource

/-- What happens to the stream of a client. -/
inductive EventSourceEvent where
  | relayed (event : StreamHubEvent)
  | polled (answers : PollAnswers) (queriesBefore queriesAfter : Nat)

inductive EventSourceStep (parse : String → Option Json) (polled : PolledStream) :
    EventSource → EventSourceEvent → EventSource → Prop where
  | relayed {s : EventSource} {event : StreamHubEvent} (running : s.ended = false)
      (known : event.event ∈ hubEventNames) (gets : polled.Gets event) :
      EventSourceStep parse polled s (.relayed event) (s.relay parse event)
  | polled {s : EventSource} (answers : PollAnswers) (queriesBefore queriesAfter : Nat)
      (running : s.ended = false) :
      EventSourceStep parse polled s (.polled answers queriesBefore queriesAfter)
        (s.round polled answers queriesBefore queriesAfter)

/-! ## What a message of the hub sends -/

/-- The event that a message with a document sends. -/
def sentEvent (parse : String → Option Json) (event : StreamHubEvent) : StreamingEvent where
  createdAt := (streamingEventIdentityFromPayload parse event.event event.payload).2
  id := (streamingEventIdentityFromPayload parse event.event event.payload).1
  event := event.event
  data := event.payload

section Messages

variable {parse : String → Option Json} {event : StreamHubEvent} {emitted : Finset String}

theorem get_error_fanout : (streamHubFanoutMessage event).get "error" = none := by
  unfold streamHubFanoutMessage
  split_ifs <;> rfl

theorem get_event_fanout :
    (streamHubFanoutMessage event).get "event" = some (.string event.event) := by
  unfold streamHubFanoutMessage
  split_ifs <;> rfl

theorem get_payload_fanout (doc : event.event ∉ documentless) :
    (streamHubFanoutMessage event).get "payload" = some (.string event.payload) := by
  unfold streamHubFanoutMessage
  rw [if_neg doc]
  rfl

/-- **A message with a document** is sent unless its key was emitted. -/
theorem fanout_sent (known : event.event ∈ hubEventNames)
    (doc : event.event ∉ documentless) :
    streamHubWebsocketTextToSseBytes parse (some (streamHubFanoutMessage event)) emitted
      = if streamingEventKey (sentEvent parse event) ∈ emitted then (emitted, none)
        else (insert (streamingEventKey (sentEvent parse event)) emitted,
          some (sentEvent parse event)) := by
  have named : event.event ≠ "" := by
    intro blank
    rw [blank] at known
    revert known
    decide
  have documented : event.event ≠ "filters_changed" ∧ event.event ≠ "notifications_merged" := by
    simpa [documentless] using doc
  simp only [streamHubWebsocketTextToSseBytes, get_error_fanout, get_event_fanout,
    get_payload_fanout doc, Option.isSome_none, Option.bind_some, Json.asStr,
    Option.getD_some, Bool.false_eq_true, if_false, if_neg named, if_neg documented.1,
    if_neg documented.2]
  rfl

theorem fanout_documentless (without : event.event ∈ documentless) :
    (streamHubWebsocketTextToSseBytes parse (some (streamHubFanoutMessage event)) emitted).1
        = emitted
      ∧ ∃ data, (streamHubWebsocketTextToSseBytes parse (some (streamHubFanoutMessage event))
        emitted).2 = some ⟨"", "", event.event, data⟩ := by
  simp only [streamHubWebsocketTextToSseBytes, get_error_fanout, get_event_fanout,
    Option.isSome_none, Option.bind_some, Json.asStr, Option.getD_some, Bool.false_eq_true,
    if_false]
  rcases List.mem_cons.mp without with filters | merged
  · rw [filters]
    exact ⟨rfl, _, rfl⟩
  · rw [List.mem_singleton.mp merged]
    exact ⟨rfl, _, rfl⟩

end Messages

/-! ## What has been sent -/

def keyed (event : StreamingEvent) : Bool := decide (event.event ∉ documentless)

/-- **What holds of a stream that is served**: no key is sent twice, what is sent under a
key is emitted and was not at the start, and an emitted key is one of the start or was
sent, until the stream ends. -/
structure Served (old : Finset String) (s : EventSource) : Prop where
  initialized : s.loop.state.initialized = true
  named : ∀ event ∈ s.received, ':' ∉ event.event.toList
  distinct : ((s.received.filter keyed).map streamingEventKey).Nodup
  emitted : ∀ event ∈ s.received, keyed event = true →
    streamingEventKey event ∈ s.loop.state.emittedEventIds ∧ streamingEventKey event ∉ old
  kept : old ⊆ s.loop.state.emittedEventIds
  accounted : s.ended = false → ∀ key ∈ s.loop.state.emittedEventIds,
    key ∈ old ∨ key ∈ s.received.map streamingEventKey

/-- What is sent under a key is new and is emitted, each key once. -/
structure Emits (before after : Finset String) (told : List StreamingEvent) : Prop where
  named : ∀ event ∈ told, ':' ∉ event.event.toList
  distinct : ((told.filter keyed).map streamingEventKey).Nodup
  new : ∀ event ∈ told, keyed event = true →
    streamingEventKey event ∉ before ∧ streamingEventKey event ∈ after
  kept : before ⊆ after

theorem Emits.nothing {before after : Finset String} (kept : before ⊆ after) :
    Emits before after [] :=
  ⟨fun _ mem => absurd mem List.not_mem_nil, List.nodup_nil,
    fun _ mem => absurd mem List.not_mem_nil, kept⟩

variable {sent : StreamingEvent} {key : String} {queriesAfter : Nat} {yielded : StreamingPollYield}
  {told : List StreamingEvent} {loop : PollLoop}

section Serving

variable {parse : String → Option Json} {polled : PolledStream} {old : Finset String}
  {before after : EventSource} {event : EventSourceEvent}

theorem Served.append (served : Served old before) (runs : before.ended = false)
    (received : after.received = before.received ++ told)
    (initialized : after.loop.state.initialized = true)
    (emits : Emits before.loop.state.emittedEventIds after.loop.state.emittedEventIds told)
    (accounted : after.ended = false → ∀ key ∈ after.loop.state.emittedEventIds,
      key ∈ before.loop.state.emittedEventIds ∨ key ∈ told.map streamingEventKey) :
    Served old after := by
  refine ⟨initialized, ?_, ?_, ?_, fun key mem => emits.kept (served.kept mem), ?_⟩
  · intro sent mem
    rw [received] at mem
    rcases List.mem_append.mp mem with prior | later
    · exact served.named sent prior
    · exact emits.named sent later
  · rw [received, List.filter_append, List.map_append, List.nodup_append]
    refine ⟨served.distinct, emits.distinct, ?_⟩
    rintro key prior other later rfl
    obtain ⟨first, firstSent, eq⟩ := List.mem_map.mp prior
    obtain ⟨second, secondSent, rfl⟩ := List.mem_map.mp later
    obtain ⟨sentBefore, isKeyed⟩ := List.mem_filter.mp firstSent
    obtain ⟨sentNow, alsoKeyed⟩ := List.mem_filter.mp secondSent
    apply (emits.new second sentNow alsoKeyed).1
    rw [← eq]
    exact (served.emitted first sentBefore isKeyed).1
  · intro sent mem isKeyed
    rw [received] at mem
    rcases List.mem_append.mp mem with prior | later
    · obtain ⟨known, fresh⟩ := served.emitted sent prior isKeyed
      exact ⟨emits.kept known, fresh⟩
    · obtain ⟨unknown, known⟩ := emits.new sent later isKeyed
      exact ⟨known, fun isOld => unknown (served.kept isOld)⟩
  · intro stays key mem
    rw [received, List.map_append, List.mem_append]
    rcases accounted stays key mem with prior | sent
    · rcases served.accounted runs key prior with isOld | sent
      · exact Or.inl isOld
      · exact Or.inr (Or.inl sent)
    · exact Or.inr (Or.inr sent)

variable {message : StreamHubEvent} {answers : PollAnswers} {queriesBefore : Nat}

theorem Served.relayDocumentless (served : Served old before) (runs : before.ended = false)
    (plain : ':' ∉ message.event.toList) (without : message.event ∈ documentless) :
    Served old (before.relay parse message) := by
  obtain ⟨eq, data, sent⟩ := @fanout_documentless parse message
    before.loop.state.emittedEventIds without
  have received : (before.relay parse message).received
      = before.received ++ [⟨"", "", message.event, data⟩] := by
    rw [EventSource.relay, sent]
    rfl
  have emitted : (before.relay parse message).loop.state.emittedEventIds
      = before.loop.state.emittedEventIds := eq
  have unkeyed : keyed ⟨"", "", message.event, data⟩ = false := by
    simpa [keyed] using without
  refine served.append runs received served.initialized ⟨?_, ?_, ?_, ?_⟩ ?_
  · intro event mem
    rw [List.mem_singleton.mp mem]
    exact plain
  · rw [List.filter_singleton, unkeyed]
    exact List.nodup_nil
  · intro event mem isKeyed
    rw [List.mem_singleton.mp mem, unkeyed] at isKeyed
    cases isKeyed
  · rw [emitted]
  · intro _ key mem
    rw [emitted] at mem
    exact Or.inl mem

/-- A message with a document is sent under its key, which is emitted then, if the key is
new. -/
theorem Served.relayDocument (served : Served old before) (runs : before.ended = false)
    (plain : ':' ∉ message.event.toList) (known : message.event ∈ hubEventNames)
    (doc : message.event ∉ documentless) :
    Served old (before.relay parse message) := by
  have out := @fanout_sent parse message before.loop.state.emittedEventIds known doc
  by_cases repeated : streamingEventKey (sentEvent parse message)
      ∈ before.loop.state.emittedEventIds
  · rw [if_pos repeated] at out
    have eq : before.relay parse message = before := by
      rw [EventSource.relay, out]
      simp
    rw [eq]
    exact served
  · rw [if_neg repeated] at out
    have received : (before.relay parse message).received
        = before.received ++ [sentEvent parse message] := by
      rw [EventSource.relay, out]
      rfl
    have emitted : (before.relay parse message).loop.state.emittedEventIds
        = insert (streamingEventKey (sentEvent parse message))
          before.loop.state.emittedEventIds :=
      congrArg Prod.fst out
    refine served.append runs received served.initialized ⟨?_, ?_, ?_, ?_⟩ ?_
    · intro event mem
      rw [List.mem_singleton.mp mem]
      exact plain
    · have single : ([sentEvent parse message].map streamingEventKey).Nodup :=
        List.pairwise_singleton _ _
      exact single.sublist (List.filter_sublist.map _)
    · intro event mem _
      rw [List.mem_singleton.mp mem, emitted]
      exact ⟨repeated, Finset.mem_insert_self _ _⟩
    · rw [emitted]
      exact Finset.subset_insert _ _
    · intro _ key mem
      rw [emitted, Finset.mem_insert] at mem
      rcases mem with rfl | prior
      · exact Or.inr (List.mem_singleton.mpr rfl)
      · exact Or.inl prior

theorem Served.relay (served : Served old before) (runs : before.ended = false)
    (known : message.event ∈ hubEventNames) :
    Served old (before.relay parse message) := by
  have plain : ∀ name ∈ hubEventNames, ':' ∉ name.toList := by decide
  by_cases doc : message.event ∈ documentless
  · exact served.relayDocumentless runs (plain _ known) doc
  · exact served.relayDocument runs (plain _ known) known doc

theorem emits_poll {state : StreamingLoopState}
    (later : state.initialized = true)
    (ans : (pollStreamingEvents polled answers state).2 = .ok told) :
    Emits state.emittedEventIds (pollStreamingEvents polled answers state).1.emittedEventIds told
      ∧ ∀ key ∈ (pollStreamingEvents polled answers state).1.emittedEventIds,
        key ∈ state.emittedEventIds ∨ key ∈ told.map streamingEventKey := by
  have plain : ∀ name ∈ batchEventNames ++ "delete" :: sideEffectEventNames,
      ':' ∉ name.toList := by decide
  rcases (@poll_emitted polled answers state later).2 with
    ⟨err, failed, _⟩ | ⟨sent, eq, nodup, new, emitted⟩
  · cases failed.symm.trans ans
  · cases eq.symm.trans ans
    refine ⟨⟨?_, ?_, ?_, ?_⟩, fun key mem => (emitted key).mp mem⟩
    · intro event mem
      rcases event_of_poll ans mem with named | named
      · rw [named]
        exact plain _ (List.mem_append_left _ (batchEventName_mem _))
      · exact plain _ (List.mem_append_right _ named)
    · exact nodup.sublist (List.filter_sublist.map _)
    · intro event mem _
      have key := List.mem_map_of_mem (f := streamingEventKey) mem
      exact ⟨new _ key, (emitted _).mpr (Or.inr key)⟩
    · intro key mem
      exact (emitted key).mpr (Or.inl mem)

theorem kept_poll {state : StreamingLoopState} (later : state.initialized = true) :
    state.emittedEventIds ⊆ (pollStreamingEvents polled answers state).1.emittedEventIds := by
  intro key mem
  rcases (@poll_emitted polled answers state later).2 with
    ⟨_, _, eq⟩ | ⟨_, _, _, _, emitted⟩
  · rw [eq]
    exact mem
  · exact (emitted key).mpr (Or.inl mem)

theorem emitted_of_pollFailed
    (later : loop.state.initialized = true)
    (failed : (yieldStreamingPollRound polled answers queriesBefore queriesAfter loop).2
      = .pollFailed) :
    (pollStreamingEvents polled answers loop.state).1.emittedEventIds
      = loop.state.emittedEventIds := by
  obtain ⟨err, got, _, _⟩ := pollFailed_iff.mp failed
  rw [← failure_poll] at got
  rcases (@poll_emitted polled answers loop.state later).2 with
    ⟨_, _, eq⟩ | ⟨told, ans, _⟩
  · exact eq
  · cases got.symm.trans (failureOf_eq_none_iff.mpr ⟨told, ans⟩)

theorem Served.round (served : Served old before)
    (runs : before.ended = false) :
    Served old (before.round polled answers queriesBefore queriesAfter) := by
  by_cases exhausted : streamingPollBudgetExhausted before.loop.pollRounds
      before.loop.pollRounds queriesBefore = true
  · have recycled : before.round polled answers queriesBefore queriesAfter
        = ⟨before.loop, true, before.received ++ []⟩ := by
      rw [EventSource.round, yieldRound_of_exhausted exhausted]
      rfl
    rw [recycled]
    refine served.append runs rfl served.initialized (.nothing subset_rfl) ?_
    intro stays
    cases stays
  · have fresh : streamingPollBudgetExhausted before.loop.pollRounds before.loop.pollRounds
        queriesBefore = false := by simpa using exhausted
    have state : (before.round polled answers queriesBefore queriesAfter).loop.state
        = (pollStreamingEvents polled answers before.loop.state).1 :=
      yieldRound_state_of_fresh fresh
    have initialized : (before.round polled answers queriesBefore
        queriesAfter).loop.state.initialized = true := by
      rw [state]
      exact (poll_emitted served.initialized).1
    have received : (before.round polled answers queriesBefore queriesAfter).received
        = before.received ++ EventSource.told (yieldStreamingPollRound polled answers
          queriesBefore queriesAfter before.loop).2 := rfl
    have ended : (before.round polled answers queriesBefore queriesAfter).ended
        = ((yieldStreamingPollRound polled answers queriesBefore queriesAfter before.loop).2
          == .recycle) := rfl
    have kept := @kept_poll polled answers before.loop.state served.initialized
    cases yielded :
        (yieldStreamingPollRound polled answers queriesBefore queriesAfter before.loop).2 with
    | recycle =>
      rw [yielded] at received ended
      refine served.append runs received initialized ?_ ?_
      · rw [state]
        exact .nothing kept
      · intro stays
        cases ended.symm.trans stays
    | pollFailed =>
      have eq := emitted_of_pollFailed served.initialized yielded
      rw [yielded] at received
      refine served.append runs received initialized ?_ ?_
      · rw [state]
        exact .nothing kept
      · intro _ key mem
        rw [state, eq] at mem
        exact Or.inl mem
    | events told =>
      have ans := (events_iff.mp yielded).1
      obtain ⟨emits, accounted⟩ := emits_poll served.initialized ans
      rw [yielded] at received
      rw [← state] at emits accounted
      exact served.append runs received initialized emits fun _ => accounted

theorem served_after (served : Served old before)
    (taken : EventSourceStep parse polled before event after) : Served old after := by
  cases taken with
  | relayed runs known gets => exact served.relay runs known
  | polled answers queriesBefore queriesAfter runs => exact served.round runs

theorem mem_told :
    sent ∈ EventSource.told yielded ↔ ∃ told, yielded = .events told ∧ sent ∈ told := by
  cases yielded <;> simp [EventSource.told]

theorem poll_of_told
    (mem : sent ∈ EventSource.told
      (yieldStreamingPollRound polled answers queriesBefore queriesAfter loop).2) :
    ∃ found, (pollStreamingEvents polled answers loop.state).2 = .ok found ∧ sent ∈ found := by
  obtain ⟨found, yielded, listed⟩ := mem_told.mp mem
  exact ⟨found, (events_iff.mp yielded).1, listed⟩

theorem name_of_received_after
    (taken : EventSourceStep parse polled before event after) (mem : sent ∈ after.received) :
    sent ∈ before.received
      ∨ sent.event ∈ hubEventNames ++ batchEventName polled.stream :: "delete"
        :: sideEffectEventNames := by
  cases taken with
  | @relayed message runs known gets =>
    rcases List.mem_append.mp mem with prior | now
    · exact Or.inl prior
    · refine Or.inr (List.mem_append_left _ ?_)
      by_cases doc : message.event ∈ documentless
      · obtain ⟨_, data, out⟩ := @fanout_documentless parse message
          before.loop.state.emittedEventIds doc
        rw [out] at now
        rw [List.mem_singleton.mp now]
        exact known
      · rw [fanout_sent known doc] at now
        split_ifs at now
        · cases now
        · rw [List.mem_singleton.mp now]
          exact known
  | polled answers queriesBefore queriesAfter runs =>
    rcases List.mem_append.mp mem with prior | now
    · exact Or.inl prior
    · obtain ⟨got, ans, listed⟩ := poll_of_told now
      refine Or.inr (List.mem_append_right _ ?_)
      rcases event_of_poll ans listed with named | named
      · rw [named]
        exact List.mem_cons_self ..
      · exact List.mem_cons_of_mem _ named

/-! ## What is offered -/

/-- A step offers an event under a key: a message of the hub with a document, or a round
that delivers it. -/
def Offers (parse : String → Option Json) (polled : PolledStream) (key : String)
    (before : EventSource) : EventSourceEvent → Prop
  | .relayed message =>
    message.event ∉ documentless ∧ streamingEventKey (sentEvent parse message) = key
  | .polled answers queriesBefore queriesAfter =>
    key ∈ appliedKeys polled answers before.loop.state
      ∧ Delivers polled answers queriesBefore queriesAfter before.loop

theorem mem_keys_told :
    key ∈ yielded.keys ↔ key ∈ (EventSource.told yielded).map streamingEventKey := by
  rw [mem_keys_iff]
  cases yielded <;> simp [EventSource.told]

theorem received_after (taken : EventSourceStep parse polled before event after)
    (mem : key ∈ before.received.map streamingEventKey) :
    key ∈ after.received.map streamingEventKey := by
  cases taken with
  | relayed runs known gets =>
    rw [EventSource.relay, List.map_append]
    exact List.mem_append_left _ mem
  | polled answers queriesBefore queriesAfter runs =>
    rw [EventSource.round, List.map_append]
    exact List.mem_append_left _ mem

theorem received_of_offers (served : Served old before)
    (taken : EventSourceStep parse polled before event after)
    (offers : Offers parse polled key before event) :
    key ∈ old ∨ key ∈ after.received.map streamingEventKey := by
  by_cases emitted : key ∈ before.loop.state.emittedEventIds
  · have runs : before.ended = false := by
      cases taken with
      | relayed runs known gets | polled answers queriesBefore queriesAfter runs => exact runs
    rcases served.accounted runs key emitted with isOld | sent
    · exact Or.inl isOld
    · exact Or.inr (received_after taken sent)
  · refine Or.inr ?_
    cases taken with
    | relayed runs known gets =>
      obtain ⟨doc, rfl⟩ := offers
      rw [EventSource.relay, fanout_sent known doc, if_neg emitted, List.map_append]
      exact List.mem_append_right _ (List.mem_singleton.mpr rfl)
    | polled answers queriesBefore queriesAfter runs =>
      obtain ⟨applied, delivers⟩ := offers
      rw [EventSource.round, List.map_append]
      apply List.mem_append_right
      rw [← mem_keys_told, mem_keys_yield_iff (isBatchKey_of_mem_appliedKeys applied)]
      exact ⟨applied, emitted, delivers⟩

/-- **What is offered in a run under a new key has been sent in the end.** -/
theorem offered_is_received {start finish : EventSource}
    {trace : List (Transition EventSource EventSourceEvent)}
    (run : Run (EventSourceStep parse polled) start trace finish) (served : Served old start)
    {move : Transition EventSource EventSourceEvent} (taken : move ∈ trace)
    (offers : Offers parse polled key move.before move.event) :
    key ∈ old ∨ key ∈ finish.received.map streamingEventKey := by
  induction run with
  | start => cases taken
  | snoc earlierRun last ih =>
    rcases List.mem_append.mp taken with prior | now
    · rcases ih prior with isOld | sent
      · exact Or.inl isOld
      · exact Or.inr (received_after last sent)
    · rw [List.mem_singleton.mp now] at offers
      exact received_of_offers (earlierRun.invariant_of_step served served_after) last offers

end Serving

end Cfwdon.Streaming
