import Cfwdon.Streaming.SingleArrival

/-!
# Which messages of a hub are taken for repeats

The client of an event stream gets each message of its hub once.  A message is taken for a
repeat by the name and the id of its event, whatever its document says, and the keys that
are compared are never forgotten: a second edit of one status has the key of the first.
-/

namespace Cfwdon.Streaming

open Library

def SameBytes (first second : StreamingEvent) : Prop :=
  first.event = second.event ∧ first.data = second.data

/-- **A step passes its message on**: after all that was sent, unless the same bytes were
sent before.  A message without a document is always sent. -/
def PassesOn (parse : String → Option Json) (before : EventSource) (event : EventSourceEvent)
    (after : EventSource) : Prop :=
  match event with
  | .relayed message =>
    (∃ sent : StreamingEvent, sent.event = message.event
        ∧ (message.event ∉ documentless → sent.data = message.payload)
        ∧ after.received = before.received ++ [sent])
      ∨ (message.event ∉ documentless
        ∧ ∃ earlier ∈ before.received, SameBytes earlier (sentEvent parse message))
  | .polled _ _ _ => before.received <+: after.received

/-- What a step may send: its message, or what its round hands out. -/
def offered (parse : String → Option Json) (polled : PolledStream) (before : EventSource) :
    EventSourceEvent → List StreamingEvent
  | .relayed message => [sentEvent parse message]
  | .polled answers queriesBefore queriesAfter =>
    EventSource.told
      (yieldStreamingPollRound polled answers queriesBefore queriesAfter before.loop).2

/-- A step takes a key: that of its message, or one that is emitted after its round. -/
def TakesKey (parse : String → Option Json) (polled : PolledStream) (key : String)
    (before : EventSource) : EventSourceEvent → Prop
  | .relayed message =>
    message.event ∉ documentless ∧ streamingEventKey (sentEvent parse message) = key
  | .polled answers queriesBefore queriesAfter =>
    key ∈ (before.round polled answers queriesBefore queriesAfter).loop.state.emittedEventIds

/-- **A message has an id of its own**: its key was not emitted at the start and no step
before it has taken the key, or a step before it offered the same bytes. -/
def HasOwnId (parse : String → Option Json) (polled : PolledStream) (start : EventSource)
    (earlier : List (Transition EventSource EventSourceEvent)) (_ : EventSource) :
    EventSourceEvent → Prop
  | .relayed message =>
    message.event ∈ documentless
      ∨ (streamingEventKey (sentEvent parse message) ∉ start.loop.state.emittedEventIds
        ∧ ∀ transition ∈ earlier, ¬TakesKey parse polled
          (streamingEventKey (sentEvent parse message)) transition.before transition.event)
      ∨ ∃ transition ∈ earlier, ∃ shown ∈ offered parse polled transition.before
        transition.event, SameBytes shown (sentEvent parse message)
  | .polled _ _ _ => True

/-! ## The emitted keys -/

variable {state : StreamingLoopState} {answers : PollAnswers} {shown : StreamingEvent}
  {sent : StreamingEvent} {msg : StreamHubEvent}

section Keys

variable {parse : String → Option Json} {polled : PolledStream} {key : String}
  {before after start finish : EventSource} {event : EventSourceEvent}
  {trace : List (Transition EventSource EventSourceEvent)}

theorem emitted_subset_applyBatch {stream : String} {batch : StreamingBatch}
    {isInitialPoll : Bool} :
    state.emittedEventIds
      ⊆ (applyStreamingBatchToState stream batch isInitialPoll state).1.emittedEventIds := by
  cases isInitialPoll with
  | false => exact subset_rfl
  | true => exact Finset.subset_union_left

theorem emitted_subset_poll
    :
    state.emittedEventIds ⊆ (pollStreamingEvents polled answers state).1.emittedEventIds := by
  have out := @poll_outcome polled answers state
  generalize pollStreamingEvents polled answers state = ended at out ⊢
  cases out with
  | unbuilt built => exact subset_rfl
  | failed built asked framed =>
    obtain ⟨changes, user, rfl⟩ := framed
    exact emitted_subset_applyBatch
  | answered built asked framed told =>
    obtain ⟨changes, user, rfl⟩ := framed
    intro key mem
    exact mem_seen_keepUnseen.mpr (Or.inl (emitted_subset_applyBatch mem))

theorem emitted_subset_round {queriesBefore queriesAfter : Nat} :
    before.loop.state.emittedEventIds
      ⊆ (before.round polled answers queriesBefore queriesAfter).loop.state.emittedEventIds := by
  rw [EventSource.round]
  dsimp only
  by_cases exhausted : streamingPollBudgetExhausted before.loop.pollRounds
      before.loop.pollRounds queriesBefore = true
  · rw [yieldRound_of_exhausted exhausted]
  · rw [yieldRound_state_of_fresh (by simpa using exhausted)]
    exact emitted_subset_poll

theorem mem_emitted_after_iff (taken : EventSourceStep parse polled before event after) :
    key ∈ after.loop.state.emittedEventIds
      ↔ key ∈ before.loop.state.emittedEventIds ∨ TakesKey parse polled key before event := by
  cases taken with
  | @relayed msg runs known gets =>
    rw [TakesKey, EventSource.relay]
    by_cases doc : msg.event ∈ documentless
    · rw [(fanout_documentless doc).1]
      simp [doc]
    · rw [fanout_sent known doc]
      split_ifs with repeated
      · constructor
        · exact Or.inl
        · rintro (prior | ⟨_, rfl⟩)
          · exact prior
          · exact repeated
      · dsimp only
        rw [Finset.mem_insert, or_comm, eq_comm]
        simp [doc]
  | polled answers queriesBefore queriesAfter runs =>
    constructor
    · exact Or.inr
    · rintro (prior | now)
      · exact emitted_subset_round prior
      · exact now

/-- **The emitted keys** are those of the start and those that the steps took. -/
theorem mem_emitted_iff (run : Run (EventSourceStep parse polled) start trace finish) :
    key ∈ finish.loop.state.emittedEventIds
      ↔ key ∈ start.loop.state.emittedEventIds
        ∨ ∃ move ∈ trace, TakesKey parse polled key move.before move.event := by
  induction run with
  | start => simp
  | @snoc trace before after event run taken ih =>
    rw [mem_emitted_after_iff taken, ih, or_assoc]
    simp only [List.mem_append, List.mem_singleton, or_and_right, exists_or, exists_eq_left]

end Keys

/-! ## What is sent was offered -/

section Bytes

variable {parse : String → Option Json} {polled : PolledStream}
  {before after start finish : EventSource} {event : EventSourceEvent}
  {trace : List (Transition EventSource EventSourceEvent)}

theorem bytes_of_received_after
    (taken : EventSourceStep parse polled before event after) (mem : sent ∈ after.received)
    (doc : sent.event ∉ documentless) :
    sent ∈ before.received ∨ ∃ shown ∈ offered parse polled before event, SameBytes shown sent := by
  cases taken with
  | @relayed msg runs known gets =>
    rcases List.mem_append.mp mem with prior | now
    · exact Or.inl prior
    · by_cases without : msg.event ∈ documentless
      · obtain ⟨_, data, out⟩ := @fanout_documentless parse msg
          before.loop.state.emittedEventIds without
        rw [out] at now
        rw [List.mem_singleton.mp now] at doc
        exact absurd without doc
      · rw [fanout_sent known without] at now
        split_ifs at now
        · cases now
        · rw [List.mem_singleton.mp now]
          exact Or.inr ⟨_, List.mem_singleton.mpr rfl, rfl, rfl⟩
  | polled answers queriesBefore queriesAfter runs =>
    rcases List.mem_append.mp mem with prior | now
    · exact Or.inl prior
    · exact Or.inr ⟨sent, now, rfl, rfl⟩

/-- **What is sent was offered.** -/
theorem bytes_of_received (run : Run (EventSourceStep parse polled) start trace finish)
    (opened : start.received = []) (mem : sent ∈ finish.received)
    (doc : sent.event ∉ documentless) :
    ∃ move ∈ trace, ∃ shown ∈ offered parse polled move.before move.event,
      SameBytes shown sent := by
  induction run with
  | start =>
    rw [opened] at mem
    cases mem
  | snoc run taken ih =>
    rcases bytes_of_received_after taken mem doc with prior | ⟨shown, given, eq⟩
    · obtain ⟨move, former, got⟩ := ih prior
      exact ⟨move, List.mem_append_left _ former, got⟩
    · exact ⟨_, List.mem_append_right _ (List.mem_singleton.mpr rfl), shown, given, eq⟩

theorem received_prefix_after (taken : EventSourceStep parse polled before event after) :
    before.received <+: after.received := by
  cases taken with
  | relayed runs known gets | polled answers queriesBefore queriesAfter runs =>
    exact List.prefix_append _ _

theorem bytes_sent_of_offered
    (taken : EventSourceStep parse polled before event after)
    (passes : PassesOn parse before event after)
    (offers : shown ∈ offered parse polled before event)
    (doc : shown.event ∉ documentless) :
    ∃ sent ∈ after.received, SameBytes sent shown := by
  cases taken with
  | relayed runs known gets =>
    obtain rfl := List.mem_singleton.mp offers
    rcases passes with ⟨sent, named, payload, received⟩ | ⟨_, sent, prior, eq⟩
    · rw [received]
      exact ⟨sent, List.mem_append_right _ (List.mem_singleton.mpr rfl), named, payload doc⟩
    · exact ⟨sent, List.mem_append_left _ prior, eq⟩
  | polled answers queriesBefore queriesAfter runs =>
    exact ⟨shown, List.mem_append_right _ offers, rfl, rfl⟩

theorem bytes_sent_of_run (run : Run (EventSourceStep parse polled) start trace finish)
    (passes : Throughout (PassesOn parse) trace)
    {move : Transition EventSource EventSourceEvent} (mem : move ∈ trace)
    (offers : shown ∈ offered parse polled move.before move.event)
    (doc : shown.event ∉ documentless) :
    ∃ sent ∈ finish.received, SameBytes sent shown := by
  induction run with
  | start => cases mem
  | snoc run taken ih =>
    obtain ⟨prior, last⟩ := Throughout.snoc_iff.mp passes
    rcases List.mem_append.mp mem with former | now
    · obtain ⟨sent, received, eq⟩ := ih prior former
      exact ⟨sent, (received_prefix_after taken).subset received, eq⟩
    · rw [List.mem_singleton.mp now] at offers
      exact bytes_sent_of_offered taken last offers doc

/-! ## When nothing but a repeat is held back -/

/-- **A message with a document is passed on**, or repeats what was sent, exactly when its
key is not emitted or the same bytes were sent. -/
theorem passesOn_relay_iff (known : msg.event ∈ hubEventNames)
    (doc : msg.event ∉ documentless) :
    PassesOn parse before (.relayed msg) (before.relay parse msg)
      ↔ streamingEventKey (sentEvent parse msg) ∉ before.loop.state.emittedEventIds
        ∨ ∃ sent ∈ before.received, SameBytes sent (sentEvent parse msg) := by
  have out := @fanout_sent parse msg before.loop.state.emittedEventIds known doc
  by_cases repeated : streamingEventKey (sentEvent parse msg) ∈ before.loop.state.emittedEventIds
  · rw [if_pos repeated] at out
    rw [PassesOn, EventSource.relay, out]
    constructor
    · rintro (⟨sent, _, _, received⟩ | ⟨_, got⟩)
      · simp at received
      · exact Or.inr got
    · rintro (new | got)
      · exact absurd repeated new
      · exact Or.inr ⟨doc, got⟩
  · rw [if_neg repeated] at out
    rw [PassesOn, EventSource.relay, out]
    exact iff_of_true (Or.inl ⟨_, rfl, fun _ => rfl, rfl⟩) (Or.inl repeated)

theorem passesOn_relay_documentless
    (without : msg.event ∈ documentless) :
    PassesOn parse before (.relayed msg) (before.relay parse msg) := by
  obtain ⟨_, data, out⟩ := @fanout_documentless parse msg before.loop.state.emittedEventIds without
  refine Or.inl ⟨⟨"", "", msg.event, data⟩, rfl, fun doc => absurd without doc, ?_⟩
  rw [EventSource.relay, out]
  rfl

theorem passesOn_iff_hasOwnId (run : Run (EventSourceStep parse polled) start trace before)
    (opened : start.received = []) (passes : Throughout (PassesOn parse) trace)
    (taken : EventSourceStep parse polled before event after) :
    PassesOn parse before event after ↔ HasOwnId parse polled start trace before event := by
  cases taken with
  | @relayed msg runs known gets =>
    by_cases without : msg.event ∈ documentless
    · exact iff_of_true (passesOn_relay_documentless without) (Or.inl without)
    · rw [passesOn_relay_iff known without, mem_emitted_iff run, HasOwnId,
        or_iff_right without, not_or]
      apply or_congr
      · simp
      · constructor
        · rintro ⟨sent, received, eq⟩
          obtain ⟨move, mem, shown, offers, alike⟩ :=
            bytes_of_received run opened received (eq.1 ▸ without)
          exact ⟨move, mem, shown, offers, alike.1.trans eq.1, alike.2.trans eq.2⟩
        · rintro ⟨move, mem, shown, offers, eq⟩
          obtain ⟨sent, received, alike⟩ :=
            bytes_sent_of_run run passes mem offers (eq.1 ▸ without)
          exact ⟨sent, received, alike.1.trans eq.1, alike.2.trans eq.2⟩
  | polled answers queriesBefore queriesAfter runs =>
    exact iff_of_true (List.prefix_append _ _) trivial

/-- **The runs in which nothing but a repeat is held back**: every message with a document
has an id of its own, or repeats the bytes of what a step before it offered. -/
theorem only_repeats_are_suppressed_iff
    (run : Run (EventSourceStep parse polled) start trace finish)
    (opened : start.received = []) :
    Throughout (PassesOn parse) trace ↔ AlongHistory (HasOwnId parse polled start) trace := by
  induction run with
  | start => exact iff_of_true (fun _ mem => absurd mem List.not_mem_nil) AlongHistory.nil
  | snoc run taken ih =>
    rw [Throughout.snoc_iff, AlongHistory.snoc_iff, ← ih]
    exact and_congr_right fun passes => passesOn_iff_hasOwnId run opened passes taken

end Bytes

/-! ## Two edits of a status -/

def editedDocument (content : String) : String :=
  "\x7b\"id\":\"status-1\",\"content\":\"" ++ content ++ "\"\x7d"

/-- What the JSON reader makes of it. -/
def readEdited (text : String) : Option Json :=
  (["first", "second"].find? fun content => text == editedDocument content).map fun content =>
    .object [("id", .string "status-1"), ("content", .string content)]

/-- An edit of the status, told to a follower. -/
def editOf (content : String) : StreamHubEvent :=
  userStreamHubEvent "acct-1" "status.update" (editedDocument content)

theorem gets_editOf (content : String) : homeStream.Gets (editOf content) := by
  have matching : (StreamSubscription.new "user" none none).matchesEvent "user" none none
      = true := by decide +kernel
  exact ⟨matching, _, rfl, Or.inl rfl⟩

theorem relays_editOf (content : String) {s : EventSource} (runs : s.ended = false) :
    EventSourceStep readEdited homeStream s (.relayed (editOf content))
      (s.relay readEdited (editOf content)) := by
  have known : "status.update" ∈ hubEventNames := by decide
  exact .relayed runs known (gets_editOf content)

/-- One edit has an id of its own, and is passed on. -/
theorem only_repeats_are_suppressed_first :
    Throughout (PassesOn readEdited)
      ([] ++ [⟨awaitingClient, .relayed (editOf "first"),
        awaitingClient.relay readEdited (editOf "first")⟩]) := by
  have run := Run.snoc .start (relays_editOf "first" (s := awaitingClient) rfl)
  apply (only_repeats_are_suppressed_iff run rfl).mpr
  refine AlongHistory.snoc_iff.mpr ⟨AlongHistory.nil, Or.inr (Or.inl ⟨?_, ?_⟩)⟩
  · exact Finset.notMem_empty _
  · exact fun _ mem => absurd mem List.not_mem_nil

/-- **The second edit is held back**: it has the key of the first, and other bytes. -/
theorem second_edit_is_lost : ∃ trace finish,
    Run (EventSourceStep readEdited homeStream) awaitingClient trace finish
      ∧ trace.map Transition.event = [.relayed (editOf "first"), .relayed (editOf "second")]
      ∧ finish.received.map StreamingEvent.data = [editedDocument "first"]
      ∧ ¬Throughout (PassesOn readEdited) trace := by
  have first := relays_editOf "first" (s := awaitingClient) rfl
  have second := relays_editOf "second" (s := awaitingClient.relay readEdited (editOf "first")) rfl
  refine ⟨_, _, .snoc (.snoc .start first) second, rfl, by decide +kernel, fun passes => ?_⟩
  have onceSent : (awaitingClient.relay readEdited (editOf "first")).received
      = [sentEvent readEdited (editOf "first")] := by decide +kernel
  have noMore : ((awaitingClient.relay readEdited (editOf "first")).relay readEdited
      (editOf "second")).received = [sentEvent readEdited (editOf "first")] := by decide +kernel
  rcases (Throughout.snoc_iff.mp passes).2 with ⟨sent, _, _, now⟩ | ⟨_, sent, prior, eq⟩
  · have count := congrArg List.length now
    simp [onceSent, noMore] at count
  · dsimp only at prior
    rw [onceSent, List.mem_singleton] at prior
    rw [prior] at eq
    exact absurd eq.2 (by decide +kernel)

end Cfwdon.Streaming
