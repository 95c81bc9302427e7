import Cfwdon.Streaming.EventSource

/-!
# Whether an arriving status is received once

A created status comes to a client twice: a hub passes it on, and a later poll finds it.
The client gets it once when both ways give it one key.  The hub calls every status an
`update`; the polls call it so on the home, list and direct channels, and a
`conversation` on the public and hashtag channels.  On the direct channel the polls
list the conversation of the status, by its own id.
-/

namespace Cfwdon.Streaming

open Library

def PolledStream.arrivalId (polled : PolledStream) (arrival : StatusArrival) : Option String :=
  if polled.stream = "direct" then arrival.conversationId else some arrival.id

/-- An event tells of a status: it has its id or, on the direct channel, that of its
conversation. -/
def PolledStream.tellsOf (polled : PolledStream) (arrival : StatusArrival)
    (event : StreamingEvent) : Bool :=
  decide (event.event = "update" ∨ event.event = "conversation")
    && (decide (event.id = arrival.id)
      || (decide (polled.stream = "direct") && decide (arrival.conversationId = some event.id)))

/-- **The names agree**: a poll of a later round lists the status under the name under
which it is published. -/
def NamesAgree (polled : PolledStream) (arrival : StatusArrival) : Prop :=
  ∀ published ∈ arrival.published, polled.Gets published →
    ∀ rows : BatchRows, ∀ listed ∈ (batchOfRows polled true rows).events,
      polled.arrivalId arrival = some listed.id → listed.event = published.event

def arrivalKey (name id : String) : String := name ++ ":" ++ id

/-- A client before a status arrives: after the first poll, with nothing of the status
emitted. -/
structure Awaits (arrival : StatusArrival) (start : EventSource) : Prop where
  initialized : start.loop.state.initialized = true
  received : start.received = []
  new : arrivalKey "update" arrival.id ∉ start.loop.state.emittedEventIds

/-- A step sees a status: it passes on an event that was published of it, or it is a
round that delivers a batch with it. -/
def Sees (polled : PolledStream) (arrival : StatusArrival) (before : EventSource) :
    EventSourceEvent → Prop
  | .relayed event => event ∈ arrival.published
  | .polled answers queriesBefore queriesAfter =>
    Delivers polled answers queriesBefore queriesAfter before.loop
      ∧ ∃ rows, answers.rows = .ok rows
        ∧ ∃ listed ∈ (batchOfRows polled true rows).events,
          polled.arrivalId arrival = some listed.id

/-- **The status is received once**, in every run that sees it. -/
def ReceivedOnce (parse : String → Option Json) (polled : PolledStream)
    (arrival : StatusArrival) : Prop :=
  ∀ start finish trace, Run (EventSourceStep parse polled) start trace finish →
    Awaits arrival start →
    (∃ transition ∈ trace, Sees polled arrival transition.before transition.event) →
    (finish.received.filter (polled.tellsOf arrival)).length = 1

/-- The JSON reader finds in each document of a status the id that was rendered into
it. -/
def ReadsDocuments (parse : String → Option Json) (arrival : StatusArrival) : Prop :=
  ∀ document ∈ arrival.statusDocuments ++ arrival.conversationDocuments,
    ∃ value, parse document.text = some value ∧ value.get "id" = some (.string document.id)

/-- Both ways give the status one key. -/
def OneKey (polled : PolledStream) (arrival : StatusArrival) : Prop :=
  polled.stream = "user" ∨ polled.stream = "list"
    ∨ (polled.stream = "direct" ∧ ∀ conversation ∈ arrival.conversationId,
      conversation = arrival.id)

/-! ## Keys -/

/-- A key of a name and an id is that of an event exactly when both are its own. -/
theorem eventKey_eq_arrivalKey_iff {ev : StreamingEvent} {name id : String}
    (plain : ':' ∉ ev.event.toList) (namePlain : ':' ∉ name.toList) :
    streamingEventKey ev = arrivalKey name id ↔ ev.event = name ∧ ev.id = id := by
  constructor
  · intro eq
    have other : arrivalKey name id = streamingEventKey ⟨"", id, name, ""⟩ := rfl
    rw [other] at eq
    exact eq_of_eventKey_eq plain namePlain eq
  · rintro ⟨rfl, rfl⟩
    rfl

variable {ev : StreamHubEvent} {pre : EventSource} {doc : Document}

section Once

variable {parse : String → Option Json} {polled : PolledStream} {arrival : StatusArrival}
  {old : Finset String}

theorem batchEventName_eq_update_iff {stream : String} :
    batchEventName stream = "update" ↔ stream = "user" ∨ stream = "list" ∨ stream = "direct" := by
  unfold batchEventName
  split_ifs with notif update
  · subst notif
    decide
  · exact ⟨fun _ => update, fun _ => rfl⟩
  · exact ⟨fun bad => absurd bad (by decide), fun named => absurd named update⟩

def NoConversation (s : EventSource) : Prop := ∀ sent ∈ s.received, sent.event ≠ "conversation"

theorem noConversation_after {pre after : EventSource} {ev : EventSourceEvent}
    (named : batchEventName polled.stream = "update") (none : NoConversation pre)
    (taken : EventSourceStep parse polled pre ev after) : NoConversation after := by
  intro sent mem
  rcases name_of_received_after taken mem with prior | known
  · exact none sent prior
  · rw [named] at known
    have other : ∀ name ∈ hubEventNames ++ "update" :: "delete" :: sideEffectEventNames,
        name ≠ "conversation" := by decide
    exact other _ known

theorem sentEvent_id
    (reads : ∃ value, parse doc.text = some value ∧ value.get "id" = some (.string doc.id))
    (shown : ev.payload = doc.text) : (sentEvent parse ev).id = doc.id := by
  obtain ⟨value, parsed, got⟩ := reads
  simp only [sentEvent, streamingEventIdentityFromPayload, shown, parsed, got]
  rfl

theorem offers_of_status
    (reads : ReadsDocuments parse arrival) (own : doc ∈ arrival.statusDocuments)
    (shown : ev.payload = doc.text) (named : ev.event = "update") :
    Offers parse polled (arrivalKey "update" arrival.id) pre (.relayed ev) := by
  have id := sentEvent_id (reads doc (List.mem_append_left _ own)) shown
  constructor
  · rw [named]
    decide
  · rw [streamingEventKey, id, arrival.documentIds doc own]
    exact congrArg (fun name => name ++ ":" ++ arrival.id) named

theorem offers_of_conversation {conv : Document}
    (reads : ReadsDocuments parse arrival)
    (own : conv ∈ arrival.conversationDocuments)
    (shown : ev.payload = conv.text) (named : ev.event = "update") :
    Offers parse polled (arrivalKey "update" conv.id) pre (.relayed ev) := by
  have id := sentEvent_id (reads conv (List.mem_append_right _ own)) shown
  constructor
  · rw [named]
    decide
  · rw [streamingEventKey, id]
    exact congrArg (fun name => name ++ ":" ++ conv.id) named

theorem offers_of_rows {answers : PollAnswers} {queriesBefore queriesAfter : Nat}
    {pre : EventSource} {rows : BatchRows} {listed : StreamingEvent}
    (delivers : Delivers polled answers queriesBefore queriesAfter pre.loop)
    (ans : answers.rows = .ok rows)
    (mem : listed ∈ (batchOfRows polled true rows).events) :
    Offers parse polled (arrivalKey (batchEventName polled.stream) listed.id) pre
      (.polled answers queriesBefore queriesAfter) := by
  refine ⟨?_, delivers⟩
  have unfailed := delivers.answered
  unfold pollFailure at unfailed
  unfold appliedKeys
  cases built : streamingBatchForStream polled pre.loop.state.initialized answers.rows with
  | error err =>
    rw [built] at unfailed
    cases unfailed
  | ok batch =>
    obtain ⟨others, eq, rfl⟩ := batchOfRows_of_built built
    cases ans.symm.trans eq
    rw [← event_of_batch mem]
    refine List.mem_toFinset.mpr (List.mem_map.mpr ⟨listed, ?_, rfl⟩)
    rw [delivers.later]
    exact mem

theorem OneKey.named (oneKey : OneKey polled arrival) :
    batchEventName polled.stream = "update" := by
  apply batchEventName_eq_update_iff.mpr
  rcases oneKey with home | list | ⟨direct, _⟩
  · exact Or.inl home
  · exact Or.inr (Or.inl list)
  · exact Or.inr (Or.inr direct)

theorem OneKey.conversation (oneKey : OneKey polled arrival) (direct : polled.stream = "direct")
    {conv : String} (own : arrival.conversationId = some conv) :
    conv = arrival.id := by
  rcases oneKey with home | list | ⟨_, eq⟩
  · exact absurd (home.symm.trans direct) (by decide)
  · exact absurd (list.symm.trans direct) (by decide)
  · exact eq conv own

theorem OneKey.arrivalId (oneKey : OneKey polled arrival) {id : String}
    (listed : polled.arrivalId arrival = some id) : id = arrival.id := by
  unfold PolledStream.arrivalId at listed
  split_ifs at listed with direct
  · exact oneKey.conversation direct listed
  · exact (Option.some.inj listed).symm

theorem offers_of_sees {event : EventSourceEvent}
    (reads : ReadsDocuments parse arrival) (oneKey : OneKey polled arrival)
    (sees : Sees polled arrival pre event)
    (gets : ∀ msg, event = .relayed msg → polled.Gets msg) :
    Offers parse polled (arrivalKey "update" arrival.id) pre event := by
  cases event with
  | relayed msg =>
    have published := publishedAs_of_mem sees
    have named := published.named
    cases published with
    | status own shown _ => exact offers_of_status reads own shown named
    | @conversation recipient conv own eq _ =>
      have direct : polled.stream = "direct" := by
        have hit := StreamSubscription.stream_of_matchesEvent (gets msg rfl).1
        rw [eq] at hit
        exact hit
      have oneId := oneKey.conversation direct (conversationId_of_mem own)
      rw [← oneId]
      apply offers_of_conversation reads own _ named
      rw [eq]
      rfl
  | polled answers queriesBefore queriesAfter =>
    obtain ⟨delivers, rows, ans, listed, mem, got⟩ := sees
    have offers := @offers_of_rows parse polled answers queriesBefore queriesAfter pre rows
      listed delivers ans mem
    rw [oneKey.named, oneKey.arrivalId got] at offers
    exact offers

theorem Awaits.served {start : EventSource} (awaits : Awaits arrival start) :
    Served start.loop.state.emittedEventIds start := by
  refine ⟨awaits.initialized, ?_, ?_, ?_, subset_rfl, fun _ _ mem => Or.inl mem⟩
  · rw [awaits.received]
    exact fun _ mem => absurd mem List.not_mem_nil
  · rw [awaits.received]
    exact List.nodup_nil
  · rw [awaits.received]
    exact fun _ mem => absurd mem List.not_mem_nil

theorem gets_of_taken {start finish : EventSource}
    {trace : List (Transition EventSource EventSourceEvent)}
    (run : Run (EventSourceStep parse polled) start trace finish)
    {move : Transition EventSource EventSourceEvent} (taken : move ∈ trace)
    {message : StreamHubEvent} (relayed : move.event = .relayed message) :
    polled.Gets message := by
  induction run with
  | start => cases taken
  | snoc _ last ih =>
    rcases List.mem_append.mp taken with prior | now
    · exact ih prior
    · rw [List.mem_singleton.mp now] at relayed
      cases last with
      | relayed runs known gets =>
        cases relayed
        exact gets
      | polled answers queriesBefore queriesAfter runs => cases relayed

/-- **A status with one key is received once.** -/
theorem received_once (reads : ReadsDocuments parse arrival) (oneKey : OneKey polled arrival) :
    ReceivedOnce parse polled arrival := by
  intro start finish trace run awaits seen
  obtain ⟨move, taken, sees⟩ := seen
  have served : Served start.loop.state.emittedEventIds finish :=
    run.invariant_of_step awaits.served served_after
  have nothing : NoConversation start := by
    rw [NoConversation, awaits.received]
    exact fun _ mem => absurd mem List.not_mem_nil
  have noConversation : NoConversation finish :=
    run.invariant_of_step nothing fun none step => noConversation_after oneKey.named none step
  have sent : arrivalKey "update" arrival.id ∈ finish.received.map streamingEventKey := by
    have offers := offers_of_sees reads oneKey sees
      (fun msg relayed => gets_of_taken run taken relayed)
    rcases offered_is_received run awaits.served taken offers with isOld | sent
    · exact absurd isOld awaits.new
    · exact sent
  have updatePlain : ':' ∉ "update".toList := by decide
  -- Telling of the status and having its one key is the same.
  have tells : ∀ ev ∈ finish.received, polled.tellsOf arrival ev = true
      ↔ streamingEventKey ev = arrivalKey "update" arrival.id := by
    intro ev mem
    rw [eventKey_eq_arrivalKey_iff (served.named ev mem) updatePlain]
    simp only [PolledStream.tellsOf, Bool.and_eq_true, Bool.or_eq_true, decide_eq_true_eq]
    constructor
    · rintro ⟨update | conv, own⟩
      · refine ⟨update, ?_⟩
        rcases own with eq | ⟨direct, ofConversation⟩
        · exact eq
        · exact oneKey.conversation direct ofConversation
      · exact absurd conv (noConversation ev mem)
    · rintro ⟨update, eq⟩
      exact ⟨Or.inl update, Or.inl eq⟩
  have isKeyed : ∀ ev, polled.tellsOf arrival ev = true → keyed ev = true := by
    intro ev telling
    simp only [PolledStream.tellsOf, Bool.and_eq_true, decide_eq_true_eq] at telling
    rcases telling.1 with named | named <;> rw [keyed, named] <;> decide
  have nodup := served.distinct.sublist
    ((List.monotone_filter_right finish.received isKeyed).map streamingEventKey)
  apply length_eq_one_of_one_key nodup
  · intro ev mem
    obtain ⟨received, telling⟩ := List.mem_filter.mp mem
    exact (tells ev received).mp telling
  · obtain ⟨ev, received, key⟩ := List.mem_map.mp sent
    exact List.mem_map.mpr ⟨ev, List.mem_filter.mpr ⟨received, (tells ev received).mpr key⟩, key⟩

end Once

/-! ## Other channels -/

section Other

variable {parse : String → Option Json} {polled : PolledStream} {arrival : StatusArrival}
  {published : StreamHubEvent}

theorem tag_of_gets (gets : polled.Gets published)
    (hashtag : startsWith polled.stream "hashtag" = true) : polled.tag.isSome = true := by
  obtain ⟨_, target, got, _⟩ := gets
  unfold streamHubProxyTarget at got
  split_ifs at got with session list open_ tagged
  · rw [List.contains_iff_mem] at session
    have other : ∀ name ∈ ["user", "user:notification", "direct"],
        startsWith name "hashtag" = false := by decide
    cases (other _ session).symm.trans hashtag
  · rw [list] at hashtag
    cases hashtag
  · rw [List.contains_iff_mem] at open_
    have other : ∀ name ∈ ["public", "public:media", "public:local", "public:local:media",
        "public:remote", "public:remote:media"], startsWith name "hashtag" = false := by decide
    cases (other _ open_).symm.trans hashtag
  · obtain ⟨tag, here, _⟩ := Option.bind_eq_some_iff.mp got
    cases absent : polled.tag with
    | none =>
      rw [absent] at here
      cases here
    | some value => rfl
  · cases got

theorem viewer_of_gets (gets : polled.Gets published) (direct : polled.stream = "direct") :
    polled.viewer.isSome = true := by
  obtain ⟨_, target, got, _⟩ := gets
  rw [direct] at got
  cases absent : polled.viewer with
  | none =>
    rw [absent] at got
    cases got
  | some accountId => rfl

def arrivalRows (arrival : StatusArrival) : BatchRows where
  statuses := [⟨arrival.id, "", ""⟩]
  directStatuses := [⟨arrival.id, "", arrival.conversationId, some ""⟩]
  candidates := [⟨arrival.id, "", some ""⟩]
  listExists := true

theorem lists_arrivalRows (gets : polled.Gets published)
    (conv : polled.stream = "direct" → arrival.conversationId ≠ none) :
    ∃ listed ∈ (batchOfRows polled true (arrivalRows arrival)).events,
      polled.arrivalId arrival = some listed.id := by
  have entry : ∀ name, (⟨"", arrival.id, name, ""⟩ : StreamingEvent)
      ∈ (statusBatch (arrivalRows arrival).statuses name).events := by
    intro name
    exact mem_batch.mpr ⟨⟨"", arrival.id, ""⟩, List.mem_singleton.mpr rfl, rfl⟩
  unfold PolledStream.arrivalId
  by_cases direct : polled.stream = "direct"
  · obtain ⟨id, own⟩ := Option.ne_none_iff_exists'.mp (conv direct)
    have listed : batchOfRows polled true (arrivalRows arrival)
        = streamingDirectBatch (arrivalRows arrival) := by simp [batchOfRows, direct]
    have conversationEntry : (⟨"", id, ""⟩ : StreamingEntry)
        ∈ directEntries ∅ (arrivalRows arrival).directStatuses := by
      simp [arrivalRows, directEntries, own]
    rw [listed, if_pos direct, own]
    exact ⟨⟨"", id, "update", ""⟩, mem_batch.mpr ⟨_, conversationEntry, rfl⟩, rfl⟩
  · rw [if_neg direct]
    unfold batchOfRows
    split_ifs with user notif list
    · exact ⟨_, entry "update", rfl⟩
    · exact ⟨⟨"", arrival.id, "notification", ""⟩, List.mem_singleton.mpr rfl, rfl⟩
    · exact ⟨_, entry "update", rfl⟩
    · have shown : streamingPublicBatch polled.stream polled.tag (arrivalRows arrival)
          = statusBatch (arrivalRows arrival).statuses "conversation" := by
        unfold streamingPublicBatch
        rw [if_neg]
        intro untagged
        rw [Bool.and_eq_true] at untagged
        have tagged := tag_of_gets gets untagged.1
        rw [Option.isNone_iff_eq_none] at untagged
        rw [untagged.2] at tagged
        cases tagged
      rw [shown]
      exact ⟨_, entry "conversation", rfl⟩

/-- A client that awaits any status with one whose key is not its own. -/
def awaitingClient : EventSource where
  loop := ⟨{ StreamingLoopState.new with initialized := true }, 0⟩
  ended := false
  received := []

theorem awaits_awaitingClient : Awaits arrival awaitingClient :=
  ⟨rfl, rfl, Finset.notMem_empty _⟩

def arrivalAnswers (arrival : StatusArrival) : PollAnswers where
  rows := .ok (arrivalRows arrival)
  lookup _ := .ok (some ⟨"", none, true, false, ""⟩)
  now := .ok ""
  filterUpdatedAt := .ok none
  announcements := .ok ⟨[], .empty⟩
  reactionDocument _ := ""

theorem delivers_arrivalAnswers {loop : PollLoop} (direct : polled.stream = "direct")
    (viewer : polled.viewer.isSome = true) (later : loop.state.initialized = true)
    (first : loop.pollRounds = 0) : Delivers polled (arrivalAnswers arrival) 0 0 loop := by
  refine ⟨later, ?_, ?_⟩
  · have lookups : ∀ changes : StatusChanges, ∀ id,
        changes.lookupFailure (arrivalAnswers arrival) id = none := by
      intro changes id
      unfold StatusChanges.lookupFailure
      split_ifs <;> rfl
    have built : streamingBatchForStream polled loop.state.initialized
        (arrivalAnswers arrival).rows = .ok (streamingDirectBatch (arrivalRows arrival)) := by
      simp [streamingBatchForStream, direct, requiredStreamingViewer, viewer, arrivalAnswers]
      rfl
    have tracked : ∀ ids changes,
        trackedStatusFailure polled (arrivalAnswers arrival) (!loop.state.initialized) ids changes
          = none := by
      intro ids changes
      unfold trackedStatusFailure
      split_ifs
      · exact List.findSome?_eq_none_iff.mpr fun id _ => lookups changes id
      · rfl
    have user : userFailure polled (arrivalAnswers arrival) (!loop.state.initialized)
        loop.state.user = none := by
      unfold userFailure
      rw [if_neg]
      rw [direct]
      decide
    rw [pollFailure, built]
    dsimp only
    rw [sideEffectFailure, tracked, user]
    rfl
  · rw [PollLoop.usedUp, first]
    rfl

theorem status_of_gets (publishes : published ∈ arrival.published)
    (gets : polled.Gets published) :
    ∃ msg ∈ arrival.published, polled.Gets msg ∧ msg.event = "update"
      ∧ ∃ doc ∈ arrival.statusDocuments, msg.payload = doc.text := by
  cases publishedAs_of_mem publishes with
  | @status doc own shown named =>
    exact ⟨published, publishes, gets, named, doc, own, shown⟩
  | @conversation recipient conv own eq first =>
    refine ⟨_, first, ?_, rfl, arrival.document, document_mem_statusDocuments, rfl⟩
    rw [eq] at gets
    exact gets

theorem tellsOf_of_received {old : Finset String} {client : EventSource} {id : String}
    (direct : polled.stream = "direct") (served : Served old client)
    (ofArrival : id = arrival.id ∨ arrival.conversationId = some id)
    (sent : arrivalKey "update" id ∈ client.received.map streamingEventKey) :
    ∃ ev ∈ client.received.filter (polled.tellsOf arrival), ev.id = id := by
  obtain ⟨ev, received, key⟩ := List.mem_map.mp sent
  obtain ⟨update, eq⟩ := (eventKey_eq_arrivalKey_iff (served.named ev received) (by decide)).mp key
  refine ⟨ev, List.mem_filter.mpr ⟨received, ?_⟩, eq⟩
  subst eq
  simpa [PolledStream.tellsOf, update, direct] using ofArrival

/-- **A status of a conversation is received twice on the direct channel**: the hub passes
it on by its id, and a poll lists it by that of the conversation. -/
theorem received_twice_on_direct (reads : ReadsDocuments parse arrival)
    (publishes : published ∈ arrival.published) (gets : polled.Gets published)
    (direct : polled.stream = "direct") {conversation : String}
    (own : arrival.conversationId = some conversation) (other : conversation ≠ arrival.id) :
    ¬ReceivedOnce parse polled arrival := by
  intro once
  obtain ⟨msg, sent, received, named, doc, ofStatus, shown⟩ :=
    status_of_gets publishes gets
  have known : msg.event ∈ hubEventNames := by
    rw [named]
    decide
  have relayed : EventSourceStep parse polled awaitingClient (.relayed msg)
      (awaitingClient.relay parse msg) := .relayed rfl known received
  have polls : EventSourceStep parse polled (awaitingClient.relay parse msg)
      (.polled (arrivalAnswers arrival) 0 0)
      ((awaitingClient.relay parse msg).round polled (arrivalAnswers arrival) 0 0) :=
    .polled _ 0 0 rfl
  have run := Run.snoc (Run.snoc .start relayed) polls
  have awaits : Awaits arrival awaitingClient := awaits_awaitingClient
  have served := awaits.served
  have first : (⟨awaitingClient, .relayed msg, awaitingClient.relay parse msg⟩
      : Transition EventSource EventSourceEvent) ∈ [] ++ [_] := List.mem_singleton.mpr rfl
  have byHub := offered_is_received run served (List.mem_append_left _ first)
    (offers_of_status reads ofStatus shown named)
  have listsIt : ∃ listed ∈ (batchOfRows polled true (arrivalRows arrival)).events,
      polled.arrivalId arrival = some listed.id := by
    apply lists_arrivalRows gets
    intro _ absent
    cases own.symm.trans absent
  obtain ⟨listed, mem, got⟩ := listsIt
  have listedId : listed.id = conversation := by
    rw [PolledStream.arrivalId, if_pos direct, own] at got
    exact (Option.some.inj got).symm
  have delivers : Delivers polled (arrivalAnswers arrival) 0 0
      (awaitingClient.relay parse msg).loop :=
    delivers_arrivalAnswers direct (viewer_of_gets gets direct) rfl rfl
  have offered : Offers parse polled (arrivalKey (batchEventName polled.stream) listed.id)
      (awaitingClient.relay parse msg) (.polled (arrivalAnswers arrival) 0 0) :=
    offers_of_rows delivers rfl mem
  have byPoll := offered_is_received run served
    (List.mem_append_right _ (List.mem_singleton.mpr rfl)) offered
  have servedThen : Served _ _ := run.invariant_of_step served served_after
  rcases byHub with isOld | byHub
  · exact absurd isOld awaits.new
  rcases byPoll with isOld | byPoll
  · exact absurd isOld (Finset.notMem_empty _)
  rw [direct, listedId] at byPoll
  obtain ⟨status, statusTold, statusId⟩ :=
    tellsOf_of_received direct servedThen (Or.inl rfl) byHub
  obtain ⟨entry, entryTold, entryId⟩ :=
    tellsOf_of_received direct servedThen (Or.inr own) byPoll
  obtain ⟨only, alone⟩ := List.length_eq_one_iff.mp
    (once _ _ _ run awaits ⟨_, List.mem_append_left _ first, sent⟩)
  rw [alone, List.mem_singleton] at statusTold entryTold
  apply other
  rw [← entryId, ← statusId, entryTold, statusTold]

/-- **On which channels the names agree and a status is received once.** -/
theorem arrivals_agree_and_are_received_once_iff (reads : ReadsDocuments parse arrival)
    (publishes : published ∈ arrival.published) (gets : polled.Gets published) :
    (NamesAgree polled arrival ∧ ReceivedOnce parse polled arrival) ↔ OneKey polled arrival := by
  constructor
  · rintro ⟨agree, once⟩
    by_cases direct : polled.stream = "direct"
    · refine Or.inr (Or.inr ⟨direct, fun conv own => ?_⟩)
      by_contra other
      exact received_twice_on_direct reads publishes gets direct own other once
    · obtain ⟨listed, mem, got⟩ := lists_arrivalRows gets fun eq => absurd eq direct
      have named : batchEventName polled.stream = "update" := by
        rw [← event_of_batch mem, ← (publishedAs_of_mem publishes).named]
        exact agree published publishes gets _ listed mem got
      rcases batchEventName_eq_update_iff.mp named with home | list | eq
      · exact Or.inl home
      · exact Or.inr (Or.inl list)
      · exact absurd eq direct
  · intro oneKey
    refine ⟨?_, received_once reads oneKey⟩
    intro msg sent _ rows listed mem _
    rw [event_of_batch mem, oneKey.named, (publishedAs_of_mem sent).named]

end Other

/-! ## A status on the home and the public channel -/

def sampleDocument : Document := ⟨"status-1", "\x7b\"id\":\"status-1\"\x7d"⟩

/-- What the JSON reader makes of it. -/
def sampleParse (text : String) : Option Json :=
  if text = sampleDocument.text then some (.object [("id", .string "status-1")]) else none

/-- A public status of a remote actor that an account follows. -/
def sampleArrival : StatusArrival where
  id := "status-1"
  origin := .remote
  visibility := .publicPost
  hasMedia := false
  tags := []
  document := sampleDocument
  followers := ["acct-1"]
  lists := []
  recipients := []
  conversationId := none
  documentIds := by
    intro rendered member
    rw [List.mem_singleton.mp member]
    rfl
  conversationIds := fun _ impossible => absurd impossible List.not_mem_nil

theorem readsDocuments_sampleArrival : ReadsDocuments sampleParse sampleArrival := by
  intro doc mem
  rw [List.mem_singleton.mp mem]
  exact ⟨_, rfl, rfl⟩

/-- The home channel gives the status one key, and the client of a follower gets it. -/
theorem arrivals_agree_and_are_received_once_home :
    NamesAgree homeStream sampleArrival ∧ ReceivedOnce sampleParse homeStream sampleArrival := by
  have gets : homeStream.Gets (userStreamHubEvent "acct-1" "update" sampleDocument.text) := by
    refine ⟨by decide +kernel, _, rfl, Or.inl (by decide +kernel)⟩
  exact (arrivals_agree_and_are_received_once_iff readsDocuments_sampleArrival
    (List.mem_cons_self ..) gets).mpr (Or.inl rfl)

def publicStream : PolledStream := ⟨"public", none, none, none⟩

def publicEvent : StreamHubEvent :=
  ⟨streamHubChannelIdName "public" none, "public", none, none, "update", sampleDocument.text⟩

/-- **A status that is received twice**: the hub of the public channel publishes it as an
update, and a poll lists it as a conversation. -/
theorem arrivals_are_received_twice :
    ¬(NamesAgree publicStream sampleArrival ∧ ReceivedOnce sampleParse publicStream sampleArrival)
    ∧ ∃ trace finish, Run (EventSourceStep sampleParse publicStream) awaitingClient trace finish
      ∧ (∃ transition ∈ trace, Sees publicStream sampleArrival transition.before transition.event)
      ∧ finish.received.map streamingEventKey = ["update:status-1", "conversation:status-1"] := by
  have gets : publicStream.Gets publicEvent := by
    refine ⟨by decide +kernel, _, rfl, Or.inl (by decide +kernel)⟩
  have publishes : publicEvent ∈ sampleArrival.published := by decide +kernel
  constructor
  · rintro ⟨agree, _⟩
    have other := agree publicEvent publishes gets (arrivalRows sampleArrival)
      ⟨"", "status-1", "conversation", ""⟩ (by decide +kernel) rfl
    exact absurd other (by decide)
  · have relayed : EventSourceStep sampleParse publicStream awaitingClient (.relayed publicEvent)
        (awaitingClient.relay sampleParse publicEvent) := .relayed rfl (by decide) gets
    have polls : EventSourceStep sampleParse publicStream
        (awaitingClient.relay sampleParse publicEvent)
        (.polled (arrivalAnswers sampleArrival) 20 40)
        ((awaitingClient.relay sampleParse publicEvent).round publicStream
          (arrivalAnswers sampleArrival) 20 40) := .polled _ 20 40 rfl
    refine ⟨_, _, .snoc (.snoc .start relayed) polls, ?_, by decide +kernel⟩
    exact ⟨_, List.mem_append_left _ (List.mem_singleton.mpr rfl), publishes⟩

end Cfwdon.Streaming
