import Cfwdon.Library.Run
import Mathlib.Data.Finset.Card

/-!
# The streaming hub of the web UI

The parts of a page that want events share one socket.  Each subscribes with a callback and gets
a handle; the callbacks are a set.  The socket is opened for the first callback, opened again
after a while when it was closed, and closed with the last one.  A hidden page waits; it
catches up when it is visible again.

What the callbacks do is a later event: each is called when the hub has settled.
-/

namespace Cfwdon.WebUi

open Library

/-- The socket and the timer of a hub, and what the browser has of them. -/
structure Link where
  socket : Option Nat
  reconnectTimer : Option Nat
  attempt : Nat
  openSockets : List Nat
  timers : List Nat
  created : Nat
  scheduled : Nat

namespace Link

def clearReconnect (link : Link) : Link :=
  { link with reconnectTimer := none
              timers := link.reconnectTimer.elim link.timers link.timers.erase }

def disconnectSocket (link : Link) : Link :=
  { link.clearReconnect with
    socket := none
    openSockets := link.socket.elim link.openSockets link.openSockets.erase }

/-- `scheduleReconnect`, if there are listeners or not, on a hidden page or not. -/
def scheduleReconnect (listening hidden : Bool) (link : Link) : Link :=
  if listening = false ∨ link.reconnectTimer ≠ none then link
  else if hidden then link
  else
    { link with
      attempt := link.attempt + 1
      reconnectTimer := some link.scheduled
      timers := link.timers ++ [link.scheduled]
      scheduled := link.scheduled + 1 }

/-- The constructor of the socket may throw. -/
def connect (listening hidden throws : Bool) (link : Link) : Link :=
  if listening = false ∨ link.socket ≠ none then link
  else if hidden then link
  else if throws then link.scheduleReconnect listening hidden
  else
    { link with
      socket := some link.created
      openSockets := link.openSockets ++ [link.created]
      created := link.created + 1 }

/-- The hub has the sockets that are open and the timers that are set. -/
structure Sound (link : Link) : Prop where
  openSockets : link.openSockets = link.socket.toList
  timers : link.timers = link.reconnectTimer.toList

def IsLive (link : Link) : Prop := link.socket ≠ none ∨ link.reconnectTimer ≠ none

variable {link : Link} {hidden throws : Bool}

theorem Sound.clearReconnect (sound : link.Sound) : link.clearReconnect.Sound := by
  refine ⟨sound.openSockets, ?_⟩
  rw [Link.clearReconnect, sound.timers]
  cases link.reconnectTimer <;> simp

theorem Sound.disconnectSocket (sound : link.Sound) : link.disconnectSocket.Sound := by
  refine ⟨?_, sound.clearReconnect.timers⟩
  rw [Link.disconnectSocket, sound.openSockets]
  cases link.socket <;> simp

theorem Sound.scheduleReconnect {listening : Bool} (sound : link.Sound) :
    (link.scheduleReconnect listening hidden).Sound := by
  rw [Link.scheduleReconnect]
  split_ifs with idle
  · exact sound
  · exact sound
  · have free : link.reconnectTimer = none := by
      by_contra waiting
      exact idle (.inr waiting)
    refine ⟨sound.openSockets, ?_⟩
    rw [sound.timers, free]
    rfl

theorem Sound.connect {listening : Bool} (sound : link.Sound) :
    (link.connect listening hidden throws).Sound := by
  rw [Link.connect]
  split_ifs with idle
  · exact sound
  · exact sound
  · exact sound.scheduleReconnect
  · have free : link.socket = none := by
      by_contra conn
      exact idle (.inr conn)
    refine ⟨?_, sound.timers⟩
    rw [sound.openSockets, free]
    rfl

theorem isLive_scheduleReconnect : (link.scheduleReconnect true false).IsLive := by
  by_cases free : link.reconnectTimer = none
  · rw [scheduleReconnect, if_neg (by simp [free]), if_neg Bool.false_ne_true]
    exact .inr (Option.some_ne_none _)
  · rw [scheduleReconnect, if_pos (.inr free)]
    exact .inr free

/-- A visible page with listeners has a socket afterwards, or waits for one. -/
theorem isLive_connect : (link.connect true false throws).IsLive := by
  by_cases free : link.socket = none
  · rw [connect, if_neg (by simp [free]), if_neg Bool.false_ne_true]
    cases throws with
    | false => exact .inl (Option.some_ne_none _)
    | true => exact isLive_scheduleReconnect
  · rw [connect, if_pos (.inr free)]
    exact .inl free

theorem connect_of_idle : link.connect false hidden throws = link := if_pos (.inl rfl)

theorem scheduleReconnect_of_idle : link.scheduleReconnect false hidden = link :=
  if_pos (.inl rfl)

theorem not_isLive_disconnectSocket : ¬link.disconnectSocket.IsLive := by
  rintro (socket | timer)
  · exact socket rfl
  · exact timer rfl

end Link

/-! ## The hub -/

/-- The two sets of callbacks: the listeners and the resume listeners. -/
inductive HandleKind where
  | stream
  | resume
deriving DecidableEq

structure Handle (Callback : Type) where
  kind : HandleKind
  callback : Callback
  closed : Bool

/-- A page with a hub, and the handles that were given out. -/
structure HubState (Callback : Type) where
  callbacks : HandleKind → Finset Callback
  link : Link
  visibilityBound : Bool
  hiddenAt : Option Int
  lastCatchUpAt : Option Int
  hidden : Bool
  handles : List (Handle Callback)

/-- What to do when a page is visible again. -/
inductive ForegroundResume where
  | keepStream
  | catchUp

def ForegroundResume.forHiddenDuration (hiddenMs : Int) : ForegroundResume :=
  if 30000 ≤ hiddenMs then .catchUp else .keepStream

def ForegroundResume.shouldEmit (lastEmittedAt : Option Int) (now : Int) : Bool :=
  lastEmittedAt.all fun last => decide (2000 ≤ now - last)

/-- What happens to a hub.  The constructor of a socket may throw. -/
inductive HubEvent (Callback : Type) where
  | subscribe (onEvent : Callback) (throws : Bool)
  | subscribeResume (onResume : Callback)
  | close (handle : Nat)
  | socketOpened (socket : Nat)
  | socketClosed (socket : Nat)
  | socketError (socket : Nat)
  | timerFired (timer : Nat) (throws : Bool)
  | visibilityChange (hidden : Bool) (now : Int) (throws : Bool)
  | pageShow (persisted : Bool) (now : Int) (throws : Bool)

/-- The events of the socket and the timer, and restored pages. -/
def HubEvent.isOfConnection {Callback : Type} : HubEvent Callback → Bool
  | .socketOpened _ | .socketClosed _ | .socketError _ | .timerFired _ _ | .pageShow _ _ _ => true
  | _ => false

def closeHandle {Callback : Type} (handles : List (Handle Callback)) (index : Nat) :
    List (Handle Callback) :=
  handles.modify index fun handle => { handle with closed := true }

variable {kind : HandleKind} {index : Nat}

namespace HubState

section Functions

variable {Callback : Type} [DecidableEq Callback] (s : HubState Callback)

/-- No callbacks, on a visible page. -/
def initial : HubState Callback where
  callbacks _ := ∅
  link := ⟨none, none, 0, [], [], 0, 0⟩
  visibilityBound := false
  hiddenAt := none
  lastCatchUpAt := none
  hidden := false
  handles := []

/-- `listeners.size > 0`. -/
def listening : Bool := decide (s.callbacks .stream ≠ ∅)

def hasHolders : Bool := s.listening || decide (s.callbacks .resume ≠ ∅)

def connect (throws : Bool) : HubState Callback :=
  { s with link := s.link.connect s.listening s.hidden throws }

def releaseIfIdle : HubState Callback :=
  if s.hasHolders then s
  else
    { s with
      visibilityBound := false
      hiddenAt := none
      link := { s.link with attempt := 0 }.disconnectSocket }

def notifyCatchUp (now : Int) : HubState Callback :=
  if ForegroundResume.shouldEmit s.lastCatchUpAt now then { s with lastCatchUpAt := some now }
  else s

def becomeVisible (resume : ForegroundResume) (now : Int) (throws : Bool) : HubState Callback :=
  let link := { s.link with attempt := 0 }
  match resume with
  | .keepStream =>
    if s.listening ∧ s.link.socket = none then
      { s with hiddenAt := none, link }.connect throws
    else { s with hiddenAt := none }
  | .catchUp =>
    let link := if link.socket ≠ none then link.disconnectSocket else link
    ({ s with hiddenAt := none, link }.connect throws).notifyCatchUp now

def onVisibilityChange (now : Int) (throws : Bool) : HubState Callback :=
  if s.hidden then { s with hiddenAt := some now, link := s.link.clearReconnect }
  else
    s.becomeVisible (.forHiddenDuration (s.hiddenAt.elim 0 fun hiddenAt => now - hiddenAt)) now
      throws

/-- The callback of a subscriber is added, and the visibility is listened to. -/
def add (kind : HandleKind) (callback : Callback) : HubState Callback :=
  { s with
    callbacks := Function.update s.callbacks kind (insert callback (s.callbacks kind))
    visibilityBound := true
    handles := s.handles ++ [⟨kind, callback, false⟩] }

def subscribe (onEvent : Callback) (throws : Bool) : HubState Callback :=
  let added := s.add .stream onEvent
  if (added.callbacks .stream).card = 1 then added.connect throws else added

def subscribeResume (onResume : Callback) : HubState Callback := s.add .resume onResume

def delete (index : Nat) (handle : Handle Callback) : HubState Callback :=
  { s with
    callbacks := Function.update s.callbacks handle.kind
      ((s.callbacks handle.kind).erase handle.callback)
    handles := closeHandle s.handles index }

/-- The `close` of a handle. -/
def close (index : Nat) (handle : Handle Callback) : HubState Callback :=
  let deleted := s.delete index handle
  if handle.kind = .stream ∧ deleted.callbacks .stream = ∅ then
    { deleted with link := s.link.disconnectSocket }.releaseIfIdle
  else deleted.releaseIfIdle

/-- The listener of `close` of a socket.  The socket is no longer open. -/
def socketClosed (socket : Nat) : HubState Callback :=
  let link := { s.link with openSockets := s.link.openSockets.erase socket }
  if s.link.socket = some socket then
    { s with link := { link with socket := none }.scheduleReconnect s.listening s.hidden }
  else { s with link }

/-- The listener of `open`. -/
def socketOpened (socket : Nat) : HubState Callback :=
  if s.link.socket = some socket then { s with link := { s.link with attempt := 0 } } else s

def timerFired (timer : Nat) (throws : Bool) : HubState Callback :=
  { s with link := { s.link with
      reconnectTimer := none, timers := s.link.timers.erase timer } }.connect throws

/-- What happens, if it can. -/
def step : HubEvent Callback → Option (HubState Callback)
  | .subscribe onEvent throws => some (s.subscribe onEvent throws)
  | .subscribeResume onResume => some (s.subscribeResume onResume)
  | .close index => (s.handles[index]?).map (s.close index)
  | .socketOpened socket => some (s.socketOpened socket)
  | .socketClosed socket => some (s.socketClosed socket)
  | .socketError _ => some s
  | .timerFired timer throws =>
    if timer ∈ s.link.timers then some (s.timerFired timer throws) else none
  | .visibilityChange hidden now throws =>
    some (if s.visibilityBound then { s with hidden }.onVisibilityChange now throws
      else { s with hidden })
  | .pageShow persisted now throws =>
    some (if s.visibilityBound ∧ persisted then s.becomeVisible .catchUp now throws else s)

end Functions

/-! ## What every event keeps -/

section Invariant

variable {Callback : Type} {s t : HubState Callback}

def HasHandle (handles : List (Handle Callback)) (kind : HandleKind) (callback : Callback) : Prop :=
  ∃ handle ∈ handles, handle.kind = kind ∧ handle.callback = callback ∧ handle.closed = false

/-- The visibility is listened to while there are callbacks, each of which has an open handle. -/
structure Subscribed (s : HubState Callback) : Prop where
  bound : s.visibilityBound = true ↔ ∃ kind, s.callbacks kind ≠ ∅
  held : ∀ kind, ∀ callback ∈ s.callbacks kind, HasHandle s.handles kind callback

/-- Without listeners there is no socket and no timer. -/
structure Quiet (s : HubState Callback) : Prop where
  sound : s.link.Sound
  idle : s.callbacks .stream = ∅ → ¬s.link.IsLive

/-- With listeners, a visible page has a socket or a timer. -/
structure Connected (s : HubState Callback) : Prop extends Quiet s where
  live : s.callbacks .stream ≠ ∅ → s.hidden = false → s.link.IsLive

structure Invariant (s : HubState Callback) : Prop where
  connected : s.Connected
  subscribed : s.Subscribed

theorem initial_invariant : (initial : HubState Callback).Invariant := by
  refine ⟨⟨⟨⟨rfl, rfl⟩, ?_⟩, fun some_here => absurd rfl some_here⟩, ?_, ?_⟩
  · rintro - (socket | timer)
    · exact socket rfl
    · exact timer rfl
  · simp [initial]
  · intro kind callback mem
    cases mem

/-- What the connection does not change. -/
structure SameCallbacks (s t : HubState Callback) : Prop where
  callbacks : t.callbacks = s.callbacks
  bound : t.visibilityBound = s.visibilityBound
  handles : t.handles = s.handles
  hidden : t.hidden = s.hidden

theorem SameCallbacks.subscribed (eq : SameCallbacks s t) (subscribed : s.Subscribed) :
    t.Subscribed := by
  refine ⟨?_, ?_⟩
  · rw [eq.bound, eq.callbacks]
    exact subscribed.bound
  · rw [eq.callbacks, eq.handles]
    exact subscribed.held

theorem HasHandle.closeHandle {handles : List (Handle Callback)}
    {closing : Handle Callback} {callback : Callback}
    (has : HasHandle handles kind callback) (closed : handles[index]? = some closing)
    (other : closing.kind = kind → closing.callback ≠ callback) :
    HasHandle (closeHandle handles index) kind callback := by
  obtain ⟨handle, mem, ofKind, ofCallback, isOpen⟩ := has
  obtain ⟨own, here⟩ := List.getElem?_of_mem mem
  refine ⟨handle, List.mem_of_getElem? (i := own) ?_, ofKind, ofCallback, isOpen⟩
  have apart : index ≠ own := by
    rintro rfl
    rw [here, Option.some.injEq] at closed
    subst closed
    exact other ofKind ofCallback
  rw [WebUi.closeHandle, List.getElem?_modify, here]
  exact congrArg some (if_neg apart)

theorem Connected.socketOpened (conn : s.Connected) (socket : Nat) :
    (s.socketOpened socket).Connected := by
  rw [HubState.socketOpened]
  split_ifs
  · exact ⟨⟨⟨conn.sound.openSockets, conn.sound.timers⟩, conn.idle⟩, conn.live⟩
  · exact conn

variable [DecidableEq Callback]

theorem hasHolders_iff : s.hasHolders = true ↔ ∃ kind, s.callbacks kind ≠ ∅ := by
  rw [hasHolders, listening, Bool.or_eq_true, decide_eq_true_eq, decide_eq_true_eq]
  constructor
  · exact fun holders => holders.elim (fun here => ⟨.stream, here⟩) fun here => ⟨.resume, here⟩
  · rintro ⟨kind, here⟩
    cases kind with
    | stream => exact .inl here
    | resume => exact .inr here

theorem callbacks_add_self (kind : HandleKind) (callback : Callback) :
    (s.add kind callback).callbacks kind = insert callback (s.callbacks kind) :=
  Function.update_self _ _ _

theorem callbacks_add_of_ne {kind other : HandleKind} (apart : other ≠ kind) (callback : Callback) :
    (s.add kind callback).callbacks other = s.callbacks other :=
  Function.update_of_ne apart _ _

theorem callbacks_delete_self (index : Nat) (handle : Handle Callback) :
    (s.delete index handle).callbacks handle.kind
      = (s.callbacks handle.kind).erase handle.callback :=
  Function.update_self _ _ _

variable {handle : Handle Callback} {ev : HubEvent Callback}

theorem callbacks_delete_of_ne
    (apart : kind ≠ handle.kind) (index : Nat) :
    (s.delete index handle).callbacks kind = s.callbacks kind :=
  Function.update_of_ne apart _ _

/-! ### The connection -/

/-- Once connected, a hub has what it needs. -/
theorem Quiet.connect (quiet : s.Quiet) (throws : Bool) : (s.connect throws).Connected := by
  refine ⟨⟨quiet.sound.connect, fun none_here => ?_⟩, fun some_here visible => ?_⟩
  · have idle : s.listening = false := decide_eq_false (not_not.mpr none_here)
    have eq : s.link.connect s.listening s.hidden throws = s.link := by
      rw [idle, Link.connect_of_idle]
    rw [HubState.connect, eq]
    exact quiet.idle none_here
  · have listens : s.listening = true := decide_eq_true some_here
    have seen : s.hidden = false := visible
    rw [HubState.connect, listens, seen]
    exact Link.isLive_connect

theorem Quiet.becomeVisible (quiet : s.Quiet) (resume : ForegroundResume) (now : Int)
    (throws : Bool) : (s.becomeVisible resume now throws).Connected := by
  cases resume with
  | keepStream =>
    have restarted : Quiet { s with hiddenAt := none, link := { s.link with attempt := 0 } } :=
      ⟨⟨quiet.sound.openSockets, quiet.sound.timers⟩, quiet.idle⟩
    rw [HubState.becomeVisible]
    split_ifs with dead
    · exact restarted.connect throws
    · refine ⟨⟨quiet.sound, quiet.idle⟩, fun some_here _ => .inl fun gone => ?_⟩
      exact dead ⟨decide_eq_true some_here, gone⟩
  | catchUp =>
    have notified : ∀ s : HubState Callback, s.Connected → (s.notifyCatchUp now).Connected := by
      intro s conn
      rw [notifyCatchUp]
      split_ifs
      · exact ⟨⟨conn.sound, conn.idle⟩, conn.live⟩
      · exact conn
    refine notified _ (Quiet.connect ?_ throws)
    split_ifs
    · exact ⟨Link.Sound.disconnectSocket ⟨quiet.sound.openSockets, quiet.sound.timers⟩,
        fun _ => Link.not_isLive_disconnectSocket⟩
    · exact ⟨⟨quiet.sound.openSockets, quiet.sound.timers⟩, quiet.idle⟩

theorem Quiet.onVisibilityChange (quiet : s.Quiet) (now : Int) (throws : Bool) :
    (s.onVisibilityChange now throws).Connected := by
  rw [HubState.onVisibilityChange]
  split_ifs with hidden
  · refine ⟨⟨quiet.sound.clearReconnect, fun none_here => ?_⟩, fun _ visible => ?_⟩
    · rintro (socket | timer)
      · exact quiet.idle none_here (.inl socket)
      · exact timer rfl
    · have seen : s.hidden = false := visible
      rw [hidden] at seen
      cases seen
  · exact quiet.becomeVisible _ now throws

theorem Connected.releaseIfIdle (conn : s.Connected) : s.releaseIfIdle.Connected := by
  rw [HubState.releaseIfIdle]
  split_ifs with holders
  · exact conn
  · refine ⟨⟨Link.Sound.disconnectSocket ⟨conn.sound.openSockets, conn.sound.timers⟩,
      fun _ => Link.not_isLive_disconnectSocket⟩, fun some_here _ => ?_⟩
    exact absurd (hasHolders_iff.mpr ⟨.stream, some_here⟩) holders

theorem Connected.subscribe (conn : s.Connected) (onEvent : Callback) (throws : Bool) :
    (s.subscribe onEvent throws).Connected := by
  have added := @callbacks_add_self _ s _ .stream onEvent
  have quiet : (s.add .stream onEvent).Quiet :=
    ⟨conn.sound, fun none_here => absurd (added ▸ none_here) (Finset.insert_ne_empty _ _)⟩
  rw [HubState.subscribe]
  split_ifs with first
  · exact quiet.connect throws
  · refine ⟨quiet, fun _ visible => conn.live (fun empty => first ?_) visible⟩
    rw [added, empty, insert_empty_eq, Finset.card_singleton]

theorem Connected.subscribeResume (conn : s.Connected) (onResume : Callback) :
    (s.subscribeResume onResume).Connected := by
  have eq : (s.subscribeResume onResume).callbacks .stream = s.callbacks .stream :=
    callbacks_add_of_ne (by decide) onResume
  refine ⟨⟨conn.sound, ?_⟩, ?_⟩
  · rw [eq]
    exact conn.idle
  · rw [eq]
    exact conn.live

theorem Connected.close (conn : s.Connected) (index : Nat) (handle : Handle Callback) :
    (s.close index handle).Connected := by
  rw [HubState.close]
  split_ifs with last
  · refine Connected.releaseIfIdle ⟨⟨conn.sound.disconnectSocket,
      fun _ => Link.not_isLive_disconnectSocket⟩, fun some_here => absurd last.2 some_here⟩
  · refine Connected.releaseIfIdle ?_
    by_cases ofKind : handle.kind = .stream
    · refine ⟨⟨conn.sound, fun none_here => absurd ⟨ofKind, none_here⟩ last⟩,
        fun some_here => conn.live fun none_here => some_here ?_⟩
      rw [← ofKind, callbacks_delete_self, ofKind, none_here, Finset.erase_empty]
    · have eq : (s.delete index handle).callbacks .stream = s.callbacks .stream :=
        callbacks_delete_of_ne (fun isStream => ofKind isStream.symm) index
      refine ⟨⟨conn.sound, ?_⟩, ?_⟩
      · rw [eq]
        exact conn.idle
      · rw [eq]
        exact conn.live

theorem Connected.socketClosed (conn : s.Connected) (socket : Nat) :
    (s.socketClosed socket).Connected := by
  have opened := conn.sound.openSockets
  rw [HubState.socketClosed]
  split_ifs with cur
  · have sound : Link.Sound { s.link with
        socket := none, openSockets := s.link.openSockets.erase socket } := by
      refine ⟨?_, conn.sound.timers⟩
      rw [opened, cur]
      simp
    refine ⟨⟨sound.scheduleReconnect, fun none_here => ?_⟩, fun some_here visible => ?_⟩
    · have idle : s.listening = false := decide_eq_false (not_not.mpr none_here)
      rw [idle, Link.scheduleReconnect_of_idle]
      rintro (again | timer)
      · exact again rfl
      · exact conn.idle none_here (.inr timer)
    · have listens : s.listening = true := decide_eq_true some_here
      have seen : s.hidden = false := visible
      rw [listens, seen]
      exact Link.isLive_scheduleReconnect
  · refine ⟨⟨⟨?_, conn.sound.timers⟩, conn.idle⟩, conn.live⟩
    refine (List.erase_of_not_mem ?_).trans opened
    rw [opened, Option.mem_toList]
    exact cur

theorem Connected.timerFired (conn : s.Connected) {timer : Nat}
    (set : timer ∈ s.link.timers) (throws : Bool) :
    (s.timerFired timer throws).Connected := by
  have own : s.link.reconnectTimer = some timer := by
    rw [conn.sound.timers, Option.mem_toList] at set
    exact set
  have quiet : Quiet { s with link := { s.link with
      reconnectTimer := none, timers := s.link.timers.erase timer } } := by
    refine ⟨⟨conn.sound.openSockets, ?_⟩, fun none_here => ?_⟩
    · rw [conn.sound.timers, own]
      simp
    · rintro (socket | again)
      · exact conn.idle none_here (.inl socket)
      · exact again rfl
  exact quiet.connect throws

theorem Connected.step (conn : s.Connected)
    (subscribed : s.Subscribed) (taken : s.step ev = some t) : t.Connected := by
  cases ev with
  | subscribe onEvent throws =>
    cases taken
    exact conn.subscribe onEvent throws
  | subscribeResume onResume =>
    cases taken
    exact conn.subscribeResume onResume
  | close index =>
    obtain ⟨handle, got, rfl⟩ := Option.map_eq_some_iff.mp taken
    exact conn.close index handle
  | socketOpened socket =>
    cases taken
    exact conn.socketOpened socket
  | socketClosed socket =>
    cases taken
    exact conn.socketClosed socket
  | socketError socket =>
    cases taken
    exact conn
  | timerFired timer throws =>
    rw [HubState.step] at taken
    split_ifs at taken with set
    cases taken
    exact conn.timerFired set throws
  | visibilityChange hidden now throws =>
    cases taken
    have quiet : Quiet { s with hidden } := ⟨conn.sound, conn.idle⟩
    split_ifs with bound
    · exact quiet.onVisibilityChange now throws
    · refine ⟨quiet, fun some_here _ => ?_⟩
      exact absurd (subscribed.bound.mpr ⟨.stream, some_here⟩) bound
  | pageShow persisted now throws =>
    cases taken
    split_ifs
    · exact conn.toQuiet.becomeVisible .catchUp now throws
    · exact conn

/-! ### The callbacks -/

theorem sameCallbacks_connect (throws : Bool) : SameCallbacks s (s.connect throws) :=
  ⟨rfl, rfl, rfl, rfl⟩

theorem sameCallbacks_becomeVisible (resume : ForegroundResume) (now : Int) (throws : Bool) :
    SameCallbacks s (s.becomeVisible resume now throws) := by
  cases resume with
  | keepStream =>
    rw [becomeVisible]
    split_ifs <;> exact ⟨rfl, rfl, rfl, rfl⟩
  | catchUp =>
    rw [becomeVisible]
    dsimp only
    rw [notifyCatchUp]
    split_ifs <;> exact ⟨rfl, rfl, rfl, rfl⟩

/-- The events of sockets and timers, and restored pages, leave the callbacks alone. -/
theorem sameCallbacks_of_step
    (inner : ev.isOfConnection = true) (taken : s.step ev = some t) : SameCallbacks s t := by
  cases ev with
  | subscribe | subscribeResume | close | visibilityChange => cases inner
  | socketOpened socket =>
    cases taken
    rw [socketOpened]
    split_ifs <;> exact ⟨rfl, rfl, rfl, rfl⟩
  | socketClosed socket =>
    cases taken
    rw [socketClosed]
    split_ifs <;> exact ⟨rfl, rfl, rfl, rfl⟩
  | socketError socket =>
    cases taken
    exact ⟨rfl, rfl, rfl, rfl⟩
  | timerFired timer throws =>
    rw [HubState.step] at taken
    split_ifs at taken
    cases taken
    exact ⟨rfl, rfl, rfl, rfl⟩
  | pageShow persisted now throws =>
    cases taken
    split_ifs
    · exact sameCallbacks_becomeVisible .catchUp now throws
    · exact ⟨rfl, rfl, rfl, rfl⟩

theorem sameCallbacks_visibilityChange {hidden : Bool} {now : Int} {throws : Bool}
    (taken : s.step (.visibilityChange hidden now throws) = some t) :
    SameCallbacks { s with hidden } t := by
  cases taken
  split_ifs with bound
  · rw [onVisibilityChange]
    split_ifs
    · exact ⟨rfl, rfl, rfl, rfl⟩
    · exact sameCallbacks_becomeVisible _ now throws
  · exact ⟨rfl, rfl, rfl, rfl⟩

theorem frame_releaseIfIdle : s.releaseIfIdle.callbacks = s.callbacks
    ∧ s.releaseIfIdle.hidden = s.hidden ∧ s.releaseIfIdle.handles = s.handles := by
  rw [releaseIfIdle]
  split_ifs <;> exact ⟨rfl, rfl, rfl⟩

/-- What is left when a handle was closed. -/
theorem frame_close (index : Nat) (handle : Handle Callback) :
    (s.close index handle).callbacks = (s.delete index handle).callbacks
      ∧ (s.close index handle).hidden = s.hidden
      ∧ (s.close index handle).handles = closeHandle s.handles index := by
  rw [close]
  split_ifs <;> exact frame_releaseIfIdle

theorem Subscribed.releaseIfIdle (bound : (∃ kind, s.callbacks kind ≠ ∅) → s.visibilityBound = true)
    (held : ∀ kind, ∀ callback ∈ s.callbacks kind, HasHandle s.handles kind callback) :
    s.releaseIfIdle.Subscribed := by
  rw [HubState.releaseIfIdle]
  split_ifs with holders
  · exact ⟨⟨fun _ => hasHolders_iff.mp holders, bound⟩, held⟩
  · refine ⟨⟨fun isBound => ?_, fun isHeld => ?_⟩, held⟩
    · cases isBound
    · exact absurd (hasHolders_iff.mpr isHeld) holders

theorem Subscribed.close (subscribed : s.Subscribed)
    (got : s.handles[index]? = some handle) : (s.close index handle).Subscribed := by
  have stays : ∀ kind, (s.delete index handle).callbacks kind ⊆ s.callbacks kind := by
    intro kind
    by_cases own : kind = handle.kind
    · rw [own, callbacks_delete_self]
      exact Finset.erase_subset _ _
    · rw [callbacks_delete_of_ne own]
  have bound : (∃ kind, (s.delete index handle).callbacks kind ≠ ∅) → s.visibilityBound = true := by
    rintro ⟨kind, some_here⟩
    refine subscribed.bound.mpr ⟨kind, fun none_here => some_here ?_⟩
    exact Finset.subset_empty.mp (none_here ▸ stays kind)
  have held : ∀ kind, ∀ callback ∈ (s.delete index handle).callbacks kind,
      HasHandle (closeHandle s.handles index) kind callback := by
    intro kind callback mem
    refine (subscribed.held kind callback (stays kind mem)).closeHandle got ?_
    rintro rfl eq
    rw [callbacks_delete_self] at mem
    exact (Finset.mem_erase.mp mem).1 eq.symm
  rw [HubState.close]
  split_ifs
  · exact Subscribed.releaseIfIdle bound held
  · exact Subscribed.releaseIfIdle bound held

theorem Subscribed.add (subscribed : s.Subscribed) (kind : HandleKind) (callback : Callback) :
    (s.add kind callback).Subscribed := by
  refine ⟨⟨fun _ => ⟨kind, ?_⟩, fun _ => rfl⟩, fun other held mem => ?_⟩
  · rw [callbacks_add_self]
    exact Finset.insert_ne_empty _ _
  · have pre : held ∈ s.callbacks other → HasHandle (s.add kind callback).handles other held := by
      intro prior
      obtain ⟨handle, inside, isOpen⟩ := subscribed.held other held prior
      exact ⟨handle, List.mem_append_left _ inside, isOpen⟩
    by_cases own : other = kind
    · subst own
      rw [callbacks_add_self] at mem
      rcases Finset.mem_insert.mp mem with rfl | prior
      · exact ⟨_, List.mem_append_right _ (List.mem_singleton_self _), rfl, rfl, rfl⟩
      · exact pre prior
    · rw [callbacks_add_of_ne own] at mem
      exact pre mem

theorem Subscribed.step (subscribed : s.Subscribed)
    (taken : s.step ev = some t) : t.Subscribed := by
  cases inner : ev.isOfConnection with
  | true => exact (sameCallbacks_of_step inner taken).subscribed subscribed
  | false =>
    cases ev with
    | subscribe onEvent throws =>
      cases taken
      have added := subscribed.add .stream onEvent
      rw [subscribe]
      split_ifs
      · exact (sameCallbacks_connect throws).subscribed added
      · exact added
    | subscribeResume onResume =>
      cases taken
      exact subscribed.add .resume onResume
    | close index =>
      obtain ⟨handle, got, rfl⟩ := Option.map_eq_some_iff.mp taken
      exact subscribed.close got
    | visibilityChange hidden now throws =>
      exact (sameCallbacks_visibilityChange taken).subscribed ⟨subscribed.bound, subscribed.held⟩
    | socketOpened | socketClosed | socketError | timerFired | pageShow => cases inner

theorem Invariant.step (inv : s.Invariant) (taken : s.step ev = some t) : t.Invariant :=
  ⟨inv.connected.step inv.subscribed taken, inv.subscribed.step taken⟩

end Invariant

/-! ## When the events stream -/

section Streams

variable {Callback : Type} {s t : HubState Callback}

def NoneOpen (handles : List (Handle Callback)) (kind : HandleKind) : Prop :=
  ∀ handle ∈ handles, handle.kind = kind → handle.closed = true

theorem NoneOpen.closeHandle {handles : List (Handle Callback)}
    (closed : NoneOpen handles kind) (index : Nat) : NoneOpen (closeHandle handles index) kind := by
  intro handle mem ofKind
  obtain ⟨own, here⟩ := List.getElem?_of_mem mem
  rw [WebUi.closeHandle, List.getElem?_modify] at here
  obtain ⟨pre, got, eq⟩ := Option.map_eq_some_iff.mp here
  by_cases own_here : index = own
  · rw [if_pos own_here] at eq
    rw [← eq]
  · rw [if_neg own_here] at eq
    subst eq
    exact closed pre (List.mem_of_getElem? got) ofKind

/-- While a subscriber has an open handle, a visible page has a socket or waits for one. -/
def Streams (s : HubState Callback) : Prop :=
  ¬NoneOpen s.handles .stream → s.hidden = false → s.link.IsLive

theorem streams_iff (conn : s.Connected) :
    s.Streams ↔ s.hidden = true ∨ s.callbacks .stream ≠ ∅ ∨ NoneOpen s.handles .stream := by
  constructor
  · intro streams
    by_contra stuck
    rw [not_or, not_or, not_not, Bool.not_eq_true] at stuck
    exact conn.idle stuck.2.1 (streams stuck.2.2 stuck.1)
  · rintro (hidden | some_here | closed) isOpen visible
    · rw [hidden] at visible
      cases visible
    · exact conn.live some_here visible
    · exact absurd closed isOpen

variable [DecidableEq Callback]

/-- A callback is left whenever a handle of a subscriber is closed on a visible page and whenever
the page becomes visible, unless no other subscriber has an open handle. -/
def KeepsListener (s : HubState Callback) : HubEvent Callback → Prop
  | .close index => ∀ handle, s.handles[index]? = some handle → handle.kind = .stream →
      s.hidden = true ∨ (s.callbacks .stream).erase handle.callback ≠ ∅
        ∨ NoneOpen (closeHandle s.handles index) .stream
  | .visibilityChange hidden _ _ =>
    hidden = true ∨ s.callbacks .stream ≠ ∅ ∨ NoneOpen s.handles .stream
  | _ => True

/-- After each event a callback is left, unless none is needed, exactly under the condition. -/
theorem streams_step_iff {event : HubEvent Callback} (inv : s.Invariant)
    (streams : s.Streams) (taken : s.step event = some t) :
    t.Streams ↔ KeepsListener s event := by
  have post := streams_iff (inv.step taken).connected
  rw [streams_iff inv.connected] at streams
  cases inner : event.isOfConnection with
  | true =>
    have eq := sameCallbacks_of_step inner taken
    rw [post, eq.hidden, eq.callbacks, eq.handles]
    refine iff_of_true streams ?_
    cases event <;> trivial
  | false =>
    cases event with
    | subscribe onEvent throws =>
      cases taken
      refine iff_of_true (post.mpr (.inr (.inl ?_))) trivial
      have added : (s.subscribe onEvent throws).callbacks = (s.add .stream onEvent).callbacks := by
        rw [subscribe]
        split_ifs <;> rfl
      rw [added, callbacks_add_self]
      exact Finset.insert_ne_empty _ _
    | subscribeResume onResume =>
      cases taken
      refine iff_of_true (post.mpr ?_) trivial
      rw [subscribeResume, callbacks_add_of_ne (by decide)]
      refine streams.imp_right fun kept => kept.imp_right fun closed handle mem ofKind => ?_
      rcases List.mem_append.mp mem with pre | added
      · exact closed handle pre ofKind
      · rw [List.mem_singleton.mp added] at ofKind
        cases ofKind
    | close index =>
      obtain ⟨handle, got, rfl⟩ := Option.map_eq_some_iff.mp taken
      obtain ⟨callbacks, hidden, handles⟩ := @frame_close _ s _ index handle
      rw [post, callbacks, hidden, handles]
      by_cases ofKind : handle.kind = .stream
      · rw [← ofKind, callbacks_delete_self, ofKind]
        constructor
        · intro kept other eq _
          rw [got, Option.some.injEq] at eq
          exact eq ▸ kept
        · exact fun kept => kept handle got ofKind
      · rw [callbacks_delete_of_ne fun isStream => ofKind isStream.symm]
        refine iff_of_true (streams.imp_right fun kept =>
          kept.imp_right fun closed => closed.closeHandle index) ?_
        intro other eq isStream
        rw [got, Option.some.injEq] at eq
        exact absurd (eq ▸ isStream) ofKind
    | visibilityChange hidden now throws =>
      have eq := sameCallbacks_visibilityChange taken
      rw [post, eq.hidden, eq.callbacks, eq.handles]
      rfl
    | socketOpened | socketClosed | socketError | timerFired | pageShow => cases inner

/-- **Once every handle is closed there is no socket, no timer and no listener; until then a
visible page has a socket or waits for one, exactly if callbacks are left as above.** -/
theorem hub_streams_iff {trace : List (Transition (HubState Callback) (HubEvent Callback))}
    {finish : HubState Callback}
    (run : Run (fun before event after => before.step event = some after) initial trace finish) :
    (finish.link.openSockets.length ≤ 1
        ∧ ∀ socket ∈ finish.link.openSockets, finish.link.socket = some socket)
      ∧ ((∀ handle ∈ finish.handles, handle.closed = true) → finish.link.socket = none
        ∧ finish.link.timers = [] ∧ finish.visibilityBound = false)
      ∧ (Throughout (fun _ _ after => after.Streams) trace ↔ Along KeepsListener trace) := by
  have inv : finish.Invariant :=
    run.invariant_of_step initial_invariant fun before taken => before.step taken
  obtain ⟨conn, subscribed⟩ := inv
  refine ⟨⟨?_, fun socket isOpen => ?_⟩, fun closed => ?_, ?_⟩
  · rw [conn.sound.openSockets]
    cases finish.link.socket with
    | none => exact Nat.zero_le 1
    | some socket => exact Nat.le_refl 1
  · rw [conn.sound.openSockets, Option.mem_toList] at isOpen
    exact isOpen
  · have unheld : ∀ kind, finish.callbacks kind = ∅ := by
      intro kind
      refine Finset.eq_empty_of_forall_notMem fun callback mem => ?_
      obtain ⟨handle, inside, -, -, isOpen⟩ := subscribed.held kind callback mem
      rw [closed handle inside] at isOpen
      cases isOpen
    have dead := conn.idle (unheld .stream)
    rw [Link.IsLive, not_or, not_not, not_not] at dead
    refine ⟨dead.1, ?_, ?_⟩
    · rw [conn.sound.timers, dead.2]
      rfl
    · rw [Bool.eq_false_iff, Ne, subscribed.bound]
      rintro ⟨kind, some_here⟩
      exact some_here (unheld kind)
  · exact (run.throughout_iff_along_of_invariant initial_invariant
      (fun isOpen => absurd (fun handle mem => by cases mem) isOpen)
      (fun inv taken => inv.step taken)
      fun inv streams taken => streams_step_iff inv streams taken).1

end Streams

/-! ## One callback, two handles -/

/-- Two subscribers, a hidden page that comes back, a socket that is lost and opened again. -/
def quietPage : List (HubEvent Nat) :=
  [.subscribe 1 false, .socketOpened 0, .subscribe 2 true, .visibilityChange true 0 false,
    .visibilityChange false 40000 false, .socketClosed 1, .timerFired 0 false, .close 0, .close 1]

/-- One callback is subscribed twice, and one of its handles is closed. -/
def closedTwin : List (HubEvent Nat) := [.subscribe 1 false, .subscribe 1 false, .close 0]

theorem hub_streams_two_subscribers :
    ∃ trace finish, Run (fun (before : HubState Nat) event after => before.step event = some after)
        initial trace finish
      ∧ finish.link.created = 3 ∧ finish.link.socket = none ∧ finish.visibilityBound = false := by
  have reach : (runWhere step (fun _ _ => True) quietPage initial).isSome = true := by decide
  obtain ⟨final, ran⟩ := Option.isSome_iff_exists.mp reach
  obtain ⟨trace, run, -⟩ := exists_run_of_runWhere ran
  obtain rfl := Option.some.inj ran
  have released := (hub_streams_iff run).2.1 (by decide)
  exact ⟨trace, _, run, by decide, released.1, released.2.2⟩

/-- **The other handle is open, but the page has no socket and waits for none.** -/
theorem twin_handle_stays_dead :
    ∃ trace finish, Run (fun (before : HubState Nat) event after => before.step event = some after)
        initial trace finish ∧ ¬finish.Streams := by
  have reach : (runWhere step (fun _ _ => True) closedTwin initial).isSome = true := by decide
  obtain ⟨final, ran⟩ := Option.isSome_iff_exists.mp reach
  obtain ⟨trace, run, -⟩ := exists_run_of_runWhere ran
  obtain rfl := Option.some.inj ran
  have isOpen : ¬NoneOpen [⟨.stream, 1, true⟩, (⟨.stream, 1, false⟩ : Handle Nat)] .stream := by
    intro closed
    cases closed ⟨.stream, 1, false⟩ (List.mem_cons_of_mem _ (List.mem_cons_self ..)) rfl
  refine ⟨trace, _, run, fun streams => ?_⟩
  rcases streams isOpen rfl with socket | timer
  · exact socket rfl
  · exact timer rfl

end HubState

end Cfwdon.WebUi
