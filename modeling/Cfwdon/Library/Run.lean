import Mathlib.Data.List.Basic
import Mathlib.Logic.Function.Basic

/-!
# Runs of a labelled transition system

Runs with their invariant rules, and components that share a cell.
-/

namespace Cfwdon.Library

section Run

/-! ## Runs of a labelled transition system

A system is a relation `step before event after`.  A run lists the transitions
taken, each with the states around it, so a property of single steps and a
condition on single steps can both be asked along a run.

* `Run.forall_transitions` -- under such an invariant, what one step guarantees
  holds of every transition of the run.
-/

variable {State Event : Type*}

/-- One step taken: the states around it and its event. -/
structure Transition (State Event : Type*) where
  before : State
  event : Event
  after : State

inductive Run (step : State → Event → State → Prop) (start : State) :
    List (Transition State Event) → State → Prop where
  | start : Run step start [] start
  | snoc {trace : List (Transition State Event)} {before after : State} {event : Event}
      (run : Run step start trace before) (taken : step before event after) :
      Run step start (trace ++ [⟨before, event, after⟩]) after

def Along (condition : State → Event → Prop) (trace : List (Transition State Event)) : Prop :=
  ∀ transition ∈ trace, condition transition.before transition.event

def Throughout (property : State → Event → State → Prop)
    (trace : List (Transition State Event)) : Prop :=
  ∀ transition ∈ trace, property transition.before transition.event transition.after

theorem Along.nil {condition : State → Event → Prop} : Along condition [] :=
  fun _ mem => by cases mem

variable {move : Transition State Event}

theorem Along.snoc_iff {condition : State → Event → Prop}
    {trace : List (Transition State Event)} :
    Along condition (trace ++ [move])
      ↔ Along condition trace ∧ condition move.before move.event := by
  simp [Along, or_imp, forall_and]

theorem Throughout.snoc_iff {prop : State → Event → State → Prop}
    {trace : List (Transition State Event)} :
    Throughout prop (trace ++ [move])
      ↔ Throughout prop trace ∧ prop move.before move.event move.after := by
  simp [Throughout, or_imp, forall_and]

theorem snoc_eq_append_cons_iff {α : Type*} {xs prior later : List α} {x y : α} :
    xs ++ [x] = prior ++ y :: later
      ↔ (xs = prior ∧ x = y ∧ later = [])
        ∨ ∃ rest, later = rest ++ [x] ∧ xs = prior ++ y :: rest := by
  rcases List.eq_nil_or_concat later with rfl | ⟨rest, last, rfl⟩
  · rw [List.append_singleton_inj]
    simp
  · rw [List.concat_eq_append, ← List.cons_append, ← List.append_assoc, List.append_singleton_inj]
    constructor
    · rintro ⟨eq, rfl⟩
      exact Or.inr ⟨rest, rfl, eq⟩
    · rintro (⟨_, _, noLater⟩ | ⟨rest', sameRest, eq⟩)
      · simp at noLater
      · obtain ⟨rfl, rfl⟩ := List.append_singleton_inj.mp sameRest
        exact ⟨eq, rfl⟩

/-- Every transition of the trace is taken under the condition, which may look at what was
taken before it. -/
def AlongHistory (condition : List (Transition State Event) → State → Event → Prop)
    (trace : List (Transition State Event)) : Prop :=
  ∀ earlier transition later, trace = earlier ++ transition :: later →
    condition earlier transition.before transition.event

theorem AlongHistory.nil {condition : List (Transition State Event) → State → Event → Prop} :
    AlongHistory condition [] := by
  intro prior move later split
  simp at split

theorem AlongHistory.snoc_iff
    {condition : List (Transition State Event) → State → Event → Prop}
    {trace : List (Transition State Event)} :
    AlongHistory condition (trace ++ [move])
      ↔ AlongHistory condition trace ∧ condition trace move.before move.event := by
  constructor
  · intro met
    refine ⟨fun prior former later split => ?_, met trace move [] rfl⟩
    apply met prior former (later ++ [move])
    rw [split, List.append_assoc, List.cons_append]
  · rintro ⟨met, last⟩ prior former later split
    rcases snoc_eq_append_cons_iff.mp split with ⟨rfl, rfl, _⟩ | ⟨rest, _, within⟩
    · exact last
    · exact met prior former rest within

namespace Run

variable {step : State → Event → State → Prop} {start finish : State}
  {trace : List (Transition State Event)} {condition : State → Event → Prop}
  {Inv : State → Prop}

/-- **The invariant rule**, for runs whose steps all meet a condition. -/
theorem invariant (run : Run step start trace finish)
    (init : Inv start)
    (preserved : ∀ {before event after}, Inv before → condition before event →
      step before event after → Inv after)
    (met : Along condition trace) : Inv finish := by
  induction run with
  | start => exact init
  | snoc _ taken ih =>
    obtain ⟨prior, last⟩ := Along.snoc_iff.mp met
    exact preserved (ih prior) last taken

theorem exists_of_mem (run : Run step start trace finish) {move : Transition State Event}
    (mem : move ∈ trace) :
    ∃ prior, Run step start (prior ++ [move]) move.after ∧ prior ++ [move] <+: trace := by
  induction run with
  | start => cases mem
  | @snoc trace pre post event earlierRun taken ih =>
    rcases List.mem_append.mp mem with former | last
    · obtain ⟨prior, ended, begins⟩ := ih former
      exact ⟨prior, ended, begins.trans (List.prefix_append _ _)⟩
    · obtain rfl := List.mem_singleton.mp last
      exact ⟨trace, earlierRun.snoc taken, List.prefix_rfl⟩

/-- **What every step keeps holds from its first state on.** -/
theorem absorbed (run : Run step start trace finish)
    (keeps : ∀ {before event after}, Inv before → step before event after → Inv after)
    {earlier later : List (Transition State Event)} {move : Transition State Event}
    (split : trace = earlier ++ move :: later) (holds : Inv move.after) :
    Inv finish ∧ ∀ next ∈ later, Inv next.before := by
  induction run generalizing later with
  | start => simp at split
  | snoc _ taken ih =>
    rcases snoc_eq_append_cons_iff.mp split with ⟨_, rfl, rfl⟩ | ⟨rest, rfl, within⟩
    · exact ⟨holds, fun next mem => by cases mem⟩
    · obtain ⟨middle, before⟩ := ih within
      refine ⟨keeps middle taken, fun next mem => ?_⟩
      rcases List.mem_append.mp mem with former | last
      · exact before next former
      · obtain rfl := List.mem_singleton.mp last
        exact middle

variable {prop : State → Event → State → Prop} {Good : State → Prop}

theorem forall_transitions
    (run : Run step start trace finish) (init : Inv start)
    (preserved : ∀ {before event after}, Inv before → condition before event →
      step before event after → Inv after)
    (guaranteed : ∀ {before event after}, Inv before → condition before event →
      step before event after → prop before event after)
    (met : Along condition trace) : Throughout prop trace := by
  induction run with
  | start =>
    intro move mem
    cases mem
  | snoc earlierRun taken ih =>
    obtain ⟨prior, last⟩ := Along.snoc_iff.mp met
    have holds := earlierRun.invariant init preserved prior
    exact Throughout.snoc_iff.mpr ⟨ih prior, guaranteed holds last taken⟩

theorem invariant_of_step (run : Run step start trace finish)
    (init : Inv start)
    (preserved : ∀ {before event after}, Inv before → step before event after → Inv after) :
    Inv finish := by
  have met : Along (fun _ _ => True) trace := fun _ _ => trivial
  exact run.invariant init (fun holds _ taken => preserved holds taken) met

/-- **Exact conditions lift to runs.**  If a step has the property exactly under
the condition, a run has it throughout exactly when it meets the condition
throughout. -/
theorem throughout_iff_along
    (run : Run step start trace finish)
    (exactly : ∀ {before event after}, step before event after →
      (prop before event after ↔ condition before event)) :
    Throughout prop trace ↔ Along condition trace := by
  induction run with
  | start => simp [Throughout, Along]
  | snoc _ taken ih =>
    rw [Throughout.snoc_iff, Along.snoc_iff, ih, exactly taken]

theorem throughout_iff_along_from_good
    (run : Run step start trace finish) (good : Good start)
    (exactly : ∀ {before event after}, Good before → step before event after →
      (prop before event after ↔ condition before event))
    (keeps : ∀ {before event after}, Good before → step before event after →
      prop before event after → Good after) :
    (Throughout prop trace ↔ Along condition trace) ∧ (Along condition trace → Good finish) := by
  induction run with
  | start => exact ⟨by simp [Throughout, Along], fun _ => good⟩
  | snoc _ taken ih =>
    obtain ⟨prior, goodBefore⟩ := ih
    rw [Throughout.snoc_iff, Along.snoc_iff, prior]
    refine ⟨and_congr_right fun met => exactly (goodBefore met) taken, ?_⟩
    rintro ⟨met, last⟩
    have holds := (exactly (goodBefore met) taken).mpr last
    exact keeps (goodBefore met) taken holds

/-- The same under an invariant, for a property of transitions that keeps a property
of states: if a step from a good state has the property exactly under the condition,
a run has it throughout exactly when it meets the condition throughout, and then ends
in a good state. -/
theorem throughout_iff_along_keeping
    (run : Run step start trace finish) (init : Inv start) (good : Good start)
    (preserved : ∀ {pre event post}, Inv pre → step pre event post → Inv post)
    (keeps : ∀ {pre event post}, prop pre event post → Good post)
    (exactly : ∀ {pre event post}, Inv pre → Good pre → step pre event post →
      (prop pre event post ↔ condition pre event)) :
    (Throughout prop trace ↔ Along condition trace) ∧ (Along condition trace → Good finish) := by
  have both : (Throughout prop trace ↔ Along condition trace)
      ∧ (Along condition trace → Inv finish ∧ Good finish) := by
    apply run.throughout_iff_along_from_good
    · exact ⟨init, good⟩
    · intro pre event post holds taken
      exact exactly holds.1 holds.2 taken
    · intro pre event post holds taken kept
      exact ⟨preserved holds.1 taken, keeps kept⟩
  exact ⟨both.1, fun met => (both.2 met).2⟩

theorem throughout_iff_along_of_invariant
    (run : Run step start trace finish) (init : Inv start) (good : Good start)
    (preserved : ∀ {before event post}, Inv before → step before event post → Inv post)
    (exactly : ∀ {before event post}, Inv before → Good before → step before event post →
      (Good post ↔ condition before event)) :
    (Throughout (fun _ _ post => Good post) trace ↔ Along condition trace)
      ∧ (Along condition trace → Good finish) :=
  run.throughout_iff_along_keeping init good preserved (fun kept => kept) exactly

end Run

/-! ## Running a step function -/

section StepFunction

variable (next : State → Event → Option State) (condition : State → Event → Prop)
  [∀ state event, Decidable (condition state event)]

/-- Take the events in order, as long as each can be taken under the condition. -/
def runWhere : List Event → State → Option State
  | [], state => some state
  | event :: later, state =>
    if condition state event then (next state event).bind (runWhere later) else none

variable {next condition}

theorem extends_run_of_runWhere {start pre final : State} {events : List Event}
    {trace : List (Transition State Event)}
    (run : Run (fun pre event post => next pre event = some post) start trace pre)
    (met : Along condition trace) (ran : runWhere next condition events pre = some final) :
    ∃ longer, Run (fun pre event post => next pre event = some post) start longer final
      ∧ Along condition longer := by
  induction events generalizing pre trace with
  | nil =>
    obtain rfl := Option.some.inj ran
    exact ⟨trace, run, met⟩
  | cons event later ih =>
    rw [runWhere] at ran
    split_ifs at ran with may
    obtain ⟨middle, first, rest⟩ := Option.bind_eq_some_iff.mp ran
    exact ih (run.snoc first) (Along.snoc_iff.mpr ⟨met, may⟩) rest

theorem exists_run_of_runWhere {start final : State} {events : List Event}
    (ran : runWhere next condition events start = some final) :
    ∃ trace, Run (fun pre event post => next pre event = some post) start trace final
      ∧ Along condition trace :=
  extends_run_of_runWhere .start Along.nil ran

end StepFunction

end Run

section Sharing

/-! ## Components that share a cell

Components take turns in any order.  A turn reads and writes the local state of its
component and one cell that all of them share.  Beside the cell, the state remembers
for each component the cell as its own turns alone would have left it.
-/

variable {Key Cell Local Event : Type*}

/-- The shared cell, the cell each component would have alone, and the local states. -/
structure SharingState (Key Cell Local : Type*) where
  cell : Cell
  own : Key → Cell
  locals : Key → Local

namespace SharingState

variable [DecidableEq Key] (turn : Event → Cell × Local → Cell × Local)

/-- A turn of one component. -/
def step (s : SharingState Key Cell Local) (event : Key × Event) :
    SharingState Key Cell Local where
  cell := (turn event.2 (s.cell, s.locals event.1)).1
  own := Function.update s.own event.1 (turn event.2 (s.own event.1, s.locals event.1)).1
  locals := Function.update s.locals event.1 (turn event.2 (s.cell, s.locals event.1)).2

/-- The turn as a step relation. -/
def Step (s : SharingState Key Cell Local) (event : Key × Event)
    (after : SharingState Key Cell Local) : Prop :=
  after = s.step turn event

/-- The turns of one component, in order. -/
def turnsOf (key : Key)
    (trace : List (Transition (SharingState Key Cell Local) (Key × Event))) : List Event :=
  (trace.filter fun transition => transition.event.1 = key).map fun transition =>
    transition.event.2

/-- The turns of a component that has the cell to itself. -/
def alone (start : Cell × Local) (events : List Event) : Cell × Local :=
  events.foldl (fun current event => turn event current) start

/-- The turn takes its component where it would with its own cell. -/
def Agrees (s : SharingState Key Cell Local) (event : Key × Event) : Prop :=
  (turn event.2 (s.cell, s.locals event.1)).2 = (turn event.2 (s.own event.1, s.locals event.1)).2

variable {turn} {start finish : SharingState Key Cell Local} {key : Key}
  {trace : List (Transition (SharingState Key Cell Local) (Key × Event))}

theorem step_of_ne (s : SharingState Key Cell Local) {event : Key × Event}
    (other : event.1 ≠ key) :
    (s.step turn event).own key = s.own key ∧ (s.step turn event).locals key = s.locals key :=
  ⟨Function.update_of_ne other.symm _ _, Function.update_of_ne other.symm _ _⟩

theorem turnsOf_snoc (move : Transition (SharingState Key Cell Local) (Key × Event)) :
    turnsOf key (trace ++ [move])
      = turnsOf key trace ++ if move.event.1 = key then [move.event.2] else [] := by
  by_cases eq : move.event.1 = key <;> simp [turnsOf, eq]

theorem alone_snoc (init : Cell × Local) (events : List Event) (event : Event) :
    alone turn init (events ++ [event]) = turn event (alone turn init events) := by
  simp [alone]

/-- **Every component ends where it would alone**, if each of the turns takes its
component where it would with its own cell. -/
theorem alone_of_agrees (run : Run (Step turn) start trace finish)
    (agrees : Along (Agrees turn) trace) (key : Key) :
    (finish.own key, finish.locals key)
      = alone turn (start.own key, start.locals key) (turnsOf key trace) := by
  induction run with
  | start => rfl
  | @snoc trace pre post event run taken ih =>
    obtain ⟨prior, last⟩ := Along.snoc_iff.mp agrees
    have reach := ih prior
    have isStep : post = pre.step turn event := taken
    rw [turnsOf_snoc, isStep]
    by_cases eq : event.1 = key
    · subst eq
      have local_eq : (turn event.2 (pre.cell, pre.locals event.1)).2
          = (turn event.2 (pre.own event.1, pre.locals event.1)).2 := last
      rw [if_pos rfl, alone_snoc, ← reach]
      simp [step, local_eq]
    · have untouched : (pre.step turn event).own key = pre.own key
          ∧ (pre.step turn event).locals key = pre.locals key := step_of_ne pre eq
      obtain ⟨sameOwn, sameLocal⟩ := untouched
      rw [if_neg eq, List.append_nil, sameOwn, sameLocal, reach]

end SharingState

end Sharing

end Cfwdon.Library
