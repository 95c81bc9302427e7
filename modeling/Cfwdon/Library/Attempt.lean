import Cfwdon.Library.Lists

/-!
# Operations that may fail after they have written

What was written before a failure stays.  Operations are given by their statements, or as
attempts that are taken one after another; a step of a loop may be hoisted out of it.
-/

namespace Cfwdon.Library

section Statements

/-! ## Statements that are executed one by one

An operation that writes with several statements executes them in order.  The first one
that fails ends it, and it may stop after any of them; what was executed before stays.

* `executeAll_cons_of_some`, `executeAll_cons_of_none` -- one statement at a time.
-/

variable {Statement State : Type*} {execute : Statement → State → Option State}

def executeAll (execute : Statement → State → Option State) : List Statement → State → State
  | [], state => state
  | statement :: rest, state =>
    match execute statement state with
    | none => state
    | some next => executeAll execute rest next

@[simp] theorem executeAll_nil (state : State) : executeAll execute [] state = state := rfl

variable {rest : List Statement} {stmt : Statement}

theorem executeAll_cons_of_some
    {state next : State} (executed : execute stmt state = some next) :
    executeAll execute (stmt :: rest) state = executeAll execute rest next := by
  rw [executeAll, executed]

theorem executeAll_cons_of_none
    {state : State} (failed : execute stmt state = none) :
    executeAll execute (stmt :: rest) state = state := by
  rw [executeAll, failed]

end Statements

section Attempt

/-! ## Operations that may fail after they have written

An attempt leaves the state it got to together with its answer or its failure; what was
written before the failure stays.  Attempts are taken one after another (`andThen`), or
for each element of a list (`collect`), and the first failure ends them.

* `bind_eq_ok_iff`, `andThen_eq_ok_iff` -- an answer of two steps is an answer of both;
* `andThen_keeps` -- what both steps keep is kept, whether or not one fails;
* `mem_collect` -- what was collected was given by a step.
-/

universe u

theorem bind_eq_ok_iff {Failure : Type*} {Value Result : Type u} {first : Except Failure Value}
    {next : Value → Except Failure Result} {result : Result} :
    (first >>= next) = .ok result ↔ ∃ value, first = .ok value ∧ next value = .ok result := by
  cases first with
  | error err =>
    constructor
    · intro bad
      cases bad
    · rintro ⟨value, bad, _⟩
      cases bad
  | ok value =>
    constructor
    · intro ans
      exact ⟨value, rfl, ans⟩
    · rintro ⟨eq, ans, rest⟩
      cases ans
      exact rest

variable {State Failure Value Result Item : Type*}

/-- The state an operation got to, with its answer. -/
abbrev Attempt (State Failure Value : Type*) := State × Except Failure Value

def failureOf : Except Failure Value → Option Failure
  | .error failure => some failure
  | .ok _ => none

theorem failureOf_eq_none_iff {answer : Except Failure Value} :
    failureOf answer = none ↔ ∃ value, answer = .ok value := by
  cases answer with
  | error err | ok value => simp [failureOf]

theorem failureOf_map {change : Value → Result} {answer : Except Failure Value} :
    failureOf (answer.map change) = failureOf answer := by
  cases answer with
  | error err | ok value => rfl

namespace Attempt

def failure (attempt : Attempt State Failure Value) : Option Failure := failureOf attempt.2

/-- Go on from an answer; a failure ends the operation. -/
def andThen (first : Attempt State Failure Value)
    (next : State → Value → Attempt State Failure Result) : Attempt State Failure Result :=
  match first with
  | (state, .ok value) => next state value
  | (state, .error failure) => (state, .error failure)

variable {next : State → Value → Attempt State Failure Result} {state : State}
  {first : Attempt State Failure Value} {change : Value → Result}

theorem andThen_ok {value : Value}
    :
    andThen (state, .ok value) next = next state value := rfl

theorem andThen_error {err : Failure}
    :
    andThen (state, .error err) next = (state, .error err) := rfl

theorem andThen_eq_ok_iff
    {result : Result} :
    (first.andThen next).2 = .ok result
      ↔ ∃ value, first.2 = .ok value ∧ (next first.1 value).2 = .ok result := by
  obtain ⟨state, answer⟩ := first
  cases answer with
  | error err =>
    rw [andThen_error]
    constructor
    · intro bad
      cases bad
    · rintro ⟨value, bad, _⟩
      cases bad
  | ok value =>
    rw [andThen_ok]
    constructor
    · intro ans
      exact ⟨value, rfl, ans⟩
    · rintro ⟨eq, ans, rest⟩
      cases ans
      exact rest

theorem andThen_congr
    {next next' : State → Value → Attempt State Failure Result}
    (eq : ∀ value, first.2 = .ok value → next first.1 value = next' first.1 value) :
    first.andThen next = first.andThen next' := by
  obtain ⟨state, answer⟩ := first
  cases answer with
  | error err => rfl
  | ok value => exact eq value rfl

theorem failure_andThen
    {later : Option Failure}
    (second : ∀ value, (next first.1 value).failure = later) :
    (first.andThen next).failure = first.failure.or later := by
  obtain ⟨state, answer⟩ := first
  cases answer with
  | error err => rfl
  | ok value => exact second value

theorem failure_andThen_ok :
    (first.andThen fun state value => (state, .ok (change value))).failure = first.failure := by
  obtain ⟨state, answer⟩ := first
  cases answer with
  | error err | ok value => rfl

theorem fst_andThen_ok :
    (first.andThen fun state value => (state, .ok (change value))).1 = first.1 := by
  obtain ⟨state, answer⟩ := first
  cases answer with
  | error err | ok value => rfl

theorem andThen_keeps {keeps : State → Prop}
    (pre : keeps first.1)
    (later : ∀ state value, keeps state → keeps (next state value).1) :
    keeps (first.andThen next).1 := by
  obtain ⟨state, answer⟩ := first
  cases answer with
  | error err => exact pre
  | ok value => exact later state value pre

/-! ## Collecting over a list -/

/-- Take a step for each element of a list, and collect what the steps give. -/
def collect (step : State → Item → Attempt State Failure (List Value)) :
    State → List Item → Attempt State Failure (List Value)
  | state, [] => (state, .ok [])
  | state, item :: rest =>
    (step state item).andThen fun next values =>
      (collect step next rest).andThen fun last later => (last, .ok (values ++ later))

variable {step : State → Item → Attempt State Failure (List Value)} {state : State}
  {items : List Item}

theorem mem_collect {values : List Value} {value : Value}
    (ans : (collect step state items).2 = .ok values) (mem : value ∈ values) :
    ∃ between, ∃ item ∈ items, ∃ given, (step between item).2 = .ok given ∧ value ∈ given := by
  induction items generalizing state values with
  | nil =>
    cases ans
    cases mem
  | cons item rest ih =>
    rw [collect] at ans
    obtain ⟨given, here, restAnswered⟩ := andThen_eq_ok_iff.mp ans
    obtain ⟨later, there, joined⟩ := andThen_eq_ok_iff.mp restAnswered
    cases joined
    rcases List.mem_append.mp mem with now | post
    · exact ⟨state, item, List.mem_cons_self .., given, here, now⟩
    · obtain ⟨between, other, inRest, got⟩ := ih there post
      exact ⟨between, other, List.mem_cons_of_mem _ inRest, got⟩

/-- **A collection fails with the first failure of its elements**, if a step leaves the
failures of the other elements alone. -/
theorem failure_collect {fails : State → Item → Option Failure} (nodup : items.Nodup)
    (exactly : ∀ state item, (step state item).failure = fails state item)
    (others : ∀ state item other, other ≠ item →
      fails (step state item).1 other = fails state other) :
    (collect step state items).failure = items.findSome? (fails state) := by
  induction items generalizing state with
  | nil => rfl
  | cons item rest ih =>
    obtain ⟨notLater, restDistinct⟩ := List.nodup_cons.mp nodup
    have eq : rest.findSome? (fails (step state item).1) = rest.findSome? (fails state) := by
      apply findSome?_eq_of_forall
      intro other mem
      apply others
      rintro rfl
      exact notLater mem
    have second : ∀ values, ((collect step (step state item).1 rest).andThen
        fun last later => (last, .ok (values ++ later))).failure
          = rest.findSome? (fails state) := by
      intro values
      rw [failure_andThen_ok, ih restDistinct, eq]
    rw [collect, failure_andThen second, exactly, List.findSome?_cons]
    cases fails state item with
    | none | some err => rfl

/-- **What is collected**, if a step leaves what the steps of other elements give alone. -/
theorem collect_eq_flatMap {gives : State → Item → List Value} {values : List Value}
    (nodup : items.Nodup)
    (exactly : ∀ state item given, (step state item).2 = .ok given → given = gives state item)
    (others : ∀ state item other, other ≠ item →
      gives (step state item).1 other = gives state other)
    (ans : (collect step state items).2 = .ok values) :
    values = items.flatMap (gives state) := by
  induction items generalizing state values with
  | nil =>
    cases ans
    rfl
  | cons item rest ih =>
    obtain ⟨notLater, restDistinct⟩ := List.nodup_cons.mp nodup
    rw [collect] at ans
    obtain ⟨given, here, restAnswered⟩ := andThen_eq_ok_iff.mp ans
    obtain ⟨later, there, joined⟩ := andThen_eq_ok_iff.mp restAnswered
    cases joined
    have eq : rest.flatMap (gives (step state item).1) = rest.flatMap (gives state) := by
      apply List.flatMap_congr
      intro other mem
      apply others
      rintro rfl
      exact notLater mem
    rw [List.flatMap_cons, exactly state item given here, ih restDistinct there, eq]

end Attempt

end Attempt

end Cfwdon.Library

namespace Cfwdon.Library.Attempt

section Hoisting

/-! ## A step that is hoisted out of a loop

A loop checks each item, and takes a step for an item that asks for it: one that the
check did not settle and that is wanted.  The hoisted form checks all the items first and
takes the step once at the end, if some item asked for it.  Checks and steps write, and
each may fail.

The two are the same attempt if the checks behind an item that asks are idle, and the
step changes nothing when a second item asks for it.

* `eachInTurn_of_first` -- the first item decides, if the others change nothing more.
-/

variable {State Failure Item : Type*}

def eachInTurn (operation : Item → State → Attempt State Failure Unit) :
    List Item → State → Attempt State Failure Unit
  | [], state => (state, .ok ())
  | item :: rest, state =>
    (operation item state).andThen fun next _ => eachInTurn operation rest next

variable {op : Item → State → Attempt State Failure Unit}

theorem eachInTurn_of_unchanged
    {items : List Item} {state : State}
    (each : ∀ item ∈ items, op item state = (state, .ok ())) :
    eachInTurn op items state = (state, .ok ()) := by
  induction items with
  | nil => rfl
  | cons item rest ih =>
    obtain ⟨here, later⟩ := List.forall_mem_cons.mp each
    rw [eachInTurn, here, andThen_ok]
    exact ih later

theorem eachInTurn_of_first
    {items : List Item} {state : State} {first : Attempt State Failure Unit} (some : items ≠ [])
    (each : ∀ item, op item state = first)
    (again : first.2 = .ok () → ∀ item, op item first.1 = (first.1, .ok ())) :
    eachInTurn op items state = first := by
  cases items with
  | nil => exact absurd rfl some
  | cons item rest =>
    obtain ⟨next, answer⟩ := first
    rw [eachInTurn, each item]
    cases answer with
    | error err => rfl
    | ok done =>
      rw [andThen_ok]
      exact eachInTurn_of_unchanged fun other _ => again rfl other

section

variable (check : Item → State → Attempt State Failure Bool) (wanted : Item → Bool)
  (step : State → Attempt State Failure Unit)

def checkThenStep (item : Item) (state : State) : Attempt State Failure Unit :=
  (check item state).andThen fun next settled =>
    if settled then (next, .ok ())
    else if !wanted item then (next, .ok ())
    else step next

/-- Check the items in turn, and note whether one asks. -/
def checkAll : List Item → Bool → State → Attempt State Failure Bool
  | [], found, state => (state, .ok found)
  | item :: rest, found, state =>
    (check item state).andThen fun next settled =>
      if settled then checkAll rest found next
      else checkAll rest (found || wanted item) next

def checkAllThenStep (items : List Item) (state : State) : Attempt State Failure Unit :=
  (checkAll check wanted items false state).andThen fun next found =>
    if !found then (next, .ok ()) else step next

theorem checkAllThenStep_of_unchecked (items : List Item) (state : State) :
    checkAllThenStep (fun _ state => (state, .ok false)) wanted step items state
      = if !items.any wanted then (state, .ok ()) else step state := by
  have noted (got : Bool) : checkAll (fun _ state => (state, .ok false)) wanted items got state
      = ((state, .ok (got || items.any wanted)) : Attempt State Failure Bool) := by
    induction items generalizing got with
    | nil => rw [checkAll, List.any_nil, Bool.or_false]
    | cons item rest ih =>
      rw [checkAll, andThen_ok, if_neg Bool.false_ne_true, ih, List.any_cons, Bool.or_assoc]
  rw [checkAllThenStep, noted, andThen_ok, Bool.false_or]

end

/-! ## Checks that are known beforehand -/

/-- What is known of the checks in the states of a run: which items they settle, and
which items they leave the state alone for.  Taking the step does not change it. -/
structure ChecksKnown (check : Item → State → Attempt State Failure Bool)
    (step : State → Attempt State Failure Unit) (Seen : State → Prop)
    (settles idle : Item → Prop) : Prop where
  seenCheck : ∀ item state, Seen state → Seen (check item state).1
  seenStep : ∀ state, Seen state → Seen (step state).1
  answers : ∀ {item state answer}, Seen state → (check item state).2 = .ok answer →
    (answer = true ↔ settles item)
  leaves : ∀ {item state}, Seen state → idle item → ∃ answer, check item state = (state, .ok answer)

def Asks (settles : Item → Prop) (wanted : Item → Bool) (item : Item) : Prop :=
  ¬ settles item ∧ wanted item = true

/-- A step that succeeded changes nothing when it is taken again. -/
def RepeatsIdly (step : State → Attempt State Failure Unit) (state : State) : Prop :=
  (step state).2 = .ok () → step (step state).1 = ((step state).1, .ok ())

variable {check : Item → State → Attempt State Failure Bool} {wanted : Item → Bool}
  {step : State → Attempt State Failure Unit} {Seen Fresh : State → Prop}
  {settles idle : Item → Prop} {items : List Item} {state : State}

/-- **Idle checks leave the state**, and what was noted before them stands. -/
theorem checkAll_of_idle (known : ChecksKnown check step Seen settles idle) (seen : Seen state)
    (each : ∀ item ∈ items, idle item) :
    checkAll check wanted items true state = (state, .ok true) := by
  induction items with
  | nil => rfl
  | cons item rest ih =>
    obtain ⟨here, later⟩ := List.forall_mem_cons.mp each
    obtain ⟨answer, checked⟩ := known.leaves seen here
    rw [checkAll, checked, andThen_ok, Bool.true_or, ite_self]
    exact ih later

/-- **So does the loop over idle checks**, where the step changes nothing. -/
theorem eachInTurn_of_idle (known : ChecksKnown check step Seen settles idle) (seen : Seen state)
    (each : ∀ item ∈ items, idle item)
    (taken : ∀ item ∈ items, Asks settles wanted item → step state = (state, .ok ())) :
    eachInTurn (checkThenStep check wanted step) items state = (state, .ok ()) := by
  apply eachInTurn_of_unchanged
  intro item mem
  obtain ⟨answer, checked⟩ := known.leaves seen (each item mem)
  have done : answer = true ↔ settles item := known.answers seen (by rw [checked])
  rw [checkThenStep, checked, andThen_ok]
  split_ifs with isSettled unwanted
  · rfl
  · rfl
  · exact taken item mem ⟨fun settles => isSettled (done.mpr settles), by simpa using unwanted⟩

/-- **The step can be hoisted out of the loop**, if the checks behind an item that asks
for it are idle, and the step repeats idly where a second one asks. -/
theorem checkAllThenStep_eq_eachInTurn (known : ChecksKnown check step Seen settles idle)
    (freshCheck : ∀ item state, Fresh state → Fresh (check item state).1)
    (apart : items.Pairwise fun prior later => Asks settles wanted prior →
      idle later ∧ (Asks settles wanted later → ∀ state, Fresh state → RepeatsIdly step state))
    (seen : Seen state) (fresh : Fresh state) :
    checkAllThenStep check wanted step items state
      = eachInTurn (checkThenStep check wanted step) items state := by
  induction items generalizing state with
  | nil => rfl
  | cons item rest ih =>
    obtain ⟨behind, apartRest⟩ := List.pairwise_cons.mp apart
    obtain ⟨next, answer, checked⟩ : ∃ next answer, check item state = (next, answer) :=
      ⟨_, _, rfl⟩
    have seenNext : Seen next := by
      have kept := known.seenCheck item state seen
      rwa [checked] at kept
    have freshNext : Fresh next := by
      have kept := freshCheck item state fresh
      rwa [checked] at kept
    have goesOn := ih apartRest seenNext freshNext
    rw [checkAllThenStep] at goesOn
    rw [checkAllThenStep, checkAll, eachInTurn, checkThenStep, checked]
    cases answer with
    | error err => rfl
    | ok settled =>
      simp only [andThen_ok]
      by_cases isSettled : settled = true
      · rw [if_pos isSettled, if_pos isSettled, andThen_ok]
        exact goesOn
      · rw [if_neg isSettled, if_neg isSettled, Bool.false_or]
        by_cases isWanted : wanted item = true
        · -- the first item that asks: the step is taken here, or behind the idle checks
          have ans : settled = true ↔ settles item :=
            known.answers seen (by rw [checked])
          have asks : Asks settles wanted item :=
            ⟨fun settles => isSettled (ans.mpr settles), isWanted⟩
          have idleRest : ∀ later ∈ rest, idle later :=
            fun later mem => (behind later mem asks).1
          rw [isWanted, checkAll_of_idle known seenNext idleRest, andThen_ok]
          simp only [Bool.not_true, Bool.false_eq_true, if_false]
          obtain ⟨stored, out, taken⟩ : ∃ stored out, step next = (stored, out) :=
            ⟨_, _, rfl⟩
          rw [taken]
          cases out with
          | error err => rfl
          | ok done =>
            have seenStored : Seen stored := by
              have kept := known.seenStep next seenNext
              rwa [taken] at kept
            rw [andThen_ok, eachInTurn_of_idle known seenStored idleRest]
            intro later mem asksToo
            have repeats := (behind later mem asks).2 asksToo next freshNext
            unfold RepeatsIdly at repeats
            rw [taken] at repeats
            exact repeats rfl
        · rw [if_pos (by simpa using isWanted), andThen_ok, Bool.eq_false_iff.mpr isWanted]
          exact goesOn

end Hoisting

end Cfwdon.Library.Attempt
