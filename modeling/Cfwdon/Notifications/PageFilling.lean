import Cfwdon.Library.Lists

/-!
# Filling a page of notifications

Rendering drops candidates, so a page is filled in chunks: a few more candidates are
rendered than are missing, and more of them only if the page is still short.
-/

namespace Cfwdon.Notifications

open Library

variable {State Candidate Entry : Type*}

/-- A function that renders candidates.  It has entries or an error, and may change what it
captures. -/
def Hydration (State Candidate Entry : Type*) :=
  List Candidate → State → Except String (List Entry) × State

/-- The number of values of a `usize`, of 32 bits in a worker. -/
def usizeSize : Nat := 4294967296

/-- `missing + (missing / 4).max(8)`: how many candidates are rendered for the entries that
are missing. -/
def chunkSize (missing : Nat) : Nat :=
  (missing + max (missing / 4) 8) % usizeSize

/-- The loop of `fill_notification_page`, for fewer rounds than the fuel. -/
def fillLoop (hydrate : Hydration State Candidate Entry) (limit : Nat) :
    Nat → List Entry → List Candidate → State → Option (Except String (List Entry) × State)
  | 0, _, _, _ => none
  | fuel + 1, page, remaining, state =>
    if page.length < limit then
      let chunk := remaining.take (chunkSize (limit - page.length))
      if chunk.isEmpty then some (.ok page, state)
      else
        match hydrate chunk state with
        | (.ok entries, state) =>
          fillLoop hydrate limit fuel (page ++ entries)
            (remaining.drop (chunkSize (limit - page.length))) state
        | (.error error, state) => some (.error error, state)
    else some (.ok page, state)

def inOrder (forward : Bool) (candidates : List Candidate) : List Candidate :=
  if forward then candidates.reverse else candidates

def fillNotificationPage (hydrate : Hydration State Candidate Entry) (fuel : Nat)
    (candidates : List Candidate) (limit : Nat) (forward : Bool) (state : State) :
    Option (Except String (List Entry) × State) :=
  (fillLoop hydrate limit fuel [] (inOrder forward candidates) state).map fun (outcome, state) =>
    (outcome.map fun page =>
      if forward then (page.take limit).reverse else page.take limit, state)

/-! ## Hydrations -/

/-- Each candidate is rendered on its own, or dropped.  A call may also fail. -/
def RendersEach (hydrate : Hydration State Candidate Entry)
    (render : Candidate → Option Entry) : Prop :=
  ∀ chunk state entries, (hydrate chunk state).1 = .ok entries → entries = chunk.filterMap render

def FailsWith (hydrate : Hydration State Candidate Entry) (error : String) : Prop :=
  ∃ chunk state, (hydrate chunk state).1 = .error error

def noting (hydrate : Hydration State Candidate Entry) :
    Hydration (State × List Candidate) Candidate Entry :=
  fun chunk state =>
    ((hydrate chunk state.1).1, ((hydrate chunk state.1).2, state.2 ++ chunk))

/-! ## What the loop does -/

variable {hydrate : Hydration State Candidate Entry} {render : Candidate → Option Entry}
  {limit fuel : Nat}

theorem chunkSize_pos {missing : Nat} (fits : limit + max (limit / 4) 8 < usizeSize)
    (le : missing ≤ limit) : 0 < chunkSize missing := by
  have small : missing + max (missing / 4) 8 < usizeSize := by omega
  rw [chunkSize, Nat.mod_eq_of_lt small]
  omega

theorem take_append_eq_take {page rest : List Entry} (full : ¬ page.length < limit) :
    (page ++ rest).take limit = page.take limit :=
  List.take_append_of_le_length (Nat.not_lt.mp full)

/-- **What the loop finds**, for every hydration that renders each candidate on its own.
The candidates that it renders are the first of the remaining ones. -/
theorem fillLoop_spec (each : RendersEach hydrate render)
    (fits : limit + max (limit / 4) 8 < usizeSize) {page : List Entry}
    {left : List Candidate} (enough : left.length < fuel) (state : State)
    (noted : List Candidate) :
    ∃ out post hydrated,
      fillLoop hydrate limit fuel page left state = some (out, post)
      ∧ fillLoop (noting hydrate) limit fuel page left (state, noted)
        = some (out, (post, noted ++ hydrated))
      ∧ hydrated <+: left
      ∧ ((∃ filled, out = .ok filled
          ∧ filled.take limit = (page ++ left.filterMap render).take limit)
        ∨ ∃ error, out = .error error ∧ FailsWith hydrate error) := by
  induction fuel generalizing page left state noted with
  | zero => exact absurd enough (Nat.not_lt_zero _)
  | succ fuel ih =>
    by_cases full : page.length < limit
    · have pos := chunkSize_pos fits (Nat.sub_le limit page.length)
      rw [fillLoop, fillLoop, if_pos full, if_pos full]
      dsimp only
      cases left with
      | nil =>
        rw [List.take_nil, List.isEmpty_nil, if_pos rfl, if_pos rfl]
        refine ⟨_, _, [], rfl, by rw [List.append_nil], List.nil_prefix, ?_⟩
        exact .inl ⟨page, rfl, by rw [List.filterMap_nil, List.append_nil]⟩
      | cons first later =>
        obtain ⟨size, isSize⟩ : ∃ size, chunkSize (limit - page.length) = size + 1 :=
          Nat.exists_eq_add_one.mpr pos
        have whole := List.take_append_drop (size + 1) (first :: later)
        have some_left : ¬ ((first :: later).take (size + 1)).isEmpty = true := by
          rw [List.take_succ_cons]
          exact Bool.false_ne_true
        rw [isSize, if_neg some_left, if_neg some_left]
        generalize chunked : (first :: later).take (size + 1) = chunk at whole
        generalize dropped : (first :: later).drop (size + 1) = rest at whole
        have shorter : rest.length < fuel := by
          rw [← dropped, List.drop_succ_cons, List.length_drop]
          rw [List.length_cons] at enough
          omega
        rcases called : hydrate chunk state with ⟨result, next⟩
        have noticed : noting hydrate chunk (state, noted)
            = (result, (next, noted ++ chunk)) := by
          rw [noting, called]
        rw [noticed]
        cases result with
        | error error =>
          refine ⟨_, _, chunk, rfl, rfl, ⟨rest, whole⟩, .inr ⟨error, rfl, ?_⟩⟩
          exact ⟨chunk, state, by rw [called]⟩
        | ok entries =>
          have rendered : entries = chunk.filterMap render :=
            each chunk state entries (by rw [called])
          obtain ⟨out, post, hydrated, plain, noticing, ⟨unread, parts⟩, got⟩ :=
            @ih (page ++ entries) rest shorter next (noted ++ chunk)
          refine ⟨out, post, chunk ++ hydrated, plain, ?_, ⟨unread, ?_⟩, ?_⟩
          · rw [← List.append_assoc]
            exact noticing
          · rw [List.append_assoc, parts, whole]
          · rwa [← whole, List.filterMap_append, ← rendered, ← List.append_assoc]
    · rw [fillLoop, fillLoop, if_neg full, if_neg full]
      refine ⟨_, _, [], rfl, by rw [List.append_nil], List.nil_prefix, ?_⟩
      exact .inl ⟨page, rfl, (take_append_eq_take full).symm⟩

theorem fillLoop_congr {other : Hydration State Candidate Entry} {page : List Entry}
    {left : List Candidate}
    (agree : ∀ chunk, (∀ cand ∈ chunk, cand ∈ left) →
      ∀ state, hydrate chunk state = other chunk state) (state : State) :
    fillLoop hydrate limit fuel page left state = fillLoop other limit fuel page left state := by
  induction fuel generalizing page left state with
  | zero => rfl
  | succ fuel ih =>
    rw [fillLoop, fillLoop]
    dsimp only
    rw [agree _ (fun cand mem => List.mem_of_mem_take mem) state]
    split_ifs
    · rfl
    · rcases other (left.take (chunkSize (limit - page.length))) state with
        ⟨result, next⟩
      cases result with
      | error error => rfl
      | ok entries =>
        exact ih
          (fun chunk inside state => agree chunk
            (fun cand mem => List.mem_of_mem_drop (inside cand mem)) state)
          next
    · rfl

/-! ## Pages -/

/-- The page of the entries that are rendered: the first ones, or walking forward the last
ones. -/
def pageOf (forward : Bool) (limit : Nat) (entries : List Entry) : List Entry :=
  if forward then keepLast limit entries else entries.take limit

theorem reverse_take_inOrder (cands : List Candidate) (forward : Bool) :
    (if forward then (((inOrder forward cands).filterMap render).take limit).reverse
      else ((inOrder forward cands).filterMap render).take limit)
      = pageOf forward limit (cands.filterMap render) := by
  cases forward with
  | false => rfl
  | true =>
    rw [inOrder, if_pos rfl, if_pos rfl, List.filterMap_reverse, List.take_reverse,
      List.reverse_reverse]
    rfl

theorem length_inOrder (cands : List Candidate) (forward : Bool) :
    (inOrder forward cands).length = cands.length := by
  cases forward with
  | false => rfl
  | true => exact List.length_reverse

theorem fillNotificationPage_of_renders (fits : limit + max (limit / 4) 8 < usizeSize)
    {cands : List Candidate}
    (renders : ∀ chunk, (∀ cand ∈ chunk, cand ∈ cands) →
      ∀ state, hydrate chunk state = (.ok (chunk.filterMap render), state))
    (forward : Bool) (state : State) :
    ∃ post, fillNotificationPage hydrate (cands.length + 1) cands limit forward state
      = some (.ok (pageOf forward limit (cands.filterMap render)), post) := by
  let simple : Hydration State Candidate Entry :=
    fun chunk state => (.ok (chunk.filterMap render), state)
  have each : RendersEach simple render := fun _ _ _ called => (Except.ok.inj called).symm
  have eq : fillLoop hydrate limit (cands.length + 1) [] (inOrder forward cands) state
      = fillLoop simple limit (cands.length + 1) [] (inOrder forward cands) state := by
    refine fillLoop_congr (fun chunk inside => renders chunk fun cand mem => ?_) state
    have among := inside cand mem
    cases forward with
    | false => exact among
    | true => exact List.mem_reverse.mp among
  have enough : (inOrder forward cands).length < cands.length + 1 := by
    rw [length_inOrder]
    exact Nat.lt_succ_self _
  obtain ⟨out, post, -, plain, -, -, got⟩ :=
    @fillLoop_spec _ _ _ simple render limit _ each fits [] _ enough state []
  obtain ⟨filled, rfl, taken⟩ | ⟨error, rfl, chunk, state, fails⟩ := got
  · refine ⟨post, ?_⟩
    rw [List.nil_append] at taken
    rw [fillNotificationPage, eq, plain, ← reverse_take_inOrder, ← taken]
    rfl
  · cases fails

/-- **A page holds the first of all the entries that candidates render to**, in order, or
walking forward the last ones, unless rendering fails.  No candidate is rendered twice: those
that are rendered are the first ones, in the order of the walk. -/
theorem filled_page (each : RendersEach hydrate render)
    (fits : limit + max (limit / 4) 8 < usizeSize) (candidates : List Candidate)
    (enough : candidates.length < fuel) (forward : Bool) (state : State) :
    ∃ outcome after hydrated,
      fillNotificationPage hydrate fuel candidates limit forward state = some (outcome, after)
      ∧ fillNotificationPage (noting hydrate) fuel candidates limit forward (state, [])
        = some (outcome, (after, hydrated))
      ∧ hydrated <+: inOrder forward candidates
      ∧ (outcome = .ok (pageOf forward limit (candidates.filterMap render))
        ∨ ∃ error, outcome = .error error ∧ FailsWith hydrate error) := by
  have ordered : (inOrder forward candidates).length < fuel := by
    rwa [length_inOrder]
  obtain ⟨outcome, after, hydrated, plain, noticing, isFirst, got⟩ :=
    @fillLoop_spec _ _ _ hydrate render limit fuel each fits [] _ ordered state []
  rw [fillNotificationPage, fillNotificationPage, plain, noticing]
  refine ⟨_, after, hydrated, rfl, rfl, isFirst, ?_⟩
  obtain ⟨filled, rfl, eq⟩ | ⟨error, rfl, fails⟩ := got
  · left
    rw [List.nil_append] at eq
    rw [← reverse_take_inOrder, ← eq]
    rfl
  · exact .inr ⟨error, rfl, fails⟩

/-- Every third number is rendered. -/
def renderThirds (n : Nat) : Option Nat :=
  if n % 3 = 0 then some n else none

def hydrateThirds : Hydration Unit Nat Nat :=
  fun chunk _ => (.ok (chunk.filterMap renderThirds), ())

theorem rendersEach_hydrateThirds : RendersEach hydrateThirds renderThirds :=
  fun _ _ _ called => (Except.ok.inj called).symm

/-- Twelve candidates for a page of two entries. -/
theorem filled_page_of_thirds :
    ∃ outcome after hydrated,
      fillNotificationPage hydrateThirds 13 (List.range 12) 2 false () = some (outcome, after)
      ∧ fillNotificationPage (noting hydrateThirds) 13 (List.range 12) 2 false ((), [])
        = some (outcome, (after, hydrated))
      ∧ hydrated <+: inOrder false (List.range 12)
      ∧ (outcome = .ok (pageOf false 2 ((List.range 12).filterMap renderThirds))
        ∨ ∃ error, outcome = .error error ∧ FailsWith hydrateThirds error) :=
  filled_page rendersEach_hydrateThirds (by decide) (List.range 12) (by decide) false ()

/-- Walking forward, the entry of the first candidate is not on the page. -/
theorem forward_page_is_last :
    fillNotificationPage (fun chunk (_ : Unit) => (.ok chunk, ())) 3 [1, 2] 1 true ()
        = some (.ok [2], ())
      ∧ ([1, 2].filterMap some).take 1 = [1] := by
  decide

end Cfwdon.Notifications
