import Mathlib.Data.Nat.Basic

/-!
# While loops

`whileLoop continues body` runs `while continues s do s := body s` for at most a given
number of rounds, and has no result if the loop would go on after them.
-/

namespace Cfwdon.Library

variable {State Other : Type*}

/-- `while continues s do s := body s`, for at most `fuel` rounds. -/
def whileLoop (continues : State → Bool) (body : State → State) : Nat → State → Option State
  | 0, s => if continues s then none else some s
  | fuel + 1, s => if continues s then whileLoop continues body fuel (body s) else some s

variable {continues : State → Bool} {body : State → State} {s s' : State} {fuel : Nat}

theorem whileLoop_of_stop (stop : continues s = false) :
    whileLoop continues body fuel s = some s := by
  cases fuel with
  | zero | succ fuel => simp [whileLoop, stop]

theorem whileLoop_succ_of_go (go : continues s = true) :
    whileLoop continues body (fuel + 1) s = whileLoop continues body fuel (body s) := by
  simp [whileLoop, go]

/-- **More rounds change nothing** once there is a result. -/
theorem whileLoop_of_le {more : Nat} (ended : whileLoop continues body fuel s = some s')
    (enough : fuel ≤ more) : whileLoop continues body more s = some s' := by
  induction fuel generalizing s more with
  | zero =>
    cases go : continues s with
    | true => simp [whileLoop, go] at ended
    | false =>
      rw [whileLoop_of_stop go] at ended ⊢
      exact ended
  | succ fuel ih =>
    cases go : continues s with
    | true =>
      obtain ⟨more, rfl⟩ := Nat.exists_eq_add_of_le' (Nat.le_of_add_left_le enough)
      rw [whileLoop_succ_of_go go] at ended ⊢
      exact ih ended (by omega)
    | false =>
      rw [whileLoop_of_stop go] at ended ⊢
      exact ended

variable (Inv : State → Prop)

/-- **The invariant rule**: the result of a loop meets its invariant, and stops it. -/
theorem whileLoop_invariant
    (ended : whileLoop continues body fuel s = some s') (init : Inv s)
    (preserved : ∀ s, Inv s → continues s = true → Inv (body s)) :
    Inv s' ∧ continues s' = false := by
  induction fuel generalizing s with
  | zero =>
    cases go : continues s with
    | true => simp [whileLoop, go] at ended
    | false =>
      rw [whileLoop_of_stop go] at ended
      exact Option.some.inj ended ▸ ⟨init, go⟩
  | succ fuel ih =>
    cases go : continues s with
    | true =>
      rw [whileLoop_succ_of_go go] at ended
      exact ih ended (preserved s init go)
    | false =>
      rw [whileLoop_of_stop go] at ended
      exact Option.some.inj ended ▸ ⟨init, go⟩

/-- **The measure rule**: a loop whose body keeps an invariant and decreases a measure has
a result after as many rounds as the measure says. -/
theorem exists_whileLoop (measure : State → Nat) (init : Inv s)
    (preserved : ∀ s, Inv s → continues s = true → Inv (body s))
    (decreases : ∀ s, Inv s → continues s = true → measure (body s) < measure s)
    (enough : measure s ≤ fuel) : ∃ s', whileLoop continues body fuel s = some s' := by
  induction fuel generalizing s with
  | zero =>
    cases go : continues s with
    | true =>
      have less := decreases s init go
      omega
    | false => exact ⟨s, whileLoop_of_stop go⟩
  | succ fuel ih =>
    cases go : continues s with
    | true =>
      have less := decreases s init go
      rw [whileLoop_succ_of_go go]
      exact ih (preserved s init go) (by omega)
    | false => exact ⟨s, whileLoop_of_stop go⟩

/-- **A loop that never ends**: its invariant keeps it going. -/
theorem whileLoop_eq_none (init : Inv s)
    (preserved : ∀ s, Inv s → continues s = true → Inv (body s))
    (goesOn : ∀ s, Inv s → continues s = true) : whileLoop continues body fuel s = none := by
  cases ended : whileLoop continues body fuel s with
  | none => rfl
  | some s' =>
    obtain ⟨holds, stop⟩ := whileLoop_invariant Inv ended init preserved
    rw [goesOn s' holds] at stop
    cases stop

/-- **Two representations of one loop.** -/
theorem whileLoop_map {otherContinues : Other → Bool} {otherBody : Other → Other}
    (represent : State → Other) (sameTest : ∀ s, otherContinues (represent s) = continues s)
    (sameBody : ∀ s, continues s = true → otherBody (represent s) = represent (body s)) :
    whileLoop otherContinues otherBody fuel (represent s)
      = (whileLoop continues body fuel s).map represent := by
  induction fuel generalizing s with
  | zero =>
    cases go : continues s <;> simp [whileLoop, sameTest, go]
  | succ fuel ih =>
    cases go : continues s with
    | true =>
      rw [whileLoop_succ_of_go go, whileLoop_succ_of_go ((sameTest s).trans go), sameBody s go, ih]
    | false =>
      rw [whileLoop_of_stop go, whileLoop_of_stop ((sameTest s).trans go), Option.map_some]

end Cfwdon.Library
