import Mathlib.Data.List.Basic
import Mathlib.Data.List.Infix
import Mathlib.Data.Nat.Basic

/-!
# Occurrences of a pattern, from left to right

A search that goes on after each occurrence it has found sees the occurrences that do not
overlap, from left to right.  An occurrence it does not see overlaps one that it has seen
before.
-/

namespace Cfwdon.Library

variable {α : Type*} [DecidableEq α]

/-- The list before the first occurrence of a pattern, and the list after it. -/
def splitAtFirst (pattern : List α) : List α → Option (List α × List α)
  | [] => if pattern = [] then some ([], []) else none
  | x :: rest =>
    if pattern <+: x :: rest then some ([], (x :: rest).drop pattern.length)
    else (splitAtFirst pattern rest).map fun split => (x :: split.1, split.2)

variable {pattern rest before after : List α}

/-- **The first occurrence** is one, and no other one begins before it. -/
theorem splitAtFirst_eq_some (got : splitAtFirst pattern rest = some (before, after)) :
    rest = before ++ pattern ++ after
      ∧ ∀ pre' post', rest = pre' ++ pattern ++ post' → before.length ≤ pre'.length := by
  induction rest generalizing before with
  | nil =>
    rw [splitAtFirst] at got
    split_ifs at got with empty
    cases got
    subst empty
    exact ⟨rfl, fun _ _ _ => Nat.zero_le _⟩
  | cons x rest ih =>
    rw [splitAtFirst] at got
    split_ifs at got with start
    · cases got
      exact ⟨(List.prefix_iff_eq_append.mp start).symm, fun _ _ _ => Nat.zero_le _⟩
    · rw [Option.map_eq_some_iff] at got
      obtain ⟨⟨skipped, post'⟩, later, split⟩ := got
      cases split
      obtain ⟨here, first⟩ := ih later
      refine ⟨by rw [here]; rfl, fun pre' post' occ => ?_⟩
      cases pre' with
      | nil => exact absurd ⟨post', occ.symm⟩ start
      | cons y pre' =>
        obtain ⟨-, occ⟩ := List.cons.inj occ
        exact Nat.succ_le_succ (first pre' post' occ)

theorem splitAtFirst_eq_none (none : splitAtFirst pattern rest = none) :
    rest ≠ before ++ pattern ++ after := by
  induction rest generalizing before with
  | nil =>
    rintro occ
    rw [eq_comm, List.append_eq_nil_iff, List.append_eq_nil_iff] at occ
    rw [splitAtFirst, if_pos occ.1.2] at none
    cases none
  | cons x rest ih =>
    rw [splitAtFirst] at none
    split_ifs at none with start
    rw [Option.map_eq_none_iff] at none
    rintro occ
    cases before with
    | nil => exact start ⟨after, occ.symm⟩
    | cons y before => exact ih none (List.cons.inj occ).2

theorem length_after_lt (ne : pattern ≠ [])
    (got : splitAtFirst pattern rest = some (before, after)) : after.length < rest.length := by
  have sizes := congrArg List.length (splitAtFirst_eq_some got).1
  have pos := List.length_pos_of_ne_nil ne
  rw [List.length_append, List.length_append] at sizes
  omega

/-! ## The occurrences that a search sees -/

/-- The occurrences of a pattern that do not overlap, from left to right: what is before
them and after them, for a search that has come to `rest` after `seen`. -/
inductive Match (pattern : List α) : List α → List α → List α → List α → Prop where
  | here {seen rest skipped after : List α}
      (found : splitAtFirst pattern rest = some (skipped, after)) :
      Match pattern seen rest (seen ++ skipped) after
  | later {seen rest skipped after before' after' : List α}
      (found : splitAtFirst pattern rest = some (skipped, after))
      (more : Match pattern (seen ++ skipped ++ pattern) after before' after') :
      Match pattern seen rest before' after'

variable {seen : List α}

theorem Match.occurs (got : Match pattern seen rest before after) :
    seen ++ rest = before ++ pattern ++ after := by
  induction got with
  | here got => rw [(splitAtFirst_eq_some got).1, List.append_assoc, List.append_assoc,
      List.append_assoc]
  | later got _ ih =>
    rw [← ih, (splitAtFirst_eq_some got).1]
    simp only [List.append_assoc]

/-- **An occurrence is seen, or it overlaps one that is seen and begins before it.** -/
theorem match_or_overlap (ne : pattern ≠ [])
    (occurs : seen ++ rest = before ++ pattern ++ after) (reach : seen.length ≤ before.length) :
    Match pattern seen rest before after
      ∨ ∃ pre' post', Match pattern seen rest pre' post'
        ∧ pre'.length < before.length
        ∧ before.length < pre'.length + pattern.length := by
  induction size : rest.length using Nat.strongRecOn generalizing seen rest with
  | ind size ih =>
    obtain ⟨skipped', rfl⟩ : ∃ skipped', before = seen ++ skipped' := by
      rw [List.append_assoc] at occurs
      have start := List.prefix_of_prefix_length_le (List.prefix_append seen rest)
        (occurs ▸ List.prefix_append before (pattern ++ after)) reach
      exact ⟨_, start.choose_spec.symm⟩
    have rest_eq : rest = skipped' ++ pattern ++ after := by
      rw [List.append_assoc, List.append_assoc, List.append_right_inj] at occurs
      rw [occurs, List.append_assoc]
    cases got : splitAtFirst pattern rest with
    | none => exact absurd rest_eq (splitAtFirst_eq_none got)
    | some split =>
      obtain ⟨skipped, later⟩ := split
      obtain ⟨first_eq, first⟩ := splitAtFirst_eq_some got
      have least := first skipped' after rest_eq
      by_cases eq : skipped.length = skipped'.length
      · -- it is the first occurrence
        left
        rw [first_eq, List.append_assoc, List.append_assoc] at rest_eq
        obtain ⟨rfl, tails⟩ := List.append_inj rest_eq eq
        obtain rfl := List.append_cancel_left tails
        exact Match.here got
      · by_cases overlaps : skipped'.length < skipped.length + pattern.length
        · right
          refine ⟨_, _, Match.here got, ?_, ?_⟩
          · rw [List.length_append, List.length_append]
            omega
          · rw [List.length_append, List.length_append]
            omega
        · have whole : seen ++ skipped ++ pattern ++ later
              = seen ++ skipped' ++ pattern ++ after := by
            rw [← occurs, first_eq]
            simp only [List.append_assoc]
          have further : (seen ++ skipped ++ pattern).length ≤ (seen ++ skipped').length := by
            rw [List.length_append, List.length_append, List.length_append]
            omega
          rcases ih _ (size ▸ length_after_lt ne got) whole
            further rfl with seen' | ⟨pre', post', seen', prior, overlap⟩
          · exact Or.inl (Match.later got seen')
          · exact Or.inr ⟨pre', post', Match.later got seen', prior, overlap⟩

omit [DecidableEq α] in
/-- **Where two occurrences overlap**, an end of the pattern is also its beginning, and what
is before the later one ends as the pattern does before that end. -/
theorem exists_border_of_overlap {pre' post' : List α}
    (eq : pre' ++ pattern ++ post' = before ++ pattern ++ after)
    (prior : pre'.length < before.length)
    (overlap : before.length < pre'.length + pattern.length) :
    ∃ shift, 0 < shift ∧ shift < pattern.length ∧ pattern.drop shift <+: pattern
      ∧ before = pre' ++ pattern.take shift := by
  have between : pre'.length + (before.length - pre'.length) = before.length := by omega
  have before_eq : before = pre' ++ pattern.take (before.length - pre'.length) := by
    have cut := congrArg (List.take before.length) eq
    rw [List.append_assoc, List.append_assoc, List.take_left] at cut
    rw [List.take_append, List.take_of_length_le (le_of_lt prior), List.take_append,
      Nat.sub_eq_zero_of_le (by omega : before.length - pre'.length ≤ pattern.length),
      List.take_zero, List.append_nil] at cut
    exact cut.symm
  refine ⟨before.length - pre'.length, by omega, by omega, ?_, before_eq⟩
  rw [before_eq] at eq
  nth_rewrite 1 [← List.take_append_drop (before.length - pre'.length) pattern] at eq
  simp only [List.append_assoc, List.append_cancel_left_eq] at eq
  refine List.prefix_of_prefix_length_le ?_ (List.prefix_append pattern after)
    (by rw [List.length_drop]; omega)
  rw [← eq]
  exact List.prefix_append _ _

end Cfwdon.Library
