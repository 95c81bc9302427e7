import Cfwdon.Library.ByteSlices
import Mathlib.Data.Char
import Mathlib.Data.List.Lex
import Mathlib.Order.Cover

/-!
# Ranges of texts with a common start

In the lexicographic order the lists that begin with a list are those of a half-open range.
The order of texts is the one of their UTF-8 bytes.
-/

namespace Cfwdon.Library

section Lists

variable {α : Type*} [LinearOrder α] {front t : List α} {c d : α}

theorem cons_range_iff {a x : α} {low high rest : List α} :
    (¬ x :: rest < a :: low ∧ x :: rest < a :: high) ↔ x = a ∧ ¬ rest < low ∧ rest < high := by
  simp only [List.cons_lt_cons_iff, not_or, not_and]
  constructor
  · rintro ⟨⟨notBelow, notLess⟩, below | ⟨rfl, less⟩⟩
    · exact absurd below notBelow
    · exact ⟨rfl, notLess rfl, less⟩
  · rintro ⟨rfl, notLess, less⟩
    exact ⟨⟨lt_irrefl x, fun _ => notLess⟩, Or.inr ⟨rfl, less⟩⟩

/-- **The lists that begin with a list are below the list with its last entry raised to the
next.** -/
theorem isPrefix_concat_iff (next : c ⋖ d) :
    front ++ [c] <+: t ↔ ¬ t < front ++ [c] ∧ t < front ++ [d] := by
  induction front generalizing t with
  | nil =>
    cases t with
    | nil => simp
    | cons x rest =>
      rw [List.nil_append, List.nil_append, List.cons_prefix_cons]
      simp only [List.cons_lt_cons_iff, List.not_lt_nil, and_false, or_false, not_lt,
        List.nil_prefix, and_true]
      constructor
      · rintro rfl
        exact ⟨le_rfl, next.lt⟩
      · rintro ⟨above, below⟩
        exact above.eq_of_not_lt fun between => next.2 between below
  | cons a front ih =>
    cases t with
    | nil => simp
    | cons x rest =>
      rw [List.cons_append, List.cons_append, List.cons_prefix_cons, cons_range_iff, ih, eq_comm]

/-- **Below the list with a greatest entry behind it** are all that begin with the list,
except those that have this entry there. -/
theorem range_concat_iff (greatest : ∀ a, a ≤ d) :
    (¬ t < front ∧ t < front ++ [d]) ↔ front <+: t ∧ ¬ front ++ [d] <+: t := by
  induction front generalizing t with
  | nil =>
    cases t with
    | nil => simp
    | cons x rest =>
      rw [List.nil_append, List.cons_prefix_cons]
      simp only [List.cons_lt_cons_iff, List.not_lt_nil, and_false, or_false, not_false_eq_true,
        List.nil_prefix, and_true, true_and]
      exact (greatest x).lt_iff_ne.trans ne_comm
  | cons a front ih =>
    cases t with
    | nil => simp
    | cons x rest =>
      rw [List.cons_append, List.cons_prefix_cons, List.cons_prefix_cons, cons_range_iff, ih,
        @eq_comm α a x]
      exact ⟨fun ⟨eq, begins, free⟩ => ⟨⟨eq, begins⟩, fun whole => free whole.2⟩,
        fun ⟨⟨eq, begins⟩, free⟩ => ⟨eq, begins, fun whole => free ⟨eq, whole⟩⟩⟩

end Lists

/-! ## The order of bytes -/

/-- The bytes of the smaller character are smaller, whatever follows. -/
theorem utf8EncodeChar_append_lt {c d : Char} (less : c < d) (rest rest' : List UInt8) :
    String.utf8EncodeChar c ++ rest < String.utf8EncodeChar d ++ rest' := by
  have codes : c.val.toNat < d.val.toNat := less
  have bound : d.val.toNat < 1114112 := by
    obtain small | ⟨-, small⟩ := d.valid
    · exact Nat.lt_trans small (by decide)
    · exact small
  unfold String.utf8EncodeChar
  dsimp only
  split_ifs <;>
    simp only [List.cons_append, List.nil_append, List.cons_lt_cons_iff, UInt8.lt_iff_toNat_lt,
      ← UInt8.toNat_inj, UInt8.toNat_ofNat'] <;>
    simp (disch := omega) only [Nat.mod_eq_of_lt] <;>
    omega

theorem append_lt_append_left_iff {front s t : List UInt8} : front ++ s < front ++ t ↔ s < t := by
  induction front with
  | nil => rfl
  | cons byte front ih => rw [List.cons_append, List.cons_append, List.cons_lt_cons_self, ih]

theorem utf8Bytes_lt_of_lt {s t : List Char} (less : s < t) : utf8Bytes s < utf8Bytes t := by
  induction less with
  | @nil c rest =>
    have whole : utf8Bytes (c :: rest) = String.utf8EncodeChar c ++ utf8Bytes rest := rfl
    obtain ⟨byte, bytes, eq⟩ := List.exists_cons_of_ne_nil (@String.utf8EncodeChar_ne_nil c)
    rw [whole, eq]
    exact List.nil_lt_cons ..
  | rel less => exact utf8EncodeChar_append_lt less _ _
  | cons _ ih => exact append_lt_append_left_iff.mpr ih

/-- **The order of the bytes is the order of the texts.** -/
theorem utf8Bytes_lt_iff {s t : List Char} : utf8Bytes s < utf8Bytes t ↔ s < t := by
  refine ⟨fun less => ?_, utf8Bytes_lt_of_lt⟩
  rcases lt_trichotomy s t with below | rfl | above
  · exact below
  · exact absurd less (List.lt_irrefl _)
  · exact absurd less (List.lt_asymm (utf8Bytes_lt_of_lt above))

end Cfwdon.Library
