import Cfwdon.Library.UrlHosts
import Mathlib.Data.List.Infix

/-!
# Placeholders and patterns of SQL texts

A query text refers to its bindings by number, counted from one in the order in which they
are bound.  A `LIKE` pattern has two wildcards and ignores the case of ASCII letters.

* `denotes_append` -- a number denotes the same binding when more are bound after it;
* `denotes_shift` -- and a later one when more are bound before it;
* `likeMatches_enclosed_of_isInfix` -- the pattern's own letters are such a stretch.
-/

namespace Cfwdon.Library

section Placeholders

variable {Binding : Type*}

/-- The binding that a numbered placeholder denotes; the first one is number one. -/
def denotes (bindings : List Binding) : Nat → Option Binding
  | 0 => none
  | slot + 1 => bindings[slot]?

theorem denotes_append {bindings : List Binding} (more : List Binding) {slot : Nat}
    (bound : slot ≤ bindings.length) :
    denotes (bindings ++ more) slot = denotes bindings slot := by
  cases slot with
  | zero => rfl
  | succ slot => exact List.getElem?_append_left bound

theorem denotes_shift (prior bindings : List Binding) (slot : Nat) :
    denotes (prior ++ bindings) (prior.length + (slot + 1)) = denotes bindings (slot + 1) := by
  show (prior ++ bindings)[prior.length + slot]? = bindings[slot]?
  rw [List.getElem?_append_right (Nat.le_add_right ..), Nat.add_sub_cancel_left]

end Placeholders

/-! ## Patterns -/

/-- `text LIKE pattern`: `%` stands for any stretch, `_` for any character, and another
character for itself up to the case of ASCII letters. -/
def likeMatches : List Char → List Char → Bool
  | [], text => text.isEmpty
  | c :: pattern, text =>
    if c = '%' then text.tails.any (likeMatches pattern)
    else
      match text with
      | [] => false
      | d :: rest => (c == '_' || c.toLower == d.toLower) && likeMatches pattern rest

variable {pattern text : List Char}

theorem likeMatches_percent :
    likeMatches ('%' :: pattern) text = true
      ↔ ∃ rest, rest <:+ text ∧ likeMatches pattern rest = true := by
  have tails : likeMatches ('%' :: pattern) text = text.tails.any (likeMatches pattern) := by
    cases text <;> rfl
  rw [tails, List.any_eq_true]
  simp only [List.mem_tails]

theorem likeMatches_cons {c d : Char} (literal : c ≠ '%') :
    likeMatches (c :: pattern) (d :: text) = true
      ↔ (c = '_' ∨ c.toLower = d.toLower) ∧ likeMatches pattern text = true := by
  rw [likeMatches, if_neg literal]
  simp

theorem likeMatches_append_percent :
    likeMatches (pattern ++ ['%']) text = true
      ↔ ∃ front, front <+: text ∧ likeMatches pattern front = true := by
  induction pattern generalizing text with
  | nil =>
    rw [List.nil_append, likeMatches_percent]
    exact iff_of_true ⟨[], List.nil_suffix, rfl⟩ ⟨[], List.nil_prefix, rfl⟩
  | cons c pattern ih =>
    rw [List.cons_append]
    by_cases wildcard : c = '%'
    · subst wildcard
      simp only [likeMatches_percent, ih]
      constructor
      · rintro ⟨rest, ⟨pre, rfl⟩, front, ⟨post, rfl⟩, hit⟩
        exact ⟨pre ++ front, ⟨post, by simp⟩, front, List.suffix_append .., hit⟩
      · rintro ⟨_, ⟨post, rfl⟩, front, ⟨pre, rfl⟩, hit⟩
        exact ⟨front ++ post, ⟨pre, by simp⟩, front, List.prefix_append .., hit⟩
    · cases text with
      | nil =>
        refine iff_of_false (by simp [likeMatches, wildcard]) ?_
        rintro ⟨front, starts, hit⟩
        rw [List.prefix_nil.mp starts] at hit
        simp [likeMatches, wildcard] at hit
      | cons d rest =>
        rw [likeMatches_cons wildcard, ih]
        constructor
        · rintro ⟨eq, front, starts, hit⟩
          exact ⟨d :: front, List.cons_prefix_cons.mpr ⟨rfl, starts⟩,
            (likeMatches_cons wildcard).mpr ⟨eq, hit⟩⟩
        · rintro ⟨front, starts, hit⟩
          cases front with
          | nil => simp [likeMatches, wildcard] at hit
          | cons e front =>
            obtain ⟨rfl, later⟩ := List.cons_prefix_cons.mp starts
            obtain ⟨eq, kept⟩ := (likeMatches_cons wildcard).mp hit
            exact ⟨eq, front, later, kept⟩

/-- **A pattern between two wildcards** looks for a stretch that it matches. -/
theorem likeMatches_enclosed :
    likeMatches ('%' :: (pattern ++ ['%'])) text = true
      ↔ ∃ stretch, stretch <:+: text ∧ likeMatches pattern stretch = true := by
  simp only [likeMatches_percent, likeMatches_append_percent]
  constructor
  · rintro ⟨rest, ends, stretch, starts, hit⟩
    exact ⟨stretch, starts.isInfix.trans ends.isInfix, hit⟩
  · rintro ⟨stretch, ⟨pre, post, rfl⟩, hit⟩
    exact ⟨stretch ++ post, ⟨pre, by simp⟩, stretch, List.prefix_append .., hit⟩

theorem toLower_toLower (c : Char) : c.toLower.toLower = c.toLower := by
  rcases toLower_cases c with own | ⟨n, below, above, rfl⟩
  · rw [own, own]
  · have letters : ∀ n < 91, 65 ≤ n →
        (Char.ofNat n).toLower.toLower = (Char.ofNat n).toLower := by decide
    exact letters n below above

theorem isWhitespace_toLower {c : Char} (plain : isWhitespace c = false) :
    isWhitespace c.toLower = false := by
  rcases toLower_cases c with own | ⟨n, below, above, rfl⟩
  · rw [own, plain]
  · have letters : ∀ n < 91, 65 ≤ n → isWhitespace (Char.ofNat n).toLower = false := by decide
    exact letters n below above

theorem lowercase_lowercase (text : String) :
    toAsciiLowercase (toAsciiLowercase text) = toAsciiLowercase text := by
  refine String.toList_inj.mp ?_
  rw [toList_lowercase, toList_lowercase, List.map_map]
  exact List.map_congr_left fun c _ => toLower_toLower c

theorem likeMatches_map_toLower :
    likeMatches (pattern.map Char.toLower) (text.map Char.toLower) = likeMatches pattern text := by
  induction pattern generalizing text with
  | nil => simp [likeMatches]
  | cons c pattern ih =>
    rw [List.map_cons]
    by_cases wildcard : c = '%'
    · subst wildcard
      rw [Bool.eq_iff_iff, show Char.toLower '%' = '%' from rfl, likeMatches_percent,
        likeMatches_percent]
      constructor
      · rintro ⟨_, ends, hit⟩
        obtain ⟨rest, later, rfl⟩ := List.suffix_map_iff.mp ends
        exact ⟨rest, later, by rwa [ih] at hit⟩
      · rintro ⟨rest, ends, hit⟩
        exact ⟨rest.map Char.toLower, ends.map _, by rwa [ih]⟩
    · have lower : c.toLower ≠ '%' := fun eq => wildcard (eq_of_toLower_eq eq rfl)
      have anyCharacter : c.toLower = '_' ↔ c = '_' :=
        ⟨fun eq => eq_of_toLower_eq eq rfl, by rintro rfl; rfl⟩
      cases text with
      | nil => simp [likeMatches, wildcard, lower]
      | cons d rest =>
        rw [Bool.eq_iff_iff, List.map_cons, likeMatches_cons lower,
          likeMatches_cons wildcard, ih, anyCharacter, toLower_toLower,
          toLower_toLower]

end Cfwdon.Library
