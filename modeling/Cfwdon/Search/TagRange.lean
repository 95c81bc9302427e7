import Cfwdon.Library.PrefixRanges
import Cfwdon.Search.TagPages

/-!
# The range of a search for tags

The tags that begin with a needle are looked up as a range of an index, from the needle up to
a bound.  The index compares texts by their bytes.
-/

namespace Cfwdon.Search

open Library

/-- The bound of the query: where the last character has no next one, the needle with the
last code point behind it. -/
def tagUpperBound (value : String) : String :=
  (tagPrefixUpperBound value).getD (value.push (Char.ofNat 0x10ffff))

variable {value tag : String} {c d : Char}

theorem covBy_of_nextChar (next : nextChar c = some d) : c ⋖ d := by
  rw [nextChar] at next
  split_ifs at next with valid
  have code : (Char.ofNat (c.toNat + 1)).toNat = c.toNat + 1 := by
    rw [Char.ofNat, dif_pos valid]
    rfl
  obtain rfl := Option.some.inj next
  constructor
  · exact Nat.lt_of_succ_le code.ge
  · intro e above below
    have codeAbove : c.toNat < e.toNat := above
    have codeBelow : e.toNat < (Char.ofNat (c.toNat + 1)).toNat := below
    omega

theorem nextChar_eq_none_iff : nextChar c = none ↔ c.toNat = 0xd7ff ∨ c.toNat = 0x10ffff := by
  have valid : c.toNat.isValidChar := c.valid
  simp only [nextChar, ite_eq_right_iff, reduceCtorEq, imp_false, Nat.isValidChar] at valid ⊢
  omega

theorem le_last_code_point (c : Char) : c ≤ Char.ofNat 0x10ffff := by
  have valid : c.toNat.isValidChar := c.valid
  have bound : c.toNat ≤ 0x10ffff := by
    rw [Nat.isValidChar] at valid
    omega
  exact bound

theorem tagPrefixUpperBound_eq_none_iff : tagPrefixUpperBound value = none
    ↔ ∀ last ∈ value.toList.getLast?, last.toNat = 0xd7ff ∨ last.toNat = 0x10ffff := by
  unfold tagPrefixUpperBound
  cases value.toList.getLast? with
  | none => simp
  | some last =>
    simp only [Option.bind_eq_bind, Option.bind_some, Option.mem_def, Option.some.injEq,
      forall_eq', ← nextChar_eq_none_iff]
    cases nextChar last with
    | none | some next => simp

theorem isPrefix_iff_of_bound {upper : String} (bound : tagPrefixUpperBound value = some upper) :
    value.toList <+: tag.toList ↔ ¬ tag.toList < value.toList ∧ tag.toList < upper.toList := by
  obtain ⟨last, isLast, rest⟩ := Option.bind_eq_some_iff.mp bound
  obtain ⟨next, isNext, made⟩ := Option.bind_eq_some_iff.mp rest
  have whole := List.dropLast_append_getLast? last isLast
  rw [← Option.some.inj made, String.toList_ofList]
  rw [← whole, List.dropLast_concat]
  exact isPrefix_concat_iff (covBy_of_nextChar isNext)

/-- **The range of the query is one of bytes.** -/
theorem inTagRange_iff : inTagRange value tag = true
    ↔ utf8Bytes value.toList ≤ utf8Bytes tag.toList
      ∧ utf8Bytes tag.toList < utf8Bytes (tagUpperBound value).toList := by
  rw [inTagRange, Bool.and_eq_true, decide_eq_true_eq, decide_eq_true_eq, ← List.not_lt,
    utf8Bytes_lt_iff, utf8Bytes_lt_iff]
  exact Iff.rfl

/-- **A text begins with another one exactly if it is in its range**, except where the last
character has no next one and the last code point follows. -/
theorem starts_with_iff_in_range_iff (value tag : String) :
    (startsWith tag value = true
        ↔ utf8Bytes value.toList ≤ utf8Bytes tag.toList
          ∧ utf8Bytes tag.toList < utf8Bytes (tagUpperBound value).toList)
      ↔ ¬ ((∀ last ∈ value.toList.getLast?, last.toNat = 0xd7ff ∨ last.toNat = 0x10ffff)
        ∧ startsWith tag (value.push (Char.ofNat 0x10ffff)) = true) := by
  rw [← List.not_lt, utf8Bytes_lt_iff, utf8Bytes_lt_iff, startsWith, startsWith,
    List.isPrefixOf_iff_prefix, List.isPrefixOf_iff_prefix, String.toList_push,
    ← tagPrefixUpperBound_eq_none_iff, tagUpperBound]
  cases bound : tagPrefixUpperBound value with
  | some upper => exact iff_of_true (isPrefix_iff_of_bound bound) fun wrong => by cases wrong.1
  | none =>
    rw [Option.getD_none, String.toList_push, range_concat_iff le_last_code_point,
      and_iff_right rfl]
    constructor
    · intro eq whole
      exact (eq.mp ((List.prefix_append ..).trans whole)).2 whole
    · intro free
      exact (and_iff_left free).symm

def lastCodePoint : String := String.singleton (Char.ofNat 0x10ffff)

/-- **The last code point twice** begins with the last code point, and is not in its range. -/
theorem last_code_point_twice :
    ¬ (startsWith (lastCodePoint ++ lastCodePoint) lastCodePoint = true
      ↔ utf8Bytes lastCodePoint.toList ≤ utf8Bytes (lastCodePoint ++ lastCodePoint).toList
        ∧ utf8Bytes (lastCodePoint ++ lastCodePoint).toList
          < utf8Bytes (tagUpperBound lastCodePoint).toList) := by
  decide +kernel

end Cfwdon.Search
