import Mathlib.Data.List.Basic
import Mathlib.Data.Nat.Basic
import Mathlib.Tactic.SplitIfs

/-!
# Texts cut at bytes

A text is a list of characters, and its bytes are those of their UTF-8 encodings.  A text
can be cut at a byte that lies between two characters.
-/

namespace Cfwdon.Library

/-- The number of bytes of a text. -/
def utf8Length : List Char → Nat
  | [] => 0
  | c :: rest => c.utf8Size + utf8Length rest

def utf8Bytes (chars : List Char) : List UInt8 :=
  chars.flatMap String.utf8EncodeChar

/-- Cut a text at a byte. -/
def splitAtByte : List Char → Nat → Option (List Char × List Char)
  | chars, 0 => some ([], chars)
  | [], _ + 1 => none
  | c :: rest, n + 1 =>
    if c.utf8Size ≤ n + 1 then
      (splitAtByte rest (n + 1 - c.utf8Size)).map fun cut => (c :: cut.1, cut.2)
    else none

/-- A character begins before a byte and ends after it. -/
def CoversByte (n : Nat) (chars : List Char) : Prop :=
  ∃ before c after, chars = before ++ c :: after ∧ utf8Length before < n
    ∧ n < utf8Length before + c.utf8Size

variable {chars front back : List Char} {n : Nat}

@[simp]
theorem utf8Length_append (front back : List Char) :
    utf8Length (front ++ back) = utf8Length front + utf8Length back := by
  induction front with
  | nil => rw [List.nil_append, utf8Length, Nat.zero_add]
  | cons c rest ih =>
    rw [List.cons_append, utf8Length, utf8Length, ih, Nat.add_assoc]

theorem utf8Length_of_ascii (ascii : ∀ c ∈ chars, c.toNat < 128) :
    utf8Length chars = chars.length := by
  induction chars with
  | nil => rfl
  | cons c rest ih =>
    rw [List.forall_mem_cons] at ascii
    have one : c.utf8Size = 1 :=
      Char.utf8Size_eq_one_iff.mpr (UInt32.le_iff_toNat_le.mpr (Nat.le_of_lt_succ ascii.1))
    rw [utf8Length, one, ih ascii.2, List.length_cons, Nat.add_comm]

/-! ## Cutting -/

/-- **Where a text is cut**: in two parts, of which the first has as many bytes. -/
theorem splitAtByte_eq_some_iff :
    splitAtByte chars n = some (front, back) ↔ chars = front ++ back ∧ utf8Length front = n := by
  induction chars generalizing n front with
  | nil =>
    cases n with
    | zero =>
      rw [splitAtByte, Option.some.injEq, Prod.mk.injEq]
      constructor
      · rintro ⟨rfl, rfl⟩
        exact ⟨rfl, rfl⟩
      · rintro ⟨parts, -⟩
        obtain ⟨rfl, rfl⟩ := List.append_eq_nil_iff.mp parts.symm
        exact ⟨rfl, rfl⟩
    | succ n =>
      rw [splitAtByte]
      constructor
      · intro none
        cases none
      · rintro ⟨parts, length⟩
        obtain ⟨rfl, -⟩ := List.append_eq_nil_iff.mp parts.symm
        cases length
  | cons c rest ih =>
    have pos := c.utf8Size_pos
    cases n with
    | zero =>
      rw [splitAtByte, Option.some.injEq, Prod.mk.injEq]
      constructor
      · rintro ⟨rfl, rfl⟩
        exact ⟨rfl, rfl⟩
      · rintro ⟨parts, length⟩
        cases front with
        | nil => exact ⟨rfl, parts⟩
        | cons d front =>
          have size := d.utf8Size_pos
          rw [utf8Length] at length
          omega
    | succ n =>
      rw [splitAtByte]
      split_ifs with fits
      · rw [Option.map_eq_some_iff]
        constructor
        · rintro ⟨⟨inner, post⟩, cut, eq⟩
          cases eq
          obtain ⟨rfl, length⟩ := ih.mp cut
          refine ⟨rfl, ?_⟩
          rw [utf8Length, length]
          omega
        · rintro ⟨parts, length⟩
          cases front with
          | nil => cases length
          | cons d front =>
            obtain ⟨rfl, rfl⟩ := List.cons.inj parts
            refine ⟨(front, back), ih.mpr ⟨rfl, ?_⟩, rfl⟩
            rw [utf8Length] at length
            omega
      · constructor
        · intro none
          cases none
        · rintro ⟨parts, length⟩
          cases front with
          | nil => cases length
          | cons d front =>
            obtain ⟨rfl, rfl⟩ := List.cons.inj parts
            rw [utf8Length] at length
            omega

/-- **A text is not cut** behind its end, nor inside a character. -/
theorem splitAtByte_eq_none_iff :
    splitAtByte chars n = none ↔ utf8Length chars < n ∨ CoversByte n chars := by
  induction chars generalizing n with
  | nil =>
    cases n with
    | zero =>
      rw [splitAtByte]
      refine iff_of_false (fun none => by cases none) ?_
      rintro (pre | ⟨pre, c, post, -, less, -⟩)
      · cases pre
      · cases less
    | succ n => exact iff_of_true rfl (Or.inl (Nat.succ_pos n))
  | cons c rest ih =>
    have pos := c.utf8Size_pos
    cases n with
    | zero =>
      rw [splitAtByte]
      refine iff_of_false (fun none => by cases none) ?_
      rintro (pre | ⟨pre, c, post, -, less, -⟩)
      · cases pre
      · cases less
    | succ n =>
      rw [splitAtByte]
      split_ifs with fits
      · rw [Option.map_eq_none_iff, ih, utf8Length]
        refine or_congr (by omega) ⟨?_, ?_⟩
        · rintro ⟨pre, d, post, rfl, less, more⟩
          refine ⟨c :: pre, d, post, rfl, ?_, ?_⟩ <;> rw [utf8Length] <;> omega
        · rintro ⟨pre, d, post, parts, less, more⟩
          cases pre with
          | nil =>
            obtain ⟨rfl, rfl⟩ := List.cons.inj parts
            rw [utf8Length] at more
            omega
          | cons e pre =>
            obtain ⟨rfl, rfl⟩ := List.cons.inj parts
            rw [utf8Length] at less more
            exact ⟨pre, d, post, rfl, by omega, by omega⟩
      · refine iff_of_true rfl (Or.inr ⟨[], c, rest, rfl, Nat.succ_pos n, ?_⟩)
        rw [utf8Length]
        omega

theorem not_coversByte_append : ¬ CoversByte (utf8Length front) (front ++ back) := by
  intro covers
  have none := splitAtByte_eq_none_iff.mpr (Or.inr covers)
  rw [splitAtByte_eq_some_iff.mpr ⟨rfl, rfl⟩] at none
  cases none

theorem CoversByte.lt (covers : CoversByte n chars) : n < utf8Length chars := by
  obtain ⟨pre, c, post, rfl, -, more⟩ := covers
  rw [utf8Length_append, utf8Length]
  omega

theorem not_coversByte_of_ascii (ascii : ∀ c ∈ chars, c.toNat < 128) : ¬ CoversByte n chars := by
  rintro ⟨pre, c, post, rfl, less, more⟩
  have small := ascii c (List.mem_append_right _ List.mem_cons_self)
  have one := @utf8Length_of_ascii [c] fun d mem =>
    List.mem_singleton.mp mem ▸ small
  rw [utf8Length, utf8Length, List.length_singleton] at one
  omega

/-- A byte is covered whatever stands behind the character that covers it. -/
theorem CoversByte.append (covers : CoversByte n front) (back : List Char) :
    CoversByte n (front ++ back) := by
  obtain ⟨pre, c, post, rfl, less, more⟩ := covers
  exact ⟨pre, c, post ++ back, by rw [List.append_assoc, List.cons_append], less, more⟩

theorem CoversByte.of_append (covers : CoversByte n (front ++ back))
    (inside : n ≤ utf8Length front) : CoversByte n front := by
  rcases cut : splitAtByte front n with _ | ⟨first, second⟩
  · rcases splitAtByte_eq_none_iff.mp cut with short | covered
    · omega
    · exact covered
  · obtain ⟨rfl, rfl⟩ := splitAtByte_eq_some_iff.mp cut
    rw [List.append_assoc] at covers
    exact absurd covers not_coversByte_append

/-! ## Single bytes -/

theorem or_ne {x bits byte : UInt8} (lacks : byte &&& bits ≠ bits) : x ||| bits ≠ byte := by
  rintro rfl
  apply lacks
  apply UInt8.eq_of_toBitVec_eq
  ext i
  simp only [UInt8.toBitVec_and, UInt8.toBitVec_or, BitVec.getElem_and, BitVec.getElem_or]
  cases x.toBitVec[i] <;> cases bits.toBitVec[i] <;> rfl

theorem utf8EncodeChar_cases (c : Char) :
    (String.utf8EncodeChar c = [c.val.toUInt8] ∧ c.toNat < 128)
      ∨ ∀ byte ∈ String.utf8EncodeChar c, byte &&& 0x80 ≠ 0 := by
  have high : ∀ {x bits byte : UInt8}, byte = x ||| bits → bits &&& 0x80 = 0x80 →
      byte &&& 0x80 ≠ 0 := by
    rintro x bits byte rfl isHigh zero
    refine @or_ne (x &&& 0x80) 0x80 0 (by decide) ?_
    rw [← zero, ← isHigh]
    apply UInt8.eq_of_toBitVec_eq
    ext i
    have bit := congrArg (fun byte : UInt8 => byte.toBitVec[i]) isHigh
    simp only [UInt8.toBitVec_and, UInt8.toBitVec_or, BitVec.getElem_and, BitVec.getElem_or]
      at bit ⊢
    cases x.toBitVec[i] <;> cases bits.toBitVec[i] <;> simp_all
  rcases c.utf8Size_eq with one | two | three | four
  · left
    exact ⟨String.utf8EncodeChar_eq_singleton one,
      Nat.lt_succ_of_le (UInt32.le_iff_toNat_le.mp (Char.utf8Size_eq_one_iff.mp one))⟩
  · right
    rw [String.utf8EncodeChar_eq_cons_cons two]
    simp only [List.forall_mem_cons, List.not_mem_nil, false_implies, implies_true, and_true]
    exact ⟨high rfl (by decide), high rfl (by decide)⟩
  · right
    rw [String.utf8EncodeChar_eq_cons_cons_cons three]
    simp only [List.forall_mem_cons, List.not_mem_nil, false_implies, implies_true, and_true]
    exact ⟨high rfl (by decide), high rfl (by decide), high rfl (by decide)⟩
  · right
    rw [String.utf8EncodeChar_eq_cons_cons_cons_cons four]
    simp only [List.forall_mem_cons, List.not_mem_nil, false_implies, implies_true, and_true]
    exact ⟨high rfl (by decide), high rfl (by decide), high rfl (by decide), high rfl (by decide)⟩

theorem eq_of_toUInt8_eq {c d : Char} (ascii : c.toNat < 128) (other : d.toNat < 128)
    (eq : d.val.toUInt8 = c.val.toUInt8) : d = c := by
  have bytes := congrArg UInt8.toNat eq
  rw [UInt32.toNat_toUInt8, UInt32.toNat_toUInt8] at bytes
  have left : d.val.toNat = d.toNat := rfl
  have right : c.val.toNat = c.toNat := rfl
  exact Char.toNat_inj.mp (by omega)

theorem toUInt8_and_high {c : Char} (ascii : c.toNat < 128) : c.val.toUInt8 &&& 0x80 = 0 := by
  have each : ∀ code ∈ List.range 128, (Char.ofNat code).val.toUInt8 &&& 0x80 = 0 := by
    decide +kernel
  have got := each c.toNat (List.mem_range.mpr ascii)
  rwa [Char.ofNat_toNat] at got

/-- **An ASCII byte is a character of its own.** -/
theorem byte_eq_iff {c : Char} (ascii : c.toNat < 128) :
    (utf8Bytes chars)[n]? = some c.val.toUInt8
      ↔ ∃ pre post, chars = pre ++ c :: post ∧ utf8Length pre = n := by
  induction chars generalizing n with
  | nil =>
    refine iff_of_false (by simp [utf8Bytes]) ?_
    rintro ⟨pre, post, parts, -⟩
    exact absurd parts.symm (List.append_ne_nil_of_right_ne_nil _ (List.cons_ne_nil _ _))
  | cons d rest ih =>
    have bytes : utf8Bytes (d :: rest) = String.utf8EncodeChar d ++ utf8Bytes rest :=
      List.flatMap_cons
    have length := String.length_utf8EncodeChar d
    rw [bytes]
    by_cases inside : n < d.utf8Size
    · rw [List.getElem?_append_left (by omega)]
      have first : (∃ pre post, d :: rest = pre ++ c :: post ∧ utf8Length pre = n)
          ↔ d = c ∧ n = 0 := by
        constructor
        · rintro ⟨pre, post, parts, rfl⟩
          cases pre with
          | nil => exact ⟨(List.cons.inj parts).1, rfl⟩
          | cons e pre =>
            rw [(List.cons.inj parts).1, utf8Length] at inside
            omega
        · rintro ⟨rfl, rfl⟩
          exact ⟨[], rest, rfl, rfl⟩
      rw [first]
      rcases utf8EncodeChar_cases d with ⟨single, small⟩ | high
      · rw [single, List.length_singleton] at length
        obtain rfl : n = 0 := by omega
        rw [single, List.getElem?_cons_zero, Option.some.injEq]
        constructor
        · exact fun eq => ⟨eq_of_toUInt8_eq ascii small eq, rfl⟩
        · rintro ⟨rfl, -⟩
          rfl
      · constructor
        · intro eq
          exact absurd (toUInt8_and_high ascii) (high _ (List.mem_of_getElem? eq))
        · rintro ⟨rfl, rfl⟩
          have one : d.utf8Size = 1 :=
            Char.utf8Size_eq_one_iff.mpr (UInt32.le_iff_toNat_le.mpr (Nat.le_of_lt_succ ascii))
          rw [String.utf8EncodeChar_eq_singleton one]
          rfl
    · rw [List.getElem?_append_right (by omega), length, ih]
      constructor
      · rintro ⟨pre, post, rfl, less⟩
        refine ⟨d :: pre, post, rfl, ?_⟩
        rw [utf8Length]
        omega
      · rintro ⟨pre, post, parts, less⟩
        cases pre with
        | nil =>
          rw [utf8Length] at less
          have pos := d.utf8Size_pos
          omega
        | cons e pre =>
          obtain ⟨rfl, rfl⟩ := List.cons.inj parts
          rw [utf8Length] at less
          exact ⟨pre, post, rfl, by omega⟩

end Cfwdon.Library
