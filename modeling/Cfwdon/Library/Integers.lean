import Cfwdon.Library.Text

/-!
# Machine integers

Database bindings take 32-bit integers.  A wider value is bound as the largest one.  A
text is parsed as a 64-bit integer if it fits.
-/

namespace Cfwdon.Library

def i32Max : Int := 2147483647

/-- `i32::try_from(value).unwrap_or(i32::MAX)`. -/
def toI32OrMax (value : Int) : Int :=
  if -2147483648 ≤ value ∧ value ≤ i32Max then value else i32Max

variable {value : Int}

theorem toI32OrMax_of_fits (low : -2147483648 ≤ value) (high : value ≤ i32Max) :
    toI32OrMax value = value :=
  if_pos ⟨low, high⟩

/-- The number that digits stand for, if there are only digits, and some. -/
def digitsValue (chars : List Char) : Option Int :=
  if chars ≠ [] ∧ chars.all Char.isDigit then
    some (chars.foldl (fun (value : Int) c => value * 10 + (c.toNat - 48 : Nat)) 0)
  else none

/-- `parse::<i64>`: digits after at most one sign, in range. -/
def parseI64 (text : String) : Option Int :=
  let value :=
    match text.toList with
    | '-' :: digits => (digitsValue digits).map fun value => -value
    | '+' :: digits => digitsValue digits
    | digits => digitsValue digits
  value.filter fun value =>
    decide (-9223372036854775808 ≤ value ∧ value ≤ 9223372036854775807)

variable {text : String} {c : Char} {n : Nat}

theorem parseI64_le (parsed : parseI64 text = some value) : value ≤ 9223372036854775807 := by
  obtain ⟨-, range⟩ := Option.filter_eq_some_iff.mp parsed
  exact (of_decide_eq_true range).2

theorem ne_empty_of_parseI64 (parsed : parseI64 text = some value) : text ≠ "" := by
  rintro rfl
  cases parsed

/-! ## Numbers as texts -/

theorem isDigit_of_mem_repr (mem : c ∈ n.repr.toList) : c.isDigit = true := by
  rw [Nat.toList_repr] at mem
  exact Nat.isDigit_of_mem_toDigits (by decide) (by decide) mem

theorem digit_or_sign (mem : c ∈ (toString value).toList) : c.isDigit = true ∨ c = '-' := by
  rw [Int.toString_eq_repr, Int.repr_eq_if] at mem
  split_ifs at mem
  · exact Or.inl (isDigit_of_mem_repr mem)
  · rw [String.toList_append, List.mem_append] at mem
    rcases mem with sign | among
    · exact Or.inr (List.mem_singleton.mp sign)
    · exact Or.inl (isDigit_of_mem_repr among)

theorem isWhitespace_of_number (isNumber : c.isDigit = true ∨ c = '-') :
    isWhitespace c = false := by
  rcases isNumber with digit | rfl
  · have range : 48 ≤ c.toNat ∧ c.toNat ≤ 57 := by
      simp only [Char.isDigit, Bool.and_eq_true, decide_eq_true_eq] at digit
      exact ⟨UInt32.le_iff_toNat_le.mp digit.1, UInt32.le_iff_toNat_le.mp digit.2⟩
    simp only [isWhitespace, Bool.or_eq_false_iff, Bool.and_eq_false_iff, decide_eq_false_iff_not,
      beq_eq_false_iff_ne]
    omega
  · decide

theorem trim_toString (value : Int) : trim (toString value) = toString value :=
  trimMatches_of_forall fun _ mem => isWhitespace_of_number (digit_or_sign mem)

theorem toString_ne_empty (value : Int) : toString value ≠ "" := by
  intro empty
  have ne : (toString value).toList ≠ [] := by
    rw [Int.toString_eq_repr, Int.repr_eq_if]
    split_ifs
    · rw [Nat.toList_repr]
      exact Nat.toDigits_ne_nil
    · simp
  exact ne (by rw [empty]; rfl)

theorem repr_inj {n m : Nat} (eq : n.repr = m.repr) : n = m := by
  have lists := congrArg String.toList eq
  rw [Nat.toList_repr, Nat.toList_repr] at lists
  rw [← @Nat.ofDigitChars_ten_toDigits n, lists, Nat.ofDigitChars_ten_toDigits]

theorem sign_ne_repr : "-" ++ text ≠ n.repr := by
  intro eq
  have mem : '-' ∈ n.repr.toList := by
    rw [← eq, String.toList_append]
    exact List.mem_append_left _ List.mem_cons_self
  have digit := isDigit_of_mem_repr mem
  revert digit
  decide

/-- **Numbers with one text are one.** -/
theorem toString_inj {other : Int} (eq : toString value = toString other) : value = other := by
  rw [Int.toString_eq_repr, Int.toString_eq_repr, Int.repr_eq_if, Int.repr_eq_if] at eq
  split_ifs at eq with first second second
  · have equal := repr_inj eq
    omega
  · exact absurd eq.symm sign_ne_repr
  · exact absurd eq sign_ne_repr
  · have equal := repr_inj ((String.append_right_inj "-").mp eq)
    omega

theorem foldl_digits (chars : List Char) (start : Nat) :
    chars.foldl (fun (value : Int) c => value * 10 + (c.toNat - 48 : Nat)) start
      = Nat.ofDigitChars 10 chars start := by
  induction chars generalizing start with
  | nil => rw [Nat.ofDigitChars_nil, List.foldl_nil]
  | cons c rest ih =>
    have next : (start : Int) * 10 + (c.toNat - 48 : Nat)
        = (10 * start + (c.toNat - '0'.toNat) : Nat) := by
      rw [Nat.mul_comm]
      rfl
    rw [List.foldl_cons, next, ih, Nat.ofDigitChars_cons]

theorem digitsValue_repr (n : Nat) : digitsValue n.repr.toList = some (n : Int) := by
  have digits : n.repr.toList ≠ [] ∧ n.repr.toList.all Char.isDigit = true :=
    ⟨by rw [Nat.toList_repr]; exact Nat.toDigits_ne_nil,
      List.all_eq_true.mpr fun c mem => isDigit_of_mem_repr mem⟩
  have value := foldl_digits n.repr.toList 0
  rw [digitsValue, if_pos digits]
  rw [Nat.toList_repr] at value ⊢
  rw [Nat.ofDigitChars_ten_toDigits] at value
  exact congrArg some value

/-- **A natural number is parsed as itself**, if it fits. -/
theorem parseI64_toString (pos : 0 ≤ value) (fits : value ≤ 9223372036854775807) :
    parseI64 (toString value) = some value := by
  obtain ⟨n, rfl⟩ := Int.eq_ofNat_of_zero_le pos
  have text : toString (n : Int) = n.repr := rfl
  have unsigned : ∀ digits, n.repr.toList ≠ '-' :: digits ∧ n.repr.toList ≠ '+' :: digits := by
    intro digits
    constructor <;> intro starts
    · exact absurd (isDigit_of_mem_repr (starts ▸ List.mem_cons_self)) (by decide)
    · exact absurd (isDigit_of_mem_repr (starts ▸ List.mem_cons_self)) (by decide)
  have inRange : decide (-9223372036854775808 ≤ (n : Int) ∧ (n : Int) ≤ 9223372036854775807)
      = true := decide_eq_true ⟨by omega, fits⟩
  rw [parseI64, text]
  split
  next digits starts => exact absurd starts (unsigned digits).1
  next digits starts => exact absurd starts (unsigned digits).2
  next => rw [digitsValue_repr, Option.filter_some, if_pos inRange]

/-- **A number is parsed as itself**, if it fits. -/
theorem parseI64_toString_of_fits (low : -9223372036854775808 ≤ value)
    (fits : value ≤ 9223372036854775807) : parseI64 (toString value) = some value := by
  by_cases pos : 0 ≤ value
  · exact parseI64_toString pos fits
  · have text : (toString value).toList = '-' :: (-value).toNat.repr.toList := by
      rw [Int.toString_eq_repr, Int.repr_eq_if, if_neg pos, String.toList_append]
      rfl
    have eq : -((-value).toNat : Int) = value := by omega
    rw [parseI64, text]
    split
    next digits starts =>
      rw [← (List.cons.inj starts).2, digitsValue_repr, Option.map_some, eq,
        Option.filter_some, if_pos (decide_eq_true ⟨low, fits⟩)]
    next digits starts => exact absurd (List.cons.inj starts).1 (by decide)
    next unsigned _ => exact absurd rfl (unsigned _)

end Cfwdon.Library
