import Mathlib.Data.List.Basic

/-!
# Base64

Bytes as text: three bytes are four digits of six bits, and a last group that is short
is filled up with `=`.  The decoder takes no other text, in particular none with bits
left over.
-/

namespace Cfwdon.Library.Base64

def digit (value : Nat) : Char :=
  if value < 26 then Char.ofNat (65 + value)
  else if value < 52 then Char.ofNat (71 + value)
  else if value < 62 then Char.ofNat (value - 4)
  else if value = 62 then '+'
  else '/'

def value (c : Char) : Option Nat :=
  if c.isUpper then some (c.toNat - 65)
  else if c.isLower then some (c.toNat - 71)
  else if c.isDigit then some (c.toNat + 4)
  else if c = '+' then some 62
  else if c = '/' then some 63
  else none

theorem value_digit {n : Nat} (small : n < 64) : value (digit n) = some n := by
  have each : ∀ n ∈ List.range 64, value (digit n) = some n := by decide +kernel
  exact each n (List.mem_range.mpr small)

theorem digit_ne_pad {n : Nat} (small : n < 64) : digit n ≠ '=' := by
  intro eq
  have got := value_digit small
  rw [eq] at got
  have noDigit : value '=' = none := by decide
  cases noDigit.symm.trans got

/-- The digits of bytes, in groups. -/
def encodeGroups : List UInt8 → List Char
  | [] => []
  | [a] =>
    let n := a.toNat * 16
    [digit (n / 64), digit (n % 64), '=', '=']
  | [a, b] =>
    let n := a.toNat * 1024 + b.toNat * 4
    [digit (n / 4096), digit (n / 64 % 64), digit (n % 64), '=']
  | a :: b :: c :: rest =>
    let n := a.toNat * 65536 + b.toNat * 256 + c.toNat
    digit (n / 262144) :: digit (n / 4096 % 64) :: digit (n / 64 % 64) :: digit (n % 64)
      :: encodeGroups rest

def encode (bytes : List UInt8) : String :=
  String.ofList (encodeGroups bytes)

/-! ## Decoding -/

/-- The byte of a last group of two digits, whose four last bits are zero. -/
def decodeOne (w x : Char) : Option (List UInt8) := do
  let n := (← value w) * 64 + (← value x)
  if n % 16 = 0 then some [UInt8.ofNat (n / 16)] else none

/-- The bytes of a last group of three digits, whose two last bits are zero. -/
def decodeTwo (w x y : Char) : Option (List UInt8) := do
  let n := (← value w) * 4096 + (← value x) * 64 + (← value y)
  if n % 4 = 0 then some [UInt8.ofNat (n / 1024), UInt8.ofNat (n / 4 % 256)] else none

/-- The bytes of a group of four digits. -/
def decodeThree (w x y z : Char) : Option (List UInt8) := do
  let n := (← value w) * 262144 + (← value x) * 4096 + (← value y) * 64 + (← value z)
  some [UInt8.ofNat (n / 65536), UInt8.ofNat (n / 256 % 256), UInt8.ofNat (n % 256)]

/-- The bytes of digits, in groups. -/
def decodeGroups : List Char → Option (List UInt8)
  | [] => some []
  | w :: x :: y :: z :: rest =>
    if z = '=' then
      if rest ≠ [] then none
      else if y = '=' then decodeOne w x
      else decodeTwo w x y
    else do
      let bytes ← decodeThree w x y z
      return bytes ++ (← decodeGroups rest)
  | _ => none

def decode (text : String) : Option (List UInt8) :=
  decodeGroups text.toList

/-! ## There and back -/

theorem ofNat_eq {n : Nat} {byte : UInt8} (eq : n = byte.toNat) : UInt8.ofNat n = byte := by
  rw [eq, UInt8.ofNat_toNat]

theorem three_digits (n : Nat) : n / 4096 * 4096 + n / 64 % 64 * 64 + n % 64 = n := by
  have high : n / 4096 = n / 64 / 64 := by rw [Nat.div_div_eq_div_mul]
  omega

theorem four_digits (n : Nat) :
    n / 262144 * 262144 + n / 4096 % 64 * 4096 + n / 64 % 64 * 64 + n % 64 = n := by
  calc
    n / 262144 * 262144 + n / 4096 % 64 * 4096 + n / 64 % 64 * 64 + n % 64
        = (n / 4096 / 64 * 64 + n / 4096 % 64) * 4096 + n / 64 % 64 * 64 + n % 64 := by
          rw [Nat.div_div_eq_div_mul, Nat.add_mul, Nat.mul_assoc]
    _ = n / 4096 * 4096 + n / 64 % 64 * 64 + n % 64 := by rw [Nat.div_add_mod']
    _ = n := three_digits n

theorem decodeOne_digits (a : UInt8) :
    decodeOne (digit (a.toNat * 16 / 64)) (digit (a.toNat * 16 % 64)) = some [a] := by
  have bound := a.toNat_lt
  rw [decodeOne, value_digit (by omega), value_digit (by omega)]
  generalize shifted : a.toNat * 16 = n
  have joined : n / 64 * 64 + n % 64 = n := Nat.div_add_mod' n 64
  have filled : n % 16 = 0 := by omega
  have byte : UInt8.ofNat (n / 16) = a := ofNat_eq (by omega)
  simp only [Option.bind_eq_bind, Option.bind_some, joined, filled, ↓reduceIte, byte]

theorem decodeTwo_digits (a b : UInt8) :
    decodeTwo (digit ((a.toNat * 1024 + b.toNat * 4) / 4096))
      (digit ((a.toNat * 1024 + b.toNat * 4) / 64 % 64))
      (digit ((a.toNat * 1024 + b.toNat * 4) % 64)) = some [a, b] := by
  have boundA := a.toNat_lt
  have boundB := b.toNat_lt
  rw [decodeTwo, value_digit (by omega), value_digit (by omega), value_digit (by omega)]
  generalize sum : a.toNat * 1024 + b.toNat * 4 = n
  have joined := three_digits n
  have filled : n % 4 = 0 := by omega
  have first : UInt8.ofNat (n / 1024) = a := ofNat_eq (by omega)
  have second : UInt8.ofNat (n / 4 % 256) = b := ofNat_eq (by omega)
  simp only [Option.bind_eq_bind, Option.bind_some, joined, filled, if_true, first, second]

theorem decodeThree_digits (a b c : UInt8) :
    decodeThree (digit ((a.toNat * 65536 + b.toNat * 256 + c.toNat) / 262144))
      (digit ((a.toNat * 65536 + b.toNat * 256 + c.toNat) / 4096 % 64))
      (digit ((a.toNat * 65536 + b.toNat * 256 + c.toNat) / 64 % 64))
      (digit ((a.toNat * 65536 + b.toNat * 256 + c.toNat) % 64)) = some [a, b, c] := by
  have boundA := a.toNat_lt
  have boundB := b.toNat_lt
  have boundC := c.toNat_lt
  rw [decodeThree, value_digit (by omega), value_digit (by omega), value_digit (by omega),
    value_digit (by omega)]
  generalize sum : a.toNat * 65536 + b.toNat * 256 + c.toNat = n
  have joined := four_digits n
  have first : UInt8.ofNat (n / 65536) = a := ofNat_eq (by omega)
  have second : UInt8.ofNat (n / 256 % 256) = b := ofNat_eq (by omega)
  have third : UInt8.ofNat (n % 256) = c := ofNat_eq (by omega)
  simp only [Option.bind_eq_bind, Option.bind_some, joined, first, second, third]

theorem decodeGroups_encodeGroups (bytes : List UInt8) :
    decodeGroups (encodeGroups bytes) = some bytes := by
  induction bytes using encodeGroups.induct with
  | case1 => rfl
  | case2 a =>
    simp only [encodeGroups, decodeGroups, if_true, ne_eq, not_true_eq_false, if_false]
    exact decodeOne_digits a
  | case3 a b =>
    have notPad : digit ((a.toNat * 1024 + b.toNat * 4) % 64) ≠ '=' :=
      digit_ne_pad (Nat.mod_lt _ (by decide))
    simp only [encodeGroups, decodeGroups, if_true, ne_eq, not_true_eq_false, if_false,
      if_neg notPad]
    exact decodeTwo_digits a b
  | case4 a b c rest ih =>
    have notPad : digit ((a.toNat * 65536 + b.toNat * 256 + c.toNat) % 64) ≠ '=' :=
      digit_ne_pad (Nat.mod_lt _ (by decide))
    simp only [encodeGroups, decodeGroups, if_neg notPad, decodeThree_digits, ih]
    rfl

/-- **What is encoded is decoded to itself.** -/
theorem decode_encode (bytes : List UInt8) : decode (encode bytes) = some bytes := by
  rw [decode, encode, String.toList_ofList, decodeGroups_encodeGroups]

/-- Whether a character may stand in an encoded text. -/
def isEncoded (c : Char) : Bool :=
  (value c).isSome || c == '='

theorem isEncoded_digit {n : Nat} (small : n < 64) : isEncoded (digit n) = true := by
  rw [isEncoded, value_digit small]
  rfl

variable {c : Char} {bytes : List UInt8}

theorem mem_encodeGroups (mem : c ∈ encodeGroups bytes) : isEncoded c = true := by
  induction bytes using encodeGroups.induct with
  | case1 => cases mem
  | case2 a =>
    have bound := a.toNat_lt
    simp only [encodeGroups, List.mem_cons, List.not_mem_nil, or_false] at mem
    rcases mem with rfl | rfl | rfl | rfl
    · exact isEncoded_digit (by omega)
    · exact isEncoded_digit (by omega)
    · rfl
    · rfl
  | case3 a b =>
    have boundA := a.toNat_lt
    have boundB := b.toNat_lt
    simp only [encodeGroups, List.mem_cons, List.not_mem_nil, or_false] at mem
    rcases mem with rfl | rfl | rfl | rfl
    · exact isEncoded_digit (by omega)
    · exact isEncoded_digit (by omega)
    · exact isEncoded_digit (by omega)
    · rfl
  | case4 a b c' rest ih =>
    have boundA := a.toNat_lt
    have boundB := b.toNat_lt
    have boundC := c'.toNat_lt
    simp only [encodeGroups, List.mem_cons] at mem
    rcases mem with rfl | rfl | rfl | rfl | later
    · exact isEncoded_digit (by omega)
    · exact isEncoded_digit (by omega)
    · exact isEncoded_digit (by omega)
    · exact isEncoded_digit (by omega)
    · exact ih later

/-- **An encoded text has only digits and `=`.** -/
theorem mem_encode (mem : c ∈ (encode bytes).toList) : isEncoded c = true := by
  rw [encode, String.toList_ofList] at mem
  exact mem_encodeGroups mem

/-! ## The alphabet for URLs -/

/-- A digit in the alphabet for URLs. -/
def urlSafe (c : Char) : Char :=
  if c = '+' then '-' else if c = '/' then '_' else c

/-- A digit for URLs in the standard alphabet. -/
def standard (c : Char) : Char :=
  if c = '-' then '+' else if c = '_' then '/' else c

/-- The digits of bytes, without padding. -/
def unpadded (bytes : List UInt8) : List Char :=
  (encodeGroups bytes).filter fun c => c != '='

/-- Digits filled up to whole groups. -/
def pad (digits : List Char) : List Char :=
  digits ++ List.replicate ((4 - digits.length % 4) % 4) '='

def encodeUrlSafe (bytes : List UInt8) : String :=
  String.ofList ((unpadded bytes).map urlSafe)

theorem standard_urlSafe (encoded : isEncoded c = true) : standard (urlSafe c) = c := by
  have notDash : c ≠ '-' := by
    rintro rfl
    exact absurd encoded (by decide)
  have notUnderscore : c ≠ '_' := by
    rintro rfl
    exact absurd encoded (by decide)
  unfold urlSafe
  split_ifs with plus slash
  · exact plus.symm ▸ rfl
  · exact slash.symm ▸ rfl
  · rw [standard, if_neg notDash, if_neg notUnderscore]

theorem pad_cons_group {w x y z : Char} {digits : List Char} :
    pad (w :: x :: y :: z :: digits) = w :: x :: y :: z :: pad digits := by
  have whole : (digits.length + 1 + 1 + 1 + 1) % 4 = digits.length % 4 := by omega
  simp only [pad, List.length_cons, whole, List.cons_append]

theorem pad_unpadded (bytes : List UInt8) : pad (unpadded bytes) = encodeGroups bytes := by
  induction bytes using encodeGroups.induct with
  | case1 => rfl
  | case2 a =>
    have bound := a.toNat_lt
    have first : digit (a.toNat * 16 / 64) ≠ '=' := digit_ne_pad (by omega)
    have second : digit (a.toNat * 16 % 64) ≠ '=' := digit_ne_pad (by omega)
    simp [unpadded, encodeGroups, pad, first, second]
  | case3 a b =>
    have boundA := a.toNat_lt
    have boundB := b.toNat_lt
    have first : digit ((a.toNat * 1024 + b.toNat * 4) / 4096) ≠ '=' := digit_ne_pad (by omega)
    have second : digit ((a.toNat * 1024 + b.toNat * 4) / 64 % 64) ≠ '=' :=
      digit_ne_pad (by omega)
    have third : digit ((a.toNat * 1024 + b.toNat * 4) % 64) ≠ '=' := digit_ne_pad (by omega)
    simp [unpadded, encodeGroups, pad, first, second, third]
  | case4 a b c rest ih =>
    have boundA := a.toNat_lt
    have boundB := b.toNat_lt
    have boundC := c.toNat_lt
    generalize sum : a.toNat * 65536 + b.toNat * 256 + c.toNat = n
    have first : digit (n / 262144) ≠ '=' := digit_ne_pad (by omega)
    have second : digit (n / 4096 % 64) ≠ '=' := digit_ne_pad (by omega)
    have third : digit (n / 64 % 64) ≠ '=' := digit_ne_pad (by omega)
    have fourth : digit (n % 64) ≠ '=' := digit_ne_pad (by omega)
    have group : unpadded (a :: b :: c :: rest) = digit (n / 262144) :: digit (n / 4096 % 64)
        :: digit (n / 64 % 64) :: digit (n % 64) :: unpadded rest := by
      simp [unpadded, encodeGroups, sum, first, second, third, fourth]
    rw [group, pad_cons_group, ih, encodeGroups, sum]

/-- **The alphabet for URLs loses nothing.** -/
theorem encodeUrlSafe_injective {bytes bytes' : List UInt8}
    (eq : encodeUrlSafe bytes = encodeUrlSafe bytes') : bytes = bytes' := by
  have back : ∀ bytes, ((unpadded bytes).map urlSafe).map standard = unpadded bytes := by
    intro bytes
    rw [List.map_map, List.map_congr_left (g := id), List.map_id]
    intro c mem
    exact standard_urlSafe (mem_encodeGroups (List.mem_of_mem_filter mem))
  have digits : (unpadded bytes).map urlSafe = (unpadded bytes').map urlSafe := by
    have lists := congrArg String.toList eq
    rwa [encodeUrlSafe, encodeUrlSafe, String.toList_ofList, String.toList_ofList] at lists
  have groups : encodeGroups bytes = encodeGroups bytes' := by
    rw [← pad_unpadded, ← pad_unpadded, ← back bytes, ← back bytes', digits]
  have decoded := decodeGroups_encodeGroups bytes
  rw [groups, decodeGroups_encodeGroups] at decoded
  exact (Option.some.inj decoded).symm

end Cfwdon.Library.Base64
