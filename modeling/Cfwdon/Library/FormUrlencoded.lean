import Cfwdon.Library.ByteSlices
import Cfwdon.Library.Text
import Mathlib.Data.UInt

/-!
# Queries of forms

A list of pairs of texts is written as a query: each text by its UTF-8 bytes, of which some
stand for themselves and the others are escaped.  Any query is read as a list of pairs.
-/

namespace Cfwdon.Library.FormUrlencoded

/-- The bytes that stand for themselves. -/
def isUnreserved (byte : UInt8) : Bool :=
  let n := byte.toNat
  n == 42 || n == 45 || n == 46 || (48 ≤ n && n ≤ 57) || (65 ≤ n && n ≤ 90) || n == 95
    || (97 ≤ n && n ≤ 122)

def hexDigit (n : Nat) : Char := Char.ofNat (if n < 10 then 48 + n else 55 + n)

/-- The value of a digit, in either case. -/
def hexValue (c : Char) : Option Nat :=
  let n := c.toNat
  if 48 ≤ n ∧ n ≤ 57 then some (n - 48)
  else if 65 ≤ n ∧ n ≤ 70 then some (n - 55)
  else if 97 ≤ n ∧ n ≤ 102 then some (n - 87)
  else none

def writeByte (byte : UInt8) : List Char :=
  if byte = 32 then ['+']
  else if isUnreserved byte then [Char.ofNat byte.toNat]
  else ['%', hexDigit (byte.toNat / 16), hexDigit (byte.toNat % 16)]

def write (text : String) : List Char := (utf8Bytes text.toList).flatMap writeByte

/-- Read the escapes of a part of a query.  What is no escape stands for itself. -/
def readBytes : List Char → List UInt8
  | [] => []
  | '%' :: first :: second :: rest =>
    match hexValue first, hexValue second with
    | some high, some low => UInt8.ofNat (high * 16 + low) :: readBytes rest
    | _, _ => 37 :: readBytes (first :: second :: rest)
  | c :: rest => if c = '+' then 32 :: readBytes rest
      else String.utf8EncodeChar c ++ readBytes rest

variable {c : Char} {text : String}

theorem readBytes_cons (plain : c ≠ '%') (rest : List Char) :
    readBytes (c :: rest)
      = if c = '+' then 32 :: readBytes rest else String.utf8EncodeChar c ++ readBytes rest := by
  rw [readBytes]
  rintro first second rest rfl
  exact absurd rfl plain

variable (byte : UInt8) (pairs : List (String × String))

/-- The three ways a byte is written, each with what it is read as. -/
theorem writeByte_cases :
    (writeByte byte = ['+'] ∧ byte = 32)
      ∨ (∃ c, writeByte byte = [c] ∧ c ≠ '%' ∧ c ≠ '+' ∧ String.utf8EncodeChar c = [byte])
      ∨ ∃ first second high low, writeByte byte = ['%', first, second]
        ∧ hexValue first = some high ∧ hexValue second = some low
        ∧ UInt8.ofNat (high * 16 + low) = byte := by
  have plain : ∀ n < 123, isUnreserved (UInt8.ofNat n) = true → Char.ofNat n ≠ '%'
      ∧ Char.ofNat n ≠ '+' ∧ String.utf8EncodeChar (Char.ofNat n) = [UInt8.ofNat n] := by
    decide
  have digits : ∀ n < 16, hexValue (hexDigit n) = some n := by decide
  have below : byte.toNat < 256 := byte.toNat_lt
  by_cases space : byte = 32
  · exact .inl ⟨if_pos space, space⟩
  · by_cases unreserved : isUnreserved byte = true
    · have small : byte.toNat < 123 := by
        simp only [isUnreserved, Bool.or_eq_true, beq_iff_eq, Bool.and_eq_true,
          decide_eq_true_eq] at unreserved
        omega
      have own := plain byte.toNat small
      rw [UInt8.ofNat_toNat] at own
      refine .inr (.inl ⟨Char.ofNat byte.toNat, ?_, own unreserved⟩)
      rw [writeByte, if_neg space, if_pos unreserved]
    · refine .inr (.inr ⟨hexDigit (byte.toNat / 16), hexDigit (byte.toNat % 16), _, _, ?_,
        digits _ (by omega), digits _ (by omega), ?_⟩)
      · rw [writeByte, if_neg space, if_neg unreserved]
      · rw [Nat.div_add_mod', UInt8.ofNat_toNat]

theorem readBytes_writeByte (rest : List Char) :
    readBytes (writeByte byte ++ rest) = byte :: readBytes rest := by
  rcases writeByte_cases byte with ⟨wrote, rfl⟩ | ⟨c, wrote, noEscape, noPlus, own⟩
    | ⟨first, second, high, low, wrote, isHigh, isLow, same⟩
  · rw [wrote]
    rfl
  · rw [wrote, List.singleton_append, readBytes_cons noEscape, if_neg noPlus, own]
    rfl
  · rw [wrote, List.cons_append, List.cons_append, List.singleton_append, readBytes, isHigh, isLow]
    dsimp only
    rw [same]

/-- **What is written for a text is read as its bytes.** -/
theorem readBytes_write (text : String) : readBytes (write text) = utf8Bytes text.toList := by
  rw [write]
  induction utf8Bytes text.toList with
  | nil => rfl
  | cons byte rest ih =>
    rw [List.flatMap_cons, readBytes_writeByte, ih]

/-- The characters of written texts. -/
def isWritten (c : Char) : Bool :=
  c == '+' || c == '%' || isUnreserved (UInt8.ofNat c.toNat) && decide (c.toNat < 128)

theorem isWritten_of_mem_writeByte {byte : UInt8} (mem : c ∈ writeByte byte) :
    isWritten c = true := by
  have unreserved : ∀ n < 123, isUnreserved (UInt8.ofNat n) = true →
      isWritten (Char.ofNat n) = true := by decide
  have digits : ∀ n < 16, isWritten (hexDigit n) = true := by decide
  have below : byte.toNat < 256 := byte.toNat_lt
  rw [writeByte] at mem
  split_ifs at mem with space plain
  · rw [List.mem_singleton.mp mem]
    rfl
  · have small : byte.toNat < 123 := by
      simp only [isUnreserved, Bool.or_eq_true, beq_iff_eq, Bool.and_eq_true,
        decide_eq_true_eq] at plain
      omega
    rw [List.mem_singleton.mp mem]
    exact unreserved _ small (by rw [UInt8.ofNat_toNat]; exact plain)
  · simp only [List.mem_cons, List.not_mem_nil, or_false] at mem
    rcases mem with rfl | rfl | rfl
    · rfl
    · exact digits _ (by omega)
    · exact digits _ (by omega)

theorem isWritten_of_mem_write (mem : c ∈ write text) : isWritten c = true := by
  obtain ⟨byte, -, inside⟩ := List.mem_flatMap.mp mem
  exact isWritten_of_mem_writeByte inside

/-! ## Pairs -/

/-- Bytes are read as a text; a text is read from its bytes.  What stands for bytes that are
not UTF-8 is left open. -/
structure Utf8Lossy where
  decode : List UInt8 → String
  decode_bytes : ∀ text : String, decode (utf8Bytes text.toList) = text

def writePair (pair : String × String) : List Char := write pair.1 ++ '=' :: write pair.2

def writePairs (pairs : List (String × String)) : List Char :=
  ['&'].intercalate (pairs.map writePair)

def pieces (query : List Char) : List (List Char) := (query.splitOn '&').filter (· ≠ [])

variable (utf8 : Utf8Lossy)

/-- A part is a name and, behind the first equals sign, a value. -/
def readPair (piece : List Char) : String × String :=
  (utf8.decode (readBytes (piece.takeWhile (· != '='))),
    utf8.decode (readBytes ((piece.dropWhile (· != '=')).drop 1)))

def readPairs (query : List Char) : List (String × String) := (pieces query).map (readPair utf8)

theorem notMem_write (sep : isWritten c = false) : c ∉ write text := by
  intro mem
  rw [isWritten_of_mem_write mem] at sep
  cases sep

theorem readPair_writePair (pair : String × String) : readPair utf8 (writePair pair) = pair := by
  obtain ⟨front, back⟩ := @split_at_first '=' (write pair.1) (write pair.2) (notMem_write rfl)
  rw [readPair, writePair, front, back, List.drop_one, List.tail_cons, readBytes_write,
    readBytes_write, utf8.decode_bytes, utf8.decode_bytes]

theorem pieces_writePairs : pieces (writePairs pairs) = pairs.map writePair := by
  have ne : ∀ piece ∈ pairs.map writePair, decide (piece ≠ []) = true := by
    intro piece mem
    obtain ⟨pair, -, rfl⟩ := List.mem_map.mp mem
    exact decide_eq_true (List.append_ne_nil_of_right_ne_nil _ (List.cons_ne_nil _ _))
  have apart : ∀ piece ∈ pairs.map writePair, '&' ∉ piece := by
    intro piece mem
    obtain ⟨pair, -, rfl⟩ := List.mem_map.mp mem
    rw [writePair, List.mem_append, List.mem_cons]
    rintro (first | here | second)
    · exact notMem_write rfl first
    · cases here
    · exact notMem_write rfl second
  rw [pieces, writePairs]
  cases pairs with
  | nil => rfl
  | cons pair rest =>
    rw [List.splitOn_intercalate '&' apart (List.cons_ne_nil _ _), List.filter_eq_self.mpr ne]

/-- **A written list of pairs is read as itself.** -/
theorem readPairs_writePairs : readPairs utf8 (writePairs pairs) = pairs := by
  rw [readPairs, pieces_writePairs, List.map_map]
  conv_rhs => rw [← List.map_id pairs]
  exact List.map_congr_left fun pair _ => readPair_writePair utf8 pair

end Cfwdon.Library.FormUrlencoded
