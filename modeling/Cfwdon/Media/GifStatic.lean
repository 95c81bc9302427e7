import Mathlib.Data.UInt

/-!
# Still images of animated GIFs

A custom emoji that moves is also shown still.  Three scanners skip what stands in a GIF: one
counts its images, one cuts it behind the first.  Indices and sums are checked; a scanner that
would go on after its rounds fails as well.
-/

namespace Cfwdon.Media

/-- The ways a scanner can fail. -/
inductive GifFailure where
  | outOfRange
  | overflow
  | outOfRounds
deriving DecidableEq

/-- What a scanner gives. -/
abbrev GifScan (α : Type) := Except GifFailure α

/-- A slice of bytes: its length is an `isize` of 32 bits. -/
abbrev GifBytes := { bytes : List UInt8 // bytes.length < 2147483648 }

/-! ## The scanners -/

section Scanners

variable (bytes : List UInt8)

/-- `bytes[index]`. -/
def byteAt (index : Nat) : GifScan Nat :=
  bytes[index]?.elim (.error .outOfRange) fun byte => .ok byte.toNat

/-- A sum in `usize`. -/
def sum (a b : Nat) : GifScan Nat := if a + b < 4294967296 then .ok (a + b) else .error .overflow

/-- The length of a colour table, of which there may be none. -/
def tableSize (packed : Nat) : Nat := if packed / 128 = 1 then 3 * 2 ^ (packed % 8 + 1) else 0

def gifSkipSubBlocks : Nat → Nat → GifScan (Option Nat)
  | 0, offset => if offset < bytes.length then .error .outOfRounds else .ok none
  | rounds + 1, offset =>
    if offset < bytes.length then do
      let blockSize ← byteAt bytes offset
      let offset ← sum offset 1
      if blockSize = 0 then return some offset
      let offset ← sum offset blockSize
      if bytes.length < offset then return none
      gifSkipSubBlocks rounds offset
    else .ok none

def gifSkipExtension (offset : Nat) : GifScan (Option Nat) :=
  if bytes.length ≤ offset then .ok none
  else do
    let offset ← sum offset 1
    gifSkipSubBlocks bytes bytes.length offset

def gifSkipImage (offset : Nat) : GifScan (Option Nat) := do
  let behind ← sum offset 10
  if bytes.length < behind then return none
  let packed ← byteAt bytes (offset + 9)
  let next ← sum behind (tableSize packed)
  if bytes.length ≤ next then return none
  let next ← sum next 1
  gifSkipSubBlocks bytes bytes.length next

/-- `GIF87a` and `GIF89a`. -/
def gifSignatures : List (List UInt8) := [[71, 73, 70, 56, 55, 97], [71, 73, 70, 56, 57, 97]]

def gifHeaderEnd : GifScan (Option Nat) :=
  if bytes.length < 13 ∨ bytes.take 6 ∉ gifSignatures then .ok none
  else do
    let packed ← byteAt bytes 10
    let offset ← sum 13 (tableSize packed)
    return if offset ≤ bytes.length then some offset else none

/-- The loop of `gif_image_frame_count`. -/
def countFrames : Nat → Nat → Nat → GifScan Nat
  | 0, offset, frames => if offset < bytes.length then .error .outOfRounds else .ok frames
  | rounds + 1, offset, frames =>
    if offset < bytes.length then do
      let byte ← byteAt bytes offset
      if byte = 0x21 then
        let start ← sum offset 1
        let next ← gifSkipExtension bytes start
        next.elim (.ok frames) fun next => countFrames rounds next frames
      else if byte = 0x2c then
        let frames ← sum frames 1
        let next ← gifSkipImage bytes offset
        next.elim (.ok frames) fun next => countFrames rounds next frames
      else return frames
    else .ok frames

def gifImageFrameCount : GifScan Nat := do
  let offset ← gifHeaderEnd bytes
  offset.elim (.ok 0) fun offset => countFrames bytes bytes.length offset 0

/-- The loop of `gif_first_frame_bytes`. -/
def cutFirstFrame : Nat → Nat → GifScan (Option (List UInt8))
  | 0, offset => if offset < bytes.length then .error .outOfRounds else .ok none
  | rounds + 1, offset =>
    if offset < bytes.length then do
      let byte ← byteAt bytes offset
      if byte = 0x21 then
        let start ← sum offset 1
        let next ← gifSkipExtension bytes start
        next.elim (.ok none) fun next => cutFirstFrame rounds next
      else if byte = 0x2c then
        let next ← gifSkipImage bytes offset
        next.elim (.ok none) fun next =>
          if bytes.length < next then .error .outOfRange
          else .ok (some (bytes.take next ++ [0x3b]))
      else return none
    else .ok none

def gifFirstFrameBytes : GifScan (Option (List UInt8)) := do
  let offset ← gifHeaderEnd bytes
  offset.elim (.ok none) fun offset => cutFirstFrame bytes bytes.length offset

def gifIsAnimated : GifScan Bool := do
  let frames ← gifImageFrameCount bytes
  return decide (1 < frames)

def gifStaticBytes : GifScan (List UInt8) := do
  let animated ← gifIsAnimated bytes
  if animated then
    let first ← gifFirstFrameBytes bytes
    return first.getD bytes
  else return bytes

end Scanners

/-! ## What a scanner skips -/

/-- The other bytes begin as these do. -/
def AgreeTo (stop : Nat) (bytes other : List UInt8) : Prop :=
  stop ≤ other.length ∧ other.length < 2147483648 ∧ ∀ i < stop, other[i]? = bytes[i]?

/-- A scanner ends, behind where it began, at the same place for all bytes that begin alike. -/
def Skips (scan : List UInt8 → GifScan (Option Nat)) (bytes : List UInt8) (offset : Nat) : Prop :=
  ∃ found, scan bytes = .ok found ∧ ∀ next, found = some next → offset < next
    ∧ next ≤ bytes.length ∧ ∀ other, AgreeTo next bytes other → scan other = .ok (some next)

variable {scan : List UInt8 → GifScan (Option Nat)} {stop : Nat} {rounds frames : Nat}
  {got : Option Nat}

section Skipping

variable {bytes : List UInt8} {offset : Nat}

theorem byteAt_of_lt (inside : offset < bytes.length) :
    byteAt bytes offset = .ok bytes[offset].toNat := by
  rw [byteAt, List.getElem?_eq_getElem inside]
  rfl

theorem byteAt_of_agree {other : List UInt8} (agree : AgreeTo stop bytes other)
    (pre : offset < stop) : byteAt other offset = byteAt bytes offset := by
  rw [byteAt, byteAt, agree.2.2 offset pre]

theorem sum_of_lt {a b : Nat} (small : a + b < 4294967296) : sum a b = .ok (a + b) := if_pos small

theorem tableSize_le (packed : Nat) : tableSize packed ≤ 768 := by
  have each : ∀ n < 8, 3 * 2 ^ (n + 1) ≤ 768 := by decide
  rw [tableSize]
  split_ifs
  · exact each _ (Nat.mod_lt _ (by omega))
  · omega

theorem ok_bind {α β : Type} (a : α) (f : α → GifScan β) : (Except.ok a >>= f) = f a := rfl

theorem gifSkipSubBlocks_succ (short : bytes.length < 2147483648) (rounds : Nat)
    (inside : offset < bytes.length) : gifSkipSubBlocks bytes (rounds + 1) offset
      = if bytes[offset].toNat = 0 then .ok (some (offset + 1))
        else if bytes.length < offset + 1 + bytes[offset].toNat then .ok none
        else gifSkipSubBlocks bytes rounds (offset + 1 + bytes[offset].toNat) := by
  have size := bytes[offset].toNat_lt
  rw [gifSkipSubBlocks, if_pos inside, byteAt_of_lt inside]
  simp only [ok_bind, sum_of_lt (show offset + 1 < 4294967296 by omega),
    sum_of_lt (show offset + 1 + bytes[offset].toNat < 4294967296 by omega)]
  rfl

theorem skips_gifSkipSubBlocks (short : bytes.length < 2147483648) {rounds : Nat}
    (enough : bytes.length ≤ offset + rounds) :
    ∃ got, gifSkipSubBlocks bytes rounds offset = .ok got ∧ ∀ next, got = some next →
      offset < next ∧ next ≤ bytes.length ∧ ∀ other, AgreeTo next bytes other →
        ∀ more, next ≤ offset + more → gifSkipSubBlocks other more offset = .ok (some next) := by
  induction rounds generalizing offset with
  | zero =>
    refine ⟨none, if_neg (by omega), fun next got => ?_⟩
    cases got
  | succ rounds ih =>
    by_cases inside : offset < bytes.length
    · rw [gifSkipSubBlocks_succ short rounds inside]
      -- the other bytes have the same block here
      have step : ∀ next other more, offset < next → AgreeTo next bytes other → 0 < more →
          gifSkipSubBlocks other more offset
            = if bytes[offset].toNat = 0 then .ok (some (offset + 1))
              else if other.length < offset + 1 + bytes[offset].toNat then .ok none
              else gifSkipSubBlocks other (more - 1) (offset + 1 + bytes[offset].toNat) := by
        intro next other more pre agree pos
        have there : offset < other.length := Nat.lt_of_lt_of_le pre agree.1
        have eq : other[offset] = bytes[offset] := by
          have at_offset := agree.2.2 offset pre
          rw [List.getElem?_eq_getElem there, List.getElem?_eq_getElem inside] at at_offset
          exact Option.some.inj at_offset
        obtain ⟨more, rfl⟩ := Nat.exists_eq_succ_of_ne_zero (Nat.pos_iff_ne_zero.mp pos)
        rw [Nat.succ_eq_add_one, gifSkipSubBlocks_succ agree.2.1 more there, eq,
          Nat.add_sub_cancel]
      by_cases last : bytes[offset].toNat = 0
      · refine ⟨some (offset + 1), if_pos last, fun next got => ?_⟩
        obtain rfl := Option.some.inj got
        refine ⟨Nat.lt_succ_self _, inside, fun other agree more enough => ?_⟩
        rw [step _ other more (Nat.lt_succ_self _) agree (by omega), if_pos last]
      · rw [if_neg last]
        by_cases beyond : bytes.length < offset + 1 + bytes[offset].toNat
        · refine ⟨none, if_pos beyond, fun next got => ?_⟩
          cases got
        · rw [if_neg beyond]
          obtain ⟨got, scanned, ends⟩ :=
            @ih (offset + 1 + bytes[offset].toNat) (by omega)
          refine ⟨got, scanned, fun next isNext => ?_⟩
          obtain ⟨post, within, alike⟩ := ends next isNext
          refine ⟨by omega, within, fun other agree more enough => ?_⟩
          have reaches := agree.1
          rw [step next other more (by omega) agree (by omega), if_neg last, if_neg (by omega)]
          exact alike other agree _ (by omega)
    · refine ⟨none, if_neg inside, fun next got => ?_⟩
      cases got

/-- The scanner of a whole block begins behind its head, which it reads alike. -/
theorem skips_of_head {start : Nat}
    (short : bytes.length < 2147483648) (later : offset < start)
    (reads : scan bytes = gifSkipSubBlocks bytes bytes.length start)
    (alike : ∀ next other, start < next → AgreeTo next bytes other →
      scan other = gifSkipSubBlocks other other.length start) : Skips scan bytes offset := by
  obtain ⟨got, scanned, ends⟩ :=
    skips_gifSkipSubBlocks short (Nat.le_add_left bytes.length start)
  refine ⟨got, reads.trans scanned, fun next isNext => ?_⟩
  obtain ⟨post, within, eq⟩ := ends next isNext
  refine ⟨later.trans post, within, fun other agree => ?_⟩
  have reaches := agree.1
  rw [alike next other post agree, eq other agree _ (by omega)]

theorem skips_none (reads : scan bytes = .ok none) :
    Skips scan bytes offset := by
  refine ⟨none, reads, fun next got => ?_⟩
  cases got

theorem skips_gifSkipExtension (short : bytes.length < 2147483648) (offset : Nat) :
    Skips (gifSkipExtension · offset) bytes offset := by
  have reads : ∀ other : List UInt8, other.length < 2147483648 → offset < other.length →
      gifSkipExtension other offset = gifSkipSubBlocks other other.length (offset + 1) := by
    intro other short inside
    rw [gifSkipExtension, if_neg (by omega), sum_of_lt (by omega), ok_bind]
  by_cases inside : offset < bytes.length
  · refine skips_of_head short (Nat.lt_succ_self offset) (reads bytes short inside) ?_
    intro next other post agree
    have reaches := agree.1
    exact reads other agree.2.1 (by omega)
  · exact skips_none (if_pos (by omega))

theorem skips_gifSkipImage (short : bytes.length < 2147483648) (inside : offset < bytes.length) :
    Skips (gifSkipImage · offset) bytes offset := by
  by_cases head : offset + 10 ≤ bytes.length
  · obtain ⟨packed, isPacked⟩ : ∃ packed, byteAt bytes (offset + 9) = .ok packed :=
      ⟨_, byteAt_of_lt (by omega)⟩
    have table := tableSize_le packed
    have reads : ∀ other : List UInt8, other.length < 2147483648 → offset + 10 ≤ other.length →
        byteAt other (offset + 9) = .ok packed → gifSkipImage other offset
          = if other.length ≤ offset + 10 + tableSize packed then .ok none
            else gifSkipSubBlocks other other.length (offset + 10 + tableSize packed + 1) := by
      intro other short head isPacked
      rw [gifSkipImage, sum_of_lt (by omega), ok_bind, if_neg (by omega), isPacked, ok_bind,
        sum_of_lt (by omega), ok_bind]
      split_ifs
      · rfl
      · rw [sum_of_lt (by omega), ok_bind]
    by_cases inside : bytes.length ≤ offset + 10 + tableSize packed
    · exact skips_none ((reads bytes short head isPacked).trans (if_pos inside))
    · refine skips_of_head short (show offset < offset + 10 + tableSize packed + 1 by omega)
        ((reads bytes short head isPacked).trans (if_neg inside)) ?_
      intro next other post agree
      have reaches := agree.1
      rw [reads other agree.2.1 (by omega)
        ((byteAt_of_agree agree (by omega)).trans isPacked), if_neg (by omega)]
  · refine skips_none ?_
    rw [gifSkipImage, sum_of_lt (by omega), ok_bind, if_pos (by omega)]
    rfl

end Skipping

/-! ## What is cut -/

/-- These bytes end in a trailer behind the first ones. -/
def CutAt (stop : Nat) (bytes other : List UInt8) : Prop :=
  AgreeTo stop bytes other ∧ other.length = stop + 1 ∧ byteAt other stop = .ok 0x3b

section Cutting

variable {bytes : List UInt8} {offset : Nat}

theorem cutAt_take (short : bytes.length < 2147483648) (inside : stop < bytes.length) :
    CutAt stop bytes (bytes.take stop ++ [0x3b]) := by
  have taken : (bytes.take stop).length = stop := List.length_take_of_le (Nat.le_of_lt inside)
  have length : (bytes.take stop ++ [0x3b]).length = stop + 1 := by
    rw [List.length_append, taken]
    rfl
  refine ⟨⟨by omega, by omega, fun i pre => ?_⟩, length, ?_⟩
  · rw [List.getElem?_append_left (by omega), List.getElem?_take_of_lt pre]
  · rw [byteAt, List.getElem?_append_right (by omega), taken, Nat.sub_self]
    rfl

theorem countFrames_of_extension
    (short : bytes.length < 2147483648) (inside : offset < bytes.length)
    (isByte : byteAt bytes offset = .ok 0x21)
    (scanned : gifSkipExtension bytes (offset + 1) = .ok got) :
    countFrames bytes (rounds + 1) offset frames
      = got.elim (.ok frames) fun next => countFrames bytes rounds next frames := by
  rw [countFrames, if_pos inside, isByte, ok_bind, if_pos rfl, sum_of_lt (by omega), ok_bind,
    scanned, ok_bind]

theorem countFrames_of_image
    (short : bytes.length < 2147483648) (inside : offset < bytes.length) (few : frames ≤ offset)
    (isByte : byteAt bytes offset = .ok 0x2c) (scanned : gifSkipImage bytes offset = .ok got) :
    countFrames bytes (rounds + 1) offset frames
      = got.elim (.ok (frames + 1)) fun next => countFrames bytes rounds next (frames + 1) := by
  rw [countFrames, if_pos inside, isByte, ok_bind, if_neg (by decide), if_pos rfl,
    sum_of_lt (by omega), ok_bind, scanned, ok_bind]

theorem countFrames_of_trailer (inside : offset < bytes.length)
    (trailer : byteAt bytes offset = .ok 0x3b) :
    countFrames bytes (rounds + 1) offset frames = .ok frames := by
  rw [countFrames, if_pos inside, trailer]
  rfl

/-- The frames counted from here on are those before; when there are two and more, the cut is made
behind the first, and the cut bytes have it alone. -/
theorem countFrames_cutFirstFrame (short : bytes.length < 2147483648) {rounds frames : Nat}
    (enough : bytes.length ≤ offset + rounds) (few : frames ≤ offset) :
    ∃ n, countFrames bytes rounds offset frames = .ok (frames + n)
      ∧ (0 < n → offset < bytes.length)
      ∧ (1 < n → ∃ stop, offset < stop ∧ stop < bytes.length
        ∧ cutFirstFrame bytes rounds offset = .ok (some (bytes.take stop ++ [0x3b]))
        ∧ ∀ other, CutAt stop bytes other → ∀ more pre, other.length ≤ offset + more →
          pre ≤ offset → countFrames other more offset pre = .ok (pre + 1)) := by
  induction rounds generalizing offset frames with
  | zero =>
    exact ⟨0, if_neg (by omega), fun pos => absurd pos (Nat.lt_irrefl 0),
      fun several => absurd several (by omega)⟩
  | succ rounds ih =>
    by_cases inside : offset < bytes.length
    · obtain ⟨byte, isByte⟩ : ∃ byte, byteAt bytes offset = .ok byte := ⟨_, byteAt_of_lt inside⟩
      by_cases extension : byte = 0x21
      · subst extension
        obtain ⟨found, scanned, ends⟩ := skips_gifSkipExtension short (offset + 1)
        have scanned : gifSkipExtension bytes (offset + 1) = .ok found := scanned
        rw [countFrames_of_extension short inside isByte scanned, cutFirstFrame, if_pos inside,
          isByte, ok_bind, if_pos rfl, sum_of_lt (by omega), ok_bind, scanned, ok_bind]
        cases found with
        | none => exact ⟨0, rfl, fun _ => inside, fun several => absurd several (by omega)⟩
        | some next =>
          obtain ⟨post, within, alike⟩ := ends next rfl
          obtain ⟨n, count, _, isCut⟩ := @ih next frames (by omega) (by omega)
          refine ⟨n, count, fun _ => inside, fun several => ?_⟩
          obtain ⟨stop, later, before_end, cut, single⟩ := isCut several
          refine ⟨stop, by omega, before_end, cut, fun other cutAt more pre enough few => ?_⟩
          have length := cutAt.2.1
          obtain ⟨more, rfl⟩ : ∃ m, more = m + 1 := ⟨more - 1, by omega⟩
          have agree : AgreeTo next bytes other :=
            ⟨by omega, cutAt.1.2.1, fun i small => cutAt.1.2.2 i (by omega)⟩
          rw [countFrames_of_extension cutAt.1.2.1 (by omega)
            ((byteAt_of_agree agree (by omega)).trans isByte) (alike other agree)]
          exact single other cutAt more pre (by omega) (by omega)
      · by_cases image : byte = 0x2c
        · subst image
          obtain ⟨found, scanned, ends⟩ := skips_gifSkipImage short inside
          have scanned : gifSkipImage bytes offset = .ok found := scanned
          rw [countFrames_of_image short inside few isByte scanned]
          cases found with
          | none => exact ⟨1, rfl, fun _ => inside, fun several => absurd several (by omega)⟩
          | some next =>
            obtain ⟨post, within, alike⟩ := ends next rfl
            obtain ⟨n, count, more_behind, _⟩ := @ih next (frames + 1) (by omega) (by omega)
            refine ⟨n + 1, ?_, fun _ => inside, fun several => ?_⟩
            · rw [Option.elim_some, count, Nat.add_assoc, Nat.add_comm 1 n]
            have before_end := more_behind (by omega)
            refine ⟨next, post, before_end, ?_, fun other cutAt more pre enough few => ?_⟩
            · rw [cutFirstFrame, if_pos inside, isByte, ok_bind, if_neg extension, if_pos rfl,
                scanned, ok_bind, Option.elim_some, if_neg (by omega)]
            have length := cutAt.2.1
            obtain ⟨more, rfl⟩ : ∃ m, more = m + 1 + 1 := ⟨more - 2, by omega⟩
            rw [countFrames_of_image cutAt.1.2.1 (by omega) few
              ((byteAt_of_agree cutAt.1 post).trans isByte) (alike other cutAt.1),
              Option.elim_some, countFrames_of_trailer (by omega) cutAt.2.2]
        · refine ⟨0, ?_, fun _ => inside, fun several => absurd several (by omega)⟩
          rw [countFrames, if_pos inside, isByte, ok_bind, if_neg extension, if_neg image]
          rfl
    · exact ⟨0, if_neg inside, fun pos => absurd pos (Nat.lt_irrefl 0),
        fun several => absurd several (by omega)⟩

/-- The header ends at the same place for all bytes that begin alike. -/
theorem skips_gifHeaderEnd (short : bytes.length < 2147483648) :
    ∃ got, gifHeaderEnd bytes = .ok got ∧ ∀ start, got = some start →
      ∀ stop other, start < stop → AgreeTo stop bytes other →
        gifHeaderEnd other = .ok (some start) := by
  by_cases head : bytes.length < 13 ∨ bytes.take 6 ∉ gifSignatures
  · refine ⟨none, if_pos head, fun start got => ?_⟩
    cases got
  · obtain ⟨long, signed⟩ := not_or.mp head
    obtain ⟨packed, isPacked⟩ : ∃ packed, byteAt bytes 10 = .ok packed :=
      ⟨_, byteAt_of_lt (by omega)⟩
    have table := tableSize_le packed
    have reads : ∀ other : List UInt8, ¬ (other.length < 13 ∨ other.take 6 ∉ gifSignatures) →
        byteAt other 10 = .ok packed → gifHeaderEnd other
          = .ok (if 13 + tableSize packed ≤ other.length then some (13 + tableSize packed)
            else none) := by
      intro other head isPacked
      rw [gifHeaderEnd, if_neg head, isPacked, ok_bind, sum_of_lt (by omega), ok_bind]
      rfl
    refine ⟨_, reads bytes head isPacked, fun start got stop other pre agree => ?_⟩
    obtain ⟨within, rfl⟩ : 13 + tableSize packed ≤ bytes.length ∧ 13 + tableSize packed = start :=
      by split_ifs at got with within; exact ⟨within, Option.some.inj got⟩
    have reaches := agree.1
    have begins : other.take 6 = bytes.take 6 := by
      refine List.ext_getElem? fun i => ?_
      by_cases small : i < 6
      · rw [List.getElem?_take_of_lt small, List.getElem?_take_of_lt small, agree.2.2 i (by omega)]
      · rw [List.getElem?_take_eq_none (by omega), List.getElem?_take_eq_none (by omega)]
    rw [reads other (by rw [begins]; exact not_or.mpr ⟨by omega, signed⟩)
      ((byteAt_of_agree agree (by omega)).trans isPacked), if_pos (by omega)]

/-- The frames of a GIF are counted; of two and more the first is cut out, alone. -/
theorem gifImageFrameCount_cut (short : bytes.length < 2147483648) :
    ∃ n, gifImageFrameCount bytes = .ok n ∧ (1 < n → ∃ stop < bytes.length,
      gifFirstFrameBytes bytes = .ok (some (bytes.take stop ++ [0x3b]))
        ∧ gifImageFrameCount (bytes.take stop ++ [0x3b]) = .ok 1) := by
  obtain ⟨got, scanned, alike⟩ := skips_gifHeaderEnd short
  cases got with
  | none =>
    refine ⟨0, ?_, fun several => absurd several (by omega)⟩
    rw [gifImageFrameCount, scanned]
    rfl
  | some start =>
    obtain ⟨n, count, _, isCut⟩ := @countFrames_cutFirstFrame bytes start short bytes.length 0
      (Nat.le_add_left bytes.length start) (Nat.zero_le _)
    refine ⟨n, ?_, fun several => ?_⟩
    · rw [gifImageFrameCount, scanned, ok_bind, Option.elim_some, count, Nat.zero_add]
    obtain ⟨stop, later, inside, cut, single⟩ := isCut several
    have cutAt := cutAt_take short inside
    refine ⟨stop, inside, ?_, ?_⟩
    · rw [gifFirstFrameBytes, scanned, ok_bind, Option.elim_some, cut]
    · rw [gifImageFrameCount, alike start rfl stop _ later cutAt.1, ok_bind, Option.elim_some,
        single _ cutAt _ 0 (Nat.le_add_left _ _) (Nat.zero_le _)]

theorem gifIsAnimated_of_count {n : Nat} (count : gifImageFrameCount bytes = .ok n) :
    gifIsAnimated bytes = .ok (decide (1 < n)) := by
  rw [gifIsAnimated, count]
  rfl

theorem gifStaticBytes_of_still (still : gifIsAnimated bytes = .ok false) :
    gifStaticBytes bytes = .ok bytes := by
  rw [gifStaticBytes, still]
  rfl

end Cutting

/-- Every GIF is scanned without a failure: its still image is the GIF itself, if it does not
move, and otherwise its beginning with a trailer, which has one frame; so the still image does not
move and is its own still image. -/
theorem gif_static_bytes_spec (bytes : GifBytes) :
    ∃ moves still, gifIsAnimated bytes.1 = .ok moves ∧ gifStaticBytes bytes.1 = .ok still
      ∧ (moves = false → still = bytes.1)
      ∧ (moves = true → ∃ stop < bytes.1.length, still = bytes.1.take stop ++ [0x3b]
        ∧ gifImageFrameCount still = .ok 1)
      ∧ gifIsAnimated still = .ok false ∧ gifStaticBytes still = .ok still := by
  obtain ⟨bytes, short⟩ := bytes
  obtain ⟨n, count, isCut⟩ := gifImageFrameCount_cut short
  have animated := gifIsAnimated_of_count count
  by_cases several : 1 < n
  · obtain ⟨stop, inside, cut, single⟩ := isCut several
    rw [decide_eq_true several] at animated
    have still : gifIsAnimated (bytes.take stop ++ [0x3b]) = .ok false :=
      gifIsAnimated_of_count single
    refine ⟨true, bytes.take stop ++ [0x3b], animated, ?_, fun absent => Bool.noConfusion absent,
      fun _ => ⟨stop, inside, rfl, single⟩, still, gifStaticBytes_of_still still⟩
    rw [gifStaticBytes, animated, ok_bind, if_pos rfl, cut]
    rfl
  · rw [decide_eq_false several] at animated
    have eq := gifStaticBytes_of_still animated
    exact ⟨false, bytes, animated, eq, fun _ => rfl, fun absent => Bool.noConfusion absent,
      animated, eq⟩

end Cfwdon.Media
