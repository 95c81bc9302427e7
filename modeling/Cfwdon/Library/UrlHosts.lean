import Mathlib.Algebra.Group.Nat.Defs
import Cfwdon.Library.Text
import Mathlib.Data.List.DropRight

/-!
# Addresses and hosts of URLs

Internet addresses with their texts, and the host parser of the URL standard.
-/

namespace Cfwdon.Library

section IpAddress

/-! ## Internet addresses

The addresses of both versions, the ranges of the standard library that an address may
fall into, and the text form of addresses: four decimal numbers, or groups of
hexadecimal digits of which one run of zeros may be left out and the last two may be
written as an address of version 4.
-/

/-- An address of version 4, by its octets. -/
structure Ipv4Addr where
  first : UInt8
  second : UInt8
  third : UInt8
  fourth : UInt8
  deriving DecidableEq

/-- An address of version 6, by its segments. -/
structure Ipv6Addr where
  segments : Vector UInt16 8
  deriving DecidableEq

inductive IpAddr where
  | v4 (address : Ipv4Addr)
  | v6 (address : Ipv6Addr)

/-! ## Ranges -/

namespace Ipv4Addr

variable (address : Ipv4Addr)

/-- 127.0.0.0/8. -/
def isLoopback : Bool := address.first == 127

/-- 10.0.0.0/8, 172.16.0.0/12 and 192.168.0.0/16. -/
def isPrivate : Bool :=
  address.first == 10
    || (address.first == 172 && decide (16 ≤ address.second) && decide (address.second ≤ 31))
    || (address.first == 192 && address.second == 168)

/-- 169.254.0.0/16. -/
def isLinkLocal : Bool := address.first == 169 && address.second == 254

/-- 0.0.0.0. -/
def isUnspecified : Bool := address == ⟨0, 0, 0, 0⟩

/-- 224.0.0.0/4. -/
def isMulticast : Bool := decide (224 ≤ address.first) && decide (address.first ≤ 239)

/-- 255.255.255.255. -/
def isBroadcast : Bool := address == ⟨255, 255, 255, 255⟩

end Ipv4Addr

namespace Ipv6Addr

variable (address : Ipv6Addr)

/-- ::1. -/
def isLoopback : Bool := address.segments == #v[0, 0, 0, 0, 0, 0, 0, 1]

/-- ::. -/
def isUnspecified : Bool := address.segments == #v[0, 0, 0, 0, 0, 0, 0, 0]

/-- ff00::/8. -/
def isMulticast : Bool := address.segments[0] &&& 0xff00 == 0xff00

/-- fc00::/7. -/
def isUniqueLocal : Bool := address.segments[0] &&& 0xfe00 == 0xfc00

/-- fe80::/10. -/
def isUnicastLinkLocal : Bool := address.segments[0] &&& 0xffc0 == 0xfe80

/-- The address of version 4 that ::ffff:0:0/96 stands for. -/
def toIpv4Mapped : Option Ipv4Addr :=
  if address.segments.take 6 == #v[0, 0, 0, 0, 0, 0xffff] then
    some ⟨(address.segments[6] >>> 8).toUInt8, address.segments[6].toUInt8,
      (address.segments[7] >>> 8).toUInt8, address.segments[7].toUInt8⟩
  else none

end Ipv6Addr

/-! ## Text -/

/-- The value of a hexadecimal digit. -/
def hexValue (c : Char) : Option Nat :=
  if c.isDigit then some (c.toNat - '0'.toNat)
  else if 'a' ≤ c ∧ c ≤ 'f' then some (c.toNat - 'a'.toNat + 10)
  else if 'A' ≤ c ∧ c ≤ 'F' then some (c.toNat - 'A'.toNat + 10)
  else none

def numberOf (base : Nat) (digits : List Char) : Nat :=
  digits.foldl (fun value c => value * base + (hexValue c).getD 0) 0

/-- Read an octet: up to three decimal digits, with no zero before others. -/
def readOctet (text : List Char) : Option (UInt8 × List Char) :=
  let digits := text.takeWhile Char.isDigit
  if 1 ≤ digits.length ∧ digits.length ≤ 3 ∧ (digits.head? = some '0' → digits.length = 1)
      ∧ numberOf 10 digits ≤ 255 then
    some (UInt8.ofNat (numberOf 10 digits), text.drop digits.length)
  else none

def readGiven (c : Char) : List Char → Option (List Char)
  | first :: rest => if first = c then some rest else none
  | [] => none

/-- Read an address of version 4 from the front of a text. -/
def readIpv4 (text : List Char) : Option (Ipv4Addr × List Char) := do
  let (first, rest) ← readOctet text
  let (second, rest) ← readOctet (← readGiven '.' rest)
  let (third, rest) ← readOctet (← readGiven '.' rest)
  let (fourth, rest) ← readOctet (← readGiven '.' rest)
  return (⟨first, second, third, fourth⟩, rest)

/-- Read a segment: up to four hexadecimal digits. -/
def readSegment (text : List Char) : Option (UInt16 × List Char) :=
  let digits := text.takeWhile fun c => (hexValue c).isSome
  if 1 ≤ digits.length ∧ digits.length ≤ 4 then
    some (UInt16.ofNat (numberOf 16 digits), text.drop digits.length)
  else none

/-- Read what stands after a colon, or at the front for the first of the segments. -/
def afterColon {Value : Type} (isFirst : Bool) (read : List Char → Option (Value × List Char))
    (text : List Char) : Option (Value × List Char) :=
  if isFirst then read text else (readGiven ':' text).bind read

def Ipv4Addr.segments (address : Ipv4Addr) : List UInt16 :=
  [address.first.toUInt16 <<< 8 ||| address.second.toUInt16,
    address.third.toUInt16 <<< 8 ||| address.fourth.toUInt16]

/-- Read segments while there are any and room for them is left.  An address of version 4
takes the room of two and ends them. -/
def readSegments (isFirst : Bool) : Nat → List Char → List UInt16 × Bool × List Char
  | 0, text => ([], false, text)
  | room + 1, text =>
    match if 1 ≤ room then afterColon isFirst readIpv4 text else none with
    | some (address, rest) => (address.segments, true, rest)
    | none =>
      match afterColon isFirst readSegment text with
      | some (segment, rest) =>
        let (segments, embedded, last) := readSegments false room rest
        (segment :: segments, embedded, last)
      | none => ([], false, text)

/-- Read an address of version 6 from the front of a text. -/
def readIpv6 (text : List Char) : Option (List UInt16 × List Char) :=
  let (head, embedded, rest) := readSegments true 8 text
  if head.length = 8 then some (head, rest)
  else if embedded then none
  else do
    let (tail, _, rest) :=
      readSegments true (8 - (head.length + 1)) (← readGiven ':' (← readGiven ':' rest))
    return (head ++ List.replicate (8 - head.length - tail.length) 0 ++ tail, rest)

/-- `str::parse`, for an address. -/
def parseIpAddr (text : String) : Option IpAddr :=
  match readIpv4 text.toList with
  | some (address, []) => some (.v4 address)
  | _ =>
    match readIpv6 text.toList with
    | some (segments, []) =>
      if sized : segments.length = 8 then some (.v6 ⟨⟨segments.toArray, by simpa using sized⟩⟩)
      else none
    | _ => none

end IpAddress

section UrlHosts

/-! ## Hosts of URLs

The host parser of the URL standard, for the schemes of http: an address of version 6
stands in brackets, a name that ends in a number is an address of version 4, and any
other name is mapped to ASCII.  A host is given as the parser writes it back.

The mapping of names to ASCII rests on the tables of Unicode and is a parameter.  The
standard says what it does to names that are in ASCII already.

* `hostText_isHostText` -- what hosts look like as they are written back;
* `hostText_eq_lower_iff` -- the hosts that are written back as they came, up to case
  and final dots.
-/

def isForbiddenInDomain (c : Char) : Bool :=
  decide (c.toNat ≤ 0x20) || c.toNat == 0x7F || "#%/:<>?@[\\]^|".toList.contains c

def isNameCharacter (c : Char) : Bool :=
  decide (c.toNat < 0x80) && !isForbiddenInDomain c

def isAddressCharacter (c : Char) : Bool :=
  "0123456789abcdef:".toList.contains c

theorem toLower_cases (c : Char) : c.toLower = c ∨ ∃ n < 91, 65 ≤ n ∧ c = Char.ofNat n := by
  by_cases capital : 65 ≤ c.toNat ∧ c.toNat < 91
  · exact Or.inr ⟨c.toNat, capital.2, capital.1, (Char.ofNat_toNat c).symm⟩
  · refine Or.inl (dif_neg fun bounds => capital ?_)
    exact ⟨UInt32.le_iff_toNat_le.mp bounds.1,
      Nat.lt_succ_of_le (UInt32.le_iff_toNat_le.mp bounds.2)⟩

variable {c : Char}

theorem eq_of_toLower_eq {d : Char} (eq : c.toLower = d) (noLetter : d.isLower = false) :
    c = d := by
  rcases toLower_cases c with own | ⟨n, below, above, rfl⟩
  · rw [← own, eq]
  · have letters : ∀ n < 91, 65 ≤ n → (Char.ofNat n).toLower.isLower = true := by decide
    rw [← eq, letters n below above] at noLetter
    cases noLetter

theorem digit_cases (digit : c.isDigit = true) : ∃ n < 58, 48 ≤ n ∧ c = Char.ofNat n := by
  obtain ⟨least, most⟩ := Char.isDigit_iff_toNat.mp digit
  exact ⟨c.toNat, Nat.lt_succ_of_le most, least, (Char.ofNat_toNat c).symm⟩

theorem isLower_of_digit (digit : c.isDigit = true) : c.isLower = false := by
  obtain ⟨n, below, above, rfl⟩ := digit_cases digit
  have none : ∀ n < 58, 48 ≤ n → (Char.ofNat n).isLower = false := by decide
  exact none n below above

theorem isDigit_map_toLower {digits : List Char} (each : ∀ c ∈ digits, c.isDigit = true) :
    ∀ c ∈ digits.map Char.toLower, c.isDigit = true := by
  intro c mem
  obtain ⟨d, inside, rfl⟩ := List.mem_map.mp mem
  obtain ⟨n, below, above, rfl⟩ := digit_cases (each d inside)
  have all : ∀ n < 58, 48 ≤ n → (Char.ofNat n).toLower.isDigit = true := by decide
  exact all n below above

@[simp]
theorem isNameChar_toLower (c : Char) : isNameCharacter c.toLower = isNameCharacter c := by
  rcases toLower_cases c with own | ⟨n, below, above, rfl⟩
  · rw [own]
  · have both : ∀ n < 91, 65 ≤ n →
        isNameCharacter (Char.ofNat n).toLower = isNameCharacter (Char.ofNat n) := by decide
    exact both n below above

def labels (name : List Char) : List (List Char) :=
  splitOccurrences ['.'] 0 name

def isPunycodeLabel (label : List Char) : Bool :=
  "xn--".toList.isPrefixOf (label.map Char.toLower)

/-- A name in ASCII, without percent escapes and labels in Punycode. -/
def isPlainName (name : List Char) : Bool :=
  name.all (fun c => decide (c.toNat < 0x80) && c != '%') && !(labels name).any isPunycodeLabel

/-- What becomes of a name: its percent escapes are decoded, the bytes are read as UTF-8,
and the result is mapped to ASCII, if it can be.  A plain name is only put in lower case. -/
structure DomainMapping where
  toAscii : List Char → Option (List Char)
  toAscii_ne_nil : ∀ name mapped, toAscii name = some mapped → mapped ≠ []
  toAscii_isAscii : ∀ name mapped, toAscii name = some mapped → ∀ c ∈ mapped, c.toNat < 0x80
  toAscii_plain : ∀ name, name ≠ [] → isPlainName name = true →
    toAscii name = some (name.map Char.toLower)

/-! ## Addresses -/

def readIpv4Number (text : List Char) : Option Nat :=
  if text = [] then none
  else
    let (base, digits) : Nat × List Char :=
      match text with
      | '0' :: 'x' :: digits => (16, digits)
      | '0' :: 'X' :: digits => (16, digits)
      | '0' :: second :: digits => (8, second :: digits)
      | digits => (10, digits)
    if digits.all fun c => (hexValue c).any fun value => decide (value < base) then
      some (numberOf base digits)
    else none

/-- The labels of a name, without an empty one after a final dot. -/
def numberLabels (name : List Char) : List (List Char) :=
  if 1 < (labels name).length ∧ (labels name).getLast? = some [] then (labels name).dropLast
  else labels name

def endsInNumber (name : List Char) : Bool :=
  match (numberLabels name).getLast? with
  | none => false
  | some last => (last != [] && last.all Char.isDigit) || (readIpv4Number last).isSome

def readIpv4Host (name : List Char) : Option Nat := do
  let numbers ← (numberLabels name).mapM readIpv4Number
  let last ← numbers.getLast?
  let before := numbers.dropLast
  if 3 < before.length ∨ before.any (fun number => decide (255 < number))
      ∨ 256 ^ (4 - before.length) ≤ last then none
  else
    return before.zipIdx.foldl (fun value (number, place) => value + number * 256 ^ (3 - place))
      last

def ipv4Text (address : Nat) : List Char :=
  (([address / 256 ^ 3, address / 256 ^ 2 % 256, address / 256 % 256, address % 256].map
    (Nat.toDigits 10)).intersperse ['.']).flatten

/-- The shortest hexadecimal digits of a segment. -/
def segmentText (segment : UInt16) : List Char :=
  let digits := [segment.toNat / 4096 % 16, segment.toNat / 256 % 16, segment.toNat / 16 % 16]
  ((digits.dropWhile (· == 0)) ++ [segment.toNat % 16]).map Nat.digitChar

/-- The first of the longest runs of zeros, by its place and its length. -/
def zeroRun (segments : List UInt16) : Nat × Nat :=
  (List.range segments.length).foldl
    (fun best place =>
      let length := ((segments.drop place).takeWhile (· == 0)).length
      if best.2 < length then (place, length) else best)
    (0, 0)

/-- Segments between colons. -/
def segmentsText (segments : List UInt16) : List Char :=
  ((segments.map segmentText).intersperse [':']).flatten

/-- The IPv6 serializer: a run of more than one zero is left out. -/
def ipv6Text (segments : List UInt16) : List Char :=
  let (place, length) := zeroRun segments
  if 1 < length then
    segmentsText (segments.take place) ++ [':', ':']
      ++ segmentsText (segments.drop (place + length))
  else segmentsText segments

/-- The IPv6 parser, with the address as it is written back. -/
def bracketedText (inner : List Char) : Option (List Char) :=
  match readIpv6 inner with
  | some (segments, []) => some ('[' :: (ipv6Text segments ++ [']']))
  | _ => none

variable (mapping : DomainMapping)

/-- A name, as the host parser writes it back. -/
def nameText (name : List Char) : Option (List Char) :=
  match mapping.toAscii name with
  | none => none
  | some mapped =>
    if mapped.any isForbiddenInDomain then none
    else if endsInNumber mapped then (readIpv4Host mapped).map ipv4Text
    else some mapped

/-- The host parser, with the host as it is written back. -/
def hostText : List Char → Option (List Char)
  | '[' :: inner =>
    if inner.getLast? = some ']' then bracketedText inner.dropLast else none
  | name => nameText mapping name

/-! ## Written hosts -/

/-- What hosts look like as they are written back. -/
inductive IsHostText : List Char → Prop where
  | bracketed {written : List Char} (chars : ∀ c ∈ written, isAddressCharacter c = true) :
      IsHostText ('[' :: (written ++ [']']))
  | name {written : List Char} (nonempty : written ≠ [])
      (chars : ∀ c ∈ written, isNameCharacter c = true) : IsHostText written

theorem mem_flatten_intersperse {sep : Char} {pieces : List (List Char)}
    (mem : c ∈ (pieces.intersperse [sep]).flatten) :
    c = sep ∨ ∃ piece ∈ pieces, c ∈ piece := by
  induction pieces with
  | nil => simp at mem
  | cons piece rest ih =>
    cases rest with
    | nil => exact Or.inr ⟨piece, List.mem_cons_self .., by simpa using mem⟩
    | cons second others =>
      rw [List.intersperse_cons_cons, List.flatten_cons, List.flatten_cons, List.mem_append,
        List.mem_append, List.mem_singleton] at mem
      rcases mem with here | eq | later
      · exact Or.inr ⟨piece, List.mem_cons_self .., here⟩
      · exact Or.inl eq
      · rcases ih later with eq | ⟨other, among, inside⟩
        · exact Or.inl eq
        · exact Or.inr ⟨other, List.mem_cons_of_mem _ among, inside⟩

theorem mem_ipv4Text {address : Nat} (mem : c ∈ ipv4Text address) : c.isDigit = true ∨ c = '.' := by
  rcases mem_flatten_intersperse mem with rfl | ⟨piece, among, inside⟩
  · exact Or.inr rfl
  · obtain ⟨octet, _, rfl⟩ := List.mem_map.mp among
    exact Or.inl (Nat.isDigit_of_mem_toDigits (by decide) (by decide) inside)

theorem ipv4Text_ne_nil (address : Nat) : ipv4Text address ≠ [] := by
  simp [ipv4Text]

theorem isAddressCharacter_digitChar {digit : Nat} (small : digit < 16) :
    isAddressCharacter (Nat.digitChar digit) = true := by
  have each : ∀ digit < 16, isAddressCharacter (Nat.digitChar digit) = true := by decide
  exact each digit small

theorem mem_segmentText {segment : UInt16} (mem : c ∈ segmentText segment) :
    isAddressCharacter c = true := by
  obtain ⟨digit, among, rfl⟩ := List.mem_map.mp mem
  apply isAddressCharacter_digitChar
  rcases List.mem_append.mp among with front | last
  · have inside := (List.dropWhile_sublist _).subset front
    simp only [List.mem_cons, List.not_mem_nil, or_false] at inside
    omega
  · rw [List.mem_singleton] at last
    omega

theorem mem_segmentsText {segments : List UInt16} (mem : c ∈ segmentsText segments) :
    isAddressCharacter c = true := by
  rcases mem_flatten_intersperse mem with rfl | ⟨piece, among, inside⟩
  · decide
  · obtain ⟨segment, _, rfl⟩ := List.mem_map.mp among
    exact mem_segmentText inside

theorem mem_ipv6Text {segments : List UInt16} (mem : c ∈ ipv6Text segments) :
    isAddressCharacter c = true := by
  unfold ipv6Text at mem
  dsimp only at mem
  split_ifs at mem with long
  · rw [List.mem_append, List.mem_append] at mem
    rcases mem with (front | colons) | back
    · exact mem_segmentsText front
    · rw [List.mem_cons, List.mem_singleton, or_self] at colons
      rw [colons]
      decide
    · exact mem_segmentsText back
  · exact mem_segmentsText mem

theorem bracketedText_isHostText {inner host : List Char}
    (read : bracketedText inner = some host) :
    ∃ wrote, host = '[' :: (wrote ++ [']']) ∧ ∀ c ∈ wrote, isAddressCharacter c = true := by
  unfold bracketedText at read
  split at read
  · exact ⟨_, (Option.some.inj read).symm, fun c mem => mem_ipv6Text mem⟩
  · cases read

theorem isNameChar_of_digit (digit : c.isDigit = true ∨ c = '.') : isNameCharacter c = true := by
  rcases digit with digit | rfl
  · obtain ⟨n, below, above, rfl⟩ := digit_cases digit
    have all : ∀ n < 58, 48 ≤ n → isNameCharacter (Char.ofNat n) = true := by decide
    exact all n below above
  · decide

variable {mapping}

theorem isNameChar_of_mapped {name mapped : List Char}
    (got : mapping.toAscii name = some mapped)
    (may : ¬ mapped.any isForbiddenInDomain = true) :
    ∀ c ∈ mapped, isNameCharacter c = true := by
  intro c mem
  have ascii := mapping.toAscii_isAscii name mapped got c mem
  have fine : isForbiddenInDomain c = false := by
    by_contra forbidden
    exact may (List.any_eq_true.mpr ⟨c, mem, by simpa using forbidden⟩)
  simp [isNameCharacter, ascii, fine]

theorem nameText_cases {name host : List Char} (read : nameText mapping name = some host) :
    ∃ mapped, mapping.toAscii name = some mapped
      ∧ (∀ c ∈ mapped, isNameCharacter c = true)
      ∧ ((endsInNumber mapped = false ∧ host = mapped)
        ∨ (endsInNumber mapped = true
          ∧ ∃ address, readIpv4Host mapped = some address ∧ host = ipv4Text address)) := by
  unfold nameText at read
  cases got : mapping.toAscii name with
  | none => rw [got] at read; cases read
  | some mapped =>
    rw [got] at read
    dsimp only at read
    split_ifs at read with bad num
    · refine ⟨mapped, rfl, ?_, Or.inr ⟨num, ?_⟩⟩
      · exact isNameChar_of_mapped got bad
      · obtain ⟨address, readsAs, eq⟩ := Option.map_eq_some_iff.mp read
        exact ⟨address, readsAs, eq.symm⟩
    · exact ⟨mapped, rfl, isNameChar_of_mapped got bad,
        Or.inl ⟨by simpa using num, (Option.some.inj read).symm⟩⟩

theorem hostText_of_bracketed {inner : List Char} :
    hostText mapping ('[' :: (inner ++ [']'])) = bracketedText inner := by
  simp [hostText]

theorem hostText_of_name {name : List Char} (unbracketed : name.head? ≠ some '[') :
    hostText mapping name = nameText mapping name := by
  unfold hostText
  split
  · simp at unbracketed
  · rfl

theorem bracketed_or_unbracketed {name host : List Char}
    (read : hostText mapping name = some host) :
    (∃ inner, name = '[' :: (inner ++ [']'])) ∨ name.head? ≠ some '[' := by
  unfold hostText at read
  split at read
  · rename_i inner
    split_ifs at read with closed
    obtain ⟨front, eq⟩ := List.getLast?_eq_some_iff.mp closed
    exact Or.inl ⟨front, by rw [eq]⟩
  · rename_i otherwise
    refine Or.inr fun starts => ?_
    obtain ⟨rest, eq⟩ := List.head?_eq_some_iff.mp starts
    exact otherwise rest eq

theorem hostText_isHostText {name host : List Char} (read : hostText mapping name = some host) :
    IsHostText host := by
  rcases bracketed_or_unbracketed read with ⟨inner, rfl⟩ | unbracketed
  · rw [hostText_of_bracketed] at read
    obtain ⟨wrote, rfl, chars⟩ := bracketedText_isHostText read
    exact .bracketed chars
  · rw [hostText_of_name unbracketed] at read
    obtain ⟨mapped, got, chars, ⟨_, rfl⟩ | ⟨_, address, _, rfl⟩⟩ := nameText_cases read
    · exact .name (mapping.toAscii_ne_nil _ _ got) chars
    · exact .name (ipv4Text_ne_nil address) fun c mem =>
        isNameChar_of_digit (mem_ipv4Text mem)

section

variable {host digits text : List Char}

theorem IsHostText.unported (isHost : IsHostText (host ++ ':' :: digits))
    (each : ∀ c ∈ digits, c.isDigit = true) : False := by
  generalize eq : host ++ ':' :: digits = text at isHost
  cases isHost with
  | @bracketed wrote chars =>
    have closes : (host ++ ':' :: digits).getLast? = some ']' := by
      rw [eq, ← List.cons_append, List.getLast?_concat]
    rw [List.getLast?_append_cons] at closes
    rcases List.mem_cons.mp (List.mem_of_getLast? closes) with colon | digit
    · cases colon
    · cases each ']' digit
  | name ne chars =>
    have colon := chars ':' (by rw [← eq]; simp)
    cases colon

theorem IsHostText.ne_nil (isHost : IsHostText host) : host ≠ [] := by
  cases isHost with
  | bracketed chars => exact List.cons_ne_nil _ _
  | name ne chars => exact ne

theorem exists_port_of_toLower (eq : text.map Char.toLower = host ++ ':' :: digits)
    (each : ∀ c ∈ digits, c.isDigit = true) :
    ∃ front, text = front ++ ':' :: digits ∧ front.map Char.toLower = host := by
  obtain ⟨front, back, rfl, first, second⟩ := List.map_eq_append_iff.mp eq
  obtain ⟨c, rest, rfl, colon, later⟩ := List.map_eq_cons_iff.mp second
  have kept : rest = digits := by
    rw [← later]
    conv_lhs => rw [← List.map_id rest]
    refine List.map_congr_left fun d mem => ?_
    have digit := each d.toLower (by rw [← later]; exact List.mem_map_of_mem mem)
    exact eq_of_toLower_eq rfl (isLower_of_digit digit)
  exact ⟨front, by rw [eq_of_toLower_eq colon rfl, kept], first⟩

end

/-- The lower case of a host without its final dots. -/
def lowerHost (host : List Char) : List Char :=
  (host.rdropWhile (· == '.')).map Char.toLower

variable (mapping)

/-- A host that the parser writes back in lower case, without final dots: an address of
version 6 as it is written back; an address of version 4 in four decimal numbers; a name
in ASCII without percent escapes and final dots, that does not end in a number; such a
name with labels in Punycode, if the mapping keeps it. -/
inductive PlainHost : List Char → Prop where
  | bracketed {inner : List Char}
      (written : bracketedText inner = some ('[' :: (inner.map Char.toLower ++ [']']))) :
      PlainHost ('[' :: (inner ++ [']']))
  | address {name : List Char} {value : Nat}
      (number : endsInNumber (name.map Char.toLower) = true)
      (read : readIpv4Host (name.map Char.toLower) = some value)
      (written : ipv4Text value = lowerHost name) : PlainHost name
  | name {name : List Char} (chars : ∀ c ∈ name, isNameCharacter c = true)
      (plain : isPlainName name = true)
      (unnumbered : endsInNumber (name.map Char.toLower) = false)
      (undotted : name.getLast? ≠ some '.') : PlainHost name
  | punycode {name : List Char} (chars : ∀ c ∈ name, isNameCharacter c = true)
      (coded : isPlainName name = false)
      (unnumbered : endsInNumber (lowerHost name) = false)
      (kept : mapping.toAscii name = some (lowerHost name)) : PlainHost name

/-! ### Final dots -/

section

variable {name front : List Char}

theorem exists_dots (text : List Char) :
    ∃ dots, text = text.rdropWhile (· == '.') ++ dots ∧ ∀ c ∈ dots, c = '.' := by
  refine ⟨text.rtakeWhile (· == '.'), (List.rdropWhile_append_rtakeWhile ..).symm, ?_⟩
  intro c mem
  simpa using List.mem_rtakeWhile_imp mem

theorem rdropWhile_append_dots {dots : List Char} (final : ∀ c ∈ dots, c = '.') :
    (front ++ dots).rdropWhile (· == '.') = front.rdropWhile (· == '.') := by
  induction dots using List.reverseRecOn with
  | nil => rw [List.append_nil]
  | append_singleton rest dot ih =>
    have last : dot = '.' := final dot (by simp)
    rw [← List.append_assoc, List.rdropWhile_concat_pos _ _ _ (by simp [last])]
    exact ih fun c mem => final c (List.mem_append_left _ mem)

theorem rdropWhile_eq_self (undotted : name.getLast? ≠ some '.') :
    name.rdropWhile (· == '.') = name := by
  rw [List.rdropWhile_eq_self_iff]
  intro ne isDot
  apply undotted
  rw [List.getLast?_eq_some_getLast ne]
  simpa using isDot

theorem toLower_mem_lowerHost (mem : c ∈ name) : c = '.' ∨ c.toLower ∈ lowerHost name := by
  obtain ⟨dots, eq, final⟩ := exists_dots name
  rw [eq, List.mem_append] at mem
  rcases mem with inside | dot
  · exact Or.inr (List.mem_map_of_mem inside)
  · exact Or.inl (final c dot)

theorem ne_nil_of_lowerHost (filled : lowerHost name ≠ []) : name ≠ [] := by
  rintro rfl
  exact filled rfl

theorem lowerHost_of_undotted (undotted : name.getLast? ≠ some '.') :
    lowerHost name = name.map Char.toLower := by
  rw [lowerHost, rdropWhile_eq_self undotted]

theorem undotted_bracketed : ('[' :: (front ++ [']'])).getLast? ≠ some '.' := by
  rw [← List.cons_append, List.getLast?_concat]
  decide

/-- The lower case of a host is all of it exactly if there is no final dot. -/
theorem lowerHost_eq_iff : lowerHost name = name.map Char.toLower ↔ name.getLast? ≠ some '.' := by
  refine ⟨fun eq dotted => ?_, lowerHost_of_undotted⟩
  obtain ⟨front, rfl⟩ := List.getLast?_eq_some_iff.mp dotted
  have lengths := congrArg List.length eq
  rw [lowerHost, List.rdropWhile_concat_pos _ _ _ rfl, List.length_map, List.length_map,
    List.length_append, List.length_singleton] at lengths
  have shorter := (List.rdropWhile_prefix (· == '.') front).length_le
  omega

theorem isNameChar_of_lowerHost
    (chars : ∀ c ∈ lowerHost name, isNameCharacter c = true) :
    ∀ c ∈ name, isNameCharacter c = true := by
  intro c mem
  rcases toLower_mem_lowerHost mem with rfl | inside
  · decide
  · rw [← isNameChar_toLower]
    exact chars _ inside

end

/-! ### The hosts that stay -/

theorem mem_of_mem_label {name label : List Char} (among : label ∈ labels name)
    (mem : c ∈ label) : c ∈ name := by
  unfold labels at among
  induction name generalizing label with
  | nil =>
    rw [splitOccurrences, List.mem_singleton] at among
    rwa [among] at mem
  | cons d rest ih =>
    obtain ⟨first, others, got⟩ :=
      List.exists_cons_of_ne_nil (occurrences_ne_nil ['.'] rest 0)
    rw [splitOccurrences] at among
    split_ifs at among with here
    · rcases List.mem_cons.mp among with rfl | later
      · cases mem
      · exact List.mem_cons_of_mem _ (ih later mem)
    · rw [got] at among ih
      rcases List.mem_cons.mp among with rfl | later
      · rcases List.mem_cons.mp mem with rfl | inside
        · exact List.mem_cons_self ..
        · exact List.mem_cons_of_mem _ (ih (List.mem_cons_self ..) inside)
      · exact List.mem_cons_of_mem _ (ih (List.mem_cons_of_mem _ later) mem)

theorem isPlainName_of_digits {name : List Char}
    (digits : ∀ c ∈ name, c.isDigit = true ∨ c = '.') : isPlainName name = true := by
  have letters : ∀ label ∈ labels name, isPunycodeLabel label = false := by
    intro label among
    cases label with
    | nil => rfl
    | cons c rest =>
      have first := digits c (mem_of_mem_label among (List.mem_cons_self ..))
      have other : 'x' ≠ c.toLower := by
        intro eq
        rcases toLower_cases c with own | ⟨n, below, above, rfl⟩
        · rw [← own, ← eq] at first
          revert first
          decide
        · have none : ∀ n < 91, 65 ≤ n →
              ¬ ((Char.ofNat n).isDigit = true ∨ Char.ofNat n = '.') := by
            decide
          exact none n below above first
      have differs : ('x' == c.toLower) = false := beq_false_of_ne other
      simp [isPunycodeLabel, List.isPrefixOf, differs]
  have plain : ∀ c ∈ name, (decide (c.toNat < 0x80) && c != '%') = true := by
    intro c mem
    have fine := isNameChar_of_digit (digits c mem)
    have escape : c ≠ '%' := by
      rintro rfl
      revert fine
      decide
    simp only [isNameCharacter, Bool.and_eq_true] at fine
    simp [fine.1, escape]
  rw [isPlainName, Bool.and_eq_true, List.all_eq_true]
  refine ⟨plain, ?_⟩
  rw [Bool.not_eq_true', List.any_eq_false]
  intro label among
  simp [letters label among]

variable {mapping} {name : List Char}

theorem digits_of_written {value : Nat} (wrote : ipv4Text value = lowerHost name) :
    ∀ c ∈ name, c.isDigit = true ∨ c = '.' := by
  intro c mem
  rcases toLower_mem_lowerHost mem with dot | inside
  · exact Or.inr dot
  · rw [← wrote] at inside
    have noLetter : c.toLower.isLower = false := by
      rcases mem_ipv4Text inside with digit | dot
      · exact isLower_of_digit digit
      · rw [dot]; rfl
    rw [eq_of_toLower_eq rfl noLetter]
    exact mem_ipv4Text inside

theorem any_isForbidden_of_name (chars : ∀ c ∈ name, isNameCharacter c = true) :
    ¬ name.any isForbiddenInDomain = true := by
  intro got
  obtain ⟨c, mem, forbidden⟩ := List.any_eq_true.mp got
  have fine := chars c mem
  rw [isNameCharacter, forbidden] at fine
  simp at fine

theorem isNameChar_map_toLower (chars : ∀ c ∈ name, isNameCharacter c = true) :
    ∀ c ∈ name.map Char.toLower, isNameCharacter c = true := by
  intro c among
  obtain ⟨d, mem, rfl⟩ := List.mem_map.mp among
  rw [isNameChar_toLower]
  exact chars d mem

theorem isNameChar_lowerHost (chars : ∀ c ∈ name, isNameCharacter c = true) :
    ∀ c ∈ lowerHost name, isNameCharacter c = true :=
  isNameChar_map_toLower fun c mem =>
    chars c ((List.rdropWhile_prefix _ _).subset mem)

theorem unbracketed_of_name (chars : ∀ c ∈ name, isNameCharacter c = true) :
    name.head? ≠ some '[' := by
  intro starts
  have fine := chars '[' (List.mem_of_mem_head? starts)
  revert fine
  decide

theorem nameText_of_plain (ne : name ≠ []) (plain : isPlainName name = true)
    (chars : ∀ c ∈ name, isNameCharacter c = true) :
    nameText mapping name
      = if endsInNumber (name.map Char.toLower) then
          (readIpv4Host (name.map Char.toLower)).map ipv4Text
        else some (name.map Char.toLower) := by
  have may : ¬ (name.map Char.toLower).any isForbiddenInDomain = true :=
    any_isForbidden_of_name (isNameChar_map_toLower chars)
  rw [nameText, mapping.toAscii_plain name ne plain]
  dsimp only
  rw [if_neg may]

theorem hostText_eq_lower_iff (ne : name ≠ []) :
    hostText mapping name = some (lowerHost name) ↔ PlainHost mapping name := by
  constructor
  · intro read
    rcases bracketed_or_unbracketed read with ⟨inner, rfl⟩ | unbracketed
    · refine .bracketed ?_
      rw [hostText_of_bracketed, lowerHost_of_undotted undotted_bracketed] at read
      simpa using read
    · rw [hostText_of_name unbracketed] at read
      obtain ⟨mapped, got, chars, ⟨unnumbered, eq⟩ | ⟨num, address, readsAs, eq⟩⟩ :=
        nameText_cases read
      · have may := isNameChar_of_lowerHost (by rwa [eq])
        cases plain : isPlainName name with
        | true =>
          rw [mapping.toAscii_plain name ne plain, Option.some_inj] at got
          rw [← got] at eq unnumbered
          exact .name may plain unnumbered (lowerHost_eq_iff.mp eq)
        | false => exact .punycode may plain (by rwa [eq]) (by rw [got, eq])
      · have plain := isPlainName_of_digits (digits_of_written eq.symm)
        rw [mapping.toAscii_plain name ne plain, Option.some_inj] at got
        rw [← got] at num readsAs
        exact .address num readsAs eq.symm
  · intro plain
    cases plain with
    | bracketed wrote =>
      rw [hostText_of_bracketed, lowerHost_of_undotted undotted_bracketed, wrote]
      simp
    | address num read wrote =>
      have digits := digits_of_written wrote
      have chars : ∀ c ∈ name, isNameCharacter c = true := fun c mem =>
        isNameChar_of_digit (digits c mem)
      rw [hostText_of_name (unbracketed_of_name chars),
        nameText_of_plain ne (isPlainName_of_digits digits) chars, if_pos num, read,
        ← wrote]
      rfl
    | name chars plain unnumbered undotted =>
      rw [hostText_of_name (unbracketed_of_name chars), nameText_of_plain ne plain chars,
        unnumbered, lowerHost_of_undotted undotted]
      rfl
    | punycode chars coded unnumbered kept =>
      have may := any_isForbidden_of_name (isNameChar_lowerHost chars)
      rw [hostText_of_name (unbracketed_of_name chars), nameText, kept]
      dsimp only
      rw [if_neg may, unnumbered]
      rfl

end UrlHosts

end Cfwdon.Library
