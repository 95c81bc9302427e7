import Cfwdon.Library.Integers
import Cfwdon.Library.TimeText

/-!
# Ids and times of notifications

The ids clients see, and the times of the rows they are made of.
-/

namespace Cfwdon.Notifications

section Ids

/-! ## Ids of notifications

A notification has an internal key and the time it was created.  Clients see an id that
is made of the two: the milliseconds of the time, shifted, with a hash of the key in the
low bits, so that ids compare as times do.  Ids of a range that was used before stand for
hashes.

* `lt_apiId_second`, `apiId_lt_second` -- ids compared with the second of another.
-/

open Library

variable (rfc3339 : Rfc3339)

def activitypubDatetimeString (value : String) : String :=
  let trimmed := trim value
  if trimmed = "" then ""
  else
    match rfc3339.parse trimmed with
    | some timestamp => (rfc3339.format timestamp).toOption.getD trimmed
    | none =>
      let chars := trimmed.toList
      if 19 ≤ chars.length ∧ chars[10]? = some ' ' then
        let candidate :=
          String.ofList (chars.take 10 ++ 'T' :: ((chars.drop 11).take 8 ++ ['Z']))
        match rfc3339.parse candidate with
        | some timestamp => (rfc3339.format timestamp).toOption.getD candidate
        | none => trimmed
      else trimmed

def timestampToMastodonIso8601 (value : String) : String :=
  let value := trim value
  if value = "" then ""
  else if 'T' ∈ value.toList then value
  else
    let normalized := activitypubDatetimeString rfc3339 value
    if endsWith normalized "Z" ∧ '.' ∉ normalized.toList then
      String.ofList normalized.toList.dropLast ++ ".000Z"
    else normalized

def createdAtMillis (createdAt : String) : Nat :=
  match rfc3339.parse (timestampToMastodonIso8601 rfc3339 createdAt) with
  | some value => ((value.instant - unixEpoch * 1000000000).tdiv 1000000).toNat
  | none => 0

/-! ## Ids -/

def fnv1a64 (bytes : List UInt8) : UInt64 :=
  bytes.foldl (fun hash byte => (hash ^^^ byte.toUInt64) * 1099511628211) 14695981039346656037

/-- `notification_api_id`, a 64-bit integer. -/
def notificationApiId (internalId createdAt : String) : Int :=
  Int.bmod
    (createdAtMillis rfc3339 createdAt <<< 16
      ||| ((fnv1a64 internalId.toUTF8.data.toList).toNat &&& 65535) : Nat) 18446744073709551616

def legacyIdBase : Nat := 1000000000000000

def legacyIdSpan : Nat := 8000000000000000

def isLegacyNotificationApiId (value : Int) : Bool :=
  decide ((legacyIdBase : Int) ≤ value ∧ value < legacyIdBase + legacyIdSpan)

/-- What identifies a notification. -/
structure NotificationIdentity where
  notificationKey : String
  notificationCreatedAt : String
  deriving DecidableEq

def legacyNotificationApiId (entry : NotificationIdentity) : Int :=
  legacyIdBase + (fnv1a64 entry.notificationKey.toUTF8.data.toList).toNat % legacyIdSpan

def notificationApiNumericId (entry : NotificationIdentity) : Int :=
  notificationApiId rfc3339 entry.notificationKey entry.notificationCreatedAt

def notificationEntryMatchesCursorId (entry : NotificationIdentity) (cursorId : String) : Bool :=
  entry.notificationKey == cursorId
    || match parseI64 cursorId with
      | none => false
      | some cursorNumeric =>
        if isLegacyNotificationApiId cursorNumeric then
          legacyNotificationApiId entry == cursorNumeric
        else notificationApiNumericId rfc3339 entry == cursorNumeric

/-! ## Ids as times -/

/-- `(id >> 16).div_euclid(1000)`: the second of an id. -/
def idSecond (id : Int) : Int :=
  (id >>> (16 : Nat)) / 1000

theorem idSecond_eq (id : Int) : idSecond id = id / 65536 / 1000 := by
  rw [idSecond, Int.shiftRight_eq_div_pow]
  rfl

theorem bmod_shift {millis hash : Nat} (fits : millis < 140737488355328) (low : hash < 2 ^ 16) :
    Int.bmod ((millis <<< 16 ||| hash : Nat) : Int) 18446744073709551616
      = millis * 65536 + hash := by
  have most : (millis : Int) ≤ 140737488355327 := by exact_mod_cast Nat.le_of_lt_succ fits
  have small : (hash : Int) ≤ 65535 := by exact_mod_cast Nat.le_of_lt_succ low
  have pos : (0 : Int) ≤ millis * 65536 + hash := by positivity
  rw [← Nat.shiftLeft_add_eq_or_of_lt low, Nat.shiftLeft_eq]
  have whole : ((millis * 2 ^ 16 + hash : Nat) : Int) = millis * 65536 + hash := by norm_num
  rw [whole]
  apply Int.bmod_eq_of_le_mul_two
  · push_cast
    linarith
  · push_cast
    linarith

/-- The id of a time that fits is its milliseconds, and less than one more of them. -/
theorem notificationApiId_of_fits {internalId createdAt : String}
    (fits : createdAtMillis rfc3339 createdAt < 140737488355328) :
    (createdAtMillis rfc3339 createdAt * 65536 : Int)
        ≤ notificationApiId rfc3339 internalId createdAt
      ∧ notificationApiId rfc3339 internalId createdAt
        < (createdAtMillis rfc3339 createdAt + 1) * 65536 := by
  have low : (fnv1a64 internalId.toUTF8.data.toList).toNat &&& 65535 < 2 ^ 16 :=
    lt_of_le_of_lt Nat.and_le_right (by norm_num)
  have value := bmod_shift fits low
  unfold notificationApiId
  rw [value]
  have small : ((fnv1a64 internalId.toUTF8.data.toList).toNat &&& 65535 : Nat) < (65536 : Int) := by
    exact_mod_cast low
  constructor
  · linarith [Int.natCast_nonneg ((fnv1a64 internalId.toUTF8.data.toList).toNat &&& 65535)]
  · linarith

end Ids

section StoredTimestamps

/-! ## Timestamps of notification rows

The tables that notifications are read from hold times in two shapes: those that SQLite
writes, with a space and without a zone, and RFC 3339 texts in UTC.  Both begin with the
second, written with a fixed width.

* `StoredTimestamp.text_eq` -- a text is its second and a rest.
-/

open Library

/-- How a table stores its timestamps. -/
inductive StoredTimestampFormat where
  | sqlite
  | iso

/-- The character before the time of the day. -/
def StoredTimestampFormat.separator : StoredTimestampFormat → Char
  | .sqlite => ' '
  | .iso => 'T'

inductive UtcZone where
  | zulu
  | zeroOffset

def UtcZone.text : UtcZone → List Char
  | .zulu => ['Z']
  | .zeroOffset => "+00:00".toList

/-- A digit is written as a numeral. -/
instance neZero_ten : NeZero 10 := ⟨by decide⟩

/-- The digits of the second after a point, if there are any. -/
def pointText (fraction : List (Fin 10)) : List Char :=
  match fraction with
  | [] => []
  | _ => '.' :: fraction.map fun digit => digitChar digit

def utcText (civil : CivilTime) (fraction : List (Fin 10)) (zone : UtcZone) : String :=
  String.ofList (civil.text 'T' ++ (pointText fraction ++ zone.text))

/-- The value of digits after a point, in units of the place after the last. -/
def fractionValue : Nat → List (Fin 10) → Nat
  | 0, _ => 0
  | _, [] => 0
  | places + 1, digit :: rest => digit * 10 ^ places + fractionValue places rest

theorem fractionValue_lt (places : Nat) (frac : List (Fin 10)) :
    fractionValue places frac < 10 ^ places := by
  induction places generalizing frac with
  | zero => exact Nat.lt_of_lt_of_le (by rw [fractionValue]; decide) (Nat.le_refl 1)
  | succ places ih =>
    cases frac with
    | nil => exact Nat.pow_pos (by decide)
    | cons digit rest =>
      have most := Nat.mul_le_mul_right (10 ^ places) (Nat.le_of_lt_succ digit.isLt)
      have later := ih rest
      rw [fractionValue, Nat.pow_succ]
      omega

/-- The time that an RFC 3339 text in UTC stands for, to the nanosecond. -/
def utcTime (civil : CivilTime) (fraction : List (Fin 10)) : OffsetDateTime where
  clock := civil
  nanosecond := fractionValue 9 fraction
  offset := 0
  nanosecond_lt := fractionValue_lt 9 fraction

inductive StoredTimestamp where
  | sqlite (civil : CivilTime) (short : civil.date.FourDigits)
  | iso (civil : CivilTime) (short : civil.date.FourDigits) (fraction : List (Fin 10))
      (zone : UtcZone)

namespace StoredTimestamp

def format : StoredTimestamp → StoredTimestampFormat
  | .sqlite .. => .sqlite
  | .iso .. => .iso

def civil : StoredTimestamp → CivilTime
  | .sqlite civil _ => civil
  | .iso civil .. => civil

theorem short : (stamp : StoredTimestamp) → stamp.civil.date.FourDigits
  | .sqlite _ short => short
  | .iso _ short .. => short

/-- What stands after the second. -/
def rest : StoredTimestamp → List Char
  | .sqlite .. => []
  | .iso _ _ fraction zone => pointText fraction ++ zone.text

def text (stamp : StoredTimestamp) : String :=
  String.ofList (stamp.civil.text stamp.format.separator ++ stamp.rest)

def time : StoredTimestamp → OffsetDateTime
  | .sqlite civil _ => utcTime civil []
  | .iso civil _ fraction _ => utcTime civil fraction

def second (stamp : StoredTimestamp) : Int :=
  stamp.civil.seconds - unixEpoch

def millis (stamp : StoredTimestamp) : Int :=
  stamp.second * 1000 + stamp.time.nanosecond / 1000000

theorem second_eq (stamp : StoredTimestamp) : stamp.second = stamp.millis / 1000 := by
  have below := stamp.time.nanosecond_lt
  rw [millis]
  omega

end StoredTimestamp

variable (rfc3339 : Rfc3339)

/-- What is documented of the parser for a stored timestamp: the text in UTC is read as
its time, and a text without a zone is not read. -/
def Reads : StoredTimestamp → Prop
  | .sqlite civil _ =>
    rfc3339.parse (String.ofList (civil.text ' ')) = none
      ∧ rfc3339.parse (utcText civil [] .zulu) = some (utcTime civil [])
      ∧ rfc3339.parse (utcText civil [0, 0, 0] .zulu) = some (utcTime civil [0, 0, 0])
  | .iso civil _ fraction zone =>
    rfc3339.parse (utcText civil fraction zone) = some (utcTime civil fraction)

/-- The three digits of a whole second. -/
def wholeMillis : List (Fin 10) := [0, 0, 0]

variable {rfc3339}

/-! ## Reading a timestamp -/

theorem isWhitespace_of_isTimeChar {c : Char} (character : IsTimeChar c) :
    isWhitespace c = false := by
  simpa using character.of_all (fun c => !isWhitespace c) (by decide)

theorem head_text (civil : CivilTime) (sep : Char) (post : List Char) {c : Char}
    (first : (civil.text sep ++ post).head? = some c) : IsTimeChar c := by
  rw [CivilTime.text, CivilDate.text, digits] at first
  simp only [List.cons_append, List.head?_cons, Option.some.injEq] at first
  exact .inl ⟨_, Nat.mod_lt _ (by decide), first.symm⟩

theorem trim_text (civil : CivilTime) (sep : Char) {post : List Char}
    (ends : ∀ c, (civil.text sep ++ post).getLast? = some c → isWhitespace c = false) :
    trim (String.ofList (civil.text sep ++ post)) = String.ofList (civil.text sep ++ post) := by
  apply trimMatches_eq_self_iff.mpr
  rw [String.toList_ofList]
  exact ⟨fun c first => isWhitespace_of_isTimeChar (head_text civil sep post first), ends⟩

theorem trim_utcText (civil : CivilTime) (frac : List (Fin 10)) (zone : UtcZone) :
    trim (utcText civil frac zone) = utcText civil frac zone := by
  apply trim_text
  intro c last
  rw [← List.append_assoc, List.getLast?_append] at last
  cases zone with
  | zulu =>
    have eq : 'Z' = c := by simpa [UtcZone.text] using last
    rw [← eq]
    decide
  | zeroOffset =>
    have eq : '0' = c := by simpa [UtcZone.text] using last
    rw [← eq]
    decide

theorem trim_bareText (civil : CivilTime) :
    trim (String.ofList (civil.text ' ')) = String.ofList (civil.text ' ') := by
  have ends : ∀ c, (civil.text ' ' ++ []).getLast? = some c → isWhitespace c = false := by
    intro c last
    rw [List.append_nil, CivilTime.text, List.append_cons, List.getLast?_append] at last
    cases got : civil.time.text.getLast? with
    | none =>
      have length := civil.time.length_text
      rw [List.getLast?_eq_none_iff.mp got] at length
      cases length
    | some d =>
      rw [got] at last
      cases last
      exact isWhitespace_of_isTimeChar (TimeOfDay.isTimeChar_of_mem_text (List.mem_of_getLast? got))
  have whole := trim_text civil ' ' ends
  rwa [List.append_nil] at whole

theorem notMem_text {c separator : Char} (civil : CivilTime) (other : ¬ IsTimeChar c)
    (different : c ≠ separator) : c ∉ civil.text separator := by
  rw [CivilTime.text, List.mem_append, List.mem_cons]
  rintro (date | eq | time)
  · exact other (CivilDate.isTimeChar_of_mem_text date)
  · exact different eq
  · exact other (TimeOfDay.isTimeChar_of_mem_text time)

theorem text_ne_empty (civil : CivilTime) (sep : Char) (post : List Char) :
    String.ofList (civil.text sep ++ post) ≠ "" := by
  intro empty
  have length := congrArg (fun text => text.toList.length) empty
  simp at length

theorem bareText_ne_empty (civil : CivilTime) : String.ofList (civil.text ' ') ≠ "" := by
  have whole := text_ne_empty civil ' ' []
  rwa [List.append_nil] at whole

theorem not_isTimeChar_T : ¬ IsTimeChar 'T' := fun character =>
  absurd (character.of_all (· != 'T') (by decide)) (by decide)

theorem not_isTimeChar_point : ¬ IsTimeChar '.' := fun character =>
  absurd (character.of_all (· != '.') (by decide)) (by decide)

theorem datetimeString_bareText (lawful : rfc3339.Lawful) {civil : CivilTime}
    (short : civil.date.FourDigits)
    (unread : rfc3339.parse (String.ofList (civil.text ' ')) = none)
    (read : rfc3339.parse (utcText civil [] .zulu) = some (utcTime civil [])) :
    activitypubDatetimeString rfc3339 (String.ofList (civil.text ' '))
      = utcText civil [] .zulu := by
  have dayText : (civil.text ' ').take 10 = civil.date.text := by
    rw [CivilTime.text, List.take_append_of_le_length (by simp), List.take_of_length_le (by simp)]
  have timeText : ((civil.text ' ').drop 11).take 8 = civil.time.text := by
    rw [CivilTime.text, List.append_cons, List.drop_append_of_le_length (by simp),
      List.drop_of_length_le (by simp), List.nil_append, List.take_of_length_le (by simp)]
  have cand : String.ofList ((civil.text ' ').take 10
      ++ 'T' :: (((civil.text ' ').drop 11).take 8 ++ ['Z'])) = utcText civil [] .zulu := by
    rw [dayText, timeText, utcText, CivilTime.text, List.append_assoc]
    rfl
  have space : (civil.text ' ')[10]? = some ' ' := by
    simp [CivilTime.text]
  have wrote : rfc3339.format (utcTime civil []) = .ok (utcText civil [] .zulu) := by
    rw [lawful.format _ short]
    rfl
  rw [activitypubDatetimeString, trim_bareText]
  dsimp only
  rw [if_neg (bareText_ne_empty civil), unread]
  dsimp only
  rw [String.toList_ofList, if_pos ⟨by simp, space⟩, cand, read]
  dsimp only
  rw [wrote]
  rfl

theorem iso8601_bareText (lawful : rfc3339.Lawful) {civil : CivilTime}
    (short : civil.date.FourDigits)
    (unread : rfc3339.parse (String.ofList (civil.text ' ')) = none)
    (read : rfc3339.parse (utcText civil [] .zulu) = some (utcTime civil [])) :
    timestampToMastodonIso8601 rfc3339 (String.ofList (civil.text ' '))
      = utcText civil [0, 0, 0] .zulu := by
  have noT : 'T' ∉ civil.text ' ' := notMem_text civil not_isTimeChar_T (by decide)
  have noPoint : '.' ∉ (utcText civil [] .zulu).toList := by
    have inTime := @notMem_text '.' 'T' civil not_isTimeChar_point (by decide)
    simp [utcText, pointText, UtcZone.text, inTime]
  have zulu : endsWith (utcText civil [] .zulu) "Z" = true := by
    simp [endsWith, utcText, pointText, UtcZone.text]
  rw [timestampToMastodonIso8601, trim_bareText]
  dsimp only
  rw [if_neg (bareText_ne_empty civil), String.toList_ofList, if_neg noT,
    datetimeString_bareText lawful short unread read, if_pos ⟨zulu, noPoint⟩]
  have second : (utcText civil [] .zulu).toList.dropLast = civil.text 'T' := by
    rw [utcText, String.toList_ofList]
    exact List.dropLast_concat
  rw [second, ← String.toList_inj]
  simp [utcText, pointText, UtcZone.text, digitChar]

/-- A text with a `T` is left alone. -/
theorem iso8601_utcText (civil : CivilTime) (frac : List (Fin 10))
    (zone : UtcZone) :
    timestampToMastodonIso8601 rfc3339 (utcText civil frac zone) = utcText civil frac zone := by
  have hasT : 'T' ∈ (utcText civil frac zone).toList := by
    simp [utcText, CivilTime.text]
  have ne : utcText civil frac zone ≠ "" := text_ne_empty civil 'T' _
  rw [timestampToMastodonIso8601, trim_utcText]
  dsimp only
  rw [if_neg ne, if_pos hasT]

theorem toNat_tdiv (nanos : Int) : (nanos.tdiv 1000000).toNat = (nanos / 1000000).toNat := by
  rcases le_or_gt 0 nanos with pos | negative
  · rw [Int.tdiv_eq_ediv_of_nonneg pos]
  · have flipped : 0 ≤ (-nanos).tdiv 1000000 := Int.tdiv_nonneg (by omega) (by decide)
    rw [Int.neg_tdiv] at flipped
    have cut : nanos.tdiv 1000000 ≤ 0 := by omega
    rw [Int.toNat_of_nonpos cut, Int.toNat_of_nonpos (by omega)]

/-- **Both shapes are read as the time they stand for.** -/
theorem createdAtMillis_text (lawful : rfc3339.Lawful) {stamp : StoredTimestamp}
    (reads : Reads rfc3339 stamp) :
    createdAtMillis rfc3339 stamp.text = stamp.millis.toNat := by
  have parsed : rfc3339.parse (timestampToMastodonIso8601 rfc3339 stamp.text)
      = some stamp.time := by
    cases stamp with
    | sqlite civil short =>
      obtain ⟨unread, read, readMillis⟩ := reads
      have bare : (StoredTimestamp.sqlite civil short).text = String.ofList (civil.text ' ') := by
        exact congrArg String.ofList (List.append_nil _)
      rw [bare, iso8601_bareText lawful short unread read, readMillis]
      rfl
    | iso civil short frac zone =>
      exact (congrArg rfc3339.parse (iso8601_utcText ..)).trans reads
  have utc : stamp.time.instant = stamp.civil.seconds * 1000000000 + stamp.time.nanosecond := by
    cases stamp <;> exact congrArg (· * 1000000000 + _) (Int.sub_zero _)
  rw [createdAtMillis, parsed]
  dsimp only
  rw [toNat_tdiv, utc, StoredTimestamp.millis, StoredTimestamp.second]
  congr 1
  omega

end StoredTimestamps

end Cfwdon.Notifications
