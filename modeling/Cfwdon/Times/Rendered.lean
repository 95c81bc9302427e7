import Cfwdon.Library.ByteSlices
import Cfwdon.Notifications.StoredTimestamps
import Cfwdon.Times.Normalized

/-!
# Times in responses

Stored times are rendered for clients by cutting them at fixed bytes.  Some of the texts that
are cut came from other servers, and such a text may hold characters of several bytes.  A
cut inside one of them ends in a panic.

The parser and the formatter are parameters.
-/

namespace Cfwdon.Times

open Library

/-- `&text[start..stop]`, with bounds in order. -/
def slice (text : String) (start stop : Nat) : Except Panic String :=
  if utf8Length text.toList < stop then .error .byteIndexOutOfBounds
  else
    match (splitAtByte text.toList stop).bind fun cut => splitAtByte cut.1 start with
    | some cut => .ok (String.ofList cut.2)
    | none => .error .notCharBoundary

def Returns {α : Type} (call : Except Panic α) : Prop :=
  ∃ value, call = .ok value

variable {text : String}

theorem returns_slice_iff {start stop : Nat} (ordered : start ≤ stop)
    (long : stop ≤ utf8Length text.toList) :
    Returns (slice text start stop)
      ↔ ¬ CoversByte start text.toList ∧ ¬ CoversByte stop text.toList := by
  rw [Returns, slice, if_neg (not_lt.mpr long)]
  cases whole : splitAtByte text.toList stop with
  | none =>
    rw [Option.bind_none]
    rcases splitAtByte_eq_none_iff.mp whole with short | covers
    · exact absurd long (not_le.mpr short)
    · refine iff_of_false ?_ fun free => free.2 covers
      rintro ⟨value, gave⟩
      cases gave
  | some cut =>
    obtain ⟨front, back⟩ := cut
    obtain ⟨parts, length⟩ := splitAtByte_eq_some_iff.mp whole
    have free : ¬ CoversByte stop text.toList := by
      rw [parts, ← length]
      exact not_coversByte_append
    rw [Option.bind_some]
    dsimp only
    cases inner : splitAtByte front start with
    | none =>
      rcases splitAtByte_eq_none_iff.mp inner with short | covers
      · omega
      · refine iff_of_false ?_ fun free => free.1 (parts ▸ covers.append back)
        rintro ⟨value, gave⟩
        cases gave
    | some cut =>
      refine iff_of_true ⟨_, rfl⟩ ⟨fun covers => ?_, free⟩
      rw [parts] at covers
      have none := splitAtByte_eq_none_iff.mpr (Or.inr (covers.of_append (by omega)))
      rw [inner] at none
      cases none

theorem slice_ok {stop : Nat} {front back : List Char} (parts : text.toList = front ++ back)
    (length : utf8Length front = stop) :
    slice text 0 stop = .ok (String.ofList front) := by
  have long : ¬ utf8Length text.toList < stop := by
    rw [parts, utf8Length_append]
    omega
  have start : splitAtByte front 0 = some ([], front) :=
    splitAtByte_eq_some_iff.mpr ⟨rfl, rfl⟩
  rw [slice, if_neg long, splitAtByte_eq_some_iff.mpr ⟨parts, length⟩, Option.bind_some, start]

variable {α β : Type} {chars : List Char}

theorem returns_bind {call : Except Panic α} {next : α → Except Panic β} :
    Returns (call >>= next) ↔ ∃ value, call = .ok value ∧ Returns (next value) := by
  cases call with
  | error panic =>
    refine iff_of_false ?_ ?_
    · rintro ⟨value, gave⟩
      cases gave
    · rintro ⟨value, gave, -⟩
      cases gave
  | ok value =>
    constructor
    · exact fun gave => ⟨value, rfl, gave⟩
    · rintro ⟨eq, gave, later⟩
      cases gave
      exact later

theorem returns_bind_iff {call : Except Panic α} {next : α → Except Panic β}
    (total : ∀ value, call = .ok value → Returns (next value)) :
    Returns (call >>= next) ↔ Returns call := by
  rw [returns_bind]
  exact ⟨fun ⟨value, gave, _⟩ => ⟨value, gave⟩,
    fun ⟨value, gave⟩ => ⟨value, gave, total value gave⟩⟩

/-! ## The functions -/

section Renderers

variable (rfc3339 : Rfc3339)

/-- The text of a time of SQLite in the shape of RFC 3339. -/
def sqliteCandidate (text : String) : Except Panic String := do
  let day ← slice text 0 10
  let time ← slice text 11 19
  .ok (day ++ "T" ++ time ++ "Z")

/-- A text that is read as a time, formatted again if that goes well. -/
def reformatted (text : String) : Option String :=
  (rfc3339.parse text).map fun timestamp => (rfc3339.format timestamp).toOption.getD text

def activitypubDatetimeString (value : String) : Except Panic String :=
  let trimmed := trim value
  if trimmed = "" then .ok ""
  else
    match reformatted rfc3339 trimmed with
    | some text => .ok text
    | none =>
      if 19 ≤ utf8Length trimmed.toList ∧ (utf8Bytes trimmed.toList)[10]? = some 0x20 then do
        let candidate ← sqliteCandidate trimmed
        .ok ((reformatted rfc3339 candidate).getD trimmed)
      else .ok trimmed

def timestampToMastodonIso8601 (value : String) : Except Panic String :=
  let value := trim value
  if value = "" then .ok ""
  else if 'T' ∈ value.toList then .ok value
  else do
    let normalized ← activitypubDatetimeString rfc3339 value
    if endsWith normalized "Z" ∧ '.' ∉ normalized.toList then do
      let front ← slice normalized 0 (utf8Length normalized.toList - 1)
      .ok (front ++ ".000Z")
    else .ok normalized

def timestampToMastodonIso8601Opt (value : Option String) : Except Panic (Option String) :=
  match (value.map trim).filter fun value => value ≠ "" with
  | none => .ok none
  | some value => do
    let text ← timestampToMastodonIso8601 rfc3339 value
    .ok (some text)

/-- What stands before the first `T` or space. -/
def datePart (chars : List Char) : List Char :=
  chars.takeWhile fun c => c ≠ 'T' ∧ c ≠ ' '

def timestampToMastodonAccountCreatedAt (value : String) : Except Panic String := do
  let normalized ← timestampToMastodonIso8601 rfc3339 value
  let date := String.ofList (datePart normalized.toList)
  if 10 ≤ utf8Length date.toList then do
    let day ← slice date 0 10
    .ok (day ++ "T00:00:00.000Z")
  else .ok "1970-01-01T00:00:00.000Z"

end Renderers

/-- The byte at which a character stands last, if it does. -/
def lastByteOf (c : Char) (chars : List Char) : Option Nat :=
  (rsplitOnce (String.ofList chars) c).map fun split => utf8Length split.1.toList

/-- `parse_sqlite_utc_timestamp_ms`, up to the text that is given to the date parser. -/
def sqliteUtcTimestampText (value : String) : Except Panic (Option String) :=
  let value := trim value
  if value = "" then .ok none
  else if 'T' ∈ value.toList then
    if endsWith value "Z" ∨ '+' ∈ value.toList
        ∨ (lastByteOf '-' value.toList).any (fun byte => 10 < byte) = true then .ok (some value)
    else .ok (some (value ++ "Z"))
  else if 19 ≤ utf8Length value.toList then do
    let iso ← sqliteCandidate value
    .ok (some iso)
  else .ok none

/-! ## When they return -/

/-- A text that has a space at the byte 10, and a character that covers the byte 19. -/
def BreaksTime (chars : List Char) : Prop :=
  (∃ day rest, chars = day ++ ' ' :: rest ∧ utf8Length day = 10) ∧ CoversByte 19 chars

theorem not_breaksTime_of_ascii (ascii : ∀ c ∈ chars, c.toNat < 128) : ¬ BreaksTime chars :=
  fun breaks => not_coversByte_of_ascii ascii breaks.2

/-- The parser and the formatter know ASCII texts only. -/
structure KnowsAscii (rfc3339 : Rfc3339) : Prop where
  parse : ∀ text time, rfc3339.parse text = some time → ∀ c ∈ text.toList, c.toNat < 128
  format : ∀ time text, rfc3339.format time = .ok text → ∀ c ∈ text.toList, c.toNat < 128

variable {rfc3339 : Rfc3339} {value : String}

/-- The candidate is made exactly if no character covers the byte 10, 11 or 19. -/
theorem returns_sqliteCandidate_iff (long : 19 ≤ utf8Length text.toList) :
    Returns (sqliteCandidate text)
      ↔ ¬ CoversByte 10 text.toList ∧ ¬ CoversByte 11 text.toList
        ∧ ¬ CoversByte 19 text.toList := by
  have day := @returns_slice_iff text 0 10 (by decide) (by omega)
  have time := @returns_slice_iff text 11 19 (by decide) long
  have start : ¬ CoversByte 0 text.toList := by
    rintro ⟨pre, c, post, -, less, -⟩
    cases less
  rw [sqliteCandidate]
  by_cases dayFree : CoversByte 10 text.toList
  · refine iff_of_false ?_ fun free => free.1 dayFree
    rintro ⟨value, gave⟩
    cases first : slice text 0 10 with
    | error panic =>
      rw [first] at gave
      cases gave
    | ok front => exact (day.mp ⟨front, first⟩).2 dayFree
  · obtain ⟨front, first⟩ := day.mpr ⟨start, dayFree⟩
    rw [first]
    have inner : Returns (slice text 11 19 >>= fun time => .ok (front ++ "T" ++ time ++ "Z"))
        ↔ Returns (slice text 11 19) := returns_bind_iff fun time _ => ⟨_, rfl⟩
    exact inner.trans (time.trans ⟨fun free => ⟨dayFree, free⟩, fun free => free.2⟩)

variable {day rest : List Char} {n : Nat} {c : Char} {width num : Nat}

theorem returns_sqliteCandidate_of_space
    (parts : text.toList = day ++ ' ' :: rest) (length : utf8Length day = 10)
    (long : 19 ≤ utf8Length text.toList) :
    Returns (sqliteCandidate text) ↔ ¬ CoversByte 19 text.toList := by
  have pre : ¬ CoversByte 10 text.toList := by
    rw [parts, ← length]
    exact not_coversByte_append
  have behind : ¬ CoversByte 11 text.toList := by
    have longer : utf8Length (day ++ [' ']) = 11 := by
      rw [utf8Length_append, length]
      rfl
    have joined : text.toList = (day ++ [' ']) ++ rest := by rw [parts, List.append_cons]
    rw [joined, ← longer]
    exact not_coversByte_append
  rw [returns_sqliteCandidate_iff long]
  exact ⟨fun free => free.2.2, fun free => ⟨pre, behind, free⟩⟩

theorem ascii_of_reformatted (knows : KnowsAscii rfc3339) {made : String}
    (got : reformatted rfc3339 text = some made) :
    (∀ c ∈ text.toList, c.toNat < 128) ∧ ∀ c ∈ made.toList, c.toNat < 128 := by
  obtain ⟨time, read, rfl⟩ := Option.map_eq_some_iff.mp got
  have ascii := knows.parse _ _ read
  refine ⟨ascii, ?_⟩
  cases wrote : rfc3339.format time with
  | error msg => exact ascii
  | ok made => exact knows.format time made wrote

theorem byte_space_iff :
    (utf8Bytes chars)[10]? = some 0x20
      ↔ ∃ day rest, chars = day ++ ' ' :: rest ∧ utf8Length day = 10 :=
  @byte_eq_iff chars 10 ' ' (by decide)

theorem returns_datetimeString_iff (knows : KnowsAscii rfc3339) (value : String) :
    Returns (activitypubDatetimeString rfc3339 value) ↔ ¬ BreaksTime (trim value).toList := by
  rw [activitypubDatetimeString]
  by_cases empty : trim value = ""
  · rw [if_pos empty, empty]
    exact iff_of_true ⟨_, rfl⟩ (not_breaksTime_of_ascii (by simp))
  · rw [if_neg empty]
    cases got : reformatted rfc3339 (trim value) with
    | some text =>
      exact iff_of_true ⟨_, rfl⟩ (not_breaksTime_of_ascii (ascii_of_reformatted knows got).1)
    | none =>
      dsimp only
      by_cases shaped : 19 ≤ utf8Length (trim value).toList
          ∧ (utf8Bytes (trim value).toList)[10]? = some 0x20
      · rw [if_pos shaped]
        obtain ⟨day, rest, parts, length⟩ := byte_space_iff.mp shaped.2
        have made := returns_sqliteCandidate_of_space parts length shaped.1
        refine (returns_bind_iff fun cand _ => ⟨_, rfl⟩).trans (made.trans (not_congr ?_))
        exact ⟨fun covers => ⟨⟨day, rest, parts, length⟩, covers⟩, fun breaks => breaks.2⟩
      · rw [if_neg shaped]
        refine iff_of_true ⟨_, rfl⟩ fun breaks => shaped ⟨?_, byte_space_iff.mpr breaks.1⟩
        exact breaks.2.lt.le

/-- A text that ends with `Z` is cut before it. -/
theorem slice_before_last (ends : endsWith text "Z" = true) :
    ∃ front, text.toList = front ++ ['Z']
      ∧ slice text 0 (utf8Length text.toList - 1) = .ok (String.ofList front) := by
  have last : "Z".toList.reverse = ['Z'] := by decide
  rw [endsWith, last] at ends
  obtain ⟨tail, parts⟩ := List.isPrefixOf_iff_prefix.mp ends
  have whole : text.toList = tail.reverse ++ ['Z'] := by
    rw [← List.reverse_reverse text.toList, ← parts, List.singleton_append, List.reverse_cons]
  refine ⟨tail.reverse, whole, slice_ok whole ?_⟩
  rw [whole, utf8Length_append]
  exact (Nat.add_sub_cancel ..).symm

theorem returns_iso8601_iff (knows : KnowsAscii rfc3339) (value : String) :
    Returns (timestampToMastodonIso8601 rfc3339 value)
      ↔ 'T' ∈ (trim value).toList ∨ ¬ BreaksTime (trim value).toList := by
  rw [timestampToMastodonIso8601]
  split_ifs with empty isIso
  · rw [empty]
    exact iff_of_true ⟨_, rfl⟩ (Or.inr (not_breaksTime_of_ascii (by simp)))
  · exact iff_of_true ⟨_, rfl⟩ (Or.inl isIso)
  · rw [or_iff_right isIso]
    have inner := returns_datetimeString_iff knows (trim value)
    rw [trim_trim] at inner
    refine (returns_bind_iff fun norm _ => ?_).trans inner
    split_ifs with ends
    · obtain ⟨front, -, cut⟩ := slice_before_last ends.1
      rw [cut]
      exact ⟨_, rfl⟩
    · exact ⟨_, rfl⟩

theorem returns_iso8601Opt_iff (knows : KnowsAscii rfc3339)
    (value : Option String) :
    Returns (timestampToMastodonIso8601Opt rfc3339 value)
      ↔ ∀ text ∈ value, 'T' ∈ (trim text).toList ∨ ¬ BreaksTime (trim text).toList := by
  rw [timestampToMastodonIso8601Opt]
  cases value with
  | none => exact iff_of_true ⟨_, rfl⟩ fun _ none => by cases none
  | some text =>
    rw [Option.map_some, Option.filter_some]
    split_ifs with here
    · have inner := returns_iso8601_iff knows (trim text)
      rw [trim_trim] at inner
      refine ((returns_bind_iff fun _ _ => ⟨_, rfl⟩).trans inner).trans ?_
      simp
    · have empty : trim text = "" := by simpa using here
      refine iff_of_true ⟨_, rfl⟩ fun other eq => ?_
      cases eq
      rw [empty]
      exact Or.inr (not_breaksTime_of_ascii (by simp))

/-! ## Dates -/

theorem coversByte_append_ascii {front back : List Char}
    (ascii : ∀ c ∈ back, c.toNat < 128) :
    CoversByte n (front ++ back) ↔ CoversByte n front := by
  refine ⟨fun covers => ?_, fun covers => covers.append back⟩
  obtain ⟨pre, c, post, parts, less, more⟩ := covers
  have wide : c ∉ back := by
    intro mem
    have one := @utf8Length_of_ascii [c] fun d single =>
      List.mem_singleton.mp single ▸ ascii c mem
    rw [utf8Length, utf8Length, List.length_singleton] at one
    omega
  rcases List.append_eq_append_iff.mp parts with ⟨middle, rfl, eq⟩ | ⟨middle, rfl, eq⟩
  · refine absurd ?_ wide
    rw [eq]
    exact List.mem_append_right _ List.mem_cons_self
  · cases middle with
    | nil =>
      refine absurd ?_ wide
      rw [List.nil_append] at eq
      rw [← eq]
      exact List.mem_cons_self
    | cons d middle =>
      obtain ⟨rfl, -⟩ := List.cons.inj eq
      exact ⟨pre, c, middle, rfl, less, more⟩

/-- What is put behind a text leaves the date that is cut from it, if it is ASCII and holds
no separator. -/
theorem coversByte_datePart_append {front back : List Char}
    (plain : ∀ c ∈ back, c.toNat < 128 ∧ c ≠ 'T' ∧ c ≠ ' ') :
    CoversByte n (datePart (front ++ back)) ↔ CoversByte n (datePart front) := by
  have kept : ∀ c ∈ back, decide (c ≠ 'T' ∧ c ≠ ' ') = true := fun c mem =>
    decide_eq_true (plain c mem).2
  rw [datePart, datePart, List.takeWhile_append]
  split_ifs with whole
  · have all : front.takeWhile (fun c => decide (c ≠ 'T' ∧ c ≠ ' ')) = front :=
      (List.takeWhile_prefix _).eq_of_length whole
    have rest : back.takeWhile (fun c => decide (c ≠ 'T' ∧ c ≠ ' ')) = back := by
      rw [← List.append_nil back, List.takeWhile_append_of_pos kept]
      rfl
    rw [all, rest]
    exact coversByte_append_ascii fun c mem => (plain c mem).1
  · rfl

theorem datePart_ascii (ascii : ∀ c ∈ chars, c.toNat < 128) : ¬ CoversByte 10 (datePart chars) :=
  not_coversByte_of_ascii fun c mem => ascii c (List.takeWhile_subset _ mem)

theorem datePart_of_space (length : utf8Length day = 10) :
    ¬ CoversByte 10 (datePart (day ++ ' ' :: rest)) := by
  have short : datePart (day ++ ' ' :: rest) = datePart day := by
    rw [datePart, List.takeWhile_append]
    split_ifs with whole
    · rw [List.takeWhile_cons_of_neg (by decide), List.append_nil, datePart]
      exact ((List.takeWhile_prefix _).eq_of_length whole).symm
    · rfl
  rw [short]
  intro covers
  have bound := covers.lt
  have parts := @List.takeWhile_append_dropWhile _ (fun c => decide (c ≠ 'T' ∧ c ≠ ' ')) day
  have sizes := congrArg utf8Length parts
  rw [utf8Length_append, length] at sizes
  rw [datePart] at bound
  omega

/-- What is made of a time for ActivityPub is the text, or ASCII for a text whose date can be
cut. -/
theorem datetimeString_cases (knows : KnowsAscii rfc3339)
    (gave : activitypubDatetimeString rfc3339 value = .ok text) :
    text = trim value
      ∨ (∀ c ∈ text.toList, c.toNat < 128) ∧ ¬ CoversByte 10 (datePart (trim value).toList) := by
  rw [activitypubDatetimeString] at gave
  by_cases empty : trim value = ""
  · rw [if_pos empty] at gave
    cases gave
    exact Or.inl empty.symm
  · rw [if_neg empty] at gave
    cases got : reformatted rfc3339 (trim value) with
    | some made =>
      rw [got] at gave
      cases gave
      obtain ⟨ascii, madeAscii⟩ := ascii_of_reformatted knows got
      exact Or.inr ⟨madeAscii, datePart_ascii ascii⟩
    | none =>
      rw [got] at gave
      dsimp only at gave
      by_cases shaped : 19 ≤ utf8Length (trim value).toList
          ∧ (utf8Bytes (trim value).toList)[10]? = some 0x20
      · rw [if_pos shaped] at gave
        obtain ⟨day, rest, parts, length⟩ := byte_space_iff.mp shaped.2
        cases made : sqliteCandidate (trim value) with
        | error panic =>
          rw [made] at gave
          cases gave
        | ok cand =>
          rw [made] at gave
          cases gave
          cases again : reformatted rfc3339 cand with
          | none => exact Or.inl rfl
          | some made =>
            refine Or.inr ⟨(ascii_of_reformatted knows again).2, ?_⟩
            rw [parts]
            exact datePart_of_space length
      · rw [if_neg shaped] at gave
        cases gave
        exact Or.inl rfl

/-- What is rendered for clients has a date that can be cut exactly if the text has. -/
theorem coversByte_datePart_iff (knows : KnowsAscii rfc3339)
    (gave : timestampToMastodonIso8601 rfc3339 value = .ok text) :
    CoversByte 10 (datePart text.toList) ↔ CoversByte 10 (datePart (trim value).toList) := by
  rw [timestampToMastodonIso8601] at gave
  by_cases empty : trim value = ""
  · rw [if_pos empty] at gave
    cases gave
    rw [empty]
  · rw [if_neg empty] at gave
    by_cases isIso : 'T' ∈ (trim value).toList
    · rw [if_pos isIso] at gave
      cases gave
      rfl
    · rw [if_neg isIso] at gave
      cases made : activitypubDatetimeString rfc3339 (trim value) with
      | error panic =>
        rw [made] at gave
        cases gave
      | ok norm =>
        rw [made] at gave
        -- milliseconds take the place of the last character, or nothing is changed
        have shown : CoversByte 10 (datePart text.toList)
            ↔ CoversByte 10 (datePart norm.toList) := by
          change (if endsWith norm "Z" ∧ '.' ∉ norm.toList then _ else _) = Except.ok text at gave
          split_ifs at gave with ends
          · obtain ⟨front, parts, cut⟩ := slice_before_last ends.1
            rw [cut] at gave
            cases gave
            have millis : (String.ofList front ++ ".000Z").toList = front ++ ".000Z".toList := by
              rw [String.toList_append, String.toList_ofList]
            rw [millis, parts, coversByte_datePart_append (forall_mem_of_all (by decide)),
              coversByte_datePart_append (forall_mem_of_all (by decide))]
          · cases gave
            rfl
        rw [shown]
        rcases datetimeString_cases knows made with eq | ⟨ascii, free⟩
        · rw [eq, trim_trim]
        · rw [trim_trim] at free
          exact iff_of_false (datePart_ascii ascii) free

theorem returns_accountCreatedAt_iff (knows : KnowsAscii rfc3339)
    (value : String) :
    Returns (timestampToMastodonAccountCreatedAt rfc3339 value)
      ↔ ('T' ∈ (trim value).toList ∨ ¬ BreaksTime (trim value).toList)
        ∧ ¬ CoversByte 10 (datePart (trim value).toList) := by
  rw [← returns_iso8601_iff knows, timestampToMastodonAccountCreatedAt, returns_bind]
  -- the date of a rendered time is cut exactly if no character covers its byte 10
  have cut : ∀ text, timestampToMastodonIso8601 rfc3339 value = .ok text →
      (Returns (if 10 ≤ utf8Length (String.ofList (datePart text.toList)).toList then do
          let day ← slice (String.ofList (datePart text.toList)) 0 10
          .ok (day ++ "T00:00:00.000Z")
        else .ok "1970-01-01T00:00:00.000Z")
        ↔ ¬ CoversByte 10 (datePart (trim value).toList)) := by
    intro text gave
    rw [← coversByte_datePart_iff knows gave, String.toList_ofList]
    split_ifs with long
    · have both := @returns_slice_iff (String.ofList (datePart text.toList)) 0 10 (by decide)
        (by rw [String.toList_ofList]; exact long)
      rw [String.toList_ofList] at both
      refine ((returns_bind_iff fun day _ => ⟨_, rfl⟩).trans both).trans ⟨fun free => free.2,
        fun free => ⟨?_, free⟩⟩
      rintro ⟨pre, c, post, -, less, -⟩
      cases less
    · exact iff_of_true ⟨_, rfl⟩ fun covers => long covers.lt.le
  constructor
  · rintro ⟨text, gave, later⟩
    exact ⟨⟨text, gave⟩, (cut text gave).mp later⟩
  · rintro ⟨⟨text, gave⟩, free⟩
    exact ⟨text, gave, (cut text gave).mpr free⟩

/-- **When a stored time of SQLite is returned**, for the date parser. -/
theorem returns_sqliteText_iff (value : String) :
    Returns (sqliteUtcTimestampText value)
      ↔ 'T' ∈ (trim value).toList ∨ utf8Length (trim value).toList < 19
        ∨ ¬ CoversByte 10 (trim value).toList ∧ ¬ CoversByte 11 (trim value).toList
          ∧ ¬ CoversByte 19 (trim value).toList := by
  rw [sqliteUtcTimestampText]
  by_cases empty : trim value = ""
  · rw [if_pos empty, empty]
    exact iff_of_true ⟨_, rfl⟩ (Or.inr (Or.inl (by decide)))
  · rw [if_neg empty]
    by_cases isIso : 'T' ∈ (trim value).toList
    · rw [if_pos isIso]
      refine iff_of_true ?_ (Or.inl isIso)
      split_ifs
      · exact ⟨_, rfl⟩
      · exact ⟨_, rfl⟩
    · rw [if_neg isIso, or_iff_right isIso]
      by_cases long : 19 ≤ utf8Length (trim value).toList
      · rw [if_pos long, or_iff_right (not_lt.mpr long)]
        exact (returns_bind_iff fun _ _ => ⟨_, rfl⟩).trans (returns_sqliteCandidate_iff long)
      · rw [if_neg long]
        exact iff_of_true ⟨_, rfl⟩ (Or.inl (not_le.mp long))

/-! ## All of them -/

/-- Each of the functions returns for a stored text. -/
structure AllReturn (rfc3339 : Rfc3339) (value : String) : Prop where
  activitypub : Returns (activitypubDatetimeString rfc3339 value)
  mastodon : Returns (timestampToMastodonIso8601 rfc3339 value)
  mastodonOpt : Returns (timestampToMastodonIso8601Opt rfc3339 (some value))
  accountCreatedAt : Returns (timestampToMastodonAccountCreatedAt rfc3339 value)
  sqlite : Returns (sqliteUtcTimestampText value)

/-- No cut of a trimmed text falls inside a character. -/
structure CutsFall (chars : List Char) : Prop where
  time : ¬ BreaksTime chars
  date : ¬ CoversByte 10 (datePart chars)
  sqlite : 'T' ∉ chars → 19 ≤ utf8Length chars →
    ¬ CoversByte 10 chars ∧ ¬ CoversByte 11 chars ∧ ¬ CoversByte 19 chars

theorem allReturn_iff (knows : KnowsAscii rfc3339) (value : String) :
    AllReturn rfc3339 value ↔ CutsFall (trim value).toList := by
  constructor
  · intro returns
    refine ⟨(returns_datetimeString_iff knows value).mp returns.activitypub,
      ((returns_accountCreatedAt_iff knows value).mp
        returns.accountCreatedAt).2, fun notIso long => ?_⟩
    rcases (returns_sqliteText_iff value).mp returns.sqlite with isIso | short | free
    · exact absurd isIso notIso
    · exact absurd long (not_le.mpr short)
    · exact free
  · intro cuts
    have time := cuts.time
    refine ⟨(returns_datetimeString_iff knows value).mpr time,
      (returns_iso8601_iff knows value).mpr (Or.inr time), ?_,
      (returns_accountCreatedAt_iff knows value).mpr ⟨Or.inr time, cuts.date⟩,
      (returns_sqliteText_iff value).mpr ?_⟩
    · rw [returns_iso8601Opt_iff knows]
      intro text eq
      cases eq
      exact Or.inr time
    · by_cases isIso : 'T' ∈ (trim value).toList
      · exact Or.inl isIso
      · by_cases long : 19 ≤ utf8Length (trim value).toList
        · exact Or.inr (Or.inr (cuts.sqlite isIso long))
        · exact Or.inr (Or.inl (not_le.mp long))

/-- **When the renderers return**: each of them, and all of them. -/
theorem renderers_return_iff (knows : KnowsAscii rfc3339) (value : String) :
    (Returns (activitypubDatetimeString rfc3339 value) ↔ ¬ BreaksTime (trim value).toList)
      ∧ (Returns (timestampToMastodonIso8601 rfc3339 value)
        ↔ 'T' ∈ (trim value).toList ∨ ¬ BreaksTime (trim value).toList)
      ∧ (Returns (timestampToMastodonAccountCreatedAt rfc3339 value)
        ↔ ('T' ∈ (trim value).toList ∨ ¬ BreaksTime (trim value).toList)
          ∧ ¬ CoversByte 10 (datePart (trim value).toList))
      ∧ (AllReturn rfc3339 value ↔ CutsFall (trim value).toList) :=
  ⟨returns_datetimeString_iff knows value,
    returns_iso8601_iff knows value,
    returns_accountCreatedAt_iff knows value, allReturn_iff knows value⟩

/-! ## From another server -/

/-- A text that is not a time is kept. -/
def normalizedRemoteTimestamp (rfc3339 : Rfc3339) (value : String) : Except Panic String := do
  let normalized ← normalizeRfc3339MillisUtc rfc3339 value
  .ok (normalized.getD (trim value))

theorem toNat_lt_of_isTimeChar (isTimeChar : IsTimeChar c) : c.toNat < 128 := by
  have small := isTimeChar.of_all (fun c => decide (c.toNat < 128)) (by decide)
  exact of_decide_eq_true small

theorem toNat_lt_of_mem_digits (mem : c ∈ digits width num) : c.toNat < 128 :=
  toNat_lt_of_isTimeChar (isTimeChar_of_mem_digits mem)

theorem toNat_lt_of_mem_trimmedDigits (mem : c ∈ trimmedDigits width num) : c.toNat < 128 := by
  induction width generalizing num with
  | zero => cases mem
  | succ width ih =>
    rw [trimmedDigits] at mem
    split_ifs at mem
    · exact ih mem
    · exact toNat_lt_of_mem_digits mem

theorem ascii_text (time : OffsetDateTime) : ∀ c ∈ time.text.toList, c.toNat < 128 := by
  intro c mem
  rw [OffsetDateTime.text, String.toList_ofList, CivilTime.text] at mem
  simp only [List.mem_append, List.mem_cons] at mem
  rcases mem with (date | rfl | clock) | frac | offset
  · exact toNat_lt_of_isTimeChar (CivilDate.isTimeChar_of_mem_text date)
  · decide
  · exact toNat_lt_of_isTimeChar (TimeOfDay.isTimeChar_of_mem_text clock)
  · rw [fractionText] at frac
    split_ifs at frac
    · cases frac
    · rcases List.mem_cons.mp frac with rfl | places
      · decide
      · exact toNat_lt_of_mem_trimmedDigits places
  · rw [offsetText] at offset
    split_ifs at offset
    · rw [List.mem_singleton.mp offset]
      decide
    · simp only [List.mem_cons, List.mem_append] at offset
      rcases offset with rfl | hours | rfl | minutes
      · decide
      · exact toNat_lt_of_mem_digits hours
      · decide
      · exact toNat_lt_of_mem_digits minutes
    · simp only [List.mem_cons, List.mem_append] at offset
      rcases offset with rfl | hours | rfl | minutes
      · decide
      · exact toNat_lt_of_mem_digits hours
      · decide
      · exact toNat_lt_of_mem_digits minutes

theorem knowsAscii_plainRfc3339 : KnowsAscii plainRfc3339 where
  parse _ _ read := (readRfc3339_spec read).1
  format time text written := by
    have made : (if time.clock.date.FourDigits then Except.ok time.text
      else Except.error "The year component is invalid") = Except.ok text := written
    split_ifs at made
    cases made
    exact ascii_text time

/-- A time that SQLite wrote is rendered everywhere. -/
theorem renderers_return_for_sqlite : AllReturn plainRfc3339 "2026-05-09 13:40:48" := by
  have both := renderers_return_iff knowsAscii_plainRfc3339 "2026-05-09 13:40:48"
  have ascii : ∀ c ∈ (trim "2026-05-09 13:40:48").toList, c.toNat < 128 :=
    forall_mem_of_all (by decide +kernel)
  exact both.2.2.2.mpr ⟨not_breaksTime_of_ascii ascii, datePart_ascii ascii, fun _ _ =>
    ⟨not_coversByte_of_ascii ascii, not_coversByte_of_ascii ascii, not_coversByte_of_ascii ascii⟩⟩

/-- A text from another server is kept as it is, and rendering it cuts its last
character. -/
theorem accented_time_is_not_rendered :
    normalizedRemoteTimestamp plainRfc3339 "2026-05-09 13:40:4é" = .ok "2026-05-09 13:40:4é"
      ∧ timestampToMastodonIso8601 plainRfc3339 "2026-05-09 13:40:4é" = .error .notCharBoundary
      ∧ activitypubDatetimeString plainRfc3339 "2026-05-09 13:40:4é" = .error .notCharBoundary
      ∧ ¬ AllReturn plainRfc3339 "2026-05-09 13:40:4é" := by
  have panics : timestampToMastodonIso8601 plainRfc3339 "2026-05-09 13:40:4é"
      = .error .notCharBoundary := by decide +kernel
  refine ⟨by decide +kernel, panics, by decide +kernel, fun returns => ?_⟩
  obtain ⟨text, gave⟩ := returns.mastodon
  rw [panics] at gave
  cases gave

end Cfwdon.Times
