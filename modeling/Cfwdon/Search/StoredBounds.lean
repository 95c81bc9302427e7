import Cfwdon.Search.DateTokens
import Cfwdon.Times.Normalized

/-!
# The bounds that a search stores

A date of a query is digits, an RFC 3339 time or a day, and what is stored of it is a text.  A time
keeps its offset, the product of milliseconds can overflow, and there is no day after the last one.
-/

namespace Cfwdon.Search

open Library

variable {time : OffsetDateTime} {keyword : SearchKeyword} {date : SearchDate}

section StoredBounds

/-- What is documented of the parser and the formatter of times. -/
structure SearchTimes.Documented (times : SearchTimes) : Prop where
  rfc3339 : times.rfc3339.Lawful
  otherYears : ∀ time : OffsetDateTime, ¬ time.clock.date.FourDigits →
    (times.rfc3339.format time).toOption = none
  seconds : ∀ (seconds : Int) (time : OffsetDateTime), 0 ≤ seconds →
    times.fromUnixTimestamp seconds = some time → time.offset = 0 ∧ time.clock.date.FourDigits
      ∧ time.instant = unixEpoch * 1000000000 + seconds * 1000000000
  nanos : ∀ (nanos : Int) (time : OffsetDateTime), 0 ≤ nanos →
    times.fromUnixTimestampNanos nanos = some time → time.offset = 0
      ∧ time.clock.date.FourDigits ∧ time.instant = unixEpoch * 1000000000 + nanos

variable (times : SearchTimes)

/-! ## What a value denotes -/

/-- The text of a time in UTC. -/
def UtcText (instant : Int) (text : String) : Prop :=
  ∃ time : OffsetDateTime, time.offset = 0 ∧ time.clock.date.FourDigits ∧ time.instant = instant
    ∧ text = time.text

def dayStart (dayNumber : Int) : Int := dayNumber * 86400 * 1000000000

/-- The instant that a value denotes: a day its midnight. -/
def denotedInstant (value : String) : Option Int :=
  let value := unquoteStatusSearchToken value
  if value = "" then none
  else if value.toList.all Char.isDigit then
    (digitsValue value.toList).map fun number =>
      unixEpoch * 1000000000 + (if 13 ≤ value.length then number * 1000000 else number * 1000000000)
  else
    match times.rfc3339.parse value with
    | some time => some time.instant
    | none => (times.parseDate value).map fun day => dayStart day.dayNumber

/-- `value.parse::<i128>().ok()? * 1_000_000` overflows. -/
def Overflows (value : String) : Prop :=
  (unquoteStatusSearchToken value).toList.all Char.isDigit = true
    ∧ 13 ≤ (unquoteStatusSearchToken value).length
    ∧ ∃ millis, parseI128Digits (unquoteStatusSearchToken value) = some millis
      ∧ 2 ^ 127 ≤ millis * 1000000

/-- The values of the date filters of a query. -/
def dateValue (token : String) : Option (DateKind × String) :=
  (keywordToken (splitStatusSearchNegation token).2).bind fun (keyword, value) =>
    keyword.dateKind.map (·, value)

def dateValues (query : String) : List (DateKind × String) :=
  (tokenizeStatusSearchQuery query).filterMap dateValue

/-- What is stored of a value, unless a narrower bound is. -/
def boundsOf (kind : DateKind) (value : String) : List String :=
  (normalizeStatusSearchTimestamp times value).toList
    ++ if kind = .during then ((nextDayStatusSearchTimestamp times value).getD none).toList else []

def ParsedStatusSearchQuery.bounds (parsed : ParsedStatusSearchQuery) : List String :=
  parsed.before.toList ++ parsed.after.toList ++ parsed.excludedBefore.toList
    ++ parsed.excludedAfter.toList
    ++ parsed.excludedDuring.flatMap fun (start, finish) => [start, finish]

/-- A value is read without an overflow, and what is stored of it is UTC: the instant it denotes,
and for `during:` of a day its midnight and the next one. -/
structure ReadWell (kind : DateKind) (value : String) : Prop where
  fits : ¬ Overflows value
  utc : ∀ bound ∈ normalizeStatusSearchTimestamp times value,
    ∃ instant ∈ denotedInstant times value, UtcText instant bound
  day : kind = .during → ∀ day, readSearchDate times value = some (.date day) →
    ∃ start finish, normalizeStatusSearchTimestamp times value = some start
      ∧ nextDayStatusSearchTimestamp times value = some (some finish)
      ∧ UtcText (dayStart day.dayNumber) start ∧ UtcText (dayStart (day.dayNumber + 1)) finish
  finish : kind = .during → (∀ day, readSearchDate times value ≠ some (.date day)) →
    nextDayStatusSearchTimestamp times value = some (normalizeStatusSearchTimestamp times value)

/-- A query is parsed, its dates are read well, and only what is read of them is stored. -/
def DatesStored (query : String) : Prop :=
  (∃ parsed, parseStatusSearchQuery times query = some parsed
    ∧ ∀ bound ∈ parsed.bounds, ∃ date ∈ dateValues query, bound ∈ boundsOf times date.1 date.2)
    ∧ ∀ date ∈ dateValues query, ReadWell times date.1 date.2

/-- No overflow, no offset, and for `during:` of a day neither a year before 0 nor the last day. -/
def Storable (kind : DateKind) (value : String) : Prop :=
  ¬ Overflows value
    ∧ (∀ time, readSearchDate times value = some (.rfc3339 time) → time.offset = 0)
    ∧ (kind = .during → ∀ day, readSearchDate times value = some (.date day) →
        day.FourDigits ∧ (dayAfter day).isSome = true)

/-! ## One value -/

variable {times} {kind : DateKind} {value : String}

theorem digitsValue_nonneg {chars : List Char} {number : Int}
    (read : digitsValue chars = some number) : 0 ≤ number := by
  have folded : ∀ start : Int, 0 ≤ start →
      0 ≤ chars.foldl (fun (value : Int) c => value * 10 + (c.toNat - 48 : Nat)) start := by
    clear read
    induction chars with
    | nil => exact fun start nonneg => nonneg
    | cons c rest ih =>
      intro start nonneg
      have next : 0 ≤ start * 10 + (c.toNat - 48 : Nat) := by omega
      exact ih _ next
  rw [digitsValue] at read
  split_ifs at read
  obtain rfl := Option.some.inj read
  exact folded 0 (Int.le_refl 0)

theorem digitsValue_of_parseI64 {text : String} (digits : text.toList.all Char.isDigit = true)
    {seconds : Int} (parsed : parseI64 text = some seconds) :
    digitsValue text.toList = some seconds := by
  obtain ⟨read, -⟩ := Option.filter_eq_some_iff.mp parsed
  split at read
  next rest starts =>
    rw [starts, List.all_cons] at digits
    cases digits
  next rest starts =>
    rw [starts, List.all_cons] at digits
    cases digits
  next => exact read

theorem midnight_instant (day : CivilDate) : (startOfDay day).instant = dayStart day.dayNumber := by
  simp [startOfDay, OffsetDateTime.utc, OffsetDateTime.instant, CivilTime.seconds, dayStart,
    TimeOfDay.midnight, TimeOfDay.onHour, TimeOfDay.seconds]

/-- Without an overflow a value is read as the instant it denotes. -/
theorem start_of_read (documented : times.Documented) (fits : ¬ Overflows value)
    (read : readSearchDate times value = some date) :
    denotedInstant times value = some date.start.instant
      ∧ ∀ time, date = .unix time → time.offset = 0 ∧ time.clock.date.FourDigits := by
  rw [readSearchDate] at read
  rw [denotedInstant]
  by_cases empty : unquoteStatusSearchToken value = ""
  · rw [if_pos empty] at read
    cases read
  rw [if_neg empty] at read ⊢
  by_cases digits : (unquoteStatusSearchToken value).toList.all Char.isDigit = true
  · rw [if_pos digits] at read ⊢
    by_cases long : 13 ≤ (unquoteStatusSearchToken value).length
    · rw [if_pos long] at read
      obtain ⟨time, got, rfl⟩ := Option.map_eq_some_iff.mp read
      obtain ⟨millis, parsed, made⟩ := Option.bind_eq_some_iff.mp got
      have num := (Option.filter_eq_some_iff.mp parsed).1
      have nonneg := digitsValue_nonneg num
      have small : millis * 1000000 < 2 ^ 127 :=
        Int.not_le.mp fun large => fits ⟨digits, long, millis, parsed, large⟩
      rw [Int.bmod_eq_of_le (by omega) (by omega)] at made
      obtain ⟨utc, short, instant⟩ := documented.nanos _ time (by omega) made
      rw [num, Option.map_some, if_pos long]
      refine ⟨congrArg some instant.symm, fun other eq => ?_⟩
      cases eq
      exact ⟨utc, short⟩
    · rw [if_neg long] at read
      obtain ⟨time, got, rfl⟩ := Option.map_eq_some_iff.mp read
      obtain ⟨seconds, parsed, made⟩ := Option.bind_eq_some_iff.mp got
      have num := digitsValue_of_parseI64 digits parsed
      obtain ⟨utc, short, instant⟩ :=
        documented.seconds _ time (digitsValue_nonneg num) made
      rw [num, Option.map_some, if_neg long]
      refine ⟨congrArg some instant.symm, fun other eq => ?_⟩
      cases eq
      exact ⟨utc, short⟩
  · rw [if_neg digits] at read ⊢
    cases parsed : times.rfc3339.parse (unquoteStatusSearchToken value) with
    | some time =>
      rw [parsed] at read
      obtain rfl := Option.some.inj read
      exact ⟨rfl, fun other eq => by cases eq⟩
    | none =>
      rw [parsed] at read
      obtain ⟨day, got, rfl⟩ := Option.map_eq_some_iff.mp read
      refine ⟨?_, fun other eq => by cases eq⟩
      dsimp only
      rw [got, Option.map_some]
      exact congrArg some (midnight_instant day).symm

/-- The year of a time that is read as RFC 3339 has four digits. -/
theorem fourDigits_of_read (documented : times.Documented)
    (read : readSearchDate times value = some (.rfc3339 time)) : time.clock.date.FourDigits := by
  rw [readSearchDate] at read
  split_ifs at read
  · obtain ⟨_, _, eq⟩ := Option.map_eq_some_iff.mp read
    cases eq
  · obtain ⟨_, _, eq⟩ := Option.map_eq_some_iff.mp read
    cases eq
  · cases parsed : times.rfc3339.parse (unquoteStatusSearchToken value) with
    | some got =>
      rw [parsed] at read
      cases read
      exact documented.rfc3339.fourDigits _ _ parsed
    | none =>
      rw [parsed] at read
      obtain ⟨_, _, eq⟩ := Option.map_eq_some_iff.mp read
      cases eq

theorem formatOk_eq (documented : times.Documented) (time : OffsetDateTime) :
    formatOk times time = if time.clock.date.FourDigits then some time.text else none := by
  rw [formatOk]
  split_ifs with short
  · rw [documented.rfc3339.format time short]
    rfl
  · exact documented.otherYears time short

/-- A text in UTC ends in `Z`. -/
theorem not_utcText_of_offset (offset : time.offset ≠ 0) (instant : Int) :
    ¬ UtcText instant time.text := by
  rintro ⟨utc, zulu, _, _, eq⟩
  have ends := congrArg (fun text : String => text.toList.getLast?) eq
  have letter : ∀ digit < 10, digitChar digit ≠ 'Z' := by decide
  simp only [OffsetDateTime.text, String.toList_ofList, offsetText, if_neg offset, if_pos zulu,
    digits, List.getLast?_append, List.getLast?_cons, List.getLast?_nil, Option.some_or,
    Option.getD_some, Option.getD_none, Option.some.injEq] at ends
  exact letter _ (Nat.mod_lt _ (by decide)) ends

theorem utcText_of_time (utc : time.offset = 0)
    (short : time.clock.date.FourDigits) : UtcText time.instant time.text :=
  ⟨time, utc, short, rfl, rfl⟩

theorem fourDigits_of_dayAfter {day next : CivilDate} (short : day.FourDigits)
    (post : dayAfter day = some next) :
    next.FourDigits ∧ next.dayNumber = day.dayNumber + 1 := by
  rw [dayAfter] at post
  split_ifs at post with inside
  obtain rfl := Option.some.inj post
  refine ⟨?_, CivilDate.dayNumber_ofDay _⟩
  have nonneg : 0 ≤ day.dayNumber := by
    have first : daysBeforeYear 0 ≤ daysBeforeYear day.year := daysBeforeYear_mono short.1
    have zero : daysBeforeYear 0 = 0 := by decide
    rw [CivilDate.dayNumber]
    omega
  have high : (day.dayNumber + 1) * 86400 < 315569520000 := by
    have last : daysBeforeYear 10000 = 3652425 := by decide
    rw [last] at inside
    exact Int.mul_lt_mul_of_pos_right inside (by decide)
  have low : 0 ≤ (day.dayNumber + 1) * 86400 := by omega
  have fits := CivilTime.fourDigits_ofSeconds low high
  rw [CivilTime.ofSeconds, Int.mul_ediv_cancel _ (by decide)] at fits
  exact fits

theorem normalize_of_read (documented : times.Documented)
    (read : readSearchDate times value = some date) : normalizeStatusSearchTimestamp times value
      = if date.start.clock.date.FourDigits then some date.start.text else none :=
  (texts_of_read read).1.trans (formatOk_eq documented date.start)

theorem storable_of_readWell (documented : times.Documented) (well : ReadWell times kind value) :
    Storable times kind value := by
  refine ⟨well.fits, fun time read => ?_, fun during day read => ?_⟩
  · by_contra offset
    have short := fourDigits_of_read documented read
    have held := normalize_of_read documented read
    rw [SearchDate.start, if_pos short] at held
    obtain ⟨instant, _, utc⟩ := well.utc time.text held
    exact not_utcText_of_offset offset instant utc
  · obtain ⟨start, finish, isStart, isFinish, _⟩ := well.day during day read
    rw [normalize_of_read documented read] at isStart
    rw [(texts_of_read read).2] at isFinish
    refine ⟨?_, ?_⟩
    · by_contra other
      rw [if_neg (show ¬ (SearchDate.date day).start.clock.date.FourDigits from other)] at isStart
      cases isStart
    · obtain ⟨time, isTime, _⟩ := Option.map_eq_some_iff.mp isFinish
      obtain ⟨next, isNext, _⟩ := Option.map_eq_some_iff.mp isTime
      rw [isNext]
      rfl

theorem readWell_of_storable (documented : times.Documented)
    (storable : Storable times kind value) :
    ReadWell times kind value := by
  obtain ⟨fits, utc, inside⟩ := storable
  refine ⟨fits, fun bound held => ?_, fun during day read => ?_, fun during noDay => ?_⟩
  · cases read : readSearchDate times value with
    | none =>
      rw [(texts_of_unread read).1] at held
      cases held
    | some date =>
      obtain ⟨denoted, ofUnix⟩ := start_of_read documented fits read
      rw [normalize_of_read documented read] at held
      split_ifs at held with short
      swap
      · cases held
      obtain rfl := Option.some.inj held
      have zulu : date.start.offset = 0 := by
        cases date with
        | unix time => exact (ofUnix time rfl).1
        | rfc3339 time => exact utc time read
        | date day => rfl
      exact ⟨_, denoted, utcText_of_time zulu short⟩
  · obtain ⟨short, isSome⟩ := inside during day read
    obtain ⟨next, isNext⟩ := Option.isSome_iff_exists.mp isSome
    obtain ⟨nextShort, num⟩ := fourDigits_of_dayAfter short isNext
    refine ⟨_, _, (normalize_of_read documented read).trans (if_pos short), ?_,
      midnight_instant day ▸ utcText_of_time rfl short,
      num ▸ midnight_instant next ▸ utcText_of_time rfl nextShort⟩
    rw [(texts_of_read read).2, SearchDate.finish, isNext, Option.map_some, Option.map_some,
      formatOk_eq documented, if_pos (show (startOfDay next).clock.date.FourDigits from nextShort)]
  · cases read : readSearchDate times value with
    | none => rw [(texts_of_unread read).1, (texts_of_unread read).2]
    | some date =>
      have ends : date.finish = some date.start := by
        cases date with
        | unix time | rfc3339 time => rfl
        | date day => exact absurd read (noDay day)
      rw [(texts_of_read read).1, (texts_of_read read).2, ends, Option.map_some]

/-! ## A whole query -/

theorem mem_earlier {left right : Option String} {bound : String}
    (kept : earlierStatusSearchBound left right = some bound) :
    left = some bound ∨ right = some bound := by
  cases left with
  | none => cases right <;> exact .inr kept
  | some left =>
    cases right with
    | none => exact .inl kept
    | some right =>
      rcases min_choice left right with least | least
      · exact .inl (least ▸ kept)
      · exact .inr (least ▸ kept)

theorem mem_later {left right : Option String} {bound : String}
    (kept : laterStatusSearchBound left right = some bound) :
    left = some bound ∨ right = some bound := by
  cases left with
  | none => cases right <;> exact .inr kept
  | some left =>
    cases right with
    | none => exact .inl kept
    | some right =>
      rcases max_choice left right with most | most
      · exact .inl (most ▸ kept)
      · exact .inr (most ▸ kept)

variable {parsed : ParsedStatusSearchQuery} {text finish : Option String} {negated : Bool}
  {bound : String}

theorem mem_bounds : bound ∈ parsed.bounds ↔ parsed.before = some bound
    ∨ parsed.after = some bound ∨ parsed.excludedBefore = some bound
    ∨ parsed.excludedAfter = some bound
    ∨ ∃ span ∈ parsed.excludedDuring, bound = span.1 ∨ bound = span.2 := by
  simp [ParsedStatusSearchQuery.bounds]

theorem bounds_before
    (held : bound ∈ (mergeStatusSearchBeforeFilter parsed text negated).bounds) :
    bound ∈ parsed.bounds ∨ text = some bound := by
  rw [mem_bounds] at held ⊢
  rw [mergeStatusSearchBeforeFilter] at held
  have := @mem_earlier parsed.before text bound
  have := @mem_later parsed.excludedBefore text bound
  split_ifs at held <;> grind

theorem bounds_after
    (held : bound ∈ (mergeStatusSearchAfterFilter parsed text negated).bounds) :
    bound ∈ parsed.bounds ∨ text = some bound := by
  rw [mem_bounds] at held ⊢
  rw [mergeStatusSearchAfterFilter] at held
  have := @mem_later parsed.after text bound
  have := @mem_earlier parsed.excludedAfter text bound
  split_ifs at held <;> grind

theorem bounds_during
    (held : bound ∈ (mergeStatusSearchDuringFilter parsed text finish negated).bounds) :
    bound ∈ parsed.bounds ∨ text = some bound ∨ finish = some bound := by
  rw [mem_bounds] at held ⊢
  have := @mem_later parsed.after text bound
  have := @mem_earlier parsed.before finish bound
  cases negated with
  | false =>
    unfold mergeStatusSearchDuringFilter at held
    grind
  | true =>
    cases text with
    | none => exact .inl held
    | some start =>
      cases finish with
      | none => exact .inl held
      | some last =>
        unfold mergeStatusSearchDuringFilter at held
        grind

theorem dateValue_of_keyword {token value : String}
    (got : keywordToken (splitStatusSearchNegation token).2 = some (keyword, value)) :
    dateValue token = keyword.dateKind.map (·, value) := by
  rw [dateValue, got]
  rfl

theorem readSearchToken_isSome_iff {state : ParsedStatusSearchQuery × List String}
    {token : String} : (readSearchToken times state token).isSome = true
      ↔ ∀ date ∈ dateValue token, date.1 = .during →
        (nextDayStatusSearchTimestamp times date.2).isSome = true := by
  unfold readSearchToken
  dsimp only
  cases got : keywordToken (splitStatusSearchNegation token).2 with
  | none => simp [dateValue, got]
  | some pair =>
    obtain ⟨keyword, value⟩ := pair
    rw [dateValue_of_keyword got]
    cases keyword <;> simp [applyStatusSearchPrefixedFilter, SearchKeyword.dateKind]

theorem bounds_of_other {post : ParsedStatusSearchQuery}
    (other : keyword.dateKind = none)
    (applied : applyStatusSearchPrefixedFilter times parsed keyword value negated = some post) :
    post.bounds = parsed.bounds := by
  unfold applyStatusSearchPrefixedFilter at applied
  cases keyword with
  | before | after | during => cases other
  | fromAccount =>
    obtain rfl := Option.some.inj applied
    unfold mergeStatusSearchFromFilter
    split_ifs <;> rfl
  | language =>
    obtain rfl := Option.some.inj applied
    cases normalizeStatusSearchLanguage value with
    | none => rfl
    | some language =>
      rw [Option.elim_some]
      unfold mergeStatusSearchLanguageFilter
      split_ifs <;> rfl
  | is =>
    obtain rfl := Option.some.inj applied
    unfold mergeStatusSearchIsFilter
    split <;> rfl
  | has =>
    obtain rfl := Option.some.inj applied
    unfold mergeStatusSearchHasFilter
    split <;> rfl
  | inScope =>
    obtain rfl := Option.some.inj applied
    unfold mergeStatusSearchInFilter
    split <;> rfl

/-- **A token** stores no other bound than those of its value. -/
theorem bounds_readSearchToken {state post : ParsedStatusSearchQuery × List String}
    {token : String} (read : readSearchToken times state token = some post)
    (held : bound ∈ post.1.bounds) : bound ∈ state.1.bounds
      ∨ ∃ date ∈ dateValue token, bound ∈ boundsOf times date.1 date.2 := by
  unfold readSearchToken at read
  dsimp only at read
  cases got : keywordToken (splitStatusSearchNegation token).2 with
  | none =>
    rw [got] at read
    obtain rfl := Option.some.inj read
    unfold collectStatusSearchTerm at held
    dsimp only at held
    split_ifs at held <;> exact .inl held
  | some pair =>
    obtain ⟨keyword, value⟩ := pair
    rw [got] at read
    obtain ⟨parsed, applied, rfl⟩ := Option.map_eq_some_iff.mp read
    rw [dateValue_of_keyword got]
    cases kind : keyword.dateKind with
    | none =>
      have eq := bounds_of_other kind applied
      exact .inl (eq ▸ held)
    | some kind =>
      unfold applyStatusSearchPrefixedFilter at applied
      cases keyword <;> cases kind
      · obtain rfl := Option.some.inj applied
        exact (bounds_before held).imp_right fun isBound =>
          ⟨_, rfl, List.mem_append_left _ (Option.mem_toList.mpr isBound)⟩
      · obtain rfl := Option.some.inj applied
        exact (bounds_after held).imp_right fun isBound =>
          ⟨_, rfl, List.mem_append_left _ (Option.mem_toList.mpr isBound)⟩
      · obtain ⟨finish, ends, rfl⟩ := Option.map_eq_some_iff.mp applied
        have merged : bound ∈ (mergeStatusSearchDuringFilter state.1
          (normalizeStatusSearchTimestamp times value) finish
          (splitStatusSearchNegation token).1).bounds := held
        refine (bounds_during merged).imp_right fun isBound => ⟨(.during, value), rfl, ?_⟩
        have both : boundsOf times .during value
            = (normalizeStatusSearchTimestamp times value).toList ++ finish.toList := by
          rw [boundsOf, ends, if_pos (Eq.refl DateKind.during), Option.getD_some]
        rw [both, List.mem_append]
        exact isBound.imp Option.mem_toList.mpr Option.mem_toList.mpr

/-- **All tokens** store no other bounds than those of their values. -/
theorem bounds_foldlM {tokens : List String} {state post : ParsedStatusSearchQuery × List String}
    (read : tokens.foldlM (readSearchToken times) state = some post)
    (held : bound ∈ post.1.bounds) : bound ∈ state.1.bounds
      ∨ ∃ date ∈ tokens.filterMap dateValue, bound ∈ boundsOf times date.1 date.2 := by
  induction tokens generalizing state with
  | nil =>
    obtain rfl := Option.some.inj read
    exact .inl held
  | cons token rest ih =>
    rw [List.foldlM_cons] at read
    obtain ⟨middle, first, later⟩ := Option.bind_eq_some_iff.mp read
    have members : ∀ date, date ∈ (token :: rest).filterMap dateValue
        ↔ date ∈ dateValue token ∨ date ∈ rest.filterMap dateValue := by simp
    rcases ih later with prior | ⟨date, mem, isBound⟩
    · refine (bounds_readSearchToken first prior).imp_right ?_
      rintro ⟨date, mem, isBound⟩
      exact ⟨date, (members date).mpr (.inl mem), isBound⟩
    · exact .inr ⟨date, (members date).mpr (.inr mem), isBound⟩

theorem foldlM_isSome_iff {tokens : List String} {state : ParsedStatusSearchQuery × List String} :
    (tokens.foldlM (readSearchToken times) state).isSome = true
      ↔ ∀ date ∈ tokens.filterMap dateValue, date.1 = .during →
        (nextDayStatusSearchTimestamp times date.2).isSome = true := by
  induction tokens generalizing state with
  | nil => simp
  | cons token rest ih =>
    have members : ∀ date, date ∈ (token :: rest).filterMap dateValue
        ↔ date ∈ dateValue token ∨ date ∈ rest.filterMap dateValue := by simp
    simp only [members, or_imp, forall_and]
    rw [← @readSearchToken_isSome_iff times state token, List.foldlM_cons]
    cases readSearchToken times state token with
    | none => simp
    | some middle => simpa using ih

/-- **A query is parsed and its dates are stored as UTC exactly if no date of it overflows or has
an offset and no `during:` has a day before the year 0 or the last one.** -/
theorem search_dates_iff (times : SearchTimes) (documented : times.Documented) (query : String) :
    DatesStored times query ↔ ∀ date ∈ dateValues query, Storable times date.1 date.2 := by
  constructor
  · rintro ⟨-, well⟩ date mem
    exact storable_of_readWell documented (well date mem)
  · intro storable
    have well := fun date mem =>
      readWell_of_storable documented (storable date mem)
    refine ⟨?_, well⟩
    have isSome := (@foldlM_isSome_iff times (tokenizeStatusSearchQuery query) ({}, [])).mpr <| by
      intro date mem during
      by_cases ofDay : ∃ day, readSearchDate times date.2 = some (.date day)
      · obtain ⟨day, read⟩ := ofDay
        obtain ⟨_, _, _, isFinish, _⟩ := (well date mem).day during day read
        rw [isFinish]
        rfl
      · rw [(well date mem).finish during (not_exists.mp ofDay)]
        rfl
    obtain ⟨state, read⟩ := Option.isSome_iff_exists.mp isSome
    refine ⟨setStatusSearchTextTerms state.1 state.2, ?_, fun bound held => ?_⟩
    · rw [parseStatusSearchQuery, read]
      rfl
    · rcases bounds_foldlM read (show bound ∈ state.1.bounds from held) with none | got
      · cases none
      · exact got

/-! ## The last days -/

def lastDay : CivilDate := .ofNumbers 9999 12 31 (by decide)

def dayBeforeLast : CivilDate := .ofNumbers 9999 12 30 (by decide)

/-- Times of which these two days can be read. -/
def lastTimes : SearchTimes where
  rfc3339 := Times.plainRfc3339
  fromUnixTimestamp := fun _ => none
  fromUnixTimestampNanos := fun _ => none
  parseDate := fun text =>
    if text = "9999-12-31" then some lastDay
    else if text = "9999-12-30" then some dayBeforeLast
    else none

theorem documented_lastTimes : lastTimes.Documented where
  rfc3339 := Times.lawful_plainRfc3339
  otherYears _ other := congrArg Except.toOption (if_neg other)
  seconds _ _ _ made := by cases made
  nanos _ _ _ made := by cases made

theorem search_dates_last : DatesStored lastTimes "during:9999-12-30" := by
  apply (search_dates_iff lastTimes documented_lastTimes _).mpr
  have values : dateValues "during:9999-12-30" = [(.during, "9999-12-30")] := by decide +kernel
  have plain : unquoteStatusSearchToken "9999-12-30" = "9999-12-30" := by decide +kernel
  have noTime : lastTimes.rfc3339.parse "9999-12-30" = none :=
    Option.isNone_iff_eq_none.mp (by decide +kernel)
  have read : readSearchDate lastTimes "9999-12-30" = some (.date dayBeforeLast) := by
    unfold readSearchDate
    rw [plain]
    dsimp only
    rw [noTime]
    rfl
  rw [values, List.forall_mem_singleton]
  refine ⟨fun overflows => ?_, fun time isTime => ?_, fun _ day isDay => ?_⟩
  · have digits := overflows.1
    rw [plain] at digits
    revert digits
    decide
  · rw [read] at isTime
    cases isTime
  · rw [read] at isDay
    cases isDay
    decide +kernel

/-- There is no day after the last one. -/
theorem search_dates_panic : ¬ DatesStored lastTimes "during:9999-12-31" := by
  rintro ⟨⟨parsed, parse, -⟩, -⟩
  have panics : parseStatusSearchQuery lastTimes "during:9999-12-31" = none := by decide +kernel
  rw [panics] at parse
  cases parse

end StoredBounds

end Cfwdon.Search
