import Cfwdon.Search.StatusSearch

/-!
# The dates of a parsed query

Each date token of a query stands for a constraint on the time of a status.  The parser
turns the dates into RFC 3339 texts and keeps one text of each kind: of the dates that
bound from above the earliest text, of those that bound from below the latest.  A negated
date is kept in the other direction.
-/

namespace Cfwdon.Search

open Library

inductive DateKind where
  | before
  | after
  | during
  deriving DecidableEq

structure DateToken where
  kind : DateKind
  negated : Bool
  date : SearchDate

variable (times : SearchTimes)

def SearchKeyword.dateKind : SearchKeyword → Option DateKind
  | .before => some .before
  | .after => some .after
  | .during => some .during
  | _ => none

/-- The date token that a token of a query is, if its value can be read. -/
def dateToken (token : String) : Option DateToken :=
  let (negated, token) := splitStatusSearchNegation token
  (keywordToken token).bind fun (keyword, value) =>
    keyword.dateKind.bind fun kind =>
      (readSearchDate times value).map (⟨kind, negated, ·⟩)

def dateTokens (query : String) : List DateToken :=
  (tokenizeStatusSearchQuery query).filterMap (dateToken times)

namespace DateToken

/-- What a token says of a time, before it is negated. -/
def Covers (token : DateToken) (instant : Int) : Prop :=
  match token.kind with
  | .before => instant < token.date.start.instant
  | .after => token.date.start.instant < instant
  | .during =>
    token.date.start.instant ≤ instant ∧ ∀ finish ∈ token.date.finish, instant < finish.instant

/-- The time satisfies the token. -/
def Holds (token : DateToken) (instant : Int) : Prop :=
  if token.negated then ¬ token.Covers instant else token.Covers instant

def startText (token : DateToken) : Option String :=
  formatOk times token.date.start

def finishText (token : DateToken) : Option String :=
  token.date.finish.bind (formatOk times)

/-- The text that bounds from above. -/
def upperText (token : DateToken) : Option String :=
  match token.kind with
  | .before => token.startText times
  | .after => none
  | .during => token.finishText times

/-- The text that bounds from below. -/
def lowerText (token : DateToken) : Option String :=
  match token.kind with
  | .before => none
  | .after => token.startText times
  | .during => token.startText times

def CoversText (token : DateToken) (timestamp : String) : Prop :=
  match token.kind with
  | .before => ∃ start ∈ token.startText times, timestamp < start
  | .after => ∃ start ∈ token.startText times, start < timestamp
  | .during => ∃ start ∈ token.startText times, ∃ finish ∈ token.finishText times,
      start ≤ timestamp ∧ timestamp < finish

end DateToken

/-! ## Kept bounds -/

section Bounds

variable {left right : Option String} {text : String}

theorem forall_earlier :
    (∀ bound ∈ earlierStatusSearchBound left right, text ≤ bound)
      ↔ (∀ bound ∈ left, text ≤ bound) ∧ ∀ bound ∈ right, text ≤ bound := by
  cases left with
  | none | some left => cases right <;> simp [earlierStatusSearchBound]

theorem forall_later :
    (∀ bound ∈ laterStatusSearchBound left right, bound ≤ text)
      ↔ (∀ bound ∈ left, bound ≤ text) ∧ ∀ bound ∈ right, bound ≤ text := by
  cases left with
  | none | some left => cases right <;> simp [laterStatusSearchBound]

theorem earlier_none (bound : Option String) : earlierStatusSearchBound bound none = bound := by
  cases bound <;> rfl

theorem later_none (bound : Option String) : laterStatusSearchBound bound none = bound := by
  cases bound <;> rfl

end Bounds

/-! ## What dates say -/

/-- What the dates of a query are asked about a text. -/
inductive DateClause where
  | upper
  | lower
  | notBefore
  | notAfter
  | notDuring

def ParsedStatusSearchQuery.Tells (parsed : ParsedStatusSearchQuery) (text : String) :
    DateClause → Prop
  | .upper => ∀ bound ∈ parsed.before, text ≤ bound
  | .lower => ∀ bound ∈ parsed.after, bound ≤ text
  | .notBefore => ∀ bound ∈ parsed.excludedBefore, bound ≤ text
  | .notAfter => ∀ bound ∈ parsed.excludedAfter, text ≤ bound
  | .notDuring => ∀ span ∈ parsed.excludedDuring, span.1 ≤ text → span.2 ≤ text

def DateToken.Tells (token : DateToken) (text : String) : DateClause → Prop
  | .upper => token.negated = false → ∀ bound ∈ token.upperText times, text ≤ bound
  | .lower => token.negated = false → ∀ bound ∈ token.lowerText times, bound ≤ text
  | .notBefore => token.negated = true → token.kind = .before →
      ∀ start ∈ token.startText times, start ≤ text
  | .notAfter => token.negated = true → token.kind = .after →
      ∀ start ∈ token.startText times, text ≤ start
  | .notDuring => token.negated = true → token.kind = .during →
      ∀ start ∈ token.startText times, ∀ finish ∈ token.finishText times,
        start ≤ text → finish ≤ text

def DatesOf (tokens : List DateToken) (parsed : ParsedStatusSearchQuery) : Prop :=
  ∀ text clause, parsed.Tells text clause ↔ ∀ token ∈ tokens, token.Tells times text clause

variable {token : String}

section Merging

variable {times} {parsed : ParsedStatusSearchQuery} {date : SearchDate} {negated : Bool}
  {text : String} {clause : DateClause}

theorem tells_before :
    (mergeStatusSearchBeforeFilter parsed (formatOk times date.start) negated).Tells text clause
      ↔ parsed.Tells text clause ∧ DateToken.Tells times ⟨.before, negated, date⟩ text clause := by
  cases negated with
  | false =>
    cases clause with
    | upper =>
      show (∀ bound ∈ earlierStatusSearchBound _ _, _) ↔ _
      rw [forall_earlier]
      simp [ParsedStatusSearchQuery.Tells, DateToken.Tells, DateToken.upperText,
        DateToken.startText]
    | lower =>
      exact (and_iff_left fun _ bound none => by cases none).symm
    | notBefore | notAfter | notDuring => exact (and_iff_left nofun).symm
  | true =>
    cases clause with
    | upper | lower | notAfter | notDuring => exact (and_iff_left nofun).symm
    | notBefore =>
      show (∀ bound ∈ laterStatusSearchBound _ _, _) ↔ _
      rw [forall_later]
      simp [ParsedStatusSearchQuery.Tells, DateToken.Tells, DateToken.startText]

theorem tells_after :
    (mergeStatusSearchAfterFilter parsed (formatOk times date.start) negated).Tells text clause
      ↔ parsed.Tells text clause ∧ DateToken.Tells times ⟨.after, negated, date⟩ text clause := by
  cases negated with
  | false =>
    cases clause with
    | upper =>
      exact (and_iff_left fun _ bound none => by cases none).symm
    | lower =>
      show (∀ bound ∈ laterStatusSearchBound _ _, _) ↔ _
      rw [forall_later]
      simp [ParsedStatusSearchQuery.Tells, DateToken.Tells, DateToken.lowerText,
        DateToken.startText]
    | notBefore | notAfter | notDuring => exact (and_iff_left nofun).symm
  | true =>
    cases clause with
    | upper | lower | notBefore | notDuring => exact (and_iff_left nofun).symm
    | notAfter =>
      show (∀ bound ∈ earlierStatusSearchBound _ _, _) ↔ _
      rw [forall_earlier]
      simp [ParsedStatusSearchQuery.Tells, DateToken.Tells, DateToken.startText]

theorem tells_during {finish : OffsetDateTime} (ends : date.finish = some finish) :
    (mergeStatusSearchDuringFilter parsed (formatOk times date.start) (formatOk times finish)
        negated).Tells text clause
      ↔ parsed.Tells text clause ∧ DateToken.Tells times ⟨.during, negated, date⟩ text clause := by
  cases negated with
  | false =>
    cases clause with
    | upper =>
      show (∀ bound ∈ earlierStatusSearchBound _ _, _) ↔ _
      rw [forall_earlier]
      simp [ParsedStatusSearchQuery.Tells, DateToken.Tells, DateToken.upperText,
        DateToken.finishText, ends]
    | lower =>
      show (∀ bound ∈ laterStatusSearchBound _ _, _) ↔ _
      rw [forall_later]
      simp [ParsedStatusSearchQuery.Tells, DateToken.Tells, DateToken.lowerText,
        DateToken.startText]
    | notBefore | notAfter | notDuring => exact (and_iff_left nofun).symm
  | true =>
    cases starts : formatOk times date.start with
    | none =>
      cases clause with
      | notDuring => simp [DateToken.Tells, DateToken.startText, starts,
          mergeStatusSearchDuringFilter]
      | _ => exact (and_iff_left nofun).symm
    | some startText =>
      cases formatted : formatOk times finish with
      | none =>
        cases clause with
        | notDuring => simp [DateToken.Tells, DateToken.finishText, ends, formatted,
            mergeStatusSearchDuringFilter]
        | _ => exact (and_iff_left nofun).symm
      | some finishText =>
        cases clause with
        | notDuring =>
          simp [ParsedStatusSearchQuery.Tells, DateToken.Tells, DateToken.startText,
            DateToken.finishText, starts, ends, formatted,
            mergeStatusSearchDuringFilter, or_imp, forall_and]
        | _ => exact (and_iff_left nofun).symm

theorem tells_congr {parsed' : ParsedStatusSearchQuery}
    (pre : parsed'.before = parsed.before) (post : parsed'.after = parsed.after)
    (excludedBefore : parsed'.excludedBefore = parsed.excludedBefore)
    (excludedAfter : parsed'.excludedAfter = parsed.excludedAfter)
    (excludedDuring : parsed'.excludedDuring = parsed.excludedDuring) :
    parsed'.Tells text clause ↔ parsed.Tells text clause := by
  cases clause with
  | upper => rw [ParsedStatusSearchQuery.Tells, pre]; rfl
  | lower => rw [ParsedStatusSearchQuery.Tells, post]; rfl
  | notBefore => rw [ParsedStatusSearchQuery.Tells, excludedBefore]; rfl
  | notAfter => rw [ParsedStatusSearchQuery.Tells, excludedAfter]; rfl
  | notDuring => rw [ParsedStatusSearchQuery.Tells, excludedDuring]; rfl

variable {value : String}

theorem tells_from :
    (mergeStatusSearchFromFilter parsed value negated).Tells text clause
      ↔ parsed.Tells text clause := by
  cases negated <;> exact tells_congr rfl rfl rfl rfl rfl

theorem tells_language :
    (mergeStatusSearchLanguageFilter parsed value negated).Tells text clause
      ↔ parsed.Tells text clause := by
  cases negated <;> exact tells_congr rfl rfl rfl rfl rfl

theorem tells_is :
    (mergeStatusSearchIsFilter parsed value negated).Tells text clause
      ↔ parsed.Tells text clause := by
  unfold mergeStatusSearchIsFilter
  split <;> exact tells_congr rfl rfl rfl rfl rfl

theorem tells_has :
    (mergeStatusSearchHasFilter parsed value negated).Tells text clause
      ↔ parsed.Tells text clause := by
  unfold mergeStatusSearchHasFilter
  split <;> exact tells_congr rfl rfl rfl rfl rfl

theorem tells_in :
    (mergeStatusSearchInFilter parsed value negated).Tells text clause
      ↔ parsed.Tells text clause := by
  unfold mergeStatusSearchInFilter
  split <;> exact tells_congr rfl rfl rfl rfl rfl

theorem tells_before_none :
    (mergeStatusSearchBeforeFilter parsed none negated).Tells text clause
      ↔ parsed.Tells text clause := by
  cases negated with
  | false => exact tells_congr (earlier_none _) rfl rfl rfl rfl
  | true => exact tells_congr rfl rfl (later_none _) rfl rfl

theorem tells_after_none :
    (mergeStatusSearchAfterFilter parsed none negated).Tells text clause
      ↔ parsed.Tells text clause := by
  cases negated with
  | false => exact tells_congr rfl (later_none _) rfl rfl rfl
  | true => exact tells_congr rfl rfl rfl (earlier_none _) rfl

theorem tells_during_none :
    (mergeStatusSearchDuringFilter parsed none none negated).Tells text clause
      ↔ parsed.Tells text clause := by
  cases negated with
  | false => exact tells_congr (earlier_none _) (later_none _) rfl rfl rfl
  | true => exact Iff.rfl

theorem tells_collect {terms : List String} :
    (collectStatusSearchTerm parsed terms token negated).1.Tells text clause
      ↔ parsed.Tells text clause := by
  unfold collectStatusSearchTerm
  dsimp only
  split_ifs <;> exact tells_congr rfl rfl rfl rfl rfl

end Merging

/-! ## Reading -/

variable {parsed : ParsedStatusSearchQuery} {keyword : SearchKeyword}

section Reading

variable {times} {text : String} {clause : DateClause}
  {state state' : ParsedStatusSearchQuery × List String}

variable {value : String}

theorem dateToken_of_keyword
    (got : keywordToken (splitStatusSearchNegation token).2 = some (keyword, value)) :
    dateToken times token = keyword.dateKind.bind fun kind =>
      (readSearchDate times value).map (⟨kind, (splitStatusSearchNegation token).1, ·⟩) := by
  unfold dateToken
  dsimp only
  rw [got]
  rfl

theorem texts_of_unread (read : readSearchDate times value = none) :
    normalizeStatusSearchTimestamp times value = none
      ∧ nextDayStatusSearchTimestamp times value = some none := by
  unfold normalizeStatusSearchTimestamp nextDayStatusSearchTimestamp
  rw [read]
  exact ⟨rfl, rfl⟩

theorem texts_of_read {date : SearchDate} (read : readSearchDate times value = some date) :
    normalizeStatusSearchTimestamp times value = formatOk times date.start
      ∧ nextDayStatusSearchTimestamp times value = date.finish.map (formatOk times) := by
  unfold normalizeStatusSearchTimestamp nextDayStatusSearchTimestamp
  rw [read]
  exact ⟨rfl, rfl⟩

theorem tells_applyFilter {parsed parsed' : ParsedStatusSearchQuery}
    (got : keywordToken (splitStatusSearchNegation token).2 = some (keyword, value))
    (applied : applyStatusSearchPrefixedFilter times parsed keyword value
      (splitStatusSearchNegation token).1 = some parsed') :
    parsed'.Tells text clause
      ↔ parsed.Tells text clause ∧ ∀ date ∈ dateToken times token, date.Tells times text clause := by
  rw [dateToken_of_keyword got]
  unfold applyStatusSearchPrefixedFilter at applied
  cases keyword with
  | fromAccount =>
    dsimp only at applied
    rw [Option.some_inj] at applied
    subst applied
    split_ifs
    · simp [SearchKeyword.dateKind]
    · simp [SearchKeyword.dateKind, tells_from]
  | before =>
    dsimp only at applied
    rw [Option.some_inj] at applied
    subst applied
    cases read : readSearchDate times value with
    | none =>
      rw [(texts_of_unread read).1, tells_before_none]
      exact (and_iff_left fun date none => by cases none).symm
    | some date =>
      rw [(texts_of_read read).1, tells_before]
      exact and_congr_right fun _ => by simp [SearchKeyword.dateKind]
  | after =>
    dsimp only at applied
    rw [Option.some_inj] at applied
    subst applied
    cases read : readSearchDate times value with
    | none =>
      rw [(texts_of_unread read).1, tells_after_none]
      exact (and_iff_left fun date none => by cases none).symm
    | some date =>
      rw [(texts_of_read read).1, tells_after]
      exact and_congr_right fun _ => by simp [SearchKeyword.dateKind]
  | during =>
    dsimp only at applied
    obtain ⟨finish, ends, eq⟩ := Option.map_eq_some_iff.mp applied
    subst eq
    cases read : readSearchDate times value with
    | none =>
      rw [(texts_of_unread read).2, Option.some_inj] at ends
      rw [(texts_of_unread read).1, ← ends, tells_during_none]
      exact (and_iff_left fun date none => by cases none).symm
    | some date =>
      rw [(texts_of_read read).2] at ends
      obtain ⟨time, isFinish, eq⟩ := Option.map_eq_some_iff.mp ends
      rw [(texts_of_read read).1, ← eq, tells_during isFinish]
      exact and_congr_right fun _ => by simp [SearchKeyword.dateKind]
  | language =>
    dsimp only at applied
    rw [Option.some_inj] at applied
    subst applied
    cases normalizeStatusSearchLanguage value with
    | none => simp [SearchKeyword.dateKind]
    | some language => simp [SearchKeyword.dateKind, tells_language]
  | is =>
    dsimp only at applied
    rw [Option.some_inj] at applied
    subst applied
    simp [SearchKeyword.dateKind, tells_is]
  | has =>
    dsimp only at applied
    rw [Option.some_inj] at applied
    subst applied
    simp [SearchKeyword.dateKind, tells_has]
  | inScope =>
    dsimp only at applied
    rw [Option.some_inj] at applied
    subst applied
    simp [SearchKeyword.dateKind, tells_in]

/-- **A token that is read** adds what its date says. -/
theorem tells_readSearchToken
    (read : readSearchToken times state token = some state') :
    state'.1.Tells text clause
      ↔ state.1.Tells text clause
        ∧ ∀ date ∈ dateToken times token, date.Tells times text clause := by
  unfold readSearchToken at read
  dsimp only at read
  cases got : keywordToken (splitStatusSearchNegation token).2 with
  | none =>
    rw [got] at read
    dsimp only at read
    rw [Option.some_inj] at read
    subst read
    have noDate : dateToken times token = none := by
      unfold dateToken
      dsimp only
      rw [got]
      rfl
    rw [noDate, tells_collect]
    simp
  | some pair =>
    rw [got] at read
    obtain ⟨parsed, applied, rfl⟩ := Option.map_eq_some_iff.mp read
    exact tells_applyFilter got applied

/-- **All tokens together** add what their dates say. -/
theorem tells_foldlM {tokens : List String}
    (read : tokens.foldlM (readSearchToken times) state = some state') :
    state'.1.Tells text clause
      ↔ state.1.Tells text clause
        ∧ ∀ date ∈ tokens.filterMap (dateToken times), date.Tells times text clause := by
  induction tokens generalizing state with
  | nil =>
    obtain rfl := Option.some.inj read
    simp
  | cons token rest ih =>
    rw [List.foldlM_cons] at read
    obtain ⟨middle, first, later⟩ := Option.bind_eq_some_iff.mp read
    rw [ih later, tells_readSearchToken first]
    simp [or_imp, forall_and, and_assoc]

/-- **A parsed query** says of a text what its date tokens say. -/
theorem datesOf_parse {query : String}
    (parse : parseStatusSearchQuery times query = some parsed) :
    DatesOf times (dateTokens times query) parsed := by
  unfold parseStatusSearchQuery at parse
  obtain ⟨state, read, eq⟩ := Option.map_eq_some_iff.mp parse
  subst eq
  intro text clause
  have eq : (setStatusSearchTextTerms state.1 state.2).Tells text clause
      ↔ state.1.Tells text clause := by
    unfold setStatusSearchTextTerms
    refine tells_congr ?_ ?_ ?_ ?_ ?_ <;> rfl
  have nothing : ParsedStatusSearchQuery.Tells {} text clause := by
    cases clause <;> simp [ParsedStatusSearchQuery.Tells]
  rw [eq, tells_foldlM read, dateTokens]
  exact and_iff_right nothing

theorem statusMatchesSearchTimestamp_iff {tokens : List DateToken}
    (dates : DatesOf times tokens parsed) {timestamp : String} :
    statusMatchesSearchTimestamp parsed timestamp = true
      ↔ ∀ token ∈ tokens, token.negated = true → ¬ token.CoversText times timestamp := by
  have parts : statusMatchesSearchTimestamp parsed timestamp = true
      ↔ parsed.Tells timestamp .notBefore ∧ parsed.Tells timestamp .notAfter
        ∧ parsed.Tells timestamp .notDuring := by
    unfold statusMatchesSearchTimestamp ParsedStatusSearchQuery.Tells
    simp only [Bool.and_eq_true, Bool.not_eq_true', Option.any_eq_false, List.any_eq_false,
      decide_eq_false_iff_not, decide_eq_true_eq, not_lt, not_and, Prod.forall, and_assoc,
      Option.mem_def]
  rw [parts, dates, dates, dates, ← forall₂_and, ← forall₂_and]
  refine forall₂_congr fun token _ => ?_
  unfold DateToken.Tells DateToken.CoversText
  cases token.kind <;> simp only [reduceCtorEq, forall_const, false_imp_iff, implies_true,
    true_and, and_true, not_exists, not_and, not_lt, Option.mem_def]

end Reading

end Cfwdon.Search
