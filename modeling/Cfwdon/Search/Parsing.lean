import Cfwdon.Library.Integers
import Cfwdon.Library.TimeText

/-!
# The syntax of a status search

A query is cut into tokens at the whitespace outside of quotes.  A token with a known
keyword sets a filter, and any other one is a text term; a minus sign turns either round.
The dates of `before:`, `after:` and `during:` are kept as RFC 3339 texts, and of several
dates of one kind the narrowest text is kept.

Adding a day to the last date of the calendar panics, and then there is no parsed query.
-/

namespace Cfwdon.Search

open Library

structure ParsedStatusSearchQuery where
  textQuery : String := ""
  includedTextTerms : List String := []
  excludedTextTerms : List String := []
  fromAccount : Option String := none
  notFrom : Option String := none
  before : Option String := none
  after : Option String := none
  excludedBefore : Option String := none
  excludedAfter : Option String := none
  excludedDuring : List (String × String) := []
  language : Option String := none
  notLanguage : Option String := none
  isReply : Option Bool := none
  isSensitive : Option Bool := none
  isBoost : Option Bool := none
  isQuote : Option Bool := none
  hasMedia : Option Bool := none
  hasPoll : Option Bool := none
  hasEmbed : Option Bool := none
  inPublic : Option Bool := none
  inLibrary : Option Bool := none
  unsatisfiable : Bool := false
  deriving DecidableEq

/-- `merge_exact_filter` and `merge_boolean_filter`: the first value stays, and whether
the next one differs from it. -/
def mergeFilter {Value : Type} [DecidableEq Value] (current : Option Value) (next : Value) :
    Option Value × Bool :=
  match current with
  | some existing => (some existing, existing ≠ next)
  | none => (some next, false)

/-! ## Tokens -/

def searchQuoteEquivalentCharacters : List Char :=
  "“”„«»「」『』《》".toList

def normalizeSearchQueryInput (query : String) : String :=
  String.ofList (query.toList.map fun c =>
    if searchQuoteEquivalentCharacters.contains c then '"' else c)

/-- What `tokenize_status_search_query` keeps between two characters. -/
structure Tokenizer where
  tokens : List String
  current : List Char
  inQuotes : Bool
  escaped : Bool

/-- One character of `tokenize_status_search_query`. -/
def Tokenizer.read (state : Tokenizer) (c : Char) : Tokenizer :=
  if state.escaped then
    { state with current := state.current ++ ['\\', c], escaped := false }
  else if c = '\\' then
    { state with escaped := true }
  else if c = '"' then
    { state with inQuotes := !state.inQuotes, current := state.current ++ [c] }
  else if isWhitespace c && !state.inQuotes then
    if state.current.isEmpty then state
    else { state with tokens := state.tokens ++ [String.ofList state.current], current := [] }
  else
    { state with current := state.current ++ [c] }

def tokenizeStatusSearchQuery (query : String) : List String :=
  let state := (normalizeSearchQueryInput query).toList.foldl Tokenizer.read ⟨[], [], false, false⟩
  let current := if state.escaped then state.current ++ ['\\'] else state.current
  if current.isEmpty then state.tokens else state.tokens ++ [String.ofList current]

def statusSearchTokenHasUnescapedTrailingQuote (value : String) : Bool :=
  endsWith value "\"" && ((value.toList.reverse.drop 1).takeWhile (· == '\\')).length % 2 == 0

/-- The characters of `unescape_status_search_token`; whether the one before was a
backslash. -/
def unescapeCharacters : Bool → List Char → List Char
  | false, [] => []
  | true, [] => ['\\']
  | true, c :: rest =>
    if c = '"' ∨ c = '\\' ∨ isWhitespace c = true then c :: unescapeCharacters false rest
    else '\\' :: c :: unescapeCharacters false rest
  | false, c :: rest =>
    if c = '\\' then unescapeCharacters true rest else c :: unescapeCharacters false rest

def unescapeStatusSearchToken (value : String) : String :=
  String.ofList (unescapeCharacters false value.toList)

def unquoteStatusSearchToken (value : String) : String :=
  let value := trim value
  let value :=
    if 2 ≤ value.length ∧ startsWith value "\"" = true
        ∧ statusSearchTokenHasUnescapedTrailingQuote value = true then
      String.ofList (value.toList.drop 1).dropLast
    else value
  trim (String.ofList ((unescapeStatusSearchToken value).toList.dropWhile (· == '@')))

def fallbackStatusSearchTerm (token : String) : String :=
  match splitOnce token ':' with
  | some (keyword, value) =>
    let keyword := toAsciiLowercase (trim keyword)
    let value := unquoteStatusSearchToken value
    if keyword ≠ "" ∧ value ≠ "" then keyword ++ " " ++ value
    else unquoteStatusSearchToken token
  | none => unquoteStatusSearchToken token

def splitStatusSearchNegation (token : String) : Bool × String :=
  match stripPrefix token "-" with
  | some value => (true, value)
  | none =>
    match stripPrefix token "+" with
    | some value => (false, value)
    | none => (false, token)

def normalizeStatusSearchLanguage (value : String) : Option String :=
  let normalized := toAsciiLowercase (unquoteStatusSearchToken value)
  if normalized = "" then none
  else some (String.ofList (normalized.toList.takeWhile fun c => c != '-' && c != '_'))

/-! ## Dates -/

structure SearchTimes where
  rfc3339 : Rfc3339
  /-- `OffsetDateTime::from_unix_timestamp`. -/
  fromUnixTimestamp : Int → Option OffsetDateTime
  /-- `OffsetDateTime::from_unix_timestamp_nanos`. -/
  fromUnixTimestampNanos : Int → Option OffsetDateTime
  /-- `Date::parse` with `[year]-[month]-[day]`. -/
  parseDate : String → Option CivilDate

def parseI128Digits (text : String) : Option Int :=
  (digitsValue text.toList).filter fun value => decide (value < 2 ^ 127)

/-- `with_hms(0, 0, 0)` and `assume_utc`. -/
def startOfDay (date : CivilDate) : OffsetDateTime :=
  .utc ⟨date, .midnight⟩

def dayAfter (date : CivilDate) : Option CivilDate :=
  if date.dayNumber + 1 < daysBeforeYear 10000 then some (CivilDate.ofDay (date.dayNumber + 1))
  else none

variable (times : SearchTimes)

/-- How a date of a query is read: digits as a Unix time, in milliseconds from 13 digits
on, and anything else as an RFC 3339 time or as a date. -/
inductive SearchDate where
  | unix (time : OffsetDateTime)
  | rfc3339 (time : OffsetDateTime)
  | date (day : CivilDate)

/-- The reading that `normalize_status_search_timestamp` and
`next_day_status_search_timestamp` share.  The product of milliseconds wraps. -/
def readSearchDate (value : String) : Option SearchDate :=
  let value := unquoteStatusSearchToken value
  if value = "" then none
  else if value.toList.all Char.isDigit then
    if 13 ≤ value.length then
      ((parseI128Digits value).bind fun millis =>
        times.fromUnixTimestampNanos (Int.bmod (millis * 1000000) (2 ^ 128))).map .unix
    else ((parseI64 value).bind times.fromUnixTimestamp).map .unix
  else
    match times.rfc3339.parse value with
    | some time => some (.rfc3339 time)
    | none => (times.parseDate value).map .date

def formatOk (time : OffsetDateTime) : Option String :=
  (times.rfc3339.format time).toOption

def SearchDate.start : SearchDate → OffsetDateTime
  | .unix time => time
  | .rfc3339 time => time
  | .date day => startOfDay day

/-- The time a date ends: a time of the day at once, and a day with the next one. -/
def SearchDate.finish : SearchDate → Option OffsetDateTime
  | .unix time => some time
  | .rfc3339 time => some time
  | .date day => (dayAfter day).map startOfDay

def normalizeStatusSearchTimestamp (value : String) : Option String :=
  (readSearchDate times value).bind fun date => formatOk times date.start

/-- Panics after the last date. -/
def nextDayStatusSearchTimestamp (value : String) : Option (Option String) :=
  match readSearchDate times value with
  | none => some none
  | some date => date.finish.map (formatOk times)

def earlierStatusSearchBound (left right : Option String) : Option String :=
  match left, right with
  | some left, some right => some (min left right)
  | some left, none => some left
  | none, some right => some right
  | none, none => none

def laterStatusSearchBound (left right : Option String) : Option String :=
  match left, right with
  | some left, some right => some (max left right)
  | some left, none => some left
  | none, some right => some right
  | none, none => none

/-! ## Filters -/

def mergeStatusSearchFromFilter (parsed : ParsedStatusSearchQuery) (value : String)
    (negated : Bool) : ParsedStatusSearchQuery :=
  if negated then
    let (notFrom, differs) := mergeFilter parsed.notFrom value
    { parsed with
      notFrom := notFrom
      unsatisfiable := parsed.unsatisfiable || differs || parsed.fromAccount == some value }
  else
    let (fromAccount, differs) := mergeFilter parsed.fromAccount value
    { parsed with
      fromAccount := fromAccount
      unsatisfiable := parsed.unsatisfiable || differs || parsed.notFrom == some value }

def mergeStatusSearchLanguageFilter (parsed : ParsedStatusSearchQuery) (value : String)
    (negated : Bool) : ParsedStatusSearchQuery :=
  if negated then
    let (notLanguage, differs) := mergeFilter parsed.notLanguage value
    { parsed with
      notLanguage := notLanguage
      unsatisfiable := parsed.unsatisfiable || differs || parsed.language == some value }
  else
    let (language, differs) := mergeFilter parsed.language value
    { parsed with
      language := language
      unsatisfiable := parsed.unsatisfiable || differs || parsed.notLanguage == some value }

def mergeStatusSearchBeforeFilter (parsed : ParsedStatusSearchQuery) (value : Option String)
    (negated : Bool) : ParsedStatusSearchQuery :=
  if negated then
    { parsed with excludedBefore := laterStatusSearchBound parsed.excludedBefore value }
  else { parsed with before := earlierStatusSearchBound parsed.before value }

def mergeStatusSearchAfterFilter (parsed : ParsedStatusSearchQuery) (value : Option String)
    (negated : Bool) : ParsedStatusSearchQuery :=
  if negated then
    { parsed with excludedAfter := earlierStatusSearchBound parsed.excludedAfter value }
  else { parsed with after := laterStatusSearchBound parsed.after value }

def mergeStatusSearchDuringFilter (parsed : ParsedStatusSearchQuery) (start finish : Option String)
    (negated : Bool) : ParsedStatusSearchQuery :=
  if negated then
    match start, finish with
    | some start, some finish =>
      { parsed with excludedDuring := parsed.excludedDuring ++ [(start, finish)] }
    | _, _ => parsed
  else
    { parsed with
      after := laterStatusSearchBound parsed.after start
      before := earlierStatusSearchBound parsed.before finish }

def mergeStatusSearchIsFilter (parsed : ParsedStatusSearchQuery) (value : String)
    (negated : Bool) : ParsedStatusSearchQuery :=
  match toAsciiLowercase (unquoteStatusSearchToken value) with
  | "reply" =>
    let (merged, differs) := mergeFilter parsed.isReply (!negated)
    { parsed with isReply := merged, unsatisfiable := parsed.unsatisfiable || differs }
  | "sensitive" =>
    let (merged, differs) := mergeFilter parsed.isSensitive (!negated)
    { parsed with isSensitive := merged, unsatisfiable := parsed.unsatisfiable || differs }
  | "boost" | "reblog" =>
    let (merged, differs) := mergeFilter parsed.isBoost (!negated)
    { parsed with isBoost := merged, unsatisfiable := parsed.unsatisfiable || differs }
  | "quote" =>
    let (merged, differs) := mergeFilter parsed.isQuote (!negated)
    { parsed with isQuote := merged, unsatisfiable := parsed.unsatisfiable || differs }
  | _ => parsed

def mergeStatusSearchHasFilter (parsed : ParsedStatusSearchQuery) (value : String)
    (negated : Bool) : ParsedStatusSearchQuery :=
  match toAsciiLowercase (unquoteStatusSearchToken value) with
  | "media" =>
    let (merged, differs) := mergeFilter parsed.hasMedia (!negated)
    { parsed with hasMedia := merged, unsatisfiable := parsed.unsatisfiable || differs }
  | "poll" =>
    let (merged, differs) := mergeFilter parsed.hasPoll (!negated)
    { parsed with hasPoll := merged, unsatisfiable := parsed.unsatisfiable || differs }
  | "embed" | "link" | "preview" =>
    let (merged, differs) := mergeFilter parsed.hasEmbed (!negated)
    { parsed with hasEmbed := merged, unsatisfiable := parsed.unsatisfiable || differs }
  | _ => parsed

def mergeStatusSearchInFilter (parsed : ParsedStatusSearchQuery) (value : String)
    (negated : Bool) : ParsedStatusSearchQuery :=
  match toAsciiLowercase (unquoteStatusSearchToken value) with
  | "public" =>
    let (merged, differs) := mergeFilter parsed.inPublic (!negated)
    { parsed with inPublic := merged, unsatisfiable := parsed.unsatisfiable || differs }
  | "library" =>
    let (merged, differs) := mergeFilter parsed.inLibrary (!negated)
    { parsed with inLibrary := merged, unsatisfiable := parsed.unsatisfiable || differs }
  | _ => parsed

inductive SearchKeyword where
  | fromAccount
  | before
  | after
  | during
  | language
  | is
  | has
  | inScope
  deriving DecidableEq

/-- The keyword before the colon of a token. -/
def searchKeyword (text : String) : Option SearchKeyword :=
  match toAsciiLowercase (trim text) with
  | "from" => some .fromAccount
  | "before" => some .before
  | "after" => some .after
  | "during" => some .during
  | "language" => some .language
  | "is" => some .is
  | "has" => some .has
  | "in" => some .inScope
  | _ => none

/-- `apply_status_search_prefixed_filter`, for a known keyword. -/
def applyStatusSearchPrefixedFilter (parsed : ParsedStatusSearchQuery) (keyword : SearchKeyword)
    (value : String) (negated : Bool) : Option ParsedStatusSearchQuery :=
  match keyword with
  | .fromAccount =>
    let value := unquoteStatusSearchToken value
    some (if value = "" then parsed else mergeStatusSearchFromFilter parsed value negated)
  | .before =>
    some (mergeStatusSearchBeforeFilter parsed (normalizeStatusSearchTimestamp times value)
      negated)
  | .after =>
    some (mergeStatusSearchAfterFilter parsed (normalizeStatusSearchTimestamp times value)
      negated)
  | .during =>
    (nextDayStatusSearchTimestamp times value).map fun finish =>
      mergeStatusSearchDuringFilter parsed (normalizeStatusSearchTimestamp times value) finish
        negated
  | .language =>
    some ((normalizeStatusSearchLanguage value).elim parsed fun value =>
      mergeStatusSearchLanguageFilter parsed value negated)
  | .is => some (mergeStatusSearchIsFilter parsed value negated)
  | .has => some (mergeStatusSearchHasFilter parsed value negated)
  | .inScope => some (mergeStatusSearchInFilter parsed value negated)

def collectStatusSearchTerm (parsed : ParsedStatusSearchQuery) (terms : List String)
    (token : String) (negated : Bool) : ParsedStatusSearchQuery × List String :=
  let value := fallbackStatusSearchTerm token
  if value = "" then (parsed, terms)
  else if negated then
    ({ parsed with excludedTextTerms := parsed.excludedTextTerms ++ [value] }, terms)
  else (parsed, terms ++ [value])

def keywordToken (token : String) : Option (SearchKeyword × String) :=
  (splitOnce token ':').bind fun (name, value) =>
    (searchKeyword name).map fun keyword => (keyword, value)

/-- One token of `parse_status_search_query`. -/
def readSearchToken (state : ParsedStatusSearchQuery × List String) (token : String) :
    Option (ParsedStatusSearchQuery × List String) :=
  let (negated, token) := splitStatusSearchNegation token
  match keywordToken token with
  | some (keyword, value) =>
    (applyStatusSearchPrefixedFilter times state.1 keyword value negated).map fun parsed =>
      (parsed, state.2)
  | none => some (collectStatusSearchTerm state.1 state.2 token negated)

def setStatusSearchTextTerms (parsed : ParsedStatusSearchQuery) (terms : List String) :
    ParsedStatusSearchQuery :=
  { parsed with textQuery := trim (joinWith terms " "), includedTextTerms := terms }

def parseStatusSearchQuery (query : String) : Option ParsedStatusSearchQuery :=
  ((tokenizeStatusSearchQuery query).foldlM (readSearchToken times) ({}, [])).map
    fun (parsed, terms) => setStatusSearchTextTerms parsed terms

def longestTerm (terms : List String) : String :=
  terms.foldl (fun longest term =>
    if longest.utf8ByteSize ≤ term.utf8ByteSize then term else longest) ""

/-- The included terms, trimmed, and the whole text. -/
def statusSearchQueryTerms (parsed : ParsedStatusSearchQuery) : List String :=
  let terms := (parsed.includedTextTerms.map trim).filter (· ≠ "")
  if terms.isEmpty then
    let seed := trim (longestTerm parsed.includedTextTerms)
    if seed = "" then [] else [seed]
  else
    let query := trim parsed.textQuery
    if query ≠ "" ∧ query ∉ terms then terms ++ [query] else terms

end Cfwdon.Search
