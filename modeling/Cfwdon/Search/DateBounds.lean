import Cfwdon.Search.DateTokens
import Cfwdon.Search.Prefilter

/-!
# Dates and cursors of a search

A bound goes into the SQL query only with a timestamp and an id.  A date that takes the
place of a cursor's timestamp has no id, so it bounds nothing, and the cursor that it
displaced bounds nothing either.  Dates that are not negated are looked at nowhere else.
What is left is compared as text: the cursors that no date displaced, and the negated
dates.
-/

namespace Cfwdon.Search

open Library Timelines

/-- The time that a timestamp stands for. -/
def SearchTimes.instantOf (times : SearchTimes) (timestamp : String) : Option Int :=
  (times.rfc3339.parse timestamp).map OffsetDateTime.instant

/-- By their times, or by their ids at one time, the first entry comes before the second. -/
def Older (times : SearchTimes) (timestamp id laterTimestamp laterId : String) : Prop :=
  ∃ instant later, times.instantOf timestamp = some instant
    ∧ times.instantOf laterTimestamp = some later
    ∧ (instant < later ∨ instant = later ∧ id < laterId)

section Entries

variable (env : SearchEnvironment) (store : SearchStore) (search : StatusSearch)

/-- The time of a status satisfies every date token, and the status lies strictly inside
both cursors. -/
structure SatisfiesDates (timestamp id : String) : Prop where
  tokens : ∀ token ∈ dateTokens env.times search.query,
    ∃ instant, env.times.instantOf timestamp = some instant ∧ token.Holds instant
  maximum : ∀ cursorTimestamp ∈ resolveSearchStatusBoundTimestamp store search.maxId,
    ∀ cursorId ∈ search.maxId, Older env.times timestamp id cursorTimestamp (trim cursorId)
  minimum : ∀ cursorTimestamp ∈ resolveSearchStatusBoundTimestamp store search.minId,
    ∀ cursorId ∈ search.minId, Older env.times cursorTimestamp (trim cursorId) timestamp id

/-- No date of the query has a text that bounds more from above than the cursor. -/
def KeepsMaximum (cursorTimestamp : String) : Prop :=
  ∀ token ∈ dateTokens env.times search.query, token.negated = false →
    ∀ bound ∈ token.upperText env.times, cursorTimestamp ≤ bound

/-- No date of the query has a text that bounds more from below than the cursor. -/
def KeepsMinimum (cursorTimestamp : String) : Prop :=
  ∀ token ∈ dateTokens env.times search.query, token.negated = false →
    ∀ bound ∈ token.lowerText env.times, bound ≤ cursorTimestamp

/-- The texts that are compared let a status through: those of the negated dates, and
those of the cursors that no date displaces. -/
structure PassesTexts (timestamp id : String) : Prop where
  tokens : ∀ token ∈ dateTokens env.times search.query, token.negated = true →
    ¬ token.CoversText env.times timestamp
  maximum : ∀ cursorTimestamp ∈ resolveSearchStatusBoundTimestamp store search.maxId,
    ∀ cursorId ∈ search.maxId, KeepsMaximum env search cursorTimestamp →
      timestamp < cursorTimestamp ∨ timestamp = cursorTimestamp ∧ id < cursorId
  minimum : ∀ cursorTimestamp ∈ resolveSearchStatusBoundTimestamp store search.minId,
    ∀ cursorId ∈ search.minId, KeepsMinimum env search cursorTimestamp →
      cursorTimestamp < timestamp ∨ timestamp = cursorTimestamp ∧ cursorId < id

end Entries

namespace SearchPlan

def Candidate.timestamp : Candidate → String
  | .ofLocal status => status.createdAt
  | .ofRemote status => status.publishedAt

def Candidate.id : Candidate → String
  | .ofLocal status => status.id
  | .ofRemote status => status.id

/-- The dates and the cursors let a status through. -/
def admitsDates (plan : SearchPlan) (candidate : Candidate) : Bool :=
  plan.cursor.admits ⟨.localSource, candidate.id, candidate.timestamp⟩
    && statusMatchesSearchTimestamp plan.parsed candidate.timestamp

/-- The status is stored and matches a search but for its dates and cursors. -/
def Matches (plan : SearchPlan) (env : SearchEnvironment) (store : SearchStore)
    (viewer : LocalAccount) (queryLimit : Nat) : Candidate → Prop
  | .ofLocal status =>
    status ∈ store.statuses ∧ plan.searchesLocal = true
      ∧ (plan.localRequest queryLimit).statement.matchesText localStatusSearch status = true
      ∧ plan.localStatusPasses env store viewer status = true
  | .ofRemote status =>
    status ∈ store.remoteStatuses ∧ plan.searchesRemote = true
      ∧ (plan.remoteRequest queryLimit).statement.matchesText remoteStatusSearch status = true
      ∧ plan.remoteStatusPasses env store viewer status = true

end SearchPlan

/-- Apart from the limits of a page, a search shows exactly those of the statuses that match
it otherwise that satisfy its dates and its cursors. -/
def HonoursDates (env : SearchEnvironment) (store : SearchStore) (search : StatusSearch) : Prop :=
  ∀ parsed ∈ parseStatusSearchQuery env.times search.query,
    ∀ plan ∈ searchPlan env store search parsed, ∀ candidate,
      plan.Matches env store search.viewer (searchStatusQueryLimit search.limit search.offset
        (!plan.terms.isEmpty)) candidate →
      (plan.admitsDates candidate = true
        ↔ SatisfiesDates env store search candidate.timestamp candidate.id)

/-! ## Bounds -/

variable {right : Option String} {left : String} {Row : Type}

section Bounds

variable {store : SearchStore} {parsed : ParsedStatusSearchQuery} {maxId minId : Option String}
  {timestamp id : String}

theorem isSome_of_resolve {statusId : Option String} {got : String}
    (resolved : resolveSearchStatusBoundTimestamp store statusId = some got) :
    ∃ given, statusId = some given := by
  cases statusId with
  | none => cases resolved
  | some given => exact ⟨given, rfl⟩

/-- The earlier of two bounds is the first one exactly if no other bound is earlier. -/
theorem earlier_eq_left_iff :
    earlierStatusSearchBound (some left) right = some left ↔ ∀ bound ∈ right, left ≤ bound := by
  cases right with
  | none | some right => simp [earlierStatusSearchBound]

theorem later_eq_left_iff :
    laterStatusSearchBound (some left) right = some left ↔ ∀ bound ∈ right, bound ≤ left := by
  cases right with
  | none | some right => simp [laterStatusSearchBound]

theorem boundAdmits_of_none (holds : String → String → Bool) (bound : Option String) :
    boundAdmits holds bound none = true := by
  cases bound <;> rfl

variable {holds : String → String → Bool}

/-- A bound that a cursor and a date compete for is the cursor's, if the date does not
displace it, and none at all otherwise. -/
theorem keptBound_iff (combine : Option String → Option String → Option String)
    (Kept : String → Option String → Prop) {cursor date cursorId : Option String}
    (noCursor : ∀ date, combine none date = date)
    (keeps : ∀ timestamp date, combine (some timestamp) date = some timestamp ↔ Kept timestamp date)
    (named : ∀ timestamp, cursor = some timestamp → ∃ given, cursorId = some given) :
    boundAdmits holds (combine cursor date)
        (if combine cursor date = cursor then cursorId else none) = true
      ↔ ∀ timestamp ∈ cursor, ∀ given ∈ cursorId, Kept timestamp date →
          holds timestamp given = true := by
  cases cursor with
  | none =>
    refine iff_of_true ?_ fun _ none => by cases none
    rw [noCursor date]
    cases date with
    | none => rfl
    | some text =>
      rw [if_neg (Option.some_ne_none text)]
      exact boundAdmits_of_none holds _
  | some timestamp =>
    obtain ⟨given, rfl⟩ := named timestamp rfl
    simp only [Option.mem_def, Option.some_inj, forall_eq']
    by_cases kept : Kept timestamp date
    · rw [if_pos ((keeps timestamp date).mpr kept), (keeps timestamp date).mpr kept]
      exact ⟨fun held _ => held, fun held => held kept⟩
    · rw [if_neg fun eq => kept ((keeps timestamp date).mp eq)]
      exact iff_of_true (boundAdmits_of_none holds _) fun all => absurd all kept

/-- **The upper bound of a search** is the cursor's, if no date is earlier. -/
theorem maximum_iff :
    boundAdmits holds (searchBounds store parsed maxId minId).maxTimestamp
        (searchBounds store parsed maxId minId).maxId = true
      ↔ ∀ cursorTime ∈ resolveSearchStatusBoundTimestamp store maxId,
          ∀ cursorId ∈ maxId, (∀ bound ∈ parsed.before, cursorTime ≤ bound) →
            holds cursorTime cursorId = true :=
  keptBound_iff earlierStatusSearchBound (fun timestamp date => ∀ bound ∈ date, timestamp ≤ bound)
    (fun date => by cases date <;> rfl) (fun _ _ => earlier_eq_left_iff)
    fun _ got => isSome_of_resolve got

/-- **The lower bound of a search** is the cursor's, if no date is later. -/
theorem minimum_iff :
    boundAdmits holds (searchBounds store parsed maxId minId).minTimestamp
        (searchBounds store parsed maxId minId).minId = true
      ↔ ∀ cursorTime ∈ resolveSearchStatusBoundTimestamp store minId,
          ∀ cursorId ∈ minId, (∀ bound ∈ parsed.after, bound ≤ cursorTime) →
            holds cursorTime cursorId = true :=
  keptBound_iff laterStatusSearchBound (fun timestamp date => ∀ bound ∈ date, bound ≤ timestamp)
    (fun date => by cases date <;> rfl) (fun _ _ => later_eq_left_iff)
    fun _ got => isSome_of_resolve got

/-- **The cursors that are left** when the dates have taken their places. -/
theorem admits_searchBounds_iff {source : HomeTimelineCandidateSource} :
    (searchBounds store parsed maxId minId).admits ⟨source, id, timestamp⟩ = true
      ↔ (∀ cursorTimestamp ∈ resolveSearchStatusBoundTimestamp store maxId,
          ∀ cursorId ∈ maxId, (∀ bound ∈ parsed.before, cursorTimestamp ≤ bound) →
            timestamp < cursorTimestamp ∨ timestamp = cursorTimestamp ∧ id < cursorId)
        ∧ ∀ cursorTimestamp ∈ resolveSearchStatusBoundTimestamp store minId,
            ∀ cursorId ∈ minId, (∀ bound ∈ parsed.after, bound ≤ cursorTimestamp) →
              cursorTimestamp < timestamp ∨ timestamp = cursorTimestamp ∧ cursorId < id := by
  have upper (cursorTimestamp cursorId : String) :
      (decide (timestamp ≤ cursorTimestamp)
          && (decide (timestamp < cursorTimestamp) || decide (id < cursorId))) = true
        ↔ timestamp < cursorTimestamp ∨ timestamp = cursorTimestamp ∧ id < cursorId := by
    rw [Bool.and_eq_true, Bool.or_eq_true, decide_eq_true_eq, decide_eq_true_eq,
      decide_eq_true_eq, le_iff_lt_or_eq]
    have apart : timestamp < cursorTimestamp → timestamp ≠ cursorTimestamp := ne_of_lt
    tauto
  have lower (cursorTimestamp cursorId : String) :
      (decide (cursorTimestamp ≤ timestamp)
          && (decide (cursorTimestamp < timestamp) || decide (cursorId < id))) = true
        ↔ cursorTimestamp < timestamp ∨ timestamp = cursorTimestamp ∧ cursorId < id := by
    rw [Bool.and_eq_true, Bool.or_eq_true, decide_eq_true_eq, decide_eq_true_eq,
      decide_eq_true_eq, le_iff_lt_or_eq]
    have apart : cursorTimestamp < timestamp → timestamp ≠ cursorTimestamp := ne_of_gt
    tauto
  have parts : (searchBounds store parsed maxId minId).admits ⟨source, id, timestamp⟩
      = (boundAdmits (fun cursorTimestamp cursorId => decide (timestamp ≤ cursorTimestamp)
            && (decide (timestamp < cursorTimestamp) || decide (id < cursorId)))
          (searchBounds store parsed maxId minId).maxTimestamp
          (searchBounds store parsed maxId minId).maxId
        && boundAdmits (fun cursorTimestamp cursorId => decide (cursorTimestamp ≤ timestamp)
            && (decide (cursorTimestamp < timestamp) || decide (cursorId < id)))
          (searchBounds store parsed maxId minId).minTimestamp
          (searchBounds store parsed maxId minId).minId) := rfl
  rw [parts, Bool.and_eq_true, maximum_iff, minimum_iff]
  simp only [upper, lower]

end Bounds

/-! ## Searches -/

section Searches

variable {env : SearchEnvironment} {store : SearchStore} {search : StatusSearch}
  {parsed : ParsedStatusSearchQuery} {plan : SearchPlan}

theorem plan_of_searchPlan (planned : searchPlan env store search parsed = some plan) :
    plan.parsed = parsed ∧ plan.cursor = searchBounds store parsed search.maxId search.minId := by
  unfold searchPlan at planned
  dsimp only at planned
  split_ifs at planned
  rw [Option.some_inj] at planned
  subst planned
  exact ⟨rfl, rfl⟩

variable {candidate : SearchPlan.Candidate}

/-- **What the dates and the cursors let through** is what their texts let through. -/
theorem admitsDates_iff (parse : parseStatusSearchQuery env.times search.query = some parsed)
    (planned : searchPlan env store search parsed = some plan) :
    plan.admitsDates candidate = true
      ↔ PassesTexts env store search candidate.timestamp candidate.id := by
  obtain ⟨sameQuery, sameCursor⟩ := plan_of_searchPlan planned
  have dates := datesOf_parse parse
  have upper (text : String) :
      (∀ bound ∈ parsed.before, text ≤ bound) ↔ KeepsMaximum env search text :=
    dates text .upper
  have lower (text : String) :
      (∀ bound ∈ parsed.after, bound ≤ text) ↔ KeepsMinimum env search text :=
    dates text .lower
  rw [SearchPlan.admitsDates, sameQuery, sameCursor, Bool.and_eq_true, admits_searchBounds_iff,
    statusMatchesSearchTimestamp_iff dates]
  simp only [upper, lower]
  exact ⟨fun ⟨⟨maximum, minimum⟩, tokens⟩ => ⟨tokens, maximum, minimum⟩,
    fun ⟨tokens, maximum, minimum⟩ => ⟨⟨maximum, minimum⟩, tokens⟩⟩

theorem mem_of_mem_limitedRows {stmt : SearchStatement}
    {table : SearchTable Row} {rows : List Row} {row : Row}
    (mem : row ∈ stmt.limitedRows table rows) :
    row ∈ stmt.selectedRows table rows := by
  have ordered := List.perm_insertionSort (fun left right => NewestFirst
      ⟨.localSource, table.id left, table.timestamp left⟩
      ⟨.localSource, table.id right, table.timestamp right⟩) (stmt.selectedRows table rows)
  unfold SearchStatement.limitedRows at mem
  split at mem
  · split_ifs at mem
    · exact ordered.subset mem
    · exact ordered.subset (List.mem_of_mem_take mem)
  · cases mem

theorem of_mem_limitedRows {req : SearchRowsRequest} {table : SearchTable Row}
    {rows : List Row} {row : Row}
    (mem : row ∈ req.statement.limitedRows table rows) :
    row ∈ rows ∧ req.statement.matchesText table row = true
      ∧ req.cursor.admits (table.entry row) = true := by
  obtain ⟨held, selected⟩ := List.mem_filter.mp (mem_of_mem_limitedRows mem)
  rw [SearchStatement.selects, Bool.and_eq_true, cursorHolds_eq] at selected
  exact ⟨held, selected⟩

/-- **What a page shows** was let through by everything. -/
theorem mem_page {viewer : LocalAccount} {limit offset : Nat}
    (shown : candidate ∈ plan.page env store viewer limit offset) :
    plan.Matches env store viewer (searchStatusQueryLimit limit offset (!plan.terms.isEmpty))
        candidate
      ∧ plan.admitsDates candidate = true := by
  obtain ⟨entry, cut, rfl⟩ := List.mem_map.mp shown
  have sorted := List.mem_of_mem_drop (List.mem_of_mem_take cut)
  rcases List.mem_append.mp ((List.perm_insertionSort _ _).subset sorted) with own | remote
  · unfold SearchPlan.localEntries at own
    split_ifs at own with searched
    · obtain ⟨status, kept, rfl⟩ := List.mem_map.mp own
      obtain ⟨row, passes⟩ := List.mem_filter.mp kept
      rw [Bool.and_eq_true] at passes
      obtain ⟨held, hit, admitted⟩ := of_mem_limitedRows row
      refine ⟨⟨held, searched, hit, passes.1⟩, ?_⟩
      rw [SearchPlan.admitsDates, Bool.and_eq_true]
      exact ⟨admitted, passes.2⟩
    · cases own
  · unfold SearchPlan.remoteEntries at remote
    split_ifs at remote with searched
    · obtain ⟨status, kept, rfl⟩ := List.mem_map.mp remote
      obtain ⟨row, passes⟩ := List.mem_filter.mp kept
      rw [Bool.and_eq_true] at passes
      obtain ⟨held, hit, admitted⟩ := of_mem_limitedRows row
      refine ⟨⟨held, searched, hit, passes.1⟩, ?_⟩
      rw [SearchPlan.admitsDates, Bool.and_eq_true]
      exact ⟨admitted, passes.2⟩
    · cases remote

/-- Where dates are honoured, every page shows only what satisfies them. -/
theorem satisfiesDates_of_honoursDates (honoured : HonoursDates env store search)
    {got : List SearchPlan.Candidate}
    (searched : searchStatusesForV2 env store search = some got) (shown : candidate ∈ got) :
    SatisfiesDates env store search candidate.timestamp candidate.id := by
  unfold searchStatusesForV2 at searched
  obtain ⟨parsed, parse, eq⟩ := Option.map_eq_some_iff.mp searched
  subst eq
  cases planned : searchPlan env store search parsed with
  | none =>
    rw [planned] at shown
    cases shown
  | some plan =>
    rw [planned] at shown
    obtain ⟨hit, admitted⟩ := mem_page shown
    exact (honoured parsed parse plan planned candidate hit).mp admitted

end Searches

/-! ## A date that bounds nothing -/

def januaryFirst : CivilDate := .newYear 2026

def februaryFirst : CivilDate := .ofNumbers 2026 2 1 (by decide)

/-- Times of which these two days can be read. -/
def plainTimes : SearchTimes where
  rfc3339 :=
    { parse := fun text =>
        if text = "2026-01-01T00:00:00Z" then some (startOfDay januaryFirst)
        else if text = "2026-02-01T00:00:00Z" then some (startOfDay februaryFirst)
        else none
      format := fun time => .ok time.text }
  fromUnixTimestamp := fun _ => none
  fromUnixTimestampNanos := fun _ => none
  parseDate := fun text =>
    if text = "2026-01-01" then some januaryFirst
    else if text = "2026-02-01" then some februaryFirst
    else none

/-- An instance without handles and URLs. -/
def plainEnvironment : SearchEnvironment where
  lowercase := fun c => [c.toLower]
  times := plainTimes
  instanceDomain := "cfwdon.example"
  percentDecode := some
  urlParser :=
    { parse := fun _ => .error "relative URL without a base"
      join := fun _ _ => .error "relative URL without a base" }

/-- A public status of alice from the first of February. -/
def februaryStatus : LocalStatus :=
  ⟨"1", "alice", "hello", "", .publicPost, false, none, none, none, none, "2026-02-01T00:00:00Z"⟩

/-- A database of statuses of alice. -/
def storeOf (statuses : List LocalStatus) (remoteStatuses : List Remote.RemoteStatus) :
    SearchStore where
  statuses := statuses
  remoteStatuses := remoteStatuses
  accounts := [⟨"alice", "alice"⟩]
  resolveAccountReference := fun _ => none
  findRemoteActor := fun _ _ => none
  localFollows := []
  remoteFollows := []
  directParticipants := []
  remoteMentions := []
  favourites := []
  bookmarks := []
  reblogs := []
  remoteFavourites := []
  remoteBookmarks := []
  remoteReblogs := []
  accountHasBookmarks := fun _ => false
  hasMedia := fun _ => false
  hasPoll := fun _ => false
  hasCard := fun _ => false
  hasRemoteCard := fun _ => false

def aliceSearches (query : String) : StatusSearch :=
  ⟨⟨"alice", "alice"⟩, query, 20, 0, none, none, none⟩

end Cfwdon.Search
