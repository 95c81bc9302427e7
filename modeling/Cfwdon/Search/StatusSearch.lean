import Cfwdon.Search.StatusRows

/-!
# The search for statuses

A search resolves the author it asks for and the timestamps of its cursors, and lets the
dates of the query compete with the cursors for the two bounds of the SQL query: the text
that bounds more is passed, and the id of the cursor only goes with it if the cursor's own
timestamp was kept.  The rows of both tables are then filtered by everything that the SQL
query does not know, ranked, and cut to the page.
-/

namespace Cfwdon.Search

open Library Accounts Statuses Timelines

structure LocalAccount where
  id : String
  username : String

/-- `AccountReference`, by what a search reads of it. -/
inductive AccountReference where
  | ofAccount (account : LocalAccount)
  | ofActor (actorUri : String)

/-- What a search reads of the database. -/
structure SearchStore where
  statuses : List LocalStatus
  remoteStatuses : List Remote.RemoteStatus
  accounts : List LocalAccount
  /-- `resolve_account_reference`. -/
  resolveAccountReference : String → Option AccountReference
  /-- `find_remote_actor_by_username_domain`, by the URI of the actor. -/
  findRemoteActor : String → String → Option String
  /-- The accepted rows of `follows` with a local target: follower and target. -/
  localFollows : List (String × String)
  /-- The accepted rows of `follows` with a remote target: follower and actor. -/
  remoteFollows : List (String × String)
  /-- The accounts that take part in a direct status: status and account. -/
  directParticipants : List (String × String)
  /-- `remote_status_mentions`: status and account. -/
  remoteMentions : List (String × String)
  /-- The favourites, bookmarks and reblogs of a local status: account and status. -/
  favourites : List (String × String)
  bookmarks : List (String × String)
  reblogs : List (String × String)
  /-- The same of a remote status. -/
  remoteFavourites : List (String × String)
  remoteBookmarks : List (String × String)
  remoteReblogs : List (String × String)
  /-- `account_has_bookmarks`. -/
  accountHasBookmarks : String → Bool
  /-- Whether a status has attachments or a poll, by its id, and whether its text gives a
  card. -/
  hasMedia : String → Bool
  hasPoll : String → Bool
  hasCard : LocalStatus → Bool
  hasRemoteCard : Remote.RemoteStatus → Bool

/-- What a search depends on besides the database. -/
structure SearchEnvironment where
  /-- The lower case of a character. -/
  lowercase : Char → List Char
  times : SearchTimes
  instanceDomain : String
  /-- The percent decoding of a handle. -/
  percentDecode : String → Option String
  urlParser : Federation.UrlParser

variable (env : SearchEnvironment) (store : SearchStore)

namespace SearchStore

def findAccountById (id : String) : Option LocalAccount :=
  store.accounts.find? (·.id == id)

def findStatusById (id : String) : Option LocalStatus :=
  store.statuses.find? (·.id == id)

def findRemoteStatusById (id : String) : Option Remote.RemoteStatus :=
  store.remoteStatuses.find? (·.id == id)

/-- `can_view_local_status`, for a viewer. -/
def canViewLocalStatus (status : LocalStatus) (viewer owner : LocalAccount) : Bool :=
  if isPublicActivitypubVisibility status.visibility then true
  else if viewer.id = owner.id then true
  else
    match status.visibility with
    | .followersOnly =>
      localStatusAllowsViewer status.visibility false
        (store.localFollows.contains (viewer.id, owner.id)) false
    | .direct =>
      localStatusAllowsViewer status.visibility false false
        (store.directParticipants.contains (status.id, viewer.id))
    | .publicPost | .unlisted => true

/-- `can_view_remote_status`, for a viewer. -/
def canViewRemoteStatus (status : Remote.RemoteStatus) (viewer : LocalAccount) : Bool :=
  isPublicActivitypubVisibility status.visibility
    || store.remoteMentions.contains (status.id, viewer.id)
    || (status.visibility == .followersOnly
      && store.remoteFollows.contains (viewer.id, status.actorUri))

/-! ## Scopes -/

def textMentionsSearchLibraryViewer (text viewerUsername : String) : Bool :=
  (extractMentionsFromText text env.instanceDomain).any (·.username == viewerUsername)

def localStatusIsInSearchLibrary (viewer : LocalAccount) (status : LocalStatus) : Bool :=
  status.accountId == viewer.id
    || store.favourites.contains (viewer.id, status.id)
    || (store.accountHasBookmarks viewer.id && store.bookmarks.contains (viewer.id, status.id))
    || store.reblogs.contains (viewer.id, status.id)
    || textMentionsSearchLibraryViewer env status.text viewer.username

def remoteStatusIsInSearchLibrary (viewer : LocalAccount) (status : Remote.RemoteStatus) : Bool :=
  store.remoteFavourites.contains (viewer.id, status.id)
    || (store.accountHasBookmarks viewer.id
      && store.remoteBookmarks.contains (viewer.id, status.id))
    || store.remoteReblogs.contains (viewer.id, status.id)
    || textMentionsSearchLibraryViewer env (plainText status) viewer.username

end SearchStore

def statusMatchesSearchScope (parsed : ParsedStatusSearchQuery) (isPublic isLibrary : Bool) :
    Bool :=
  asExpected parsed.inPublic isPublic && asExpected parsed.inLibrary isLibrary

def statusIsSearchableByScope (parsed : ParsedStatusSearchQuery) (isPublic isLibrary : Bool) :
    Bool :=
  (isPublic || isLibrary) && statusMatchesSearchScope parsed isPublic isLibrary

def statusMatchesSearchTimestamp (parsed : ParsedStatusSearchQuery) (timestamp : String) : Bool :=
  !(parsed.excludedBefore.any fun bound => decide (timestamp < bound))
    && !(parsed.excludedAfter.any fun bound => decide (bound < timestamp))
    && !(parsed.excludedDuring.any fun (start, finish) =>
      decide (start ≤ timestamp) && decide (timestamp < finish))

def statusMatchesSearchMetadata (parsed : ParsedStatusSearchQuery)
    (hasMedia hasPoll hasEmbed : Bool) : Bool :=
  asExpected parsed.hasMedia hasMedia && asExpected parsed.hasPoll hasPoll
    && asExpected parsed.hasEmbed hasEmbed

/-! ## Ranks -/

def searchTextMatchRank (query candidate : String) : Nat :=
  let query := normalizeSearchMatchText env.lowercase query
  if query = "" then 3
  else
    let candidate := normalizeSearchMatchText env.lowercase candidate
    if candidate = query then 0
    else if startsWith candidate query then 1
    else if occursIn query.toList candidate.toList then 2
    else 3

def statusSearchTermIsHashtag (term : String) : Bool :=
  startsWith (trim term) "#"

def statusTextMatchRank (query candidate : String) : Nat :=
  let terms := splitWhitespace query
  let ranked :=
    if searchTextMatchRank env query candidate < 3 then
      searchTextMatchRank env query candidate
    else if 1 < terms.length
        ∧ terms.all (statusSearchTermMatches env.lowercase · candidate "") = true then 3
    else 4
  match terms with
  | [term] =>
    if statusSearchTermIsHashtag term then
      if statusSearchTermMatches env.lowercase term candidate "" then 0 else 4
    else ranked
  | _ => ranked

def statusPhraseTermRank (parsed : ParsedStatusSearchQuery) (candidate : String) : Nat :=
  let terms := parsed.includedTextTerms.filter fun term =>
    term.toList.any isWhitespace || statusSearchTermIsHashtag term
  ((terms.map (statusTextMatchRank env · candidate)).min?).getD 4

/-- The ranks of `status_search_rank`, in their order. -/
abbrev SearchRank := Nat ×ₗ Nat ×ₗ Nat

def statusSearchRank (parsed : ParsedStatusSearchQuery) (content spoilerText : String) :
    SearchRank :=
  let combined :=
    if trim spoilerText = "" then content
    else if trim content = "" then spoilerText
    else content ++ "\n" ++ spoilerText
  let rank (text : String) (place : Nat) : SearchRank :=
    toLex (statusTextMatchRank env parsed.textQuery text,
      toLex (statusPhraseTermRank env parsed text, place))
  min (rank content 0) (min (rank spoilerText 1) (rank combined 2))

/-! ## Plans -/

/-- The arguments of `search_statuses_for_v2`. -/
structure StatusSearch where
  viewer : LocalAccount
  query : String
  limit : Nat
  offset : Nat
  accountId : Option String
  maxId : Option String
  minId : Option String

def resolveStatusSearchFromReference (viewer : LocalAccount) (value : String) :
    Option AccountReference :=
  if toAsciiLowercase value = "me" then some (.ofAccount viewer)
  else
    match parseLookupHandle env.percentDecode env.urlParser env.instanceDomain value with
    | .error _ => none
    | .ok handle =>
      if handle.isLocalTo env.instanceDomain then
        (store.accounts.find? (·.username == handle.username)).map .ofAccount
      else (store.findRemoteActor handle.username (handle.domain.getD "")).map .ofActor

/-- `account_reference_identity`. -/
def AccountReference.identity : AccountReference → String
  | .ofAccount account => account.id
  | .ofActor actorUri => actorUri

def mergeStatusSearchAccountReference (current syntactic : Option AccountReference) :
    Option AccountReference :=
  match current, syntactic with
  | some current, some syntactic =>
    if current.identity = syntactic.identity then some current else none
  | some current, none => some current
  | none, some syntactic => some syntactic
  | none, none => none

def resolveSearchStatusBoundTimestamp (statusId : Option String) : Option String :=
  ((statusId.map trim).filter (· ≠ "")).bind fun id =>
    match store.findStatusById id with
    | some status => some status.createdAt
    | none => (store.findRemoteStatusById id).map (·.publishedAt)

/-- `search_status_query_limit`, in 32 bits. -/
def searchStatusQueryLimit (limit offset : Nat) (hasTextTerms : Bool) : Nat :=
  let needed := max (min (limit + offset) (2 ^ 32 - 1)) limit
  if hasTextTerms then max (min (min (needed * 4) (2 ^ 32 - 1)) 200) needed else min needed 200

/-- What a search has resolved before it reads any row. -/
structure SearchPlan where
  parsed : ParsedStatusSearchQuery
  author : Option AccountReference
  excludedAuthor : Option AccountReference
  cursor : ResolvedTimelineCursor

def searchBounds (parsed : ParsedStatusSearchQuery) (maxId minId : Option String) :
    ResolvedTimelineCursor :=
  let cursorMaxTimestamp := resolveSearchStatusBoundTimestamp store maxId
  let cursorMinTimestamp := resolveSearchStatusBoundTimestamp store minId
  let maxTimestamp := earlierStatusSearchBound cursorMaxTimestamp parsed.before
  let minTimestamp := laterStatusSearchBound cursorMinTimestamp parsed.after
  { maxId := if maxTimestamp = cursorMaxTimestamp then maxId else none
    maxTimestamp := maxTimestamp
    minId := if minTimestamp = cursorMinTimestamp then minId else none
    minTimestamp := minTimestamp
    forward := false }

/-- The first half of `search_statuses_for_v2`; nothing if the result is empty already. -/
def searchPlan (search : StatusSearch) (parsed : ParsedStatusSearchQuery) : Option SearchPlan :=
  if parsed.unsatisfiable then none
  else
    let asked := search.accountId.bind store.resolveAccountReference
    if search.accountId.isSome ∧ asked = none then none
    else
      let resolve (value : Option String) :=
        value.bind (resolveStatusSearchFromReference env store search.viewer)
      let author := mergeStatusSearchAccountReference asked (resolve parsed.fromAccount)
      if parsed.fromAccount.isSome ∧ author = none then none
      else
        some
          { parsed := parsed
            author := author
            excludedAuthor := resolve parsed.notFrom
            cursor := searchBounds store parsed search.maxId search.minId }

namespace SearchPlan

variable (plan : SearchPlan) (viewer : LocalAccount)

/-! ## Collecting -/

def terms : List String := statusSearchQueryTerms plan.parsed

/-- The arguments of `search_local_status_rows`. -/
def localRequest (queryLimit : Nat) : SearchRowsRequest where
  queries := plan.terms
  limit := queryLimit
  author :=
    match plan.author with
    | some (.ofAccount account) => some account.id
    | _ => none
  cursor := plan.cursor

/-- The arguments of `search_remote_status_rows`. -/
def remoteRequest (queryLimit : Nat) : SearchRowsRequest where
  queries := plan.terms
  limit := queryLimit
  author :=
    match plan.author with
    | some (.ofActor actorUri) => some actorUri
    | _ => none
  cursor := plan.cursor

/-- Local statuses are not searched for a remote author. -/
def searchesLocal : Bool :=
  match plan.author with
  | some (.ofActor _) => false
  | _ => true

/-- Remote statuses are not searched for a local author. -/
def searchesRemote : Bool :=
  match plan.author with
  | some (.ofAccount _) => false
  | _ => true

/-- `account_reference_matches_owner`, for a local owner. -/
def excludesAccount (ownerId : String) : Bool :=
  plan.excludedAuthor.any fun
    | .ofAccount account => account.id == ownerId
    | .ofActor _ => false

/-- `account_reference_matches_owner`, for a remote owner. -/
def excludesActor (actorUri : String) : Bool :=
  plan.excludedAuthor.any fun
    | .ofAccount _ => false
    | .ofActor excluded => excluded == actorUri

/-- The filters of `collect_local_search_status_entries`, but for the one on dates. -/
def localStatusPasses (status : LocalStatus) : Bool :=
  (store.findAccountById status.accountId).any fun owner =>
    let isPublic := status.visibility == .publicPost
    let isLibrary := !(isPublic && plan.parsed.inLibrary == none)
      && store.localStatusIsInSearchLibrary env viewer status
    !plan.excludesAccount owner.id
      && store.canViewLocalStatus status viewer owner
      && statusIsSearchableByScope plan.parsed isPublic isLibrary
      && statusMatchesSearchSyntax env.lowercase plan.parsed status.text status.spoilerText
        status.inReplyToId.isSome status.sensitive status.boostOfUri.isSome
        status.quoteOfUri.isSome status.language
      && statusMatchesSearchMetadata plan.parsed (store.hasMedia status.id)
        (store.hasPoll status.id) (store.hasCard status)

/-- The filters of `collect_remote_search_status_entries`, but for the one on dates. -/
def remoteStatusPasses (status : Remote.RemoteStatus) : Bool :=
  let isPublic := isPublicActivitypubVisibility status.visibility
  let isLibrary := !(isPublic && plan.parsed.inLibrary == none)
    && store.remoteStatusIsInSearchLibrary env viewer status
  !plan.excludesActor status.actorUri
    && statusIsSearchableByScope plan.parsed isPublic isLibrary
    && statusMatchesSearchSyntax env.lowercase plan.parsed (plainText status) status.spoilerText
      status.inReplyToUri.isSome status.sensitive status.boostOfUri.isSome
      status.quoteOfUri.isSome status.language
    && statusMatchesSearchMetadata plan.parsed (store.hasMedia status.id)
      (store.hasPoll status.id) (store.hasRemoteCard status)

/-- `SearchStatusCandidate`. -/
inductive Candidate where
  | ofLocal (status : LocalStatus)
  | ofRemote (status : Remote.RemoteStatus)
  deriving DecidableEq

/-- The sort key of an entry: ranks ascending, timestamps and ids descending. -/
structure Entry where
  rank : SearchRank
  timestamp : String
  id : String
  candidate : Candidate

/-- One entry comes before another, or neither does. -/
def Entry.Precedes (left right : Entry) : Prop :=
  left.rank < right.rank
    ∨ left.rank = right.rank ∧ NewestFirst ⟨.localSource, left.id, left.timestamp⟩
      ⟨.localSource, right.id, right.timestamp⟩

instance : DecidableRel Entry.Precedes :=
  fun _ _ => inferInstanceAs (Decidable (_ ∨ _))

/-- `collect_local_search_status_entries`. -/
def localEntries (queryLimit : Nat) : List Entry :=
  if plan.searchesLocal then
    ((searchLocalStatusRows store.statuses (plan.localRequest queryLimit)).filter fun status =>
      plan.localStatusPasses env store viewer status
        && statusMatchesSearchTimestamp plan.parsed status.createdAt).map fun status =>
          ⟨statusSearchRank env plan.parsed status.text status.spoilerText,
            status.createdAt, status.id, .ofLocal status⟩
  else []

/-- `collect_remote_search_status_entries`. -/
def remoteEntries (queryLimit : Nat) : List Entry :=
  if plan.searchesRemote then
    ((searchRemoteStatusRows store.remoteStatuses (plan.remoteRequest queryLimit)).filter
      fun status => plan.remoteStatusPasses env store viewer status
        && statusMatchesSearchTimestamp plan.parsed status.publishedAt).map fun status =>
          ⟨statusSearchRank env plan.parsed (plainText status) status.spoilerText,
            status.publishedAt, status.id, .ofRemote status⟩
  else []

/-- The second half of `search_statuses_for_v2`. -/
def page (limit offset : Nat) : List Candidate :=
  let queryLimit := searchStatusQueryLimit limit offset (!plan.terms.isEmpty)
  let entries := plan.localEntries env store viewer queryLimit
    ++ plan.remoteEntries env store viewer queryLimit
  (((entries.insertionSort Entry.Precedes).drop offset).take limit).map Entry.candidate

end SearchPlan

/-- `search_statuses_for_v2`; nothing if the parser panics. -/
def searchStatusesForV2 (search : StatusSearch) : Option (List SearchPlan.Candidate) :=
  (parseStatusSearchQuery env.times search.query).map fun parsed =>
    match searchPlan env store search parsed with
    | none => []
    | some plan => plan.page env store search.viewer search.limit search.offset

end Cfwdon.Search
