import Cfwdon.Library.SqlTexts
import Cfwdon.Remote.Store
import Cfwdon.Search.TextMatches
import Cfwdon.Timelines.Cursors

/-!
# The queries of a status search

The text of a query and its bindings are built side by side: the clauses for the search
patterns are numbered from two on, the cursor's placeholders by how much is bound before
them, and the limit comes last.  What was bound under a number decides what the query
selects.

The queries on local and on remote statuses differ in their columns only.
-/

namespace Cfwdon.Search

open Library Timelines Statuses

/-- What a search reads of a row of `statuses`. -/
structure LocalStatus where
  id : String
  accountId : String
  text : String
  spoilerText : String
  visibility : Visibility
  sensitive : Bool
  language : Option String
  inReplyToId : Option String
  boostOfUri : Option String
  quoteOfUri : Option String
  createdAt : String
  deriving DecidableEq

abbrev stripBasicHtmlTags (html : String) : String := stripHtmlTags html

def plainText (status : Remote.RemoteStatus) : String :=
  if status.textContent ≠ "" then status.textContent else stripBasicHtmlTags status.contentHtml

/-- A table that statuses are searched in: the columns of the query, and the texts that
the matcher reads. -/
structure SearchTable (Row : Type) where
  author : Row → String
  timestamp : Row → String
  id : Row → String
  columns : List (Row → String)
  content : Row → String
  spoilerText : Row → String

/-- `LOCAL_STATUS_SEARCH_SELECT` and `LOCAL_STATUS_SEARCH_COLUMNS`. -/
def localStatusSearch : SearchTable LocalStatus where
  author := LocalStatus.accountId
  timestamp := LocalStatus.createdAt
  id := LocalStatus.id
  columns := [LocalStatus.text, LocalStatus.spoilerText]
  content := LocalStatus.text
  spoilerText := LocalStatus.spoilerText

/-- `REMOTE_STATUS_SEARCH_SELECT` and `REMOTE_STATUS_SEARCH_COLUMNS`. -/
def remoteStatusSearch : SearchTable Remote.RemoteStatus where
  author := Remote.RemoteStatus.actorUri
  timestamp := Remote.RemoteStatus.publishedAt
  id := Remote.RemoteStatus.id
  columns := [Remote.RemoteStatus.contentHtml, Remote.RemoteStatus.spoilerText]
  content := plainText
  spoilerText := Remote.RemoteStatus.spoilerText

/-! ## Bindings -/

inductive D1Type where
  | text (value : String)
  | integer (value : Int)

/-- A binding as text, as it is compared with a text column. -/
def D1Type.asText : D1Type → String
  | .text value => value
  | .integer value => toString value

inductive BindingRole where
  | author
  | pattern (offset : Nat)
  | maxTimestamp
  | maxId
  | minTimestamp
  | minId
  | limit
  deriving DecidableEq

structure Binding where
  role : BindingRole
  value : D1Type

/-- A number in the text of a query, and the binding it is meant for. -/
structure Placeholder where
  role : BindingRole
  slot : Nat
  deriving DecidableEq

/-! ## Patterns -/

def searchPattern (query : String) : String :=
  "%" ++ toAsciiLowercase (trim query) ++ "%"

def normalizedSearchPatterns (queries : List String) : List String :=
  let patterns := pushMissing [] ((queries.filter fun query =>
    toAsciiLowercase (trim query) ≠ "").map searchPattern)
  if patterns.isEmpty then ["%"] else patterns

def searchPatternsMatchEverything (patterns : List String) : Bool :=
  patterns == ["%"]

/-- The placeholder of each clause, for the columns of the table. -/
def searchLikeClauses (startIndex patternCount : Nat) : List Placeholder :=
  (List.range patternCount).map fun offset => ⟨.pattern offset, startIndex + offset⟩

/-- `push_search_pattern_bindings`. -/
def searchPatternBindings (patterns : List String) : List Binding :=
  patterns.mapIdx fun offset pattern => ⟨.pattern offset, .text pattern⟩

/-! ## Cursors and limits -/

/-- The two numbers of a bound, if it is emitted. -/
structure ResolvedTimelineCursorSlots where
  maxSlots : Option (Placeholder × Placeholder)
  minSlots : Option (Placeholder × Placeholder)

/-- One bound of `append_timeline_cursor_bindings`, which needs both of its halves. -/
def appendBound (timestampRole idRole : BindingRole) (bindings : List Binding)
    (timestamp id : Option String) : List Binding × Option (Placeholder × Placeholder) :=
  match timestamp, id with
  | some timestamp, some id =>
    (bindings ++ [⟨timestampRole, .text timestamp⟩] ++ [⟨idRole, .text id⟩],
      some (⟨timestampRole, bindings.length + 1⟩, ⟨idRole, bindings.length + 1 + 1⟩))
  | _, _ => (bindings, none)

def appendTimelineCursorBindings (bindings : List Binding) (cursor : ResolvedTimelineCursor) :
    List Binding × ResolvedTimelineCursorSlots :=
  let (bindings, maxSlots) :=
    appendBound .maxTimestamp .maxId bindings cursor.maxTimestamp cursor.maxId
  let (bindings, minSlots) :=
    appendBound .minTimestamp .minId bindings cursor.minTimestamp cursor.minId
  (bindings, ⟨maxSlots, minSlots⟩)

/-! ## Queries -/

/-- The arguments of `search_local_status_rows` and `search_remote_status_rows`. -/
structure SearchRowsRequest where
  queries : List String
  limit : Nat
  author : Option String
  cursor : ResolvedTimelineCursor

/-- A query: what stands in its text, and its bindings. -/
structure SearchStatement where
  author : Option Placeholder
  clauses : List Placeholder
  cursor : ResolvedTimelineCursorSlots
  limit : Placeholder
  bindings : List Binding

namespace SearchRowsRequest

variable (request : SearchRowsRequest)

/-- The patterns that are bound: none if they match everything. -/
def boundPatterns : List String :=
  if searchPatternsMatchEverything (normalizedSearchPatterns request.queries) then []
  else normalizedSearchPatterns request.queries

/-- The query that is built.  The clauses are numbered from two on, with an author and
without. -/
def statement : SearchStatement :=
  let authorBindings : List Binding :=
    request.author.toList.map fun author => ⟨.author, .text author⟩
  let bindings := authorBindings ++ searchPatternBindings request.boundPatterns
  let (bindings, slots) := appendTimelineCursorBindings bindings request.cursor
  let bindings := bindings ++ [⟨.limit, .integer (Int.bmod request.limit (2 ^ 32))⟩]
  { author := request.author.map fun _ => ⟨.author, 1⟩
    clauses := searchLikeClauses 2 request.boundPatterns.length
    cursor := slots
    limit := ⟨.limit, bindings.length⟩
    bindings := bindings }

end SearchRowsRequest

namespace SearchStatement

variable (statement : SearchStatement)

/-- The numbered placeholders in the text of a query. -/
def placeholders : List Placeholder :=
  statement.author.toList ++ statement.clauses
    ++ (statement.cursor.maxSlots.toList.flatMap fun slots => [slots.1, slots.2])
    ++ (statement.cursor.minSlots.toList.flatMap fun slots => [slots.1, slots.2])
    ++ [statement.limit]

def textAt (placeholder : Placeholder) : Option String :=
  (denotes statement.bindings placeholder.slot).map fun binding => binding.value.asText

variable {Row : Type} (table : SearchTable Row)

/-- `lower(column) LIKE ?n`, for one of the columns. -/
def clauseHolds (row : Row) (placeholder : Placeholder) : Bool :=
  (statement.textAt placeholder).any fun pattern =>
    table.columns.any fun column =>
      likeMatches pattern.toList (toAsciiLowercase (column row)).toList

/-- The bounds of `seekable_resolved_timeline_cursor_predicates`. -/
def cursorHolds (row : Row) : Bool :=
  (statement.cursor.maxSlots.all fun (timestampSlot, idSlot) =>
    (statement.textAt timestampSlot).any fun timestamp =>
      (statement.textAt idSlot).any fun id =>
        decide (table.timestamp row ≤ timestamp)
          && (decide (table.timestamp row < timestamp) || decide (table.id row < id)))
  && statement.cursor.minSlots.all fun (timestampSlot, idSlot) =>
    (statement.textAt timestampSlot).any fun timestamp =>
      (statement.textAt idSlot).any fun id =>
        decide (timestamp ≤ table.timestamp row)
          && (decide (timestamp < table.timestamp row) || decide (id < table.id row))

/-- The author and the search filter of a query. -/
def matchesText (row : Row) : Bool :=
  (statement.author.all fun placeholder =>
    (statement.textAt placeholder).any fun author => table.author row == author)
  && (statement.clauses.isEmpty || statement.clauses.any (statement.clauseHolds table row))

/-- The `WHERE` of a query. -/
def selects (row : Row) : Bool :=
  statement.matchesText table row && statement.cursorHolds table row

/-- The rows a query selects, apart from its limit. -/
def selectedRows (rows : List Row) : List Row :=
  rows.filter (statement.selects table)

/-- `ORDER BY timestamp DESC, id DESC LIMIT ?n`; a limit below zero is none. -/
def limitedRows (rows : List Row) : List Row :=
  let ordered := (statement.selectedRows table rows).insertionSort fun left right =>
    NewestFirst ⟨.localSource, table.id left, table.timestamp left⟩
      ⟨.localSource, table.id right, table.timestamp right⟩
  match (denotes statement.bindings statement.limit.slot).map Binding.value with
  | some (.integer limit) => if limit < 0 then ordered else ordered.take limit.toNat
  | _ => []

end SearchStatement

def searchLocalStatusRows (statuses : List LocalStatus) (request : SearchRowsRequest) :
    List LocalStatus :=
  request.statement.limitedRows localStatusSearch statuses

def searchRemoteStatusRows (statuses : List Remote.RemoteStatus) (request : SearchRowsRequest) :
    List Remote.RemoteStatus :=
  request.statement.limitedRows remoteStatusSearch statuses

end Cfwdon.Search
