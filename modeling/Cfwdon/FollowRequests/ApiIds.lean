import Cfwdon.Accounts.Handles
import Cfwdon.Library.Base64
import Cfwdon.Library.Integers
import Cfwdon.Library.Table

/-!
# Follow requests and their ids

The requests that wait for an account, and whether the id of one leads back to it.
-/

namespace Cfwdon.FollowRequests

section Pending

/-! ## Pending follow requests

Requests to follow a local account wait in two tables: those of local accounts in `follows`,
those of remote actors in `follow_requests`.  Clients see each as one number, made of the
second it was created in and its row id, and send the number back to accept or reject it.
A request is then looked for by that number, and by several names of the requester.
-/

open Library Accounts Federation

inductive LocalFollowState where
  | pending
  | accepted
  deriving DecidableEq

structure FollowRow where
  rowid : Int
  followerAccountId : String
  targetAccountId : Option String
  state : LocalFollowState
  createdAt : String

/-- A row of `follow_requests`, of a remote actor. -/
structure FollowRequestRow where
  rowid : Int
  accountId : String
  requesterActorUri : String
  requesterInboxUri : String
  requesterSharedInboxUri : Option String
  followActivityId : Option String
  createdAt : String

abbrev Follows := Table FollowRow FollowRow.rowid

abbrev FollowRequestTable := Table FollowRequestRow FollowRequestRow.rowid

/-- What else is read: the clock of SQLite (`strftime('%s', …)`), the accounts by id, the
remote actors by username and domain, and the libraries that handles are parsed with. -/
structure FollowRequestReads where
  epochSeconds : String → Option Int
  username : String → Option String
  remoteActorUri : String → String → Option String
  percentDecode : String → Option String
  parser : UrlParser
  instanceDomain : String

/-! ## Requests -/

structure PendingRemoteFollowRequest where
  requesterActorUri : String
  requesterInboxUri : String
  requesterSharedInboxUri : Option String
  followActivityId : Option String

inductive PendingFollowRequest where
  | localRequest (cursorId : Int) (createdAt requesterAccountId : String)
  | remoteRequest (cursorId : Int) (createdAt : String) (request : PendingRemoteFollowRequest)

namespace PendingFollowRequest

def cursorId : PendingFollowRequest → Int
  | localRequest cursorId _ _ => cursorId
  | remoteRequest cursorId _ _ => cursorId

def createdAt : PendingFollowRequest → String
  | localRequest _ createdAt _ => createdAt
  | remoteRequest _ createdAt _ => createdAt

end PendingFollowRequest

def notificationRequestId (request : PendingFollowRequest) : String :=
  toString request.cursorId

/-- The integers of SQLite and of the rows. -/
def fitsI64 (value : Int) : Bool :=
  decide (-9223372036854775808 ≤ value ∧ value ≤ 9223372036854775807)

/-- `CAST(strftime('%s', created_at) AS INTEGER) * 1000000 + rowid`, read as a 64-bit
integer.  A time that is none gives NULL, and a sum that is too large a float; neither can
be read. -/
def cursorOf (reads : FollowRequestReads) (createdAt : String) (rowid : Int) : Option Int :=
  match reads.epochSeconds createdAt with
  | none => none
  | some seconds =>
    if fitsI64 (seconds * 1000000) && fitsI64 (seconds * 1000000 + rowid) then
      some (seconds * 1000000 + rowid)
    else none

def FollowRow.pendingRequest (reads : FollowRequestReads) (row : FollowRow) :
    Option PendingFollowRequest :=
  (cursorOf reads row.createdAt row.rowid).map fun cursorId =>
    .localRequest cursorId row.createdAt row.followerAccountId

def FollowRequestRow.pendingRequest (reads : FollowRequestReads) (row : FollowRequestRow) :
    Option PendingFollowRequest :=
  (cursorOf reads row.createdAt row.rowid).map fun cursorId =>
    .remoteRequest cursorId row.createdAt
      { requesterActorUri := row.requesterActorUri
        requesterInboxUri := row.requesterInboxUri
        requesterSharedInboxUri := row.requesterSharedInboxUri
        followActivityId := row.followActivityId }

/-- The rows of both tables that wait for an account; `none` if one cannot be read. -/
def pendingRows (reads : FollowRequestReads) (follows : Follows)
    (followRequests : FollowRequestTable) (accountId : String) :
    Option (List PendingFollowRequest) := do
  let localRequests ← (follows.select fun row =>
    row.targetAccountId == some accountId && row.state == .pending).mapM
      (FollowRow.pendingRequest reads)
  let remoteRequests ← (followRequests.select fun row => row.accountId == accountId).mapM
    (FollowRequestRow.pendingRequest reads)
  some (localRequests ++ remoteRequests)

/-- Newest first, by cursor and then by the text of the time. -/
def standsBefore (left right : PendingFollowRequest) : Bool :=
  decide (right.cursorId < left.cursorId
    ∨ right.cursorId = left.cursorId ∧ right.createdAt ≤ left.createdAt)

/-- `list_pending_follow_requests`; `sort_by` is stable. -/
def listPendingFollowRequests (reads : FollowRequestReads) (follows : Follows)
    (followRequests : FollowRequestTable) (accountId : String) :
    Option (List PendingFollowRequest) :=
  (pendingRows reads follows followRequests accountId).map fun requests =>
    requests.mergeSort standsBefore

/-! ## Looking a request up -/

/-- Unpadded base64 after `r_`, for the alphabet of URLs. -/
def remoteActorUriFromRestId (accountId : String) : Option String := do
  let encoded ← stripPrefix accountId "r_"
  let padded := encoded.toList.map (fun c => if c = '-' then '+' else if c = '_' then '/' else c)
    ++ List.replicate ((4 - encoded.length % 4) % 4) '='
  if encoded.toList.any fun c => c = '+' ∨ c = '/' ∨ c = '=' then none
  else
    let bytes ← Base64.decode (String.ofList padded)
    String.fromUTF8? ⟨bytes.toArray⟩

def eqIgnoreAsciiCase (left right : String) : Bool :=
  toAsciiLowercase left == toAsciiLowercase right

def pendingRequestMatchesIdentity (reads : FollowRequestReads) (request : PendingFollowRequest)
    (identity : String) : Bool :=
  let decoded := (reads.percentDecode identity).getD identity
  match request with
  | .localRequest cursorId _ requesterAccountId =>
    if identity == toString cursorId then true
    else if requesterAccountId == identity || requesterAccountId == decoded then true
    else
      match reads.username requesterAccountId with
      | none => false
      | some username =>
        if eqIgnoreAsciiCase username identity || eqIgnoreAsciiCase username decoded then
          true
        else
          match parseLookupHandle reads.percentDecode reads.parser reads.instanceDomain
              identity with
          | .error _ => false
          | .ok handle =>
            handle.isLocalTo reads.instanceDomain
              && eqIgnoreAsciiCase handle.username username
  | .remoteRequest cursorId _ request =>
    if identity == toString cursorId then true
    else if request.requesterActorUri == identity || request.requesterActorUri == decoded then
      true
    else if remoteActorUriFromRestId identity == some request.requesterActorUri then true
    else
      match parseLookupHandle reads.percentDecode reads.parser reads.instanceDomain
          identity with
      | .error _ => false
      | .ok handle =>
        match handle.domain with
        | none => false
        | some domain =>
          reads.remoteActorUri handle.username domain == some request.requesterActorUri

/-- The first that matches; `none` if the rows cannot be read. -/
def resolvePendingFollowRequest (reads : FollowRequestReads) (follows : Follows)
    (followRequests : FollowRequestTable) (accountId identity : String) :
    Option (Option PendingFollowRequest) :=
  (listPendingFollowRequests reads follows followRequests accountId).map fun requests =>
    requests.find? fun request => pendingRequestMatchesIdentity reads request identity

end Pending

section ApiIds

/-! ## The ids of follow requests

The id of a pending request should lead back to it.  It does unless another request has the
same id, which two tables with row ids of their own do not rule out, or stands before it in
the list and is of a requester that the digits of the id name.

* `matches_requestId_iff` -- which requests an id matches.
-/

open Library Accounts

variable {reads : FollowRequestReads} {follows : Follows} {followRequests : FollowRequestTable}
  {accountId : String} {request other : PendingFollowRequest}
  {requests : List PendingFollowRequest}

theorem number_char {c : Char} (isNumber : c.isDigit = true ∨ c = '-') :
    isWhitespace c = false ∧ c ≠ '@' ∧ c ≠ '%' ∧ c ≠ 'r' ∧ c.toLower = c := by
  rcases isNumber with digit | rfl
  · have range : 48 ≤ c.toNat ∧ c.toNat ≤ 57 := by
      simp only [Char.isDigit, Bool.and_eq_true, decide_eq_true_eq] at digit
      exact ⟨UInt32.le_iff_toNat_le.mp digit.1, UInt32.le_iff_toNat_le.mp digit.2⟩
    have notLower : c.toLower = c := by
      unfold Char.toLower
      rw [dif_neg]
      rintro ⟨upper, _⟩
      have high := UInt32.le_iff_toNat_le.mp upper
      have value : c.val.toNat = c.toNat := rfl
      rw [value] at high
      have bound : (65 : Nat) ≤ c.toNat := high
      omega
    have other {d : Char} (outside : d.toNat < 48 ∨ 57 < d.toNat) : c ≠ d := by
      rintro rfl
      omega
    exact ⟨isWhitespace_of_number (.inl digit), other (by decide), other (by decide),
      other (by decide), notLower⟩
  · decide

theorem lowercase_number (value : Int) : toAsciiLowercase (toString value) = toString value := by
  have eq : (toString value).toList.map Char.toLower = (toString value).toList := by
    rw [List.map_congr_left fun c mem => (number_char (digit_or_sign mem)).2.2.2.2, List.map_id']
  rw [toAsciiLowercase, eq, String.ofList_toList]

theorem remoteActorUriFromRestId_number (value : Int) :
    remoteActorUriFromRestId (toString value) = none := by
  have noPrefix : stripPrefix (toString value) "r_" = none := by
    rw [stripPrefix, if_neg]
    intro starts
    obtain ⟨rest, whole⟩ := List.isPrefixOf_iff_prefix.mp starts
    have mem : 'r' ∈ (toString value).toList := by
      rw [← whole]
      exact List.mem_cons_self
    exact (number_char (digit_or_sign mem)).2.2.2.1 rfl
  rw [remoteActorUriFromRestId, noPrefix]
  rfl

theorem parseLookupHandle_number (value : Int) :
    parseLookupHandle reads.percentDecode reads.parser reads.instanceDomain (toString value)
      = .ok { username := toString value,
              domain := some (instanceHost reads.instanceDomain) } := by
  rw [parseLookupHandle_bare (toString_ne_empty value), lowercase_number]
  intro c mem
  obtain ⟨black, noAt, _, _, lower⟩ := number_char (digit_or_sign mem)
  refine ⟨black, noAt, ?_⟩
  rw [lower]
  rintro rfl
  have digits := digit_or_sign mem
  revert digits
  decide

/-! ## What an id matches -/

/-- Percent-decoding leaves a text without a percent sign alone. -/
def DecodesPlainText (percentDecode : String → Option String) : Prop :=
  ∀ text, '%' ∉ text.toList → percentDecode text = some text

/-- The requester has the text as the id or the username of a local account, or as the URI
of a remote actor or its username at the host of the instance. -/
def PendingFollowRequest.NamedBy (reads : FollowRequestReads) (text : String) :
    PendingFollowRequest → Prop
  | .localRequest _ _ requesterAccountId =>
    requesterAccountId = text
      ∨ ∃ username, reads.username requesterAccountId = some username
        ∧ toAsciiLowercase username = text
  | .remoteRequest _ _ request =>
    request.requesterActorUri = text
      ∨ reads.remoteActorUri text (instanceHost reads.instanceDomain)
        = some request.requesterActorUri

/-- **What a number matches**: the request with this number, and the requests of requesters
that it names. -/
theorem matches_number_iff (plain : DecodesPlainText reads.percentDecode) (value : Int) :
    pendingRequestMatchesIdentity reads request (toString value) = true
      ↔ request.cursorId = value ∨ request.NamedBy reads (toString value) := by
  have decoded : reads.percentDecode (toString value) = some (toString value) := by
    refine plain _ fun mem => ?_
    exact (number_char (digit_or_sign mem)).2.2.1 rfl
  have isNumber (cursorId : Int) : toString value = toString cursorId ↔ cursorId = value :=
    ⟨fun eq => (toString_inj eq).symm, fun eq => by rw [eq]⟩
  have lower := lowercase_number value
  have noRestId := remoteActorUriFromRestId_number value
  have handle := @parseLookupHandle_number reads value
  unfold pendingRequestMatchesIdentity
  -- From here on the number is a text with these properties.
  generalize toString value = text at *
  simp only [decoded, Option.getD_some, Bool.or_self, beq_iff_eq]
  cases request with
  | localRequest cursorId createdAt requesterAccountId =>
    simp only [PendingFollowRequest.cursorId, PendingFollowRequest.NamedBy, isNumber]
    by_cases eq : cursorId = value
    · simp [eq]
    · rw [if_neg eq]
      by_cases isId : requesterAccountId = text
      · simp [isId]
      · rw [if_neg isId]
        cases account : reads.username requesterAccountId with
        | none => simp [eq, isId]
        | some username =>
          simp only [eqIgnoreAsciiCase, handle, isLocalTo_instanceHost, lower,
            Bool.true_and, beq_iff_eq, Option.some.injEq, exists_eq_left']
          by_cases isUsername : toAsciiLowercase username = text
          · simp [isUsername]
          · simp [isUsername, eq, isId, Ne.symm isUsername]
  | remoteRequest cursorId createdAt remote =>
    simp only [PendingFollowRequest.cursorId, PendingFollowRequest.NamedBy, isNumber,
      noRestId, handle]
    by_cases eq : cursorId = value
    · simp [eq]
    · rw [if_neg eq]
      by_cases isUri : remote.requesterActorUri = text
      · simp [isUri]
      · simp [isUri, eq]

theorem matches_own_id (plain : DecodesPlainText reads.percentDecode) :
    pendingRequestMatchesIdentity reads request (notificationRequestId request) = true :=
  (matches_number_iff plain _).mpr (Or.inl rfl)

/-! ## The order of the list -/

theorem standsBefore_iff :
    standsBefore request other = true
      ↔ other.cursorId < request.cursorId
        ∨ other.cursorId = request.cursorId ∧ other.createdAt ≤ request.createdAt := by
  simp [standsBefore]

theorem pairwise_sorted (requests : List PendingFollowRequest) :
    (requests.mergeSort standsBefore).Pairwise fun left right => standsBefore left right := by
  refine List.pairwise_mergeSort ?_ ?_ requests
  · intro first second third left right
    rw [standsBefore_iff] at left right ⊢
    rcases left with less | ⟨eq, prior⟩
    · exact Or.inl (by omega)
    · rcases right with less | ⟨eq', earlier'⟩
      · exact Or.inl (by omega)
      · exact Or.inr ⟨eq'.trans eq, String.le_trans earlier' prior⟩
  · intro first second
    rw [Bool.or_eq_true, standsBefore_iff, standsBefore_iff]
    rcases Int.lt_trichotomy first.cursorId second.cursorId with less | eq | more
    · exact Or.inr (Or.inl less)
    · rcases String.le_total first.createdAt second.createdAt with prior | later
      · exact Or.inr (Or.inr ⟨eq, prior⟩)
      · exact Or.inl (Or.inr ⟨eq.symm, later⟩)
    · exact Or.inl (Or.inl more)

theorem cursorId_le_of_behind {ahead behind : List PendingFollowRequest}
    (split : requests.mergeSort standsBefore = ahead ++ request :: behind)
    (mem : other ∈ behind) : other.cursorId ≤ request.cursorId := by
  have sorted := pairwise_sorted requests
  rw [split, List.pairwise_append] at sorted
  have pre := (List.pairwise_cons.mp sorted.2.1).1 other mem
  rcases standsBefore_iff.mp pre with less | ⟨eq, _⟩
  · exact Int.le_of_lt less
  · exact Int.le_of_eq eq

/-! ## Ids that lead back -/

/-- The requests of an account can be listed, and the id of each leads back to it. -/
def RequestIdsResolve (reads : FollowRequestReads) (follows : Follows)
    (followRequests : FollowRequestTable) (accountId : String) : Prop :=
  ∃ requests, listPendingFollowRequests reads follows followRequests accountId = some requests
    ∧ ∀ request ∈ requests,
      resolvePendingFollowRequest reads follows followRequests accountId
        (notificationRequestId request) = some (some request)

/-- The number of each row can be computed, no two requests have one number, and the number
of a request names no requester with a higher one. -/
def RequestIdsDistinguish (reads : FollowRequestReads) (follows : Follows)
    (followRequests : FollowRequestTable) (accountId : String) : Prop :=
  ∃ requests, pendingRows reads follows followRequests accountId = some requests
    ∧ (∀ request ∈ requests, ∀ other ∈ requests,
        request.cursorId = other.cursorId → request = other)
    ∧ ∀ request ∈ requests, ∀ other ∈ requests, request.cursorId < other.cursorId →
        ¬ other.NamedBy reads (toString request.cursorId)

theorem find_own_id_iff (plain : DecodesPlainText reads.percentDecode) (mem : request ∈ requests)
    (nodup : ∀ other ∈ requests, request.cursorId = other.cursorId → request = other) :
    ((requests.mergeSort standsBefore).find? fun other =>
        pendingRequestMatchesIdentity reads other (notificationRequestId request)) = some request
      ↔ ∀ other ∈ requests, request.cursorId < other.cursorId →
        ¬ other.NamedBy reads (toString request.cursorId) := by
  have sortedMember : request ∈ requests.mergeSort standsBefore := List.mem_mergeSort.mpr mem
  constructor
  · intro got other among less named
    obtain ⟨_, ahead, behind, split, skipped⟩ := List.find?_eq_some_iff_append.mp got
    have otherMatches : pendingRequestMatchesIdentity reads other (notificationRequestId request)
        = true := (matches_number_iff plain _).mpr (Or.inr named)
    have otherMem : other ∈ ahead ++ request :: behind := by
      rw [← split]
      exact List.mem_mergeSort.mpr among
    rcases List.mem_append.mp otherMem with inFront | here
    · simpa [otherMatches] using skipped other inFront
    · rcases List.mem_cons.mp here with rfl | post
      · exact Int.lt_irrefl _ less
      · have notHigher := cursorId_le_of_behind split post
        omega
  · intro unnamed
    cases got : (requests.mergeSort standsBefore).find? fun other =>
        pendingRequestMatchesIdentity reads other (notificationRequestId request) with
    | none =>
      have missed := List.find?_eq_none.mp got request sortedMember
      exact absurd (matches_own_id plain) missed
    | some other =>
      obtain ⟨hit, ahead, behind, split, skipped⟩ := List.find?_eq_some_iff_append.mp got
      have among : other ∈ requests := by
        rw [← List.mem_mergeSort, split]
        exact List.mem_append_right _ List.mem_cons_self
      have notLess : other.cursorId ≥ request.cursorId := by
        rw [split] at sortedMember
        rcases List.mem_append.mp sortedMember with inFront | here
        · simpa [matches_own_id plain] using skipped request inFront
        · rcases List.mem_cons.mp here with rfl | post
          · exact Int.le_refl _
          · exact cursorId_le_of_behind split post
      rcases (matches_number_iff plain _).mp hit with eq | named
      · rw [nodup other among eq.symm]
      · by_cases eq : request.cursorId = other.cursorId
        · rw [nodup other among eq]
        · exact absurd named (unnamed other among (by omega))

/-- The libraries on the texts below, and an account that is called bob. -/
def exampleReads : FollowRequestReads where
  epochSeconds text := if text = "2026-01-01 00:00:00" then some 1767225600 else none
  username accountId := if accountId = "account-of-bob" then some "bob" else none
  remoteActorUri _ _ := none
  percentDecode text := if '%' ∈ text.toList then none else some text
  parser := { parse := fun _ => .error "empty host", join := fun _ _ => .error "empty host" }
  instanceDomain := "local.example"

theorem exampleReads_plain : DecodesPlainText exampleReads.percentDecode :=
  fun _ plain => if_neg plain

/-- bob asks to follow alice, in the seventh row of `follows`. -/
def bobAsks : FollowRow where
  rowid := 7
  followerAccountId := "account-of-bob"
  targetAccountId := some "account-of-alice"
  state := .pending
  createdAt := "2026-01-01 00:00:00"

/-- eve asks to follow alice, in the seventh row of `follow_requests`. -/
def eveAsks : FollowRequestRow where
  rowid := 7
  accountId := "account-of-alice"
  requesterActorUri := "https://remote.example/users/eve"
  requesterInboxUri := "https://remote.example/users/eve/inbox"
  requesterSharedInboxUri := none
  followActivityId := none
  createdAt := "2026-01-01 00:00:00"

end ApiIds

end Cfwdon.FollowRequests
