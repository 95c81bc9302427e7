import Cfwdon.Collections.Store
import Cfwdon.Notifications.PageFilling
import Cfwdon.Notifications.TimeWindow
import Mathlib.Data.List.Destutter
import Mathlib.Data.List.Sort

/-!
# Listing notifications

A listing reads candidates from its sources, drops the dismissed and the muted ones, orders
and cuts the rest, and renders those that a page needs.  A candidate has its key and its time
before it is rendered, and the entry keeps them.
-/

namespace Cfwdon.Notifications

open Library

variable (rfc3339 : Rfc3339)

/-- A rendered account or status: its id, and the rest of the document. -/
structure EntityDocument where
  id : String
  fields : List (String × Json)

/-- `MastodonNotificationResponse`, with the collection that is put into the document of
some. -/
structure MastodonNotificationResponse where
  id : String
  notificationType : String
  groupKey : String
  createdAt : String
  account : EntityDocument
  status : Option EntityDocument
  collection : Option Json

structure NotificationEntry where
  id : String
  createdAt : String
  value : MastodonNotificationResponse

def NotificationEntry.identity (entry : NotificationEntry) : NotificationIdentity :=
  ⟨entry.id, entry.createdAt⟩

def pushNotificationEntry (notification : MastodonNotificationResponse) : NotificationEntry where
  id := notification.id
  createdAt := timestampToMastodonIso8601 rfc3339 notification.createdAt
  value :=
    { notification with
      createdAt := timestampToMastodonIso8601 rfc3339 notification.createdAt }

/-! ## Candidates -/

/-- Who caused a notification. -/
inductive NotificationActorRef where
  | «local» (accountId : String)
  | remote (actorUri : String)

def NotificationActorRef.keyPart : NotificationActorRef → String
  | .local accountId => "local-" ++ accountId
  | .remote actorUri => "remote-" ++ Collections.remoteAccountRestId actorUri

structure AuthoredLocalStatus where
  id : String
  accountId : String
  createdAt : String

structure AuthoredRemoteStatus where
  id : String
  actorUri : String
  publishedAt : String

/-- What a candidate is rendered from. -/
inductive NotificationCandidateSource where
  | ready (entry : NotificationEntry)
  | viewerStatusInteraction (statusId : String)
  | account
  | authoredLocalStatus (status : AuthoredLocalStatus)
  | authoredLocalStatusById (statusId : String)
  | authoredRemoteStatus (status : AuthoredRemoteStatus)

structure NotificationCandidate where
  id : String
  createdAt : String
  notificationType : String
  statusId : Option String
  actor : Option NotificationActorRef
  source : NotificationCandidateSource

namespace NotificationCandidate

def identity (candidate : NotificationCandidate) : NotificationIdentity :=
  ⟨candidate.id, candidate.createdAt⟩

def ready (entry : NotificationEntry) : NotificationCandidate where
  id := entry.id
  createdAt := entry.createdAt
  notificationType := entry.value.notificationType
  statusId := entry.value.status.map EntityDocument.id
  actor := none
  source := .ready entry

def viewerStatusEvent (notificationType id : String) (actor : NotificationActorRef)
    (statusId createdAt : String) : NotificationCandidate where
  id := id
  createdAt := timestampToMastodonIso8601 rfc3339 createdAt
  notificationType := notificationType
  statusId := some statusId
  actor := some actor
  source := .viewerStatusInteraction statusId

def viewerStatusInteraction (notificationType : String) (actor : NotificationActorRef)
    (statusId createdAt : String) : NotificationCandidate :=
  viewerStatusEvent rfc3339 notificationType
    (notificationType ++ "-" ++ actor.keyPart ++ "-" ++ statusId) actor statusId createdAt

def authoredLocalStatus (notificationType : String) (status : AuthoredLocalStatus) :
    NotificationCandidate where
  id := notificationType ++ "-" ++ (NotificationActorRef.local status.accountId).keyPart
    ++ "-" ++ status.id
  createdAt := timestampToMastodonIso8601 rfc3339 status.createdAt
  notificationType := notificationType
  statusId := some status.id
  actor := some (.local status.accountId)
  source := .authoredLocalStatus status

def authoredRemoteStatusEvent (notificationType id createdAt : String)
    (status : AuthoredRemoteStatus) : NotificationCandidate where
  id := id
  createdAt := timestampToMastodonIso8601 rfc3339 createdAt
  notificationType := notificationType
  statusId := some status.id
  actor := some (.remote status.actorUri)
  source := .authoredRemoteStatus status

def authoredRemoteStatus (notificationType : String) (status : AuthoredRemoteStatus) :
    NotificationCandidate :=
  authoredRemoteStatusEvent rfc3339 notificationType
    (notificationType ++ "-" ++ (NotificationActorRef.remote status.actorUri).keyPart
      ++ "-" ++ status.id) status.publishedAt status

def authoredLocalStatusEvent (notificationType id authorAccountId statusId createdAt : String) :
    NotificationCandidate where
  id := id
  createdAt := timestampToMastodonIso8601 rfc3339 createdAt
  notificationType := notificationType
  statusId := some statusId
  actor := some (.local authorAccountId)
  source := .authoredLocalStatusById statusId

def account (notificationType idStart : String) (actor : NotificationActorRef)
    (createdAt : String) : NotificationCandidate where
  id := idStart ++ "-" ++ actor.keyPart
  createdAt := timestampToMastodonIso8601 rfc3339 createdAt
  notificationType := notificationType
  statusId := none
  actor := some actor
  source := .account

end NotificationCandidate

/-! ## What a candidate tells of its entry -/

def statusGroupTypes : List String := ["favourite", "reblog"]

/-- A candidate as the collectors make them: the type and the status of a rendered entry are
its own, and those of the other kinds have an actor. -/
def NotificationCandidate.Consistent (candidate : NotificationCandidate) : Prop :=
  match candidate.source with
  | .ready entry => candidate = ready entry
  | .viewerStatusInteraction statusId =>
    candidate.statusId = some statusId ∧ candidate.actor.isSome
  | _ => candidate.notificationType ∉ statusGroupTypes ∧ candidate.actor.isSome

section Consistent

open NotificationCandidate

variable {rfc3339}

theorem consistent_ready (entry : NotificationEntry) : (ready entry).Consistent := rfl

theorem consistent_viewerStatusEvent (notificationType id : String)
    (actor : NotificationActorRef) (statusId createdAt : String) :
    (viewerStatusEvent rfc3339 notificationType id actor statusId createdAt).Consistent :=
  ⟨rfl, rfl⟩

variable {notificationType : String}

theorem consistent_authoredLocalStatus (other : notificationType ∉ statusGroupTypes)
    (status : AuthoredLocalStatus) :
    (authoredLocalStatus rfc3339 notificationType status).Consistent :=
  ⟨other, rfl⟩

theorem consistent_authoredRemoteStatusEvent (other : notificationType ∉ statusGroupTypes)
    (id createdAt : String) (status : AuthoredRemoteStatus) :
    (authoredRemoteStatusEvent rfc3339 notificationType id createdAt status).Consistent :=
  ⟨other, rfl⟩

theorem consistent_authoredLocalStatusEvent (other : notificationType ∉ statusGroupTypes)
    (id authorAccountId statusId createdAt : String) :
    (authoredLocalStatusEvent rfc3339 notificationType id authorAccountId statusId
      createdAt).Consistent :=
  ⟨other, rfl⟩

theorem consistent_account (other : notificationType ∉ statusGroupTypes) (idStart : String)
    (actor : NotificationActorRef) (createdAt : String) :
    (account rfc3339 notificationType idStart actor createdAt).Consistent :=
  ⟨other, rfl⟩

end Consistent

/-! ## Requests -/

/-- A `NotificationsQuery` with the filters of a request. -/
structure NotificationsRequest extends NotificationsQuery where
  limit : Option Nat
  accountId : Option String
  types : Option (List String)
  excludeTypes : Option (List String)
  groupedTypes : Option (List String)

def normalizeNotificationTypes (values : Option (List String)) : List String :=
  ((((values.getD []).map fun value => toAsciiLowercase (trim value)).filter
    (· ≠ "")).insertionSort (· ≤ ·)).destutter (· ≠ ·)

def notificationTypeAllowed (request : NotificationsRequest) (notificationType : String) : Bool :=
  let included := normalizeNotificationTypes request.types
  let excluded := normalizeNotificationTypes request.excludeTypes
  (included.isEmpty || included.contains notificationType) && !excluded.contains notificationType

def notificationAccountMatchesFilter (filterAccountId : Option String) (localAccountId : String)
    (remoteActorUri : Option String) : Bool :=
  filterAccountId.all fun filter =>
    filter == localAccountId
      || remoteActorUri.any fun uri => Collections.remoteAccountRestId uri == filter

/-- `value.trim()` is not empty for `min_id`: the page just after a cursor. -/
def isForward (request : NotificationsRequest) : Bool :=
  request.minId.any fun value => trim value ≠ ""

def notificationQueryHasUntimedCursor (request : NotificationsRequest) : Bool :=
  [request.maxId, request.sinceId, request.minId].any fun cursor =>
    (normalizedNotificationCursor cursor).any fun cursor =>
      (notificationCursorUnixSeconds (some cursor)).isNone

/-- `notifications_fetch_limit`, with `saturating_mul`. -/
def notificationsFetchLimit (request : NotificationsRequest) (limit : Nat) : Nat :=
  if isForward request || notificationQueryHasUntimedCursor request then 1000
  else min (limit * 4) 4294967295

/-! ## What is stored -/

/-- A row of a source: the time it is bounded by, and the candidate a request makes of it, if
it makes one. -/
structure NotificationRow where
  column : String
  candidate : NotificationsRequest → Option NotificationCandidate
  consistent : ∀ request made, candidate request = some made → made.Consistent

/-- The rows that a collector reads, newest first.  The rows of the administration and of
collections are not bounded by the window; those of collections are of several types. -/
structure NotificationSource where
  notificationType : Option String
  format : Option StoredTimestampFormat
  rows : List NotificationRow

/-- What the listings of a viewer read. -/
structure NotificationTables where
  sources : List NotificationSource
  dismissedIds : List String
  clearedAt : Option String
  usernameOfAccount : String → Option String
  mutedActorUris : List String

/-- What times are read and written by, and the domain of the instance. -/
structure ListingEnv where
  rfc3339 : Rfc3339
  fromUnixTimestamp : Int → Option CivilTime
  instanceDomain : String

/-! ## Collecting -/

/-- A collector: the rows of a source within the bounds, the newest ones. -/
def NotificationSource.collect (env : ListingEnv) (request : NotificationsRequest)
    (perTypeLimit : Nat) (source : NotificationSource) : List NotificationCandidate :=
  if source.notificationType.all (notificationTypeAllowed request) then
    let window := notificationTimeWindow env.rfc3339 request.toNotificationsQuery
    ((source.rows.filter fun row => source.format.all fun format =>
        (window.sqlBounds env.fromUnixTimestamp format).admits row.column).take
      perTypeLimit).filterMap fun row => row.candidate request
  else []

def collectNotifications (env : ListingEnv) (tables : NotificationTables)
    (request : NotificationsRequest) (perTypeLimit : Nat) : List NotificationCandidate :=
  tables.sources.flatMap (NotificationSource.collect env request perTypeLimit)

def notificationTimestampSortToken (value : String) : Option String :=
  let value := trim value
  let digits := value.toList.filter Char.isDigit
  if value = "" then none
  else if digits.length < 14 then none
  else some (String.ofList ((digits ++ List.replicate (17 - digits.length) '0').take 17))

/-- The test of `retain_undismissed_candidates`. -/
def isUndismissed (dismissedIds : List String) (clearedAt : Option String)
    (candidate : NotificationIdentity) : Bool :=
  !dismissedIds.contains candidate.notificationKey
    && match clearedAt.bind notificationTimestampSortToken,
        notificationTimestampSortToken candidate.notificationCreatedAt with
      | some clearedAt, some createdAt => decide (createdAt > clearedAt)
      | _, _ => true

def retainUndismissedCandidates (candidates : List NotificationCandidate)
    (dismissedIds : List String) (clearedAt : Option String) : List NotificationCandidate :=
  candidates.filter fun candidate => isUndismissed dismissedIds clearedAt candidate.identity

/-- The test of `retain_candidates_from_unmuted_actors`. -/
def isFromUnmutedActor (env : ListingEnv) (tables : NotificationTables)
    (request : NotificationsRequest) (candidate : NotificationCandidate) : Bool :=
  match candidate.actor with
  | none => true
  | some (.local accountId) =>
    (tables.usernameOfAccount accountId).any fun username =>
      !tables.mutedActorUris.contains (ActivityPub.actorUrl env.instanceDomain username)
        && notificationAccountMatchesFilter request.accountId accountId none
  | some (.remote actorUri) =>
    !tables.mutedActorUris.contains actorUri
      && notificationAccountMatchesFilter request.accountId
        (Collections.remoteAccountRestId actorUri) (some actorUri)

def retainCandidatesFromUnmutedActors (env : ListingEnv) (tables : NotificationTables)
    (request : NotificationsRequest) (candidates : List NotificationCandidate) :
    List NotificationCandidate :=
  if candidates.all fun candidate => candidate.actor.isNone then candidates
  else candidates.filter (isFromUnmutedActor env tables request)

/-- Newest first, by the ids that clients see. -/
def NewerId (candidate other : NotificationCandidate) : Prop :=
  notificationApiNumericId rfc3339 other.identity
    ≤ notificationApiNumericId rfc3339 candidate.identity

instance : DecidableRel (NewerId rfc3339) :=
  fun _ _ => inferInstanceAs (Decidable (_ ≤ _))

def sortCandidatesNewestFirst (candidates : List NotificationCandidate) :
    List NotificationCandidate :=
  candidates.insertionSort (NewerId rfc3339)

def collectNotificationCandidates (env : ListingEnv) (tables : NotificationTables)
    (request : NotificationsRequest) (perTypeLimit : Nat) : List NotificationCandidate :=
  sortCandidatesNewestFirst env.rfc3339
    (retainCandidatesFromUnmutedActors env tables request
      (retainUndismissedCandidates (collectNotifications env tables request perTypeLimit)
        tables.dismissedIds tables.clearedAt))

/-- `filter_notification_entries_by_query`, for candidates. -/
def filterCandidatesByQuery (candidates : List NotificationCandidate)
    (query : NotificationsQuery) : List NotificationCandidate :=
  let identities := candidates.map NotificationCandidate.identity
  let maxCursor := resolveNotificationCursorKey rfc3339 identities query.maxId
  let minCursor := resolveNotificationCursorKey rfc3339 identities (query.minId.or query.sinceId)
  candidates.filter fun candidate =>
    maxCursor.all (fun value =>
        decide (notificationApiNumericId rfc3339 candidate.identity < value))
      && minCursor.all fun value =>
        decide (notificationApiNumericId rfc3339 candidate.identity > value)

/-! ## Rendering -/

/-- The rows that candidates are rendered from. Accounts are rendered to documents, statuses
by the preloads. -/
structure HydrationContext where
  accountsById : String → Option EntityDocument
  actorsByUri : String → Option EntityDocument
  loadedStatuses : List AuthoredLocalStatus
  canViewLocalStatus : AuthoredLocalStatus → Bool
  localStatusFields : AuthoredLocalStatus → List (String × Json)
  buildRemoteStatusResponse : AuthoredRemoteStatus → EntityDocument

namespace HydrationContext

variable (context : HydrationContext)

def loadedStatusesById (statusId : String) : Option AuthoredLocalStatus :=
  context.loadedStatuses.find? fun status => status.id == statusId

def buildLocalStatusResponse (status : AuthoredLocalStatus) : EntityDocument :=
  ⟨status.id, context.localStatusFields status⟩

def actorAccount : Option NotificationActorRef → Option EntityDocument
  | none => none
  | some (.local accountId) => context.accountsById accountId
  | some (.remote actorUri) => context.actorsByUri actorUri

def buildStatusNotificationEntry (id notificationType createdAt : String)
    (account status : EntityDocument) : NotificationEntry :=
  pushNotificationEntry rfc3339
    { id := id
      notificationType := notificationType
      groupKey := id
      createdAt := createdAt
      account := account
      status := some status
      collection := none }

def renderAuthoredLocalStatus (candidate : NotificationCandidate) (status : AuthoredLocalStatus) :
    Option NotificationEntry :=
  match candidate.actor with
  | some (.local accountId) =>
    (context.accountsById accountId).bind fun author =>
      if context.canViewLocalStatus status then
        some (buildStatusNotificationEntry rfc3339 candidate.id candidate.notificationType
          candidate.createdAt author (context.buildLocalStatusResponse status))
      else none
  | _ => none

def render (candidate : NotificationCandidate) : Option NotificationEntry :=
  match candidate.source with
  | .ready entry => some entry
  | .viewerStatusInteraction statusId =>
    (context.actorAccount candidate.actor).bind fun account =>
      (context.loadedStatusesById statusId).map fun status =>
        buildStatusNotificationEntry rfc3339 candidate.id candidate.notificationType
          candidate.createdAt account (context.buildLocalStatusResponse status)
  | .authoredLocalStatus status => context.renderAuthoredLocalStatus rfc3339 candidate status
  | .authoredLocalStatusById statusId =>
    (context.loadedStatusesById statusId).bind
      (context.renderAuthoredLocalStatus rfc3339 candidate)
  | .authoredRemoteStatus status =>
    (context.actorsByUri status.actorUri).map fun author =>
      buildStatusNotificationEntry rfc3339 candidate.id candidate.notificationType
        candidate.createdAt author (context.buildRemoteStatusResponse status)
  | .account =>
    (context.actorAccount candidate.actor).map fun account =>
      pushNotificationEntry rfc3339
        { id := candidate.id
          notificationType := candidate.notificationType
          groupKey := candidate.id
          createdAt := candidate.createdAt
          account := account
          status := none
          collection := none }

def hydrateNotificationCandidates (candidates : List NotificationCandidate) :
    List NotificationEntry :=
  if candidates.all fun candidate => candidate.actor.isNone then
    candidates.filterMap fun candidate =>
      match candidate.source with
      | .ready entry => some entry
      | _ => none
  else candidates.filterMap (context.render rfc3339)

/-- The hydration of the chunks of a page. -/
def hydration : Hydration Unit NotificationCandidate NotificationEntry :=
  fun chunk state => (.ok (context.hydrateNotificationCandidates rfc3339 chunk), state)

end HydrationContext

def listingCandidates (env : ListingEnv) (tables : NotificationTables)
    (request : NotificationsRequest) (limit : Nat) : List NotificationCandidate :=
  filterCandidatesByQuery env.rfc3339
    (collectNotificationCandidates env tables request (notificationsFetchLimit request limit))
    request.toNotificationsQuery

/-- `list_notifications_usecase`: the page, unless it is never filled. -/
def listNotifications (env : ListingEnv) (tables : NotificationTables)
    (context : HydrationContext) (request : NotificationsRequest) (limit : Nat) :
    Option (Except String (List NotificationEntry)) :=
  let candidates := listingCandidates env tables request limit
  (fillNotificationPage (context.hydration env.rfc3339) (candidates.length + 1) candidates limit
    (isForward request) ()).map Prod.fst

/-! ## What rendering keeps -/

section Rendering

variable {rfc3339} {context : HydrationContext} {candidate : NotificationCandidate}
  {entry : NotificationEntry}

/-- A time that stays as it is when it is normalised. -/
def Settled (rfc3339 : Rfc3339) (createdAt : String) : Prop :=
  timestampToMastodonIso8601 rfc3339 createdAt = createdAt

theorem settled_of_reads (lawful : rfc3339.Lawful) {stamp : StoredTimestamp}
    (reads : Reads rfc3339 stamp) :
    Settled rfc3339 (timestampToMastodonIso8601 rfc3339 stamp.text) := by
  cases stamp with
  | sqlite civil short =>
    obtain ⟨unread, read, -⟩ := reads
    have bare : (StoredTimestamp.sqlite civil short).text = String.ofList (civil.text ' ') :=
      congrArg String.ofList (List.append_nil _)
    rw [bare, iso8601_bareText lawful short unread read, Settled, iso8601_utcText]
  | iso civil short frac zone =>
    exact congrArg (timestampToMastodonIso8601 rfc3339) (iso8601_utcText civil frac zone)

structure Keeps (candidate : NotificationCandidate) (entry : NotificationEntry) : Prop where
  identity : entry.identity = candidate.identity
  notificationType : entry.value.notificationType = candidate.notificationType
  statusId : candidate.notificationType ∈ statusGroupTypes →
    entry.value.status.map EntityDocument.id = candidate.statusId

theorem identity_pushEntry {notif : MastodonNotificationResponse}
    (done : Settled rfc3339 notif.createdAt) :
    (pushNotificationEntry rfc3339 notif).identity = ⟨notif.id, notif.createdAt⟩ := by
  rw [NotificationEntry.identity, pushNotificationEntry]
  exact congrArg (NotificationIdentity.mk notif.id) done

theorem renderAuthored_keeps (done : Settled rfc3339 candidate.createdAt)
    (other : candidate.notificationType ∉ statusGroupTypes) {status : AuthoredLocalStatus}
    (rendered : context.renderAuthoredLocalStatus rfc3339 candidate status = some entry) :
    Keeps candidate entry := by
  rw [HydrationContext.renderAuthoredLocalStatus] at rendered
  split at rendered
  · obtain ⟨author, -, shown⟩ := Option.bind_eq_some_iff.mp rendered
    split_ifs at shown
    cases shown
    exact ⟨identity_pushEntry done, rfl, fun grouped => absurd grouped other⟩
  · cases rendered

/-- **An entry keeps the key, the time, the type and the status of its candidate**, as far as
groups of notifications are made from them. -/
theorem render_spec (agrees : candidate.Consistent)
    (done : Settled rfc3339 candidate.createdAt)
    (rendered : context.render rfc3339 candidate = some entry) : Keeps candidate entry := by
  rw [NotificationCandidate.Consistent] at agrees
  rw [HydrationContext.render] at rendered
  cases kind : candidate.source with
  | ready made =>
    rw [kind] at agrees rendered
    cases rendered
    dsimp only at agrees
    rw [agrees]
    exact ⟨rfl, rfl, fun _ => rfl⟩
  | viewerStatusInteraction statusId =>
    rw [kind] at agrees rendered
    obtain ⟨account, -, got⟩ := Option.bind_eq_some_iff.mp rendered
    obtain ⟨status, loaded, rfl⟩ := Option.map_eq_some_iff.mp got
    have sameId : status.id = statusId := by simpa using List.find?_some loaded
    refine ⟨identity_pushEntry done, rfl, fun _ => ?_⟩
    exact (congrArg some sameId).trans agrees.1.symm
  | account =>
    rw [kind] at agrees rendered
    obtain ⟨account, -, rfl⟩ := Option.map_eq_some_iff.mp rendered
    exact ⟨identity_pushEntry done, rfl, fun grouped => absurd grouped agrees.1⟩
  | authoredLocalStatus status =>
    rw [kind] at agrees rendered
    exact renderAuthored_keeps done agrees.1 rendered
  | authoredLocalStatusById statusId =>
    rw [kind] at agrees rendered
    obtain ⟨status, -, shown⟩ := Option.bind_eq_some_iff.mp rendered
    exact renderAuthored_keeps done agrees.1 shown
  | authoredRemoteStatus status =>
    rw [kind] at agrees rendered
    obtain ⟨author, -, rfl⟩ := Option.map_eq_some_iff.mp rendered
    exact ⟨identity_pushEntry done, rfl, fun grouped => absurd grouped agrees.1⟩

/-- **Each candidate is rendered on its own.** -/
theorem hydrate_eq {cands : List NotificationCandidate}
    (agrees : ∀ candidate ∈ cands, candidate.Consistent) :
    context.hydrateNotificationCandidates rfc3339 cands
      = cands.filterMap (context.render rfc3339) := by
  rw [HydrationContext.hydrateNotificationCandidates]
  split_ifs with withoutActors
  · apply List.filterMap_congr
    intro candidate mem
    have none := List.all_eq_true.mp withoutActors candidate mem
    have made := agrees candidate mem
    rw [NotificationCandidate.Consistent] at made
    rw [HydrationContext.render]
    cases kind : candidate.source with
    | ready entry => rfl
    | _ =>
      rw [kind] at made
      have actor := made.2
      rw [Option.isNone_iff_eq_none.mp none] at actor
      cases actor
  · rfl

end Rendering

/-! ## What is collected -/

section Collected

variable {env : ListingEnv} {tables : NotificationTables} {request : NotificationsRequest}
  {perTypeLimit : Nat} {candidate : NotificationCandidate}

theorem retained_of_mem_collect
    (mem : candidate ∈ collectNotificationCandidates env tables request perTypeLimit) :
    candidate ∈ retainUndismissedCandidates (collectNotifications env tables request perTypeLimit)
      tables.dismissedIds tables.clearedAt := by
  rw [collectNotificationCandidates, sortCandidatesNewestFirst,
    (List.perm_insertionSort _ _).mem_iff, retainCandidatesFromUnmutedActors] at mem
  split_ifs at mem
  · exact mem
  · exact List.mem_of_mem_filter mem

theorem exists_row_of_mem_collect
    (mem : candidate ∈ collectNotificationCandidates env tables request perTypeLimit) :
    ∃ source ∈ tables.sources, ∃ row ∈ source.rows, row.candidate request = some candidate := by
  have collected := List.mem_of_mem_filter (retained_of_mem_collect mem)
  obtain ⟨source, known, read⟩ := List.mem_flatMap.mp collected
  rw [NotificationSource.collect] at read
  split_ifs at read
  · obtain ⟨row, taken, made⟩ := List.mem_filterMap.mp read
    exact ⟨source, known, row, List.mem_of_mem_filter (List.mem_of_mem_take taken), made⟩
  · cases read

theorem consistent_of_mem_collect
    (mem : candidate ∈ collectNotificationCandidates env tables request perTypeLimit) :
    candidate.Consistent := by
  obtain ⟨source, -, row, -, made⟩ := exists_row_of_mem_collect mem
  exact row.consistent request candidate made

/-- **A listing shows the first of what its candidates render to**, or walking forward the
last. -/
theorem listNotifications_eq (context : HydrationContext) {limit : Nat}
    (fits : limit + max (limit / 4) 8 < usizeSize) :
    listNotifications env tables context request limit
      = some (.ok (pageOf (isForward request) limit
        (context.hydrateNotificationCandidates env.rfc3339
          (listingCandidates env tables request limit)))) := by
  have agrees : ∀ candidate ∈ listingCandidates env tables request limit,
      candidate.Consistent :=
    fun candidate mem => consistent_of_mem_collect (List.mem_of_mem_filter mem)
  have renders : ∀ chunk, (∀ candidate ∈ chunk,
        candidate ∈ listingCandidates env tables request limit) →
      ∀ state, context.hydration env.rfc3339 chunk state
        = (.ok (chunk.filterMap (context.render env.rfc3339)), state) := by
    intro chunk inside state
    rw [HydrationContext.hydration,
      hydrate_eq fun candidate mem => agrees candidate (inside candidate mem)]
  obtain ⟨post, filled⟩ := fillNotificationPage_of_renders fits renders (isForward request) ()
  rw [listNotifications, hydrate_eq agrees, filled]
  rfl

end Collected

end Cfwdon.Notifications
