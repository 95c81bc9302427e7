import Cfwdon.Library.Grouping
import Cfwdon.Notifications.IdOrder
import Cfwdon.Notifications.Listing

/-!
# Groups of notifications

Favourites and reblogs of one status, follows and sign-ups are shown in groups of half a day.
A group has a key, by which it is looked up: among what the lookup collects, which has limits
of its own.  A notification that is in no group has a key made of its id.
-/

namespace Cfwdon.Notifications

open Library

variable (rfc3339 : Rfc3339)

def groupableNotificationTypes : List String := ["favourite", "reblog", "follow", "admin.sign_up"]

def defaultGroupedNotificationTypes : List String := groupableNotificationTypes

/-- Twelve hours. -/
def notificationGroupSpanSecs : Int := 43200

def notificationUnixTime (createdAt : String) : Int :=
  (timestampUnixSeconds rfc3339 createdAt).getD 0

/-- What the key of a group begins with. -/
def groupStart (notificationType : String) (statusId : Option String) : Option String :=
  if notificationType = "favourite" ∨ notificationType = "reblog" then
    statusId.map fun statusId => notificationType ++ "-" ++ statusId
  else if notificationType = "follow" ∨ notificationType = "admin.sign_up" then
    some notificationType
  else none

def notificationGroupKeyFromParts (notificationType : String) (statusId : Option String)
    (createdAt : String) (apiId : Int) (groupedTypes : List String) : String :=
  let start :=
    if notificationType ∈ groupedTypes then groupStart notificationType statusId else none
  match start with
  | some start =>
    start ++ "-" ++ toString (notificationUnixTime rfc3339 createdAt / notificationGroupSpanSecs)
  | none => "ungrouped-" ++ toString apiId

def notificationV2GroupKey (groupedTypes : List String) (entry : NotificationEntry) : String :=
  notificationGroupKeyFromParts rfc3339 entry.value.notificationType
    (entry.value.status.map EntityDocument.id) entry.createdAt
    (notificationApiNumericId rfc3339 entry.identity) groupedTypes

def NotificationCandidate.groupKey (groupedTypes : List String)
    (candidate : NotificationCandidate) : String :=
  notificationGroupKeyFromParts rfc3339 candidate.notificationType candidate.statusId
    candidate.createdAt (notificationApiNumericId rfc3339 candidate.identity) groupedTypes

/-! ## The grouped document -/

/-- The groups of newest-first entries, in the order of their newest ones. -/
def notificationGroups (groupedTypes : List String) (entries : List NotificationEntry) :
    List (String × List NotificationEntry) :=
  (grouped (notificationV2GroupKey rfc3339 groupedTypes) entries).groups

/-- The value of a group in the document. -/
structure NotificationGroup where
  groupKey : String
  notificationType : String
  latestPageNotificationAt : String
  mostRecentNotificationId : Int
  pageMinId : String
  pageMaxId : String
  notificationsCount : Nat
  sampleAccountIds : List String
  statusId : Option String
  collection : Option Json

def maxSampleAccounts : Nat := 8

/-- The accounts of a group, up to the most that are shown. -/
def sampleAccountIds (group : List NotificationEntry) : List String :=
  group.foldl (fun ids entry =>
    if entry.value.account.id ∉ ids ∧ ids.length < maxSampleAccounts then
      ids ++ [entry.value.account.id]
    else ids) []

/-- Nothing for an empty group, which is never built. -/
def notificationGroupValue (key : String) (group : List NotificationEntry) :
    Option NotificationGroup := do
  let newest ← group.head?
  let oldest ← group.getLast?
  some
    { groupKey := key
      notificationType := newest.value.notificationType
      latestPageNotificationAt := timestampToMastodonIso8601 rfc3339 newest.createdAt
      mostRecentNotificationId := notificationApiNumericId rfc3339 newest.identity
      pageMinId := toString (notificationApiNumericId rfc3339 oldest.identity)
      pageMaxId := toString (notificationApiNumericId rfc3339 newest.identity)
      notificationsCount := group.length
      sampleAccountIds := sampleAccountIds group
      statusId := newest.value.status.map EntityDocument.id
      collection := newest.value.collection }

structure NotificationsV2Document where
  accounts : List EntityDocument
  statuses : List EntityDocument
  notificationGroups : List NotificationGroup

/-- The documents of different ids, the first one of each. -/
def uniqueDocuments (documents : List EntityDocument) : List EntityDocument :=
  documents.foldl (fun seen document =>
    if document.id ∈ seen.map EntityDocument.id then seen else seen ++ [document]) []

def buildNotificationsV2Document (groupedTypes : List String)
    (entries : List NotificationEntry) : NotificationsV2Document where
  accounts := uniqueDocuments (entries.map fun entry => entry.value.account)
  statuses := uniqueDocuments (entries.filterMap fun entry => entry.value.status)
  notificationGroups := (notificationGroups rfc3339 groupedTypes entries).filterMap
    fun (key, group) => notificationGroupValue rfc3339 key group

/-! ## Looking a group up -/

def notificationGroupCandidates (candidates : List NotificationCandidate) (groupKey : String)
    (groupedTypes : List String) : List NotificationCandidate :=
  match stripPrefix groupKey "ungrouped-" with
  | some notificationId => candidates.filter fun candidate =>
    notificationEntryMatchesCursorId rfc3339 candidate.identity notificationId
  | none => candidates.filter fun candidate => candidate.groupKey rfc3339 groupedTypes == groupKey

/-- `list_notification_group_entries_usecase`. -/
def listNotificationGroupEntries (env : ListingEnv) (tables : NotificationTables)
    (context : HydrationContext) (request : NotificationsRequest) (perTypeLimit : Nat)
    (groupKey : String) : List NotificationEntry :=
  context.hydrateNotificationCandidates env.rfc3339
    (notificationGroupCandidates env.rfc3339
      (collectNotificationCandidates env tables request perTypeLimit) groupKey
      defaultGroupedNotificationTypes)

def collectedEntries (env : ListingEnv) (tables : NotificationTables)
    (context : HydrationContext) (request : NotificationsRequest) (perTypeLimit : Nat) :
    List NotificationEntry :=
  context.hydrateNotificationCandidates env.rfc3339
    (collectNotificationCandidates env tables request perTypeLimit)

/-! ## Keys of groups and types -/

variable {rfc3339} {groupedTypes : List String} {entry other : NotificationEntry}
  {candidate : NotificationCandidate}

theorem groupStart_spec {notificationType start : String} {statusId : Option String}
    (made : groupStart notificationType statusId = some start) (rest : String) :
    notificationType ∈ groupableNotificationTypes
      ∧ (start ++ rest).toList.take 2 = notificationType.toList.take 2 := by
  have short {text : String} (long : 2 ≤ text.toList.length) (post : List Char) :
      (text.toList ++ post).take 2 = text.toList.take 2 :=
    List.take_append_of_le_length long
  rw [groupStart] at made
  split_ifs at made with status alone
  · obtain ⟨id, -, rfl⟩ := Option.map_eq_some_iff.mp made
    rw [String.append_assoc, String.append_assoc, String.toList_append]
    rcases status with rfl | rfl
    · exact ⟨by decide, short (by decide) _⟩
    · exact ⟨by decide, short (by decide) _⟩
  · cases made
    rw [String.toList_append]
    rcases alone with rfl | rfl
    · exact ⟨by decide, short (by decide) _⟩
    · exact ⟨by decide, short (by decide) _⟩

theorem type_eq_of_take {notificationType otherType : String}
    (groupable : notificationType ∈ groupableNotificationTypes)
    (otherGroupable : otherType ∈ groupableNotificationTypes)
    (eq : notificationType.toList.take 2 = otherType.toList.take 2) :
    notificationType = otherType := by
  have apart : ∀ first ∈ groupableNotificationTypes, ∀ second ∈ groupableNotificationTypes,
      first.toList.take 2 = second.toList.take 2 → first = second := by
    decide
  exact apart _ groupable _ otherGroupable eq

def NotificationEntry.start (groupedTypes : List String) (entry : NotificationEntry) :
    Option String :=
  if entry.value.notificationType ∈ groupedTypes then
    groupStart entry.value.notificationType (entry.value.status.map EntityDocument.id)
  else none

/-- The half of a day of an entry. -/
def NotificationEntry.bucket (rfc3339 : Rfc3339) (entry : NotificationEntry) : Int :=
  notificationUnixTime rfc3339 entry.createdAt / notificationGroupSpanSecs

theorem groupKey_of_start {start : String} (grouped : entry.start groupedTypes = some start) :
    notificationV2GroupKey rfc3339 groupedTypes entry
      = start ++ "-" ++ toString (entry.bucket rfc3339) := by
  rw [NotificationEntry.start] at grouped
  rw [notificationV2GroupKey, notificationGroupKeyFromParts, grouped]
  rfl

theorem groupKey_of_alone (alone : entry.start groupedTypes = none) :
    notificationV2GroupKey rfc3339 groupedTypes entry
      = "ungrouped-" ++ toString (notificationApiNumericId rfc3339 entry.identity) := by
  rw [NotificationEntry.start] at alone
  rw [notificationV2GroupKey, notificationGroupKeyFromParts, alone]

theorem start_eq_some {start : String} (grouped : entry.start groupedTypes = some start) :
    entry.value.notificationType ∈ groupedTypes
      ∧ groupStart entry.value.notificationType (entry.value.status.map EntityDocument.id)
        = some start := by
  rw [NotificationEntry.start] at grouped
  split_ifs at grouped with listed
  exact ⟨listed, grouped⟩

theorem start_ne_ungrouped {start rest after : String}
    (grouped : entry.start groupedTypes = some start) :
    start ++ rest ≠ "ungrouped-" ++ after := by
  intro eq
  obtain ⟨groupable, letters⟩ := groupStart_spec (start_eq_some grouped).2 rest
  have apart : ∀ first ∈ groupableNotificationTypes, first.toList.take 2 ≠ ['u', 'n'] := by
    decide
  refine apart _ groupable ?_
  rw [← letters, eq, String.toList_append,
    List.take_append_of_le_length (by decide : 2 ≤ "ungrouped-".toList.length)]
  decide

/-- **The key of a group is the same whichever types a client groups**: those that have the
key of a group that is listed have it with the types that are grouped without a choice. -/
theorem groupKey_iff_default {start : String} (grouped : entry.start groupedTypes = some start) :
    notificationV2GroupKey rfc3339 defaultGroupedNotificationTypes other
        = notificationV2GroupKey rfc3339 groupedTypes entry
      ↔ notificationV2GroupKey rfc3339 groupedTypes other
        = notificationV2GroupKey rfc3339 groupedTypes entry := by
  obtain ⟨listed, made⟩ := start_eq_some grouped
  rw [groupKey_of_start grouped]
  constructor
  · intro eq
    cases started : other.start defaultGroupedNotificationTypes with
    | none =>
      rw [groupKey_of_alone started, String.append_assoc] at eq
      exact absurd eq.symm (start_ne_ungrouped grouped)
    | some otherStart =>
      -- The two keys begin with the same letters, so the types are one, which is listed.
      obtain ⟨-, otherMade⟩ := start_eq_some started
      rw [groupKey_of_start started, String.append_assoc, String.append_assoc] at eq
      obtain ⟨groupable, letters⟩ := groupStart_spec made ("-" ++ toString (entry.bucket rfc3339))
      obtain ⟨otherGroupable, otherLetters⟩ := groupStart_spec otherMade
        ("-" ++ toString (other.bucket rfc3339))
      have oneType : other.value.notificationType = entry.value.notificationType :=
        type_eq_of_take otherGroupable groupable (by rw [← otherLetters, eq, letters])
      have startedHere : other.start groupedTypes = some otherStart := by
        rw [NotificationEntry.start, if_pos (oneType ▸ listed), otherMade]
      rw [groupKey_of_start startedHere, String.append_assoc, String.append_assoc, eq]
  · intro eq
    cases started : other.start groupedTypes with
    | none =>
      rw [groupKey_of_alone started, String.append_assoc] at eq
      exact absurd eq.symm (start_ne_ungrouped grouped)
    | some otherStart =>
      obtain ⟨-, otherMade⟩ := start_eq_some started
      have groupable : other.value.notificationType ∈ defaultGroupedNotificationTypes :=
        (groupStart_spec otherMade "").1
      have startedHere : other.start defaultGroupedNotificationTypes = some otherStart := by
        rw [NotificationEntry.start, if_pos groupable, otherMade]
      rw [groupKey_of_start startedHere, ← eq, groupKey_of_start started]

/-! ## What is looked up -/

section LookUp

variable {candidates : List NotificationCandidate} {context : HydrationContext}

theorem groupKey_eq_of_keeps (keeps : Keeps candidate entry) :
    notificationV2GroupKey rfc3339 groupedTypes entry = candidate.groupKey rfc3339 groupedTypes := by
  have made : entry.createdAt = candidate.createdAt :=
    congrArg NotificationIdentity.notificationCreatedAt keeps.identity
  have start : groupStart candidate.notificationType (entry.value.status.map EntityDocument.id)
      = groupStart candidate.notificationType candidate.statusId := by
    by_cases status : candidate.notificationType ∈ statusGroupTypes
    · rw [keeps.statusId status]
    · have neither : ¬ (candidate.notificationType = "favourite"
          ∨ candidate.notificationType = "reblog") := by
        simpa [statusGroupTypes] using status
      rw [groupStart, groupStart, if_neg neither, if_neg neither]
  rw [notificationV2GroupKey, NotificationCandidate.groupKey, notificationGroupKeyFromParts,
    notificationGroupKeyFromParts, keeps.notificationType, keeps.identity, made, start]

theorem hydrate_filter {chosen : NotificationCandidate → Bool}
    {kept : NotificationEntry → Bool}
    (agrees : ∀ candidate ∈ candidates, candidate.Consistent)
    (done : ∀ candidate ∈ candidates, Settled rfc3339 candidate.createdAt)
    (eq : ∀ candidate entry, Keeps candidate entry → kept entry = chosen candidate) :
    context.hydrateNotificationCandidates rfc3339 (candidates.filter chosen)
      = (context.hydrateNotificationCandidates rfc3339 candidates).filter kept := by
  rw [hydrate_eq agrees,
    hydrate_eq fun candidate mem => agrees candidate (List.mem_of_mem_filter mem),
    List.filterMap_filter, List.filter_filterMap]
  apply List.filterMap_congr
  intro candidate mem
  cases rendered : context.render rfc3339 candidate with
  | none => rw [ite_self, Option.filter_none]
  | some entry =>
    have keeps := render_spec (agrees candidate mem) (done candidate mem) rendered
    rw [Option.filter_some, eq candidate entry keeps]

variable {env : ListingEnv} {tables : NotificationTables}
  {request : NotificationsRequest} {perTypeLimit : Nat}

def CollectsSettled (env : ListingEnv) (tables : NotificationTables)
    (request : NotificationsRequest) : Prop :=
  ∀ source ∈ tables.sources, ∀ row ∈ source.rows, ∀ candidate,
    row.candidate request = some candidate → Settled env.rfc3339 candidate.createdAt

theorem settled_of_mem_collect (done : CollectsSettled env tables request)
    (mem : candidate ∈ collectNotificationCandidates env tables request perTypeLimit) :
    Settled env.rfc3339 candidate.createdAt := by
  obtain ⟨source, known, row, inRows, made⟩ := exists_row_of_mem_collect mem
  exact done source known row inRows candidate made

/-- **What is looked up by the key of a group**: the collected notifications with the key. -/
theorem lookUp_group (done : CollectsSettled env tables request) {key : String}
    (grouped : stripPrefix key "ungrouped-" = none) :
    listNotificationGroupEntries env tables context request perTypeLimit key
      = (collectedEntries env tables context request perTypeLimit).filter fun entry =>
        notificationV2GroupKey env.rfc3339 defaultGroupedNotificationTypes entry == key := by
  rw [listNotificationGroupEntries, notificationGroupCandidates, grouped]
  refine hydrate_filter (fun candidate => consistent_of_mem_collect)
    (fun candidate => settled_of_mem_collect done) fun candidate entry keeps => ?_
  rw [groupKey_eq_of_keeps keeps]

/-- **What is looked up by the key of an id that stands for no hash**: the collected
notifications with the id, or with its text as their own key. -/
theorem lookUp_ungrouped (done : CollectsSettled env tables request) {id : Int}
    (low : -9223372036854775808 ≤ id) (fits : id ≤ 9223372036854775807)
    (timed : isLegacyNotificationApiId id = false) :
    listNotificationGroupEntries env tables context request perTypeLimit
        ("ungrouped-" ++ toString id)
      = (collectedEntries env tables context request perTypeLimit).filter fun entry =>
        entry.id == toString id || notificationApiNumericId env.rfc3339 entry.identity == id := by
  rw [listNotificationGroupEntries, notificationGroupCandidates, stripPrefix_append]
  refine hydrate_filter (fun candidate => consistent_of_mem_collect)
    (fun candidate => settled_of_mem_collect done) fun candidate entry keeps => ?_
  have sameId : entry.id = candidate.identity.notificationKey :=
    congrArg NotificationIdentity.notificationKey keeps.identity
  rw [notificationEntryMatchesCursorId, parseI64_toString_of_fits low fits, keeps.identity, sameId]
  dsimp only
  rw [timed, if_neg Bool.false_ne_true]

end LookUp

/-! ## What is listed -/

section Listed

variable {env : ListingEnv} {tables : NotificationTables} {context : HydrationContext}
  {request : NotificationsRequest}

/-- `query.limit.unwrap_or(default).clamp(1, max)`: the limit of a route. -/
def routeLimit (request : NotificationsRequest) (default most : Nat) : Nat :=
  min (max (request.limit.getD default) 1) most

def requestGroupedTypes (request : NotificationsRequest) : List String :=
  request.groupedTypes.getD defaultGroupedNotificationTypes

theorem apiNumericId_range (identity : NotificationIdentity) :
    -9223372036854775808 ≤ notificationApiNumericId rfc3339 identity
      ∧ notificationApiNumericId rfc3339 identity ≤ 9223372036854775807 := by
  unfold notificationApiNumericId notificationApiId
  generalize (createdAtMillis rfc3339 identity.notificationCreatedAt <<< 16
    ||| ((fnv1a64 identity.notificationKey.toUTF8.data.toList).toNat &&& 65535)) = num
  have low := Int.le_bmod (x := (num : Int)) (m := 18446744073709551616) (by norm_num)
  have high := Int.bmod_lt (x := (num : Int)) (m := 18446744073709551616) (by norm_num)
  norm_num at low high
  constructor
  · linarith
  · linarith

theorem document_groups (entries : List NotificationEntry) :
    (buildNotificationsV2Document rfc3339 groupedTypes entries).notificationGroups.map
        (fun group => (group.groupKey, group.notificationsCount))
      = (notificationGroups rfc3339 groupedTypes entries).map
        fun (key, members) => (key, members.length) := by
  rw [buildNotificationsV2Document, List.map_filterMap, ← List.filterMap_eq_map]
  apply List.filterMap_congr
  rintro ⟨key, members⟩ mem
  obtain ⟨⟨first, inEntries, sameKey⟩, rfl⟩ := mem_groups_iff.mp mem
  have ne : (entries.filter fun entry =>
      notificationV2GroupKey rfc3339 groupedTypes entry = key) ≠ [] :=
    List.ne_nil_of_mem (List.mem_filter.mpr ⟨inEntries, decide_eq_true sameKey⟩)
  obtain ⟨newest, isNewest⟩ := Option.isSome_iff_exists.mp (List.isSome_head?.mpr ne)
  have isOldest := List.getLast?_eq_some_getLast ne
  dsimp only
  rw [notificationGroupValue, isNewest, isOldest]
  rfl

/-- **The groups partition what is listed, and a key looks up its group**: among the
notifications that the lookup collects, exactly those with the key of the group, or with the
id of a notification in no group. -/
theorem listed_groups {lookup : NotificationsRequest} (settled : CollectsSettled env tables lookup) :
    ∃ listed, listNotifications env tables context request (routeLimit request 40 80)
        = some (.ok listed)
      ∧ ((notificationGroups env.rfc3339 (requestGroupedTypes request) listed).flatMap
          Prod.snd).Perm listed
      ∧ ((notificationGroups env.rfc3339 (requestGroupedTypes request) listed).map Prod.fst).Nodup
      ∧ (buildNotificationsV2Document env.rfc3339 (requestGroupedTypes request)
            listed).notificationGroups.map (fun group => (group.groupKey, group.notificationsCount))
          = (notificationGroups env.rfc3339 (requestGroupedTypes request) listed).map
            (fun (key, members) => (key, members.length))
      ∧ ∀ key members,
        (key, members) ∈ notificationGroups env.rfc3339 (requestGroupedTypes request) listed →
        members ≠ []
          ∧ members = listed.filter (fun entry =>
            notificationV2GroupKey env.rfc3339 (requestGroupedTypes request) entry = key)
          ∧ (stripPrefix key "ungrouped-" = none →
            listNotificationGroupEntries env tables context lookup (routeLimit lookup 100 1000) key
              = (collectedEntries env tables context lookup (routeLimit lookup 100 1000)).filter
                fun entry =>
                  notificationV2GroupKey env.rfc3339 (requestGroupedTypes request) entry = key)
          ∧ ∀ id, key = "ungrouped-" ++ toString id → isLegacyNotificationApiId id = false →
            listNotificationGroupEntries env tables context lookup (routeLimit lookup 100 1000) key
              = (collectedEntries env tables context lookup (routeLimit lookup 100 1000)).filter
                fun entry => entry.id = toString id
                  ∨ notificationApiNumericId env.rfc3339 entry.identity = id := by
  have fits : routeLimit request 40 80 + max (routeLimit request 40 80 / 4) 8 < usizeSize := by
    have most : routeLimit request 40 80 ≤ 80 := Nat.min_le_right _ _
    rw [usizeSize]
    omega
  have filled := @listNotifications_eq env tables request context _ fits
  generalize pageOf _ _ _ = listed at filled
  refine ⟨listed, filled, perm_flatten_groups, ?_, document_groups listed, ?_⟩
  · rw [notificationGroups, map_fst_groups]
    exact nodup_order_grouped
  · intro key members mem
    obtain ⟨⟨first, inListed, sameKey⟩, rfl⟩ := mem_groups_iff.mp mem
    have ne : first ∈ listed.filter fun entry =>
        notificationV2GroupKey env.rfc3339 (requestGroupedTypes request) entry = key :=
      List.mem_filter.mpr ⟨inListed, decide_eq_true sameKey⟩
    refine ⟨List.ne_nil_of_mem ne, rfl, ?_, ?_⟩
    · intro plain
      cases started : first.start (requestGroupedTypes request) with
      | none =>
        rw [← sameKey, groupKey_of_alone started, stripPrefix_append] at plain
        cases plain
      | some start =>
        rw [lookUp_group settled plain]
        refine List.filter_congr fun entry _ => ?_
        rw [← sameKey]
        exact decide_eq_decide.mpr (groupKey_iff_default started)
    · intro id isId timed
      cases started : first.start (requestGroupedTypes request) with
      | none =>
        rw [isId, groupKey_of_alone started, String.append_right_inj] at sameKey
        obtain ⟨low, high⟩ := @apiNumericId_range env.rfc3339 first.identity
        rw [toString_inj sameKey] at low high
        rw [isId, lookUp_ungrouped settled low high timed]
        exact List.filter_congr fun entry _ => (Bool.decide_or _ _).symm
      | some start =>
        rw [isId, groupKey_of_start started, String.append_assoc] at sameKey
        exact absurd sameKey (start_ne_ungrouped started)

/-! ### Two favourites of a status -/

def octoberFavourite (accountId : String) : NotificationCandidate :=
  .viewerStatusInteraction (rfc3339AtRow octoberTime) "favourite" (.local accountId) "2"
    "2026-10-07 05:00:00"

theorem consistent_octoberFavourite (accountId : String) (request : NotificationsRequest)
    (made : NotificationCandidate)
    (eq : (fun _ : NotificationsRequest => some (octoberFavourite accountId)) request = some made) :
    made.Consistent := by
  cases eq
  exact consistent_viewerStatusEvent _ _ _ _ _

def octoberFavouriteRow (accountId : String) : NotificationRow where
  column := "2026-10-07 05:00:00"
  candidate := fun _ => some (octoberFavourite accountId)
  consistent := consistent_octoberFavourite accountId

def octoberEnv : ListingEnv where
  rfc3339 := rfc3339AtRow octoberTime
  fromUnixTimestamp := civilOfUnix
  instanceDomain := "here.example"

def octoberTables : NotificationTables where
  sources := [⟨some "favourite", some .sqlite, [octoberFavouriteRow "1", octoberFavouriteRow "3"]⟩]
  dismissedIds := []
  clearedAt := none
  usernameOfAccount := some
  mutedActorUris := []

def octoberContext : HydrationContext where
  accountsById accountId := some ⟨accountId, []⟩
  actorsByUri _ := none
  loadedStatuses := [⟨"2", "0", "2026-10-07 04:00:00"⟩]
  canViewLocalStatus _ := true
  localStatusFields _ := []
  buildRemoteStatusResponse status := ⟨status.id, []⟩

def octoberRequest (limit : Option Nat) : NotificationsRequest where
  maxId := none
  sinceId := none
  minId := none
  minCreatedAt := none
  limit := limit
  accountId := none
  types := none
  excludeTypes := none
  groupedTypes := none

theorem octoberFavourite_settled (accountId : String) :
    Settled (rfc3339AtRow octoberTime) (octoberFavourite accountId).createdAt := by
  have text : octoberStamp.text = "2026-10-07 05:00:00" := by decide +kernel
  have done := settled_of_reads (lawful_rfc3339AtRow (by decide)) reads_octoberStamp
  rwa [text] at done

theorem octoberTables_settled (request : NotificationsRequest) :
    CollectsSettled octoberEnv octoberTables request := by
  intro source known row inRows candidate made
  have isSource := List.mem_singleton.mp known
  rw [isSource] at inRows
  rcases List.mem_pair.mp inRows with rfl | rfl
  · cases made
    exact octoberFavourite_settled "1"
  · cases made
    exact octoberFavourite_settled "3"

/-- A page with one of the two favourites. -/
theorem listed_groups_october :
    ∃ listed, listNotifications octoberEnv octoberTables octoberContext (octoberRequest (some 1))
          (routeLimit (octoberRequest (some 1)) 40 80)
        = some (.ok listed)
      ∧ ((notificationGroups octoberEnv.rfc3339 (requestGroupedTypes (octoberRequest (some 1)))
          listed).flatMap Prod.snd).Perm listed
      ∧ ((notificationGroups octoberEnv.rfc3339 (requestGroupedTypes (octoberRequest (some 1)))
          listed).map Prod.fst).Nodup
      ∧ (buildNotificationsV2Document octoberEnv.rfc3339
            (requestGroupedTypes (octoberRequest (some 1))) listed).notificationGroups.map
            (fun group => (group.groupKey, group.notificationsCount))
          = (notificationGroups octoberEnv.rfc3339
              (requestGroupedTypes (octoberRequest (some 1))) listed).map
            (fun (key, members) => (key, members.length))
      ∧ ∀ key members, (key, members) ∈ notificationGroups octoberEnv.rfc3339
          (requestGroupedTypes (octoberRequest (some 1))) listed →
        members ≠ []
          ∧ members = listed.filter (fun entry => notificationV2GroupKey octoberEnv.rfc3339
            (requestGroupedTypes (octoberRequest (some 1))) entry = key)
          ∧ (stripPrefix key "ungrouped-" = none →
            listNotificationGroupEntries octoberEnv octoberTables octoberContext
                (octoberRequest none) (routeLimit (octoberRequest none) 100 1000) key
              = (collectedEntries octoberEnv octoberTables octoberContext
                (octoberRequest none) (routeLimit (octoberRequest none) 100 1000)).filter
                fun entry => notificationV2GroupKey octoberEnv.rfc3339
                  (requestGroupedTypes (octoberRequest (some 1))) entry = key)
          ∧ ∀ id, key = "ungrouped-" ++ toString id → isLegacyNotificationApiId id = false →
            listNotificationGroupEntries octoberEnv octoberTables octoberContext
                (octoberRequest none) (routeLimit (octoberRequest none) 100 1000) key
              = (collectedEntries octoberEnv octoberTables octoberContext
                (octoberRequest none) (routeLimit (octoberRequest none) 100 1000)).filter
                fun entry => entry.id = toString id
                  ∨ notificationApiNumericId octoberEnv.rfc3339 entry.identity = id :=
  listed_groups (octoberTables_settled (octoberRequest none))

/-- The group on the page has one member, and its key looks up two. -/
theorem group_beyond_page :
    ∃ listed, listNotifications octoberEnv octoberTables octoberContext (octoberRequest (some 1))
          (routeLimit (octoberRequest (some 1)) 40 80)
        = some (.ok listed)
      ∧ (notificationGroups octoberEnv.rfc3339 (requestGroupedTypes (octoberRequest (some 1)))
          listed).map (fun (key, members) => (key, members.map NotificationEntry.id))
        = [("favourite-2-41466", ["favourite-local-3-2"])]
      ∧ (listNotificationGroupEntries octoberEnv octoberTables octoberContext
          (octoberRequest none) (routeLimit (octoberRequest none) 100 1000)
          "favourite-2-41466").map NotificationEntry.id
        = ["favourite-local-3-2", "favourite-local-1-2"] := by
  refine ⟨_, listNotifications_eq octoberContext (by decide), ?_, ?_⟩
  · decide +kernel
  · decide +kernel

end Listed

end Cfwdon.Notifications
