import Cfwdon.HomeTimeline.Candidates
import Cfwdon.Remote.ReplyArrivals

/-!
# The timeline of a list

The members of a list, and the replies that belong on its timeline.
-/

namespace Cfwdon.Lists

section Members

/-! ## Members of a list

A row of `account_list_memberships` holds whatever reference a client has sent: the id of a
local account, the URI of an actor, or a handle.  The queries of a list resolve each of these
against the two tables of accounts.  The handle of a local account has to be written as the
account is; that of an actor may differ in the case of its letters, and at most one actor has
a handle up to case.
-/

open Library Statuses
open HomeTimeline (TimelineFollow)

/-- An account or an actor. -/
inductive Who where
  | ofAccount (id : String)
  | ofActor (actorUri : String)

/-- What a list reads of a row of `accounts`.  `Username::parse` keeps letters, digits and
underscores only. -/
structure Account where
  id : String
  username : String
  plain : '@' ∉ username.toList

/-- What a list reads of a row of `remote_actors`. -/
structure RemoteActor where
  actorUri : String
  username : String
  domain : String

/-- `UNIQUE (lower(username), lower(domain))`. -/
def RemoteActor.handle (actor : RemoteActor) : String × String :=
  (toAsciiLowercase actor.username, toAsciiLowercase actor.domain)

/-- What a list reads of a row of `statuses`. -/
structure LocalStatus where
  id : String
  accountId : String
  apId : Option String
  inReplyToId : Option String
  visibility : Visibility
  createdAt : String
  deriving DecidableEq

/-- The columns by which a URI is resolved. -/
def LocalStatus.row (status : LocalStatus) : Remote.LocalStatusRow :=
  ⟨status.id, status.accountId, status.apId⟩

/-- `replies_policy`, as `normalize_replies_policy` leaves it. -/
inductive RepliesPolicy where
  | followed
  | list
  | none
  deriving DecidableEq

/-- What is read of a row of `account_lists`. -/
structure AccountList where
  id : String
  accountId : String
  repliesPolicy : RepliesPolicy

/-- A row of `account_list_memberships`. -/
structure Membership where
  listId : String
  targetAccountRef : String
  createdAt : String

/-- `PRIMARY KEY (list_id, target_account_ref)`. -/
def Membership.key (membership : Membership) : String × String :=
  (membership.listId, membership.targetAccountRef)

structure ListTables where
  accounts : Table Account Account.id
  remoteActors : Table RemoteActor RemoteActor.handle
  statuses : Table LocalStatus LocalStatus.id
  remoteStatuses : Remote.RemoteStatuses
  follows : List TimelineFollow
  lists : Table AccountList AccountList.id
  memberships : Table Membership Membership.key

def normalizeRepliesPolicy (value : String) : Except String RepliesPolicy :=
  let normalized := toAsciiLowercase (trim value)
  if normalized = "followed" then .ok .followed
  else if normalized = "list" then .ok .list
  else if normalized = "none" then .ok .none
  else .error "replies_policy must be one of: followed, list, none"

variable (tables : ListTables) (instanceDomain listId : String)

/-! ## Queries -/

def accountHandle (account : Account) : String :=
  account.username ++ "@" ++ instanceDomain

/-- `substr(ref, 1, instr(ref, '@') - 1)`, which is empty without an `@`. -/
def beforeAt (reference : String) : String :=
  ((splitOnce reference '@').map Prod.fst).getD ""

/-- `substr(ref, instr(ref, '@') + 1)`, which is the whole text without an `@`. -/
def afterAt (reference : String) : String :=
  ((splitOnce reference '@').map Prod.snd).getD reference

def membershipRefs : List String :=
  (tables.memberships.rows.filter (·.listId == listId)).map Membership.targetAccountRef

/-- `LOCAL_LIST_MEMBERS_SQL`. -/
def localListMembers : List String :=
  ((membershipRefs tables listId).flatMap fun reference =>
      (tables.accounts.select (·.id == reference)).map Account.id)
    ∪ (membershipRefs tables listId).flatMap fun reference =>
      (tables.accounts.select fun account => account.username == beforeAt reference
        && reference == accountHandle instanceDomain account).map Account.id

/-- The correlated subquery of `REMOTE_LIST_MEMBERS_SQL`: its first row, or nothing. -/
def actorUriOfHandle (reference : String) : Option String :=
  (tables.remoteActors.rows.find? fun actor =>
    toAsciiLowercase actor.username == toAsciiLowercase (beforeAt reference)
      && toAsciiLowercase actor.domain == toAsciiLowercase (afterAt reference)).map
    RemoteActor.actorUri

/-- `REMOTE_LIST_MEMBERS_SQL`. -/
def remoteListMembers : List String :=
  ((membershipRefs tables listId).flatMap fun reference =>
      (tables.remoteActors.select (·.actorUri == reference)).map RemoteActor.actorUri)
    ∪ ((membershipRefs tables listId).filter fun reference =>
        reference.toList.contains '@').filterMap (actorUriOfHandle tables)

/-- A reference names an account or an actor, in one of its forms. -/
def Names (reference : String) : Who → Prop
  | .ofAccount id =>
    ∃ account ∈ tables.accounts.rows, account.id = id
      ∧ (reference = account.id ∨ reference = accountHandle instanceDomain account)
  | .ofActor actorUri =>
    ∃ actor ∈ tables.remoteActors.rows, actor.actorUri = actorUri
      ∧ (reference = actor.actorUri
        ∨ ∃ username domain, splitOnce reference '@' = some (username, domain)
          ∧ (toAsciiLowercase username, toAsciiLowercase domain) = actor.handle)

/-- The account or actor is a member of the list. -/
def IsMember (who : Who) : Prop :=
  ∃ reference ∈ membershipRefs tables listId, Names tables instanceDomain reference who

variable {tables instanceDomain listId}

/-! ## What the queries find -/

theorem beforeAt_accountHandle (account : Account) :
    beforeAt (accountHandle instanceDomain account) = account.username := by
  have split : splitOnce (accountHandle instanceDomain account) '@'
      = some (account.username, instanceDomain) :=
    splitOnce_of_toList (by simp [accountHandle]) account.plain
  rw [beforeAt, split]
  rfl

/-- **`LOCAL_LIST_MEMBERS_SQL` finds the accounts that the list names.** -/
theorem mem_localListMembers_iff {id : String} :
    id ∈ localListMembers tables instanceDomain listId
      ↔ IsMember tables instanceDomain listId (.ofAccount id) := by
  simp only [localListMembers, List.mem_union_iff, List.mem_flatMap, List.mem_map, Table.select,
    List.mem_filter, Bool.and_eq_true, beq_iff_eq]
  constructor
  · rintro (⟨ref, named, account, ⟨held, rfl⟩, rfl⟩
      | ⟨ref, named, account, ⟨held, -, rfl⟩, rfl⟩)
    · exact ⟨_, named, account, held, rfl, Or.inl rfl⟩
    · exact ⟨_, named, account, held, rfl, Or.inr rfl⟩
  · rintro ⟨ref, named, account, held, rfl, rfl | rfl⟩
    · exact Or.inl ⟨_, named, account, ⟨held, rfl⟩, rfl⟩
    · exact Or.inr ⟨_, named, account, ⟨held, (beforeAt_accountHandle account).symm, rfl⟩, rfl⟩

theorem actorUriOfHandle_iff {ref username domain actorUri : String}
    (split : splitOnce ref '@' = some (username, domain)) :
    actorUriOfHandle tables ref = some actorUri
      ↔ ∃ actor ∈ tables.remoteActors.rows, actor.actorUri = actorUri
          ∧ (toAsciiLowercase username, toAsciiLowercase domain) = actor.handle := by
  have pre : beforeAt ref = username := by rw [beforeAt, split]; rfl
  have post : afterAt ref = domain := by rw [afterAt, split]; rfl
  rw [actorUriOfHandle, pre, post, Option.map_eq_some_iff]
  constructor
  · rintro ⟨actor, got, rfl⟩
    have eq := List.find?_some got
    rw [Bool.and_eq_true, beq_iff_eq, beq_iff_eq] at eq
    refine ⟨actor, List.mem_of_find?_eq_some got, rfl, ?_⟩
    rw [RemoteActor.handle, eq.1, eq.2]
  · rintro ⟨actor, held, rfl, eq⟩
    rw [RemoteActor.handle, Prod.mk.injEq] at eq
    have holds : (toAsciiLowercase actor.username == toAsciiLowercase username
        && toAsciiLowercase actor.domain == toAsciiLowercase domain) = true := by
      rw [eq.1, eq.2, Bool.and_eq_true, beq_iff_eq, beq_iff_eq]
      exact ⟨rfl, rfl⟩
    obtain ⟨first, got⟩ : ∃ first, (tables.remoteActors.rows.find? fun actor =>
        toAsciiLowercase actor.username == toAsciiLowercase username
          && toAsciiLowercase actor.domain == toAsciiLowercase domain) = some first :=
      Option.isSome_iff_exists.mp (List.find?_isSome.mpr ⟨actor, held, holds⟩)
    have firstHolds := List.find?_some got
    rw [Bool.and_eq_true, beq_iff_eq, beq_iff_eq] at firstHolds
    -- the handle is unique, so the first row is the only one
    have only : first = actor := Table.eq_of_key_eq (List.mem_of_find?_eq_some got) held (by
      rw [RemoteActor.handle, RemoteActor.handle, firstHolds.1, firstHolds.2, eq.1, eq.2])
    exact ⟨first, got, by rw [only]⟩

variable (instanceDomain) in
/-- **`REMOTE_LIST_MEMBERS_SQL` finds the actors that the list names.** -/
theorem mem_remoteListMembers_iff {actorUri : String} :
    actorUri ∈ remoteListMembers tables listId
      ↔ IsMember tables instanceDomain listId (.ofActor actorUri) := by
  simp only [remoteListMembers, List.mem_union_iff, List.mem_flatMap, List.mem_map, Table.select,
    List.mem_filter, List.mem_filterMap, beq_iff_eq, List.contains_iff_mem]
  constructor
  · rintro (⟨ref, named, actor, ⟨held, rfl⟩, rfl⟩ | ⟨ref, ⟨named, at_⟩, got⟩)
    · exact ⟨_, named, actor, held, rfl, Or.inl rfl⟩
    · obtain ⟨username, domain, split⟩ := exists_splitOnce_of_mem at_
      obtain ⟨actor, held, eq, handle⟩ := (actorUriOfHandle_iff split).mp got
      exact ⟨_, named, actor, held, eq, Or.inr ⟨username, domain, split, handle⟩⟩
  · rintro ⟨ref, named, actor, held, eq, rfl | ⟨username, domain, split, handle⟩⟩
    · exact Or.inl ⟨_, named, actor, ⟨held, rfl⟩, eq⟩
    · have at_ : '@' ∈ ref.toList := by
        by_contra absent
        rw [splitOnce_eq_none absent] at split
        cases split
      exact Or.inr ⟨_, ⟨named, at_⟩, (actorUriOfHandle_iff split).mpr ⟨actor, held, eq, handle⟩⟩

end Members

section Candidates

/-! ## Replies on the timeline of a list

A reply belongs on the timeline of a list if it answers its own author or the owner of the
list.  Beyond that, the policy of the list lets through the replies to accounts that the owner
follows, or to members of the list.  The author of the parent is looked up by the id that the
reply has for its parent, in both tables of statuses.  Only the members are not: a local reply
is compared with the local members, and a remote one with the remote members.  A remote reply
whose parent has not been linked yet has no id to look up.
-/

open Library Statuses

variable (tables : ListTables) (instanceDomain : String) (list : AccountList)

def parentIsLocal (id : Option String) (holds : LocalStatus → Bool) : Bool :=
  tables.statuses.exists? fun parent => id == some parent.id && holds parent

def parentIsRemote (id : Option String) (holds : Remote.RemoteStatus → Bool) : Bool :=
  tables.remoteStatuses.exists? fun parent => id == some parent.id && holds parent

/-- An accepted row of `follows` with a local target. -/
def followsAccount (owner accountId : String) : Bool :=
  tables.follows.any fun follow =>
    follow.targetAccountId == some accountId && follow.followerAccountId == owner && follow.accepted

/-- An accepted row of `follows` with a remote target. -/
def followsActor (owner actorUri : String) : Bool :=
  tables.follows.any fun follow =>
    follow.targetActorUri == actorUri && follow.followerAccountId == owner && follow.accepted

/-- `local_list_replies_predicate`, for a row. -/
def localListRepliesPredicate (status : LocalStatus) : Bool :=
  status.inReplyToId == none
    || parentIsLocal tables status.inReplyToId (fun parent =>
      parent.accountId == status.accountId || parent.accountId == list.accountId)
    || match list.repliesPolicy with
      | .followed =>
        parentIsLocal tables status.inReplyToId
            (fun parent => followsAccount tables list.accountId parent.accountId)
          || parentIsRemote tables status.inReplyToId
            (fun parent => followsActor tables list.accountId parent.actorUri)
      | .list =>
        parentIsLocal tables status.inReplyToId fun parent =>
          (localListMembers tables instanceDomain list.id).contains parent.accountId
      | .none => false

/-- `remote_list_replies_predicate`, for a row. -/
def remoteListRepliesPredicate (status : Remote.RemoteStatus) : Bool :=
  status.inReplyToUri == none
    || parentIsRemote tables status.inReplyToId (fun parent =>
      parent.actorUri == status.actorUri)
    || parentIsLocal tables status.inReplyToId (fun parent =>
      parent.accountId == list.accountId)
    || match list.repliesPolicy with
      | .followed =>
        parentIsRemote tables status.inReplyToId
            (fun parent => followsActor tables list.accountId parent.actorUri)
          || parentIsLocal tables status.inReplyToId
            (fun parent => followsAccount tables list.accountId parent.accountId)
      | .list =>
        parentIsRemote tables status.inReplyToId fun parent =>
          (remoteListMembers tables list.id).contains parent.actorUri
      | .none => false

/-! ## Candidates -/

/-- A row of one of the two tables of statuses. -/
inductive ListedStatus where
  | ofLocal (status : LocalStatus)
  | ofRemote (status : Remote.RemoteStatus)
  deriving DecidableEq

namespace ListedStatus

variable (status : ListedStatus)

def id : ListedStatus → String
  | .ofLocal status => status.id
  | .ofRemote status => status.id

def author : ListedStatus → Who
  | .ofLocal status => .ofAccount status.accountId
  | .ofRemote status => .ofActor status.actorUri

/-- The id that the row has for its parent. -/
def inReplyToId : ListedStatus → Option String
  | .ofLocal status => status.inReplyToId
  | .ofRemote status => status.inReplyToId

/-- The status is a reply; a remote one names its parent by a URI first. -/
def isReply : ListedStatus → Bool
  | .ofLocal status => status.inReplyToId.isSome
  | .ofRemote status => status.inReplyToUri.isSome

def visibility : ListedStatus → Visibility
  | .ofLocal status => status.visibility
  | .ofRemote status => status.visibility

end ListedStatus

def ListTables.Stores : ListedStatus → Prop
  | .ofLocal status => status ∈ tables.statuses.rows
  | .ofRemote status => status ∈ tables.remoteStatuses.rows

/-- The reply predicate of the query that a status is selected by. -/
def repliesPredicate : ListedStatus → Bool
  | .ofLocal status => localListRepliesPredicate tables instanceDomain list status
  | .ofRemote status => remoteListRepliesPredicate tables list status

def visibleToOwner (status : ListedStatus) : Bool :=
  status.visibility == .publicPost || status.visibility == .unlisted
    || status.visibility == .followersOnly
      && match status with
        | .ofLocal status => followsAccount tables list.accountId status.accountId
        | .ofRemote status => followsActor tables list.accountId status.actorUri

/-- `list_candidate_query` of both sources for the owner of the list, without a cursor and a
limit. -/
def listCandidates : List ListedStatus :=
  ((localListMembers tables instanceDomain list.id).flatMap fun member =>
      ((tables.statuses.select (·.accountId == member)).map ListedStatus.ofLocal).filter
        fun status => visibleToOwner tables list status
          && repliesPredicate tables instanceDomain list status)
    ++ (remoteListMembers tables list.id).flatMap fun member =>
      ((tables.remoteStatuses.select (·.actorUri == member)).map ListedStatus.ofRemote).filter
        fun status => visibleToOwner tables list status
          && repliesPredicate tables instanceDomain list status

/-! ## The rule -/

/-- The owner of the list follows the account or the actor. -/
def Follows : Who → Prop
  | .ofAccount id =>
    ∃ follow ∈ tables.follows, follow.accepted = true
      ∧ follow.followerAccountId = list.accountId ∧ follow.targetAccountId = some id
  | .ofActor actorUri =>
    ∃ follow ∈ tables.follows, follow.accepted = true
      ∧ follow.followerAccountId = list.accountId ∧ follow.targetActorUri = actorUri

/-- The author of the parent is the author of the reply, or the owner of the list, or one
whom the policy of the list lets through. -/
def ShowsReply (status parent : ListedStatus) : Prop :=
  parent.author = status.author ∨ parent.author = .ofAccount list.accountId
    ∨ match list.repliesPolicy with
      | .followed => Follows tables list parent.author
      | .list => IsMember tables instanceDomain list.id parent.author
      | .none => False

/-- The id of the parent of a status: the one that the row has, or, as long as a remote reply
has none, that of the status its URI names. -/
def parentIdOf (uris : Remote.LocalUris) : ListedStatus → Option String
  | .ofLocal status => status.inReplyToId
  | .ofRemote status =>
    status.inReplyToId.or (status.inReplyToUri.bind (Remote.parentId uris
      tables.remoteStatuses (tables.statuses.view LocalStatus.row fun _ => rfl)))

def IsParent (uris : Remote.LocalUris) (status parent : ListedStatus) : Prop :=
  tables.Stores parent ∧ parentIdOf tables uris status = some parent.id

/-- A status belongs on the timeline of the list, if it is one of a member: it is no reply,
or the rule shows it. -/
def BelongsOnList (uris : Remote.LocalUris) (status : ListedStatus) : Prop :=
  status.isReply = true →
    ∃ parent, IsParent tables uris status parent
      ∧ ShowsReply tables instanceDomain list status parent

/-- Both rows are local, or both are remote. -/
def ListedStatus.SameSide : ListedStatus → ListedStatus → Prop
  | .ofLocal _, .ofLocal _ => True
  | .ofRemote _, .ofRemote _ => True
  | _, _ => False

/-- What the queries look at: a parent that the reply has an id for, and whose author is the
author of the reply or the owner of the list, or is followed, or is a member of the same side
as the reply. -/
def LinkedParentShows (status parent : ListedStatus) : Prop :=
  tables.Stores parent ∧ status.inReplyToId = some parent.id
    ∧ (parent.author = status.author ∨ parent.author = .ofAccount list.accountId
      ∨ match list.repliesPolicy with
        | .followed => Follows tables list parent.author
        | .list =>
          IsMember tables instanceDomain list.id parent.author ∧ status.SameSide parent
        | .none => False)

variable {tables instanceDomain list}

/-! ## What the predicates let through -/

theorem parentIsLocal_iff {id : Option String} {holds : LocalStatus → Bool} :
    parentIsLocal tables id holds = true
      ↔ ∃ parent ∈ tables.statuses.rows, id = some parent.id ∧ holds parent = true := by
  simp [parentIsLocal, Table.exists?]

theorem parentIsRemote_iff {id : Option String} {holds : Remote.RemoteStatus → Bool} :
    parentIsRemote tables id holds = true
      ↔ ∃ parent ∈ tables.remoteStatuses.rows, id = some parent.id ∧ holds parent = true := by
  simp [parentIsRemote, Table.exists?]

theorem and_reversed {p q r : Prop} : (p ∧ q) ∧ r ↔ r ∧ q ∧ p :=
  ⟨fun ⟨⟨first, second⟩, third⟩ => ⟨third, second, first⟩,
    fun ⟨third, second, first⟩ => ⟨⟨first, second⟩, third⟩⟩

theorem followsAccount_iff {accountId : String} :
    followsAccount tables list.accountId accountId = true
      ↔ Follows tables list (.ofAccount accountId) := by
  simp only [followsAccount, Follows, List.any_eq_true, Bool.and_eq_true, beq_iff_eq]
  exact exists_congr fun follow => and_congr_right fun _ => and_reversed

theorem followsActor_iff {actorUri : String} :
    followsActor tables list.accountId actorUri = true
      ↔ Follows tables list (.ofActor actorUri) := by
  simp only [followsActor, Follows, List.any_eq_true, Bool.and_eq_true, beq_iff_eq]
  exact exists_congr fun follow => and_congr_right fun _ => and_reversed

theorem exists_listed {P : ListedStatus → Prop} :
    (∃ status, P status) ↔ (∃ status, P (.ofLocal status)) ∨ ∃ status, P (.ofRemote status) := by
  constructor
  · rintro ⟨status | status, holds⟩
    · exact Or.inl ⟨status, holds⟩
    · exact Or.inr ⟨status, holds⟩
  · rintro (⟨status, holds⟩ | ⟨status, holds⟩)
    · exact ⟨_, holds⟩
    · exact ⟨_, holds⟩

theorem localListRepliesPredicate_iff {status : LocalStatus} :
    localListRepliesPredicate tables instanceDomain list status = true
      ↔ status.inReplyToId = none
        ∨ ∃ parent, LinkedParentShows tables instanceDomain list (.ofLocal status) parent := by
  rw [exists_listed]
  unfold localListRepliesPredicate LinkedParentShows
  simp only [Bool.or_eq_true, beq_iff_eq, parentIsLocal_iff, or_assoc, ListTables.Stores,
    ListedStatus.inReplyToId, ListedStatus.id, ListedStatus.author, ListedStatus.SameSide,
    Who.ofAccount.injEq, reduceCtorEq, and_true, and_false, false_or]
  refine or_congr Iff.rfl ?_
  cases list.repliesPolicy with
  | followed =>
    simp only [Bool.or_eq_true, parentIsLocal_iff, parentIsRemote_iff, followsAccount_iff,
      followsActor_iff, and_or_left, exists_or, or_assoc]
  | list =>
    simp only [parentIsLocal_iff, List.contains_iff_mem, mem_localListMembers_iff, and_or_left,
      exists_or, or_assoc, and_false, exists_false, or_false]
  | none =>
    simp only [Bool.false_eq_true, and_or_left, exists_or, and_false, exists_false, or_false]

variable (instanceDomain) in
theorem remoteListRepliesPredicate_iff {status : Remote.RemoteStatus} :
    remoteListRepliesPredicate tables list status = true
      ↔ status.inReplyToUri = none
        ∨ ∃ parent, LinkedParentShows tables instanceDomain list (.ofRemote status) parent := by
  rw [exists_listed, or_comm (b := ∃ parent, _)]
  unfold remoteListRepliesPredicate LinkedParentShows
  simp only [Bool.or_eq_true, beq_iff_eq, parentIsLocal_iff, parentIsRemote_iff, or_assoc,
    ListTables.Stores, ListedStatus.inReplyToId, ListedStatus.id, ListedStatus.author,
    ListedStatus.SameSide, Who.ofActor.injEq, Who.ofAccount.injEq, reduceCtorEq, and_true,
    and_false, false_or]
  refine or_congr Iff.rfl ?_
  cases list.repliesPolicy with
  | followed =>
    simp only [Bool.or_eq_true, parentIsLocal_iff, parentIsRemote_iff, followsAccount_iff,
      followsActor_iff, and_or_left, exists_or, or_assoc]
    exact or_congr Iff.rfl or_left_comm
  | list =>
    simp only [parentIsRemote_iff, List.contains_iff_mem,
      mem_remoteListMembers_iff instanceDomain,
      and_or_left, exists_or, or_assoc, or_false]
    exact or_congr Iff.rfl or_comm
  | none =>
    simp only [Bool.false_eq_true, or_false]

/-- **Both predicates let through what is no reply, and the replies that a linked parent
shows.** -/
theorem repliesPredicate_iff {status : ListedStatus} :
    repliesPredicate tables instanceDomain list status = true
      ↔ (status.isReply = true →
          ∃ parent, LinkedParentShows tables instanceDomain list status parent) := by
  cases status with
  | ofLocal status =>
    refine localListRepliesPredicate_iff.trans ?_
    rw [ListedStatus.isReply, Option.isSome_iff_ne_none]
    exact ⟨fun shown reply => shown.resolve_left reply, fun shown => or_iff_not_imp_left.mpr shown⟩
  | ofRemote status =>
    refine (remoteListRepliesPredicate_iff instanceDomain).trans ?_
    rw [ListedStatus.isReply, Option.isSome_iff_ne_none]
    exact ⟨fun shown reply => shown.resolve_left reply, fun shown => or_iff_not_imp_left.mpr shown⟩

theorem LinkedParentShows.belongs {uris : Remote.LocalUris} {status parent : ListedStatus}
    (shows_ : LinkedParentShows tables instanceDomain list status parent) :
    IsParent tables uris status parent ∧ ShowsReply tables instanceDomain list status parent := by
  obtain ⟨held, linked, reason⟩ := shows_
  refine ⟨⟨held, ?_⟩, ?_⟩
  · cases status with
    | ofLocal status => exact linked
    | ofRemote status =>
      rw [ListedStatus.inReplyToId] at linked
      rw [parentIdOf, linked]
      rfl
  · refine reason.imp_right fun reason => reason.imp_right fun reason => ?_
    cases policy : list.repliesPolicy with
    | followed | none => rwa [policy] at reason
    | list =>
      rw [policy] at reason
      exact reason.1

/-- **The list shows the replies that belong on it** exactly if each reply that the rule shows
has a linked parent whose author is the author of the reply, the owner of the list, followed,
or a member of the same side; and what is no reply is always shown. -/
theorem list_replies_admitted_iff (tables : ListTables) (instanceDomain : String)
    (uris : Remote.LocalUris) (list : AccountList) (status : ListedStatus) :
    ((repliesPredicate tables instanceDomain list status = true
        ↔ BelongsOnList tables instanceDomain list uris status)
      ↔ ∀ parent, status.isReply = true → IsParent tables uris status parent →
          ShowsReply tables instanceDomain list status parent →
          ∃ linked, LinkedParentShows tables instanceDomain list status linked)
    ∧ (status.isReply = false → repliesPredicate tables instanceDomain list status = true) := by
  rw [repliesPredicate_iff]
  refine ⟨⟨fun agree parent reply isParent shown => ?_, fun linked => ⟨fun shown reply => ?_,
    fun belongs reply => ?_⟩⟩, fun noReply reply => ?_⟩
  · exact agree.mpr (fun _ => ⟨parent, isParent, shown⟩) reply
  · obtain ⟨parent, shows_⟩ := shown reply
    exact ⟨parent, shows_.belongs⟩
  · obtain ⟨parent, isParent, shown⟩ := belongs reply
    exact linked parent reply isParent shown
  · rw [noReply] at reply
    cases reply

/-! ## A member on the other side -/

def remotePost (id actorUri : String) : Remote.RemoteStatus where
  id := id
  actorUri := actorUri
  objectUri := actorUri ++ "/" ++ id
  url := none
  inReplyToUri := none
  boostOfUri := none
  quoteOfUri := none
  contentHtml := "hello"
  textContent := "hello"
  spoilerText := ""
  visibility := .publicPost
  sensitive := false
  language := none
  quoteState := .accepted
  publishedAt := "2026-01-01T00:00:00Z"
  rawObjectJson := ""
  editedAt := none
  inReplyToId := none

/-- A list of alice with bob, a local account, and carol, an actor. -/
def mixedList (policy : RepliesPolicy) : AccountList := ⟨"list", "alice", policy⟩

def bob : Account := ⟨"bob", "bob", by decide⟩

/-- The tables of that list: carol has a status, and bob has replied to it. -/
def mixedTables (policy : RepliesPolicy) : ListTables where
  accounts := ⟨[⟨"alice", "alice", by decide⟩, bob], by decide⟩
  remoteActors := Table.singleton ⟨"https://remote.example/carol", "carol", "remote.example"⟩
  statuses := Table.singleton ⟨"2", "bob", none, some "1", .publicPost, "2026-01-02T00:00:00Z"⟩
  remoteStatuses := Table.singleton (remotePost "1" "https://remote.example/carol")
  follows := []
  lists := Table.singleton (mixedList policy)
  memberships :=
    ⟨[⟨"list", "bob", "2026-01-01"⟩,
      ⟨"list", "https://remote.example/carol", "2026-01-01"⟩], by decide⟩

def noLocalUris : Remote.LocalUris := ⟨fun _ => none, fun _ => none⟩

def replyToCarol : ListedStatus :=
  .ofLocal ⟨"2", "bob", none, some "1", .publicPost, "2026-01-02T00:00:00Z"⟩

/-- The reply of a member to a member is not shown, for one is local and one is not. -/
theorem reply_to_remote_member_missed :
    ¬ (repliesPredicate (mixedTables .list) "cfwdon.example" (mixedList .list) replyToCarol = true
      ↔ BelongsOnList (mixedTables .list) "cfwdon.example" (mixedList .list) noLocalUris
          replyToCarol) := by
  have hidden : repliesPredicate (mixedTables .list) "cfwdon.example" (mixedList .list)
      replyToCarol = false := by decide +kernel
  have carol : IsMember (mixedTables .list) "cfwdon.example" "list"
      (.ofActor "https://remote.example/carol") :=
    mem_remoteListMembers_iff "cfwdon.example" |>.mp (by decide +kernel)
  rw [hidden]
  refine fun agree => Bool.false_ne_true (agree.mpr fun _ => ?_)
  exact ⟨.ofRemote (remotePost "1" "https://remote.example/carol"),
    ⟨List.mem_singleton_self _, rfl⟩, Or.inr (Or.inr carol)⟩

end Candidates

end Cfwdon.Lists
