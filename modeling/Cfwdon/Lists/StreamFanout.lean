import Cfwdon.Library.Lists
import Cfwdon.Lists.Candidates

/-!
# Live delivery to lists

A new status goes to the channels of the lists that have its author as a member.  The rows of
these lists are looked up by the two references of the author, as they are written, newest
first, and fifty of them are served.  Whether a list gets the status depends on the visibility,
and on whether the status is a reply where the policy of the list is to show none: the parent
is not looked at.  A local status is only delivered if it is public.
-/

namespace Cfwdon.Lists

open Library Statuses

variable (tables : ListTables) (instanceDomain : String)

def streamHubListFanoutLimit : Nat := 50

structure ListStreamFanoutRow where
  listId : String
  ownerAccountId : String
  repliesPolicy : RepliesPolicy

structure ListStreamFanout where
  lists : List ListStreamFanoutRow
  truncated : Bool

def localStatusVisibleOnListTimeline (visibility : Visibility) (repliesPolicy : RepliesPolicy)
    (inReplyToId : Option String) : Bool :=
  (visibility == .publicPost || visibility == .unlisted)
    && !(repliesPolicy == .none && inReplyToId.isSome)

def listMembershipVariantsForLocalAccount (account : Account) : List String :=
  [account.id, account.username ++ "@" ++ instanceDomain]

def listMembershipVariantsForRemoteActor (actor : RemoteActor) : List String :=
  [actor.actorUri, actor.username ++ "@" ++ actor.domain]

/-- `ORDER BY m.created_at DESC, m.list_id DESC`. -/
def NewerMembership (left right : Membership) : Prop :=
  right.createdAt < left.createdAt ∨ right.createdAt = left.createdAt ∧ right.listId ≤ left.listId

instance : DecidableRel NewerMembership :=
  fun _ _ => inferInstanceAs (Decidable (_ ∨ _))

/-- The rows with one of the references that have a list, newest first. -/
def fanoutMemberships (membershipRefs : List String) : List Membership :=
  (tables.memberships.select fun membership =>
    membershipRefs.contains membership.targetAccountRef
      && (tables.lists.find membership.listId).isSome).insertionSort NewerMembership

def fanoutRow (membership : Membership) : Option ListStreamFanoutRow :=
  (tables.lists.find membership.listId).map fun list =>
    ⟨membership.listId, list.accountId, list.repliesPolicy⟩

def listLocalAccountListStreamFanout (membershipRefs : List String) : ListStreamFanout :=
  let lists := ((fanoutMemberships tables membershipRefs).take
    (streamHubListFanoutLimit + 1)).filterMap (fanoutRow tables)
  let truncated := decide (streamHubListFanoutLimit < lists.length)
  ⟨if truncated then lists.take streamHubListFanoutLimit else lists, truncated⟩

/-- The channels, by owner and list, to which the lists of an author are served. -/
def publishToLists (membershipRefs : List String) (visibility : Visibility)
    (inReplyTo : Option String) : List (String × String) :=
  ((listLocalAccountListStreamFanout tables membershipRefs).lists.filter fun list =>
    localStatusVisibleOnListTimeline visibility list.repliesPolicy inReplyTo).map fun list =>
      (list.ownerAccountId, list.listId)

def publishListTimelineEventsSoft (author : Account) (status : LocalStatus) :
    List (String × String) :=
  if status.visibility != .publicPost then []
  else
    publishToLists tables (listMembershipVariantsForLocalAccount instanceDomain author)
      status.visibility status.inReplyToId

def publishRemoteListTimelineEventsSoft (actorRow : RemoteActor)
    (remoteStatus : Remote.RemoteStatus) : List (String × String) :=
  if !(remoteStatus.visibility == .publicPost || remoteStatus.visibility == .unlisted) then []
  else
    publishToLists tables (listMembershipVariantsForRemoteActor actorRow)
      remoteStatus.visibility remoteStatus.inReplyToUri

/-! ## Statements -/

def AccountList.channel (list : AccountList) : String × String := (list.accountId, list.id)

/-- A row of the list is among the newest rows with one of the references. -/
def WithinFanout (membershipRefs : List String) (list : AccountList) : Prop :=
  ∃ membership ∈ (fanoutMemberships tables membershipRefs).take streamHubListFanoutLimit,
    membership.listId = list.id

/-- What is delivered, where replies are, is what the timeline holds. -/
structure FanoutAgrees (list : AccountList) (status : ListedStatus) (delivered : Prop) :
    Prop where
  /-- Only members are served, but for replies where none are wanted. -/
  member : ¬ IsMember tables instanceDomain list.id status.author → delivered →
    status.isReply = true ∧ list.repliesPolicy = .none
  /-- What is no reply is delivered. -/
  noReply : IsMember tables instanceDomain list.id status.author → status.isReply = false →
    delivered
  /-- Where no replies are wanted, no parent shows the reply. -/
  unwanted : IsMember tables instanceDomain list.id status.author → status.isReply = true →
    list.repliesPolicy = .none →
      ¬ ∃ parent, LinkedParentShows tables instanceDomain list status parent
  /-- Elsewhere a reply is delivered just when a parent shows it. -/
  wanted : IsMember tables instanceDomain list.id status.author → status.isReply = true →
    list.repliesPolicy ≠ .none →
      (delivered ↔ ∃ parent, LinkedParentShows tables instanceDomain list status parent)

variable {tables instanceDomain} {list : AccountList}

/-! ## Who gets a status -/

variable {membershipRefs : List String} {inReplyTo : Option String} {vis : Visibility}
  {status : ListedStatus}

theorem mem_fanoutMemberships_iff {membership : Membership} :
    membership ∈ fanoutMemberships tables membershipRefs
      ↔ membership ∈ tables.memberships.rows ∧ membership.targetAccountRef ∈ membershipRefs
        ∧ (tables.lists.find membership.listId).isSome = true := by
  simp [fanoutMemberships, Table.select]

theorem lists_fanout (membershipRefs : List String) :
    (listLocalAccountListStreamFanout tables membershipRefs).lists
      = ((fanoutMemberships tables membershipRefs).take streamHubListFanoutLimit).filterMap
          (fanoutRow tables) := by
  have defined : ∀ membership ∈ (fanoutMemberships tables membershipRefs).take
      (streamHubListFanoutLimit + 1), (fanoutRow tables membership).isSome = true := by
    intro membership mem
    rw [fanoutRow, Option.isSome_map]
    exact (mem_fanoutMemberships_iff.mp (List.mem_of_mem_take mem)).2.2
  have shorter : min streamHubListFanoutLimit (streamHubListFanoutLimit + 1)
      = streamHubListFanoutLimit := by decide
  unfold listLocalAccountListStreamFanout
  dsimp only
  split_ifs with truncated
  · rw [take_filterMap_of_isSome defined, List.take_take, shorter]
  · -- no more rows than the limit: taking that many keeps them all
    have few := Nat.le_of_not_lt fun more => truncated (decide_eq_true more)
    rw [← List.take_of_length_le few, take_filterMap_of_isSome defined, List.take_take, shorter]

theorem mem_publishToLists_iff
    (listed : list ∈ tables.lists.rows) :
    list.channel ∈ publishToLists tables membershipRefs vis inReplyTo
      ↔ WithinFanout tables membershipRefs list
        ∧ localStatusVisibleOnListTimeline vis list.repliesPolicy inReplyTo = true := by
  have got : tables.lists.find list.id = some list := Table.find_of_mem listed
  unfold publishToLists
  rw [lists_fanout]
  simp only [List.mem_map, List.mem_filter, List.mem_filterMap, AccountList.channel,
    Prod.mk.injEq, WithinFanout]
  constructor
  · rintro ⟨row, ⟨⟨membership, mem, read⟩, visible⟩, owner, eq⟩
    obtain ⟨held, foundStored, rfl⟩ := Option.map_eq_some_iff.mp read
    have eq : membership.listId = list.id := eq
    rw [eq, got] at foundStored
    obtain rfl := Option.some.inj foundStored
    exact ⟨⟨membership, mem, eq⟩, visible⟩
  · rintro ⟨⟨membership, mem, eq⟩, visible⟩
    refine ⟨⟨membership.listId, list.accountId, list.repliesPolicy⟩,
      ⟨⟨membership, mem, ?_⟩, visible⟩, rfl, eq⟩
    rw [fanoutRow, eq, got]
    rfl

/-- A status of a shown visibility is kept back only as a reply that is not wanted. -/
theorem localStatusVisible_iff {repliesPolicy : RepliesPolicy}
    (shown : vis = .publicPost ∨ vis = .unlisted) :
    localStatusVisibleOnListTimeline vis repliesPolicy inReplyTo = true
      ↔ ¬ (repliesPolicy = .none ∧ inReplyTo.isSome = true) := by
  have visible : (vis == .publicPost || vis == .unlisted) = true := by
    rcases shown with rfl | rfl <;> rfl
  rw [localStatusVisibleOnListTimeline, visible, Bool.true_and, Bool.not_eq_true',
    Bool.eq_false_iff, ne_eq, Bool.and_eq_true, beq_iff_eq]

/-- **A local status is delivered** if it is public, the list is reached, and it is no reply
where none are wanted. -/
theorem mem_publishListTimelineEvents_iff {author : Account} {status : LocalStatus}
    (listed : list ∈ tables.lists.rows) :
    list.channel ∈ publishListTimelineEventsSoft tables instanceDomain author status
      ↔ (status.visibility = .publicPost
          ∧ WithinFanout tables (listMembershipVariantsForLocalAccount instanceDomain author) list)
        ∧ ¬ (list.repliesPolicy = .none ∧ (ListedStatus.ofLocal status).isReply = true) := by
  unfold publishListTimelineEventsSoft
  by_cases isPublic : status.visibility = .publicPost
  · rw [if_neg (by simp [isPublic]), mem_publishToLists_iff listed,
      localStatusVisible_iff (Or.inl isPublic), ListedStatus.isReply]
    exact and_congr_left fun _ => (and_iff_right isPublic).symm
  · rw [if_pos (by simp [isPublic])]
    exact iff_of_false List.not_mem_nil fun delivered => isPublic delivered.1.1

/-- **A remote status is delivered** if the list is reached, and it is no reply where none are
wanted. -/
theorem mem_publishRemote_iff {actorRow : RemoteActor}
    {status : Remote.RemoteStatus} (listed : list ∈ tables.lists.rows)
    (shown : status.visibility = .publicPost ∨ status.visibility = .unlisted) :
    list.channel ∈ publishRemoteListTimelineEventsSoft tables actorRow status
      ↔ WithinFanout tables (listMembershipVariantsForRemoteActor actorRow) list
        ∧ ¬ (list.repliesPolicy = .none ∧ (ListedStatus.ofRemote status).isReply = true) := by
  have visible : (status.visibility == .publicPost || status.visibility == .unlisted) = true := by
    rcases shown with eq | eq <;> rw [eq] <;> rfl
  unfold publishRemoteListTimelineEventsSoft
  rw [if_neg (by simp [visible]), mem_publishToLists_iff listed, localStatusVisible_iff shown,
    ListedStatus.isReply]

/-- **The timeline of a list holds** the statuses of its members that the owner may see and
that are no replies, or are shown by their parents. -/
theorem mem_listCandidates_iff (held : tables.Stores status) :
    status ∈ listCandidates tables instanceDomain list
      ↔ IsMember tables instanceDomain list.id status.author
        ∧ visibleToOwner tables list status = true
        ∧ (status.isReply = true →
            ∃ parent, LinkedParentShows tables instanceDomain list status parent) := by
  rw [← repliesPredicate_iff]
  unfold listCandidates
  cases status with
  | ofLocal status =>
    have held : status ∈ tables.statuses.rows := held
    simp only [List.mem_append, List.mem_flatMap, List.mem_filter, List.mem_map, Table.select,
      ListedStatus.ofLocal.injEq, reduceCtorEq, and_false, false_and, exists_false, or_false,
      exists_eq_right, beq_iff_eq, Bool.and_eq_true, ListedStatus.author, held, true_and,
      ← mem_localListMembers_iff]
    constructor
    · rintro ⟨_, mem, rfl, passes⟩
      exact ⟨mem, passes⟩
    · rintro ⟨mem, passes⟩
      exact ⟨_, mem, rfl, passes⟩
  | ofRemote status =>
    have held : status ∈ tables.remoteStatuses.rows := held
    simp only [List.mem_append, List.mem_flatMap, List.mem_filter, List.mem_map, Table.select,
      ListedStatus.ofRemote.injEq, reduceCtorEq, and_false, false_and, exists_false, false_or,
      exists_eq_right, beq_iff_eq, Bool.and_eq_true, ListedStatus.author, held, true_and,
      ← mem_remoteListMembers_iff instanceDomain]
    constructor
    · rintro ⟨_, mem, rfl, passes⟩
      exact ⟨mem, passes⟩
    · rintro ⟨mem, passes⟩
      exact ⟨_, mem, rfl, passes⟩

/-! ## Agreement -/

/-- What is delivered and what is held agree just when the four cases do. -/
theorem fanoutAgrees_iff {delivered : Prop} :
    (delivered ∧ ¬ (list.repliesPolicy = .none ∧ status.isReply = true)
      ↔ IsMember tables instanceDomain list.id status.author ∧ (status.isReply = true →
          ∃ parent, LinkedParentShows tables instanceDomain list status parent))
      ↔ FanoutAgrees tables instanceDomain list status delivered := by
  constructor
  · intro eq
    refine ⟨fun outsider served => ?_, fun isMember noReply => ?_,
      fun isMember reply unwanted shown => ?_, fun isMember reply wanted => ⟨fun served => ?_,
        fun shown => ?_⟩⟩
    · by_contra kept
      exact outsider (eq.mp ⟨served, fun both => kept ⟨both.2, both.1⟩⟩).1
    · refine (eq.mpr ⟨isMember, fun reply => ?_⟩).1
      rw [noReply] at reply
      cases reply
    · exact (eq.mpr ⟨isMember, fun _ => shown⟩).2 ⟨unwanted, reply⟩
    · exact (eq.mp ⟨served, fun both => wanted both.1⟩).2 reply
    · exact (eq.mpr ⟨isMember, fun _ => shown⟩).1
  · rintro ⟨mem, noReply, unwanted, wanted⟩
    constructor
    · rintro ⟨served, sent⟩
      have isMember : IsMember tables instanceDomain list.id status.author := by
        by_contra outsider
        obtain ⟨reply, policy⟩ := mem outsider served
        exact sent ⟨policy, reply⟩
      exact ⟨isMember, fun reply =>
        (wanted isMember reply fun policy => sent ⟨policy, reply⟩).mp served⟩
    · rintro ⟨isMember, shown⟩
      cases reply : status.isReply with
      | false => exact ⟨noReply isMember reply, fun both => Bool.false_ne_true both.2⟩
      | true =>
        have notUnwanted : list.repliesPolicy ≠ .none := fun policy =>
          unwanted isMember reply policy (shown reply)
        exact ⟨(wanted isMember reply notUnwanted).mpr (shown reply),
          fun both => notUnwanted both.1⟩

theorem visibleToOwner_of_shown
    (shown : status.visibility = .publicPost ∨ status.visibility = .unlisted) :
    visibleToOwner tables list status = true := by
  rcases shown with eq | eq <;> simp [visibleToOwner, eq]

def unlistedPost : LocalStatus :=
  ⟨"3", "bob", none, none, .unlisted, "2026-01-03T00:00:00Z"⟩

/-- The tables of a list of alice with bob and carol, and that status. -/
def unlistedTables : ListTables :=
  { mixedTables .list with statuses := Table.singleton unlistedPost }

end Cfwdon.Lists
