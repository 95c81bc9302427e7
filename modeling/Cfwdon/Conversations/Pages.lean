import Cfwdon.Conversations.Store
import Cfwdon.Library.CursorWalks
import Mathlib.Data.Prod.Lex
import Mathlib.Data.String.Basic

/-!
# Pages of the list of conversations

An account lists its conversations by the time of their last update, and asks for the next
page with the id of the last conversation it was shown.  The ids are random, so the cursor
and the order have nothing to do with each other.
-/

namespace Cfwdon.Conversations

open Library

/-- A row of `conversation_states` with the column it is listed by. -/
structure ListedState extends ConversationState where
  updatedAt : String
  deriving DecidableEq

def ListedState.stateKey (row : ListedState) : String × String := row.key

abbrev ListedStates := Table ListedState ListedState.stateKey

/-- `ORDER BY updated_at DESC, conversation_id DESC`. -/
def LatestFirst (left right : ListedState) : Prop :=
  right.updatedAt < left.updatedAt
    ∨ right.updatedAt = left.updatedAt ∧ right.conversationId ≤ left.conversationId

instance : DecidableRel LatestFirst :=
  fun _ _ => inferInstanceAs (Decidable (_ ∨ _))

theorem latestFirst_iff {left right : ListedState} : LatestFirst left right
    ↔ toLex (right.updatedAt, right.conversationId)
      ≤ toLex (left.updatedAt, left.conversationId) := by
  rw [LatestFirst, Prod.Lex.toLex_le_toLex]

instance : Std.Total LatestFirst where
  total left right := by
    rw [latestFirst_iff, latestFirst_iff]
    exact le_total _ _

instance : IsTrans ListedState LatestFirst where
  trans left middle right first second := by
    rw [latestFirst_iff] at first second ⊢
    exact le_trans second first

/-! ## Pages -/

variable (states : ListedStates) (accountId : String)

/-- The conversations of an account that it has not deleted. -/
def liveConversations : List ListedState :=
  states.select fun row => row.accountId == accountId && row.deletedAt.isNone

/-- The bounds of the query. -/
def withinIds (maxId minId : Option String) (row : ListedState) : Bool :=
  maxId.all (fun maxId => decide (row.conversationId < maxId))
    && minId.all fun minId => decide (minId < row.conversationId)

def listConversationsForAccount (limit : Nat) (maxId minId : Option String) :
    List ListedState :=
  (((liveConversations states accountId).filter (withinIds maxId minId)).insertionSort
    LatestFirst).take limit

def conversationsLimit (value : Option Nat) : Nat := min (max (value.getD 20) 1) 40

/-- The pages of a client that follows `max_id`. -/
def conversationsPage (limit : Option Nat) (maxId : Option String) : List ListedState :=
  listConversationsForAccount states accountId (conversationsLimit limit) maxId none

def nextMaxId (page : List ListedState) : Option (Option String) :=
  page.getLast?.map fun row => some row.conversationId

def listedConversations : List ListedState :=
  (liveConversations states accountId).insertionSort LatestFirst

variable {states} {accountId}

/-! ## Walks -/

theorem conversationsLimit_pos (value : Option Nat) : 0 < conversationsLimit value := by
  rw [conversationsLimit]
  omega

theorem live_of_same_id {row row' : ListedState}
    (mem : row ∈ liveConversations states accountId)
    (mem' : row' ∈ liveConversations states accountId)
    (eq : row.conversationId = row'.conversationId) : row = row' := by
  obtain ⟨held, live⟩ := List.mem_filter.mp mem
  obtain ⟨held', live'⟩ := List.mem_filter.mp mem'
  rw [Bool.and_eq_true, beq_iff_eq] at live live'
  exact Table.eq_of_key_eq held held' (Prod.ext eq (live.1.trans live'.1.symm))

theorem live_of_latestFirst {row row' : ListedState}
    (mem : row ∈ liveConversations states accountId)
    (mem' : row' ∈ liveConversations states accountId)
    (first : LatestFirst row row') (second : LatestFirst row' row) : row = row' := by
  have eq := toLex.injective (le_antisymm (latestFirst_iff.mp second) (latestFirst_iff.mp first))
  exact live_of_same_id mem mem' (Prod.ext_iff.mp eq).2

theorem conversationsPage_eq (limit : Option Nat) :
    conversationsPage states accountId limit
      = admittedPage (listedConversations states accountId)
        (fun maxId => withinIds maxId none) (conversationsLimit limit) := by
  funext maxId
  rw [conversationsPage, listConversationsForAccount, admittedPage, listedConversations,
    filter_insertionSort]
  intro row mem row' mem'
  exact live_of_latestFirst mem mem'

theorem withinIds_some {maxId : String} {row : ListedState} :
    withinIds (some maxId) none row = true ↔ row.conversationId < maxId := by
  rw [withinIds, Option.all_some, Option.all_none, Bool.and_true, decide_eq_true_eq]

theorem nodup_listedConversations : (listedConversations states accountId).Nodup := by
  have held : states.rows.Nodup := List.Nodup.of_map _ states.keysDistinct
  exact (List.perm_insertionSort LatestFirst _).nodup_iff.mpr (held.filter _)

/-- The client sees every live conversation once. -/
def ConversationsVisited (states : ListedStates) (accountId : String) (limit : Option Nat) :
    Prop :=
  CursorWalkVisits (conversationsPage states accountId limit) nextMaxId none
    (liveConversations states accountId)

/-- **A client that follows the pages sees every live conversation once exactly if at every
page end the ids shown so far are not below the last one, and all ids to come are.** -/
theorem conversations_visited_iff (states : ListedStates) (accountId : String)
    (limit : Option Nat) :
    ConversationsVisited states accountId limit
      ↔ ∀ pages, ∀ last ∈ ((listedConversations states accountId).take
            ((pages + 1) * conversationsLimit limit)).getLast?,
          (∀ row ∈ (listedConversations states accountId).take
              ((pages + 1) * conversationsLimit limit),
            last.conversationId ≤ row.conversationId)
          ∧ ∀ row ∈ (listedConversations states accountId).drop
              ((pages + 1) * conversationsLimit limit),
            row.conversationId < last.conversationId := by
  obtain ⟨visited, walk, -, full⟩ := @walk_of_admitted _ _
    (listedConversations states accountId) (fun maxId => withinIds maxId none)
    (fun row => some row.conversationId) _ (conversationsLimit_pos limit)
    nodup_listedConversations
    (fun row _ => Bool.eq_false_iff.mpr fun pre => lt_irrefl _ (withinIds_some.mp pre))
    (fun cursor last _ row admitted later => by
      cases cursor with
      | none => rfl
      | some maxId =>
        exact withinIds_some.mpr
          (lt_trans (withinIds_some.mp later) (withinIds_some.mp admitted)))
    none
  have all : (listedConversations states accountId).filter (withinIds none none)
      = listedConversations states accountId :=
    List.filter_eq_self.mpr fun _ _ => rfl
  rw [all] at full
  have listed : (listedConversations states accountId).Perm (liveConversations states accountId) :=
    List.perm_insertionSort LatestFirst _
  have visits : ConversationsVisited states accountId limit
      ↔ visited.Perm (listedConversations states accountId) := by
    rw [ConversationsVisited, CursorWalkVisits, conversationsPage_eq]
    constructor
    · rintro ⟨visited', walk', every⟩
      rw [walk'.unique walk] at every
      exact every.trans listed.symm
    · intro every
      exact ⟨visited, walk, every.trans listed⟩
  rw [visits, full, EndsApart]
  refine forall_congr' fun pages => forall₂_congr fun last _ => ?_
  refine and_congr (forall₂_congr fun row _ => ?_) (forall₂_congr fun row _ => withinIds_some)
  rw [Bool.eq_false_iff, ne_eq, withinIds_some, not_lt]

/-! ## A conversation below the end of a page -/

def conversationOf (accountId conversationId updatedAt : String) : ListedState where
  conversationId := conversationId
  accountId := accountId
  lastStatusId := none
  unread := false
  deletedAt := none
  updatedAt := updatedAt

/-- Two conversations: the one that was updated last has the lower id. -/
def twoConversations : ListedStates where
  rows := [conversationOf "account-a" "3f" "2099-01-01T00:00:00.000Z",
    conversationOf "account-a" "1c" "2099-01-02T00:00:00.000Z"]
  keysDistinct := by decide

/-- With one conversation a page, the client is shown the newer one, asks for ids below it,
and never sees the other. -/
theorem older_conversation_is_not_visited :
    CursorWalk (conversationsPage twoConversations "account-a" (some 1)) nextMaxId none
        [conversationOf "account-a" "1c" "2099-01-02T00:00:00.000Z"]
      ∧ ¬ ConversationsVisited twoConversations "account-a" (some 1) := by
  have first : conversationsPage twoConversations "account-a" (some 1) none
      = [conversationOf "account-a" "1c" "2099-01-02T00:00:00.000Z"] := by
    decide +kernel
  have second : conversationsPage twoConversations "account-a" (some 1) (some "1c") = [] := by
    decide +kernel
  have walk : CursorWalk (conversationsPage twoConversations "account-a" (some 1)) nextMaxId none
      (conversationsPage twoConversations "account-a" (some 1) none
        ++ conversationsPage twoConversations "account-a" (some 1) (some "1c")) :=
    CursorWalk.onward (by rw [first]; rfl) (CursorWalk.ended (by rw [second]; rfl))
  rw [first, second, List.append_nil] at walk
  refine ⟨walk, ?_⟩
  rintro ⟨visited, walk', every⟩
  rw [walk'.unique walk] at every
  have two : [conversationOf "account-a" "1c" "2099-01-02T00:00:00.000Z"].length
      = (liveConversations twoConversations "account-a").length := every.length_eq
  exact absurd two (by decide +kernel)

end Cfwdon.Conversations
