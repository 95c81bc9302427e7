import Cfwdon.Collections.Store
import Cfwdon.Library.CursorWalks
import Cfwdon.Library.Loops

/-!
# The statuses of an actor that nobody follows

They are read off the actor's outbox, page by page.  A request with a cursor seeks the
status of that id first, and collects what comes after it.
-/

namespace Cfwdon.Accounts

open ActivityPub Library Statuses

/-- What the remote server answers, and what is read of its documents. -/
structure OutboxWorld where
  fetch : String → Option Json
  /-- The document is an actor profile whose URLs are valid. -/
  isProfile : Json → Bool
  contentHtml : Json → String
  hasAttachments : Json → Bool

structure OutboxActor where
  actorUri : String
  indexable : Bool

structure AccountStatusesQuery where
  maxId : Option String
  tagged : Option String
  pinned : Option Bool
  onlyMedia : Option Bool
  excludeReplies : Option Bool
  excludeReblogs : Option Bool
  excludeDirect : Option Bool

/-- The row of a note, with the note that the response is built of. -/
structure TransientStatus where
  id : String
  visibility : Visibility
  contentHtml : String
  inReplyToUri : Option String
  boostOfUri : Option String
  object : Json

/-! ## Documents -/

def activitypubCollectionItems (collection : Json) : List Json :=
  match (collection.get "orderedItems").or (collection.get "items") with
  | some (.array items) => items
  | _ => []

def activitypubReferenceUri (value : Json) : Option String :=
  (value.asStr.bind nonBlank).or (((value.get "id").bind Json.asStr).bind nonBlank)

def activitypubCollectionNextUri (collection : Json) : Option String :=
  (collection.get "next").bind activitypubReferenceUri

def remoteStatusActorUri (object activity : Json) : Option String :=
  ((object.get "attributedTo").bind Json.asStr).or ((activity.get "actor").bind Json.asStr)

def isObject : Json → Bool
  | .object _ => true
  | _ => false

section Requests

variable (world : OutboxWorld) (actor : OutboxActor) (query : AccountStatusesQuery)
variable (minId : Option String) (limit : Nat)

/-- The page an outbox begins with, and what is fetched for it. -/
def remoteActorOutboxPage (actorDocument : Json) : Option Json × List String :=
  match actorDocument.get "outbox" with
  | none => (none, [])
  | some outbox =>
    let (collection, fetched) :=
      match activitypubReferenceUri outbox with
      | some uri => (world.fetch uri, [uri])
      | none => ((some outbox).filter isObject, [])
    match collection with
    | none => (none, fetched)
    | some collection =>
      if activitypubCollectionItems collection ≠ [] then (some collection, fetched)
      else
        match collection.get "first" with
        | none => (some collection, fetched)
        | some first =>
          match activitypubReferenceUri first with
          | some uri => (world.fetch uri, fetched ++ [uri])
          | none => (some (if isObject first then first else collection), fetched)

/-- The row never fails to be read: its visibility and its quote state are valid. -/
def remoteStatusRowFromActivitypubObject (object : Json) : TransientStatus where
  id := Collections.remoteAccountRestId (((object.get "id").bind Json.asStr).getD "")
  visibility := visibilityFromActivitypubObject object
  contentHtml := world.contentHtml object
  inReplyToUri := (object.get "inReplyTo").bind Json.asStr
  boostOfUri := none
  object := object

/-- The row of an item that is a note of the actor. -/
def noteOf (item : Json) : Option TransientStatus :=
  ((extractRemoteNoteObject item).filter fun object =>
    remoteStatusActorUri object item == some actor.actorUri).map
      (remoteStatusRowFromActivitypubObject world)

def notesOn (page : Json) : List TransientStatus :=
  (activitypubCollectionItems page).filterMap (noteOf world actor)

def remoteStatusMatchesAccountFilters (status : TransientStatus) (hasMedia : Bool) : Bool :=
  if query.pinned.getD false then false
  else if query.tagged.any fun tag =>
      !occursIn (toAsciiLowercase tag).toList (toAsciiLowercase status.contentHtml).toList then
    false
  else if query.excludeReblogs.getD false && status.boostOfUri.isSome then false
  else if query.excludeDirect.getD false && status.visibility == .direct then false
  else if query.excludeReplies.getD false && status.inReplyToUri.isSome then false
  else !query.onlyMedia.getD false || hasMedia

/-- A public status that the filters let through. -/
def isListed (status : TransientStatus) : Bool :=
  isPublicActivitypubVisibility status.visibility
    && remoteStatusMatchesAccountFilters query status (world.hasAttachments status.object)

/-! ## The walk -/

structure TransientOutboxWalkState where
  passedMaxId : Bool
  seekPages : Nat
  collectPages : Nat

def transientOutboxCollectMaxPages : Nat := 5

def transientOutboxSeekMaxPages : Nat := 40

namespace TransientOutboxWalkState

def new (passedMaxId : Bool) : TransientOutboxWalkState := ⟨passedMaxId, 0, 0⟩

variable (walk : TransientOutboxWalkState)

def canFetchPage : Bool :=
  if !walk.passedMaxId then walk.seekPages < transientOutboxSeekMaxPages
  else walk.collectPages < transientOutboxCollectMaxPages

def beginPage : TransientOutboxWalkState :=
  if !walk.passedMaxId then { walk with seekPages := walk.seekPages + 1 }
  else { walk with collectPages := walk.collectPages + 1 }

end TransientOutboxWalkState

/-- Whether a status is collected, and whether the cursor has been passed then. -/
def transientOutboxShouldCollectStatus (statusId : String) (maxId : Option String)
    (passedMaxId : Bool) : Bool × Bool :=
  match maxId with
  | some maxId =>
    if statusId = maxId then (false, true) else (passedMaxId, passedMaxId)
  | none => (true, passedMaxId)

/-- The loop over the pages.  It is finished after a `break` or a `return`. -/
structure OutboxWalk where
  page : Json
  response : List TransientStatus
  walk : TransientOutboxWalkState
  fetched : List String
  finished : Bool

def OutboxWalk.visitItem (s : OutboxWalk) (item : Json) : OutboxWalk :=
  if s.finished ∨ limit ≤ s.response.length then s
  else
    match noteOf world actor item with
    | none => s
    | some status =>
      let (collects, passedMaxId) :=
        transientOutboxShouldCollectStatus status.id query.maxId s.walk.passedMaxId
      let s := { s with walk := { s.walk with passedMaxId } }
      if !collects then s
      else if minId = some status.id then { s with finished := true }
      else if isListed world query status then { s with response := s.response ++ [status] }
      else s

def OutboxWalk.turnPage (s : OutboxWalk) : OutboxWalk :=
  let s := (activitypubCollectionItems s.page).foldl
    (OutboxWalk.visitItem world actor query minId limit) { s with walk := s.walk.beginPage }
  if s.finished ∨ limit ≤ s.response.length then { s with finished := true }
  else
    match activitypubCollectionNextUri s.page with
    | none => { s with finished := true }
    | some next =>
      match world.fetch next with
      | none => { s with fetched := s.fetched ++ [next], finished := true }
      | some page => { s with fetched := s.fetched ++ [next], page }

def OutboxWalk.continues (s : OutboxWalk) : Bool :=
  !s.finished && s.response.length < limit && s.walk.canFetchPage

/-- The walk from the first page.  The budgets end it after so many pages at the latest. -/
def outboxWalk (page : Json) (fetched : List String) : Option OutboxWalk :=
  whileLoop (OutboxWalk.continues limit)
    (OutboxWalk.turnPage world actor query minId limit)
    (transientOutboxSeekMaxPages + transientOutboxCollectMaxPages)
    ⟨page, [], .new query.maxId.isNone, fetched, false⟩

/-- The page that the actor's outbox begins with, and what is fetched for it. -/
def firstOutboxPage : Option Json × List String :=
  match (world.fetch actor.actorUri).filter world.isProfile with
  | none => (none, [actor.actorUri])
  | some document =>
    let (page, fetched) := remoteActorOutboxPage world document
    (page, actor.actorUri :: fetched)

/-- `limit.clamp(1, 20)`. -/
def responseLimit : Nat := min (max limit 1) 20

/-- The statuses of a response, and what has been fetched for it. -/
def loadTransientRemoteActorStatuses : List TransientStatus × List String :=
  if !actor.indexable then ([], [])
  else if query.pinned.getD false then ([], [])
  else
    match firstOutboxPage world actor with
    | (none, fetched) => ([], fetched)
    | (some page, fetched) =>
      ((outboxWalk world actor query minId (responseLimit limit) page fetched).map
        fun s => (s.response, s.fetched)).getD ([], [])

end Requests

variable {seen : List TransientStatus} {cursor : Option String} {s : OutboxWalk}
  {status : TransientStatus} {pages : List Json} {item : Json}

section Walks

variable {world : OutboxWorld} {actor : OutboxActor} {query : AccountStatusesQuery}
  {minId : Option String} {limit : Nat}

/-! ## How much is fetched -/

/-- What an item leaves as it is. -/
structure SamePages (s s' : OutboxWalk) : Prop where
  page : s'.page = s.page
  fetched : s'.fetched = s.fetched
  seekPages : s'.walk.seekPages = s.walk.seekPages
  collectPages : s'.walk.collectPages = s.walk.collectPages

theorem samePages_visitItem (s : OutboxWalk) (item : Json) :
    SamePages s (s.visitItem world actor query minId limit item) := by
  unfold OutboxWalk.visitItem
  cases noteOf world actor item with
  | none => split_ifs <;> exact ⟨rfl, rfl, rfl, rfl⟩
  | some status => dsimp only; split_ifs <;> exact ⟨rfl, rfl, rfl, rfl⟩

theorem samePages_foldl (items : List Json) (s : OutboxWalk) :
    SamePages s (items.foldl (OutboxWalk.visitItem world actor query minId limit) s) := by
  induction items generalizing s with
  | nil => exact ⟨rfl, rfl, rfl, rfl⟩
  | cons item rest ih =>
    have first := @samePages_visitItem world actor query minId limit s item
    have later := ih (s.visitItem world actor query minId limit item)
    exact ⟨later.page.trans first.page, later.fetched.trans first.fetched,
      later.seekPages.trans first.seekPages, later.collectPages.trans first.collectPages⟩

/-- The pages of a walk are paid for by its budgets. -/
structure WithinBudgets (s : OutboxWalk) : Prop where
  seekPages : s.walk.seekPages ≤ transientOutboxSeekMaxPages
  collectPages : s.walk.collectPages ≤ transientOutboxCollectMaxPages
  fetched : s.fetched.length ≤ s.walk.seekPages + s.walk.collectPages + 3

theorem turnPage_fetched (s : OutboxWalk) :
    (s.turnPage world actor query minId limit).fetched.length ≤ s.fetched.length + 1
      ∧ (s.turnPage world actor query minId limit).walk.seekPages = s.walk.beginPage.seekPages
      ∧ (s.turnPage world actor query minId limit).walk.collectPages
        = s.walk.beginPage.collectPages := by
  have same := @samePages_foldl world actor query minId limit
    (activitypubCollectionItems s.page) { s with walk := s.walk.beginPage }
  unfold OutboxWalk.turnPage
  dsimp only
  split_ifs
  · exact ⟨by rw [same.fetched]; exact Nat.le_succ _, same.seekPages, same.collectPages⟩
  · cases activitypubCollectionNextUri _ with
    | none => exact ⟨by rw [same.fetched]; exact Nat.le_succ _, same.seekPages, same.collectPages⟩
    | some next =>
      dsimp only
      cases world.fetch next with
      | none | some page =>
        refine ⟨?_, same.seekPages, same.collectPages⟩
        rw [List.length_append, same.fetched]
        exact le_rfl

/-- Each page is paid for by one of the budgets. -/
theorem turnPage_paid (s : OutboxWalk) :
    (s.turnPage world actor query minId limit).walk.seekPages
        + (s.turnPage world actor query minId limit).walk.collectPages
      = s.walk.seekPages + s.walk.collectPages + 1 := by
  obtain ⟨-, seeks, collects⟩ := @turnPage_fetched world actor query minId limit s
  rw [seeks, collects, TransientOutboxWalkState.beginPage]
  split_ifs <;> dsimp only <;> omega

theorem WithinBudgets.turnPage (within : WithinBudgets s)
    (go : s.continues limit = true) :
    WithinBudgets (s.turnPage world actor query minId limit) := by
  obtain ⟨fetched, seeks, collects⟩ := @turnPage_fetched world actor query minId limit s
  obtain ⟨seekPages, collectPages, paid⟩ := within
  have sum := @turnPage_paid world actor query minId limit s
  have may : s.walk.canFetchPage = true := (Bool.and_eq_true_iff.mp go).2
  refine ⟨?_, ?_, by omega⟩
  all_goals
    rw [TransientOutboxWalkState.beginPage] at seeks collects
    rw [TransientOutboxWalkState.canFetchPage] at may
    split_ifs at seeks collects may <;>
    · have room := of_decide_eq_true may
      dsimp only at seeks collects
      omega

/-- **The walk ends**, within its budgets. -/
theorem outboxWalk_ends (page : Json) {fetched : List String} (few : fetched.length ≤ 3) :
    ∃ s, outboxWalk world actor query minId limit page fetched = some s ∧ WithinBudgets s := by
  have init : WithinBudgets ⟨page, [], .new query.maxId.isNone, fetched, false⟩ :=
    ⟨Nat.zero_le _, Nat.zero_le _, few⟩
  have keeps : ∀ s, WithinBudgets s → s.continues limit = true →
      WithinBudgets (s.turnPage world actor query minId limit) := fun s within => within.turnPage
  obtain ⟨s, ended⟩ := exists_whileLoop WithinBudgets
    (fun s => 45 - (s.walk.seekPages + s.walk.collectPages)) init keeps
    (fun s within go => by
      have spent := Nat.add_le_add (keeps s within go).seekPages (keeps s within go).collectPages
      rw [turnPage_paid] at spent ⊢
      exact Nat.sub_lt_sub_left spent (Nat.lt_succ_self _)) (Nat.sub_le _ _)
  exact ⟨s, ended, (whileLoop_invariant WithinBudgets ended init keeps).1⟩

theorem length_remoteActorOutboxPage_le (doc : Json) :
    (remoteActorOutboxPage world doc).2.length ≤ 2 := by
  unfold remoteActorOutboxPage
  cases doc.get "outbox" with
  | none => exact Nat.zero_le _
  | some outbox =>
    dsimp only
    cases activitypubReferenceUri outbox with
    | none | some uri => grind

theorem length_firstOutboxPage_le : (firstOutboxPage world actor).2.length ≤ 3 := by
  unfold firstOutboxPage
  cases (world.fetch actor.actorUri).filter world.isProfile with
  | none => exact Nat.le_add_left 1 2
  | some doc => exact Nat.succ_le_succ (length_remoteActorOutboxPage_le doc)

/-- **A request fetches at most forty-eight documents.** -/
theorem length_fetched_le :
    (loadTransientRemoteActorStatuses world actor query minId limit).2.length ≤ 48 := by
  unfold loadTransientRemoteActorStatuses
  split_ifs
  · exact Nat.zero_le _
  · exact Nat.zero_le _
  have few := @length_firstOutboxPage_le world actor
  generalize firstOutboxPage world actor = outbox at few ⊢
  obtain ⟨page, fetched⟩ := outbox
  cases page with
  | none => exact few.trans (Nat.le_add_left 3 45)
  | some page =>
    obtain ⟨s, ended, seeks, collects, paid⟩ :=
      @outboxWalk_ends world actor query minId (responseLimit limit) page fetched few
    dsimp only
    rw [ended, Option.map_some, Option.getD_some]
    exact paid.trans (Nat.add_le_add_right (Nat.add_le_add seeks collects) 3)

/-! ## What a request collects -/

/-- The statuses behind a cursor. -/
def behind (cursor : Option String) (statuses : List TransientStatus) : List TransientStatus :=
  match cursor with
  | none => statuses
  | some id => (statuses.dropWhile (·.id ≠ id)).tail

/-- The cursor has been passed. -/
def Passed (cursor : Option String) (seen : List TransientStatus) : Prop :=
  ∀ id ∈ cursor, id ∈ seen.map (·.id)

theorem behind_append_of_passed
    (passed : Passed cursor seen) (rest : List TransientStatus) :
    behind cursor (seen ++ rest) = behind cursor seen ++ rest := by
  cases cursor with
  | none => rfl
  | some id =>
    induction seen with
    | nil => cases passed id rfl
    | cons status seen ih =>
      by_cases here : status.id = id
      · simp [behind, here]
      · have later : Passed (some id) seen := by
          intro _ isId
          cases isId
          exact (List.mem_cons.mp (passed id rfl)).resolve_left (Ne.symm here)
        simpa [behind, here] using ih later

theorem behind_append_of_not_passed
    (ahead : ¬ Passed cursor seen) (rest : List TransientStatus) :
    behind cursor seen = [] ∧ behind cursor (seen ++ rest) = behind cursor rest := by
  cases cursor with
  | none => exact absurd (fun _ none => by cases none) ahead
  | some id =>
    have other : ∀ status ∈ seen, decide (status.id ≠ id) = true := by
      intro status mem
      refine decide_eq_true fun same => ahead ?_
      intro _ isId
      cases isId
      exact List.mem_map.mpr ⟨status, mem, same⟩
    constructor
    · rw [behind, List.dropWhile_eq_nil_iff.mpr other]
      rfl
    · rw [behind, List.dropWhile_append_of_pos other]
      rfl

theorem behind_singleton
    (ahead : ¬ Passed cursor seen) (status : TransientStatus) : behind cursor [status] = [] := by
  cases cursor with
  | none => exact absurd (fun _ none => by cases none) ahead
  | some id =>
    by_cases here : status.id = id
    · simp [behind, here]
    · simp [behind, here]

theorem passed_concat_iff
    :
    Passed cursor (seen ++ [status]) ↔ Passed cursor seen ∨ cursor = some status.id := by
  cases cursor with
  | none => simp [Passed]
  | some id => simp [Passed, or_comm, eq_comm]

/-- A status is collected exactly if the cursor has been passed before it. -/
theorem shouldCollect_spec {passed : Bool}
    (isPassed : passed = true ↔ Passed cursor seen) (new : status.id ∉ seen.map (·.id)) :
    ((transientOutboxShouldCollectStatus status.id cursor passed).1 = true ↔ Passed cursor seen)
      ∧ ((transientOutboxShouldCollectStatus status.id cursor passed).2 = true
        ↔ Passed cursor (seen ++ [status])) := by
  rw [passed_concat_iff]
  cases cursor with
  | none =>
    exact ⟨iff_of_true rfl (fun _ none => by cases none),
      isPassed.trans (or_iff_left (by simp)).symm⟩
  | some id =>
    rw [transientOutboxShouldCollectStatus]
    split_ifs with here
    · subst here
      exact ⟨iff_of_false (by simp) fun before => new (before _ rfl),
        iff_of_true rfl (Or.inr rfl)⟩
    · exact ⟨isPassed, isPassed.trans (or_iff_left (by simpa using Ne.symm here)).symm⟩

/-- The statuses seen so far are collected behind the cursor, up to the limit. -/
structure Collected (world : OutboxWorld) (query : AccountStatusesQuery) (limit : Nat)
    (seen : List TransientStatus) (s : OutboxWalk) : Prop where
  response : s.response = ((behind query.maxId seen).filter (isListed world query)).take limit
  passed : s.response.length < limit → (s.walk.passedMaxId = true ↔ Passed query.maxId seen)

theorem Collected.append_of_full
    (collected : Collected world query limit seen s) (pos : 0 < limit)
    (full : limit ≤ s.response.length) (rest : List TransientStatus) :
    Collected world query limit (seen ++ rest) s := by
  refine ⟨?_, fun room => absurd room (Nat.not_lt.mpr full)⟩
  have enough : limit ≤ ((behind query.maxId seen).filter (isListed world query)).length := by
    rw [collected.response, List.length_take] at full
    omega
  have passed : Passed query.maxId seen := by
    by_contra ahead
    rw [(behind_append_of_not_passed ahead []).1, List.filter_nil, List.length_nil] at enough
    omega
  rw [behind_append_of_passed passed, List.filter_append, List.take_append_of_le_length enough]
  exact collected.response

theorem Collected.visitItem
    (collected : Collected world query limit seen s) (pos : 0 < limit)
    (going : s.finished = false) (isNote : noteOf world actor item = some status)
    (new : status.id ∉ seen.map (·.id)) :
    Collected world query limit (seen ++ [status]) (s.visitItem world actor query none limit item)
      ∧ (s.visitItem world actor query none limit item).finished = false := by
  by_cases full : limit ≤ s.response.length
  · rw [OutboxWalk.visitItem, if_pos (Or.inr full)]
    exact ⟨collected.append_of_full pos full [status], going⟩
  · have room : s.response.length < limit := Nat.not_le.mp full
    have whole : s.response = (behind query.maxId seen).filter (isListed world query) := by
      have short := room
      rw [collected.response, List.length_take] at short
      rw [collected.response, List.take_of_length_le (by omega)]
    obtain ⟨collects, passes⟩ :=
      shouldCollect_spec (collected.passed room) new
    rw [OutboxWalk.visitItem, if_neg (by simp [going, full]), isNote]
    dsimp only
    generalize transientOutboxShouldCollectStatus status.id query.maxId s.walk.passedMaxId = answer
      at collects passes ⊢
    obtain ⟨collect, passed⟩ := answer
    cases collect with
    | false =>
      have ahead : ¬ Passed query.maxId seen := fun before => by cases collects.mpr before
      refine ⟨⟨?_, fun _ => passes⟩, going⟩
      obtain ⟨nothing, later⟩ := behind_append_of_not_passed ahead [status]
      rw [later, behind_singleton ahead]
      exact whole.trans (by simp [nothing])
    | true =>
      have before := collects.mp rfl
      have both : (behind query.maxId (seen ++ [status])).filter (isListed world query)
          = s.response ++ [status].filter (isListed world query) := by
        rw [behind_append_of_passed before, List.filter_append, whole]
      dsimp only
      rw [if_neg (by simp), if_neg (by simp)]
      split_ifs with shown
      · refine ⟨⟨?_, fun _ => passes⟩, going⟩
        rw [both, List.filter_cons_of_pos shown, List.filter_nil,
          List.take_of_length_le (by rw [List.length_append]; exact room)]
      · refine ⟨⟨?_, fun _ => passes⟩, going⟩
        rw [both, List.filter_cons_of_neg shown, List.filter_nil, List.append_nil,
          List.take_of_length_le room.le]

theorem visitItem_of_no_note
    (isNone : noteOf world actor item = none) :
    s.visitItem world actor query minId limit item = s := by
  rw [OutboxWalk.visitItem, isNone]
  split_ifs <;> rfl

theorem Collected.foldl {items : List Json}
    (collected : Collected world query limit seen s) (pos : 0 < limit)
    (going : s.finished = false)
    (nodup : ((seen ++ items.filterMap (noteOf world actor)).map (·.id)).Nodup) :
    Collected world query limit (seen ++ items.filterMap (noteOf world actor))
        (items.foldl (OutboxWalk.visitItem world actor query none limit) s)
      ∧ (items.foldl (OutboxWalk.visitItem world actor query none limit) s).finished = false := by
  induction items generalizing seen s with
  | nil => exact ⟨by rwa [List.filterMap_nil, List.append_nil], going⟩
  | cons item rest ih =>
    rw [List.foldl_cons]
    cases isNote : noteOf world actor item with
    | none =>
      rw [List.filterMap_cons_none isNote] at nodup ⊢
      rw [visitItem_of_no_note isNote]
      exact ih collected going nodup
    | some status =>
      rw [List.filterMap_cons_some isNote, List.append_cons] at nodup ⊢
      have new : status.id ∉ seen.map (·.id) := by
        rw [List.append_assoc, List.map_append, List.nodup_append] at nodup
        intro mem
        exact nodup.2.2 _ mem _ List.mem_cons_self rfl
      obtain ⟨next, unfinished⟩ := collected.visitItem pos going isNote new
      exact ih next unfinished nodup

/-! ## The pages of an outbox -/

/-- The pages from one on, if there are finitely many. -/
inductive OutboxPages (world : OutboxWorld) : Json → List Json → Prop where
  | last {page : Json} (ends : (activitypubCollectionNextUri page).bind world.fetch = none) :
      OutboxPages world page [page]
  | next {page page' : Json} {pages : List Json}
      (turned : (activitypubCollectionNextUri page).bind world.fetch = some page')
      (rest : OutboxPages world page' pages) : OutboxPages world page (page :: pages)

/-- What a walk without a lower bound has seen and collected. -/
inductive Walked (world : OutboxWorld) (actor : OutboxActor) (query : AccountStatusesQuery)
    (limit : Nat) (all : List TransientStatus) (s : OutboxWalk) : Prop where
  | going (seen : List TransientStatus) (pages : List Json) (unfinished : s.finished = false)
      (left : OutboxPages world s.page pages)
      (whole : all = seen ++ pages.flatMap (notesOn world actor))
      (collected : Collected world query limit seen s)
  | done (seen left : List TransientStatus) (whole : all = seen ++ left)
      (collected : Collected world query limit seen s)
      (finished : s.finished = true) (enough : left = [] ∨ limit ≤ s.response.length)

theorem Walked.turnPage {all : List TransientStatus} (pos : 0 < limit)
    (nodup : (all.map (·.id)).Nodup) (walked : Walked world actor query limit all s)
    (go : s.continues limit = true) :
    Walked world actor query limit all (s.turnPage world actor query none limit) := by
  cases walked with
  | done _ _ _ _ finished =>
    rw [OutboxWalk.continues, finished] at go
    cases go
  | going seen pages unfinished left whole collected =>
    obtain ⟨rest, parts⟩ : ∃ rest, pages = s.page :: rest := by
      cases left with
      | last | next => exact ⟨_, rfl⟩
    rw [parts, List.flatMap_cons, ← List.append_assoc] at whole
    have begun : Collected world query limit seen { s with walk := s.walk.beginPage } := by
      refine ⟨collected.response, ?_⟩
      rw [TransientOutboxWalkState.beginPage]
      split_ifs <;> exact collected.passed
    have fresh : ((seen ++ notesOn world actor s.page).map (·.id)).Nodup := by
      rw [whole, List.map_append] at nodup
      exact nodup.of_append_left
    obtain ⟨after, going⟩ := begun.foldl pos unfinished fresh
    have same := (@samePages_foldl world actor query none limit
      (activitypubCollectionItems s.page) { s with walk := s.walk.beginPage }).page
    rw [OutboxWalk.turnPage]
    generalize (activitypubCollectionItems s.page).foldl _ _ = turned at after going same ⊢
    split_ifs with full
    · exact .done _ _ whole ⟨after.response, after.passed⟩ rfl
        (Or.inr (full.resolve_left (by simp [going])))
    · rw [same]
      subst parts
      cases left with
      | last ends =>
        rw [List.flatMap_nil] at whole
        cases next : activitypubCollectionNextUri s.page with
        | none =>
          exact .done _ [] whole ⟨after.response, after.passed⟩ rfl (Or.inl rfl)
        | some uri =>
          rw [next, Option.bind_some] at ends
          dsimp only
          rw [ends]
          exact .done _ [] whole ⟨after.response, after.passed⟩ rfl (Or.inl rfl)
      | @next _ page' _ turned left =>
        obtain ⟨uri, next, fetched⟩ := Option.bind_eq_some_iff.mp turned
        rw [next]
        dsimp only
        rw [fetched]
        exact .going _ _ going left whole ⟨after.response, after.passed⟩

/-- A budget ends the walk before the page is full and the outbox has ended. -/
def RunsOutOfPages (world : OutboxWorld) (actor : OutboxActor) (query : AccountStatusesQuery)
    (limit : Nat) : Prop :=
  ∃ page s, (firstOutboxPage world actor).1 = some page
    ∧ outboxWalk world actor query none (responseLimit limit) page
      (firstOutboxPage world actor).2 = some s
    ∧ s.finished = false ∧ s.response.length < responseLimit limit

theorem responseLimit_pos : 0 < responseLimit limit := by
  unfold responseLimit
  omega

/-- **A request within the budgets** returns the first listed statuses behind its cursor. -/
theorem load_eq {page : Json} (indexable : actor.indexable = true)
    (unpinned : query.pinned.getD false = false)
    (first : (firstOutboxPage world actor).1 = some page) (left : OutboxPages world page pages)
    (nodup : ((pages.flatMap (notesOn world actor)).map (·.id)).Nodup)
    (within : ¬ RunsOutOfPages world actor query limit) :
    (loadTransientRemoteActorStatuses world actor query none limit).1
      = ((behind query.maxId (pages.flatMap (notesOn world actor))).filter
        (isListed world query)).take (responseLimit limit) := by
  obtain ⟨s, ended, -⟩ := @outboxWalk_ends world actor query none (responseLimit limit) page
    (firstOutboxPage world actor).2 length_firstOutboxPage_le
  have pos := @responseLimit_pos limit
  have result : (loadTransientRemoteActorStatuses world actor query none limit).1 = s.response := by
    rw [loadTransientRemoteActorStatuses, if_neg (by simp [indexable]), if_neg (by simp [unpinned])]
    generalize firstOutboxPage world actor = outbox at first ended ⊢
    obtain ⟨_, fetched⟩ := outbox
    cases first
    dsimp only
    rw [ended]
    rfl
  have init : Walked world actor query (responseLimit limit) (pages.flatMap (notesOn world actor))
      ⟨page, [], .new query.maxId.isNone, (firstOutboxPage world actor).2, false⟩ := by
    refine .going [] pages rfl left rfl ⟨?_, fun _ => ?_⟩
    · cases query.maxId <;> exact List.take_nil.symm
    · cases query.maxId with
      | none => exact iff_of_true rfl fun _ none => by cases none
      | some id => exact iff_of_false Bool.false_ne_true fun none => by cases none id rfl
  obtain ⟨walked, stopped⟩ := whileLoop_invariant (Walked world actor query (responseLimit limit)
    (pages.flatMap (notesOn world actor))) ended init
    fun s walked go => walked.turnPage pos nodup go
  rw [result]
  have whole : ∀ seen rest, pages.flatMap (notesOn world actor) = seen ++ rest →
      Collected world query (responseLimit limit) seen s →
      rest = [] ∨ responseLimit limit ≤ s.response.length →
      s.response = ((behind query.maxId (pages.flatMap (notesOn world actor))).filter
        (isListed world query)).take (responseLimit limit) := by
    rintro seen rest parts collected (rfl | full)
    · rw [parts, List.append_nil]
      exact collected.response
    · rw [parts]
      exact (collected.append_of_full pos full rest).response
  cases walked with
  | done seen rest parts collected _ enough => exact whole seen rest parts collected enough
  | going seen pages unfinished _ parts collected =>
    have full : responseLimit limit ≤ s.response.length := by
      by_contra room
      exact within ⟨page, s, first, ended, unfinished, Nat.not_le.mp room⟩
    exact whole seen _ parts collected (Or.inr full)

theorem turnPage_cases (s : OutboxWalk) :
    (s.turnPage world actor query minId limit).finished = true
      ∨ (activitypubCollectionNextUri s.page).bind world.fetch
        = some (s.turnPage world actor query minId limit).page := by
  have same := (@samePages_foldl world actor query minId limit
    (activitypubCollectionItems s.page) { s with walk := s.walk.beginPage }).page
  rw [OutboxWalk.turnPage]
  generalize (activitypubCollectionItems s.page).foldl _ _ = turned at same ⊢
  split_ifs
  · exact Or.inl rfl
  · rw [same]
    cases activitypubCollectionNextUri s.page with
    | none => exact Or.inl rfl
    | some uri =>
      rw [Option.bind_some]
      dsimp only
      cases world.fetch uri with
      | none => exact Or.inl rfl
      | some page => exact Or.inr rfl

/-- **An outbox of at most five pages** is within the budgets of every request. -/
theorem not_runsOutOfPages {page : Json}
    (first : (firstOutboxPage world actor).1 = some page) (left : OutboxPages world page pages)
    (few : pages.length ≤ transientOutboxCollectMaxPages) :
    ¬ RunsOutOfPages world actor query limit := by
  rintro ⟨_, s, isFirst, ended, unfinished, room⟩
  rw [first] at isFirst
  cases isFirst
  let Paid (s : OutboxWalk) : Prop := s.finished = true ∨ ∃ pages, OutboxPages world s.page pages
    ∧ s.walk.seekPages + s.walk.collectPages + pages.length ≤ transientOutboxCollectMaxPages
  have init : Paid ⟨page, [], .new query.maxId.isNone, (firstOutboxPage world actor).2, false⟩ :=
    Or.inr ⟨pages, left, by simpa [TransientOutboxWalkState.new] using few⟩
  have may : ∀ s, Paid s → s.finished = false → s.walk.canFetchPage = true := by
    rintro s (finished | ⟨pages, left, paid⟩) unfinished
    · rw [finished] at unfinished
      cases unfinished
    · have more : 0 < pages.length := by cases left <;> exact Nat.succ_pos _
      rw [transientOutboxCollectMaxPages] at paid
      rw [TransientOutboxWalkState.canFetchPage, transientOutboxSeekMaxPages,
        transientOutboxCollectMaxPages]
      split_ifs <;> exact decide_eq_true (by omega)
  obtain ⟨paid, stopped⟩ := whileLoop_invariant Paid ended init fun s paid go => by
    have unfinished : s.finished = false := by
      cases finished : s.finished with
      | false => rfl
      | true => rw [OutboxWalk.continues, finished] at go; cases go
    rcases @turnPage_cases world actor query none (responseLimit limit) s with finished | turned
    · exact Or.inl finished
    · obtain ⟨pages, left, paid⟩ := paid.resolve_left (by simp [unfinished])
      have sum := @turnPage_paid world actor query none (responseLimit limit) s
      cases left with
      | last ends => rw [ends] at turned; cases turned
      | next turned' left =>
        rw [turned] at turned'
        cases turned'
        rw [List.length_cons] at paid
        exact Or.inr ⟨_, left, by omega⟩
  have go : s.continues (responseLimit limit) = true := by
    simp [OutboxWalk.continues, unfinished, room, may s paid unfinished]
  rw [go] at stopped
  cases stopped

theorem behind_suffix (cursor : Option String) (statuses : List TransientStatus) :
    behind cursor statuses <:+ statuses := by
  cases cursor with
  | none => exact List.suffix_rfl
  | some id => exact (List.tail_suffix _).trans (List.dropWhile_suffix _)

theorem behind_last {all front more : List TransientStatus}
    {last : TransientStatus} {holds : TransientStatus → Bool} (nodup : (all.map (·.id)).Nodup)
    (parts : (behind cursor all).filter holds = front ++ last :: more) :
    (behind (some last.id) all).filter holds = more := by
  obtain ⟨before, after, split, -, later⟩ := List.filter_eq_append_iff.mp parts
  obtain ⟨between, rest, split', -, -, same⟩ := List.filter_eq_cons_iff.mp later
  obtain ⟨start, whole⟩ := behind_suffix cursor all
  rw [split, split', ← List.append_assoc, ← List.append_assoc] at whole
  rw [← whole, List.map_append, List.nodup_append] at nodup
  have ahead : ¬ Passed (some last.id) (start ++ before ++ between) := fun passed =>
    nodup.2.2 _ (passed _ rfl) _ List.mem_cons_self rfl
  rw [← whole, (behind_append_of_not_passed ahead _).2, ← same]
  simp [behind]

/-- The statuses of the request with a cursor. -/
def requestedStatuses (world : OutboxWorld) (actor : OutboxActor) (query : AccountStatusesQuery)
    (limit : Nat) (cursor : Option String) : List TransientStatus :=
  (loadTransientRemoteActorStatuses world actor { query with maxId := cursor } none limit).1

end Walks

/-! ## An outbox of two notes -/

def aliceUri : String := "https://remote.example/users/alice"

def aliceNote (id : String) : Json :=
  .object [("type", .string "Note"), ("id", .string id), ("attributedTo", .string aliceUri),
    ("to", .string "as:Public")]

def alicePage : Json :=
  .object [("orderedItems", .array [aliceNote "https://remote.example/2",
    aliceNote "https://remote.example/1"])]

/-- The outbox is embedded in the profile. -/
def aliceWorld : OutboxWorld where
  fetch uri := if uri = aliceUri then some (.object [("outbox", alicePage)]) else none
  isProfile _ := true
  contentHtml _ := ""
  hasAttachments _ := false

def plainQuery : AccountStatusesQuery := ⟨none, none, none, none, none, none, none⟩

theorem aliceWorld_first (indexable : Bool) :
    (firstOutboxPage aliceWorld ⟨aliceUri, indexable⟩).1 = some alicePage :=
  rfl

theorem aliceWorld_nodup :
    (([alicePage].flatMap (notesOn aliceWorld ⟨aliceUri, true⟩)).map (·.id)).Nodup := by
  decide +kernel

end Cfwdon.Accounts
