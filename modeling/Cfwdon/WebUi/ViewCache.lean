import Mathlib.Data.List.Sort

/-!
# The cached home timeline of the web client

Events of a stream and pages of older statuses change the list.  A status counts as listed
where an entry has its id or shows it, so the original of a listed boost is not listed
again.  Times of creation are compared as text is, by some linear order.
-/

namespace Cfwdon.WebUi

structure OriginalStatus (Time Content : Type) where
  id : String
  createdAt : Time
  content : Content
  deriving DecidableEq

inductive Status (Time Content : Type) where
  | original (status : OriginalStatus Time Content)
  | boost (id : String) (createdAt : Time) (original : OriginalStatus Time Content)
  deriving DecidableEq

variable {Time Content : Type}

namespace Status

def id : Status Time Content → String
  | .original status => status.id
  | .boost id _ _ => id

def createdAt : Status Time Content → Time
  | .original status => status.createdAt
  | .boost _ createdAt _ => createdAt

def displayBody : Status Time Content → OriginalStatus Time Content
  | .original status => status
  | .boost _ _ body => body

def withBody (status : Status Time Content) (original : OriginalStatus Time Content) :
    Status Time Content :=
  match status with
  | .original _ => .original original
  | .boost id createdAt _ => .boost id createdAt original

/-- The entry has the id or shows the status that has it. -/
def isOf (statusId : String) (item : Status Time Content) : Bool :=
  item.id == statusId || item.displayBody.id == statusId

def containsId (statuses : List (Status Time Content)) (statusId : String) : Bool :=
  statuses.any (isOf statusId)

def replaceInList (statuses : List (Status Time Content)) (updated : Status Time Content) :
    List (Status Time Content) :=
  statuses.map fun item =>
    if item.displayBody.id ≠ updated.displayBody.id then item
    else item.withBody updated.displayBody

def insertOrdered [LinearOrder Time] (statuses : List (Status Time Content))
    (incoming : Status Time Content) : List (Status Time Content) :=
  if containsId statuses incoming.id then statuses
  else
    match statuses.findIdx? fun item => decide (item.createdAt ≤ incoming.createdAt) with
    | none => statuses ++ [incoming]
    | some index => statuses.take index ++ incoming :: statuses.drop index

def appendUnique (statuses incoming : List (Status Time Content)) :
    List (Status Time Content) :=
  statuses ++ incoming.filter fun item => !containsId statuses item.id

def removeById (statuses : List (Status Time Content)) (statusId : String) :
    List (Status Time Content) :=
  statuses.filter fun item => !isOf statusId item

end Status

/-- What changes the home list: the events of `applyStreamEvent`, and a page of older
statuses. -/
inductive TimelineEvent (Time Content : Type) where
  | update (status : Status Time Content)
  | statusUpdate (status : Status Time Content)
  | delete (statusId : String)
  | page (statuses : List (Status Time Content))

/-! ## Ids -/

abbrev IdsApart (statuses : List (Status Time Content)) : Prop :=
  (statuses.map Status.id).Nodup

namespace Status

variable {statuses : List (Status Time Content)} {incoming item : Status Time Content}

theorem containsId_iff {statusId : String} :
    containsId statuses statusId = true ↔ ∃ item ∈ statuses, item.isOf statusId := by
  rw [containsId, List.any_eq_true]

theorem map_id_replaceInList : (replaceInList statuses incoming).map id = statuses.map id := by
  rw [replaceInList, List.map_map]
  refine List.map_congr_left fun item _ => ?_
  rw [Function.comp_apply]
  split_ifs with other
  · rfl
  · cases item with
    | original status => exact (not_not.mp other).symm
    | boost id createdAt body => rfl

theorem idsApart_appendUnique {older : List (Status Time Content)} (apart : IdsApart statuses)
    (olderApart : IdsApart older) : IdsApart (appendUnique statuses older) := by
  rw [IdsApart, appendUnique, List.map_append, List.nodup_append]
  refine ⟨apart, olderApart.sublist ((List.filter_sublist ..).map _), ?_⟩
  intro first mem second olderMember eq
  obtain ⟨item, listed, rfl⟩ := List.mem_map.mp mem
  obtain ⟨other, chosen, rfl⟩ := List.mem_map.mp olderMember
  have new := (List.mem_filter.mp chosen).2
  have contained : containsId statuses other.id = true :=
    containsId_iff.mpr ⟨item, listed, by simp [isOf, eq]⟩
  simp [contained] at new

end Status

variable [LinearOrder Time]

def applyEvent (statuses : List (Status Time Content)) :
    TimelineEvent Time Content → List (Status Time Content)
  | .update status => Status.insertOrdered statuses status
  | .statusUpdate status => Status.replaceInList statuses status
  | .delete statusId => Status.removeById statuses statusId
  | .page older => Status.appendUnique statuses older

abbrev applyEvents (start : List (Status Time Content))
    (events : List (TimelineEvent Time Content)) : List (Status Time Content) :=
  events.foldl applyEvent start

/-! ## What should hold of the list -/

def Newer (item later : Status Time Content) : Prop := later.createdAt ≤ item.createdAt

instance : DecidableRel (@Newer Time Content _) := fun _ _ =>
  inferInstanceAs (Decidable (_ ≤ _))

instance : Std.Total (@Newer Time Content _) where
  total item later := le_total later.createdAt item.createdAt

instance : IsTrans (Status Time Content) Newer where
  trans _ _ _ first second := second.trans first

def NewestFirst (statuses : List (Status Time Content)) : Prop := statuses.Pairwise Newer

def TimelineEvent.Brings (id : String) : TimelineEvent Time Content → Prop
  | .update status => status.id = id
  | .page older => ∃ item ∈ older, item.id = id
  | _ => False

/-- The updates may arrive in another order. -/
def OrderFree (start statuses : List (Status Time Content)) : Prop :=
  ∀ other : List (Status Time Content), other.Perm statuses → ∀ item,
    item ∈ applyEvents start (other.map .update) ↔ item ∈ applyEvents start (statuses.map .update)

/-- No update is of a status that another one boosts. -/
def Unboosted (statuses : List (Status Time Content)) : Prop :=
  ∀ status ∈ statuses, ∀ other ∈ statuses, other.displayBody.id = status.id → other = status

structure HomeListLaw (start : List (Status Time Content))
    (events : List (TimelineEvent Time Content)) : Prop where
  idsApart : IdsApart (applyEvents start events)
  newestFirst : ∀ earlier status later, events = earlier ++ .update status :: later →
    NewestFirst (applyEvents start earlier) →
    NewestFirst (applyEvents start (earlier ++ [.update status]))
  staysAbsent : ∀ earlier statusId later, events = earlier ++ .delete statusId :: later →
    ∀ item ∈ applyEvents start earlier, item.isOf statusId →
      (∀ event ∈ later, ¬ event.Brings item.id) →
      ∀ listed ∈ applyEvents start events, listed.id ≠ item.id

/-! ## Events one by one -/

namespace Status

variable {statuses : List (Status Time Content)} {incoming item : Status Time Content}

/-- Before the first entry that is not newer is where the sorted list has it. -/
theorem insertOrdered_eq (absent : containsId statuses incoming.id = false) :
    insertOrdered statuses incoming = statuses.orderedInsert Newer incoming := by
  rw [insertOrdered, if_neg (by simp [absent])]
  clear absent
  induction statuses with
  | nil => rfl
  | cons item rest ih =>
    rw [List.findIdx?_cons, List.orderedInsert_cons]
    by_cases older : item.createdAt ≤ incoming.createdAt
    · simp [older, Newer]
    · have later : ¬ Newer incoming item := older
      rw [if_neg later, ← ih]
      cases rest.findIdx? fun item => decide (item.createdAt ≤ incoming.createdAt) <;> simp [older]

theorem mem_insertOrdered :
    item ∈ insertOrdered statuses incoming
      ↔ item ∈ statuses ∨ containsId statuses incoming.id = false ∧ item = incoming := by
  cases listed : containsId statuses incoming.id with
  | true => simp [insertOrdered, listed]
  | false => simp [insertOrdered_eq listed, or_comm]

theorem idsApart_insertOrdered (apart : IdsApart statuses) :
    IdsApart (insertOrdered statuses incoming) := by
  cases listed : containsId statuses incoming.id with
  | true => rwa [insertOrdered, if_pos listed]
  | false =>
    rw [insertOrdered_eq listed, IdsApart, ((List.perm_orderedInsert ..).map _).nodup_iff,
      List.map_cons, List.nodup_cons]
    refine ⟨?_, apart⟩
    intro mem
    obtain ⟨item, isListed, eq⟩ := List.mem_map.mp mem
    rw [← Bool.not_eq_true, containsId_iff] at listed
    exact listed ⟨item, isListed, by simp [isOf, eq]⟩

theorem newestFirst_insertOrdered (sorted : NewestFirst statuses) :
    NewestFirst (insertOrdered statuses incoming) := by
  cases listed : containsId statuses incoming.id with
  | true => rwa [insertOrdered, if_pos listed]
  | false =>
    rw [insertOrdered_eq listed]
    exact sorted.orderedInsert incoming statuses

end Status

variable {start statuses : List (Status Time Content)}
variable {events : List (TimelineEvent Time Content)}

variable {ev : TimelineEvent Time Content} {id : String} {item : Status Time Content}

theorem idsApart_applyEvent (apart : IdsApart statuses)
    (pageApart : ∀ older, ev = .page older → IdsApart older) :
    IdsApart (applyEvent statuses ev) := by
  cases ev with
  | update status => exact Status.idsApart_insertOrdered apart
  | statusUpdate status =>
    rw [applyEvent, IdsApart, Status.map_id_replaceInList]
    exact apart
  | delete statusId => exact apart.sublist ((List.filter_sublist ..).map _)
  | page older => exact Status.idsApart_appendUnique apart (pageApart older rfl)

/-- An event lists nothing but what was listed and what it brings. -/
theorem listed_or_brought
    (listed : id ∈ (applyEvent statuses ev).map Status.id) :
    id ∈ statuses.map Status.id ∨ ev.Brings id := by
  cases ev with
  | update status =>
    obtain ⟨item, mem, rfl⟩ := List.mem_map.mp listed
    rcases Status.mem_insertOrdered.mp mem with old | ⟨-, rfl⟩
    · exact Or.inl (List.mem_map_of_mem old)
    · exact Or.inr rfl
  | statusUpdate status =>
    rw [applyEvent, Status.map_id_replaceInList] at listed
    exact Or.inl listed
  | delete statusId => exact Or.inl (((List.filter_sublist ..).map _).subset listed)
  | page older =>
    obtain ⟨item, mem, rfl⟩ := List.mem_map.mp listed
    rcases List.mem_append.mp mem with old | new
    · exact Or.inl (List.mem_map_of_mem old)
    · exact Or.inr ⟨item, List.mem_of_mem_filter new, rfl⟩

theorem not_listed_of_not_brought (absent : id ∉ statuses.map Status.id)
    (quiet : ∀ ev ∈ events, ¬ ev.Brings id) :
    id ∉ (applyEvents statuses events).map Status.id := by
  induction events generalizing statuses with
  | nil => exact absent
  | cons ev rest ih =>
    apply ih
    · intro listed
      exact (listed_or_brought listed).elim absent (quiet ev (List.mem_cons_self ..))
    · exact fun later mem => quiet later (List.mem_cons_of_mem _ mem)

/-! ## Sequences of events -/

theorem idsApart_applyEvents (apart : IdsApart start)
    (pagesApart : ∀ older, .page older ∈ events → IdsApart older) :
    IdsApart (applyEvents start events) := by
  induction events generalizing start with
  | nil => exact apart
  | cons ev rest ih =>
    apply ih
    · apply idsApart_applyEvent apart
      rintro older rfl
      exact pagesApart older (List.mem_cons_self ..)
    · exact fun older mem => pagesApart older (List.mem_cons_of_mem _ mem)

/-- What is listed after updates of which none boosts another. -/
theorem mem_applyUpdates (apart : IdsApart statuses)
    (unboosted : Unboosted statuses) :
    item ∈ applyEvents start (statuses.map .update)
      ↔ item ∈ start ∨ item ∈ statuses ∧ Status.containsId start item.id = false := by
  induction statuses generalizing start with
  | nil => simp [applyEvents]
  | cons status rest ih =>
    obtain ⟨new, restApart⟩ := List.nodup_cons.mp apart
    have restUnboosted : Unboosted rest := fun first mem second later =>
      unboosted first (List.mem_cons_of_mem _ mem) second (List.mem_cons_of_mem _ later)
    have sameForRest (mem : item ∈ rest) :
        Status.containsId (Status.insertOrdered start status) item.id
          = Status.containsId start item.id := by
      have other : ¬ status.isOf item.id := by
        rw [Status.isOf, Bool.or_eq_true, beq_iff_eq, beq_iff_eq]
        rintro (eq | shown)
        · exact new (eq ▸ List.mem_map_of_mem mem)
        · obtain rfl := unboosted item (List.mem_cons_of_mem _ mem) status
            (List.mem_cons_self ..) shown
          exact new (List.mem_map_of_mem mem)
      rw [Bool.eq_iff_iff, Status.containsId_iff, Status.containsId_iff]
      constructor
      · rintro ⟨got, listed, isOf⟩
        rcases Status.mem_insertOrdered.mp listed with old | ⟨-, rfl⟩
        · exact ⟨got, old, isOf⟩
        · exact absurd isOf other
      · rintro ⟨got, listed, isOf⟩
        exact ⟨got, Status.mem_insertOrdered.mpr (Or.inl listed), isOf⟩
    have rest_iff := @ih (Status.insertOrdered start status) restApart restUnboosted
    have first : applyEvents start ((status :: rest).map .update)
        = applyEvents (Status.insertOrdered start status) (rest.map .update) := rfl
    rw [first, rest_iff, Status.mem_insertOrdered, List.mem_cons]
    grind

theorem orderFree_of_unboosted (apart : IdsApart statuses) (unboosted : Unboosted statuses) :
    OrderFree start statuses := by
  intro other reordered item
  have otherApart : IdsApart other := (reordered.map _).nodup_iff.mpr apart
  have otherUnboosted : Unboosted other := fun first mem second later =>
    unboosted first (reordered.mem_iff.mp mem) second (reordered.mem_iff.mp later)
  rw [mem_applyUpdates otherApart otherUnboosted, mem_applyUpdates apart unboosted,
    reordered.mem_iff]

theorem newestFirst_update {status : Status Time Content}
    (sorted : NewestFirst (applyEvents start events)) :
    NewestFirst (applyEvents start (events ++ [.update status])) := by
  rw [applyEvents, List.foldl_append]
  exact Status.newestFirst_insertOrdered sorted

theorem staysAbsent_delete {later : List (TimelineEvent Time Content)} {statusId : String}
    (apart : IdsApart (applyEvents start events))
    (mem : item ∈ applyEvents start events)
    (removed : item.isOf statusId) (quiet : ∀ ev ∈ later, ¬ ev.Brings item.id) :
    ∀ listed ∈ applyEvents start (events ++ .delete statusId :: later), listed.id ≠ item.id := by
  have gone : item.id ∉ (Status.removeById (applyEvents start events) statusId).map Status.id := by
    intro left
    obtain ⟨other, kept, eq⟩ := List.mem_map.mp left
    obtain ⟨listed, notOf⟩ := List.mem_filter.mp kept
    obtain rfl := List.inj_on_of_nodup_map apart listed mem eq
    simp [removed] at notOf
  intro listed got eq
  rw [applyEvents, List.foldl_append, List.foldl_cons] at got
  exact not_listed_of_not_brought gone quiet (List.mem_map.mpr ⟨listed, got, eq⟩)

def originalPost : Status Nat Unit := .original ⟨"1", 1, ()⟩

def boostOfPost : Status Nat Unit := .boost "2" 2 ⟨"1", 1, ()⟩

end Cfwdon.WebUi
