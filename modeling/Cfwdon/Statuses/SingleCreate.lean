import Cfwdon.Library.Lists
import Cfwdon.Statuses.Idempotency

/-!
# At most one status per idempotency key

Requests of one account that carry one key should create one status between them,
and all answer with it, for as long as the key lives.  The lookup of the key, the
insert of the status and the record of the key are separate statements: a request
that looks the key up while another is on its way from its lookup to its record
finds nothing and creates a second status.

The invariant counts the requests past their lookup together with what was created
under the key; the total is at most one.  What was created stays stored, and what
was recorded stays found until the hour is over.
-/

namespace Cfwdon.Statuses

open Library

variable {subject : CreatedSubject} {phase : CreatePhase}

section OneKey

variable (accountId idempotencyKey : String)

/-- What was created under the key. -/
def CreateState.createdFor (s : CreateState) : List CreatedSubject :=
  subjectsFor accountId idempotencyKey s.created

/-- What was answered under the key. -/
def CreateState.answeredFor (s : CreateState) : List CreatedSubject :=
  subjectsFor accountId idempotencyKey s.answers

/-- Nothing was done under the key yet: no request carries it, and a row left over from
an earlier use is expired. -/
structure CreateState.Quiet (s : CreateState) : Prop where
  noRequests : ∀ request ∈ s.requests, ¬ request.Carries accountId idempotencyKey
  noneCreated : s.createdFor accountId idempotencyKey = []
  noneAnswered : s.answeredFor accountId idempotencyKey = []
  noneRecorded : ∀ row ∈ s.recorded, row.key ≠ (accountId, idempotencyKey)
  expired : findIdempotentStatusId s.now accountId idempotencyKey s.keys = none

/-- Requests look the key up within the hour after any of its records. -/
def LookupWithinLifetime (s : CreateState) : CreateEvent → Prop
  | .lookup request => request.Carries accountId idempotencyKey →
      ∀ row ∈ s.recorded, row.key = (accountId, idempotencyKey) → row.live s.now = true
  | _ => True

/-- A request under the key is past its lookup and has inserted nothing yet. -/
def CreateRequest.CreatingFor (request : CreateRequest) : Prop :=
  request.Carries accountId idempotencyKey ∧ request.phase = .creating

instance (request : CreateRequest) : Decidable (request.CreatingFor accountId idempotencyKey) :=
  inferInstanceAs (Decidable (_ ∧ _))

/-- A request looks the key up only when no other is creating and everything created
under the key was recorded; a scheduled one starts creating only when nothing else
was created.  What was created under the key is not deleted. -/
def RetriesWaitForRecord (s : CreateState) : CreateEvent → Prop
  | .lookup request => request.Carries accountId idempotencyKey →
      (∀ other ∈ s.requests, ¬ other.CreatingFor accountId idempotencyKey)
        ∧ ∀ subject ∈ s.createdFor accountId idempotencyKey, ∃ row ∈ s.recorded,
            row.key = (accountId, idempotencyKey) ∧ subject = .status row.statusId
  | .skipLookup request => request.Carries accountId idempotencyKey →
      (∀ other ∈ s.requests, ¬ other.CreatingFor accountId idempotencyKey)
        ∧ s.createdFor accountId idempotencyKey = []
  | .deleteStatus id => .status id ∉ s.createdFor accountId idempotencyKey
  | _ => True

/-! ## The invariant -/

/-- One for a request on its way to create something under the key. -/
def CreateRequest.pending (request : CreateRequest) : Nat :=
  if request.CreatingFor accountId idempotencyKey then 1 else 0

/-- At most one status is created or about to be; it is stored, requests under the key
refer to it, and the row of the key does until it expires. -/
structure SingleCreate (s : CreateState) : Prop where
  single : total (CreateRequest.pending accountId idempotencyKey) s.requests
    + (s.createdFor accountId idempotencyKey).length ≤ 1
  stored : ∀ statusId, .status statusId ∈ s.createdFor accountId idempotencyKey →
    s.statuses.find statusId = some ⟨statusId, accountId⟩
  referring : ∀ request ∈ s.requests, request.Carries accountId idempotencyKey →
    ∀ subject, request.phase.subject = some subject →
      subject ∈ s.createdFor accountId idempotencyKey
  found : ∀ statusId,
    findIdempotentStatusId s.now accountId idempotencyKey s.keys = some statusId →
      .status statusId ∈ s.createdFor accountId idempotencyKey
  kept : ∀ row ∈ s.recorded, row.key = (accountId, idempotencyKey) → row.createdAt ≤ s.now
    ∧ (row.live s.now = true → ∃ later, s.keys.find (accountId, idempotencyKey) = some later
      ∧ row.createdAt ≤ later.createdAt)
  answered : ∀ subject ∈ s.answeredFor accountId idempotencyKey,
    subject ∈ s.createdFor accountId idempotencyKey

variable {accountId idempotencyKey}

theorem SingleCreate.of_quiet {s : CreateState} (quiet : s.Quiet accountId idempotencyKey) :
    SingleCreate accountId idempotencyKey s where
  single := by
    have nonePending : total (CreateRequest.pending accountId idempotencyKey) s.requests = 0 :=
      total_eq_zero fun request mem =>
        if_neg fun creating => quiet.noRequests request mem creating.1
    rw [nonePending, quiet.noneCreated]
    exact Nat.zero_le 1
  stored := by
    intro statusId made
    rw [quiet.noneCreated] at made
    cases made
  referring := fun request mem has => absurd has (quiet.noRequests request mem)
  found := by
    intro statusId found
    rw [quiet.expired] at found
    cases found
  kept := fun row mem isKey => absurd isKey (quiet.noneRecorded row mem)
  answered := by
    intro subject answered
    rw [quiet.noneAnswered] at answered
    cases answered

section OneStep

variable {s s' : CreateState} {event : CreateEvent}

theorem SingleCreate.moves {requests : List CreateRequest}
    (inv : SingleCreate accountId idempotencyKey s)
    (fewer : total (CreateRequest.pending accountId idempotencyKey) requests
      ≤ total (CreateRequest.pending accountId idempotencyKey) s.requests)
    (referring : ∀ request ∈ requests, request.Carries accountId idempotencyKey →
      ∀ subject, request.phase.subject = some subject →
        subject ∈ s.createdFor accountId idempotencyKey) :
    SingleCreate accountId idempotencyKey { s with requests := requests } where
  single := Nat.le_trans (Nat.add_le_add_right fewer _) inv.single
  stored := inv.stored
  referring := referring
  found := inv.found
  kept := inv.kept
  answered := inv.answered

theorem pending_of_not_creating {request : CreateRequest} (idle : request.phase ≠ .creating) :
    request.pending accountId idempotencyKey = 0 :=
  if_neg fun creating => idle creating.2

theorem pending_le_one (request : CreateRequest) :
    request.pending accountId idempotencyKey ≤ 1 := by
  unfold CreateRequest.pending
  split <;> omega

variable {request : CreateRequest} {earlier later : List CreateRequest}

theorem SingleCreate.settles
    (inv : SingleCreate accountId idempotencyKey s)
    (runs : s.requests = earlier ++ request :: later) (idle : phase ≠ .creating)
    (refers : request.Carries accountId idempotencyKey → ∀ subject,
      phase.subject = some subject → subject ∈ s.createdFor accountId idempotencyKey) :
    SingleCreate accountId idempotencyKey
      { s with requests := earlier ++ { request with phase := phase } :: later } := by
  refine inv.moves ?_ ?_
  · have nothing : CreateRequest.pending accountId idempotencyKey { request with phase := phase } = 0 :=
      pending_of_not_creating idle
    rw [runs, total_append, total_append, total_cons, total_cons, nothing]
    omega
  · intro other mem has
    rcases eq_or_mem_of_mem_replaced request mem with rfl | old
    · exact refers has
    · exact inv.referring other (runs ▸ old) has

theorem SingleCreate.ends (inv : SingleCreate accountId idempotencyKey s)
    (runs : s.requests = earlier ++ request :: later) :
    SingleCreate accountId idempotencyKey { s with requests := earlier ++ later } := by
  refine inv.moves ?_ ?_
  · rw [runs, total_append, total_append, total_cons]
    omega
  · exact fun other mem => inv.referring other (runs ▸ mem_of_mem_taken_out mem)

/-- **A request starts creating** when nothing else is, and nothing was created. -/
theorem SingleCreate.starts (inv : SingleCreate accountId idempotencyKey s)
    (runs : s.requests = earlier ++ request :: later)
    (first : request.Carries accountId idempotencyKey →
      (∀ other ∈ s.requests, ¬ other.CreatingFor accountId idempotencyKey)
        ∧ s.createdFor accountId idempotencyKey = []) :
    SingleCreate accountId idempotencyKey
      { s with requests := earlier ++ { request with phase := .creating } :: later } where
  single := by
    by_cases has : request.Carries accountId idempotencyKey
    · obtain ⟨noneCreating, noneCreated⟩ := first has
      have others : ∀ {requests : List CreateRequest}, (∀ other ∈ requests, other ∈ s.requests) →
          total (CreateRequest.pending accountId idempotencyKey) requests = 0 := by
        intro requests among
        exact total_eq_zero fun other mem => if_neg (noneCreating other (among other mem))
      have pre := others fun other mem => runs ▸ List.mem_append_left _ mem
      have post := others fun other mem =>
        runs ▸ List.mem_append_right earlier (List.mem_cons_of_mem request mem)
      have itself : CreateRequest.pending accountId idempotencyKey
          { request with phase := .creating } ≤ 1 := pending_le_one _
      have sameCreated : CreateState.createdFor accountId idempotencyKey
          { s with requests := earlier ++ { request with phase := .creating } :: later } = [] :=
        noneCreated
      rw [sameCreated, total_append, total_cons, pre, post, List.length_nil]
      omega
    · have nothing : CreateRequest.pending accountId idempotencyKey
          { request with phase := .creating } = 0 :=
        if_neg fun creating => has creating.1
      have bound := inv.single
      rw [runs, total_append, total_cons] at bound
      have sameCreated : CreateState.createdFor accountId idempotencyKey
          { s with requests := earlier ++ { request with phase := .creating } :: later }
            = s.createdFor accountId idempotencyKey := rfl
      rw [sameCreated, total_append, total_cons, nothing]
      omega
  stored := inv.stored
  referring := by
    intro other mem has subject refers
    rcases eq_or_mem_of_mem_replaced request mem with rfl | old
    · cases refers
    · exact inv.referring other (runs ▸ old) has subject refers
  found := inv.found
  kept := inv.kept
  answered := inv.answered

/-- What was recorded is found until its hour is over. -/
theorem SingleCreate.finds {row : StatusIdempotencyKey}
    (inv : SingleCreate accountId idempotencyKey s) (mem : row ∈ s.recorded)
    (isKey : row.key = (accountId, idempotencyKey)) (live : row.live s.now = true) :
    ∃ statusId, findIdempotentStatusId s.now accountId idempotencyKey s.keys = some statusId := by
  obtain ⟨later, held, renewed⟩ := (inv.kept row mem isKey).2 live
  refine ⟨later.statusId, findIdempotent_iff.mpr ⟨later, held, ?_, rfl⟩⟩
  simp only [StatusIdempotencyKey.live, decide_eq_true_eq] at live ⊢
  omega

/-- **A lookup** finds what was created, or starts the only creation. -/
theorem SingleCreate.lookup {key : String}
    (inv : SingleCreate accountId idempotencyKey s)
    (runs : s.requests = earlier ++ request :: later)
    (keyed : request.publishIdempotencyKey = some key)
    (within : LookupWithinLifetime accountId idempotencyKey s (.lookup request))
    (waits : RetriesWaitForRecord accountId idempotencyKey s (.lookup request)) :
    SingleCreate accountId idempotencyKey
      { s with
        requests := earlier
          ++ { request with
              phase := (findIdempotentStatusId s.now request.accountId key s.keys).elim
                .creating .replaying } :: later } := by
  have ownKey : request.Carries accountId idempotencyKey →
      request.accountId = accountId ∧ key = idempotencyKey := fun has =>
    ⟨has.1, Option.some.inj ((CreateRequest.idempotencyKey_of_publish keyed).symm.trans has.2)⟩
  cases looked : findIdempotentStatusId s.now request.accountId key s.keys with
  | some statusId =>
    refine inv.settles runs (by simp) ?_
    intro has subject refers
    obtain ⟨sameAccount, sameKey⟩ := ownKey has
    rw [sameAccount, sameKey] at looked
    exact Option.some.inj refers ▸ inv.found statusId looked
  | none =>
    refine inv.starts runs fun has => ?_
    obtain ⟨noneCreating, allRecorded⟩ := waits has
    refine ⟨noneCreating, List.eq_nil_iff_forall_not_mem.mpr fun subject made => ?_⟩
    obtain ⟨row, mem, isKey, _⟩ := allRecorded subject made
    obtain ⟨statusId, finds⟩ := inv.finds mem isKey (within has row mem isKey)
    obtain ⟨sameAccount, sameKey⟩ := ownKey has
    rw [sameAccount, sameKey, finds] at looked
    cases looked

/-- **A replay** answers with the status found, which is still stored. -/
theorem SingleCreate.replay {statusId : String}
    (inv : SingleCreate accountId idempotencyKey s)
    (runs : s.requests = earlier ++ request :: later)
    (phase : request.phase = .replaying statusId) :
    SingleCreate accountId idempotencyKey
      { s with
        requests := earlier
          ++ { request with
              phase := (findOwnedLocalStatus statusId request.accountId s.statuses).elim
                .creating fun status => .completed (.status status.id) } :: later } := by
  have isCreated : request.Carries accountId idempotencyKey →
      .status statusId ∈ s.createdFor accountId idempotencyKey := by
    intro has
    have mem : request ∈ s.requests :=
      runs ▸ List.mem_append_right earlier (List.mem_cons_self ..)
    exact inv.referring request mem has _ (by rw [phase]; rfl)
  have isOwned : request.Carries accountId idempotencyKey →
      findOwnedLocalStatus statusId request.accountId s.statuses = some ⟨statusId, accountId⟩ := by
    intro has
    rw [findOwnedLocalStatus, inv.stored statusId (isCreated has), has.1]
    simp
  cases owned : findOwnedLocalStatus statusId request.accountId s.statuses with
  | none =>
    refine inv.starts runs fun has => ?_
    rw [isOwned has] at owned
    cases owned
  | some status =>
    refine inv.settles runs (by simp) fun has subject refers => ?_
    rw [isOwned has, Option.some.injEq] at owned
    have sameSubject : CreatedSubject.status status.id = subject := Option.some.inj refers
    rw [← sameSubject, ← owned]
    exact isCreated has

/-- **An insert** makes the one creation under way the one creation made. -/
theorem SingleCreate.inserts
    {statuses : OwnedStatuses} (inv : SingleCreate accountId idempotencyKey s)
    (runs : s.requests = earlier ++ request :: later) (creating : request.phase = .creating)
    (done : phase ≠ .creating) (refers : phase.subject = some subject)
    (keeps : ∀ statusId status, s.statuses.find statusId = some status →
      statuses.find statusId = some status)
    (stores : ∀ statusId, subject = .status statusId →
      statuses.find statusId = some ⟨statusId, request.accountId⟩) :
    SingleCreate accountId idempotencyKey
      { s with
        statuses := statuses
        requests := earlier ++ { request with phase := phase } :: later
        created := request.keyed subject :: s.created } := by
  have grown : subjectsFor accountId idempotencyKey (request.keyed subject :: s.created)
      = if request.Carries accountId idempotencyKey then
          subject :: s.createdFor accountId idempotencyKey
        else s.createdFor accountId idempotencyKey := subjectsFor_keyed_cons
  have stays : ∀ {other}, other ∈ s.createdFor accountId idempotencyKey →
      other ∈ subjectsFor accountId idempotencyKey (request.keyed subject :: s.created) := by
    intro other created
    rw [grown]
    split
    · exact List.mem_cons_of_mem _ created
    · exact created
  refine ⟨?_, ?_, ?_, fun statusId got => stays (inv.found statusId got),
    inv.kept, fun other ans => stays (inv.answered other ans)⟩
  · have bound := inv.single
    have nothing : CreateRequest.pending accountId idempotencyKey { request with phase := phase } = 0 :=
      pending_of_not_creating done
    rw [runs, total_append, total_cons] at bound
    show total _ _ + (subjectsFor _ _ (request.keyed subject :: s.created)).length ≤ 1
    rw [grown, total_append, total_cons, nothing]
    by_cases has : request.Carries accountId idempotencyKey
    · have count : request.pending accountId idempotencyKey = 1 := if_pos ⟨has, creating⟩
      rw [if_pos has, List.length_cons]
      omega
    · rw [if_neg has]
      omega
  · intro statusId mem
    have created : .status statusId
      ∈ subjectsFor accountId idempotencyKey (request.keyed subject :: s.created) := mem
    rw [grown] at created
    by_cases has : request.Carries accountId idempotencyKey
    · rw [if_pos has] at created
      rcases List.mem_cons.mp created with isSubject | old
      · exact has.1 ▸ stores statusId isSubject.symm
      · exact keeps _ _ (inv.stored statusId old)
    · rw [if_neg has] at created
      exact keeps _ _ (inv.stored statusId created)
  · intro other mem has named refersTo
    rcases eq_or_mem_of_mem_replaced request mem with rfl | old
    · have eq : subject = named := Option.some.inj (refers.symm.trans refersTo)
      have carriesKey : request.Carries accountId idempotencyKey := has
      show named ∈ subjectsFor accountId idempotencyKey (request.keyed subject :: s.created)
      rw [grown, if_pos carriesKey, eq]
      exact List.mem_cons_self ..
    · exact stays (inv.referring other (runs ▸ old) has named refersTo)

/-- **A record** stores what its request inserted. -/
theorem SingleCreate.record {statusId key : String}
    (inv : SingleCreate accountId idempotencyKey s)
    (runs : s.requests = earlier ++ request :: later)
    (phase : request.phase = .inserted statusId)
    (keyed : request.publishIdempotencyKey = some key) :
    SingleCreate accountId idempotencyKey
      { s with
        keys := recordIdempotentStatus s.now request.accountId key statusId s.keys
        recorded := idempotentStatusRow s.now request.accountId key statusId :: s.recorded } := by
  have isCreated : (request.accountId, key) = (accountId, idempotencyKey) →
      .status statusId ∈ s.createdFor accountId idempotencyKey := by
    intro eq
    obtain ⟨sameAccount, sameKey⟩ := Prod.mk.inj eq
    have mem : request ∈ s.requests :=
      runs ▸ List.mem_append_right earlier (List.mem_cons_self ..)
    have has : request.Carries accountId idempotencyKey :=
      ⟨sameAccount, sameKey ▸ CreateRequest.idempotencyKey_of_publish keyed⟩
    exact inv.referring request mem has _ (by rw [phase]; rfl)
  refine ⟨inv.single, inv.stored, inv.referring, ?_, ?_, inv.answered⟩
  · intro found isFound
    obtain ⟨row, held, live, isStatus⟩ := findIdempotent_iff.mp isFound
    rw [find_recordIdempotentStatus] at held
    by_cases eq : (request.accountId, key) = (accountId, idempotencyKey)
    · rw [if_pos eq, Option.some.injEq] at held
      have sameStatus : statusId = found := by
        rw [← isStatus, ← held]
        rfl
      exact sameStatus ▸ isCreated eq
    · rw [if_neg eq] at held
      exact inv.found found (findIdempotent_iff.mpr ⟨row, held, live, isStatus⟩)
  · intro row mem isKey
    rw [find_recordIdempotentStatus]
    rcases List.mem_cons.mp mem with rfl | old
    · have eq : (request.accountId, key) = (accountId, idempotencyKey) := isKey
      rw [if_pos eq]
      exact ⟨Nat.le_refl _, fun _ => ⟨_, rfl, Nat.le_refl _⟩⟩
    · obtain ⟨pre, kept⟩ := inv.kept row old isKey
      refine ⟨pre, fun live => ?_⟩
      by_cases eq : (request.accountId, key) = (accountId, idempotencyKey)
      · rw [if_pos eq]
        exact ⟨_, rfl, pre⟩
      · rw [if_neg eq]
        exact kept live

theorem SingleCreate.answer
    (inv : SingleCreate accountId idempotencyKey s)
    (runs : s.requests = earlier ++ request :: later)
    (phase : request.phase = .completed subject) :
    SingleCreate accountId idempotencyKey
      { s with answers := request.keyed subject :: s.answers } := by
  refine ⟨inv.single, inv.stored, inv.referring, inv.found, inv.kept, ?_⟩
  intro named mem
  have ans : named
      ∈ subjectsFor accountId idempotencyKey (request.keyed subject :: s.answers) := mem
  rw [subjectsFor_keyed_cons] at ans
  by_cases has : request.Carries accountId idempotencyKey
  · rw [if_pos has] at ans
    rcases List.mem_cons.mp ans with rfl | old
    · have mem : request ∈ s.requests :=
        runs ▸ List.mem_append_right earlier (List.mem_cons_self ..)
      exact inv.referring request mem has _ (by rw [phase]; rfl)
    · exact inv.answered named old
  · rw [if_neg has] at ans
    exact inv.answered named ans

theorem SingleCreate.deletes {id : String} (inv : SingleCreate accountId idempotencyKey s)
    (other : .status id ∉ s.createdFor accountId idempotencyKey) :
    SingleCreate accountId idempotencyKey
      { s with statuses := s.statuses.deleteWhere fun status => status.id == id } := by
  refine ⟨inv.single, ?_, inv.referring, inv.found, inv.kept, inv.answered⟩
  intro statusId made
  have notDeleted : statusId ≠ id := fun eq => other (eq ▸ made)
  rw [Table.find_deleteWhere, inv.stored statusId made]
  simp [notDeleted]

theorem SingleCreate.purge (inv : SingleCreate accountId idempotencyKey s) :
    SingleCreate accountId idempotencyKey
      { s with keys := purgeExpiredStatusIdempotencyKeys s.now s.keys } := by
  refine ⟨inv.single, inv.stored, inv.referring, ?_, ?_, inv.answered⟩
  · intro statusId got
    obtain ⟨row, held, live, isStatus⟩ := findIdempotent_iff.mp got
    have pre := (Table.find_of_find_deleteWhere held).1
    exact inv.found statusId (findIdempotent_iff.mpr ⟨row, pre, live, isStatus⟩)
  · intro row mem isKey
    obtain ⟨pre, kept⟩ := inv.kept row mem isKey
    refine ⟨pre, fun live => ?_⟩
    obtain ⟨later, held, renewed⟩ := kept live
    refine ⟨later, ?_, renewed⟩
    have laterLive : later.live s.now = true := by
      simp only [StatusIdempotencyKey.live, decide_eq_true_eq] at live ⊢
      omega
    rw [purgeExpiredStatusIdempotencyKeys, Table.find_deleteWhere, held]
    simp [laterLive]

/-- Time only lets rows expire. -/
theorem SingleCreate.tick {now : Nat} (inv : SingleCreate accountId idempotencyKey s)
    (passes : s.now ≤ now) : SingleCreate accountId idempotencyKey { s with now := now } := by
  have wasLive : ∀ {row : StatusIdempotencyKey}, row.live now = true → row.live s.now = true := by
    intro row live
    simp only [StatusIdempotencyKey.live, decide_eq_true_eq] at live ⊢
    omega
  refine ⟨inv.single, inv.stored, inv.referring, ?_, ?_, inv.answered⟩
  · intro statusId got
    obtain ⟨row, held, live, isStatus⟩ := findIdempotent_iff.mp got
    exact inv.found statusId (findIdempotent_iff.mpr ⟨row, held, wasLive live, isStatus⟩)
  · intro row mem isKey
    obtain ⟨pre, kept⟩ := inv.kept row mem isKey
    exact ⟨Nat.le_trans pre passes, fun live => kept (wasLive live)⟩

theorem SingleCreate.step (inv : SingleCreate accountId idempotencyKey s)
    (within : LookupWithinLifetime accountId idempotencyKey s event)
    (waits : RetriesWaitForRecord accountId idempotencyKey s event)
    (step : CreateStep s event s') : SingleCreate accountId idempotencyKey s' := by
  cases step with
  | arrive =>
    refine inv.moves ?_ ?_
    · rw [total_cons, pending_of_not_creating (by simp)]
      omega
    · intro other mem has subject refers
      rcases List.mem_cons.mp mem with rfl | old
      · cases refers
      · exact inv.referring other old has subject refers
  | lookup runs phase keyed => exact inv.lookup runs keyed within waits
  | skipLookup runs => exact inv.starts runs waits
  | replay runs phase => exact inv.replay runs phase
  | insertStatus runs phase published unused =>
    refine inv.inserts runs phase (by simp) rfl ?_ ?_
    · intro statusId status held
      rw [Table.find_insert, held, Option.some_or]
    · rintro statusId ⟨⟩
      rw [Table.find_insert, unused, Option.none_or, if_pos rfl]
  | insertScheduledStatus runs phase =>
    refine inv.inserts runs phase (by simp) rfl (fun _ _ held => held) ?_
    rintro statusId ⟨⟩
  | record runs phase keyed =>
    refine (inv.record runs phase keyed).settles runs (by simp) ?_
    rintro has subject ⟨⟩
    exact inv.referring _ (runs ▸ List.mem_append_right _ (List.mem_cons_self ..))
      has _ (by rw [phase]; rfl)
  | skipRecord runs phase =>
    refine inv.settles runs (by simp) ?_
    rintro has subject ⟨⟩
    exact inv.referring _ (runs ▸ List.mem_append_right _ (List.mem_cons_self ..))
      has _ (by rw [phase]; rfl)
  | answer runs phase => exact (inv.answer runs phase).ends runs
  | stop runs => exact inv.ends runs
  | deleteStatus => exact inv.deletes waits
  | purge => exact inv.purge
  | tick passes => exact inv.tick passes

end OneStep

/-- **At most one status per key.**  In every run from a state quiet for the key, within
the lifetime of the key, in which each request under the key passes its lookup only when
no other is creating and everything created was recorded: at most one status is created
under the key, and every answer names it. -/
theorem at_most_one_status_per_key {start finish : CreateState}
    {trace : List (Transition CreateState CreateEvent)}
    (quiet : start.Quiet accountId idempotencyKey) (run : Run CreateStep start trace finish)
    (within : Along (LookupWithinLifetime accountId idempotencyKey) trace)
    (waits : Along (RetriesWaitForRecord accountId idempotencyKey) trace) :
    (finish.createdFor accountId idempotencyKey).length ≤ 1
      ∧ ∀ subject ∈ finish.answeredFor accountId idempotencyKey,
        subject ∈ finish.createdFor accountId idempotencyKey := by
  have both : Along (fun s event => LookupWithinLifetime accountId idempotencyKey s event
      ∧ RetriesWaitForRecord accountId idempotencyKey s event) trace :=
    fun move mem => ⟨within move mem, waits move mem⟩
  have inv : SingleCreate accountId idempotencyKey finish :=
    run.invariant (SingleCreate.of_quiet quiet)
      (fun holds cond step => holds.step cond.1 cond.2 step) both
  exact ⟨Nat.le_trans (Nat.le_add_left ..) inv.single, inv.answered⟩

end OneKey

/-! ## Retries of one request -/

def aliceCreate (phase : CreatePhase) : CreateRequest where
  accountId := "alice"
  idempotencyKey := some "k"
  scheduledAt := none
  phase := phase

def aliceState (statuses : OwnedStatuses) (requests : List CreateRequest)
    (statusIds : List String) : CreateState where
  now := 0
  keys := Table.empty
  statuses := statuses
  requests := requests
  created := statusIds.map fun statusId => ⟨"alice", some "k", .status statusId⟩
  recorded := []
  answers := []

/-- The status s1 was recorded under the key, these requests run, and so many have been
answered with it. -/
def aliceRecorded (requests : List CreateRequest) (answered : Nat) : CreateState where
  now := 0
  keys := Table.singleton ⟨"alice", "k", "s1", 0⟩
  statuses := Table.singleton ⟨"s1", "alice"⟩
  requests := requests
  created := [⟨"alice", some "k", .status "s1"⟩]
  recorded := [⟨"alice", "k", "s1", 0⟩]
  answers := List.replicate answered ⟨"alice", some "k", .status "s1"⟩

theorem quiet_initial : CreateState.initial.Quiet "alice" "k" where
  noRequests := by
    intro request mem
    cases mem
  noneCreated := rfl
  noneAnswered := rfl
  noneRecorded := by
    intro row mem
    cases mem
  expired := rfl

theorem arrives_alice {s : CreateState} {after : CreateState}
    (eq : after = { s with requests := aliceCreate .parsed :: s.requests }) :
    CreateStep s (.arrive "alice" (some "k") none) after := by
  have trimmed : draftIdempotencyKey (some "k") = some "k" := by decide
  have step := CreateStep.arrive s "alice" (some "k") none
  rw [trimmed] at step
  exact eq ▸ step

theorem firstLooked_reachable :
    ∃ trace, Run CreateStep CreateState.initial trace
        (aliceState Table.empty [aliceCreate .creating] [])
      ∧ Along (LookupWithinLifetime "alice" "k") trace
      ∧ Along (RetriesWaitForRecord "alice" "k") trace := by
  have arrived : CreateStep CreateState.initial (.arrive "alice" (some "k") none)
      (aliceState Table.empty [aliceCreate .parsed] []) := arrives_alice rfl
  have runs : (aliceState Table.empty [aliceCreate .parsed] []).requests
      = [] ++ aliceCreate .parsed :: [] := rfl
  have looked : CreateStep (aliceState Table.empty [aliceCreate .parsed] [])
      (.lookup (aliceCreate .parsed)) (aliceState Table.empty [aliceCreate .creating] []) :=
    CreateStep.lookup _ runs rfl rfl
  refine ⟨_, (Run.start.snoc arrived).snoc looked, ?_, ?_⟩
  · simp only [Along.snoc_iff]
    refine ⟨⟨Along.nil, trivial⟩, fun _ row mem => ?_⟩
    cases mem
  · simp only [Along.snoc_iff]
    refine ⟨⟨Along.nil, trivial⟩, fun _ => ⟨fun other mem => ?_, fun subject made => ?_⟩⟩
    · rw [List.mem_singleton.mp mem]
      exact fun creating => nomatch creating.2
    · cases made

theorem firstAnswered_reachable :
    ∃ trace, Run CreateStep CreateState.initial trace (aliceRecorded [] 1)
      ∧ Along (LookupWithinLifetime "alice" "k") trace
      ∧ Along (RetriesWaitForRecord "alice" "k") trace := by
  obtain ⟨_, run, within, waits⟩ := firstLooked_reachable
  have creating : (aliceState Table.empty [aliceCreate .creating] []).requests
      = [] ++ aliceCreate .creating :: [] := rfl
  have added : CreateStep (aliceState Table.empty [aliceCreate .creating] [])
      (.insertStatus (aliceCreate .creating) "s1")
      (aliceState (Table.singleton ⟨"s1", "alice"⟩) [aliceCreate (.inserted "s1")] ["s1"]) :=
    CreateStep.insertStatus _ creating rfl rfl rfl fun _ mem => nomatch mem
  have recording : (aliceState (Table.singleton ⟨"s1", "alice"⟩) [aliceCreate (.inserted "s1")]
      ["s1"]).requests = [] ++ aliceCreate (.inserted "s1") :: [] := rfl
  have recorded : CreateStep
      (aliceState (Table.singleton ⟨"s1", "alice"⟩) [aliceCreate (.inserted "s1")] ["s1"])
      (.record (aliceCreate (.inserted "s1")))
      (aliceRecorded [aliceCreate (.completed (.status "s1"))] 0) :=
    CreateStep.record _ recording rfl rfl
  have answering : (aliceRecorded [aliceCreate (.completed (.status "s1"))] 0).requests
      = [] ++ aliceCreate (.completed (.status "s1")) :: [] := rfl
  have ans : CreateStep (aliceRecorded [aliceCreate (.completed (.status "s1"))] 0)
      (.answer (aliceCreate (.completed (.status "s1")))) (aliceRecorded [] 1) :=
    CreateStep.answer _ answering rfl
  refine ⟨_, ((run.snoc added).snoc recorded).snoc ans, ?_, ?_⟩
  · simp only [Along.snoc_iff]
    exact ⟨⟨⟨within, trivial⟩, trivial⟩, trivial⟩
  · simp only [Along.snoc_iff]
    exact ⟨⟨⟨waits, trivial⟩, trivial⟩, trivial⟩

theorem retryAnswered_reachable :
    ∃ trace, Run CreateStep CreateState.initial trace (aliceRecorded [] 2)
      ∧ Along (LookupWithinLifetime "alice" "k") trace
      ∧ Along (RetriesWaitForRecord "alice" "k") trace := by
  obtain ⟨_, run, within, waits⟩ := firstAnswered_reachable
  have arrived : CreateStep (aliceRecorded [] 1) (.arrive "alice" (some "k") none)
      (aliceRecorded [aliceCreate .parsed] 1) := arrives_alice rfl
  have runs : (aliceRecorded [aliceCreate .parsed] 1).requests
      = [] ++ aliceCreate .parsed :: [] := rfl
  have looked : CreateStep (aliceRecorded [aliceCreate .parsed] 1) (.lookup (aliceCreate .parsed))
      (aliceRecorded [aliceCreate (.replaying "s1")] 1) :=
    CreateStep.lookup _ runs rfl rfl
  have replaying : (aliceRecorded [aliceCreate (.replaying "s1")] 1).requests
      = [] ++ aliceCreate (.replaying "s1") :: [] := rfl
  have replayed : CreateStep (aliceRecorded [aliceCreate (.replaying "s1")] 1)
      (.replay (aliceCreate (.replaying "s1")))
      (aliceRecorded [aliceCreate (.completed (.status "s1"))] 1) :=
    CreateStep.replay _ replaying rfl
  have answering : (aliceRecorded [aliceCreate (.completed (.status "s1"))] 1).requests
      = [] ++ aliceCreate (.completed (.status "s1")) :: [] := rfl
  have ans : CreateStep (aliceRecorded [aliceCreate (.completed (.status "s1"))] 1)
      (.answer (aliceCreate (.completed (.status "s1")))) (aliceRecorded [] 2) :=
    CreateStep.answer _ answering rfl
  refine ⟨_, (((run.snoc arrived).snoc looked).snoc replayed).snoc ans, ?_, ?_⟩
  · simp only [Along.snoc_iff]
    refine ⟨⟨⟨⟨within, trivial⟩, fun _ row mem _ => ?_⟩, trivial⟩, trivial⟩
    rw [List.mem_singleton.mp mem]
    rfl
  · simp only [Along.snoc_iff]
    refine ⟨⟨⟨⟨waits, trivial⟩, fun _ => ⟨fun other mem => ?_, fun subject made => ?_⟩⟩,
      trivial⟩, trivial⟩
    · rw [List.mem_singleton.mp mem]
      exact fun creating => nomatch creating.2
    · rw [List.mem_singleton.mp made]
      exact ⟨_, List.mem_singleton_self _, rfl, rfl⟩

/-- The law at the run of a request and its later retry. -/
theorem at_most_one_status_per_key_retry :
    ((aliceRecorded [] 2).createdFor "alice" "k").length ≤ 1
      ∧ ∀ subject ∈ (aliceRecorded [] 2).answeredFor "alice" "k",
        subject ∈ (aliceRecorded [] 2).createdFor "alice" "k" := by
  obtain ⟨_, run, within, waits⟩ := retryAnswered_reachable
  exact at_most_one_status_per_key quiet_initial run within waits

/-- **Two overlapping retries create two statuses**: the second looks the key up while
the first is creating. -/
theorem overlapping_retries_create_twice :
    ¬ ∀ (accountId idempotencyKey : String) (start finish : CreateState)
        (trace : List (Transition CreateState CreateEvent)),
      start.Quiet accountId idempotencyKey → Run CreateStep start trace finish →
      Along (LookupWithinLifetime accountId idempotencyKey) trace →
      (finish.createdFor accountId idempotencyKey).length ≤ 1 := by
  intro took
  obtain ⟨_, run, within, _⟩ := firstLooked_reachable
  let one := aliceCreate .creating
  have arrived : CreateStep (aliceState Table.empty [one] []) (.arrive "alice" (some "k") none)
      (aliceState Table.empty [aliceCreate .parsed, one] []) := arrives_alice rfl
  have runs : (aliceState Table.empty [aliceCreate .parsed, one] []).requests
      = [] ++ aliceCreate .parsed :: [one] := rfl
  have looked : CreateStep (aliceState Table.empty [aliceCreate .parsed, one] [])
      (.lookup (aliceCreate .parsed)) (aliceState Table.empty [one, one] []) :=
    CreateStep.lookup _ runs rfl rfl
  have creating : (aliceState Table.empty [one, one] []).requests = [one] ++ one :: [] := rfl
  have added : CreateStep (aliceState Table.empty [one, one] []) (.insertStatus one "s1")
      (aliceState (Table.singleton ⟨"s1", "alice"⟩) [one, aliceCreate (.inserted "s1")] ["s1"]) :=
    CreateStep.insertStatus _ creating rfl rfl rfl fun _ mem => nomatch mem
  have again : (aliceState (Table.singleton ⟨"s1", "alice"⟩) [one, aliceCreate (.inserted "s1")]
      ["s1"]).requests = [] ++ one :: [aliceCreate (.inserted "s1")] := rfl
  have fresh : ∀ keyed ∈ (aliceState (Table.singleton ⟨"s1", "alice"⟩)
      [one, aliceCreate (.inserted "s1")] ["s1"]).created, keyed.subject ≠ .status "s2" := by
    intro keyed mem
    rw [List.mem_singleton.mp mem]
    simp
  have insertedAgain := CreateStep.insertStatus _ again rfl rfl rfl fresh
  have twice := took "alice" "k" _ _ _ quiet_initial
    ((((run.snoc arrived).snoc looked).snoc added).snoc insertedAgain) (by
      simp only [Along.snoc_iff]
      refine ⟨⟨⟨⟨within, trivial⟩, fun _ row mem => ?_⟩, trivial⟩, trivial⟩
      cases mem)
  exact absurd twice (by decide)

end Cfwdon.Statuses
