import Cfwdon.Library.Run
import Cfwdon.Library.Table
import Cfwdon.Library.Text

/-!
# Creating statuses under an idempotency key

A request that creates a status may carry an `Idempotency-Key`.  It looks the key
up first and answers with the status found, unless that was deleted since.
Otherwise it checks media, reply and quote, inserts a status with a fresh id, runs
the statements that complete it, and records the key.  The status exists by then,
so a failed record is only logged.  A request with `scheduled_at` inserts a row of
`scheduled_statuses` instead, and leaves the key alone.

`CreateStep` has one constructor per statement.  A request stops with an error
answer, or dies, after any of them.
-/

namespace Cfwdon.Statuses

open Library

structure StatusIdempotencyKey where
  accountId : String
  idempotencyKey : String
  statusId : String
  createdAt : Nat

def StatusIdempotencyKey.key (row : StatusIdempotencyKey) : String × String :=
  (row.accountId, row.idempotencyKey)

abbrev StatusIdempotencyKeys := Table StatusIdempotencyKey StatusIdempotencyKey.key

/-- `created_at > datetime('now', '-1 hour')`. -/
def StatusIdempotencyKey.live (now : Nat) (row : StatusIdempotencyKey) : Bool :=
  decide (now < row.createdAt + 3600)

def findIdempotentStatusId (now : Nat) (accountId idempotencyKey : String)
    (keys : StatusIdempotencyKeys) : Option String :=
  ((keys.find (accountId, idempotencyKey)).filter (StatusIdempotencyKey.live now)).map
    StatusIdempotencyKey.statusId

def purgeExpiredStatusIdempotencyKeys (now : Nat) (keys : StatusIdempotencyKeys) :
    StatusIdempotencyKeys :=
  keys.deleteWhere fun row => !row.live now

def idempotentStatusRow (now : Nat) (accountId idempotencyKey statusId : String) :
    StatusIdempotencyKey where
  accountId := accountId
  idempotencyKey := idempotencyKey
  statusId := statusId
  createdAt := now

def recordIdempotentStatus (now : Nat) (accountId idempotencyKey statusId : String)
    (keys : StatusIdempotencyKeys) : StatusIdempotencyKeys :=
  keys.insertOrReplace (idempotentStatusRow now accountId idempotencyKey statusId)

/-! ## Statuses -/

/-- The columns of a local status that the lookup of an owned status reads. -/
structure OwnedStatus where
  id : String
  accountId : String

abbrev OwnedStatuses := Table OwnedStatus OwnedStatus.id

def findOwnedLocalStatus (statusId ownerId : String) (statuses : OwnedStatuses) :
    Option OwnedStatus :=
  (statuses.find statusId).filter fun status => status.accountId == ownerId

/-! ## Requests -/

inductive CreatedSubject where
  | status (id : String)
  | scheduledStatus (id : String)
  deriving DecidableEq

/-- Where `create_status` is, once the draft is parsed. -/
inductive CreatePhase where
  | parsed
  /-- The key was found, with this status. -/
  | replaying (statusId : String)
  /-- Past the lookup: media, reply and quote are checked. -/
  | creating
  | inserted (statusId : String)
  /-- Only the answer is left. -/
  | completed (subject : CreatedSubject)
  deriving DecidableEq

/-- What the request will answer with, once that is settled. -/
def CreatePhase.subject : CreatePhase → Option CreatedSubject
  | .parsed => none
  | .replaying statusId => some (.status statusId)
  | .creating => none
  | .inserted statusId => some (.status statusId)
  | .completed subject => some subject

structure CreateRequest where
  accountId : String
  idempotencyKey : Option String
  scheduledAt : Option String
  phase : CreatePhase

/-- The key of a parsed draft: the trimmed header, unless empty. -/
def draftIdempotencyKey (header : Option String) : Option String :=
  (header.map trim).filter (· ≠ "")

/-- Only statuses published at once use the key. -/
def CreateRequest.publishIdempotencyKey (request : CreateRequest) : Option String :=
  request.idempotencyKey.filter fun _ => request.scheduledAt.isNone

def CreateRequest.Carries (accountId idempotencyKey : String) (request : CreateRequest) : Prop :=
  request.accountId = accountId ∧ request.idempotencyKey = some idempotencyKey

instance (accountId idempotencyKey : String) (request : CreateRequest) :
    Decidable (request.Carries accountId idempotencyKey) :=
  inferInstanceAs (Decidable (_ ∧ _))

/-! ## Steps -/

/-- Something created or answered, with the account and the key of its request. -/
structure KeyedSubject where
  accountId : String
  idempotencyKey : Option String
  subject : CreatedSubject

def CreateRequest.keyed (request : CreateRequest) (subject : CreatedSubject) : KeyedSubject where
  accountId := request.accountId
  idempotencyKey := request.idempotencyKey
  subject := subject

def subjectsFor (accountId idempotencyKey : String) (listed : List KeyedSubject) :
    List CreatedSubject :=
  (listed.filter fun keyed =>
    keyed.accountId == accountId && keyed.idempotencyKey == some idempotencyKey).map
      KeyedSubject.subject

/-- The clock, the tables and the running requests. -/
structure CreateState where
  now : Nat
  keys : StatusIdempotencyKeys
  statuses : OwnedStatuses
  requests : List CreateRequest
  /-- Everything inserted so far: history. -/
  created : List KeyedSubject
  /-- The rows of keys written so far: history. -/
  recorded : List StatusIdempotencyKey
  /-- The successful answers so far: history. -/
  answers : List KeyedSubject

def CreateState.initial : CreateState where
  now := 0
  keys := Table.empty
  statuses := Table.empty
  requests := []
  created := []
  recorded := []
  answers := []

inductive CreateEvent where
  | arrive (accountId : String) (header scheduledAt : Option String)
  | lookup (request : CreateRequest)
  | skipLookup (request : CreateRequest)
  | replay (request : CreateRequest)
  | insertStatus (request : CreateRequest) (statusId : String)
  | insertScheduledStatus (request : CreateRequest) (id : String)
  | record (request : CreateRequest)
  | skipRecord (request : CreateRequest)
  | answer (request : CreateRequest)
  | stop (request : CreateRequest)
  | deleteStatus (id : String)
  | purge
  | tick (now : Nat)

/-- One statement of a request, a deletion, a purge, or a tick of the clock.  Ids are
random: none is drawn twice. -/
inductive CreateStep : CreateState → CreateEvent → CreateState → Prop where
  | arrive (s : CreateState) (accountId : String) (header scheduledAt : Option String) :
      CreateStep s (.arrive accountId header scheduledAt)
        { s with
          requests := ⟨accountId, draftIdempotencyKey header, scheduledAt, .parsed⟩ :: s.requests }
  | lookup (s : CreateState) {request : CreateRequest} {key : String}
      {earlier later : List CreateRequest} (running : s.requests = earlier ++ request :: later)
      (phase : request.phase = .parsed) (keyed : request.publishIdempotencyKey = some key) :
      CreateStep s (.lookup request)
        { s with
          requests := earlier
            ++ { request with
                phase := (findIdempotentStatusId s.now request.accountId key s.keys).elim
                  .creating .replaying } :: later }
  | skipLookup (s : CreateState) {request : CreateRequest}
      {earlier later : List CreateRequest} (running : s.requests = earlier ++ request :: later)
      (phase : request.phase = .parsed) (keyless : request.publishIdempotencyKey = none) :
      CreateStep s (.skipLookup request)
        { s with requests := earlier ++ { request with phase := .creating } :: later }
  | replay (s : CreateState) {request : CreateRequest} {statusId : String}
      {earlier later : List CreateRequest} (running : s.requests = earlier ++ request :: later)
      (phase : request.phase = .replaying statusId) :
      CreateStep s (.replay request)
        { s with
          requests := earlier
            ++ { request with
                phase := (findOwnedLocalStatus statusId request.accountId s.statuses).elim
                  .creating fun status => .completed (.status status.id) } :: later }
  | insertStatus (s : CreateState) {request : CreateRequest} {statusId : String}
      {earlier later : List CreateRequest} (running : s.requests = earlier ++ request :: later)
      (phase : request.phase = .creating) (published : request.scheduledAt = none)
      (unused : s.statuses.find statusId = none)
      (fresh : ∀ keyed ∈ s.created, keyed.subject ≠ .status statusId) :
      CreateStep s (.insertStatus request statusId)
        { s with
          statuses := s.statuses.insert ⟨statusId, request.accountId⟩
          requests := earlier ++ { request with phase := .inserted statusId } :: later
          created := request.keyed (.status statusId) :: s.created }
  | insertScheduledStatus (s : CreateState) {request : CreateRequest} {scheduledAt id : String}
      {earlier later : List CreateRequest} (running : s.requests = earlier ++ request :: later)
      (phase : request.phase = .creating) (scheduled : request.scheduledAt = some scheduledAt)
      (fresh : ∀ keyed ∈ s.created, keyed.subject ≠ .scheduledStatus id) :
      CreateStep s (.insertScheduledStatus request id)
        { s with
          requests := earlier ++ { request with phase := .completed (.scheduledStatus id) } :: later
          created := request.keyed (.scheduledStatus id) :: s.created }
  | record (s : CreateState) {request : CreateRequest} {statusId key : String}
      {earlier later : List CreateRequest} (running : s.requests = earlier ++ request :: later)
      (phase : request.phase = .inserted statusId)
      (keyed : request.publishIdempotencyKey = some key) :
      CreateStep s (.record request)
        { s with
          keys := recordIdempotentStatus s.now request.accountId key statusId s.keys
          requests := earlier ++ { request with phase := .completed (.status statusId) } :: later
          recorded := idempotentStatusRow s.now request.accountId key statusId :: s.recorded }
  | skipRecord (s : CreateState) {request : CreateRequest} {statusId : String}
      {earlier later : List CreateRequest} (running : s.requests = earlier ++ request :: later)
      -- Without a key, or when the statement failed, which is only logged.
      (phase : request.phase = .inserted statusId) :
      CreateStep s (.skipRecord request)
        { s with
          requests := earlier ++ { request with phase := .completed (.status statusId) } :: later }
  | answer (s : CreateState) {request : CreateRequest} {subject : CreatedSubject}
      {earlier later : List CreateRequest} (running : s.requests = earlier ++ request :: later)
      (phase : request.phase = .completed subject) :
      CreateStep s (.answer request)
        { s with
          requests := earlier ++ later
          answers := request.keyed subject :: s.answers }
  | stop (s : CreateState) {request : CreateRequest} {earlier later : List CreateRequest}
      (running : s.requests = earlier ++ request :: later) :
      CreateStep s (.stop request) { s with requests := earlier ++ later }
  | deleteStatus (s : CreateState) (id : String) :
      CreateStep s (.deleteStatus id)
        { s with statuses := s.statuses.deleteWhere fun status => status.id == id }
  | purge (s : CreateState) :
      CreateStep s .purge { s with keys := purgeExpiredStatusIdempotencyKeys s.now s.keys }
  | tick (s : CreateState) {now : Nat} (later : s.now ≤ now) :
      CreateStep s (.tick now) { s with now := now }

/-! ## What is found and listed -/

/-- A key is found exactly while its row is live. -/
theorem findIdempotent_iff {now : Nat} {accountId idemKey statusId : String}
    {keys : StatusIdempotencyKeys} :
    findIdempotentStatusId now accountId idemKey keys = some statusId
      ↔ ∃ row, keys.find (accountId, idemKey) = some row ∧ row.live now = true
        ∧ row.statusId = statusId := by
  simp [findIdempotentStatusId, Option.filter_eq_some_iff, and_assoc]

theorem find_recordIdempotentStatus (now : Nat) (accountId idemKey statusId : String)
    (keys : StatusIdempotencyKeys) (k : String × String) :
    (recordIdempotentStatus now accountId idemKey statusId keys).find k
      = if (accountId, idemKey) = k then
          some (idempotentStatusRow now accountId idemKey statusId)
        else keys.find k :=
  Table.find_insertOrReplace _ keys k

theorem subjectsFor_keyed_cons {accountId idemKey : String} {req : CreateRequest}
    {subject : CreatedSubject} {listed : List KeyedSubject} :
    subjectsFor accountId idemKey (req.keyed subject :: listed)
      = if req.Carries accountId idemKey then
          subject :: subjectsFor accountId idemKey listed
        else subjectsFor accountId idemKey listed := by
  by_cases has : req.Carries accountId idemKey
  · rw [if_pos has]
    simp [subjectsFor, CreateRequest.keyed, has.1, has.2]
  · have other : (req.accountId == accountId && req.idempotencyKey == some idemKey) = false := by
      simpa [CreateRequest.Carries] using has
    rw [if_neg has, subjectsFor, List.filter_cons_of_neg (by simp [CreateRequest.keyed, other])]
    rfl

theorem CreateRequest.idempotencyKey_of_publish {req : CreateRequest} {key : String}
    (keyed : req.publishIdempotencyKey = some key) : req.idempotencyKey = some key :=
  (Option.filter_eq_some_iff.mp keyed).1

end Cfwdon.Statuses
