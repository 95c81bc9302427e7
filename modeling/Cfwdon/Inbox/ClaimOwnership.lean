import Cfwdon.Inbox.Requests

/-!
# Ownership of inbox claims

A request that finishes should leave the claims of other requests alone.  The
claim carries no owner: a request that outlives its own claim finds, under its
actor and activity id, the claim of the request that took over, and marks or
deletes that.
-/

namespace Cfwdon.Inbox

open Library

/-- Claims of requests other than this one are left as they are. -/
def OtherClaimsKept (number : Nat) (before after : InboxState) : Prop :=
  ∀ key row, before.activities.find key = some row → row.processedAt = none →
    row.heldBy ≠ number → after.activities.find key = some row

/-- A request that finishes leaves the claims of others alone. -/
def ClaimsOfOthersKept (before : InboxState) : InboxEvent → InboxState → Prop
  | .markProcessed number, after => OtherClaimsKept number before after
  | .release number, after => OtherClaimsKept number before after
  | _, _ => True

/-- The claim stored for the activity of a request, if any, is its own. -/
def OwnClaimOrNone (s : InboxState) (number : Nat) : Prop :=
  ∀ request row, s.requests.find number = some request →
    s.activities.find request.key = some row → row.processedAt = none → row.heldBy = number

def FinishesOwnClaim (s : InboxState) : InboxEvent → Prop
  | .markProcessed number => OwnClaimOrNone s number
  | .release number => OwnClaimOrNone s number
  | _ => True

/-- A request is entitled to apply its activity: it is processing it under a claim
that is not stale. -/
def Entitled (s : InboxState) (request : InboxRequest) : Prop :=
  ∃ claimedAt remaining, request.phase = .processing claimedAt remaining
    ∧ s.now < claimedAt + inboxInFlightStaleSeconds

/-- No two requests are entitled to apply one activity. -/
def AtMostOneEntitled (s : InboxState) : Prop :=
  ∀ request ∈ s.requests.rows, ∀ request' ∈ s.requests.rows, request.key = request'.key →
    Entitled s request → Entitled s request' → request = request'

section OneStep

variable {s s' : InboxState} {event : InboxEvent} {number : Nat} {request : InboxRequest}

theorem otherClaimsKept_iff (got : s.requests.find number = some request)
    (changed : ∀ row, s.activities.find request.key = some row → row.processedAt = none →
      s'.activities.find request.key ≠ some row)
    (left : ∀ key, key ≠ request.key → s'.activities.find key = s.activities.find key) :
    OtherClaimsKept number s s' ↔ OwnClaimOrNone s number := by
  constructor
  · intro kept other row foundOther gotRow unprocessed
    have eq : other = request := Option.some.inj (foundOther.symm.trans got)
    subst eq
    by_contra notOwn
    exact changed row gotRow unprocessed (kept _ row gotRow unprocessed notOwn)
  · intro own key row gotRow unprocessed notOwn
    by_cases isKey : key = request.key
    · exact absurd (own request row got (isKey ▸ gotRow) unprocessed) notOwn
    · rw [left key isKey]
      exact gotRow

/-- **One step leaves the claims of others alone exactly when the request that
finishes in it finds its own claim.** -/
theorem InboxStep.claimsOfOthersKept_iff (step : InboxStep s event s') :
    ClaimsOfOthersKept s event s' ↔ FinishesOwnClaim s event := by
  cases step with
  | @markProcessed number claimedAt request got did =>
    refine otherClaimsKept_iff got ?_ ?_
    · intro row gotRow unprocessed eq
      have isKey : row.key = request.key := Table.key_of_find gotRow
      have marked : (markInboxActivityProcessed s.now request.actorUri
          request.activityId).onRow row = { row with processedAt := some s.now } :=
        Update.onRow_of_guard (beq_iff_eq.mpr isKey)
      rw [Table.find_run, gotRow, Option.map_some, marked, Option.some.injEq] at eq
      rw [← eq] at unprocessed
      cases unprocessed
    · intro key other
      rw [Table.find_run]
      cases gotRow : s.activities.find key with
      | none => rfl
      | some row =>
        have isKey : row.key = key := Table.key_of_find gotRow
        have unmet : (markInboxActivityProcessed s.now request.actorUri
            request.activityId).guard row = false :=
          beq_eq_false_iff_ne.mpr (isKey ▸ other)
        rw [Option.map_some, Update.onRow_of_not_guard unmet]
  | @release number request got failed =>
    refine otherClaimsKept_iff got ?_ ?_
    · intro row gotRow unprocessed eq
      have isKey : row.key = (request.actorUri, request.activityId) :=
        Table.key_of_find gotRow
      rw [releaseInboxActivityProcessing, Table.find_deleteWhere, gotRow] at eq
      simp [isKey, unprocessed] at eq
    · intro key other
      rw [releaseInboxActivityProcessing, Table.find_deleteWhere]
      cases gotRow : s.activities.find key with
      | none => rfl
      | some row =>
        have isKey : row.key = key := Table.key_of_find gotRow
        have notRequest : row.key ≠ (request.actorUri, request.activityId) := isKey ▸ other
        simp [notRequest]
  | _ => exact Iff.rfl

/-! ## Fresh claims -/

/-- Every entitled request has its claim stored. -/
def EntitledHoldClaims (s : InboxState) : Prop :=
  ∀ number request claimedAt remaining, s.requests.find number = some request →
    request.phase = .processing claimedAt remaining →
      s.now < claimedAt + inboxInFlightStaleSeconds →
        ∃ row, s.activities.find request.key = some row ∧ row.processedAt = none
          ∧ row.createdAt = claimedAt ∧ row.heldBy = number

theorem EntitledHoldClaims.initial : EntitledHoldClaims InboxState.initial :=
  fun _ _ _ _ got => by cases got

theorem InboxStep.now_le (step : InboxStep s event s') : s.now ≤ s'.now := by
  cases step with
  | tick seconds => exact Nat.le_add_right _ _
  | _ => exact Nat.le_refl _

/-- **A fresh claim stays**, unless its own request finishes. -/
theorem InboxStep.fresh_claim_kept {row : InboxActivity} {key : String × String}
    (step : InboxStep s event s') (cond : FinishesOwnClaim s event)
    (got : s.activities.find key = some row) (unprocessed : row.processedAt = none)
    (fresh : s.now < row.createdAt + inboxInFlightStaleSeconds)
    (unfinished : event ≠ .markProcessed row.heldBy ∧ event ≠ .release row.heldBy) :
    s'.activities.find key = some row := by
  have notStale : staleClaim s.now row ≠ true := by
    intro stale
    have old := (unprocessed_of_staleClaim stale).2
    omega
  rcases step.activity_some got with kept | ⟨marks, _⟩ | ⟨drops, _⟩
  · exact kept
  · cases event with
    | markProcessed number =>
      obtain ⟨request, foundRequest, isKey, _⟩ := marks
      have sameKey : request.key = key := isKey.trans (Table.key_of_find got)
      have own := cond request row foundRequest (sameKey ▸ got) unprocessed
      exact absurd (own ▸ rfl) unfinished.1
    | reclaimMark limit chosen =>
      exact absurd (Bool.and_eq_true_iff.mp marks).1 notStale
    | _ => exact marks.elim
  · cases event with
    | receive | reclaimRelease => exact absurd drops notStale
    | release number =>
      obtain ⟨_, request, foundRequest, isKey⟩ := drops
      have sameKey : request.key = key := isKey.trans (Table.key_of_find got)
      have own := cond request row foundRequest (sameKey ▸ got) unprocessed
      exact absurd (own ▸ rfl) unfinished.2
    | _ => exact drops.elim

theorem InboxStep.not_processing {claimedAt : Nat} {remaining : List HandlerCall}
    (step : InboxStep s event s') (finishes : event = .markProcessed number ∨ event = .release number)
    (got' : s'.requests.find number = some request) :
    request.phase ≠ .processing claimedAt remaining := by
  have done : ∀ {acting : InboxRequest} {phase : RequestPhase},
      s.requests.find number = some acting →
        ((setPhase number phase).run s.requests).find number = some request →
          request.phase = phase := by
    intro acting phase got got'
    obtain rfl := Table.key_of_find got
    rw [Table.find_run, got, Option.map_some, setPhase_onRow_self, Option.some.injEq] at got'
    rw [← got']
  rcases finishes with rfl | rfl
  · cases step with
    | markProcessed got => simp [done got got']
  · cases step with
    | release got => simp [done got got']

theorem InboxStep.claim_stored (step : InboxStep s (.begin request.number) s')
    (held : s.requests.find request.number = some request)
    (free : s.activities.find request.key = none) :
    s'.activities.find request.key
      = some (newClaim s.now request.actorUri request.activityId request.activityType
          request.number) := by
  have added : (insertClaim s.now request.actorUri request.activityId request.activityType
      request.number s.activities).find request.key
        = some (newClaim s.now request.actorUri request.activityId request.activityType
            request.number) := by
    rw [insertClaim, Table.find_insert, free, Option.none_or]
    exact if_pos rfl
  cases step with
  | begin got | skip got =>
    obtain rfl := Option.some.inj (got.symm.trans held)
    exact added

/-- **Entitled requests keep their claims** when the requests that finish find
their own. -/
theorem EntitledHoldClaims.step (holds : EntitledHoldClaims s)
    (cond : FinishesOwnClaim s event) (step : InboxStep s event s') :
    EntitledHoldClaims s' := by
  intro number request claimedAt remaining got' processing fresh'
  have fresh : s.now < claimedAt + inboxInFlightStaleSeconds :=
    Nat.lt_of_le_of_lt step.now_le fresh'
  cases got : s.requests.find number with
  | none =>
    have received := step.request_none got got'
    rw [processing] at received
    cases received
  | some prior =>
    -- A claim held before the step is held after it.
    have keep : ∀ left, prior.phase = .processing claimedAt left →
        request.key = prior.key →
        ∃ row, s'.activities.find request.key = some row ∧ row.processedAt = none
          ∧ row.createdAt = claimedAt ∧ row.heldBy = number := by
      intro left calling sameKey
      obtain ⟨row, gotRow, unprocessed, made, own⟩ :=
        holds number prior claimedAt left got calling fresh
      refine ⟨row, ?_, unprocessed, made, own⟩
      rw [sameKey]
      refine step.fresh_claim_kept cond gotRow unprocessed (made ▸ fresh) ⟨?_, ?_⟩
      · rintro finishes
        exact step.not_processing (Or.inl (own ▸ finishes)) got' processing
      · rintro finishes
        exact step.not_processing (Or.inr (own ▸ finishes)) got' processing
    obtain ⟨reach, foundReached, change⟩ := step.request_some got
    obtain rfl := Option.some.inj (got'.symm.trans foundReached)
    rcases change with eq | advance
    · exact keep remaining (eq ▸ processing) rfl
    · obtain rfl := Table.key_of_find got
      cases advance with
      | begin received free =>
        obtain ⟨rfl, _⟩ := RequestPhase.processing.inj processing
        exact ⟨_, step.claim_stored got free, rfl, rfl, rfl⟩
      | @handlerReturned earlierClaim call left calling =>
        obtain ⟨rfl, _⟩ := RequestPhase.processing.inj processing
        exact keep (call :: left) calling rfl
      | skip | handlerFailed | markProcessed | release => cases processing

theorem EntitledHoldClaims.atMostOneEntitled (holds : EntitledHoldClaims s) :
    AtMostOneEntitled s := by
  rintro request mem req' mem' sameKey ⟨claimedAt, left, processing, fresh⟩
    ⟨claimedAt', remaining', processing', fresh'⟩
  obtain ⟨row, gotRow, _, _, own⟩ :=
    holds request.number request claimedAt left (Table.find_of_mem mem) processing fresh
  obtain ⟨row', foundRow', _, _, own'⟩ :=
    holds req'.number req' claimedAt' remaining' (Table.find_of_mem mem') processing' fresh'
  have sameRow : row = row' := Option.some.inj (gotRow.symm.trans (sameKey ▸ foundRow'))
  exact Table.eq_of_key_eq mem mem' (own.symm.trans (sameRow ▸ own'))

end OneStep

/-- **Claims of others are kept exactly in the runs whose finishing requests find
their own claims**, and in those no activity has two entitled requests. -/
theorem claims_of_others_kept_iff {trace : List (Transition InboxState InboxEvent)}
    {s : InboxState} (run : InboxRun trace s) :
    (Throughout ClaimsOfOthersKept trace ↔ Along FinishesOwnClaim trace)
      ∧ (Along FinishesOwnClaim trace → AtMostOneEntitled s) := by
  refine ⟨run.throughout_iff_along fun step => step.claimsOfOthersKept_iff, fun met => ?_⟩
  have holds : EntitledHoldClaims s :=
    run.invariant EntitledHoldClaims.initial (fun holds cond step => holds.step cond step) met
  exact holds.atMostOneEntitled

/-! ## A late failure -/

/-- A delivery of one `Follow`. -/
def followRequest (number : Nat) (phase : RequestPhase) : InboxRequest where
  number := number
  actorUri := "https://h/users/a"
  activityId := "https://h/follows/1"
  activityType := "Follow"
  objectUri := some "https://local.example/users/alice"
  accounts := ["alice"]
  phase := phase

def followClaim (number createdAt : Nat) : InboxActivity where
  actorUri := "https://h/users/a"
  activityId := "https://h/follows/1"
  activityType := "Follow"
  createdAt := createdAt
  processedAt := none
  heldBy := number

/-- The phase of a delivery whose handler is running. -/
def following (claimedAt : Nat) : RequestPhase :=
  .processing claimedAt [.dispatch (some "alice")]

/-- Two deliveries of the `Follow`. -/
def followRequests (phase phase' : RequestPhase) : InboxRequests :=
  (Table.singleton (followRequest 0 phase)).insert (followRequest 1 phase')

/-- The deliveries are in these phases, and this is the claim. -/
def followState (now : Nat) (activities : InboxActivities) (requests : InboxRequests) :
    InboxState where
  now := now
  activities := activities
  requests := requests
  statuses := Table.empty
  actors := []

/-- The first delivery has stalled and failed late; the second one has taken the
activity over. -/
def lateFailure : InboxState :=
  followState 900 (Table.singleton (followClaim 1 900)) (followRequests .failed (following 900))

/-- The first delivery has released the claim of the second. -/
def lateRelease : InboxState :=
  followState 900 Table.empty (followRequests .released (following 900))

/-- A third delivery has claimed the activity beside the second. -/
def doubleClaim : InboxState :=
  followState 900 (Table.singleton (followClaim 2 900))
    ((followRequests .released (following 900)).insert (followRequest 2 (following 900)))

theorem lateFailure_reachable : ∃ trace, InboxRun trace lateFailure := by
  have received := InboxStep.receive InboxState.initial "https://h/users/a"
    "https://h/follows/1" "Follow" (some "https://local.example/users/alice") ["alice"]
    (rfl : Table.find _ 0 = none)
  have got : (followState 0 Table.empty
      (Table.singleton (followRequest 0 .received))).requests.find 0
        = some (followRequest 0 .received) := by decide
  have begun : InboxStep
      (followState 0 Table.empty (Table.singleton (followRequest 0 .received))) (.begin 0)
      (followState 0 (Table.singleton (followClaim 0 0))
        (Table.singleton (followRequest 0 (following 0)))) :=
    InboxStep.begin _ got rfl rfl
  have received' : InboxStep
      (followState 900 (Table.singleton (followClaim 0 0))
        (Table.singleton (followRequest 0 (following 0))))
      (.receive 1 "https://h/users/a" "https://h/follows/1" "Follow"
        (some "https://local.example/users/alice") ["alice"])
      (followState 900 Table.empty (followRequests (following 0) .received)) :=
    InboxStep.receive _ _ _ _ _ _ rfl
  have got' : (followState 900 Table.empty
      (followRequests (following 0) .received)).requests.find 1
        = some (followRequest 1 .received) := by decide
  have begun' : InboxStep (followState 900 Table.empty (followRequests (following 0) .received))
      (.begin 1)
      (followState 900 (Table.singleton (followClaim 1 900))
        (followRequests (following 0) (following 900))) :=
    InboxStep.begin _ got' rfl rfl
  have stalled : (followState 900 (Table.singleton (followClaim 1 900))
      (followRequests (following 0) (following 900))).requests.find 0
        = some (followRequest 0 (following 0)) := by decide
  have failed : InboxStep (followState 900 (Table.singleton (followClaim 1 900))
      (followRequests (following 0) (following 900))) (.handlerFailed 0) lateFailure :=
    InboxStep.handlerFailed _ stalled rfl
  exact ⟨_, (((((Run.start.snoc received).snoc begun).snoc (InboxStep.tick _ 900)).snoc
    received').snoc begun').snoc failed⟩

theorem release_step : InboxStep lateFailure (.release 0) lateRelease := by
  have got : lateFailure.requests.find 0 = some (followRequest 0 .failed) := by decide
  exact InboxStep.release _ got rfl

theorem doubleClaim_reachable {trace : List (Transition InboxState InboxEvent)}
    (run : InboxRun trace lateRelease) :
    ∃ events, InboxRun (trace ++ events) doubleClaim := by
  have received : InboxStep lateRelease
      (.receive 2 "https://h/users/a" "https://h/follows/1" "Follow"
        (some "https://local.example/users/alice") ["alice"])
      (followState 900 Table.empty
        ((followRequests .released (following 900)).insert (followRequest 2 .received))) :=
    InboxStep.receive _ _ _ _ _ _ rfl
  have got : (followState 900 Table.empty
      ((followRequests .released (following 900)).insert
        (followRequest 2 .received))).requests.find 2 = some (followRequest 2 .received) := by
    decide
  have begun : InboxStep (followState 900 Table.empty
      ((followRequests .released (following 900)).insert (followRequest 2 .received)))
      (.begin 2) doubleClaim :=
    InboxStep.begin _ got rfl rfl
  have both := (run.snoc received).snoc begun
  rw [List.append_assoc] at both
  exact ⟨_, both⟩

/-- **A late failure releases the claim of another request**, and a third one
becomes entitled to apply the activity beside it. -/
theorem late_failure_releases_claim :
    ∃ trace s, InboxRun trace s ∧ ¬ Throughout ClaimsOfOthersKept trace
      ∧ ¬ AtMostOneEntitled s := by
  obtain ⟨trace, run⟩ := lateFailure_reachable
  obtain ⟨events, both⟩ := doubleClaim_reachable (run.snoc release_step)
  refine ⟨_, _, both, ?_, ?_⟩
  · intro kept
    have released := kept ⟨lateFailure, .release 0, lateRelease⟩ (by simp)
    have lost := released (followClaim 1 900).key (followClaim 1 900) (by decide) rfl (by decide)
    exact absurd lost (by decide)
  · intro atMostOne
    have second : followRequest 1 (following 900) ∈ doubleClaim.requests.rows := by decide
    have third : followRequest 2 (following 900) ∈ doubleClaim.requests.rows := by decide
    have fresh : doubleClaim.now < 900 + inboxInFlightStaleSeconds := by decide
    have eq := atMostOne _ second _ third rfl ⟨_, _, rfl, fresh⟩ ⟨_, _, rfl, fresh⟩
    exact absurd eq (by decide)

/-- The law at the run of the late failure, in which no request has finished. -/
theorem claims_of_others_kept_iff_lateFailure :
    ∃ trace, InboxRun trace lateFailure
      ∧ (Throughout ClaimsOfOthersKept trace ↔ Along FinishesOwnClaim trace)
      ∧ (Along FinishesOwnClaim trace → AtMostOneEntitled lateFailure) := by
  obtain ⟨trace, run⟩ := lateFailure_reachable
  exact ⟨trace, run, claims_of_others_kept_iff run⟩

end Cfwdon.Inbox
