import Cfwdon.Remote.QuoteDecisions

/-!
# Settled quotes

An owner's decision is written by the id of the quote, whatever has become of the quote since
the request read it.  A request starts only while the quote is pending, so a rejected or
revoked quote is settled once no request from before is still to write a weaker decision, and
not earlier.
-/

namespace Cfwdon.Remote

open Library ActivityPub

/-- The same state, or revoked. -/
def QuoteState.AsStrictAs (later earlier : QuoteState) : Prop :=
  later = earlier ∨ later = .revoked

/-- What the decision will write. -/
def PreparedDecision.outcome (decision : PreparedDecision) : QuoteState :=
  decision.quote.quoteState.afterOwnerAction decision.action

/-- `id` is the primary key of `remote_statuses`. -/
def IdsDiffer (s : QuoteStore) : Prop :=
  ∀ {uri uri' row row'}, s.statuses.find uri = some row → s.statuses.find uri' = some row' →
    row.id = row'.id → uri = uri'

/-- A new row is stored under an id of its own. -/
def MeetsPrimaryKey (before : QuoteStore) (event : QuoteEvent) : Prop :=
  ∀ upsert, event = .writeUpsert upsert →
    before.statuses.find upsert.incoming.objectUri = none →
    ∀ {uri row}, before.statuses.find uri = some row → row.id ≠ upsert.incoming.id

/-- The quote at `uri` is taken back, and no decision on it will write less. -/
structure Settled (uri id : String) (least : QuoteState) (s : QuoteStore) : Prop where
  stored : ∃ row, s.statuses.find uri = some row ∧ row.id = id ∧ row.quoteState.AsStrictAs least
  decisions : ∀ decision ∈ s.decisions, decision.quote.id = id →
    decision.outcome.AsStrictAs least

theorem QuoteState.AsStrictAs.isTakenBack {later least : QuoteState}
    (strict : later.AsStrictAs least) (takenBack : least.isTakenBack = true) :
    later.isTakenBack = true := by
  rcases strict with rfl | rfl
  · exact takenBack
  · rfl

/-! ## Writes -/

section Writes

variable {statuses : RemoteStatuses} {uri : String} {row : RemoteStatus}

theorem PreparedUpsert.find_write_of_stored (upsert : PreparedUpsert)
    (held : statuses.find uri = some row) :
    ∃ new, (upsert.write statuses).find uri = some new ∧ new.id = row.id
      ∧ (row.quoteState.isTakenBack = true → new.quoteState = row.quoteState) := by
  rw [PreparedUpsert.write, Table.find_upsert, held]
  split_ifs
  · refine ⟨_, rfl, ?_, fun takenBack => ?_⟩
    · cases upsert.kind <;> rfl
    · rw [Option.elim_some, UpsertKind.quoteState_overwrite,
        mergedQuoteState_of_isTakenBack takenBack]
  · exact ⟨row, rfl, rfl, fun _ => rfl⟩

/-- **The rows after an upsert** have the ids they had; a new one has its own. -/
theorem PreparedUpsert.id_of_find_write {upsert : PreparedUpsert}
    (got : (upsert.write statuses).find uri = some row) :
    (∃ old, statuses.find uri = some old ∧ row.id = old.id)
      ∨ uri = upsert.incoming.objectUri ∧ statuses.find uri = none
        ∧ row.id = upsert.incoming.id := by
  cases held : statuses.find uri with
  | some old =>
    obtain ⟨new, wrote, same, _⟩ := upsert.find_write_of_stored held
    cases got.symm.trans wrote
    exact Or.inl ⟨old, rfl, same⟩
  | none =>
    rw [PreparedUpsert.write, Table.find_upsert, held] at got
    split_ifs at got with eq
    cases got
    exact Or.inr ⟨eq.symm, rfl, rfl⟩

/-- What a decision makes of a row. -/
def PreparedDecision.settle (decision : PreparedDecision) (row : RemoteStatus) : RemoteStatus :=
  (updateRemoteStatusQuoteState decision.quote.id decision.outcome).onRow row

theorem PreparedDecision.find_write (decision : PreparedDecision) :
    (decision.write statuses).find uri = (statuses.find uri).map decision.settle :=
  Table.find_run _ _ _

theorem PreparedDecision.settle_cases (decision : PreparedDecision) (row : RemoteStatus) :
    (row.id = decision.quote.id ∧ decision.settle row = { row with quoteState := decision.outcome })
      ∨ row.id ≠ decision.quote.id ∧ decision.settle row = row := by
  by_cases same : row.id = decision.quote.id
  · exact Or.inl ⟨same, Update.onRow_of_guard (by simpa [updateRemoteStatusQuoteState] using same)⟩
  · exact Or.inr ⟨same,
      Update.onRow_of_not_guard (by simpa [updateRemoteStatusQuoteState] using same)⟩

theorem PreparedDecision.id_settle (decision : PreparedDecision) (row : RemoteStatus) :
    (decision.settle row).id = row.id := by
  rcases decision.settle_cases row with ⟨_, eq⟩ | ⟨_, eq⟩ <;> rw [eq]

end Writes

/-! ## Steps -/

section Steps

variable {formats : Formats} {before after : QuoteStore} {event : QuoteEvent}
  {uri id : String} {least : QuoteState}

theorem idsDiffer_step (differ : IdsDiffer before) (fresh : MeetsPrimaryKey before event)
    (taken : QuoteStep formats before event after) : IdsDiffer after := by
  intro uri uri' row row' got got' same
  cases taken with
  | readStatus | readReblog | readDecision => exact differ got got' same
  | @writeUpsert upsert =>
    rcases PreparedUpsert.id_of_find_write got with ⟨old, held, eq⟩ | ⟨rfl, new, eq⟩
      <;> rcases PreparedUpsert.id_of_find_write got' with ⟨old', held', eq'⟩ | ⟨rfl, new', eq'⟩
    · exact differ held held' (eq ▸ eq' ▸ same)
    · exact absurd (eq.symm.trans (same.trans eq')) (fresh upsert rfl new' held)
    · exact absurd (eq'.symm.trans (same.symm.trans eq)) (fresh upsert rfl new held')
    · rfl
  | @writeDecision decision =>
    obtain ⟨old, held, rfl⟩ := Option.map_eq_some_iff.mp (decision.find_write.symm.trans got)
    obtain ⟨old', held', rfl⟩ := Option.map_eq_some_iff.mp (decision.find_write.symm.trans got')
    rw [decision.id_settle, decision.id_settle] at same
    exact differ held held' same

/-- **A settled quote stays settled** in every step. -/
theorem settled_step (takenBack : least.isTakenBack = true) (differ : IdsDiffer before)
    (settled : Settled uri id least before) (taken : QuoteStep formats before event after) :
    Settled uri id least after := by
  obtain ⟨row, held, rfl, strict⟩ := settled.stored
  have still := strict.isTakenBack takenBack
  cases taken with
  | readStatus | readReblog => exact ⟨⟨row, held, rfl, strict⟩, settled.decisions⟩
  | @writeUpsert upsert =>
    obtain ⟨new, wrote, same, kept⟩ := upsert.find_write_of_stored held
    exact ⟨⟨new, wrote, same, kept still ▸ strict⟩, settled.decisions⟩
  | @readDecision action targetUri quoteUri decision prepared =>
    refine ⟨⟨row, held, rfl, strict⟩, ?_⟩
    intro new mem same
    rcases List.mem_cons.mp mem with rfl | former
    · -- The request found its quote pending, so it did not find this one.
      have waits := pending_of_prepareDecision prepared
      obtain ⟨quote, found, read⟩ := Option.bind_eq_some_iff.mp prepared
      split_ifs at read
      cases read
      obtain rfl := differ found held same
      cases held.symm.trans found
      rw [waits] at still
      cases still
    · exact settled.decisions new former same
  | @writeDecision decision earlier later split =>
    refine ⟨⟨_, decision.find_write.trans (congrArg _ held), decision.id_settle row, ?_⟩,
      fun other mem => settled.decisions other (split ▸ mem_of_mem_taken_out mem)⟩
    rcases decision.settle_cases row with ⟨same, eq⟩ | ⟨_, eq⟩
    · rw [eq]
      exact settled.decisions decision (by simp [split]) same.symm
    · rw [eq]
      exact strict

end Steps

/-- **A quote is settled** by the decisions in flight: a rejected or revoked quote stays so in
everything that may follow, exactly when no request that read it before is still to write a
weaker decision. -/
theorem settled_for_good_iff {formats : Formats} {s : QuoteStore}
    (differ : IdsDiffer s) {uri : String} {row : RemoteStatus}
    (held : s.statuses.find uri = some row) (takenBack : row.quoteState.isTakenBack = true) :
    (∀ trace finish, Run (QuoteStep formats) s trace finish → Along MeetsPrimaryKey trace →
        ∃ now, finish.statuses.find uri = some now ∧ now.quoteState.AsStrictAs row.quoteState)
      ↔ ∀ decision ∈ s.decisions, decision.quote.id = row.id →
        decision.outcome.AsStrictAs row.quoteState := by
  constructor
  · intro stays decision mem same
    obtain ⟨earlier, later, split⟩ := List.append_of_mem mem
    have run := Run.start.snoc (@QuoteStep.writeDecision formats s decision _ _ split)
    obtain ⟨now, got, strict⟩ := stays _ _ run
      (Along.snoc_iff.mpr ⟨Along.nil, fun upsert writes => by cases writes⟩)
    cases (decision.find_write.trans (congrArg _ held)).symm.trans got
    rcases decision.settle_cases row with ⟨_, eq⟩ | ⟨other, _⟩
    · rw [eq] at strict
      exact strict
    · exact absurd same.symm other
  · intro harmless trace finish run fresh
    let Kept : QuoteStore → Prop := fun s =>
      IdsDiffer s ∧ Settled uri row.id row.quoteState s
    have kept : Kept finish := by
      refine run.invariant ⟨differ, ⟨row, held, rfl, Or.inl rfl⟩, harmless⟩ ?_ fresh
      rintro before event after ⟨apart, settled⟩ drawn taken
      exact ⟨idsDiffer_step apart drawn taken, settled_step takenBack apart settled taken⟩
    obtain ⟨now, got, _, strict⟩ := kept.2.stored
    exact ⟨now, got, strict⟩

/-- A quote was rejected; an approval that was read before is not written yet. -/
def rejectedStore : QuoteStore where
  statuses := Table.singleton { waitingQuote with quoteState := .rejected }
  upserts := []
  decisions := [earlyApproval]

/-- Such a quote is not settled. -/
theorem not_settled_before_approval :
    ¬ ∀ trace finish, Run (QuoteStep plainFormats) rejectedStore trace finish →
      Along MeetsPrimaryKey trace → ∃ now, finish.statuses.find waitingQuote.objectUri = some now
        ∧ now.quoteState.AsStrictAs .rejected := by
  intro stays
  have differ : IdsDiffer rejectedStore := by
    intro uri uri' row row' got got' _
    obtain rfl := List.mem_singleton.mp (Table.mem_of_find got)
    obtain rfl := List.mem_singleton.mp (Table.mem_of_find got')
    exact (Table.key_of_find got).symm.trans (Table.key_of_find got')
  have held : rejectedStore.statuses.find waitingQuote.objectUri
      = some { waitingQuote with quoteState := .rejected } := by decide +kernel
  exact absurd ((settled_for_good_iff differ held rfl).mp stays earlyApproval
    (List.mem_singleton_self _) rfl) (by unfold QuoteState.AsStrictAs; decide)

end Cfwdon.Remote
