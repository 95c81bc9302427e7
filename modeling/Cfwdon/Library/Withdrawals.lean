import Cfwdon.Library.Table

/-!
# Withdrawals that stand, and the rows they quiet

A subject can withdraw what is kept about it, and can consent to it again.  A ledger notes
both with the times they were given at, in whatever order they become known.  A withdrawal
stands until the subject gives a later consent.

A table is quiet under some keys if none of its rows with these keys is live.  What each
statement of SQL does to that is said once, for the keys of any ledger.

* `Ledger.Withdrawn.of_consent` -- a consent lifts withdrawals, and makes none;
* `Table.quiet_upsert_iff`, `Table.quiet_run_iff` -- when an insert or an update keeps a
  quiet table quiet; a delete always does.
-/

namespace Cfwdon.Library

/-- Withdrawals and consents, each with its subject and the time it was given at. -/
structure Ledger (Subject : Type*) where
  withdrawals : List (Subject × Nat)
  consents : List (Subject × Nat)

namespace Ledger

variable {Subject : Type*} {ledger : Ledger Subject} {subject other : Subject} {time : Nat}

/-- Nothing was withdrawn or consented to. -/
def empty : Ledger Subject := ⟨[], []⟩

def withdraw (ledger : Ledger Subject) (subject : Subject) (time : Nat) : Ledger Subject :=
  { ledger with withdrawals := ledger.withdrawals ++ [(subject, time)] }

def consent (ledger : Ledger Subject) (subject : Subject) (time : Nat) : Ledger Subject :=
  { ledger with consents := ledger.consents ++ [(subject, time)] }

def NoConsentAfter (ledger : Ledger Subject) (subject : Subject) (time : Nat) : Prop :=
  ∀ consent ∈ ledger.consents, consent.1 = subject → consent.2 ≤ time

/-- **A withdrawal of the subject stands**: there is no later consent. -/
def Withdrawn (ledger : Ledger Subject) (subject : Subject) : Prop :=
  ∃ withdrawal ∈ ledger.withdrawals,
    withdrawal.1 = subject ∧ ledger.NoConsentAfter subject withdrawal.2

instance [DecidableEq Subject] : Decidable (ledger.NoConsentAfter subject time) :=
  inferInstanceAs (Decidable (∀ consent ∈ ledger.consents, consent.1 = subject → consent.2 ≤ time))

instance [DecidableEq Subject] : Decidable (ledger.Withdrawn subject) :=
  inferInstanceAs (Decidable (∃ withdrawal ∈ ledger.withdrawals,
    withdrawal.1 = subject ∧ ledger.NoConsentAfter subject withdrawal.2))

theorem not_withdrawn_empty : ¬ (empty : Ledger Subject).Withdrawn subject := by
  rintro ⟨withdrawal, mem, _⟩
  cases mem

theorem withdrawn_withdraw :
    (ledger.withdraw subject time).Withdrawn other
      ↔ ledger.Withdrawn other ∨ (other = subject ∧ ledger.NoConsentAfter subject time) := by
  constructor
  · rintro ⟨withdrawal, mem, rfl, latest⟩
    rcases List.mem_append.mp mem with prior | new
    · exact Or.inl ⟨withdrawal, prior, rfl, latest⟩
    · obtain rfl := List.mem_singleton.mp new
      exact Or.inr ⟨rfl, latest⟩
  · rintro (⟨withdrawal, prior, eq, latest⟩ | ⟨rfl, latest⟩)
    · exact ⟨withdrawal, List.mem_append_left _ prior, eq, latest⟩
    · exact ⟨(other, time), List.mem_append_right _ (List.mem_singleton.mpr rfl), rfl, latest⟩

theorem withdrawn_withdraw_of_ne (different : other ≠ subject) :
    (ledger.withdraw subject time).Withdrawn other ↔ ledger.Withdrawn other := by
  rw [withdrawn_withdraw]
  exact or_iff_left fun own => different own.1

theorem Withdrawn.of_consent (withdrawn : (ledger.consent subject time).Withdrawn other) :
    ledger.Withdrawn other := by
  obtain ⟨withdrawal, mem, eq, latest⟩ := withdrawn
  exact ⟨withdrawal, mem, eq, fun consent given =>
    latest consent (List.mem_append_left _ given)⟩

end Ledger

/-! ## Quiet tables -/

namespace Table

variable {Row Key : Type*} {key : Row → Key} {table : Table Row key} {barred : Key → Prop}
  {live : Row → Bool}

def Quiet (barred : Key → Prop) (live : Row → Bool) (table : Table Row key) : Prop :=
  ∀ row ∈ table.rows, barred (key row) → live row = false

theorem quiet_empty : (empty : Table Row key).Quiet barred live := by
  intro row mem
  cases mem

theorem Quiet.mono {fewer : Key → Prop} (quiet : table.Quiet barred live)
    (included : ∀ k, fewer k → barred k) : table.Quiet fewer live :=
  fun row mem isBarred => quiet row mem (included (key row) isBarred)

theorem quiet_congr {eq : Key → Prop} (agree : ∀ k, barred k ↔ eq k) :
    table.Quiet barred live ↔ table.Quiet eq live :=
  ⟨fun quiet => quiet.mono fun k => (agree k).mpr, fun quiet => quiet.mono fun k => (agree k).mp⟩

theorem quiet_or_iff [DecidableEq Key] {k : Key} (quiet : table.Quiet barred live)
    (holds : Prop) :
    table.Quiet (fun other => barred other ∨ (other = k ∧ holds)) live
      ↔ ∀ row, table.find k = some row → holds → live row = false := by
  constructor
  · intro more row got isBarred
    exact more row (mem_of_find got) (Or.inr ⟨key_of_find got, isBarred⟩)
  · rintro spared row mem (prior | ⟨rfl, isBarred⟩)
    · exact quiet row mem prior
    · exact spared row (find_of_mem mem) isBarred

theorem Quiet.deleteWhere (quiet : table.Quiet barred live) (guard : Row → Bool) :
    (table.deleteWhere guard).Quiet barred live :=
  fun row mem => quiet row (List.mem_of_mem_filter mem)

theorem quiet_upsert_iff [DecidableEq Key] {row : Row} {merge : Row → Row}
    {keeps : ∀ held, key (merge held) = key held} (quiet : table.Quiet barred live) :
    (table.upsert row merge keeps).Quiet barred live
      ↔ (barred (key row) → live ((table.find (key row)).elim row merge) = false) := by
  have keyOfWritten : key ((table.find (key row)).elim row merge) = key row := by
    cases got : table.find (key row) with
    | none => rfl
    | some held => exact (keeps held).trans (key_of_find got)
  constructor
  · intro post isBarred
    have wrote : (table.find (key row)).elim row merge ∈ (table.upsert row merge keeps).rows :=
      (mem_upsert_iff row merge keeps table).mpr (Or.inl rfl)
    exact post _ wrote (keyOfWritten.symm ▸ isBarred)
  · intro wrote other mem isBarred
    rcases (mem_upsert_iff row merge keeps table).mp mem with rfl | ⟨held, _⟩
    · exact wrote (keyOfWritten ▸ isBarred)
    · exact quiet other held isBarred

variable {update : Update Row key}

theorem quiet_run_iff (quiet : table.Quiet barred live) :
    (update.run table).Quiet barred live
      ↔ ∀ row ∈ table.rows, update.guard row = true → barred (key row) →
          live (update.set row) = false := by
  constructor
  · intro post row held met isBarred
    have wrote : update.onRow row ∈ (update.run table).rows := List.mem_map_of_mem held
    rw [Update.onRow_of_guard met] at wrote
    exact post _ wrote ((update.keeps row).symm ▸ isBarred)
  · intro silent row mem isBarred
    obtain ⟨held, inTable, rfl⟩ := List.mem_map.mp mem
    rw [update.key_onRow] at isBarred
    rcases update.onRow_cases held with ⟨met, changed⟩ | eq
    · rw [changed]
      exact silent held inTable met isBarred
    · rw [eq]
      exact quiet held inTable isBarred

theorem Quiet.run (quiet : table.Quiet barred live)
    (silent : ∀ row, update.guard row = true → live (update.set row) = true → live row = true) :
    (update.run table).Quiet barred live := by
  apply (quiet_run_iff quiet).mpr
  intro row held met isBarred
  have wasSilent := quiet row held isBarred
  by_contra isLive
  rw [silent row met (by simpa using isLive)] at wasSilent
  cases wasSilent

theorem quiet_run_of_same
    (eq : ∀ row, live (update.set row) = live row) :
    (update.run table).Quiet barred live ↔ table.Quiet barred live := by
  have same : ∀ row, live (update.onRow row) = live row := by
    intro row
    rcases update.onRow_cases row with ⟨_, changed⟩ | kept
    · rw [changed, eq]
    · rw [kept]
  constructor
  · intro post row held isBarred
    rw [← same row]
    exact post _ (List.mem_map_of_mem held) ((update.key_onRow row).symm ▸ isBarred)
  · intro quiet
    exact quiet.run fun row _ isLive => eq row ▸ isLive

end Table

end Cfwdon.Library
