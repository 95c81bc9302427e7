import Cfwdon.AppCache.Capabilities

/-!
# Capability bits that no row contradicts

A load that has read its bits, from KV or from the tables, may write them into the map or into
KV long after.  If a mutation inserts its row and deletes the entry of KV in between, the old
bits are back in the cache, and every later load takes a table for empty that has a row.  The
map of an isolate that only handles queue and cron events is never emptied, so it keeps bits
from before the mutation without any race.
-/

namespace Cfwdon.AppCache

open Library

/-- No row of those numbered contradicts the bits. -/
def Covers (caps : AccountCapabilities) (rows : List CapabilityRow) (numbers : List Nat) : Prop :=
  ∀ row ∈ rows, row.number ∈ numbers → caps.has row.category = true

/-- No request has loaded bits that a row contradicts whose insertion had been answered before
the request began. -/
def HonoursRows (state : CacheState) : Prop :=
  ∀ id request, state.requests id = some request → ∀ caps ∈ request.loaded,
    Covers caps state.rows request.settled

instance (caps : AccountCapabilities) (rows : List CapabilityRow) (numbers : List Nat) :
    Decidable (Covers caps rows numbers) :=
  inferInstanceAs (Decidable (∀ row ∈ rows, _ → _))

/-- What a load puts into a cache is fresh: KV is given bits that cover the rows whose insertion
has already deleted the entry of KV, and a map those whose insertion has been answered. -/
def PutsFresh (state : CacheState) : TaskStep → Activity → Prop
  | .keepKv, .fromKv caps => Covers caps state.rows state.settled
  | .keepProbe, .probing caps [] => Covers caps state.rows state.settled
  | .kvPut, .puttingKv caps => Covers caps state.rows state.purged
  | _, _ => True

/-- What a step puts into a cache, or finds in a map that is not emptied, is fresh. -/
def KeepsFresh (state : CacheState) : CacheEvent → Prop
  | .queueOrCron _ isolate =>
    ∀ caps ∈ state.l1 isolate, Covers caps state.rows state.settled
  | .task id task step =>
    ∀ request ∈ state.requests id, PutsFresh state step (request.activity task)
  | _ => True

instance (state : CacheState) (step : TaskStep) (activity : Activity) :
    Decidable (PutsFresh state step activity) := by
  unfold PutsFresh
  split <;> infer_instance

instance (state : CacheState) (event : CacheEvent) : Decidable (KeepsFresh state event) := by
  unfold KeepsFresh
  split <;> infer_instance

/-! ## The invariant -/

/-- What holds of a load or a mutation under way. -/
def ActivityCoherent (state : CacheState) (settled : List Nat) : Activity → Prop
  | .idle => True
  | .gettingKv => True
  | .fromKv caps => Covers caps state.rows settled
  | .probing found pending =>
    ∀ row ∈ state.rows, row.number ∈ settled →
      row.category ∈ pending ∨ found.has row.category = true
  | .puttingKv caps => Covers caps state.rows settled
  | .written number => ∀ n ∈ number, n < state.nextNumber
  | .deletingKv number => ∀ n ∈ number, n < state.nextNumber
  | .invalidated number => ∀ n ∈ number, n ∈ state.purged

structure RequestCoherent (state : CacheState) (request : CacheRequest) : Prop where
  settled : ∀ n ∈ request.settled, n ∈ state.settled
  shared : ∀ caps ∈ state.l1 request.isolate, Covers caps state.rows request.settled
  loaded : ∀ caps ∈ request.loaded, Covers caps state.rows request.settled
  activity : ∀ task, ActivityCoherent state request.settled (request.activity task)

/-- What holds of every state, if what is put into the caches is fresh. -/
structure Coherent (state : CacheState) : Prop where
  numbered : ∀ row ∈ state.rows, row.number < state.nextNumber
  purgedNumbered : ∀ n ∈ state.purged, n < state.nextNumber
  settledPurged : ∀ n ∈ state.settled, n ∈ state.purged
  kv : ∀ caps ∈ state.kv, Covers caps state.rows state.purged
  requests : ∀ id request, state.requests id = some request → RequestCoherent state request

theorem Coherent.initial : Coherent .initial where
  numbered := fun _ mem => by cases mem
  purgedNumbered := fun _ mem => by cases mem
  settledPurged := fun _ mem => by cases mem
  kv := fun _ cached => by cases cached
  requests := fun _ _ begun => by cases begun

/-! ## What only grows -/

/-- No old row comes back, and no number is forgotten. -/
structure Later (before after : CacheState) : Prop where
  rows : ∀ row ∈ after.rows, row.number < before.nextNumber → row ∈ before.rows
  nextNumber : before.nextNumber ≤ after.nextNumber
  purged : ∀ n ∈ before.purged, n ∈ after.purged
  settled : ∀ n ∈ before.settled, n ∈ after.settled

section Later

variable {before after : CacheState} {numbers : List Nat}

theorem Covers.later {caps : AccountCapabilities} (covers : Covers caps before.rows numbers)
    (later : Later before after) (numbered : ∀ n ∈ numbers, n < before.nextNumber) :
    Covers caps after.rows numbers := by
  intro row held mem
  exact covers row (later.rows row held (numbered _ mem)) mem

theorem Covers.mono {caps : AccountCapabilities} {rows : List CapabilityRow} {fewer : List Nat}
    (covers : Covers caps rows numbers) (subset : ∀ n ∈ fewer, n ∈ numbers) :
    Covers caps rows fewer :=
  fun row held mem => covers row held (subset _ mem)

theorem ActivityCoherent.later {activity : Activity}
    (coh : ActivityCoherent before numbers activity) (later : Later before after)
    (numbered : ∀ n ∈ numbers, n < before.nextNumber) :
    ActivityCoherent after numbers activity := by
  cases activity with
  | idle | gettingKv => trivial
  | fromKv caps | puttingKv caps => exact Covers.later coh later numbered
  | probing got waits =>
    intro row held mem
    exact coh row (later.rows row held (numbered _ mem)) mem
  | written num | deletingKv num =>
    exact fun n mem => Nat.lt_of_lt_of_le (coh n mem) later.nextNumber
  | invalidated num => exact fun n mem => later.purged n (coh n mem)

variable {request : CacheRequest}

theorem Coherent.settledNumbered (coh : Coherent before)
    (own : RequestCoherent before request) : ∀ n ∈ request.settled, n < before.nextNumber :=
  fun n mem =>
    coh.purgedNumbered n (coh.settledPurged n (own.settled n mem))

theorem RequestCoherent.later (own : RequestCoherent before request) (coh : Coherent before)
    (later : Later before after)
    (shared : ∀ caps ∈ after.l1 request.isolate, Covers caps after.rows request.settled) :
    RequestCoherent after request where
  settled := fun n mem => later.settled n (own.settled n mem)
  shared := shared
  loaded := fun caps mem =>
    (own.loaded caps mem).later later (coh.settledNumbered own)
  activity := fun task => (own.activity task).later later (coh.settledNumbered own)

theorem RequestCoherent.later_of_same (own : RequestCoherent before request)
    (coh : Coherent before) (later : Later before after) (eq : after.l1 = before.l1) :
    RequestCoherent after request :=
  own.later coh later fun caps cached =>
    (own.shared caps (eq ▸ cached)).later later (coh.settledNumbered own)

end Later

/-! ## The parts of a step -/

section Parts

variable {state : CacheState}

variable {request : CacheRequest} {caps : AccountCapabilities}

theorem Coherent.put {id : Nat} (coh : Coherent state) (own : RequestCoherent state request) :
    Coherent (state.put id request) where
  numbered := coh.numbered
  purgedNumbered := coh.purgedNumbered
  settledPurged := coh.settledPurged
  kv := coh.kv
  requests := by
    intro other got held
    have keeps : ∀ {kept}, RequestCoherent state kept →
        RequestCoherent (state.put id request) kept :=
      fun kept => ⟨kept.settled, kept.shared, kept.loaded, kept.activity⟩
    rw [CacheState.requests_put] at held
    by_cases eq : other = id
    · rw [eq, Function.update_self] at held
      obtain rfl := Option.some.inj held
      exact keeps own
    · rw [Function.update_of_ne eq] at held
      exact keeps (coh.requests other got held)

theorem Coherent.l1Remove (coh : Coherent state) (isolate : Nat) :
    Coherent (state.l1Remove isolate) where
  numbered := coh.numbered
  purgedNumbered := coh.purgedNumbered
  settledPurged := coh.settledPurged
  kv := coh.kv
  requests := by
    intro id request held
    have own := coh.requests id request held
    refine ⟨own.settled, fun caps cached => ?_, own.loaded, own.activity⟩
    rw [CacheState.l1_l1Remove] at cached
    by_cases eq : request.isolate = isolate
    · rw [eq, Function.update_self] at cached
      cases cached
    · rw [Function.update_of_ne eq] at cached
      exact own.shared caps cached

theorem Coherent.l1Put (coh : Coherent state) (isolate : Nat)
    (fresh : Covers caps state.rows state.settled) : Coherent (state.l1Put isolate caps) where
  numbered := coh.numbered
  purgedNumbered := coh.purgedNumbered
  settledPurged := coh.settledPurged
  kv := coh.kv
  requests := by
    intro id request held
    have own := coh.requests id request held
    refine ⟨own.settled, fun kept cached => ?_, own.loaded, own.activity⟩
    rw [CacheState.l1_l1Put] at cached
    by_cases eq : request.isolate = isolate
    · rw [eq, Function.update_self] at cached
      obtain rfl := Option.some.inj cached
      exact fresh.mono own.settled
    · rw [Function.update_of_ne eq] at cached
      exact own.shared kept cached

theorem Coherent.kvDelete (coh : Coherent state) : Coherent state.kvDelete where
  numbered := coh.numbered
  purgedNumbered := coh.purgedNumbered
  settledPurged := coh.settledPurged
  kv := fun _ cached => by cases cached
  requests := fun id request held =>
    have own := coh.requests id request held
    ⟨own.settled, own.shared, own.loaded, own.activity⟩

theorem Coherent.kvPut (coh : Coherent state) (fresh : Covers caps state.rows state.purged) :
    Coherent (state.kvPut caps) where
  numbered := coh.numbered
  purgedNumbered := coh.purgedNumbered
  settledPurged := coh.settledPurged
  kv := by
    intro kept cached
    obtain rfl := Option.some.inj cached
    exact fresh
  requests := fun id request held =>
    have own := coh.requests id request held
    ⟨own.settled, own.shared, own.loaded, own.activity⟩

theorem Coherent.deleteRow (coh : Coherent state) (category : Category) (key : String) :
    Coherent (state.deleteRow category key) := by
  have fewer : ∀ row ∈ (state.deleteRow category key).rows, row ∈ state.rows :=
    fun row mem => (List.mem_filter.mp mem).1
  have later : Later state (state.deleteRow category key) :=
    ⟨fun row mem _ => fewer row mem, Nat.le_refl _, fun _ mem => mem, fun _ mem => mem⟩
  exact
    { numbered := fun row mem => coh.numbered row (fewer row mem)
      purgedNumbered := coh.purgedNumbered
      settledPurged := coh.settledPurged
      kv := fun caps cached => (coh.kv caps cached).later later coh.purgedNumbered
      requests := fun id request held =>
        (coh.requests id request held).later_of_same coh later rfl }

theorem Coherent.insertRow (coh : Coherent state) (category : Category) (key : String) :
    Coherent (state.insertRow category key) := by
  unfold CacheState.insertRow
  split_ifs with conflict
  · exact coh
  · have later : Later state { state with
        rows := ⟨category, key, state.nextNumber⟩ :: state.rows
        nextNumber := state.nextNumber + 1 } := by
      refine ⟨fun row mem old => ?_, Nat.le_succ _, fun _ mem => mem, fun _ mem => mem⟩
      rcases List.mem_cons.mp mem with rfl | held
      · exact absurd old (Nat.lt_irrefl _)
      · exact held
    refine
      { numbered := fun row mem => ?_
        purgedNumbered := fun n mem => Nat.lt_succ_of_lt (coh.purgedNumbered n mem)
        settledPurged := coh.settledPurged
        kv := fun caps cached => (coh.kv caps cached).later later coh.purgedNumbered
        requests := fun id request held =>
          (coh.requests id request held).later_of_same coh later rfl }
    rcases List.mem_cons.mp mem with rfl | held
    · exact Nat.lt_succ_self _
    · exact Nat.lt_succ_of_lt (coh.numbered row held)

theorem Coherent.rowNumber_lt {category : Category} {key : String} (coh : Coherent state) :
    ∀ n ∈ state.rowNumber category key, n < state.nextNumber := by
  intro n numbered
  obtain ⟨row, got, rfl⟩ := Option.map_eq_some_iff.mp numbered
  exact coh.numbered row (List.mem_of_find?_eq_some got)

theorem Coherent.markPurged {num : Option Nat} (coh : Coherent state)
    (known : ∀ n ∈ num, n < state.nextNumber) :
    Coherent (state.kvDelete.markPurged num) := by
  have later : Later state (state.kvDelete.markPurged num) :=
    ⟨fun _ mem _ => mem, Nat.le_refl _, fun _ mem => List.mem_append_right _ mem, fun _ mem => mem⟩
  exact
    { numbered := coh.numbered
      purgedNumbered := fun n mem => (List.mem_append.mp mem).elim
        (fun own => known n (Option.mem_toList.mp own)) (coh.purgedNumbered n)
      settledPurged := fun n mem => List.mem_append_right _ (coh.settledPurged n mem)
      kv := fun _ cached => by cases cached
      requests := fun id request held =>
        (coh.requests id request held).later_of_same coh later rfl }

theorem Coherent.markSettled {num : Option Nat} (coh : Coherent state)
    (purged : ∀ n ∈ num, n ∈ state.purged) : Coherent (state.markSettled num) := by
  have later : Later state (state.markSettled num) :=
    ⟨fun _ mem _ => mem, Nat.le_refl _, fun _ mem => mem, fun _ mem => List.mem_append_right _ mem⟩
  exact
    { numbered := coh.numbered
      purgedNumbered := coh.purgedNumbered
      settledPurged := fun n mem => (List.mem_append.mp mem).elim
        (fun own => purged n (Option.mem_toList.mp own)) (coh.settledPurged n)
      kv := coh.kv
      requests := fun id request held =>
        (coh.requests id request held).later_of_same coh later rfl }

theorem RequestCoherent.reach {task : Nat} {activity : Activity}
    (own : RequestCoherent state request)
    (reach : ActivityCoherent state request.settled activity) :
    RequestCoherent state (request.reach task activity) where
  settled := own.settled
  shared := own.shared
  loaded := own.loaded
  activity := by
    intro other
    rw [CacheRequest.activity_reach]
    by_cases eq : other = task
    · rw [eq, Function.update_self]
      exact reach
    · rw [Function.update_of_ne eq]
      exact own.activity other

theorem RequestCoherent.returns {task : Nat} (own : RequestCoherent state request)
    (covers : Covers caps state.rows request.settled) :
    RequestCoherent state (request.returns task caps) where
  settled := own.settled
  shared := own.shared
  loaded := by
    intro gave mem
    rcases List.mem_cons.mp mem with rfl | prior
    · exact covers
    · exact own.loaded gave prior
  activity :=
    have idle : RequestCoherent state (request.reach task .idle) := own.reach trivial
    idle.activity

end Parts

/-! ## Steps and runs -/

theorem probing_answered {state : CacheState} {done : List Nat} {got : AccountCapabilities}
    {waits : List Category} (category : Category)
    (coh : ActivityCoherent state done (.probing got waits)) :
    ActivityCoherent state done (.probing
      (got.answered (state.accountHasAnyRow category) category)
      (waits.filter (· != category))) := by
  intro row held mem
  rw [AccountCapabilities.has_answered]
  by_cases eq : row.category = category
  · right
    rw [if_pos eq]
    exact List.any_eq_true.mpr ⟨row, held, beq_iff_eq.mpr eq⟩
  · rw [if_neg eq]
    refine (coh row held mem).imp_left fun left => ?_
    exact List.mem_filter.mpr ⟨left, bne_iff_ne.mpr eq⟩

/-- **A load or a mutation keeps the invariant**, if what it puts into a cache is fresh. -/
theorem Coherent.advance {before after : CacheState} {id task : Nat} {request : CacheRequest}
    {step : TaskStep} (coh : Coherent before) (held : before.requests id = some request)
    (fresh : KeepsFresh before (.task id task step))
    (taken : before.advance id task request step = some after) : Coherent after := by
  have own := coh.requests id request held
  have active := own.activity task
  cases step with
  | l1Get =>
    simp only [CacheState.advance] at taken
    split at taken
    · rename_i caps _ cached
      cases taken
      exact coh.put (own.returns (own.shared caps cached))
    · cases taken
      exact coh.put (own.reach trivial)
    · cases taken
  | kvGet =>
    simp only [CacheState.advance] at taken
    split at taken
    · rename_i caps _ cached
      cases taken
      refine coh.put (own.reach ((coh.kv caps cached).mono fun n mem => ?_))
      exact coh.settledPurged n (own.settled n mem)
    · cases taken
      refine coh.put (own.reach fun row _ _ => Or.inl ?_)
      cases row.category <;> decide
    · cases taken
  | keepKv =>
    simp only [CacheState.advance] at taken
    split at taken
    · rename_i caps read
      cases taken
      rw [read] at active
      have put := fresh request held
      rw [read] at put
      have kept := coh.l1Put request.isolate put
      exact kept.put ((kept.requests id request held).returns active)
    · cases taken
  | probe category =>
    simp only [CacheState.advance] at taken
    split at taken
    · rename_i got waits probing
      split_ifs at taken
      cases taken
      rw [probing] at active
      exact coh.put (own.reach (probing_answered category active))
    · cases taken
  | keepProbe =>
    simp only [CacheState.advance] at taken
    split at taken
    · rename_i got probed
      cases taken
      rw [probed] at active
      have put := fresh request held
      rw [probed] at put
      have kept := coh.l1Put request.isolate put
      refine kept.put ((kept.requests id request held).reach fun row mem done => ?_)
      exact (active row mem done).resolve_left List.not_mem_nil
    · cases taken
  | kvPut =>
    simp only [CacheState.advance] at taken
    split at taken
    · rename_i caps putting
      cases taken
      rw [putting] at active
      have put := fresh request held
      rw [putting] at put
      have kept := coh.kvPut put
      exact kept.put ((kept.requests id request held).returns active)
    · cases taken
  | insert category key =>
    simp only [CacheState.advance] at taken
    split at taken
    · cases taken
      have kept := coh.insertRow category key
      refine kept.put (RequestCoherent.reach ?_ kept.rowNumber_lt)
      exact kept.requests id request (by rw [CacheState.insertRow]; split_ifs <;> exact held)
    · cases taken
  | delete category key =>
    simp only [CacheState.advance] at taken
    split at taken
    · cases taken
      have kept := coh.deleteRow category key
      exact kept.put ((kept.requests id request held).reach fun _ none => by cases none)
    · cases taken
  | l1Remove =>
    simp only [CacheState.advance] at taken
    split at taken
    · rename_i num wrote
      cases taken
      rw [wrote] at active
      have kept := coh.l1Remove request.isolate
      exact kept.put ((kept.requests id request held).reach active)
    · cases taken
  | kvDelete =>
    simp only [CacheState.advance] at taken
    split at taken
    · rename_i num deleting
      cases taken
      rw [deleting] at active
      have kept := coh.markPurged active
      refine kept.put ((kept.requests id request held).reach fun n mem => ?_)
      exact List.mem_append_left _ (Option.mem_toList.mpr mem)
    · cases taken
  | answer =>
    simp only [CacheState.advance] at taken
    split at taken
    · rename_i num invalidated
      cases taken
      rw [invalidated] at active
      have kept := coh.markSettled active
      exact kept.put ((kept.requests id request held).reach trivial)
    · cases taken

theorem RequestCoherent.fresh {state : CacheState} {isolate : Nat}
    (shared : ∀ caps ∈ state.l1 isolate, Covers caps state.rows state.settled) :
    RequestCoherent state (.fresh isolate state.settled) where
  settled := fun _ mem => mem
  shared := shared
  loaded := fun _ mem => by cases mem
  activity := fun _ => trivial

/-- **Every step keeps the invariant**, if what it puts into a cache is fresh. -/
theorem Coherent.next {before after : CacheState} {ev : CacheEvent} (coh : Coherent before)
    (fresh : KeepsFresh before ev) (taken : before.Taken ev after) : Coherent after := by
  unfold CacheState.Taken at taken
  cases ev with
  | fetch id isolate =>
    simp only [CacheState.next] at taken
    split_ifs at taken
    cases taken
    refine (coh.l1Remove isolate).put (.fresh fun caps cached => ?_)
    rw [CacheState.l1_l1Remove, Function.update_self] at cached
    cases cached
  | queueOrCron id isolate =>
    simp only [CacheState.next] at taken
    split_ifs at taken
    cases taken
    exact coh.put (.fresh fresh)
  | task id task step =>
    obtain ⟨request, held, advanced⟩ := Option.bind_eq_some_iff.mp taken
    exact coh.advance held fresh advanced
  | cascade category key =>
    cases taken
    exact coh.deleteRow category key
  | expire =>
    cases taken
    exact coh.kvDelete
  | recycle isolate =>
    cases taken
    exact coh.l1Remove isolate

/-- `list_all_account_domain_blocks`, with the bits that were loaded. -/
def listAllAccountDomainBlocks (caps : AccountCapabilities) (rows : List CapabilityRow) :
    List String :=
  if caps.hasDomainBlocks then
    (rows.filter (·.category == .domainBlocks)).map CapabilityRow.key
  else []

/-- **The bits that are loaded honour the rows**, in every run whose steps all keep the caches
fresh; and so the list of blocked domains has every block that had been answered. -/
theorem capabilities_honour_rows {final : CacheState}
    {trace : List (Transition CacheState CacheEvent)}
    (run : Run CacheState.Taken .initial trace final) (fresh : Along KeepsFresh trace) :
    HonoursRows final
    ∧ ∀ id request, final.requests id = some request → ∀ caps ∈ request.loaded,
        ∀ row ∈ final.rows, row.category = .domainBlocks → row.number ∈ request.settled →
          row.key ∈ listAllAccountDomainBlocks caps final.rows := by
  have coh : Coherent final :=
    run.invariant .initial (fun holds met taken => Coherent.next holds met taken) fresh
  have honoured : HonoursRows final := fun id request held =>
    (coh.requests id request held).loaded
  refine ⟨honoured, fun id request held caps loaded row mem blocks done => ?_⟩
  have bit : caps.hasDomainBlocks = true := by
    have covered := honoured id request held caps loaded row mem done
    rwa [blocks] at covered
  rw [listAllAccountDomainBlocks, if_pos bit]
  exact List.mem_map_of_mem (List.mem_filter.mpr ⟨mem, beq_iff_eq.mpr blocks⟩)

/-! ## A stale probe -/

def blockDomain (id : Nat) : List CacheEvent :=
  [.fetch id id, .task id 0 (.insert .domainBlocks "blocked.example"), .task id 0 .l1Remove,
    .task id 0 .kvDelete, .task id 0 .answer]

/-- A request begins, finds nothing cached and probes the tables. -/
def probeTables (id : Nat) : List CacheEvent :=
  [.fetch id id, .task id 0 .l1Get, .task id 0 .kvGet]
    ++ Category.all.map fun category => .task id 0 (.probe category)

/-- Request 0 probes the tables and is overtaken by request 1, which blocks a domain and is
answered; then 0 puts what it has found into KV, and request 2 loads it. -/
def staleProbe : List CacheEvent :=
  probeTables 0 ++ blockDomain 1 ++ [.task 0 0 .keepProbe, .task 0 0 .kvPut]
    ++ [.fetch 2 2, .task 2 0 .l1Get, .task 2 0 .kvGet, .task 2 0 .keepKv]

/-- Request 2 began after the block had been answered, and does not see it. -/
theorem stale_probe_hides_domain_block :
    ∃ trace final, Run CacheState.Taken .initial trace final ∧ ¬ HonoursRows final := by
  have hidden : (runWhere CacheState.next (fun _ _ => True) staleProbe .initial).any (fun final =>
      (final.requests 2).any fun request => request.loaded.any fun caps =>
        final.rows.any fun row =>
          request.settled.contains row.number && !caps.has row.category) = true := by
    decide +kernel
  obtain ⟨final, taken, seen⟩ := (Option.any_eq_true _ _).mp hidden
  obtain ⟨request, held, loads⟩ := (Option.any_eq_true _ _).mp seen
  obtain ⟨caps, loaded, contradicts⟩ := List.any_eq_true.mp loads
  obtain ⟨row, mem, missed⟩ := List.any_eq_true.mp contradicts
  rw [Bool.and_eq_true, List.contains_iff_mem, Bool.not_eq_true'] at missed
  obtain ⟨trace, run, -⟩ := exists_run_of_runWhere taken
  refine ⟨trace, final, run, fun honoured => ?_⟩
  have covered := honoured 2 request held caps loaded row mem missed.1
  rw [missed.2] at covered
  cases covered

/-- Where the block is answered before the probe, the request that probes sees it. -/
theorem fresh_probe_sees_domain_block :
    ∃ trace final, Run CacheState.Taken .initial trace final ∧ HonoursRows final
      ∧ ∃ request, final.requests 2 = some request
        ∧ ∃ caps ∈ request.loaded,
          "blocked.example" ∈ listAllAccountDomainBlocks caps final.rows := by
  have seen : (runWhere CacheState.next KeepsFresh
      (blockDomain 1 ++ probeTables 2 ++ [.task 2 0 .keepProbe, .task 2 0 .kvPut])
      .initial).any (fun final =>
        (final.requests 2).any fun request => request.loaded.any fun caps =>
          final.rows.any fun row => decide (row.category = .domainBlocks
            ∧ row.number ∈ request.settled ∧ row.key = "blocked.example")) = true := by
    decide +kernel
  obtain ⟨final, taken, seen⟩ := (Option.any_eq_true _ _).mp seen
  obtain ⟨request, held, loads⟩ := (Option.any_eq_true _ _).mp seen
  obtain ⟨caps, loaded, blocks⟩ := List.any_eq_true.mp loads
  obtain ⟨row, mem, holds⟩ := List.any_eq_true.mp blocks
  obtain ⟨category, done, key⟩ := of_decide_eq_true holds
  obtain ⟨trace, run, fresh⟩ := exists_run_of_runWhere taken
  have honoured := capabilities_honour_rows run fresh
  refine ⟨trace, final, run, honoured.1, request, held, caps, loaded, ?_⟩
  exact key ▸ honoured.2 2 request held caps loaded row mem category done

end Cfwdon.AppCache
