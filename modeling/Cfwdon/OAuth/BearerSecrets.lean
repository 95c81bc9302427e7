import Cfwdon.OAuth.BearerTokens

/-!
# Bearer tokens authenticate their own rows

A presented string should authenticate a row only if it is the plaintext the row was
issued for and the row is unexpired, whoever presents it: someone who has read the tables
knows the hashes stored there.  And no lookup should change a row so that its plaintext
no longer finds it.

The tokens of accounts keep this by the guard of their legacy path.  The legacy path of
the application tokens has no guard, and an issued row holds its hash in `access_token`
too: presenting that hash authenticates the row, and rewrites it to the hash of the hash.
-/

namespace Cfwdon.OAuth

open Library

section Secrets

variable (hash : String → String)

/-- A row stores a plaintext: hashed in both columns, or as it is without a hash. -/
def StoresPlaintext (plaintext : String) (columns : String × Option String) : Prop :=
  columns = (hash plaintext, some (hash plaintext)) ∨ columns = (plaintext, none)

/-- Every row stores the plaintext it was issued for. -/
def BearerState.RowsStore (s : BearerState) : Prop :=
  ∀ rowid table columns, s.columns rowid table = some columns →
    StoresPlaintext hash (s.issued (table, rowid)) columns

/-- A lookup with the plaintext selects the row, by its hash or by the plaintext. -/
def FoundBy (plaintext : String) (columns : String × Option String) : Prop :=
  columns.2 = some (hash plaintext) ∨ columns.1 = plaintext ∧ columns.2 = none

/-- Every row is found by the plaintext it was issued for. -/
def BearerState.PlaintextsFind (s : BearerState) : Prop :=
  ∀ rowid table columns, s.columns rowid table = some columns →
    FoundBy hash (s.issued (table, rowid)) columns

/-- A row that authenticates a presented string was issued for it and is not expired. -/
def AuthenticatesIssued (s : BearerState) : BearerEvent → BearerState → Prop
  | .selectHash lookup (some rowid), _ =>
    s.issued (lookup.table, rowid) = lookup.token ∧ s.Unexpired rowid lookup.table
  | .selectPlaintext lookup (some rowid), _ =>
    s.issued (lookup.table, rowid) = lookup.token ∧ s.Unexpired rowid lookup.table
  | _, _ => True

/-- The string presented to the application tokens is not the stored hash of a row. -/
def NotStoredHash (s : BearerState) (lookup : BearerLookup) : Prop :=
  lookup.table = .app → ∀ rowid tokenHash,
    s.columns rowid .app ≠ some (lookup.token, some tokenHash)

/-- No lookup uses the stored hash of an application row as a plaintext, no presented
string collides with an issued one, and the clock fits the 32-bit bindings. -/
def PresentsNoStoredHash (s : BearerState) : BearerEvent → Prop
  | .selectHash lookup _ => toI32OrMax s.now = s.now ∧ ∀ rowid columns,
      s.columns rowid lookup.table = some columns →
        hash (s.issued (lookup.table, rowid)) = hash lookup.token →
          s.issued (lookup.table, rowid) = lookup.token
  | .selectPlaintext lookup _ => toI32OrMax s.now = s.now ∧ NotStoredHash s lookup
  | .migrate lookup => NotStoredHash s lookup
  | _ => True

variable {hash}

theorem FoundBy.of_stores {plaintext : String} {columns : String × Option String}
    (stores : StoresPlaintext hash plaintext columns) : FoundBy hash plaintext columns := by
  rcases stores with rfl | rfl
  · exact Or.inl rfl
  · exact Or.inr ⟨rfl, rfl⟩

section OneStep

variable {s s' : BearerState} {event : BearerEvent}

/-- **An issued row** stores its own plaintext; the other rows stay as they are. -/
theorem BearerState.RowsStore.issue {post : BearerState} {row : TokenTable × Nat}
    {accessToken : String} (rows : s.RowsStore hash)
    (columns : ∀ rowid table, post.columns rowid table
      = if (table, rowid) = row then some (hash accessToken, some (hash accessToken))
        else s.columns rowid table)
    (issued : post.issued = Function.update s.issued row accessToken) :
    post.RowsStore hash := by
  intro rowid table held got
  rw [columns] at got
  rw [issued]
  by_cases isRow : (table, rowid) = row
  · rw [if_pos isRow, Option.some.injEq] at got
    rw [isRow, Function.update_self]
    exact Or.inl got.symm
  · rw [if_neg isRow] at got
    rw [Function.update_of_ne isRow]
    exact rows rowid table held got

/-- **A rewrite** hashes the plaintext of a legacy row. -/
theorem BearerState.RowsStore.migrate {lookup : BearerLookup} (rows : s.RowsStore hash)
    (notHash : NotStoredHash s lookup) :
    (s.migrate lookup.token (hash lookup.token) lookup.table).RowsStore hash := by
  intro rowid table columns got
  have sameIssued : (s.migrate lookup.token (hash lookup.token) lookup.table).issued = s.issued := by
    cases lookup.table <;> rfl
  rw [sameIssued]
  rcases BearerState.columns_migrate got with untouched | ⟨held, isTable, pre, ofUser, rfl⟩
  · exact rows rowid table columns untouched
  · have legacy : held = none := by
      cases wrote : lookup.table with
      | user => exact ofUser wrote
      | app =>
        rw [isTable, wrote] at pre
        cases held with
        | none => rfl
        | some tokenHash => exact absurd pre (notHash wrote rowid tokenHash)
    subst legacy
    rcases rows rowid table _ pre with hashed | plain
    · exact nomatch (Prod.mk.inj hashed).2
    · have isPlaintext : lookup.token = s.issued (table, rowid) := (Prod.mk.inj plain).1
      rw [isPlaintext]
      exact Or.inl rfl

theorem BearerState.RowsStore.step (rows : s.RowsStore hash)
    (cond : PresentsNoStoredHash hash s event) (step : BearerStep hash s event s') :
    s'.RowsStore hash := by
  cases step with
  | issueUser fresh => exact rows.issue (BearerState.columns_issueUser fresh) rfl
  | issueApp fresh => exact rows.issue (BearerState.columns_issueApp fresh) rfl
  | migrate => exact rows.migrate cond
  | registerApp | present | selectHash | selectPlaintext | stop | tick => exact rows

/-- **A select returns only rows issued for the presented string.** -/
theorem BearerState.RowsStore.authenticates (rows : s.RowsStore hash)
    (cond : PresentsNoStoredHash hash s event) (step : BearerStep hash s event s') :
    AuthenticatesIssued s event s' := by
  cases step with
  | @selectHash lookup got prior later runs phase gave =>
    cases got with
    | none => trivial
    | some rowid =>
      obtain ⟨bound, noCollision⟩ := cond
      obtain ⟨⟨accessToken, held⟩, unexpired⟩ :=
        BearerState.columns_of_mem_byHash bound gave
      refine ⟨noCollision rowid _ held ?_, unexpired⟩
      rcases rows rowid lookup.table _ held with hashed | plain
      · exact (Option.some.inj (Prod.mk.inj hashed).2).symm
      · exact nomatch (Prod.mk.inj plain).2
  | @selectPlaintext lookup got prior later runs phase gave =>
    cases got with
    | none => trivial
    | some rowid =>
      obtain ⟨bound, notHash⟩ := cond
      obtain ⟨⟨tokenHash, held, ofUser⟩, unexpired⟩ :=
        BearerState.columns_of_mem_byPlaintext bound gave
      refine ⟨?_, unexpired⟩
      rcases rows rowid lookup.table _ held with hashed | plain
      · obtain ⟨_, isHashed⟩ := Prod.mk.inj hashed
        cases wrote : lookup.table with
        | user =>
          rw [ofUser wrote] at isHashed
          cases isHashed
        | app =>
          rw [wrote, isHashed] at held
          exact absurd held (notHash wrote rowid _)
      · exact (Prod.mk.inj plain).1.symm
  | issueUser | issueApp | registerApp | present | migrate | stop | tick => trivial

end OneStep

/-- **Presented strings authenticate their own rows.**  From any tables whose rows store
the plaintexts they were issued for, in every run in which no application lookup presents
a stored hash: a presented string authenticates a row only if the row was issued for it
and is unexpired, and every plaintext still finds its row. -/
theorem bearers_authenticate_own_rows {start finish : BearerState}
    {trace : List (Transition BearerState BearerEvent)} (rows : start.RowsStore hash)
    (run : Run (BearerStep hash) start trace finish)
    (met : Along (PresentsNoStoredHash hash) trace) :
    Throughout AuthenticatesIssued trace ∧ finish.PlaintextsFind hash := by
  have preserved : ∀ {before event after}, before.RowsStore hash →
      PresentsNoStoredHash hash before event → BearerStep hash before event after →
        after.RowsStore hash :=
    fun holds cond step => holds.step cond step
  refine ⟨?_, ?_⟩
  · exact run.forall_transitions rows preserved
      (fun holds cond step => holds.authenticates cond step) met
  · have atEnd := run.invariant rows preserved met
    exact fun rowid table columns got => FoundBy.of_stores (atEnd rowid table columns got)

end Secrets

/-! ## A legacy row, and a stored hash presented -/

/-- The stored hash of the bearer token t1. -/
def storedHash : String :=
  "sha256:628b49d96dcde97a430dd4f597705899e09a968f793491e4b704cae33a40dc02"

/-- The hash at the two strings of the examples: t1, and its stored hash. -/
def hashOfExamples (token : String) : String :=
  if token = "t1" then storedHash
  else "sha256:083bb58d336e58bcab51640280ede814edcad1ec39eab1097358f61de1a4b89e"

/-- A token of an account, issued as t1 before the hashes, with these columns by now. -/
def accountRow (accessToken : String) (accessTokenHash : Option String) : OAuthAccessToken where
  rowid := 0
  accessToken := accessToken
  accessTokenHash := accessTokenHash
  oauthAppId := 1
  accountId := "alice"
  scopesJson := scopesToJson ["read"]
  expiresAt := none

def applicationRow (column : String) : OAuthAppAccessToken where
  rowid := 0
  accessToken := column
  accessTokenHash := some column
  oauthAppId := 1
  scopesJson := scopesToJson ["read"]
  expiresAt := 3600

def accountState (row : OAuthAccessToken) (lookups : List BearerLookup) : BearerState where
  now := 0
  userTokens := Table.singleton row
  appTokens := Table.empty
  appIds := [1]
  lookups := lookups
  issued := fun _ => "t1"

def applicationState (row : OAuthAppAccessToken) (lookups : List BearerLookup) :
    BearerState where
  now := 0
  userTokens := Table.empty
  appTokens := Table.singleton row
  appIds := [1]
  lookups := lookups
  issued := fun _ => "t1"

theorem rowsStore_account : (accountState (accountRow "t1" none) []).RowsStore hashOfExamples := by
  intro rowid table columns got
  cases table with
  | app => cases got
  | user =>
    obtain ⟨row, held, rfl⟩ := Option.map_eq_some_iff.mp got
    rw [List.mem_singleton.mp (Table.mem_of_find held)]
    exact Or.inr rfl

theorem rowsStore_application :
    (applicationState (applicationRow storedHash) []).RowsStore hashOfExamples := by
  intro rowid table columns got
  cases table with
  | user => cases got
  | app =>
    obtain ⟨row, held, rfl⟩ := Option.map_eq_some_iff.mp got
    rw [List.mem_singleton.mp (Table.mem_of_find held)]
    exact Or.inl rfl

/-- The law at a lookup that finds and rewrites a legacy row. -/
theorem bearers_authenticate_own_rows_legacy :
    ∃ trace, Throughout AuthenticatesIssued trace
      ∧ (accountState (accountRow storedHash (some storedHash)) []).PlaintextsFind hashOfExamples
      ∧ Run (BearerStep hashOfExamples) (accountState (accountRow "t1" none) []) trace
        (accountState (accountRow storedHash (some storedHash)) []) := by
  let row := accountRow "t1" none
  have presented : BearerStep hashOfExamples (accountState row []) (.present .user "t1")
      (accountState row [⟨.user, "t1", .byHash⟩]) :=
    BearerStep.present _ .user "t1"
  have looking : (accountState row [⟨.user, "t1", .byHash⟩]).lookups
      = [] ++ ⟨.user, "t1", .byHash⟩ :: [] := rfl
  have missed : BearerStep hashOfExamples (accountState row [⟨.user, "t1", .byHash⟩])
      (.selectHash ⟨.user, "t1", .byHash⟩ none)
      (accountState row [⟨.user, "t1", .byPlaintext⟩]) :=
    BearerStep.selectHash _ looking rfl rfl
  have lookingOn : (accountState row [⟨.user, "t1", .byPlaintext⟩]).lookups
      = [] ++ ⟨.user, "t1", .byPlaintext⟩ :: [] := rfl
  have got : BearerStep hashOfExamples (accountState row [⟨.user, "t1", .byPlaintext⟩])
      (.selectPlaintext ⟨.user, "t1", .byPlaintext⟩ (some 0))
      (accountState row [⟨.user, "t1", .migrating⟩]) :=
    BearerStep.selectPlaintext _ lookingOn rfl (List.mem_singleton_self 0)
  have rewriting : (accountState row [⟨.user, "t1", .migrating⟩]).lookups
      = [] ++ ⟨.user, "t1", .migrating⟩ :: [] := rfl
  have rewritten : BearerStep hashOfExamples (accountState row [⟨.user, "t1", .migrating⟩])
      (.migrate ⟨.user, "t1", .migrating⟩)
      (accountState (accountRow storedHash (some storedHash)) []) :=
    BearerStep.migrate _ rewriting rfl fun _ => by decide
  have run := (((Run.start.snoc presented).snoc missed).snoc got).snoc rewritten
  obtain ⟨throughout, finds⟩ := bearers_authenticate_own_rows rowsStore_account run (by
    simp only [Along.snoc_iff]
    exact ⟨⟨⟨⟨Along.nil, trivial⟩, rfl, fun _ _ _ _ => rfl⟩, rfl, fun isApp => nomatch isApp⟩,
      fun isApp => nomatch isApp⟩)
  exact ⟨_, throughout, finds, run⟩

/-- **A stored hash authenticates its application row**, and is rewritten so that the
plaintext of the row no longer finds it. -/
theorem stored_hash_authenticates :
    ∃ start finish trace, start.RowsStore hashOfExamples
      ∧ Run (BearerStep hashOfExamples) start trace finish
      ∧ ¬ Throughout AuthenticatesIssued trace ∧ ¬ finish.PlaintextsFind hashOfExamples := by
  let row := applicationRow storedHash
  have presented : BearerStep hashOfExamples (applicationState row []) (.present .app storedHash)
      (applicationState row [⟨.app, storedHash, .byHash⟩]) :=
    BearerStep.present _ .app storedHash
  have looking : (applicationState row [⟨.app, storedHash, .byHash⟩]).lookups
      = [] ++ ⟨.app, storedHash, .byHash⟩ :: [] := rfl
  have missed : BearerStep hashOfExamples (applicationState row [⟨.app, storedHash, .byHash⟩])
      (.selectHash ⟨.app, storedHash, .byHash⟩ none)
      (applicationState row [⟨.app, storedHash, .byPlaintext⟩]) :=
    BearerStep.selectHash _ looking rfl rfl
  have lookingOn : (applicationState row [⟨.app, storedHash, .byPlaintext⟩]).lookups
      = [] ++ ⟨.app, storedHash, .byPlaintext⟩ :: [] := rfl
  have got : BearerStep hashOfExamples (applicationState row [⟨.app, storedHash, .byPlaintext⟩])
      (.selectPlaintext ⟨.app, storedHash, .byPlaintext⟩ (some 0))
      (applicationState row [⟨.app, storedHash, .migrating⟩]) :=
    BearerStep.selectPlaintext _ lookingOn rfl (List.mem_singleton_self 0)
  have rewriting : (applicationState row [⟨.app, storedHash, .migrating⟩]).lookups
      = [] ++ ⟨.app, storedHash, .migrating⟩ :: [] := rfl
  have rewritten : BearerStep hashOfExamples (applicationState row [⟨.app, storedHash, .migrating⟩])
      (.migrate ⟨.app, storedHash, .migrating⟩)
      (applicationState (applicationRow (hashOfExamples storedHash)) []) :=
    BearerStep.migrate _ rewriting rfl fun _ => by decide
  refine ⟨_, _, _, rowsStore_application,
    (((Run.start.snoc presented).snoc missed).snoc got).snoc rewritten, ?_, ?_⟩
  · intro throughout
    simp only [Throughout.snoc_iff] at throughout
    have issuedFor : "t1" = storedHash := throughout.1.2.1
    exact absurd issuedFor (by decide)
  · intro finds
    have isFound := finds 0 .app _ rfl
    have notFound : ¬ FoundBy hashOfExamples "t1"
        (hashOfExamples storedHash, some (hashOfExamples storedHash)) := by
      rintro (byHash | ⟨_, noHash⟩)
      · exact absurd byHash (by decide)
      · cases noHash
    exact notFound isFound

end Cfwdon.OAuth
