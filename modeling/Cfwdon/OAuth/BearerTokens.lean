import Cfwdon.Library.Run
import Cfwdon.OAuth.AccessTokens

/-!
# Looking bearer tokens up

A presented string is looked up in the tokens of accounts or in those of applications:
first by its hash, then, for rows from before the hashes, in `access_token` itself.  A row
found there is rewritten to the hash of the presented string.  The select and the rewrite
of the account tokens ask for a row without a hash; those of the application tokens do
not.

`BearerStep` has one constructor per statement.  The plaintext each row was issued for is
history.  Which row a select without an order returns is left open.
-/

namespace Cfwdon.OAuth

open Library

/-- `expires_at IS NULL OR expires_at > ?2`, with the clock as it is bound. -/
def userTokenUnexpired (now : Int) (row : OAuthAccessToken) : Bool :=
  row.expiresAt.all fun expiresAt => toI32OrMax now < expiresAt

/-- `find_oauth_access_token_with_account_by_token_hash`. -/
def userTokenByHash (now : Int) (tokenHash : String) (row : OAuthAccessToken) : Bool :=
  row.accessTokenHash == some tokenHash && userTokenUnexpired now row

/-- `find_legacy_oauth_access_token_with_account_by_plaintext`. -/
def userTokenByPlaintext (now : Int) (token : String) (row : OAuthAccessToken) : Bool :=
  row.accessToken == token && userTokenUnexpired now row && row.accessTokenHash.isNone

/-- `migrate_legacy_oauth_access_token_hash`. -/
def migrateUserToken (token tokenHash : String) :
    Update OAuthAccessToken OAuthAccessToken.rowid where
  guard row := row.accessToken == token && row.accessTokenHash.isNone
  set row := { row with accessTokenHash := some tokenHash, accessToken := tokenHash }
  keeps _ := rfl

/-- The joins and the expiry of `find_oauth_app_by_bearer_token`: the application exists. -/
def appTokenUsable (now : Int) (appIds : List Int) (row : OAuthAppAccessToken) : Bool :=
  appIds.contains row.oauthAppId && decide (toI32OrMax now < row.expiresAt)

/-- The hashed path of `find_oauth_app_by_bearer_token`. -/
def appTokenByHash (now : Int) (appIds : List Int) (tokenHash : String)
    (row : OAuthAppAccessToken) : Bool :=
  row.accessTokenHash == some tokenHash && appTokenUsable now appIds row

/-- The legacy path of `find_oauth_app_by_bearer_token`. -/
def appTokenByPlaintext (now : Int) (appIds : List Int) (token : String)
    (row : OAuthAppAccessToken) : Bool :=
  row.accessToken == token && appTokenUsable now appIds row

/-- `migrate_legacy_oauth_app_access_token_hash`. -/
def migrateAppToken (token tokenHash : String) :
    Update OAuthAppAccessToken OAuthAppAccessToken.rowid where
  guard row := row.accessToken == token
  set row := { row with accessTokenHash := some tokenHash, accessToken := tokenHash }
  keeps _ := rfl

/-- `ORDER BY a.id ASC`: the rows of the least application. -/
def firstByApp (rows : List OAuthAppAccessToken) : List OAuthAppAccessToken :=
  rows.filter fun row => rows.all fun other => decide (row.oauthAppId ≤ other.oauthAppId)

/-! ## Lookups -/

/-- The two tables of tokens. -/
inductive TokenTable where
  | user
  | app
  deriving DecidableEq

/-- The next statement of a lookup. -/
inductive LookupPhase where
  | byHash
  | byPlaintext
  | migrating

/-- A running `find_oauth_access_token_with_account_by_bearer_token` or
`find_oauth_app_by_bearer_token`. -/
structure BearerLookup where
  table : TokenTable
  token : String
  phase : LookupPhase

/-- The clock, the tables, the running lookups, and the plaintext issued for each row. -/
structure BearerState where
  now : Int
  userTokens : OAuthAccessTokens
  appTokens : OAuthAppAccessTokens
  appIds : List Int
  lookups : List BearerLookup
  /-- By table and rowid: history. -/
  issued : TokenTable × Nat → String

namespace BearerState

/-- The rows a select by hash may return. -/
def byHash (s : BearerState) (tokenHash : String) : TokenTable → List Nat
  | .user => (s.userTokens.select (userTokenByHash s.now tokenHash)).map OAuthAccessToken.rowid
  | .app => (firstByApp (s.appTokens.select (appTokenByHash s.now s.appIds tokenHash))).map
      OAuthAppAccessToken.rowid

/-- The rows a select by the plaintext may return. -/
def byPlaintext (s : BearerState) (token : String) : TokenTable → List Nat
  | .user => (s.userTokens.select (userTokenByPlaintext s.now token)).map OAuthAccessToken.rowid
  | .app => (firstByApp (s.appTokens.select (appTokenByPlaintext s.now s.appIds token))).map
      OAuthAppAccessToken.rowid

/-- The state after the rewrite of a legacy row. -/
def migrate (s : BearerState) (token tokenHash : String) : TokenTable → BearerState
  | .user => { s with userTokens := (migrateUserToken token tokenHash).run s.userTokens }
  | .app => { s with appTokens := (migrateAppToken token tokenHash).run s.appTokens }

/-- Whether the rewrite reaches a row. -/
def rewrites (s : BearerState) (token tokenHash : String) : TokenTable → Bool
  | .user => s.userTokens.exists? (migrateUserToken token tokenHash).guard
  | .app => s.appTokens.exists? (migrateAppToken token tokenHash).guard

def accessTokens (s : BearerState) : TokenTable → List String
  | .user => s.userTokens.rows.map OAuthAccessToken.accessToken
  | .app => s.appTokens.rows.map OAuthAppAccessToken.accessToken

/-- `access_token` and `access_token_hash` of a row. -/
def columns (s : BearerState) (rowid : Nat) : TokenTable → Option (String × Option String)
  | .user => (s.userTokens.find rowid).map fun row => (row.accessToken, row.accessTokenHash)
  | .app => (s.appTokens.find rowid).map fun row => (row.accessToken, row.accessTokenHash)

/-- A row has not expired. -/
def Unexpired (s : BearerState) (rowid : Nat) : TokenTable → Prop
  | .user => ∃ row, s.userTokens.find rowid = some row
      ∧ ∀ expiresAt, row.expiresAt = some expiresAt → s.now < expiresAt
  | .app => ∃ row, s.appTokens.find rowid = some row ∧ s.now < row.expiresAt

end BearerState

/-! ## Steps -/

inductive BearerEvent where
  | issueUser (rowid : Nat) (accessToken : String)
  | issueApp (rowid : Nat) (accessToken : String)
  | registerApp (id : Int)
  | present (table : TokenTable) (token : String)
  /-- A select by hash; a row found authenticates the presented string. -/
  | selectHash (lookup : BearerLookup) (found : Option Nat)
  /-- A select by plaintext; a row found authenticates it after the rewrite. -/
  | selectPlaintext (lookup : BearerLookup) (found : Option Nat)
  | migrate (lookup : BearerLookup)
  | stop (lookup : BearerLookup)
  | tick (now : Int)

/-- A select returns one of the candidates, or nothing when there is none. -/
def Returns (candidates : List Nat) : Option Nat → Prop
  | some rowid => rowid ∈ candidates
  | none => candidates = []

section Steps

variable (hash : String → String)

/-- One statement.  A row with an `access_token` in use cannot be inserted or written. -/
inductive BearerStep : BearerState → BearerEvent → BearerState → Prop where
  | issueUser (s : BearerState) {rowid : Nat} {accessToken accountId : String}
      {oauthAppId : Int} {scopes : List String} (fresh : s.userTokens.find rowid = none)
      (unused : hash accessToken ∉ s.accessTokens .user) :
      BearerStep s (.issueUser rowid accessToken)
        { s with
          userTokens := s.userTokens.insert
            (issueOauthAccessToken hash rowid accessToken oauthAppId accountId scopes)
          issued := Function.update s.issued (.user, rowid) accessToken }
  | issueApp (s : BearerState) {rowid : Nat} {accessToken : String} {oauthAppId : Int}
      {scopes : List String} (fresh : s.appTokens.find rowid = none)
      (unused : hash accessToken ∉ s.accessTokens .app) :
      BearerStep s (.issueApp rowid accessToken)
        { s with
          appTokens := s.appTokens.insert
            (issueOauthAppAccessToken hash s.now rowid accessToken oauthAppId scopes)
          issued := Function.update s.issued (.app, rowid) accessToken }
  | registerApp (s : BearerState) (id : Int) :
      BearerStep s (.registerApp id) { s with appIds := id :: s.appIds }
  | present (s : BearerState) (table : TokenTable) (token : String) :
      BearerStep s (.present table token) { s with lookups := ⟨table, token, .byHash⟩ :: s.lookups }
  | selectHash (s : BearerState) {lookup : BearerLookup} {found : Option Nat}
      {earlier later : List BearerLookup} (running : s.lookups = earlier ++ lookup :: later)
      (phase : lookup.phase = .byHash)
      (returned : Returns (s.byHash (hash lookup.token) lookup.table) found) :
      BearerStep s (.selectHash lookup found)
        { s with
          lookups :=
            if found.isSome then earlier ++ later
            else earlier ++ { lookup with phase := .byPlaintext } :: later }
  | selectPlaintext (s : BearerState) {lookup : BearerLookup} {found : Option Nat}
      {earlier later : List BearerLookup} (running : s.lookups = earlier ++ lookup :: later)
      (phase : lookup.phase = .byPlaintext)
      (returned : Returns (s.byPlaintext lookup.token lookup.table) found) :
      BearerStep s (.selectPlaintext lookup found)
        { s with
          lookups :=
            if found.isSome then earlier ++ { lookup with phase := .migrating } :: later
            else earlier ++ later }
  | migrate (s : BearerState) {lookup : BearerLookup} {earlier later : List BearerLookup}
      (running : s.lookups = earlier ++ lookup :: later) (phase : lookup.phase = .migrating)
      (unused : s.rewrites lookup.token (hash lookup.token) lookup.table = true →
        hash lookup.token ∉ s.accessTokens lookup.table) :
      BearerStep s (.migrate lookup)
        { s.migrate lookup.token (hash lookup.token) lookup.table with
          lookups := earlier ++ later }
  | stop (s : BearerState) {lookup : BearerLookup} {earlier later : List BearerLookup}
      (running : s.lookups = earlier ++ lookup :: later) :
      BearerStep s (.stop lookup) { s with lookups := earlier ++ later }
  | tick (s : BearerState) {now : Int} (later : s.now ≤ now) :
      BearerStep s (.tick now) { s with now := now }

end Steps

/-! ## What selects return and rewrites write -/

variable {issued : TokenTable × Nat → String} {hash : String → String} {scopes : List String}
  {oauthAppId : Int}

namespace BearerState

variable {s : BearerState} {table : TokenTable} {rowid : Nat} {token tokenHash : String}

theorem columns_of_mem_byHash (bound : toI32OrMax s.now = s.now)
    (gave : rowid ∈ s.byHash tokenHash table) :
    (∃ accessToken, s.columns rowid table = some (accessToken, some tokenHash))
      ∧ s.Unexpired rowid table := by
  cases table with
  | user =>
    obtain ⟨row, selected, rfl⟩ := List.mem_map.mp gave
    obtain ⟨mem, met⟩ := List.mem_filter.mp selected
    have got : s.userTokens.find row.rowid = some row := Table.find_of_mem mem
    simp only [userTokenByHash, userTokenUnexpired, bound, Bool.and_eq_true, beq_iff_eq] at met
    refine ⟨⟨row.accessToken, ?_⟩, row, got, ?_⟩
    · simp [columns, got, met.1]
    · intro expiresAt expires
      simpa [expires] using met.2
  | app =>
    obtain ⟨row, first, rfl⟩ := List.mem_map.mp gave
    obtain ⟨mem, met⟩ := List.mem_filter.mp (List.mem_of_mem_filter first)
    have got : s.appTokens.find row.rowid = some row := Table.find_of_mem mem
    simp only [appTokenByHash, appTokenUsable, bound, Bool.and_eq_true, beq_iff_eq,
      decide_eq_true_eq] at met
    exact ⟨⟨row.accessToken, by simp [columns, got, met.1]⟩, row, got, met.2.2⟩

/-- A row returned by its plaintext has it in `access_token` and is not expired; a token
of an account then has no hash. -/
theorem columns_of_mem_byPlaintext (bound : toI32OrMax s.now = s.now)
    (gave : rowid ∈ s.byPlaintext token table) :
    (∃ held, s.columns rowid table = some (token, held) ∧ (table = .user → held = none))
      ∧ s.Unexpired rowid table := by
  cases table with
  | user =>
    obtain ⟨row, selected, rfl⟩ := List.mem_map.mp gave
    obtain ⟨mem, met⟩ := List.mem_filter.mp selected
    have got : s.userTokens.find row.rowid = some row := Table.find_of_mem mem
    simp only [userTokenByPlaintext, userTokenUnexpired, bound, Bool.and_eq_true, beq_iff_eq,
      Option.isNone_iff_eq_none] at met
    refine ⟨⟨row.accessTokenHash, by simp [columns, got, met.1.1], fun _ => met.2⟩, row, got, ?_⟩
    intro expiresAt expires
    simpa [expires] using met.1.2
  | app =>
    obtain ⟨row, first, rfl⟩ := List.mem_map.mp gave
    obtain ⟨mem, met⟩ := List.mem_filter.mp (List.mem_of_mem_filter first)
    have got : s.appTokens.find row.rowid = some row := Table.find_of_mem mem
    simp only [appTokenByPlaintext, appTokenUsable, bound, Bool.and_eq_true, beq_iff_eq,
      decide_eq_true_eq] at met
    exact ⟨⟨row.accessTokenHash, by simp [columns, got, met.1], fun eq => absurd eq (by decide)⟩,
      row, got, met.2.2⟩

theorem columns_issueUser {accessToken accountId : String}
    (fresh : s.userTokens.find rowid = none) (id : Nat) (table : TokenTable) :
    BearerState.columns
        { s with
          userTokens := s.userTokens.insert
            (issueOauthAccessToken hash rowid accessToken oauthAppId accountId scopes)
          issued := issued } id table
      = if (table, id) = (.user, rowid) then some (hash accessToken, some (hash accessToken))
        else s.columns id table := by
  cases table with
  | app => simp [columns]
  | user =>
    by_cases isRow : rowid = id
    · subst isRow
      simp [columns, Table.find_insert, fresh, issueOauthAccessToken]
    · have other : id ≠ rowid := fun eq => isRow eq.symm
      simp [columns, Table.find_insert, issueOauthAccessToken, isRow, other]

theorem columns_issueApp {accessToken : String}
    (fresh : s.appTokens.find rowid = none) (id : Nat) (table : TokenTable) :
    BearerState.columns
        { s with
          appTokens := s.appTokens.insert
            (issueOauthAppAccessToken hash s.now rowid accessToken oauthAppId scopes)
          issued := issued } id table
      = if (table, id) = (.app, rowid) then some (hash accessToken, some (hash accessToken))
        else s.columns id table := by
  cases table with
  | user => simp [columns]
  | app =>
    by_cases isRow : rowid = id
    · subst isRow
      simp [columns, Table.find_insert, fresh, issueOauthAppAccessToken]
    · have other : id ≠ rowid := fun eq => isRow eq.symm
      simp [columns, Table.find_insert, issueOauthAppAccessToken, isRow, other]

/-- **A rewrite reaches the rows with the string in `access_token`**, and in the table of
accounts only those without a hash. -/
theorem columns_migrate {wrote : TokenTable} {post : String × Option String}
    (got : (s.migrate token tokenHash wrote).columns rowid table = some post) :
    s.columns rowid table = some post
      ∨ ∃ held, table = wrote ∧ s.columns rowid table = some (token, held)
        ∧ (wrote = .user → held = none) ∧ post = (tokenHash, some tokenHash) := by
  cases wrote with
  | user =>
    cases table with
    | app => exact Or.inl got
    | user =>
      simp only [migrate, columns, Table.find_run, Option.map_map, Option.map_eq_some_iff,
        Function.comp_apply] at got
      obtain ⟨row, held, rfl⟩ := got
      by_cases reach : (migrateUserToken token tokenHash).guard row = true
      · have isLegacy := reach
        simp only [migrateUserToken, Bool.and_eq_true, beq_iff_eq,
          Option.isNone_iff_eq_none] at isLegacy
        rw [Update.onRow_of_guard reach]
        have pre : s.columns rowid .user = some (token, none) := by
          simp [columns, held, isLegacy.1, isLegacy.2]
        exact Or.inr ⟨none, rfl, pre, fun _ => rfl, rfl⟩
      · rw [Update.onRow_of_not_guard (by simpa using reach)]
        exact Or.inl (by simp [columns, held])
  | app =>
    cases table with
    | user => exact Or.inl got
    | app =>
      simp only [migrate, columns, Table.find_run, Option.map_map, Option.map_eq_some_iff,
        Function.comp_apply] at got
      obtain ⟨row, held, rfl⟩ := got
      by_cases reach : (migrateAppToken token tokenHash).guard row = true
      · have isToken := reach
        simp only [migrateAppToken, beq_iff_eq] at isToken
        rw [Update.onRow_of_guard reach]
        have pre : s.columns rowid .app = some (token, row.accessTokenHash) := by
          simp [columns, held, isToken]
        exact Or.inr ⟨row.accessTokenHash, rfl, pre, fun eq => absurd eq (by decide), rfl⟩
      · rw [Update.onRow_of_not_guard (by simpa using reach)]
        exact Or.inl (by simp [columns, held])

end BearerState

end Cfwdon.OAuth
