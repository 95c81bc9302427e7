import Cfwdon.Library.Lists
import Cfwdon.OAuth.AuthorizationCodes

/-!
# One token per authorization code

An authorization code should yield at most one access token, and the token should
carry what the code was issued with, for a requester that presented the redirect URI
of the code and proved itself.  The second half holds of each redemption by its own
checks.  The first depends on the others: the code is loaded, then the token is
inserted, and only then is the code deleted, so a second request that loads the code
in between redeems it again.

The invariant counts, for each code, the requests that are about to insert a token
together with the tokens inserted.
-/

namespace Cfwdon.OAuth

open Library

section Redemption

variable (s256 : String → String)

/-- The tokens inserted for a code. -/
def GrantState.grantsOf (s : GrantState) (code : String) : List Grant :=
  s.grants.filter fun grant => grant.code == code

/-- A token carries what its code was issued with, and its requester presented the
redirect URI of the code and proved itself. -/
structure Grant.Matches (grant : Grant) (issued : IssuedAuthorizationCode) : Prop where
  code : grant.code = issued.code
  oauthAppId : grant.token.oauthAppId = issued.oauthAppId
  accountId : grant.token.accountId = issued.accountId
  scopes : scopesFromJson grant.token.scopesJson = some issued.scopes
  app : grant.app.id = issued.oauthAppId
  redirectUri : grant.input.redirectUri = issued.redirectUri
  proved : ClientProved s256 issued.codeChallenge issued.codeChallengeMethod grant.app grant.input

/-- Each code has yielded at most one token, and every token matches its code. -/
structure CodesYieldOneToken (s : GrantState) : Prop where
  single : ∀ code, (s.grantsOf code).length ≤ 1
  matching : ∀ grant ∈ s.grants, ∃ issued ∈ s.issuedCodes, grant.Matches s256 issued

def GrantRequest.About (code : String) (request : GrantRequest) : Bool :=
  match request.phase with
  | .accepted _ codeRow => codeRow.code == code
  | _ => false

/-- An identifier is bound as it is. -/
def FitsI32 (id : Int) : Prop :=
  toI32OrMax id = id

/-- A code passes the checks of a request only when no other request is about to insert
a token for it, and none was inserted before.  Identifiers of applications fit the
32-bit bindings. -/
def RedeemsAlone (s : GrantState) : GrantEvent → Prop
  | .loadCode request => ∀ app codeRow, request.phase = .clientFound app →
      s.codes.find request.input.code = some codeRow →
      decideCode s256 s.now codeRow app request.input = .accept →
        (∀ other ∈ s.requests, other.About codeRow.code = false)
          ∧ ∀ grant ∈ s.grants, grant.code ≠ codeRow.code
  | .registerApp app => FitsI32 app.id
  | _ => True

/-! ## The invariant -/

def OAuthAuthorizationCode.Stores (codeRow : OAuthAuthorizationCode)
    (issued : IssuedAuthorizationCode) : Prop :=
  ∃ now, codeRow = issueOauthAuthorizationCode now issued

def GrantRequest.Checked (issuedCodes : List IssuedAuthorizationCode)
    (request : GrantRequest) : Prop :=
  match request.phase with
  | .clientFound app =>
    FitsI32 app.id ∧ clientSecretMatchesApp app request.input.clientSecret = true
  | .accepted app codeRow => FitsI32 app.id ∧ ∃ issued ∈ issuedCodes,
      codeRow.Stores issued ∧ issued.oauthAppId = app.id
        ∧ issued.redirectUri = request.input.redirectUri
        ∧ ClientProved s256 issued.codeChallenge issued.codeChallengeMethod app request.input
  | _ => True

/-- One for a request that is about to insert a token for the code. -/
def GrantRequest.pending (code : String) (request : GrantRequest) : Nat :=
  if request.About code then 1 else 0

/-- Stored codes are issued ones, requests have been checked, tokens match their codes,
and each code has one token inserted or about to be, at most. -/
structure GrantInvariant (s : GrantState) : Prop where
  stored : ∀ code codeRow, s.codes.find code = some codeRow →
    ∃ issued ∈ s.issuedCodes, codeRow.Stores issued
  registered : ∀ clientId app, s.apps.find clientId = some app → FitsI32 app.id
  issuedFit : ∀ issued ∈ s.issuedCodes, FitsI32 issued.oauthAppId
  checked : ∀ request ∈ s.requests, request.Checked s256 s.issuedCodes
  matching : ∀ grant ∈ s.grants, ∃ issued ∈ s.issuedCodes, grant.Matches s256 issued
  single : ∀ code, total (GrantRequest.pending code) s.requests + (s.grantsOf code).length ≤ 1

variable {s256}

theorem GrantInvariant.initial : GrantInvariant s256 GrantState.initial where
  stored := fun _ _ got => by cases got
  registered := fun _ _ got => by cases got
  issuedFit := fun _ mem => by cases mem
  checked := fun _ mem => by cases mem
  matching := fun _ mem => by cases mem
  single := fun _ => Nat.zero_le 1

theorem GrantRequest.Checked.mono {issuedCodes : List IssuedAuthorizationCode}
    {request : GrantRequest} {issued : IssuedAuthorizationCode}
    (checked : request.Checked s256 issuedCodes) :
    request.Checked s256 (issued :: issuedCodes) := by
  unfold GrantRequest.Checked at checked ⊢
  cases phase : request.phase with
  | accepted app codeRow =>
    rw [phase] at checked
    obtain ⟨fits, code, mem, redeemable⟩ := checked
    exact ⟨fits, code, List.mem_cons_of_mem _ mem, redeemable⟩
  | clientFound app =>
    rw [phase] at checked
    exact checked
  | parsed | expired code | issued app codeRow | linked codeRow | deleted codeRow => trivial

section OneStep

variable {hash : String → String} {s s' : GrantState} {event : GrantEvent}
  {request : GrantRequest} {earlier later : List GrantRequest}

theorem GrantInvariant.moves {requests : List GrantRequest} (inv : GrantInvariant s256 s)
    (checked : ∀ request ∈ requests, request.Checked s256 s.issuedCodes)
    (fewer : ∀ code, total (GrantRequest.pending code) requests
      ≤ total (GrantRequest.pending code) s.requests) :
    GrantInvariant s256 { s with requests := requests } where
  stored := inv.stored
  registered := inv.registered
  issuedFit := inv.issuedFit
  checked := checked
  matching := inv.matching
  single := fun code => Nat.le_trans (Nat.add_le_add_right (fewer code) _) (inv.single code)

theorem GrantInvariant.settles {phase : GrantPhase} (inv : GrantInvariant s256 s)
    (runs : s.requests = earlier ++ request :: later)
    (idle : ∀ code, GrantRequest.About code { request with phase := phase } = false)
    (checked : GrantRequest.Checked s256 s.issuedCodes { request with phase := phase }) :
    GrantInvariant s256
      { s with requests := earlier ++ { request with phase := phase } :: later } := by
  refine inv.moves ?_ fun code => ?_
  · intro other mem
    rcases eq_or_mem_of_mem_replaced request mem with rfl | old
    · exact checked
    · exact inv.checked other (runs ▸ old)
  · have nothing : GrantRequest.pending code { request with phase := phase } = 0 := by
      simp [GrantRequest.pending, idle code]
    rw [runs, total_append, total_append, total_cons, total_cons, nothing]
    omega

theorem GrantInvariant.ends (inv : GrantInvariant s256 s)
    (runs : s.requests = earlier ++ request :: later) :
    GrantInvariant s256 { s with requests := earlier ++ later } := by
  refine inv.moves ?_ fun code => ?_
  · exact fun other mem => inv.checked other (runs ▸ mem_of_mem_taken_out mem)
  · rw [runs, total_append, total_append, total_cons]
    omega

theorem GrantInvariant.deletesCode {code : String} (inv : GrantInvariant s256 s) :
    GrantInvariant s256 { s with codes := s.codes.deleteWhere fun row => row.code == code } where
  stored := fun key codeRow got =>
    inv.stored key codeRow (Table.find_of_find_deleteWhere got).1
  registered := inv.registered
  issuedFit := inv.issuedFit
  checked := inv.checked
  matching := inv.matching
  single := inv.single

theorem GrantInvariant.registersApp {app : OAuthApp} (inv : GrantInvariant s256 s)
    (fits : FitsI32 app.id) : GrantInvariant s256 { s with apps := s.apps.insert app } where
  stored := inv.stored
  registered := by
    intro clientId got isFound
    rw [Table.find_insert, Option.or_eq_some_iff] at isFound
    rcases isFound with old | ⟨_, new⟩
    · exact inv.registered clientId got old
    · split at new
      · exact Option.some.inj new ▸ fits
      · cases new
  issuedFit := inv.issuedFit
  checked := inv.checked
  matching := inv.matching
  single := inv.single

theorem GrantInvariant.issuesCode {issued : IssuedAuthorizationCode} {app : OAuthApp}
    {clientId : String} (inv : GrantInvariant s256 s)
    (registered : s.apps.find clientId = some app) (forApp : issued.oauthAppId = app.id) :
    GrantInvariant s256
      { s with
        codes := s.codes.insert (issueOauthAuthorizationCode s.now issued)
        issuedCodes := issued :: s.issuedCodes } where
  stored := by
    intro code codeRow got
    rw [Table.find_insert, Option.or_eq_some_iff] at got
    rcases got with old | ⟨_, new⟩
    · obtain ⟨earlier, mem, stores⟩ := inv.stored code codeRow old
      exact ⟨earlier, List.mem_cons_of_mem _ mem, stores⟩
    · split at new
      · exact ⟨issued, List.mem_cons_self .., s.now, (Option.some.inj new).symm⟩
      · cases new
  registered := inv.registered
  issuedFit := by
    intro other mem
    rcases List.mem_cons.mp mem with rfl | old
    · exact forApp ▸ inv.registered clientId app registered
    · exact inv.issuedFit other old
  checked := fun request mem => (inv.checked request mem).mono
  matching := by
    intro grant mem
    obtain ⟨earlier, among, hit⟩ := inv.matching grant mem
    exact ⟨earlier, List.mem_cons_of_mem _ among, hit⟩
  single := inv.single

/-- **A loaded code** is redeemed alone, if it passes the checks. -/
theorem GrantInvariant.loadsCode {app : OAuthApp} {codeRow : OAuthAuthorizationCode}
    {next : GrantPhase} (inv : GrantInvariant s256 s)
    (runs : s.requests = earlier ++ request :: later)
    (phase : request.phase = .clientFound app)
    (got : s.codes.find request.input.code = some codeRow)
    (decided : request.afterLoad s256 s.now app codeRow = some next)
    (alone : RedeemsAlone s256 s (.loadCode request)) :
    GrantInvariant s256
      { s with requests := earlier ++ { request with phase := next } :: later } := by
  have client : request.Checked s256 s.issuedCodes := by
    apply inv.checked
    simp [runs]
  unfold GrantRequest.Checked at client
  rw [phase] at client
  obtain ⟨fits, secret⟩ := client
  unfold GrantRequest.afterLoad at decided
  cases decision : decideCode s256 s.now codeRow app request.input with
  | reject =>
    rw [decision] at decided
    cases decided
  | expired =>
    rw [decision] at decided
    obtain rfl := Option.some.inj decided
    exact inv.settles runs (fun _ => rfl) trivial
  | accept =>
    rw [decision] at decided
    obtain rfl := Option.some.inj decided
    obtain ⟨isApp, isRedirect, proved⟩ := accepted_of_decideCode secret decision
    obtain ⟨issued, mem, atTime, stores⟩ := inv.stored _ codeRow got
    have isIssuedApp : issued.oauthAppId = app.id := by
      have fitsIssued : toI32OrMax issued.oauthAppId = issued.oauthAppId :=
        inv.issuedFit issued mem
      rw [← isApp, stores, issueOauthAuthorizationCode, fitsIssued]
    obtain ⟨noneAbout, noneGranted⟩ := alone app codeRow phase got decision
    refine ⟨inv.stored, inv.registered, inv.issuedFit, ?_, inv.matching, fun code => ?_⟩
    · intro other among
      rcases eq_or_mem_of_mem_replaced request among with rfl | old
      · refine ⟨fits, issued, mem, ⟨atTime, stores⟩, isIssuedApp, ?_, ?_⟩
        · rw [← isRedirect, stores]
          rfl
        · rw [stores] at proved
          exact proved
      · exact inv.checked other (runs ▸ old)
    · have bound := inv.single code
      have pre : request.pending code = 0 := by
        simp [GrantRequest.pending, GrantRequest.About, phase]
      rw [runs, total_append, total_cons, pre] at bound
      show total _ (earlier ++ _ :: later) + (s.grantsOf code).length ≤ 1
      rw [total_append, total_cons]
      by_cases isCode : codeRow.code = code
      · subst isCode
        have othersIdle : total (GrantRequest.pending codeRow.code) s.requests = 0 :=
          total_eq_zero fun other among => by simp [GrantRequest.pending, noneAbout other among]
        rw [runs, total_append, total_cons] at othersIdle
        have noGrants : s.grantsOf codeRow.code = [] := by
          rw [GrantState.grantsOf, List.filter_eq_nil_iff]
          intro grant granted
          simpa using noneGranted grant granted
        have itself : GrantRequest.pending codeRow.code
            { request with phase := .accepted app codeRow } = 1 := by
          simp [GrantRequest.pending, GrantRequest.About]
        rw [noGrants, itself, List.length_nil]
        omega
      · have itself : GrantRequest.pending code
            { request with phase := .accepted app codeRow } = 0 := by
          simp [GrantRequest.pending, GrantRequest.About, isCode]
        rw [itself]
        omega

/-- **An inserted token** matches the code that was checked. -/
theorem GrantInvariant.issuesToken {app : OAuthApp} {codeRow : OAuthAuthorizationCode}
    {accessToken : String} {rowid : Nat} (inv : GrantInvariant s256 s)
    (runs : s.requests = earlier ++ request :: later)
    (phase : request.phase = .accepted app codeRow) :
    GrantInvariant s256
      { s with
        tokens := s.tokens.insert (issueOauthAccessToken hash rowid accessToken app.id
          codeRow.accountId ((scopesFromJson codeRow.scopesJson).getD []))
        requests := earlier ++ { request with phase := .issued app codeRow } :: later
        grants := ⟨codeRow.code, issueOauthAccessToken hash rowid accessToken app.id
          codeRow.accountId ((scopesFromJson codeRow.scopesJson).getD []), app,
          request.input⟩ :: s.grants } := by
  have checked : request.Checked s256 s.issuedCodes := by
    apply inv.checked
    simp [runs]
  unfold GrantRequest.Checked at checked
  rw [phase] at checked
  obtain ⟨fits, issued, mem, ⟨atTime, stores⟩, isApp, isRedirect, proved⟩ := checked
  refine ⟨inv.stored, inv.registered, inv.issuedFit, ?_, ?_, fun code => ?_⟩
  · intro other among
    rcases eq_or_mem_of_mem_replaced request among with rfl | old
    · trivial
    · exact inv.checked other (runs ▸ old)
  · intro grant among
    rcases List.mem_cons.mp among with rfl | old
    · refine ⟨issued, mem, ?_, ?_, ?_, ?_, isApp.symm, isRedirect.symm, proved⟩
      · rw [stores]
        rfl
      · exact fits.trans isApp.symm
      · rw [stores]
        rfl
      · simp [stores, issueOauthAuthorizationCode, issueOauthAccessToken]
    · exact inv.matching grant old
  · have bound := inv.single code
    rw [runs, total_append, total_cons] at bound
    show total _ (earlier ++ _ :: later) + (List.filter _ (_ :: s.grants)).length ≤ 1
    have nothing : GrantRequest.pending code { request with phase := .issued app codeRow } = 0 := by
      simp [GrantRequest.pending, GrantRequest.About]
    rw [total_append, total_cons, nothing]
    by_cases isCode : codeRow.code = code
    · have count : request.pending code = 1 := by
        simp [GrantRequest.pending, GrantRequest.About, phase, isCode]
      rw [count] at bound
      rw [List.filter_cons_of_pos (by simp [isCode]), List.length_cons]
      unfold GrantState.grantsOf at bound
      omega
    · rw [List.filter_cons_of_neg (by simp [isCode])]
      unfold GrantState.grantsOf at bound
      omega

theorem GrantInvariant.step (inv : GrantInvariant s256 s)
    (alone : RedeemsAlone s256 s event) (step : GrantStep s256 hash s event s') :
    GrantInvariant s256 s' := by
  cases step with
  | registerApp => exact inv.registersApp alone
  | issueCode registered forApp => exact inv.issuesCode registered forApp
  | arrive =>
    refine inv.moves ?_ fun code => ?_
    · intro other mem
      rcases List.mem_cons.mp mem with rfl | old
      · trivial
      · exact inv.checked other old
    · simp [total_cons, GrantRequest.pending, GrantRequest.About]
  | findClient runs phase got secret =>
    exact inv.settles runs (fun _ => rfl) ⟨inv.registered _ _ got, secret⟩
  | loadCode runs phase got decided =>
    exact inv.loadsCode runs phase got decided alone
  | deleteExpired runs => exact inv.deletesCode.ends runs
  | issueToken runs phase => exact inv.issuesToken runs phase
  | linkApp runs => exact inv.settles runs (fun _ => rfl) trivial
  | deleteCode runs => exact inv.deletesCode.settles runs (fun _ => rfl) trivial
  | answer runs | stop runs => exact inv.ends runs
  | tick =>
    exact ⟨inv.stored, inv.registered, inv.issuedFit, inv.checked, inv.matching, inv.single⟩

end OneStep

/-- **One token per code, as issued.**  In every run in which a code passes the checks of
a request only when no other is about to insert a token for it and none was inserted
before, each code yields at most one token, and every token carries the scopes,
application and account of its code, for a requester that presented its redirect URI
and proved itself. -/
theorem one_token_per_code {hash : String → String} {s : GrantState}
    {trace : List (Transition GrantState GrantEvent)} (run : GrantRun s256 hash trace s)
    (alone : Along (RedeemsAlone s256) trace) : CodesYieldOneToken s256 s := by
  have inv : GrantInvariant s256 s :=
    run.invariant GrantInvariant.initial (fun holds cond step => holds.step cond step) alone
  refine ⟨fun code => ?_, inv.matching⟩
  have bound := inv.single code
  omega

end Redemption

/-! ## A redemption with PKCE, and two that overlap -/

/-- `s256` at the verifier of the example. -/
def sampleS256 (_ : String) : String :=
  "iMnq5o6zALKXGivsnlom_0F5_WYda32GHkxlV7mq7hQ"

def sampleHash (accessToken : String) : String :=
  if accessToken = "t1" then
    "sha256:628b49d96dcde97a430dd4f597705899e09a968f793491e4b704cae33a40dc02"
  else
    "sha256:c44474038d459e40e4714afefa7bf8dae9f9834b22f5e8ec1dd434ecb62b512e"

def phoneApp : OAuthApp where
  id := 1
  clientId := "phone"
  clientSecret := "secret"

/-- A code for it, with a PKCE challenge. -/
def phoneCode : IssuedAuthorizationCode where
  code := "c"
  oauthAppId := 1
  accountId := "alice"
  redirectUri := "https://phone.example/cb"
  scopes := ["read", "write"]
  codeChallenge := some (sampleS256 "verifier")
  codeChallengeMethod := some "S256"

/-- The token request of the application, with the verifier. -/
def phoneInput : OAuthAuthorizationCodeTokenInput where
  clientId := "phone"
  clientSecret := none
  code := "c"
  redirectUri := "https://phone.example/cb"
  codeVerifier := some "verifier"

def phoneTokenRequest : OAuthTokenRequest where
  clientId := some "phone"
  clientSecret := none
  redirectUri := some "https://phone.example/cb"
  code := some "c"
  codeVerifier := some "verifier"

def phoneRow : OAuthAuthorizationCode :=
  issueOauthAuthorizationCode 0 phoneCode

/-- The application is registered, the code is issued, and these requests run. -/
def phoneState (requests : List GrantRequest) (tokens : OAuthAccessTokens)
    (grants : List Grant) : GrantState where
  now := 0
  apps := Table.singleton phoneApp
  codes := Table.singleton phoneRow
  tokens := tokens
  requests := requests
  issuedCodes := [phoneCode]
  grants := grants

def phoneRequest (phase : GrantPhase) : GrantRequest where
  input := phoneInput
  phase := phase

def phoneToken (rowid : Nat) (accessToken : String) : OAuthAccessToken :=
  issueOauthAccessToken sampleHash rowid accessToken 1 "alice" ["read", "write"]

/-- A token inserted for the code. -/
def phoneGrant (rowid : Nat) (accessToken : String) : Grant where
  code := "c"
  token := phoneToken rowid accessToken
  app := phoneApp
  input := phoneInput

theorem phoneClientFound_steps (requests : List GrantRequest) :
    GrantStep sampleS256 sampleHash (phoneState requests Table.empty [])
        (.arrive phoneTokenRequest none)
        (phoneState (phoneRequest .parsed :: requests) Table.empty [])
      ∧ GrantStep sampleS256 sampleHash
        (phoneState (phoneRequest .parsed :: requests) Table.empty [])
        (.findClient (phoneRequest .parsed))
        (phoneState (phoneRequest (.clientFound phoneApp) :: requests) Table.empty []) := by
  have parsed : OAuthAuthorizationCodeTokenInput.fromRequest phoneTokenRequest none
      = some phoneInput := by decide
  have runs : (phoneState (phoneRequest .parsed :: requests) Table.empty []).requests
      = [] ++ phoneRequest .parsed :: requests := rfl
  exact ⟨GrantStep.arrive _ parsed, GrantStep.findClient _ runs rfl rfl rfl⟩

theorem phoneLoad_step (requests : List GrantRequest) :
    GrantStep sampleS256 sampleHash
      (phoneState (phoneRequest (.clientFound phoneApp) :: requests) Table.empty [])
      (.loadCode (phoneRequest (.clientFound phoneApp)))
      (phoneState (phoneRequest (.accepted phoneApp phoneRow) :: requests) Table.empty []) := by
  have runs : (phoneState (phoneRequest (.clientFound phoneApp) :: requests) Table.empty
      []).requests = [] ++ phoneRequest (.clientFound phoneApp) :: requests := rfl
  have ok : decideCode sampleS256 0 phoneRow phoneApp phoneInput = .accept := by decide
  have decided : (phoneRequest (.clientFound phoneApp)).afterLoad sampleS256 0 phoneApp phoneRow
      = some (.accepted phoneApp phoneRow) := by
    simp only [GrantRequest.afterLoad, phoneRequest, ok]
  exact GrantStep.loadCode _ runs rfl rfl decided

theorem phoneClientFound_reachable :
    ∃ trace, GrantRun sampleS256 sampleHash trace
        (phoneState [phoneRequest (.clientFound phoneApp)] Table.empty [])
      ∧ Along (RedeemsAlone sampleS256) trace := by
  have registered : GrantStep sampleS256 sampleHash GrantState.initial (.registerApp phoneApp)
      { GrantState.initial with apps := Table.singleton phoneApp } :=
    GrantStep.registerApp _ rfl
  have issued : GrantStep sampleS256 sampleHash
      { GrantState.initial with apps := Table.singleton phoneApp } (.issueCode phoneCode)
      (phoneState [] Table.empty []) := by
    have got : Table.find (Table.singleton phoneApp : OAuthApps) "phone" = some phoneApp := rfl
    exact GrantStep.issueCode _ got rfl fun _ mem => nomatch mem
  obtain ⟨arrived, clientFound⟩ := phoneClientFound_steps []
  refine ⟨_, (((Run.start.snoc registered).snoc issued).snoc arrived).snoc clientFound, ?_⟩
  simp only [Along.snoc_iff]
  exact ⟨⟨⟨⟨Along.nil, toI32OrMax_of_fits (by decide) (by decide)⟩, trivial⟩, trivial⟩, trivial⟩

/-- The law at the run of one redemption. -/
theorem one_token_per_code_phone :
    CodesYieldOneToken sampleS256
      (phoneState [phoneRequest (.issued phoneApp phoneRow)]
        (Table.singleton (phoneToken 0 "t1")) [phoneGrant 0 "t1"]) := by
  obtain ⟨_, run, alone⟩ := phoneClientFound_reachable
  have runs : (phoneState [phoneRequest (.accepted phoneApp phoneRow)] Table.empty []).requests
      = [] ++ phoneRequest (.accepted phoneApp phoneRow) :: [] := rfl
  have issued : GrantStep sampleS256 sampleHash
      (phoneState [phoneRequest (.accepted phoneApp phoneRow)] Table.empty [])
      (.issueToken (phoneRequest (.accepted phoneApp phoneRow)) "t1")
      (phoneState [phoneRequest (.issued phoneApp phoneRow)]
        (Table.singleton (phoneToken 0 "t1")) [phoneGrant 0 "t1"]) :=
    GrantStep.issueToken _ runs rfl rfl
  refine one_token_per_code ((run.snoc (phoneLoad_step [])).snoc issued) ?_
  simp only [Along.snoc_iff]
  refine ⟨⟨alone, fun app codeRow phase got ok => ⟨fun other mem => ?_, ?_⟩⟩, trivial⟩
  · rw [List.mem_singleton.mp mem]
    rfl
  · intro grant mem
    cases mem

/-- **Two overlapping redemptions are given a token each**: the second request loads
the code before the first has deleted it. -/
theorem overlapping_redemptions_issue_two_tokens :
    ¬ ∀ (trace : List (Transition GrantState GrantEvent)) (s : GrantState),
      GrantRun sampleS256 sampleHash trace s → ∀ code, (s.grantsOf code).length ≤ 1 := by
  intro took
  obtain ⟨_, run, _⟩ := phoneClientFound_reachable
  let ok := phoneRequest (.accepted phoneApp phoneRow)
  let issued := phoneRequest (.issued phoneApp phoneRow)
  obtain ⟨arrived, clientFound⟩ := phoneClientFound_steps [ok]
  have both := (((run.snoc (phoneLoad_step [])).snoc arrived).snoc clientFound).snoc
    (phoneLoad_step [ok])
  have runs : (phoneState [ok, ok] Table.empty []).requests = [] ++ ok :: [ok] := rfl
  have first : GrantStep sampleS256 sampleHash (phoneState [ok, ok] Table.empty [])
      (.issueToken ok "t1")
      (phoneState [issued, ok] (Table.singleton (phoneToken 0 "t1")) [phoneGrant 0 "t1"]) :=
    GrantStep.issueToken _ runs rfl rfl
  have other : (phoneState [issued, ok] (Table.singleton (phoneToken 0 "t1"))
      [phoneGrant 0 "t1"]).requests = [issued] ++ ok :: [] := rfl
  have unused : (phoneState [issued, ok] (Table.singleton (phoneToken 0 "t1"))
      [phoneGrant 0 "t1"]).tokens.find 1 = none := rfl
  have second : GrantStep sampleS256 sampleHash
      (phoneState [issued, ok] (Table.singleton (phoneToken 0 "t1")) [phoneGrant 0 "t1"])
      (.issueToken ok "t2") _ :=
    GrantStep.issueToken _ other rfl unused
  exact absurd (took _ _ ((both.snoc first).snoc second) "c") (by decide)

end Cfwdon.OAuth
