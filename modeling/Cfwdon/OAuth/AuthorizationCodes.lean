import Cfwdon.Library.Run
import Cfwdon.OAuth.AccessTokens

/-!
# Authorization codes and their redemption

The authorization route stores a code with the application, account, redirect URI,
scopes and PKCE challenge it was issued with.  A token request with that code finds
the application by its client id, compares the secret if one is given, loads the code
and checks it: the code belongs to the application and the redirect URI, is not
expired, and the client proves itself by a verifier for the challenge, or by the
secret when there is no challenge.  It then inserts a token, links the application to
the account, and deletes the code.

`GrantStep` has one constructor per statement; the checks run without a statement
between them.  A request stops with an error, or dies, after any of them.  SHA-256
with base64url (`s256`) and the hash of bearer tokens (`hash`) are parameters.
-/

namespace Cfwdon.OAuth

open Library

/-- The columns of a row of `oauth_apps` that a token request reads. -/
structure OAuthApp where
  id : Int
  clientId : String
  clientSecret : String

abbrev OAuthApps := Table OAuthApp OAuthApp.clientId

structure OAuthAuthorizationCode where
  code : String
  oauthAppId : Int
  accountId : String
  redirectUri : String
  scopesJson : Json
  codeChallenge : Option String
  codeChallengeMethod : Option String
  expiresAt : Int

abbrev OAuthAuthorizationCodes := Table OAuthAuthorizationCode OAuthAuthorizationCode.code

structure IssuedAuthorizationCode where
  code : String
  oauthAppId : Int
  accountId : String
  redirectUri : String
  scopes : List String
  codeChallenge : Option String
  codeChallengeMethod : Option String

def authorizationCodeTtlSeconds : Int := 600

def issueOauthAuthorizationCode (now : Int) (issued : IssuedAuthorizationCode) :
    OAuthAuthorizationCode where
  code := issued.code
  oauthAppId := toI32OrMax issued.oauthAppId
  accountId := issued.accountId
  redirectUri := issued.redirectUri
  scopesJson := scopesToJson issued.scopes
  codeChallenge := issued.codeChallenge
  codeChallengeMethod := issued.codeChallengeMethod
  expiresAt := toI32OrMax (now + authorizationCodeTtlSeconds)

/-! ## Token requests -/

/-- The fields of a token request with an authorization code. -/
structure OAuthTokenRequest where
  clientId : Option String
  clientSecret : Option String
  redirectUri : Option String
  code : Option String
  codeVerifier : Option String

def trimmedNonEmpty (value : Option String) : Option String :=
  (value.map trim).filter (· ≠ "")

structure OAuthAuthorizationCodeTokenInput where
  clientId : String
  clientSecret : Option String
  code : String
  redirectUri : String
  codeVerifier : Option String
  deriving DecidableEq

/-- The credentials of the header come first. -/
def OAuthAuthorizationCodeTokenInput.fromRequest (request : OAuthTokenRequest)
    (headerCredentials : Option (String × String)) :
    Option OAuthAuthorizationCodeTokenInput := do
  let clientId ← (headerCredentials.map Prod.fst).or (trimmedNonEmpty request.clientId)
  let code ← trimmedNonEmpty request.code
  let redirectUri ← trimmedNonEmpty request.redirectUri
  return {
    clientId := clientId
    clientSecret := (headerCredentials.map Prod.snd).or (trimmedNonEmpty request.clientSecret)
    code := code
    redirectUri := redirectUri
    codeVerifier := trimmedNonEmpty request.codeVerifier }

/-! ## Checks -/

/-- A missing secret passes. -/
def clientSecretMatchesApp (app : OAuthApp) : Option String → Bool
  | none => true
  | some clientSecret => app.clientSecret == clientSecret

def authorizationCodeMatchesRequest (codeRow : OAuthAuthorizationCode) (app : OAuthApp)
    (redirectUri : String) : Bool :=
  codeRow.oauthAppId == app.id && codeRow.redirectUri == redirectUri

def codeChallengeMethodIsSupported (method : Option String) : Bool :=
  method == some "S256"

section Checks

variable (s256 : String → String)

def pkceCodeChallenge (verifier : String) (method : Option String) : String :=
  if method = some "S256" then s256 verifier else verifier

def pkceVerifierMatches (verifier challenge : String) (method : Option String) : Bool :=
  codeChallengeMethodIsSupported method && pkceCodeChallenge s256 verifier method == challenge

def authorizationCodeAllowsClient (codeRow : OAuthAuthorizationCode)
    (input : OAuthAuthorizationCodeTokenInput) : Bool :=
  match codeRow.codeChallenge with
  | some challenge =>
    input.codeVerifier.any fun verifier =>
      pkceVerifierMatches s256 verifier challenge codeRow.codeChallengeMethod
  | none => input.clientSecret.isSome

/-- What the checks of a loaded code decide. -/
inductive CodeDecision where
  | reject
  | expired
  | accept
  deriving DecidableEq

/-- The checks of `oauth_authorization_code_token_response` once the code is loaded. -/
def decideCode (now : Int) (codeRow : OAuthAuthorizationCode) (app : OAuthApp)
    (input : OAuthAuthorizationCodeTokenInput) : CodeDecision :=
  if !authorizationCodeMatchesRequest codeRow app input.redirectUri then .reject
  else if codeRow.expiresAt < now then .expired
  else if !authorizationCodeAllowsClient s256 codeRow input then .reject
  else .accept

end Checks

/-! ## Steps -/

/-- Where `oauth_authorization_code_token_response` is. -/
inductive GrantPhase where
  | parsed
  | clientFound (app : OAuthApp)
  | expired (code : String)
  | accepted (app : OAuthApp) (codeRow : OAuthAuthorizationCode)
  | issued (app : OAuthApp) (codeRow : OAuthAuthorizationCode)
  | linked (codeRow : OAuthAuthorizationCode)
  | deleted (codeRow : OAuthAuthorizationCode)

/-- A running `oauth_authorization_code_token_response`. -/
structure GrantRequest where
  input : OAuthAuthorizationCodeTokenInput
  phase : GrantPhase

/-- An inserted token, with the code it was issued for and the requester: history. -/
structure Grant where
  code : String
  token : OAuthAccessToken
  app : OAuthApp
  input : OAuthAuthorizationCodeTokenInput

/-- The clock, the tables and the running requests. -/
structure GrantState where
  now : Int
  apps : OAuthApps
  codes : OAuthAuthorizationCodes
  tokens : OAuthAccessTokens
  requests : List GrantRequest
  /-- The codes issued so far: history. -/
  issuedCodes : List IssuedAuthorizationCode
  /-- The tokens inserted for codes so far: history. -/
  grants : List Grant

def GrantState.initial : GrantState where
  now := 0
  apps := Table.empty
  codes := Table.empty
  tokens := Table.empty
  requests := []
  issuedCodes := []
  grants := []

inductive GrantEvent where
  | registerApp (app : OAuthApp)
  | issueCode (issued : IssuedAuthorizationCode)
  | arrive (request : OAuthTokenRequest) (headerCredentials : Option (String × String))
  | findClient (request : GrantRequest)
  | loadCode (request : GrantRequest)
  | deleteExpired (request : GrantRequest)
  | issueToken (request : GrantRequest) (accessToken : String)
  | linkApp (request : GrantRequest)
  | deleteCode (request : GrantRequest)
  | answer (request : GrantRequest)
  | stop (request : GrantRequest)
  | tick (now : Int)

section Steps

variable (s256 hash : String → String)

/-- The phase after a code has been loaded, unless the request is answered at once. -/
def GrantRequest.afterLoad (request : GrantRequest) (now : Int) (app : OAuthApp)
    (codeRow : OAuthAuthorizationCode) : Option GrantPhase :=
  match decideCode s256 now codeRow app request.input with
  | .reject => none
  | .expired => some (.expired codeRow.code)
  | .accept => some (.accepted app codeRow)

/-- One statement of a request, a registration, an issued code, or a tick of the clock.
Codes and rowids are never used twice. -/
inductive GrantStep : GrantState → GrantEvent → GrantState → Prop where
  | registerApp (s : GrantState) {app : OAuthApp} (unused : s.apps.find app.clientId = none) :
      GrantStep s (.registerApp app) { s with apps := s.apps.insert app }
  | issueCode (s : GrantState) {issued : IssuedAuthorizationCode} {app : OAuthApp}
      {clientId : String} (registered : s.apps.find clientId = some app)
      (forApp : issued.oauthAppId = app.id)
      (fresh : ∀ earlier ∈ s.issuedCodes, earlier.code ≠ issued.code) :
      GrantStep s (.issueCode issued)
        { s with
          codes := s.codes.insert (issueOauthAuthorizationCode s.now issued)
          issuedCodes := issued :: s.issuedCodes }
  | arrive (s : GrantState) {request : OAuthTokenRequest}
      {headerCredentials : Option (String × String)} {input : OAuthAuthorizationCodeTokenInput}
      (parsed : OAuthAuthorizationCodeTokenInput.fromRequest request headerCredentials
        = some input) :
      GrantStep s (.arrive request headerCredentials)
        { s with requests := ⟨input, .parsed⟩ :: s.requests }
  | findClient (s : GrantState) {request : GrantRequest} {app : OAuthApp}
      {earlier later : List GrantRequest} (running : s.requests = earlier ++ request :: later)
      (phase : request.phase = .parsed) (found : s.apps.find request.input.clientId = some app)
      (secret : clientSecretMatchesApp app request.input.clientSecret = true) :
      GrantStep s (.findClient request)
        { s with requests := earlier ++ { request with phase := .clientFound app } :: later }
  | loadCode (s : GrantState) {request : GrantRequest} {app : OAuthApp}
      {codeRow : OAuthAuthorizationCode} {next : GrantPhase} {earlier later : List GrantRequest}
      (running : s.requests = earlier ++ request :: later)
      (phase : request.phase = .clientFound app)
      (found : s.codes.find request.input.code = some codeRow)
      (decided : request.afterLoad s256 s.now app codeRow = some next) :
      GrantStep s (.loadCode request)
        { s with requests := earlier ++ { request with phase := next } :: later }
  | deleteExpired (s : GrantState) {request : GrantRequest} {code : String}
      {earlier later : List GrantRequest} (running : s.requests = earlier ++ request :: later)
      (phase : request.phase = .expired code) :
      GrantStep s (.deleteExpired request)
        { s with
          codes := s.codes.deleteWhere fun row => row.code == code
          requests := earlier ++ later }
  | issueToken (s : GrantState) {request : GrantRequest} {app : OAuthApp}
      {codeRow : OAuthAuthorizationCode} {accessToken : String} {rowid : Nat}
      {earlier later : List GrantRequest} (running : s.requests = earlier ++ request :: later)
      (phase : request.phase = .accepted app codeRow) (unused : s.tokens.find rowid = none) :
      GrantStep s (.issueToken request accessToken)
        { s with
          tokens := s.tokens.insert (issueOauthAccessToken hash rowid accessToken app.id
            codeRow.accountId ((scopesFromJson codeRow.scopesJson).getD []))
          requests := earlier ++ { request with phase := .issued app codeRow } :: later
          grants := ⟨codeRow.code, issueOauthAccessToken hash rowid accessToken app.id
            codeRow.accountId ((scopesFromJson codeRow.scopesJson).getD []), app,
            request.input⟩ :: s.grants }
  | linkApp (s : GrantState) {request : GrantRequest} {app : OAuthApp}
      {codeRow : OAuthAuthorizationCode} {earlier later : List GrantRequest}
      (running : s.requests = earlier ++ request :: later)
      (phase : request.phase = .issued app codeRow) :
      GrantStep s (.linkApp request)
        { s with requests := earlier ++ { request with phase := .linked codeRow } :: later }
  | deleteCode (s : GrantState) {request : GrantRequest} {codeRow : OAuthAuthorizationCode}
      {earlier later : List GrantRequest} (running : s.requests = earlier ++ request :: later)
      (phase : request.phase = .linked codeRow) :
      GrantStep s (.deleteCode request)
        { s with
          codes := s.codes.deleteWhere fun row => row.code == codeRow.code
          requests := earlier ++ { request with phase := .deleted codeRow } :: later }
  | answer (s : GrantState) {request : GrantRequest} {codeRow : OAuthAuthorizationCode}
      {earlier later : List GrantRequest} (running : s.requests = earlier ++ request :: later)
      -- With the token, or with an error when the account is gone.
      (phase : request.phase = .deleted codeRow) :
      GrantStep s (.answer request) { s with requests := earlier ++ later }
  | stop (s : GrantState) {request : GrantRequest} {earlier later : List GrantRequest}
      (running : s.requests = earlier ++ request :: later) :
      GrantStep s (.stop request) { s with requests := earlier ++ later }
  | tick (s : GrantState) {now : Int} (later : s.now ≤ now) :
      GrantStep s (.tick now) { s with now := now }

/-- The runs from empty tables. -/
abbrev GrantRun := Run (GrantStep s256 hash) GrantState.initial

end Steps

/-! ## What an accepted code says -/

section Accepted

variable {s256 : String → String} {now : Int} {codeRow : OAuthAuthorizationCode} {app : OAuthApp}
  {input : OAuthAuthorizationCodeTokenInput}

/-- The client proved itself: by a verifier whose S256 challenge is the stored one, or,
for a code without a challenge, by the secret of the application. -/
def ClientProved (s256 : String → String) (codeChallenge codeChallengeMethod : Option String)
    (app : OAuthApp) (input : OAuthAuthorizationCodeTokenInput) : Prop :=
  (∃ verifier, input.codeVerifier = some verifier ∧ codeChallengeMethod = some "S256"
      ∧ codeChallenge = some (s256 verifier))
    ∨ codeChallenge = none ∧ input.clientSecret = some app.clientSecret

theorem clientProved_of_allows (secret : clientSecretMatchesApp app input.clientSecret = true)
    (allows : authorizationCodeAllowsClient s256 codeRow input = true) :
    ClientProved s256 codeRow.codeChallenge codeRow.codeChallengeMethod app input := by
  unfold authorizationCodeAllowsClient at allows
  cases held : codeRow.codeChallenge with
  | some challenge =>
    rw [held] at allows
    cases presented : input.codeVerifier with
    | none => simp [presented] at allows
    | some verifier =>
      simp only [presented, Option.any_some, pkceVerifierMatches,
        codeChallengeMethodIsSupported, Bool.and_eq_true, beq_iff_eq] at allows
      obtain ⟨isS256, isChallenge⟩ := allows
      rw [pkceCodeChallenge, if_pos isS256] at isChallenge
      exact Or.inl ⟨verifier, presented, isS256, by rw [isChallenge]⟩
  | none =>
    rw [held] at allows
    obtain ⟨clientSecret, presented⟩ := Option.isSome_iff_exists.mp allows
    rw [presented] at secret
    have isSecret : app.clientSecret = clientSecret := by simpa [clientSecretMatchesApp] using secret
    exact Or.inr ⟨rfl, by rw [presented, isSecret]⟩

theorem accepted_of_decideCode (secret : clientSecretMatchesApp app input.clientSecret = true)
    (ok : decideCode s256 now codeRow app input = .accept) :
    codeRow.oauthAppId = app.id ∧ codeRow.redirectUri = input.redirectUri
      ∧ ClientProved s256 codeRow.codeChallenge codeRow.codeChallengeMethod app input := by
  unfold decideCode at ok
  split at ok
  · cases ok
  · rename_i isOfRequest
    split at ok
    · cases ok
    · split at ok
      · cases ok
      · rename_i isAllowed
        simp only [authorizationCodeMatchesRequest, Bool.not_eq_true', Bool.and_eq_true,
          Bool.not_eq_false, beq_iff_eq] at isOfRequest
        exact ⟨isOfRequest.1, isOfRequest.2,
          clientProved_of_allows secret (by simpa using isAllowed)⟩

end Accepted

end Cfwdon.OAuth
