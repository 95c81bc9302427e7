import Cfwdon.Library.Run
import Cfwdon.OAuth.AccessTokens

/-!
# Authentication within one isolate

The requests of one isolate share two slots: the Auth0 web session that a request has
refreshed, and a flag that a token was found whose scopes do not cover the request.
Every request resets both when it starts.  An authentication by session takes the user
of the slot if there is one; otherwise it verifies the token of the header or of the
session cookie, and in the end exchanges the refresh cookie, whose session it puts into
the slot.  When the handler is done, a 401 of an API path becomes a 403 if the flag is
set, and the session of the slot is written into the cookies of the response.

`advance` is one turn of a request: what it does between two awaits.  The answers of
the outside (the token tables, the verification of a token, the token endpoint, the
account table) come with the events.
-/

namespace Cfwdon.Auth

open Library OAuth

structure AuthenticatedUser where
  email : String
  roles : List String
  deriving DecidableEq

structure Auth0TokenResponse where
  accessToken : String
  refreshToken : Option String
  expiresIn : Option Int
  deriving DecidableEq

structure PendingAuth0WebSession where
  user : AuthenticatedUser
  accessToken : String
  refreshToken : Option String
  accessMaxAge : Int

/-- `AUTH0_WEB_SESSION` and `OAUTH_SCOPE_DENIED`. -/
structure IsolateSlots where
  webSession : Option PendingAuth0WebSession
  scopeDenied : Bool

def resetAuth0WebSessionState : IsolateSlots where
  webSession := none
  scopeDenied := false

def accessTokenCookieMaxAge (expiresIn : Option Int) : Int :=
  (expiresIn.filter (0 < ·)).getD 3600

/-- The session `refresh_auth0_cookie_session` puts into the slot. -/
def pendingSession (user : AuthenticatedUser) (refreshToken : String)
    (token : Auth0TokenResponse) : PendingAuth0WebSession where
  user := user
  accessToken := token.accessToken
  refreshToken := (token.refreshToken.filter (· ≠ "")).or (some refreshToken)
  accessMaxAge := accessTokenCookieMaxAge token.expiresIn

/-! ## Requests -/

structure AuthConfig where
  auth0Domain : String
  auth0Audience : String
  auth0JwtHeader : String

/-- A request: its headers are stored under lower-case names. -/
structure IncomingRequest where
  method : String
  path : String
  headers : List (String × String)

/-- `Headers::get`. -/
def IncomingRequest.header (request : IncomingRequest) (name : String) : Option String :=
  request.headers.lookup (toAsciiLowercase name)

def parseBearerAuthorizationHeader (value : String) : Option String := do
  let (scheme, token) ← splitOnce (trim value) ' '
  if toAsciiLowercase scheme = "bearer" ∧ trim token ≠ "" then some (trim token) else none

def appBearerTokenFromRequest (request : IncomingRequest) : Option String :=
  (request.header "Authorization").bind parseBearerAuthorizationHeader

/-- The value of one part of a cookie header, if it is the named cookie. -/
def cookieOfPart (name part : String) : Option String := do
  let (cookieName, value) ← splitOnce (trim part) '='
  if cookieName = name ∧ trim value ≠ "" then some (trim value) else none

def requestCookieValue (request : IncomingRequest) (name : String) : Option String :=
  (request.header "Cookie").bind fun cookieHeader =>
    (splitOn cookieHeader ";").findSome? (cookieOfPart name)

def auth0SessionCookie : String := "cfwdon_auth0_access_token"

def auth0RefreshCookie : String := "cfwdon_auth0_refresh_token"

def auth0HeaderValue (config : AuthConfig) (request : IncomingRequest) : Option String :=
  (request.header config.auth0JwtHeader).filter fun value => trim value ≠ ""

def auth0TokenFromRequest (config : AuthConfig) (request : IncomingRequest) : Option String :=
  match auth0HeaderValue config request with
  | some value =>
    if toAsciiLowercase config.auth0JwtHeader = "authorization" then
      parseBearerAuthorizationHeader value
    else some (trim value)
  | none => requestCookieValue request auth0SessionCookie

/-! ## Responses -/

/-- A cookie set by `set_auth0_session_cookies`. -/
structure SessionCookie where
  name : String
  value : String
  maxAge : Int

def auth0WebSessionTtlSeconds : Int := 604800

def setAuth0SessionCookies (session : PendingAuth0WebSession) : List SessionCookie :=
  ⟨auth0SessionCookie, session.accessToken, session.accessMaxAge⟩
    :: ((session.refreshToken.filter (· ≠ "")).map fun refreshToken =>
      ⟨auth0RefreshCookie, refreshToken, auth0WebSessionTtlSeconds⟩).toList

def applyAuth0WebSessionCookies (slots : IsolateSlots) : List SessionCookie :=
  (slots.webSession.map setAuth0SessionCookies).getD []

def isWebsocketUpgradeHeader (upgradeHeader : Option String) : Bool :=
  upgradeHeader.any fun value => toAsciiLowercase (trim value) == "websocket"

def shouldApplyAuth0WebSessionCookies (status : Nat)
    (responseUpgrade requestUpgrade : Option String) : Bool :=
  !(status == 101 || isWebsocketUpgradeHeader responseUpgrade)
    && !isWebsocketUpgradeHeader requestUpgrade

/-- What the router answers, as far as the slots decide it. -/
structure FinishedResponse where
  status : Nat
  scopeError : Bool
  cookies : List SessionCookie

def rewritesToScopeError (slots : IsolateSlots) (status : Nat) (path : String) : Bool :=
  status == 401 && slots.scopeDenied && startsWith path "/api/"

/-- The end of `handle_fetch`, for a handler that answered. -/
def finishResponse (slots : IsolateSlots) (request : IncomingRequest) (status : Nat)
    (responseUpgrade : Option String) : FinishedResponse :=
  if rewritesToScopeError slots status request.path then
    { status := 403
      scopeError := true
      cookies :=
        if shouldApplyAuth0WebSessionCookies 403 none (request.header "Upgrade") then
          applyAuth0WebSessionCookies slots
        else [] }
  else
    { status := status
      scopeError := false
      cookies :=
        if shouldApplyAuth0WebSessionCookies status responseUpgrade (request.header "Upgrade") then
          applyAuth0WebSessionCookies slots
        else [] }

/-! ## Where a request is -/

/-- `LocalApiAuthentication`, with the accounts by id. -/
inductive LocalApiAuthentication where
  | auth0 (accountId : String)
  | oauthToken (accountId : String)
  | appToken
  | invalidBearer
  | none

/-- The result of one authentication. -/
inductive AuthOutcome where
  | user (user : Option AuthenticatedUser)
  | account (account : Option (String × List String))
  | localApi (authentication : LocalApiAuthentication)
  | failed

/-- Which function looks for an account by session:
`find_authenticated_local_account_with_roles`, or `authenticate_local_api_request`
without and with a bearer token. -/
inductive AccountGoal where
  | account
  | localSession
  | localBearer
  deriving DecidableEq

/-- The result without a user, or without an account of the user. -/
def AccountGoal.missing : AccountGoal → AuthOutcome
  | .account => .account none
  | .localSession => .localApi .none
  | .localBearer => .localApi .invalidBearer

def AccountGoal.found (accountId : String) (roles : List String) : AccountGoal → AuthOutcome
  | .account => .account (some (accountId, roles))
  | .localSession => .localApi (.auth0 accountId)
  | .localBearer => .localApi (.auth0 accountId)

def AccountGoal.error : AccountGoal → AuthOutcome
  | .localBearer => .localApi .invalidBearer
  | _ => .failed

/-- What an authentication by session is for. -/
inductive AuthGoal where
  /-- `extract_authenticated_user` itself. -/
  | user
  | account (goal : AccountGoal)
  deriving DecidableEq

def AuthGoal.error : AuthGoal → AuthOutcome
  | .user => .failed
  | .account goal => goal.error

/-- Where a request is: in its handler, or at an await of an authentication. -/
inductive AuthPhase where
  | handling
  /-- `find_oauth_access_token_with_account_by_bearer_token`. -/
  | findingToken
  /-- The lookups of `authenticate_local_api_request`. -/
  | findingBearer
  | verifyingHeader (goal : AuthGoal)
  | verifyingCookie (goal : AuthGoal)
  | exchanging (goal : AuthGoal) (refreshToken : String)
  | verifyingRefreshed (goal : AuthGoal) (refreshToken : String) (token : Auth0TokenResponse)
  | findingAccount (goal : AccountGoal) (user : AuthenticatedUser)
  | finished
  deriving DecidableEq

/-- A running request, with the results of its authentications and its response. -/
structure RequestState where
  request : IncomingRequest
  phase : AuthPhase
  outcomes : List AuthOutcome
  response : Option FinishedResponse

namespace RequestState

/-- An authentication ends. -/
def conclude (r : RequestState) (outcome : AuthOutcome) : RequestState :=
  { r with phase := .handling, outcomes := outcome :: r.outcomes }

/-- `extract_authenticated_user` returned. -/
def gotUser (r : RequestState) : AuthGoal → Option AuthenticatedUser → RequestState
  | .user, user => r.conclude (.user user)
  | .account goal, none => r.conclude goal.missing
  | .account goal, some user => { r with phase := .findingAccount goal user }

/-- `refresh_auth0_cookie_session`, up to the exchange. -/
def refreshAuth0CookieSession (r : RequestState) (goal : AuthGoal) : RequestState :=
  match requestCookieValue r.request auth0RefreshCookie with
  | some refreshToken => { r with phase := .exchanging goal refreshToken }
  | none => r.gotUser goal none

/-- `extract_authenticated_user` without a session in the slot, up to its first await. -/
def extractByToken (config : AuthConfig) (r : RequestState) (goal : AuthGoal) : RequestState :=
  if config.auth0Domain = "" ∨ config.auth0Audience = "" then
    if (auth0TokenFromRequest config r.request).isSome then r.conclude goal.error
    else r.gotUser goal none
  else if (auth0HeaderValue config r.request).isSome then
    if trim ((auth0TokenFromRequest config r.request).getD "") = "" then r.gotUser goal none
    else { r with phase := .verifyingHeader goal }
  else if (requestCookieValue r.request auth0SessionCookie).isSome then
    { r with phase := .verifyingCookie goal }
  else r.refreshAuth0CookieSession goal

/-- `extract_authenticated_user`, up to its first await. -/
def extractAuthenticatedUser (config : AuthConfig) (slots : IsolateSlots) (r : RequestState)
    (goal : AuthGoal) : RequestState :=
  match slots.webSession with
  | some session => r.gotUser goal (some session.user)
  | none => r.extractByToken config goal

end RequestState

/-! ## Turns -/

structure FoundToken where
  accountId : Option String
  scopesJson : Json

/-- `oauth_access_token_has_any_scope_json`. -/
def oauthAccessTokenHasAnyScope (scopesJson : Json) (scopes : List String) : Bool :=
  ((scopesFromJson scopesJson).getD []).any fun scope => scopes.contains scope

/-- What the lookups of `authenticate_local_api_request` found. -/
inductive FoundBearer where
  | userToken (token : FoundToken)
  | appToken
  | nothing

/-- The answer to the verification of a token. -/
inductive JwtAnswer where
  | user (user : AuthenticatedUser)
  /-- `auth0_jwt_is_client_error`. -/
  | clientError
  | error

/-- The function a handler calls. -/
inductive AuthCall where
  | extractAuthenticatedUser
  | findAuthenticatedLocalAccount
  | authenticateLocalApiRequest

/-- What happens to a request: it starts, its handler calls an authentication or returns,
or an await is answered.  An answer of `none` is an error. -/
inductive AuthEvent where
  | start (request : IncomingRequest)
  | authenticate (call : AuthCall)
  | tokenAnswer (found : Option (Option FoundToken))
  | bearerAnswer (found : Option FoundBearer)
  | jwtAnswer (answer : JwtAnswer)
  | exchangeAnswer (token : Option Auth0TokenResponse)
  | accountAnswer (accountId : Option (Option String))
  | finish (status : Nat) (responseUpgrade : Option String)
  | fail

section Turns

variable (config : AuthConfig) (requiredOauthScopes : String → String → List String)

def oauthAccessTokenAllowsRequest (request : IncomingRequest) (token : FoundToken) : Bool :=
  oauthAccessTokenHasAnyScope token.scopesJson (requiredOauthScopes request.method request.path)

def authenticate (slots : IsolateSlots) (r : RequestState) : AuthCall → RequestState
  | .extractAuthenticatedUser => r.extractAuthenticatedUser config slots .user
  | .findAuthenticatedLocalAccount =>
    if (appBearerTokenFromRequest r.request).isSome then { r with phase := .findingToken }
    else r.extractAuthenticatedUser config slots (.account .account)
  | .authenticateLocalApiRequest =>
    if (appBearerTokenFromRequest r.request).isSome then { r with phase := .findingBearer }
    else r.extractAuthenticatedUser config slots (.account .localSession)

/-- The token lookup of `find_authenticated_local_account_with_roles` was answered. -/
def answerToken (slots : IsolateSlots) (r : RequestState) :
    Option (Option FoundToken) → IsolateSlots × RequestState
  | none => (slots, r.conclude .failed)
  | some none => (slots, r.extractAuthenticatedUser config slots (.account .account))
  | some (some token) =>
    if oauthAccessTokenAllowsRequest requiredOauthScopes r.request token then
      (slots, r.conclude (.account (token.accountId.map fun accountId => (accountId, []))))
    else ({ slots with scopeDenied := true }, r.conclude (.account none))

/-- The lookups of `authenticate_local_api_request` were answered. -/
def answerBearer (slots : IsolateSlots) (r : RequestState) : Option FoundBearer → RequestState
  | none => r.conclude .failed
  | some (.userToken token) =>
    match token.accountId with
    | some accountId => r.conclude (.localApi (.oauthToken accountId))
    | none => r.conclude (.localApi .invalidBearer)
  | some .appToken => r.conclude (.localApi .appToken)
  | some .nothing => r.extractAuthenticatedUser config slots (.account .localBearer)

def answerJwt (slots : IsolateSlots) (r : RequestState) (answer : JwtAnswer) :
    IsolateSlots × RequestState :=
  match r.phase, answer with
  | .verifyingHeader goal, .user user => (slots, r.gotUser goal (some user))
  | .verifyingHeader goal, .clientError => (slots, r.gotUser goal none)
  | .verifyingHeader goal, .error => (slots, r.conclude goal.error)
  | .verifyingCookie goal, .user user => (slots, r.gotUser goal (some user))
  | .verifyingCookie goal, .clientError => (slots, r.refreshAuth0CookieSession goal)
  | .verifyingCookie goal, .error => (slots, r.conclude goal.error)
  | .verifyingRefreshed goal refreshToken token, .user user =>
    ({ slots with webSession := some (pendingSession user refreshToken token) },
      r.gotUser goal (some user))
  | .verifyingRefreshed goal _ _, .clientError => (slots, r.gotUser goal none)
  | .verifyingRefreshed goal _ _, .error => (slots, r.conclude goal.error)
  | _, _ => (slots, r)

def answerExchange (r : RequestState) (token : Option Auth0TokenResponse) : RequestState :=
  match r.phase, token with
  | .exchanging goal _, none => r.gotUser goal none
  | .exchanging goal refreshToken, some token =>
    if trim token.accessToken = "" then r.gotUser goal none
    else { r with phase := .verifyingRefreshed goal refreshToken token }
  | _, _ => r

def answerAccount (r : RequestState) (accountId : Option (Option String)) : RequestState :=
  match r.phase, accountId with
  | .findingAccount goal _, none => r.conclude goal.error
  | .findingAccount goal _, some none => r.conclude goal.missing
  | .findingAccount goal user, some (some accountId) =>
    r.conclude (goal.found accountId user.roles)
  | _, _ => r

/-- One turn of a running request.  An event that does not fit its phase does nothing. -/
def advanceRunning (slots : IsolateSlots) (r : RequestState) :
    AuthEvent → IsolateSlots × RequestState
  | .start _ => (slots, r)
  | .authenticate call =>
    if r.phase = .handling then (slots, authenticate config slots r call) else (slots, r)
  | .tokenAnswer found =>
    if r.phase = .findingToken then answerToken config requiredOauthScopes slots r found
    else (slots, r)
  | .bearerAnswer found =>
    if r.phase = .findingBearer then (slots, answerBearer config slots r found) else (slots, r)
  | .jwtAnswer answer => answerJwt slots r answer
  | .exchangeAnswer token => (slots, answerExchange r token)
  | .accountAnswer accountId => (slots, answerAccount r accountId)
  | .finish status responseUpgrade =>
    if r.phase = .handling then
      (slots, { r with
        phase := .finished
        response := some (finishResponse slots r.request status responseUpgrade) })
    else (slots, r)
  | .fail =>
    if r.phase = .handling then
      (slots, { r with phase := .finished, response := some ⟨500, false, []⟩ })
    else (slots, r)

def advance (event : AuthEvent) :
    IsolateSlots × Option RequestState → IsolateSlots × Option RequestState
  | (slots, some r) =>
    let next := advanceRunning config requiredOauthScopes slots r event
    (next.1, some next.2)
  | (slots, none) =>
    match event with
    | .start request => (resetAuth0WebSessionState, some ⟨request, .handling, [], none⟩)
    | _ => (slots, none)

abbrev IsolateState := SharingState Nat IsolateSlots (Option RequestState)

/-- No request yet; the slots may hold what earlier requests left. -/
def IsolateState.initial (slots : IsolateSlots) : IsolateState where
  cell := slots
  own := fun _ => resetAuth0WebSessionState
  locals := fun _ => none

/-- Turns of any requests, in any order. -/
abbrev IsolateRun (slots : IsolateSlots) :=
  Run (SharingState.Step (advance config requiredOauthScopes)) (IsolateState.initial slots)

/-- A request whose turns are the only ones of the isolate. -/
def aloneInIsolate (events : List AuthEvent) : Option RequestState :=
  (SharingState.alone (advance config requiredOauthScopes)
    (resetAuth0WebSessionState, none) events).2

end Turns

end Cfwdon.Auth
