import Cfwdon.Auth.WebSession

/-!
# Requests of one isolate, apart

What a request is authenticated as, the session cookies of its response and the rewriting
of its 401 should depend on its own credentials.  The slots they are read from are shared
by all requests of the isolate: a session that another request has refreshed in between is
taken for the own one, and the start of another request empties both slots.

A turn reads the session slot when it authenticates by session and when it finishes, and
the flag when it finishes with a 401 of an API path; everything else it does is decided by
its own state.
-/

namespace Cfwdon.Auth

open Library

section Isolation

variable (config : AuthConfig) (requiredOauthScopes : String → String → List String)

def readsWebSession (r : RequestState) : AuthEvent → Bool
  | .authenticate .extractAuthenticatedUser => r.phase == .handling
  | .authenticate _ => r.phase == .handling && (appBearerTokenFromRequest r.request).isNone
  | .tokenAnswer (some none) => r.phase == .findingToken
  | .bearerAnswer (some .nothing) => r.phase == .findingBearer
  | .finish _ _ => r.phase == .handling
  | _ => false

/-- The turn reads the flag. -/
def readsScopeDenied (r : RequestState) : AuthEvent → Bool
  | .finish status _ =>
    r.phase == .handling && status == 401 && startsWith r.request.path "/api/"
  | _ => false

/-- A request that reads a slot finds there what it last left there itself. -/
def ReadsOwnSlots (s : IsolateState) (event : Nat × AuthEvent) : Prop :=
  ∀ r, s.locals event.1 = some r →
    (readsWebSession r event.2 = true → s.cell.webSession = (s.own event.1).webSession)
      ∧ (readsScopeDenied r event.2 = true → s.cell.scopeDenied = (s.own event.1).scopeDenied)

/-! ## What a turn takes from the slots -/

section OneTurn

variable {config requiredOauthScopes} {slots own : IsolateSlots} {r : RequestState}

theorem extract_of_same_session (goal : AuthGoal) (eq : slots.webSession = own.webSession) :
    r.extractAuthenticatedUser config slots goal = r.extractAuthenticatedUser config own goal := by
  simp only [RequestState.extractAuthenticatedUser, eq]

theorem finishResponse_of_same (status : Nat) (responseUpgrade : Option String)
    (sameSession : slots.webSession = own.webSession)
    (sameFlag : (status == 401 && startsWith r.request.path "/api/") = true →
      slots.scopeDenied = own.scopeDenied) :
    finishResponse slots r.request status responseUpgrade
      = finishResponse own r.request status responseUpgrade := by
  have sameCookies : applyAuth0WebSessionCookies slots = applyAuth0WebSessionCookies own := by
    simp only [applyAuth0WebSessionCookies, sameSession]
  have sameRewrite : rewritesToScopeError slots status r.request.path
      = rewritesToScopeError own status r.request.path := by
    unfold rewritesToScopeError
    by_cases api : (status == 401 && startsWith r.request.path "/api/") = true
    · rw [sameFlag api]
    · cases is401 : status == 401 <;> simp_all
  simp only [finishResponse, sameCookies, sameRewrite]

/-- **A turn depends on the slots only where it reads them.** -/
theorem advanceRunning_of_reads {ev : AuthEvent}
    (session : readsWebSession r ev = true → slots.webSession = own.webSession)
    (flag : readsScopeDenied r ev = true → slots.scopeDenied = own.scopeDenied) :
    (advanceRunning config requiredOauthScopes slots r ev).2
      = (advanceRunning config requiredOauthScopes own r ev).2 := by
  cases ev with
  | start | exchangeAnswer | accountAnswer => rfl
  | fail =>
    simp only [advanceRunning]
    split <;> rfl
  | authenticate call =>
    simp only [advanceRunning]
    by_cases handling : r.phase = .handling
    · rw [if_pos handling, if_pos handling]
      cases call with
      | extractAuthenticatedUser =>
        exact extract_of_same_session .user (session (by simp [readsWebSession, handling]))
      | findAuthenticatedLocalAccount | authenticateLocalApiRequest =>
        unfold authenticate
        cases bearer : appBearerTokenFromRequest r.request with
        | some token => rfl
        | none =>
          apply extract_of_same_session
          apply session
          simp [readsWebSession, handling, bearer]
    · rw [if_neg handling, if_neg handling]
  | tokenAnswer got =>
    simp only [advanceRunning]
    by_cases finding : r.phase = .findingToken
    · rw [if_pos finding, if_pos finding]
      rcases got with _ | _ | token
      · rfl
      · exact extract_of_same_session _ (session (by simp [readsWebSession, finding]))
      · unfold answerToken
        dsimp only
        split <;> rfl
    · rw [if_neg finding, if_neg finding]
  | bearerAnswer got =>
    simp only [advanceRunning]
    by_cases finding : r.phase = .findingBearer
    · rw [if_pos finding, if_pos finding]
      rcases got with _ | token | _ | _
      · rfl
      · rfl
      · rfl
      · exact extract_of_same_session _ (session (by simp [readsWebSession, finding]))
    · rw [if_neg finding, if_neg finding]
  | jwtAnswer answer =>
    simp only [advanceRunning, answerJwt]
    split <;> rfl
  | finish status responseUpgrade =>
    simp only [advanceRunning]
    by_cases handling : r.phase = .handling
    · rw [if_pos handling, if_pos handling]
      have eq := finishResponse_of_same (r := r) status responseUpgrade
        (session (by simp [readsWebSession, handling]))
        (fun api => flag (by simpa [readsScopeDenied, handling] using api))
      dsimp only
      rw [eq]
    · rw [if_neg handling, if_neg handling]

end OneTurn

theorem agrees_of_readsOwnSlots {s : IsolateState} {event : Nat × AuthEvent}
    (reads : ReadsOwnSlots s event) :
    SharingState.Agrees (advance config requiredOauthScopes) s event := by
  unfold SharingState.Agrees
  cases runs : s.locals event.1 with
  | none =>
    unfold advance
    cases event.2 <;> rfl
  | some r =>
    obtain ⟨session, flag⟩ := reads r runs
    have eq : (advanceRunning config requiredOauthScopes s.cell r event.2).2
        = (advanceRunning config requiredOauthScopes (s.own event.1) r event.2).2 :=
      advanceRunning_of_reads session flag
    simp only [advance, eq]

/-- **Requests stay apart.**  In every run in which each request that reads a slot finds
what it last left there itself, every request has the authentications and the response it
would have alone in the isolate. -/
theorem requests_stay_apart {slots : IsolateSlots}
    {trace : List (Transition IsolateState (Nat × AuthEvent))} {finish : IsolateState}
    (run : IsolateRun config requiredOauthScopes slots trace finish)
    (own : Along ReadsOwnSlots trace) (request : Nat) :
    finish.locals request
      = aloneInIsolate config requiredOauthScopes (SharingState.turnsOf request trace) := by
  have agrees : Along (SharingState.Agrees (advance config requiredOauthScopes)) trace :=
    fun move mem => agrees_of_readsOwnSlots config requiredOauthScopes (own move mem)
  have apart := SharingState.alone_of_agrees run agrees request
  exact congrArg Prod.snd apart

end Isolation

/-! ## Two requests of one isolate -/

/-- A configuration that reads Auth0 tokens from `Authorization`. -/
def tenantConfig : AuthConfig where
  auth0Domain := "tenant.example"
  auth0Audience := "https://social.example"
  auth0JwtHeader := "Authorization"

/-- The scopes that cover a request, where no request of the example has a token. -/
def readScopes (_ _ : String) : List String :=
  ["read"]

def cookieRequest : IncomingRequest where
  method := "GET"
  path := "/home"
  headers := [("cookie", "cfwdon_auth0_refresh_token=r1")]

/-- A request without credentials. -/
def anonymousRequest : IncomingRequest where
  method := "GET"
  path := "/home"
  headers := []

def refreshedToken : Auth0TokenResponse where
  accessToken := "a1"
  refreshToken := some "r2"
  expiresIn := some 300

def aliceUser : AuthenticatedUser where
  email := "alice@social.example"
  roles := []

def turnOf (s : IsolateState) (request : Nat) (event : AuthEvent) : IsolateState :=
  s.step (advance tenantConfig readScopes) (request, event)

/-- The request with the cookie has started and asked for a new token. -/
def exchangingState : IsolateState :=
  turnOf (turnOf (IsolateState.initial resetAuth0WebSessionState) 0 (.start cookieRequest)) 0
    (.authenticate .extractAuthenticatedUser)

/-- Its refreshed session is verified. -/
def refreshedState (s : IsolateState) : IsolateState :=
  turnOf (turnOf s 0 (.exchangeAnswer (some refreshedToken))) 0 (.jwtAnswer (.user aliceUser))

/-- It finishes, and the request without credentials is handled afterwards. -/
def oneByOneState : IsolateState :=
  turnOf (turnOf (turnOf (refreshedState exchangingState) 0 (.finish 200 none)) 1
    (.start anonymousRequest)) 1 (.authenticate .extractAuthenticatedUser)

/-- The law at a run of the two requests one by one. -/
theorem requests_stay_apart_oneByOne :
    ∃ trace, IsolateRun tenantConfig readScopes resetAuth0WebSessionState trace oneByOneState
      ∧ oneByOneState.locals 1
        = aloneInIsolate tenantConfig readScopes (SharingState.turnsOf 1 trace) := by
  have run : ∃ trace, IsolateRun tenantConfig readScopes resetAuth0WebSessionState trace
      oneByOneState ∧ Along ReadsOwnSlots trace := by
    refine ⟨_, ((((((Run.start.snoc rfl).snoc rfl).snoc rfl).snoc rfl).snoc rfl).snoc rfl).snoc
      rfl, ?_⟩
    simp only [Along.snoc_iff]
    -- Only the start of the second request finds a slot that is not its own, and reads none.
    have startsLast : ReadsOwnSlots (turnOf (refreshedState exchangingState) 0 (.finish 200 none))
        (1, .start anonymousRequest) :=
      fun r _ => ⟨fun reads => (nomatch reads), fun reads => (nomatch reads)⟩
    refine ⟨⟨⟨⟨⟨⟨⟨Along.nil, ?_⟩, ?_⟩, ?_⟩, ?_⟩, ?_⟩, startsLast⟩, ?_⟩
    all_goals exact fun r _ => ⟨fun _ => rfl, fun _ => rfl⟩
  obtain ⟨trace, run, own⟩ := run
  exact ⟨trace, run, requests_stay_apart tenantConfig readScopes run own 1⟩

/-- The request without credentials starts first and authenticates after the refresh. -/
def leakedState : IsolateState :=
  turnOf (refreshedState (turnOf exchangingState 1 (.start anonymousRequest))) 1
    (.authenticate .extractAuthenticatedUser)

/-- **A refreshed session leaks** to a request without credentials that authenticates
after the refresh. -/
theorem refreshed_session_leaks :
    ¬ ∀ (config : AuthConfig) (requiredOauthScopes : String → String → List String)
        (slots : IsolateSlots) (trace : List (Transition IsolateState (Nat × AuthEvent)))
        (finish : IsolateState), IsolateRun config requiredOauthScopes slots trace finish →
      ∀ request, finish.locals request
        = aloneInIsolate config requiredOauthScopes (SharingState.turnsOf request trace) := by
  intro took
  have run : ∃ trace, IsolateRun tenantConfig readScopes resetAuth0WebSessionState trace leakedState
      ∧ SharingState.turnsOf 1 trace
        = [.start anonymousRequest, .authenticate .extractAuthenticatedUser] :=
    ⟨_, ((((((Run.start.snoc rfl).snoc rfl).snoc rfl).snoc rfl).snoc rfl).snoc rfl), rfl⟩
  obtain ⟨trace, run, turns⟩ := run
  have eq := took tenantConfig readScopes _ trace leakedState run 1
  rw [turns] at eq
  have shared : leakedState.locals 1
      = some ⟨anonymousRequest, .handling, [.user (some aliceUser)], none⟩ := rfl
  have own : aloneInIsolate tenantConfig readScopes
      [.start anonymousRequest, .authenticate .extractAuthenticatedUser]
        = some ⟨anonymousRequest, .handling, [.user none], none⟩ := rfl
  rw [shared, own] at eq
  simp at eq

end Cfwdon.Auth
