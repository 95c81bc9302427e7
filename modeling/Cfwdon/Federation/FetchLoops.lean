import Cfwdon.Federation.UrlGuard
import Cfwdon.Http.Signatures
import Cfwdon.Library.Json

/-!
# The fetch loops

A document is fetched by a loop that asks a URL and follows the redirects it is answered
with, a fixed number of them.  There are two such loops, an anonymous one and one that
signs its requests; they differ in the headers they send.  A walk of a loop goes turn by
turn, and its state says whether it is still looking and where.
-/

namespace Cfwdon.Federation

open Library Http

structure Response where
  status : Nat
  /-- The `Location` header, unless reading it fails. -/
  location : Except String (Option String)
  /-- The `Content-Type` header, unless reading it fails. -/
  contentType : Except String (Option String)
  /-- The text of the body, unless reading it fails. -/
  body : Except String String

/-- The other servers, with the parsers, the clock and the keys. -/
structure Internet extends Surroundings where
  parser : UrlParser
  rules : HeaderRules
  /-- `serde_json::from_str`. -/
  fromStr : String → Except String Json
  /-- `now_http_date_string`. -/
  nowHttpDate : Nat → Except String String
  /-- Signing with the key of an account. -/
  signWith : Nat → Except String (String → List UInt8)
  /-- The answer to a numbered request, unless it was not sent. -/
  send : Nat → String → Headers → Except String Response

variable (internet : Internet)

/-! ## One turn -/

/-- A loop: how many redirects it follows, its texts, and the headers it sends. -/
structure FetchLoop where
  maxRedirects : Nat
  exceededText : String
  missingLocationText : String
  failedText : String
  headersFor : Url → GuardState → Attempt GuardState String Headers
  /-- Making the headers asks no URL. -/
  asksNothing : ∀ url s, (headersFor url s).1.log = s.log

def sendRequest (current : Url) (headers : Headers) (s : GuardState) :
    Attempt GuardState String Response :=
  (s.advanced.noting (.requested current headers), internet.send s.next current.text headers)

/-- `remote_fetch_json_body_snippet`, with `REMOTE_FETCH_JSON_BODY_SNIPPET_LIMIT`. -/
def remoteFetchJsonBodySnippet (body : String) : String :=
  String.ofList ((body.toList.map fun c =>
    if c = '\n' ∨ c = '\r' ∨ c = '\t' then ' ' else c).take 200)

def parseRemoteFetchJsonBody (url : String) (status : Nat) (contentType : Option String)
    (body : String) : Except String Json :=
  match internet.fromStr body with
  | .ok value => .ok value
  | .error error =>
    .error ("failed to parse remote JSON from " ++ url ++ ": HTTP " ++ toString status
      ++ ", content-type=" ++ contentType.getD "<missing>" ++ ", parse_error=" ++ error
      ++ ", body=" ++ remoteFetchJsonBodySnippet body)

def parseRemoteHttpJsonResponse (response : Response) (url : String) : Except String Json := do
  let contentType ← response.contentType
  let body ← response.body
  parseRemoteFetchJsonBody internet url response.status contentType body

/-- The URL a redirect leads to, or why it is not followed. -/
def FetchLoop.redirectTarget (loop : FetchLoop) (current : Url) (response : Response) :
    Except String Url :=
  match response.location with
  | .error error => .error error
  | .ok none => .error (loop.missingLocationText ++ current.text)
  | .ok (some location) => resolveRemoteRedirectLocation internet.parser current location

/-- Go on to where a redirect leads, if the URL is accepted. -/
def FetchLoop.followRedirect (loop : FetchLoop) (current : Url) (response : Response)
    (s : GuardState) : Attempt GuardState String (Url ⊕ Json) :=
  match loop.redirectTarget internet current response with
  | .error error => (s, .error error)
  | .ok next =>
    let (s', answer) := validateRemoteFetchUrl internet.toSurroundings next s
    (s', answer.map fun _ => .inl next)

/-- The body of the loop: ask the current URL, and find where to go on or a document. -/
def FetchLoop.turnBody (loop : FetchLoop) (url : String) (redirectCount : Nat) (current : Url)
    (s : GuardState) : Attempt GuardState String (Url ⊕ Json) :=
  (loop.headersFor current s).andThen fun s headers =>
    (sendRequest internet current headers s).andThen fun s response =>
      if 300 ≤ response.status ∧ response.status < 400 then
        if redirectCount = loop.maxRedirects then (s, .error (loop.exceededText ++ url))
        else loop.followRedirect internet current response s
      else if response.status / 100 ≠ 2 then
        (s, .error (loop.failedText ++ current.text ++ ": HTTP " ++ toString response.status))
      else (s, (parseRemoteHttpJsonResponse internet response current.text).map .inr)

/-! ## The walk -/

/-- Where a walk is: it is about to ask a URL, after so many redirects, or it has ended. -/
inductive Position where
  | looking (redirectCount : Nat) (current : Url)
  | ended (outcome : Except String Json)

/-- What precedes the loop: the starting URL is parsed and checked. -/
def startFetch (url : String) (s : GuardState) : Position × GuardState :=
  match parseRemoteHttpUrl internet.parser url with
  | .error error => (.ended (.error error), s)
  | .ok parsed =>
    match validateRemoteFetchUrl internet.toSurroundings parsed s with
    | (s', .ok ()) => (.looking 0 parsed, s')
    | (s', .error error) => (.ended (.error error), s')

/-- One turn of a walk.  The loop ends by itself once the redirects are counted out. -/
def FetchLoop.turn (loop : FetchLoop) (url : String) : Position × GuardState → Position × GuardState
  | (.ended outcome, s) => (.ended outcome, s)
  | (.looking redirectCount current, s) =>
    if loop.maxRedirects < redirectCount then (.ended (.error (loop.exceededText ++ url)), s)
    else
      match loop.turnBody internet url redirectCount current s with
      | (s', .ok (.inl next)) => (.looking (redirectCount + 1) next, s')
      | (s', .ok (.inr document)) => (.ended (.ok document), s')
      | (s', .error error) => (.ended (.error error), s')

/-- The walk of a loop from a starting URL, after a number of turns. -/
def FetchLoop.walk (loop : FetchLoop) (url : String) (s : GuardState) : Nat → Position × GuardState
  | 0 => startFetch internet url s
  | turns + 1 => loop.turn internet url (loop.walk url s turns)

/-! ## The loops -/

def headersIn (headers : Except String Headers) (s : GuardState) :
    Attempt GuardState String Headers :=
  (s, headers)

/-- The loop of `fetch_remote_http_json`, with `MAX_REMOTE_FETCH_REDIRECTS`. -/
def remoteHttpJsonLoop (accept : String) : FetchLoop where
  maxRedirects := 5
  exceededText := "remote fetch exceeded redirect limit for "
  missingLocationText := "remote fetch redirect missing Location header for "
  failedText := "failed to fetch remote document "
  headersFor := fun _ => headersIn (setHeaders internet.rules
    [("Accept", accept), ("User-Agent", "cfwdon (https://github.com/manji-0/cfwdon)")] [])
  asksNothing := fun _ _ => rfl

/-- The headers of a signed request, with the date and the signature of the moment. -/
def signedHeaders (keyId instanceDomain : String) (current : Url) (s : GuardState) :
    Attempt GuardState String Headers :=
  (s.advanced.advanced,
    match parseHttpUrlParts internet.parser current.text, internet.nowHttpDate s.next,
      internet.signWith s.advanced.next with
    | .error error, _, _ => .error error
    | .ok _, .error error, _ => .error error
    | .ok _, .ok _, .error error => .error error
    | .ok _, .ok date, .ok signature =>
      (signedGetRequest internet.rules internet.parser ⟨keyId, signature⟩ instanceDomain date
        current).map SignedRequest.headers)

/-- The loop of `fetch_signed_activitypub_document`, with
`MAX_SIGNED_REMOTE_FETCH_REDIRECTS`. -/
def signedActivitypubLoop (keyId instanceDomain : String) : FetchLoop where
  maxRedirects := 5
  exceededText := "signed remote fetch exceeded redirect limit for "
  missingLocationText := "signed remote fetch redirect missing Location header for "
  failedText := "failed to fetch signed remote document "
  headersFor := signedHeaders internet keyId instanceDomain
  asksNothing := fun _ _ => rfl

/-! ## What was asked -/

/-- Every URL asked was accepted before. -/
def RequestsAccepted (log : List FetchEvent) : Prop :=
  ∀ earlier url headers later, log = earlier ++ .requested url headers :: later →
    .checked url true ∈ earlier

def FetchEvent.isRequest : FetchEvent → Bool
  | .requested _ _ => true
  | .checked _ _ => false

def requestCount (log : List FetchEvent) : Nat := log.countP FetchEvent.isRequest

theorem RequestsAccepted.nil : RequestsAccepted [] := by
  intro prior url headers later split
  cases prior <;> cases split

variable {log : List FetchEvent} {url : Url}

theorem RequestsAccepted.checked (ok : RequestsAccepted log)
    (url : Url) (answer : Bool) : RequestsAccepted (log ++ [.checked url answer]) := by
  intro prior asked headers later split
  rcases List.eq_nil_or_concat later with rfl | ⟨front, last, rfl⟩
  · have lasts := congrArg List.getLast? split
    simp at lasts
  · rw [List.concat_eq_append, ← List.cons_append, ← List.append_assoc] at split
    exact ok prior asked headers front (List.append_inj' split rfl).1

/-- A URL that was accepted may be asked. -/
theorem RequestsAccepted.requested (ok : RequestsAccepted log)
    (headers : Headers) (checked : .checked url true ∈ log) :
    RequestsAccepted (log ++ [.requested url headers]) := by
  intro prior asked sent later split
  rcases List.eq_nil_or_concat later with rfl | ⟨front, last, rfl⟩
  · obtain ⟨eq, req⟩ := List.append_inj' split rfl
    cases req
    exact eq ▸ checked
  · rw [List.concat_eq_append, ← List.cons_append, ← List.append_assoc] at split
    exact ok prior asked sent front (List.append_inj' split rfl).1

@[simp] theorem requestCount_checked (log : List FetchEvent) (url : Url) (answer : Bool) :
    requestCount (log ++ [.checked url answer]) = requestCount log := by
  simp [requestCount, FetchEvent.isRequest]

@[simp] theorem requestCount_requested (log : List FetchEvent) (url : Url) (headers : Headers) :
    requestCount (log ++ [.requested url headers]) = requestCount log + 1 := by
  simp [requestCount, FetchEvent.isRequest]

/-! ## The invariant of a walk -/

/-- What an accepted URL has passed. -/
def Url.Vetted (url : Url) : Prop :=
  url.isHttp = true ∧ url.hasUserinfo = false ∧ ∃ host, url.host = some host ∧ HostAllowed host

theorem vetted_of_accepted {surroundings : Surroundings} {url : Url} {s : GuardState}
    (accepted : (validateRemoteFetchUrl surroundings url s).2.isOk = true) : url.Vetted := by
  cases ans : (validateRemoteFetchUrl surroundings url s).2 with
  | error error =>
    rw [ans] at accepted
    cases accepted
  | ok _ => exact validateUrl_accepts surroundings ans

/-- What a walk has done: it asked accepted URLs only, one for each redirect it counts,
and the URL it is about to ask was accepted. -/
structure FetchLoop.Progress (loop : FetchLoop) (done : List FetchEvent) (position : Position) :
    Prop where
  accepted : RequestsAccepted done
  vetted : ∀ {url : Url}, .checked url true ∈ done → url.Vetted
  counted : requestCount done ≤ loop.maxRedirects + 1
  looking : ∀ {redirectCount : Nat} {current : Url}, position = .looking redirectCount current →
    .checked current true ∈ done ∧ requestCount done = redirectCount
      ∧ redirectCount ≤ loop.maxRedirects

variable {done : List FetchEvent} {loop : FetchLoop}

theorem FetchLoop.Progress.ends {pos : Position} (progress : loop.Progress done pos)
    (out : Except String Json) : loop.Progress done (.ended out) :=
  ⟨progress.accepted, progress.vetted, progress.counted, fun bad => by cases bad⟩

theorem FetchLoop.Progress.asks {redirectCount : Nat} {cur : Url}
    (progress : loop.Progress done (.looking redirectCount cur)) (headers : Headers)
    (out : Except String Json) :
    loop.Progress (done ++ [.requested cur headers]) (.ended out) := by
  obtain ⟨checked, counts, inRange⟩ := progress.looking rfl
  refine ⟨progress.accepted.requested headers checked, ?_, by rw [requestCount_requested]; omega,
    fun bad => by cases bad⟩
  intro url mem
  rcases List.mem_append.mp mem with old | new
  · exact progress.vetted old
  · cases List.mem_singleton.mp new

theorem FetchLoop.Progress.checks {out : Except String Json}
    (progress : loop.Progress done (.ended out)) {answer : Bool}
    (sound : answer = true → url.Vetted) :
    loop.Progress (done ++ [.checked url answer]) (.ended out) := by
  refine ⟨progress.accepted.checked url answer, ?_,
    by rw [requestCount_checked]; exact progress.counted, fun bad => by cases bad⟩
  intro checked mem
  rcases List.mem_append.mp mem with old | new
  · exact progress.vetted old
  · cases List.mem_singleton.mp new
    exact sound rfl

theorem followRedirect_cases (loop : FetchLoop) (cur : Url) (resp : Response)
    (s : GuardState) :
    ((loop.followRedirect internet cur resp s).1.log = s.log
        ∧ ∃ error, (loop.followRedirect internet cur resp s).2 = .error error)
      ∨ ∃ next, ∃ accepted : Bool,
        (loop.followRedirect internet cur resp s).1.log = s.log ++ [.checked next accepted]
          ∧ (accepted = true → next.Vetted)
          ∧ ((∃ error, (loop.followRedirect internet cur resp s).2 = .error error)
            ∨ (accepted = true
              ∧ (loop.followRedirect internet cur resp s).2 = .ok (.inl next))) := by
  unfold FetchLoop.followRedirect
  cases loop.redirectTarget internet cur resp with
  | error error => exact Or.inl ⟨rfl, error, rfl⟩
  | ok next =>
    have noted := log_validateUrl internet.toSurroundings next s
    have sound := @vetted_of_accepted internet.toSurroundings next s
    dsimp only
    generalize validateRemoteFetchUrl internet.toSurroundings next s = checked at noted sound ⊢
    obtain ⟨s', answer⟩ := checked
    refine Or.inr ⟨next, answer.isOk, noted, sound, ?_⟩
    cases answer with
    | error error => exact Or.inl ⟨error, rfl⟩
    | ok _ => exact Or.inr ⟨rfl, rfl⟩

/-- **What one turn notes, and how it ends.**  It asks nothing, or the current URL; and it
goes on only to a URL it has checked, before the redirects are counted out. -/
theorem turnBody_cases (loop : FetchLoop) (url : String) (redirectCount : Nat) (cur : Url)
    (s : GuardState) :
    ((loop.turnBody internet url redirectCount cur s).1.log = s.log
        ∧ ∃ error, (loop.turnBody internet url redirectCount cur s).2 = .error error)
      ∨ ∃ headers,
        ((loop.turnBody internet url redirectCount cur s).1.log = s.log ++ [.requested cur headers]
          ∧ ∀ next, (loop.turnBody internet url redirectCount cur s).2 ≠ .ok (.inl next))
        ∨ ∃ next, ∃ accepted : Bool,
          (loop.turnBody internet url redirectCount cur s).1.log
              = s.log ++ [.requested cur headers] ++ [.checked next accepted]
            ∧ (accepted = true → next.Vetted)
            ∧ ((∃ error, (loop.turnBody internet url redirectCount cur s).2 = .error error)
              ∨ (accepted = true ∧ redirectCount ≠ loop.maxRedirects
                ∧ (loop.turnBody internet url redirectCount cur s).2 = .ok (.inl next))) := by
  unfold FetchLoop.turnBody
  have unasked := loop.asksNothing cur s
  generalize loop.headersFor cur s = made at unasked ⊢
  obtain ⟨s₁, headers | headers⟩ := made
  · exact Or.inl ⟨unasked, headers, rfl⟩
  · refine Or.inr ⟨headers, ?_⟩
    rw [Attempt.andThen_ok, ← unasked]
    unfold sendRequest
    cases internet.send s₁.next cur.text headers with
    | error error =>
      rw [Attempt.andThen_error]
      exact Or.inl ⟨rfl, fun next bad => by cases bad⟩
    | ok resp =>
      rw [Attempt.andThen_ok]
      split_ifs with isRedirect countedOut failed
      · exact Or.inl ⟨rfl, fun next bad => by cases bad⟩
      · rcases followRedirect_cases internet loop cur resp
            (s₁.advanced.noting (.requested cur headers)) with
          ⟨noted, error, stopped⟩ | ⟨next, accepted, noted, sound, out⟩
        · exact Or.inl ⟨noted, fun next went => by rw [stopped] at went; cases went⟩
        · refine Or.inr ⟨next, accepted, noted, sound, ?_⟩
          rcases out with stopped | ⟨isAccepted, went⟩
          · exact Or.inl stopped
          · exact Or.inr ⟨isAccepted, countedOut, went⟩
      · exact Or.inl ⟨rfl, fun next bad => by cases bad⟩
      · refine Or.inl ⟨rfl, fun next went => ?_⟩
        generalize parseRemoteHttpJsonResponse internet resp cur.text = parsed at went
        cases parsed <;> cases went

theorem startFetch_progress (loop : FetchLoop) (url : String) (s : GuardState) :
    ∃ done, (startFetch internet url s).2.log = s.log ++ done
      ∧ loop.Progress done (startFetch internet url s).1 := by
  unfold startFetch
  cases parseRemoteHttpUrl internet.parser url with
  | error error =>
    refine ⟨[], (List.append_nil _).symm, RequestsAccepted.nil, ?_, Nat.zero_le _, ?_⟩
    · intro url mem
      cases mem
    · intro redirectCount cur bad
      cases bad
  | ok parsed =>
    have noted := log_validateUrl internet.toSurroundings parsed s
    have sound := @vetted_of_accepted internet.toSurroundings parsed s
    dsimp only
    generalize validateRemoteFetchUrl internet.toSurroundings parsed s = checked at noted sound ⊢
    obtain ⟨s', error | _⟩ := checked
    · refine ⟨_, noted, RequestsAccepted.nil.checked parsed false, ?_,
        by simp [requestCount, FetchEvent.isRequest], fun bad => by cases bad⟩
      intro url mem
      cases List.mem_singleton.mp mem
    · refine ⟨_, noted, RequestsAccepted.nil.checked parsed true, ?_,
        by simp [requestCount, FetchEvent.isRequest], ?_⟩
      · intro url mem
        cases List.mem_singleton.mp mem
        exact sound rfl
      intro redirectCount cur reach
      cases reach
      exact ⟨List.mem_singleton.mpr rfl, by simp [requestCount, FetchEvent.isRequest],
        Nat.zero_le _⟩

theorem FetchLoop.Progress.turn {pos : Position} (progress : loop.Progress done pos)
    (url : String) (s : GuardState) :
    ∃ more, (loop.turn internet url (pos, s)).2.log = s.log ++ more
      ∧ loop.Progress (done ++ more) (loop.turn internet url (pos, s)).1 := by
  cases pos with
  | ended out =>
    exact ⟨[], (List.append_nil _).symm, by rw [List.append_nil]; exact progress⟩
  | looking redirectCount cur =>
    obtain ⟨checked, counts, inRange⟩ := progress.looking rfl
    have turned := turnBody_cases internet loop url redirectCount cur s
    simp only [FetchLoop.turn, if_neg (Nat.not_lt.mpr inRange)]
    generalize loop.turnBody internet url redirectCount cur s = made at turned ⊢
    obtain ⟨s', answer⟩ := made
    rcases turned with ⟨noted, error, stopped⟩ | ⟨headers, ⟨noted, ends⟩ | ⟨next, ans,
      noted, sound, out⟩⟩
    · cases stopped
      refine ⟨[], by rw [noted, List.append_nil], ?_⟩
      rw [List.append_nil]
      exact progress.ends (.error error)
    · rcases answer with error | further | doc
      · exact ⟨_, noted, progress.asks headers _⟩
      · exact absurd rfl (ends further)
      · exact ⟨_, noted, progress.asks headers _⟩
    · rw [List.append_assoc] at noted
      rcases out with ⟨error, stopped⟩ | ⟨rfl, notLast, followed⟩
      · cases stopped
        refine ⟨_, noted, ?_⟩
        rw [← List.append_assoc]
        exact (progress.asks headers _).checks sound
      · cases followed
        refine ⟨_, noted, ?_⟩
        rw [← List.append_assoc]
        have went := (progress.asks headers (.error "")).checks sound
        refine ⟨went.accepted, went.vetted, went.counted, ?_⟩
        intro count asking reach
        cases reach
        exact ⟨by simp, by rw [requestCount_checked, requestCount_requested, counts], by omega⟩

theorem walk_progress (loop : FetchLoop) (url : String) (s : GuardState) (turns : Nat) :
    ∃ done, (loop.walk internet url s turns).2.log = s.log ++ done
      ∧ loop.Progress done (loop.walk internet url s turns).1 := by
  induction turns with
  | zero => exact startFetch_progress internet loop url s
  | succ turns ih =>
    obtain ⟨done, noted, progress⟩ := ih
    rw [FetchLoop.walk]
    obtain ⟨more, turned, further⟩ :=
      progress.turn internet url (loop.walk internet url s turns).2
    exact ⟨done ++ more, by rw [turned, noted, List.append_assoc], further⟩

theorem looking_walk (loop : FetchLoop) (url : String) (s : GuardState) (turns : Nat) :
    ∀ {redirectCount : Nat} {cur : Url},
      (loop.walk internet url s turns).1 = .looking redirectCount cur →
      redirectCount = turns := by
  induction turns with
  | zero =>
    intro redirectCount cur reach
    rw [FetchLoop.walk, startFetch] at reach
    split at reach
    · cases reach
    · split at reach <;> cases reach
      rfl
  | succ turns ih =>
    intro redirectCount cur reach
    rw [FetchLoop.walk] at reach
    generalize pre : loop.walk internet url s turns = walked at reach ih
    obtain ⟨pos, s'⟩ := walked
    cases pos with
    | ended out => cases reach
    | looking count asked =>
      rw [FetchLoop.turn] at reach
      split_ifs at reach
      have eq := ih rfl
      split at reach <;> cases reach
      rw [eq]

/-- What a walk guarantees: every URL it asked was accepted before, it asked no more URLs
than it follows redirects and one, and it has ended once it had a turn for each. -/
def FetchLoop.Guarded (loop : FetchLoop) (url : String) (s : GuardState) : Prop :=
  ∀ turns, ∃ done, (loop.walk internet url s turns).2.log = s.log ++ done
    ∧ RequestsAccepted done
    ∧ requestCount done ≤ loop.maxRedirects + 1
    ∧ (loop.maxRedirects < turns → ∃ outcome, (loop.walk internet url s turns).1 = .ended outcome)

/-- **Every URL a loop asks was accepted before, it asks no more than it may, and it
ends.** -/
theorem walk_guarded (loop : FetchLoop) (url : String) (s : GuardState) :
    loop.Guarded internet url s := by
  intro turns
  obtain ⟨done, noted, progress⟩ := walk_progress internet loop url s turns
  refine ⟨done, noted, progress.accepted, progress.counted, ?_⟩
  intro enough
  cases reach : (loop.walk internet url s turns).1 with
  | ended out => exact ⟨out, rfl⟩
  | looking redirectCount cur =>
    have count := looking_walk internet loop url s turns reach
    have inRange := (progress.looking reach).2.2
    omega

/-- **A URL asked is one of http or https, without user information, and its host is
allowed.** -/
theorem requested_vetted (loop : FetchLoop) (url : String) (s : GuardState) (turns : Nat) :
    ∃ done, (loop.walk internet url s turns).2.log = s.log ++ done
      ∧ ∀ asked headers, .requested asked headers ∈ done → asked.Vetted := by
  obtain ⟨done, noted, progress⟩ := walk_progress internet loop url s turns
  refine ⟨done, noted, ?_⟩
  intro asked headers mem
  obtain ⟨prior, later, split⟩ := List.append_of_mem mem
  have checked := progress.accepted prior asked headers later split
  exact progress.vetted (split ▸ List.mem_append_left _ checked)

/-- **The requests of both loops are guarded**: every URL asked was accepted before, at
most six are, and after six turns the walk has ended. -/
theorem requests_guarded (url : String) (s : GuardState) :
    (∀ accept, (remoteHttpJsonLoop internet accept).Guarded internet url s
        ∧ (remoteHttpJsonLoop internet accept).maxRedirects + 1 = 6)
      ∧ ∀ keyId instanceDomain,
        (signedActivitypubLoop internet keyId instanceDomain).Guarded internet url s
          ∧ (signedActivitypubLoop internet keyId instanceDomain).maxRedirects + 1 = 6 :=
  ⟨fun accept => ⟨walk_guarded internet (remoteHttpJsonLoop internet accept) url s, rfl⟩,
    fun keyId instanceDomain =>
      ⟨walk_guarded internet (signedActivitypubLoop internet keyId instanceDomain) url s, rfl⟩⟩

end Cfwdon.Federation
