import Mathlib.Data.Option.Basic
import Cfwdon.Remote.Store

/-!
# Fetching documents and actors

A fetch asks a URL, follows a bounded number of redirects and keeps the URLs it
asked: the hosts that had a say in the document.  What the other servers answer is
open: each request of a handler is numbered, and two requests for one URL may be
answered differently.
-/

namespace Cfwdon.Remote

open Library ActivityPub Federation

inductive Response where
  | document (body : Json)
  | redirect (location : Option String)
  /-- An error status, a body that is not JSON, or no answer. -/
  | failed

/-- The URL parser, the checks of the addresses a URL leads to, the clock and the
other servers, as one handler meets them. -/
structure Web where
  /-- `Url::parse`, as the text of the parsed URL. -/
  parseUrl : String → Option String
  /-- The text of a parsed URL is parsed to itself. -/
  reparse : ∀ {url parsed : String}, parseUrl url = some parsed → parseUrl (trim parsed) = some parsed
  /-- `Url::join`, as the text of the URL. -/
  joinUrl : String → String → Option String
  /-- `Url::host_str`. -/
  hostOf : String → Option String
  /-- The last of the path segments. -/
  lastSegment : String → Option String
  /-- `validate_remote_fetch_url` and `validate_remote_actor_profile_url`. -/
  allows : Nat → String → Bool
  /-- The answer to the numbered request. -/
  respond : Nat → String → Response
  /-- Whether the time for more fetches is over. -/
  pastDeadline : Nat → Bool

/-- A computation that makes numbered requests. -/
abbrev Online := StateM Nat

def nextRequest : Online Nat := fun number => (number, number + 1)

theorem Online.bind_apply {α β : Type} (first : Online α) (rest : α → Online β) (num : Nat) :
    (first >>= rest) num = rest (first num).1 (first num).2 := rfl

theorem Online.pure_apply {α : Type} (value : α) (num : Nat) :
    (pure value : Online α) num = (value, num) := rfl

/-- A document with the URLs asked for it. -/
structure Fetched where
  document : Json
  asked : List String

variable (web : Web)

def parseRemoteHttpUrl (url : String) : Option String :=
  (web.parseUrl (trim url)).filter fun parsed =>
    startsWith parsed "http://" || startsWith parsed "https://"

variable {url parsed : String} {fetched : Fetched} {num : Nat} {profile : RemoteActorProfile}

theorem parseHttpUrl_of_parsed {web : Web}
    (named : parseRemoteHttpUrl web url = some parsed) :
    parseRemoteHttpUrl web parsed = some parsed := by
  rw [parseRemoteHttpUrl, Option.filter_eq_some_iff] at named
  rw [parseRemoteHttpUrl, Option.filter_eq_some_iff]
  exact ⟨web.reparse named.1, named.2⟩

def resolveRemoteRedirectLocation (base location : String) : Option String :=
  match nonBlank location with
  | none => none
  | some location =>
    if startsWith location "http://" || startsWith location "https://" then
      parseRemoteHttpUrl web location
    else
      (web.joinUrl base location).filter fun joined =>
        startsWith joined "http://" || startsWith joined "https://"

def maxRemoteFetchRedirects : Nat := 5

/-- One request: the answer, with a redirect resolved to the URL it leads to. -/
def askOnce (current : String) : Online (Json ⊕ Option String) := do
  let request ← nextRequest
  if web.allows request current then
    match web.respond request current with
    | .document body => return .inl body
    | .redirect location =>
      return .inr (location.bind (resolveRemoteRedirectLocation web current))
    | .failed => return .inr none
  else return .inr none

/-- The requests of one fetch, with the redirects that may still be followed. -/
def followRedirects : Nat → String → List String → Online (Option Fetched)
  | 0, current, asked => do
    match ← askOnce web current with
    | .inl body => return some ⟨body, asked ++ [current]⟩
    | .inr _ => return none
  | redirectsLeft + 1, current, asked => do
    match ← askOnce web current with
    | .inl body => return some ⟨body, asked ++ [current]⟩
    | .inr (some next) => followRedirects redirectsLeft next (asked ++ [current])
    | .inr none => return none

def fetchRemoteActivitypubDocument (url : String) : Online (Option Fetched) :=
  match parseRemoteHttpUrl web url with
  | some parsed => followRedirects web maxRemoteFetchRedirects parsed []
  | none => return none

/-! ## Actors -/

def nestedTextField (document : Json) (parent key : String) : Option String :=
  (document.get parent).bind fun value => textField value key

def ensureRemoteActorEndpointAuthorities (actorUri inboxUri : String)
    (sharedInboxUri : Option String) (publicKeyId : String) :
    Except RemoteActorAuthorityIssue Unit := do
  remoteActorRelatedUriAuthorityAllowed actorUri inboxUri .crossAuthorityInbox
  match sharedInboxUri with
  | some sharedInboxUri =>
    remoteActorRelatedUriAuthorityAllowed actorUri sharedInboxUri .crossAuthoritySharedInbox
  | none => pure ()
  remoteActorRelatedUriAuthorityAllowed actorUri publicKeyId .crossAuthorityPublicKey

def parseRemoteActorProfileDocument (document : Json) (fetchedActorUri : String) :
    Option RemoteActorProfile := do
  let canonicalActorUri := (textField document "id").getD fetchedActorUri
  guard (remoteActorIdAuthorityAllowed fetchedActorUri canonicalActorUri).isOk
  let actorUrl ← parseRemoteHttpUrl web canonicalActorUri
  let publicKeyId ← nestedTextField document "publicKey" "id"
  let publicKeyPem ← nestedTextField document "publicKey" "publicKeyPem"
  guard (remoteActorPublicKeyOwnerAllowed canonicalActorUri
    (nestedTextField document "publicKey" "owner")).isOk
  let inboxUri ← textField document "inbox"
  let sharedInboxUri := nestedTextField document "endpoints" "sharedInbox"
  guard (ensureRemoteActorEndpointAuthorities canonicalActorUri inboxUri sharedInboxUri
    publicKeyId).isOk
  return {
    actorUri := canonicalActorUri
    username := toAsciiLowercase
      ((textField document "preferredUsername").getD ((web.lastSegment actorUrl).getD "remote"))
    domain := toAsciiLowercase ((web.hostOf actorUrl).getD "")
    inboxUri, sharedInboxUri, publicKeyId, publicKeyPem }

def validateRemoteActorProfileUrls (profile : RemoteActorProfile) : Online Bool := do
  let request ← nextRequest
  return (profile.actorUri :: profile.inboxUri :: profile.sharedInboxUri.toList
    ++ [profile.publicKeyId]).all (web.allows request)

def fetchRemoteActorProfile (actorUri : String) : Online (Option RemoteActorProfile) := do
  match ← fetchRemoteActivitypubDocument web actorUri with
  | none => return none
  | some fetched =>
    match parseRemoteActorProfileDocument web fetched.document actorUri with
    | none => return none
    | some profile =>
      if ← validateRemoteActorProfileUrls web profile then return some profile
      else return none

/-! ## What a fetch found -/

variable {web}

/-- Every URL asked so far, the current one included, is among those asked for the
document. -/
theorem mem_asked_of_followRedirects {uri : String} (redirectsLeft : Nat) :
    ∀ (cur : String) (asked : List String) (num : Nat),
      (followRedirects web redirectsLeft cur asked num).1 = some fetched →
      uri ∈ asked ++ [cur] → uri ∈ fetched.asked := by
  induction redirectsLeft with
  | zero =>
    intro cur asked num got mem
    rw [followRedirects, Online.bind_apply] at got
    cases answer : (askOnce web cur num).1 with
    | inl body =>
      rw [answer] at got
      cases got
      exact mem
    | inr _ =>
      rw [answer] at got
      cases got
  | succ redirectsLeft ih =>
    intro cur asked num got mem
    rw [followRedirects, Online.bind_apply] at got
    rcases answer : (askOnce web cur num).1 with body | _ | next
    · rw [answer] at got
      cases got
      exact mem
    · rw [answer] at got
      cases got
    · rw [answer] at got
      exact ih _ _ _ got (List.mem_append_left _ mem)

/-- **The URL a fetch starts from is among those asked.** -/
theorem mem_asked_of_fetched
    (named : parseRemoteHttpUrl web url = some parsed)
    (got : (fetchRemoteActivitypubDocument web parsed num).1 = some fetched) :
    parsed ∈ fetched.asked := by
  rw [fetchRemoteActivitypubDocument, parseHttpUrl_of_parsed named] at got
  exact mem_asked_of_followRedirects _ _ _ _ got (List.mem_append_right _ (by simp))

theorem authority_of_parsedActor {doc : Json} {fetchedActorUri : String}
    (parsed : parseRemoteActorProfileDocument web doc fetchedActorUri = some profile) :
    ∃ host, remoteHttpAuthority fetchedActorUri = some host
      ∧ remoteHttpAuthority profile.actorUri = some host := by
  simp only [parseRemoteActorProfileDocument, bind, Option.bind_eq_some_iff] at parsed
  obtain ⟨_, may, _, _, _, _, _, _, _, _, _, _, _, _, built⟩ := parsed
  cases built
  exact authorityAllowed_iff.mp ((Option.guard_eq_some' _).mp may)

/-- **A fetched actor is of the authority it was fetched under.** -/
theorem authority_of_fetchedActor {actorUri : String}
    (got : (fetchRemoteActorProfile web actorUri num).1 = some profile) :
    ∃ host, remoteHttpAuthority actorUri = some host
      ∧ remoteHttpAuthority profile.actorUri = some host := by
  rw [fetchRemoteActorProfile, Online.bind_apply] at got
  cases answer : (fetchRemoteActivitypubDocument web actorUri num).1 with
  | none =>
    rw [answer] at got
    cases got
  | some fetched =>
    rw [answer] at got
    cases parsed : parseRemoteActorProfileDocument web fetched.document actorUri with
    | none =>
      simp only [parsed] at got
      cases got
    | some fetchedProfile =>
      simp only [parsed, Online.bind_apply] at got
      split_ifs at got
      · cases got
        exact authority_of_parsedActor parsed
      · cases got

end Cfwdon.Remote
