import Cfwdon.Library.UrlHosts

/-!
# URLs of other servers

What the URL parser finds in a text, and the authority that documents are compared by.
-/

namespace Cfwdon.Federation

section Urls

/-! ## Parsed URLs

What the URL parser finds in a text, and the parses of the fetching code: of a remote
URL, of a redirect location against the URL it came from, and of the host and path that
a signature covers.  The parser itself is a parameter.
-/

open Library

inductive Host where
  | domain (name : String)
  | ipv4 (address : Ipv4Addr)
  | ipv6 (address : Ipv6Addr)
  deriving DecidableEq

/-- `url::Url`, by its text and its parts. -/
structure Url where
  /-- `as_str`. -/
  text : String
  scheme : String
  username : String
  password : Option String
  host : Option Host
  /-- `host_str`. -/
  hostStr : Option String
  /-- `port`: none for the default port of the scheme. -/
  port : Option Nat
  path : String
  query : Option String
  deriving DecidableEq

/-- The URL parser: a parsed URL, or the text of the error. -/
structure UrlParser where
  /-- `Url::parse`. -/
  parse : String → Except String Url
  /-- `Url::join`. -/
  join : Url → String → Except String Url

variable (parser : UrlParser)

def Url.isHttp (url : Url) : Bool :=
  url.scheme == "http" || url.scheme == "https"

def parseRemoteHttpUrl (url : String) : Except String Url :=
  match parser.parse (trim url) with
  | .error error => .error ("invalid remote URL " ++ url ++ ": " ++ error)
  | .ok parsed =>
    if parsed.isHttp then .ok parsed
    else .error ("unsupported remote URL scheme " ++ parsed.scheme)

def Url.pathAndQuery (url : Url) : String :=
  match url.query with
  | some query =>
    if url.path = "" ∨ url.path = "/" then "/?" ++ query else url.path ++ "?" ++ query
  | none => if url.path = "" then "/" else url.path

def parseHttpUrlParts (url : String) : Except String (String × String) :=
  match parseRemoteHttpUrl parser url with
  | .error error => .error error
  | .ok parsed =>
    match parsed.hostStr with
    | none => .error "URL host missing"
    | some host => .ok (host, parsed.pathAndQuery)

/-- The URL a location names: by itself if it has a scheme of http, else against the URL
it came from. -/
def resolvedLocation (base : Url) (location : String) : Except String Url :=
  if startsWith location "http://" || startsWith location "https://" then
    match parser.parse location with
    | .error error => .error ("invalid remote redirect URL " ++ location ++ ": " ++ error)
    | .ok resolved => .ok resolved
  else
    match parser.join base location with
    | .error error =>
      .error ("failed to resolve remote redirect " ++ location ++ " against " ++ base.text
        ++ ": " ++ error)
    | .ok resolved => .ok resolved

def resolveRemoteRedirectLocation (base : Url) (location : String) : Except String Url :=
  if trim location = "" then .error "remote fetch redirect Location header is empty"
  else
    match resolvedLocation parser base (trim location) with
    | .error error => .error error
    | .ok resolved =>
      if resolved.isHttp then .ok resolved
      else .error ("unsupported remote redirect URL scheme " ++ resolved.scheme)

end Urls

section Authority

/-! ## The authority of a remote document

Ids, fetched urls and actors of remote documents are compared by the authority of
their http urls: the host in lower case, with the port unless it is the default
one.
-/

open Library

inductive RemoteActorAuthorityIssue where
  | invalidActorUri
  | invalidRelatedUri
  | crossAuthorityId
  | crossAuthorityInbox
  | crossAuthoritySharedInbox
  | crossAuthorityPublicKey
  | publicKeyOwnerMismatch

def httpScheme (url : String) : Option (String × String) :=
  match stripPrefix (trim url) "https://" with
  | some rest => some ("443", rest)
  | none => (stripPrefix (trim url) "http://").map fun rest => ("80", rest)

/-- The host and the port of an authority without user information.  A suffix that
is not a number is part of the host. -/
def hostAndPort (hostPort : String) : String × Option String :=
  match rsplitOnce hostPort ':' with
  | some (host, port) =>
    if host ≠ "" && port.toList.all Char.isDigit then (host, some port) else (hostPort, none)
  | none => (hostPort, none)

def remoteHttpAuthority (url : String) : Option String :=
  match httpScheme url with
  | none => none
  | some (defaultPort, rest) =>
    let authority := String.ofList (rest.toList.takeWhile fun c => !"/?#".toList.contains c)
    let hostPort := ((rsplitOnce authority '@').map Prod.snd).getD authority
    if authority = "" || hostPort = "" then none
    else
      let (host, port) := hostAndPort (trimEndMatches hostPort '.')
      let host := toAsciiLowercase (trimEndMatches host '.')
      if host = "" then none
      else
        match port with
        | none => some host
        | some port => if port = defaultPort then some host else some (host ++ ":" ++ port)

def remoteActorIdAuthorityAllowed (fetchedUri documentId : String) :
    Except RemoteActorAuthorityIssue Unit :=
  match remoteHttpAuthority fetchedUri, remoteHttpAuthority documentId with
  | some fetched, some document =>
    if fetched = document then .ok () else .error .crossAuthorityId
  | _, _ => .error .invalidActorUri

def remoteActorRelatedUriAuthorityAllowed (actorUri relatedUri : String)
    (issue : RemoteActorAuthorityIssue) : Except RemoteActorAuthorityIssue Unit :=
  match remoteHttpAuthority actorUri, remoteHttpAuthority relatedUri with
  | none, _ => .error .invalidActorUri
  | some _, none => .error .invalidRelatedUri
  | some actor, some related => if actor = related then .ok () else .error issue

/-- A text before its first `#`, without surrounding whitespace. -/
def withoutFragment (uri : String) : String :=
  trim (splitFirst uri '#')

/-- An owner that is given is the actor, up to fragments. -/
def remoteActorPublicKeyOwnerAllowed (actorUri : String) (owner : Option String) :
    Except RemoteActorAuthorityIssue Unit :=
  match (owner.map trim).filter fun owner => owner ≠ "" with
  | none => .ok ()
  | some owner =>
    if owner = trim actorUri then .ok ()
    else if withoutFragment owner = withoutFragment (trim actorUri) then .ok ()
    else .error .publicKeyOwnerMismatch

/-- Fetched url, object and author share one authority. -/
def remoteStatusObjectAuthorityAllowed (fetchUrl objectId attributedTo : String) :
    Except RemoteActorAuthorityIssue Unit := do
  remoteActorIdAuthorityAllowed fetchUrl objectId
  remoteActorRelatedUriAuthorityAllowed objectId attributedTo .crossAuthorityId

def remoteActorUriMatchesAcctDomain (actorUri acctDomain : String) : Bool :=
  match remoteHttpAuthority actorUri with
  | none => false
  | some authority =>
    let expected := toAsciiLowercase (trimEndMatches acctDomain '.')
    expected ≠ "" && (authority == expected
      || (expected ++ ":").toList.isPrefixOf authority.toList)

def remoteActorCachedHandleAllowed
    (actorUri storedUsername storedDomain expectedUsername expectedDomain : String) : Bool :=
  let expected := toAsciiLowercase (trim expectedUsername)
  expected ≠ "" && toAsciiLowercase (trim storedUsername) == expected
    && remoteActorUriMatchesAcctDomain actorUri expectedDomain
    && remoteActorUriMatchesAcctDomain actorUri storedDomain

/-! ## Shared authorities -/

variable {fetchedUri documentId objectId attributedTo : String}

theorem httpAuthority_trim (url : String) :
    remoteHttpAuthority (trim url) = remoteHttpAuthority url := by
  rw [remoteHttpAuthority, remoteHttpAuthority, httpScheme, httpScheme, trim_trim]

theorem authorityAllowed_iff :
    (remoteActorIdAuthorityAllowed fetchedUri documentId).isOk = true
      ↔ ∃ host, remoteHttpAuthority fetchedUri = some host
        ∧ remoteHttpAuthority documentId = some host := by
  unfold remoteActorIdAuthorityAllowed
  cases remoteHttpAuthority fetchedUri with
  | none => simp [Except.isOk, Except.toBool]
  | some fetched =>
    cases remoteHttpAuthority documentId with
    | none => simp [Except.isOk, Except.toBool]
    | some doc =>
      by_cases eq : fetched = doc
      · simp [eq, Except.isOk, Except.toBool]
      · simp [eq, Except.isOk, Except.toBool, eq_comm]

theorem authority_of_statusObjectAllowed
    (may : (remoteStatusObjectAuthorityAllowed fetchedUri objectId attributedTo).isOk = true) :
    ∃ host, remoteHttpAuthority fetchedUri = some host
      ∧ remoteHttpAuthority objectId = some host
      ∧ remoteHttpAuthority attributedTo = some host := by
  unfold remoteStatusObjectAuthorityAllowed at may
  cases first : remoteActorIdAuthorityAllowed fetchedUri objectId with
  | error issue => rw [first] at may; cases may
  | ok _ =>
    obtain ⟨host, ofUrl, ofObject⟩ :=
      authorityAllowed_iff.mp (by rw [first]; rfl)
    refine ⟨host, ofUrl, ofObject, ?_⟩
    rw [first] at may
    simp only [bind, Except.bind, remoteActorRelatedUriAuthorityAllowed, ofObject] at may
    cases ofAuthor : remoteHttpAuthority attributedTo with
    | none => rw [ofAuthor] at may; cases may
    | some author =>
      rw [ofAuthor] at may
      by_cases eq : host = author
      · rw [eq]
      · simp [eq, Except.isOk, Except.toBool] at may

example : remoteHttpAuthority " https://user@Remote.Example.:443/users/ana#key"
    = some "remote.example" := by decide

end Authority

end Cfwdon.Federation
