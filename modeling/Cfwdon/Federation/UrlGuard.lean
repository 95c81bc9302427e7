import Cfwdon.Federation.Urls
import Cfwdon.Library.Attempt

/-!
# The guard of fetched URLs

Before each request the URL is checked: its scheme, its user information, its host and,
for a host that is a name, the addresses it resolves to.  Verdicts on names are kept for
a while in the memory of the isolate and in a store shared with others.  The clock, the
store and the resolver are open: each consultation is numbered, and two of them may be
answered differently.
-/

namespace Cfwdon.Federation

open Library

inductive RemoteUrlPolicyIssue where
  | unsupportedScheme
  | missingHost
  | userInfoPresent
  | localhostBlocked
  | blockedIp

def isBlockedCgnatV4 (address : Ipv4Addr) : Bool :=
  address.first == 100 && decide (64 ≤ address.second) && decide (address.second ≤ 127)

def isBlockedIpv4 (address : Ipv4Addr) : Bool :=
  address.isLoopback || address.isPrivate || address.isLinkLocal || address.isUnspecified
    || address.isMulticast || address.isBroadcast || address.first == 0
    || isBlockedCgnatV4 address

def isBlockedIpv6 (address : Ipv6Addr) : Bool :=
  address.isLoopback || address.isUnspecified || address.isMulticast || address.isUniqueLocal
    || address.isUnicastLinkLocal

def normalizeIpForBlocklist : IpAddr → IpAddr
  | .v6 address =>
    match address.toIpv4Mapped with
    | some mapped => .v4 mapped
    | none => .v6 address
  | other => other

def isBlockedIpAddress (address : IpAddr) : Bool :=
  match normalizeIpForBlocklist address with
  | .v4 address => isBlockedIpv4 address
  | .v6 address => isBlockedIpv6 address

/-- A host name without the dots at its end, in lower case. -/
def normalizedHostName (host : String) : String :=
  toAsciiLowercase (trimEndMatches host '.')

def remoteUrlPolicyFromParts (scheme host : String) (hasUserinfo : Bool) :
    Except RemoteUrlPolicyIssue Unit :=
  if !(scheme == "http" || scheme == "https") then .error .unsupportedScheme
  else if hasUserinfo then .error .userInfoPresent
  else
    let host := normalizedHostName host
    if host = "" then .error .missingHost
    else if host = "localhost" ∨ endsWith host ".localhost" then .error .localhostBlocked
    else if (parseIpAddr host).any isBlockedIpAddress then .error .blockedIp
    else .ok ()

def remoteUrlPolicyForIp (address : IpAddr) (hasUserinfo : Bool) :
    Except RemoteUrlPolicyIssue Unit :=
  if hasUserinfo then .error .userInfoPresent
  else if isBlockedIpAddress address then .error .blockedIp
  else .ok ()

def remoteUrlPolicyError : RemoteUrlPolicyIssue → String
  | .unsupportedScheme => "unsupported remote URL scheme"
  | .missingHost => "remote URL must include host"
  | .userInfoPresent => "remote URL must not include user info"
  | .localhostBlocked => "localhost is not allowed"
  | .blockedIp => "private or loopback IPs are not allowed"

/-! ## Names -/

inductive RemoteDnsResolutionIssue where
  | noRecords
  | blockedAddress

def remoteHostnameDnsResolutionAllowed (resolved : List IpAddr) :
    Except RemoteDnsResolutionIssue Unit :=
  if resolved.isEmpty then .error .noRecords
  else if resolved.any isBlockedIpAddress then .error .blockedAddress
  else .ok ()

def parseDnsAnswerIps (answers : List String) : List IpAddr :=
  answers.filterMap parseIpAddr

structure DnsJsonResponse where
  status : Nat
  answer : Option (List String)

/-- The answer of the resolver to one query. -/
structure DnsReply where
  httpStatus : Nat
  /-- The body, unless it is not of the expected form. -/
  body : Except String DnsJsonResponse

/-- The clock, the shared store and the resolver, at each numbered consultation. -/
structure Surroundings where
  /-- `Date::now`, in milliseconds. -/
  nowMs : Nat → Nat
  /-- `kv_get_allowed`. -/
  kvGetAllowed : Nat → String → Option Bool
  /-- The answer to a query for a host and a record type, unless it was not sent. -/
  dnsQuery : Nat → String → String → Except String DnsReply

/-- What the fetching code did. -/
inductive FetchEvent where
  /-- `validate_remote_fetch_url` answered for a URL. -/
  | checked (url : Url) (accepted : Bool)
  /-- A request to a URL, with its headers, was sent. -/
  | requested (url : Url) (headers : List (String × String))

/-- What the checks of an isolate share: the number of the next consultation, the kept
verdicts with the time they expire, and what was done so far. -/
structure GuardState where
  next : Nat
  verdicts : List (String × Bool × Nat)
  log : List FetchEvent

def dohL1TtlMs : Nat := 60000

variable (surroundings : Surroundings)

/-- Take the number of the next consultation. -/
def GuardState.advanced (s : GuardState) : GuardState := { s with next := s.next + 1 }

/-- Note what was done. -/
def GuardState.noting (s : GuardState) (event : FetchEvent) : GuardState :=
  { s with log := s.log ++ [event] }

def l1Get (host : String) (s : GuardState) : Option Bool :=
  ((s.verdicts.lookup host).filter fun entry => surroundings.nowMs s.next < entry.2).map Prod.fst

def l1Put (host : String) (allowed : Bool) (s : GuardState) : GuardState :=
  { s.advanced with
    verdicts := (toAsciiLowercase host, allowed, surroundings.nowMs s.next + dohL1TtlMs)
      :: s.verdicts.filter fun entry =>
          decide (surroundings.nowMs s.next < entry.2.2) && entry.1 != toAsciiLowercase host }

def resolveDnsJsonIps (host recordType : String) (number : Nat) : Except String (List IpAddr) :=
  match surroundings.dnsQuery number host recordType with
  | .error error => .error error
  | .ok reply =>
    if reply.httpStatus / 100 ≠ 2 then
      .error ("DNS resolution failed for " ++ host ++ ": HTTP " ++ toString reply.httpStatus)
    else
      match reply.body with
      | .error error => .error error
      | .ok body =>
        if body.status ≠ 0 then
          .error ("DNS resolution failed for " ++ host ++ ": response status "
            ++ toString body.status)
        else .ok (parseDnsAnswerIps (body.answer.getD []))

def keptVerdict (host : String) (allowed : Bool) : Except String Unit :=
  if allowed then .ok ()
  else .error ("remote host " ++ host ++ " resolved to a blocked IP range")

def resolvedAddresses (host : String) (number : Nat) : Except String (List IpAddr) :=
  match resolveDnsJsonIps surroundings host "A" number,
      resolveDnsJsonIps surroundings host "AAAA" number with
  | .ok aRecords, .ok aaaaRecords => .ok (aRecords ++ aaaaRecords)
  | .error error, _ => .error error
  | .ok _, .error error => .error error

/-- The part of `validate_remote_hostname_resolution` past the kept verdicts. -/
def resolveAndJudge (host : String) (s : GuardState) : Attempt GuardState String Unit :=
  match resolvedAddresses surroundings host s.next with
  | .error error => (s.advanced, .error error)
  | .ok resolved =>
    match remoteHostnameDnsResolutionAllowed resolved with
    | .ok () => (l1Put surroundings host true s.advanced, .ok ())
    | .error .noRecords =>
      (s.advanced, .error ("remote host " ++ host
        ++ " did not resolve to any public A/AAAA records"))
    | .error .blockedAddress =>
      (l1Put surroundings host false s.advanced, keptVerdict host false)

def validateRemoteHostnameResolution (host : String) (s : GuardState) :
    Attempt GuardState String Unit :=
  let host := normalizedHostName host
  match l1Get surroundings host s with
  | some allowed => (s.advanced, keptVerdict host allowed)
  | none =>
    match surroundings.kvGetAllowed s.advanced.next host with
    | some allowed =>
      (l1Put surroundings host allowed s.advanced.advanced, keptVerdict host allowed)
    | none => resolveAndJudge surroundings host s.advanced.advanced

/-! ## URLs -/

def policyAnswer (answer : Except RemoteUrlPolicyIssue Unit) : Except String Unit :=
  match answer with
  | .ok () => .ok ()
  | .error issue => .error (remoteUrlPolicyError issue)

/-- Whether a URL has user information. -/
def Url.hasUserinfo (url : Url) : Bool :=
  url.username != "" || url.password.isSome

def remoteFetchUrlChecks (url : Url) (s : GuardState) : Attempt GuardState String Unit :=
  if !url.isHttp then (s, .error "unsupported remote URL scheme")
  else
    match url.host with
    | none => (s, .error "remote URL must include host")
    | some (.domain host) =>
      match policyAnswer (remoteUrlPolicyFromParts url.scheme host url.hasUserinfo) with
      | .error error => (s, .error error)
      | .ok () => validateRemoteHostnameResolution surroundings host s
    | some (.ipv4 address) =>
      (s, policyAnswer (remoteUrlPolicyForIp (.v4 address) url.hasUserinfo))
    | some (.ipv6 address) =>
      (s, policyAnswer (remoteUrlPolicyForIp (.v6 address) url.hasUserinfo))

/-- `validate_remote_fetch_url`, which is noted with its answer. -/
def validateRemoteFetchUrl (url : Url) (s : GuardState) : Attempt GuardState String Unit :=
  let (s', answer) := remoteFetchUrlChecks surroundings url s
  (s'.noting (.checked url answer.isOk), answer)

/-! ## What an accepted URL has passed -/

/-- What is checked of a host, whatever it resolves to. -/
def HostAllowed : Host → Prop
  | .domain host =>
    normalizedHostName host ≠ "" ∧ normalizedHostName host ≠ "localhost"
      ∧ endsWith (normalizedHostName host) ".localhost" = false
      ∧ ∀ address, parseIpAddr (normalizedHostName host) = some address →
          isBlockedIpAddress address = false
  | .ipv4 address => isBlockedIpAddress (.v4 address) = false
  | .ipv6 address => isBlockedIpAddress (.v6 address) = false

variable {hasUserinfo : Bool} {s : GuardState} {url : Url}

theorem remoteUrlPolicyFromParts_accepts {scheme host : String}
    (ok : remoteUrlPolicyFromParts scheme host hasUserinfo = .ok ()) :
    hasUserinfo = false ∧ HostAllowed (.domain host) := by
  unfold remoteUrlPolicyFromParts at ok
  split_ifs at ok with badScheme userinfo
  dsimp only at ok
  split_ifs at ok with empty localhost blocked
  obtain ⟨notLocal, notBelow⟩ := not_or.mp localhost
  refine ⟨by simpa using userinfo, empty, notLocal, by simpa using notBelow, ?_⟩
  intro address parsed
  simpa [parsed] using blocked

theorem remoteUrlPolicyForIp_accepts {address : IpAddr}
    (ok : remoteUrlPolicyForIp address hasUserinfo = .ok ()) :
    hasUserinfo = false ∧ isBlockedIpAddress address = false := by
  unfold remoteUrlPolicyForIp at ok
  split_ifs at ok with userinfo blocked
  exact ⟨by simpa using userinfo, by simpa using blocked⟩

theorem policyAnswer_eq_ok {answer : Except RemoteUrlPolicyIssue Unit}
    (accepted : policyAnswer answer = .ok ()) : answer = .ok () := by
  cases answer with
  | ok _ => rfl
  | error issue => cases accepted

/-- **An accepted URL** is one of http or https, without user information, and its host is
allowed. -/
theorem remoteFetchUrlChecks_accepts
    (accepted : (remoteFetchUrlChecks surroundings url s).2 = .ok ()) :
    url.isHttp = true ∧ url.hasUserinfo = false
      ∧ ∃ host, url.host = some host ∧ HostAllowed host := by
  unfold remoteFetchUrlChecks at accepted
  split_ifs at accepted with notHttp
  have isHttp : url.isHttp = true := by simpa using notHttp
  cases named : url.host with
  | none =>
    rw [named] at accepted
    cases accepted
  | some host =>
    rw [named] at accepted
    cases host with
    | domain name =>
      dsimp only at accepted
      cases ans : policyAnswer (remoteUrlPolicyFromParts url.scheme name url.hasUserinfo) with
      | error error =>
        rw [ans] at accepted
        cases accepted
      | ok _ =>
        obtain ⟨noUserinfo, may⟩ :=
          remoteUrlPolicyFromParts_accepts (policyAnswer_eq_ok ans)
        exact ⟨isHttp, noUserinfo, _, rfl, may⟩
    | ipv4 address | ipv6 address =>
      obtain ⟨noUserinfo, may⟩ :=
        remoteUrlPolicyForIp_accepts (policyAnswer_eq_ok accepted)
      exact ⟨isHttp, noUserinfo, _, rfl, may⟩

/-! ## What is noted -/

@[simp] theorem log_advanced (s : GuardState) : s.advanced.log = s.log := rfl

@[simp] theorem log_noting (s : GuardState) (ev : FetchEvent) :
    (s.noting ev).log = s.log ++ [ev] := rfl

@[simp] theorem log_l1Put (host : String) (may : Bool) (s : GuardState) :
    (l1Put surroundings host may s).log = s.log := rfl

theorem log_validateHostname (host : String) (s : GuardState) :
    (validateRemoteHostnameResolution surroundings host s).1.log = s.log := by
  unfold validateRemoteHostnameResolution resolveAndJudge
  dsimp only
  cases l1Get surroundings (normalizedHostName host) s with
  | some may => rfl
  | none =>
    dsimp only
    cases surroundings.kvGetAllowed s.advanced.next (normalizedHostName host) with
    | some may => simp
    | none =>
      dsimp only
      cases resolvedAddresses surroundings (normalizedHostName host)
          s.advanced.advanced.next with
      | error error => simp
      | ok got =>
        dsimp only
        rcases remoteHostnameDnsResolutionAllowed got with (_ | _) | _ <;> simp

theorem log_remoteFetchUrlChecks (url : Url) (s : GuardState) :
    (remoteFetchUrlChecks surroundings url s).1.log = s.log := by
  unfold remoteFetchUrlChecks
  split_ifs with notHttp
  · rfl
  · rcases url.host with _ | name | address | address
    · rfl
    · dsimp only
      cases policyAnswer (remoteUrlPolicyFromParts url.scheme name url.hasUserinfo) with
      | error error => rfl
      | ok _ => exact log_validateHostname surroundings name s
    · rfl
    · rfl

theorem log_validateUrl (url : Url) (s : GuardState) :
    (validateRemoteFetchUrl surroundings url s).1.log
      = s.log ++ [.checked url (validateRemoteFetchUrl surroundings url s).2.isOk] := by
  simp [validateRemoteFetchUrl, log_remoteFetchUrlChecks]

/-- **An accepted URL has passed the checks of its scheme, user information and host.** -/
theorem validateUrl_accepts
    (ok : (validateRemoteFetchUrl surroundings url s).2 = .ok ()) :
    url.isHttp = true ∧ url.hasUserinfo = false ∧ ∃ host, url.host = some host ∧ HostAllowed host :=
  remoteFetchUrlChecks_accepts surroundings ok

end Cfwdon.Federation
