import Cfwdon.Federation.Urls

/-!
# Account handles

Handles that are found in a text, and handles that a lookup is made with.
-/

namespace Cfwdon.Accounts

section Handles

/-! ## Account handles in a text

`@user` and `@user@domain` in the text of a status name accounts.  A handle
without a domain gets the host of the instance.
-/

open Library

structure AccountHandle where
  username : String
  domain : Option String
  deriving DecidableEq

/-- The configured domain without scheme and path. -/
def instanceHost (instanceDomain : String) : String :=
  let withoutScheme :=
    trimStartMatches (trimStartMatches (trim instanceDomain) "https://") "http://"
  splitFirst (trimEndMatches withoutScheme '/') '/'

/-- The same host, up to the case of letters. -/
def AccountHandle.isLocalTo (handle : AccountHandle) (localDomain : String) : Bool :=
  match handle.domain with
  | none => true
  | some domain => toAsciiLowercase domain == toAsciiLowercase (instanceHost localDomain)

def isUsernameChar (c : Char) : Bool :=
  c.isAlphanum || c == '_'

def isDomainChar (c : Char) : Bool :=
  c.isAlphanum || c == '-' || c == '.'

/-- A handle in lower case. -/
def accountHandle (username domain : List Char) : AccountHandle where
  username := toAsciiLowercase (String.ofList username)
  domain := some (toAsciiLowercase (String.ofList domain))

/-- The handles from one position on, with the character before it.  Each turn of
the loop takes at least one character, so as many turns as characters reach the
end. -/
def scanHandles (host : String) : Nat → Option Char → List Char → List AccountHandle
  | 0, _, _ => []
  | _ + 1, _, [] => []
  | fuel + 1, previous, c :: rest =>
    let username := rest.takeWhile isUsernameChar
    let after := rest.dropWhile isUsernameChar
    if c ≠ '@' || previous.any isUsernameChar || username.isEmpty then
      scanHandles host fuel (some c) rest
    else
      match after with
      | '@' :: tail =>
        let domain := tail.takeWhile isDomainChar
        if domain.isEmpty then
          ⟨toAsciiLowercase (String.ofList username), some host⟩
            :: scanHandles host fuel username.getLast? after
        else
          accountHandle username domain
            :: scanHandles host fuel domain.getLast? (tail.dropWhile isDomainChar)
      | _ =>
        ⟨toAsciiLowercase (String.ofList username), some host⟩
          :: scanHandles host fuel username.getLast? after

/-- Keep the first of the handles of one user and domain. -/
def distinctHandles : List AccountHandle → List String → List AccountHandle
  | [], _ => []
  | handle :: rest, seen =>
    let key := handle.username ++ "@" ++ handle.domain.getD ""
    if key ∈ seen then distinctHandles rest seen
    else handle :: distinctHandles rest (key :: seen)

def extractAccountHandlesFromText (text instanceDomain : String) : List AccountHandle :=
  distinctHandles (scanHandles (instanceHost instanceDomain) text.length none text.toList) []

/-- The handles of local accounts. -/
def extractMentionsFromText (text instanceDomain : String) : List AccountHandle :=
  (extractAccountHandlesFromText text instanceDomain).filter fun handle =>
    handle.isLocalTo instanceDomain

example : extractAccountHandlesFromText "hi @Bob, @ana@Remote.example!" "https://local.example/"
    = [⟨"bob", some "local.example"⟩, ⟨"ana", some "remote.example"⟩] := by decide

end Handles

section LookupHandles

/-! ## Handles in a lookup

A lookup takes `user@domain`, with `acct:` before it or without, or the username of a local
account.  The domain is normalized as the host of a URL.
-/

open Library Federation

variable (percentDecode : String → Option String) (parser : UrlParser)

/-- `is_ascii_hexdigit`. -/
def isHexDigit (c : Char) : Bool :=
  c.isDigit || ('a' ≤ c && c ≤ 'f') || ('A' ≤ c && c ≤ 'F')

def containsPercentEscape : List Char → Bool
  | '%' :: first :: second :: rest =>
    isHexDigit first && isHexDigit second || containsPercentEscape (first :: second :: rest)
  | _ :: rest => containsPercentEscape rest
  | [] => false

def maybePercentDecodeAcct (value : String) : String :=
  if containsPercentEscape value.toList then (percentDecode value).getD value else value

def normalizeAcctHost (host : String) : Except String String :=
  let host := toAsciiLowercase (trimEndMatches (trim host) '.')
  if host = "" then .error "WebFinger resource must include both username and domain"
  else
    match parser.parse ("https://" ++ host) with
    | .error _ => .error "WebFinger resource domain is not a valid hostname"
    | .ok parsed =>
      let name := parsed.hostStr.map fun value => toAsciiLowercase (trimEndMatches value '.')
      match name.filter fun value => value ≠ "" with
      | none => .error "WebFinger resource domain is not a valid hostname"
      | some domain => .ok domain

def parseAcctHandle (acct : String) : Except String AccountHandle :=
  match splitOnce (maybePercentDecodeAcct percentDecode acct) '@' with
  | none => .error "WebFinger resource must be in user@domain form"
  | some (username, domain) =>
    let username := toAsciiLowercase
      (String.ofList ((trim username).toList.dropWhile fun c => c == '@'))
    match normalizeAcctHost parser domain with
    | .error error => .error error
    | .ok domain =>
      if username = "" then
        .error "WebFinger resource must include both username and domain"
      else .ok { username := username, domain := some domain }

/-- A WebFinger resource with `acct:` in front is the handle after it. -/
def parseLookupHandle (instanceDomain value : String) : Except String AccountHandle :=
  let value := trim value
  if value = "" then .error "acct query parameter is required"
  else if toAsciiLowercase (String.ofList (value.toList.take 5)) = "acct:" then
    parseAcctHandle percentDecode parser (String.ofList (value.toList.drop 5))
  else if '@' ∈ value.toList then
    parseAcctHandle percentDecode parser (String.ofList (value.toList.dropWhile fun c => c == '@'))
  else
    .ok { username := toAsciiLowercase (trim value), domain := some (instanceHost instanceDomain) }

variable {percentDecode : String → Option String} {parser : UrlParser}

/-- **A bare username** names a local account. -/
theorem parseLookupHandle_bare {instanceDomain value : String} (ne : value ≠ "")
    (plain : ∀ c ∈ value.toList, isWhitespace c = false ∧ c ≠ '@' ∧ c.toLower ≠ 'a') :
    parseLookupHandle percentDecode parser instanceDomain value
      = .ok { username := toAsciiLowercase value,
              domain := some (instanceHost instanceDomain) } := by
  have trimmed : trim value = value := trimMatches_of_forall fun c mem => (plain c mem).1
  have noScheme : toAsciiLowercase (String.ofList (value.toList.take 5)) ≠ "acct:" := by
    intro eq
    have chars : ((value.toList.take 5).map Char.toLower) = "acct:".toList := by
      have lists := congrArg String.toList eq
      simpa [toAsciiLowercase] using lists
    cases whole : value.toList with
    | nil => simp [whole] at chars
    | cons c rest =>
      rw [whole, List.take_succ_cons, List.map_cons] at chars
      have first : c.toLower = 'a' := (List.cons.inj chars).1
      exact (plain c (by rw [whole]; exact List.mem_cons_self)).2.2 first
  have noAt : '@' ∉ value.toList := fun mem => (plain '@' mem).2.1 rfl
  rw [parseLookupHandle]
  simp only [trimmed]
  rw [if_neg ne, if_neg noScheme, if_neg noAt]

theorem isLocalTo_instanceHost (username instanceDomain : String) :
    AccountHandle.isLocalTo { username := username, domain := some (instanceHost instanceDomain) }
      instanceDomain = true := by
  simp [AccountHandle.isLocalTo]

end LookupHandles

end Cfwdon.Accounts
