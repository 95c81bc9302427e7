import Cfwdon.Federation.Urls
import Cfwdon.Library.Base64

/-!
# Signed requests

A signed request names a key and the headers it signs in its `Signature` header.  The
sender builds the signed text from the parts of the URL; the receiver reads the header,
and builds the text again from the request that arrived.
-/

namespace Cfwdon.Http

open Library Federation

/-- The headers of a request, by their names in lower case. -/
abbrev Headers := List (String × String)

/-- The whitespace that is no part of a header value. -/
def isHttpWhitespace (c : Char) : Bool :=
  c == '\t' || c == '\n' || c == '\r' || c == ' '

/-- The header values a runtime takes. -/
structure HeaderRules where
  accepts : String → Bool

/-- `Headers::set`: the value without whitespace around it, if the runtime takes it. -/
def setHeader (rules : HeaderRules) (name value : String) (headers : Headers) :
    Except String Headers :=
  let value := trimMatches isHttpWhitespace value
  if rules.accepts value then
    .ok ((toAsciiLowercase name, value)
      :: headers.filter fun entry => entry.1 != toAsciiLowercase name)
  else .error ("invalid header value for " ++ name)

def setHeaders (rules : HeaderRules) : List (String × String) → Headers → Except String Headers
  | [], headers => .ok headers
  | (name, value) :: rest, headers =>
    match setHeader rules name value headers with
    | .error error => .error error
    | .ok next => setHeaders rules rest next

/-- `Headers::get`. -/
def getHeader (headers : Headers) (name : String) : Option String :=
  headers.lookup (toAsciiLowercase name)

/-! ## The signed text -/

def signedGetSigningString (pathAndQuery host date : String) : String :=
  "(request-target): get " ++ pathAndQuery ++ "\nhost: " ++ host ++ "\ndate: " ++ date

def signedPostHeaders : List String :=
  ["(request-target)", "host", "date", "digest", "content-type"]

def activitypubContentType : String := "application/activity+json"

def activitypubAccept : String :=
  "application/activity+json, application/ld+json; profile=\"https://www.w3.org/ns/activitystreams\""

def signingLine (target : String) (valueOf : String → Option String) (name : String) :
    Except String String :=
  if name = "(request-target)" then .ok ("(request-target): " ++ target)
  else
    match valueOf name with
    | some value => .ok (name ++ ": " ++ value)
    | none => .error ("missing signed header " ++ name)

def signingLines (target : String) (valueOf : String → Option String) (names : List String) :
    Except String String :=
  (names.mapM (signingLine target valueOf)).map fun lines => joinWith lines "\n"

def buildSignatureSigningStringFromParts (method pathAndQuery : String)
    (signedHeaders : List String) (headerValues : List (String × String)) :
    Except String String :=
  signingLines (toAsciiLowercase method ++ " " ++ pathAndQuery)
    (fun name => (headerValues.find? fun entry =>
      toAsciiLowercase entry.1 == toAsciiLowercase name).map Prod.snd)
    signedHeaders

def signedPostSigningString (pathAndQuery host date digest contentType : String) :
    Except String String :=
  buildSignatureSigningStringFromParts "POST" pathAndQuery signedPostHeaders
    [("host", host), ("date", date), ("digest", digest), ("content-type", contentType)]

/-! ## The sender -/

/-- An account that signs: the id of its key, and its signatures. -/
structure Signer where
  keyId : String
  signature : String → List UInt8

def signHttpSignature (signer : Signer) (payload : String) : String :=
  Base64.encode (signer.signature payload)

def signatureHeader (keyId signedHeaders signature : String) : String :=
  "keyId=\"" ++ keyId ++ "\",algorithm=\"rsa-sha256\",headers=\"" ++ signedHeaders
    ++ "\",signature=\"" ++ signature ++ "\""

structure SignedRequest where
  method : String
  url : Url
  headers : Headers
  /-- The text the sender signed. -/
  signed : String

def instanceUserAgent (instanceDomain : String) : String :=
  "cfwdon (+https://" ++ trimEndMatches (trimStartMatches (trimStartMatches (trim instanceDomain)
    "https://") "http://") '/' ++ "/)"

variable (rules : HeaderRules) (parser : UrlParser)

/-- The request that `fetch_signed_activitypub_document` sends to a URL. -/
def signedGetRequest (signer : Signer) (instanceDomain date : String) (url : Url) :
    Except String SignedRequest := do
  let (host, pathAndQuery) ← parseHttpUrlParts parser url.text
  let signingString := signedGetSigningString pathAndQuery host date
  let signature := signHttpSignature signer signingString
  let headers ← setHeaders rules
    [("Accept", activitypubAccept), ("User-Agent", instanceUserAgent instanceDomain),
      ("Date", date),
      ("Signature", signatureHeader signer.keyId "(request-target) host date" signature)] []
  return { method := "GET", url := url, headers := headers, signed := signingString }

/-- `build_signed_post_request`, past the checks of the inbox. -/
def buildSignedPostRequest (signer : Signer) (date digest : String) (inbox : Url) :
    Except String SignedRequest := do
  let (host, pathAndQuery) ← parseHttpUrlParts parser inbox.text
  let signingString ← signedPostSigningString pathAndQuery host date digest activitypubContentType
  let signature := signHttpSignature signer signingString
  let headers ← setHeaders rules
    [("Accept", activitypubAccept), ("Content-Type", activitypubContentType), ("Date", date),
      ("Digest", digest),
      ("Signature", signatureHeader signer.keyId
        "(request-target) host date digest content-type" signature)] []
  return { method := "POST", url := inbox, headers := headers, signed := signingString }

/-! ## The receiver -/

structure IncomingRequest where
  method : String
  url : String
  headers : Headers

/-- The `Host` header of a request to a URL: the host, with the port unless it is the
default one. -/
def hostHeader (url : Url) : String :=
  match url.port with
  | none => url.hostStr.getD ""
  | some port => url.hostStr.getD "" ++ ":" ++ toString port

/-- What arrives of a request that was sent: the runtime adds the `Host` header. -/
def SignedRequest.arrives (request : SignedRequest) : IncomingRequest where
  method := request.method
  url := request.url.text
  headers := ("host", hostHeader request.url) :: request.headers

structure ParsedSignatureHeader where
  keyId : String
  headers : List String
  signature : List UInt8

/-- What has been read of a `Signature` header. -/
structure SignatureParts where
  keyId : Option String
  headers : Option (List String)
  signature : Option (List UInt8)

def readSignaturePart (parts : SignatureParts) (part : String) :
    Except String SignatureParts :=
  match splitOnce (trim part) '=' with
  | none => .ok parts
  | some (name, rawValue) =>
    let value := trimMatches (· == '"') (trim rawValue)
    let name := toAsciiLowercase (trim name)
    if name = "keyid" then .ok { parts with keyId := some value }
    else if name = "headers" then
      .ok { parts with headers := some ((splitWhitespace value).map toAsciiLowercase) }
    else if name = "signature" then
      match Base64.decode value with
      | some signature => .ok { parts with signature := some signature }
      | none => .error "invalid Signature header encoding"
    else .ok parts

def parseSignatureHeader (header : String) : Except String ParsedSignatureHeader := do
  let parts ← (splitOn header ",").foldlM readSignaturePart ⟨none, none, none⟩
  match parts.keyId, parts.headers, parts.signature with
  | some keyId, some headers, some signature => return ⟨keyId, headers, signature⟩
  | none, _, _ => throw "Signature keyId missing"
  | some _, none, _ => throw "Signature headers missing"
  | some _, some _, none => throw "Signature value missing"

def arrivedPathAndQuery (url : Url) : String :=
  match url.query with
  | some query => url.path ++ "?" ++ query
  | none => url.path

def buildSignatureSigningString (request : IncomingRequest) (signature : ParsedSignatureHeader) :
    Except String String :=
  match parseRemoteHttpUrl parser request.url with
  | .error error => .error error
  | .ok url =>
    signingLines (toAsciiLowercase request.method ++ " " ++ arrivedPathAndQuery url)
      (getHeader request.headers) signature.headers

end Cfwdon.Http
