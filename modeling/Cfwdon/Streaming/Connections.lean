import Cfwdon.Auth.WebSession
import Cfwdon.Streaming.Subscriptions

/-!
# Opening a streaming websocket

A streaming request names its first channel in its query or its path, or none for a
websocket that subscribes later.  It is authenticated by its headers, else by a token in
the query or in the protocol header; a token has to cover the first channel.  A websocket
is then handed to the hub of the account, which reads its first subscription from headers
the Worker sets, else from the query of the client; when the hub cannot be reached the
Worker serves the websocket itself, by polling.

What `authenticate_local_api_request` and the token lookup answer, and whether the hub
can be reached, is left open.  The reader of a query fails on a field that occurs twice,
and both readers of the query then see an empty one.
-/

namespace Cfwdon.Streaming

open Library Auth

abbrev QueryPairs := List (String × String)

/-- Whether no field of a record occurs twice, which the reader of the record refuses. -/
def readable (fields : List String) (query : QueryPairs) : Bool :=
  fields.all fun field => decide ((query.filter fun pair => pair.1 == field).length ≤ 1)

structure StreamingQuery where
  stream : Option String
  tag : Option String
  list : Option String
  accessToken : Option String

/-- `req.query::<StreamingQuery>().unwrap_or_default()`. -/
def readStreamingQuery (query : QueryPairs) : StreamingQuery :=
  if readable ["stream", "tag", "list", "access_token"] query then
    ⟨query.lookup "stream", query.lookup "tag", query.lookup "list", query.lookup "access_token"⟩
  else ⟨none, none, none, none⟩

structure StreamHubConnectParams where
  stream : Option String
  tag : Option String
  list : Option String
  accountId : Option String

/-- `req.query::<StreamHubConnectParams>().unwrap_or_default()`. -/
def readConnectQuery (query : QueryPairs) : StreamHubConnectParams :=
  if readable ["stream", "tag", "list", "account_id"] query then
    ⟨query.lookup "stream", query.lookup "tag", query.lookup "list", query.lookup "account_id"⟩
  else ⟨none, none, none, none⟩

theorem readConnectQuery_stream {query : QueryPairs}
    (once : readable ["access_token"] query = true)
    (unnamed : (readStreamingQuery query).stream = none) :
    (readConnectQuery query).stream = none := by
  unfold readConnectQuery
  split_ifs with reads
  · have parameters : readable ["stream", "tag", "list", "access_token"] query = true := by
      simp only [readable, List.all_cons, List.all_nil, Bool.and_true, Bool.and_eq_true] at *
      exact ⟨reads.1, reads.2.1, reads.2.2.1, once⟩
    rw [readStreamingQuery, if_pos parameters] at unnamed
    exact unnamed
  · rfl

/-! ## Authentication -/

/-- `LocalApiAuthentication`, with the accounts by id and the scopes of the token. -/
inductive RequestAuthentication where
  | auth0 (accountId : String)
  | oauthToken (accountId : String) (scopesJson : Json)
  | appToken
  | invalidBearer
  | none

structure StreamingRequest where
  query : QueryPairs
  /-- The path below `/api/v1/streaming/`. -/
  extraPath : Option String
  upgrade : Option String
  secWebSocketProtocol : Option String

/-- What the outside answers: an error of a lookup is `none`. -/
structure StreamingAnswers where
  /-- `authenticate_local_api_request`. -/
  authentication : Option RequestAuthentication
  /-- `find_oauth_access_token_with_account_by_bearer_token`. -/
  findToken : String → Option (Option FoundToken)
  /-- Whether `upgrade_stream_hub_websocket` returns a response. -/
  hubReachable : Bool

def streamingTokenCoversChannel (scopesJson : Json) (stream : Option String) : Bool :=
  let granular :=
    if stream = some "user:notification" then "read:notifications" else "read:statuses"
  oauthAccessTokenHasAnyScope scopesJson ["read", granular]

inductive StreamingAuthOutcome where
  | viewer (accountId : Option String)
  | invalidToken

/-- The token of a request without a bearer token: the query's, else the protocol's. -/
def presentedToken (queryAccessToken protocolToken : Option String) : Option String :=
  (nonblank queryAccessToken).or protocolToken

/-- `resolve_streaming_auth`; an error is `none`. -/
def resolveStreamingAuth (answers : StreamingAnswers)
    (stream queryAccessToken protocolToken : Option String) : Option StreamingAuthOutcome :=
  answers.authentication.bind fun
    | .auth0 viewer => some (.viewer (some viewer))
    | .oauthToken account scopesJson =>
      if !streamingTokenCoversChannel scopesJson stream then some .invalidToken
      else some (.viewer (some account))
    | .appToken => some .invalidToken
    | .invalidBearer => some .invalidToken
    | .none =>
      match presentedToken queryAccessToken protocolToken with
      | none => some (.viewer none)
      | some token => (answers.findToken token).map fun
          | none => .invalidToken
          | some found =>
            if !streamingTokenCoversChannel found.scopesJson stream then .invalidToken
            else .viewer found.accountId

/-- What a request authenticates with. -/
inductive Credential where
  /-- A session of the account itself, without scopes. -/
  | session
  | token (scopesJson : Json)
  | none

def Credential.covers : Credential → String → Bool
  | .session, _ => true
  | .token scopesJson, stream => streamingTokenCoversChannel scopesJson (some stream)
  | .none, _ => false

/-- The credential `resolve_streaming_auth` goes by. -/
def credentialOf (answers : StreamingAnswers) (queryAccessToken protocolToken : Option String) :
    Credential :=
  match answers.authentication with
  | some (.auth0 _) => .session
  | some (.oauthToken _ scopesJson) => .token scopesJson
  | some .none =>
    match (presentedToken queryAccessToken protocolToken).map answers.findToken with
    | some (some (some found)) => .token found.scopesJson
    | _ => .none
  | _ => .none

/-- **A request that passes with a viewer has a credential that covers its channel.** -/
theorem covers_of_resolveStreamingAuth {answers : StreamingAnswers}
    {stream : String} {queryAccessToken protocolToken : Option String} {viewer : String}
    (passes : resolveStreamingAuth answers (some stream) queryAccessToken protocolToken
      = some (.viewer (some viewer))) :
    (credentialOf answers queryAccessToken protocolToken).covers stream = true := by
  unfold resolveStreamingAuth at passes
  unfold credentialOf
  cases authenticated : answers.authentication with
  | none =>
    rw [authenticated] at passes
    cases passes
  | some authentication =>
    rw [authenticated] at passes
    cases authentication with
    | auth0 account => rfl
    | oauthToken account scopesJson =>
      rw [Option.bind_some] at passes
      cases covers : streamingTokenCoversChannel scopesJson (some stream) with
      | true => exact covers
      | false => simp [covers] at passes
    | appToken | invalidBearer => cases passes
    | none =>
      cases presented : presentedToken queryAccessToken protocolToken with
      | none => simp [presented] at passes
      | some token =>
        cases got : answers.findToken token with
        | none => simp [presented, got] at passes
        | some row =>
          cases row with
          | none => simp [presented, got] at passes
          | some known =>
            simp only [Option.map_some, got]
            cases covers : streamingTokenCoversChannel known.scopesJson (some stream) with
            | true => exact covers
            | false => simp [presented, got, covers] at passes

/-! ## Sockets -/

/-- `StreamingWebSocketSubscription` of the polling Worker. -/
structure PollSubscription where
  streamName : String
  tag : Option String
  list : Option String

def streamingWebsocketSubscriptionKey (streamName : String) (tag list : Option String) : String :=
  streamName ++ String.ofList (Char.ofNat 0x1f :: (tag.getD "" ++ "\u001f" ++ list.getD "").toList)

def PollSubscription.key (subscription : PollSubscription) : String :=
  streamingWebsocketSubscriptionKey subscription.streamName subscription.tag subscription.list

abbrev PollSubscriptions := Table PollSubscription PollSubscription.key

def addStreamingWebsocketSubscription (subscription : PollSubscription)
    (subscriptions : PollSubscriptions) : PollSubscriptions :=
  subscriptions.insert subscription

def removeStreamingWebsocketSubscription (streamName : String) (tag list : Option String)
    (subscriptions : PollSubscriptions) : PollSubscriptions :=
  subscriptions.deleteWhere fun subscription =>
    subscription.key == streamingWebsocketSubscriptionKey streamName tag list

/-- A message handler of the hub that waits for the hub of a channel, with its copy of
the attachment. -/
structure WaitingHandler where
  subscription : StreamSubscription
  copy : SocketSubscriptionState

/-- Who serves a websocket, and what it keeps of the socket. -/
inductive Serving where
  | hub (attachment : SocketSubscriptionState) (waiting : List WaitingHandler)
  | worker (subscriptions : PollSubscriptions)

/-- An open websocket with the account it was opened for. -/
structure StreamingSocket where
  viewer : Option String
  serving : Serving

/-! ## Upgrades -/

/-- The hub and the account. -/
def streamHubProxyTarget (stream : String) (viewer tag list : Option String) :
    Option (String × Option String) :=
  let session := viewer.map fun accountId => (streamHubSessionIdName accountId, some accountId)
  if ["user", "user:notification", "direct"].contains stream then session
  else if stream = "list" then (nonblank list).bind fun _ => session
  else if ["public", "public:media", "public:local", "public:local:media", "public:remote",
      "public:remote:media"].contains stream then
    session.or (some (streamHubChannelIdName stream none, none))
  else if ["hashtag", "hashtag:local"].contains stream then
    (nonblank tag).bind fun tagValue =>
      session.or (some (streamHubChannelIdName stream (some tagValue), none))
  else none

structure StreamHubWebSocketUpgradePlan where
  hubName : String
  stream : Option String
  tag : Option String
  list : Option String
  accountId : Option String

def streamHubWebsocketUpgradePlan (initialStream viewer tag list : Option String) :
    Option StreamHubWebSocketUpgradePlan :=
  match initialStream with
  | some stream => (streamHubProxyTarget stream viewer tag list).map fun target =>
    ⟨target.1, some stream, tag, list, target.2⟩
  | none => viewer.map fun accountId =>
    ⟨streamHubSessionIdName accountId, none, none, none, some accountId⟩

/-- The headers `set_stream_hub_subscription_headers` sets, each for want of a value the
query of the client. -/
def streamHubConnectParams (plan : StreamHubWebSocketUpgradePlan) (query : QueryPairs) :
    StreamHubConnectParams where
  stream := (nonblank plan.stream).or (readConnectQuery query).stream
  tag := (nonblank plan.tag).or (readConnectQuery query).tag
  list := (nonblank plan.list).or (readConnectQuery query).list
  accountId := (nonblank plan.accountId).or (readConnectQuery query).accountId

/-- The attachment of `handle_websocket_upgrade`. -/
def upgradeAttachment (params : StreamHubConnectParams) : SocketSubscriptionState where
  subscriptions := (params.stream.map fun stream =>
    StreamSubscription.new stream params.tag params.list).toList
  sessionHub := (nonblank params.accountId).map streamHubSessionIdName

/-- The subscriptions `run_streaming_websocket` starts with. -/
def initialPollSubscriptions (initialStream tag list : Option String) : PollSubscriptions :=
  match initialStream with
  | some stream => addStreamingWebsocketSubscription ⟨stream, tag, list⟩ Table.empty
  | none => Table.empty

def streamingWebsocketUpgradeResponse (request : StreamingRequest) (answers : StreamingAnswers)
    (initialStream tag list viewer : Option String) : StreamingSocket where
  viewer := viewer
  serving :=
    match streamHubWebsocketUpgradePlan initialStream viewer tag list with
    | some plan =>
      if answers.hubReachable then
        .hub (upgradeAttachment (streamHubConnectParams plan request.query)) []
      else .worker (initialPollSubscriptions initialStream tag list)
    | none => .worker (initialPollSubscriptions initialStream tag list)

/-! ## Requests -/

def websocketProtocolAccessToken (request : StreamingRequest) : Option String :=
  request.secWebSocketProtocol.bind fun protocols =>
    ((splitOn protocols ",").map trim).find? fun value => value != ""

def StreamingRequest.wantsWebsocket (request : StreamingRequest) : Bool :=
  request.upgrade.any fun value => toAsciiLowercase value == "websocket"

def StreamingRequest.protocolToken (request : StreamingRequest) : Option String :=
  if request.wantsWebsocket then websocketProtocolAccessToken request else none

def isStreamingHealthPath (extraPath : Option String) : Bool :=
  extraPath.any fun path => toAsciiLowercase path == "health"

/-- The first channel of a request, checked; `none` for a websocket that names none. -/
def StreamingRequest.initialStream (request : StreamingRequest) :
    Except StreamingChannelValidationError (Option String) :=
  let query := readStreamingQuery request.query
  if request.wantsWebsocket && query.stream.isNone && (nonblank request.extraPath).isNone then
    .ok none
  else
    match validateStreamingChannelRequest query.stream query.tag query.list
        (nonblank request.extraPath) with
    | .ok stream => .ok (some stream)
    | .error error => .error error

variable {req : StreamingRequest}

theorem supports_of_initialStream {stream : String}
    (named : req.initialStream = .ok (some stream)) :
    streamingChannelSupportsLiveEvents stream = true := by
  simp only [StreamingRequest.initialStream] at named
  split_ifs at named with blank
  · cases named
  · split at named
    · rename_i checked
      cases named
      exact supports_of_channelRequest checked
    · cases named

theorem query_of_initialStream_none
    (unnamed : req.initialStream = .ok none) :
    (readStreamingQuery req.query).stream = none := by
  simp only [StreamingRequest.initialStream] at unnamed
  split_ifs at unnamed with blank
  · simp only [Bool.and_eq_true, Option.isNone_iff_eq_none] at blank
    exact blank.1.2
  · split at unnamed <;> cases unnamed

/-- The answer to a streaming request. -/
inductive StreamingResponse where
  /-- The text `OK`. -/
  | health
  | badRequest (message : String)
  /-- An error of the authentication. -/
  | failed
  /-- `invalid_access_token_response`, with status 401. -/
  | invalidAccessToken (message : ErrorMessage)
  | socket (socket : StreamingSocket)
  /-- `streaming_sse_response`. -/
  | sse (stream : String) (tag list viewer : Option String)

def invalidAccessTokenResponse : StreamingResponse :=
  .invalidAccessToken ⟨"The access token is invalid", 401⟩

/-- `streaming_placeholder_response`, after its authentication. -/
def respondAuthenticated (request : StreamingRequest) (answers : StreamingAnswers)
    (initialStream viewer : Option String) : StreamingResponse :=
  let query := readStreamingQuery request.query
  let requiresViewer := request.wantsWebsocket || initialStream.any streamingChannelRequiresAuth
  if requiresViewer && viewer.isNone then invalidAccessTokenResponse
  else if request.wantsWebsocket then
    .socket (streamingWebsocketUpgradeResponse request answers initialStream query.tag
      query.list viewer)
  else
    match initialStream with
    | none => .badRequest StreamingChannelValidationError.unknownChannelRequested.badRequestMessage
    | some stream => .sse stream query.tag query.list viewer

def streamingPlaceholderResponse (request : StreamingRequest) (answers : StreamingAnswers) :
    StreamingResponse :=
  if isStreamingHealthPath (nonblank request.extraPath) then .health
  else
    match request.initialStream with
    | .error error => .badRequest error.badRequestMessage
    | .ok initialStream =>
      match resolveStreamingAuth answers initialStream
          (readStreamingQuery request.query).accessToken request.protocolToken with
      | none => .failed
      | some .invalidToken => invalidAccessTokenResponse
      | some (.viewer viewer) => respondAuthenticated request answers initialStream viewer

def StreamingRequest.credential (request : StreamingRequest) (answers : StreamingAnswers) :
    Credential :=
  credentialOf answers (readStreamingQuery request.query).accessToken request.protocolToken

/-- **What opens a websocket**: a viewer, and a first channel, if one is named, that has
events and is covered. -/
theorem socket_of_placeholder
    {answers : StreamingAnswers} {socket : StreamingSocket}
    (opened : streamingPlaceholderResponse req answers = .socket socket) :
    ∃ initialStream viewer, req.initialStream = .ok initialStream
      ∧ (∀ stream ∈ initialStream, streamingChannelSupportsLiveEvents stream = true
          ∧ (req.credential answers).covers stream = true)
      ∧ socket = streamingWebsocketUpgradeResponse req answers initialStream
          (readStreamingQuery req.query).tag (readStreamingQuery req.query).list
          (some viewer) := by
  unfold streamingPlaceholderResponse at opened
  split_ifs at opened
  cases named : req.initialStream with
  | error error => simp [named] at opened
  | ok initialStream =>
    simp only [named] at opened
    cases got : resolveStreamingAuth answers initialStream
        (readStreamingQuery req.query).accessToken req.protocolToken with
    | none => simp [got] at opened
    | some out =>
      cases out with
      | invalidToken => simp [got, invalidAccessTokenResponse] at opened
      | viewer account =>
        simp only [got, respondAuthenticated] at opened
        cases account with
        | none =>
          cases websocket : req.wantsWebsocket <;>
            cases initialStream <;>
            simp [websocket, invalidAccessTokenResponse] at opened
          split_ifs at opened
        | some viewer =>
          simp only [Option.isNone_some, Bool.and_false, Bool.false_eq_true,
            if_false] at opened
          split_ifs at opened with websocket
          · cases opened
            refine ⟨initialStream, viewer, rfl, ?_, rfl⟩
            rintro stream isInitial
            cases isInitial
            exact ⟨supports_of_initialStream named, covers_of_resolveStreamingAuth got⟩
          · cases initialStream <;> cases opened

end Cfwdon.Streaming
