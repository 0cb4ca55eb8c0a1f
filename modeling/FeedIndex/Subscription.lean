import FeedIndex.Url.Target

/-!
# Subscriptions

How a stream is asked for. A Jetstream filters by accounts and collections and limits both; a relay sends
everything. Both resume from a position. The request is the address with its parameters and a user agent
that ends in the name of this client.
-/

namespace FeedIndex

/-! ## What can be wrong -/

/-- **ConfigFailure** — why a subscription cannot be set up. -/
inductive ConfigFailure
  | tooManyCollections (count : Nat)
  | tooManyDids (count : Nat)
  | badEndpoint (failure : Url.Failure)
deriving DecidableEq, Repr

/-- **message** — the wording of the cause. -/
def ConfigFailure.message : ConfigFailure → String
  | .tooManyCollections count => "too many wanted collections: " ++ toString count ++ " > 100"
  | .tooManyDids count => "too many wanted DIDs: " ++ toString count ++ " > 10,000"
  | .badEndpoint failure => "invalid endpoint: " ++ failure.message

/-- **RequestFailure** — why a request cannot be made. -/
inductive RequestFailure
  | badEndpoint (failure : Url.Failure)
  /-- The address is a URL and no target of a request. -/
  | badTarget (failure : Target.Failure)
  /-- The user agent is no header value. -/
  | badUserAgent
deriving DecidableEq, Repr

/-- **message?** — the wording of the cause, where it has one. -/
def RequestFailure.message? : RequestFailure → Option String
  | .badEndpoint failure => some ("invalid endpoint url: " ++ failure.message)
  | .badTarget _ => none
  | .badUserAgent => none

/-! ## Requests -/

/-- **Request** — what the server is asked for, and by whom. -/
structure Request where
  target : Target
  userAgent : String
deriving DecidableEq, Repr

/-- The name of this client. -/
def clientName : String := "firehose/v0.1.0"

/-- The user agent: the caller's own name, if there is one, before that of the client. -/
def userAgentOf : Option String → String
  | none => clientName
  | some agent => agent ++ " " ++ clientName

/-- A character that may stand in a header: no control but the tab. -/
def isHeaderChar (c : Char) : Bool := c == '\t' || (0x20 ≤ c.toNat && c.toNat != 0x7F)

/-- The parameter of a position. -/
def cursorParameter (cursor : Option Int) : List (String × String) :=
  (cursor.map fun n => ("cursor", toString n)).toList

/-- **requestOf** — the request for an address with parameters. -/
def requestOf (endpoint : String) (parameters : List (String × String)) (agent : Option String) :
    Except RequestFailure Request :=
  match Url.parse endpoint with
  | .error failure => .error (.badEndpoint failure)
  | .ok url =>
    match Target.ofUrl (url.withParameters parameters) with
    | .error failure => .error (.badTarget failure)
    | .ok target =>
      if (userAgentOf agent).toList.all isHeaderChar then .ok ⟨target, userAgentOf agent⟩
      else .error .badUserAgent

/-! ## Jetstreams -/

/-- **endpointOf** — the address a shortcut stands for; every other text is an address itself. -/
def endpointOf (s : String) : String :=
  if s = "us-east-1" then "wss://jetstream1.us-east.bsky.network/subscribe"
  else if s = "us-east-2" then "wss://jetstream2.us-east.bsky.network/subscribe"
  else if s = "us-west-1" then "wss://jetstream1.us-west.bsky.network/subscribe"
  else if s = "us-west-2" then "wss://jetstream2.us-west.bsky.network/subscribe"
  else s

/-- **Jetstream** — a subscription to a Jetstream. Without wanted accounts or collections all are sent. -/
structure Jetstream where
  endpoint : String := endpointOf "us-east-1"
  collections : List String := []
  dids : List String := []
  userAgent : Option String := none
deriving DecidableEq, Repr

namespace Jetstream

/-- A subscription names at most this many collections. -/
def maxCollections : Nat := 100

/-- A subscription names at most this many accounts. -/
def maxDids : Nat := 10000

/-- **validate** — the subscription keeps the limits, and its address is a URL. -/
def validate (config : Jetstream) : Except ConfigFailure Unit :=
  if maxCollections < config.collections.length then .error (.tooManyCollections config.collections.length)
  else if maxDids < config.dids.length then .error (.tooManyDids config.dids.length)
  else
    match Url.parse config.endpoint with
    | .error failure => .error (.badEndpoint failure)
    | .ok _ => .ok ()

/-- The parameters: accounts, collections, no compression, and the position. -/
def parameters (config : Jetstream) (cursor : Option Int) : List (String × String) :=
  config.dids.map (fun did => ("wantedDids", did)) ++
    config.collections.map (fun name => ("wantedCollections", name)) ++
    ("compress", "false") :: cursorParameter cursor

/-- **request** — the request that opens the stream. -/
def request (config : Jetstream) (cursor : Option Int) : Except RequestFailure Request :=
  requestOf config.endpoint (config.parameters cursor) config.userAgent

end Jetstream

/-! ## Relays -/

/-- **Relay** — a subscription to a relay. -/
structure Relay where
  endpoint : String := "wss://bsky.network/xrpc/com.atproto.sync.subscribeRepos"
  userAgent : Option String := none
deriving DecidableEq, Repr

namespace Relay

/-- **validate** — the address is a URL. -/
def validate (config : Relay) : Except RequestFailure Unit :=
  match Url.parse config.endpoint with
  | .error failure => .error (.badEndpoint failure)
  | .ok _ => .ok ()

/-- **request** — the request that opens the stream. -/
def request (config : Relay) (cursor : Option Int) : Except RequestFailure Request :=
  requestOf config.endpoint (cursorParameter cursor) config.userAgent

end Relay

end FeedIndex
