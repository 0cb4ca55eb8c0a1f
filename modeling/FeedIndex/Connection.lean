import FeedIndex.Network
import FeedIndex.Subscription
import FeedIndex.Transport.Session

/-!
# Connecting

A subscription is checked once when it is set up and, for a Jetstream, once more when it is opened. Opening
it makes the request and dials; what then comes over the socket is the caller's to know. Every failure has
its causes, the last of them the innermost.
-/

namespace FeedIndex

/-! ## Failures and their causes -/

/-- **SetupFailure** — why a subscription is refused at once. -/
inductive SetupFailure
  | jetstream (cause : ConfigFailure)
  | relay (cause : RequestFailure)
deriving DecidableEq, Repr

/-- **ConnectFailure** — why a stream does not open. -/
inductive ConnectFailure
  | config (cause : ConfigFailure)
  | request (cause : RequestFailure)
  /-- It is not known where the server listens. -/
  | unsupportedScheme
  | dial (cause : NetworkFailure)
deriving DecidableEq, Repr

/-- The causes of a refused configuration: itself, and what is inside it. -/
def ConfigFailure.causes : ConfigFailure → List String
  | .badEndpoint failure => [(ConfigFailure.badEndpoint failure).message, failure.message]
  | failure => [failure.message]

/-- A failure of the socket before there is a stream, with its causes. -/
def socketCauses (kind detail : String) : List String :=
  let cause := kind ++ ": " ++ detail
  ["websocket connect failed: " ++ cause, cause, detail]

/-- The causes of a request that cannot be made. -/
def RequestFailure.causes : RequestFailure → List String
  | .badEndpoint failure => ["invalid endpoint url: " ++ failure.message, failure.message]
  | .badTarget failure => ["invalid request uri: " ++ failure.message, failure.message]
  | .badUserAgent => socketCauses "HTTP format error" "failed to parse header value"

/-- The causes of a setup that is refused. -/
def SetupFailure.causes : SetupFailure → List String
  | .jetstream cause => cause.causes
  | .relay cause => cause.causes

/-- The causes of a stream that does not open. -/
def ConnectFailure.causes : ConnectFailure → List String
  | .config cause => ["invalid connection config: " ++ cause.message]
  | .request cause => cause.causes
  | .unsupportedScheme => socketCauses "URL error" "URL scheme not supported"
  | .dial cause => socketCauses "IO error" cause.message

/-- **message** — the wording of the outermost cause. -/
def ConnectFailure.message (failure : ConnectFailure) : String := failure.causes.headD ""

/-! ## Opening a stream -/

/-- **Subscription** — a subscription on either transport. -/
inductive Subscription
  | jetstream (config : Jetstream)
  | relay (config : Relay)
deriving DecidableEq, Repr

/-- **Dial** — what comes over the socket after a request. -/
abbrev Dial := Request → Except NetworkFailure (List Incoming)

/-- **Network** — what a machine can reach, and where it can wait for connections. -/
structure Network where
  dial : Dial
  listen : Url.Host → Except NetworkFailure Unit

/-- **offline** — the network of a machine whose links are all down. -/
def Network.offline : Network where
  dial request := .error (Offline.reach request.target.address)
  listen := Offline.listen

namespace Subscription

/-- **setUp** — the subscription may be used. -/
def setUp : Subscription → Except SetupFailure Unit
  | .jetstream config => config.validate.mapError .jetstream
  | .relay config => config.validate.mapError .relay

/-- **request** — the request that opens the stream at a position. -/
def request (cursor : Option Int) : Subscription → Except ConnectFailure Request
  | .jetstream config =>
    match config.validate with
    | .error failure => .error (.config failure)
    | .ok () => (config.request cursor).mapError .request
  | .relay config => (config.request cursor).mapError .request

/-- The transport of a subscription. -/
def transport : Subscription → Transport
  | .jetstream _ => .jetstream
  | .relay _ => .relay

/-- **connect** — opens the stream at a position: what it gives out, and how it ends. -/
def connect (dial : Dial) (cursor : Option Int) (subscription : Subscription) :
    Except ConnectFailure (List (Option Commit) × Option SessionEnd) :=
  match subscription.request cursor with
  | .error failure => .error failure
  | .ok request =>
    if request.target.portNumber?.isNone then .error .unsupportedScheme
    else
      match dial request with
      | .error failure => .error (.dial failure)
      | .ok incoming => .ok (Session.play incoming { transport := subscription.transport })

end Subscription

end FeedIndex
