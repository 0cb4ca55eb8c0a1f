import FeedIndex.CommandLine.Disk
import FeedIndex.CommandLine.Options
import FeedIndex.Connection
import FeedIndex.Pipeline.Run
import FeedIndex.Store.Memory
import FeedIndex.Text.Quoted

/-!
# The program

What the command line does: it serves its metrics if it is asked to, opens the store, sets up the
subscription, takes the roster from the store, and runs until the stream ends or the run is cancelled. The
database of a relational store is there from the moment it is opened, whatever goes wrong later. A failure is
reported with its causes.
-/

namespace FeedIndex

/-- **Exit** — how the program ends. -/
structure Exit where
  code : Nat
  /-- The lines about what went wrong. -/
  report : List String := []
  disk : Disk

namespace Program

/-! ## Reports -/

/-- The lines of a cause, which is numbered if there are several. -/
def linesOf (several : Bool) (number : Nat) (cause : String) : List String :=
  let label := "    " ++ if several then toString number ++ ": " else ""
  let margin := "    " ++ if several then "   " else ""
  match Text.split '\n' cause.toList with
  | [] => [label]
  | first :: rest => (label ++ String.ofList first) :: rest.map fun line => margin ++ String.ofList line

/-- The lines of the causes. -/
def causeLines (causes : List String) : List String :=
  if causes.isEmpty then []
  else "Caused by:" :: (causes.mapIdx (linesOf (1 < causes.length))).flatten

/-- **reportOf** — the report of a failure with its causes. -/
def reportOf (failure : String) (causes : List String) : List String :=
  ("Error: " ++ failure) :: causeLines causes

/-! ## What the options stand for -/

/-- The collections that a Jetstream is asked for. -/
def wantedCollections : List String :=
  [Collection.postName, Collection.likeName, Collection.followName, Collection.profileName]

/-- **subscription** — what is subscribed to. -/
def subscription (options : Options) : Subscription :=
  match options.transport with
  | .jetstream =>
    .jetstream {
      endpoint := endpointOf (options.endpoint.getD "us-east-1")
      collections := wantedCollections
      userAgent := options.userAgent }
  | .relay =>
    let usual : Relay := {}
    .relay { endpoint := options.endpoint.getD usual.endpoint, userAgent := options.userAgent }

/-- A Jetstream sends no blocks that could be verified. -/
def openerOf (options : Options) : Opener :=
  if options.transport = .jetstream ∨ options.trustsRelay then .trusting else .verifying

/-- **configOf** — how the run is set up. -/
def configOf (options : Options) (clock : Clock) : PipelineConfig :=
  { handler := ⟨openerOf options, options.subject⟩
    workers := options.workers
    patience := 1000 * options.patience
    period := 1000 * options.flushPeriod
    clock }

/-- What the program says of a subscription it cannot set up. -/
def setupContext : SetupFailure → String
  | .jetstream _ => "jetstream config"
  | .relay _ => "relay config"

/-- What a stream that was opened does. -/
def cuesOf (played : List (Option Commit) × Option SessionEnd) : List Cue :=
  played.1.filterMap (·.map .commit) ++
    match played.2 with
    | none => []
    | some .closed => [.finish]
    | some (.failed cause) => [.failure cause]

/-! ## Running -/

/-- **serve** — runs on a store: the code to exit with, the report, and the store afterwards. A run that breaks
off takes the program with it; a roster that would be refreshed without pause stops it without a report. -/
def serve [Store σ] (dial : Dial) (clock : Clock) (options : Options) (store : σ) :
    Nat × List String × σ :=
  let subscription := subscription options
  match subscription.setUp with
  | .error failure => (1, reportOf (setupContext failure) failure.causes, store)
  | .ok () =>
    match (Index.sync : Indexing σ StoreFailure Nat).run.run { store } with
    | (.error failure, index) =>
      (1, reportOf "initial actor cache load" failure.message?.toList, index.store)
    | (.ok _, index) =>
      let source asked := (subscription.connect dial asked).map cuesOf
      let run := Pipeline.run (configOf options clock) none source index
      match run.result with
      | .error .overflow => (101, [], run.index.store)
      | result =>
        if options.refreshPeriod = 0 then (1, [], run.index.store)
        else
          match result with
          | .ok () => (0, [], run.index.store)
          | .error failure => (1, reportOf failure.message failure.causes, run.index.store)

/-- **runOn** — runs on the store that the options name. -/
def runOn (dial : Dial) (clock : Clock) (disk : Disk) (options : Options) : Exit :=
  match options.backend with
  | .memory =>
    let (code, report, _) := serve dial clock options ({} : Memory)
    { code, report, disk }
  | .sqlite =>
    let unopened (failure : DatabaseFailure) :=
      reportOf ("opening database at " ++ Text.quotedPath options.data) (failure.causes options.data)
    match Location.parse options.data with
    | .error failure => { code := 1, report := unopened failure, disk }
    | .ok location =>
      match disk.openDatabase location with
      | (.error failure, disk) => { code := 1, report := unopened failure, disk }
      | (.ok opened, disk) =>
        let (code, report, database) := serve dial clock options opened.database
        { code, report, disk := disk.keep opened database }

/-- What the program says of a host at which it cannot serve its metrics. -/
def unservedReport (failure : NetworkFailure) : List String :=
  reportOf "starting metrics server" ["failed to create HTTP listener: " ++ failure.message]

/-- **run** — the program with its arguments. -/
def run (network : Network) (clock : Clock) (disk : Disk) (arguments : List String) : Exit :=
  match Options.ofArguments arguments with
  | .error .help => { code := 0, disk }
  | .error .version => { code := 0, disk }
  | .error .misuse => { code := 2, disk }
  | .ok options =>
    match options.metricsHost.elim (.ok ()) network.listen with
    | .error failure => { code := 1, report := unservedReport failure, disk }
    | .ok () => runOn network.dial clock disk options

end Program

end FeedIndex
