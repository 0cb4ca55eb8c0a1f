import FeedIndex.Collection
import FeedIndex.Keyed

/-!
# What a run reports of itself

Gauges hold a last value, counters and the histogram count. Events are counted by the kind of their
collection, and the dropped ones by the reason.
-/

namespace FeedIndex

/-! ## Instruments -/

/-- **InstrumentKind** — how an instrument measures. -/
inductive InstrumentKind
  | gauge
  | counter
  | histogram
deriving DecidableEq, Repr

/-- The kind as it is written. -/
def InstrumentKind.name : InstrumentKind → String
  | .gauge => "gauge"
  | .counter => "counter"
  | .histogram => "histogram"

/-- **Instrument** — what is measured. -/
inductive Instrument
  | workerCursor
  | flushedCursor
  | workItemDuration
  | eventsHandled
  | eventsFailed
  | rosterSize
deriving DecidableEq, Repr

namespace Instrument

/-- All instruments. -/
def all : List Instrument :=
  [.workerCursor, .flushedCursor, .workItemDuration, .eventsHandled, .eventsFailed, .rosterSize]

/-- The name under which an instrument reports. -/
def name : Instrument → String
  | .workerCursor => "ingester_worker_cursor"
  | .flushedCursor => "ingester_flushed_cursor"
  | .workItemDuration => "ingester_work_item_duration_seconds"
  | .eventsHandled => "ingester_events_handled_total"
  | .eventsFailed => "ingester_events_failed_total"
  | .rosterSize => "ingester_actor_cache_size"

/-- What kind of instrument it is. -/
def kind : Instrument → InstrumentKind
  | .workerCursor => .gauge
  | .flushedCursor => .gauge
  | .workItemDuration => .histogram
  | .eventsHandled => .counter
  | .eventsFailed => .counter
  | .rosterSize => .gauge

/-- The unit of what is measured, if it has one. -/
def unit? : Instrument → Option String
  | .workItemDuration => some "seconds"
  | .eventsHandled => some "count"
  | .eventsFailed => some "count"
  | _ => none

/-- What is measured, in words. -/
def description : Instrument → String
  | .workerCursor => "last stream sequence number processed by each worker"
  | .flushedCursor => "last stream sequence number persisted"
  | .workItemDuration => "time spent handling one commit event, by event type"
  | .eventsHandled => "commit events handled, by event type"
  | .eventsFailed => "commit events dropped after a handler error or timeout, by reason"
  | .rosterSize => "actors in the current cache snapshot"

/-- The key of a value: the name of the instrument and, where there are several values, which it is. -/
def keyOf (instrument : Instrument) (label value : String) : String :=
  instrument.name ++ " " ++ label ++ "=" ++ value

end Instrument

/-! ## Values -/

/-- The label of a collection. -/
def Collection.label : Collection → String
  | .post => "post"
  | .like => "like"
  | .follow => "follow"
  | .profile => "profile"
  | .other => "other"

/-- **DropReason** — why an event was dropped. -/
inductive DropReason
  | error
  | integrity
  | timeout
deriving DecidableEq, Repr

/-- The label of a reason. -/
def DropReason.label : DropReason → String
  | .error => "error"
  | .integrity => "integrity"
  | .timeout => "timeout"

/-- **Metrics** — the values that were reported; what was never reported has none. -/
structure Metrics where
  rosterSize : Option Nat := none
  flushed : Option Int := none
  /-- The last positions of the workers that have one. -/
  workerCursors : List Int := []
  /-- Events that were handled, by collection. -/
  handled : Keyed Nat := []
  /-- Events that were dropped, by reason. -/
  dropped : Keyed Nat := []
  /-- Events that were timed, by collection. -/
  timed : Keyed Nat := []
deriving Repr

namespace Metrics

/-- One more under a key. -/
def count (key : String) (counts : Keyed Nat) : Keyed Nat :=
  counts.set key ((counts.get? key).getD 0 + 1)

/-- An event was handled. -/
def countHandled (collection : Collection) (metrics : Metrics) : Metrics :=
  { metrics with
    handled := count collection.label metrics.handled
    timed := count collection.label metrics.timed }

/-- An event was dropped because it failed. -/
def countFailed (collection : Collection) (reason : DropReason) (metrics : Metrics) : Metrics :=
  { metrics with
    dropped := count reason.label metrics.dropped
    timed := count collection.label metrics.timed }

/-- A commit was given up, and the event at which it stood with it. -/
def countTimeout (metrics : Metrics) : Metrics :=
  { metrics with dropped := count DropReason.timeout.label metrics.dropped }

/-- Values under the keys of an instrument. -/
def labelled (instrument : Instrument) (label : String) (counts : Keyed Nat) : List (String × Int) :=
  counts.map fun entry => (instrument.keyOf label entry.1, (entry.2 : Int))

/-- **report** — the values by key, without those of the workers. -/
def report (metrics : Metrics) : List (String × Int) :=
  (metrics.rosterSize.map fun n => (Instrument.rosterSize.name, (n : Int))).toList ++
    (metrics.flushed.map fun n => (Instrument.flushedCursor.name, n)).toList ++
    labelled .eventsHandled "type" metrics.handled ++
    labelled .eventsFailed "reason" metrics.dropped ++
    labelled .workItemDuration "type" metrics.timed

/-- The positions of the workers, ascending. -/
def sortedCursors (metrics : Metrics) : List Int := metrics.workerCursors.mergeSort

theorem get?_count (key other : String) (counts : Keyed Nat) :
    (count key counts).get? other =
      if other = key then some ((counts.get? key).getD 0 + 1) else counts.get? other :=
  Keyed.get?_set key other _ counts

end Metrics

end FeedIndex
