import FeedIndex.Connection
import FeedIndex.Pipeline

/-!
# Runs

A run goes on after the stored position, and breaks off at once if there is no position after it. Its reader
takes commits from the stream and hands each to an idle worker; if there is none, it waits, and the stream with
it. A run ends when the stream does, when the stream fails, or when it is cancelled, which drops the commit that
the reader may hold. The workers then finish what they have, and the watermark is flushed for the last time.
-/

namespace FeedIndex

/-- **Cue** — what a stream does next. -/
inductive Cue
  | commit (commit : Commit)
  /-- Nothing comes for some time. -/
  | silence (duration : Nat)
  | failure (cause : StreamFailure)
  /-- The stream ends. -/
  | finish
deriving DecidableEq, Repr

/-- **RunFailure** — what ends a run before it is cancelled. -/
inductive RunFailure
  /-- The position to go on from cannot be read. -/
  | cursor (cause : StoreFailure)
  /-- There is no position after the stored one. It is no error that is returned: the run breaks off. -/
  | overflow
  | connect (cause : ConnectFailure)
  | stream (cause : StreamFailure)
  | streamEnded
deriving DecidableEq, Repr

/-- **message** — the wording of the cause. -/
def RunFailure.message : RunFailure → String
  | .cursor cause => "reading the resume cursor: " ++ cause.message?.getD ""
  | .overflow => "attempt to add with overflow"
  | .connect cause => "connecting upstream: " ++ cause.message
  | .stream cause => "upstream stream failed: " ++ cause.message?.getD "websocket error"
  | .streamEnded => "upstream stream ended"

/-- The causes inside a failure, the outermost first. -/
def RunFailure.causes : RunFailure → List String
  | .cursor _ | .overflow => []
  | .connect cause => cause.causes
  | .stream cause => cause.message?.toList
  | .streamEnded => []

/-- **RunReport** — what a run comes to. -/
structure RunReport (σ : Type) where
  /-- A run that was cancelled ended well. -/
  result : Except RunFailure Unit
  /-- The position that the stream was asked to start from, if it came to that. -/
  asked : Option (Option Int) := none
  elapsed : Nat := 0
  index : Index σ
  /-- The positions that were written, the first one first. -/
  writes : List Int := []
  metrics : Metrics

namespace Pipeline

variable {σ : Type} [Store σ]

/-- **successor?** — the next position, if it fits into 64 bits. -/
def successor? (position : Int) : Option Int :=
  if position + 1 < Nat.pow 2 63 then some (position + 1) else none

/-- **asked?** — the position that a stream is asked to start from: the one after the stored position, if there is
one. Without a stored position a stream is asked for what comes next. -/
def asked? : Option Int → Option (Option Int)
  | none => some none
  | some cursor => (successor? cursor).map some

/-- **read** — the reader follows a stream until it ends or the run is cancelled. A stream that has nothing
more to give is cancelled. -/
def read (config : PipelineConfig) (cancelAt : Option Nat) :
    List Cue → Pipeline σ → Except RunFailure Unit × Pipeline σ
  | [], s => (.ok (), s)
  | .finish :: _, s => (.error .streamEnded, s)
  | .failure cause :: _, s => (.error (.stream cause), s)
  | .silence duration :: rest, s =>
    match cancelAt with
    | some time =>
      if time ≤ s.now + duration then (.ok (), s.advanceTo config time)
      else read config cancelAt rest (s.advanceTo config (s.now + duration))
    | none => read config cancelAt rest (s.advanceTo config (s.now + duration))
  | .commit commit :: rest, s =>
    match s.awaitIdle config cancelAt with
    | some s => read config cancelAt rest (s.dispatch config commit)
    | none =>
      match cancelAt with
      | some time => (.ok (), s.advanceTo config time)
      | none => (.ok (), s)

/-- The report of a pipeline that has come to its end. -/
def report (result : Except RunFailure Unit) (asked : Option Int) (s : Pipeline σ) : RunReport σ :=
  { result
    asked := some asked
    elapsed := s.now
    index := s.index
    writes := s.flusher.writes
    metrics := { s.metrics with
      rosterSize := s.index.roster.reportedSize?
      flushed := s.flusher.writes.getLast?
      workerCursors := s.progress.positions } }

/-- The report of a run that did not begin. -/
def reportOfFailure (failure : RunFailure) (asked : Option (Option Int)) (index : Index σ) : RunReport σ :=
  { result := .error failure
    asked
    index
    metrics := { rosterSize := index.roster.reportedSize? } }

/-- **follow** — a run over an open stream. -/
def follow (config : PipelineConfig) (cancelAt : Option Nat) (cursor asked : Option Int) (cues : List Cue)
    (index : Index σ) : RunReport σ :=
  let (result, s) := read config cancelAt cues (start config cursor index)
  (s.drain config).flush.report result asked

/-- **run** — a run from the position after the stored one, over the stream that opens there. -/
def run (config : PipelineConfig) (cancelAt : Option Nat)
    (source : Option Int → Except ConnectFailure (List Cue)) (index : Index σ) : RunReport σ :=
  let (read, store) := (Store.getCursor : Storing σ (Option Int)).run.run index.store
  let index := { index with store }
  match read with
  | .error cause => reportOfFailure (.cursor cause) none index
  | .ok cursor =>
    match asked? cursor with
    | none => reportOfFailure .overflow none index
    | some asked =>
      match source asked with
      | .error cause => reportOfFailure (.connect cause) (some asked) index
      | .ok cues => follow config cancelAt cursor asked cues index

end Pipeline

end FeedIndex
