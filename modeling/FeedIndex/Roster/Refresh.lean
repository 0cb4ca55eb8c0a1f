import FeedIndex.Roster
import FeedIndex.Ticker

/-!
# Refreshing the roster

In the background the roster is taken from the store once per period. One change of the roster is made at a
time: whoever wants to make one joins a line, and the head of the line has its turn. A refresh is given up
when it takes too long, in the line or at a store that does not answer, and a refresh that fails or is given
up leaves the roster as it was.

Time passes only while somebody waits. The acts of the background come in the order of their times, so a
wait is a run of acts up to its end, and there are boundedly many up to any time: every refresh that begins
moves the next tick of its refresher on, and there are at most two acts more to a refresh.
-/

namespace FeedIndex

/-- **Refresher** — a refresh in the background, once per period. -/
structure Refresher where
  id : Nat
  ticker : Ticker
  /-- The time at which the refresh under way is given up. -/
  givenUpAt : Option Nat := none
  /-- It ends as soon as no refresh is under way. -/
  isEnding : Bool := false
deriving DecidableEq, Repr

/-- **Claimant** — who wants to change the roster. -/
inductive Claimant where
  /-- The one who calls the operations below. -/
  | caller
  | refresher (id : Nat)
deriving DecidableEq, Repr

/-- **RefreshAct** — what a refresher does next: ask the store when it has its turn, give up a refresh, or
begin one. -/
inductive RefreshAct where
  | ask (id : Nat)
  | giveUp (id : Nat)
  | begin (id : Nat)
deriving DecidableEq, Repr

namespace Refresher

/-- A refresher whose first refresh begins a period from now. -/
def start (id now period : Nat) : Refresher := { id, ticker := .start now period }

/-- **begin** — a refresh that begins now. -/
def begin (now patience : Nat) (refresher : Refresher) : Refresher :=
  { refresher with ticker := refresher.ticker.take now, givenUpAt := some (now + patience) }

/-- **alarm** — what a refresher does when nobody gives it a turn, and when. A tick whose time has passed is
taken at once. -/
def alarm (now : Nat) (refresher : Refresher) : Nat × RefreshAct :=
  match refresher.givenUpAt with
  | some time => (time, .giveUp refresher.id)
  | none => (max now refresher.ticker.due, .begin refresher.id)

/-- There are no more acts than this up to a time. -/
def maxActs (time : Nat) (refresher : Refresher) : Nat := 3 * (time + 1 - refresher.ticker.due) + 3

theorem begin_due_lt {now patience : Nat} {refresher : Refresher} (h : 0 < refresher.ticker.period) :
    refresher.ticker.due < (refresher.begin now patience).ticker.due := by
  simp only [begin, Ticker.take]
  split <;> omega

end Refresher

/-- **Refreshing** — an index with its background refresh, in time. -/
structure Refreshing (σ : Type) where
  now : Nat := 0
  index : Index σ
  /-- The store does not answer when it is asked for all actors. -/
  isSilent : Bool := false
  /-- How often the store was asked for all actors. -/
  listings : Nat := 0
  /-- A refresh is given up after this time. -/
  patience : Nat := 10000
  refreshers : List Refresher := []
  /-- Who wants to change the roster, in the order in which they came. -/
  line : List Claimant := []
  /-- The head of the line has asked a store that does not answer. -/
  isUnanswered : Bool := false
  /-- How many refreshers there have been. -/
  started : Nat := 0
  /-- What `stop` ends: `none` inside is a refresher that could not be started. -/
  latest : Option (Option Nat) := none

namespace Refreshing

/-- The usual time between refreshes, in seconds. -/
def defaultPeriodSeconds : Nat := 60

/-- The usual patience, in seconds. -/
def defaultPatienceSeconds : Nat := 10

variable {σ : Type} [Store σ]

/-- **run** — a computation on the index, as things are now. -/
def run (operation : Indexing σ ε α) (s : Refreshing σ) : Except ε α × Refreshing σ :=
  let (result, index) := operation.run.run s.index
  (result, { s with index })

/-- The store was asked for all actors. -/
def countListing (s : Refreshing σ) : Refreshing σ := { s with listings := s.listings + 1 }

/-! ## Acts of the background -/

/-- Changes a refresher. -/
def update (id : Nat) (change : Refresher → Refresher) (s : Refreshing σ) : Refreshing σ :=
  { s with refreshers := s.refreshers.map fun r => if r.id = id then change r else r }

/-- **begin** — a refresher joins the line. -/
def begin (id : Nat) (s : Refreshing σ) : Refreshing σ :=
  { s.update id (·.begin s.now s.patience) with line := s.line ++ [.refresher id] }

/-- **finish** — a refresher leaves the line. It ends, begins again if its next tick has come already, or
waits for that tick. -/
def finish (id : Nat) (s : Refreshing σ) : Refreshing σ :=
  let s := { s with
    line := s.line.erase (.refresher id)
    isUnanswered := s.isUnanswered && s.line.head? != some (Claimant.refresher id) }
  match s.refreshers.find? fun r => r.id = id with
  | none => s
  | some refresher =>
    if refresher.isEnding then { s with refreshers := s.refreshers.filter (·.id ≠ id) }
    else if refresher.ticker.due ≤ s.now then s.begin id
    else s.update id ({ · with givenUpAt := none })

/-- **ask** — the refresher that has its turn asks the store. -/
def ask (id : Nat) (s : Refreshing σ) : Refreshing σ :=
  let s := s.countListing
  if s.isSilent then { s with isUnanswered := true } else (s.run Index.sync).2.finish id

/-- **perform** — an act at a time. -/
def perform (time : Nat) (act : RefreshAct) (s : Refreshing σ) : Refreshing σ :=
  let s := { s with now := time }
  match act with
  | .ask id => s.ask id
  | .giveUp id => s.finish id
  | .begin id => s.begin id

/-- **turn?** — the refresher that has its turn and has not asked the store yet. -/
def turn? (s : Refreshing σ) : Option Nat :=
  match s.line with
  | .refresher id :: _ => if s.isUnanswered then none else some id
  | _ => none

/-- The earlier one of two alarms, the first one if they are for the same time. -/
def earlier (a b : Nat × RefreshAct) : Nat × RefreshAct := if b.1 < a.1 then b else a

/-- **next?** — the next act of the background, and when. -/
def next? (s : Refreshing σ) : Option (Nat × RefreshAct) :=
  match s.turn? with
  | some id => some (s.now, .ask id)
  | none =>
    match s.refreshers.map (·.alarm s.now) with
    | [] => none
    | first :: rest => some (rest.foldl earlier first)

/-- The acts until something has happened, at most so many. -/
def actUntil (hasHappened : Refreshing σ → Bool) : Nat → Refreshing σ → Refreshing σ
  | 0, s => s
  | fuel + 1, s =>
    if hasHappened s then s
    else
      match s.next? with
      | none => s
      | some (time, act) => actUntil hasHappened fuel (s.perform time act)

/-- The time by which every refresh that is under way now is over. -/
def lastGivenUpAt (s : Refreshing σ) : Nat :=
  s.refreshers.foldl (fun time r => max time (r.givenUpAt.getD 0)) s.now

/-- There are no more acts than this up to a time. -/
def maxActs (time : Nat) (s : Refreshing σ) : Nat :=
  s.refreshers.foldl (fun count r => count + r.maxActs time) 0

/-- **waitUntil** — waits until something has happened that every refresh under way brings about. -/
def waitUntil (hasHappened : Refreshing σ → Bool) (s : Refreshing σ) : Refreshing σ :=
  actUntil hasHappened (s.maxActs s.lastGivenUpAt) s

/-! ## Operations -/

/-- **sleep** — lets time pass. What comes at the very end of that time is left for the next wait. -/
def sleep (duration : Nat) (s : Refreshing σ) : Refreshing σ :=
  let wakingTime := s.now + duration
  let isOver (s : Refreshing σ) : Bool := s.next?.all fun (time, _) => wakingTime ≤ time
  { actUntil isOver (s.maxActs wakingTime) s with now := wakingTime }

/-- **start** — refreshes once per period from now on. A refresher without a period cannot be started. -/
def start (period : Nat) (s : Refreshing σ) : Refreshing σ :=
  if period = 0 then { s with latest := some none }
  else
    { s with
      refreshers := s.refreshers ++ [.start s.started s.now period]
      started := s.started + 1
      latest := some (some s.started) }

/-- **stop** — ends the refresher that was started last, once no refresh of it is under way, and says whether
it ran. Those that were started before it go on. -/
def stop (s : Refreshing σ) : Option Bool × Refreshing σ :=
  match s.latest with
  | none => (none, s)
  | some none => (some false, { s with latest := none })
  | some (some id) =>
    let s := { s.update id ({ · with isEnding := true }) with latest := none }
    let isIdle (r : Refresher) : Bool := r.id = id && r.givenUpAt.isNone
    let s := { s with refreshers := s.refreshers.filter (!isIdle ·) }
    let isOver (s : Refreshing σ) : Bool := s.refreshers.all (·.id ≠ id) && s.turn?.isNone
    (some true, s.waitUntil isOver)

/-- **inTurn** — waits for the caller's turn to change the roster, and takes it. -/
def inTurn (change : Refreshing σ → α × Refreshing σ) (s : Refreshing σ) : α × Refreshing σ :=
  let isHead (s : Refreshing σ) : Bool := s.line.head? = some Claimant.caller
  let (result, s) := change ({ s with line := s.line ++ [Claimant.caller] }.waitUntil isHead)
  (result, { s with line := s.line.tail })

/-- **sync** — takes the roster from the store anew. -/
def sync (s : Refreshing σ) : Except StoreFailure Nat × Refreshing σ :=
  s.inTurn fun s => s.countListing.run Index.sync

/-- **createPending** — follows a new account. -/
def createPending (did : String) (now : Timestamp) (s : Refreshing σ) :
    Except StoreFailure Actor × Refreshing σ :=
  s.inTurn (run (Index.createPending did now))

/-- **setStatus** — changes the status of an actor. -/
def setStatus (did : String) (status : ActorStatus) (s : Refreshing σ) :
    Except StoreFailure Actor × Refreshing σ :=
  s.inTurn (run (Index.setStatus did status))

end Refreshing

end FeedIndex
