import FeedIndex.Handler
import FeedIndex.Watermark.Flusher
import Mathlib.Tactic.Common

/-!
# Crews

The workers of a run without its clock: a reader hands the commits of a stream over in their order, each to a
worker that is idle; a worker handles the events of its commit one by one, or gives the rest of them up, and
records the position when none is left; and the watermark is flushed now and then. An event is handled at once,
or a post is planned first and written later, with moves of others in between. Any of them may make the next
move, so what holds after every list of moves holds under every schedule. A move that cannot be made changes
nothing.
-/

namespace FeedIndex

/-- **Hand** — the commit that a worker is busy with. -/
structure Hand where
  position : Int
  /-- The events that are left to be handled. -/
  rest : List Event
  /-- The post that is being written, if one is; its event is the first one left. -/
  writing : Option PostRow := none
deriving Repr

/-- **Crew** — the workers of a run, and what they work on. -/
structure Crew (σ : Type) where
  index : Index σ
  /-- The commits that the reader has not handed over yet. -/
  upcoming : List Commit
  /-- What each worker is busy with. -/
  hands : List (Option Hand)
  progress : Watermark
  flusher : Flusher

/-- **Move** — what a crew does next. -/
inductive Move
  /-- An idle worker takes the next commit of the stream. -/
  | take (worker : Nat)
  /-- A worker handles the next event of its commit. -/
  | handle (worker : Nat) (now : Timestamp)
  /-- A worker plans the post that the next event of its commit creates, and begins to write it. -/
  | plan (worker : Nat) (now : Timestamp)
  /-- The post is written, and its event has been handled. -/
  | write (worker : Nat)
  /-- A commit that takes too long is given up, and counts as handled. -/
  | giveUp (worker : Nat)
  /-- A worker records the position of its commit, and is idle again. -/
  | finish (worker : Nat)
  | flush
deriving DecidableEq, Repr

namespace Crew

variable {σ : Type}

/-- **start** — idle workers before a stream. -/
def start (workers : Nat) (stream : List Commit) (flushed : Option Int) (index : Index σ) : Crew σ where
  index := index
  upcoming := stream
  hands := List.replicate workers none
  progress := .fresh workers
  flusher := ⟨flushed, []⟩

/-- What a worker is busy with. -/
def hand? (s : Crew σ) (worker : Nat) : Option Hand := (s.hands[worker]?).join

/-- The last position that a worker has recorded. -/
def recorded? (s : Crew σ) (worker : Nat) : Option Int := (s.progress.slots[worker]?).join

/-- A worker is busy with something else, or with nothing. -/
def setHand (s : Crew σ) (worker : Nat) (hand : Option Hand) : Crew σ :=
  { s with hands := s.hands.set worker hand }

variable [Store σ]

/-- **flush** — flushes the watermark. -/
def flush (s : Crew σ) : Crew σ :=
  let (_, flusher, store) := s.flusher.flush s.progress s.index.store
  { s with flusher, index := { s.index with store } }

/-- **step** — the crew after a move. -/
def step (handler : Handler) (s : Crew σ) : Move → Crew σ
  | .take worker =>
    match s.hands[worker]?, s.upcoming with
    | some none, commit :: rest =>
      { s.setHand worker (some ⟨commit.seq, commit.events, none⟩) with upcoming := rest }
    | _, _ => s
  | .handle worker now =>
    match s.hand? worker with
    | some ⟨position, event :: rest, none⟩ =>
      { s.setHand worker (some ⟨position, rest, none⟩) with index := (handler.run event now s.index).2 }
    | _ => s
  | .plan worker now =>
    match s.hand? worker with
    | some ⟨position, event :: rest, none⟩ =>
      match (handler.plan event now).run.run s.index with
      | (.ok (some post), index) => { s.setHand worker (some ⟨position, event :: rest, some post⟩) with index }
      | _ => s
    | _ => s
  | .write worker =>
    match s.hand? worker with
    | some ⟨position, _ :: rest, some post⟩ =>
      { s.setHand worker (some ⟨position, rest, none⟩) with
        index := ((Handler.storing (Store.createPost post)).run.run s.index).2 }
    | _ => s
  | .giveUp worker =>
    match s.hand? worker with
    | some hand => s.setHand worker (some ⟨hand.position, [], none⟩)
    | none => s
  | .finish worker =>
    match s.hand? worker with
    | some ⟨position, [], none⟩ =>
      { s.setHand worker none with progress := s.progress.record worker position }
    | _ => s
  | .flush => s.flush

/-- **run** — the crew after moves in their order. -/
def run (handler : Handler) (s : Crew σ) (moves : List Move) : Crew σ := moves.foldl (step handler) s

theorem run_concat (handler : Handler) (s : Crew σ) (before : List Move) (last : Move) :
    s.run handler (before ++ [last]) = (s.run handler before).step handler last := by
  unfold run
  rw [List.foldl_append, List.foldl_cons, List.foldl_nil]

/-- **Invariants of a step hold after every list of moves.** -/
theorem run_invariant {P : Crew σ → Prop} {handler : Handler}
    (preserved : ∀ s move, P s → P (s.step handler move)) {s : Crew σ} (start : P s) (moves : List Move) :
    P (s.run handler moves) := by
  induction moves generalizing s with
  | nil => exact start
  | cons move rest ih => exact ih (preserved s move start)

/-! ## Ways of a step -/

/-- **Steps** — the ways in which a move can go, with what each takes. -/
inductive Steps (handler : Handler) (s : Crew σ) : Move → Crew σ → Prop
  | stay (move : Move) : Steps handler s move s
  | take {worker : Nat} {commit : Commit} {rest : List Commit} (idle : s.hands[worker]? = some none)
      (upcoming : s.upcoming = commit :: rest) :
      Steps handler s (.take worker)
        { s.setHand worker (some ⟨commit.seq, commit.events, none⟩) with upcoming := rest }
  | handle {worker : Nat} {now : Timestamp} {position : Int} {event : Event} {rest : List Event}
      (busy : s.hand? worker = some ⟨position, event :: rest, none⟩) :
      Steps handler s (.handle worker now)
        { s.setHand worker (some ⟨position, rest, none⟩) with index := (handler.run event now s.index).2 }
  | plan {worker : Nat} {now : Timestamp} {position : Int} {event : Event} {rest : List Event} {post : PostRow}
      {index : Index σ} (busy : s.hand? worker = some ⟨position, event :: rest, none⟩)
      (planned : (handler.plan event now).run.run s.index = (.ok (some post), index)) :
      Steps handler s (.plan worker now)
        { s.setHand worker (some ⟨position, event :: rest, some post⟩) with index }
  | write {worker : Nat} {position : Int} {event : Event} {rest : List Event} {post : PostRow}
      (busy : s.hand? worker = some ⟨position, event :: rest, some post⟩) :
      Steps handler s (.write worker)
        { s.setHand worker (some ⟨position, rest, none⟩) with
          index := ((Handler.storing (Store.createPost post)).run.run s.index).2 }
  | giveUp {worker : Nat} {hand : Hand} (busy : s.hand? worker = some hand) :
      Steps handler s (.giveUp worker) (s.setHand worker (some ⟨hand.position, [], none⟩))
  | finish {worker : Nat} {position : Int} (done : s.hand? worker = some ⟨position, [], none⟩) :
      Steps handler s (.finish worker)
        { s.setHand worker none with progress := s.progress.record worker position }
  | flush : Steps handler s .flush s.flush

/-- A step goes one of these ways. -/
theorem steps_step (handler : Handler) (s : Crew σ) (move : Move) :
    Steps handler s move (s.step handler move) := by
  cases move with
  | take worker =>
    simp only [step]
    split
    · next idle upcoming => exact .take idle upcoming
    · exact .stay _
  | handle worker now =>
    simp only [step]
    split
    · next busy => exact .handle busy
    · exact .stay _
  | plan worker now =>
    simp only [step]
    split
    · next busy =>
      split
      · next planned => exact .plan busy planned
      · exact .stay _
    · exact .stay _
  | write worker =>
    simp only [step]
    split
    · next busy => exact .write busy
    · exact .stay _
  | giveUp worker =>
    simp only [step]
    split
    · next busy => exact .giveUp busy
    · exact .stay _
  | finish worker =>
    simp only [step]
    split
    · next done => exact .finish done
    · exact .stay _
  | flush => exact .flush

/-! ## Hands -/

omit [Store σ] in
theorem mem_hands_of_hand? {s : Crew σ} {worker : Nat} {hand : Hand} (busy : s.hand? worker = some hand) :
    s.hands[worker]? = some (some hand) := by
  unfold hand? at busy
  exact Option.join_eq_some_iff.mp busy

omit [Store σ] in
/-- At the start nobody is busy. -/
theorem hand?_start (workers : Nat) (stream : List Commit) (flushed : Option Int) (index : Index σ)
    (worker : Nat) : (start workers stream flushed index).hand? worker = none := by
  unfold hand? start
  rw [List.getElem?_replicate]
  split <;> rfl

omit [Store σ] in
theorem hand?_setHand_self {s : Crew σ} {worker : Nat} {hand : Option Hand}
    (inRange : worker < s.hands.length) : (s.setHand worker hand).hand? worker = hand := by
  unfold hand? setHand
  rw [List.getElem?_set, if_pos rfl, if_pos inRange, Option.join_some]

omit [Store σ] in
/-- What the other workers are busy with stays. -/
theorem hand?_setHand_of_ne {s : Crew σ} {worker other : Nat} {hand : Option Hand} (h : other ≠ worker) :
    (s.setHand worker hand).hand? other = s.hand? other := by
  unfold hand? setHand
  rw [List.getElem?_set, if_neg (Ne.symm h)]

omit [Store σ] in
/-- Only the worker itself can be busy with something new. -/
theorem hand?_of_setHand {s : Crew σ} {worker other : Nat} {hand : Option Hand} {found : Hand}
    (busy : (s.setHand worker hand).hand? other = some found) :
    other = worker ∧ hand = some found ∨ other ≠ worker ∧ s.hand? other = some found := by
  unfold hand? setHand at busy
  rw [List.getElem?_set] at busy
  by_cases h : worker = other
  · subst h
    rw [if_pos rfl] at busy
    split at busy
    · exact .inl ⟨rfl, busy⟩
    · cases busy
  · rw [if_neg h] at busy
    exact .inr ⟨Ne.symm h, busy⟩

end Crew

end FeedIndex
