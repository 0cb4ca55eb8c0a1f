import FeedIndex.Text.Quoted
import FeedIndex.Transport.Frame
import FeedIndex.Transport.Message

/-!
# Sessions

An open stream, on either transport. It gives out commits whose positions go up: what is at or behind the
last position that was seen is dropped, and so is what cannot be read. A relay's error frame ends the stream,
and so does the end of the socket. Of a Jetstream only the texts count, of a relay only the bytes.
-/

namespace FeedIndex

/-- **Incoming** — what comes over the socket. -/
inductive Incoming
  | text (content : String)
  | binary (content : Bytes)
  /-- A ping or a pong, which the socket deals with. -/
  | control
  /-- The other side closes the stream. -/
  | close
  /-- The connection breaks. -/
  | lost
deriving DecidableEq, Repr

/-- **StreamFailure** — what ends an open stream before its time. -/
inductive StreamFailure
  | socket
  | errorFrame (code : String) (message : Option String)
deriving DecidableEq, Repr

/-- **message?** — the wording of the cause, where it has one. -/
def StreamFailure.message? : StreamFailure → Option String
  | .socket => none
  | .errorFrame code message =>
    some ("upstream sent an error frame: " ++ code ++ " (" ++ Text.quotedOption message ++ ")")

/-- **Transport** — how commits are sent. -/
inductive Transport
  | jetstream
  | relay
deriving DecidableEq, Repr, Inhabited

/-- **Session** — an open stream. -/
structure Session where
  transport : Transport
  /-- The last position that was seen. -/
  last : Option Int := none
deriving DecidableEq, Repr

/-- **SessionEnd** — how a stream ended. -/
inductive SessionEnd
  | closed
  | failed (cause : StreamFailure)
deriving DecidableEq, Repr

namespace Session

/-- A position is ahead of the last one. -/
def isAhead (last : Option Int) (position : Int) : Bool := last.all (· < position)

/-- **acceptText** — what a text of a Jetstream gives out. -/
def acceptText (content : String) (last : Option Int) : Option Commit × Option Int :=
  match Message.ofText? content with
  | none => (none, last)
  | some message =>
    if isAhead last message.time then
      (message.event?.map fun event => ⟨event.seq, [event]⟩, some message.time)
    else (none, last)

/-- **acceptFrame** — what a frame of a relay gives out. -/
def acceptFrame (content : Bytes) (last : Option Int) :
    Except StreamFailure (Option Commit × Option Int) :=
  match Frame.decode content with
  | .error _ => .ok (none, last)
  | .ok (.info ..) => .ok (none, last)
  | .ok (.other _) => .ok (none, last)
  | .ok (.error code message) => .error (.errorFrame code message)
  | .ok (.commit body) =>
    if isAhead last body.seq then
      match body.events with
      | .ok events => .ok (some ⟨body.seq, events⟩, some body.seq)
      | .error _ => .ok (none, some body.seq)
    else .ok (none, last)

/-- **receive** — what an open stream gives out next, and the stream afterwards; or how it ends. -/
def receive (incoming : Incoming) (session : Session) :
    Except SessionEnd (Option Commit × Session) :=
  match session.transport, incoming with
  | _, .close => .error .closed
  | _, .lost => .error (.failed .socket)
  | .jetstream, .text content =>
    let (commit, last) := acceptText content session.last
    .ok (commit, { session with last })
  | .relay, .binary content =>
    match acceptFrame content session.last with
    | .ok (commit, last) => .ok (commit, { session with last })
    | .error failure => .error (.failed failure)
  | _, _ => .ok (none, session)

/-- **play** — what a stream gives out for each of the messages that come until it ends, and its end. -/
def play : List Incoming → Session → List (Option Commit) × Option SessionEnd
  | [], _ => ([], none)
  | incoming :: rest, session =>
    match session.receive incoming with
    | .error ending => ([none], some ending)
    | .ok (commit, session) =>
      let (commits, ending) := play rest session
      (commit :: commits, ending)

theorem isAhead_some (last position : Int) : isAhead (some last) position = decide (last < position) := rfl

/-- What is given out on a Jetstream moves the position on to its own. -/
theorem acceptText_snd {content : String} {last : Option Int} {commit : Commit}
    (h : (acceptText content last).1 = some commit) :
    isAhead last commit.seq = true ∧ (acceptText content last).2 = some commit.seq := by
  unfold acceptText at h ⊢
  cases hm : Message.ofText? content with
  | none => simp [hm] at h
  | some message =>
    simp only [hm] at h ⊢
    split at h
    · rename_i ha
      obtain ⟨event, he, rfl⟩ := Option.map_eq_some_iff.mp h
      have hs : event.seq = message.time := by
        unfold Message.event? at he
        split at he
        · simp at he
        · obtain ⟨_, _, rfl⟩ := Option.map_eq_some_iff.mp he
          rfl
      simp [hs, ha]
    · simp at h

end Session

end FeedIndex
