import FeedIndex.Transport.Session
import Mathlib.Data.List.Basic

/-!
# What an open stream gives out

A stream remembers one position, the last one that was ahead of all before it. So what it gives out for an input
hangs on all the inputs before it, but only through the greatest of their positions: an input is given out exactly if
it is ahead of every earlier one that has a position, whether that one was given out or not.
-/

namespace FeedIndex

open Session (isAhead)

/-! ## Inputs with those before them -/

/-- Each item of a list with all the items before it, given what came before the list. -/
def occasionsFrom {α : Type} (before : List α) : List α → List (List α × α)
  | [] => []
  | a :: rest => (before, a) :: occasionsFrom (before ++ [a]) rest

/-- **occasions** — each item of a list with all the items before it. -/
def occasions {α : Type} (items : List α) : List (List α × α) := occasionsFrom [] items

example : occasions [1, 2, 3] = [([], 1), ([1], 2), ([1, 2], 3)] := rfl

/-! ## What is to be given out -/

/-- The event of a message, by the change in it. -/
def Message.eventOf (message : Message) (body : MessageCommit) : Event where
  seq := message.time
  did := message.did
  action := body.action
  collection := body.collection
  rkey := body.rkey
  cid := body.cid
  payload := body.record.map .json

theorem Message.event?_eq (message : Message) :
    message.event? = if message.kind = .commit then message.commit.map message.eventOf else none := by
  unfold Message.event?
  by_cases kind : message.kind = .commit
  · rw [if_neg (not_not_intro kind), if_pos kind]
    rfl
  · rw [if_pos kind, if_neg kind]

/-- **given?** — the commit that a text of a Jetstream stands for after other texts: it is a message of the kind
`commit` that has a commit, and its time is after the times of all earlier messages of whatever kind. -/
def Message.given? (before : List String) (content : String) : Option Commit :=
  match Message.ofText? content with
  | none => none
  | some message =>
    if message.kind = .commit ∧ ∀ earlier ∈ before.filterMap Message.ofText?, earlier.time < message.time then
      message.commit.map fun body => ⟨message.time, [message.eventOf body]⟩
    else none

namespace Frame

/-- The body of a frame that is a commit. -/
def commit? (content : Bytes) : Option RepoCommit :=
  match decode content with
  | .ok (.commit body) => some body
  | _ => none

/-- How a frame ends the stream, if it is an error. -/
def ending? (content : Bytes) : Option StreamFailure :=
  match decode content with
  | .ok (.error code message) => some (.errorFrame code message)
  | _ => none

/-- The blocks that a commit ships, if its archive is empty or can be read. -/
def shipped? (body : RepoCommit) : Option Archive.Blocks :=
  if body.blocks = [] then some [] else (Archive.read body.blocks).toOption

theorem shipped?_eq (body : RepoCommit) : shipped? body = body.archive.toOption := by
  unfold shipped? RepoCommit.archive
  rcases body.blocks with _ | ⟨b, bs⟩ <;> rfl

/-- **given?** — the commit that a frame stands for after other frames: its position is ahead of those of all earlier
commits, of which some may not have been given out, and its archive is empty or can be read. -/
def given? (before : List Bytes) (content : Bytes) : Option Commit :=
  match commit? content with
  | none => none
  | some body =>
    if ∀ earlier ∈ before.filterMap commit?, earlier.seq < body.seq then
      (shipped? body).map fun blocks => ⟨body.seq, body.changes.filterMap (body.event? blocks)⟩
    else none

end Frame

/-! ## The greatest position -/

/-- To be ahead of the greatest of some positions is to be ahead of all of them. -/
theorem Session.isAhead_max?_iff {positions : List Int} {position : Int} :
    isAhead positions.max? position = true ↔ ∀ earlier ∈ positions, earlier < position := by
  rcases greatest : positions.max? with _ | last
  · rw [List.max?_eq_none_iff] at greatest
    subst greatest
    simp [isAhead]
  · obtain ⟨mem, le⟩ := List.max?_eq_some_iff.mp greatest
    rw [Session.isAhead_some, decide_eq_true_iff]
    constructor
    · intro ahead earlier seen
      exact Int.lt_of_le_of_lt (le earlier seen) ahead
    · intro ahead
      exact ahead last mem

theorem max?_concat_of_isAhead {positions : List Int} {position : Int}
    (ahead : isAhead positions.max? position = true) : (positions ++ [position]).max? = some position := by
  rw [List.max?_eq_some_iff]
  refine ⟨List.mem_append_right _ (List.mem_singleton_self _), fun earlier seen => ?_⟩
  rcases List.mem_append.mp seen with seen | seen
  · exact Int.le_of_lt (Session.isAhead_max?_iff.mp ahead earlier seen)
  · exact Int.le_of_eq (List.mem_singleton.mp seen)

theorem max?_concat_of_not_isAhead {positions : List Int} {position : Int}
    (behind : isAhead positions.max? position = false) : (positions ++ [position]).max? = positions.max? := by
  rcases greatest : positions.max? with _ | last
  · rw [greatest] at behind
    cases behind
  · rw [greatest, Session.isAhead_some, decide_eq_false_iff_not, Int.not_lt] at behind
    obtain ⟨mem, le⟩ := List.max?_eq_some_iff.mp greatest
    rw [List.max?_eq_some_iff]
    refine ⟨List.mem_append_left _ mem, fun earlier seen => ?_⟩
    rcases List.mem_append.mp seen with seen | seen
    · exact le earlier seen
    · rwa [List.mem_singleton.mp seen]

namespace Session

/-! ## The position of a stream -/

/-- **hear** — a stream after inputs, or as it was when one of them ended it. -/
def hear : List Incoming → Session → Session
  | [], session => session
  | incoming :: rest, session =>
    match session.receive incoming with
    | .error _ => session
    | .ok (_, session) => hear rest session

/-- The greatest time of the messages among texts. -/
def latestTime (texts : List String) : Option Int := ((texts.filterMap Message.ofText?).map (·.time)).max?

/-- The greatest position of the commits among frames. -/
def latestSeq (frames : List Bytes) : Option Int := ((frames.filterMap Frame.commit?).map (·.seq)).max?

theorem isAhead_latestTime_iff {before : List String} {position : Int} :
    isAhead (latestTime before) position = true ↔
      ∀ earlier ∈ before.filterMap Message.ofText?, earlier.time < position := by
  rw [latestTime, isAhead_max?_iff, List.forall_mem_map]

theorem isAhead_latestSeq_iff {before : List Bytes} {position : Int} :
    isAhead (latestSeq before) position = true ↔
      ∀ earlier ∈ before.filterMap Frame.commit?, earlier.seq < position := by
  rw [latestSeq, isAhead_max?_iff, List.forall_mem_map]

/-! ## One input -/

/-- **A text after others**: what is given out is what is to be given out, and the position is again the greatest. -/
theorem acceptText_latestTime (before : List String) (content : String) :
    acceptText content (latestTime before) = (Message.given? before content, latestTime (before ++ [content])) := by
  unfold acceptText Message.given?
  rcases read : Message.ofText? content with _ | message
  · simp [latestTime, read]
  have grown : latestTime (before ++ [content]) =
      ((before.filterMap Message.ofText?).map (·.time) ++ [message.time]).max? := by
    simp [latestTime, read]
  dsimp only
  split
  · next ahead =>
    have all := isAhead_latestTime_iff.mp ahead
    rw [grown, max?_concat_of_isAhead ahead, Message.event?_eq]
    by_cases kind : message.kind = .commit
    · rw [if_pos kind, if_pos ⟨kind, all⟩, Option.map_map]
      rfl
    · rw [if_neg kind, if_neg fun both => kind both.1]
      rfl
  · next behind =>
    rw [grown, max?_concat_of_not_isAhead (Bool.not_eq_true _ ▸ behind),
      if_neg fun both => behind (isAhead_latestTime_iff.mpr both.2)]
    rfl

/-- **A frame after others** that did not end the stream. -/
theorem acceptFrame_latestSeq (before : List Bytes) {content : Bytes} (goesOn : Frame.ending? content = none) :
    acceptFrame content (latestSeq before) =
      .ok (Frame.given? before content, latestSeq (before ++ [content])) := by
  unfold Frame.ending? at goesOn
  unfold acceptFrame Frame.given?
  rcases decoded : Frame.decode content with failure | body | ⟨name, message⟩ | ⟨code, message⟩ | type
  case ok.error => simp [decoded] at goesOn
  case ok.commit =>
    have commit : Frame.commit? content = some body := by simp [Frame.commit?, decoded]
    have grown : latestSeq (before ++ [content]) =
        ((before.filterMap Frame.commit?).map (·.seq) ++ [body.seq]).max? := by
      simp [latestSeq, commit]
    rw [commit]
    dsimp only
    split
    · next ahead =>
      rw [grown, max?_concat_of_isAhead ahead, if_pos (isAhead_latestSeq_iff.mp ahead), Frame.shipped?_eq,
        RepoCommit.events]
      rcases body.archive with failure | blocks <;> rfl
    · next behind =>
      rw [grown, max?_concat_of_not_isAhead (Bool.not_eq_true _ ▸ behind),
        if_neg fun all => behind (isAhead_latestSeq_iff.mpr all)]
      rfl
  all_goals simp [latestSeq, Frame.commit?, decoded]

/-- An error frame gives out nothing and ends the stream. -/
theorem acceptFrame_of_ending {content : Bytes} {cause : StreamFailure}
    (ends : Frame.ending? content = some cause) (last : Option Int) : acceptFrame content last = .error cause := by
  unfold Frame.ending? at ends
  unfold acceptFrame
  rcases decoded : Frame.decode content with failure | body | ⟨name, message⟩ | ⟨code, message⟩ | type
  case ok.error =>
    rw [decoded] at ends
    exact congrArg Except.error (Option.some.inj ends)
  all_goals simp [decoded] at ends

/-! ## A whole stream -/

/-- The stream of a Jetstream after some texts. -/
def jetstreamAfter (before : List String) : Session := ⟨.jetstream, latestTime before⟩

/-- The stream of a relay after some frames. -/
def relayAfter (before : List Bytes) : Session := ⟨.relay, latestSeq before⟩

theorem receive_text (before : List String) (content : String) :
    (jetstreamAfter before).receive (.text content) =
      .ok (Message.given? before content, jetstreamAfter (before ++ [content])) := by
  unfold jetstreamAfter receive
  dsimp only
  rw [acceptText_latestTime]

theorem receive_binary (before : List Bytes) {content : Bytes} (goesOn : Frame.ending? content = none) :
    (relayAfter before).receive (.binary content) =
      .ok (Frame.given? before content, relayAfter (before ++ [content])) := by
  unfold relayAfter receive
  dsimp only
  rw [acceptFrame_latestSeq before goesOn]

theorem receive_ending (before : List Bytes) {content : Bytes} {cause : StreamFailure}
    (ends : Frame.ending? content = some cause) :
    (relayAfter before).receive (.binary content) = .error (.failed cause) := by
  unfold relayAfter receive
  dsimp only
  rw [acceptFrame_of_ending ends]

theorem play_texts (before contents : List String) :
    play (contents.map .text) (jetstreamAfter before) =
      ((occasionsFrom before contents).map fun (earlier, content) => Message.given? earlier content, none) := by
  induction contents generalizing before with
  | nil => rfl
  | cons content rest ih =>
    rw [List.map_cons, play, receive_text]
    dsimp only
    rw [ih]
    rfl

theorem hear_texts (before contents : List String) :
    hear (contents.map .text) (jetstreamAfter before) = jetstreamAfter (before ++ contents) := by
  induction contents generalizing before with
  | nil => rw [List.map_nil, hear, List.append_nil]
  | cons content rest ih =>
    rw [List.map_cons, hear, receive_text]
    dsimp only
    rw [ih, List.append_assoc, List.singleton_append]

/-- The frames up to the first error. -/
def heard (frames : List Bytes) : List Bytes := frames.takeWhile fun frame => (Frame.ending? frame).isNone

theorem heard_cons_of_none {frame : Bytes} (goesOn : Frame.ending? frame = none) (rest : List Bytes) :
    heard (frame :: rest) = frame :: heard rest := by
  unfold heard
  rw [List.takeWhile_cons, goesOn]
  rfl

theorem heard_cons_of_some {frame : Bytes} {cause : StreamFailure} (ends : Frame.ending? frame = some cause)
    (rest : List Bytes) : heard (frame :: rest) = [] := by
  unfold heard
  rw [List.takeWhile_cons, ends]
  rfl

/-- How frames end the stream, if one of them is an error. -/
def endOf (frames : List Bytes) : Option StreamFailure := frames.findSome? Frame.ending?

theorem play_frames (before frames : List Bytes) :
    play (frames.map .binary) (relayAfter before) =
      (((occasionsFrom before (heard frames)).map fun (earlier, frame) => Frame.given? earlier frame) ++
          (endOf frames).toList.map (fun _ => none),
        (endOf frames).map .failed) := by
  induction frames generalizing before with
  | nil => rfl
  | cons frame rest ih =>
    rw [List.map_cons, play]
    rcases ends : Frame.ending? frame with _ | cause
    · rw [receive_binary before ends, heard_cons_of_none ends, endOf, List.findSome?_cons, ends]
      dsimp only
      rw [ih]
      rfl
    · rw [receive_ending before ends, heard_cons_of_some ends, endOf, List.findSome?_cons, ends]
      rfl

theorem hear_frames (before frames : List Bytes) :
    hear (frames.map .binary) (relayAfter before) = relayAfter (before ++ heard frames) := by
  induction frames generalizing before with
  | nil => rw [List.map_nil, hear, heard, List.takeWhile_nil, List.append_nil]
  | cons frame rest ih =>
    rw [List.map_cons, hear]
    rcases ends : Frame.ending? frame with _ | cause
    · rw [receive_binary before ends, heard_cons_of_none ends]
      dsimp only
      rw [ih, List.append_assoc, List.singleton_append]
    · rw [receive_ending before ends, heard_cons_of_some ends, List.append_nil]

/-! ## Positions of events -/

/-- The events of a commit that is given out have its position. -/
theorem seq_of_given?_text {before : List String} {content : String} {commit : Commit}
    (given : Message.given? before content = some commit) : ∀ event ∈ commit.events, event.seq = commit.seq := by
  unfold Message.given? at given
  split at given
  · cases given
  · split at given
    · obtain ⟨body, -, rfl⟩ := Option.map_eq_some_iff.mp given
      intro event mem
      rw [List.mem_singleton.mp mem]
      rfl
    · cases given

theorem seq_of_event? {body : RepoCommit} {blocks : Archive.Blocks} {change : RepoChange} {event : Event}
    (made : body.event? blocks change = some event) : event.seq = body.seq := by
  unfold RepoCommit.event? at made
  split at made
  · rw [← Option.some.inj made]
  · cases made

theorem seq_of_given?_frame {before : List Bytes} {content : Bytes} {commit : Commit}
    (given : Frame.given? before content = some commit) : ∀ event ∈ commit.events, event.seq = commit.seq := by
  unfold Frame.given? at given
  split at given
  · cases given
  · split at given
    · obtain ⟨blocks, -, rfl⟩ := Option.map_eq_some_iff.mp given
      intro event mem
      obtain ⟨change, -, made⟩ := List.mem_filterMap.mp mem
      exact seq_of_event? made
    · cases given

end Session

open Session in
/-- **Both transports give out exactly the commits that are ahead of all before them.** An open stream that is given
texts of a Jetstream, or frames of a relay up to the first error, gives out for each the commit that it stands for
after those before it, if it stands for one; its position is then the greatest among the messages, or among the
commits of frames, that have come. What is given out has its own position in all its events. -/
theorem advancing_given_out :
    (∀ texts : List String,
      play (texts.map .text) ⟨.jetstream, none⟩ =
          ((occasions texts).map fun (before, text) => Message.given? before text, none) ∧
        (hear (texts.map .text) ⟨.jetstream, none⟩).last = latestTime texts ∧
        ∀ commit, some commit ∈ (play (texts.map .text) ⟨.jetstream, none⟩).1 →
          ∀ event ∈ commit.events, event.seq = commit.seq) ∧
    ∀ frames : List Bytes,
      play (frames.map .binary) ⟨.relay, none⟩ =
          (((occasions (heard frames)).map fun (before, frame) => Frame.given? before frame) ++
              (endOf frames).toList.map (fun _ => none),
            (endOf frames).map .failed) ∧
        (hear (frames.map .binary) ⟨.relay, none⟩).last = latestSeq (heard frames) ∧
        ∀ commit, some commit ∈ (play (frames.map .binary) ⟨.relay, none⟩).1 →
          ∀ event ∈ commit.events, event.seq = commit.seq := by
  constructor
  · intro texts
    have played : play (texts.map .text) ⟨.jetstream, none⟩ = _ := play_texts [] texts
    refine ⟨played, congrArg Session.last (hear_texts [] texts), ?_⟩
    intro commit mem
    rw [played] at mem
    obtain ⟨occasion, -, given⟩ := List.mem_map.mp mem
    exact seq_of_given?_text given
  · intro frames
    have played : play (frames.map .binary) ⟨.relay, none⟩ = _ := play_frames [] frames
    refine ⟨played, congrArg Session.last (hear_frames [] frames), ?_⟩
    intro commit mem
    rw [played] at mem
    rcases List.mem_append.mp mem with mem | mem
    · obtain ⟨occasion, -, given⟩ := List.mem_map.mp mem
      exact seq_of_given?_frame given
    · obtain ⟨cause, -, nothing⟩ := List.mem_map.mp mem
      cases nothing

end FeedIndex
