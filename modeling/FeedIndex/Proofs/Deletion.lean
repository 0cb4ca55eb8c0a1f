import FeedIndex.Proofs.Crew
import FeedIndex.Proofs.Ledger.Memory
import FeedIndex.Proofs.Records

/-!
# Deletions across workers

Workers handle commits out of order, and a deletion that comes before the creation it deletes finds no row
to mark. The row that the creation adds later lives on. That is the only way in which a deletion is lost:
the row lives in the end exactly if a creation was handled after every deletion, where there was no row. As
long as the events of a record are handled in the order of the stream, no deletion of it is lost.
-/

namespace FeedIndex

/-- The move gives a commit up. -/
def Move.givesUp : Move → Bool
  | .giveUp _ => true
  | _ => false

namespace Crew

open LedgerStore

/-! ## What is handled -/

section

variable {σ : Type} [Store σ] {handler : Handler} {s : Crew σ}

/-- **event?** — the event that a move handles. One whose post is written later is handled then. -/
def event? (s : Crew σ) : Move → Option Event
  | .handle worker _ =>
    match s.hand? worker with
    | some ⟨_, event :: _, none⟩ => some event
    | _ => none
  | .write worker =>
    match s.hand? worker with
    | some ⟨_, event :: _, some _⟩ => some event
    | _ => none
  | _ => none

/-- **events** — the events that are handled by moves, in their order. -/
def events (handler : Handler) (s : Crew σ) : List Move → List Event
  | [] => []
  | move :: rest => (s.event? move).toList ++ (s.step handler move).events handler rest

theorem events_append (before after : List Move) :
    s.events handler (before ++ after) =
      s.events handler before ++ (s.run handler before).events handler after := by
  induction before generalizing s with
  | nil => rfl
  | cons move rest ih =>
    rw [List.cons_append, events, events, ih, List.append_assoc]
    rfl

/-- **Holds** — a worker has the event still to handle. -/
def Holds (s : Crew σ) (event : Event) : Prop :=
  ∃ worker hand, s.hand? worker = some hand ∧ event ∈ hand.rest

/-- **Waits** — an event is still to be handled. -/
def Waits (s : Crew σ) (event : Event) : Prop :=
  s.Holds event ∨ ∃ commit ∈ s.upcoming, event ∈ commit.events

/-- **AllHandled** — all commits have been handled. -/
def AllHandled (s : Crew σ) : Prop :=
  s.upcoming = [] ∧ ∀ worker hand, s.hand? worker = some hand → hand.rest = []

omit [Store σ] in
theorem AllHandled.not_waits (done : s.AllHandled) (event : Event) : ¬ s.Waits event := by
  rintro (⟨worker, hand, busy, hmem⟩ | ⟨commit, upcoming, -⟩)
  · rw [done.2 worker hand busy] at hmem
    cases hmem
  · rw [done.1] at upcoming
    cases upcoming

omit [Store σ] in
/-- A worker turns to something else, and takes along what it has of an event. -/
theorem Holds.setHand {event : Event} (holds : s.Holds event) {worker : Nat} {hand : Option Hand}
    (kept : ∀ old, s.hand? worker = some old → event ∈ old.rest → ∃ new, hand = some new ∧ event ∈ new.rest) :
    (s.setHand worker hand).Holds event := by
  obtain ⟨other, held, busy, hmem⟩ := holds
  by_cases own : other = worker
  · subst own
    obtain ⟨new, rfl, hnew⟩ := kept held busy hmem
    have inRange := (List.getElem?_eq_some_iff.mp (mem_hands_of_hand? busy)).1
    exact ⟨other, new, hand?_setHand_self inRange, hnew⟩
  · exact ⟨other, held, (hand?_setHand_of_ne own).trans busy, hmem⟩

omit [Store σ] in
/-- An event goes on waiting while a worker goes on with its commit, if it is among the events that are left. -/
theorem Waits.goOn {event : Event} (waits : s.Waits event) {worker : Nat} {old : Hand}
    (busy : s.hand? worker = some old) (new : Hand) (kept : event ∈ old.rest → event ∈ new.rest) (index : Index σ) :
    Waits { s.setHand worker (some new) with index } event := by
  rcases waits with holds | upcoming
  · refine .inl (holds.setHand ?_)
    intro other held hmem
    obtain rfl := Option.some.inj (busy.symm.trans held)
    exact ⟨new, rfl, kept hmem⟩
  · exact .inr upcoming

/-- An event waits until it is handled, if no commit is given up. -/
theorem waits_step (handler : Handler) {event : Event} (waits : s.Waits event) {move : Move}
    (patient : move.givesUp = false) :
    s.event? move = some event ∨ (s.step handler move).Waits event := by
  have way := steps_step handler s move
  generalize s.step handler move = s' at way
  cases way with
  | stay => exact .inr waits
  | flush => exact .inr waits
  | giveUp _ => cases patient
  | @take worker commit rest idle upcoming =>
    right
    rcases waits with holds | ⟨next, hnext, hmem⟩
    · refine .inl (holds.setHand ?_)
      intro old busy
      rw [hand?, idle] at busy
      cases busy
    · rw [upcoming] at hnext
      rcases List.mem_cons.mp hnext with rfl | hrest
      · have inRange := (List.getElem?_eq_some_iff.mp idle).1
        exact .inl ⟨worker, ⟨next.seq, next.events, none⟩, hand?_setHand_self inRange, hmem⟩
      · exact .inr ⟨next, hrest, hmem⟩
  | @plan worker now position event rest post index busy _ =>
    exact .inr (waits.goOn busy ⟨position, event :: rest, some post⟩ id index)
  | @handle worker now position first rest busy =>
    by_cases handled : event = first
    · left
      simp only [event?, busy, handled]
    · -- it is not the one that is handled, so it is among the rest
      exact .inr (waits.goOn busy _ (fun listed => (List.mem_cons.mp listed).resolve_left handled) _)
  | @write worker position first rest post busy =>
    by_cases handled : event = first
    · left
      simp only [event?, busy, handled]
    · exact .inr (waits.goOn busy _ (fun listed => (List.mem_cons.mp listed).resolve_left handled) _)
  | @finish worker position done =>
    right
    rcases waits with holds | upcoming
    · refine .inl (holds.setHand ?_)
      intro old held hmem
      obtain rfl := Option.some.inj (done.symm.trans held)
      cases hmem
    · exact .inr upcoming

/-- **What waits is handled in the end**, if everything is and no commit is given up. -/
theorem mem_events_of_waits {event : Event} {moves : List Move} (waits : s.Waits event)
    (patient : ∀ move ∈ moves, move.givesUp = false) (done : (s.run handler moves).AllHandled) :
    event ∈ s.events handler moves := by
  induction moves generalizing s with
  | nil => exact absurd waits (done.not_waits event)
  | cons move rest ih =>
    rw [events, List.mem_append]
    rcases waits_step handler waits (patient move List.mem_cons_self) with handled | later
    · left
      rw [handled]
      exact List.mem_singleton.mpr rfl
    · right
      refine ih later ?_ done
      intro move hmem
      exact patient move (List.mem_cons_of_mem _ hmem)

/-- A flush leaves the index as it is, or sets the position of the store. -/
theorem index_flush : s.flush.index = s.index ∨
    ∃ position, s.flush.index =
      { s.index with store := (Store.setCursor position : Storing σ Unit).after s.index.store } := by
  unfold flush Flusher.flush
  rcases s.flusher.due? s.progress with _ | position
  · exact .inl rfl
  · right
    refine ⟨position, ?_⟩
    dsimp only
    rw [Storing.run_eq]
    rcases (Store.setCursor position : Storing σ Unit).answer s.index.store with failure | ⟨⟩ <;> rfl

/-- **Writes** — a worker is writing a post, whose event is the next one of its commit. -/
def Writes (s : Crew σ) (event : Event) (post : PostRow) : Prop :=
  ∃ worker position rest, s.hand? worker = some ⟨position, event :: rest, some post⟩

/-- **Indexed** — what a move makes of the index. It handles an event, or writes the post that was planned for it;
any other move leaves the index as it is, but for the position. -/
inductive Indexed (handler : Handler) (s : Crew σ) (move : Move) : Index σ → Prop
  | handled {event : Event} {now : Timestamp} (handles : s.event? move = some event) :
      Indexed handler s move (handler.run event now s.index).2
  | written {event : Event} {post : PostRow} (handles : s.event? move = some event) (writes : s.Writes event post) :
      Indexed handler s move ((Handler.storing (Store.createPost post)).run.run s.index).2
  | same (quiet : s.event? move = none) : Indexed handler s move s.index
  | flushed (quiet : s.event? move = none) (position : Int) :
      Indexed handler s move
        { s.index with store := (Store.setCursor position : Storing σ Unit).after s.index.store }

theorem indexed_step (handler : Handler) (s : Crew σ) (move : Move) :
    Indexed handler s move (s.step handler move).index := by
  cases move with
  | handle worker now =>
    simp only [step]
    split
    · next busy => exact .handled (by simp only [event?, busy])
    · next idle =>
      refine .same ?_
      simp only [event?]
  | write worker =>
    simp only [step]
    split
    · next busy => exact .written (by simp only [event?, busy]) ⟨worker, _, _, busy⟩
    · next idle =>
      refine .same ?_
      simp only [event?]
  | plan worker now =>
    simp only [step]
    split
    · split
      · next planned =>
        rw [(Handler.planned_of_plan handler _ now s.index planned).2]
        exact .same rfl
      · exact .same rfl
    · exact .same rfl
  | flush =>
    rcases index_flush (s := s) with same | ⟨position, moved⟩
    · exact same ▸ .same rfl
    · exact moved ▸ .flushed rfl position
  | take worker =>
    simp only [step]
    split <;> exact .same rfl
  | giveUp worker =>
    simp only [step]
    split <;> exact .same rfl
  | finish worker =>
    simp only [step]
    split <;> exact .same rfl

/-! ## What is written -/

/-- **Planned** — the posts that are being written were planned for their events. -/
def Planned (handler : Handler) (s : Crew σ) : Prop :=
  ∀ worker hand post, s.hand? worker = some hand → hand.writing = some post →
    ∃ event rest now, hand.rest = event :: rest ∧ Handler.Planned handler event now post

omit [Store σ] in
theorem planned_start (workers : Nat) (stream : List Commit) (flushed : Option Int) (index : Index σ) :
    Planned handler (start workers stream flushed index) := by
  intro worker hand post busy
  rw [hand?_start] at busy
  cases busy

omit [Store σ] in
theorem Planned.setHand (planned : Planned handler s) {s' : Crew σ} {worker : Nat} (hand : Option Hand)
    (hands : s'.hands = (s.setHand worker hand).hands)
    (new : ∀ found post, hand = some found → found.writing = some post →
      ∃ event rest now, found.rest = event :: rest ∧ Handler.Planned handler event now post) :
    Planned handler s' := by
  intro other found post busy writing
  unfold hand? at busy
  rw [hands] at busy
  rcases hand?_of_setHand busy with ⟨-, heq⟩ | ⟨-, held⟩
  · exact new found post heq writing
  · exact planned other found post held writing

theorem Planned.step (planned : Planned handler s) (move : Move) : Planned handler (s.step handler move) := by
  have way := steps_step handler s move
  generalize s.step handler move = s' at way
  have unwritten {position : Int} {rest : List Event} (found : Hand) (post : PostRow)
      (same : some ⟨position, rest, none⟩ = some found) (writing : found.writing = some post) :
      ∃ event later now, found.rest = event :: later ∧ Handler.Planned handler event now post := by
    obtain rfl := Option.some.inj same
    cases writing
  cases way with
  | stay => exact planned
  | flush => exact planned
  | take _ _ => exact planned.setHand _ rfl unwritten
  | handle _ => exact planned.setHand _ rfl unwritten
  | write _ => exact planned.setHand _ rfl unwritten
  | giveUp _ => exact planned.setHand _ rfl unwritten
  | finish _ =>
    refine planned.setHand none rfl ?_
    intro found post same
    cases same
  | @plan worker now position event rest post index _ plan =>
    refine planned.setHand (some ⟨position, event :: rest, some post⟩) rfl ?_
    rintro found row same writing
    obtain rfl := Option.some.inj same
    obtain rfl := Option.some.inj writing
    exact ⟨event, rest, now, rfl, (Handler.planned_of_plan handler event now s.index plan).1⟩

end

/-! ## The row of a record along a run -/

section

variable {σ : Type} [Store σ] [LedgerStore σ] {handler : Handler} {s : Crew σ} {record : RecordUri}
  {table : Table}

/-- **mark** — whether the row of a record is there, and when it was deleted. -/
def mark (s : Crew σ) (table : Table) (record : RecordUri) : Option (Option Timestamp) :=
  (ledger s.index.store).mark table record.render

/-- **Tracks** — the store is sound, the roster knows the account of the record, and what is being written was
planned. -/
structure Tracks (handler : Handler) (s : Crew σ) (record : RecordUri) : Prop where
  sound : Sound s.index.store
  known : (s.index.roster.get? record.did).isSome = true
  planned : Planned handler s

/-- A move that handles no event changes no row, and the roster not at all. -/
theorem quiet_step (handler : Handler) {move : Move} (sound : Sound s.index.store) (quiet : s.event? move = none) :
    (s.step handler move).index.roster = s.index.roster ∧ Sound (s.step handler move).index.store ∧
      (ledger (s.step handler move).index.store).mark = (ledger s.index.store).mark := by
  have perform := StoreOperation.perform_setCursor (σ := σ) ⟨0, 0⟩
  have indexed := indexed_step handler s move
  generalize (s.step handler move).index = index at indexed
  cases indexed with
  | handled handles | written handles _ =>
    rw [quiet] at handles
    cases handles
  | same _ => exact ⟨rfl, sound, rfl⟩
  | flushed _ position =>
    refine ⟨rfl, sound_after_of_perform _ _ (perform position) sound, ?_⟩
    show (ledger ((Store.setCursor position : Storing σ Unit).after s.index.store)).mark = _
    rw [ledger_after_of_perform _ _ (perform position)]
    rfl

/-- A move that handles an event does to the index what the event does. -/
theorem Tracks.effect (tracks : Tracks handler s record) {move : Move} {event : Event}
    (handles : s.event? move = some event) :
    ∃ now, Handler.Effect handler event now s.index (s.step handler move).index := by
  have indexed := indexed_step handler s move
  generalize (s.step handler move).index = index at indexed
  cases indexed with
  | @handled _ now handles' =>
    obtain rfl := Option.some.inj (handles.symm.trans handles')
    exact ⟨now, Handler.effect_run tracks.sound⟩
  | written handles' writes =>
    obtain rfl := Option.some.inj (handles.symm.trans handles')
    obtain ⟨worker, position, rest, busy⟩ := writes
    obtain ⟨first, later, now, same, planned⟩ := tracks.planned worker _ _ busy rfl
    obtain ⟨rfl, -⟩ := List.cons.inj same
    exact ⟨now, Handler.effect_written planned⟩
  | same quiet | flushed quiet _ =>
    rw [quiet] at handles
    cases handles

theorem Tracks.step (tracks : Tracks handler s record) (move : Move) :
    Tracks handler (s.step handler move) record := by
  rcases handles : s.event? move with _ | event
  · obtain ⟨hroster, sound, -⟩ := quiet_step handler tracks.sound handles
    exact ⟨sound, hroster ▸ tracks.known, tracks.planned.step move⟩
  · obtain ⟨now, effect⟩ := tracks.effect handles
    exact ⟨effect.course.sound tracks.sound, effect.course.known tracks.known, tracks.planned.step move⟩

variable (indexed : (Collection.ofName record.collection).table? = some table)
  (valid : Did.isValid record.did = true)

include indexed valid

/-- A row comes to life only by a move that handles the creation of its record, where there was none. -/
theorem created_of_live_step (tracks : Tracks handler s record) {move : Move} (before : s.mark table record ≠ some none)
    (after : (s.step handler move).mark table record = some none) :
    (∃ event, s.event? move = some event ∧ event.record = record ∧ event.action = .create) ∧
      s.mark table record = none := by
  rcases handles : s.event? move with _ | event
  · obtain ⟨-, -, same⟩ := quiet_step handler tracks.sound handles
    unfold mark at after
    rw [same] at after
    exact absurd after before
  · obtain ⟨now, effect⟩ := tracks.effect handles
    obtain ⟨own, action, absent⟩ := effect.created_of_live indexed valid before after
    exact ⟨⟨event, rfl, own, action⟩, absent⟩

theorem live_step_of_live (tracks : Tracks handler s record) {move : Move} (before : s.mark table record = some none)
    (kept : ∀ event, s.event? move = some event → event.record = record → event.action ≠ .delete) :
    (s.step handler move).mark table record = some none := by
  rcases handles : s.event? move with _ | event
  · obtain ⟨-, -, same⟩ := quiet_step handler tracks.sound handles
    unfold mark
    rw [same]
    exact before
  · obtain ⟨now, effect⟩ := tracks.effect handles
    exact effect.live_of_live indexed valid before (kept event handles)

theorem not_live_step_of_delete (tracks : Tracks handler s record) {move : Move} {event : Event}
    (handles : s.event? move = some event) (own : event.record = record) (action : event.action = .delete) :
    (s.step handler move).mark table record ≠ some none := by
  have way := indexed_step handler s move
  unfold mark
  generalize (s.step handler move).index = index at way
  cases way with
  | handled handles' =>
    obtain rfl := Option.some.inj (handles.symm.trans handles')
    exact Handler.not_live_run_of_delete tracks.sound indexed valid tracks.known own action
  | written handles' writes =>
    -- what is written was planned for a creation
    obtain rfl := Option.some.inj (handles.symm.trans handles')
    obtain ⟨worker, position, rest, busy⟩ := writes
    obtain ⟨first, later, now, same, planned⟩ := tracks.planned worker _ _ busy rfl
    obtain ⟨rfl, -⟩ := List.cons.inj same
    rw [planned.action] at action
    cases action
  | same quiet | flushed quiet _ =>
    rw [quiet] at handles
    cases handles

end

/-! ## Deletions that are lost -/

section

variable {σ : Type} [Store σ] [LedgerStore σ] {handler : Handler} {s : Crew σ} {record : RecordUri}
  {table : Table}

/-- The events about a record. -/
def ofRecord (record : RecordUri) (events : List Event) : List Event := events.filter (·.record = record)

/-- **Revived** — among the moves one handles the creation of the record and adds its row, where there was
none, and no deletion of the record is handled after it. -/
def Revived (handler : Handler) (s : Crew σ) (table : Table) (record : RecordUri) (moves : List Move) :
    Prop :=
  ∃ before move later event, moves = before ++ move :: later ∧
    (s.run handler before).event? move = some event ∧ event.record = record ∧ event.action = .create ∧
    (s.run handler before).mark table record = none ∧
    (s.run handler (before ++ [move])).mark table record = some none ∧
    ∀ other ∈ (s.run handler (before ++ [move])).events handler later,
      other.record = record → other.action ≠ .delete

theorem Tracks.run (tracks : Tracks handler s record) (moves : List Move) :
    Tracks handler (s.run handler moves) record := by
  have preserved : ∀ (s : Crew σ) move, Tracks handler s record → Tracks handler (s.step handler move) record := by
    intro s move tracks
    exact tracks.step move
  exact run_invariant preserved tracks moves

theorem Revived.cons {move : Move} {rest : List Move}
    (revived : Revived handler (s.step handler move) table record rest) :
    Revived handler s table record (move :: rest) := by
  obtain ⟨before, last, later, event, rfl, handles⟩ := revived
  exact ⟨move :: before, last, later, event, rfl, handles⟩

variable (indexed : (Collection.ofName record.collection).table? = some table)
  (valid : Did.isValid record.did = true)

include indexed valid

/-- A row that lives goes on to do so while no deletion of its record is handled. -/
theorem live_run {moves : List Move} (tracks : Tracks handler s record) (before : s.mark table record = some none)
    (kept : ∀ event ∈ s.events handler moves, event.record = record → event.action ≠ .delete) :
    (s.run handler moves).mark table record = some none := by
  induction moves generalizing s with
  | nil => exact before
  | cons move rest ih =>
    refine ih (tracks.step move) (live_step_of_live indexed valid tracks before ?_) ?_
    · intro event handles
      apply kept
      rw [events, handles]
      exact List.mem_cons_self
    · intro event hmem
      apply kept
      rw [events]
      exact List.mem_append_right _ hmem

/-- A row that lives in the end, and did not at the start or was deleted since, has been revived. -/
theorem revived_of_live {moves : List Move} (tracks : Tracks handler s record)
    (after : (s.run handler moves).mark table record = some none)
    (gone : s.mark table record ≠ some none ∨
      ∃ event ∈ s.events handler moves, event.record = record ∧ event.action = .delete) :
    Revived handler s table record moves := by
  -- towards the last move after which the row lives for good
  induction moves generalizing s with
  | nil =>
    rcases gone with dead | ⟨event, hmem, -⟩
    · exact absurd after dead
    · cases hmem
  | cons move rest ih =>
    by_cases later : (s.step handler move).mark table record ≠ some none ∨
        ∃ event ∈ (s.step handler move).events handler rest, event.record = record ∧ event.action = .delete
    · exact (ih (tracks.step move) after later).cons
    · -- the row lives after this move for good, so it is this move that brought it to life
      rw [not_or, not_not] at later
      obtain ⟨live, kept⟩ := later
      have dead : s.mark table record ≠ some none := by
        rcases gone with dead | ⟨event, hmem, own, action⟩
        · exact dead
        · rw [events, List.mem_append] at hmem
          rcases hmem with handled | hrest
          · have handles : s.event? move = some event := Option.mem_toList.mp handled
            exact absurd live (not_live_step_of_delete indexed valid tracks handles own action)
          · exact absurd ⟨event, hrest, own, action⟩ kept
      obtain ⟨⟨event, handles, own, action⟩, absent⟩ :=
        created_of_live_step indexed valid tracks dead live
      refine ⟨[], move, rest, event, rfl, handles, own, action, absent, live, ?_⟩
      intro other hmem hown hdelete
      exact kept ⟨other, hmem, hown, hdelete⟩

/-- A row lives after its last deletion exactly if it has been revived. -/
theorem live_iff_revived {moves : List Move} (tracks : Tracks handler s record)
    (deleted : ∃ event ∈ s.events handler moves, event.record = record ∧ event.action = .delete) :
    (s.run handler moves).mark table record = some none ↔ Revived handler s table record moves := by
  constructor
  · intro live
    exact revived_of_live indexed valid tracks live (.inr deleted)
  · rintro ⟨before, move, later, event, rfl, -, -, -, -, live, kept⟩
    have split : before ++ move :: later = (before ++ [move]) ++ later := by simp
    have live' := live_run indexed valid (tracks.run (before ++ [move])) live kept
    rw [split]
    unfold run at live' ⊢
    rw [List.foldl_append]
    exact live'

omit [LedgerStore σ] indexed valid in
/-- What is handled last of a record is no deletion, if its row was revived. -/
theorem getLast?_ofRecord_of_revived {moves before later : List Move} {move : Move} {event : Event}
    (split : moves = before ++ move :: later) (handles : (s.run handler before).event? move = some event)
    (own : event.record = record) (action : event.action = .create)
    (kept : ∀ other ∈ (s.run handler (before ++ [move])).events handler later,
      other.record = record → other.action ≠ .delete) :
    ∀ last ∈ (ofRecord record (s.events handler moves)).getLast?, last.action ≠ .delete := by
  subst split
  intro last hlast
  have tail : (s.run handler before).events handler (move :: later) =
      event :: (s.run handler (before ++ [move])).events handler later := by
    rw [events, handles, run_concat]
    rfl
  rw [events_append, tail] at hlast
  unfold ofRecord at hlast
  rw [List.filter_append, List.filter_cons_of_pos (by simpa using own), List.getLast?_append,
    List.getLast?_cons, Option.some_or, ← List.getLast?_cons] at hlast
  -- the last one is the creation itself, or comes after it
  rcases List.mem_cons.mp (List.mem_of_getLast? hlast) with rfl | hlater
  · rw [action]
    exact nofun
  · obtain ⟨hmem, hown⟩ := List.mem_filter.mp hlater
    exact kept last hmem (by simpa using hown)

omit [LedgerStore σ] indexed valid in
/-- If all is handled and no commit is given up, a deletion that comes last in the stream is among what is handled. -/
theorem deletion_handled {moves : List Move} {workers : Nat} {stream : List Commit} {flushed : Option Int}
    {index : Index σ} (patient : ∀ move ∈ moves, move.givesUp = false)
    (done : ((start workers stream flushed index).run handler moves).AllHandled)
    (deleted : (ofRecord record (stream.flatMap (·.events))).getLast?.map (·.action) = some .delete) :
    ∃ event ∈ (start workers stream flushed index).events handler moves,
      event.record = record ∧ event.action = .delete := by
  obtain ⟨last, hlast, action⟩ := Option.map_eq_some_iff.mp deleted
  obtain ⟨hstream, hown⟩ := List.mem_filter.mp (List.mem_of_getLast? hlast)
  have waits : (start workers stream flushed index).Waits last := by
    obtain ⟨commit, hcommit, hmem⟩ := List.mem_flatMap.mp hstream
    exact .inr ⟨commit, hcommit, hmem⟩
  exact ⟨last, mem_events_of_waits waits patient done, by simpa using hown, action⟩

omit [LedgerStore σ] indexed valid in
theorem tracks_start [LedgerStore σ] (handler : Handler) (workers : Nat) (stream : List Commit) (flushed : Option Int)
    {index : Index σ} (sound : Sound index.store) (known : (index.roster.get? record.did).isSome = true) :
    Tracks handler (start workers stream flushed index) record :=
  ⟨sound, known, planned_start workers stream flushed index⟩

/-- **A deletion is lost** only to a creation that is handled after it. Of a stream whose last event about a
record of a known account is its deletion, once all commits have been handled: the row of the record lives
exactly if a creation of it was handled after every deletion, where there was no row. If the events about the
record were handled in the order of the stream, the row is not there or marked. -/
theorem live_after_deletion_iff {moves : List Move} {workers : Nat} {stream : List Commit}
    {flushed : Option Int} {index : Index σ} (sound : Sound index.store)
    (known : (index.roster.get? record.did).isSome = true)
    (patient : ∀ move ∈ moves, move.givesUp = false)
    (done : ((start workers stream flushed index).run handler moves).AllHandled)
    (deleted : (ofRecord record (stream.flatMap (·.events))).getLast?.map (·.action) = some .delete) :
    (((start workers stream flushed index).run handler moves).mark table record = some none ↔
        Revived handler (start workers stream flushed index) table record moves) ∧
      (ofRecord record ((start workers stream flushed index).events handler moves) =
          ofRecord record (stream.flatMap (·.events)) →
        ((start workers stream flushed index).run handler moves).mark table record ≠ some none) := by
  have tracks := tracks_start handler workers stream flushed sound known
  have live_iff := live_iff_revived indexed valid tracks (deletion_handled patient done deleted)
  refine ⟨live_iff, ?_⟩
  intro inOrder live
  obtain ⟨last, hlast, action⟩ := Option.map_eq_some_iff.mp deleted
  obtain ⟨before, move, later, event, split, handles, hevent, creates, -, -, kept⟩ := live_iff.mp live
  have undeleted := getLast?_ofRecord_of_revived split handles hevent creates kept
  rw [inOrder] at undeleted
  exact undeleted last hlast action

end

end Crew

/-! ### A creation that comes too late -/

namespace LateCreation

/-- The account, which is approved. -/
def account : Actor := .fresh "did:plc:hdhoaan3xa3jiuq4fg4mefid" .approved "" ⟨0, 0⟩

/-- The account follows another one. -/
def creation : Event where
  seq := 1
  did := account.did
  action := .create
  collection := "app.bsky.graph.follow"
  rkey := "f1"
  cid := none
  payload := some (.json
    "\x7b\"subject\":\"did:plc:ewvi7nxzyoun6zhxrhs64oiz\",\"createdAt\":\"2025-01-26T17:11:03Z\"\x7d")

/-- It does so no longer. -/
def deletion : Event := { creation with seq := 2, action := .delete, payload := none }

def stream : List Commit := [⟨1, [creation]⟩, ⟨2, [deletion]⟩]

/-- Two workers over an index that knows the account. -/
def crew : Crew Memory :=
  Crew.start 2 stream none ⟨{ actors := [(account.did, account)] }, .ofActors [account]⟩

/-- The second worker is faster than the first one. -/
def overtaken : List Move :=
  [.take 0, .take 1, .handle 1 ⟨0, 0⟩, .finish 1, .handle 0 ⟨0, 0⟩, .finish 0]

/-- The second worker takes its commit when the first one has finished. -/
def inTurn : List Move :=
  [.take 0, .handle 0 ⟨0, 0⟩, .finish 0, .take 1, .handle 1 ⟨0, 0⟩, .finish 1]

set_option maxRecDepth 100000 in
/-- Both commits have been handled, and the follow that was deleted last in the stream is there. -/
theorem follow_outlives_deletion :
    (crew.run {} overtaken).upcoming = [] ∧ (crew.run {} overtaken).hands = [none, none] ∧
      (crew.run {} overtaken).mark .follows creation.record = some none := by
  refine ⟨by decide +kernel, rfl, by decide +kernel⟩

set_option maxRecDepth 100000 in
/-- Both commits have been handled as well, in the order of the stream. -/
theorem inTurn_run :
    (crew.run {} inTurn).upcoming = [] ∧ (crew.run {} inTurn).hands = [none, none] ∧
      crew.events {} inTurn = [creation, deletion] := by
  refine ⟨by decide +kernel, rfl, by decide +kernel⟩

theorem inTurn_allHandled : (crew.run {} inTurn).AllHandled := by
  refine ⟨inTurn_run.1, ?_⟩
  intro worker hand busy
  have hmem := List.mem_of_getElem? (Crew.mem_hands_of_hand? busy)
  rw [inTurn_run.2.1] at hmem
  simp at hmem

set_option maxRecDepth 100000 in
/-- In the order of the stream the follow is deleted. -/
theorem follow_deleted_inTurn : (crew.run {} inTurn).mark .follows creation.record ≠ some none := by
  have sound : Memory.Sound { actors := [(account.did, account)] } := by
    refine ⟨?_, by simp⟩
    intro entry hmem
    rw [List.mem_singleton.mp hmem]
  have indexed : (Collection.ofName creation.record.collection).table? = some .follows := by decide +kernel
  have valid : Did.isValid creation.record.did = true := by decide +kernel
  refine (Crew.live_after_deletion_iff indexed valid sound (by decide +kernel) (by decide)
    inTurn_allHandled (by decide +kernel)).2 ?_
  rw [show Crew.events {} (Crew.start 2 stream none _) inTurn = _ from inTurn_run.2.2]
  decide +kernel

end LateCreation

end FeedIndex
