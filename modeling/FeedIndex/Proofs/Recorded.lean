import FeedIndex.Proofs.Shipment
import FeedIndex.Proofs.Successors
import Mathlib.Data.List.Induction
import Mathlib.Order.Bounds.Basic

/-!
# The least of what the workers recorded

The positions of the workers are numbers side by side, one for each worker, and a worker that has recorded nothing has
the position before the start there. So the watermark is the least of the last positions that differ from that one. It
is the least of all of them, as it should be (`Lowest`), unless that is the position before the start: then the worker
that stands there is taken for one that has recorded nothing. A stream does give out a commit of that position; a relay
sends whatever number fits into 64 bits.
-/

namespace FeedIndex

/-- What is not the least of a set can be left out of it, and the least stays the same. -/
theorem isLeast_sdiff_iff {α : Type} [LinearOrder α] {s : Set α} {a b : α} (above : ¬ IsLeast s a) :
    IsLeast (s \ {a}) b ↔ IsLeast s b := by
  constructor
  · rintro ⟨⟨listed, -⟩, least⟩
    refine ⟨listed, fun c listed' => ?_⟩
    by_cases same : c = a
    · subst same
      -- something below what was left out is still there, and nothing that is there is below b
      obtain ⟨d, listed'', below⟩ : ∃ d ∈ s, d < c := by
        by_contra! alone
        exact above ⟨listed', alone⟩
      exact (least ⟨listed'', below.ne⟩).trans below.le
    · exact least ⟨listed', same⟩
  · intro least
    refine ⟨⟨least.1, ?_⟩, fun c listed => least.2 listed.1⟩
    rintro rfl
    exact above least

/-- **Mark** — a worker has finished the commit of a position. -/
structure Mark where
  worker : Nat
  position : Int
deriving DecidableEq, Repr

namespace Watermark

variable {workers worker : Nat} {marks : List Mark} {mark : Mark} {p : Int}

/-! ## The last positions -/

/-- **last?** — the position that a worker recorded last. -/
def last? (worker : Nat) (marks : List Mark) : Option Int :=
  (marks.filter (·.worker = worker)).getLast?.map (·.position)

/-- **lasts** — the last positions of the workers that have recorded any. -/
def lasts (workers : Nat) (marks : List Mark) : Set Int :=
  {p | ∃ worker < workers, last? worker marks = some p}

theorem last?_concat :
    last? worker (marks ++ [mark]) = if mark.worker = worker then some mark.position else last? worker marks := by
  unfold last?
  rw [List.filter_append]
  split
  · next same =>
    rw [List.filter_cons_of_pos (by simpa using same), List.filter_nil, List.getLast?_concat, Option.map_some]
  · next other =>
    rw [List.filter_cons_of_neg (by simpa using other), List.filter_nil, List.append_nil]

theorem last?_eq_none_iff : last? worker marks = none ↔ ∀ mark ∈ marks, mark.worker ≠ worker := by
  simp [last?]

theorem mem_of_last? (found : last? worker marks = some p) : ⟨worker, p⟩ ∈ marks := by
  obtain ⟨mark, last, rfl⟩ := Option.map_eq_some_iff.mp found
  obtain ⟨listed, same⟩ := List.mem_filter.mp (List.mem_of_getLast? last)
  obtain rfl := of_decide_eq_true same
  exact listed

/-- There are no last positions exactly if all marks are of workers out of range. -/
theorem lasts_eq_empty_iff : lasts workers marks = ∅ ↔ ∀ mark ∈ marks, workers ≤ mark.worker := by
  constructor
  · intro empty mark listed
    by_contra inside
    have silent : last? mark.worker marks = none := by
      refine Option.eq_none_iff_forall_ne_some.mpr fun p found => ?_
      exact Set.notMem_empty p (empty ▸ ⟨mark.worker, Nat.not_le.mp inside, found⟩)
    exact last?_eq_none_iff.mp silent mark listed rfl
  · intro outside
    refine Set.eq_empty_iff_forall_notMem.mpr fun p ⟨worker, inside, found⟩ => ?_
    have silent : last? worker marks = none := by
      refine last?_eq_none_iff.mpr fun mark listed same => ?_
      exact Nat.not_le.mpr inside (same ▸ outside mark listed)
    cases silent.symm.trans found

/-- **Lowest** — what a watermark should be: none exactly if no worker in range has recorded anything, and else the
least of the last positions. -/
structure Lowest (workers : Nat) (marks : List Mark) (watermark : Option Int) : Prop where
  none_iff : watermark = none ↔ ∀ mark ∈ marks, workers ≤ mark.worker
  some_iff : ∀ p, watermark = some p ↔ IsLeast (lasts workers marks) p

/-! ## One number for each worker -/

/-- **recorded** — what some workers have recorded after marks, the first one first. -/
def recorded (workers : Nat) (marks : List Mark) : Watermark :=
  marks.foldl (fun progress mark => progress.record mark.worker mark.position) (fresh workers)

theorem recorded_concat :
    recorded workers (marks ++ [mark]) = (recorded workers marks).record mark.worker mark.position :=
  List.foldl_concat _ _ mark marks

/-- **cells** — the numbers side by side. -/
def cells (progress : Watermark) : List Int := progress.slots.map (·.getD unset)

theorem cells_fresh (workers : Nat) : (fresh workers).cells = List.replicate workers unset := List.map_replicate

theorem cells_record (worker : Nat) (position : Int) (progress : Watermark) :
    (progress.record worker position).cells = progress.cells.set worker position := List.map_set

/-- The watermark goes by the numbers alone: it cannot tell a worker that stands at the position before the start from
one that has recorded nothing. -/
theorem low?_eq_min?_cells (progress : Watermark) : progress.low? = (progress.cells.filter (· ≠ unset)).min? := by
  unfold low? positions cells
  congr 1
  induction progress.slots with
  | nil => rfl
  | cons slot slots ih =>
    rcases slot with _ | position
    · rw [List.filterMap_cons_none rfl, ih, List.map_cons, List.filter_cons_of_neg (by simp)]
    · show (position :: slots.filterMap id).filter _ = (position :: slots.map _).filter _
      rw [List.filter_cons, List.filter_cons, ih]

/-- **Each number is the last position of its worker**, or the one before the start if there is none. -/
theorem cells_recorded (workers : Nat) (marks : List Mark) :
    (recorded workers marks).cells = (List.range workers).map fun worker => (last? worker marks).getD unset := by
  induction marks using List.reverseRecOn with
  | nil =>
    show (fresh workers).cells = (List.range workers).map fun _ => unset
    rw [cells_fresh, List.map_const', List.length_range]
  | append_singleton marks mark ih =>
    -- the mark that comes last replaces one number, unless its worker is out of range
    rw [recorded_concat, cells_record, ih]
    refine List.ext_getElem? fun worker => ?_
    simp only [List.getElem?_set, List.getElem?_map, List.length_map, List.length_range, last?_concat]
    by_cases inside : worker < workers
    · rw [List.getElem?_range inside]
      by_cases same : mark.worker = worker
      · subst same
        rw [if_pos rfl, if_pos inside, Option.map_some, if_pos rfl, Option.getD_some]
      · rw [if_neg same, Option.map_some, Option.map_some, if_neg same]
    · rw [List.getElem?_eq_none (by simpa using inside)]
      split
      · next same => rw [if_neg (same ▸ inside), Option.map_none]
      · rfl

theorem length_recorded (workers : Nat) (marks : List Mark) : (recorded workers marks).slots.length = workers := by
  have lengths := congrArg List.length (cells_recorded workers marks)
  simpa [cells] using lengths

/-- Marks of workers out of range change nothing. -/
theorem recorded_filter (workers : Nat) (marks : List Mark) :
    recorded workers (marks.filter (·.worker < workers)) = recorded workers marks := by
  induction marks using List.reverseRecOn with
  | nil => rfl
  | append_singleton marks mark ih =>
    rw [List.filter_append, recorded_concat]
    by_cases inside : mark.worker < workers
    · rw [List.filter_cons_of_pos (by simpa using inside), List.filter_nil, recorded_concat, ih]
    · have outside : (recorded workers marks).slots.length ≤ mark.worker := by
        rw [length_recorded]
        exact Nat.not_lt.mp inside
      rw [List.filter_cons_of_neg (by simpa using inside), List.filter_nil, List.append_nil, ih,
        record_of_length_le _ outside]

/-! ## The least of the numbers that count -/

/-- The numbers that count are the last positions but the one before the start. -/
theorem mem_counting_iff :
    p ∈ (recorded workers marks).cells.filter (· ≠ unset) ↔ p ∈ lasts workers marks \ {unset} := by
  rw [List.mem_filter, cells_recorded, List.mem_map, decide_eq_true_iff]
  refine and_congr_left fun counts => ?_
  constructor
  · rintro ⟨worker, inside, held⟩
    rcases found : last? worker marks with _ | q <;> rw [found] at held
    -- the number of a worker that has recorded nothing does not count
    · exact absurd held.symm counts
    · obtain rfl : q = p := held
      exact ⟨worker, List.mem_range.mp inside, found⟩
  · rintro ⟨worker, inside, found⟩
    exact ⟨worker, List.mem_range.mpr inside, by rw [found, Option.getD_some]⟩

theorem low?_eq_some_iff_isLeast :
    (recorded workers marks).low? = some p ↔ IsLeast (lasts workers marks \ {unset}) p := by
  rw [low?_eq_min?_cells, List.min?_eq_some_iff]
  simp only [mem_counting_iff]
  rfl

theorem low?_eq_none_iff_subset :
    (recorded workers marks).low? = none ↔ lasts workers marks ⊆ {unset} := by
  rw [low?_eq_min?_cells, List.min?_eq_none_iff, List.eq_nil_iff_forall_not_mem, ← Set.sdiff_eq_empty,
    Set.eq_empty_iff_forall_notMem]
  exact forall_congr' fun p => not_congr mem_counting_iff

/-- **The watermark is as it should be** unless the least of the last positions is the one before the start. -/
theorem lowest_of_not_isLeast (above : ¬ IsLeast (lasts workers marks) unset) :
    Lowest workers marks (recorded workers marks).low? where
  none_iff := by
    rw [low?_eq_none_iff_subset, ← lasts_eq_empty_iff, Set.subset_singleton_iff_eq]
    refine or_iff_left fun only => above ?_
    rw [only]
    exact isLeast_singleton
  some_iff p := low?_eq_some_iff_isLeast.trans (isLeast_sdiff_iff above)

theorem not_isLeast_of_lowest (lowest : Lowest workers marks (recorded workers marks).low?) :
    ¬ IsLeast (lasts workers marks) unset := by
  intro least
  have low := (lowest.some_iff unset).mpr least
  exact (low?_eq_some_iff.mp low).1.2 rfl

/-- **The watermark is the least of the last positions that differ from the one before the start.** There is none if
they all are that one. Marks of workers out of range count for nothing. So the watermark is the least of all last
positions, and there is one as soon as a worker in range has recorded any, exactly unless the least is the one before
the start. -/
theorem recorded_lowest_iff (workers : Nat) (marks : List Mark) :
    (∀ p, (recorded workers marks).low? = some p ↔ IsLeast (lasts workers marks \ {unset}) p) ∧
      ((recorded workers marks).low? = none ↔ lasts workers marks ⊆ {unset}) ∧
      recorded workers (marks.filter (·.worker < workers)) = recorded workers marks ∧
      (Lowest workers marks (recorded workers marks).low? ↔ ¬ IsLeast (lasts workers marks) unset) :=
  ⟨fun _ => low?_eq_some_iff_isLeast, low?_eq_none_iff_subset, recorded_filter workers marks,
    not_isLeast_of_lowest, lowest_of_not_isLeast⟩

end Watermark

/-! ## The positions that a stream gives out -/

namespace Session

open Cbor (IsWord)

/-- **Delivers** — an open stream gives out a commit of a position. -/
def Delivers (transport : Transport) (p : Int) : Prop :=
  ∃ incoming commit, some commit ∈ (play incoming { transport }).1 ∧ commit.seq = p

/-- A commit of a position, with nothing in it. -/
def bareCommit (p : Int) : RepoCommit := ⟨p, "", "", [], [], false⟩

theorem fits_bareCommit {p : Int} (word : IsWord p) : (bareCommit p).Fits where
  seq := word
  repo := show "".utf8ByteSize < 2 ^ 64 by decide
  rev := show "".utf8ByteSize < 2 ^ 64 by decide
  count := show 0 < 2 ^ 64 by decide
  changes := nofun
  blocks := show 0 < 2 ^ 64 by decide

/-- **A relay's stream gives out every number of 64 bits as a position**, and no other number. -/
theorem delivers_relay_iff {p : Int} : Delivers .relay p ↔ IsWord p := by
  constructor
  · rintro ⟨incoming, commit, given, rfl⟩
    exact isWord_of_play given
  · intro word
    obtain ⟨header, form⟩ : ∃ header, header ∈ Frame.headers 1 "#commit" := ⟨_, List.mem_cons_self⟩
    have decoded := Frame.decode_write (fits_bareCommit word) form
    have accepted : acceptFrame (Frame.write header (bareCommit p)) none = .ok (some ⟨p, []⟩, some p) := by
      unfold acceptFrame
      rw [decoded]
      rfl
    refine ⟨[.binary (Frame.write header (bareCommit p))], ⟨p, []⟩, ?_, rfl⟩
    unfold play receive
    dsimp only
    rw [accepted]
    exact List.mem_cons_self

end Session

/-! ### A worker at the position before the start -/

namespace BeforeStart

open Watermark (unset recorded lasts mem_of_last? Lowest not_isLeast_of_lowest)

/-- The deletion of a like, as a Jetstream tells of it. -/
def text : String :=
  "\x7b\"did\":\"did:plc:author\",\"time_us\":-1,\"kind\":\"commit\"," ++
    "\"commit\":\x7b\"operation\":\"delete\",\"collection\":\"app.bsky.feed.like\",\"rkey\":\"k\"\x7d\x7d"

/-- The first worker has finished a commit of that position, the second one a later commit. -/
def marks : List Mark := [⟨0, unset⟩, ⟨1, 5⟩]

theorem isLeast_lasts : IsLeast (lasts 2 marks) unset := by
  have above : ∀ mark ∈ marks, unset ≤ mark.position := by decide
  exact ⟨⟨0, by decide, by decide⟩, fun p ⟨_, _, found⟩ => above _ (mem_of_last? found)⟩

/-- **A worker that has recorded the position before the start is taken for one that has recorded nothing**: alone it
makes no watermark, and beside another one the watermark is too high. Both transports give that position out. -/
theorem recorded_not_counted :
    Session.Delivers .jetstream unset ∧ Session.Delivers .relay unset ∧
      (recorded 2 [⟨0, unset⟩]).low? = none ∧ (recorded 2 marks).low? = some 5 ∧
      IsLeast (lasts 2 marks) unset ∧ ¬ Lowest 2 marks (recorded 2 marks).low? := by
  have given : some unset ∈
      (Session.play [.text text] { transport := .jetstream }).1.map (Option.map Commit.seq) := by
    decide +kernel
  obtain ⟨_, listed, made⟩ := List.mem_map.mp given
  obtain ⟨commit, rfl, position⟩ := Option.map_eq_some_iff.mp made
  refine ⟨⟨_, commit, listed, position⟩, ?_, by decide, by decide, isLeast_lasts, fun lowest => ?_⟩
  · exact Session.delivers_relay_iff.mpr (by decide)
  · exact not_isLeast_of_lowest lowest isLeast_lasts

end BeforeStart

end FeedIndex
