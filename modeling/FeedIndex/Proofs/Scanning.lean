import FeedIndex.Hashtag
import Mathlib.Data.List.TakeWhile
import Mathlib.Tactic.Common

/-!
# Where hashtags are found

The scan of a text is meant as the search for a pattern, and as a statement about positions. The pattern is the
start of the text or a blank, a hash, and a group: as many inner characters as possible with one behind them that is
no punctuation. The search for it backtracks, goes on behind each match, and so might hide one tag behind another.
It does not: a tag is found at every hash that stands at the start of the text or behind a blank, and nowhere else.
-/

namespace FeedIndex

/-! ## Search for a pattern -/

/-- **Pattern** — what a backtracking search looks for. -/
inductive Pattern
  /-- The start of the text. -/
  | start
  /-- One character of a class. -/
  | one (p : Char → Bool)
  /-- Characters of a class, as many as possible. -/
  | many (p : Char → Bool)
  /-- The preferred pattern, or else the other one. -/
  | either (preferred other : Pattern)
  /-- One pattern behind the other. -/
  | seq (first next : Pattern)
  /-- A pattern whose text is kept. -/
  | group (inner : Pattern)

namespace Pattern

/-- **Cursor** — a position in a text, what lies ahead of it, and the text that the group has kept. -/
structure Cursor where
  position : Nat
  ahead : List Char
  held : List Char

/-- As many characters of a class as possible, then one less, and so on down to none. -/
def greedy (p : Char → Bool) (held : List Char) (position : Nat) : List Char → List Cursor
  | [] => [⟨position, [], held⟩]
  | c :: cs =>
    if p c then greedy p held (position + 1) cs ++ [⟨position, c :: cs, held⟩] else [⟨position, c :: cs, held⟩]

/-- **ways** — all the ways to match a pattern from a cursor on, the one that is tried first in front. -/
def ways : Pattern → Cursor → List Cursor
  | start, cursor => if cursor.position = 0 then [cursor] else []
  | one p, cursor =>
    match cursor.ahead with
    | [] => []
    | c :: cs => if p c then [⟨cursor.position + 1, cs, cursor.held⟩] else []
  | many p, cursor => greedy p cursor.held cursor.position cursor.ahead
  | either preferred other, cursor => preferred.ways cursor ++ other.ways cursor
  | seq first next, cursor => (first.ways cursor).flatMap next.ways
  | group inner, cursor =>
    (inner.ways cursor).map fun after =>
      { after with held := cursor.ahead.take (cursor.ahead.length - after.ahead.length) }

/-- **Searched** — the search from a position on keeps these texts: it takes the first way of the leftmost match and
goes on behind it. No rule is needed for matches without a character. -/
inductive Searched (pattern : Pattern) : Nat → List Char → List (List Char) → Prop
  | done {position : Nat} (none : pattern.ways ⟨position, [], []⟩ = []) : Searched pattern position [] []
  | skip {position : Nat} {c : Char} {cs : List Char} {found : List (List Char)}
      (none : pattern.ways ⟨position, c :: cs, []⟩ = []) (later : Searched pattern (position + 1) cs found) :
      Searched pattern position (c :: cs) found
  | hit {position : Nat} {cs : List Char} {after : Cursor} {others : List Cursor} {found : List (List Char)}
      (first : pattern.ways ⟨position, cs, []⟩ = after :: others) (moved : after.ahead.length < cs.length)
      (later : Searched pattern after.position after.ahead found) :
      Searched pattern position cs (after.held :: found)

/-- A search has one outcome. -/
theorem Searched.unique {pattern : Pattern} {position : Nat} {cs : List Char} {found found' : List (List Char)}
    (searched : Searched pattern position cs found) (searched' : Searched pattern position cs found') :
    found = found' := by
  induction searched generalizing found' with
  | done none =>
    cases searched' with
    | done => rfl
    | hit first => cases none.symm.trans first
  | skip none _ ih =>
    cases searched' with
    | skip _ later' => exact ih later'
    | hit first => cases none.symm.trans first
  | hit first _ _ ih =>
    cases searched' with
    | done none => cases none.symm.trans first
    | skip none => cases none.symm.trans first
    | hit first' _ later' =>
      obtain ⟨rfl, -⟩ := List.cons.inj (first.symm.trans first')
      rw [ih later']

end Pattern

namespace Text

/-! ## A run without its end -/

theorem stops_dropWhile {p : Char → Bool} {cs : List Char} {c : Char} (first : (cs.dropWhile p).head? = some c) :
    p c = false := by
  have stops := List.head?_dropWhile_not p cs
  rw [first] at stops
  simpa using stops

theorem dropTrailing_cons (p : Char → Bool) (c : Char) (cs : List Char) :
    dropTrailing p (c :: cs) =
      if dropTrailing p cs = [] then (if p c then [] else [c]) else c :: dropTrailing p cs := by
  simp only [dropTrailing, List.reverse_cons, List.dropWhile_append, List.reverse_eq_nil_iff, List.isEmpty_iff]
  split
  · by_cases drops : p c = true <;> simp [List.dropWhile, drops]
  · simp

theorem dropTrailing_congr {p q : Char → Bool} {cs : List Char} (same : ∀ c ∈ cs, p c = q c) :
    dropTrailing p cs = dropTrailing q cs := by
  induction cs with
  | nil => rfl
  | cons c cs ih =>
    obtain ⟨head, tail⟩ := List.forall_mem_cons.mp same
    rw [dropTrailing_cons, dropTrailing_cons, head, ih tail]

/-- What is kept and what was dropped. -/
theorem dropTrailing_append (p : Char → Bool) (cs : List Char) :
    ∃ dropped, cs = dropTrailing p cs ++ dropped ∧ ∀ c ∈ dropped, p c = true := by
  refine ⟨(cs.reverse.takeWhile p).reverse, ?_, fun c mem => ?_⟩
  · rw [dropTrailing, ← List.reverse_append, List.takeWhile_append_dropWhile, List.reverse_reverse]
  · exact List.mem_takeWhile_imp (List.mem_reverse.mp mem)

theorem getLast?_dropTrailing (p : Char → Bool) (cs : List Char) :
    ∀ c ∈ (dropTrailing p cs).getLast?, p c = false := by
  intro c last
  rw [dropTrailing, List.getLast?_reverse] at last
  exact stops_dropWhile last

/-- There is one way to take a run off the end of a list. -/
theorem dropTrailing_eq_iff {p : Char → Bool} {cs kept : List Char} :
    dropTrailing p cs = kept ↔
      (∃ dropped, cs = kept ++ dropped ∧ ∀ c ∈ dropped, p c = true) ∧ ∀ c ∈ kept.getLast?, p c = false := by
  constructor
  · rintro rfl
    exact ⟨dropTrailing_append p cs, getLast?_dropTrailing p cs⟩
  · rintro ⟨⟨dropped, rfl, drops⟩, stops⟩
    rw [dropTrailing, List.reverse_append,
      List.dropWhile_append_of_pos fun c mem => drops c (List.mem_reverse.mp mem)]
    rcases kept.eq_nil_or_concat with rfl | ⟨front, last, rfl⟩
    · rfl
    · have solid : p last = false := stops last (by simp)
      simp [solid]

end Text

namespace Hashtag

open Pattern (Searched)

/-! ## The pattern of a hashtag -/

/-- A character that can end a hashtag. -/
def isFinal (c : Char) : Bool := isInner c && !Text.isPunctuation c

/-- A hash, and the tag behind it as a group. -/
def hashed : Pattern := .seq (.one isHash) (.group (.seq (.many isInner) (.one isFinal)))

/-- **pattern** — a tag with its hash, at the start of the text or behind a blank. -/
def pattern : Pattern := .seq (.either .start (.one Text.isBlank)) hashed

theorem isBlank_of_isHash {c : Char} (hash : isHash c = true) : Text.isBlank c = false := by
  simp only [isHash, Bool.or_eq_true, beq_iff_eq] at hash
  rcases hash with rfl | rfl <;> decide

theorem isInner_iff {c : Char} : isInner c = true ↔ Text.isBlank c = false ∧ isHash c = false := by
  simp [isInner]

/-- The tag at the head of a text, by the classes of the pattern. -/
theorem body_eq (cs : List Char) : body cs = Text.dropTrailing (!isFinal ·) (cs.takeWhile isInner) := by
  refine Text.dropTrailing_congr fun c mem => ?_
  simp [isFinal, List.mem_takeWhile_imp mem]

theorem body_cons (c : Char) (cs : List Char) :
    body (c :: cs) =
      if isInner c then (if body cs = [] then (if isFinal c then [c] else []) else c :: body cs) else [] := by
  by_cases inner : isInner c = true
  · simp only [body_eq, List.takeWhile_cons_of_pos inner, Text.dropTrailing_cons, if_pos inner]
    cases isFinal c <;> rfl
  · simp [body, List.takeWhile_cons_of_neg inner, Text.dropTrailing, inner]

/-- **What is tried first** for the group: the tag at the head of the text, if there is one. -/
theorem ways_body (position : Nat) (cs held : List Char) :
    (((Pattern.many isInner).seq (.one isFinal)).ways ⟨position, cs, held⟩).head? =
      if body cs = [] then none else some ⟨position + (body cs).length, cs.drop (body cs).length, held⟩ := by
  induction cs generalizing position with
  | nil => rfl
  | cons c cs ih =>
    simp only [Pattern.ways, Pattern.greedy] at ih ⊢
    rw [body_cons]
    by_cases inner : isInner c = true
    · -- the ways with more characters come first, then the one that ends here
      rw [if_pos inner, if_pos inner, List.flatMap_append, List.head?_append, ih (position + 1)]
      by_cases none : body cs = []
      · rw [if_pos none, if_pos none]
        by_cases final : isFinal c = true <;> simp [final]
      · rw [if_neg none, if_neg none, if_neg (List.cons_ne_nil _ _)]
        simp [Nat.add_assoc, Nat.add_comm 1]
    · have notFinal : isFinal c = false := by simp [isFinal, inner]
      simp [inner, notFinal]

/-- The tag is the beginning of the text. -/
theorem body_append (cs : List Char) : ∃ rest, cs = body cs ++ rest ∧ ∀ c ∈ body cs, isInner c = true := by
  obtain ⟨dropped, run, -⟩ := Text.dropTrailing_append Text.isPunctuation (cs.takeWhile isInner)
  refine ⟨dropped ++ cs.dropWhile isInner, ?_, fun c mem => ?_⟩
  · rw [body, ← List.append_assoc, ← run, List.takeWhile_append_dropWhile]
  · have inRun : c ∈ cs.takeWhile isInner := by
      rw [run]
      exact List.mem_append_left _ mem
    exact List.mem_takeWhile_imp inRun

theorem take_body (cs : List Char) : cs.take (body cs).length = body cs := by
  obtain ⟨rest, whole, -⟩ := body_append cs
  generalize body cs = tag at whole ⊢
  rw [whole, List.take_left]

theorem length_body_le (cs : List Char) : (body cs).length ≤ cs.length := by
  rw [← take_body cs, List.length_take]
  exact Nat.min_le_right _ _

/-- The cursor behind the tag at the head of a text, with the tag in the group. -/
def behindTag? (position : Nat) (cs : List Char) : Option Pattern.Cursor :=
  if body cs = [] then none else some ⟨position + (body cs).length, cs.drop (body cs).length, body cs⟩

theorem ways_hashed (position : Nat) (c : Char) (cs : List Char) :
    (hashed.ways ⟨position, c :: cs, []⟩).head? = if isHash c then behindTag? (position + 1) cs else none := by
  by_cases hash : isHash c = true
  · have grouped : hashed.ways ⟨position, c :: cs, []⟩ =
        (Pattern.group (.seq (.many isInner) (.one isFinal))).ways ⟨position + 1, cs, []⟩ := by
      simp [hashed, Pattern.ways, hash]
    rw [grouped, Pattern.ways, List.head?_map, ways_body, if_pos hash, behindTag?]
    split
    · rfl
    · simp [Nat.sub_sub_self (length_body_le cs), take_body]
  · simp [hashed, Pattern.ways, hash]

/-- **The first way** to match the pattern takes the tag behind an opening at the head of the text. -/
theorem ways_pattern (position : Nat) (cs : List Char) :
    (pattern.ways ⟨position, cs, []⟩).head? =
      (opened? (position == 0) cs).bind fun rest => behindTag? (position + (cs.length - rest.length)) rest := by
  rcases cs with _ | ⟨c, cs⟩
  · rcases position with _ | position <;> rfl
  have alternatives : (pattern.ways ⟨position, c :: cs, []⟩).head? =
      (if position = 0 then (hashed.ways ⟨position, c :: cs, []⟩).head? else none).or
        (if Text.isBlank c then (hashed.ways ⟨position + 1, cs, []⟩).head? else none) := by
    simp only [pattern, Pattern.ways, List.flatMap_append, List.head?_append]
    split <;> split <;> simp
  rw [alternatives, ways_hashed, opened?.eq_def]
  by_cases hash : isHash c = true
  · by_cases zero : position = 0 <;> simp [hash, zero, isBlank_of_isHash hash]
  · by_cases blank : Text.isBlank c = true
    · rcases cs with _ | ⟨d, ds⟩
      · simp [hash, blank, hashed, Pattern.ways]
      · rw [ways_hashed]
        have two : position + (ds.length + 1 + 1 - ds.length) = position + 1 + 1 := by omega
        by_cases hash' : isHash d = true <;> simp [hash, blank, hash', two]
    · simp [hash, blank]

theorem opened?_eq_some_iff {atStart : Bool} {cs after : List Char} :
    opened? atStart cs = some after ↔
      (atStart = true ∧ ∃ c, isHash c = true ∧ cs = c :: after) ∨
        ∃ b c, Text.isBlank b = true ∧ isHash c = true ∧ cs = b :: c :: after := by
  rcases cs with _ | ⟨c, cs⟩
  · simp [opened?]
  rw [opened?.eq_def]
  simp only [Bool.and_eq_true]
  by_cases here : atStart = true ∧ isHash c = true
  · rw [if_pos here, Option.some.injEq]
    constructor
    · rintro rfl
      exact .inl ⟨here.1, c, here.2, rfl⟩
    · rintro (⟨-, d, -, same⟩ | ⟨b, d, blank, -, same⟩)
      · exact (List.cons.inj same).2
      · -- a hash is no blank
        cases same
        simp [isBlank_of_isHash here.2] at blank
  · rw [if_neg here, or_iff_right]
    · rcases cs with _ | ⟨d, ds⟩
      · simp
      · simp only [Option.ite_none_right_eq_some, Option.some.injEq]
        constructor
        · rintro ⟨blank, hash, rfl⟩
          exact ⟨c, d, blank, hash, rfl⟩
        · rintro ⟨b, e, blank, hash, same⟩
          cases same
          exact ⟨blank, hash, rfl⟩
    · rintro ⟨start, d, hash, same⟩
      cases same
      exact here ⟨start, hash⟩

theorem matchHere?_eq_some_iff {atStart : Bool} {cs tag rest : List Char} :
    matchHere? atStart cs = some (tag, rest) ↔
      ∃ after, opened? atStart cs = some after ∧ body after ≠ [] ∧
        body after = tag ∧ after.drop (body after).length = rest := by
  rw [matchHere?]
  rcases opened? atStart cs with _ | after <;> simp

theorem matchHere?_eq_none_iff {atStart : Bool} {cs : List Char} :
    matchHere? atStart cs = none ↔ ∀ after, opened? atStart cs = some after → body after = [] := by
  rw [matchHere?]
  rcases opened? atStart cs with _ | after <;> simp

/-- The scan is a search for the pattern. -/
theorem searched_scan {atStart : Bool} {position : Nat} (cs : List Char) (start : (position == 0) = atStart) :
    Searched pattern position cs (scan atStart cs) := by
  have noWay {cs : List Char} {position : Nat} (none : matchHere? (position == 0) cs = none) :
      pattern.ways ⟨position, cs, []⟩ = [] := by
    rw [← List.head?_eq_none_iff, ways_pattern, Option.bind_eq_none_iff]
    exact fun after opens => if_pos (matchHere?_eq_none_iff.mp none after opens)
  fun_induction scan atStart cs generalizing position with
  | case1 atStart cs tag rest here ih =>
    obtain ⟨after, opens, nonempty, rfl, rfl⟩ := matchHere?_eq_some_iff.mp here
    have first := ways_pattern position cs
    rw [start, opens, Option.bind_some, behindTag?, if_neg nonempty] at first
    obtain ⟨others, ways⟩ := List.head?_eq_some_iff.mp first
    refine Searched.hit ways (matchHere?_length here) (ih ?_)
    -- the position has moved on by the tag at least
    have moved := List.length_pos_iff.mpr nonempty
    rw [beq_eq_false_iff_ne]
    change position + (cs.length - after.length) + (body after).length ≠ 0
    omega
  | case2 atStart here =>
    subst start
    exact .done (noWay here)
  | case3 atStart c cs here ih =>
    subst start
    exact .skip (noWay here) (ih rfl)

/-! ## Hashes at which a tag is found -/

/-- **openings** — the positions of the hashes that stand at the start of the text or behind a blank, each with what
follows it. `fresh` says that the first character is in such a place. -/
def openings (fresh : Bool) (position : Nat) : List Char → List (Nat × List Char)
  | [] => []
  | c :: cs =>
    if fresh && isHash c then (position, cs) :: openings (Text.isBlank c) (position + 1) cs
    else openings (Text.isBlank c) (position + 1) cs

/-- **OpensAt** — a hash stands at the position, at the start of the text or behind a blank. -/
def OpensAt (cs : List Char) (position : Nat) : Prop :=
  (∃ c, cs[position]? = some c ∧ isHash c = true) ∧
    (position = 0 ∨ ∃ c, cs[position - 1]? = some c ∧ Text.isBlank c = true)

theorem mem_openings {fresh : Bool} {position place : Nat} {cs after : List Char} :
    (place, after) ∈ openings fresh position cs ↔
      ∃ offset, place = position + offset ∧ after = cs.drop (offset + 1) ∧
        (∃ c, cs[offset]? = some c ∧ isHash c = true) ∧
        (offset = 0 ∧ fresh = true ∨ 0 < offset ∧ ∃ c, cs[offset - 1]? = some c ∧ Text.isBlank c = true) := by
  induction cs generalizing fresh position with
  | nil => simp [openings]
  | cons c cs ih =>
    have later : (place, after) ∈ openings (Text.isBlank c) (position + 1) cs ↔ ∃ offset,
        place = position + (offset + 1) ∧ after = (c :: cs).drop (offset + 1 + 1) ∧
          (∃ d, (c :: cs)[offset + 1]? = some d ∧ isHash d = true) ∧
          ∃ d, (c :: cs)[offset]? = some d ∧ Text.isBlank d = true := by
      rw [ih]
      refine exists_congr fun offset => and_congr (by omega) (and_congr (by simp) (and_congr (by simp) ?_))
      rcases offset with _ | offset <;> simp
    -- the first character is an opening or not, the others are left to the rest
    rw [← Nat.or_exists_add_one, openings]
    by_cases here : fresh = true ∧ isHash c = true
    · rw [if_pos (by simp [here]), List.mem_cons, later]
      simp [here]
    · rw [if_neg (by simpa using here), later]
      simp [and_comm, here]

theorem positions_openings (fresh : Bool) (position : Nat) (cs : List Char) :
    ((openings fresh position cs).map (·.1)).Pairwise (· < ·) ∧
      ∀ place ∈ (openings fresh position cs).map (·.1), position ≤ place := by
  induction cs generalizing fresh position with
  | nil => simp [openings]
  | cons c cs ih =>
    obtain ⟨ascending, behind⟩ := ih (Text.isBlank c) (position + 1)
    have further : ∀ place ∈ (openings (Text.isBlank c) (position + 1) cs).map (·.1), position < place := behind
    rw [openings]
    split
    · refine ⟨List.pairwise_cons.mpr ⟨further, ascending⟩, List.forall_mem_cons.mpr ⟨le_rfl, ?_⟩⟩
      exact fun place mem => (further place mem).le
    · exact ⟨ascending, fun place mem => (further place mem).le⟩

/-- No hash opens a tag among inner characters. -/
theorem openings_append {tag : List Char} (inner : ∀ c ∈ tag, isInner c = true) (position : Nat) (rest : List Char) :
    openings false position (tag ++ rest) = openings false (position + tag.length) rest := by
  induction tag generalizing position with
  | nil => rfl
  | cons c tag ih =>
    obtain ⟨head, tail⟩ := List.forall_mem_cons.mp inner
    rw [List.cons_append, openings, if_neg (by simp), (isInner_iff.mp head).1, ih tail, List.length_cons,
      Nat.add_assoc, Nat.add_comm 1]

/-- The tags at the openings of a text, each with the position of its hash. -/
def placed (fresh : Bool) (position : Nat) (cs : List Char) : List (Nat × List Char) :=
  ((openings fresh position cs).map fun (place, after) => (place, body after)).filter (·.2 ≠ [])

theorem placed_cons (fresh : Bool) (position : Nat) (c : Char) (cs : List Char) :
    placed fresh position (c :: cs) =
      if fresh = true ∧ isHash c = true ∧ body cs ≠ [] then
        (position, body cs) :: placed (Text.isBlank c) (position + 1) cs
      else placed (Text.isBlank c) (position + 1) cs := by
  by_cases here : fresh = true ∧ isHash c = true
  · by_cases tag : body cs = [] <;> simp [placed, openings, here, tag]
  · have notHere : (fresh && isHash c) = false := by simpa using here
    rw [if_neg fun all => here ⟨all.1, all.2.1⟩, placed, openings, notHere]
    rfl

/-- Behind an opening the search may go on at the end of its tag. -/
theorem placed_hash {position : Nat} {c : Char} {after : List Char} (hash : isHash c = true)
    (tag : body after ≠ []) :
    placed true position (c :: after) =
      (position, body after) ::
        placed false (position + 1 + (body after).length) (after.drop (body after).length) := by
  obtain ⟨rest, whole, inner⟩ := body_append after
  have later : placed false (position + 1) after =
      placed false (position + 1 + (body after).length) (after.drop (body after).length) := by
    rw [placed, placed]
    generalize body after = tag at whole inner ⊢
    rw [whole, List.drop_left, openings_append inner]
  rw [placed_cons, if_pos ⟨rfl, hash, tag⟩, isBlank_of_isHash hash, later]

/-- Where no tag is found, the first character is of no use to those behind it. -/
theorem placed_of_not_here {fresh : Bool} {position : Nat} {c : Char} {cs : List Char}
    (none : matchHere? fresh (c :: cs) = none) :
    placed fresh position (c :: cs) = placed false (position + 1) cs := by
  have empty := matchHere?_eq_none_iff.mp none
  rw [placed_cons, if_neg]
  · by_cases blank : Text.isBlank c = true
    · rcases cs with _ | ⟨d, ds⟩
      · rfl
      · rw [blank, placed_cons, placed_cons, if_neg, if_neg (by simp)]
        rintro ⟨-, hash, tag⟩
        exact tag (empty ds (opened?_eq_some_iff.mpr (.inr ⟨c, d, blank, hash, rfl⟩)))
    · rw [Bool.not_eq_true] at blank
      rw [blank]
  · rintro ⟨rfl, hash, tag⟩
    exact tag (empty cs (opened?_eq_some_iff.mpr (.inl ⟨rfl, c, hash, rfl⟩)))

/-- **Tags do not get in the way of each other**: the scan finds the tag at each opening. -/
theorem scan_eq_placed (fresh : Bool) (position : Nat) (cs : List Char) :
    scan fresh cs = (placed fresh position cs).map (·.2) := by
  fun_induction scan fresh cs generalizing position with
  | case1 fresh cs tag rest here ih =>
    obtain ⟨after, opens, nonempty, rfl, rfl⟩ := matchHere?_eq_some_iff.mp here
    rcases opened?_eq_some_iff.mp opens with ⟨rfl, c, hash, rfl⟩ | ⟨b, c, blank, hash, rfl⟩
    · rw [placed_hash hash nonempty, List.map_cons, ih]
    · have notHash : isHash b ≠ true := fun hash => by simp [isBlank_of_isHash hash] at blank
      rw [placed_cons, if_neg fun all => notHash all.2.1, blank, placed_hash hash nonempty, List.map_cons, ih]
  | case2 fresh here => rfl
  | case3 fresh c cs here ih =>
    rw [placed_of_not_here here]
    exact ih _

/-! ## The two readings of the scan -/

/-- **Body** — the tag at the head of a text: the longest run of characters that are neither blank nor hash, without
the punctuation at its end. -/
def Body (cs tag : List Char) : Prop :=
  ∃ dropped rest, cs = tag ++ dropped ++ rest ∧
    (∀ c ∈ tag ++ dropped, Text.isBlank c = false ∧ isHash c = false) ∧
    (∀ c ∈ rest.head?, Text.isBlank c = true ∨ isHash c = true) ∧
    (∀ c ∈ dropped, Text.isPunctuation c = true) ∧ ∀ c ∈ tag.getLast?, Text.isPunctuation c = false

theorem takeWhile_eq_iff {p : Char → Bool} {cs run : List Char} :
    cs.takeWhile p = run ↔
      ∃ rest, cs = run ++ rest ∧ (∀ c ∈ run, p c = true) ∧ ∀ c ∈ rest.head?, p c = false := by
  constructor
  · rintro rfl
    exact ⟨cs.dropWhile p, List.takeWhile_append_dropWhile.symm, fun c => List.mem_takeWhile_imp,
      fun c first => Text.stops_dropWhile first⟩
  · rintro ⟨rest, rfl, all, stops⟩
    rw [List.takeWhile_append_of_pos all]
    rcases rest with _ | ⟨c, rest⟩
    · simp
    · simp [stops c rfl]

theorem body_eq_iff {cs tag : List Char} : body cs = tag ↔ Body cs tag := by
  rw [body, Text.dropTrailing_eq_iff]
  constructor
  · rintro ⟨⟨dropped, run, drops⟩, stops⟩
    obtain ⟨rest, whole, inner, ends⟩ := takeWhile_eq_iff.mp run
    refine ⟨dropped, rest, whole, fun c mem => isInner_iff.mp (inner c mem), fun c first => ?_, drops, stops⟩
    simpa [isInner, or_iff_not_imp_left] using ends c first
  · rintro ⟨dropped, rest, whole, inner, ends, drops, stops⟩
    refine ⟨⟨dropped, takeWhile_eq_iff.mpr ⟨rest, whole, fun c mem => isInner_iff.mpr (inner c mem), ?_⟩, drops⟩,
      stops⟩
    intro c first
    simpa [isInner, or_iff_not_imp_left] using ends c first

/-- **TagAt** — the position opens a tag that counts: not empty, of at most 64 characters, and not a number. -/
structure TagAt (cs : List Char) (place : Nat) (tag : List Char) : Prop where
  opens : OpensAt cs place
  body : Body (cs.drop (place + 1)) tag
  nonempty : tag ≠ []
  counts : tag.length ≤ 64 ∧ ∃ c ∈ tag, c.isDigit = false

theorem mem_placed {cs : List Char} {place : Nat} {tag : List Char} :
    (place, tag) ∈ placed true 0 cs ↔ OpensAt cs place ∧ Body (cs.drop (place + 1)) tag ∧ tag ≠ [] := by
  rw [placed, List.mem_filter, List.mem_map, decide_eq_true_eq, ← and_assoc]
  refine and_congr_left fun _ => ?_
  constructor
  · rintro ⟨⟨here, after⟩, opening, same⟩
    obtain ⟨rfl, rfl⟩ := Prod.mk.inj same
    obtain ⟨offset, place, rfl, hash, before⟩ := mem_openings.mp opening
    obtain rfl := place.trans (Nat.zero_add offset)
    exact ⟨⟨hash, before.imp And.left And.right⟩, body_eq_iff.mp rfl⟩
  · rintro ⟨⟨hash, before⟩, body⟩
    refine ⟨(place, cs.drop (place + 1)), mem_openings.mpr ⟨place, (Nat.zero_add place).symm, rfl, hash, ?_⟩,
      Prod.ext rfl (body_eq_iff.mpr body)⟩
    rcases Nat.eq_zero_or_pos place with start | behind
    · exact .inl ⟨start, rfl⟩
    · exact .inr ⟨behind, before.resolve_left behind.ne'⟩

theorem positions_placed (fresh : Bool) (position : Nat) (cs : List Char) :
    ((placed fresh position cs).map (·.1)).Pairwise (· < ·) := by
  refine List.Pairwise.sublist ?_ (positions_openings fresh position cs).1
  rw [placed]
  have whole : ((openings fresh position cs).map fun (place, after) => (place, body after)).map (·.1) =
      (openings fresh position cs).map (·.1) := by
    rw [List.map_map]
    rfl
  exact whole ▸ List.filter_sublist.map _

theorem isTag_iff {tag : List Char} :
    isTag tag = true ↔ tag ≠ [] ∧ tag.length ≤ 64 ∧ ∃ c ∈ tag, c.isDigit = false := by
  change _ ↔ tag ≠ [] ∧ tag.length ≤ maxLength ∧ _
  simp only [isTag, Bool.and_eq_true, Bool.not_eq_true', List.isEmpty_eq_false_iff, decide_eq_true_eq,
    List.all_eq_false, Bool.not_eq_true, and_assoc]

/-- What is found counts as a tag, and has inner characters only. -/
theorem inner_of_mem_find {text : String} {tag : List Char} (mem : tag ∈ find text) :
    isTag tag = true ∧ ∀ c ∈ tag, isInner c = true := by
  obtain ⟨found, counts⟩ := List.mem_filter.mp mem
  rw [scan_eq_placed true 0] at found
  obtain ⟨⟨place, tag⟩, inPlaces, rfl⟩ := List.mem_map.mp found
  obtain ⟨-, ⟨dropped, rest, -, inner, -⟩, -⟩ := mem_placed.mp inPlaces
  exact ⟨counts, fun c mem => isInner_iff.mpr (inner c (List.mem_append_left _ mem))⟩

/-- **Hashtags by position.** The search for the pattern has one outcome, and the hashtags of a text are those of its
texts that count as tags. They are also the tags at the positions that open one, in their order, and no others. -/
theorem find_by_position (text : String) :
    (∃ kept, (∀ found, Searched pattern 0 text.toList found ↔ found = kept) ∧ find text = kept.filter isTag) ∧
      ∃ places : List (Nat × List Char), find text = places.map (·.2) ∧ (places.map (·.1)).Pairwise (· < ·) ∧
        ∀ place tag, (place, tag) ∈ places ↔ TagAt text.toList place tag := by
  have searched : Searched pattern 0 text.toList (scan true text.toList) := searched_scan _ rfl
  refine ⟨⟨_, fun found => ⟨fun outcome => outcome.unique searched, ?_⟩, rfl⟩, ?_⟩
  · rintro rfl
    exact searched
  refine ⟨(placed true 0 text.toList).filter (isTag ·.2), ?_, ?_, fun place tag => ?_⟩
  · rw [find, scan_eq_placed true 0, List.filter_map]
    rfl
  · exact ((positions_placed true 0 text.toList).sublist (List.filter_sublist.map _))
  · rw [List.mem_filter, mem_placed]
    constructor
    · rintro ⟨⟨opens, body, nonempty⟩, counts⟩
      exact ⟨opens, body, nonempty, (isTag_iff.mp counts).2⟩
    · rintro ⟨opens, body, nonempty, counts⟩
      exact ⟨⟨opens, body, nonempty⟩, isTag_iff.mpr ⟨nonempty, counts⟩⟩

example : find "#a#b ＃c, #12 ##d\n#e!" = [['a'], ['c'], ['e']] := by decide +kernel

end Hashtag

end FeedIndex
