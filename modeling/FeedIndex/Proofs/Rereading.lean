import FeedIndex.Proofs.Keyed
import FeedIndex.Record.Opener
import Mathlib.Data.List.Induction
import Mathlib.Data.List.Pairwise

/-!
# Records read again

A record can be read from the JSON value that was kept of it. A value has its members in the order of their keys
and each key once, and nothing limits how deep it is nested. `Bears` says of which inputs a value can be a part, and
`Reads` what is made of it there. `Portrayal` says what it takes for the values to stand for what another transport
holds: then whatever record is read there is read again from the value (`carries_post`). It does not matter that
members stand in another order there, and that fields which a record does not have may repeat.
-/

namespace FeedIndex

open Wire (Reading Field)

namespace Keyed

variable {α : Type}

/-! ## Entries of known keys -/

theorem perm_putSorted {key : String} {t : Keyed α} (new : key ∉ t.map (·.1)) (a : α) :
    (putSorted key a t).Perm ((key, a) :: t) := by
  induction t with
  | nil => rfl
  | cons entry rest ih =>
    rw [List.map_cons, List.mem_cons, not_or] at new
    unfold putSorted
    split
    · rfl
    · rw [if_neg new.1]
      exact ((ih new.2).cons entry).trans (List.Perm.swap _ _ _)

theorem filter_putSorted {p : String → Bool} {key : String} (other : p key = false) (a : α) (t : Keyed α) :
    (putSorted key a t).filter (p ·.1) = t.filter (p ·.1) := by
  induction t with
  | nil => simp [putSorted, other]
  | cons entry rest ih =>
    unfold putSorted
    split
    · rw [List.filter_cons_of_neg (by simp [other])]
    · split
      · next same =>
        rw [List.filter_cons_of_neg (by simp [other]), List.filter_cons_of_neg (by simp [← same, other])]
      · rw [List.filter_cons, List.filter_cons, ih]

/-- **Sorting** keeps the entries whose keys do not repeat, whatever becomes of the others. -/
theorem perm_filter_sorted {p : String → Bool} {t : Keyed α} (distinct : ((t.filter (p ·.1)).map (·.1)).Nodup) :
    ((sorted t).filter (p ·.1)).Perm (t.filter (p ·.1)) := by
  induction t using List.reverseRecOn with
  | nil => rfl
  | append_singleton t entry ih =>
    have last : sorted (t ++ [entry]) = putSorted entry.1 entry.2 (sorted t) := by
      unfold sorted
      rw [List.foldl_append, List.foldl_cons, List.foldl_nil]
    rw [List.filter_append, List.map_append, List.nodup_append] at distinct
    have earlier := ih distinct.1
    rw [last, List.filter_append]
    rcases own : p entry.1 with _ | _
    · rw [filter_putSorted own, List.filter_cons_of_neg (by simp [own]), List.filter_nil, List.append_nil]
      exact earlier
    · -- the key is new, as none of the keys that are kept repeats
      have single : [entry].filter (p ·.1) = [entry] := List.filter_cons_of_pos own
      rw [single] at distinct ⊢
      have new : entry.1 ∉ (sorted t).map (·.1) := by
        intro listed
        obtain ⟨old, member, same⟩ := List.mem_map.mp listed
        have kept : old ∈ (sorted t).filter (p ·.1) := List.mem_filter.mpr ⟨member, by rw [same]; exact own⟩
        exact distinct.2.2 old.1 (List.mem_map_of_mem (earlier.mem_iff.mp kept)) entry.1 (by simp) same
      refine ((perm_putSorted new entry.2).filter _).trans ?_
      rw [show ((entry.1, entry.2) :: sorted t).filter (p ·.1) = entry :: (sorted t).filter (p ·.1) from
        List.filter_cons_of_pos own]
      exact (earlier.cons _).trans (List.perm_append_singleton _ _).symm

end Keyed

namespace Json

/-- **Arranges** — members are put in some order, and none is lost whose key does not repeat. -/
structure Arranges (arrange : Arrangement) : Prop where
  subset (ms : List (String × Value)) : arrange ms ⊆ ms
  perm {p : String → Bool} {ms : List (String × Value)} (distinct : ((ms.filter (p ·.1)).map (·.1)).Nodup) :
    ((arrange ms).filter (p ·.1)).Perm (ms.filter (p ·.1))

theorem arranges_id : Arranges id := ⟨fun _ => List.Subset.refl _, fun _ => List.Perm.refl _⟩

theorem arranges_sorted : Arranges Keyed.sorted := ⟨fun _ _ mem => Keyed.mem_of_mem_sorted mem, Keyed.perm_filter_sorted⟩

/-! ## Records in values -/

mutual

/-- How deep containers are nested in a value. -/
def Value.depth : Value → Nat
  | .array items => itemsDepth items + 1
  | .object members => membersDepth members + 1
  | _ => 0

def itemsDepth : List Value → Nat
  | [] => 0
  | v :: vs => max v.depth (itemsDepth vs)

def membersDepth : List (String × Value) → Nat
  | [] => 0
  | (_, v) :: ms => max v.depth (membersDepth ms)

end

theorem depth_le_itemsDepth {items : List Value} {v : Value} (listed : v ∈ items) : v.depth ≤ itemsDepth items := by
  induction items with
  | nil => cases listed
  | cons first rest ih =>
    rw [itemsDepth]
    rcases List.mem_cons.mp listed with rfl | later
    · exact Nat.le_max_left _ _
    · exact Nat.le_trans (ih later) (Nat.le_max_right _ _)

theorem depth_le_membersDepth {members : List (String × Value)} {member : String × Value}
    (listed : member ∈ members) : member.2.depth ≤ membersDepth members := by
  induction members with
  | nil => cases listed
  | cons first rest ih =>
    rw [membersDepth]
    rcases List.mem_cons.mp listed with rfl | later
    · exact Nat.le_max_left _ _
    · exact Nat.le_trans (ih later) (Nat.le_max_right _ _)

/-- **Values** — values that are still to be read, the next one first, of which none is nested deeper than the
number says. -/
structure Values (levels : Nat) where
  items : List Value

/-- The keys and values of members in turn. -/
def flat (members : List (String × Value)) : List Value := members.flatMap fun (key, v) => [.text key, v]

instance (levels : Nat) : Wire (Values levels) where
  levels := levels
  optionLevels := 0
  null?
    | ⟨.null :: rest⟩ => some ⟨rest⟩
    | _ => none
  skip? _
    | ⟨_ :: rest⟩ => some ⟨rest⟩
    | _ => none
  text? _
    | ⟨.text s :: rest⟩ => some (s, ⟨rest⟩)
    | _ => none
  integer?
    | ⟨.int n :: rest⟩ => some (n, ⟨rest⟩)
    | _ => none
  list?
    | ⟨.array items :: rest⟩ => some (items.length, ⟨items ++ rest⟩)
    | _ => none
  layout?
    | ⟨.object members :: rest⟩ => some (.named members.length, ⟨flat members ++ rest⟩)
    | ⟨.array items :: rest⟩ => some (.inOrder items.length, ⟨items ++ rest⟩)
    | _ => none

end Json

/-- **ofValue?** — the record that a value is. A value is read without a limit: there are as many levels as it has,
and no fewer than on any transport. -/
def Record.ofValue? [Record α] (v : Json.Value) : Option α :=
  (Wire.read Record.reading (⟨[v]⟩ : Json.Values (max v.depth Cbor.maxLevels))).map Prod.fst

open Json (Value Values)

/-- **Bears** — inputs into which values can be put. What is put in front of an input is there to be taken, and a list
or a structure is opened to its parts. -/
class Bears (ω : Type) [Wire ω] where
  put : Value → ω → ω
  nothing : ω
  optionLevels : Wire.optionLevels ω = 0
  null (more : ω) : Wire.null? (put .null more) = some more
  /-- What is taken for a null is the same as a null. -/
  null_of_taken {v : Value} {more rest : ω} (taken : Wire.null? (put v more) = some rest) : put v more = put .null more
  text (levels : Nat) (s : String) (more : ω) : Wire.text? levels (put (.text s) more) = some (s, more)
  text_null (levels : Nat) (more : ω) : Wire.text? levels (put .null more) = none
  integer (k : Int) (more : ω) : Wire.integer? (put (.int k) more) = some (k, more)
  skip (levels : Nat) (v : Value) (more : ω) : Wire.skip? levels (put v more) = some more
  list (vs : List Value) (more : ω) : Wire.list? (put (.array vs) more) = some (vs.length, vs.foldr put more)
  named (ms : List (String × Value)) (more : ω) :
    Wire.layout? (put (.object ms) more) = some (.named ms.length, (Json.flat ms).foldr put more)
  inOrder (vs : List Value) (more : ω) :
    Wire.layout? (put (.array vs) more) = some (.inOrder vs.length, vs.foldr put more)
  layout_null (more : ω) : Wire.layout? (put .null more) = none

theorem Json.Values.foldr_put {n : Nat} (vs : List Value) (more : Values n) :
    vs.foldr (fun v more => (⟨v :: more.items⟩ : Values n)) more = ⟨vs ++ more.items⟩ := by
  induction vs with
  | nil => rfl
  | cons v vs ih => rw [List.foldr_cons, ih, List.cons_append]

instance (n : Nat) : Bears (Values n) where
  put v more := ⟨v :: more.items⟩
  nothing := ⟨[]⟩
  optionLevels := rfl
  null _ := rfl
  null_of_taken {v} _ _ taken := by
    cases v with
    | null => rfl
    | _ => cases taken
  text _ _ _ := rfl
  text_null _ _ := rfl
  integer _ _ := rfl
  skip _ _ _ := rfl
  list vs more := by rw [Values.foldr_put]; rfl
  named ms more := by rw [Values.foldr_put]; rfl
  inOrder vs more := by rw [Values.foldr_put]; rfl
  layout_null _ := rfl

/-! ## Readings of a value -/

/-- **Reads** — the reading takes the value, whatever stands after it, and makes this of it. -/
def Reads {ω : Type} [Wire ω] [Bears ω] {α : Type} (read : Reading ω α) (v : Value) (a : α) : Prop :=
  ∀ levels more, v.depth ≤ levels → read levels (Bears.put v more) = some (a, more)

/-- The reading does not take a null. -/
def RefusesNull {ω : Type} [Wire ω] [Bears ω] {α : Type} (read : Reading ω α) : Prop :=
  ∀ levels (more : ω), read levels (Bears.put .null more) = none

section

variable {ω : Type} [Wire ω] [Bears ω] {α β : Type} {read : Reading ω α} {v : Value} {a : α}

theorem reads_text (s : String) : Reads (ω := ω) Wire.text (.text s) s := fun levels more _ => Bears.text levels s more

theorem Reads.mapped (reads : Reads read v a) (f : α → β) : Reads (Wire.mapped f read) v (f a) := by
  intro levels more within
  unfold Wire.mapped
  rw [reads levels more within]
  rfl

theorem reads_integer {low high k : Int} (above : low ≤ k) (below : k < high) :
    Reads (ω := ω) (Wire.integer low high) (.int k) k := by
  intro levels more _
  unfold Wire.integer Wire.filtered
  dsimp only
  rw [Bears.integer, Option.bind_some, if_pos ⟨above, below⟩]
  rfl

/-- A null is read as nothing. -/
theorem reads_null : Reads (Wire.optional read) .null none := by
  intro levels more _
  unfold Wire.optional
  rw [Bears.null]

theorem Reads.optional (reads : Reads read v a) (refuses : RefusesNull read) :
    Reads (Wire.optional read) v (some a) := by
  intro levels more within
  have taken := reads levels more within
  -- a value that is read is no null
  have absent : Wire.null? (Bears.put v more) = none := by
    rcases null : Wire.null? (Bears.put v more) with _ | rest
    · rfl
    · rw [Bears.null_of_taken null, refuses] at taken
      cases taken
  unfold Wire.optional
  rw [absent, Bears.optionLevels]
  exact reads.mapped some levels more within

theorem reads_listOf {vs : List Value} {as : List α} (all : List.Forall₂ (Reads read) vs as) :
    Reads (Wire.listOf read) (.array vs) as := by
  intro levels more within
  obtain ⟨levels, rfl⟩ := Nat.exists_eq_add_of_le' (Nat.le_trans (Nat.le_add_left 1 _) within)
  have each : ∀ v ∈ vs, v.depth ≤ levels := fun v listed =>
    Nat.le_trans (Json.depth_le_itemsDepth listed) (Nat.le_of_succ_le_succ within)
  rw [Wire.listOf, Bears.list, Option.bind_some]
  dsimp only
  clear within
  induction all with
  | nil => rfl
  | @cons v a vs as first rest ih =>
    have later := ih fun v listed => each v (List.mem_cons_of_mem _ listed)
    rw [List.length_cons, Wire.counted, List.foldr_cons, first levels _ (each v List.mem_cons_self)]
    dsimp only
    rw [later]
    rfl

theorem refusesNull_text : RefusesNull (ω := ω) Wire.text := fun levels more => Bears.text_null levels more

theorem RefusesNull.mapped (refuses : RefusesNull read) (f : α → β) : RefusesNull (Wire.mapped f read) := by
  intro levels more
  unfold Wire.mapped
  rw [refuses]
  rfl

theorem refusesNull_fields (blank : β) (fs : List (Field ω β)) : RefusesNull (Wire.fields blank fs) := by
  intro levels more
  cases levels with
  | zero => rfl
  | succ levels => rw [Wire.fields, Bears.layout_null]

end

/-! ## Structures -/

section

variable {ω : Type} [Wire ω] [Bears ω] {α β : Type}

/-- **Acts** — the field takes the value, and changes the structure in one way, whatever it has been read into so
far. -/
def Acts (f : Field ω β) (v : Value) (g : β → β) : Prop := ∀ b, Reads (f.readInto b) v (g b)

/-- **Swap** — it makes no difference which of two fields is read first. -/
def Swap (f f' : Field ω β) : Prop :=
  ∀ v v' g g', Acts f v g → Acts f' v' g' → ∀ b, g (g' b) = g' (g b)

instance : Std.Symm (Swap : Field ω β → Field ω β → Prop) where
  symm _ _ swap v v' g g' acts acts' b := (swap v' v g' g acts' acts b).symm

/-- **Filled** — members fill a structure, given the names of the fields that have been read: what is no field is
skipped, and a field acts on the structure. -/
inductive Filled (fs : List (Field ω β)) : List String → β → List (String × Value) → β → Prop
  | done {seen : List String} {b : β} (complete : Wire.complete fs seen = true) : Filled fs seen b [] b
  | skip {seen : List String} {b b' : β} {key : String} {v : Value} {ms : List (String × Value)}
      (unknown : fs.find? (·.name == key) = none) (rest : Filled fs seen b ms b') : Filled fs seen b ((key, v) :: ms) b'
  | fill {seen : List String} {b b' : β} {key : String} {v : Value} {ms : List (String × Value)}
      {f : Field ω β} {g : β → β} (known : fs.find? (·.name == key) = some f) (new : key ∉ seen)
      (acts : Acts f v g) (rest : Filled fs (key :: seen) (g b) ms b') : Filled fs seen b ((key, v) :: ms) b'

namespace Filled

variable {fs : List (Field ω β)} {seen seen' : List String} {b b' : β} {ms ms' : List (String × Value)}

/-- Of the names of the fields that have been read only those that have to be there are needed. -/
theorem of_subset (filled : Filled fs seen b ms b') (fewer : seen' ⊆ seen)
    (needed : ∀ f ∈ fs, f.isRequired = true → f.name ∈ seen → f.name ∈ seen') : Filled fs seen' b ms b' := by
  induction filled generalizing seen' with
  | done complete =>
    refine .done (List.all_eq_true.mpr fun f listed => ?_)
    have present := List.all_eq_true.mp complete f listed
    rcases required : f.isRequired with _ | _
    · rfl
    · rw [required] at present
      exact List.contains_iff_mem.mpr (needed f listed required (List.contains_iff_mem.mp present))
  | skip unknown _ ih => exact .skip unknown (ih fewer needed)
  | fill known new acts _ ih =>
    refine .fill known (fun old => new (fewer old)) acts (ih (List.cons_subset_cons _ fewer) fun f listed required => ?_)
    exact fun mem => List.mem_cons.mpr ((List.mem_cons.mp mem).imp_right (needed f listed required))

/-- Only which fields have been read matters, not in which order. -/
theorem congr_seen (filled : Filled fs seen b ms b') (same : ∀ key, key ∈ seen ↔ key ∈ seen') :
    Filled fs seen' b ms b' :=
  filled.of_subset (fun key => (same key).mpr) fun _ _ _ => (same _).mp

/-- What is no field may be left out. -/
theorem filter_iff : Filled fs seen b ms b' ↔
    Filled fs seen b (ms.filter fun member => (fs.find? (·.name == member.1)).isSome) b' := by
  induction ms generalizing seen b with
  | nil => rfl
  | cons member rest ih =>
    obtain ⟨key, v⟩ := member
    rcases found : fs.find? (·.name == key) with _ | f
    · rw [List.filter_cons_of_neg (by simp [found]), ← ih]
      constructor
      · rintro (_ | ⟨-, rest⟩ | ⟨known, -, -, -⟩)
        · exact rest
        · cases found.symm.trans known
      · exact .skip found
    · rw [List.filter_cons_of_pos (by simp [found])]
      constructor
      · rintro (_ | ⟨unknown, -⟩ | ⟨known, new, acts, rest⟩)
        · cases found.symm.trans unknown
        · exact .fill known new acts (ih.mp rest)
      · rintro (_ | ⟨unknown, -⟩ | ⟨known, new, acts, rest⟩)
        · cases found.symm.trans unknown
        · exact .fill known new acts (ih.mpr rest)

/-- **Members may stand in any order**, if the fields do not get in each other's way. -/
theorem perm (swap : fs.Pairwise Swap) (perm : ms.Perm ms') (filled : Filled fs seen b ms b') :
    Filled fs seen b ms' b' := by
  induction perm generalizing seen b with
  | nil => exact filled
  | cons member _ ih =>
    cases filled with
    | skip unknown rest => exact .skip unknown (ih rest)
    | fill known new acts rest => exact .fill known new acts (ih rest)
  | trans _ _ ih ih' => exact ih' (ih filled)
  | swap first second rest =>
    -- only two members that both fill a field need that the fields do not get in each other's way
    obtain ⟨key, v⟩ := first
    obtain ⟨key', v'⟩ := second
    cases filled with
    | skip unknown' later =>
      cases later with
      | skip unknown rest => exact .skip unknown (.skip unknown' rest)
      | fill known new acts rest => exact .fill known new acts (.skip unknown' rest)
    | @fill _ _ _ _ _ _ f' g' known' new' acts' later =>
      cases later with
      | skip unknown rest => exact .skip unknown (.fill known' new' acts' rest)
      | @fill _ _ _ _ _ _ f g known new acts rest =>
        rw [List.mem_cons, not_or] at new
        have other : f' ≠ f := by
          rintro rfl
          have name' : f'.name = key' := by simpa using List.find?_some known'
          have name : f'.name = key := by simpa using List.find?_some known
          exact new.1 (name.symm.trans name')
        have swapped : ∀ b, g (g' b) = g' (g b) :=
          swap.forall (List.mem_of_find?_eq_some known) (List.mem_of_find?_eq_some known') other.symm v v' g g' acts
            acts'
        refine .fill known new.2 acts (.fill known' ?_ acts' ?_)
        · rw [List.mem_cons, not_or]
          exact ⟨fun same => new.1 same.symm, new'⟩
        · rw [← swapped b]
          refine rest.congr_seen fun name => ?_
          rw [List.mem_cons, List.mem_cons, List.mem_cons, List.mem_cons]
          exact or_left_comm

theorem nodup (filled : Filled fs seen b ms b') :
    ((ms.filter fun member => (fs.find? (·.name == member.1)).isSome).map (·.1)).Nodup ∧
      ∀ member ∈ ms, (fs.find? (·.name == member.1)).isSome = true → member.1 ∉ seen := by
  induction filled with
  | done _ => exact ⟨List.nodup_nil, nofun⟩
  | skip unknown _ ih =>
    rw [List.filter_cons_of_neg (by simp [unknown])]
    refine ⟨ih.1, fun member listed known => ?_⟩
    rcases List.mem_cons.mp listed with rfl | later
    · rw [unknown] at known
      cases known
    · exact ih.2 member later known
  | @fill seen b b' key v ms f g known new acts _ ih =>
    rw [List.filter_cons_of_pos (by simp [known]), List.map_cons, List.nodup_cons]
    refine ⟨⟨fun again => ?_, ih.1⟩, fun member listed known' => ?_⟩
    · obtain ⟨member, listed, same⟩ := List.mem_map.mp again
      obtain ⟨listed, known'⟩ := List.mem_filter.mp listed
      exact ih.2 member listed known' (same ▸ List.mem_cons_self)
    · rcases List.mem_cons.mp listed with rfl | later
      · exact new
      · exact fun old => ih.2 member later known' (List.mem_cons_of_mem _ old)

/-- **Members may be arranged**: only what is no field may be lost. -/
theorem arranged {arrange : Json.Arrangement} (arranges : Json.Arranges arrange) (swap : fs.Pairwise Swap)
    (filled : Filled fs seen b ms b') : Filled fs seen b (arrange ms) b' := by
  have kept : ((arrange ms).filter fun member => (fs.find? (·.name == member.1)).isSome).Perm
      (ms.filter fun member => (fs.find? (·.name == member.1)).isSome) :=
    arranges.perm (p := fun key => (fs.find? (·.name == key)).isSome) filled.nodup.1
  exact filter_iff.mpr ((filter_iff.mp filled).perm swap kept.symm)

theorem members_eq (filled : Filled fs seen b ms b') {levels : Nat}
    (within : ∀ member ∈ ms, member.2.depth ≤ levels) (more : ω) :
    Wire.members fs levels ms.length seen b ((Json.flat ms).foldr Bears.put more) = some (b', more) := by
  have key_taken (key : String) (v : Value) (ms : List (String × Value)) :
      Wire.text? levels ((Json.flat ((key, v) :: ms)).foldr Bears.put more) =
        some (key, Bears.put v ((Json.flat ms).foldr Bears.put more)) := Bears.text levels key _
  induction filled with
  | done complete => exact if_pos complete
  | @skip seen b b' key v ms unknown _ ih =>
    rw [List.length_cons, Wire.members, key_taken]
    dsimp only
    rw [unknown]
    dsimp only
    rw [Bears.skip]
    exact ih fun member listed => within member (List.mem_cons_of_mem _ listed)
  | @fill seen b b' key v ms f g known new acts _ ih =>
    have taken := acts b levels ((Json.flat ms).foldr Bears.put more) (within (key, v) List.mem_cons_self)
    rw [List.length_cons, Wire.members, key_taken]
    dsimp only
    rw [known]
    dsimp only
    rw [if_neg (by simpa using new), taken]
    exact ih fun member listed => within member (List.mem_cons_of_mem _ listed)

/-- **An object is read** if its members fill the structure. -/
theorem reads {blank : β} (filled : Filled fs [] blank ms b') : Reads (Wire.fields blank fs) (.object ms) b' := by
  intro levels more within
  obtain ⟨levels, rfl⟩ := Nat.exists_eq_add_of_le' (Nat.le_trans (Nat.le_add_left 1 _) within)
  rw [Wire.fields, Bears.named]
  exact filled.members_eq
    (fun member listed => Nat.le_trans (Json.depth_le_membersDepth listed) (Nat.le_of_succ_le_succ within)) more

end Filled

/-- **Placed** — the first so many of the fields take the items, in their order. -/
inductive Placed : List (Field ω β) → β → List Value → β → Prop
  | done {fs : List (Field ω β)} {b : β} (complete : Wire.complete fs [] = true) : Placed fs b [] b
  | fill {fs : List (Field ω β)} {b b' : β} {v : Value} {vs : List Value} {f : Field ω β} {g : β → β}
      (acts : Acts f v g) (rest : Placed fs (g b) vs b') : Placed (f :: fs) b (v :: vs) b'

theorem Placed.inOrder_eq {fs : List (Field ω β)} {b b' : β} {vs : List Value} (placed : Placed fs b vs b')
    {levels : Nat} (within : ∀ v ∈ vs, v.depth ≤ levels) (more : ω) :
    Wire.inOrder levels fs vs.length b (vs.foldr Bears.put more) = some (b', more) := by
  induction placed with
  | @done fs b complete => cases fs <;> exact if_pos complete
  | @fill fs b b' v vs f g acts _ ih =>
    rw [List.length_cons, Wire.inOrder, List.foldr_cons, acts b levels _ (within v List.mem_cons_self)]
    exact ih fun v listed => within v (List.mem_cons_of_mem _ listed)

/-- **An array is read** if its items take the places of the fields. -/
theorem Placed.reads {fs : List (Field ω β)} {blank b' : β} {vs : List Value}
    (placed : Placed fs blank vs b') : Reads (Wire.fields blank fs) (.array vs) b' := by
  intro levels more within
  obtain ⟨levels, rfl⟩ := Nat.exists_eq_add_of_le' (Nat.le_trans (Nat.le_add_left 1 _) within)
  rw [Wire.fields, Bears.inOrder]
  exact placed.inOrder_eq
    (fun v listed => Nat.le_trans (Json.depth_le_itemsDepth listed) (Nat.le_of_succ_le_succ within)) more

end

section

variable {ω : Type} [Wire ω] [Bears ω] {α α' β : Type}

/-- A field that is put into the structure acts by being put there. -/
theorem Acts.put_eq {name : String} {isRequired : Bool} {read : Reading ω α} {put : α → β → β} {v : Value}
    {g : β → β} (acts : Acts ⟨name, isRequired, fun b => Wire.mapped (put · b) read⟩ v g) (any : β) :
    ∃ a, ∀ b, g b = put a b := by
  have taken (b : β) : (read v.depth (Bears.put v Bears.nothing)).map (fun found => (put found.1 b, found.2)) =
      some (g b, Bears.nothing) := acts b v.depth Bears.nothing (Nat.le_refl _)
  obtain ⟨⟨a, _⟩, read, -⟩ := Option.map_eq_some_iff.mp (taken any)
  refine ⟨a, fun b => ?_⟩
  have put := taken b
  rw [read] at put
  exact (Prod.mk.inj (Option.some.inj put)).1.symm

theorem swap_puts {name name' : String} {isRequired isRequired' : Bool} {read : Reading ω α}
    {read' : Reading ω α'} {put : α → β → β} {put' : α' → β → β}
    (swap : ∀ a a' b, put a (put' a' b) = put' a' (put a b)) :
    Swap ⟨name, isRequired, fun b => Wire.mapped (put · b) read⟩
      ⟨name', isRequired', fun b => Wire.mapped (put' · b) read'⟩ := by
  intro v v' g g' acts acts' b
  obtain ⟨a, own⟩ := acts.put_eq b
  obtain ⟨a', other⟩ := acts'.put_eq b
  rw [own, other, other, own, swap]

end

/-! ## What values stand for -/

section

variable {ω : Type}

/-- Values stand for what an input holds, one after the other. -/
inductive InTurn (shows_ : ω → Value → ω → Prop) : ω → List Value → ω → Prop
  | done (input : ω) : InTurn shows_ input [] input
  | next {input between rest : ω} {v : Value} {vs : List Value} (first : shows_ input v between)
      (others : InTurn shows_ between vs rest) : InTurn shows_ input (v :: vs) rest

/-- Members stand for what an input holds, one after the other. -/
inductive MembersInTurn (names : ω → String → ω → Prop) (shows_ : ω → Value → ω → Prop) :
    ω → List (String × Value) → ω → Prop
  | done (input : ω) : MembersInTurn names shows_ input [] input
  | next {input between behind rest : ω} {key : String} {v : Value} {ms : List (String × Value)}
      (name : names input key between) (first : shows_ between v behind)
      (others : MembersInTurn names shows_ behind ms rest) : MembersInTurn names shows_ input ((key, v) :: ms) rest

variable [Wire ω]

/-- **Portrayal** — values stand for what the inputs of a transport hold: whatever is taken from the head of an input
has its counterpart in the value, and ends where the value does. Members may be sorted there. -/
structure Portrayal (ω : Type) [Wire ω] where
  /-- The value stands for what is at the head of the input, and the other input comes after it. -/
  Shows : ω → Value → ω → Prop
  /-- The key is at the head of the input, and the other input comes after it. -/
  Names : ω → String → ω → Prop
  null {input rest rest' : ω} {v : Value} (taken : Wire.null? input = some rest) (there : Shows input v rest') :
    rest = rest' ∧ v = .null
  text {levels : Nat} {input rest rest' : ω} {v : Value} {s : String} (taken : Wire.text? levels input = some (s, rest))
    (there : Shows input v rest') : rest = rest' ∧ v = .text s
  name {levels : Nat} {input rest rest' : ω} {key s : String} (taken : Wire.text? levels input = some (s, rest))
    (there : Names input key rest') : rest = rest' ∧ s = key
  integer {input rest rest' : ω} {v : Value} {k : Int} (taken : Wire.integer? input = some (k, rest))
    (whole : Json.isWhole k = true) (there : Shows input v rest') : rest = rest' ∧ v = .int k
  skip {levels : Nat} {input rest rest' : ω} {v : Value} (taken : Wire.skip? levels input = some rest)
    (there : Shows input v rest') : rest = rest'
  list {input inner rest : ω} {v : Value} {count : Nat} (taken : Wire.list? input = some (count, inner))
    (there : Shows input v rest) : ∃ vs, v = .array vs ∧ vs.length = count ∧ InTurn Shows inner vs rest
  named {input inner rest : ω} {v : Value} {count : Nat} (taken : Wire.layout? input = some (.named count, inner))
    (there : Shows input v rest) :
    ∃ ms, v = .object (Keyed.sorted ms) ∧ ms.length = count ∧ MembersInTurn Names Shows inner ms rest
  inOrder {input inner rest : ω} {v : Value} {count : Nat} (taken : Wire.layout? input = some (.inOrder count, inner))
    (there : Shows input v rest) : ∃ vs, v = .array vs ∧ vs.length = count ∧ InTurn Shows inner vs rest

variable (P : Portrayal ω) {n : Nat} {α β : Type}

/-- **Carries** — what one reading takes from an input, the other takes from the value that stands for it. -/
def Carries (read : Reading ω α) (again : Reading (Values n) α) : Prop :=
  ∀ ⦃levels input a rest v rest'⦄, read levels input = some (a, rest) → P.Shows input v rest' →
    rest = rest' ∧ Reads again v a

/-- A field of a structure and its counterpart. -/
structure CarriesField (f : Field ω β) (f' : Field (Values n) β) : Prop where
  name : f.name = f'.name
  isRequired : f.isRequired = f'.isRequired
  readInto {b b' : β} {levels : Nat} {input rest rest' : ω} {v : Value}
    (taken : f.readInto b levels input = some (b', rest)) (there : P.Shows input v rest') :
    rest = rest' ∧ ∃ g, Acts f' v g ∧ b' = g b

variable {P} {read : Reading ω α} {again : Reading (Values n) α}

theorem carries_text : Carries P (n := n) Wire.text Wire.text := by
  intro levels input s rest v rest' taken there
  obtain ⟨rfl, rfl⟩ := P.text taken there
  exact ⟨rfl, reads_text s⟩

theorem Carries.mapped (carries : Carries P read again) (f : α → β) :
    Carries P (Wire.mapped f read) (Wire.mapped f again) := by
  intro levels input b rest v rest' taken there
  obtain ⟨⟨a, _⟩, taken, same⟩ := Option.map_eq_some_iff.mp taken
  cases same
  obtain ⟨rfl, reads⟩ := carries taken there
  exact ⟨rfl, reads.mapped f⟩

/-- A whole number is carried if its range is within 64 bits. -/
theorem carries_integer {low high : Int} (range : ∀ k, low ≤ k → k < high → Json.isWhole k = true) :
    Carries P (n := n) (Wire.integer low high) (Wire.integer low high) := by
  intro levels input k rest v rest' taken there
  obtain ⟨⟨m, behind⟩, taken, checked⟩ := Option.bind_eq_some_iff.mp taken
  change (if low ≤ m ∧ m < high then some m else none).map (fun b => (b, behind)) = some (k, rest) at checked
  by_cases inRange : low ≤ m ∧ m < high
  · rw [if_pos inRange] at checked
    cases checked
    obtain ⟨rfl, rfl⟩ := P.integer taken (range k inRange.1 inRange.2) there
    exact ⟨rfl, reads_integer inRange.1 inRange.2⟩
  · rw [if_neg inRange] at checked
    cases checked

theorem carries_unsigned : Carries P (n := n) Wire.unsigned Wire.unsigned := by
  refine Carries.mapped (carries_integer fun k above below => ?_) Int.toNat
  unfold Json.isWhole
  simp only [Bool.and_eq_true, decide_eq_true_eq]
  exact ⟨by omega, below⟩

theorem Carries.optional (carries : Carries P read again) (refuses : RefusesNull again) :
    Carries P (Wire.optional read) (Wire.optional again) := by
  intro levels input a rest v rest' taken there
  unfold Wire.optional at taken
  split at taken
  · next null =>
    cases taken
    obtain ⟨rfl, rfl⟩ := P.null null there
    exact ⟨rfl, reads_null⟩
  · split at taken
    · cases taken
    · obtain ⟨⟨a, _⟩, taken, same⟩ := Option.map_eq_some_iff.mp taken
      cases same
      obtain ⟨rfl, reads⟩ := carries taken there
      exact ⟨rfl, reads.optional refuses⟩

theorem Carries.counted (carries : Carries P read again) {levels : Nat} {vs : List Value} {inner rest' : ω}
    (there : InTurn P.Shows inner vs rest') {as : List α} {rest : ω}
    (taken : Wire.counted (read levels) vs.length inner = some (as, rest)) :
    rest = rest' ∧ List.Forall₂ (Reads again) vs as := by
  induction there generalizing as with
  | done input =>
    cases taken
    exact ⟨rfl, .nil⟩
  | @next input between rest' v vs first _ ih =>
    rw [List.length_cons, Wire.counted] at taken
    split at taken
    · cases taken
    · next a behind one =>
      obtain ⟨⟨as, _⟩, others, same⟩ := Option.map_eq_some_iff.mp taken
      cases same
      obtain ⟨rfl, reads⟩ := carries one first
      obtain ⟨rfl, all⟩ := ih others
      exact ⟨rfl, .cons reads all⟩

theorem Carries.listOf (carries : Carries P read again) : Carries P (Wire.listOf read) (Wire.listOf again) := by
  intro levels input as rest v rest' taken there
  cases levels with
  | zero => cases taken
  | succ levels =>
    obtain ⟨⟨count, inner⟩, opened, taken⟩ := Option.bind_eq_some_iff.mp taken
    obtain ⟨vs, rfl, rfl, inTurn⟩ := P.list opened there
    obtain ⟨rfl, all⟩ := carries.counted inTurn taken
    exact ⟨rfl, reads_listOf all⟩

/-! ## Structures that are carried -/

/-- A field that is put into the structure is carried with its value. -/
theorem Carries.field (carries : Carries P read again) (name : String) (isRequired : Bool) (put : α → β → β) :
    CarriesField P ⟨name, isRequired, fun b => Wire.mapped (put · b) read⟩
      ⟨name, isRequired, fun b => Wire.mapped (put · b) again⟩ where
  name := rfl
  isRequired := rfl
  readInto {b b'} {levels} {input rest rest'} {v} taken there := by
    obtain ⟨⟨a, _⟩, taken, same⟩ := Option.map_eq_some_iff.mp taken
    cases same
    obtain ⟨rfl, reads⟩ := carries taken there
    exact ⟨rfl, put a, fun b => reads.mapped (put · b), rfl⟩

variable {fs : List (Field ω β)} {fs' : List (Field (Values n) β)}

theorem find?_carried (carried : List.Forall₂ (CarriesField P) fs fs') (key : String) :
    Option.Rel (CarriesField P) (fs.find? (·.name == key)) (fs'.find? (·.name == key)) := by
  induction carried with
  | nil => exact .none
  | @cons f f' fs fs' first _ ih =>
    rw [List.find?_cons, List.find?_cons, ← first.name]
    split
    · exact .some first
    · exact ih

theorem complete_carried (carried : List.Forall₂ (CarriesField P) fs fs') (seen : List String) :
    Wire.complete fs seen = Wire.complete fs' seen := by
  unfold Wire.complete
  induction carried with
  | nil => rfl
  | cons first _ ih => rw [List.all_cons, List.all_cons, ih, first.name, first.isRequired]

/-- Members that fill a structure on a transport fill it again. -/
theorem filled_of_members (carried : List.Forall₂ (CarriesField P) fs fs') {levels : Nat} {seen : List String}
    {b b' : β} {input rest rest' : ω} {ms : List (String × Value)}
    (there : MembersInTurn P.Names P.Shows input ms rest')
    (taken : Wire.members fs levels ms.length seen b input = some (b', rest)) :
    rest = rest' ∧ Filled fs' seen b ms b' := by
  induction there generalizing seen b with
  | done input =>
    rw [List.length_nil, Wire.members] at taken
    split at taken
    · next complete =>
      cases taken
      exact ⟨rfl, .done (complete_carried carried seen ▸ complete)⟩
    · cases taken
  | @next input between behind rest' key v ms name first _ ih =>
    rw [List.length_cons, Wire.members] at taken
    split at taken
    · cases taken
    · next s after named =>
      obtain ⟨rfl, rfl⟩ := P.name named name
      have found := find?_carried carried s
      split at taken
      · next unknown =>
        -- no field here, so none there: what is skipped ends where the value does
        rw [unknown] at found
        obtain ⟨after', skipped, taken⟩ := Option.bind_eq_some_iff.mp taken
        obtain rfl := P.skip skipped first
        obtain ⟨rfl, filled⟩ := ih taken
        refine ⟨rfl, .skip ?_ filled⟩
        generalize fs'.find? (·.name == s) = found' at found ⊢
        cases found
        rfl
      · next f known =>
        rw [known] at found
        obtain ⟨f', known', field⟩ : ∃ f', fs'.find? (·.name == s) = some f' ∧ CarriesField P f f' := by
          generalize fs'.find? (·.name == s) = found' at found ⊢
          cases found
          exact ⟨_, rfl, by assumption⟩
        split at taken
        · cases taken
        · next new =>
          split at taken
          · cases taken
          · next b₁ after' one =>
            obtain ⟨rfl, g, acts, rfl⟩ := field.readInto one first
            obtain ⟨rfl, filled⟩ := ih taken
            exact ⟨rfl, .fill known' (by simpa using new) acts filled⟩

/-- Items that take the places of fields on a transport take them again. -/
theorem placed_of_inOrder (carried : List.Forall₂ (CarriesField P) fs fs') {levels : Nat} {b b' : β}
    {input rest rest' : ω} {vs : List Value} (there : InTurn P.Shows input vs rest')
    (taken : Wire.inOrder levels fs vs.length b input = some (b', rest)) : rest = rest' ∧ Placed fs' b vs b' := by
  induction there generalizing fs fs' b with
  | done input =>
    have complete : (if Wire.complete fs [] then some (b, input) else none) = some (b', rest) := by
      cases fs <;> exact taken
    split at complete
    · next all =>
      cases complete
      exact ⟨rfl, .done (complete_carried carried [] ▸ all)⟩
    · cases complete
  | @next input between rest' v vs first _ ih =>
    cases carried with
    | nil => cases taken
    | @cons f f' fs fs' field carried =>
      rw [List.length_cons, Wire.inOrder] at taken
      split at taken
      · cases taken
      · next b₁ after one =>
        obtain ⟨rfl, g, acts, rfl⟩ := field.readInto one first
        obtain ⟨rfl, placed⟩ := ih carried taken
        exact ⟨rfl, .fill acts placed⟩

/-- **A structure is carried** if its fields are, and do not get in each other's way. -/
theorem Carries.fields (carried : List.Forall₂ (CarriesField P) fs fs') (swap : fs'.Pairwise Swap) (blank : β) :
    Carries P (Wire.fields blank fs) (Wire.fields blank fs') := by
  intro levels input b rest v rest' taken there
  cases levels with
  | zero => cases taken
  | succ levels =>
    rw [Wire.fields] at taken
    split at taken
    · cases taken
    · next count inner opened =>
      obtain ⟨ms, rfl, rfl, inTurn⟩ := P.named opened there
      obtain ⟨rfl, filled⟩ := filled_of_members carried inTurn taken
      exact ⟨rfl, (filled.arranged Json.arranges_sorted swap).reads⟩
    · next count inner opened =>
      obtain ⟨vs, rfl, rfl, inTurn⟩ := P.inOrder opened there
      obtain ⟨rfl, placed⟩ := placed_of_inOrder carried inTurn taken
      exact ⟨rfl, placed.reads⟩

end

/-! ## Posts that are carried -/

theorem refusesNull_chain {ω : Type} [Wire ω] [Bears ω] (k : Nat) : RefusesNull (ω := ω) (Embed.chain k) := by
  unfold Embed.chain
  split
  · exact fun _ _ => rfl
  · exact (refusesNull_fields _ _).mapped _

section

variable {ω : Type} [Wire ω] {P : Portrayal ω} {n : Nat}

theorem carries_reference : Carries P (n := n) Reference.reading Reference.reading := by
  refine Carries.fields (.cons (carries_text.field ..) (.cons (carries_text.field ..) .nil)) ?_ _
  exact List.pairwise_pair.mpr (swap_puts fun _ _ _ => rfl)

theorem carries_reply : Carries P (n := n) Reply.reading Reply.reading := by
  refine Carries.fields (.cons (carries_reference.field ..) (.cons (carries_reference.field ..) .nil)) ?_ _
  exact List.pairwise_pair.mpr (swap_puts fun _ _ _ => rfl)

theorem carries_label : Carries P (n := n) SelfLabels.label SelfLabels.label :=
  Carries.fields (.cons (carries_text.field ..) .nil) (List.pairwise_singleton ..) _

theorem carries_selfLabels : Carries P (n := n) SelfLabels.reading SelfLabels.reading := by
  refine Carries.fields (.cons (carries_text.field ..) (.cons (carries_label.listOf.field ..) .nil)) ?_ _
  exact List.pairwise_pair.mpr (swap_puts fun _ _ _ => rfl)

theorem carries_image : Carries P (n := n) Embed.image Embed.image :=
  Carries.fields (.cons (carries_text.field ..) .nil) (List.pairwise_singleton ..) _

/-- Embeds are carried where at least as many are allowed. -/
theorem carries_chain {k m : Nat} (allowed : k ≤ m) : Carries P (n := n) (Embed.chain k) (Embed.chain m) := by
  induction k generalizing m with
  | zero => exact fun _ _ _ _ _ _ taken => nomatch taken
  | succ k ih =>
    obtain ⟨m, rfl⟩ := Nat.exists_eq_add_of_le' (Nat.le_trans (Nat.le_add_left 1 k) allowed)
    have inner : Carries P (n := n) (Embed.chain k) (Embed.chain m) := ih (Nat.le_of_succ_le_succ allowed)
    unfold Embed.chain
    refine Carries.mapped (Carries.fields (.cons (carries_text.field ..) (.cons (carries_image.listOf.field ..)
      (.cons ((inner.optional (refusesNull_chain m)).field ..) .nil))) ?_ _) _
    simp only [List.pairwise_cons, List.forall_mem_cons, List.not_mem_nil, IsEmpty.forall_iff, implies_true,
    List.Pairwise.nil, and_true]
    and_intros
    all_goals exact swap_puts fun _ _ _ => rfl

theorem carries_feature : Carries P (n := n) Feature.reading Feature.reading := by
  refine Carries.fields (.cons (carries_text.field ..)
    (.cons ((carries_text.optional refusesNull_text).field ..) .nil)) ?_ _
  exact List.pairwise_pair.mpr (swap_puts fun _ _ _ => rfl)

theorem carries_span : Carries P (n := n) Facet.span Facet.span := by
  refine Carries.fields (.cons (carries_unsigned.field ..) (.cons (carries_unsigned.field ..) .nil)) ?_ _
  exact List.pairwise_pair.mpr (swap_puts fun _ _ _ => rfl)

theorem carries_facet : Carries P (n := n) Facet.reading Facet.reading := by
  refine Carries.fields (.cons (carries_span.field ..) (.cons (carries_feature.listOf.field ..) .nil)) ?_ _
  exact List.pairwise_pair.mpr (swap_puts fun _ _ _ => rfl)

/-- **A post is carried**, if the value may be nested as deep. -/
theorem carries_post (allowed : Wire.levels ω ≤ n) : Carries P (n := n) Post.reading Post.reading := by
  refine Carries.fields (.cons (carries_text.field ..) (.cons (carries_text.listOf.field ..)
    (.cons (carries_text.field ..) (.cons ((carries_reply.optional (refusesNull_fields _ _)).field ..)
    (.cons (((carries_chain allowed).optional (refusesNull_chain _)).field ..)
    (.cons (carries_facet.listOf.field ..) (.cons (carries_text.listOf.field ..)
    (.cons ((carries_selfLabels.optional (refusesNull_fields _ _)).field ..) .nil)))))))) ?_ _
  simp only [List.pairwise_cons, List.forall_mem_cons, List.not_mem_nil, IsEmpty.forall_iff, implies_true,
    List.Pairwise.nil, and_true]
  and_intros
  all_goals exact swap_puts fun _ _ _ => rfl

end

end FeedIndex
