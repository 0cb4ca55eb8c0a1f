import FeedIndex.Proofs.Json.Rendered
import FeedIndex.Proofs.Keyed
import Mathlib.Data.List.Basic

/-!
# Values that a text keeps

A value that fits is written as a text and read back from it, with one exception: an object that begins with the
reserved key is taken for the text that it embeds. What is read then is never the object itself, so such a value is
lost.
-/

namespace FeedIndex.Json

/-- Reading a list of items gives the list exactly if each item is read as itself. -/
theorem mapM_map_eq_some_iff {α β : Type} {f : α → Option β} {g : β → α} {bs : List β} :
    (bs.map g).mapM f = some bs ↔ ∀ b ∈ bs, f (g b) = some b := by
  induction bs with
  | nil => simp
  | cons b bs ih =>
    rw [List.map_cons, List.mapM_cons, List.forall_mem_cons, ← ih]
    simp [Option.bind_eq_some_iff]

theorem Numeral.value?_ofInt {n : Int} (whole : isWhole n = true) : (ofInt n).value? = some (.int n) := by
  rw [value?, integer?_ofInt]
  exact if_pos whole

/-! ## The reserved key -/

/-- **Embeds** — the value holds an object that begins with the reserved key. -/
inductive Value.Embeds : Value → Prop
  | here (content : Value) (others : List (String × Value)) : Embeds (.object ((embeddedKey, content) :: others))
  | item {items : List Value} {v : Value} (listed : v ∈ items) (embeds : Embeds v) : Embeds (.array items)
  | member {members : List (String × Value)} {member : String × Value} (listed : member ∈ members)
      (embeds : Embeds member.2) : Embeds (.object members)

theorem Value.embeds_array {items : List Value} : (Value.array items).Embeds ↔ ∃ v ∈ items, v.Embeds := by
  constructor
  · intro embeds
    cases embeds with
    | item listed embeds => exact ⟨_, listed, embeds⟩
  · rintro ⟨v, listed, embeds⟩
    exact .item listed embeds

theorem Value.embeds_object {members : List (String × Value)} :
    (Value.object members).Embeds ↔
      (∃ content others, members = (embeddedKey, content) :: others) ∨ ∃ member ∈ members, member.2.Embeds := by
  constructor
  · intro embeds
    cases embeds with
    | here content others => exact .inl ⟨content, others, rfl⟩
    | member listed embeds => exact .inr ⟨_, listed, embeds⟩
  · rintro (⟨content, others, rfl⟩ | ⟨member, listed, embeds⟩)
    · exact .here content others
    · exact .member listed embeds

theorem Value.not_embeds_nil : ¬ (Value.object []).Embeds := by simp [embeds_object]

theorem Value.embeds_cons {key : String} {content : Value} {others : List (String × Value)} :
    (Value.object ((key, content) :: others)).Embeds ↔
      key = embeddedKey ∨ ∃ member ∈ (key, content) :: others, member.2.Embeds := by
  rw [embeds_object]
  simp

mutual

/-- Whether a value holds an object that begins with the reserved key. -/
def Value.decideEmbeds : (v : Value) → Decidable v.Embeds
  | .null | .bool _ | .int _ | .double _ | .text _ => .isFalse nofun
  | .array items => @decidable_of_iff _ _ Value.embeds_array.symm (decideItems items)
  | .object [] => .isFalse Value.not_embeds_nil
  | .object ((key, content) :: others) =>
    @decidable_of_iff _ _ Value.embeds_cons.symm
      (@instDecidableOr _ _ (decEq key embeddedKey) (decideMembers ((key, content) :: others)))

def decideItems : (items : List Value) → Decidable (∃ v ∈ items, v.Embeds)
  | [] => .isFalse nofun
  | v :: vs =>
    @decidable_of_iff _ _ (List.exists_mem_cons_iff ..).symm (@instDecidableOr _ _ v.decideEmbeds (decideItems vs))

def decideMembers : (members : List (String × Value)) → Decidable (∃ member ∈ members, member.2.Embeds)
  | [] => .isFalse nofun
  | (_, v) :: ms =>
    @decidable_of_iff _ _ (List.exists_mem_cons_iff ..).symm (@instDecidableOr _ _ v.decideEmbeds (decideMembers ms))

end

instance : DecidablePred Value.Embeds := Value.decideEmbeds

/-- An object whose first key is the reserved one embeds something, or is no value at all. -/
theorem embedded?_of_reserved (content : Tree) (others : List (Option String × Tree)) :
    ∃ s, embedded? ((some embeddedKey, content) :: others) = some s ∧
      ∀ text, s = some text → content = .text (some text) ∧ others = [] := by
  unfold embedded?
  dsimp only
  rw [if_pos rfl]
  rcases content with _ | _ | _ | s | _ | _
  case text =>
    rcases others with _ | ⟨other, others⟩
    · exact ⟨s, rfl, fun text same => ⟨congrArg Tree.text same, rfl⟩⟩
    · exact ⟨none, rfl, nofun⟩
  all_goals exact ⟨none, rfl, nofun⟩

theorem embedded?_eq_none {members : List (String × Value)}
    (free : ¬ ∃ content others, members = (embeddedKey, content) :: others) :
    embedded? (members.map fun member => (some member.1, member.2.tree)) = none := by
  rcases members with _ | ⟨⟨key, content⟩, others⟩
  · rfl
  · have other : key ≠ embeddedKey := by
      rintro rfl
      exact free ⟨content, others, rfl⟩
    show embedded? ((some key, content.tree) :: others.map fun member => (some member.1, member.2.tree)) = none
    unfold embedded?
    dsimp only
    rw [if_neg other]

theorem Numeral.value?_ne_object (m : Numeral) (members : List (String × Value)) :
    m.value? ≠ some (.object members) := by
  have double : m.double?.map Value.double ≠ some (.object members) := by
    rcases m.double? with _ | bits <;> exact nofun
  unfold Numeral.value?
  split
  · split
    · exact nofun
    · exact double
  · exact double

/-- A member as it is read: its key and its value. -/
def readMember (f : Tree → Option Value) (member : Option String × Tree) : Option (String × Value) :=
  member.1.bind fun key => (f member.2).map fun v => (key, v)

/-- The members that are read have the keys that are written. -/
theorem keys_of_mapM {f : Tree → Option Value} {written : List (Option String × Tree)}
    {pairs : List (String × Value)} (read : written.mapM (readMember f) = some pairs) :
    written.map (·.1) = pairs.map fun pair => some pair.1 := by
  induction written generalizing pairs with
  | nil =>
    obtain rfl := Option.some.inj read
    rfl
  | cons member written ih =>
    rw [List.mapM_cons] at read
    obtain ⟨pair, first, read⟩ := Option.bind_eq_some_iff.mp read
    obtain ⟨rest, others, same⟩ := Option.bind_eq_some_iff.mp read
    obtain rfl := Option.some.inj same
    obtain ⟨key, named, first⟩ := Option.bind_eq_some_iff.mp first
    obtain ⟨v, -, rfl⟩ := Option.map_eq_some_iff.mp first
    rw [List.map_cons, List.map_cons, ih others, named]

/-- An object comes of the text that a tree embeds, or of the members of the tree, which have its keys. -/
theorem Tree.toValue?_object {inner : String → Option Value} {depth : Nat} {tree : Tree}
    {members : List (String × Value)} (read : tree.toValue? inner depth = some (.object members)) :
    ∃ written, tree = .object written ∧
      ((∃ text, embedded? written = some (some text) ∧ inner text = some (.object members)) ∨
        embedded? written = none ∧ ∃ pairs, Keyed.sorted pairs = members ∧
          written.map (·.1) = pairs.map fun pair => some pair.1) := by
  cases tree with
  | null | bool _ => cases depth <;> cases read
  | number m =>
    have read' : m.value? = some (.object members) := by cases depth <;> exact read
    exact absurd read' (m.value?_ne_object members)
  | text s => cases depth <;> cases s <;> cases read
  | array items =>
    cases depth with
    | zero => cases read
    | succ depth =>
      rw [toValue?] at read
      obtain ⟨values, -, same⟩ := Option.map_eq_some_iff.mp read
      cases same
  | object written =>
    refine ⟨written, rfl, ?_⟩
    cases depth with
    | zero => cases read
    | succ depth =>
      rw [toValue?] at read
      rcases embeds : embedded? written with _ | text
      · rw [embeds] at read
        obtain ⟨pairs, listed, same⟩ := Option.map_eq_some_iff.mp read
        exact .inr ⟨rfl, pairs, Value.object.inj same, keys_of_mapM listed⟩
      · rw [embeds] at read
        obtain ⟨text, rfl, read⟩ := Option.bind_eq_some_iff.mp read
        exact .inl ⟨text, rfl, read⟩

/-- **No text stands for an object of the reserved key alone.** -/
theorem Value.ofNested?_ne (n : Nat) (s : String) (content : Value) :
    ofNested? n s ≠ some (.object [(embeddedKey, content)]) := by
  induction n generalizing s with
  | zero => exact nofun
  | succ n ih =>
    intro read
    rw [ofNested?] at read
    obtain ⟨tree, -, read⟩ := Option.bind_eq_some_iff.mp read
    obtain ⟨written, rfl, ⟨text, -, inner⟩ | ⟨plain, pairs, sorted, keys⟩⟩ := Tree.toValue?_object read
    · exact ih text inner
    · -- the first member has the only key there is
      rcases pairs with _ | ⟨⟨key, v⟩, pairs⟩
      · cases sorted
      · have found := Keyed.get?_sorted_ne_none (t := (key, v) :: pairs) List.mem_cons_self
        have own : key = embeddedKey := by
          by_contra other
          rw [sorted, Keyed.get?, if_neg (Ne.symm other)] at found
          exact found rfl
        rcases written with _ | ⟨⟨written, tree⟩, others⟩
        · cases keys
        · obtain rfl : written = some key := (List.cons.inj keys).1
          obtain ⟨s, embeds, -⟩ := embedded?_of_reserved tree others
          rw [own, embeds] at plain
          cases plain

/-! ## Reading a value back -/

/-- Members that stand in order are put in order as they stand. -/
theorem object_sorted_iff {read : Option (List (String × Value))} {members : List (String × Value)}
    (sorted : members.Pairwise (·.1 < ·.1))
    (keys : ∀ pairs, read = some pairs → members.map (·.1) = pairs.map (·.1)) :
    (read.map fun pairs => Value.object (Keyed.sorted pairs)) = some (.object members) ↔ read = some members := by
  rw [Option.map_eq_some_iff]
  constructor
  · rintro ⟨pairs, rfl, same⟩
    have ordered : pairs.Pairwise (·.1 < ·.1) := by
      rw [← List.pairwise_map (R := (· < ·)), ← keys pairs rfl, List.pairwise_map]
      exact sorted
    rw [Keyed.sorted_eq_self ordered] at same
    rw [Value.object.inj same]
  · intro read
    exact ⟨members, read, by rw [Keyed.sorted_eq_self sorted]⟩

section

variable {inner : String → Option Value}

/-- An array is read back if its items are. -/
theorem Value.toValue?_array_iff {depth : Nat} {items : List Value} :
    (Value.array items).tree.toValue? inner (depth + 1) = some (.array items) ↔
      ∀ item ∈ items, item.tree.toValue? inner depth = some item := by
  rw [tree, Tree.toValue?, Option.map_eq_some_iff]
  simp only [Value.array.injEq, exists_eq_right]
  exact mapM_map_eq_some_iff

/-- An object is read back if its members are, and it does not begin with the reserved key. -/
theorem Value.toValue?_object_iff (never : ∀ text content, inner text ≠ some (.object [(embeddedKey, content)]))
    {depth : Nat} {members : List (String × Value)} (sorted : members.Pairwise (·.1 < ·.1)) :
    (Value.object members).tree.toValue? inner (depth + 1) = some (.object members) ↔
      (¬ ∃ content others, members = (embeddedKey, content) :: others) ∧
        ∀ member ∈ members, member.2.tree.toValue? inner depth = some member.2 := by
  rw [tree, Tree.toValue?]
  by_cases reserved : ∃ content others, members = (embeddedKey, content) :: others
  · refine iff_of_false ?_ fun free => free.1 reserved
    obtain ⟨content, others, rfl⟩ := reserved
    obtain ⟨text, embeds, alone⟩ := embedded?_of_reserved content.tree
      (others.map fun member => (some member.1, member.2.tree))
    rw [List.map_cons, embeds]
    -- what is read is the embedded text, which does not stand for the object that embeds it
    intro read
    obtain ⟨text, rfl, read⟩ := Option.bind_eq_some_iff.mp read
    obtain rfl := List.map_eq_nil_iff.mp (alone text rfl).2
    exact never text content read
  · rw [embedded?_eq_none reserved, and_iff_right reserved]
    have pairs_read : (members.map fun member => (some member.1, member.2.tree)).mapM
        (readMember (Tree.toValue? inner depth)) = some members ↔
          ∀ member ∈ members, member.2.tree.toValue? inner depth = some member.2 := by
      rw [mapM_map_eq_some_iff]
      refine forall₂_congr fun member listed => ?_
      obtain ⟨key, v⟩ := member
      simp [readMember, Option.map_eq_some_iff]
    have keys : ∀ pairs, (members.map fun member => (some member.1, member.2.tree)).mapM
        (readMember (Tree.toValue? inner depth)) = some pairs → members.map (·.1) = pairs.map (·.1) := by
      intro pairs read
      have keys := keys_of_mapM read
      rw [List.map_map] at keys
      refine List.map_injective_iff.mpr (Option.some_injective String) ?_
      rw [List.map_map, List.map_map]
      exact keys
    rw [← pairs_read]
    exact object_sorted_iff sorted keys

/-- **A tree is read back as its value**, exactly if the value holds no object that begins with the reserved key. -/
theorem Value.Fits.toValue?_tree_iff (never : ∀ text content, inner text ≠ some (.object [(embeddedKey, content)]))
    {depth : Nat} {v : Value} (fits : v.Fits depth) : v.tree.toValue? inner depth = some v ↔ ¬ v.Embeds := by
  induction fits with
  | null depth =>
    refine iff_of_true ?_ (by rintro ⟨⟩)
    cases depth <;> rw [tree, Tree.toValue?]
  | bool depth b =>
    refine iff_of_true ?_ (by rintro ⟨⟩)
    cases depth <;> rw [tree, Tree.toValue?]
  | int depth whole =>
    refine iff_of_true ?_ (by rintro ⟨⟩)
    rw [← Numeral.value?_ofInt whole]
    cases depth <;> rw [tree, Tree.toValue?]
  | text depth s =>
    refine iff_of_true ?_ (by rintro ⟨⟩)
    cases depth <;> (rw [tree, Tree.toValue?]; rfl)
  | @array depth items fit ih =>
    rw [toValue?_array_iff, embeds_array, not_exists]
    simp only [not_and]
    exact forall₂_congr ih
  | @object depth members sorted fit ih =>
    rw [toValue?_object_iff never sorted, embeds_object, not_or, not_exists (p := fun member => _ ∧ _)]
    simp only [not_and]
    exact and_congr_right fun _ => forall₂_congr ih

end

/-- **A text is read back as the value it was written of**, exactly if the value holds no object that begins with the
reserved key. -/
theorem Value.Fits.ofText?_render_iff {v : Value} (fits : v.Fits maxDepth) :
    ofText? v.render = some v ↔ ¬ v.Embeds := by
  rw [ofText?, ofNested?, fits.parse?_render]
  exact fits.toValue?_tree_iff (ofNested?_ne _)

end FeedIndex.Json
