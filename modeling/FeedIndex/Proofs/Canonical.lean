import FeedIndex.Proofs.Cbor.Strict
import FeedIndex.Proofs.Json.Portrayed
import FeedIndex.Record.Opener

/-!
# Values of any depth

The whole of a record is a value that can be nested deeper than a text may be that is read into a value: a block may
be nested a level deeper, links and bytes in it become objects, and a text that is embedded in another has a depth of
its own. Whatever way it came, the value has its members in order and its numbers are whole or doubles, so that its
text stands for it. Without doubles it is read back from its text, exactly if it is no deeper than the reader allows
and holds no object that begins with the reserved key.
-/

namespace FeedIndex.Json

/-! ## Depths -/

theorem itemsDepth_le_iff {items : List Value} {n : Nat} : itemsDepth items ≤ n ↔ ∀ item ∈ items, item.depth ≤ n := by
  induction items with
  | nil => exact iff_of_true (Nat.zero_le n) nofun
  | cons item items ih => rw [itemsDepth, Nat.max_le, List.forall_mem_cons, ih]

theorem membersDepth_le_iff {members : List (String × Value)} {n : Nat} :
    membersDepth members ≤ n ↔ ∀ member ∈ members, member.2.depth ≤ n := by
  induction members with
  | nil => exact iff_of_true (Nat.zero_le n) nofun
  | cons member members ih => rw [membersDepth, Nat.max_le, List.forall_mem_cons, ih]

/-! ## Doubles -/

mutual

/-- **holdsDouble** — there is a double somewhere in the value. -/
def Value.holdsDouble : Value → Bool
  | .double _ => true
  | .array items => itemsHoldDouble items
  | .object members => membersHoldDouble members
  | _ => false

def itemsHoldDouble : List Value → Bool
  | [] => false
  | v :: vs => v.holdsDouble || itemsHoldDouble vs

def membersHoldDouble : List (String × Value) → Bool
  | [] => false
  | (_, v) :: ms => v.holdsDouble || membersHoldDouble ms

end

theorem itemsHoldDouble_eq_false {items : List Value} (whole : itemsHoldDouble items = false) :
    ∀ item ∈ items, item.holdsDouble = false := by
  induction items with
  | nil => exact nofun
  | cons item items ih =>
    obtain ⟨first, others⟩ := Bool.or_eq_false_iff.mp whole
    exact List.forall_mem_cons.mpr ⟨first, ih others⟩

theorem membersHoldDouble_eq_false {members : List (String × Value)} (whole : membersHoldDouble members = false) :
    ∀ member ∈ members, member.2.holdsDouble = false := by
  induction members with
  | nil => exact nofun
  | cons member members ih =>
    obtain ⟨first, others⟩ := Bool.or_eq_false_iff.mp whole
    exact List.forall_mem_cons.mpr ⟨first, ih others⟩

namespace Value

/-! ## Reading back -/

theorem Fits.of_depth_le {n depth : Nat} {v : Value} (fits : v.Fits n) (le : v.depth ≤ depth) : v.Fits depth := by
  induction fits generalizing depth with
  | null | bool | text => constructor
  | int _ whole => exact .int _ whole
  | @array _ items _ ih =>
    obtain ⟨depth, rfl⟩ := Nat.exists_eq_add_of_le' (Nat.le_trans (Nat.succ_pos _) le)
    have inside := itemsDepth_le_iff.mp (Nat.le_of_succ_le_succ le)
    exact .array fun item listed => ih item listed (inside item listed)
  | @object _ members sorted _ ih =>
    obtain ⟨depth, rfl⟩ := Nat.exists_eq_add_of_le' (Nat.le_trans (Nat.succ_pos _) le)
    have inside := membersDepth_le_iff.mp (Nat.le_of_succ_le_succ le)
    exact .object sorted fun member listed => ih member listed (inside member listed)

variable {inner : String → Option Value}

/-- A value that is read back is not deeper than the reader allows. -/
theorem Fits.depth_le_of_read (never : ∀ text content, inner text ≠ some (.object [(embeddedKey, content)]))
    {n depth : Nat} {v : Value} (fits : v.Fits n) (read : v.tree.toValue? inner depth = some v) : v.depth ≤ depth := by
  induction fits generalizing depth with
  | null | bool | int | text => exact Nat.zero_le depth
  | @array _ items _ ih =>
    cases depth with
    | zero =>
      rw [tree, Tree.toValue?] at read
      cases read
    | succ depth =>
      have items_read := toValue?_array_iff.mp read
      exact Nat.succ_le_succ (itemsDepth_le_iff.mpr fun item listed => ih item listed (items_read item listed))
  | @object _ members sorted _ ih =>
    cases depth with
    | zero =>
      rw [tree, Tree.toValue?] at read
      cases read
    | succ depth =>
      have members_read := ((toValue?_object_iff never sorted).mp read).2
      exact Nat.succ_le_succ (membersDepth_le_iff.mpr fun member listed =>
        ih member listed (members_read member listed))

/-- **A text is read back as the value it was written of**, exactly if the value is not too deep and holds no object
that begins with the reserved key. -/
theorem Fits.ofText?_render_depth_iff {n : Nat} {v : Value} (fits : v.Fits n) :
    ofText? v.render = some v ↔ v.depth ≤ maxDepth ∧ ¬ v.Embeds := by
  constructor
  · intro read
    have shallow : v.depth ≤ maxDepth := by
      rw [ofText?, ofNested?, fits.parse?_render] at read
      exact fits.depth_le_of_read (ofNested?_ne _) read
    exact ⟨shallow, (fits.of_depth_le shallow).ofText?_render_iff.mp read⟩
  · rintro ⟨shallow, plain⟩
    exact (fits.of_depth_le shallow).ofText?_render_iff.mpr plain

/-! ## Canonical values -/

/-- **Canonical** — the members of every object stand in the order of their keys, and whole numbers are in range. -/
inductive Canonical : Value → Prop
  | null : Canonical .null
  | bool (b : Bool) : Canonical (.bool b)
  | int {n : Int} (whole : isWhole n = true) : Canonical (.int n)
  | double (bits : UInt64) : Canonical (.double bits)
  | text (s : String) : Canonical (.text s)
  | array {items : List Value} (each : ∀ item ∈ items, Canonical item) : Canonical (.array items)
  | object {members : List (String × Value)} (sorted : members.Pairwise (·.1 < ·.1))
      (each : ∀ member ∈ members, Canonical member.2) : Canonical (.object members)

/-- An object of any members has them in order. -/
theorem Canonical.object_sorted {members : List (String × Value)} (each : ∀ member ∈ members, member.2.Canonical) :
    (Value.object (Keyed.sorted members)).Canonical :=
  .object (Keyed.pairwise_sorted members) fun member listed => each member (Keyed.mem_of_mem_sorted listed)

/-- A canonical value without doubles fits where there is room for its depth. -/
theorem Canonical.fits {v : Value} (canonical : v.Canonical) (whole : v.holdsDouble = false) : v.Fits v.depth := by
  induction canonical with
  | null => exact .null _
  | bool b => exact .bool _ b
  | int inRange => exact .int _ inRange
  | double bits => cases whole
  | text s => exact .text _ s
  | @array items _ ih =>
    refine .array fun item listed => ?_
    exact (ih item listed (itemsHoldDouble_eq_false whole item listed)).of_depth_le (depth_le_itemsDepth listed)
  | @object members sorted _ ih =>
    refine .object sorted fun member listed => ?_
    have fits := ih member listed (membersHoldDouble_eq_false whole member listed)
    exact fits.of_depth_le (depth_le_membersDepth listed)

end Value

/-! ## What is read of a JSON text -/

/-- What each item is read as has a property that whatever is read has. -/
theorem forall_of_mapM {α β : Type} {f : α → Option β} {P : β → Prop} (each : ∀ a b, f a = some b → P b) {as : List α}
    {bs : List β} (read : as.mapM f = some bs) : ∀ b ∈ bs, P b := by
  induction as generalizing bs with
  | nil =>
    obtain rfl := Option.some.inj read
    exact nofun
  | cons a as ih =>
    rw [List.mapM_cons] at read
    obtain ⟨b, first, read⟩ := Option.bind_eq_some_iff.mp read
    obtain ⟨bs, later, same⟩ := Option.bind_eq_some_iff.mp read
    obtain rfl := Option.some.inj same
    exact List.forall_mem_cons.mpr ⟨each a b first, ih later⟩

theorem Numeral.canonical_of_value? {m : Numeral} {v : Value} (read : m.value? = some v) : v.Canonical := by
  have double (read : m.double?.map Value.double = some v) : v.Canonical := by
    obtain ⟨bits, -, rfl⟩ := Option.map_eq_some_iff.mp read
    exact .double bits
  unfold value? at read
  split at read
  · split at read
    · next whole =>
      obtain rfl := Option.some.inj read
      exact .int whole
    · exact double read
  · exact double read

/-- A tree is read as a canonical value, if the texts that it embeds are. -/
theorem Tree.canonical_of_toValue? {inner : String → Option Value}
    (embedded : ∀ text v, inner text = some v → v.Canonical) {depth : Nat} {t : Tree} {v : Value}
    (read : t.toValue? inner depth = some v) : v.Canonical := by
  -- on the depth, not on the tree: what a container holds is read with one level less
  induction depth using Nat.strongRecOn generalizing t v with
  | ind depth ih =>
    cases t with
    | null =>
      cases depth <;> cases read <;> exact .null
    | bool b =>
      cases depth <;> cases read <;> exact .bool b
    | number m =>
      have read : m.value? = some v := by cases depth <;> exact read
      exact m.canonical_of_value? read
    | text s =>
      have read : s.map Value.text = some v := by cases depth <;> exact read
      obtain ⟨s, -, rfl⟩ := Option.map_eq_some_iff.mp read
      exact .text s
    | array items =>
      cases depth with
      | zero => cases read
      | succ depth =>
        rw [toValue?] at read
        obtain ⟨vs, listed, rfl⟩ := Option.map_eq_some_iff.mp read
        exact .array (forall_of_mapM (fun _ _ read => ih depth (Nat.lt_succ_self depth) read) listed)
    | object members =>
      cases depth with
      | zero => cases read
      | succ depth =>
        rw [toValue?] at read
        split at read
        · obtain ⟨text, -, read⟩ := Option.bind_eq_some_iff.mp read
          exact embedded text v read
        · obtain ⟨pairs, listed, rfl⟩ := Option.map_eq_some_iff.mp read
          refine .object_sorted (forall_of_mapM (f := readMember (toValue? inner depth)) ?_ listed)
          intro member pair entry
          obtain ⟨key, -, entry⟩ := Option.bind_eq_some_iff.mp entry
          obtain ⟨v, valued, rfl⟩ := Option.map_eq_some_iff.mp entry
          exact ih depth (Nat.lt_succ_self depth) valued

theorem Value.canonical_of_ofNested? {n : Nat} {s : String} {v : Value} (read : ofNested? n s = some v) :
    v.Canonical := by
  induction n generalizing s v with
  | zero => cases read
  | succ n ih =>
    obtain ⟨t, -, read⟩ := Option.bind_eq_some_iff.mp read
    exact t.canonical_of_toValue? (fun _ _ read => ih read) read

end FeedIndex.Json

namespace FeedIndex.Cbor

open Json (Value)
open Wire (counted)

/-! ## What is read of a block -/

theorem forall_of_counted {α : Type} {read : Reader α} {P : α → Prop}
    (each : ∀ bs a rest, read bs = some (a, rest) → P a) {n : Nat} {bs rest : Bytes} {as : List α}
    (all : counted read n bs = some (as, rest)) : ∀ a ∈ as, P a := by
  induction n generalizing bs as with
  | zero =>
    cases all
    exact nofun
  | succ n ih =>
    rw [counted] at all
    split at all
    · cases all
    · next a between first =>
      obtain ⟨⟨others, _⟩, later, same⟩ := Option.map_eq_some_iff.mp all
      cases same
      exact List.forall_mem_cons.mpr ⟨each bs a between first, ih later⟩

/-- A whole number that is out of range becomes a text. -/
theorem Data.canonical_int (n : Int) : (int n).toJson.Canonical := by
  rw [toJson]
  split
  · next whole => exact .int whole
  · exact .text _

/-- What is no finite number becomes null. -/
theorem Data.canonical_float (bits : UInt64) : (float bits).toJson.Canonical := by
  rw [toJson]
  split
  · exact .double bits
  · exact .null

/-- Bytes and links become objects of one member. -/
theorem canonical_wrapped (key s : String) : (Value.object [(key, .text s)]).Canonical := by
  refine .object (List.pairwise_singleton _ _) fun member listed => ?_
  obtain rfl := List.mem_singleton.mp listed
  exact .text s

theorem canonical_of_scalar? {major : Major} {argument : Argument} {d : Data} (read : scalar? major argument = some d) :
    d.toJson.Canonical := by
  unfold scalar? at read
  split at read
  · obtain ⟨n, -, rfl⟩ := Option.map_eq_some_iff.mp read
    exact Data.canonical_int n
  · obtain ⟨n, -, rfl⟩ := Option.map_eq_some_iff.mp read
    exact Data.canonical_int (-1 - n)
  · cases read
    exact .bool false
  · cases read
    exact .bool true
  · cases read
    exact .null
  · cases read
    exact Data.canonical_float _
  · cases read
    exact Data.canonical_float _
  · cases read

section

variable {levels n : Nat} {bs rest : Bytes} {d : Data}

theorem canonical_of_contained {inside : Reader Data} {key : Reader String} {major : Major}
    (each : ∀ bs d rest, inside bs = some (d, rest) → d.toJson.Canonical)
    (read : contained inside key major n bs = some (d, rest)) : d.toJson.Canonical := by
  unfold contained at read
  split at read
  · obtain ⟨⟨items, _⟩, all, same⟩ := Option.map_eq_some_iff.mp read
    cases same
    rw [Data.toJson, jsonItems_eq_map]
    refine .array fun item listed => ?_
    obtain ⟨d, counted, rfl⟩ := List.mem_map.mp listed
    exact forall_of_counted each all d counted
  · obtain ⟨⟨members, _⟩, all, kept⟩ := Option.bind_eq_some_iff.mp read
    obtain ⟨_, distinct, same⟩ := Option.map_eq_some_iff.mp kept
    cases same
    have members_canonical : ∀ member ∈ members, member.2.toJson.Canonical := by
      refine forall_of_counted (fun bs member rest taken => ?_) all
      unfold paired at taken
      split at taken
      · cases taken
      · obtain ⟨⟨d, _⟩, valued, same⟩ := Option.map_eq_some_iff.mp taken
        cases same
        exact each _ d _ valued
    unfold distinctMembers? at distinct
    split at distinct
    · cases distinct
      rw [Data.toJson, jsonMembers_eq_mapValues, Keyed.mapValues_sorted]
      refine .object_sorted fun member listed => ?_
      obtain ⟨member, counted, rfl⟩ := List.mem_map.mp listed
      exact members_canonical member counted
    · cases distinct
  · cases read

theorem canonical_of_valueOf {container : Major → Nat → Reader Data}
    (each : ∀ major n bs d rest, container major n bs = some (d, rest) → d.toJson.Canonical)
    (read : valueOf container levels bs = some (d, rest)) : d.toJson.Canonical := by
  unfold valueOf at read
  split at read
  · cases read
  split at read
  · obtain ⟨_, -, same⟩ := Option.map_eq_some_iff.mp read
    cases same
    exact canonical_wrapped ..
  · obtain ⟨_, -, same⟩ := Option.map_eq_some_iff.mp read
    cases same
    exact .text _
  · obtain ⟨_, -, same⟩ := Option.map_eq_some_iff.mp read
    cases same
    exact canonical_wrapped ..
  · exact each _ _ _ _ _ read
  · exact each _ _ _ _ _ read
  · obtain ⟨_, scalar, same⟩ := Option.map_eq_some_iff.mp read
    cases same
    exact canonical_of_scalar? scalar

/-- The data at the head of bytes becomes a canonical value. -/
theorem canonical_of_value (read : value levels bs = some (d, rest)) : d.toJson.Canonical := by
  -- a container takes two levels, so that the step is no single one
  induction levels using Nat.strongRecOn generalizing bs d rest with
  | ind levels ih =>
    rcases value_shape levels with rfl | shape | ⟨below, lower, shape⟩
    · cases read
    · refine canonical_of_valueOf ?_ (shape ▸ read)
      exact fun _ _ _ _ _ inside => nomatch inside
    · refine canonical_of_valueOf (fun major n bs d rest inside => ?_) (shape ▸ read)
      exact canonical_of_contained (fun _ _ _ read => ih below lower read) inside

end

end FeedIndex.Cbor

namespace FeedIndex.Opener

/-! ## The whole of a payload -/

/-- **The whole of a payload is canonical**, whichever way it came. -/
theorem canonical_of_rawValue? {payload : Payload} {raw : Json.Value} (read : rawValue? payload = some raw) :
    raw.Canonical := by
  cases payload with
  | json text => exact Json.Value.canonical_of_ofNested? read
  | block cid bs =>
    obtain ⟨d, decoded, rfl⟩ := Option.map_eq_some_iff.mp read
    unfold Cbor.Data.ofBytes? at decoded
    split at decoded
    · next whole =>
      cases decoded
      exact Cbor.canonical_of_value whole
    · cases decoded

end FeedIndex.Opener
