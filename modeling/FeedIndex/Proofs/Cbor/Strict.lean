import FeedIndex.Cbor.Data
import FeedIndex.Proofs.Rereading
import FeedIndex.Wire.Cbor

/-!
# CBOR that is what its heads say

Where a type is expected, the bits of that type are not looked at, and an item of another type may be taken for it;
the data of the same bytes is what the heads say. `Strict` reads the same records from bytes, but takes no item for
another, and skips what is data. What it reads has its counterpart in the data, and so in the JSON value of the data.
-/

namespace FeedIndex.Cbor

open Json (Value)
open Wire (counted)

/-! ## Readers with more levels -/

section

variable {α β : Type}

/-- **Extends** — whatever the one reader takes, the other takes as well. -/
def Extends (read read' : Reader α) : Prop := ∀ ⦃bs taken⦄, read bs = some taken → read' bs = some taken

theorem extends_none (read : Reader α) : Extends (fun _ => none) read := fun _ _ taken => nomatch taken

variable {read read' : Reader α}

theorem Extends.counted (more : Extends read read') (n : Nat) : Extends (counted read n) (counted read' n) := by
  induction n with
  | zero => exact fun _ _ taken => taken
  | succ n ih =>
    intro bs taken all
    rw [Wire.counted] at all ⊢
    split at all
    · cases all
    · next a rest first =>
      obtain ⟨others, later, rfl⟩ := Option.map_eq_some_iff.mp all
      rw [more first]
      dsimp only
      rw [ih later]
      rfl

theorem Extends.untilBreak (more : Extends read read') (n : Nat) :
    Extends (untilBreak read n) (untilBreak read' n) := by
  induction n with
  | zero => exact fun _ _ taken => taken
  | succ n ih =>
    intro bs taken all
    cases bs with
    | nil => cases all
    | cons b rest =>
      rw [Cbor.untilBreak] at all ⊢
      dsimp only at all ⊢
      split at all
      · next ends => rwa [if_pos ends]
      · next goes =>
        rw [if_neg goes]
        split at all
        · cases all
        · next a between first =>
          obtain ⟨others, later, rfl⟩ := Option.map_eq_some_iff.mp all
          rw [more first]
          dsimp only
          rw [ih later]
          rfl

theorem Extends.stringOf {major : Major} {piece piece' : Reader Bytes} (more : Extends piece piece') :
    Extends (stringOf major piece) (stringOf major piece') := by
  intro bs taken read
  cases bs with
  | nil => cases read
  | cons b rest =>
    rw [Cbor.stringOf] at read ⊢
    split at read
    · next openEnded =>
      obtain ⟨pieces, all, rfl⟩ := Option.map_eq_some_iff.mp read
      rw [if_pos openEnded, more.untilBreak _ all]
      rfl
    · next stated => rwa [if_neg stated]

theorem extends_string (major : Major) (levels : Nat) : Extends (string major levels) (string major (levels + 1)) := by
  induction levels with
  | zero => exact Extends.stringOf (extends_none _)
  | succ levels ih => exact Extends.stringOf ih

theorem extends_text (levels : Nat) : Extends (text levels) (text (levels + 1)) := by
  intro bs taken read
  obtain ⟨content, string, read⟩ := Option.bind_eq_some_iff.mp read
  unfold text
  rw [extends_string .text levels string]
  exact read

theorem extends_link (levels : Nat) : Extends (link levels) (link (levels + 1)) := by
  intro bs taken read
  unfold link at read ⊢
  split at read
  · cases read
  · next tag rest opened =>
    dsimp only
    split at read
    · next links =>
      rw [if_pos links]
      split at read
      · next content rest string =>
        rw [extends_string .bytes levels string]
        exact read
      · cases read
    · cases read

theorem Extends.paired {second second' : Reader β} (more : Extends read read') (more' : Extends second second') :
    Extends (paired read second) (paired read' second') := by
  intro bs taken both
  unfold Cbor.paired at both ⊢
  split at both
  · cases both
  · next a rest first =>
    obtain ⟨b, later, rfl⟩ := Option.map_eq_some_iff.mp both
    rw [more first]
    dsimp only
    rw [more' later]
    rfl

theorem Extends.contained {inside inside' : Reader Data} {key key' : Reader String} (more : Extends inside inside')
    (more' : Extends key key') (major : Major) (n : Nat) :
    Extends (contained inside key major n) (contained inside' key' major n) := by
  intro bs taken read
  unfold Cbor.contained at read ⊢
  split at read
  · obtain ⟨items, all, rfl⟩ := Option.map_eq_some_iff.mp read
    dsimp only
    rw [more.counted n all]
    rfl
  · obtain ⟨members, all, read⟩ := Option.bind_eq_some_iff.mp read
    dsimp only
    rw [(more'.paired more).counted n all]
    exact read
  · cases read

theorem extends_valueOf {container container' : Major → Nat → Reader Data} {levels : Nat}
    (more : ∀ major n, Extends (container major n) (container' major n)) :
    Extends (valueOf container levels) (valueOf container' (levels + 1)) := by
  intro bs taken read
  unfold valueOf at read ⊢
  split at read
  · cases read
  · next major argument rest opened =>
    dsimp only
    split at read
    · exact read
    · obtain ⟨s, text, rfl⟩ := Option.map_eq_some_iff.mp read
      rw [extends_text levels text]
      rfl
    · obtain ⟨cid, link, rfl⟩ := Option.map_eq_some_iff.mp read
      rw [extends_link levels link]
      rfl
    · exact more _ _ read
    · exact more _ _ read
    · exact read

/-- A value takes two levels at a time, so the induction goes by two. -/
theorem extends_value : ∀ levels, Extends (value levels) (value (levels + 1))
  | 0 => extends_none _
  | 1 => extends_valueOf fun _ _ => extends_none _
  | levels + 2 => extends_valueOf ((extends_value levels).contained (extends_text levels))

theorem value_of_le {levels levels' : Nat} (more : levels ≤ levels') : Extends (value levels) (value levels') := by
  induction more with
  | refl => exact fun _ _ read => read
  | step _ ih => exact fun _ _ read => extends_value _ (ih read)

end

/-! ## Heads of a type -/

/-- **opens?** — the number of the head at the front of bytes, if its type is the given one. -/
def opens? (major : Major) : Reader Nat := fun bs =>
  match head? bs with
  | some (⟨m, argument⟩, rest) => if m = major then argument.number?.map fun n => (n, rest) else none
  | none => none

theorem head?_of_opens {major : Major} {bs rest : Bytes} {n : Nat} (opened : opens? major bs = some (n, rest)) :
    ∃ argument : Argument, argument.number? = some n ∧ head? bs = some (⟨major, argument⟩, rest) := by
  unfold opens? at opened
  split at opened
  · next m argument after head =>
    split at opened
    · next own =>
      obtain ⟨_, number, same⟩ := Option.map_eq_some_iff.mp opened
      cases same
      exact ⟨argument, number, own ▸ head⟩
    · cases opened
  · cases opened

/-- The first byte of a text: the bits that are looked at where a text is expected are its information. -/
theorem information_of_text {b : UInt8} (text : Major.ofBits (b.toNat / 32) = .text) :
    (b &&& ~~~Major.text.bits).toNat = b.toNat % 32 ∧ b.toNat % 32 < 32 ∧
      (b = Major.text.bits ||| openLength → b.toNat % 32 = openLength.toNat) := by
  have all : ∀ k : Fin 256, Major.ofBits ((UInt8.ofFin k).toNat / 32) = .text →
      (UInt8.ofFin k &&& ~~~Major.text.bits).toNat = (UInt8.ofFin k).toNat % 32 := by decide +kernel
  exact ⟨all b.toFin text, Nat.mod_lt _ (by decide), fun openEnded => openEnded ▸ by decide⟩

/-- **A text of stated length** is read alike at every level. -/
theorem text_of_opens {bs rest : Bytes} {n : Nat} (opened : opens? .text bs = some (n, rest)) (levels : Nat) :
    text levels bs =
      (Bytes.takeExact n rest).bind fun (content, rest) => (Bytes.utf8? content).map fun s => (s, rest) := by
  obtain ⟨argument, number, head⟩ := head?_of_opens opened
  cases bs with
  | nil => cases head
  | cons b bs =>
    obtain ⟨⟨argument', after⟩, read, same⟩ := Option.map_eq_some_iff.mp head
    obtain ⟨sameHead, rfl⟩ := Prod.mk.inj same
    obtain ⟨isText, rfl⟩ := Head.mk.inj sameHead
    obtain ⟨bits, small, openEnded⟩ := information_of_text isText
    -- a length is stated, so the levels that pieces would have do not matter
    have stated : b ≠ Major.text.bits ||| openLength := by
      intro opens
      rw [openEnded opens] at read
      cases read
      cases number
    have string : ∀ piece, stringOf .text piece (b :: bs) = Bytes.takeExact n after := by
      intro piece
      rw [stringOf, if_neg stated, expected?]
      dsimp only
      rw [bits, if_pos small, read, Option.bind_some]
      dsimp only
      rw [number]
      rfl
    unfold text
    cases levels <;> rw [Cbor.string, string]

/-! ## Data under a head -/

/-- What opens the data of a value: it has a container below, two levels down, or none. -/
theorem value_shape (levels : Nat) :
    levels = 0 ∨ value levels = valueOf (fun _ _ _ => none) 0 ∨
      ∃ below < levels, value levels = valueOf (contained (value below) (text below)) (below + 1) := by
  rcases levels with _ | _ | below
  · exact .inl rfl
  · exact .inr (.inl rfl)
  · exact .inr (.inr ⟨below, by omega, rfl⟩)

section

variable {levels n : Nat} {bs inner rest : Bytes} {d : Data}

theorem value_valueOf (read : value levels bs = some (d, rest)) :
    ∃ container lower, valueOf container lower bs = some (d, rest) := by
  rcases value_shape levels with rfl | shape | ⟨below, -, shape⟩
  · cases read
  · exact ⟨_, _, shape ▸ read⟩
  · exact ⟨_, _, shape ▸ read⟩

/-- Data under the head of a container is the container's content. -/
theorem value_contained {major : Major} (container : major = .array ∨ major = .map)
    (opened : opens? major bs = some (n, inner)) (read : value levels bs = some (d, rest)) :
    ∃ below < levels, contained (value below) (text below) major n inner = some (d, rest) := by
  obtain ⟨argument, number, head⟩ := head?_of_opens opened
  have content {open_ : Major → Nat → Reader Data} {lower : Nat}
      (read : valueOf open_ lower bs = some (d, rest)) : open_ major n inner = some (d, rest) := by
    unfold valueOf at read
    rw [head] at read
    dsimp only at read
    rw [number] at read
    rcases container with rfl | rfl <;> exact read
  rcases value_shape levels with rfl | shape | ⟨below, lower, shape⟩
  · cases read
  · rw [shape] at read
    cases content read
  · rw [shape] at read
    exact ⟨below, lower, content read⟩

theorem value_array (opened : opens? .array bs = some (n, inner)) (read : value levels bs = some (d, rest)) :
    ∃ below < levels, ∃ items, counted (value below) n inner = some (items, rest) ∧ d = .list items := by
  obtain ⟨below, lower, content⟩ := value_contained (.inl rfl) opened read
  obtain ⟨⟨items, _⟩, all, same⟩ := Option.map_eq_some_iff.mp content
  cases same
  exact ⟨below, lower, items, all, rfl⟩

theorem value_map (opened : opens? .map bs = some (n, inner)) (read : value levels bs = some (d, rest)) :
    ∃ below < levels, ∃ members, counted (paired (text below) (value below)) n inner = some (members, rest) ∧
      d = .map (Keyed.sorted members) := by
  obtain ⟨below, lower, content⟩ := value_contained (.inr rfl) opened read
  obtain ⟨⟨members, _⟩, all, kept⟩ := Option.bind_eq_some_iff.mp content
  obtain ⟨_, distinct, same⟩ := Option.map_eq_some_iff.mp kept
  cases same
  unfold distinctMembers? at distinct
  split at distinct
  · cases distinct
    exact ⟨below, lower, members, all, rfl⟩
  · cases distinct

theorem value_text (opened : opens? .text bs = some (n, inner)) (read : value levels bs = some (d, rest)) :
    ∃ s lower, text lower bs = some (s, rest) ∧ d = .text s := by
  obtain ⟨argument, number, head⟩ := head?_of_opens opened
  obtain ⟨container, lower, read⟩ := value_valueOf read
  unfold valueOf at read
  rw [head] at read
  dsimp only at read
  rw [number] at read
  obtain ⟨⟨s, _⟩, taken, same⟩ := Option.map_eq_some_iff.mp read
  cases same
  exact ⟨s, lower, taken, rfl⟩

theorem scalar?_unsigned (argument : Argument) :
    scalar? .unsigned argument = argument.number?.map fun (n : Nat) => .int n := by
  cases argument <;> rfl

theorem scalar?_negative (argument : Argument) :
    scalar? .negative argument = argument.number?.map fun (n : Nat) => .int (-1 - n) := by
  cases argument <;> rfl

theorem value_integer {k : Int} (taken : integer bs = some (k, inner)) (read : value levels bs = some (d, rest)) :
    inner = rest ∧ d = .int k := by
  obtain ⟨container, lower, read⟩ := value_valueOf read
  unfold integer at taken
  unfold valueOf at read
  split at taken
  · next argument after head =>
    rw [head] at read
    obtain ⟨n, number, same⟩ := Option.map_eq_some_iff.mp taken
    cases same
    have read : (scalar? .unsigned argument).map (fun d => (d, inner)) = some (d, rest) := by
      cases argument <;> exact read
    rw [scalar?_unsigned, number] at read
    cases read
    exact ⟨rfl, rfl⟩
  · next argument after head =>
    rw [head] at read
    obtain ⟨n, number, same⟩ := Option.map_eq_some_iff.mp taken
    cases same
    have read : (scalar? .negative argument).map (fun d => (d, inner)) = some (d, rest) := by
      cases argument <;> exact read
    rw [scalar?_negative, number] at read
    cases read
    exact ⟨rfl, rfl⟩
  · cases taken

theorem value_null (taken : Wire.null? bs = some inner) (read : value levels bs = some (d, rest)) :
    inner = rest ∧ d = .null := by
  obtain ⟨container, lower, read⟩ := value_valueOf read
  cases bs with
  | nil => cases taken
  | cons b bs =>
    change (if b = nullByte then some bs else none) = some inner at taken
    split at taken
    · next isNull =>
      subst isNull
      cases taken
      cases read
      exact ⟨rfl, rfl⟩
    · cases taken

end

/-! ## Reading no item for another -/

/-- **Strict** — bytes of which a record is read where each item is of the type that is expected. -/
structure Strict where
  bytes : Bytes

instance : Wire Strict where
  levels := maxLevels
  optionLevels := 1
  null? input := (Wire.null? input.bytes).map Strict.mk
  skip? _ input := (value maxLevels input.bytes).map fun (_, rest) => ⟨rest⟩
  text? levels input :=
    if (opens? .text input.bytes).isSome then (text levels input.bytes).map fun (s, rest) => (s, ⟨rest⟩) else none
  integer? input := (integer input.bytes).map fun (n, rest) => (n, ⟨rest⟩)
  list? input := (opens? .array input.bytes).map fun (n, rest) => (n, ⟨rest⟩)
  layout? input := (opens? .map input.bytes).map fun (n, rest) => (.named n, ⟨rest⟩)

/-- **read?** — the record that all of the bytes make, if each item of it is of the type that is expected. -/
def Strict.read? {α : Type} (reading : Wire.Reading Strict α) (bs : Bytes) : Option α :=
  match Wire.read reading (⟨bs⟩ : Strict) with
  | some (a, ⟨[]⟩) => some a
  | _ => none

/-! ## The JSON values of data -/

/-- The value of the data at the head of bytes. -/
def DataShows (input : Strict) (v : Value) (rest : Strict) : Prop :=
  ∃ levels ≤ maxLevels, ∃ d, value levels input.bytes = some (d, rest.bytes) ∧ v = d.toJson

/-- A key is at the head of bytes, whatever pieces it may have. -/
def DataNames (input : Strict) (key : String) (rest : Strict) : Prop :=
  ∃ levels, text levels input.bytes = some (key, rest.bytes)

theorem jsonItems_eq_map (items : List Data) : jsonItems items = items.map Data.toJson := by
  induction items with
  | nil => rfl
  | cons d items ih => rw [jsonItems, ih, List.map_cons]

theorem jsonMembers_eq_mapValues (members : List (String × Data)) :
    jsonMembers members = Keyed.mapValues Data.toJson members := by
  induction members with
  | nil => rfl
  | cons member members ih => rw [jsonMembers, ih, Keyed.mapValues, Keyed.mapValues, List.map_cons]

variable {levels n : Nat} {rest : Strict}

theorem inTurn_of_counted (within : levels ≤ maxLevels) (inner : Strict) {items : List Data}
    (all : counted (value levels) n inner.bytes = some (items, rest.bytes)) :
    (items.map Data.toJson).length = n ∧ InTurn DataShows inner (items.map Data.toJson) rest := by
  induction n generalizing inner items with
  | zero =>
    obtain ⟨bs⟩ := inner
    cases all
    exact ⟨rfl, .done _⟩
  | succ n ih =>
    rw [counted] at all
    split at all
    · cases all
    · next d between first =>
      obtain ⟨⟨others, _⟩, later, same⟩ := Option.map_eq_some_iff.mp all
      cases same
      obtain ⟨length, inTurn⟩ := ih ⟨between⟩ later
      exact ⟨congrArg (· + 1) length, .next ⟨levels, within, d, first, rfl⟩ inTurn⟩

theorem membersInTurn_of_counted (within : levels ≤ maxLevels) (inner : Strict) {members : List (String × Data)}
    (all : counted (paired (text levels) (value levels)) n inner.bytes = some (members, rest.bytes)) :
    (Keyed.mapValues Data.toJson members).length = n ∧
      MembersInTurn DataNames DataShows inner (Keyed.mapValues Data.toJson members) rest := by
  induction n generalizing inner members with
  | zero =>
    obtain ⟨bs⟩ := inner
    cases all
    exact ⟨rfl, .done _⟩
  | succ n ih =>
    rw [counted] at all
    split at all
    · cases all
    · next member between first =>
      obtain ⟨⟨others, _⟩, later, same⟩ := Option.map_eq_some_iff.mp all
      cases same
      obtain ⟨length, inTurn⟩ := ih ⟨between⟩ later
      unfold paired at first
      split at first
      · cases first
      · next key behind named =>
        obtain ⟨⟨d, _⟩, valued, same⟩ := Option.map_eq_some_iff.mp first
        cases same
        have name : DataNames inner key ⟨behind⟩ := ⟨levels, named⟩
        exact ⟨congrArg (· + 1) length, .next name ⟨levels, within, d, valued, rfl⟩ inTurn⟩

/-- A text that is taken, and where it ends. -/
theorem text_taken {input : Strict} {s : String} (taken : Wire.text? levels input = some (s, rest)) :
    (∃ n after, opens? .text input.bytes = some (n, after)) ∧ text levels input.bytes = some (s, rest.bytes) := by
  change (if (opens? .text input.bytes).isSome then (text levels input.bytes).map _ else none) = _ at taken
  split at taken
  · next opened =>
    obtain ⟨⟨n, after⟩, opened⟩ := Option.isSome_iff_exists.mp opened
    obtain ⟨⟨s, bs⟩, text, same⟩ := Option.map_eq_some_iff.mp taken
    cases same
    exact ⟨⟨n, after, opened⟩, text⟩
  · cases taken

/-- **The JSON values of data** stand for the bytes, whatever record is read from them strictly. -/
def dataPortrayal : Portrayal Strict where
  Shows := DataShows
  Names := DataNames
  null {input rest rest' v} taken there := by
    obtain ⟨_, -, d, read, rfl⟩ := there
    obtain ⟨after, null, rfl⟩ := Option.map_eq_some_iff.mp taken
    obtain ⟨rfl, rfl⟩ := value_null null read
    exact ⟨rfl, rfl⟩
  text {levels input rest rest' v s} taken there := by
    obtain ⟨_, -, d, read, rfl⟩ := there
    obtain ⟨⟨n, after, opened⟩, taken⟩ := text_taken taken
    obtain ⟨s', lower, again, rfl⟩ := value_text opened read
    rw [text_of_opens opened] at taken again
    obtain ⟨rfl, same⟩ := Prod.mk.inj (Option.some.inj (taken.symm.trans again))
    exact ⟨congrArg Strict.mk same, rfl⟩
  name {levels input rest rest' key s} taken there := by
    obtain ⟨lower, again⟩ := there
    obtain ⟨⟨n, after, opened⟩, taken⟩ := text_taken taken
    rw [text_of_opens opened] at taken again
    obtain ⟨rfl, same⟩ := Prod.mk.inj (Option.some.inj (taken.symm.trans again))
    exact ⟨congrArg Strict.mk same, rfl⟩
  integer {input rest rest' v k} taken whole there := by
    obtain ⟨_, -, d, read, rfl⟩ := there
    obtain ⟨⟨k, after⟩, number, same⟩ := Option.map_eq_some_iff.mp taken
    cases same
    obtain ⟨rfl, rfl⟩ := value_integer number read
    rw [Data.toJson, if_pos whole]
    exact ⟨rfl, rfl⟩
  skip {levels input rest rest' v} taken there := by
    -- the same data is read at either number of levels, and ends at the same place
    obtain ⟨_, within, d, read, rfl⟩ := there
    obtain ⟨⟨d', after⟩, skipped, rfl⟩ := Option.map_eq_some_iff.mp taken
    obtain ⟨-, same⟩ := Prod.mk.inj (Option.some.inj (skipped.symm.trans (value_of_le within read)))
    exact congrArg Strict.mk same
  list {input inner rest v count} taken there := by
    obtain ⟨levels, within, d, read, rfl⟩ := there
    obtain ⟨⟨count, after⟩, opened, same⟩ := Option.map_eq_some_iff.mp taken
    cases same
    obtain ⟨below, lower, items, all, rfl⟩ := value_array opened read
    obtain ⟨length, inTurn⟩ := inTurn_of_counted (Nat.le_trans (Nat.le_of_lt lower) within) ⟨after⟩ all
    exact ⟨_, by rw [Data.toJson, jsonItems_eq_map], length, inTurn⟩
  named {input inner rest v count} taken there := by
    obtain ⟨levels, within, d, read, rfl⟩ := there
    obtain ⟨⟨count, after⟩, opened, same⟩ := Option.map_eq_some_iff.mp taken
    cases same
    obtain ⟨below, lower, members, all, rfl⟩ := value_map opened read
    obtain ⟨length, inTurn⟩ :=
      membersInTurn_of_counted (Nat.le_trans (Nat.le_of_lt lower) within) ⟨after⟩ all
    exact ⟨_, by rw [Data.toJson, jsonMembers_eq_mapValues, Keyed.mapValues_sorted], length, inTurn⟩
  inOrder {input inner rest v count} taken there := by
    obtain ⟨_, -, same⟩ := Option.map_eq_some_iff.mp taken
    cases same

end FeedIndex.Cbor
