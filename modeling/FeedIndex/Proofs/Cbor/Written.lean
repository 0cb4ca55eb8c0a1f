import FeedIndex.Proofs.Archived
import FeedIndex.Wire.Cbor
import Mathlib.Tactic.Ring

/-!
# CBOR items as they are written

The one form in which the network writes an item: the head with its number in the fewest bytes, then the content,
whose length the head states. Each reader takes exactly the item back from the front of any bytes. The members of a
map are read one at a time, each key with its value; `members_cons` is the step.
-/

namespace FeedIndex

/-! ## Numbers in bytes -/

namespace Bytes

theorem bigEndian_cons (b : UInt8) (bs : Bytes) :
    bigEndian (b :: bs) = b.toNat * 256 ^ bs.length + bigEndian bs := by
  have shifted : ∀ start, bs.foldl (fun n b => 256 * n + b.toNat) start =
      start * 256 ^ bs.length + bigEndian bs := by
    induction bs with
    | nil => intro start; simp [bigEndian]
    | cons c cs ih =>
      intro start
      show cs.foldl _ (256 * start + c.toNat) = start * 256 ^ (cs.length + 1) + cs.foldl _ (256 * 0 + c.toNat)
      rw [ih, ih (256 * 0 + c.toNat)]
      ring
  show bs.foldl _ (256 * 0 + b.toNat) = _
  rw [shifted, Nat.mul_zero, Nat.zero_add]

theorem ofNat_succ (count n : Nat) : ofNat (count + 1) n = (n / 256 ^ count).toUInt8 :: ofNat count n := by
  unfold ofNat
  rw [List.range_succ, List.reverse_append, List.reverse_singleton, List.singleton_append, List.map_cons]
  rfl

theorem length_ofNat (count n : Nat) : (ofNat count n).length = count := by simp [ofNat]

theorem bigEndian_ofNat_mod (count n : Nat) : bigEndian (ofNat count n) = n % 256 ^ count := by
  induction count with
  | zero => simp [ofNat, bigEndian, Nat.mod_one]
  | succ count ih =>
    have byte : (n / 256 ^ count).toUInt8.toNat = n / 256 ^ count % 256 := by
      rw [Nat.toUInt8, UInt8.toNat_ofNat']
    rw [ofNat_succ, bigEndian_cons, length_ofNat, ih, byte, Nat.mod_pow_succ]
    ring

/-- **A number is read back from its bytes**, if there are enough of them. -/
theorem bigEndian_ofNat {count n : Nat} (enough : n < 256 ^ count) : bigEndian (ofNat count n) = n := by
  rw [bigEndian_ofNat_mod, Nat.mod_eq_of_lt enough]

/-- The bytes of a text. -/
def ofText (s : String) : Bytes := s.toUTF8.data.toList

theorem utf8?_ofText (s : String) : utf8? (ofText s) = some s := by
  unfold utf8? ofText
  have whole : ByteArray.mk s.toUTF8.data.toList.toArray = s.toUTF8 := rfl
  rw [whole, String.fromUTF8?, String.toUTF8_eq_toByteArray, dif_pos s.isValidUTF8]
  rfl

end Bytes

namespace Cbor

/-! ## Heads -/

/-- The five bits and the further bytes of a number, in the fewest bytes. -/
def information (n : Nat) : Nat × Bytes :=
  if n < 24 then (n, [])
  else if n < 256 ^ 1 then (24, Bytes.ofNat 1 n)
  else if n < 256 ^ 2 then (25, Bytes.ofNat 2 n)
  else if n < 256 ^ 4 then (26, Bytes.ofNat 4 n)
  else (27, Bytes.ofNat 8 n)

/-- **headBytes** — the head of an item. -/
def headBytes (major : Major) (n : Nat) : Bytes :=
  (major.bits ||| (information n).1.toUInt8) :: (information n).2

/-- The number of a head that has bytes of its own. -/
theorem argument?_ofNat {info n : Nat} (wide : 24 ≤ info ∧ info < 28) (enough : n < 256 ^ 2 ^ (info - 24))
    (rest : Bytes) :
    argument? info (Bytes.ofNat (2 ^ (info - 24)) n ++ rest) = some (.long (2 ^ (info - 24)) n, rest) := by
  unfold argument?
  rw [if_neg (by omega), if_pos wide.2]
  have taken := Bytes.takeExact_append (Bytes.ofNat (2 ^ (info - 24)) n) rest
  rw [Bytes.length_ofNat] at taken
  show (Bytes.takeExact (2 ^ (info - 24)) _).map _ = _
  rw [taken, Option.map_some]
  dsimp only
  rw [Bytes.bigEndian_ofNat enough]
  rfl

/-- **The information of a number** is that of an argument, which is read back. -/
theorem argument?_information {n : Nat} (fits : n < 2 ^ 64) :
    (information n).1 < 28 ∧ ∃ argument : Argument, argument.number? = some n ∧
      ∀ rest, argument? (information n).1 ((information n).2 ++ rest) = some (argument, rest) := by
  unfold information
  split
  · next short => exact ⟨by omega, .short n, rfl, fun rest => by rw [argument?, if_pos short]; rfl⟩
  split
  · next enough => exact ⟨(by decide : 24 < 28), _, rfl, argument?_ofNat (show 24 ≤ 24 ∧ 24 < 28 by decide) enough⟩
  split
  · next enough => exact ⟨(by decide : 25 < 28), _, rfl, argument?_ofNat (show 24 ≤ 25 ∧ 25 < 28 by decide) enough⟩
  split
  · next enough => exact ⟨(by decide : 26 < 28), _, rfl, argument?_ofNat (show 24 ≤ 26 ∧ 26 < 28 by decide) enough⟩
  · have enough : n < 256 ^ 2 ^ (27 - 24) := fits
    exact ⟨(by decide : 27 < 28), _, rfl, argument?_ofNat (show 24 ≤ 27 ∧ 27 < 28 by decide) enough⟩

/-- The first byte of a head: its type and its information can be told apart, and it opens no length. -/
theorem first_byte (major : Major) {info : Nat} (h : info < 28) :
    ((major.bits ||| info.toUInt8) &&& ~~~major.bits).toNat = info ∧
      (major.bits ||| info.toUInt8).toNat % 32 = info ∧
      Major.ofBits ((major.bits ||| info.toUInt8).toNat / 32) = major ∧
      major.bits ||| info.toUInt8 ≠ major.bits ||| openLength := by
  have all : ∀ info : Fin 28,
      ((major.bits ||| info.val.toUInt8) &&& ~~~major.bits).toNat = info ∧
        (major.bits ||| info.val.toUInt8).toNat % 32 = info ∧
        Major.ofBits ((major.bits ||| info.val.toUInt8).toNat / 32) = major ∧
        major.bits ||| info.val.toUInt8 ≠ major.bits ||| openLength := by
    cases major <;> decide
  exact all ⟨info, h⟩

/-- **A head is read back** where its type is expected. -/
theorem expected?_headBytes (major : Major) {n : Nat} (fits : n < 2 ^ 64) (rest : Bytes) :
    expected? major (headBytes major n ++ rest) = some (n, rest) := by
  obtain ⟨low, argument, number, read⟩ := argument?_information fits
  unfold headBytes
  rw [List.cons_append, expected?]
  dsimp only
  rw [(first_byte major low).1, if_pos (by omega), read]
  show (argument.number?.map fun n => (n, rest)) = _
  rw [number]
  rfl

/-- A head is read back for whatever it is. -/
theorem head?_headBytes (major : Major) {n : Nat} (fits : n < 2 ^ 64) (rest : Bytes) :
    ∃ argument : Argument, argument.number? = some n ∧
      head? (headBytes major n ++ rest) = some (⟨major, argument⟩, rest) := by
  obtain ⟨low, argument, number, read⟩ := argument?_information fits
  refine ⟨argument, number, ?_⟩
  unfold headBytes
  rw [List.cons_append, head?, (first_byte major low).2.1, (first_byte major low).2.2.1, read]
  rfl

/-! ## Items -/

/-- The item of a whole number. -/
def integerBytes (n : Int) : Bytes :=
  if 0 ≤ n then headBytes .unsigned n.toNat else headBytes .negative (-1 - n).toNat

/-- The item of a string of bytes. -/
def stringBytes (major : Major) (content : Bytes) : Bytes := headBytes major content.length ++ content

/-- The item of a text. -/
def textBytes (s : String) : Bytes := stringBytes .text (Bytes.ofText s)

/-- The item of a truth value. -/
def boolBytes (b : Bool) : Bytes := [if b then 0xF5 else 0xF4]

/-- The item of a link. -/
def linkBytes (cid : Cid) : Bytes := headBytes .tag linkTag ++ stringBytes .bytes (0 :: cid.toBytes)

/-- A number of 64 bits with its sign. -/
def IsWord (n : Int) : Prop := -2 ^ 63 ≤ n ∧ n < 2 ^ 63

instance (n : Int) : Decidable (IsWord n) := inferInstanceAs (Decidable (_ ∧ _))

/-- The head of a whole number gives its sign and its size. -/
theorem head?_integerBytes {n : Int} (word : IsWord n) (rest : Bytes) :
    ∃ (argument : Argument) (size : Nat), argument.number? = some size ∧
      (n = size ∧ head? (integerBytes n ++ rest) = some (⟨.unsigned, argument⟩, rest) ∨
        n = -1 - size ∧ head? (integerBytes n ++ rest) = some (⟨.negative, argument⟩, rest)) := by
  obtain ⟨low, high⟩ := word
  unfold integerBytes
  by_cases natural : 0 ≤ n
  · obtain ⟨argument, number, read⟩ := head?_headBytes .unsigned (n := n.toNat) (by omega) rest
    rw [if_pos natural]
    exact ⟨argument, n.toNat, number, .inl ⟨by omega, read⟩⟩
  · obtain ⟨argument, number, read⟩ := head?_headBytes .negative (n := (-1 - n).toNat) (by omega) rest
    rw [if_neg natural]
    exact ⟨argument, (-1 - n).toNat, number, .inr ⟨by omega, read⟩⟩

/-- **A whole number is read back.** -/
theorem integer_integerBytes {n : Int} (word : IsWord n) (rest : Bytes) :
    integer (integerBytes n ++ rest) = some (n, rest) := by
  obtain ⟨argument, size, number, ⟨rfl, read⟩ | ⟨rfl, read⟩⟩ := head?_integerBytes word rest
  all_goals
    rw [integer, read]
    dsimp only
    rw [number]
    rfl

theorem stringOf_stringBytes (major : Major) (piece : Reader Bytes) {content : Bytes} (fits : content.length < 2 ^ 64)
    (rest : Bytes) : stringOf major piece (stringBytes major content ++ rest) = some (content, rest) := by
  have low := (argument?_information fits).1
  have expected := expected?_headBytes major fits (content ++ rest)
  unfold stringBytes
  rw [List.append_assoc]
  unfold headBytes at expected ⊢
  rw [List.cons_append] at expected ⊢
  rw [stringOf, if_neg (first_byte major low).2.2.2, expected]
  exact Bytes.takeExact_append content rest

theorem string_stringBytes (major : Major) (levels : Nat) {content : Bytes} (fits : content.length < 2 ^ 64)
    (rest : Bytes) : string major levels (stringBytes major content ++ rest) = some (content, rest) := by
  cases levels <;> exact stringOf_stringBytes major _ fits rest

/-- **A text is read back.** -/
theorem text_textBytes (levels : Nat) {s : String} (fits : s.utf8ByteSize < 2 ^ 64) (rest : Bytes) :
    text levels (textBytes s ++ rest) = some (s, rest) := by
  unfold text textBytes
  rw [string_stringBytes .text levels (show (Bytes.ofText s).length < 2 ^ 64 from fits), Option.bind_some]
  dsimp only
  rw [Bytes.utf8?_ofText]
  rfl

theorem bool_boolBytes (levels : Nat) (b : Bool) (rest : Bytes) :
    bool levels (boolBytes b ++ rest) = some (b, rest) := by
  cases b <;> rfl

/-- **A link is read back.** -/
theorem link_linkBytes (levels : Nat) {cid : Cid} (valid : cid.IsValid) (rest : Bytes) :
    link levels (linkBytes cid ++ rest) = some (cid, rest) := by
  have short := Cid.length_toBytes_le valid
  have whole := Cid.read?_toBytes valid []
  rw [List.append_nil] at whole
  unfold link linkBytes
  rw [List.append_assoc, expected?_headBytes .tag (by decide)]
  dsimp only
  rw [if_pos rfl, string_stringBytes .bytes levels (by rw [List.length_cons]; omega)]
  show (Cid.read? cid.toBytes).map _ = _
  rw [whole]
  rfl

/-! ## Lists and maps -/

open Wire (Field Reading)

/-- Things written one after the other are read back one by one. -/
theorem counted_flatMap {α : Type} {take? : Reader α} {write : α → Bytes} {items : List α}
    (reads : ∀ a ∈ items, ∀ rest, take? (write a ++ rest) = some (a, rest)) (rest : Bytes) :
    Wire.counted take? items.length (items.flatMap write ++ rest) = some (items, rest) := by
  induction items with
  | nil => rfl
  | cons a items ih =>
    rw [List.length_cons, List.flatMap_cons, List.append_assoc, Wire.counted, reads a List.mem_cons_self]
    dsimp only
    rw [ih fun b mem => reads b (List.mem_cons_of_mem a mem)]
    rfl

/-- The item of a list. -/
def listBytes {α : Type} (write : α → Bytes) (items : List α) : Bytes :=
  headBytes .array items.length ++ items.flatMap write

theorem listOf_listBytes {α : Type} {reading : Reading Bytes α} {levels : Nat} {write : α → Bytes} {items : List α}
    (fits : items.length < 2 ^ 64)
    (reads : ∀ a ∈ items, ∀ rest, reading levels (write a ++ rest) = some (a, rest)) (rest : Bytes) :
    Wire.listOf reading (levels + 1) (listBytes write items ++ rest) = some (items, rest) := by
  unfold listBytes
  show (expected? .array _).bind _ = _
  rw [List.append_assoc, expected?_headBytes .array fits, Option.bind_some]
  exact counted_flatMap reads rest

variable {β : Type} {fs : List (Field Bytes β)} {levels : Nat} {seen : List String} {blank b : β}

/-- A text is read back as a field. -/
theorem wireText_textBytes {s : String} (fits : s.utf8ByteSize < 2 ^ 64) (rest : Bytes) :
    (Wire.text : Reading Bytes String) levels (textBytes s ++ rest) = some (s, rest) :=
  text_textBytes levels fits rest

/-- A number of 64 bits is read back as a field. -/
theorem signed_integerBytes {n : Int} (word : IsWord n) (rest : Bytes) :
    (Wire.signed : Reading Bytes Int) levels (integerBytes n ++ rest) = some (n, rest) := by
  show (integer (integerBytes n ++ rest)).bind _ = _
  rw [integer_integerBytes word]
  have inRange : -((Nat.pow 2 63 : Nat) : Int) ≤ n ∧ n < ((Nat.pow 2 63 : Nat) : Int) := word
  show (if _ then some n else none).map _ = _
  rw [if_pos inRange]
  rfl

/-- **One member of a map**: its key is that of a field and new, and its value is read into the structure. -/
theorem members_cons {n : Nat} {f : Field Bytes β} {key : String} {value rest : Bytes} {b' : β}
    (short : key.utf8ByteSize < 2 ^ 64) (field : fs.find? (·.name == key) = some f) (new : seen.contains key = false)
    (read : f.readInto b levels (value ++ rest) = some (b', rest)) :
    Wire.members fs levels (n + 1) seen b (textBytes key ++ (value ++ rest)) =
      Wire.members fs levels n (key :: seen) b' rest := by
  have keyRead : Wire.text? levels (textBytes key ++ (value ++ rest)) = some (key, value ++ rest) :=
    text_textBytes levels short (value ++ rest)
  rw [Wire.members, keyRead]
  dsimp only
  rw [field]
  dsimp only
  rw [new, if_neg Bool.false_ne_true, read]

section

variable {α : Type} {n : Nat} {name key : String} {reading : Reading Bytes α} {put : α → β → β} {a : α}
  {value rest : Bytes}

theorem members_required (short : key.utf8ByteSize < 2 ^ 64)
    (field : fs.find? (·.name == key) = some (Wire.required name reading put)) (new : seen.contains key = false)
    (read : reading levels (value ++ rest) = some (a, rest)) :
    Wire.members fs levels (n + 1) seen b (textBytes key ++ (value ++ rest)) =
      Wire.members fs levels n (key :: seen) (put a b) rest := by
  refine members_cons short field new ?_
  show (reading levels (value ++ rest)).map _ = _
  rw [read]
  rfl

theorem members_defaulted (short : key.utf8ByteSize < 2 ^ 64)
    (field : fs.find? (·.name == key) = some (Wire.defaulted name reading put)) (new : seen.contains key = false)
    (read : reading levels (value ++ rest) = some (a, rest)) :
    Wire.members fs levels (n + 1) seen b (textBytes key ++ (value ++ rest)) =
      Wire.members fs levels n (key :: seen) (put a b) rest := by
  refine members_cons short field new ?_
  show (reading levels (value ++ rest)).map _ = _
  rw [read]
  rfl

end

/-- A map is opened by the number of its members. -/
theorem fields_headBytes {n : Nat} (fits : n < 2 ^ 64) (rest : Bytes) :
    Wire.fields blank fs (levels + 1) (headBytes .map n ++ rest) = Wire.members fs levels n [] blank rest := by
  have opened : Wire.layout? (headBytes .map n ++ rest) = some (Layout.named n, rest) := by
    show (expected? .map _).map _ = _
    rw [expected?_headBytes .map fits]
    rfl
  rw [Wire.fields, opened]

end Cbor

end FeedIndex
