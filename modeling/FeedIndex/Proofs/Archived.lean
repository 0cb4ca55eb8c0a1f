import FeedIndex.Archive
import Mathlib.Algebra.Group.Nat.Defs
import Mathlib.Data.List.Induction
import Mathlib.Tactic.Common

/-!
# Archives as they are written

An archive is written as a header with its length in front and the blocks in their order, each as a section: the
length of the section, the identifier and the bytes. Numbers and identifiers are read back in front of any bytes,
since each says itself where it ends. Of the blocks under one identifier the last one counts.
-/

namespace FeedIndex

/-! ## Numbers -/

namespace Varint

theorem toNat_toUInt8_of_lt {n : Nat} (h : n < 256) : n.toUInt8.toNat = n := by
  rw [Nat.toUInt8, UInt8.toNat_ofNat']
  exact Nat.mod_eq_of_lt h

/-- The last group has no mark. -/
theorem last_group {n : Nat} (h : n < 128) : n.toUInt8 < 128 ∧ n.toUInt8.toNat = n := by
  have byte : n.toUInt8.toNat = n := toNat_toUInt8_of_lt (by omega)
  rw [UInt8.lt_iff_toNat_lt, byte]
  exact ⟨h, rfl⟩

/-- A group that others follow is marked, and keeps seven bits of the number. -/
theorem marked_group (n : Nat) :
    ¬ (n % 128 + 128).toUInt8 < 128 ∧ (n % 128 + 128).toUInt8.toNat - 128 = n % 128 := by
  have byte : (n % 128 + 128).toUInt8.toNat = n % 128 + 128 := toNat_toUInt8_of_lt (by omega)
  rw [UInt8.lt_iff_toNat_lt, byte]
  exact ⟨Nat.not_lt.mpr (Nat.le_add_left 128 _), Nat.add_sub_cancel _ _⟩

theorem encode_of_lt {n : Nat} (h : n < 128) : encode n = [n.toUInt8] := by
  rw [encode, dif_pos h]

theorem encode_of_le {n : Nat} (h : 128 ≤ n) : encode n = (n % 128 + 128).toUInt8 :: encode (n / 128) := by
  rw [encode, dif_neg (Nat.not_lt.mpr h)]

theorem div_lt_pow {count n : Nat} (enough : n < 128 ^ (count + 2)) : n / 128 < 128 ^ (count + 1) := by
  rw [Nat.div_lt_iff_lt_mul (by decide), ← Nat.pow_succ]
  exact enough

/-- The groups of a number are the fewest: the last of several is not zero. -/
theorem minimalGroups?_encode {count n : Nat} (enough : n < 128 ^ (count + 1)) (rest : Bytes) :
    minimalGroups? (count + 1) (encode n ++ rest) = some (n, rest) := by
  induction count generalizing n with
  | zero =>
    obtain ⟨unmarked, byte⟩ := last_group enough
    rw [encode_of_lt enough, List.singleton_append, minimalGroups?, if_pos unmarked, byte]
  | succ count ih =>
    by_cases last : n < 128
    · obtain ⟨unmarked, byte⟩ := last_group last
      rw [encode_of_lt last, List.singleton_append, minimalGroups?, if_pos unmarked, byte]
    · obtain ⟨marked, byte⟩ := marked_group n
      have needed : n / 128 ≠ 0 := by omega
      rw [encode_of_le (Nat.not_lt.mp last), List.cons_append, minimalGroups?, if_neg marked,
        ih (div_lt_pow enough)]
      dsimp only
      rw [if_neg needed, byte, Nat.mod_add_div]

theorem lt_pow_of_lt_bound {n : Nat} (h : n < bound) : n < 128 ^ 10 :=
  Nat.lt_trans h (by decide)

theorem readMinimal?_encode {n : Nat} (h : n < bound) (rest : Bytes) :
    readMinimal? (encode n ++ rest) = some (n, rest) := by
  rw [readMinimal?, maxGroups, minimalGroups?_encode (lt_pow_of_lt_bound h)]
  exact congrArg (fun n => some (n, rest)) (Nat.mod_eq_of_lt h)

theorem length_encode_le {count n : Nat} (enough : n < 128 ^ (count + 1)) : (encode n).length ≤ count + 1 := by
  induction count generalizing n with
  | zero =>
    rw [encode_of_lt enough]
    exact Nat.le_refl 1
  | succ count ih =>
    by_cases last : n < 128
    · rw [encode_of_lt last]
      exact Nat.le_add_left 1 _
    · rw [encode_of_le (Nat.not_lt.mp last), List.length_cons]
      exact Nat.succ_le_succ (ih (div_lt_pow enough))

theorem encode_ne_nil (n : Nat) : encode n ≠ [] := by
  rw [encode]
  split <;> exact List.cons_ne_nil _ _

end Varint

theorem Bytes.takeExact_append (head rest : Bytes) : takeExact head.length (head ++ rest) = some (head, rest) := by
  induction head with
  | nil => rfl
  | cons b bs ih =>
    rw [List.length_cons, List.cons_append, takeExact, ih]
    rfl

/-! ## Identifiers -/

namespace Cid

/-- **IsValid** — an identifier as it can be written: a hash of its length, and numbers of 64 bits. -/
def IsValid : Cid → Prop
  | .v0 digest => digest.length = 32
  | .v1 codec hashCode digest => codec < Varint.bound ∧ hashCode < Varint.bound ∧ digest.length ≤ maxDigest

instance (cid : Cid) : Decidable cid.IsValid := by
  cases cid <;> unfold IsValid <;> infer_instance

/-- An identifier is short. -/
theorem length_toBytes_le {cid : Cid} (valid : cid.IsValid) : cid.toBytes.length ≤ 104 := by
  cases cid with
  | v0 digest =>
    have size : digest.length = 32 := valid
    show digest.length + 1 + 1 ≤ 104
    omega
  | v1 codec hashCode digest =>
    obtain ⟨codecFits, codeFits, short⟩ := valid
    have sizeFits : digest.length < Varint.bound := Nat.lt_of_le_of_lt short (by decide)
    have version := Varint.length_encode_le (Varint.lt_pow_of_lt_bound (n := 1) (by decide))
    have codecLength := Varint.length_encode_le (Varint.lt_pow_of_lt_bound codecFits)
    have codeLength := Varint.length_encode_le (Varint.lt_pow_of_lt_bound codeFits)
    have sizeLength := Varint.length_encode_le (Varint.lt_pow_of_lt_bound sizeFits)
    unfold maxDigest at short
    simp only [toBytes, List.length_append]
    omega

/-- **An identifier is read back**, and nothing after it. -/
theorem read?_toBytes {cid : Cid} (valid : cid.IsValid) (rest : Bytes) :
    read? (cid.toBytes ++ rest) = some (cid, rest) := by
  cases cid with
  | v0 digest =>
    have version : Varint.readMinimal? (0x12 :: 0x20 :: (digest ++ rest)) = some (0x12, 0x20 :: (digest ++ rest)) :=
      rfl
    have codec : Varint.readMinimal? (0x20 :: (digest ++ rest)) = some (0x20, digest ++ rest) := rfl
    have taken : Bytes.takeExact 32 (digest ++ rest) = some (digest, rest) := by
      rw [← show digest.length = 32 from valid]
      exact Bytes.takeExact_append digest rest
    show read? (0x12 :: 0x20 :: (digest ++ rest)) = _
    unfold read?
    rw [version]
    dsimp only [Option.bind_eq_bind, Option.bind_some]
    rw [codec]
    dsimp only [Option.bind_some]
    rw [if_pos ⟨rfl, rfl⟩, taken]
    rfl
  | v1 codec hashCode digest =>
    obtain ⟨codecFits, codeFits, short⟩ := valid
    have sizeFits : digest.length < Varint.bound := Nat.lt_of_le_of_lt short (by decide)
    unfold toBytes read?
    simp only [List.append_assoc]
    rw [Varint.readMinimal?_encode (by decide)]
    dsimp only [Option.bind_eq_bind, Option.bind_some]
    rw [Varint.readMinimal?_encode codecFits]
    dsimp only [Option.bind_some]
    rw [if_neg (fun both => absurd both.1 (by decide)), if_pos rfl, Varint.readMinimal?_encode codeFits]
    dsimp only [Option.bind_some]
    rw [Varint.readMinimal?_encode sizeFits]
    dsimp only [Option.bind_some]
    rw [if_neg (Nat.not_lt.mpr short), Bytes.takeExact_append]
    rfl

end Cid

/-! ## Archives -/

namespace Archive

/-- The bytes of a section. -/
def sectionBytes (entry : Cid × Bytes) : Bytes :=
  Varint.encode (entry.1.toBytes.length + entry.2.length) ++ entry.1.toBytes ++ entry.2

/-- **write** — an archive of blocks in their order, with a header of any bytes. -/
def write (header : Bytes) (blocks : List (Cid × Bytes)) : Bytes :=
  Varint.encode header.length ++ header ++ blocks.flatMap sectionBytes

/-! ## The block of an identifier -/

variable {blocks : List (Cid × Bytes)}

/-- **lastUnder?** — the last block that is written under an identifier. -/
def lastUnder? (cid : Cid) (blocks : List (Cid × Bytes)) : Option Bytes :=
  ((blocks.filter (·.1 = cid)).getLast?).map (·.2)

theorem get?_put (cid : Cid) (block : Bytes) (blocks : Blocks) (other : Cid) :
    (blocks.put cid block).get? other = if other = cid then some block else blocks.get? other := by
  unfold Blocks.get? Blocks.put
  rw [List.find?_append]
  by_cases h : other = cid
  · subst h
    have gone : (blocks.filter (·.1 != other)).find? (·.1 == other) = none := by
      rw [List.find?_eq_none]
      intro entry mem
      have differs := (List.mem_filter.mp mem).2
      simpa using differs
    have found : [(other, block)].find? (·.1 == other) = some (other, block) := by simp
    rw [gone, found, if_pos rfl]
    rfl
  · have kept : (blocks.filter (·.1 != cid)).find? (·.1 == other) = blocks.find? (·.1 == other) := by
      rw [List.find?_filter]
      refine congrArg (List.find? · blocks) (funext fun entry => ?_)
      by_cases found : entry.1 = other
      · simp [found, h]
      · simp [found]
    have absent : [(cid, block)].find? (·.1 == other) = none := by simp [Ne.symm h]
    rw [kept, absent, Option.or_none, if_neg h]

/-- **Of the blocks under one identifier the last one counts.** -/
theorem get?_foldl_put (cid : Cid) (before : Blocks) :
    (blocks.foldl (fun found entry => found.put entry.1 entry.2) before).get? cid =
      (lastUnder? cid blocks).or (before.get? cid) := by
  induction blocks using List.reverseRecOn with
  | nil => rfl
  | append_singleton rest entry ih =>
    rw [List.foldl_append, List.foldl_cons, List.foldl_nil, get?_put, ih]
    unfold lastUnder?
    rw [List.filter_append]
    by_cases h : cid = entry.1
    · simp [h]
    · simp [h, Ne.symm h]

end Archive

end FeedIndex
