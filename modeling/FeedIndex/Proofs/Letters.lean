import FeedIndex.Bytes.Radix
import FeedIndex.Proofs.Cbor.Written
import Mathlib.Data.List.Nodup
import Mathlib.Tactic.NormNum

/-!
# Bytes told from their letters

Text that stands for bytes says which bytes they are. In base 32 and base 64 the letters are the groups of the bits,
and the last group is filled up with fewer zeros than a byte has bits, so the zeros are told from the bits. In base 58
the letters are the digits of one number; the length of the bytes it does not say, so bytes are told from each other
where their lengths agree.
-/

namespace FeedIndex.Radix

/-! ## Groups of bits -/

/-- **ofBits** — the number that bits make, the first the most significant. -/
def ofBits (bits : List Bool) : Nat := bits.foldl (fun n b => 2 * n + b.toNat) 0

/-- **spread** — so many bits of a number, the last ones, in their order. -/
def spread : Nat → Nat → List Bool
  | 0, _ => []
  | count + 1, n => spread count (n / 2) ++ [n % 2 == 1]

variable {width count : Nat} {group bs : List Bool}

theorem ofBits_append_singleton (bs : List Bool) (b : Bool) : ofBits (bs ++ [b]) = 2 * ofBits bs + b.toNat := by
  rw [ofBits, List.foldl_append]
  rfl

theorem ofBits_lt (bs : List Bool) : ofBits bs < 2 ^ bs.length := by
  induction bs using List.reverseRecOn with
  | nil => exact Nat.one_pos
  | append_singleton bs b ih =>
    have small : b.toNat < 2 := Bool.toNat_lt b
    rw [ofBits_append_singleton, List.length_append, List.length_singleton, Nat.pow_succ]
    omega

/-- Bits are told from their number and their count. -/
theorem spread_ofBits (bs : List Bool) : spread bs.length (ofBits bs) = bs := by
  induction bs using List.reverseRecOn with
  | nil => rfl
  | append_singleton bs b ih =>
    have half : (2 * ofBits bs + b.toNat) / 2 = ofBits bs := by
      have small : b.toNat < 2 := Bool.toNat_lt b
      omega
    have last : ((2 * ofBits bs + b.toNat) % 2 == 1) = b := by
      rw [Nat.mul_add_mod]
      cases b <;> rfl
    rw [ofBits_append_singleton, List.length_append, List.length_singleton, spread, half, last, ih]

/-- A number is told from its bits, if there are enough of them. -/
theorem ofBits_spread {n : Nat} (fits : n < 2 ^ count) : ofBits (spread count n) = n := by
  induction count generalizing n with
  | zero => exact (Nat.lt_one_iff.mp fits).symm
  | succ count ih =>
    have half : n / 2 < 2 ^ count := by
      rw [Nat.pow_succ] at fits
      omega
    have last : (n % 2 == 1).toNat = n % 2 := by
      rcases Nat.mod_two_eq_zero_or_one n with even | odd
      · rw [even]
        rfl
      · rw [odd]
        rfl
    rw [spread, ofBits_append_singleton, ih half, last, Nat.div_add_mod]

theorem ofBits_append_zeros (bs : List Bool) (k : Nat) :
    ofBits (bs ++ List.replicate k false) = ofBits bs * 2 ^ k := by
  induction k with
  | zero => rw [List.replicate_zero, List.append_nil, Nat.pow_zero, Nat.mul_one]
  | succ k ih =>
    rw [List.replicate_succ', ← List.append_assoc, ofBits_append_singleton, ih, Nat.pow_succ]
    show 2 * (ofBits bs * 2 ^ k) + 0 = _
    ring

/-- A group is worth what it makes filled up with zeros. -/
theorem groupValue_eq_ofBits (width : Nat) (group : List Bool) :
    groupValue width group = ofBits (group ++ List.replicate (width - group.length) false) :=
  (ofBits_append_zeros group _).symm

theorem length_filled (short : group.length ≤ width) :
    (group ++ List.replicate (width - group.length) false).length = width := by
  rw [List.length_append, List.length_replicate, Nat.add_sub_cancel' short]

theorem groupValue_lt (short : group.length ≤ width) : groupValue width group < 2 ^ width := by
  have bounded := ofBits_lt (group ++ List.replicate (width - group.length) false)
  rwa [length_filled short, ← groupValue_eq_ofBits] at bounded

theorem spread_groupValue (short : group.length ≤ width) :
    spread width (groupValue width group) = group ++ List.replicate (width - group.length) false := by
  have told := spread_ofBits (group ++ List.replicate (width - group.length) false)
  rwa [length_filled short, ← groupValue_eq_ofBits] at told

theorem regroup_nil (width count : Nat) : regroup width count [] = [] := by
  cases count <;> rfl

theorem regroup_of_ne_nil (some : bs ≠ []) : regroup width (count + 1) bs =
    groupValue width (bs.take width) :: regroup width count (bs.drop width) := by
  obtain ⟨b, bs, rfl⟩ := List.exists_cons_of_ne_nil some
  rfl

theorem regroup_lt : ∀ value ∈ regroup width count bs, value < 2 ^ width := by
  induction count generalizing bs with
  | zero => exact nofun
  | succ count ih =>
    by_cases none : bs = []
    · rw [none, regroup_nil]
      exact nofun
    · rw [regroup_of_ne_nil none]
      exact List.forall_mem_cons.mpr ⟨groupValue_lt (List.length_take_le _ _), ih⟩

/-- **The bits are told from their groups**, up to fewer zeros behind them than a group has bits. -/
theorem spread_regroup (wide : 0 < width) (enough : bs.length ≤ count) :
    ∃ k < width, (regroup width count bs).flatMap (spread width) = bs ++ List.replicate k false := by
  induction count generalizing bs with
  | zero =>
    rw [List.eq_nil_of_length_eq_zero (Nat.le_zero.mp enough)]
    exact ⟨0, wide, rfl⟩
  | succ count ih =>
    by_cases none : bs = []
    · rw [none, regroup_nil]
      exact ⟨0, wide, rfl⟩
    have length_pos : 0 < bs.length := List.length_pos_iff.mpr none
    rw [regroup_of_ne_nil none, List.flatMap_cons, spread_groupValue (List.length_take_le _ _)]
    rcases Nat.lt_or_ge bs.length width with last | more
    · -- the last group, which is the only one that is filled up
      refine ⟨width - bs.length, Nat.sub_lt wide length_pos, ?_⟩
      rw [List.drop_eq_nil_of_le (Nat.le_of_lt last), regroup_nil, List.flatMap_nil, List.append_nil,
        List.take_of_length_le (Nat.le_of_lt last)]
    · have shorter : (bs.drop width).length ≤ count := by
        rw [List.length_drop]
        omega
      obtain ⟨k, fewer, others⟩ := ih shorter
      refine ⟨k, fewer, ?_⟩
      rw [others, List.length_take_of_le more, Nat.sub_self, List.replicate_zero, List.append_nil,
        ← List.append_assoc, List.take_append_drop]

/-! ## The bits of bytes -/

theorem bitsOfByte_eq_spread (b : UInt8) : bitsOfByte b = spread 8 b.toNat := by
  simp [bitsOfByte, spread, Nat.div_div_eq_div_mul]

theorem bitsOfByte_injective : Function.Injective bitsOfByte := by
  intro b b' same
  have numbers := congrArg ofBits same
  rw [bitsOfByte_eq_spread, bitsOfByte_eq_spread, ofBits_spread b.toNat_lt, ofBits_spread b'.toNat_lt] at numbers
  exact UInt8.toNat_inj.mp numbers

theorem bits_cons (b : UInt8) (bs : Bytes) : bits (b :: bs) = bitsOfByte b ++ bits bs := List.flatMap_cons

theorem length_bits (bs : Bytes) : (bits bs).length = 8 * bs.length := by
  induction bs with
  | nil => rfl
  | cons b bs ih =>
    rw [bits_cons, List.length_append, ih, List.length_cons]
    show 8 + 8 * bs.length = _
    omega

theorem bits_injective : Function.Injective bits := by
  intro bs
  induction bs with
  | nil =>
    intro bs' same
    have lengths := congrArg List.length same
    rw [length_bits, length_bits] at lengths
    exact (List.eq_nil_of_length_eq_zero (by simpa using lengths.symm)).symm
  | cons b bs ih =>
    intro bs' same
    cases bs' with
    | nil => cases same
    | cons b' bs' =>
      rw [bits_cons, bits_cons] at same
      obtain ⟨first, others⟩ := List.append_inj same rfl
      rw [bitsOfByte_injective first, ih others]

/-- Bytes are told from their bits, with fewer zeros behind them than a byte has bits. -/
theorem eq_of_filled {bs bs' : Bytes} {k k' : Nat} (few : k < 8) (few' : k' < 8)
    (same : bits bs ++ List.replicate k false = bits bs' ++ List.replicate k' false) : bs = bs' := by
  have lengths := congrArg List.length same
  simp only [List.length_append, length_bits, List.length_replicate] at lengths
  have aligned : (bits bs).length = (bits bs').length := by
    rw [length_bits, length_bits]
    omega
  exact bits_injective (List.append_inj same aligned).1

/-! ## Letters -/

/-- Numbers are told from their letters, in an alphabet without repeats. -/
theorem idxOf_letters {letters : List Char} (distinct : letters.Nodup) {values : List Nat}
    (inside : ∀ value ∈ values, value < letters.length) :
    (values.map fun i => letters.getD i '?').map letters.idxOf = values := by
  rw [List.map_map]
  conv_rhs => rw [← List.map_id values]
  refine List.map_congr_left fun value listed => ?_
  have bounded := inside value listed
  rw [Function.comp_apply, List.getD_eq_getElem?_getD, List.getElem?_eq_getElem bounded, Option.getD_some,
    distinct.idxOf_getElem, id]

/-- **Bytes are told from their letters.** -/
theorem encode_injective {alphabet : String} (wide : 0 < width) (narrow : width ≤ 8)
    (distinct : alphabet.toList.Nodup) (whole : alphabet.toList.length = 2 ^ width) :
    Function.Injective (encode width alphabet) := by
  intro bs bs' same
  -- from letters to groups, from groups to bits
  have letters := String.ofList_injective same
  have groups := congrArg (List.map alphabet.toList.idxOf) letters
  rw [idxOf_letters distinct (whole ▸ regroup_lt), idxOf_letters distinct (whole ▸ regroup_lt)] at groups
  obtain ⟨k, few, told⟩ := spread_regroup wide (Nat.le_of_eq (length_bits bs))
  obtain ⟨k', few', told'⟩ := spread_regroup wide (Nat.le_of_eq (length_bits bs'))
  rw [groups] at told
  exact eq_of_filled (Nat.lt_of_lt_of_le few narrow) (Nat.lt_of_lt_of_le few' narrow) (told.symm.trans told')

theorem base32_injective : Function.Injective base32 :=
  encode_injective (by decide) (by decide) (by decide) (by decide)

theorem base64_injective : Function.Injective base64 :=
  encode_injective (by decide) (by decide) (by decide) (by decide)

/-! ## Digits -/

theorem digits58_of_ne_zero {n : Nat} (nonzero : n ≠ 0) : digits58 n = n % 58 :: digits58 (n / 58) := by
  rw [digits58, dif_neg nonzero]

theorem digits58_zero : digits58 0 = [] := by
  rw [digits58, dif_pos rfl]

theorem digits58_lt {n : Nat} : ∀ digit ∈ digits58 n, digit < 58 := by
  induction n using Nat.strong_induction_on with
  | _ n ih =>
    by_cases zero : n = 0
    · rw [zero, digits58_zero]
      exact nofun
    · rw [digits58_of_ne_zero zero]
      exact List.forall_mem_cons.mpr ⟨Nat.mod_lt n (by decide), ih (n / 58) (by omega)⟩

theorem digits58_injective : Function.Injective digits58 := by
  intro n
  induction n using Nat.strong_induction_on with
  | _ n ih =>
    intro m same
    by_cases zero : n = 0
    · by_cases zero' : m = 0
      · rw [zero, zero']
      · rw [zero, digits58_zero, digits58_of_ne_zero zero'] at same
        cases same
    · by_cases zero' : m = 0
      · rw [zero', digits58_zero, digits58_of_ne_zero zero] at same
        cases same
      · rw [digits58_of_ne_zero zero, digits58_of_ne_zero zero'] at same
        obtain ⟨first, others⟩ := List.cons.inj same
        have high := ih (n / 58) (by omega) others
        omega

/-- The most significant digit is what is left when all below it are taken off. -/
theorem getLast?_digits58 {k n : Nat} (nonzero : n / 58 ^ k ≠ 0) (last : n / 58 ^ k < 58) :
    (digits58 n).getLast? = some (n / 58 ^ k) := by
  induction k generalizing n with
  | zero =>
    rw [Nat.pow_zero, Nat.div_one] at nonzero last ⊢
    rw [digits58_of_ne_zero nonzero, Nat.div_eq_of_lt last, digits58_zero, Nat.mod_eq_of_lt last]
    rfl
  | succ k ih =>
    have shifted : n / 58 ^ (k + 1) = n / 58 / 58 ^ k := by rw [Nat.pow_succ', Nat.div_div_eq_div_mul]
    rw [shifted] at nonzero last ⊢
    have more := ih nonzero last
    have nonzero : n ≠ 0 := by
      rintro rfl
      exact nonzero (Nat.zero_div _)
    rw [digits58_of_ne_zero nonzero, List.getLast?_cons, more]
    rfl

/-- The digits of base 58. -/
def letters58 : List Char := "123456789ABCDEFGHJKLMNPQRSTUVWXYZabcdefghijkmnopqrstuvwxyz".toList

/-- Where no byte of zero stands in front, the letters are the digits of the number. -/
theorem toList_base58 {b : UInt8} (nonzero : b ≠ 0) (bs : Bytes) : (base58 (b :: bs)).toList =
    (digits58 (Bytes.bigEndian (b :: bs))).reverse.map fun i => letters58.getD i '?' := by
  rw [base58, String.toList_ofList, List.takeWhile_cons_of_neg (by simpa using nonzero)]
  rfl

theorem bigEndian_lt (bs : Bytes) : Bytes.bigEndian bs < 256 ^ bs.length := by
  induction bs with
  | nil => exact Nat.one_pos
  | cons b bs ih =>
    have small : b.toNat < 256 := b.toNat_lt
    rw [Bytes.bigEndian_cons, List.length_cons, Nat.pow_succ]
    calc b.toNat * 256 ^ bs.length + Bytes.bigEndian bs
        < b.toNat * 256 ^ bs.length + 256 ^ bs.length := Nat.add_lt_add_left ih _
      _ = (b.toNat + 1) * 256 ^ bs.length := (Nat.succ_mul _ _).symm
      _ ≤ 256 * 256 ^ bs.length := Nat.mul_le_mul_right _ small
      _ = 256 ^ bs.length * 256 := Nat.mul_comm _ _

/-- Bytes of one length are told from their number. -/
theorem eq_of_bigEndian_eq {bs bs' : Bytes} (lengths : bs.length = bs'.length)
    (same : Bytes.bigEndian bs = Bytes.bigEndian bs') : bs = bs' := by
  induction bs generalizing bs' with
  | nil => exact (List.eq_nil_of_length_eq_zero lengths.symm).symm
  | cons b bs ih =>
    cases bs' with
    | nil => cases lengths
    | cons b' bs' =>
      have lengths : bs.length = bs'.length := Nat.succ.inj lengths
      rw [Bytes.bigEndian_cons, Bytes.bigEndian_cons, ← lengths] at same
      -- the first byte is the number without what the other bytes make
      have high (n : Nat) {low : Nat} (small : low < 256 ^ bs.length) :
          (n * 256 ^ bs.length + low) / 256 ^ bs.length = n := by
        rw [Nat.mul_comm, Nat.mul_add_div (Nat.pow_pos (by decide)), Nat.div_eq_of_lt small, Nat.add_zero]
      have first : b.toNat = b'.toNat := by
        rw [← high b.toNat (bigEndian_lt bs), same, high b'.toNat (lengths ▸ bigEndian_lt bs')]
      rw [first] at same
      rw [UInt8.toNat_inj.mp first, ih lengths (Nat.add_left_cancel same)]

/-- **Bytes of one length are told from their letters in base 58**, if no byte of zero stands in front. -/
theorem eq_of_base58_eq {b b' : UInt8} {bs bs' : Bytes} (nonzero : b ≠ 0) (nonzero' : b' ≠ 0)
    (lengths : bs.length = bs'.length) (same : base58 (b :: bs) = base58 (b' :: bs')) : b :: bs = b' :: bs' := by
  have distinct : letters58.Nodup := by decide
  have inside (n : Nat) : ∀ digit ∈ (digits58 n).reverse, digit < letters58.length := fun digit listed =>
    digits58_lt digit (List.mem_reverse.mp listed)
  have digits := congrArg (fun text : String => text.toList.map letters58.idxOf) same
  simp only [toList_base58 nonzero, toList_base58 nonzero', idxOf_letters distinct (inside _)] at digits
  exact eq_of_bigEndian_eq (congrArg (· + 1) lengths) (digits58_injective (List.reverse_injective digits))

end FeedIndex.Radix

namespace FeedIndex.Cid

/-! ## Identifiers -/

theorem toBytes_injective {cid cid' : Cid} (valid : cid.IsValid) (valid' : cid'.IsValid)
    (same : cid.toBytes = cid'.toBytes) : cid = cid' := by
  have first := read?_toBytes valid []
  rw [same, read?_toBytes valid' []] at first
  cases first
  rfl

/-- The text of a version 0 identifier begins with a letter of its own. -/
theorem head?_text_v0 {digest : Bytes} (whole : digest.length = 32) : (text (.v0 digest)).toList.head? = some 'Q' := by
  -- the two bytes in front leave one choice for the top digit, whatever the digest is
  have small := Radix.bigEndian_lt digest
  have top : Bytes.bigEndian (0x12 :: 0x20 :: digest) / 58 ^ 45 = 23 := by
    rw [Bytes.bigEndian_cons, Bytes.bigEndian_cons, List.length_cons, whole]
    rw [whole] at small
    have low : 23 * 58 ^ 45 ≤ 18 * 256 ^ 33 + 32 * 256 ^ 32 := by norm_num
    have high : 18 * 256 ^ 33 + 32 * 256 ^ 32 + 256 ^ 32 ≤ 24 * 58 ^ 45 := by norm_num
    show (18 * 256 ^ 33 + (32 * 256 ^ 32 + Bytes.bigEndian digest)) / 58 ^ 45 = 23
    rw [← Nat.add_assoc]
    exact Nat.div_eq_of_lt_le (Nat.le_trans low (Nat.le_add_right _ _))
      (Nat.lt_of_lt_of_le (Nat.add_lt_add_left small _) high)
  show (Radix.base58 (0x12 :: 0x20 :: digest)).toList.head? = _
  rw [Radix.toList_base58 (by decide), List.head?_map, List.head?_reverse,
    Radix.getLast?_digits58 (k := 45) (by rw [top]; decide) (by rw [top]; decide), top]
  rfl

theorem head?_text_v1 (codec hashCode : Nat) (digest : Bytes) :
    (text (.v1 codec hashCode digest)).toList.head? = some 'b' := by
  show ("b" ++ Radix.base32 _).toList.head? = _
  rw [String.toList_append]
  rfl

/-- **Identifiers are told from their texts.** -/
theorem text_injective {cid cid' : Cid} (valid : cid.IsValid) (valid' : cid'.IsValid)
    (same : cid.text = cid'.text) : cid = cid' := by
  cases cid with
  | v0 digest =>
    cases cid' with
    | v0 digest' =>
      have lengths : (0x20 :: digest).length = (0x20 :: digest').length := congrArg (· + 1) (valid.trans valid'.symm)
      have bytes : toBytes (.v0 digest) = toBytes (.v0 digest') :=
        Radix.eq_of_base58_eq (by decide) (by decide) lengths same
      exact toBytes_injective valid valid' bytes
    | v1 codec' hashCode' digest' =>
      have letters := congrArg (fun text : String => text.toList.head?) same
      simp only [head?_text_v0 valid, head?_text_v1] at letters
      cases letters
  | v1 codec hashCode digest =>
    cases cid' with
    | v0 digest' =>
      have letters := congrArg (fun text : String => text.toList.head?) same
      simp only [head?_text_v0 valid', head?_text_v1] at letters
      cases letters
    | v1 codec' hashCode' digest' =>
      have letters : Radix.base32 (toBytes (.v1 codec hashCode digest)) =
          Radix.base32 (toBytes (.v1 codec' hashCode' digest')) := by
        have behind := congrArg String.toList same
        simp only [text, String.toList_append] at behind
        exact String.toList_injective (List.append_cancel_left behind)
      exact toBytes_injective valid valid' (Radix.base32_injective letters)

end FeedIndex.Cid
