import FeedIndex.Proofs.Tiling
import Mathlib.Algebra.BigOperators.Fin

/-!
# Lengths beyond 64 bits

A length is read exactly as long as it fits into 64 bits. Its groups end with the first byte that has no mark, and at
most ten are taken; bytes that are over before are truncated, and ten marks are too many. The tenth group has room for
one more bit. If it holds more, that is lost, and a smaller number is read where a number that is too large should be
refused: `Exact` says what a reader answers that loses nothing, and `read_exact_iff` when this one answers the same.
-/

namespace FeedIndex

namespace Varint

variable {size bs rest : Bytes} {count n : Nat} {b : UInt8}

/-! ## Bytes without an end -/

theorem groups_eq_truncated_iff :
    groups count bs = .error .truncated ↔ bs.length < count ∧ ∀ b ∈ bs, 128 ≤ b := by
  induction count generalizing bs with
  | zero => exact iff_of_false nofun fun both => Nat.not_lt_zero _ both.1
  | succ count ih =>
    cases bs with
    | nil => exact iff_of_true rfl ⟨Nat.succ_pos count, nofun⟩
    | cons b bs =>
      rw [groups, List.length_cons, Nat.succ_lt_succ_iff, List.forall_mem_cons, and_left_comm, ← ih]
      split
      · next last => exact iff_of_false (by simp) fun both => UInt8.not_lt.mpr both.1 last
      · next marked =>
        rw [and_iff_right (UInt8.not_lt.mp marked)]
        rcases groups count bs with failure | found
        · exact Iff.rfl
        · simp only [Except.map, reduceCtorEq]

theorem groups_eq_tooLong_iff :
    groups count bs = .error .tooLong ↔ count ≤ bs.length ∧ ∀ b ∈ bs.take count, 128 ≤ b := by
  induction count generalizing bs with
  | zero => exact iff_of_true rfl ⟨Nat.zero_le _, nofun⟩
  | succ count ih =>
    cases bs with
    | nil => exact iff_of_false nofun fun both => Nat.not_succ_le_zero count both.1
    | cons b bs =>
      rw [groups, List.length_cons, Nat.succ_le_succ_iff, List.take_succ_cons, List.forall_mem_cons, and_left_comm,
        ← ih]
      split
      · next last => exact iff_of_false (by simp) fun both => UInt8.not_lt.mpr both.1 last
      · next marked =>
        rw [and_iff_right (UInt8.not_lt.mp marked)]
        rcases groups count bs with failure | found
        · exact Iff.rfl
        · simp only [Except.map, reduceCtorEq]

/-! ## What does not fit -/

/-- The number of groups as a sum. -/
theorem value_eq_sum (size : Bytes) : value size = ∑ i : Fin size.length, size[i].toNat % 128 * 128 ^ (i : Nat) := by
  induction size with
  | nil => rfl
  | cons b bs ih =>
    have higher : 128 * value bs = ∑ i : Fin bs.length, bs[i].toNat % 128 * 128 ^ (i + 1 : Nat) := by
      rw [ih, Finset.mul_sum]
      exact Finset.sum_congr rfl fun i _ => by rw [Nat.pow_succ, Nat.mul_left_comm, Nat.mul_comm 128]
    calc value (b :: bs) = b.toNat % 128 + 128 * value bs := rfl
      _ = b.toNat % 128 * 128 ^ 0 + ∑ i : Fin bs.length, bs[i].toNat % 128 * 128 ^ (i + 1 : Nat) := by
        rw [higher, Nat.pow_zero, Nat.mul_one]
      _ = ∑ i : Fin (bs.length + 1), (b :: bs)[i].toNat % 128 * 128 ^ (i : Nat) := by
        rw [Fin.sum_univ_succ]
        rfl

theorem value_lt (size : Bytes) : value size < 128 ^ size.length := by
  induction size with
  | nil => exact Nat.one_pos
  | cons b bs ih =>
    have group : b.toNat % 128 < 128 := Nat.mod_lt _ (by decide)
    show b.toNat % 128 + 128 * value bs < 128 ^ (bs.length + 1)
    rw [Nat.pow_succ]
    omega

theorem value_concat (front : Bytes) (last : UInt8) :
    value (front ++ [last]) = value front + 128 ^ front.length * (last.toNat % 128) := by
  induction front with
  | nil =>
    show last.toNat % 128 + 128 * 0 = 0 + 1 * (last.toNat % 128)
    omega
  | cons b bs ih =>
    show b.toNat % 128 + 128 * value (bs ++ [last]) = b.toNat % 128 + 128 * value bs + 128 ^ (bs.length + 1) * _
    rw [ih, Nat.pow_succ', Nat.mul_add, Nat.mul_assoc, Nat.add_assoc]

/-- Every byte of a number but the last is marked. -/
theorem ended_concat {front : Bytes} {last : UInt8} :
    Ended (front ++ [last]) ↔ (∀ b ∈ front, 128 ≤ b) ∧ last < 128 := by
  induction front with
  | nil => exact (and_iff_right nofun).symm
  | cons b bs ih => rw [List.cons_append, ended_cons (by simp), ih, List.forall_mem_cons, and_assoc]

/-- **Overflows** — nine groups are followed by a last one that holds more than the one bit that still fits. -/
def Overflows (bs : Bytes) : Prop :=
  ∃ front last rest, bs = front ++ last :: rest ∧ front.length = 9 ∧ (∀ b ∈ front, 128 ≤ b) ∧ 2 ≤ last ∧ last < 128

theorem bound_eq : bound = 128 ^ 9 * 2 := by decide

theorem toNat_mod_of_last (last : b < 128) : b.toNat % 128 = b.toNat :=
  Nat.mod_eq_of_lt (UInt8.lt_iff_toNat_lt.mp last)

/-- What overflows begins with a number that has at most ten groups and does not fit. -/
theorem Overflows.large (overflows : Overflows bs) :
    ∃ size rest, bs = size ++ rest ∧ Ended size ∧ size.length ≤ maxGroups ∧ bound ≤ value size := by
  obtain ⟨front, last, rest, rfl, nine, marked, large, unmarked⟩ := overflows
  have short : (front ++ [last]).length ≤ maxGroups := by rw [List.length_append, nine]; exact Nat.le_refl _
  refine ⟨front ++ [last], rest, List.append_cons .., ended_concat.mpr ⟨marked, unmarked⟩, short, ?_⟩
  rw [bound_eq, value_concat, nine, toNat_mod_of_last unmarked]
  exact Nat.le_trans (Nat.mul_le_mul_left _ (UInt8.le_iff_toNat_le.mp large)) (Nat.le_add_left _ _)

/-- A number that is read goes beyond 64 bits exactly if the tenth group overflows. -/
theorem overflows_iff (ended : Ended size) (short : size.length ≤ maxGroups) (rest : Bytes) :
    Overflows (size ++ rest) ↔ bound ≤ value size := by
  constructor
  · intro overflows
    obtain ⟨size', rest', same, ended', short', large⟩ := overflows.large
    -- of the same bytes the same number is read
    obtain ⟨rfl, -, -⟩ := Spells.unique ⟨ended, short, rfl⟩ ⟨ended', short', rfl⟩ same
    exact large
  · intro large
    rw [bound_eq] at large
    obtain ⟨front, last, rfl⟩ := (List.eq_nil_or_concat' size).resolve_left ended.ne_nil
    obtain ⟨marked, unmarked⟩ := ended_concat.mp ended
    have within : front.length ≤ 9 := by rw [List.length_append] at short; exact Nat.le_of_succ_le_succ short
    -- nine groups have no more than 63 bits
    have nine : front.length = 9 := by
      by_contra fewer
      have few : (front ++ [last]).length ≤ 9 := by rw [List.length_append, List.length_singleton]; omega
      have small := Nat.lt_of_lt_of_le (value_lt (front ++ [last])) (Nat.pow_le_pow_right (by decide) few)
      omega
    have low := value_lt front
    rw [value_concat, toNat_mod_of_last unmarked] at large
    rw [nine] at low large
    refine ⟨front, last, rest, (List.append_cons ..).symm, nine, marked, UInt8.le_iff_toNat_le.mpr ?_, unmarked⟩
    show 2 ≤ last.toNat
    omega

/-! ## A reader that loses nothing -/

/-- **Exact** — what a reader answers that loses nothing: the number of the groups if it fits into 64 bits, and that it
is too long if it does not; that the bytes are truncated if they are over before the groups are; that the number is too
long if it does not end within ten groups. -/
inductive Exact : Bytes → Except Failure (Nat × Bytes) → Prop
  | number {size rest : Bytes} (ended : Ended size) (short : size.length ≤ maxGroups) (fits : value size < bound) :
      Exact (size ++ rest) (.ok (value size, rest))
  | large {size rest : Bytes} (ended : Ended size) (short : size.length ≤ maxGroups) (large : bound ≤ value size) :
      Exact (size ++ rest) (.error .tooLong)
  | truncated {bs : Bytes} (few : bs.length < maxGroups) (marked : ∀ b ∈ bs, 128 ≤ b) :
      Exact bs (.error .truncated)
  | endless {bs : Bytes} (many : maxGroups ≤ bs.length) (marked : ∀ b ∈ bs.take maxGroups, 128 ≤ b) :
      Exact bs (.error .tooLong)

theorem read_eq_error_iff {failure : Failure} : read bs = .error failure ↔ groups maxGroups bs = .error failure := by
  rw [read]
  rcases groups maxGroups bs with failure' | found
  · exact Iff.rfl
  · simp only [Except.map, reduceCtorEq]

/-- What overflows is read nevertheless, as what is left of the number. -/
theorem Overflows.read (overflows : Overflows bs) :
    ∃ size rest, bs = size ++ rest ∧ bound ≤ value size ∧ Varint.read bs = .ok (value size % bound, rest) := by
  obtain ⟨size, rest, same, ended, short, large⟩ := overflows.large
  exact ⟨size, rest, same, large, same ▸ Spells.read ⟨ended, short, rfl⟩ rest⟩

theorem exact_read (within : ¬ Overflows bs) : Exact bs (read bs) := by
  rcases outcome : read bs with failure | ⟨n, rest⟩
  · cases failure with
    | truncated =>
      obtain ⟨few, marked⟩ := groups_eq_truncated_iff.mp (read_eq_error_iff.mp outcome)
      exact .truncated few marked
    | tooLong =>
      obtain ⟨many, marked⟩ := groups_eq_tooLong_iff.mp (read_eq_error_iff.mp outcome)
      exact .endless many marked
  · obtain ⟨size, rfl, ended, short, rfl⟩ := read_eq_ok_iff.mp outcome
    rw [overflows_iff ended short, Nat.not_le] at within
    rw [Nat.mod_eq_of_lt within]
    exact .number ended short within

theorem Overflows.not_exact (overflows : Overflows bs) : ¬ Exact bs (Varint.read bs) := by
  obtain ⟨size, rest, rfl, -, done⟩ := overflows.read
  rw [done]
  intro exact_
  generalize same : size ++ rest = bs at *
  generalize outcome : (Except.ok (value size % bound, rest) : Except Failure (Nat × Bytes)) = result at *
  cases exact_ with
  | number ended short fits => exact Nat.not_le.mpr fits ((overflows_iff ended short _).mp overflows)
  | large ended short large => cases outcome
  | truncated few marked => cases outcome
  | endless many marked => cases outcome

/-- **A length is read exactly, but for a tenth group that overflows.** It is read where groups end within ten bytes,
as their sum in 64 bits, and no byte more is taken. It is truncated if the bytes are over before, and too long if ten
groups do not end. That is what a reader answers that loses nothing, unless a tenth group holds more than one bit: then
a smaller number is read. -/
theorem read_exact_iff (bs : Bytes) :
    (∀ n rest, read bs = .ok (n, rest) ↔ ∃ size, bs = size ++ rest ∧ Ended size ∧ size.length ≤ maxGroups ∧
        (∑ i : Fin size.length, size[i].toNat % 128 * 128 ^ (i : Nat)) % bound = n) ∧
      (read bs = .error .truncated ↔ bs.length < maxGroups ∧ ∀ b ∈ bs, 128 ≤ b) ∧
      (read bs = .error .tooLong ↔ maxGroups ≤ bs.length ∧ ∀ b ∈ bs.take maxGroups, 128 ≤ b) ∧
      (Exact bs (read bs) ↔ ¬ Overflows bs) := by
  refine ⟨fun n rest => ?_, read_eq_error_iff.trans groups_eq_truncated_iff,
    read_eq_error_iff.trans groups_eq_tooLong_iff, fun exact_ overflows => overflows.not_exact exact_, exact_read⟩
  rw [read_eq_ok_iff]
  refine exists_congr fun size => and_congr_right fun _ => ?_
  rw [← value_eq_sum]
  exact ⟨fun spelled => ⟨spelled.ended, spelled.short, spelled.value_mod⟩, fun parts => ⟨parts.1, parts.2.1, parts.2.2⟩⟩

end Varint

/-! ### A length of 65 bits -/

namespace TenthGroup

open Varint (Overflows Exact)

/-- The number 2 ^ 64 in ten groups. -/
def size : Bytes := List.replicate 9 0x80 ++ [2]

/-- **A number that is too large is read as zero**, and the archive that begins with it is accepted as one without
header and blocks. -/
theorem too_large_read_as_zero :
    Varint.value size = 2 ^ 64 ∧ Varint.read size = .ok (0, []) ∧ ¬ Exact size (Varint.read size) ∧
      Archive.read size = .ok [] := by
  have marked : ∀ b ∈ List.replicate 9 (0x80 : UInt8), 128 ≤ b := List.forall_mem_replicate.mpr (.inr (by decide))
  have overflows : Overflows size := ⟨_, 2, [], rfl, rfl, marked, by decide, by decide⟩
  exact ⟨by decide, by decide, overflows.not_exact, by decide⟩

end TenthGroup

end FeedIndex
