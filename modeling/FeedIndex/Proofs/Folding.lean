import FeedIndex.Hashtag
import Mathlib.Tactic.Common

/-!
# Folded tags

Folding maps each character on its own. What a hashtag is recognised by — blanks, hashes and digits — is neither a
capital nor the small letter of one, so it stays as it is, and nothing else becomes it. A small letter is no capital:
what has been folded is not changed by folding it again, whichever folding it was. The two foldings differ at the
dotless capital alone, which the Turkish one maps to a letter of its own.
-/

namespace FeedIndex

namespace Text

/-! ## Small letters -/

/-- The first small letter of a run. -/
def CaseRun.least (run : CaseRun) : Nat := (run.first + run.shift).toNat

/-- The last small letter of a run. -/
def CaseRun.most (run : CaseRun) : Nat := (run.last + run.shift).toNat

/-- The small letters of a run are characters. -/
def CaseRun.valid (run : CaseRun) : Bool :=
  0 ≤ run.first + run.shift && (run.most < 0xD800 || 0xDFFF < run.least && run.most < 0x110000)

/-- Neither the capitals nor the small letters of a run are in a range. -/
def CaseRun.apart (run : CaseRun) (range : Nat × Nat) : Bool :=
  (run.last < range.1 || range.2 < run.first) && (run.most < range.1 || range.2 < run.least)

/-- No small letter of a run is a capital of another. Where they are mixed, small letters and capitals take turns. -/
def CaseRun.clears (run other : CaseRun) : Bool :=
  run.most < other.first || other.last < run.least ||
    other.step == 2 && (run.step == 2 || run.first == run.last) && (run.least - other.first) % 2 == 1

theorem valid_caseRuns : caseRuns.all CaseRun.valid = true := by decide +kernel

theorem clears_caseRuns : (caseRuns.all fun run => caseRuns.all run.clears) = true := by decide +kernel

theorem CaseRun.covers_iff {run : CaseRun} {n : Nat} :
    run.covers n = true ↔ (run.first ≤ n ∧ n ≤ run.last) ∧ (n - run.first) % run.step = 0 := by
  simp [covers]

theorem toNat_ofNat {n : Nat} (valid : n.isValidChar) : (Char.ofNat n).toNat = n := by
  rw [Char.ofNat, dif_pos valid]
  rfl

/-- A character is its own lower case, or is a capital of a run whose small letter that is. -/
theorem lower_cases (c : Char) :
    lower c = c ∧ (∀ run ∈ caseRuns, run.covers c.toNat = false) ∨
      ∃ run ∈ caseRuns, run.covers c.toNat = true ∧ ((lower c).toNat : Int) = c.toNat + run.shift := by
  unfold lower
  split
  case h_2 found =>
    refine .inl ⟨rfl, fun run mem => ?_⟩
    simpa using List.find?_eq_none.mp found run mem
  case h_1 run found =>
    have mem := List.mem_of_find?_eq_some found
    have covers : run.covers c.toNat = true := by simpa using List.find?_some found
    refine .inr ⟨run, mem, covers, ?_⟩
    have valid := List.all_eq_true.mp valid_caseRuns run mem
    obtain ⟨⟨first, last⟩, -⟩ := CaseRun.covers_iff.mp covers
    simp only [CaseRun.valid, Bool.and_eq_true, Bool.or_eq_true, decide_eq_true_eq] at valid
    unfold CaseRun.least CaseRun.most at valid
    have character : (c.toNat + run.shift).toNat.isValidChar := by
      unfold Nat.isValidChar
      omega
    rw [toNat_ofNat character]
    omega

/-- **What lies apart from the runs stays**: a character is in such ranges before and after, or never. -/
theorem contains_lower {ranges : Ranges} (apart : (caseRuns.all fun run => ranges.all run.apart) = true) (c : Char) :
    ranges.contains (lower c) = ranges.contains c := by
  rcases lower_cases c with ⟨same, -⟩ | ⟨run, mem, covers, small⟩
  · rw [same]
  · obtain ⟨⟨first, last⟩, -⟩ := CaseRun.covers_iff.mp covers
    have outside (d : Char) (place : run.first ≤ d.toNat ∧ d.toNat ≤ run.last ∨
        run.least ≤ d.toNat ∧ d.toNat ≤ run.most) : ranges.contains d = false := by
      rw [Bool.eq_false_iff]
      intro inside
      obtain ⟨range, inRanges, lo, hi⟩ := Ranges.contains_iff.mp inside
      have off := List.all_eq_true.mp (List.all_eq_true.mp apart run mem) range inRanges
      simp only [CaseRun.apart, Bool.and_eq_true, Bool.or_eq_true, decide_eq_true_eq] at off
      omega
    rw [outside c (.inl ⟨first, last⟩), outside (lower c) (.inr ?_)]
    unfold CaseRun.least CaseRun.most
    omega

/-- **Lower case is final.** -/
theorem lower_lower (c : Char) : lower (lower c) = lower c := by
  rcases lower_cases c with ⟨same, -⟩ | ⟨run, mem, covers, small⟩
  · rw [same, same]
  rcases lower_cases (lower c) with ⟨same, -⟩ | ⟨other, mem', covers', -⟩
  · exact same
  · -- the small letter of a run would be a capital
    exfalso
    have clears := List.all_eq_true.mp (List.all_eq_true.mp clears_caseRuns run mem) other mem'
    obtain ⟨⟨first, last⟩, turn⟩ := CaseRun.covers_iff.mp covers
    obtain ⟨⟨first', last'⟩, turn'⟩ := CaseRun.covers_iff.mp covers'
    simp only [CaseRun.clears, Bool.and_eq_true, Bool.or_eq_true, decide_eq_true_eq, beq_iff_eq] at clears
    unfold CaseRun.least CaseRun.most at clears
    rcases clears with outside | ⟨⟨two', two | single⟩, odd⟩
    · omega
    · rw [two] at turn
      rw [two'] at turn'
      omega
    · rw [two'] at turn'
      omega

end Text

namespace Hashtag

/-! ## Folded characters -/

open Text (Ranges caseRuns CaseRun)

/-- **Unfolded** — no character comes into such ranges, or leaves them, when it is folded. -/
def Unfolded (ranges : Ranges) : Prop :=
  (caseRuns.all fun run => ranges.all run.apart) = true ∧ ['I', 'i', 'İ', 'ı'].any ranges.contains = false

theorem Unfolded.letter {ranges : Ranges} (unfolded : Unfolded ranges) {c : Char} (mem : c ∈ ['I', 'i', 'İ', 'ı']) :
    ranges.contains c = false := by
  simpa using List.any_eq_false.mp unfolded.2 c mem

theorem contains_foldChar {ranges : Ranges} (unfolded : Unfolded ranges) (c : Char) :
    ranges.contains (foldChar c) = ranges.contains c := by
  unfold foldChar
  split
  · next dotted => rw [dotted, unfolded.letter (by simp), unfolded.letter (by simp)]
  · exact Text.contains_lower unfolded.1 c

theorem contains_foldTurkishChar {ranges : Ranges} (unfolded : Unfolded ranges) (c : Char) :
    ranges.contains (foldTurkishChar c) = ranges.contains c := by
  unfold foldTurkishChar
  split
  · next dotless => rw [dotless, unfolded.letter (by simp), unfolded.letter (by simp)]
  · exact contains_foldChar unfolded c

/-- The two hashes as ranges. -/
def hashRanges : Ranges := [(0x23, 0x23), (0xFF03, 0xFF03)]

/-- The digits as a range. -/
def digitRanges : Ranges := [(0x30, 0x39)]

theorem isHash_eq (c : Char) : isHash c = hashRanges.contains c := by
  have half : '#'.toNat = 0x23 := rfl
  have full : '＃'.toNat = 0xFF03 := rfl
  rw [Bool.eq_iff_iff, Ranges.contains_iff]
  simp only [isHash, hashRanges, Bool.or_eq_true, beq_iff_eq, ← Char.toNat_inj, half, full, List.mem_cons,
    List.not_mem_nil, or_false, exists_eq_or_imp, exists_eq_left]
  omega

theorem isDigit_eq (c : Char) : c.isDigit = digitRanges.contains c := by
  rw [Bool.eq_iff_iff, Ranges.contains_iff, Char.isDigit_iff_toNat]
  simp [digitRanges]

theorem isBlank_fold (c : Char) :
    Text.isBlank (foldChar c) = Text.isBlank c ∧ Text.isBlank (foldTurkishChar c) = Text.isBlank c := by
  have unfolded : Unfolded Text.blankRanges := ⟨by decide +kernel, by decide +kernel⟩
  exact ⟨contains_foldChar unfolded c, contains_foldTurkishChar unfolded c⟩

theorem isHash_fold (c : Char) : isHash (foldChar c) = isHash c ∧ isHash (foldTurkishChar c) = isHash c := by
  have unfolded : Unfolded hashRanges := ⟨by decide +kernel, by decide +kernel⟩
  simp only [isHash_eq]
  exact ⟨contains_foldChar unfolded c, contains_foldTurkishChar unfolded c⟩

theorem isDigit_fold (c : Char) :
    (foldChar c).isDigit = c.isDigit ∧ (foldTurkishChar c).isDigit = c.isDigit := by
  have unfolded : Unfolded digitRanges := ⟨by decide +kernel, by decide +kernel⟩
  simp only [isDigit_eq]
  exact ⟨contains_foldChar unfolded c, contains_foldTurkishChar unfolded c⟩

theorem foldChar_foldChar (c : Char) : foldChar (foldChar c) = foldChar c := by
  by_cases dotted : c = 'İ'
  · rw [dotted]
    decide +kernel
  · have apart : (caseRuns.all fun run => [(0x130, 0x130)].all run.apart) = true := by decide +kernel
    -- no small letter is the dotted capital
    have small : Text.lower c ≠ 'İ' := by
      intro dot
      have stays := Text.contains_lower apart c
      rw [dot] at stays
      have inside : Ranges.contains [(0x130, 0x130)] 'İ' = true := rfl
      obtain ⟨range, mem, lo, hi⟩ := Ranges.contains_iff.mp (stays.symm.trans inside)
      obtain rfl := List.mem_singleton.mp mem
      exact dotted (Char.toNat_inj.mp (Nat.le_antisymm hi lo))
    rw [foldChar, foldChar, if_neg dotted, if_neg small, Text.lower_lower]

theorem foldChar_foldTurkishChar (c : Char) : foldChar (foldTurkishChar c) = foldTurkishChar c := by
  unfold foldTurkishChar
  split
  · decide +kernel
  · exact foldChar_foldChar c

/-! ## The letter of Turkish tags -/

/-- Without the dotless small letter, a Turkish folding is the plain one. -/
theorem foldTurkish_eq_fold {tag : List Char} (none : 'ı' ∉ foldTurkish tag) : foldTurkish tag = fold tag := by
  refine List.map_inj_left.mpr fun c mem => ?_
  have other : c ≠ 'I' := by
    rintro rfl
    exact none (List.mem_map.mpr ⟨'I', mem, rfl⟩)
  rw [foldTurkishChar, if_neg other]

end Hashtag

end FeedIndex
