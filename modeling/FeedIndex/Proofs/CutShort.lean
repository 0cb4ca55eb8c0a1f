import FeedIndex.Proofs.Tiling

/-!
# Archives that are cut short

The bytes of an archive may end anywhere. If they end behind the header or behind a section, what is left is an
archive of the sections before the cut. Anywhere else they end inside a number, or with less behind a number than it
says, and that shows before an identifier is looked at: the archive is truncated, never wrong in another way, and no
part of a block is taken for the block.
-/

namespace FeedIndex

/-- The first bytes of two parts end inside the first part, or behind it inside the second. -/
theorem Bytes.cut_append {cut head tail : Bytes} (within : cut <+: head ++ tail) :
    (cut <+: head ∧ cut.length < head.length) ∨ ∃ more, cut = head ++ more ∧ more <+: tail := by
  rcases Nat.lt_or_ge cut.length head.length with shorter | longer
  · exact .inl ⟨List.prefix_of_prefix_length_le within (List.prefix_append head tail) (Nat.le_of_lt shorter), shorter⟩
  · obtain ⟨more, rfl⟩ := List.prefix_of_prefix_length_le (List.prefix_append head tail) within longer
    exact .inr ⟨more, rfl, (List.prefix_append_right_inj head).mp within⟩

namespace Varint

variable {size cut : Bytes} {count n : Nat}

/-- Of a number without its end no groups are read, since each that is left says that more follow. -/
theorem groups_cut (ended : Ended size) (short : size.length ≤ count) (within : cut <+: size)
    (shorter : cut.length < size.length) : groups count cut = .error .truncated := by
  induction size generalizing count cut with
  | nil => exact ended.elim
  | cons b bs ih =>
    obtain ⟨count, rfl⟩ := Nat.exists_eq_add_of_le' (Nat.le_trans (Nat.succ_le_succ (Nat.zero_le _)) short)
    cases cut with
    | nil => rfl
    | cons c cs =>
      obtain ⟨rfl, rest⟩ := List.cons_prefix_cons.mp within
      have more : bs ≠ [] := by
        rintro rfl
        exact absurd (Nat.lt_of_succ_lt_succ shorter) (Nat.not_lt_zero _)
      obtain ⟨marked, ended⟩ := (ended_cons more).mp ended
      rw [groups, if_neg (UInt8.not_lt.mpr marked),
        ih ended (Nat.le_of_succ_le_succ short) rest (Nat.lt_of_succ_lt_succ shorter)]
      rfl

theorem Spells.read_cut (spelled : Spells size n) (within : cut <+: size) (shorter : cut.length < size.length) :
    Varint.read cut = .error .truncated := by
  rw [Varint.read, groups_cut spelled.ended spelled.short within shorter]
  rfl

end Varint

namespace Archive

open Varint (Spells)

variable {size body cut bs header : Bytes} {blocks : List (Cid × Bytes)} {n fuel : Nat} {before : Blocks}

/-- **A length with too little behind it is truncated**, and so is a part of a length. -/
theorem length_cut (spelled : Spells size n) (within : cut <+: size ++ body) (shorter : cut.length < size.length + n) :
    length cut = .error .truncated := by
  rcases Bytes.cut_append within with ⟨within, inside⟩ | ⟨more, rfl, -⟩
  · rw [length, spelled.read_cut within inside]
  · rw [List.length_append, Nat.add_lt_add_iff_left] at shorter
    rw [length, spelled.read more]
    exact if_neg (Nat.not_le.mpr shorter)

theorem Tile.Fits.section?_cut {tile : Tile} (fits : tile.Fits) (within : cut <+: tile.bytes)
    (shorter : cut.length < tile.bytes.length) : Archive.section? cut = .error .truncated := by
  rw [Tile.bytes, List.append_assoc] at within shorter
  rw [List.length_append, List.length_append] at shorter
  rw [Archive.section?, length_cut fits.spelled within shorter]

/-- Sections that are cut end behind one of them, or are truncated. -/
theorem sections_cut {tiles : List Tile} (fits : ∀ tile ∈ tiles, tile.Fits) (within : cut <+: tiles.flatMap Tile.bytes)
    (enough : cut.length ≤ fuel) (before : Blocks) :
    (∃ j ≤ tiles.length, cut = (tiles.take j).flatMap Tile.bytes) ∨ sections fuel before cut = .error .truncated := by
  induction tiles generalizing cut fuel before with
  | nil => exact .inl ⟨0, Nat.le_refl 0, List.prefix_nil.mp within⟩
  | cons tile tiles ih =>
    obtain ⟨first, others⟩ := List.forall_mem_cons.mp fits
    by_cases none : cut = []
    · exact .inl ⟨0, Nat.zero_le _, none⟩
    have length_pos : 0 < cut.length := List.length_pos_iff.mpr none
    obtain ⟨fuel, rfl⟩ := Nat.exists_eq_add_of_le' (Nat.le_trans length_pos enough)
    rw [sections_of_ne_nil none]
    -- the cut is inside the first section, or behind it and so in the others
    rcases Bytes.cut_append within with ⟨inside, shorter⟩ | ⟨more, rfl, behind⟩
    · rw [first.section?_cut inside shorter]
      exact .inr rfl
    · rw [first.section?]
      have nonempty : 0 < tile.bytes.length := List.length_pos_iff.mpr first.bytes_ne_nil
      rw [List.length_append] at enough
      rcases ih others behind (show more.length ≤ fuel by omega) (before.put tile.cid tile.block) with
        ⟨j, inside, rfl⟩ | truncated
      · exact .inl ⟨j + 1, Nat.succ_le_succ inside, rfl⟩
      · exact .inr truncated

/-- **An archive that is cut ends behind its header or behind a section, or is truncated.** -/
theorem Tiling.Covers.read_cut {tiling : Tiling} (covers : tiling.Covers bs) (within : cut <+: bs) :
    (∃ j ≤ tiling.tiles.length, { tiling with tiles := tiling.tiles.take j }.Covers cut) ∨
      Archive.read cut = .error .truncated := by
  obtain ⟨size, header, tiles⟩ := tiling
  obtain ⟨spelled, fits, rfl⟩ := covers
  rcases Bytes.cut_append within with ⟨inside, shorter⟩ | ⟨more, rfl, behind⟩
  · rw [List.length_append] at shorter
    rw [Archive.read, length_cut spelled inside shorter]
    exact .inr rfl
  · have lengths : (header ++ more).length = header.length + more.length := List.length_append
    have measured : length (size ++ (header ++ more)) = .ok (header.length, header ++ more) :=
      length_eq_ok_iff.mpr ⟨⟨size, rfl, spelled⟩, lengths ▸ Nat.le_add_right _ _⟩
    rw [Archive.read, List.append_assoc, measured]
    dsimp only
    rw [List.drop_left]
    rcases sections_cut fits behind (lengths ▸ Nat.le_add_left _ _) [] with ⟨j, inside, rfl⟩ | truncated
    · exact .inl ⟨j, inside, spelled, fun tile listed => fits tile (List.mem_of_mem_take listed),
        (List.append_assoc _ _ _).symm⟩
    · exact .inr truncated

/-! ## Archives as they are written -/

theorem write_take_prefix (header : Bytes) (blocks : List (Cid × Bytes)) (j : Nat) :
    write header (blocks.take j) <+: write header blocks := by
  refine ⟨(blocks.drop j).flatMap sectionBytes, ?_⟩
  rw [write, write, List.append_assoc, ← List.flatMap_append, List.take_append_drop]

/-- **An archive that is cut short is read as far as it goes, or is truncated**: if it ends behind its header or
behind a section, the blocks are those before the cut, the last of each identifier; anywhere else, and only there, it
is truncated. -/
theorem read_of_cut (valid : ∀ entry ∈ blocks, entry.1.IsValid) (fits : (write header blocks).length < Varint.bound)
    (within : cut <+: write header blocks) :
    (∀ j ≤ blocks.length, cut.length = (write header (blocks.take j)).length →
      ∃ found, read cut = .ok found ∧ found.Holds (blocks.take j)) ∧
    (read cut = .error .truncated ↔ ∀ j ≤ blocks.length, cut.length ≠ (write header (blocks.take j)).length) := by
  have accepted : ∀ j ≤ blocks.length, cut.length = (write header (blocks.take j)).length →
      ∃ found, read cut = .ok found ∧ found.Holds (blocks.take j) := by
    intro j _ ends
    -- two cuts of one length are the same cut
    have taken := write_take_prefix header blocks j
    obtain rfl := (List.prefix_of_prefix_length_le within taken (Nat.le_of_eq ends)).eq_of_length ends
    have covers : (Tiling.written header (blocks.take j)).Covers (write header (blocks.take j)) :=
      covers_written (fun entry listed => valid entry (List.mem_of_mem_take listed))
        (Nat.lt_of_le_of_lt taken.length_le fits)
    have done := covers.read
    rw [entries_written] at done
    exact done
  refine ⟨accepted, ⟨fun truncated j inside ends => ?_, fun between => ?_⟩⟩
  · obtain ⟨found, done, -⟩ := accepted j inside ends
    rw [done] at truncated
    cases truncated
  · -- a cut that is read is behind a section
    refine ((covers_written valid fits).read_cut within).resolve_left ?_
    rintro ⟨j, inside, covers⟩
    have whole : cut = write header (blocks.take j) := by
      rw [write_eq_tiles, List.map_take]
      exact covers.whole
    rw [Tiling.written, List.length_map] at inside
    exact between j inside (congrArg List.length whole)

end Archive

namespace TornArchive

open Archive (write read)

/-- The identifier of two of the blocks. -/
def cid : Cid := .v1 0x71 Cid.sha256Code (List.replicate 32 1)

/-- The identifier of the empty block. -/
def bare : Cid := .v0 (List.replicate 32 2)

/-- A header whose length takes two groups. -/
def header : Bytes := List.replicate 200 7

def blocks : List (Cid × Bytes) := [(cid, [1, 2, 3]), (bare, []), (cid, [9])]

/-- **One archive in three states**: torn behind its second section, torn inside the third, and whole. -/
theorem torn_and_whole :
    (∀ entry ∈ blocks, entry.1.IsValid) ∧ (write header blocks).length = 315 ∧
      (∃ found, read ((write header blocks).take 277) = .ok found ∧ found.Holds [(cid, [1, 2, 3]), (bare, [])]) ∧
      read ((write header blocks).take 300) = .error .truncated ∧
      ∃ found, read (write header blocks) = .ok found ∧ found.Holds blocks := by
  have valid : ∀ entry ∈ blocks, entry.1.IsValid := by decide
  have length : (write header blocks).length = 315 := by decide +kernel
  have fits : (write header blocks).length < Varint.bound := by rw [length]; decide
  have behind : ((write header blocks).take 277).length = (write header (blocks.take 2)).length := by decide +kernel
  have between : ∀ j ≤ blocks.length,
      ((write header blocks).take 300).length ≠ (write header (blocks.take j)).length := by decide +kernel
  exact ⟨valid, length, (Archive.read_of_cut valid fits (List.take_prefix 277 _)).1 2 (by decide) behind,
    (Archive.read_of_cut valid fits (List.take_prefix 300 _)).2.mpr between,
    (Archive.read_of_cut valid fits (List.prefix_refl _)).1 3 (by decide) rfl⟩

end TornArchive

end FeedIndex
