import FeedIndex.Proofs.Archived

/-!
# How an archive divides

An archive that is accepted divides without gaps: a number and as many bytes of header, then sections, each a number
and so many bytes, which are an identifier and a block. The parts are told from the bytes alone, here without the
readers: `Varint.Spells` for a length, `Cid.Names` for an identifier, `Archive.Tiling` for the whole. There is at
most one such division; where there is one the archive is accepted, and the blocks are those of the sections; where
there is none it is refused. So a block never reaches into another section, whatever its length says.
-/

namespace FeedIndex

/-! ## Numbers -/

namespace Varint

/-- **Ended** — groups that each say that another follows, but for the last. -/
def Ended : Bytes → Prop
  | [] => False
  | [last] => last < 128
  | b :: c :: bs => 128 ≤ b ∧ Ended (c :: bs)

/-- **value** — the sum of the groups, each worth 128 times the one before it. -/
def value (size : Bytes) : Nat := size.foldr (fun b high => b.toNat % 128 + 128 * high) 0

/-- **Shortest** — of the numbers only zero ends in a group of zero. -/
def Shortest (size : Bytes) : Prop := size.getLast? = some 0 → size = [0]

instance (size : Bytes) : Decidable (Shortest size) := by unfold Shortest; infer_instance

/-- **Spells** — bytes of a number: at most ten groups, of which 64 bits count. -/
structure Spells (size : Bytes) (n : Nat) : Prop where
  ended : Ended size
  short : size.length ≤ maxGroups
  value_mod : value size % bound = n

variable {size bs rest : Bytes} {count n : Nat} {b : UInt8}

theorem Ended.ne_nil (ended : Ended size) : size ≠ [] := by
  rintro rfl
  exact ended

theorem ended_cons (more : bs ≠ []) : Ended (b :: bs) ↔ 128 ≤ b ∧ Ended bs := by
  obtain ⟨c, cs, rfl⟩ := List.exists_cons_of_ne_nil more
  exact Iff.rfl

theorem value_singleton (last : b < 128) : value [b] = b.toNat := by
  rw [UInt8.lt_iff_toNat_lt] at last
  exact Nat.mod_eq_of_lt last

theorem value_cons (marked : 128 ≤ b) : value (b :: bs) = b.toNat - 128 + 128 * value bs := by
  rw [UInt8.le_iff_toNat_le] at marked
  have small : b.toNat < 256 := b.toNat_lt
  have group : b.toNat % 128 = b.toNat - 128 := by
    have : (128 : UInt8).toNat = 128 := rfl
    omega
  exact congrArg (· + 128 * value bs) group

/-- **Groups are read to the end of the number**, and no further. -/
theorem groups_append (ended : Ended size) (short : size.length ≤ count) (rest : Bytes) :
    groups count (size ++ rest) = .ok (value size, rest) := by
  induction size generalizing count with
  | nil => exact ended.elim
  | cons b bs ih =>
    obtain ⟨count, rfl⟩ := Nat.exists_eq_add_of_le' (Nat.le_trans (Nat.succ_le_succ (Nat.zero_le _)) short)
    rw [List.cons_append, groups]
    by_cases last : bs = []
    · subst last
      have unmarked : b < 128 := ended
      rw [if_pos unmarked, value_singleton unmarked]
      rfl
    · obtain ⟨marked, ended⟩ := (ended_cons last).mp ended
      rw [if_neg (UInt8.not_lt.mpr marked), ih ended (Nat.le_of_succ_le_succ short), value_cons marked]
      rfl

/-- What groups are read from is a number that ends. -/
theorem ended_of_groups (done : groups count bs = .ok (n, rest)) :
    ∃ size, bs = size ++ rest ∧ size.length ≤ count ∧ Ended size ∧ value size = n := by
  induction count generalizing bs n with
  | zero => exact nomatch done
  | succ count ih =>
    cases bs with
    | nil => exact nomatch done
    | cons b bs =>
      rw [groups] at done
      split at done
      · next unmarked =>
        cases done
        exact ⟨[b], rfl, Nat.succ_le_succ (Nat.zero_le _), unmarked, value_singleton unmarked⟩
      · next marked =>
        rw [UInt8.not_lt] at marked
        rcases others : groups count bs with failure | ⟨high, after⟩
        · rw [others] at done
          cases done
        · rw [others] at done
          cases done
          obtain ⟨size, rfl, short, ended, rfl⟩ := ih others
          exact ⟨b :: size, rfl, Nat.succ_le_succ short, (ended_cons ended.ne_nil).mpr ⟨marked, ended⟩,
            value_cons marked⟩

/-- A length is read in front of any bytes. -/
theorem Spells.read (spelled : Spells size n) (rest : Bytes) : Varint.read (size ++ rest) = .ok (n, rest) := by
  rw [Varint.read, groups_append spelled.ended spelled.short, ← spelled.value_mod]
  rfl

/-- **A length is read exactly where one is spelled.** -/
theorem read_eq_ok_iff : read bs = .ok (n, rest) ↔ ∃ size, bs = size ++ rest ∧ Spells size n := by
  constructor
  · intro done
    rw [read] at done
    rcases found : groups maxGroups bs with failure | ⟨whole, after⟩
    · rw [found] at done
      cases done
    · rw [found] at done
      cases done
      obtain ⟨size, rfl, short, ended, rfl⟩ := ended_of_groups found
      exact ⟨size, rfl, ended, short, rfl⟩
  · rintro ⟨size, rfl, spelled⟩
    exact spelled.read rest

/-- Of one and the same bytes one number is read. -/
theorem Spells.unique {size' rest' : Bytes} {n' : Nat} (spelled : Spells size n) (spelled' : Spells size' n')
    (same : size ++ rest = size' ++ rest') : size = size' ∧ n = n' ∧ rest = rest' := by
  have first := spelled.read rest
  rw [same, spelled'.read rest'] at first
  cases first
  exact ⟨List.append_cancel_right same, rfl, rfl⟩

/-! ## Numbers in the fewest groups -/

theorem shortest_cons (more : bs ≠ []) : Shortest (b :: bs) ↔ bs.getLast? ≠ some 0 := by
  obtain ⟨c, cs, rfl⟩ := List.exists_cons_of_ne_nil more
  rw [Shortest, List.getLast?_cons_cons]
  exact ⟨fun zero last => (nomatch zero last), fun other last => absurd last other⟩

theorem value_ne_zero (ended : Ended size) (needed : size.getLast? ≠ some 0) : value size ≠ 0 := by
  induction size with
  | nil => exact ended.elim
  | cons b bs ih =>
    by_cases last : bs = []
    · subst last
      rw [value_singleton ended]
      exact fun zero => needed (congrArg some (UInt8.toNat_inj.mp zero))
    · obtain ⟨marked, ended⟩ := (ended_cons last).mp ended
      obtain ⟨c, cs, rfl⟩ := List.exists_cons_of_ne_nil last
      rw [List.getLast?_cons_cons] at needed
      have high : value (c :: cs) ≠ 0 := ih ended needed
      rw [value_cons marked]
      omega

theorem minimalGroups?_append (ended : Ended size) (short : size.length ≤ count) (rest : Bytes) :
    minimalGroups? count (size ++ rest) = if Shortest size then some (value size, rest) else none := by
  induction size generalizing count with
  | nil => exact ended.elim
  | cons b bs ih =>
    obtain ⟨count, rfl⟩ := Nat.exists_eq_add_of_le' (Nat.le_trans (Nat.succ_le_succ (Nat.zero_le _)) short)
    rw [List.cons_append, minimalGroups?]
    by_cases last : bs = []
    · subst last
      have unmarked : b < 128 := ended
      have shortest : Shortest [b] := fun zero => congrArg (fun b => [b]) (Option.some.inj zero)
      rw [if_pos unmarked, if_pos shortest, value_singleton unmarked]
      rfl
    · obtain ⟨marked, ended⟩ := (ended_cons last).mp ended
      rw [if_neg (UInt8.not_lt.mpr marked), ih ended (Nat.le_of_succ_le_succ short), value_cons marked]
      by_cases needed : bs.getLast? ≠ some 0
      · have shortest : Shortest bs := fun zero => absurd zero needed
        rw [if_pos ((shortest_cons last).mpr needed), if_pos shortest]
        exact if_neg (value_ne_zero ended needed)
      · rw [if_neg (mt (shortest_cons last).mp needed)]
        -- the group of zero is refused, alone as a value of zero or else further down
        by_cases alone : bs = [0]
        · subst alone
          rfl
        · rw [if_neg fun shortest => alone (shortest (not_not.mp needed))]

theorem groups_of_minimalGroups? (done : minimalGroups? count bs = some (n, rest)) :
    groups count bs = .ok (n, rest) := by
  induction count generalizing bs n with
  | zero => exact nomatch done
  | succ count ih =>
    cases bs with
    | nil => exact nomatch done
    | cons b bs =>
      rw [minimalGroups?] at done
      rw [groups]
      split at done
      · next unmarked =>
        cases done
        rw [if_pos unmarked]
      · next marked =>
        rw [if_neg marked]
        rcases others : minimalGroups? count bs with _ | ⟨high, after⟩
        · rw [others] at done
          cases done
        · rw [others] at done
          dsimp only at done
          split at done
          · cases done
          · cases done
            rw [ih others]
            rfl

/-- **A number of an identifier is read exactly where one is spelled in the fewest groups.** -/
theorem readMinimal?_eq_some_iff :
    readMinimal? bs = some (n, rest) ↔ ∃ size, bs = size ++ rest ∧ Spells size n ∧ Shortest size := by
  constructor
  · intro done
    rw [readMinimal?, Option.map_eq_some_iff] at done
    obtain ⟨⟨whole, after⟩, found, same⟩ := done
    cases same
    obtain ⟨size, rfl, short, ended, rfl⟩ := ended_of_groups (groups_of_minimalGroups? found)
    rw [minimalGroups?_append ended short] at found
    refine ⟨size, rfl, ⟨ended, short, rfl⟩, ?_⟩
    by_contra needless
    rw [if_neg needless] at found
    cases found
  · rintro ⟨size, rfl, spelled, shortest⟩
    rw [readMinimal?, minimalGroups?_append spelled.ended spelled.short, if_pos shortest, ← spelled.value_mod]
    rfl

/-- A number that is written spells itself. -/
theorem spells_encode (fits : n < bound) : Spells (encode n) n ∧ Shortest (encode n) := by
  obtain ⟨size, same, spelled⟩ := readMinimal?_eq_some_iff.mp (readMinimal?_encode fits [])
  rw [List.append_cancel_right same]
  exact spelled

end Varint

theorem Bytes.takeExact_eq_some_iff {n : Nat} {bs head rest : Bytes} :
    takeExact n bs = some (head, rest) ↔ bs = head ++ rest ∧ head.length = n := by
  refine ⟨takeExact_eq_some, ?_⟩
  rintro ⟨rfl, rfl⟩
  exact takeExact_append head rest

/-! ## Identifiers -/

namespace Cid

open Varint (Spells Shortest)

/-- **Names** — bytes of an identifier: the numbers in front in their fewest groups, and a digest of the length that
the version or the last of the numbers says. -/
inductive Names : Bytes → Cid → Prop
  | v0 {hash size digest : Bytes} (hashSpelled : Spells hash 0x12 ∧ Shortest hash)
      (sizeSpelled : Spells size 0x20 ∧ Shortest size) (whole : digest.length = 32) :
      Names (hash ++ size ++ digest) (.v0 digest)
  | v1 {version codec hash size digest : Bytes} {codecNumber hashNumber : Nat}
      (versionSpelled : Spells version 1 ∧ Shortest version) (codecSpelled : Spells codec codecNumber ∧ Shortest codec)
      (hashSpelled : Spells hash hashNumber ∧ Shortest hash)
      (sizeSpelled : Spells size digest.length ∧ Shortest size) (short : digest.length ≤ maxDigest) :
      Names (version ++ codec ++ hash ++ size ++ digest) (.v1 codecNumber hashNumber digest)

variable {bs rest name : Bytes} {cid : Cid}

/-- An identifier is read in front of any bytes. -/
theorem Names.read? (names : Names name cid) (rest : Bytes) : Cid.read? (name ++ rest) = some (cid, rest) := by
  unfold Cid.read?
  cases names with
  | v0 hashSpelled sizeSpelled whole =>
    simp only [List.append_assoc]
    rw [Varint.readMinimal?_eq_some_iff.mpr ⟨_, rfl, hashSpelled⟩]
    dsimp only [Option.bind_eq_bind, Option.bind_some]
    rw [Varint.readMinimal?_eq_some_iff.mpr ⟨_, rfl, sizeSpelled⟩]
    dsimp only [Option.bind_some]
    rw [if_pos ⟨rfl, rfl⟩, Bytes.takeExact_eq_some_iff.mpr ⟨rfl, whole⟩]
    rfl
  | v1 versionSpelled codecSpelled hashSpelled sizeSpelled short =>
    simp only [List.append_assoc]
    rw [Varint.readMinimal?_eq_some_iff.mpr ⟨_, rfl, versionSpelled⟩]
    dsimp only [Option.bind_eq_bind, Option.bind_some]
    rw [Varint.readMinimal?_eq_some_iff.mpr ⟨_, rfl, codecSpelled⟩]
    dsimp only [Option.bind_some]
    rw [if_neg (fun both => absurd both.1 (by decide)), if_pos rfl,
      Varint.readMinimal?_eq_some_iff.mpr ⟨_, rfl, hashSpelled⟩]
    dsimp only [Option.bind_some]
    rw [Varint.readMinimal?_eq_some_iff.mpr ⟨_, rfl, sizeSpelled⟩]
    dsimp only [Option.bind_some]
    rw [if_neg (Nat.not_lt.mpr short), Bytes.takeExact_append]
    rfl

/-- What an identifier is read from names it. -/
theorem names_of_read? (done : Cid.read? bs = some (cid, rest)) : ∃ name, bs = name ++ rest ∧ Names name cid := by
  simp only [Cid.read?, Option.bind_eq_bind, Option.bind_eq_some_iff, Prod.exists] at done
  obtain ⟨version, afterVersion, versionRead, codec, afterCodec, codecRead, done⟩ := done
  obtain ⟨versionBytes, rfl, versionSpelled⟩ := Varint.readMinimal?_eq_some_iff.mp versionRead
  obtain ⟨codecBytes, rfl, codecSpelled⟩ := Varint.readMinimal?_eq_some_iff.mp codecRead
  split at done
  · next both =>
    obtain ⟨rfl, rfl⟩ := both
    simp only [Option.bind_eq_some_iff, Prod.exists] at done
    obtain ⟨digest, afterDigest, taken, same⟩ := done
    cases same
    obtain ⟨rfl, whole⟩ := Bytes.takeExact_eq_some_iff.mp taken
    exact ⟨_, by simp only [List.append_assoc], .v0 versionSpelled codecSpelled whole⟩
  · split at done
    · next first =>
      subst first
      simp only [Option.bind_eq_some_iff, Prod.exists] at done
      obtain ⟨hash, afterHash, hashRead, size, afterSize, sizeRead, done⟩ := done
      obtain ⟨hashBytes, rfl, hashSpelled⟩ := Varint.readMinimal?_eq_some_iff.mp hashRead
      obtain ⟨sizeBytes, rfl, sizeSpelled⟩ := Varint.readMinimal?_eq_some_iff.mp sizeRead
      split at done
      · cases done
      · next short =>
        simp only [Option.bind_eq_some_iff, Prod.exists] at done
        obtain ⟨digest, afterDigest, taken, same⟩ := done
        cases same
        obtain ⟨rfl, rfl⟩ := Bytes.takeExact_eq_some_iff.mp taken
        exact ⟨_, by simp only [List.append_assoc],
          .v1 versionSpelled codecSpelled hashSpelled sizeSpelled (Nat.not_lt.mp short)⟩
    · cases done

/-- An identifier that is written names itself. -/
theorem names_toBytes (valid : cid.IsValid) : Names cid.toBytes cid := by
  obtain ⟨name, same, names⟩ := names_of_read? (read?_toBytes valid [])
  rw [List.append_cancel_right same]
  exact names

/-- Of one and the same bytes one identifier is read. -/
theorem Names.unique {name' rest' : Bytes} {cid' : Cid} (names : Names name cid) (names' : Names name' cid')
    (same : name ++ rest = name' ++ rest') : name = name' ∧ cid = cid' ∧ rest = rest' := by
  have first := names.read? rest
  rw [same, names'.read? rest'] at first
  cases first
  exact ⟨List.append_cancel_right same, rfl, rfl⟩

end Cid

/-! ## Sections -/

namespace Archive

open Varint (Spells)
open Cid (Names)

variable {bs body rest : Bytes} {entry : Cid × Bytes} {fuel n : Nat} {before found : Blocks}

/-- **A length is taken exactly where one is spelled that does not go past the end.** -/
theorem length_eq_ok_iff :
    length bs = .ok (n, body) ↔ (∃ size, bs = size ++ body ∧ Spells size n) ∧ n ≤ body.length := by
  rw [length, ← Varint.read_eq_ok_iff]
  rcases Varint.read bs with failure | ⟨m, after⟩
  · cases failure <;> exact iff_of_false nofun nofun
  · dsimp only
    split
    · next inside =>
      refine ⟨fun same => ?_, fun both => congrArg Except.ok (Except.ok.inj both.1)⟩
      cases same
      exact ⟨rfl, inside⟩
    · next outside =>
      refine iff_of_false nofun ?_
      rintro ⟨same, inside⟩
      cases same
      exact outside inside

/-- **Tile** — a section as it lies in an archive: the bytes of its length, those of its identifier, and its block. -/
structure Tile where
  size : Bytes
  name : Bytes
  cid : Cid
  block : Bytes

/-- The bytes of a section. -/
def Tile.bytes (tile : Tile) : Bytes := tile.size ++ tile.name ++ tile.block

/-- What a section says: its block under its identifier. -/
def Tile.content (tile : Tile) : Cid × Bytes := (tile.cid, tile.block)

/-- **Fits** — the length is that of identifier and block together. -/
structure Tile.Fits (tile : Tile) : Prop where
  spelled : Spells tile.size (tile.name.length + tile.block.length)
  named : Names tile.name tile.cid

/-- A section that is spelled and named is taken apart at its identifier, if that ends inside it. -/
theorem section?_of_names {size name after : Bytes} {cid : Cid} (spelled : Spells size n) (named : Names name cid)
    (inside : n ≤ (name ++ after).length) : section? (size ++ (name ++ after)) =
      if name.length ≤ n then .ok ((cid, after.take (n - name.length)), after.drop (n - name.length))
      else .error .truncated := by
  rw [section?, length_eq_ok_iff.mpr ⟨⟨size, rfl, spelled⟩, inside⟩]
  dsimp only
  rw [named.read? after]
  dsimp only
  rw [List.length_append, Nat.add_sub_cancel]
  split
  · next reaches => rw [List.drop_append, List.drop_eq_nil_of_le reaches, List.nil_append]
  · rfl

/-- A section that fits is read in front of any bytes. -/
theorem Tile.Fits.section? {tile : Tile} (fits : tile.Fits) (rest : Bytes) :
    Archive.section? (tile.bytes ++ rest) = .ok (tile.content, rest) := by
  obtain ⟨size, name, cid, block⟩ := tile
  obtain ⟨spelled, named⟩ := fits
  have inside : name.length + block.length ≤ (name ++ (block ++ rest)).length := by
    simp only [List.length_append]
    omega
  have apart := section?_of_names spelled named inside
  rw [if_pos (Nat.le_add_right _ _), Nat.add_sub_cancel_left, List.take_left, List.drop_left] at apart
  simp only [Tile.bytes, List.append_assoc]
  exact apart

/-- What a section is read from is one that fits. -/
theorem tile_of_section? (done : Archive.section? bs = .ok (entry, rest)) :
    ∃ tile : Tile, bs = tile.bytes ++ rest ∧ tile.Fits ∧ tile.content = entry := by
  rcases measured : length bs with failure | ⟨n, body⟩
  · rw [Archive.section?, measured] at done
    cases done
  rcases identified : Cid.read? body with _ | ⟨cid, after⟩
  · rw [Archive.section?, measured] at done
    dsimp only at done
    rw [identified] at done
    cases done
  obtain ⟨⟨size, rfl, spelled⟩, inside⟩ := length_eq_ok_iff.mp measured
  obtain ⟨name, rfl, named⟩ := Cid.names_of_read? identified
  rw [section?_of_names spelled named inside] at done
  split at done
  · next reaches =>
    -- what is left of the section behind its identifier is the block; what is left of the archive is not looked at
    cases done
    rw [List.length_append] at inside
    have blockLength : (after.take (n - name.length)).length = n - name.length :=
      List.length_take_of_le (Nat.sub_le_of_le_add (Nat.add_comm _ _ ▸ inside))
    refine ⟨⟨size, name, cid, after.take (n - name.length)⟩, ?_, ⟨?_, named⟩, rfl⟩
    · simp only [Tile.bytes, List.append_assoc, List.take_append_drop]
    · rw [blockLength, Nat.add_sub_cancel' reaches]
      exact spelled
  · cases done

/-! ## Archives -/

/-- **Holds** — blocks that hold under each identifier the last of the entries with it, and nothing else. -/
structure Blocks.Holds (found : Blocks) (entries : List (Cid × Bytes)) : Prop where
  distinct : (found.map (·.1)).Nodup
  last : ∀ cid, found.get? cid = lastUnder? cid entries

/-- **collect** — the entries put in one after the other. -/
def collect (before : Blocks) (entries : List (Cid × Bytes)) : Blocks :=
  entries.foldl (fun found entry => found.put entry.1 entry.2) before

theorem nodup_put (distinct : (before.map (·.1)).Nodup) (cid : Cid) (block : Bytes) :
    ((before.put cid block).map (·.1)).Nodup := by
  rw [Blocks.put, List.map_append, List.nodup_append]
  refine ⟨(List.filter_sublist.map _).nodup distinct, List.pairwise_singleton _ _, ?_⟩
  rintro kept listed other last rfl
  obtain ⟨entry, passed, rfl⟩ := List.mem_map.mp listed
  obtain rfl := List.mem_singleton.mp last
  exact absurd rfl (bne_iff_ne.mp (List.mem_filter.mp passed).2)

theorem nodup_collect (entries : List (Cid × Bytes)) {before : Blocks} (distinct : (before.map (·.1)).Nodup) :
    ((collect before entries).map (·.1)).Nodup := by
  induction entries generalizing before with
  | nil => exact distinct
  | cons entry entries ih => exact ih (nodup_put distinct entry.1 entry.2)

/-- **Entries that are collected are held.** -/
theorem holds_collect (entries : List (Cid × Bytes)) : (collect [] entries).Holds entries :=
  ⟨nodup_collect entries List.nodup_nil, fun cid => (get?_foldl_put cid []).trans (Option.or_none)⟩

theorem Tile.Fits.bytes_ne_nil {tile : Tile} (fits : tile.Fits) : tile.bytes ≠ [] := by
  simp [Tile.bytes, fits.spelled.ended.ne_nil]

theorem sections_nil (fuel : Nat) (before : Blocks) : sections fuel before [] = .ok before := by
  rw [sections]

theorem sections_of_ne_nil (some : bs ≠ []) (fuel : Nat) (before : Blocks) : sections (fuel + 1) before bs =
    match section? bs with
    | .error failure => .error failure
    | .ok (entry, rest) => sections fuel (before.put entry.1 entry.2) rest := by
  obtain ⟨b, bs, rfl⟩ := List.exists_cons_of_ne_nil some
  rw [sections]
  · rcases section? (b :: bs) with failure | ⟨entry, rest⟩ <;> rfl
  · exact List.cons_ne_nil b bs

/-- Sections that fit are read to the end. -/
theorem sections_tiles {tiles : List Tile} (fits : ∀ tile ∈ tiles, tile.Fits)
    (enough : (tiles.flatMap Tile.bytes).length ≤ fuel) (before : Blocks) :
    sections fuel before (tiles.flatMap Tile.bytes) = .ok (collect before (tiles.map Tile.content)) := by
  induction tiles generalizing fuel before with
  | nil => exact sections_nil fuel before
  | cons tile tiles ih =>
    obtain ⟨first, others⟩ := List.forall_mem_cons.mp fits
    have nonempty : 0 < tile.bytes.length := List.length_pos_iff.mpr first.bytes_ne_nil
    rw [List.flatMap_cons] at enough ⊢
    rw [List.length_append] at enough
    obtain ⟨fuel, rfl⟩ := Nat.exists_eq_add_of_le' (show 1 ≤ fuel by omega)
    rw [sections_of_ne_nil (List.append_ne_nil_of_left_ne_nil first.bytes_ne_nil _), first.section?]
    exact ih others (by omega) _

/-- What sections are read from is sections that fit. -/
theorem tiles_of_sections (done : sections fuel before bs = .ok found) : ∃ tiles : List Tile,
    bs = tiles.flatMap Tile.bytes ∧ (∀ tile ∈ tiles, tile.Fits) ∧ collect before (tiles.map Tile.content) = found := by
  induction fuel generalizing before bs with
  | zero =>
    cases bs with
    | nil =>
      cases done
      exact ⟨[], rfl, nofun, rfl⟩
    | cons b bs => cases done
  | succ fuel ih =>
    by_cases empty : bs = []
    · subst empty
      cases done
      exact ⟨[], rfl, nofun, rfl⟩
    · rw [sections_of_ne_nil empty] at done
      rcases first : section? bs with failure | ⟨entry, rest⟩
      · rw [first] at done
        cases done
      · rw [first] at done
        obtain ⟨tile, rfl, fits, rfl⟩ := tile_of_section? first
        obtain ⟨tiles, rfl, others, rfl⟩ := ih done
        exact ⟨tile :: tiles, rfl, List.forall_mem_cons.mpr ⟨fits, others⟩, rfl⟩

/-! ## Divisions -/

/-- **Tiling** — a division of an archive: the bytes of the header's length, the header, and the sections. -/
structure Tiling where
  size : Bytes
  header : Bytes
  tiles : List Tile

/-- What the sections of a division say, in their order. -/
def Tiling.entries (tiling : Tiling) : List (Cid × Bytes) := tiling.tiles.map Tile.content

/-- **Covers** — the parts fit, and make up the bytes with nothing left over. -/
structure Tiling.Covers (tiling : Tiling) (bs : Bytes) : Prop where
  spelled : Spells tiling.size tiling.header.length
  fits : ∀ tile ∈ tiling.tiles, tile.Fits
  whole : bs = tiling.size ++ tiling.header ++ tiling.tiles.flatMap Tile.bytes

/-- **An archive is read exactly where it divides.** -/
theorem read_eq_ok_iff :
    read bs = .ok found ↔ ∃ tiling : Tiling, tiling.Covers bs ∧ collect [] tiling.entries = found := by
  constructor
  · intro done
    rw [read] at done
    rcases measured : length bs with failure | ⟨n, body⟩
    · rw [measured] at done
      cases done
    · rw [measured] at done
      obtain ⟨⟨size, rfl, spelled⟩, inside⟩ := length_eq_ok_iff.mp measured
      obtain ⟨tiles, behind, fits, rfl⟩ := tiles_of_sections done
      refine ⟨⟨size, body.take n, tiles⟩, ⟨?_, fits, ?_⟩, rfl⟩
      · rw [List.length_take_of_le inside]
        exact spelled
      · rw [← behind, List.append_assoc, List.take_append_drop]
  · rintro ⟨⟨size, header, tiles⟩, ⟨spelled, fits, rfl⟩, rfl⟩
    have lengths : (header ++ tiles.flatMap Tile.bytes).length = header.length + (tiles.flatMap Tile.bytes).length :=
      List.length_append
    have inside : header.length ≤ (header ++ tiles.flatMap Tile.bytes).length := lengths ▸ Nat.le_add_right _ _
    rw [read, List.append_assoc, length_eq_ok_iff.mpr ⟨⟨size, rfl, spelled⟩, inside⟩]
    dsimp only
    rw [List.drop_left]
    exact sections_tiles fits (lengths ▸ Nat.le_add_left _ _) []

/-- An archive that divides is read, and its blocks are those of the sections. -/
theorem Tiling.Covers.read {tiling : Tiling} (covers : tiling.Covers bs) :
    ∃ found, Archive.read bs = .ok found ∧ found.Holds tiling.entries :=
  ⟨_, read_eq_ok_iff.mpr ⟨tiling, covers, rfl⟩, holds_collect tiling.entries⟩

/-- Sections that fit in the same bytes are the same. -/
theorem Tile.Fits.unique {tile tile' : Tile} {rest' : Bytes} (fits : tile.Fits) (fits' : tile'.Fits)
    (same : tile.bytes ++ rest = tile'.bytes ++ rest') : tile = tile' ∧ rest = rest' := by
  obtain ⟨size, name, cid, block⟩ := tile
  obtain ⟨size', name', cid', block'⟩ := tile'
  simp only [Tile.bytes, List.append_assoc] at same
  obtain ⟨rfl, lengths, bodies⟩ := fits.spelled.unique fits'.spelled same
  obtain ⟨rfl, rfl, blocks⟩ := fits.named.unique fits'.named bodies
  obtain ⟨rfl, rfl⟩ := List.append_inj blocks (Nat.add_left_cancel lengths)
  exact ⟨rfl, rfl⟩

theorem tiles_unique {tiles tiles' : List Tile} (fits : ∀ tile ∈ tiles, tile.Fits)
    (fits' : ∀ tile ∈ tiles', tile.Fits) (same : tiles.flatMap Tile.bytes = tiles'.flatMap Tile.bytes) :
    tiles = tiles' := by
  induction tiles generalizing tiles' with
  | nil =>
    cases tiles' with
    | nil => rfl
    | cons tile' tiles' =>
      exact absurd (List.append_eq_nil_iff.mp same.symm).1 (fits' tile' List.mem_cons_self).bytes_ne_nil
  | cons tile tiles ih =>
    obtain ⟨first, others⟩ := List.forall_mem_cons.mp fits
    cases tiles' with
    | nil => exact absurd (List.append_eq_nil_iff.mp same).1 first.bytes_ne_nil
    | cons tile' tiles' =>
      obtain ⟨first', others'⟩ := List.forall_mem_cons.mp fits'
      obtain ⟨rfl, behind⟩ := first.unique first' same
      rw [ih others others' behind]

/-- **Bytes divide in one way at most.** -/
theorem Tiling.Covers.unique {tiling tiling' : Tiling} (covers : tiling.Covers bs) (covers' : tiling'.Covers bs) :
    tiling = tiling' := by
  -- part by part from the front: each part says itself where it ends
  obtain ⟨size, header, tiles⟩ := tiling
  obtain ⟨size', header', tiles'⟩ := tiling'
  have same := covers.whole.symm.trans covers'.whole
  simp only [List.append_assoc] at same
  obtain ⟨rfl, lengths, bodies⟩ := covers.spelled.unique covers'.spelled same
  obtain ⟨rfl, behind⟩ := List.append_inj bodies lengths
  exact congrArg (Tiling.mk size header) (tiles_unique covers.fits covers'.fits behind)

/-! ## Archives as they are written -/

variable {header : Bytes} {blocks : List (Cid × Bytes)}

/-- The section of an entry as it is written. -/
def Tile.written (entry : Cid × Bytes) : Tile :=
  ⟨Varint.encode (entry.1.toBytes.length + entry.2.length), entry.1.toBytes, entry.1, entry.2⟩

/-- The division of an archive as it is written. -/
def Tiling.written (header : Bytes) (blocks : List (Cid × Bytes)) : Tiling :=
  ⟨Varint.encode header.length, header, blocks.map Tile.written⟩

theorem write_eq_tiles (header : Bytes) (blocks : List (Cid × Bytes)) : write header blocks =
    Varint.encode header.length ++ header ++ (blocks.map Tile.written).flatMap Tile.bytes := by
  rw [List.flatMap_map]
  rfl

theorem entries_written (header : Bytes) (blocks : List (Cid × Bytes)) :
    (Tiling.written header blocks).entries = blocks := by
  rw [Tiling.entries, Tiling.written, List.map_map]
  exact List.map_id blocks

theorem Tile.fits_written {entry : Cid × Bytes} (valid : entry.1.IsValid)
    (fits : (sectionBytes entry).length < Varint.bound) : (written entry).Fits := by
  refine ⟨(Varint.spells_encode ?_).1, Cid.names_toBytes valid⟩
  simp only [sectionBytes, List.length_append] at fits
  omega

theorem length_sectionBytes_le {entry : Cid × Bytes} (listed : entry ∈ blocks) :
    (sectionBytes entry).length ≤ (blocks.flatMap sectionBytes).length := by
  obtain ⟨front, back, rfl⟩ := List.append_of_mem listed
  simp only [List.flatMap_append, List.flatMap_cons, List.length_append]
  omega

/-- **An archive that is written divides as it was written.** -/
theorem covers_written (valid : ∀ entry ∈ blocks, entry.1.IsValid)
    (fits : (write header blocks).length < Varint.bound) :
    (Tiling.written header blocks).Covers (write header blocks) := by
  simp only [write, List.length_append] at fits
  refine ⟨(Varint.spells_encode (by omega)).1, fun tile listed => ?_, write_eq_tiles header blocks⟩
  obtain ⟨entry, written, rfl⟩ := List.mem_map.mp listed
  have inside := length_sectionBytes_le written
  exact Tile.fits_written (valid entry written) (by omega)

/-- **An archive is read back**: its blocks, put in one after the other. -/
theorem read_write (valid : ∀ entry ∈ blocks, entry.1.IsValid) (fits : (write header blocks).length < Varint.bound) :
    read (write header blocks) = .ok (blocks.foldl (fun found entry => found.put entry.1 entry.2) []) := by
  refine read_eq_ok_iff.mpr ⟨Tiling.written header blocks, covers_written valid fits, ?_⟩
  rw [entries_written]
  rfl

/-! ## Archives that are accepted -/

/-- **Archives that are accepted divide exactly**: where one is read its bytes divide in one way into a header and
sections, and the blocks are those that the sections say, the last of each identifier; where none is read, the bytes
do not divide at all. -/
theorem accepted_iff_tiled (bs : Bytes) :
    match read bs with
    | .ok found => (∃! tiling : Tiling, tiling.Covers bs) ∧
        ∀ tiling : Tiling, tiling.Covers bs → found.Holds tiling.entries
    | .error _ => ∀ tiling : Tiling, ¬ tiling.Covers bs := by
  rcases outcome : read bs with failure | found
  · intro tiling covers
    rw [read_eq_ok_iff.mpr ⟨tiling, covers, rfl⟩] at outcome
    cases outcome
  · obtain ⟨tiling, covers, rfl⟩ := read_eq_ok_iff.mp outcome
    refine ⟨⟨tiling, covers, fun other covers' => covers'.unique covers⟩, fun other covers' => ?_⟩
    rw [covers'.unique covers]
    exact holds_collect tiling.entries

/-- The identifier may not run past its section, even where the archive has more bytes. -/
example : read (0 :: 33 :: 0x12 :: 0x20 :: List.replicate 40 0) = .error .truncated := by decide

/-- A length may have more groups than it needs. -/
example : read (0x80 :: 0 :: 0xA2 :: 0 :: 0x12 :: 0x20 :: List.replicate 32 0) =
    .ok [(.v0 (List.replicate 32 0), [])] := by decide

end Archive

end FeedIndex
