import FeedIndex.Proofs.Sources

/-!
# The form of hashtags

Every hashtag of a post has at most 64 characters and not only digits, no blank at either end, and is as folding
leaves it. It begins with no hash either, unless a marked tag has a blank and another hash behind those in front of it:
the hashes go first and the blanks after them, so what stands behind the blanks stays. Apart from such tags a post has
each reserved word that a tag spells, in whatever case and with whatever hashes and blanks around it.
-/

namespace FeedIndex

open Hashtag (fold foldTurkish foldChar foldTurkishChar isTag isHash isInner)
open Post (remainder)

/-- **Normal** — the form of a hashtag, but for a hash in front. -/
structure Normal (tag : List Char) : Prop where
  length : 1 ≤ tag.length ∧ tag.length ≤ 64
  word : ∃ c ∈ tag, c.isDigit = false
  first : ∀ c ∈ tag.head?, Text.isBlank c = false
  last : ∀ c ∈ tag.getLast?, Text.isBlank c = false
  folded : fold tag = tag

/-- The text begins with a hash. -/
def BeginsWithHash (tag : List Char) : Prop := ∃ c ∈ tag.head?, isHash c = true

instance (tag : List Char) : Decidable (BeginsWithHash tag) :=
  decidable_of_iff (tag.head?.any isHash = true) (by simp [BeginsWithHash, Option.any_eq_true])

/-! ## Folding and the form of a tag -/

/-- A folding keeps what a tag is recognised by, and what it gives is final. -/
structure Folds (f : Char → Char) : Prop where
  blank (c : Char) : Text.isBlank (f c) = Text.isBlank c
  hash (c : Char) : isHash (f c) = isHash c
  digit (c : Char) : (f c).isDigit = c.isDigit
  final (c : Char) : foldChar (f c) = f c

theorem folds_foldChar : Folds foldChar where
  blank c := (Hashtag.isBlank_fold c).1
  hash c := (Hashtag.isHash_fold c).1
  digit c := (Hashtag.isDigit_fold c).1
  final := Hashtag.foldChar_foldChar

theorem folds_foldTurkishChar : Folds foldTurkishChar where
  blank c := (Hashtag.isBlank_fold c).2
  hash c := (Hashtag.isHash_fold c).2
  digit c := (Hashtag.isDigit_fold c).2
  final := Hashtag.foldChar_foldTurkishChar

variable {f : Char → Char} {core : List Char} {post : Post}

theorem Folds.isTag_map (folds : Folds f) : isTag (core.map f) = isTag core := by
  simp [isTag, Function.comp_def, folds.digit]

theorem Folds.beginsWithHash_map (folds : Folds f) : BeginsWithHash (core.map f) ↔ BeginsWithHash core := by
  rcases core with _ | ⟨c, rest⟩
  · rfl
  · simp [BeginsWithHash, folds.hash]

theorem isTag_fold : isTag (fold core) = isTag core := folds_foldChar.isTag_map

theorem beginsWithHash_fold : BeginsWithHash (fold core) ↔ BeginsWithHash core := folds_foldChar.beginsWithHash_map

theorem Folds.normal_map (folds : Folds f) (counts : isTag core = true) (trimmed : Text.trim core = core) :
    Normal (core.map f) := by
  rw [← folds.isTag_map] at counts
  obtain ⟨nonempty, short, word⟩ := Hashtag.isTag_iff.mp counts
  obtain ⟨first, last⟩ := Text.solid_ends_trim core
  rw [trimmed] at first last
  refine ⟨⟨List.length_pos_iff.mpr nonempty, short⟩, word, fun c mem => ?_, fun c mem => ?_, ?_⟩
  · rw [List.head?_map] at mem
    obtain ⟨d, head, rfl⟩ := Option.map_eq_some_iff.mp mem
    rw [folds.blank, first d head]
  · rw [List.getLast?_map] at mem
    obtain ⟨d, end', rfl⟩ := Option.map_eq_some_iff.mp mem
    rw [folds.blank, last d end']
  · rw [fold, List.map_map]
    exact List.map_congr_left fun c _ => folds.final c

/-- A hashtag is the image of a tag under one of the foldings. -/
theorem folded_of_mem_hashtags {tag : String} (mem : tag ∈ post.hashtags) :
    ∃ core f, post.HasTag core ∧ Folds f ∧ tag.toList = core.map f := by
  obtain ⟨core, has, form⟩ := Post.mem_hashtags.mp mem
  rcases Post.mem_foldings.mp form with plain | ⟨-, turkish⟩
  · exact ⟨core, foldChar, has, folds_foldChar, plain⟩
  · exact ⟨core, foldTurkishChar, has, folds_foldTurkishChar, turkish⟩

/-! ## Marked tags with a hash behind a blank -/

/-- **Obscured** — behind the hashes in front of the tag come blanks, and then a hash once more. -/
def Obscured (tag : List Char) : Prop :=
  ∃ hashes blanks hash rest, tag = hashes ++ blanks ++ hash :: rest ∧ (∀ c ∈ hashes, isHash c = true) ∧
    blanks ≠ [] ∧ (∀ c ∈ blanks, Text.isBlank c = true) ∧ isHash hash = true

/-- **bare** — the tag without any hashes and blanks in front, and without the blanks at its end. -/
def bare (tag : List Char) : List Char :=
  Text.dropTrailing Text.isBlank (tag.dropWhile fun c => isHash c || Text.isBlank c)

/-- A text behind the hashes in front of it, taken apart at the blanks that come next. -/
theorem split_marked (cs : List Char) :
    ∃ hashes blanks, cs = hashes ++ blanks ++ (cs.dropWhile isHash).dropWhile Text.isBlank ∧
      cs.dropWhile isHash = blanks ++ (cs.dropWhile isHash).dropWhile Text.isBlank ∧
      (∀ c ∈ hashes, isHash c = true) ∧ ∀ c ∈ blanks, Text.isBlank c = true := by
  refine ⟨cs.takeWhile isHash, (cs.dropWhile isHash).takeWhile Text.isBlank, ?_, List.takeWhile_append_dropWhile.symm,
    fun c => List.mem_takeWhile_imp, fun c => List.mem_takeWhile_imp⟩
  rw [List.append_assoc, List.takeWhile_append_dropWhile, List.takeWhile_append_dropWhile]

theorem beginsWithHash_trim {cs : List Char} :
    BeginsWithHash (Text.trim cs) ↔ BeginsWithHash (cs.dropWhile Text.isBlank) := by
  rw [BeginsWithHash, BeginsWithHash, Text.head?_trim]

/-- What is left of a tag begins with a hash exactly if that hash stands behind blanks. -/
theorem beginsWithHash_remainder {tag : String} : BeginsWithHash (remainder tag) ↔ Obscured tag.toList := by
  rw [remainder, beginsWithHash_trim, withoutHashes]
  constructor
  · rintro ⟨hash, head, isHash⟩
    obtain ⟨hashes, blanks, whole, behind, allHashes, allBlanks⟩ := split_marked tag.toList
    obtain ⟨rest, remains⟩ := List.head?_eq_some_iff.mp head
    refine ⟨hashes, blanks, hash, rest, remains ▸ whole, allHashes, ?_, allBlanks, isHash⟩
    -- without a blank the hash would have gone with those in front
    rintro rfl
    rw [List.nil_append] at behind
    have first : (tag.toList.dropWhile Hashtag.isHash).head? = some hash := behind ▸ head
    cases isHash.symm.trans (Text.stops_dropWhile first)
  · rintro ⟨hashes, blanks, hash, rest, whole, allHashes, some, allBlanks, isHash⟩
    have behind : tag.toList.dropWhile Hashtag.isHash = blanks ++ hash :: rest := by
      rw [whole, List.append_assoc, List.dropWhile_append_of_pos allHashes]
      obtain ⟨blank, others, rfl⟩ := List.exists_cons_of_ne_nil some
      refine List.dropWhile_cons_of_neg fun hash => ?_
      have notBlank := Hashtag.isBlank_of_isHash hash
      rw [allBlanks blank (by simp)] at notBlank
      cases notBlank
    rw [behind, List.dropWhile_append_of_pos allBlanks,
      List.dropWhile_cons_of_neg (by simp [Hashtag.isBlank_of_isHash isHash])]
    exact ⟨hash, rfl, isHash⟩

/-- Of any other tag all hashes and blanks in front are taken off. -/
theorem remainder_eq_bare {tag : String} (clear : ¬ Obscured tag.toList) : remainder tag = bare tag.toList := by
  rw [← beginsWithHash_remainder, remainder, beginsWithHash_trim, withoutHashes] at clear
  obtain ⟨hashes, blanks, whole, -, allHashes, allBlanks⟩ := split_marked tag.toList
  have stops : ∀ c ∈ ((tag.toList.dropWhile isHash).dropWhile Text.isBlank).head?, Text.isBlank c = false :=
    fun c first => Text.stops_dropWhile first
  rw [remainder, withoutHashes, Text.trim, bare]
  congr 1
  generalize (tag.toList.dropWhile isHash).dropWhile Text.isBlank = rest at whole clear stops ⊢
  have front : ∀ c ∈ hashes ++ blanks, (isHash c || Text.isBlank c) = true := by
    intro c mem
    rcases List.mem_append.mp mem with hash | blank
    · simp [allHashes c hash]
    · simp [allBlanks c blank]
  rw [whole, List.dropWhile_append_of_pos front]
  rcases rest with _ | ⟨c, rest⟩
  · rfl
  · have notHash : isHash c = false := by
      by_contra hash
      exact clear ⟨c, rfl, by simpa using hash⟩
    exact (List.dropWhile_cons_of_neg (by simp [notHash, stops c rfl])).symm

/-! ## The form of all hashtags -/

theorem not_beginsWithHash_of_token {token : List Char} (mem : token ∈ post.tokens) : ¬ BeginsWithHash token := by
  rintro ⟨c, head, hash⟩
  have inner := (Post.counts_of_mem_tokens mem).2.1 c (List.mem_of_mem_head? head)
  simp [(Hashtag.isInner_iff.mp inner).2] at hash

theorem isTag_of_beginsWithHash {core : List Char} (begins : BeginsWithHash core) (short : core.length ≤ 64) :
    isTag core = true := by
  obtain ⟨c, head, hash⟩ := begins
  have mem := List.mem_of_mem_head? head
  refine Hashtag.isTag_iff.mpr ⟨List.ne_nil_of_mem mem, short, c, mem, ?_⟩
  simp only [isHash, Bool.or_eq_true, beq_iff_eq] at hash
  rcases hash with rfl | rfl <;> rfl

theorem counts_of_reserved : ∀ word ∈ reservedHashtags, isTag word.toList = true ∧ ¬ BeginsWithHash word.toList := by
  decide +kernel

theorem normal_of_mem_hashtags {tag : String} (mem : tag ∈ post.hashtags) : Normal tag.toList := by
  obtain ⟨core, f, has, folds, form⟩ := folded_of_mem_hashtags mem
  rw [form]
  exact folds.normal_map has.counts.1 has.counts.2

/-- A hash stays in front of a hashtag if a marked tag has one behind a blank and is short enough to count. -/
theorem no_hash_in_front_iff :
    (∀ tag ∈ post.hashtags, ¬ BeginsWithHash tag.toList) ↔
      ∀ marked ∈ post.markedTags, Obscured marked.toList → 64 < (remainder marked).length := by
  constructor
  · intro clear marked isMarked obscured
    have begins := beginsWithHash_remainder.mpr obscured
    by_contra short
    have counts := isTag_of_beginsWithHash begins (Nat.le_of_not_lt short)
    refine clear _ (Post.mem_hashtags_of_hasTag (.inr ⟨marked, isMarked, rfl, counts⟩)) ?_
    rw [String.toList_ofList]
    exact beginsWithHash_fold.mpr begins
  · intro long tag mem begins
    obtain ⟨core, f, has, folds, form⟩ := folded_of_mem_hashtags mem
    rw [form, folds.beginsWithHash_map] at begins
    rcases has with token | ⟨marked, isMarked, rfl, counts⟩
    · exact not_beginsWithHash_of_token token begins
    · have tooLong := long marked isMarked (beginsWithHash_remainder.mp begins)
      exact absurd (Hashtag.isTag_iff.mp counts).2.1 (Nat.not_le_of_lt tooLong)

/-- A marked tag whose remainder folds to a word without a hash in front is not obscured. -/
theorem not_obscured_of_fold {marked word : String} (form : fold (remainder marked) = word.toList)
    (noHash : ¬ BeginsWithHash word.toList) : ¬ Obscured marked.toList := by
  rw [← beginsWithHash_remainder, ← beginsWithHash_fold, form]
  exact noHash

/-- **Which reserved words a post has**: those that a token folds to, or the bare form of a marked tag that is not
obscured. -/
theorem reserved_mem_hashtags_iff {word : String} (reserved : word ∈ reservedHashtags) :
    word ∈ post.hashtags ↔
      (∃ token ∈ post.tokens, fold token = word.toList) ∨
        ∃ marked ∈ post.markedTags, ¬ Obscured marked.toList ∧ fold (bare marked.toList) = word.toList := by
  obtain ⟨counts, noHash⟩ := counts_of_reserved word reserved
  rw [Post.mem_hashtags_of_plain (plain_of_reserved word reserved)]
  constructor
  · rintro ⟨core, token | ⟨marked, isMarked, rfl, -⟩, form⟩
    · exact .inl ⟨core, token, form⟩
    · have clear := not_obscured_of_fold form noHash
      exact .inr ⟨marked, isMarked, clear, remainder_eq_bare clear ▸ form⟩
  · rintro (⟨token, isToken, form⟩ | ⟨marked, isMarked, clear, form⟩)
    · exact ⟨token, .inl isToken, form⟩
    · rw [← remainder_eq_bare clear] at form
      have core : isTag (remainder marked) = true := by
        rw [← isTag_fold, form]
        exact counts
      exact ⟨_, .inr ⟨marked, isMarked, rfl, core⟩, form⟩

/-- **The form of hashtags.** All hashtags of a post are in normal form. None begins with a hash exactly if each marked
tag with a hash behind a blank is too long to count. A reserved word is among them exactly if it is what a token folds
to, or a marked tag without such a hash, once all hashes and blanks around it are taken off. -/
theorem hashtags_normal_iff (post : Post) :
    (∀ tag ∈ post.hashtags, Normal tag.toList) ∧
      ((∀ tag ∈ post.hashtags, ¬ BeginsWithHash tag.toList) ↔
        ∀ marked ∈ post.markedTags, Obscured marked.toList → 64 < (remainder marked).length) ∧
      ∀ word ∈ reservedHashtags,
        (word ∈ post.hashtags ↔
          (∃ token ∈ post.tokens, fold token = word.toList) ∨
            ∃ marked ∈ post.markedTags, ¬ Obscured marked.toList ∧ fold (bare marked.toList) = word.toList) :=
  ⟨fun _ => normal_of_mem_hashtags, no_hash_in_front_iff, fun _ => reserved_mem_hashtags_iff⟩

/-! ### A hash behind a blank -/

namespace SpacedTag

/-- A post with one tag in its list, which has a blank in front of its hash. -/
def spaced : Post := { Post.blank with text := "look", createdAt := "2025-01-26T17:11:03Z", tags := [" #nsfw"] }

/-- **A reserved tag that is not seen**: the hash stays, and the post does not count as adult content. -/
theorem hash_stays :
    spaced.hashtags = ["#nsfw"] ∧ (∃ tag ∈ spaced.hashtags, BeginsWithHash tag.toList) ∧
      fold (bare " #nsfw".toList) = "nsfw".toList ∧ spaced.classify.isNsfw = false := by
  decide +kernel

end SpacedTag

end FeedIndex
