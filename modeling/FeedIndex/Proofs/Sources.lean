import FeedIndex.Classification
import FeedIndex.Proofs.Folding
import FeedIndex.Proofs.Scanning

/-!
# Where the hashtags of a post come from

A post has the folded forms of its tokens and of its marked tags. A token was found in its text or in an alternative
text, a marked tag stands in a facet or in the list of tags. What is left of a marked tag, without the hashes in front
of it and then the blanks at its ends, is folded if it counts as a tag. Tokens count and have nothing to take off.

The reserved words have no letter of their own in Turkish, so a post has such a word exactly if the plain folding of
one of its tags is that word.
-/

namespace FeedIndex

open Hashtag (find fold foldTurkish isTag isHash isInner)

/-! ## The set of hashtags -/

theorem mem_insertTag {tag other : String} {tags : List String} :
    other ∈ insertTag tag tags ↔ other = tag ∨ other ∈ tags := by
  induction tags with
  | nil => simp [insertTag]
  | cons t ts ih =>
    rw [insertTag]
    split
    · exact List.mem_cons
    · split
      · next same => simp [same]
      · rw [List.mem_cons, ih, List.mem_cons, or_left_comm]

theorem mem_sortTags {tag : String} {tags : List String} : tag ∈ sortTags tags ↔ tag ∈ tags := by
  have gathered (sorted : List String) :
      tag ∈ tags.foldl (fun sorted tag => insertTag tag sorted) sorted ↔ tag ∈ sorted ∨ tag ∈ tags := by
    induction tags generalizing sorted with
    | nil => simp
    | cons t ts ih => rw [List.foldl_cons, ih, mem_insertTag, List.mem_cons, or_assoc, or_left_comm]
  simpa [sortTags] using gathered []

namespace Text

/-! ## Trimming -/

/-- A text that neither begins nor ends with a blank stays as it is. -/
theorem trim_eq_self {cs : List Char} (first : ∀ c ∈ cs.head?, isBlank c = false)
    (last : ∀ c ∈ cs.getLast?, isBlank c = false) : trim cs = cs := by
  have whole : cs.dropWhile isBlank = cs := by
    rcases cs with _ | ⟨c, cs⟩
    · rfl
    · exact List.dropWhile_cons_of_neg (by simp [first c rfl])
  rw [trim, whole]
  exact dropTrailing_eq_iff.mpr ⟨⟨[], by simp⟩, last⟩

/-- The first character stays if it is none that is dropped. -/
theorem head?_dropTrailing {p : Char → Bool} {c : Char} {cs : List Char} (keeps : p c = false) :
    (dropTrailing p (c :: cs)).head? = some c := by
  rw [dropTrailing_cons]
  split <;> simp [keeps]

theorem head?_trim (cs : List Char) : (trim cs).head? = (cs.dropWhile isBlank).head? := by
  rw [trim]
  rcases ahead : cs.dropWhile isBlank with _ | ⟨c, rest⟩
  · rfl
  · have solid : isBlank c = false := stops_dropWhile (by rw [ahead]; rfl)
    exact head?_dropTrailing solid

/-- A trimmed text neither begins nor ends with a blank. -/
theorem solid_ends_trim (cs : List Char) :
    (∀ c ∈ (trim cs).head?, isBlank c = false) ∧ ∀ c ∈ (trim cs).getLast?, isBlank c = false := by
  refine ⟨fun c first => ?_, getLast?_dropTrailing isBlank _⟩
  rw [head?_trim] at first
  exact stops_dropWhile first

theorem trim_trim (cs : List Char) : trim (trim cs) = trim cs :=
  trim_eq_self (solid_ends_trim cs).1 (solid_ends_trim cs).2

end Text

namespace Post

/-! ## Tokens and marked tags -/

variable {post : Post}

/-- **tokens** — the hashtags that are found in the text and in the alternative texts. -/
def tokens (post : Post) : List (List Char) :=
  find post.text ++ (alternativeTexts post.embeds).flatMap find

/-- The tag that a feature marks, as it is written. -/
def markedBy? (feature : Feature) : Option String := if feature.kind = tagFeatureKind then feature.tag else none

/-- **markedTags** — the tags of the facets and of the list of tags, as they are written. -/
def markedTags (post : Post) : List String :=
  (post.facets.flatMap (·.features)).filterMap markedBy? ++ post.tags

/-- **remainder** — what is left of a marked tag, without the hashes in front and then the blanks at its ends. -/
def remainder (tag : String) : List Char := Text.trim (withoutHashes tag)

theorem mem_rawHashtags {raw : List Char} :
    raw ∈ post.rawHashtags ↔ raw ∈ post.tokens ∨ ∃ tag ∈ post.markedTags, withoutHashes tag = raw := by
  have marks : Feature.hashtag? = fun feature => (markedBy? feature).map withoutHashes := by
    funext feature
    unfold Feature.hashtag? markedBy?
    split <;> rfl
  simp only [rawHashtags, marks, ← List.map_filterMap, tokens, markedTags, List.mem_append, List.mem_map, or_and_right,
    exists_or]
  exact iff_of_eq (by ac_rfl)

/-- A token counts as a tag and has nothing to take off. -/
theorem counts_of_mem_tokens {token : List Char} (mem : token ∈ post.tokens) :
    isTag token = true ∧ (∀ c ∈ token, isInner c = true) ∧ Text.trim token = token := by
  have found : ∃ text, token ∈ find text := by
    rcases List.mem_append.mp mem with inText | inImage
    · exact ⟨_, inText⟩
    · obtain ⟨text, -, found⟩ := List.mem_flatMap.mp inImage
      exact ⟨text, found⟩
  obtain ⟨text, found⟩ := found
  obtain ⟨counts, inner⟩ := Hashtag.inner_of_mem_find found
  have solid (c : Char) (mem : c ∈ token) : Text.isBlank c = false := (Hashtag.isInner_iff.mp (inner c mem)).1
  exact ⟨counts, inner, Text.trim_eq_self (fun c first => solid c (List.mem_of_mem_head? first))
    fun c last => solid c (List.mem_of_getLast? last)⟩

/-- **HasTag** — the tag is a token, or is left of a marked tag and counts. -/
def HasTag (post : Post) (core : List Char) : Prop :=
  core ∈ post.tokens ∨ ∃ marked ∈ post.markedTags, remainder marked = core ∧ isTag core = true

theorem HasTag.counts {core : List Char} (has : post.HasTag core) : isTag core = true ∧ Text.trim core = core := by
  rcases has with token | ⟨marked, -, rfl, counts⟩
  · obtain ⟨counts, -, trimmed⟩ := counts_of_mem_tokens token
    exact ⟨counts, trimmed⟩
  · exact ⟨counts, Text.trim_trim _⟩

/-- **The hashtags of a post** are the folded forms of its tags. -/
theorem mem_hashtags {tag : String} :
    tag ∈ post.hashtags ↔ ∃ core, post.HasTag core ∧ tag ∈ foldings (Hashtag.isTurkish post.langs) core := by
  rw [hashtags, mem_sortTags, List.mem_flatMap]
  refine exists_congr fun core => and_congr_left fun _ => ?_
  rw [List.mem_filter, List.mem_map]
  constructor
  · rintro ⟨⟨raw, isRaw, rfl⟩, counts⟩
    rcases mem_rawHashtags.mp isRaw with token | ⟨marked, mem, rfl⟩
    · rw [(counts_of_mem_tokens token).2.2]
      exact .inl token
    · exact .inr ⟨marked, mem, rfl, counts⟩
  · rintro (token | ⟨marked, mem, rfl, counts⟩)
    · obtain ⟨counts, -, trimmed⟩ := counts_of_mem_tokens token
      exact ⟨⟨core, mem_rawHashtags.mpr (.inl token), trimmed⟩, counts⟩
    · exact ⟨⟨_, mem_rawHashtags.mpr (.inr ⟨marked, mem, rfl⟩), rfl⟩, counts⟩

/-! ## Words without the Turkish letter -/

theorem mem_foldings {turkish : Bool} {core : List Char} {tag : String} :
    tag ∈ foldings turkish core ↔ tag.toList = fold core ∨ turkish = true ∧ tag.toList = foldTurkish core := by
  have spelled (cs : List Char) : tag = String.ofList cs ↔ tag.toList = cs := by
    rw [← String.toList_inj, String.toList_ofList]
  cases turkish <;> simp [foldings, spelled, or_comm]

/-- The plain form of a tag is a hashtag in any case. -/
theorem mem_hashtags_of_hasTag {core : List Char} (has : post.HasTag core) :
    String.ofList (fold core) ∈ post.hashtags :=
  mem_hashtags.mpr ⟨core, has, mem_foldings.mpr (.inl String.toList_ofList)⟩

/-- A word without the dotless small letter is among the hashtags exactly if a tag folds to it plainly, whatever the
languages of the post are. -/
theorem mem_hashtags_of_plain {word : String} (plain : 'ı' ∉ word.toList) :
    word ∈ post.hashtags ↔ ∃ core, post.HasTag core ∧ fold core = word.toList := by
  rw [mem_hashtags]
  refine exists_congr fun core => and_congr_right fun _ => ?_
  rw [mem_foldings]
  constructor
  · rintro (same | ⟨-, same⟩)
    · exact same.symm
    · rw [same] at plain ⊢
      exact (Hashtag.foldTurkish_eq_fold plain).symm
  · exact fun same => .inl same.symm

end Post

/-- The words that a classification looks for among the hashtags. -/
def reservedHashtags : List String := nsfwHashtags ++ fursuitHashtags ++ artHashtags ++ commissionsHashtags

theorem plain_of_reserved : ∀ word ∈ reservedHashtags, 'ı' ∉ word.toList := by decide +kernel

/-! ## What the hashtags decide -/

theorem anyOf_eq_true_iff {wanted present : List String} :
    anyOf wanted present = true ↔ ∃ word ∈ wanted, word ∈ present := by
  simp [anyOf]

/-- The verdicts on a post look at the reserved words among its hashtags only. -/
theorem verdict_congr {present present' : List String}
    (same : ∀ word ∈ reservedHashtags, word ∈ present ↔ word ∈ present') :
    (∀ labels, isNsfw present labels = isNsfw present' labels) ∧
      ∀ media nsfw, FeedTag.applies present media nsfw = FeedTag.applies present' media nsfw := by
  have asked {wanted : List String} (reserved : wanted ⊆ reservedHashtags) :
      anyOf wanted present = anyOf wanted present' := by
    rw [Bool.eq_iff_iff, anyOf_eq_true_iff, anyOf_eq_true_iff]
    exact exists_congr fun word => and_congr_right fun mem => same word (reserved mem)
  refine ⟨fun labels => ?_, fun media nsfw => funext fun feed => ?_⟩
  · rw [isNsfw, isNsfw, asked (by decide)]
  · cases feed with
    | nsfw => rfl
    | fursuitMedia => rw [FeedTag.applies, FeedTag.applies, asked (by decide)]
    | art => rw [FeedTag.applies, FeedTag.applies, asked (by decide)]
    | commissionsOpen => exact asked (by decide)

end FeedIndex
