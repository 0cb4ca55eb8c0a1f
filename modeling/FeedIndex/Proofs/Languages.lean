import FeedIndex.Proofs.Sources

/-!
# Declared languages

The languages that a post declares decide on one thing: whether its tags are folded the Turkish way besides the plain
one. What that adds has the dotless small letter, which no reserved word has. So everything else in the classification
is the same whatever languages are declared, and a reserved word is neither hidden nor forged by them.
-/

namespace FeedIndex

open Hashtag (isTurkish)

/-- The post with other languages. -/
def Post.withLangs (post : Post) (langs : List String) : Post := { post with langs }

variable {post : Post} {langs langs' : List String}

/-- Hashtags without the dotless small letter do not depend on the languages. -/
theorem mem_hashtags_withLangs {word : String} (plain : 'ı' ∉ word.toList) :
    word ∈ (post.withLangs langs).hashtags ↔ word ∈ (post.withLangs langs').hashtags := by
  rw [Post.mem_hashtags_of_plain plain, Post.mem_hashtags_of_plain plain]
  rfl

theorem hashtags_withLangs (same : isTurkish langs = isTurkish langs') :
    (post.withLangs langs).hashtags = (post.withLangs langs').hashtags := by
  change sortTags (List.flatMap (foldings (isTurkish langs)) _) = _
  rw [same]
  rfl

/-- The plain forms are there in any case. -/
theorem subset_hashtags_withLangs (plain : isTurkish langs' = false) {tag : String}
    (mem : tag ∈ (post.withLangs langs').hashtags) : tag ∈ (post.withLangs langs).hashtags := by
  obtain ⟨core, has, form⟩ := Post.mem_hashtags.mp mem
  refine Post.mem_hashtags.mpr ⟨core, has, Post.mem_foldings.mpr (.inl ?_)⟩
  rcases Post.mem_foldings.mp form with same | ⟨turkish, -⟩
  · exact same
  · cases plain.symm.trans turkish

/-- What is added has the dotless small letter. -/
theorem extra_hashtags_withLangs {tag : String} (mem : tag ∈ (post.withLangs langs).hashtags)
    (extra : tag ∉ (post.withLangs langs').hashtags) : 'ı' ∈ tag.toList := by
  by_contra plain
  exact extra ((mem_hashtags_withLangs plain).mp mem)

/-- **Languages do not change the verdict.** Whatever languages a post declares, it counts as adult content or not,
belongs to the same feeds, has the same media, labels and kind, and the same reserved words. Its hashtags are the same
if both lists of languages are Turkish or neither is. Under a Turkish list they are all those under another one, and
each of the others has the dotless small letter. -/
theorem languages_keep_verdict (post : Post) (langs langs' : List String) :
    ((post.withLangs langs).classify.isNsfw = (post.withLangs langs').classify.isNsfw ∧
        (post.withLangs langs).classify.tags = (post.withLangs langs').classify.tags ∧
        (post.withLangs langs).classify.hasMedia = (post.withLangs langs').classify.hasMedia ∧
        (post.withLangs langs).classify.hasVideo = (post.withLangs langs').classify.hasVideo ∧
        (post.withLangs langs).classify.isReply = (post.withLangs langs').classify.isReply ∧
        (post.withLangs langs).classify.selfLabels = (post.withLangs langs').classify.selfLabels) ∧
      (∀ word ∈ reservedHashtags,
        word ∈ (post.withLangs langs).classify.hashtags ↔ word ∈ (post.withLangs langs').classify.hashtags) ∧
      (isTurkish langs = isTurkish langs' →
        (post.withLangs langs).classify.hashtags = (post.withLangs langs').classify.hashtags) ∧
      (isTurkish langs = true → isTurkish langs' = false →
        (∀ tag ∈ (post.withLangs langs').classify.hashtags, tag ∈ (post.withLangs langs).classify.hashtags) ∧
          ∀ tag ∈ (post.withLangs langs).classify.hashtags,
            tag ∉ (post.withLangs langs').classify.hashtags → 'ı' ∈ tag.toList) := by
  have reserved (word : String) (mem : word ∈ reservedHashtags) :
      word ∈ (post.withLangs langs).hashtags ↔ word ∈ (post.withLangs langs').hashtags :=
    mem_hashtags_withLangs (plain_of_reserved word mem)
  obtain ⟨adult, feeds⟩ := verdict_congr reserved
  have nsfw : (post.withLangs langs).classify.isNsfw = (post.withLangs langs').classify.isNsfw := adult _
  have tags : (post.withLangs langs).classify.tags = (post.withLangs langs').classify.tags := by
    change FeedTag.all.filter (FeedTag.applies _ _ (post.withLangs langs).classify.isNsfw) = _
    rw [feeds, nsfw]
    rfl
  exact ⟨⟨nsfw, tags, rfl, rfl, rfl, rfl⟩, reserved, hashtags_withLangs, fun _ plain =>
    ⟨fun tag => subset_hashtags_withLangs plain, fun tag => extra_hashtags_withLangs⟩⟩

/-! ### A post in capitals -/

namespace InCapitals

/-- A post with a reserved word that Turkish folding spells otherwise. -/
def capitals : Post := { Post.blank with text := "#COMMISSIONSOPEN", createdAt := "2025-01-26T17:11:03Z" }

/-- Declared as Turkish the post has one hashtag more, and is in the same feed. -/
theorem turkish_adds_one :
    (capitals.withLangs ["en", "tr-TR"]).classify.hashtags = ["commissionsopen", "commıssıonsopen"] ∧
      (capitals.withLangs ["tru"]).classify.hashtags = ["commissionsopen"] ∧
      (capitals.withLangs ["en", "tr-TR"]).classify.tags = [.commissionsOpen] ∧
      (capitals.withLangs ["en", "tr-TR"]).classify.tags = (capitals.withLangs ["tru"]).classify.tags ∧
      (isTurkish ["en", "tr-TR"] = true ∧ isTurkish ["tru"] = false) ∧
      (∀ tag ∈ (capitals.withLangs ["tru"]).classify.hashtags,
        tag ∈ (capitals.withLangs ["en", "tr-TR"]).classify.hashtags) ∧
      'ı' ∈ "commıssıonsopen".toList := by
  obtain ⟨⟨-, tags, -⟩, -, -, extra⟩ := languages_keep_verdict capitals ["en", "tr-TR"] ["tru"]
  have turkish : isTurkish ["en", "tr-TR"] = true ∧ isTurkish ["tru"] = false := by decide +kernel
  obtain ⟨kept, dotless⟩ := extra turkish.1 turkish.2
  refine ⟨by decide +kernel, by decide +kernel, by decide +kernel, tags, turkish, kept, dotless _ ?_ ?_⟩
  · decide +kernel
  · decide +kernel

end InCapitals

end FeedIndex
