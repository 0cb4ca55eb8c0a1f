import FeedIndex.Proofs.ImageTexts
import Mathlib.Data.List.Sort
import Mathlib.Data.String.Basic

/-!
# Additions to a post

What a post is classified as only asks what it has, never where, how often or how much of it. So whatever is added to
its facets, their features, its tags, the images of its embeds, its self labels or its languages, it keeps its hashtags
and its feeds, and it still shows images and counts as adult content if it did. And if only the order of things changes,
and how often each is there, the classification stays the same.
-/

namespace FeedIndex

open Hashtag (isTurkish)

/-! ## The ascending hashtags -/

theorem pairwise_insertTag {tag : String} {tags : List String} (ascending : tags.Pairwise (· < ·)) :
    (insertTag tag tags).Pairwise (· < ·) := by
  induction tags with
  | nil => exact List.pairwise_singleton _ tag
  | cons t ts ih =>
    obtain ⟨above, rest⟩ := List.pairwise_cons.mp ascending
    rw [insertTag]
    split
    · next before => exact List.pairwise_cons.mpr ⟨List.forall_mem_cons.mpr
        ⟨before, fun other mem => before.trans (above other mem)⟩, ascending⟩
    · next notBefore =>
      split
      · exact ascending
      · next other =>
        have after : t < tag := lt_of_le_of_ne (not_lt.mp notBefore) (Ne.symm other)
        refine List.pairwise_cons.mpr ⟨fun found mem => ?_, ih rest⟩
        rcases mem_insertTag.mp mem with rfl | mem
        · exact after
        · exact above found mem

theorem pairwise_sortTags (tags : List String) : (sortTags tags).Pairwise (· < ·) := by
  have gathered {sorted : List String} (ascending : sorted.Pairwise (· < ·)) :
      (tags.foldl (fun sorted tag => insertTag tag sorted) sorted).Pairwise (· < ·) := by
    induction tags generalizing sorted with
    | nil => exact ascending
    | cons t ts ih => exact ih (pairwise_insertTag ascending)
  exact gathered List.Pairwise.nil

namespace Post

/-- Posts with the same hashtags have them in the same order. -/
theorem hashtags_congr {post post' : Post} (same : ∀ tag, tag ∈ post.hashtags ↔ tag ∈ post'.hashtags) :
    post.hashtags = post'.hashtags :=
  (pairwise_sortTags _).eq_of_mem_iff (pairwise_sortTags _) same

/-! ## What a wider post keeps -/

theorem exists_of_forall₂ {α β : Type} {R : α → β → Prop} {xs : List α} {ys : List β} (related : List.Forall₂ R xs ys)
    {x : α} (mem : x ∈ xs) : ∃ y ∈ ys, R x y := by
  induction related with
  | nil => cases mem
  | cons first rest ih =>
    rcases List.mem_cons.mp mem with rfl | later
    · exact ⟨_, List.mem_cons_self, first⟩
    · obtain ⟨y, among, related⟩ := ih later
      exact ⟨y, List.mem_cons_of_mem _ among, related⟩

/-- **Within** — what a post has, another has as well, in whatever order and however often: each facet with its
features, each tag, each image of an embed, each self label and each language. Its text, what it answers to and the
kinds of its embeds are the same. -/
structure Within (post wider : Post) : Prop where
  text : post.text = wider.text
  reply : post.reply = wider.reply
  langs : post.langs ⊆ wider.langs
  facets : ∀ facet ∈ post.facets, ∃ facet' ∈ wider.facets, facet.features ⊆ facet'.features
  tags : post.tags ⊆ wider.tags
  embeds : List.Forall₂ (fun embed embed' => embed.kind = embed'.kind ∧ embed.images ⊆ embed'.images)
    post.embeds wider.embeds
  labels : ∀ labels ∈ post.labels, ∃ labels' ∈ wider.labels,
    labels.kind = labels'.kind ∧ labels.values ⊆ labels'.values

namespace Within

variable {post wider : Post} (within : post.Within wider)

include within

theorem markedTags : post.markedTags ⊆ wider.markedTags := by
  have marked : (post.facets.flatMap (·.features)).filterMap markedBy? ⊆
      (wider.facets.flatMap (·.features)).filterMap markedBy? := by
    refine List.filterMap_subset _ fun feature mem => ?_
    obtain ⟨facet, among, inFacet⟩ := List.mem_flatMap.mp mem
    obtain ⟨facet', among', kept⟩ := within.facets facet among
    exact List.mem_flatMap.mpr ⟨facet', among', kept inFacet⟩
  exact fun tag mem => List.mem_append.mpr ((List.mem_append.mp mem).imp (marked ·) (within.tags ·))

theorem alternativeTexts : alternativeTexts post.embeds ⊆ alternativeTexts wider.embeds := by
  intro text mem
  obtain ⟨embed, outer, shown⟩ := List.mem_flatMap.mp mem
  obtain ⟨embed', outer', -, kept⟩ := exists_of_forall₂ (List.forall₂_take 2 within.embeds) outer
  exact List.mem_flatMap.mpr ⟨embed', outer', kept shown⟩

theorem tokens : post.tokens ⊆ wider.tokens := by
  unfold Post.tokens
  rw [within.text]
  refine fun token mem => List.mem_append.mpr ((List.mem_append.mp mem).imp_right fun inImage => ?_)
  obtain ⟨text, read, found⟩ := List.mem_flatMap.mp inImage
  exact List.mem_flatMap.mpr ⟨text, within.alternativeTexts read, found⟩

theorem hasTag {core : List Char} (has : post.HasTag core) : wider.HasTag core :=
  has.imp (within.tokens ·) fun ⟨marked, among, left, counts⟩ => ⟨marked, within.markedTags among, left, counts⟩

theorem isTurkish (turkish : isTurkish post.langs = true) : isTurkish wider.langs = true := by
  obtain ⟨language, among, isTurkish⟩ := List.any_eq_true.mp turkish
  exact List.any_eq_true.mpr ⟨language, within.langs among, isTurkish⟩

theorem hashtags : post.hashtags ⊆ wider.hashtags := by
  intro tag mem
  obtain ⟨core, has, form⟩ := mem_hashtags.mp mem
  refine mem_hashtags.mpr ⟨core, within.hasTag has, mem_foldings.mpr ?_⟩
  exact (mem_foldings.mp form).imp_right fun ⟨turkish, same⟩ => ⟨within.isTurkish turkish, same⟩

theorem selfLabels : post.selfLabels ⊆ wider.selfLabels := by
  unfold Post.selfLabels
  rcases given : post.labels with _ | labels
  · exact List.nil_subset _
  obtain ⟨labels', given', kind, values⟩ := within.labels labels given
  rw [Option.mem_def.mp given']
  dsimp only
  rw [kind]
  split
  · exact values
  · exact List.nil_subset _

theorem showsVideo : showsVideo post.embeds = showsVideo wider.embeds := by
  refine showsVideo_congr (List.forall₂_eq_eq_eq ▸ ?_)
  exact List.forall₂_map_left_iff.mpr (List.forall₂_map_right_iff.mpr (within.embeds.imp fun _ _ both => both.1))

theorem showsImages (shown : showsImages post.embeds = true) : showsImages wider.embeds = true := by
  have same := within.embeds
  generalize post.embeds = embeds at same shown
  generalize wider.embeds = embeds' at same
  -- along the chain, as the kinds decide where to look
  induction same with
  | nil => exact shown
  | @cons embed embed' inner inner' here _ ih =>
    rw [FeedIndex.showsImages] at shown ⊢
    rw [← here.1]
    split at shown
    · next images =>
      have shows : embed.images ≠ [] := by simpa using shown
      have shows' : embed'.images ≠ [] := fun empty => shows (List.subset_nil.mp (empty ▸ here.2))
      rw [if_pos images]
      simpa using shows'
    · next other =>
      rw [if_neg other]
      split at shown
      · next around =>
        rw [if_pos around]
        exact ih shown
      · cases shown

end Within

end Post

/-! ## The classification -/

theorem anyOf_mono {wanted present wider : List String} (more : present ⊆ wider) (found : anyOf wanted present = true) :
    anyOf wanted wider = true := by
  obtain ⟨word, asked, there⟩ := anyOf_eq_true_iff.mp found
  exact anyOf_eq_true_iff.mpr ⟨word, asked, more there⟩

theorem isNsfw_mono {hashtags hashtags' labels labels' : List String} (more : hashtags ⊆ hashtags')
    (others : labels ⊆ labels') (nsfw : isNsfw hashtags labels = true) : isNsfw hashtags' labels' = true := by
  exact Bool.or_eq_true_iff.mpr ((Bool.or_eq_true_iff.mp nsfw).imp (anyOf_mono more ·) (anyOf_mono others ·))

theorem FeedTag.applies_mono {hashtags hashtags' : List String} {media media' nsfw nsfw' : Bool}
    (more : hashtags ⊆ hashtags') (shows : media = true → media' = true) (adult : nsfw = true → nsfw' = true)
    {feed : FeedTag} (applies : feed.applies hashtags media nsfw = true) : feed.applies hashtags' media' nsfw' = true := by
  cases feed with
  | fursuitMedia | art =>
    obtain ⟨shown, found⟩ := Bool.and_eq_true_iff.mp applies
    exact Bool.and_eq_true_iff.mpr ⟨shows shown, anyOf_mono more found⟩
  | nsfw => exact adult applies
  | commissionsOpen => exact anyOf_mono more applies

namespace Post.Within

variable {post wider : Post} (within : post.Within wider)

include within

theorem isNsfw (nsfw : post.classify.isNsfw = true) : wider.classify.isNsfw = true :=
  isNsfw_mono within.hashtags within.selfLabels nsfw

theorem feeds : post.classify.tags ⊆ wider.classify.tags := by
  intro feed mem
  obtain ⟨known, applies⟩ := List.mem_filter.mp mem
  exact List.mem_filter.mpr ⟨known, FeedTag.applies_mono within.hashtags within.showsImages within.isNsfw applies⟩

/-- Posts that have the same things are classified alike, but for the order of their labels. -/
theorem classify_eq (back : wider.Within post) :
    wider.classify = { post.classify with selfLabels := wider.selfLabels } := by
  have hashtags : wider.hashtags = post.hashtags :=
    hashtags_congr fun tag => ⟨(back.hashtags ·), (within.hashtags ·)⟩
  have media : FeedIndex.showsImages wider.embeds = FeedIndex.showsImages post.embeds :=
    Bool.eq_iff_iff.mpr ⟨back.showsImages, within.showsImages⟩
  have nsfw : FeedIndex.isNsfw post.hashtags wider.selfLabels = FeedIndex.isNsfw post.hashtags post.selfLabels :=
    Bool.eq_iff_iff.mpr ⟨isNsfw_mono (List.Subset.refl _) back.selfLabels,
      isNsfw_mono (List.Subset.refl _) within.selfLabels⟩
  unfold classify
  simp only [hashtags, media, nsfw, ← within.showsVideo, ← within.reply]

end Post.Within

/-- **The classification grows with the post, and does not depend on the order of things.** Whatever is added to a
post, no hashtag and no feed is lost, and it still shows images and counts as adult content if it did. If the post then
has nothing that it did not have before, so that only the order of things has changed and how often each is there, the
classification is the same, but for the list of self labels itself. -/
theorem classify_monotone {post wider : Post} (within : post.Within wider) :
    (post.classify.hashtags ⊆ wider.classify.hashtags ∧ post.classify.tags ⊆ wider.classify.tags ∧
        (post.classify.hasMedia = true → wider.classify.hasMedia = true) ∧
        (post.classify.isNsfw = true → wider.classify.isNsfw = true) ∧
        wider.classify.hasVideo = post.classify.hasVideo ∧ wider.classify.isReply = post.classify.isReply) ∧
      (wider.Within post → wider.classify = { post.classify with selfLabels := wider.selfLabels }) := by
  refine ⟨⟨within.hashtags, within.feeds, within.showsImages, within.isNsfw, within.showsVideo.symm, ?_⟩,
    within.classify_eq⟩
  exact congrArg Option.isSome within.reply.symm

/-! ### A suit with more and more to it -/

namespace MoreAndMore

/-- A post with a picture of a suit. -/
def picture : Post :=
  { Post.blank with
    text := "new paws"
    createdAt := "2025-01-26T17:11:03Z"
    embeds := [⟨imagesKind, ["#Fursuit"]⟩]
    facets := [⟨0, 3, [⟨tagFeatureKind, some "paws"⟩]⟩]
    tags := ["furryart"] }

/-- With another language, facet, feature, tag and image, and a label. -/
def more : Post :=
  { picture with
    langs := ["tr"]
    embeds := [⟨imagesKind, ["", "#Fursuit"]⟩]
    facets := [⟨4, 8, []⟩, ⟨0, 3, [⟨tagFeatureKind, some "NEW"⟩, ⟨tagFeatureKind, some "paws"⟩]⟩]
    tags := ["IRL", "furryart"]
    labels := some ⟨selfLabelsKind, ["nudity"]⟩ }

/-- With its facets, features and tags in another order, and some of them twice. -/
def shuffled : Post :=
  { more with
    embeds := [⟨imagesKind, ["#Fursuit", "", "#Fursuit"]⟩]
    facets := [⟨0, 3, [⟨tagFeatureKind, some "paws"⟩, ⟨tagFeatureKind, some "NEW"⟩]⟩, ⟨4, 8, []⟩, ⟨4, 8, []⟩]
    tags := ["furryart", "IRL"] }

theorem picture_within_more : picture.Within more :=
  ⟨rfl, rfl, by decide, by decide, by decide, by decide, by decide⟩

theorem more_within_shuffled : more.Within shuffled :=
  ⟨rfl, rfl, by decide, by decide, by decide, by decide, by decide⟩

theorem shuffled_within_more : shuffled.Within more :=
  ⟨rfl, rfl, by decide, by decide, by decide, by decide, by decide⟩

/-- The first addition keeps the feeds and adds one, and the shuffle changes nothing. -/
theorem suit_stays :
    picture.classify.tags = [.fursuitMedia, .art] ∧ more.classify.tags = [.fursuitMedia, .art, .nsfw] ∧
      picture.classify.tags ⊆ more.classify.tags ∧ picture.classify.hashtags ⊆ more.classify.hashtags ∧
      shuffled.classify = more.classify := by
  obtain ⟨⟨hashtags, feeds, -⟩, -⟩ := classify_monotone picture_within_more
  exact ⟨by decide +kernel, by decide +kernel, feeds, hashtags,
    (classify_monotone more_within_shuffled).2 shuffled_within_more⟩

end MoreAndMore

end FeedIndex
