import FeedIndex.Proofs.Sources

/-!
# Images that count and images that are read

A post shows images if an embed of images stands anywhere in its chain of embeds, inside records with media only. The
alternative texts are taken from the outermost two embeds of the chain. So the texts of the images that count are read
if the embed is one of these two, and then every hashtag in them counts for the feeds of the post as well. Of an embed
further inside they are not read: whatever they say, the classification is the same.
-/

namespace FeedIndex

open Hashtag (find fold)

/-! ## The embed that shows the images -/

/-- **ShowsAt** — the embed at the depth has images, and those around it are records with media. -/
structure ShowsAt (embeds : List Embed) (depth : Nat) (embed : Embed) : Prop where
  there : embeds[depth]? = some embed
  kind : embed.kind = imagesKind
  images : embed.images ≠ []
  outer : ∀ around ∈ embeds.take depth, around.kind = recordWithMediaKind

theorem recordWithMediaKind_ne : recordWithMediaKind ≠ imagesKind := by decide

theorem showsImages_of_showsAt {embeds : List Embed} {depth : Nat} {embed : Embed}
    (shown : ShowsAt embeds depth embed) : showsImages embeds = true := by
  induction embeds generalizing depth with
  | nil => cases shown.there
  | cons outermost inner ih =>
    rw [showsImages]
    rcases depth with _ | depth
    · obtain rfl := Option.some.inj shown.there
      simp [shown.kind, shown.images]
    · have around : outermost.kind = recordWithMediaKind := shown.outer _ (by simp)
      rw [around, if_neg recordWithMediaKind_ne, if_pos rfl]
      exact ih ⟨shown.there, shown.kind, shown.images, fun e mem => shown.outer e (by simp [mem])⟩

theorem showsImages_iff {embeds : List Embed} :
    showsImages embeds = true ↔ ∃ depth embed, ShowsAt embeds depth embed := by
  refine ⟨fun counts => ?_, fun ⟨depth, embed, shown⟩ => showsImages_of_showsAt shown⟩
  induction embeds with
  | nil => cases counts
  | cons outermost inner ih =>
    rw [showsImages] at counts
    split at counts
    · next kind =>
      have images : outermost.images ≠ [] := by simpa using counts
      exact ⟨0, outermost, rfl, kind, images, by simp⟩
    · split at counts
      · next around =>
        obtain ⟨depth, embed, there, kind, images, outer⟩ := ih counts
        refine ⟨depth + 1, embed, there, kind, images, ?_⟩
        simpa [around] using outer
      · cases counts

/-- One embed shows the images. -/
theorem ShowsAt.unique {embeds : List Embed} {depth depth' : Nat} {embed embed' : Embed}
    (shown : ShowsAt embeds depth embed) (shown' : ShowsAt embeds depth' embed') :
    depth' = depth ∧ embed' = embed := by
  have notInside {d d' : Nat} {e e' : Embed} (here : ShowsAt embeds d e) (inside : ShowsAt embeds d' e') :
      ¬ d < d' := by
    intro deeper
    have mem : e ∈ embeds.take d' := List.mem_of_getElem? (by rw [List.getElem?_take_of_lt deeper, here.there])
    exact recordWithMediaKind_ne ((inside.outer e mem).symm.trans here.kind)
  have same : depth' = depth := by
    have := notInside shown shown'
    have := notInside shown' shown
    omega
  subst same
  exact ⟨rfl, Option.some.inj (shown'.there.symm.trans shown.there)⟩

/-! ## What a hashtag counts for -/

/-- The hashtags that a feed asks for. -/
def FeedTag.words : FeedTag → List String
  | .fursuitMedia => fursuitHashtags
  | .art => artHashtags
  | .nsfw => nsfwHashtags
  | .commissionsOpen => commissionsHashtags

/-- **Counted** — a token is among the hashtags of a post in all its folded forms, and puts the post into the feeds
that ask for it, and among adult content. -/
structure Counted (post : Post) (token : List Char) : Prop where
  listed : ∀ tag ∈ foldings (Hashtag.isTurkish post.langs) token, tag ∈ post.classify.hashtags
  feeds (feed : FeedTag) : String.ofList (fold token) ∈ feed.words → feed ∈ post.classify.tags
  nsfw : String.ofList (fold token) ∈ nsfwHashtags → post.classify.isNsfw = true

/-- A tag of a post that shows images counts. -/
theorem counted_of_hasTag {post : Post} {core : List Char} (media : showsImages post.embeds = true)
    (has : post.HasTag core) : Counted post core := by
  have listed : String.ofList (fold core) ∈ post.hashtags := Post.mem_hashtags_of_hasTag has
  have adult (wanted : String.ofList (fold core) ∈ nsfwHashtags) :
      isNsfw post.hashtags post.selfLabels = true := by
    rw [isNsfw, anyOf_eq_true_iff.mpr ⟨_, wanted, listed⟩, Bool.true_or]
  refine ⟨fun tag form => Post.mem_hashtags.mpr ⟨core, has, form⟩, fun feed wanted => ?_, adult⟩
  refine List.mem_filter.mpr ⟨by cases feed <;> decide, ?_⟩
  have asked : anyOf feed.words post.hashtags = true := anyOf_eq_true_iff.mpr ⟨_, wanted, listed⟩
  cases feed with
  | nsfw => exact adult wanted
  | fursuitMedia => simpa [FeedTag.applies, FeedTag.words, media] using asked
  | art => simpa [FeedTag.applies, FeedTag.words, media] using asked
  | commissionsOpen => exact asked

/-! ## Texts that are read, and texts that are not -/

/-- The post with other images in the embed at the depth. -/
def Post.withImages (post : Post) (depth : Nat) (embed : Embed) (images : List String) : Post :=
  { post with embeds := post.embeds.set depth { embed with images } }

theorem showsVideo_congr {embeds embeds' : List Embed} (kinds : embeds.map (·.kind) = embeds'.map (·.kind)) :
    showsVideo embeds = showsVideo embeds' := by
  induction embeds generalizing embeds' with
  | nil => rw [List.map_eq_nil_iff.mp kinds.symm]
  | cons outermost inner ih =>
    obtain ⟨outermost', inner', rfl, kind, rest⟩ := List.map_eq_cons_iff.mp kinds.symm
    rw [showsVideo, showsVideo, kind, ih rest.symm]

/-- Further inside than the second embed nothing is read. -/
theorem classify_withImages {post : Post} {depth : Nat} {embed : Embed} {images : List String}
    (shown : ShowsAt post.embeds depth embed) (deep : 2 ≤ depth) (some : images ≠ []) :
    (post.withImages depth embed images).classify = post.classify := by
  obtain ⟨inside, there⟩ := List.getElem?_eq_some_iff.mp shown.there
  have texts : alternativeTexts (post.withImages depth embed images).embeds = alternativeTexts post.embeds := by
    rw [alternativeTexts, Post.withImages, List.take_set_of_le deep]
    rfl
  have hashtags : (post.withImages depth embed images).hashtags = post.hashtags := by
    rw [Post.hashtags, Post.rawHashtags, texts]
    rfl
  have stillShown : ShowsAt (post.withImages depth embed images).embeds depth { embed with images } := by
    refine ⟨List.getElem?_set_self inside, shown.kind, some, ?_⟩
    rw [Post.withImages, List.take_set_of_le le_rfl]
    exact shown.outer
  have media : showsImages (post.withImages depth embed images).embeds = showsImages post.embeds :=
    (showsImages_of_showsAt stillShown).trans (showsImages_of_showsAt shown).symm
  have video : showsVideo (post.withImages depth embed images).embeds = showsVideo post.embeds := by
    refine showsVideo_congr ?_
    rw [Post.withImages, List.map_set]
    have inKinds : depth < (post.embeds.map (·.kind)).length := by simpa using inside
    have kind : (post.embeds.map (·.kind))[depth] = embed.kind := by rw [List.getElem_map, there]
    change (post.embeds.map (·.kind)).set depth embed.kind = _
    rw [← kind, List.set_getElem_self]
  unfold Post.classify
  rw [hashtags, media, video]
  rfl

/-- **Which image texts are read.** A post that shows images shows them in one embed. If that is one of the outermost
two, each hashtag in the text of each of its images counts. If it stands further inside, the classification is the
same with any other images in its place. -/
theorem image_texts_read {post : Post} (media : post.classify.hasMedia = true) :
    ∃ depth embed, (∀ d e, ShowsAt post.embeds d e ↔ d = depth ∧ e = embed) ∧
      (depth < 2 → ∀ text ∈ embed.images, ∀ token ∈ find text, Counted post token) ∧
        (2 ≤ depth → ∀ images ≠ [], (post.withImages depth embed images).classify = post.classify) := by
  obtain ⟨depth, embed, shown⟩ := showsImages_iff.mp media
  refine ⟨depth, embed, fun d e => ⟨fun other => shown.unique other, ?_⟩, fun outside text inImage token found => ?_,
    fun deep images some => classify_withImages shown deep some⟩
  · rintro ⟨rfl, rfl⟩
    exact shown
  · refine counted_of_hasTag media (.inl (List.mem_append_right _ (List.mem_flatMap.mpr ⟨text, ?_, found⟩)))
    have outermost : embed ∈ post.embeds.take 2 :=
      List.mem_of_getElem? (by rw [List.getElem?_take_of_lt outside, shown.there])
    exact List.mem_flatMap.mpr ⟨embed, outermost, inImage⟩

/-! ### Images behind one record and behind two -/

namespace RecordWithImages

/-- A post whose image, with the text `#fursuit #nsfw`, stands inside so many records with media. -/
def inside (records : Nat) : Post :=
  { Post.blank with
    text := "look"
    createdAt := "2025-01-26T17:11:03Z"
    embeds := List.replicate records ⟨recordWithMediaKind, []⟩ ++ [⟨imagesKind, ["#fursuit #nsfw"]⟩] }

/-- **An image that is not read**: the post shows it, but has none of its hashtags. -/
theorem second_record_unread :
    (inside 2).classify.hasMedia = true ∧ "nsfw".toList ∈ find "#fursuit #nsfw" ∧ (inside 2).classify.hashtags = [] ∧
      (inside 2).classify.isNsfw = false ∧ (inside 2).classify.tags = [] := by
  decide +kernel

/-- Behind one record it is read. -/
theorem first_record_read :
    (inside 1).classify.hasMedia = true ∧ Counted (inside 1) "nsfw".toList := by
  have media : (inside 1).classify.hasMedia = true := by decide +kernel
  obtain ⟨depth, embed, shown, read, -⟩ := image_texts_read media
  have place : ShowsAt (inside 1).embeds 1 ⟨imagesKind, ["#fursuit #nsfw"]⟩ := ⟨rfl, rfl, by simp, by decide⟩
  obtain ⟨rfl, rfl⟩ := (shown _ _).mp place
  exact ⟨media, read (by decide) "#fursuit #nsfw" (by simp) _ (by decide +kernel)⟩

end RecordWithImages

end FeedIndex
