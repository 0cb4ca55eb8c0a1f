import FeedIndex.Hashtag
import FeedIndex.Record.Post

/-!
# What is stored about a post

The hashtags of a post from all of its places, its self labels, whether it shows images or a video, whether
it is adult content, and the feeds it belongs to. Hashtags are compared after folding; a Turkish post has
each of them under both foldings, so that a search finds it with either. Only the plain folding can give a
word of the reserved lists, since the other one keeps a letter that no such word has.
-/

namespace FeedIndex

/-! ## Reserved words -/

/-- Hashtags of adult content. -/
def nsfwHashtags : List String := ["nsfw", "murrsuit", "mursuit", "nsfwfurry", "furrynsfw"]

/-- Self labels of adult content. -/
def nsfwSelfLabels : List String := ["porn", "sexual", "nudity", "graphic-media"]

/-- Hashtags of suits. -/
def fursuitHashtags : List String := ["fursuit", "murrsuit", "mursuit", "fursuitfriday"]

/-- Hashtags of art. -/
def artHashtags : List String := ["art", "furryart", "furart"]

/-- Hashtags of open commissions. -/
def commissionsHashtags : List String := ["commsopen", "commissionsopen"]

/-- The kind of a list of self labels; a list without a kind counts as one too. -/
def selfLabelsKind : String := "com.atproto.label.defs#selfLabels"

/-- The kind of a feature that marks a hashtag. -/
def tagFeatureKind : String := "app.bsky.richtext.facet#tag"

/-- The kind of an embed of images. -/
def imagesKind : String := "app.bsky.embed.images"

/-- The kind of an embed of a video. -/
def videoKind : String := "app.bsky.embed.video"

/-- The kind of an embed of a record together with media. -/
def recordWithMediaKind : String := "app.bsky.embed.recordWithMedia"

/-! ## Hashtags -/

/-- **insertTag** — adds a text to ascending texts, once. -/
def insertTag (tag : String) : List String → List String
  | [] => [tag]
  | t :: ts => if tag < t then tag :: t :: ts else if tag = t then t :: ts else t :: insertTag tag ts

/-- Ascending texts without repeats. -/
def sortTags (tags : List String) : List String := tags.foldl (fun sorted tag => insertTag tag sorted) []

/-- A tag without the hashes in front. -/
def withoutHashes (tag : String) : List Char := tag.toList.dropWhile Hashtag.isHash

/-- The tag that a feature marks. -/
def Feature.hashtag? (feature : Feature) : Option (List Char) :=
  if feature.kind = tagFeatureKind then feature.tag.map withoutHashes else none

/-- The alternative texts of a chain of embeds: those of the outermost two. -/
def alternativeTexts (embeds : List Embed) : List String := (embeds.take 2).flatMap (·.images)

/-- The hashtags of a post as they are written: in its text, in its facets, in its list of tags, and in the
alternative texts of its images. -/
def Post.rawHashtags (post : Post) : List (List Char) :=
  Hashtag.find post.text ++
    (post.facets.flatMap (·.features)).filterMap Feature.hashtag? ++
    post.tags.map withoutHashes ++
    (alternativeTexts post.embeds).flatMap Hashtag.find

/-- The folded forms of a tag. -/
def foldings (turkish : Bool) (tag : List Char) : List String :=
  if turkish then [String.ofList (Hashtag.foldTurkish tag), String.ofList (Hashtag.fold tag)]
  else [String.ofList (Hashtag.fold tag)]

/-- **hashtags** — the folded hashtags of a post, ascending. -/
def Post.hashtags (post : Post) : List String :=
  sortTags (((post.rawHashtags.map Text.trim).filter Hashtag.isTag).flatMap
    (foldings (Hashtag.isTurkish post.langs)))

/-! ## Media -/

/-- The chain of embeds shows images. -/
def showsImages : List Embed → Bool
  | [] => false
  | embed :: inner =>
    if embed.kind = imagesKind then !embed.images.isEmpty
    else if embed.kind = recordWithMediaKind then showsImages inner
    else false

/-- The chain of embeds shows a video. -/
def showsVideo : List Embed → Bool
  | [] => false
  | embed :: inner =>
    if embed.kind = videoKind then true
    else if embed.kind = recordWithMediaKind then showsVideo inner
    else false

/-! ## Labels and feeds -/

/-- The self labels of a post. A list of another kind does not count. -/
def Post.selfLabels (post : Post) : List String :=
  match post.labels with
  | none => []
  | some labels => if labels.kind = "" ∨ labels.kind = selfLabelsKind then labels.values else []

/-- One of the wanted words is there. -/
def anyOf (wanted present : List String) : Bool := wanted.any present.contains

/-- **isNsfw** — the hashtags or the labels are those of adult content. -/
def isNsfw (hashtags selfLabels : List String) : Bool :=
  anyOf nsfwHashtags hashtags || anyOf nsfwSelfLabels selfLabels

/-- **FeedTag** — a feed that a post can belong to. -/
inductive FeedTag
  | fursuitMedia
  | art
  | nsfw
  | commissionsOpen
deriving DecidableEq, Repr

/-- The name of a feed. -/
def FeedTag.name : FeedTag → String
  | .fursuitMedia => "fursuit-media"
  | .art => "art"
  | .nsfw => "nsfw"
  | .commissionsOpen => "commissions-open"

/-- All feeds in their order. -/
def FeedTag.all : List FeedTag := [.fursuitMedia, .art, .nsfw, .commissionsOpen]

/-- A post with such attributes belongs to the feed. -/
def FeedTag.applies (hashtags : List String) (hasMedia nsfw : Bool) : FeedTag → Bool
  | .fursuitMedia => hasMedia && anyOf fursuitHashtags hashtags
  | .art => hasMedia && anyOf artHashtags hashtags
  | .nsfw => nsfw
  | .commissionsOpen => anyOf commissionsHashtags hashtags

/-! ## All of it -/

/-- **Classification** — what is stored about a post besides its address. -/
structure Classification where
  hashtags : List String
  selfLabels : List String
  hasMedia : Bool
  hasVideo : Bool
  isNsfw : Bool
  isReply : Bool
  tags : List FeedTag
deriving DecidableEq, Repr

/-- **classify** — the classification of a post. -/
def Post.classify (post : Post) : Classification :=
  let nsfw := isNsfw post.hashtags post.selfLabels
  { hashtags := post.hashtags
    selfLabels := post.selfLabels
    hasMedia := showsImages post.embeds
    hasVideo := showsVideo post.embeds
    isNsfw := nsfw
    isReply := post.reply.isSome
    tags := FeedTag.all.filter (FeedTag.applies post.hashtags (showsImages post.embeds) nsfw) }

end FeedIndex
