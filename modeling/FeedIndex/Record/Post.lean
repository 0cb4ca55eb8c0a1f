import FeedIndex.Record.Basic

/-!
# Posts

A post with the parts that its classification looks at. An embed can carry another one, a record together
with media; the embeds of a post are therefore a chain, and they are kept as a list with the outermost
first. Absent and empty parts are left out when a post is written and come back as absent and empty.
-/

namespace FeedIndex

open Wire (Reading fields required defaulted optionalField listOf mapped)

variable {ω : Type} [Wire ω]

/-- **Reply** — what a post answers to. -/
structure Reply where
  root : Reference
  parent : Reference
deriving DecidableEq, Repr

/-- **Embed** — the kind of an embed, and the alternative texts of its images. -/
structure Embed where
  kind : String
  images : List String
deriving DecidableEq, Repr

/-- **Feature** — what a facet marks its piece of text as. -/
structure Feature where
  kind : String
  tag : Option String
deriving DecidableEq, Repr

/-- **Facet** — a piece of the text, by its bytes, with its features. -/
structure Facet where
  byteStart : Nat
  byteEnd : Nat
  features : List Feature
deriving DecidableEq, Repr

/-- **Post** — a post. -/
structure Post where
  text : String
  langs : List String
  createdAt : String
  reply : Option Reply
  /-- The chain of embeds, the outermost first. -/
  embeds : List Embed
  facets : List Facet
  tags : List String
  labels : Option SelfLabels
deriving DecidableEq, Repr

/-! ## Reading -/

/-- Reads what a post answers to. -/
def Reply.reading : Reading ω Reply :=
  fields ⟨⟨"", ""⟩, ⟨"", ""⟩⟩ [
    required "root" Reference.reading fun root reply => { reply with root },
    required "parent" Reference.reading fun parent reply => { reply with parent }]

/-- Reads an image. -/
def Embed.image : Reading ω String := fields "" [defaulted "alt" Wire.text fun alt _ => alt]

/-- **chain** — reads an embed and those inside it. The number bounds the embeds; the levels are enough,
as every embed takes one. -/
def Embed.chain : Nat → Reading ω (List Embed)
  | 0 => fun _ _ => none
  | fuel + 1 =>
    let outermost : Embed := ⟨"", []⟩
    mapped (fun (embed, inner) => embed :: inner) <| fields (outermost, []) [
      defaulted "$type" Wire.text fun kind (embed, inner) => ({ embed with kind }, inner),
      defaulted "images" (listOf Embed.image) fun images (embed, inner) => ({ embed with images }, inner),
      optionalField "media" (Embed.chain fuel) fun media (embed, _) => (embed, media.getD [])]

/-- Reads a feature. -/
def Feature.reading : Reading ω Feature :=
  fields ⟨"", none⟩ [
    defaulted "$type" Wire.text fun kind feature => { feature with kind },
    optionalField "tag" Wire.text fun tag feature => { feature with tag }]

/-- Reads the piece of text of a facet. -/
def Facet.span : Reading ω (Nat × Nat) :=
  fields (0, 0) [
    required "byteStart" Wire.unsigned fun byteStart (_, byteEnd) => (byteStart, byteEnd),
    required "byteEnd" Wire.unsigned fun byteEnd (byteStart, _) => (byteStart, byteEnd)]

/-- Reads a facet. -/
def Facet.reading : Reading ω Facet :=
  fields ⟨0, 0, []⟩ [
    required "index" Facet.span fun (byteStart, byteEnd) facet => { facet with byteStart, byteEnd },
    defaulted "features" (listOf Feature.reading) fun features facet => { facet with features }]

/-- A post of which nothing has been read. -/
def Post.blank : Post := ⟨"", [], "", none, [], [], [], none⟩

/-- Reads a post. -/
def Post.reading : Reading ω Post :=
  fields Post.blank [
    defaulted "text" Wire.text fun text post => { post with text },
    defaulted "langs" (listOf Wire.text) fun langs post => { post with langs },
    required "createdAt" Wire.text fun createdAt post => { post with createdAt },
    optionalField "reply" Reply.reading fun reply post => { post with reply },
    optionalField "embed" (Embed.chain (Wire.levels ω)) fun embed post =>
      { post with embeds := embed.getD [] },
    defaulted "facets" (listOf Facet.reading) fun facets post => { post with facets },
    defaulted "tags" (listOf Wire.text) fun tags post => { post with tags },
    optionalField "labels" SelfLabels.reading fun labels post => { post with labels }]

/-! ## Writing -/

/-- A member that is left out when its value is absent. -/
def optionalMember (key : String) (value : Option Json.Value) : List (String × Json.Value) :=
  match value with
  | none => []
  | some v => [(key, v)]

/-- A list as a value, or nothing if it is empty. -/
def listValue? (toValue : α → Json.Value) : List α → Option Json.Value
  | [] => none
  | items => some (.array (items.map toValue))

/-- What a post answers to, as an object. -/
def Reply.write (arrange : Json.Arrangement) (reply : Reply) : Json.Value :=
  .object (arrange [("root", reply.root.write arrange), ("parent", reply.parent.write arrange)])

/-- An image as an object. -/
def Embed.writeImage (arrange : Json.Arrangement) (alt : String) : Json.Value := .object (arrange [("alt", .text alt)])

/-- A chain of embeds as the object of the outermost. -/
def Embed.writeChain? (arrange : Json.Arrangement) : List Embed → Option Json.Value
  | [] => none
  | embed :: inner =>
    some (.object (arrange
      (("$type", .text embed.kind) ::
        optionalMember "images" (listValue? (Embed.writeImage arrange) embed.images) ++
        optionalMember "media" (Embed.writeChain? arrange inner))))

/-- A feature as an object. -/
def Feature.write (arrange : Json.Arrangement) (feature : Feature) : Json.Value :=
  .object (arrange (("$type", .text feature.kind) :: optionalMember "tag" (feature.tag.map .text)))

/-- The piece of text of a facet as an object. -/
def Facet.writeSpan (arrange : Json.Arrangement) (facet : Facet) : Json.Value :=
  .object (arrange [("byteStart", .int facet.byteStart), ("byteEnd", .int facet.byteEnd)])

/-- A facet as an object. -/
def Facet.write (arrange : Json.Arrangement) (facet : Facet) : Json.Value :=
  .object (arrange [("index", facet.writeSpan arrange),
    ("features", .array (facet.features.map (Feature.write arrange)))])

/-- The members of a post in the order of its fields. -/
def Post.members (arrange : Json.Arrangement) (post : Post) : List (String × Json.Value) :=
  [("text", .text post.text), ("langs", .texts post.langs), ("createdAt", .text post.createdAt)] ++
    optionalMember "reply" (post.reply.map (Reply.write arrange)) ++
    optionalMember "embed" (Embed.writeChain? arrange post.embeds) ++
    optionalMember "facets" (listValue? (Facet.write arrange) post.facets) ++
    optionalMember "tags" (listValue? .text post.tags) ++
    optionalMember "labels" (post.labels.map (SelfLabels.write arrange))

/-- A post as an object. -/
def Post.write (arrange : Json.Arrangement) (post : Post) : Json.Value := .object (arrange (post.members arrange))

/-- A post as a value, which has its members by their keys. -/
def Post.toValue (post : Post) : Json.Value := post.write Keyed.sorted

/-- **toJson** — the JSON text of a post, with its fields in their order. -/
def Post.toJson (post : Post) : String := (post.write id).render

end FeedIndex
