import FeedIndex.Proofs.Nesting
import Mathlib.Data.List.Forall2

/-!
# Posts written and read

The JSON text of a post is read as the post. Text and reader agree on the name of every field, and what the text leaves
out, because it is absent or empty, the reader puts back as it was. That is shown once for all inputs into which values
can be put: the fields of a structure are filled one after the other, and a member that is left out changes nothing
(`Filled.optional`). Members may stand in any order. Trees of texts are such inputs, and so are values themselves.
-/

namespace FeedIndex

open Json (Value Tree Arrangement Arranges)
open Wire (Reading Field)

/-! ## Members that fill a structure -/

section

variable {ω : Type} [Wire ω] [Bears ω] {α β : Type} {read : Reading ω α} {v : Value} {a : α}

theorem reads_listOf_map {write : α → Value} {items : List α} (reads : ∀ item ∈ items, Reads read (write item) item) :
    Reads (Wire.listOf read) (.array (items.map write)) items :=
  reads_listOf (List.forall₂_map_left_iff.mpr (List.forall₂_same.mpr reads))

theorem Reads.acts (reads : Reads read v a) {name : String} {isRequired : Bool} {put : α → β → β} :
    Acts ⟨name, isRequired, fun b => Wire.mapped (put · b) read⟩ v (put a) := fun b => reads.mapped (put · b)

section

variable {fs : List (Field ω β)} {seen : List String} {b b' c : β} {ms : List (String × Value)} {f : Field ω β}
  {g : β → β} {key : String}

theorem Filled.fill_eq (known : fs.find? (·.name == key) = some f) (new : key ∉ seen) (acts : Acts f v g)
    (next : g b = c) (rest : Filled fs (key :: seen) c ms b') : Filled fs seen b ((key, v) :: ms) b' :=
  .fill known new acts (next ▸ rest)

/-- A member that is left out counts as one that puts what is there anyway. -/
theorem Filled.optional {value? : Option Value} (known : fs.find? (·.name == key) = some f)
    (free : fs.all (fun f => !f.isRequired || f.name != key) = true) (new : key ∉ seen)
    (acts : ∀ v ∈ value?, Acts f v g) (next : g b = c) (absent : value? = none → b = c)
    (rest : Filled fs (key :: seen) c ms b') : Filled fs seen b (optionalMember key value? ++ ms) b' := by
  cases value? with
  | some v => exact .fill_eq known new (acts v rfl) next rest
  | none =>
    -- no required field has this name, so the rest need not have seen it
    rw [← absent rfl] at rest
    refine rest.of_subset (List.subset_cons_self ..) fun f listed required mem => ?_
    have other := List.all_eq_true.mp free f listed
    rw [required, Bool.not_true, Bool.false_or, bne_iff_ne] at other
    exact (List.mem_cons.mp mem).resolve_left other

end

theorem listValue?_eq_none {write : α → Value} {items : List α} (absent : listValue? write items = none) :
    items = [] := by
  cases items with
  | nil => rfl
  | cons item items => cases absent

theorem acts_map {γ : Type} {c? : Option γ} {read : Reading ω γ} {write : γ → Value} {name : String}
    {put : Option γ → β → β} (reads : ∀ c, Reads read (write c) c) (refuses : RefusesNull read) :
    ∀ v ∈ c?.map write, Acts (Wire.optionalField name read put) v (put c?) := by
  cases c? with
  | none => exact nofun
  | some c =>
    rintro _ ⟨⟩
    exact ((reads c).optional refuses).acts

theorem acts_listValue {γ : Type} {items : List γ} {read : Reading ω γ} {write : γ → Value} {name : String}
    {put : List γ → β → β} (reads : ∀ item ∈ items, Reads read (write item) item) :
    ∀ v ∈ listValue? write items, Acts (Wire.defaulted name (Wire.listOf read) put) v (put items) := by
  cases items with
  | nil => exact nofun
  | cons item items =>
    rintro _ ⟨⟩
    exact (reads_listOf_map reads).acts

end

/-! ## Parts of a post -/

section

variable {arrange : Arrangement} (arranges : Arranges arrange) {ω : Type} [Wire ω] [Bears ω]

include arranges

theorem reads_reference (ref : Reference) : Reads (ω := ω) Reference.reading (ref.write arrange) ref := by
  refine Filled.reads (Filled.arranged arranges ?_ ?_)
  · exact List.pairwise_pair.mpr (swap_puts fun _ _ _ => rfl)
  · exact .fill rfl (by decide) (reads_text ref.uri).acts (.fill rfl (by decide) (reads_text ref.cid).acts (.done rfl))

theorem reads_reply (reply : Reply) : Reads (ω := ω) Reply.reading (reply.write arrange) reply := by
  refine Filled.reads (Filled.arranged arranges ?_ ?_)
  · exact List.pairwise_pair.mpr (swap_puts fun _ _ _ => rfl)
  · exact .fill rfl (by decide) (reads_reference arranges reply.root).acts
      (.fill rfl (by decide) (reads_reference arranges reply.parent).acts (.done rfl))

theorem reads_label (val : String) :
    Reads (ω := ω) SelfLabels.label (.object (arrange [("val", .text val)])) val := by
  refine Filled.reads (Filled.arranged arranges (List.pairwise_singleton ..) ?_)
  exact .fill rfl (by decide) (reads_text val).acts (.done rfl)

theorem reads_labels (labels : SelfLabels) :
    Reads (ω := ω) SelfLabels.reading (labels.write arrange) labels := by
  refine Filled.reads (Filled.arranged arranges ?_ ?_)
  · exact List.pairwise_pair.mpr (swap_puts fun _ _ _ => rfl)
  · exact .fill rfl (by decide) (reads_text labels.kind).acts
      (.fill rfl (by decide) (reads_listOf_map fun val _ => reads_label arranges val).acts (.done rfl))

theorem reads_image (alt : String) : Reads (ω := ω) Embed.image (Embed.writeImage arrange alt) alt := by
  refine Filled.reads (Filled.arranged arranges (List.pairwise_singleton ..) ?_)
  exact .fill rfl (by decide) (reads_text alt).acts (.done rfl)

theorem reads_feature (feature : Feature) : Reads (ω := ω) Feature.reading (feature.write arrange) feature := by
  refine Filled.reads (Filled.arranged arranges ?_ ?_)
  · exact List.pairwise_pair.mpr (swap_puts fun _ _ _ => rfl)
  · rw [← List.append_nil (optionalMember ..)]
    exact .fill rfl (by decide) (reads_text feature.kind).acts
      (.optional rfl rfl (by decide) (acts_map reads_text refusesNull_text) rfl
        (fun absent => by rw [Option.map_eq_none_iff.mp absent]) (.done rfl))

theorem reads_span (facet : Facet) (start : facet.byteStart < 2 ^ 64) (stop : facet.byteEnd < 2 ^ 64) :
    Reads (ω := ω) Facet.span (facet.writeSpan arrange) (facet.byteStart, facet.byteEnd) := by
  have reads {n : Nat} (small : n < 2 ^ 64) : Reads (ω := ω) Wire.unsigned (.int n) n :=
    (reads_integer (Int.natCast_nonneg n) (Int.ofNat_lt.mpr (show n < Nat.pow 2 64 from small))).mapped Int.toNat
  refine Filled.reads (Filled.arranged arranges ?_ ?_)
  · exact List.pairwise_pair.mpr (swap_puts fun _ _ _ => rfl)
  · exact .fill rfl (by decide) (reads start).acts (.fill rfl (by decide) (reads stop).acts (.done rfl))

theorem reads_facet (facet : Facet) (start : facet.byteStart < 2 ^ 64) (stop : facet.byteEnd < 2 ^ 64) :
    Reads (ω := ω) Facet.reading (facet.write arrange) facet := by
  refine Filled.reads (Filled.arranged arranges ?_ ?_)
  · exact List.pairwise_pair.mpr (swap_puts fun _ _ _ => rfl)
  · exact .fill rfl (by decide) (reads_span arranges facet start stop).acts
      (.fill rfl (by decide) (reads_listOf_map fun feature _ => reads_feature arranges feature).acts (.done rfl))

/-- The chain that is left is read if it is no longer than the embeds that may be read. -/
theorem reads_chain (embeds : List Embed) {fuel : Nat} (enough : embeds.length ≤ fuel) :
    ∀ v ∈ Embed.writeChain? arrange embeds, Reads (ω := ω) (Embed.chain fuel) v embeds := by
  induction embeds generalizing fuel with
  | nil => exact nofun
  | cons embed inner ih =>
    rintro _ ⟨⟩
    obtain ⟨fuel, rfl⟩ := Nat.exists_eq_add_of_le' (Nat.le_trans (Nat.le_add_left 1 _) enough)
    have media : ∀ v ∈ Embed.writeChain? arrange inner, Reads (ω := ω) (Embed.chain fuel) v inner :=
      ih (Nat.le_of_succ_le_succ enough)
    unfold Embed.chain
    refine Reads.mapped (a := (embed, inner)) (Filled.reads (Filled.arranged arranges ?_ ?_)) _
    · simp only [List.pairwise_cons, List.forall_mem_cons, List.not_mem_nil, IsEmpty.forall_iff, implies_true,
        List.Pairwise.nil, and_true]
      and_intros
      all_goals exact swap_puts fun _ _ _ => rfl
    · rw [← List.append_nil (optionalMember "media" _), List.cons_append]
      refine .fill rfl (by decide) (reads_text embed.kind).acts (.optional rfl rfl (by decide)
        (acts_listValue fun alt _ => reads_image arranges alt) rfl (fun absent => by rw [listValue?_eq_none absent])
        (.optional rfl rfl (by decide) (fun v mem => ((media v mem).optional (refusesNull_chain fuel)).acts)
          rfl (fun absent => by rw [writeChain?_eq_none absent]; rfl) (.done rfl)))

/-- **A post is read again from what is written of it**, if as many embeds may be read as it has. -/
theorem reads_post (post : Post) (spans : ∀ facet ∈ post.facets, facet.byteStart < 2 ^ 64 ∧ facet.byteEnd < 2 ^ 64)
    (enough : post.embeds.length ≤ Wire.levels ω) : Reads (ω := ω) Post.reading (post.write arrange) post := by
  obtain ⟨text, langs, createdAt, reply, embeds, facets, tags, labels⟩ := post
  refine Filled.reads (Filled.arranged arranges ?_ ?_)
  · simp only [List.pairwise_cons, List.forall_mem_cons, List.not_mem_nil, IsEmpty.forall_iff, implies_true,
      List.Pairwise.nil, and_true]
    and_intros
    all_goals exact swap_puts fun _ _ _ => rfl
  · have chain := reads_chain (ω := ω) arranges embeds enough
    rw [← List.append_nil (Post.members ..)]
    unfold Post.members
    simp only [List.append_assoc, List.cons_append, List.nil_append]
    -- each step says what has been read after its field
    refine .fill_eq (c := ⟨text, [], "", none, [], [], [], none⟩) rfl (by decide) (reads_text text).acts rfl ?_
    refine .fill_eq (c := ⟨text, langs, "", none, [], [], [], none⟩) rfl (by decide)
      (reads_listOf_map fun lang _ => reads_text lang).acts rfl ?_
    refine .fill_eq (c := ⟨text, langs, createdAt, none, [], [], [], none⟩) rfl (by decide)
      (reads_text createdAt).acts rfl ?_
    refine .optional (c := ⟨text, langs, createdAt, reply, [], [], [], none⟩) rfl rfl (by decide)
      (acts_map (reads_reply arranges) (refusesNull_fields _ _)) rfl
      (fun absent => by rw [Option.map_eq_none_iff.mp absent]) ?_
    refine .optional (c := ⟨text, langs, createdAt, reply, embeds, [], [], none⟩) rfl rfl (by decide)
      (fun v mem => ((chain v mem).optional (refusesNull_chain _)).acts) rfl
      (fun absent => by rw [writeChain?_eq_none absent]) ?_
    refine .optional (c := ⟨text, langs, createdAt, reply, embeds, facets, [], none⟩) rfl rfl (by decide)
      (acts_listValue fun facet mem => reads_facet arranges facet (spans facet mem).1 (spans facet mem).2) rfl
      (fun absent => by rw [listValue?_eq_none absent]) ?_
    refine .optional (c := ⟨text, langs, createdAt, reply, embeds, facets, tags, none⟩) rfl rfl (by decide)
      (acts_listValue fun tag _ => reads_text tag) rfl (fun absent => by rw [listValue?_eq_none absent]) ?_
    exact .optional (c := ⟨text, langs, createdAt, reply, embeds, facets, tags, labels⟩) rfl rfl (by decide)
      (acts_map (reads_labels arranges) (refusesNull_fields _ _)) rfl
      (fun absent => by rw [Option.map_eq_none_iff.mp absent]) (.done rfl)

end

/-! ## Trees of values -/

namespace Json

theorem foldr_tree (vs : List Value) (more : List Tree) :
    vs.foldr (fun v more => v.tree :: more) more = vs.map Value.tree ++ more := by
  induction vs with
  | nil => rfl
  | cons v vs ih => rw [List.foldr_cons, ih, List.map_cons, List.cons_append]

theorem inTurn_tree (ms : List (String × Value)) :
    inTurn Tree.text (ms.map fun member => (some member.1, member.2.tree)) = (flat ms).map Value.tree := by
  induction ms with
  | nil => rfl
  | cons member ms ih =>
    show Tree.text (some member.1) :: member.2.tree :: inTurn _ _ = (Value.text member.1).tree :: member.2.tree :: _
    rw [ih, show (Value.text member.1).tree = .text (some member.1) from by rw [Value.tree]]
    rfl

theorem length_flat (ms : List (String × Value)) : (flat ms).length = 2 * ms.length := by
  induction ms with
  | nil => rfl
  | cons member ms ih =>
    show (flat ms).length + 1 + 1 = 2 * (ms.length + 1)
    omega

theorem Tree.eq_null {t : Tree} (isNull : t.isNull = true) : t = .null := by
  cases t with
  | null => rfl
  | _ => cases isNull

end Json

instance : Bears (List Tree) where
  put v more := v.tree :: more
  nothing := []
  optionLevels := rfl
  null more := by rw [Value.tree]; rfl
  null_of_taken {v more rest} taken := by
    have isNull : v.tree.isNull = true := (Option.ite_none_right_eq_some.mp taken).1
    rw [Json.Tree.eq_null isNull, Value.tree]
  text levels s more := by rw [Value.tree]; rfl
  text_null levels more := by rw [Value.tree]; rfl
  integer k more := by
    rw [Value.tree]
    show (Json.Numeral.ofInt k).integer?.map (fun n => (n, more)) = _
    rw [Json.Numeral.integer?_ofInt]
    rfl
  skip _ _ _ := rfl
  list vs more := by
    rw [Value.tree, Json.foldr_tree]
    show some (_, _) = _
    rw [List.length_map]
  named ms more := by
    rw [Value.tree, Json.foldr_tree]
    show some (Layout.named ((Json.inTurn _ _).length / 2), Json.inTurn _ _ ++ more) = _
    rw [Json.inTurn_tree, List.length_map, Json.length_flat, Nat.mul_div_cancel_left _ Nat.two_pos]
  inOrder vs more := by
    rw [Value.tree, Json.foldr_tree]
    show some (Layout.inOrder _, _) = _
    rw [List.length_map]
  layout_null more := by rw [Value.tree]; rfl

/-! ## The text of a post -/

/-- The text of a post is read as the post, if it is not nested too deep, and not at all if it is. -/
theorem ofJson?_render_write {arrange : Arrangement} (arranges : Arranges arrange) {post : Post}
    (spans : ∀ facet ∈ post.facets, facet.byteStart < 2 ^ 64 ∧ facet.byteEnd < 2 ^ 64) :
    Record.ofJson? (post.write arrange).render =
      if Embed.depth post.embeds < Json.maxLevels then some post else none := by
  have parsed : Record.ofJson? (post.write arrange).render =
      (Post.reading Json.maxLevels (Bears.put (post.write arrange) ([] : List Tree))).map Prod.fst := by
    unfold Record.ofJson?
    rw [(within_post arranges post).discrete.parse?_render]
    rfl
  rw [parsed]
  split
  · next shallow =>
    have enough : post.embeds.length ≤ Json.maxLevels := Nat.le_trans (length_le_depth _) (Nat.le_of_lt shallow)
    rw [reads_post arranges post spans enough _ [] ((depth_write_le_iff arranges post).mpr shallow)]
    rfl
  · next deep =>
    rcases read : Post.reading Json.maxLevels (Bears.put (post.write arrange) ([] : List Tree)) with _ | ⟨found, rest⟩
    · rfl
    · exact absurd ((depth_write_le_iff arranges post).mp (takes_post arranges post read).1) deep

/-- **A post survives being written and read.** The JSON text of a post is read as the same post, with every part that
is left out as it was, absent or empty, whether its members stand in the order of the fields or of their keys; unless
its embeds are nested deeper than any text is read, and then it is no post. Positions in the text of a post have 64
bits. -/
theorem Post.ofJson?_toJson (post : Post)
    (spans : ∀ facet ∈ post.facets, facet.byteStart < 2 ^ 64 ∧ facet.byteEnd < 2 ^ 64) :
    (Record.ofJson? post.toJson = if Embed.depth post.embeds < Json.maxLevels then some post else none) ∧
      Record.ofJson? post.toValue.render = if Embed.depth post.embeds < Json.maxLevels then some post else none :=
  ⟨ofJson?_render_write Json.arranges_id spans, ofJson?_render_write Json.arranges_sorted spans⟩

/-! ### A post with all parts, and posts that are nested deep -/

namespace AllParts

/-- A post with parts that are there, absent and empty, and a text with characters that are escaped. -/
def full : Post where
  text := "a \"quoted\" #Tag\n\\ ı"
  langs := []
  createdAt := "2025-01-26T17:11:03Z"
  reply := some ⟨⟨"at://did:plc:a/app.bsky.feed.post/0", "bafyreib"⟩, ⟨"at://did:plc:a/app.bsky.feed.post/1", ""⟩⟩
  embeds := [⟨"app.bsky.embed.recordWithMedia", []⟩, ⟨"app.bsky.embed.images", ["", "#fursuit"]⟩]
  facets := [⟨11, 15, [⟨"app.bsky.richtext.facet#tag", some "Tag"⟩, ⟨"", none⟩]⟩, ⟨0, 0, []⟩]
  tags := ["", "#extra"]
  labels := some ⟨"", []⟩

/-- A post with so many embeds one in another. -/
def nested (embeds : Nat) : Post := { Post.blank with embeds := List.replicate embeds ⟨"", []⟩ }

theorem depth_nested (embeds : Nat) : Embed.depth (nested embeds).embeds = embeds := by
  show Embed.depth (List.replicate embeds ⟨"", []⟩) = embeds
  induction embeds with
  | zero => rfl
  | succ embeds ih =>
    rw [List.replicate_succ, Embed.depth, ih, if_pos rfl, Nat.zero_max]

/-- **The full post survives**, and so does one with 126 embeds; with one more it is not read. -/
theorem full_survives :
    Record.ofJson? full.toJson = some full ∧ Record.ofJson? full.toValue.render = some full ∧
      Record.ofJson? (nested 126).toJson = some (nested 126) ∧ (Record.ofJson? (nested 127).toJson : Option Post) = none := by
  have written := full.ofJson?_toJson (by decide)
  rw [if_pos (by decide)] at written
  refine ⟨written.1, written.2, ?_, ?_⟩
  · rw [((nested 126).ofJson?_toJson nofun).1, depth_nested, if_pos (by decide)]
  · rw [((nested 127).ofJson?_toJson nofun).1, depth_nested, if_neg (by decide)]

end AllParts

end FeedIndex
