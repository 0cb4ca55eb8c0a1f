import FeedIndex.Proofs.Json.Rendered
import FeedIndex.Proofs.Rereading

/-!
# How deep records are nested

What is written of a post is nested a few levels deep, and as much deeper as its embeds are nested one in another: no
other part of it can be too deep for a text (`depth_write_le_iff`). A text has a limit, and the limit counts: where a
reading takes what was written, there is a level for every container in it (`takes_post`). Neither depends on the order
in which members stand.
-/

namespace FeedIndex

open Json (Value Arrangement Arranges)
open Wire (Reading Field)

/-! ## Values that are written -/

namespace Json

theorem itemsDepth_le {items : List Value} {n : Nat} (all : ∀ item ∈ items, item.depth ≤ n) : itemsDepth items ≤ n := by
  induction items with
  | nil => exact Nat.zero_le n
  | cons item items ih =>
    obtain ⟨first, rest⟩ := List.forall_mem_cons.mp all
    exact Nat.max_le.mpr ⟨first, ih rest⟩

theorem membersDepth_le {members : List (String × Value)} {n : Nat} (all : ∀ member ∈ members, member.2.depth ≤ n) :
    membersDepth members ≤ n := by
  induction members with
  | nil => exact Nat.zero_le n
  | cons member members ih =>
    obtain ⟨first, rest⟩ := List.forall_mem_cons.mp all
    exact Nat.max_le.mpr ⟨first, ih rest⟩

/-- **Within** — the value has no doubles, and its containers are nested no deeper than the number says. -/
structure Value.Within (n : Nat) (v : Value) : Prop where
  discrete : v.Discrete
  depth : v.depth ≤ n

namespace Value.Within

variable {n m : Nat} {v : Value} {arrange : Arrangement}

theorem mono (within : v.Within n) (le : n ≤ m) : v.Within m := ⟨within.discrete, Nat.le_trans within.depth le⟩

theorem text (n : Nat) (s : String) : (Value.text s).Within n := ⟨.text s, Nat.zero_le n⟩

theorem int (n : Nat) (k : Int) : (Value.int k).Within n := ⟨.int k, Nat.zero_le n⟩

theorem array {items : List Value} (all : ∀ item ∈ items, item.Within n) : (Value.array items).Within (n + 1) :=
  ⟨.array fun item mem => (all item mem).discrete, Nat.succ_le_succ (itemsDepth_le fun item mem => (all item mem).depth)⟩

theorem object (arranges : Arranges arrange) {members : List (String × Value)}
    (all : ∀ member ∈ members, member.2.Within n) : (Value.object (arrange members)).Within (n + 1) := by
  have arranged (member : String × Value) (mem : member ∈ arrange members) := all member (arranges.subset members mem)
  exact ⟨.object fun member mem => (arranged member mem).discrete,
    Nat.succ_le_succ (membersDepth_le fun member mem => (arranged member mem).depth)⟩

theorem optional {key : String} {value? : Option Value} (all : ∀ v ∈ value?, v.Within n) :
    ∀ member ∈ optionalMember key value?, member.2.Within n := by
  cases value? with
  | none => exact nofun
  | some v => exact List.forall_mem_singleton.mpr (all v rfl)

theorem listValue {α : Type} {write : α → Value} {items : List α} (all : ∀ item ∈ items, (write item).Within n) :
    ∀ v ∈ listValue? write items, v.Within (n + 1) := by
  cases items with
  | nil => exact nofun
  | cons item items =>
    rintro _ ⟨⟩
    exact array (List.forall_mem_map.mpr all)

end Value.Within

end Json

open Json.Value (Within)

/-- How deep the containers of a chain of embeds are nested: each embed is one, and its images are a list of objects
inside it. -/
def Embed.depth : List Embed → Nat
  | [] => 0
  | embed :: inner => max (if embed.images = [] then 0 else 2) (Embed.depth inner) + 1

theorem writeChain?_eq_none {arrange : Arrangement} {embeds : List Embed}
    (absent : Embed.writeChain? arrange embeds = none) : embeds = [] := by
  cases embeds with
  | nil => rfl
  | cons embed inner => cases absent

section

variable {arrange : Arrangement} (arranges : Arranges arrange)

include arranges

theorem within_reference (ref : Reference) : (ref.write arrange).Within 1 :=
  .object arranges (List.forall_mem_cons.mpr ⟨.text 0 _, List.forall_mem_singleton.mpr (.text 0 _)⟩)

theorem within_reply (reply : Reply) : (reply.write arrange).Within 2 :=
  .object arranges (List.forall_mem_cons.mpr
    ⟨within_reference arranges _, List.forall_mem_singleton.mpr (within_reference arranges _)⟩)

theorem within_labels (labels : SelfLabels) : (labels.write arrange).Within 3 := by
  have label (val : String) : (Value.object (arrange [("val", .text val)])).Within 1 :=
    .object arranges (List.forall_mem_singleton.mpr (.text 0 _))
  exact .object arranges (List.forall_mem_cons.mpr ⟨.text 2 _, List.forall_mem_singleton.mpr
    (.array (List.forall_mem_map.mpr fun val _ => label val))⟩)

theorem within_image (alt : String) : (Embed.writeImage arrange alt).Within 1 :=
  .object arranges (List.forall_mem_singleton.mpr (.text 0 _))

theorem within_chain (embeds : List Embed) : ∀ v ∈ Embed.writeChain? arrange embeds, v.Within (Embed.depth embeds) := by
  induction embeds with
  | nil => exact nofun
  | cons embed inner ih =>
    rintro _ ⟨⟩
    have images : ∀ v ∈ listValue? (Embed.writeImage arrange) embed.images,
        v.Within (if embed.images = [] then 0 else 2) := by
      intro v mem
      have shown : embed.images ≠ [] := by
        rintro none
        rw [none] at mem
        cases mem
      rw [if_neg shown]
      exact Within.listValue (fun alt _ => within_image arranges alt) v mem
    refine .object arranges (List.forall_mem_cons.mpr ⟨.text _ _, List.forall_mem_append.mpr ⟨.optional ?_, .optional ?_⟩⟩)
    · exact fun v mem => (images v mem).mono (Nat.le_max_left _ _)
    · exact fun v mem => (ih v mem).mono (Nat.le_max_right _ _)

theorem within_facet (facet : Facet) : (facet.write arrange).Within 3 := by
  have span : (facet.writeSpan arrange).Within 1 :=
    .object arranges (List.forall_mem_cons.mpr ⟨.int 0 _, List.forall_mem_singleton.mpr (.int 0 _)⟩)
  have feature (feature : Feature) : (feature.write arrange).Within 1 := by
    refine .object arranges (List.forall_mem_cons.mpr ⟨.text 0 _, .optional fun v mem => ?_⟩)
    obtain ⟨tag, -, rfl⟩ := Option.map_eq_some_iff.mp mem
    exact .text 0 tag
  exact .object arranges (List.forall_mem_cons.mpr ⟨span.mono (by decide), List.forall_mem_singleton.mpr
    (.array (List.forall_mem_map.mpr fun facet _ => feature facet))⟩)

theorem within_post (post : Post) : (post.write arrange).Within (max 4 (Embed.depth post.embeds) + 1) := by
  have lifted {v : Value} {n : Nat} (within : v.Within n) (small : n ≤ 4) :
      v.Within (max 4 (Embed.depth post.embeds)) := within.mono (Nat.le_trans small (Nat.le_max_left _ _))
  have texts (items : List String) : ∀ v ∈ items.map Value.text, v.Within 0 :=
    List.forall_mem_map.mpr fun item _ => .text 0 item
  refine .object arranges ?_
  unfold Post.members
  simp only [List.forall_mem_append, List.forall_mem_cons]
  refine ⟨⟨⟨⟨⟨⟨.text _ _, lifted (.array (texts _)) (by decide), .text _ _, nofun⟩, ?_⟩, ?_⟩, ?_⟩, ?_⟩, ?_⟩
  · refine .optional fun v mem => ?_
    obtain ⟨reply, -, rfl⟩ := Option.map_eq_some_iff.mp mem
    exact lifted (within_reply arranges reply) (by decide)
  · exact .optional fun v mem => (within_chain arranges post.embeds v mem).mono (Nat.le_max_right _ _)
  · exact .optional fun v mem =>
      lifted (Within.listValue (fun facet _ => within_facet arranges facet) v mem) (by decide)
  · exact .optional fun v mem => lifted (Within.listValue (fun tag _ => .text 0 tag) v mem) (by decide)
  · refine .optional fun v mem => ?_
    obtain ⟨labels, -, rfl⟩ := Option.map_eq_some_iff.mp mem
    exact lifted (within_labels arranges labels) (by decide)

end

/-! ## How deep a post is nested -/

section

variable {arrange : Arrangement} (arranges : Arranges arrange)

include arranges

theorem Json.Arranges.mem {ms : List (String × Value)} (distinct : (ms.map (·.1)).Nodup) {member : String × Value}
    (mem : member ∈ ms) : member ∈ arrange ms := by
  have all (ms : List (String × Value)) : ms.filter (fun _ => true) = ms := List.filter_eq_self.mpr fun _ _ => rfl
  have kept := arranges.perm (p := fun _ => true) (show ((ms.filter _).map (·.1)).Nodup from by rw [all]; exact distinct)
  rw [all, all] at kept
  exact kept.mem_iff.mpr mem

/-- An object is nested deeper than each of its members. -/
theorem depth_lt_arranged {ms : List (String × Value)} (distinct : (ms.map (·.1)).Nodup) (key : String) {v : Value}
    (mem : (key, v) ∈ ms) : v.depth < (Value.object (arrange ms)).depth :=
  Nat.lt_succ_of_le (Json.depth_le_membersDepth (arranges.mem distinct mem))

omit arranges in
theorem keys_optional (key : String) (value? : Option Value) :
    ((optionalMember key value?).map (·.1)).Sublist [key] := by
  cases value? with
  | none => exact List.nil_sublist [key]
  | some v => exact List.Sublist.refl [key]

omit arranges in
theorem mem_optional {key : String} {value? : Option Value} {v : Value} (given : v ∈ value?) :
    (key, v) ∈ optionalMember key value? := by
  rw [Option.mem_def.mp given]
  exact List.mem_cons_self

/-- An object that carries embeds is nested deeper than they are. -/
theorem depth_lt_carrier {embeds : List Embed} {ms : List (String × Value)} (distinct : (ms.map (·.1)).Nodup)
    (deep : ∀ v ∈ Embed.writeChain? arrange embeds, Embed.depth embeds ≤ v.depth) (key : String)
    (carried : ∀ v ∈ Embed.writeChain? arrange embeds, (key, v) ∈ ms) :
    Embed.depth embeds < (Value.object (arrange ms)).depth := by
  rcases Option.eq_none_or_eq_some (Embed.writeChain? arrange embeds) with absent | ⟨v, written⟩
  · rw [writeChain?_eq_none absent]
    exact Nat.succ_pos _
  · exact Nat.lt_of_le_of_lt (deep v written) (depth_lt_arranged arranges distinct key (carried v written))

theorem depth_le_chain (embeds : List Embed) :
    ∀ v ∈ Embed.writeChain? arrange embeds, Embed.depth embeds ≤ v.depth := by
  induction embeds with
  | nil => exact nofun
  | cons embed inner ih =>
    rintro _ ⟨⟩
    have distinct : ((("$type", Value.text embed.kind) ::
        optionalMember "images" (listValue? (Embed.writeImage arrange) embed.images) ++
        optionalMember "media" (Embed.writeChain? arrange inner)).map (·.1)).Nodup := by
      rw [List.map_append, List.map_cons]
      exact List.Nodup.sublist (((keys_optional _ _).cons_cons "$type").append (keys_optional _ _)) (by decide)
    refine Nat.succ_le_of_lt (Nat.max_lt.mpr ⟨?_, ?_⟩)
    · split
      · exact Nat.succ_pos _
      · next shown =>
        obtain ⟨alt, alts, images⟩ := List.exists_cons_of_ne_nil shown
        -- the list, and the object of its first image
        have deep : 2 ≤ (Value.array ((alt :: alts).map (Embed.writeImage arrange))).depth :=
          Nat.succ_le_succ (Nat.le_trans (Nat.succ_le_succ (Nat.zero_le _)) (Nat.le_max_left _ _))
        refine Nat.lt_of_le_of_lt deep (depth_lt_arranged arranges distinct "images" ?_)
        exact List.mem_append_left _ (List.mem_cons_of_mem _ (mem_optional (by rw [images]; rfl)))
    · exact depth_lt_carrier arranges distinct ih "media" fun v given => List.mem_append_right _ (mem_optional given)

omit arranges in
theorem keys_post (post : Post) : ((post.members arrange).map (·.1)).Nodup := by
  have all : (["text", "langs", "createdAt"] ++ ["reply"] ++ ["embed"] ++ ["facets"] ++ ["tags"] ++ ["labels"]).Nodup :=
    by decide
  refine List.Nodup.sublist ?_ all
  unfold Post.members
  simp only [List.map_append]
  exact (((((List.Sublist.refl _).append (keys_optional _ _)).append (keys_optional _ _)).append
    (keys_optional _ _)).append (keys_optional _ _)).append (keys_optional _ _)

/-- A post is nested deeper than its embeds. -/
theorem depth_lt_write (post : Post) : Embed.depth post.embeds < (post.write arrange).depth := by
  refine depth_lt_carrier arranges (keys_post post) (depth_le_chain arranges post.embeds) "embed" fun v given => ?_
  unfold Post.members
  simp [mem_optional given]

/-- Only the embeds of a post can be nested too deep for a text. -/
theorem depth_write_le_iff (post : Post) :
    (post.write arrange).depth ≤ Json.maxLevels ↔ Embed.depth post.embeds < Json.maxLevels := by
  refine ⟨fun within => Nat.lt_of_lt_of_le (depth_lt_write arranges post) within, fun shallow => ?_⟩
  exact Nat.le_trans (within_post arranges post).depth (Nat.succ_le_of_lt (Nat.max_lt.mpr ⟨by decide, shallow⟩))

end

theorem length_le_depth (embeds : List Embed) : embeds.length ≤ Embed.depth embeds := by
  induction embeds with
  | nil => exact Nat.le_refl 0
  | cons embed inner ih => exact Nat.succ_le_succ (Nat.le_trans ih (Nat.le_max_right _ _))

/-! ## What is read fits the levels -/

/-- **Takes** — where the reading takes the value, no level is missing, and the input after it is left. -/
def Takes {ω : Type} [Wire ω] [Bears ω] {α : Type} (read : Reading ω α) (v : Value) : Prop :=
  ∀ ⦃levels more a rest⦄, read levels (Bears.put v more) = some (a, rest) → v.depth ≤ levels ∧ rest = more

section

variable {ω : Type} [Wire ω] [Bears ω] {α β : Type} {read : Reading ω α} {v : Value}

theorem takes_text (s : String) : Takes (ω := ω) Wire.text (.text s) := by
  intro levels more a rest taken
  rw [Wire.text, Bears.text] at taken
  cases taken
  exact ⟨Nat.zero_le levels, rfl⟩

theorem Takes.mapped (takes : Takes read v) (f : α → β) : Takes (Wire.mapped f read) v := by
  intro levels more b rest taken
  obtain ⟨⟨a, _⟩, taken, same⟩ := Option.map_eq_some_iff.mp taken
  cases same
  exact takes taken

theorem takes_integer {low high k : Int} : Takes (ω := ω) (Wire.integer low high) (.int k) := by
  intro levels more n rest taken
  obtain ⟨⟨m, behind⟩, found, checked⟩ := Option.bind_eq_some_iff.mp taken
  cases (Bears.integer k more).symm.trans found
  obtain ⟨_, -, same⟩ := Option.map_eq_some_iff.mp checked
  cases same
  exact ⟨Nat.zero_le levels, rfl⟩

theorem Takes.optional (takes : Takes read v) (present : ∀ more : ω, Wire.null? (Bears.put v more) = none) :
    Takes (Wire.optional read) v := by
  intro levels more a rest taken
  unfold Wire.optional at taken
  rw [present more, Bears.optionLevels] at taken
  exact takes.mapped some taken

/-- An object is no null. -/
theorem null?_object (ms : List (String × Value)) (more : ω) : Wire.null? (Bears.put (.object ms) more) = none := by
  rcases null : Wire.null? (Bears.put (.object ms) more) with _ | rest
  · rfl
  · have opened := Bears.named ms more
    rw [Bears.null_of_taken null, Bears.layout_null] at opened
    cases opened

/-- A text is no null. -/
theorem null?_text (s : String) (more : ω) : Wire.null? (Bears.put (.text s) more) = none := by
  rcases null : Wire.null? (Bears.put (.text s) more) with _ | rest
  · rfl
  · have read := Bears.text 0 s more
    rw [Bears.null_of_taken null, Bears.text_null] at read
    cases read

theorem Takes.listOf {vs : List Value} (takes : ∀ v ∈ vs, Takes read v) : Takes (Wire.listOf read) (.array vs) := by
  intro levels more as rest taken
  cases levels with
  | zero => cases taken
  | succ levels =>
    rw [Wire.listOf, Bears.list, Option.bind_some] at taken
    dsimp only at taken
    have inTurn : Json.itemsDepth vs ≤ levels ∧ rest = more := by
      induction vs generalizing as with
      | nil =>
        cases taken
        exact ⟨Nat.zero_le levels, rfl⟩
      | cons v vs ih =>
        obtain ⟨first, others⟩ := List.forall_mem_cons.mp takes
        rw [List.length_cons, Wire.counted, List.foldr_cons] at taken
        split at taken
        · cases taken
        · next a behind one =>
          obtain ⟨⟨as, _⟩, later, same⟩ := Option.map_eq_some_iff.mp taken
          cases same
          obtain ⟨depth, rfl⟩ := first one
          obtain ⟨depths, rfl⟩ := ih others later
          exact ⟨Nat.max_le.mpr ⟨depth, depths⟩, rfl⟩
    exact ⟨Nat.succ_le_succ inTurn.1, inTurn.2⟩

variable {fs : List (Field ω β)} {ms : List (String × Value)}

/-- **IsField** — the member belongs to a field, which takes its value. -/
def IsField (fs : List (Field ω β)) (member : String × Value) : Prop :=
  ∃ f, fs.find? (·.name == member.1) = some f ∧ ∀ b, Takes (f.readInto b) member.2

theorem membersDepth_le_of_taken (takes : ∀ member ∈ ms, IsField fs member) {levels : Nat} {seen : List String}
    {b b' : β} {more rest : ω}
    (taken : Wire.members fs levels ms.length seen b ((Json.flat ms).foldr Bears.put more) = some (b', rest)) :
    Json.membersDepth ms ≤ levels ∧ rest = more := by
  induction ms generalizing seen b with
  | nil =>
    obtain ⟨-, same⟩ := Option.ite_none_right_eq_some.mp taken
    cases same
    exact ⟨Nat.zero_le levels, rfl⟩
  | cons member ms ih =>
    obtain ⟨key, v⟩ := member
    obtain ⟨⟨f, known, first⟩, others⟩ := List.forall_mem_cons.mp takes
    have key_taken : Wire.text? levels ((Json.flat ((key, v) :: ms)).foldr Bears.put more) =
        some (key, Bears.put v ((Json.flat ms).foldr Bears.put more)) := Bears.text levels key _
    rw [List.length_cons, Wire.members, key_taken] at taken
    dsimp only at taken
    rw [known] at taken
    dsimp only at taken
    split at taken
    · cases taken
    split at taken
    · cases taken
    · next b₁ behind one =>
      -- each value leaves what was put behind it, so that the next key is found there
      obtain ⟨depth, rfl⟩ := first b one
      obtain ⟨depths, rfl⟩ := ih others taken
      exact ⟨Nat.max_le.mpr ⟨depth, depths⟩, rfl⟩

/-- An object is taken where there are levels for all of its members, if each of them is a field. -/
theorem takes_object {blank : β} (takes : ∀ member ∈ ms, IsField fs member) :
    Takes (Wire.fields blank fs) (.object ms) := by
  intro levels more b' rest taken
  cases levels with
  | zero => cases taken
  | succ levels =>
    rw [Wire.fields, Bears.named] at taken
    obtain ⟨depth, rfl⟩ := membersDepth_le_of_taken takes taken
    exact ⟨Nat.succ_le_succ depth, rfl⟩

theorem Takes.isField (takes : Takes read v) {key : String} {isRequired : Bool} {put : α → β → β}
    (known : fs.find? (·.name == key) = some ⟨key, isRequired, fun b => Wire.mapped (put · b) read⟩) :
    IsField fs (key, v) := ⟨_, known, fun b => takes.mapped (put · b)⟩

theorem isField_optional {key : String} {value? : Option Value} (each : ∀ v ∈ value?, IsField fs (key, v)) :
    ∀ member ∈ optionalMember key value?, IsField fs member := by
  cases value? with
  | none => exact nofun
  | some v => exact List.forall_mem_singleton.mpr (each v rfl)

theorem takes_listValue {write : α → Value} {items : List α} (takes : ∀ item ∈ items, Takes read (write item)) :
    ∀ v ∈ listValue? write items, Takes (Wire.listOf read) v := by
  cases items with
  | nil => exact nofun
  | cons item items =>
    rintro _ ⟨⟩
    exact .listOf (List.forall_mem_map.mpr takes)

end

section

variable {arrange : Arrangement} (arranges : Arranges arrange) {ω : Type} [Wire ω] [Bears ω]

include arranges

/-- Members may be arranged, as each is looked at alone. -/
theorem takes_arranged {β : Type} {blank : β} {fs : List (Field ω β)} {ms : List (String × Value)}
    (takes : ∀ member ∈ ms, IsField fs member) : Takes (Wire.fields blank fs) (.object (arrange ms)) :=
  takes_object fun member mem => takes member (arranges.subset ms mem)

theorem takes_reference (ref : Reference) : Takes (ω := ω) Reference.reading (ref.write arrange) :=
  takes_arranged arranges (List.forall_mem_cons.mpr ⟨(takes_text ref.uri).isField rfl,
    List.forall_mem_singleton.mpr ((takes_text ref.cid).isField rfl)⟩)

theorem takes_reply (reply : Reply) : Takes (ω := ω) Reply.reading (reply.write arrange) :=
  takes_arranged arranges (List.forall_mem_cons.mpr ⟨(takes_reference arranges reply.root).isField rfl,
    List.forall_mem_singleton.mpr ((takes_reference arranges reply.parent).isField rfl)⟩)

theorem takes_labels (labels : SelfLabels) : Takes (ω := ω) SelfLabels.reading (labels.write arrange) := by
  have label (val : String) : Takes (ω := ω) SelfLabels.label (.object (arrange [("val", .text val)])) :=
    takes_arranged arranges (List.forall_mem_singleton.mpr ((takes_text val).isField rfl))
  exact takes_arranged arranges (List.forall_mem_cons.mpr ⟨(takes_text labels.kind).isField rfl,
    List.forall_mem_singleton.mpr ((Takes.listOf (List.forall_mem_map.mpr fun val _ => label val)).isField rfl)⟩)

theorem takes_image (alt : String) : Takes (ω := ω) Embed.image (Embed.writeImage arrange alt) :=
  takes_arranged arranges (List.forall_mem_singleton.mpr ((takes_text alt).isField rfl))

theorem takes_chain (embeds : List Embed) (fuel : Nat) :
    ∀ v ∈ Embed.writeChain? arrange embeds, Takes (ω := ω) (Wire.optional (Embed.chain fuel)) v := by
  induction embeds generalizing fuel with
  | nil => exact nofun
  | cons embed inner ih =>
    rintro _ ⟨⟩
    refine Takes.optional ?_ (null?_object _)
    cases fuel with
    | zero => exact fun _ _ _ _ taken => nomatch taken -- without fuel nothing is taken
    | succ fuel =>
      unfold Embed.chain
      refine Takes.mapped (takes_arranged arranges ?_) _
      refine List.forall_mem_cons.mpr ⟨(takes_text embed.kind).isField rfl, List.forall_mem_append.mpr ⟨?_, ?_⟩⟩
      · exact isField_optional fun v mem =>
          (takes_listValue (fun alt _ => takes_image arranges alt) v mem).isField rfl
      · exact isField_optional fun v mem => (ih fuel v mem).isField rfl

theorem takes_facet (facet : Facet) : Takes (ω := ω) Facet.reading (facet.write arrange) := by
  have position (n : Nat) : Takes (ω := ω) Wire.unsigned (.int n) := takes_integer.mapped Int.toNat
  have span : Takes (ω := ω) Facet.span (facet.writeSpan arrange) :=
    takes_arranged arranges (List.forall_mem_cons.mpr ⟨(position facet.byteStart).isField rfl,
      List.forall_mem_singleton.mpr ((position facet.byteEnd).isField rfl)⟩)
  have feature (feature : Feature) : Takes (ω := ω) Feature.reading (feature.write arrange) := by
    refine takes_arranged arranges (List.forall_mem_cons.mpr ⟨(takes_text feature.kind).isField rfl,
      isField_optional fun v mem => ?_⟩)
    obtain ⟨tag, -, rfl⟩ := Option.map_eq_some_iff.mp mem
    exact ((takes_text tag).optional (null?_text tag)).isField rfl
  exact takes_arranged arranges (List.forall_mem_cons.mpr ⟨span.isField rfl, List.forall_mem_singleton.mpr
    ((Takes.listOf (List.forall_mem_map.mpr fun item _ => feature item)).isField rfl)⟩)

/-- **What is written of a post is read only where there are levels for it.** -/
theorem takes_post (post : Post) : Takes (ω := ω) Post.reading (post.write arrange) := by
  refine takes_arranged arranges ?_
  unfold Post.members
  simp only [List.forall_mem_append, List.forall_mem_cons]
  refine ⟨⟨⟨⟨⟨⟨(takes_text _).isField rfl, ?_, (takes_text _).isField rfl, nofun⟩, ?_⟩, ?_⟩, ?_⟩, ?_⟩, ?_⟩
  · exact (Takes.listOf (List.forall_mem_map.mpr fun lang _ => takes_text lang)).isField rfl
  · refine isField_optional fun v mem => ?_
    obtain ⟨reply, -, rfl⟩ := Option.map_eq_some_iff.mp mem
    exact ((takes_reply arranges reply).optional (null?_object _)).isField rfl
  · exact isField_optional fun v mem => (takes_chain arranges post.embeds _ v mem).isField rfl
  · exact isField_optional fun v mem =>
      (takes_listValue (fun facet _ => takes_facet arranges facet) v mem).isField rfl
  · exact isField_optional fun v mem => (takes_listValue (fun tag _ => takes_text tag) v mem).isField rfl
  · refine isField_optional fun v mem => ?_
    obtain ⟨labels, -, rfl⟩ := Option.map_eq_some_iff.mp mem
    exact ((takes_labels arranges labels).optional (null?_object _)).isField rfl

end

end FeedIndex
