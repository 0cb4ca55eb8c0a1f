import FeedIndex.Proofs.Json.Kept
import FeedIndex.Store.Relational

/-!
# Rows that are read back

A row of columns is read back as what it was written of. Lists of texts and accounts and profiles, which hold nothing
else, always are; a post is, if its record holds no object that begins with the reserved key.
-/

namespace FeedIndex

open Json (Value)

theorem Column.mapM_text? (items : List String) : (items.map Value.text).mapM text? = some items := by
  rw [Json.mapM_map_eq_some_iff]
  exact fun _ _ => rfl

/-- A list of texts is read back from its column. -/
theorem Column.toTexts?_ofTexts (items : List String) : toTexts? (ofTexts items) = some items := by
  have fits : (Value.texts items).Fits Json.maxDepth := by
    refine .array fun item listed => ?_
    obtain ⟨s, -, rfl⟩ := List.mem_map.mp listed
    exact .text _ s
  have plain : ¬ (Value.texts items).Embeds := by
    rw [Value.texts, Value.embeds_array]
    rintro ⟨item, listed, embeds⟩
    obtain ⟨s, -, rfl⟩ := List.mem_map.mp listed
    cases embeds
  have read : Value.ofText? (ofTexts items) = some (Value.texts items) := fits.ofText?_render_iff.mpr plain
  unfold toTexts?
  rw [read]
  exact mapM_text? items

/-- An account is read back from its row. -/
theorem ActorColumns.actor?_ofActor (actor : Actor) : (ofActor actor).actor? = some actor := by
  unfold actor? ofActor
  rw [Column.toTexts?_ofTexts]
  rfl

/-- A profile is read back from its row. -/
theorem ProfileColumns.profile?_ofProfile (profile : ProfileRow) : (ofProfile profile).profile? = some profile := by
  unfold profile? ofProfile
  rw [Column.toTexts?_ofTexts]
  rfl

/-- A post is read back from its row if its record is read back from its text. -/
theorem PostColumns.post?_ofPost_iff_ofText? {post : PostRow} :
    (ofPost post).post? = some post ↔ Value.ofText? post.raw.render = some post.raw := by
  unfold post? ofPost
  dsimp only
  rw [Column.toTexts?_ofTexts, Column.toTexts?_ofTexts, Column.toTexts?_ofTexts]
  rcases Value.ofText? post.raw.render with _ | raw
  · exact iff_of_false nofun nofun
  · obtain ⟨⟩ := post
    simp [Option.bind_eq_bind]

/-- **A post is read back from its row**, exactly if its record holds no object that begins with the reserved key. -/
theorem PostColumns.post?_ofPost_iff {post : PostRow} (fits : post.raw.Fits Json.maxDepth) :
    (ofPost post).post? = some post ↔ ¬ post.raw.Embeds :=
  post?_ofPost_iff_ofText?.trans fits.ofText?_render_iff

end FeedIndex
