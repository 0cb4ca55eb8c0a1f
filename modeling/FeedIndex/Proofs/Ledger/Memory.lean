import FeedIndex.Proofs.Keyed
import FeedIndex.Proofs.Ledger
import FeedIndex.Store.Memory

/-!
# The ledger of the store in memory

The store in memory keeps its ledger in its rows. It never fails but where an account is missing or in the
way.
-/

namespace FeedIndex

/-- A roster made of the values of a table, put in order, finds what the table finds. -/
theorem Roster.get?_ofActors_sorted {t : Keyed Actor} (named : Keyed.Named Actor.did t) (did : String) :
    (Roster.ofActors ((Keyed.sorted t).map (·.2))).get? did = t.get? did := by
  rw [Roster.get?_ofActors (f := fun did => t.get? did)]
  · split
    · rfl
    · next absent =>
      rcases found : t.get? did with _ | actor
      · rfl
      · have listed := Keyed.mem_of_get? ((Keyed.get?_sorted named.distinct did).trans found)
        have known : did ∈ ((Keyed.sorted t).map (·.2)).map (·.did) :=
          List.mem_map.mpr ⟨actor, List.mem_map_of_mem listed, named.name_eq found⟩
        exact absurd known absent
  · intro actor hmem
    obtain ⟨entry, hentry, rfl⟩ := List.mem_map.mp hmem
    have hold := Keyed.mem_of_mem_sorted hentry
    rw [named.own entry hold]
    exact Keyed.get?_of_mem named.distinct hold

namespace Memory

/-- **ledger** — what the store in memory says. -/
def ledger (m : Memory) : Ledger where
  position := m.cursor
  status did := (m.actors.get? did).map (·.status)
  mark
    | .posts, uri => (m.posts.get? uri).map (·.deletedAt)
    | .likes, uri => (m.likes.get? uri).map (·.deletedAt)
    | .follows, uri => (m.follows.get? uri).map (·.deletedAt)

/-! ## Accounts -/

theorem run_createActor (actor : Actor) (m : Memory) :
    (Store.createActor actor : Storing Memory Actor).run.run m =
      if (m.actors.get? actor.did).isSome then (.error (.actorExists actor.did), m)
      else (.ok actor, { m with actors := m.actors.insertNew actor.did actor }) := by
  show (ite ((m.actors.get? actor.did).isSome = true) _ _ : Storing Memory Actor).run.run m = _
  split <;> rfl

theorem run_updateActor (did : String) (change : Actor → Actor) (m : Memory) :
    (updateActor did change).run.run m =
      match m.actors.get? did with
      | none => (.error (.actorNotFound did), m)
      | some actor => (.ok (change actor), { m with actors := m.actors.modify did change }) := by
  unfold updateActor
  rw [Storing.run_get_bind]
  rcases m.actors.get? did with _ | actor <;> rfl

theorem after_createActor (now : Timestamp) (actor : Actor) (m : Memory) :
    (StoreOperation.createActor actor).after now m =
      { m with actors := m.actors.insertNew actor.did actor } := by
  rw [← StoreOperation.after_of_perform now (.createActor actor) rfl m, Storing.after, run_createActor]
  split
  · next known =>
    show m = { m with actors := _ }
    rw [Keyed.insertNew, if_pos known]
  · rfl

theorem after_updateActor (did : String) (change : Actor → Actor) (m : Memory) :
    (updateActor did change).after m = { m with actors := m.actors.modify did change } := by
  rw [Storing.after, run_updateActor]
  rcases known : m.actors.get? did with _ | actor
  · show m = { m with actors := _ }
    rw [Keyed.modify_of_get?_eq_none known]
  · rfl

theorem after_setActorStatus (now : Timestamp) (did : String) (status : ActorStatus) (m : Memory) :
    (StoreOperation.setActorStatus did status).after now m =
      { m with actors := m.actors.modify did fun actor => { actor with status } } := by
  rw [← StoreOperation.after_of_perform now (.setActorStatus did status) rfl m]
  exact after_updateActor did _ m

theorem after_holdActor (now : Timestamp) (did : String) (heldUntil : Option Timestamp) (m : Memory) :
    (StoreOperation.holdActor did heldUntil).after now m =
      { m with actors := m.actors.modify did fun actor => { actor with heldUntil } } := by
  rw [← StoreOperation.after_of_perform now (.holdActor did heldUntil) rfl m]
  exact after_updateActor did _ m

/-! ## The ledger after a request -/

theorem ledger_after (now : Timestamp) (request : StoreOperation) (m : Memory) :
    ledger (request.after now m) = (ledger m).apply now request := by
  cases request with
  | createActor actor =>
    rw [after_createActor]
    refine Ledger.ext rfl (funext fun did => ?_) rfl
    exact Keyed.map_get?_insertNew Actor.status actor.did did actor m.actors
  | setActorStatus did status =>
    rw [after_setActorStatus]
    refine Ledger.ext rfl (funext fun other => ?_) rfl
    exact Keyed.map_get?_modify Actor.status (f := fun _ => status) (fun _ => rfl) did other m.actors
  | holdActor did heldUntil =>
    rw [after_holdActor]
    refine Ledger.ext rfl (funext fun other => ?_) rfl
    exact Keyed.map_get?_modify_of_keeps Actor.status (by intro actor; rfl) did other m.actors
  | putProfile row =>
    show ledger (m.putProfile row) = ledger m
    unfold putProfile
    split
    · rfl
    · refine Ledger.ext rfl (funext fun other => ?_) rfl
      exact Keyed.map_get?_modify_of_keeps Actor.status (by intro actor; rfl) row.actorDid other m.actors
  | createPost row =>
    exact Ledger.eq_addRecord rfl rfl (Ledger.agreeBut_posts rfl rfl) fun uri =>
      Keyed.map_get?_insertNew PostRow.deletedAt row.uri uri row m.posts
  | createLike row =>
    exact Ledger.eq_addRecord rfl rfl (Ledger.agreeBut_likes rfl rfl) fun uri =>
      Keyed.map_get?_insertNew LinkRow.deletedAt row.uri uri row m.likes
  | createFollow row =>
    exact Ledger.eq_addRecord rfl rfl (Ledger.agreeBut_follows rfl rfl) fun uri =>
      Keyed.map_get?_insertNew LinkRow.deletedAt row.uri uri row m.follows
  | deletePost uri =>
    exact Ledger.eq_deleteRecord rfl rfl (Ledger.agreeBut_posts rfl rfl) fun other =>
      Keyed.map_get?_modify PostRow.deletedAt (f := (·.or (some now))) (fun _ => rfl) uri other m.posts
  | deleteLike uri =>
    exact Ledger.eq_deleteRecord rfl rfl (Ledger.agreeBut_likes rfl rfl) fun other =>
      Keyed.map_get?_modify LinkRow.deletedAt (f := (·.or (some now))) (fun _ => rfl) uri other m.likes
  | deleteFollow uri =>
    exact Ledger.eq_deleteRecord rfl rfl (Ledger.agreeBut_follows rfl rfl) fun other =>
      Keyed.map_get?_modify LinkRow.deletedAt (f := (·.or (some now))) (fun _ => rfl) uri other m.follows
  | _ => rfl

/-! ## Soundness -/

/-- **Sound** — every account stands under its own identifier. -/
def Sound (m : Memory) : Prop := Keyed.Named Actor.did m.actors

theorem sound_empty : Sound {} := Keyed.named_nil

theorem sound_after {m : Memory} (now : Timestamp) (request : StoreOperation) (sound : Sound m) :
    Sound (request.after now m) := by
  cases request with
  | createActor actor =>
    rw [after_createActor]
    exact Keyed.Named.insertNew sound actor
  | setActorStatus did status =>
    rw [after_setActorStatus]
    exact Keyed.Named.modify sound did fun _ => rfl
  | holdActor did heldUntil =>
    rw [after_holdActor]
    exact Keyed.Named.modify sound did fun _ => rfl
  | putProfile row =>
    show Sound (m.putProfile row)
    unfold putProfile
    split
    · exact sound
    · exact Keyed.Named.modify sound row.actorDid fun _ => rfl
  | _ => exact sound

instance : LedgerStore Memory where
  ledger := ledger
  Sound := Sound
  ledger_after := ledger_after
  sound_after := sound_after
  createActor_answer actor m := by
    rw [Storing.answer, run_createActor]
    rcases known : m.actors.get? actor.did with _ | stored
    · simp [ledger, known]
    · simp [ledger, known]
  getActor_answer := by
    rintro did stored m sound answer
    cases answer
    exact ⟨rfl, fun actor found => sound.name_eq found⟩
  setActorStatus_answer := by
    rintro did status actor m sound answer
    rw [Storing.answer, show (Store.setActorStatus did status : Storing Memory Actor) =
      updateActor did fun actor => { actor with status } from rfl, run_updateActor] at answer
    rcases known : m.actors.get? did with _ | stored
    · rw [known] at answer
      cases answer
    · rw [known] at answer
      obtain rfl := Except.ok.inj answer
      exact ⟨Keyed.Named.name_eq sound (a := stored) known, rfl, by simp [ledger, known]⟩
  listActors_answer := by
    rintro actors m sound answer did
    have listed : actors = (Keyed.sorted m.actors).map (·.2) := by
      rw [← Except.ok.inj answer, actorsOf]
      simp
    rw [listed, Roster.get?_ofActors_sorted sound]
    rfl
  getFollow_answer uri m := ⟨m.follows.get? uri, rfl, by simp [ledger]⟩

end Memory

end FeedIndex
