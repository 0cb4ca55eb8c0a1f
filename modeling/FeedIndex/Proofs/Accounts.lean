import FeedIndex.Proofs.Handled
import FeedIndex.Proofs.Ledger

/-!
# Accounts that are filed anew

An account is added, or its status changed, in the store first and in the roster once the store has it. The
roster then shows of that account what the store has, and of every other account what it showed before.
-/

namespace FeedIndex

/-! ## Changes of an index -/

section

variable {σ : Type} [Store σ] (index : Index σ)

theorem Index.run_setStatus (did : String) (status : ActorStatus) :
    (Index.setStatus did status).run.run index =
      match (Store.setActorStatus did status : Storing σ _).answer index.store with
      | .ok actor =>
        (.ok actor, ⟨(Store.setActorStatus did status).after index.store, index.roster.put actor⟩)
      | .error failure =>
        (.error failure, { index with store := (Store.setActorStatus did status).after index.store }) := by
  unfold Index.setStatus
  rw [Indexing.run_bind, Indexing.run_onStore]
  rcases (Store.setActorStatus did status : Storing σ _).answer index.store with failure | actor <;> rfl

/-- An account is added, or taken from the store if it is in the way. -/
theorem Index.run_createOrGet (actor : Actor) :
    (Index.createOrGet actor).run.run index =
      match (Store.createActor actor : Storing σ _).answer index.store with
      | .ok created => (.ok created, { index with store := (Store.createActor actor).after index.store })
      | .error (.actorExists _) =>
        (match (Store.getActor actor.did : Storing σ _).answer
            ((Store.createActor actor).after index.store) with
          | .ok (some stored) => .ok stored
          | .ok none => .error (.actorNotFound actor.did)
          | .error failure => .error failure,
        { index with
          store := (Store.getActor actor.did).after ((Store.createActor actor).after index.store) })
      | .error failure =>
        (.error failure, { index with store := (Store.createActor actor).after index.store }) := by
  unfold Index.createOrGet
  rw [Indexing.run_get_bind, Storing.run_eq (Store.createActor actor)]
  dsimp only
  rw [Indexing.run_set_bind]
  rcases (Store.createActor actor : Storing σ _).answer index.store with failure | created
  · cases failure with
    | actorExists did =>
      dsimp only
      rw [Indexing.run_bind, Indexing.run_onStore]
      dsimp only
      rcases (Store.getActor actor.did : Storing σ _).answer _ with failure | _ | stored <;> rfl
    | _ => rfl
  · rfl

theorem Index.run_createPending (did : String) (now : Timestamp) :
    (Index.createPending did now).run.run index =
      match (Index.createOrGet (Actor.fresh did .pending Index.addedRemark now)).run.run index with
      | (.ok actor, index) => (.ok actor, { index with roster := index.roster.put actor })
      | (.error failure, index) => (.error failure, index) := by
  unfold Index.createPending
  rw [Indexing.run_bind]
  rcases (Index.createOrGet (Actor.fresh did .pending Index.addedRemark now)).run.run index with
    ⟨failure | actor, index⟩ <;> rfl

end

/-! ## What filing does -/

open LedgerStore

variable {σ : Type} [Store σ] [LedgerStore σ]

/-- **Filed** — an account of an index was filed: the store did what it was asked, and either the roster shows
the account as it is stored, or the store is to blame and the roster is as before. -/
inductive Filed (did : String) (effect : Ledger → Ledger) (index : Index σ) :
    Except HandleFailure Unit → Index σ → Prop
  | done {actor : Actor} {store : σ} (own : actor.did = did)
      (shown : (ledger store).status did = some actor.status)
      (filed : ledger store = effect (ledger index.store)) (sound : Sound store) :
      Filed did effect index (.ok ()) ⟨store, index.roster.put actor⟩
  | failed {failure : HandleFailure} {store : σ} (ofStore : failure.isOfStore = true)
      (filed : ledger store = effect (ledger index.store)) (sound : Sound store) :
      Filed did effect index (.error failure) { index with store }

namespace Filed

variable {did : String} {effect : Ledger → Ledger} {index moved : Index σ}
  {result : Except HandleFailure Unit}

theorem ledger_eq (filed : Filed did effect index result moved) :
    ledger moved.store = effect (ledger index.store) := by
  cases filed <;> assumption

theorem sound (filed : Filed did effect index result moved) : Sound moved.store := by
  cases filed <;> assumption

end Filed

namespace Handler

variable {index : Index σ}

theorem filed_moveStatus (sound : Sound index.store) (did : String) (status : ActorStatus) :
    Filed did (·.setStatus did status) index ((moveStatus did (some status)).run.run index).1
      ((moveStatus did (some status)).run.run index).2 := by
  have perform := StoreOperation.perform_setActorStatus (σ := σ) ⟨0, 0⟩ did status
  have filed := ledger_after_of_perform _ _ perform index.store
  have sound' := sound_after_of_perform _ _ perform sound
  unfold moveStatus
  rw [Indexing.run_bind, run_indexing, Index.run_setStatus]
  rcases answer : (Store.setActorStatus did status : Storing σ _).answer index.store with failure | actor
  · exact .failed rfl filed sound'
  · obtain ⟨own, hstatus, stored⟩ := setActorStatus_answer sound answer
    refine .done own ?_ filed sound'
    rw [filed, hstatus]
    -- the account was stored before, so there was a status to set
    obtain ⟨old, hold⟩ := Option.ne_none_iff_exists'.mp stored
    simp [Ledger.apply, Ledger.setStatus, hold]

/-- Adding an account comes to the account as it is stored then, which may have been there before. -/
theorem createOrGet_stored (sound : Sound index.store) (actor : Actor) {index' : Index σ}
    {result : Except StoreFailure Actor} (h : (Index.createOrGet actor).run.run index = (result, index')) :
    (index'.roster = index.roster ∧ Sound index'.store ∧
        ledger index'.store = (ledger index.store).addAccount actor.did actor.status) ∧
      ∀ stored, result = .ok stored →
        stored.did = actor.did ∧ (ledger index'.store).status actor.did = some stored.status := by
  have performCreate := StoreOperation.perform_createActor (σ := σ) ⟨0, 0⟩ actor
  have performGet := StoreOperation.perform_getActor (σ := σ) ⟨0, 0⟩ actor.did
  have filed := ledger_after_of_perform _ _ performCreate index.store
  have sound' := sound_after_of_perform _ _ performCreate sound
  have filedGet := ledger_after_of_perform _ _ performGet ((Store.createActor actor).after index.store)
  have soundGet := sound_after_of_perform _ _ performGet sound'
  have taken := createActor_answer actor index.store
  rw [Index.run_createOrGet] at h
  rcases answer : (Store.createActor actor : Storing σ _).answer index.store with failure | created
  · rw [answer] at h
    cases failure with
    | actorExists did =>
      obtain ⟨rfl, rfl⟩ := Prod.mk.inj h
      refine ⟨⟨rfl, soundGet, filedGet.trans filed⟩, ?_⟩
      intro stored hstored
      -- the account is read off the store that has just refused it
      rcases found : (Store.getActor actor.did : Storing σ _).answer
        ((Store.createActor actor).after index.store) with failure | _ | known
      · rw [found] at hstored
        cases hstored
      · rw [found] at hstored
        cases hstored
      · rw [found] at hstored
        obtain rfl := Except.ok.inj hstored
        obtain ⟨hstatus, hown⟩ := getActor_answer sound' found
        refine ⟨hown known rfl, ?_⟩
        rw [filedGet]
        exact hstatus
    | _ =>
      obtain ⟨rfl, rfl⟩ := Prod.mk.inj h
      exact ⟨⟨rfl, sound', filed⟩, nofun⟩
  · rw [answer] at h
    obtain ⟨rfl, rfl⟩ := Prod.mk.inj h
    refine ⟨⟨rfl, sound', filed⟩, ?_⟩
    rintro stored ⟨⟩
    -- an account that could be added was not there before
    by_cases absent : (ledger index.store).status actor.did = none
    · rw [if_pos absent, answer] at taken
      obtain rfl := Except.ok.inj taken
      refine ⟨rfl, ?_⟩
      rw [filed]
      simp [Ledger.apply, Ledger.addAccount, absent]
    · rw [if_neg absent, answer] at taken
      obtain ⟨failure, hfailure⟩ := taken
      cases hfailure

theorem filed_createPending (sound : Sound index.store) (did : String) (now : Timestamp) :
    Filed did (·.addAccount did .pending) index
      ((indexing (Index.createPending did now) >>= fun _ => (pure () : Handling σ Unit)).run.run index).1
      ((indexing (Index.createPending did now) >>= fun _ => (pure () : Handling σ Unit)).run.run index).2 := by
  rw [Indexing.run_bind, run_indexing, Index.run_createPending]
  rcases made : (Index.createOrGet (Actor.fresh did .pending Index.addedRemark now)).run.run index with
    ⟨failure | actor, index'⟩
  · obtain ⟨⟨hroster, sound', filed⟩, -⟩ := createOrGet_stored sound _ made
    have same : index' = { index with store := index'.store } := by rw [← hroster]
    rw [same]
    exact .failed rfl filed sound'
  · obtain ⟨⟨hroster, sound', filed⟩, hstored⟩ := createOrGet_stored sound _ made
    obtain ⟨own, shown⟩ := hstored actor rfl
    have kept : Filed did (·.addAccount did .pending) index (.ok ())
        ⟨index'.store, index.roster.put actor⟩ := .done own shown filed sound'
    rw [← hroster] at kept
    exact kept

end Handler

/-! ## Changes of an account -/

/-- **AccountChange** — what the doings of an account change about it. -/
inductive AccountChange
  | add
  | set (status : ActorStatus)
deriving DecidableEq, Repr

namespace AccountChange

/-- **apply** — the change of the ledger. -/
def apply (did : String) : AccountChange → Ledger → Ledger
  | add => (·.addAccount did .pending)
  | set status => (·.setStatus did status)

/-- **onFollow?** — the change when the account, as the roster shows it, follows the subject. -/
def onFollow? : Option Actor → Option AccountChange
  | none => some add
  | some actor => actor.status.afterFollow.map set

/-- **onUnfollow?** — the change when the account unfollows the subject. -/
def onUnfollow? (actor : Actor) : Option AccountChange := actor.status.afterUnfollow.map set

/-- A change is about one account alone. -/
theorem apply_status_of_ne {did other : String} (h : other ≠ did) (change : AccountChange) (l : Ledger) :
    (change.apply did l).status other = l.status other := by
  cases change with
  | add => simp [apply, Ledger.addAccount, h]
  | set status => simp [apply, Ledger.setStatus, h]

theorem apply_mark (did : String) (change : AccountChange) (l : Ledger) :
    (change.apply did l).mark = l.mark := by
  cases change <;> rfl

end AccountChange

namespace Handler

variable {index : Index σ}

/-- What changes of an account that follows the subject is filed; if nothing does, the index stays. -/
theorem run_followedSubject (sound : Sound index.store) (event : Event) (now : Timestamp) :
    match AccountChange.onFollow? (index.roster.get? event.did) with
    | none => (followedSubject event (index.roster.get? event.did) now).run.run index = (.ok (), index)
    | some change =>
      Filed event.did (change.apply event.did) index
        ((followedSubject event (index.roster.get? event.did) now).run.run index).1
        ((followedSubject event (index.roster.get? event.did) now).run.run index).2 := by
  rcases index.roster.get? event.did with _ | actor
  · exact filed_createPending sound event.did now
  · unfold AccountChange.onFollow? followedSubject
    dsimp only
    rcases actor.status.afterFollow with _ | status
    · rfl
    · exact filed_moveStatus sound event.did status

theorem run_unfollowedSubject (index : Index σ) (sound : Sound index.store) (did : String) (actor : Actor) :
    match AccountChange.onUnfollow? actor with
    | none => (moveStatus did actor.status.afterUnfollow).run.run index = (.ok (), index)
    | some change =>
      Filed did (change.apply did) index
        ((moveStatus did actor.status.afterUnfollow).run.run index).1
        ((moveStatus did actor.status.afterUnfollow).run.run index).2 := by
  unfold AccountChange.onUnfollow?
  rcases actor.status.afterUnfollow with _ | status
  · rfl
  · exact filed_moveStatus sound did status

end Handler

end FeedIndex
