import FeedIndex.Proofs.Agreement
import FeedIndex.Proofs.OptOut

/-!
# Accounts that the roster does not show

A roster that lags behind the store lacks accounts that are stored. When such an account follows the subject, it is
to be added, is found in its place, and is shown from then on as it is stored. What it is found with stays: the
follow does not move it on as it would move an account that is shown. So the follow is heeded if the account is new,
or stands where a follow moves nobody; an account that had opted out, or did not ask yet, has to follow once more.
-/

namespace FeedIndex

open Handler BoundedStore CandidStore
open ActorStatus (joined)

variable {σ : Type} [Store σ] [CandidStore σ] {handler : Handler} {event : Event} {now : Timestamp}
  {index after : Index σ}

namespace Index

/-! ## An account that is added or found -/

/-- What adding an account comes to is what is stored of it then. -/
theorem status_of_createOrGet (now : Timestamp) (sound : Sound index.store) {actor stored : Actor} {moved : Index σ}
    (made : (createOrGet actor).run.run index = (.ok stored, moved)) :
    Sound moved.store ∧ (tables moved.store).status actor.did = some stored.status := by
  have performCreate := StoreOperation.perform_createActor (σ := σ) now actor
  have performGet := StoreOperation.perform_getActor (σ := σ) now actor.did
  have sound' := sound_after now (.createActor actor) sound
  rw [run_createOrGet, StoreOperation.after_of_perform now _ performCreate,
    StoreOperation.after_of_perform now _ performGet] at made
  rcases answer : (Store.createActor actor : Storing σ _).answer index.store with failure | created
  · rw [answer] at made
    cases failure with
    | actorExists taken =>
      obtain ⟨result, rfl⟩ := Prod.mk.inj made
      refine ⟨sound_after now _ sound', ?_⟩
      -- looking the account up leaves the tables as they are, done or not
      have looked : tables ((StoreOperation.getActor actor.did).after now
          ((StoreOperation.createActor actor).after now index.store)) =
            tables ((StoreOperation.createActor actor).after now index.store) :=
        (tables_after now _ _).elim id id
      rcases found : (Store.getActor actor.did : Storing σ _).answer
        ((StoreOperation.createActor actor).after now index.store) with failure | _ | known
      · rw [found] at result
        cases result
      · rw [found] at result
        cases result
      · rw [found] at result
        obtain rfl := Except.ok.inj result
        exact (congrArg (Tables.status · actor.did) looked).trans (getActor_status sound' found)
    | _ => cases (Prod.mk.inj made).1
  · rw [answer] at made
    obtain ⟨result, rfl⟩ := Prod.mk.inj made
    obtain rfl := Except.ok.inj result
    refine ⟨sound', (status_after_createActor now answer actor.did).trans ?_⟩
    rw [if_pos (createActor_did answer).symm]

/-- **Met** — an account was met in the store, or added as one that waits: the roster shows it as it is stored. -/
structure Met (did : String) (index after : Index σ) (actor : Actor) : Prop where
  own : actor.did = did
  status : actor.status = ((tables index.store).status did).getD .pending
  stored : (tables after.store).status did = some actor.status
  shown : after.roster = index.roster.put actor
  sound : Sound after.store

theorem Met.status? {did : String} {actor : Actor} (met : Met did index after actor) :
    after.roster.status? did = some actor.status := by
  rw [Roster.status?, met.shown, Roster.get?_put, if_pos met.own.symm]
  rfl

/-- An account that is added where one stands is met as it stands. -/
theorem met_of_createPending (sound : Sound index.store) {did : String} {actor : Actor}
    (made : (createPending did now).run.run index = (.ok actor, after)) : Met did index after actor := by
  rw [run_createPending] at made
  rcases found : (createOrGet (Actor.fresh did .pending addedRemark now)).run.run index with
    ⟨failure | stored, moved⟩
  · rw [found] at made
    cases (Prod.mk.inj made).1
  rw [found] at made
  obtain ⟨result, rfl⟩ := Prod.mk.inj made
  obtain rfl := Except.ok.inj result
  obtain ⟨filed, roster, own⟩ := createOrGet_bounded now sound _ found
  obtain ⟨sound', status⟩ := status_of_createOrGet now sound found
  refine ⟨own stored rfl, ?_, status, by rw [roster], sound'⟩
  -- the store has added the account, or left all as it was
  change (tables moved.store).status did = _ at status
  rcases filed with same | filed
  · rw [← same, status]
    rfl
  · rw [filed, status_createActor] at status
    change (if did = did then _ else _) = _ at status
    rw [if_pos rfl] at status
    rcases before : (tables index.store).status did with _ | old
    · rw [before] at status
      exact (Option.some.inj status).symm
    · rw [before] at status
      exact (Option.some.inj status).symm

end Index

namespace Handler

/-! ## One follow of the subject -/

/-- A request that is done has been done to the tables. -/
theorem apply_of_outcome {request : StoreOperation} {store : σ} (done : request.outcome now store = .ok ()) :
    tables (request.after now store) = (tables store).apply now request := by
  rcases answer : request.answer now store with failure | said
  · have failed : request.outcome now store = .error (.unstored failure) :=
      congrArg (fun result => (result.map fun _ => ()).mapError HandleFailure.unstored) answer
    cases failed.symm.trans done
  · exact apply_of_done answer

/-- **Kept** — the follow of an event was kept, and nothing else has changed. -/
structure Kept (event : Event) (index after : Index σ) : Prop where
  taken : (tables after.store).records .follows event.uri ≠ none
  status : (tables after.store).status = (tables index.store).status
  shown : after.roster = index.roster
  sound : Sound index.store → Sound after.store

theorem kept_of_keepFollow {follow : Follow}
    (kept : (keepFollow event follow now).run.run index = (.ok (), after)) : Kept event index after := by
  rw [run_keepFollow] at kept
  rcases time : claimedTime follow.createdAt with failure | createdAt
  · rw [time] at kept
    cases (Prod.mk.inj kept).1
  rw [time] at kept
  obtain ⟨outcome, rfl⟩ := Prod.mk.inj kept
  have done := apply_of_outcome outcome
  refine ⟨?_, ?_, rfl, sound_after now _⟩
  · dsimp only
    rw [done]
    exact Tables.taken_addRecord .follows event.uri _ _
  · dsimp only
    rw [done]
    rfl

/-- A follow of the subject that goes well has moved its account before it is kept. -/
theorem moved_of_run {follow : Follow} (follows : FollowsSubject handler event follow)
    (handled : handler.run event now index = (.ok (), after)) :
    ∃ moved, (followedSubject event (index.roster.get? event.did) now).run.run index = (.ok (), moved) ∧
      Kept event moved after := by
  rw [run_followsSubject now follows] at handled
  rcases move : (followedSubject event (index.roster.get? event.did) now).run.run index with ⟨failure | ⟨⟩, moved⟩
  · rw [move] at handled
    cases (Prod.mk.inj handled).1
  · rw [move] at handled
    exact ⟨moved, rfl, kept_of_keepFollow handled⟩

/-- **An account that the roster does not show** is met by its follow of the subject, and the follow is kept. -/
theorem met_of_run (sound : Sound index.store) (joins : handler.Joins event)
    (unseen : index.roster.get? event.did = none) (handled : handler.run event now index = (.ok (), after)) :
    ∃ actor, Index.Met event.did index after actor ∧ (tables after.store).records .follows event.uri ≠ none := by
  obtain ⟨follow, follows⟩ := joins
  obtain ⟨moved, move, kept⟩ := moved_of_run follows handled
  rw [unseen] at move
  unfold followedSubject at move
  dsimp only at move
  rw [Indexing.run_bind, run_indexing] at move
  rcases made : (Index.createPending event.did now).run.run index with ⟨failure | actor, index'⟩
  · rw [made] at move
    cases (Prod.mk.inj move).1
  · rw [made] at move
    obtain rfl := (Prod.mk.inj move).2
    obtain ⟨own, status, stored, shown, sound'⟩ := Index.met_of_createPending sound made
    refine ⟨actor, ⟨own, status, ?_, kept.shown.trans shown, kept.sound sound'⟩, kept.taken⟩
    rw [kept.status]
    exact stored

/-- An account that is shown where a follow moves nobody, with a follow that was kept before: nothing changes,
whether or not the store does what it is asked. -/
theorem run_of_settled (now : Timestamp) (joins : handler.Joins event) {actor : Actor}
    (known : index.roster.get? event.did = some actor) (settled : actor.status.afterFollow = none)
    (taken : (tables index.store).records .follows event.uri ≠ none) :
    tables (handler.run event now index).2.store = tables index.store ∧
      (handler.run event now index).2.roster = index.roster := by
  obtain ⟨follow, follows⟩ := joins
  have still : (followedSubject event (index.roster.get? event.did) now).run.run index = (.ok (), index) := by
    rw [known]
    unfold followedSubject
    dsimp only
    rw [settled]
    rfl
  rw [run_followsSubject now follows, still]
  dsimp only
  rw [run_keepFollow]
  rcases claimedTime follow.createdAt with failure | createdAt
  · exact ⟨rfl, rfl⟩
  · refine ⟨?_, rfl⟩
    rcases tables_after now (.createFollow (followRow event follow createdAt now)) index.store with same | done
    · exact same
    · exact done.trans (Tables.addRecord_of_taken taken _)

/-- An account that is shown where a follow moves it on is moved on, in the store and in the roster. -/
theorem status_of_moved (sound : Sound index.store) (joins : handler.Joins event) {actor : Actor}
    (known : index.roster.get? event.did = some actor) {next : ActorStatus}
    (moves : actor.status.afterFollow = some next) (handled : handler.run event now index = (.ok (), after)) :
    (tables after.store).status event.did = some next ∧ after.roster.status? event.did = some next := by
  obtain ⟨follow, follows⟩ := joins
  obtain ⟨moved, move, kept⟩ := moved_of_run follows handled
  rw [kept.status, kept.shown]
  rw [known] at move
  unfold followedSubject moveStatus at move
  dsimp only at move
  rw [moves] at move
  dsimp only at move
  rw [Indexing.run_bind, run_indexing, Index.run_setStatus,
    StoreOperation.after_of_perform now _ (StoreOperation.perform_setActorStatus now event.did next)] at move
  rcases answer : (Store.setActorStatus event.did next : Storing σ _).answer index.store with failure | stored
  · rw [answer] at move
    cases (Prod.mk.inj move).1
  · rw [answer] at move
    obtain rfl := (Prod.mk.inj move).2
    have own : stored.did = event.did := setActorStatus_did sound answer
    have status : stored.status = next := (setActorStatus_status sound answer).1
    refine ⟨?_, ?_⟩
    · refine (status_after_setActorStatus sound now answer event.did).trans ?_
      rw [if_pos own.symm, status]
    · show ((index.roster.put stored).get? event.did).map (·.status) = some next
      rw [Roster.get?_put, if_pos own.symm, Option.map_some, status]

/-! ## When the follow is heeded -/

/-- **Heeded** — the follow of the subject that led from one index to another did all it had to: its account has the
status to which a follow brings it, in the store and in the roster alike, and the same follow changes nothing more,
whenever it comes again. -/
structure Heeded (handler : Handler) (event : Event) (index after : Index σ) : Prop where
  stored : (tables after.store).status event.did = some (joined ((tables index.store).status event.did))
  shown : after.roster.status? event.did = some (joined ((tables index.store).status event.did))
  settled (later : Timestamp) : tables (handler.run event later after).2.store = tables after.store ∧
    (handler.run event later after).2.roster = after.roster

/-- An account stands where a follow brings it, unless it does not ask or has opted out. -/
theorem joined_eq_getD_iff (before : Option ActorStatus) :
    joined before = before.getD .pending ↔ before ≠ some .none ∧ before ≠ some .optedOut := by
  rcases before with _ | status
  · exact iff_of_true rfl ⟨nofun, nofun⟩
  · cases status <;> decide

/-- An account that was added as one that waits stands where a follow would have brought it. -/
theorem joined_getD (before : Option ActorStatus) : joined (some (before.getD .pending)) = joined before := by
  rcases before with _ | status <;> rfl

theorem joined_of_afterFollow_none {status : ActorStatus} (stays : status.afterFollow = none) :
    joined (some status) = status := by
  simp [joined, stays]

theorem joined_of_afterFollow_some {status next : ActorStatus} (moves : status.afterFollow = some next) :
    joined (some status) = next ∧ next ≠ status := by
  cases status <;> cases moves <;> exact ⟨rfl, nofun⟩

end Handler

/-- **A follow of the subject by an account that the roster does not show.** A follow that goes well leaves the
account as it is stored, or adds it as one that waits, and the roster shows it so. It is heeded exactly if the account
was not stored as one that does not ask, or has opted out; and such an account comes to where the follow was to bring
it when the same follow goes well once more. -/
theorem heeded_iff (handler : Handler) {event : Event} {now : Timestamp} {index after : Index σ}
    (sound : Sound index.store) (joins : handler.Joins event) (unseen : index.roster.get? event.did = none)
    (handled : handler.run event now index = (.ok (), after)) :
    ((tables after.store).status event.did = some (((tables index.store).status event.did).getD .pending) ∧
        after.roster.status? event.did = (tables after.store).status event.did) ∧
      (handler.Heeded event index after ↔
        (tables index.store).status event.did ≠ some .none ∧
          (tables index.store).status event.did ≠ some .optedOut) ∧
      ∀ later again, handler.run event later after = (.ok (), again) →
        (tables again.store).status event.did = some (joined ((tables index.store).status event.did)) ∧
          again.roster.status? event.did = (tables again.store).status event.did := by
  obtain ⟨actor, met, taken⟩ := met_of_run sound joins unseen handled
  have known : after.roster.get? event.did = some actor := by
    rw [met.shown, Roster.get?_put, if_pos met.own.symm]
  have aim : joined ((tables index.store).status event.did) = joined (some actor.status) := by
    rw [met.status, joined_getD]
  refine ⟨⟨by rw [met.stored, met.status], met.status?.trans met.stored.symm⟩, ?_⟩
  rw [← joined_eq_getD_iff, ← met.status, aim]
  rcases moves : actor.status.afterFollow with _ | next
  · -- the account stands where the follow was to bring it
    have stays := joined_of_afterFollow_none moves
    have settled (later : Timestamp) := run_of_settled later joins known moves taken
    refine ⟨iff_of_true ⟨?_, ?_, settled⟩ stays, fun later again repeated => ?_⟩
    · rw [aim, stays, met.stored]
    · rw [aim, stays, met.status?]
    · have same := settled later
      rw [repeated] at same
      rw [same.1, same.2, stays, met.stored, met.status?]
      exact ⟨rfl, rfl⟩
  · -- it would have to move, which takes another follow
    obtain ⟨comes, other⟩ := joined_of_afterFollow_some moves
    rw [comes] at aim ⊢
    refine ⟨iff_of_false (fun heeded => ?_) other, fun later again repeated => ?_⟩
    · have stored := heeded.stored
      rw [met.stored, aim] at stored
      exact other (Option.some.inj stored).symm
    · obtain ⟨stored, shown⟩ := status_of_moved met.sound joins known moves repeated
      exact ⟨stored, shown.trans stored.symm⟩

/-! ### An account that was stored after the roster was taken -/

namespace LaggingRoster

open SecondPass (did joining)

/-- The roster was taken from a store with one account, and then another one was stored with the status. -/
def lagging (status : ActorStatus) : Index Relational :=
  Index.acts {} ⟨{}, {}⟩ [
    .request (.createActor (.fresh "did:plc:approved" .approved "" ⟨0, 0⟩)) ⟨0, 0⟩,
    .sync,
    .request (.createActor (.fresh did status "" ⟨0, 0⟩)) ⟨0, 0⟩]

/-- The account that the roster lacks has followed the subject. -/
def followed (status : ActorStatus) : Index Relational := (Handler.run {} (joining "f1") ⟨1, 0⟩ (lagging status)).2

theorem sound_lagging (status : ActorStatus) : Sound (lagging status).store := by
  have empty : Sound (⟨{}, {}⟩ : Index Relational).store := Relational.sound_empty
  exact sound_acts empty _

theorem joins : Handler.Joins {} (joining "f1") :=
  ⟨⟨"did:plc:jdkvwye2lf4mingzk7qdebzc", "2025-01-26T17:11:03Z"⟩,
    by decide +kernel, by decide +kernel, rfl, by decide +kernel, rfl⟩

set_option maxRecDepth 100000 in
/-- **A follow that is not heeded**: it goes well, but the account stays opted out, in the store and in the roster,
and the same follow once more changes that. -/
theorem opted_out_stays :
    (Sound (lagging .optedOut).store ∧ Handler.Joins {} (joining "f1")) ∧
      (lagging .optedOut).roster.get? did = none ∧
      (Handler.run {} (joining "f1") ⟨1, 0⟩ (lagging .optedOut)).1 = .ok () ∧
      (tables (followed .optedOut).store).status did = some .optedOut ∧
      (followed .optedOut).roster.status? did = some .optedOut ∧
      (tables (Handler.run {} (joining "f1") ⟨2, 0⟩ (followed .optedOut)).2.store).status did = some .approved ∧
      ¬ Handler.Heeded {} (joining "f1") (lagging .optedOut) (followed .optedOut) := by
  refine ⟨⟨sound_lagging _, joins⟩, by decide +kernel, by decide +kernel, by decide +kernel, by decide +kernel,
    by decide +kernel, fun heeded => ?_⟩
  have stored := heeded.stored
  revert stored
  decide +kernel

set_option maxRecDepth 100000 in
/-- The follow of an account that a moderator has let in meanwhile is heeded: there is nothing more for it to do. -/
theorem let_in_heeded :
    Handler.Heeded {} (joining "f1") (lagging .approved) (followed .approved) ∧
      (lagging .approved).roster.status? did = none ∧
      (followed .approved).roster.status? did = some .approved := by
  have handled : Handler.run {} (joining "f1") ⟨1, 0⟩ (lagging .approved) = (.ok (), followed .approved) :=
    Prod.ext (by decide +kernel) rfl
  have unseen : (lagging .approved).roster.get? (joining "f1").did = none := by decide +kernel
  refine ⟨(heeded_iff {} (sound_lagging _) joins unseen handled).2.1.mpr ?_, by decide +kernel, by decide +kernel⟩
  decide +kernel

end LaggingRoster

end FeedIndex
