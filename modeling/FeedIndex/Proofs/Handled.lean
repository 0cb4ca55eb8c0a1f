import FeedIndex.Proofs.Computation

/-!
# What handling an event can come to

`Handled` lists the ways in which an event can be handled, each with what it takes and with the index it
leaves, for every store. An event passes, is refused, or enters one request into the store; only a follow of
the subject and the deletion of a follow do more than that. `handled_run` says that there is no other way;
laws about handling are proved by going through the list.
-/

namespace FeedIndex

/-- The store is to blame for the failure, and not the event. -/
def HandleFailure.isOfStore : HandleFailure → Bool
  | .unstored _ => true
  | _ => false

namespace Handler

variable {σ α : Type}

/-! ## The ways -/

/-- The row of a follow that is kept. -/
def followRow (event : Event) (follow : Follow) (createdAt now : Timestamp) : LinkRow :=
  ⟨event.uri, event.did, follow.subject, createdAt, now, none⟩

/-- **Entry** — the requests that an event may enter into the store without touching its account. -/
inductive Entry (handler : Handler) (event : Event) (now : Timestamp) (roster : Roster) :
    StoreOperation → Prop
  | post {row : PostRow} (kind : Collection.ofName event.collection = .post)
      (action : event.action = .create) (approved : isApproved (roster.get? event.did) = true)
      (decided : handler.postRow? event now = .ok (some row)) :
      Entry handler event now roster (.createPost row)
  | like {row : LinkRow} (kind : Collection.ofName event.collection = .like)
      (action : event.action = .create) (approved : isApproved (roster.get? event.did) = true)
      (decided : handler.likeRow event now = .ok row) :
      Entry handler event now roster (.createLike row)
  | follow {follow : Follow} {createdAt : Timestamp}
      (kind : Collection.ofName event.collection = .follow) (action : event.action = .create)
      (approved : isApproved (roster.get? event.did) = true)
      (opened : handler.openRecord event = .ok follow) (other : follow.subject ≠ handler.subject)
      (time : claimedTime follow.createdAt = .ok createdAt) :
      Entry handler event now roster (.createFollow (followRow event follow createdAt now))
  | profile {row : ProfileRow} (kind : Collection.ofName event.collection = .profile)
      (action : event.action ≠ .delete) (keeps : keepsProfile (roster.get? event.did) = true)
      (decided : handler.profileRow event now = .ok row) :
      Entry handler event now roster (.putProfile row)
  | deletedPost (kind : Collection.ofName event.collection = .post) (action : event.action = .delete)
      (known : (roster.get? event.did).isSome = true) :
      Entry handler event now roster (.deletePost event.uri)
  | deletedLike (kind : Collection.ofName event.collection = .like) (action : event.action = .delete)
      (known : (roster.get? event.did).isSome = true) :
      Entry handler event now roster (.deleteLike event.uri)

/-- **FollowsSubject** — the event is a follow of the subject account. -/
structure FollowsSubject (handler : Handler) (event : Event) (follow : Follow) : Prop where
  valid : Did.isValid event.did = true
  kind : Collection.ofName event.collection = .follow
  action : event.action = .create
  opened : handler.openRecord event = .ok follow
  subject : follow.subject = handler.subject

/-- **Unfollows** — the event deletes a follow of an account that is known. -/
structure Unfollows (event : Event) (roster : Roster) (actor : Actor) : Prop where
  valid : Did.isValid event.did = true
  kind : Collection.ofName event.collection = .follow
  action : event.action = .delete
  known : roster.get? event.did = some actor

variable [Store σ]

/-- The store after a follow was looked up and deleted. -/
def withoutFollow (event : Event) (now : Timestamp) (store : σ) : σ :=
  (StoreOperation.deleteFollow event.uri).after now ((StoreOperation.getFollow event.uri).after now store)

/-- Whether the follow that was looked up could be deleted. -/
def deletionOutcome (event : Event) (now : Timestamp) (store : σ) : Except HandleFailure Unit :=
  (StoreOperation.deleteFollow event.uri).outcome now ((StoreOperation.getFollow event.uri).after now store)

/-- **Handled** — the ways to handle an event of an index: the result, and the index it leaves. -/
inductive Handled (handler : Handler) (event : Event) (now : Timestamp) (index : Index σ) :
    Except HandleFailure Unit → Index σ → Prop
  /-- Nothing is to be done. -/
  | passed : Handled handler event now index (.ok ()) index
  /-- The event cannot be handled, which is found before the store is asked. -/
  | refused {failure : HandleFailure} (own : failure.isOfStore = false) :
      Handled handler event now index (.error failure) index
  | entered {request : StoreOperation} (valid : Did.isValid event.did = true)
      (entry : Entry handler event now index.roster request) :
      Handled handler event now index (request.outcome now index.store)
        { index with store := request.after now index.store }
  /-- A follow of the subject whose account could not be moved on. -/
  | followFailed {follow : Follow} {failure : HandleFailure} {moved : Index σ}
      (follows : FollowsSubject handler event follow)
      (move : (followedSubject event (index.roster.get? event.did) now).run.run index =
        (.error failure, moved)) :
      Handled handler event now index (.error failure) moved
  /-- A follow of the subject with a time that cannot be read: its account has moved on before that. -/
  | followUntimed {follow : Follow} {failure : HandleFailure} {moved : Index σ}
      (follows : FollowsSubject handler event follow)
      (move : (followedSubject event (index.roster.get? event.did) now).run.run index = (.ok (), moved))
      (untimed : claimedTime follow.createdAt = .error failure) :
      Handled handler event now index (.error failure) moved
  | followKept {follow : Follow} {createdAt : Timestamp} {moved : Index σ}
      (follows : FollowsSubject handler event follow)
      (move : (followedSubject event (index.roster.get? event.did) now).run.run index = (.ok (), moved))
      (time : claimedTime follow.createdAt = .ok createdAt) :
      Handled handler event now index
        ((StoreOperation.createFollow (followRow event follow createdAt now)).outcome now moved.store)
        { moved with
          store := (StoreOperation.createFollow (followRow event follow createdAt now)).after now
            moved.store }
  /-- The follow to be deleted was never kept, or cannot be read. -/
  | unfollowUnknown {actor : Actor} (unfollows : Unfollows event index.roster actor)
      (unknown : ∀ row, (Store.getFollow event.uri : Storing σ _).answer index.store ≠ .ok (some row)) :
      Handled handler event now index ((StoreOperation.getFollow event.uri).outcome now index.store)
        { index with store := (StoreOperation.getFollow event.uri).after now index.store }
  /-- A follow is deleted, and its account does not move. -/
  | unfollowed {actor : Actor} {row : LinkRow} (unfollows : Unfollows event index.roster actor)
      (stored : (Store.getFollow event.uri : Storing σ _).answer index.store = .ok (some row))
      (stays : row.subject ≠ handler.subject ∨ deletionOutcome event now index.store ≠ .ok ()) :
      Handled handler event now index (deletionOutcome event now index.store)
        { index with store := withoutFollow event now index.store }
  /-- A follow of the subject is deleted, and its account moves on. -/
  | unfollowedSubject {actor : Actor} {row : LinkRow} {result : Except HandleFailure Unit}
      {moved : Index σ} (unfollows : Unfollows event index.roster actor)
      (stored : (Store.getFollow event.uri : Storing σ _).answer index.store = .ok (some row))
      (subject : row.subject = handler.subject) (deleted : deletionOutcome event now index.store = .ok ())
      (move : (moveStatus event.did actor.status.afterUnfollow).run.run
        { index with store := withoutFollow event now index.store } = (result, moved)) :
      Handled handler event now index result moved

/-! ## Failures of an event -/

/-- **Own** — a decision that the event alone can make fail. -/
def Own (result : Except HandleFailure α) : Prop :=
  ∀ failure, result = .error failure → failure.isOfStore = false

theorem own_ok (a : α) : Own (.ok a) := by
  intro failure h
  cases h

theorem own_error {failure : HandleFailure} (h : failure.isOfStore = false) :
    Own (.error failure : Except HandleFailure α) := by
  intro other heq
  cases heq
  exact h

theorem own_bind {β : Type} {result : Except HandleFailure α} {next : α → Except HandleFailure β}
    (h : Own result) (hnext : ∀ a, Own (next a)) : Own (result >>= next) := by
  rcases result with failure | a
  · exact own_error (h failure rfl)
  · exact hnext a

theorem own_mapError {ε : Type} {wrap : ε → HandleFailure} (h : ∀ cause, (wrap cause).isOfStore = false)
    (result : Except ε α) : Own (result.mapError wrap) := by
  rcases result with cause | a
  · exact own_error (h cause)
  · exact own_ok a

theorem own_claimedTime (text : String) : Own (claimedTime text) := own_mapError (fun _ => rfl) _

theorem own_payloadOf (event : Event) : Own (payloadOf event) := by
  unfold payloadOf
  split
  · exact own_ok _
  · exact own_error rfl

section

variable (handler : Handler) (event : Event) (now : Timestamp)

theorem own_openRecord [Record α] : Own (handler.openRecord event : Except HandleFailure α) := by
  unfold openRecord
  split
  · next failure h => exact own_error (own_payloadOf event failure h)
  · exact own_mapError (fun _ => rfl) _

theorem own_openWithRaw [Record α] :
    Own (handler.openWithRaw event : Except HandleFailure (α × Json.Value)) := by
  unfold openWithRaw
  split
  · next failure h => exact own_error (own_payloadOf event failure h)
  · exact own_mapError (fun _ => rfl) _

theorem own_postRow? : Own (handler.postRow? event now) := by
  refine own_bind (own_openWithRaw handler event) ?_
  rintro ⟨post, raw⟩
  dsimp only
  split
  · exact own_ok _
  · exact own_bind (own_claimedTime _) fun _ => own_ok _

theorem own_likedUri (text : String) : Own (likedUri text) := by
  unfold likedUri
  split
  · exact own_ok _
  · exact own_error rfl

theorem own_likeRow : Own (handler.likeRow event now) := by
  refine own_bind (own_openRecord handler event) fun like => ?_
  refine own_bind (own_likedUri _) fun subject => ?_
  exact own_bind (own_claimedTime _) fun _ => own_ok _

theorem own_profileRow : Own (handler.profileRow event now) := by
  unfold profileRow
  split
  · refine own_bind (own_openRecord handler event) fun profile => ?_
    refine own_bind ?_ fun _ => own_ok _
    rcases profile.createdAt with _ | text
    · exact own_ok _
    · exact own_bind (own_claimedTime text) fun _ => own_ok _
  · exact own_error rfl

end

/-! ## There is no other way -/

section

variable (handler : Handler) (event : Event) (now : Timestamp) (index : Index σ)

theorem run_keepFollow (follow : Follow) :
    (keepFollow event follow now).run.run index =
      match claimedTime follow.createdAt with
      | .error failure => (.error failure, index)
      | .ok createdAt =>
        ((StoreOperation.createFollow (followRow event follow createdAt now)).outcome now index.store,
          { index with
            store := (StoreOperation.createFollow (followRow event follow createdAt now)).after now
              index.store }) := by
  unfold keepFollow
  rw [Indexing.run_bind, run_deciding]
  rcases claimedTime follow.createdAt with failure | createdAt
  · rfl
  · exact run_entering (.createFollow (followRow event follow createdAt now)) rfl index

/-- A follow that is kept although nothing else changes. -/
theorem handled_keepFollow {follow : Follow} (valid : Did.isValid event.did = true)
    (kind : Collection.ofName event.collection = .follow) (action : event.action = .create)
    (approved : isApproved (index.roster.get? event.did) = true)
    (opened : handler.openRecord event = .ok follow) (other : follow.subject ≠ handler.subject) :
    Handled handler event now index ((keepFollow event follow now).run.run index).1
      ((keepFollow event follow now).run.run index).2 := by
  rw [run_keepFollow]
  rcases time : claimedTime follow.createdAt with failure | createdAt
  · exact .refused (own_claimedTime _ failure time)
  · exact .entered valid (.follow kind action approved opened other time)

theorem handled_followCreated (valid : Did.isValid event.did = true)
    (kind : Collection.ofName event.collection = .follow) (action : event.action = .create) :
    Handled handler event now index
      ((handler.followCreated event (index.roster.get? event.did) now).run.run index).1
      ((handler.followCreated event (index.roster.get? event.did) now).run.run index).2 := by
  unfold followCreated
  rw [Indexing.run_bind, run_deciding]
  rcases opened : (handler.openRecord event : Except HandleFailure Follow) with failure | follow
  · exact .refused (own_openRecord handler event failure opened)
  dsimp only
  by_cases subject : follow.subject = handler.subject
  · have follows : FollowsSubject handler event follow := ⟨valid, kind, action, opened, subject⟩
    rw [if_pos subject, Indexing.run_bind]
    rcases move : (followedSubject event (index.roster.get? event.did) now).run.run index with
      ⟨failure | ⟨⟩, moved⟩
    · exact .followFailed follows move
    dsimp only
    rw [run_keepFollow]
    rcases time : claimedTime follow.createdAt with failure | createdAt
    · exact .followUntimed follows move time
    · exact .followKept follows move time
  · rw [if_neg subject]
    by_cases approved : isApproved (index.roster.get? event.did) = true
    · rw [if_pos approved]
      exact handled_keepFollow handler event now index valid kind action approved opened subject
    · rw [if_neg approved]
      exact .passed

/-- A follow that is there is deleted before its account moves. -/
theorem run_followDeleted {row : LinkRow} (actor : Actor)
    (stored : (Store.getFollow event.uri : Storing σ _).answer index.store = .ok (some row)) :
    (handler.followDeleted event actor now).run.run index =
      match deletionOutcome event now index.store with
      | .error failure => (.error failure, { index with store := withoutFollow event now index.store })
      | .ok () =>
        (if row.subject = handler.subject then moveStatus event.did actor.status.afterUnfollow
          else pure () : Handling σ Unit).run.run
            { index with store := withoutFollow event now index.store } := by
  unfold followDeleted
  rw [Indexing.run_bind, run_storing, StoreOperation.after_of_perform now _ (StoreOperation.perform_getFollow now event.uri),
    stored]
  show (storing (Store.deleteFollow event.uri now) >>= fun _ =>
    (if row.subject = handler.subject then moveStatus event.did actor.status.afterUnfollow
      else pure () : Handling σ Unit)).run.run _ = _
  rw [Indexing.run_bind, run_entering (.deleteFollow event.uri) rfl]
  unfold deletionOutcome
  rcases StoreOperation.outcome now (.deleteFollow event.uri) _ with failure | ⟨⟩ <;> rfl

/-- A follow that is not there, or cannot be read, is left alone. -/
theorem handled_unknownFollow {actor : Actor} (unfollows : Unfollows event index.roster actor)
    (unknown : ∀ row, (Store.getFollow event.uri : Storing σ _).answer index.store ≠ .ok (some row)) :
    Handled handler event now index ((handler.followDeleted event actor now).run.run index).1
      ((handler.followDeleted event actor now).run.run index).2 := by
  have handled : Handled handler event now index _ _ := .unfollowUnknown unfollows unknown
  rw [← StoreOperation.outcome_of_perform (StoreOperation.perform_getFollow now event.uri)] at handled
  unfold followDeleted
  rw [Indexing.run_bind, run_storing, StoreOperation.after_of_perform now _ (StoreOperation.perform_getFollow now event.uri)]
  rcases stored : (Store.getFollow event.uri : Storing σ _).answer index.store with failure | _ | row
  · rw [stored] at handled
    exact handled
  · rw [stored] at handled
    exact handled
  · exact absurd stored (unknown row)

theorem handled_followDeleted {actor : Actor} (unfollows : Unfollows event index.roster actor) :
    Handled handler event now index ((handler.followDeleted event actor now).run.run index).1
      ((handler.followDeleted event actor now).run.run index).2 := by
  rcases stored : (Store.getFollow event.uri : Storing σ _).answer index.store with failure | _ | row
  · exact handled_unknownFollow handler event now index unfollows (by rw [stored]; exact nofun)
  · exact handled_unknownFollow handler event now index unfollows (by rw [stored]; exact nofun)
  rw [run_followDeleted handler event now index actor stored]
  rcases deleted : deletionOutcome event now index.store with failure | ⟨⟩
  · have handled : Handled handler event now index _ _ :=
      .unfollowed unfollows stored (.inr (by rw [deleted]; exact nofun))
    rw [deleted] at handled
    exact handled
  dsimp only
  by_cases subject : row.subject = handler.subject
  · rw [if_pos subject]
    exact .unfollowedSubject unfollows stored subject deleted rfl
  · have handled : Handled handler event now index _ _ := .unfollowed unfollows stored (.inl subject)
    rw [deleted] at handled
    rw [if_neg subject]
    exact handled

theorem run_eq_plan : handler.run event now index =
    match (handler.plan event now).run.run index with
    | (.ok (some post), index) => (storing (Store.createPost post)).run.run index
    | (.ok none, index) => (.ok (), index)
    | (.error failure, index) => (.error failure, index) := by
  unfold run handle
  rw [Indexing.run_bind]
  rcases (handler.plan event now).run.run index with ⟨failure | _ | post, index⟩ <;> rfl

/-- A decision that is entered, if the gate is open. -/
def entering {ρ : Type} (gate : Bool) (decision : Except HandleFailure ρ)
    (operation : ρ → Storing σ Unit) : Handling σ (Option PostRow) :=
  if gate then do
    let row ← deciding decision
    storing (operation row)
    return none
  else return none

/-- **planFor** — the plan by the collection and the action of an event whose account is valid. -/
def planFor (actor : Option Actor) : Collection → Action → Handling σ (Option PostRow)
  | .follow, .create => do
    handler.followCreated event actor now
    return none
  | .follow, .delete => do
    if let some actor := actor then handler.followDeleted event actor now
    return none
  | .post, .create =>
    if isApproved actor then deciding (handler.postRow? event now) else return none
  | .like, .create => entering (isApproved actor) (handler.likeRow event now) Store.createLike
  | .profile, .create | .profile, .update =>
    entering (keepsProfile actor) (handler.profileRow event now) Store.putProfile
  | .post, .delete => entering actor.isSome (.ok ()) fun _ => Store.deletePost event.uri now
  | .like, .delete => entering actor.isSome (.ok ()) fun _ => Store.deleteLike event.uri now
  | _, _ => return none

/-- An event of another collection is passed over, whatever it holds. -/
theorem run_plan_of_other (other : Collection.ofName event.collection = .other) :
    (handler.plan event now).run.run index = (.ok none, index) := by
  simp only [Handler.plan, if_pos other, Indexing.run_pure]

theorem run_plan_of_invalid (indexed : Collection.ofName event.collection ≠ .other)
    (invalid : Did.isValid event.did = false) :
    (handler.plan event now).run.run index = (.error (.badDid event.did), index) := by
  simp only [Handler.plan, if_neg indexed, invalid]
  rfl

theorem run_plan {collection : Collection} {action : Action} (valid : Did.isValid event.did = true)
    (kind : Collection.ofName event.collection = collection) (acts : event.action = action)
    (indexed : collection ≠ .other) :
    (handler.plan event now).run.run index =
      (planFor handler event now (index.roster.get? event.did) collection action).run.run index := by
  subst kind acts
  unfold plan
  simp only [if_neg indexed, valid, Bool.not_true, Bool.false_eq_true, if_false]
  rw [Indexing.run_get_bind]
  rcases Collection.ofName event.collection <;> rcases event.action <;> rfl

/-- A row that was decided on is entered into the store. -/
theorem run_of_entering {ρ : Type} {decision : Except HandleFailure ρ} {operation : ρ → Storing σ Unit}
    {row : ρ} (request : StoreOperation)
    (plan : (handler.plan event now).run.run index = (entering true decision operation).run.run index)
    (decided : decision = .ok row) (perform : request.perform now = (operation row >>= fun _ => pure .done)) :
    handler.run event now index =
      (request.outcome now index.store, { index with store := request.after now index.store }) := by
  rw [run_eq_plan, plan, entering, if_pos rfl, Indexing.run_bind, run_deciding, decided]
  dsimp only
  rw [Indexing.run_bind, run_entering request perform]
  rcases request.outcome now index.store with failure | ⟨⟩ <;> rfl

theorem handled_entering {ρ : Type} {gate : Bool} {decision : Except HandleFailure ρ}
    {operation : ρ → Storing σ Unit} (request : ρ → StoreOperation)
    (plan : (handler.plan event now).run.run index = (entering gate decision operation).run.run index)
    (valid : Did.isValid event.did = true) (own : Own decision)
    (perform : ∀ row, (request row).perform now = (operation row >>= fun _ => pure .done))
    (entry : gate = true → ∀ row, decision = .ok row →
      Entry handler event now index.roster (request row)) :
    Handled handler event now index (handler.run event now index).1 (handler.run event now index).2 := by
  rcases gate with _ | _
  · rw [run_eq_plan, plan]
    exact .passed
  rcases decided : decision with failure | row
  · rw [run_eq_plan, plan, entering, if_pos rfl, Indexing.run_bind, run_deciding, decided]
    exact .refused (own failure decided)
  · rw [run_of_entering handler event now index (request row) plan decided (perform row)]
    exact .entered valid (entry rfl row decided)

theorem handled_postCreated
    (plan : (handler.plan event now).run.run index =
      (planFor handler event now (index.roster.get? event.did) .post .create).run.run index)
    (valid : Did.isValid event.did = true) (kind : Collection.ofName event.collection = .post)
    (action : event.action = .create) :
    Handled handler event now index (handler.run event now index).1 (handler.run event now index).2 := by
  rw [run_eq_plan, plan, planFor]
  by_cases approved : isApproved (index.roster.get? event.did) = true
  · rw [if_pos approved, run_deciding]
    rcases decided : handler.postRow? event now with failure | _ | row
    · exact .refused (own_postRow? handler event now failure decided)
    · exact .passed
    · dsimp only
      rw [run_entering (.createPost row) rfl]
      exact .entered valid (.post kind action approved decided)
  · rw [if_neg approved]
    exact .passed

/-- A plan that leaves no post to be written is handled by what it does itself. -/
theorem run_of_plan_bind {operation : Handling σ Unit}
    (plan : (handler.plan event now).run.run index =
      (operation >>= fun _ => pure (none : Option PostRow)).run.run index) :
    handler.run event now index = operation.run.run index := by
  rw [run_eq_plan, plan, Indexing.run_bind]
  rcases operation.run.run index with ⟨failure | ⟨⟩, index⟩ <;> rfl

/-- **Planned** — an event creates a post, with a row to be written. -/
structure Planned (row : PostRow) : Prop where
  valid : Did.isValid event.did = true
  kind : Collection.ofName event.collection = .post
  action : event.action = .create
  decided : handler.postRow? event now = .ok (some row)

omit [Store σ] in
/-- A computation that ends without a post has none to be written. -/
theorem run_bind_none_ne {operation : Handling σ α} {row : PostRow} {left : Index σ} :
    (operation >>= fun _ => pure (none : Option PostRow)).run.run index ≠ (.ok (some row), left) := by
  rw [Indexing.run_bind]
  rcases operation.run.run index with ⟨failure | a, left'⟩ <;> exact nofun

/-- **A plan for a post** is one for the creation of a post, and leaves the index as it is. -/
theorem planned_of_plan {row : PostRow} {left : Index σ}
    (plan : (handler.plan event now).run.run index = (.ok (some row), left)) :
    Planned handler event now row ∧ left = index := by
  by_cases other : Collection.ofName event.collection = .other
  · rw [run_plan_of_other handler event now index other] at plan
    cases plan
  by_cases valid : Did.isValid event.did = true
  · rw [run_plan handler event now index valid rfl rfl other] at plan
    have passes : (pure none : Handling σ (Option PostRow)).run.run index ≠ (.ok (some row), left) := nofun
    have entered {ρ : Type} {gate : Bool} {decision : Except HandleFailure ρ} {operation : ρ → Storing σ Unit} :
        (entering gate decision operation).run.run index ≠ (.ok (some row), left) := by
      unfold entering
      rcases gate with _ | _
      · exact passes
      · rw [if_pos rfl, Indexing.run_bind, run_deciding]
        rcases decision with failure | decided
        · exact nofun
        · exact run_bind_none_ne index
    rcases kind : Collection.ofName event.collection <;> rcases action : event.action <;>
      rw [kind, action] at plan
    case post.create =>
      rw [planFor] at plan
      split at plan
      · obtain ⟨decided, rfl⟩ := Prod.mk.inj plan
        exact ⟨⟨valid, kind, action, decided⟩, rfl⟩
      · exact absurd plan passes
    case follow.create => exact absurd plan (run_bind_none_ne index)
    case follow.delete =>
      rcases known : index.roster.get? event.did with _ | actor <;> rw [known] at plan
      · exact absurd plan passes
      · exact absurd plan (run_bind_none_ne index)
    case post.delete | like.create | like.delete | profile.create | profile.update => exact absurd plan entered
    all_goals exact absurd plan passes
  · rw [run_plan_of_invalid handler event now index other (Bool.eq_false_iff.mpr valid)] at plan
    cases plan

/-- **There is no other way** to handle an event. -/
theorem handled_run :
    Handled handler event now index (handler.run event now index).1 (handler.run event now index).2 := by
  by_cases other : Collection.ofName event.collection = .other
  · rw [run_eq_plan, run_plan_of_other handler event now index other]
    exact .passed
  by_cases valid : Did.isValid event.did = true
  · have plan := run_plan handler event now index valid rfl rfl other
    -- an event without a rule of its own passes
    have passes (h : (handler.plan event now).run.run index = (.ok none, index)) :
        Handled handler event now index (handler.run event now index).1
          (handler.run event now index).2 := by
      rw [run_eq_plan, h]
      exact .passed
    rcases kind : Collection.ofName event.collection <;> rcases action : event.action <;>
      rw [kind, action] at plan
    case post.create => exact handled_postCreated handler event now index plan valid kind action
    case post.delete =>
      exact handled_entering handler event now index (fun _ => .deletePost event.uri) plan valid
        (own_ok ()) (fun _ => rfl) fun known _ _ => .deletedPost kind action known
    case like.create =>
      exact handled_entering handler event now index (.createLike) plan valid
        (own_likeRow handler event now) (fun _ => rfl) fun approved _ h => .like kind action approved h
    case like.delete =>
      exact handled_entering handler event now index (fun _ => .deleteLike event.uri) plan valid
        (own_ok ()) (fun _ => rfl) fun known _ _ => .deletedLike kind action known
    case follow.create =>
      rw [run_of_plan_bind handler event now index plan]
      exact handled_followCreated handler event now index valid kind action
    case follow.delete =>
      rcases known : index.roster.get? event.did with _ | actor
      · rw [known] at plan
        exact passes plan
      · rw [known] at plan
        rw [run_of_plan_bind handler event now index plan]
        exact handled_followDeleted handler event now index ⟨valid, kind, action, known⟩
    case profile.create | profile.update =>
      exact handled_entering handler event now index (.putProfile) plan valid
        (own_profileRow handler event now) (fun _ => rfl)
        fun keeps _ h => .profile kind (by rw [action]; exact nofun) keeps h
    case other.create | other.update | other.delete => exact absurd kind other
    all_goals exact passes plan
  · rw [run_eq_plan, run_plan_of_invalid handler event now index other (Bool.eq_false_iff.mpr valid)]
    exact .refused rfl

/-! ## Ways that are taken for sure -/

variable {handler event index}

theorem run_followsSubject {follow : Follow} (follows : FollowsSubject handler event follow) :
    handler.run event now index =
      match (followedSubject event (index.roster.get? event.did) now).run.run index with
      | (.ok (), moved) => (keepFollow event follow now).run.run moved
      | (.error failure, moved) => (.error failure, moved) := by
  have plan := run_plan handler event now index follows.valid follows.kind follows.action nofun
  rw [run_of_plan_bind handler event now index plan]
  unfold followCreated
  rw [Indexing.run_bind, run_deciding, follows.opened]
  dsimp only
  rw [if_pos follows.subject, Indexing.run_bind]
  rcases (followedSubject event (index.roster.get? event.did) now).run.run index with
    ⟨failure | ⟨⟩, moved⟩ <;> rfl

theorem run_unfollows {actor : Actor} (unfollows : Unfollows event index.roster actor) :
    handler.run event now index = (handler.followDeleted event actor now).run.run index := by
  have plan := run_plan handler event now index unfollows.valid unfollows.kind unfollows.action nofun
  rw [unfollows.known] at plan
  exact run_of_plan_bind handler event now index plan

/-- An event whose account has no valid identifier changes nothing. -/
theorem run_of_invalid (invalid : Did.isValid event.did = false) : (handler.run event now index).2 = index := by
  by_cases other : Collection.ofName event.collection = .other
  · rw [run_eq_plan, run_plan_of_other handler event now index other]
  · rw [run_eq_plan, run_plan_of_invalid handler event now index other invalid]

/-- A post of a known account is deleted. -/
theorem run_deletedPost (valid : Did.isValid event.did = true)
    (kind : Collection.ofName event.collection = .post) (action : event.action = .delete)
    (known : (index.roster.get? event.did).isSome = true) :
    handler.run event now index = ((StoreOperation.deletePost event.uri).outcome now index.store,
      { index with store := (StoreOperation.deletePost event.uri).after now index.store }) := by
  have plan := run_plan handler event now index valid kind action nofun
  rw [planFor, known] at plan
  exact run_of_entering handler event now index (.deletePost event.uri) plan rfl rfl

/-- A like of a known account is deleted. -/
theorem run_deletedLike (valid : Did.isValid event.did = true)
    (kind : Collection.ofName event.collection = .like) (action : event.action = .delete)
    (known : (index.roster.get? event.did).isSome = true) :
    handler.run event now index = ((StoreOperation.deleteLike event.uri).outcome now index.store,
      { index with store := (StoreOperation.deleteLike event.uri).after now index.store }) := by
  have plan := run_plan handler event now index valid kind action nofun
  rw [planFor, known] at plan
  exact run_of_entering handler event now index (.deleteLike event.uri) plan rfl rfl

end

end Handler

end FeedIndex
