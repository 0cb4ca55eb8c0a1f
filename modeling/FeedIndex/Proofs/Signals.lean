import FeedIndex.Proofs.Faithful
import FeedIndex.Proofs.Growth

/-!
# Signals of an account

An account says by its follows of the subject whether it wants to be indexed: it joins when it follows, and leaves
when it deletes such a follow. Nothing else moves its status, and what a signal makes of the status is decided by
the signal and by what moderators have made of the account, which no event changes.
-/

namespace FeedIndex

variable {L : Schema}

/-! ## Statuses -/

namespace ActorStatus

/-- **joined** — the status of an account that has just joined. -/
def joined (status : Option ActorStatus) : ActorStatus :=
  status.elim .pending fun status => status.afterFollow.getD status

/-- **left** — the status of an account that has just left. -/
def left (status : ActorStatus) : ActorStatus := status.afterUnfollow.getD status

/-- Nothing is kept of an account with such a status, but its follows of the subject. -/
def IsClosed (status : Option ActorStatus) : Prop := status ≠ some .approved ∧ status ≠ some .pending

theorem joined_joined (status : Option ActorStatus) : joined (some (joined status)) = joined status := by
  rcases status with _ | status
  · rfl
  · cases status <;> rfl

theorem joined_left (status : ActorStatus) : joined (some (left status)) = joined (some status) := by
  cases status <;> rfl

/-- What an account comes to when it leaves is decided by what it comes to when it joins. -/
theorem left_eq_of_joined_eq {status status' : ActorStatus} (same : joined (some status) = joined (some status')) :
    left status = left status' := by
  cases status <;> cases status' <;> first | rfl | cases same

theorem isClosed_left (status : ActorStatus) : IsClosed (some (left status)) := by
  cases status <;> exact ⟨nofun, nofun⟩

end ActorStatus

open ActorStatus (joined left joined_joined joined_left)

namespace Handler

/-! ## Joining and leaving -/

section

variable (handler : Handler) (event : Event)

/-- **Joins** — the account follows the subject. -/
def Joins : Prop := ∃ follow, FollowsSubject handler event follow

/-- **Leaves** — the account deletes a follow of the subject that stands in the tables. -/
structure Leaves (t : Tables L) : Prop where
  valid : Did.isValid event.did = true
  kind : Collection.ofName event.collection = .follow
  action : event.action = .delete
  points : t.PointsTo event.uri handler.subject

end

variable {handler : Handler} {event : Event} {now : Timestamp} {index : Index (Tables L)}

theorem not_joins_of_delete (action : event.action = .delete) : ¬ handler.Joins event := by
  rintro ⟨follow, follows⟩
  rw [follows.action] at action
  cases action

/-! ## What signals do to the statuses -/

/-- What is entered leaves the statuses to what is filed. -/
theorem status_take (faithful : index.Faithful) (did : String) :
    (handler.take event now index).store.status did =
      (index.file? event.did now (handler.moved? event now index)).store.status did := by
  rw [take_eq faithful]
  rcases wanted : handler.wanted? event now index with _ | request
  · rfl
  · exact congrFun ((does_of_wanted? wanted).status_apply _) did

theorem deedsOf_of_follows {follow : Follow} (follows : FollowsSubject handler event follow) (now : Timestamp)
    (index : Index (Tables L)) :
    handler.deedsOf event now index =
      ((AccountChange.onFollow? (index.roster.get? event.did)).map Deed.file).toList ++
        ((kept? event now follow).map Deed.enter).toList := by
  unfold deedsOf deeds followDeeds
  rw [if_pos follows.valid, follows.kind, follows.action, follows.opened]
  exact if_pos follows.subject

/-- Only signals change anything about an account. -/
theorem moved?_eq_none (stays : ¬ handler.Joins event)
    (stays' : handler.Leaves event index.store → index.roster.get? event.did = none) :
    handler.moved? event now index = none := by
  rcases moved : handler.moved? event now index with _ | change
  · rfl
  · cases does_of_moved? moved with
    | followed follows _ => exact absurd ⟨_, follows⟩ stays
    | unfollowed unfollows stored subject _ =>
      have leaves : handler.Leaves event index.store :=
        ⟨unfollows.valid, unfollows.kind, unfollows.action, Tables.pointsTo_iff.mpr ⟨_, stored, subject⟩⟩
      rw [unfollows.known] at stays'
      cases stays' leaves

theorem moved?_of_leaves (leaves : handler.Leaves event index.store) {actor : Actor}
    (known : index.roster.get? event.did = some actor) :
    handler.moved? event now index = AccountChange.onUnfollow? actor := by
  obtain ⟨valid, kind, action, points⟩ := leaves
  obtain ⟨row, stored, subject⟩ := Tables.pointsTo_iff.mp points
  unfold moved? deedsOf deeds
  rw [if_pos valid, kind, action, known, stored]
  dsimp only [unfollowDeeds]
  rw [if_pos subject]
  rcases AccountChange.onUnfollow? actor with _ | change <;> rfl

/-- No signal, no change. -/
theorem status_take_still (faithful : index.Faithful) (stays : ¬ handler.Joins event)
    (stays' : ¬ handler.Leaves event index.store) (did : String) :
    (handler.take event now index).store.status did = index.store.status did := by
  rw [status_take faithful, moved?_eq_none stays fun leaves => absurd leaves stays']
  rfl

/-- A signal is one of its account. -/
theorem status_take_of_ne (faithful : index.Faithful) {did : String} (other : did ≠ event.did) :
    (handler.take event now index).store.status did = index.store.status did := by
  rw [status_take faithful]
  rcases handler.moved? event now index with _ | change
  · rfl
  · show ((index.file event.did now change).store).status did = _
    rw [Index.store_file, Tables.status_file, if_neg other]

theorem status_take_joins (faithful : index.Faithful) (joins : handler.Joins event) :
    (handler.take event now index).store.status event.did = some (joined (index.store.status event.did)) := by
  obtain ⟨follow, follows⟩ := joins
  have agrees := faithful.agrees event.did
  rw [status_take faithful, moved?, deedsOf_of_follows follows, (findSome?_deeds _ _).2]
  rcases known : index.roster.get? event.did with _ | actor
  · rw [known] at agrees
    show ((index.file event.did now .add).store).status event.did = _
    rw [Index.store_file, Tables.status_file, if_pos rfl, ← agrees]
    rfl
  · rw [known] at agrees
    unfold AccountChange.onFollow?
    dsimp only
    rcases after : actor.status.afterFollow with _ | next
    · show index.store.status event.did = _
      rw [← agrees]
      simp [joined, after]
    · show ((index.file event.did now (.set next)).store).status event.did = _
      rw [Index.store_file, Tables.status_file, if_pos rfl, ← agrees]
      simp [joined, after]

theorem status_take_leaves (faithful : index.Faithful) (leaves : handler.Leaves event index.store) :
    (handler.take event now index).store.status event.did = (index.store.status event.did).map left := by
  have agrees := faithful.agrees event.did
  rw [status_take faithful]
  rcases known : index.roster.get? event.did with _ | actor
  · rw [moved?_eq_none (not_joins_of_delete leaves.action) fun _ => known]
    rw [known] at agrees
    show index.store.status event.did = _
    rw [← agrees]
    rfl
  · rw [moved?_of_leaves leaves known]
    rw [known] at agrees
    unfold AccountChange.onUnfollow?
    rcases after : actor.status.afterUnfollow with _ | next
    · show index.store.status event.did = _
      rw [← agrees]
      simp [left, after]
    · show ((index.file event.did now (.set next)).store).status event.did = _
      rw [Index.store_file, Tables.status_file, if_pos rfl, ← agrees]
      simp [left, after]

/-- No event changes what an account would be if it joined. -/
theorem joined_take (faithful : index.Faithful) (did : String) :
    joined ((handler.take event now index).store.status did) = joined (index.store.status did) := by
  by_cases own : did = event.did
  · subst own
    by_cases joins : handler.Joins event
    · rw [status_take_joins faithful joins, joined_joined]
    · by_cases leaves : handler.Leaves event index.store
      · rw [status_take_leaves faithful leaves]
        rcases index.store.status event.did with _ | status
        · rfl
        · exact joined_left status
      · rw [status_take_still faithful joins leaves]
  · rw [status_take_of_ne faithful own]

/-- An account that is stored stays so. -/
theorem known_take (faithful : index.Faithful) {did : String} (known : index.store.status did ≠ none) :
    (handler.take event now index).store.status did ≠ none := by
  by_cases own : did = event.did
  · subst own
    by_cases joins : handler.Joins event
    · rw [status_take_joins faithful joins]
      exact nofun
    · by_cases leaves : handler.Leaves event index.store
      · rw [status_take_leaves faithful leaves]
        exact fun absent => known (Option.map_eq_none_iff.mp absent)
      · rw [status_take_still faithful joins leaves]
        exact known
  · rw [status_take_of_ne faithful own]
    exact known

/-- An account becomes known by joining. -/
theorem joins_of_known_take (faithful : index.Faithful) {did : String} (unknown : index.store.status did = none)
    (known : (handler.take event now index).store.status did ≠ none) : event.did = did ∧ handler.Joins event := by
  by_cases own : did = event.did
  · subst own
    refine ⟨rfl, ?_⟩
    by_contra stays
    refine known ?_
    by_cases leaves : handler.Leaves event index.store
    · rw [status_take_leaves faithful leaves, unknown]
      rfl
    · rw [status_take_still faithful stays leaves, unknown]
  · rw [status_take_of_ne faithful own] at known
    exact absurd unknown known

end Handler

end FeedIndex
