import FeedIndex.Proofs.Replay

/-!
# Opting out

An account opts out by deleting the follow of the subject by which it asked to be indexed. The deletion names an
address only, so it is recognized by the row that was kept there. Follows do not replace each other at an address:
the first one to be kept stays, even after its deletion. So an account that follows the subject where it had
followed somebody else before is not taken to leave when it deletes that follow.
-/

namespace FeedIndex

open ActorStatus (IsClosed isClosed_left)
open LedgerStore TableStore Tables

variable {L : Schema}

/-! ## What stands at an address -/

/-- A follow points for good to where it points first. -/
theorem Tables.Within.pointsTo_iff {t t' : Tables L} {uri subject : String} (within : t.Within t')
    (taken : t.records .follows uri ≠ none) : t'.PointsTo uri subject ↔ t.PointsTo uri subject := by
  refine ⟨?_, within.pointsTo⟩
  rintro ⟨row', stored', points⟩
  obtain ⟨row, stored⟩ := Option.ne_none_iff_exists'.mp taken
  obtain ⟨later, found, kept⟩ := within.records .follows uri row stored
  obtain rfl : row' = later := Option.some.inj (stored'.symm.trans found)
  refine ⟨row, stored, ?_⟩
  rcases kept with rfl | ⟨now, rfl⟩
  · exact points
  · rw [Schema.Row.subject?_delete] at points
    exact points

/-- **Allows** — no follow of another account stands at the address, deleted or not. -/
def Tables.Allows (t : Tables L) (uri subject : String) : Prop :=
  ∀ row, t.records .follows uri = some row → row.subject? = some subject

theorem Tables.allows_iff {t : Tables L} {uri subject : String} :
    t.Allows uri subject ↔ t.records .follows uri = none ∨ t.PointsTo uri subject := by
  constructor
  · intro allows
    rcases stored : t.records .follows uri with _ | row
    · exact .inl rfl
    · exact .inr ⟨row, stored, allows row stored⟩
  · rintro (free | ⟨row, stored, points⟩) other found
    · rw [free] at found
      cases found
    · rw [stored] at found
      obtain rfl := Option.some.inj found
      exact points

namespace Handler

variable {handler : Handler} {event : Event} {now : Timestamp} {index : Index (Tables L)}

/-! ## Joining and leaving at an address -/

/-- A follow of the subject that is kept points to the subject, unless another follow has its address. -/
theorem pointsTo_take_joins (now : Timestamp) (faithful : index.Faithful) {follow : Follow} {createdAt : Timestamp}
    (follows : FollowsSubject handler event follow) (time : claimedTime follow.createdAt = .ok createdAt) :
    (handler.take event now index).store.records .follows event.uri ≠ none ∧
      ((handler.take event now index).store.PointsTo event.uri handler.subject ↔
        index.store.Allows event.uri handler.subject) := by
  have wanted : handler.wanted? event now index = some (.createFollow (followRow event follow createdAt now)) := by
    unfold wanted?
    rw [deedsOf_of_follows follows, (findSome?_deeds _ _).1, kept?, time]
    rfl
  have taken : (handler.take event now index).store.records .follows event.uri ≠ none := holds_take faithful wanted
  refine ⟨taken, ?_⟩
  rw [Tables.allows_iff]
  have within : index.store.Within (handler.take event now index).store := within_take faithful
  rcases free : index.store.records .follows event.uri with _ | row
  · -- the row is the one that the event adds
    refine iff_of_true ?_ (.inl rfl)
    have filed := sameRows_file? event.did now (handler.moved? event now index) index
    have added : (handler.take event now index).store.records .follows event.uri =
        some (.link (followRow event follow createdAt now)) := by
      rw [take_eq faithful, wanted]
      show ((index.file? event.did now (handler.moved? event now index)).store.addRecord .follows event.uri
        (.link (followRow event follow createdAt now))).records .follows event.uri = _
      simp only [addRecord, changeRecord, and_self, if_true]
      rw [← filed.records, free, Option.none_or]
    exact ⟨_, added, congrArg some follows.subject⟩
  · rw [within.pointsTo_iff (by rw [free]; exact Option.some_ne_none row)]
    simp

/-- A deletion of a follow closes its account exactly if the follow was one of the subject, or the account was
closed before. -/
theorem isClosed_take_delete (handler : Handler) (now : Timestamp) (faithful : index.Faithful)
    (valid : Did.isValid event.did = true) (kind : Collection.ofName event.collection = .follow) (deletes : event.action = .delete) :
    IsClosed ((handler.take event now index).store.status event.did) ↔
      index.store.PointsTo event.uri handler.subject ∨ IsClosed (index.store.status event.did) := by
  by_cases points : index.store.PointsTo event.uri handler.subject
  · refine iff_of_true ?_ (.inl points)
    rw [status_take_leaves faithful ⟨valid, kind, deletes, points⟩]
    rcases index.store.status event.did with _ | status
    · exact ⟨nofun, nofun⟩
    · exact isClosed_left status
  · rw [status_take_still faithful (not_joins_of_delete deletes) fun leaves => points leaves.points]
    simp [points]

/-- A follow of the subject that went well has a time that can be read. -/
theorem time_of_kept {σ : Type} [Store σ] {index : Index σ} {follow : Follow}
    (follows : FollowsSubject handler event follow)
    (kept : (handler.run event now index).1 = .ok ()) :
    ∃ createdAt, claimedTime follow.createdAt = .ok createdAt := by
  rw [run_followsSubject now follows] at kept
  generalize (followedSubject event (index.roster.get? event.did) now).run.run index = result at kept
  obtain ⟨failure | ⟨⟩, moved⟩ := result
  · cases kept
  · dsimp only at kept
    rw [run_keepFollow] at kept
    rcases time : claimedTime follow.createdAt with failure | createdAt
    · rw [time] at kept
      cases kept
    · exact ⟨createdAt, rfl⟩

end Handler

open Handler

/-! ## The run -/

/-- **When an opt-out is honoured.** Events are handled; one of them is a follow of the subject that went well, and
the last one deletes that follow. Tables and roster agree on the account after it, and it is closed exactly if the
follow found no follow of another account at its address, or the account was closed just before the deletion. -/
theorem opt_out_honoured_iff {σ : Type} [Store σ] [TableStore σ] (handler : Handler) {index : Index σ}
    (faithful : index.tabled.Faithful) (earlier later : List (Event × Timestamp)) {follow unfollow : Event}
    {asked now : Timestamp} (joins : handler.Joins follow)
    (kept : (handler.run follow asked (handler.runEach earlier index)).1 = .ok ())
    (deletes : unfollow.action = .delete) (did : unfollow.did = follow.did)
    (collection : unfollow.collection = follow.collection) (rkey : unfollow.rkey = follow.rkey)
    {before after : Index σ} (reached : before = handler.runEach (earlier ++ (follow, asked) :: later) index)
    (left : after = (handler.run unfollow now before).2) :
    (after.roster.get? follow.did).map (·.status) = (tables after.store).status follow.did ∧
    (IsClosed ((tables after.store).status follow.did) ↔
      (tables (handler.runEach earlier index).store).Allows follow.uri handler.subject ∨
        IsClosed ((tables before.store).status follow.did)) := by
  obtain ⟨record, follows⟩ := joins
  obtain ⟨createdAt, time⟩ := time_of_kept follows kept
  have uri : unfollow.uri = follow.uri := by simp only [Event.uri, did, collection, rkey]
  -- the three states in question as tables
  have start_eq : (handler.runEach earlier index).tabled = handler.takeAll earlier index.tabled := tabled_runEach ..
  have before_eq : before.tabled =
      handler.takeAll later (handler.take follow asked (handler.runEach earlier index).tabled) := by
    rw [reached, tabled_runEach, start_eq]
    exact List.foldl_append ..
  have after_eq : after.tabled = handler.take unfollow now before.tabled := by rw [left, tabled_run]
  have start_faithful : (handler.runEach earlier index).tabled.Faithful := by
    rw [start_eq]
    exact faithful_takeAll handler faithful earlier
  have joined_faithful := start_faithful.take handler follow asked
  have before_faithful : before.tabled.Faithful := by
    rw [before_eq]
    exact faithful_takeAll handler joined_faithful later
  have after_faithful : after.tabled.Faithful := by
    rw [after_eq]
    exact before_faithful.take handler unfollow now
  -- what stands at the address stays there up to the deletion
  obtain ⟨taken, points⟩ := pointsTo_take_joins asked start_faithful follows time
  have within := within_takeAll handler joined_faithful later
  rw [← before_eq] at within
  have closed := isClosed_take_delete handler now before_faithful
    (by rw [did]; exact follows.valid) (by rw [collection]; exact follows.kind) deletes
  rw [← after_eq, uri, did, within.pointsTo_iff taken, points] at closed
  exact ⟨after_faithful.agrees follow.did, closed⟩

/-! ### An address that was used before -/

namespace ReusedAddress

open SecondPass (did joining leaving start faithful_start)

/-- A follow of somebody else at the address that the follow of the subject takes later. -/
def elsewhere : Event := { joining "f1" with
  seq := 1
  payload := some (.json "\x7b\"subject\":\"did:plc:other\",\"createdAt\":\"2025-01-26T17:11:03Z\"\x7d") }

/-- The account follows somebody else, takes that back, and follows the subject at the same address. -/
def earlier : List (Event × Timestamp) := [(elsewhere, ⟨1, 0⟩), (leaving "f1", ⟨2, 0⟩)]

/-- Whether the account is stored and shown with the status. -/
def stands (status : ActorStatus) (index : Index Memory) : Prop :=
  (Memory.ledger index.store).status did = some status ∧ (index.roster.get? did).map (·.status) = some status

instance (status : ActorStatus) (index : Index Memory) : Decidable (stands status index) :=
  inferInstanceAs (Decidable (_ ∧ _))

set_option maxRecDepth 100000 in
/-- **An opt-out that is not recognized**: the follow of the subject goes well, and after its deletion the account is
approved as before. -/
theorem opt_out_missed :
    (start .approved).tabled.Faithful ∧
    (Handler.run {} (joining "f1") ⟨3, 0⟩ (Handler.runEach {} earlier (start .approved))).1 = .ok () ∧
    (Handler.run {} (leaving "f1") ⟨4, 0⟩
      (Handler.runEach {} (earlier ++ [(joining "f1", ⟨3, 0⟩)]) (start .approved))).1 = .ok () ∧
    stands .approved (Handler.run {} (leaving "f1") ⟨4, 0⟩
      (Handler.runEach {} (earlier ++ [(joining "f1", ⟨3, 0⟩)]) (start .approved))).2 :=
  ⟨faithful_start .approved, by decide +kernel⟩

/-- The index before the account takes back a follow of the subject at a new address. -/
@[irreducible]
def waiting : Index Memory := Handler.runEach {} (earlier ++ (joining "f2", ⟨3, 0⟩) :: []) (start .approved)

/-- The index afterwards. -/
@[irreducible]
def gone : Index Memory := (Handler.run {} (leaving "f2") ⟨4, 0⟩ waiting).2

set_option maxRecDepth 100000 in
/-- At an address of its own the follow is recognized. -/
theorem opt_out_recognized :
    ((gone.roster.get? did).map (·.status) = (tables gone.store).status did ∧
      (IsClosed ((tables gone.store).status did) ↔
        (tables (Handler.runEach {} earlier (start .approved)).store).Allows (joining "f2").uri
            "did:plc:jdkvwye2lf4mingzk7qdebzc" ∨
          IsClosed ((tables waiting.store).status did))) ∧
    stands .approved waiting ∧ stands .optedOut gone := by
  have joins : Handler.Joins {} (joining "f2") :=
    ⟨⟨"did:plc:jdkvwye2lf4mingzk7qdebzc", "2025-01-26T17:11:03Z"⟩,
      by decide +kernel, by decide +kernel, rfl, by decide +kernel, rfl⟩
  have reached : waiting = Handler.runEach {} (earlier ++ (joining "f2", ⟨3, 0⟩) :: []) (start .approved) := by
    unfold waiting
    rfl
  have left : gone = (Handler.run {} (leaving "f2") ⟨4, 0⟩ waiting).2 := by
    unfold gone
    rfl
  have kept : (Handler.run {} (joining "f2") ⟨3, 0⟩ (Handler.runEach {} earlier (start .approved))).1 = .ok () := by
    decide +kernel
  have deletes : (leaving "f2").action = .delete := rfl
  exact ⟨opt_out_honoured_iff {} (faithful_start .approved) earlier [] joins kept deletes rfl rfl rfl reached left,
    by decide +kernel⟩

end ReusedAddress

end FeedIndex
