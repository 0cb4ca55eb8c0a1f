import FeedIndex.Proofs.Columns
import FeedIndex.Proofs.Ledger.Relational
import FeedIndex.Proofs.Tables

/-!
# The tables of the relational store

The relational store keeps its rows in columns. An account is read back from its row, which can fail where its
list of roles is no list; the row is changed all the same.
-/

namespace FeedIndex.Relational

theorem delete_post_of_deleted {now : Timestamp} {row : PostColumns} (deleted : row.deletedAt ≠ none) :
    row.delete now = row := by
  unfold PostColumns.delete
  rw [or_eq_of_deleted deleted]

theorem actor?_setStatus (status : ActorStatus) (row : ActorColumns) :
    ({ row with status } : ActorColumns).actor? =
      row.actor?.map fun actor => { actor with status } := by
  unfold ActorColumns.actor?
  rw [Option.map_map]
  rfl

theorem actor?_pointTo (cid : String) (row : ActorColumns) :
    ({ row with profileCid := some cid } : ActorColumns).actor? =
      row.actor?.map fun actor => { actor with profileCid := some cid } := by
  unfold ActorColumns.actor?
  rw [Option.map_map]
  rfl

/-! ### Times of the clock -/

/-- The row with another time of its creation. -/
def retimeActor (f : Timestamp → Timestamp) (row : ActorColumns) : ActorColumns :=
  { row with createdAt := f row.createdAt }

/-- The row with other times of the clock. -/
def retimePost (f : Timestamp → Timestamp) (row : PostColumns) : PostColumns :=
  { row with indexedAt := f row.indexedAt, deletedAt := row.deletedAt.map f }

/-- The row with another time at which it was indexed. -/
def retimeProfile (f : Timestamp → Timestamp) (row : ProfileColumns) : ProfileColumns :=
  { row with indexedAt := f row.indexedAt }

theorem actor?_retime (f : Timestamp → Timestamp) (row : ActorColumns) :
    (retimeActor f row).actor? = row.actor?.map (·.retime f) := by
  unfold ActorColumns.actor?
  rw [Option.map_map]
  rfl

theorem retime_delete_post (f : Timestamp → Timestamp) (now : Timestamp) (row : PostColumns) :
    retimePost f (row.delete now) = (retimePost f row).delete (f now) := by
  unfold PostColumns.delete retimePost
  dsimp only
  rw [map_or_some]

/-! ## Rows -/

/-- **schema** — rows of columns. -/
@[reducible]
def schema : Schema where
  Account := ActorColumns
  Post := PostColumns
  Profile := ProfileColumns
  ofActor := .ofActor
  did := (·.did)
  actor? := ActorColumns.actor?
  status := (·.status)
  setStatus status row := { row with status }
  holdUntil heldUntil row := { row with heldUntil }
  pointTo cid row := { row with profileCid := some cid }
  ofPost := .ofPost
  author := (·.actorDid)
  deletedAt := (·.deletedAt)
  delete := PostColumns.delete
  ofProfile := .ofProfile
  commit := (·.commitCid)
  retimeAccount := retimeActor
  retimePost := retimePost
  retimeProfile := retimeProfile
  actor?_ofActor _ := ActorColumns.actor?_ofActor _
  actor?_setStatus := actor?_setStatus
  actor?_pointTo := actor?_pointTo
  did_of_actor? read := (actor?_eq_some read).1
  status_of_actor? read := (actor?_eq_some read).2
  delete_of_deleted := delete_post_of_deleted
  actor?_retime := actor?_retime
  retime_delete := retime_delete_post

/-- The rows of the relational store. -/
def rows (db : Relational) : Rows schema :=
  ⟨db.cursor, db.actors, db.posts, db.likes, db.follows, fun did => db.profiles.filter (·.actorDid == did)⟩

/-- **tables** — what stands in the relational store. -/
def tables (db : Relational) : Tables schema := (rows db).tables

theorem ledger_eq (db : Relational) : ledger db = (tables db).ledger := by
  refine Ledger.ext rfl rfl ?_
  funext table uri
  refine Eq.trans ?_ ((rows db).mark_tables table uri).symm
  cases table <;> rfl

/-! ## The tables after a request -/

theorem profiles_append (db : Relational) (row : ProfileRow) (did : String) :
    (db.profiles ++ [ProfileColumns.ofProfile row]).filter (·.actorDid == did) =
      if did = row.actorDid then
        db.profiles.filter (·.actorDid == did) ++ [ProfileColumns.ofProfile row]
      else db.profiles.filter (·.actorDid == did) := by
  rw [List.filter_append]
  by_cases own : did = row.actorDid
  · simp [ProfileColumns.ofProfile, own]
  · simp [ProfileColumns.ofProfile, own, Ne.symm own]

/-- The profile that an account points to is one of its own. -/
theorem pointedRow?_eq (db : Relational) (did : String) :
    db.pointedRow? did = ((db.actors.get? did).bind (·.profileCid)).bind fun cid =>
      (db.profiles.filter (·.actorDid == did)).find? (·.commitCid == cid) := by
  unfold pointedRow?
  rcases (db.actors.get? did).bind (·.profileCid) with _ | cid
  · rfl
  · dsimp only
    rw [Option.bind_some, List.find?_filter]
    refine congrArg (List.find? · db.profiles) (funext fun row => ?_)
    by_cases own : row.actorDid = did
    · simp only [own, BEq.rfl, Bool.true_and, true_and]
      exact Bool.decide_eq_true.symm
    · simp [own]

theorem tables_putProfile (row : ProfileRow) (db : Relational) :
    tables (db.putProfile row) = (tables db).addProfile row := by
  have same : (db.profiles.any fun old => old.actorDid == row.actorDid && old.commitCid == row.commitCid) =
      (tables db).hasProfile row.actorDid row.commitCid := List.any_filter.symm
  rcases known : (tables db).hasProfile row.actorDid row.commitCid with _ | _
  · rw [putProfile, same, known, if_neg Bool.false_ne_true]
    exact (rows db).tables_addProfile known (profiles_append db row)
  · rw [putProfile, same, known, if_pos rfl]
    exact (if_pos known).symm

theorem tables_after (now : Timestamp) (request : StoreOperation) (db : Relational) :
    tables (request.after now db) = (tables db).apply now request := by
  cases request with
  | createActor actor =>
    rw [after_createActor]
    exact (rows db).tables_insertActor actor.did (.ofActor actor)
  | setActorStatus did status =>
    rw [after_setActorStatus]
    exact (rows db).tables_modifyActor did (schema.setStatus status)
  | holdActor did heldUntil =>
    rw [after_holdActor]
    exact (rows db).tables_modifyActor did (schema.holdUntil heldUntil)
  | createPost row => exact (rows db).tables_insertPost row.uri (.ofPost row)
  | createLike row => exact (rows db).tables_insertLike row.uri row
  | createFollow row => exact (rows db).tables_insertFollow row.uri row
  | deletePost uri => exact (rows db).tables_deletePost uri now
  | deleteLike uri => exact (rows db).tables_deleteLike uri now
  | deleteFollow uri => exact (rows db).tables_deleteFollow uri now
  | putProfile row => exact tables_putProfile row db
  | listActors status => exact congrArg tables (after_listActors now status db)
  | getActor did => exact congrArg tables (after_getActor now did db)
  | getPost uri => exact congrArg tables (after_getPost now uri db)
  | latestProfile did => exact congrArg tables (after_latestProfile now did db)
  | profileHistory did => exact congrArg tables (after_profileHistory now did db)
  | _ => rfl

/-- A status is set in the row, and the account is read back of it. -/
theorem answer_setActorStatus (did : String) (status : ActorStatus) (db : Relational) :
    (Store.setActorStatus did status : Storing Relational Actor).answer db =
      match db.actors.get? did with
      | none => .error (.actorNotFound did)
      | some row => (row.actor?.map fun actor => { actor with status }).elim (.error .unreadable) .ok := by
  rw [Storing.answer, show (Store.setActorStatus did status : Storing Relational Actor) =
    updateActor did fun row => { row with status } from rfl, run_updateActor]
  rcases db.actors.get? did with _ | row
  · rfl
  · exact congrArg (Option.elim · _ _) (actor?_setStatus status row)

instance : TableStore Relational where
  schema := schema
  tables := tables
  ledger_eq := ledger_eq
  tables_after := tables_after
  named_of_sound sound did row stored := Keyed.Named.name_eq sound (a := row) stored
  createActor_new := by
    rintro actor db absent
    change db.actors.get? actor.did = none at absent
    rw [Storing.answer, run_createActor, absent]
  createActor_taken := by
    rintro actor row db stored
    change db.actors.get? actor.did = some row at stored
    rw [Storing.answer, run_createActor, stored]
    show row.actor?.elim _ _ = Except.error (row.actor?.elim _ _)
    rcases row.actor? with _ | _ <;> rfl
  getActor_read := by
    rintro did row actor db stored read
    change db.actors.get? did = some row at stored
    change row.actor? = some actor at read
    rw [Storing.answer, show (Store.getActor did : Storing Relational _) = selectActor did from rfl,
      run_selectActor, stored]
    dsimp only
    rw [read, Option.elim_some]
  setActorStatus_read := by
    rintro did actor db read status
    change (db.actors.get? did).bind ActorColumns.actor? = some actor at read
    obtain ⟨row, stored, read⟩ := Option.bind_eq_some_iff.mp read
    rw [answer_setActorStatus, stored]
    dsimp only
    rw [read]
    rfl
  setActorStatus_unread := by
    rintro did db unread status
    change (db.actors.get? did).bind ActorColumns.actor? = none at unread
    rw [answer_setActorStatus]
    rcases stored : db.actors.get? did with _ | row
    · exact ⟨.actorNotFound did, rfl⟩
    · rw [stored, Option.bind_some] at unread
      refine ⟨.unreadable, ?_⟩
      dsimp only
      rw [unread]
      rfl
  getFollow_tables uri db := ⟨db.follows.get? uri, rfl, rfl⟩
  deleteFollow_outcome _ _ _ := rfl

end FeedIndex.Relational
