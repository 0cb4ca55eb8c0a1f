import FeedIndex.Proofs.Ledger.Memory
import FeedIndex.Proofs.Tables

/-!
# The tables of the store in memory

The store in memory keeps its rows as they come, and every row can be read.
-/

namespace FeedIndex.Memory

theorem delete_post_of_deleted {now : Timestamp} {row : PostRow} (deleted : row.deletedAt ≠ none) :
    row.delete now = row := by
  unfold PostRow.delete
  rw [or_eq_of_deleted deleted]

theorem retime_delete_post (f : Timestamp → Timestamp) (now : Timestamp) (row : PostRow) :
    (row.delete now).retime f = (row.retime f).delete (f now) := by
  unfold PostRow.delete PostRow.retime
  dsimp only
  rw [map_or_some]

/-- **schema** — rows as they are. -/
@[reducible]
def schema : Schema where
  Account := Actor
  Post := PostRow
  Profile := ProfileRow
  ofActor := id
  did := (·.did)
  actor? := some
  status := (·.status)
  setStatus status actor := { actor with status }
  holdUntil heldUntil actor := { actor with heldUntil }
  pointTo cid actor := { actor with profileCid := some cid }
  ofPost := id
  author := (·.actorDid)
  deletedAt := (·.deletedAt)
  delete := PostRow.delete
  ofProfile := id
  commit := (·.commitCid)
  retimeAccount := Actor.retime
  retimePost := PostRow.retime
  retimeProfile := ProfileRow.retime
  actor?_ofActor _ := rfl
  actor?_setStatus _ _ := rfl
  actor?_pointTo _ _ := rfl
  did_of_actor? read := by rw [Option.some.inj read]
  status_of_actor? read := by rw [Option.some.inj read]
  delete_of_deleted := delete_post_of_deleted
  actor?_retime _ _ := rfl
  retime_delete := retime_delete_post

/-- The rows of the store in memory. -/
def rows (m : Memory) : Rows schema := ⟨m.cursor, m.actors, m.posts, m.likes, m.follows, m.history⟩

/-- **tables** — what stands in the store in memory. -/
def tables (m : Memory) : Tables schema := (rows m).tables

theorem ledger_eq (m : Memory) : ledger m = (tables m).ledger := by
  refine Ledger.ext rfl rfl ?_
  funext table uri
  refine Eq.trans ?_ ((rows m).mark_tables table uri).symm
  cases table <;> rfl

/-! ## The tables after a request -/

theorem history_append (m : Memory) (row : ProfileRow) (did : String) :
    (m.profiles ++ [row]).filter (·.actorDid == did) =
      if did = row.actorDid then m.history did ++ [row] else m.history did := by
  rw [List.filter_append]
  by_cases own : did = row.actorDid
  · simp [history, own]
  · simp [history, own, Ne.symm own]

theorem tables_putProfile (row : ProfileRow) (m : Memory) :
    tables (m.putProfile row) = (tables m).addProfile row := by
  rcases known : (m.history row.actorDid).any (·.commitCid == row.commitCid) with _ | _
  · rw [putProfile, known, if_neg Bool.false_ne_true]
    exact (rows m).tables_addProfile known (history_append m row)
  · rw [putProfile, known, if_pos rfl]
    exact (if_pos known).symm

theorem tables_after (now : Timestamp) (request : StoreOperation) (m : Memory) :
    tables (request.after now m) = (tables m).apply now request := by
  cases request with
  | createActor actor =>
    rw [after_createActor]
    exact (rows m).tables_insertActor actor.did actor
  | setActorStatus did status =>
    rw [after_setActorStatus]
    exact (rows m).tables_modifyActor did (schema.setStatus status)
  | holdActor did heldUntil =>
    rw [after_holdActor]
    exact (rows m).tables_modifyActor did (schema.holdUntil heldUntil)
  | createPost row => exact (rows m).tables_insertPost row.uri row
  | createLike row => exact (rows m).tables_insertLike row.uri row
  | createFollow row => exact (rows m).tables_insertFollow row.uri row
  | deletePost uri => exact (rows m).tables_deletePost uri now
  | deleteLike uri => exact (rows m).tables_deleteLike uri now
  | deleteFollow uri => exact (rows m).tables_deleteFollow uri now
  | putProfile row => exact tables_putProfile row m
  | _ => rfl

instance : TableStore Memory where
  schema := schema
  tables := tables
  ledger_eq := ledger_eq
  tables_after := tables_after
  named_of_sound sound did row stored := Keyed.Named.name_eq sound (a := row) stored
  createActor_new := by
    rintro actor m absent
    change m.actors.get? actor.did = none at absent
    rw [Storing.answer, run_createActor, absent]
    rfl
  createActor_taken := by
    rintro actor row m stored
    change m.actors.get? actor.did = some row at stored
    rw [Storing.answer, run_createActor, stored]
    rfl
  getActor_read := by
    rintro did row actor m stored read
    obtain rfl := Option.some.inj read
    exact congrArg Except.ok stored
  setActorStatus_read := by
    rintro did actor m read status
    change (m.actors.get? did).bind some = some actor at read
    rw [Option.bind_fun_some] at read
    rw [Storing.answer, show (Store.setActorStatus did status : Storing Memory Actor) =
      updateActor did fun actor => { actor with status } from rfl, run_updateActor, read]
  setActorStatus_unread := by
    rintro did m unread status
    change (m.actors.get? did).bind some = none at unread
    rw [Option.bind_fun_some] at unread
    refine ⟨.actorNotFound did, ?_⟩
    rw [Storing.answer, show (Store.setActorStatus did status : Storing Memory Actor) =
      updateActor did fun actor => { actor with status } from rfl, run_updateActor, unread]
  getFollow_tables uri m := ⟨m.follows.get? uri, rfl, rfl⟩
  deleteFollow_outcome _ _ _ := rfl

end FeedIndex.Memory
