import FeedIndex.Proofs.Keyed
import FeedIndex.Proofs.Ledger
import FeedIndex.Store.Relational

/-!
# The ledger of the relational store

The relational store keeps its ledger in the columns that are read as they stand: a status or a mark is there
even where a list in the same row cannot be read back. So a request can fail and have its effect all the
same, and the ledger shows the effect.
-/

namespace FeedIndex

namespace Relational

/-- **ledger** — what the relational store says. -/
def ledger (db : Relational) : Ledger where
  position := db.cursor
  status did := (db.actors.get? did).map (·.status)
  mark
    | .posts, uri => (db.posts.get? uri).map (·.deletedAt)
    | .likes, uri => (db.likes.get? uri).map (·.deletedAt)
    | .follows, uri => (db.follows.get? uri).map (·.deletedAt)

/-! ## Rows that are read back -/

theorem run_readable {α : Type} (column : Option α) (db : Relational) :
    (readable column).run.run db = (column.elim (.error .unreadable) .ok, db) := by
  rcases column with _ | a <;> rfl

/-- Columns that are read one after the other: the tables stay, and one column that cannot be read is enough to fail. -/
theorem run_mapM_readable {ρ α : Type} (read : ρ → Option α) (rows : List ρ) (db : Relational) :
    (rows.mapM fun row => readable (read row)).run.run db =
      ((rows.mapM read).elim (.error .unreadable) .ok, db) := by
  induction rows with
  | nil => simp; rfl
  | cons row rest ih =>
    rw [List.mapM_cons, List.mapM_cons, Storing.run_bind, Storing.answer, Storing.after, run_readable]
    rcases read row with _ | item
    · rfl
    · show ((rest.mapM fun row => readable (read row)) >>= fun items =>
        (pure (item :: items) : Storing Relational (List α))).run.run db = _
      rw [Storing.run_bind_pure, Storing.answer, Storing.after, ih]
      rcases rest.mapM read with _ | items <;> rfl

/-- Each item is read off its own row. -/
theorem map_of_mapM {ρ α : Type} {read : ρ → Option α} {rows : List ρ} {items : List α}
    (h : rows.mapM read = some items) : rows.map read = items.map some := by
  induction rows generalizing items with
  | nil =>
    cases h
    rfl
  | cons row rest ih =>
    simp only [List.mapM_cons, Option.bind_eq_bind, Option.bind_eq_some_iff, Option.pure_def] at h
    obtain ⟨item, hitem, others, hothers, same⟩ := h
    cases same
    rw [List.map_cons, List.map_cons, hitem, ih hothers]

theorem run_selectActor (did : String) (db : Relational) :
    (selectActor did).run.run db =
      (match db.actors.get? did with
        | none => .ok none
        | some row => row.actor?.elim (.error .unreadable) fun actor => .ok (some actor), db) := by
  unfold selectActor
  rw [Storing.run_get_bind]
  rcases db.actors.get? did with _ | row
  · rfl
  · dsimp only
    rcases row.actor? with _ | actor <;> rfl

theorem run_selectPost (uri : String) (db : Relational) :
    (selectPost uri).run.run db =
      (match db.posts.get? uri with
        | none => .ok none
        | some row => row.post?.elim (.error .unreadable) fun post => .ok (some post), db) := by
  unfold selectPost
  rw [Storing.run_get_bind]
  rcases db.posts.get? uri with _ | row
  · rfl
  · dsimp only
    rcases row.post? with _ | post <;> rfl

theorem run_selectLatest (did : String) (db : Relational) :
    (selectLatest did).run.run db =
      (match (db.pointedRow? did).or (db.historyRows did).getLast? with
        | none => .ok none
        | some row => row.profile?.elim (.error .unreadable) fun profile => .ok (some profile), db) := by
  unfold selectLatest
  rw [Storing.run_get_bind]
  rcases (db.pointedRow? did).or (db.historyRows did).getLast? with _ | row
  · rfl
  · dsimp only
    rcases row.profile? with _ | profile <;> rfl

theorem run_listActors (db : Relational) (status : Option ActorStatus) :
    (Store.listActors status : Storing Relational _).run.run db =
      ((db.actorRows status).mapM fun row => readable row.actor?).run.run db := rfl

theorem run_profileHistory (db : Relational) (did : String) :
    (Store.profileHistory did : Storing Relational _).run.run db =
      ((db.historyRows did).mapM fun row => readable row.profile?).run.run db := rfl

/-- What is read of a row keeps its identifier and its status. -/
theorem actor?_eq_some {row : ActorColumns} {actor : Actor} (h : row.actor? = some actor) :
    actor.did = row.did ∧ actor.status = row.status := by
  unfold ActorColumns.actor? at h
  obtain ⟨roles, -, rfl⟩ := Option.map_eq_some_iff.mp h
  exact ⟨rfl, rfl⟩

/-! ## Accounts -/

theorem run_createActor (actor : Actor) (db : Relational) :
    (Store.createActor actor : Storing Relational Actor).run.run db =
      match db.actors.get? actor.did with
      | none => (.ok actor, { db with actors := db.actors.insertNew actor.did (.ofActor actor) })
      | some row =>
        (row.actor?.elim (.error .unreadable) fun _ => .error (.actorExists actor.did), db) := by
  show (createActor actor).run.run db = _
  unfold createActor
  rw [Storing.run_bind, Storing.answer, Storing.after, run_selectActor]
  rcases db.actors.get? actor.did with _ | row
  · rfl
  · rcases h : row.actor? with _ | stored
    · simp [h]
    · simp [h]
      rfl

/-- A row is changed before it is read back. -/
theorem run_updateActor (did : String) (change : ActorColumns → ActorColumns) (db : Relational) :
    (updateActor did change).run.run db =
      match db.actors.get? did with
      | none => (.error (.actorNotFound did), db)
      | some row =>
        ((change row).actor?.elim (.error .unreadable) .ok,
          { db with actors := db.actors.modify did change }) := by
  unfold updateActor
  rw [Storing.run_get_bind]
  dsimp only
  rcases known : db.actors.get? did with _ | row
  · rfl
  have changed : (db.actors.modify did change).get? did = some (change row) := by
    rw [Keyed.get?_modify, if_pos rfl, known]
    rfl
  rw [if_neg (by simp), Storing.run_modify_bind, Storing.run_bind, Storing.answer, Storing.after,
    run_selectActor, changed]
  dsimp only
  rcases (change row).actor? with _ | actor <;> rfl

theorem after_createActor (now : Timestamp) (actor : Actor) (db : Relational) :
    (StoreOperation.createActor actor).after now db =
      { db with actors := db.actors.insertNew actor.did (.ofActor actor) } := by
  rw [← StoreOperation.after_of_perform now (.createActor actor) rfl db, Storing.after, run_createActor]
  rcases known : db.actors.get? actor.did with _ | row
  · rfl
  · show db = { db with actors := _ }
    rw [Keyed.insertNew, if_pos (by rw [known]; rfl)]

theorem after_updateActor (did : String) (change : ActorColumns → ActorColumns) (db : Relational) :
    (updateActor did change).after db = { db with actors := db.actors.modify did change } := by
  rw [Storing.after, run_updateActor]
  rcases known : db.actors.get? did with _ | row
  · show db = { db with actors := _ }
    rw [Keyed.modify_of_get?_eq_none known]
  · rfl

theorem after_setActorStatus (now : Timestamp) (did : String) (status : ActorStatus) (db : Relational) :
    (StoreOperation.setActorStatus did status).after now db =
      { db with actors := db.actors.modify did fun row => { row with status } } := by
  rw [← StoreOperation.after_of_perform now (.setActorStatus did status) rfl db]
  exact after_updateActor did _ db

theorem after_holdActor (now : Timestamp) (did : String) (heldUntil : Option Timestamp)
    (db : Relational) :
    (StoreOperation.holdActor did heldUntil).after now db =
      { db with actors := db.actors.modify did fun row => { row with heldUntil } } := by
  rw [← StoreOperation.after_of_perform now (.holdActor did heldUntil) rfl db]
  exact after_updateActor did _ db

/-! ## The ledger after a request -/

/-- A request that reads leaves the tables as they are, even if a row cannot be read back. -/
theorem after_listActors (now : Timestamp) (status : Option ActorStatus) (db : Relational) :
    (StoreOperation.listActors status).after now db = db := by
  rw [← StoreOperation.after_of_perform now (.listActors status) rfl db, Storing.after, run_listActors,
    run_mapM_readable]

theorem after_profileHistory (now : Timestamp) (did : String) (db : Relational) :
    (StoreOperation.profileHistory did).after now db = db := by
  rw [← StoreOperation.after_of_perform now (.profileHistory did) rfl db, Storing.after, run_profileHistory,
    run_mapM_readable]

theorem after_getActor (now : Timestamp) (did : String) (db : Relational) :
    (StoreOperation.getActor did).after now db = db := by
  rw [← StoreOperation.after_of_perform now (.getActor did) rfl db, Storing.after]
  show ((selectActor did).run.run db).2 = db
  rw [run_selectActor]

theorem after_getPost (now : Timestamp) (uri : String) (db : Relational) :
    (StoreOperation.getPost uri).after now db = db := by
  rw [← StoreOperation.after_of_perform now (.getPost uri) rfl db, Storing.after]
  show ((selectPost uri).run.run db).2 = db
  rw [run_selectPost]

theorem after_latestProfile (now : Timestamp) (did : String) (db : Relational) :
    (StoreOperation.latestProfile did).after now db = db := by
  rw [← StoreOperation.after_of_perform now (.latestProfile did) rfl db, Storing.after]
  show ((selectLatest did).run.run db).2 = db
  rw [run_selectLatest]

theorem ledger_after (now : Timestamp) (request : StoreOperation) (db : Relational) :
    ledger (request.after now db) = (ledger db).apply now request := by
  cases request with
  | createActor actor =>
    rw [after_createActor]
    refine Ledger.ext rfl (funext fun did => ?_) rfl
    exact Keyed.map_get?_insertNew ActorColumns.status actor.did did (.ofActor actor) db.actors
  | setActorStatus did status =>
    rw [after_setActorStatus]
    refine Ledger.ext rfl (funext fun other => ?_) rfl
    exact Keyed.map_get?_modify ActorColumns.status (f := fun _ => status) (fun _ => rfl) did other db.actors
  | holdActor did heldUntil =>
    rw [after_holdActor]
    refine Ledger.ext rfl (funext fun other => ?_) rfl
    exact Keyed.map_get?_modify_of_keeps ActorColumns.status (by intro row; rfl) did other db.actors
  | putProfile row =>
    show ledger (db.putProfile row) = ledger db
    unfold putProfile
    split
    · rfl
    · refine Ledger.ext rfl (funext fun other => ?_) rfl
      exact Keyed.map_get?_modify_of_keeps ActorColumns.status (by intro row; rfl) row.actorDid other db.actors
  | createPost row =>
    exact Ledger.eq_addRecord rfl rfl (Ledger.agreeBut_posts rfl rfl) fun uri =>
      Keyed.map_get?_insertNew PostColumns.deletedAt row.uri uri (.ofPost row) db.posts
  | createLike row =>
    exact Ledger.eq_addRecord rfl rfl (Ledger.agreeBut_likes rfl rfl) fun uri =>
      Keyed.map_get?_insertNew LinkRow.deletedAt row.uri uri row db.likes
  | createFollow row =>
    exact Ledger.eq_addRecord rfl rfl (Ledger.agreeBut_follows rfl rfl) fun uri =>
      Keyed.map_get?_insertNew LinkRow.deletedAt row.uri uri row db.follows
  | deletePost uri =>
    exact Ledger.eq_deleteRecord rfl rfl (Ledger.agreeBut_posts rfl rfl) fun other =>
      Keyed.map_get?_modify PostColumns.deletedAt (f := (·.or (some now))) (fun _ => rfl) uri other db.posts
  | deleteLike uri =>
    exact Ledger.eq_deleteRecord rfl rfl (Ledger.agreeBut_likes rfl rfl) fun other =>
      Keyed.map_get?_modify LinkRow.deletedAt (f := (·.or (some now))) (fun _ => rfl) uri other db.likes
  | deleteFollow uri =>
    exact Ledger.eq_deleteRecord rfl rfl (Ledger.agreeBut_follows rfl rfl) fun other =>
      Keyed.map_get?_modify LinkRow.deletedAt (f := (·.or (some now))) (fun _ => rfl) uri other db.follows
  | listActors status => exact congrArg ledger (after_listActors now status db)
  | getActor did => exact congrArg ledger (after_getActor now did db)
  | getPost uri => exact congrArg ledger (after_getPost now uri db)
  | latestProfile did => exact congrArg ledger (after_latestProfile now did db)
  | profileHistory did => exact congrArg ledger (after_profileHistory now did db)
  | _ => rfl

/-! ## Soundness -/

/-- **Sound** — every account stands under its own identifier. -/
def Sound (db : Relational) : Prop := Keyed.Named ActorColumns.did db.actors

theorem sound_empty : Sound {} := Keyed.named_nil

theorem sound_after {db : Relational} (now : Timestamp) (request : StoreOperation) (sound : Sound db) :
    Sound (request.after now db) := by
  cases request with
  | createActor actor =>
    rw [after_createActor]
    exact Keyed.Named.insertNew sound (.ofActor actor)
  | setActorStatus did status =>
    rw [after_setActorStatus]
    exact Keyed.Named.modify sound did fun _ => rfl
  | holdActor did heldUntil =>
    rw [after_holdActor]
    exact Keyed.Named.modify sound did fun _ => rfl
  | putProfile row =>
    show Sound (db.putProfile row)
    unfold putProfile
    split
    · exact sound
    · exact Keyed.Named.modify sound row.actorDid fun _ => rfl
  | listActors status => rw [after_listActors]; exact sound
  | getActor did => rw [after_getActor]; exact sound
  | getPost uri => rw [after_getPost]; exact sound
  | latestProfile did => rw [after_latestProfile]; exact sound
  | profileHistory did => rw [after_profileHistory]; exact sound
  | _ => exact sound

/-! ## Answers -/

theorem mem_actorRows_iff {db : Relational} (sound : Sound db) {row : ActorColumns} :
    row ∈ db.actorRows none ↔ db.actors.get? row.did = some row := by
  have rows : db.actorRows none = (Keyed.sorted db.actors).map (·.2) := by simp [actorRows]
  rw [rows]
  constructor
  · intro hmem
    obtain ⟨entry, hentry, rfl⟩ := List.mem_map.mp hmem
    have hold := Keyed.mem_of_mem_sorted hentry
    rw [sound.own entry hold]
    exact Keyed.get?_of_mem sound.distinct hold
  · intro found
    have listed := Keyed.mem_of_get? ((Keyed.get?_sorted sound.distinct row.did).trans found)
    exact List.mem_map_of_mem (f := (·.2)) listed

/-- The actors that were read off all rows are found where the rows are. -/
theorem get?_ofActors_rows {db : Relational} (sound : Sound db) {actors : List Actor}
    (read : (db.actorRows none).map ActorColumns.actor? = actors.map some) (did : String) :
    (Roster.ofActors actors).get? did = (db.actors.get? did).bind ActorColumns.actor? := by
  rw [Roster.get?_ofActors (f := fun did => (db.actors.get? did).bind ActorColumns.actor?)]
  · split
    · rfl
    · next absent =>
      rcases stored : db.actors.get? did with _ | row
      · rfl
      obtain rfl : row.did = did := sound.name_eq stored
      rcases hread : row.actor? with _ | actor
      · simp [hread]
      · -- its actor was read, so it is on the list
        have listed : some actor ∈ actors.map some := by
          rw [← read, ← hread]
          exact List.mem_map_of_mem ((mem_actorRows_iff sound).mpr stored)
        have known : row.did ∈ actors.map (·.did) :=
          List.mem_map.mpr ⟨actor, by simpa using listed, (actor?_eq_some hread).1⟩
        exact absurd known absent
  · intro actor hmem
    have listed : some actor ∈ (db.actorRows none).map ActorColumns.actor? := by
      rw [read]
      exact List.mem_map_of_mem hmem
    obtain ⟨row, hrow, hread⟩ := List.mem_map.mp listed
    rw [(actor?_eq_some hread).1, (mem_actorRows_iff sound).mp hrow]
    exact hread

instance : LedgerStore Relational where
  ledger := ledger
  Sound := Sound
  ledger_after := ledger_after
  sound_after := sound_after
  createActor_answer actor db := by
    rw [Storing.answer, run_createActor]
    rcases known : db.actors.get? actor.did with _ | row
    · simp [ledger, known]
    · rw [if_neg (by simp [ledger, known])]
      dsimp only
      rcases row.actor? with _ | stored
      · exact ⟨.unreadable, rfl⟩
      · exact ⟨.actorExists actor.did, rfl⟩
  getActor_answer := by
    rintro did stored db sound answer
    rw [Storing.answer, show (Store.getActor did : Storing Relational _) = selectActor did from rfl,
      run_selectActor] at answer
    rcases known : db.actors.get? did with _ | row
    · rw [known] at answer
      cases answer
      exact ⟨by simp [ledger, known], nofun⟩
    · rw [known] at answer
      rcases read : row.actor? with _ | actor
      · simp [read] at answer
      · simp only [read, Option.elim_some] at answer
        obtain rfl := Except.ok.inj answer
        obtain ⟨hdid, hstatus⟩ := actor?_eq_some read
        refine ⟨by simp [ledger, known, hstatus], ?_⟩
        rintro _ ⟨⟩
        exact hdid.trans (Keyed.Named.name_eq sound known)
  setActorStatus_answer := by
    rintro did status actor db sound answer
    rw [Storing.answer, show (Store.setActorStatus did status : Storing Relational Actor) =
      updateActor did fun row => { row with status } from rfl, run_updateActor] at answer
    rcases known : db.actors.get? did with _ | row
    · rw [known] at answer
      cases answer
    · rw [known] at answer
      rcases read : ({ row with status } : ActorColumns).actor? with _ | stored
      · simp [read] at answer
      · simp only [read, Option.elim_some] at answer
        obtain rfl := Except.ok.inj answer
        obtain ⟨hdid, hstatus⟩ := actor?_eq_some read
        exact ⟨hdid.trans (Keyed.Named.name_eq sound (a := row) known), hstatus, by simp [ledger, known]⟩
  listActors_answer := by
    rintro actors db sound answer did
    rw [Storing.answer, run_listActors, run_mapM_readable] at answer
    have read : (db.actorRows none).map ActorColumns.actor? = actors.map some := by
      rcases items : (db.actorRows none).mapM ActorColumns.actor? with _ | others
      · rw [items] at answer
        cases answer
      · rw [items] at answer
        cases answer
        exact map_of_mapM items
    rw [get?_ofActors_rows sound read]
    rcases known : db.actors.get? did with _ | row
    · simp [ledger, known]
    · obtain rfl : row.did = did := Keyed.Named.name_eq sound known
      have listed : row.actor? ∈ actors.map some := by
        rw [← read]
        exact List.mem_map_of_mem ((mem_actorRows_iff sound).mpr known)
      obtain ⟨actor, -, hread⟩ := List.mem_map.mp listed
      simp [ledger, known, ← hread, (actor?_eq_some hread.symm).2]
  getFollow_answer uri db := ⟨db.follows.get? uri, rfl, by simp [ledger]⟩

end Relational

end FeedIndex
