import FeedIndex.Proofs.Ledger

/-!
# What stands in the tables

The ledger of a store tells whether a record is there; its `Tables` tell what the rows say. Rows are looked at
as the store keeps them, in types of its own: a `Schema` names these types and what is done with a row. Each
request has one effect on the tables, the same for every schema, and a `TableStore` is a store that keeps to it.
-/

namespace FeedIndex

/-! ## Rows -/

/-- A time of deletion that is there stays. -/
theorem or_eq_of_deleted {deletedAt : Option Timestamp} (deleted : deletedAt ≠ none) (now : Timestamp) :
    deletedAt.or (some now) = deletedAt := by
  obtain ⟨time, rfl⟩ := Option.ne_none_iff_exists'.mp deleted
  rfl

theorem LinkRow.delete_of_deleted {now : Timestamp} {row : LinkRow} (deleted : row.deletedAt ≠ none) :
    row.delete now = row := by
  unfold LinkRow.delete
  rw [or_eq_of_deleted deleted]

/-! ### Times of the clock

A row holds times that were taken from the clock when it was written, beside those that its author claims. -/

/-- The account with another time of its creation. -/
def Actor.retime (f : Timestamp → Timestamp) (actor : Actor) : Actor :=
  { actor with createdAt := f actor.createdAt }

/-- The post with other times of the clock. -/
def PostRow.retime (f : Timestamp → Timestamp) (row : PostRow) : PostRow :=
  { row with indexedAt := f row.indexedAt, deletedAt := row.deletedAt.map f }

/-- The link with other times of the clock. -/
def LinkRow.retime (f : Timestamp → Timestamp) (row : LinkRow) : LinkRow :=
  { row with indexedAt := f row.indexedAt, deletedAt := row.deletedAt.map f }

/-- The profile with another time at which it was indexed. -/
def ProfileRow.retime (f : Timestamp → Timestamp) (row : ProfileRow) : ProfileRow :=
  { row with indexedAt := f row.indexedAt }

theorem map_or_some (f : Timestamp → Timestamp) (deletedAt : Option Timestamp) (now : Timestamp) :
    (deletedAt.or (some now)).map f = (deletedAt.map f).or (some (f now)) := by
  rcases deletedAt with _ | time <;> rfl

theorem LinkRow.retime_delete (f : Timestamp → Timestamp) (now : Timestamp) (row : LinkRow) :
    (row.delete now).retime f = (row.retime f).delete (f now) := by
  unfold LinkRow.delete LinkRow.retime
  dsimp only
  rw [map_or_some]

/-! ### Schemas -/

/-- **Schema** — the rows in which a store keeps accounts, posts and profiles. Likes and follows are kept as
they are. -/
structure Schema where
  /-- The row of an account. -/
  Account : Type
  /-- The row of a post. -/
  Post : Type
  /-- The row of a profile. -/
  Profile : Type
  ofActor : Actor → Account
  did : Account → String
  /-- The account that a row is read back as. -/
  actor? : Account → Option Actor
  status : Account → ActorStatus
  setStatus : ActorStatus → Account → Account
  holdUntil : Option Timestamp → Account → Account
  /-- Points the account to a profile. -/
  pointTo : String → Account → Account
  ofPost : PostRow → Post
  author : Post → String
  deletedAt : Post → Option Timestamp
  delete : Timestamp → Post → Post
  ofProfile : ProfileRow → Profile
  /-- The commit that wrote a profile. -/
  commit : Profile → String
  /-- The row with other times of the clock. -/
  retimeAccount : (Timestamp → Timestamp) → Account → Account
  retimePost : (Timestamp → Timestamp) → Post → Post
  retimeProfile : (Timestamp → Timestamp) → Profile → Profile
  did_ofActor (actor : Actor) : did (ofActor actor) = actor.did := by intros; rfl
  did_setStatus (next : ActorStatus) (row : Account) : did (setStatus next row) = did row := by intros; rfl
  did_holdUntil (time : Option Timestamp) (row : Account) : did (holdUntil time row) = did row := by intros; rfl
  did_pointTo (cid : String) (row : Account) : did (pointTo cid row) = did row := by intros; rfl
  did_of_actor? {row : Account} {actor : Actor} (read : actor? row = some actor) : actor.did = did row
  status_ofActor (actor : Actor) : status (ofActor actor) = actor.status := by intros; rfl
  status_setStatus (next : ActorStatus) (row : Account) : status (setStatus next row) = next := by intros; rfl
  status_pointTo (cid : String) (row : Account) : status (pointTo cid row) = status row := by intros; rfl
  setStatus_setStatus (next last : ActorStatus) (row : Account) :
    setStatus last (setStatus next row) = setStatus last row := by intros; rfl
  setStatus_status (row : Account) : setStatus (status row) row = row := by intros; rfl
  /-- An account without roles is read back as it is. -/
  actor?_ofActor {actor : Actor} (plain : actor.roles = []) : actor? (ofActor actor) = some actor
  actor?_setStatus (next : ActorStatus) (row : Account) :
    actor? (setStatus next row) = (actor? row).map fun actor => { actor with status := next }
  actor?_pointTo (cid : String) (row : Account) :
    actor? (pointTo cid row) = (actor? row).map fun actor => { actor with profileCid := some cid }
  status_of_actor? {row : Account} {actor : Actor} (read : actor? row = some actor) : actor.status = status row
  author_ofPost (row : PostRow) : author (ofPost row) = row.actorDid := by intros; rfl
  author_delete (now : Timestamp) (row : Post) : author (delete now row) = author row := by intros; rfl
  deletedAt_ofPost (row : PostRow) : deletedAt (ofPost row) = row.deletedAt := by intros; rfl
  deletedAt_delete (now : Timestamp) (row : Post) :
    deletedAt (delete now row) = (deletedAt row).or (some now) := by intros; rfl
  /-- A post that is deleted stays as it is. -/
  delete_of_deleted {now : Timestamp} {row : Post} (deleted : deletedAt row ≠ none) : delete now row = row
  retime_ofActor (f : Timestamp → Timestamp) (actor : Actor) :
    retimeAccount f (ofActor actor) = ofActor (actor.retime f) := by intros; rfl
  actor?_retime (f : Timestamp → Timestamp) (row : Account) :
    actor? (retimeAccount f row) = (actor? row).map (·.retime f)
  did_retime (f : Timestamp → Timestamp) (row : Account) : did (retimeAccount f row) = did row := by intros; rfl
  retime_setStatus (f : Timestamp → Timestamp) (next : ActorStatus) (row : Account) :
    retimeAccount f (setStatus next row) = setStatus next (retimeAccount f row) := by intros; rfl
  retime_holdUntil (f : Timestamp → Timestamp) (time : Option Timestamp) (row : Account) :
    retimeAccount f (holdUntil time row) = holdUntil time (retimeAccount f row) := by intros; rfl
  retime_pointTo (f : Timestamp → Timestamp) (cid : String) (row : Account) :
    retimeAccount f (pointTo cid row) = pointTo cid (retimeAccount f row) := by intros; rfl
  retime_ofPost (f : Timestamp → Timestamp) (row : PostRow) :
    retimePost f (ofPost row) = ofPost (row.retime f) := by intros; rfl
  retime_delete (f : Timestamp → Timestamp) (now : Timestamp) (row : Post) :
    retimePost f (delete now row) = delete (f now) (retimePost f row)
  commit_ofProfile (row : ProfileRow) : commit (ofProfile row) = row.commitCid := by intros; rfl
  retime_ofProfile (f : Timestamp → Timestamp) (row : ProfileRow) :
    retimeProfile f (ofProfile row) = ofProfile (row.retime f) := by intros; rfl
  commit_retime (f : Timestamp → Timestamp) (row : Profile) :
    commit (retimeProfile f row) = commit row := by intros; rfl

namespace Schema

variable {L : Schema}

/-- **Row** — the row of a record. -/
inductive Row (L : Schema)
  | post (row : L.Post)
  | link (row : LinkRow)

namespace Row

/-- The account that the record is one of. -/
def author : L.Row → String
  | post row => L.author row
  | link row => row.actorDid

/-- The time at which the record was deleted. -/
def deletedAt : L.Row → Option Timestamp
  | post row => L.deletedAt row
  | link row => row.deletedAt

/-- The record deleted at some time, unless it is deleted already. -/
def delete (now : Timestamp) : L.Row → L.Row
  | post row => post (L.delete now row)
  | link row => link (row.delete now)

/-- What a link points to. -/
def subject? : L.Row → Option String
  | post _ => none
  | link row => some row.subject

@[simp] theorem author_delete (now : Timestamp) (row : L.Row) : (row.delete now).author = row.author := by
  cases row with
  | post row => exact L.author_delete now row
  | link row => rfl

@[simp] theorem deletedAt_delete (now : Timestamp) (row : L.Row) :
    (row.delete now).deletedAt = row.deletedAt.or (some now) := by
  cases row with
  | post row => exact L.deletedAt_delete now row
  | link row => rfl

@[simp] theorem subject?_delete (now : Timestamp) (row : L.Row) : (row.delete now).subject? = row.subject? := by
  cases row <;> rfl

theorem delete_of_deleted {now : Timestamp} {row : L.Row} (deleted : row.deletedAt ≠ none) :
    row.delete now = row := by
  cases row with
  | post row => exact congrArg post (L.delete_of_deleted deleted)
  | link row => exact congrArg link (LinkRow.delete_of_deleted deleted)

end Row

end Schema

/-! ## Tables -/

/-- **Tables** — what stands in a store. -/
@[ext]
structure Tables (L : Schema) where
  position : Option Int
  /-- The rows of the accounts by identifier. -/
  accounts : String → Option L.Account
  /-- The rows of the records by address. -/
  records : Table → String → Option L.Row
  /-- The profiles of an account, the oldest first. -/
  profiles : String → List L.Profile

namespace Tables

variable {L : Schema}

/-- The status of an account, if it is stored. -/
def status (t : Tables L) (did : String) : Option ActorStatus := (t.accounts did).map L.status

/-- The ledger of the tables. -/
def ledger (t : Tables L) : Ledger where
  position := t.position
  status := t.status
  mark table uri := (t.records table uri).map (·.deletedAt)

/-- **changeRecord** — changes what stands at the address of a record. -/
def changeRecord (table : Table) (uri : String) (change : Option L.Row → Option L.Row) (t : Tables L) :
    Tables L :=
  { t with records := fun tbl u => if tbl = table ∧ u = uri then change (t.records tbl u) else t.records tbl u }

/-- **changeAccount** — changes the row of an account, or adds one. -/
def changeAccount (did : String) (change : Option L.Account → Option L.Account) (t : Tables L) : Tables L :=
  { t with accounts := fun d => if d = did then change (t.accounts d) else t.accounts d }

/-- Adds a record, unless its address is taken. -/
def addRecord (table : Table) (uri : String) (row : L.Row) : Tables L → Tables L :=
  changeRecord table uri (·.or (some row))

/-- Marks the record at an address, if there is one. -/
def deleteRecord (table : Table) (uri : String) (now : Timestamp) : Tables L → Tables L :=
  changeRecord table uri (·.map (·.delete now))

/-- The account has a profile of the commit. -/
def hasProfile (t : Tables L) (did commit : String) : Bool := (t.profiles did).any (L.commit · == commit)

/-- Adds a profile at the end. -/
def appendProfile (did : String) (row : L.Profile) (t : Tables L) : Tables L :=
  { t with profiles := fun d => if d = did then t.profiles d ++ [row] else t.profiles d }

/-- **addProfile** — adds a profile, if its commit is new, and points the account to it. -/
def addProfile (row : ProfileRow) (t : Tables L) : Tables L :=
  if t.hasProfile row.actorDid row.commitCid then t
  else
    (t.changeAccount row.actorDid (·.map (L.pointTo row.commitCid))).appendProfile row.actorDid (L.ofProfile row)

/-- **apply** — what a request does to the tables. -/
def apply (now : Timestamp) : StoreOperation → Tables L → Tables L
  | .setCursor position, t => { t with position := some position }
  | .createActor actor, t => t.changeAccount actor.did (·.or (some (L.ofActor actor)))
  | .setActorStatus did status, t => t.changeAccount did (·.map (L.setStatus status))
  | .holdActor did time, t => t.changeAccount did (·.map (L.holdUntil time))
  | .createPost row, t => t.addRecord .posts row.uri (.post (L.ofPost row))
  | .createLike row, t => t.addRecord .likes row.uri (.link row)
  | .createFollow row, t => t.addRecord .follows row.uri (.link row)
  | .deletePost uri, t => t.deleteRecord .posts uri now
  | .deleteLike uri, t => t.deleteRecord .likes uri now
  | .deleteFollow uri, t => t.deleteRecord .follows uri now
  | .putProfile row, t => t.addProfile row
  | .getCursor, t | .listActors _, t | .getActor _, t | .getPost _, t | .getLike _, t | .getFollow _, t
  | .latestProfile _, t | .profileHistory _, t => t

/-! ### The statuses -/

theorem status_changeAccount (t : Tables L) (did : String) (change : Option L.Account → Option L.Account)
    {f : Option ActorStatus → Option ActorStatus} (reads : ∀ row, (change row).map L.status = f (row.map L.status))
    (other : String) :
    (t.changeAccount did change).status other = if other = did then f (t.status other) else t.status other := by
  unfold status changeAccount
  dsimp only
  split
  · exact reads _
  · rfl

/-- Adding a profile leaves every status as it is. -/
theorem status_addProfile (t : Tables L) (row : ProfileRow) : (t.addProfile row).status = t.status := by
  have reads (old : Option L.Account) : (old.map (L.pointTo row.commitCid)).map L.status = id (old.map L.status) := by
    rcases old with _ | old
    · rfl
    · exact congrArg some (L.status_pointTo row.commitCid old)
  unfold addProfile
  split
  · rfl
  · funext other
    refine (status_changeAccount t row.actorDid _ reads other).trans ?_
    rw [id, ite_self]

/-! ### Accounts under their identifiers -/

/-- **Named** — every account stands under its own identifier. -/
def Named (t : Tables L) : Prop := ∀ did row, t.accounts did = some row → L.did row = did

theorem Named.changeAccount {t : Tables L} (named : t.Named) {did : String}
    {change : Option L.Account → Option L.Account}
    (own : ∀ row, change (t.accounts did) = some row → L.did row = did) :
    (t.changeAccount did change).Named := by
  intro other row stored
  dsimp only [Tables.changeAccount] at stored
  split at stored
  · next same =>
    subst same
    exact own row stored
  · exact named other row stored

theorem Named.map {t : Tables L} (named : t.Named) (did : String) {change : L.Account → L.Account}
    (keeps : ∀ row, L.did (change row) = L.did row) : (t.changeAccount did (·.map change)).Named := by
  refine named.changeAccount fun row stored => ?_
  obtain ⟨old, hold, rfl⟩ := Option.map_eq_some_iff.mp stored
  rw [keeps, named did old hold]

/-- No request takes an account from its place. -/
theorem Named.apply {t : Tables L} (named : t.Named) (now : Timestamp) (request : StoreOperation) :
    (t.apply now request).Named := by
  cases request with
  | createActor actor =>
    show (t.changeAccount actor.did (·.or (some (L.ofActor actor)))).Named
    refine named.changeAccount fun row stored => ?_
    rcases Option.or_eq_some_iff.mp stored with hold | ⟨-, hnew⟩
    · exact named actor.did row hold
    · rw [← Option.some.inj hnew, L.did_ofActor]
  | setActorStatus did status => exact named.map did (L.did_setStatus status)
  | holdActor did time => exact named.map did (L.did_holdUntil time)
  | putProfile row =>
    show (t.addProfile row).Named
    unfold addProfile
    split
    · exact named
    · exact named.map row.actorDid (L.did_pointTo row.commitCid)
  | _ => exact named

/-! ### Records that are added and deleted -/

/-- The row that a request adds, its table and its address. -/
def added? : StoreOperation → Option (Table × String × L.Row)
  | .createPost row => some (.posts, row.uri, .post (L.ofPost row))
  | .createLike row => some (.likes, row.uri, .link row)
  | .createFollow row => some (.follows, row.uri, .link row)
  | _ => none

theorem records_addRecord (t : Tables L) (own : Table) (address : String) (row : L.Row) (table : Table)
    (uri : String) :
    (t.addRecord own address row).records table uri = t.records table uri ∨
      ∃ new, some (own, address, row) = some (table, uri, new) ∧
        (t.addRecord own address row).records table uri = (t.records table uri).or (some new) := by
  by_cases h : table = own ∧ uri = address
  · obtain ⟨rfl, rfl⟩ := h
    exact .inr ⟨row, rfl, if_pos ⟨rfl, rfl⟩⟩
  · exact .inl (if_neg h)

theorem records_deleteRecord (t : Tables L) (own : Table) (address : String) (now : Timestamp) (table : Table)
    (uri : String) :
    (t.deleteRecord own address now).records table uri = t.records table uri ∨
      some (own, address) = some (table, uri) ∧
        (t.deleteRecord own address now).records table uri = (t.records table uri).map (·.delete now) := by
  by_cases h : table = own ∧ uri = address
  · obtain ⟨rfl, rfl⟩ := h
    exact .inr ⟨rfl, if_pos ⟨rfl, rfl⟩⟩
  · exact .inl (if_neg h)

/-- What a request does to the record of an address: nothing, or it adds the record, or it deletes it. -/
theorem records_apply (t : Tables L) (now : Timestamp) (request : StoreOperation) (table : Table) (uri : String) :
    (t.apply now request).records table uri = t.records table uri ∨
      (∃ row, added? request = some (table, uri, row) ∧
        (t.apply now request).records table uri = (t.records table uri).or (some row)) ∨
      Ledger.deleted? request = some (table, uri) ∧
        (t.apply now request).records table uri = (t.records table uri).map (·.delete now) := by
  cases request with
  | createPost row => exact (records_addRecord t _ row.uri _ table uri).imp_right .inl
  | createLike row => exact (records_addRecord t _ row.uri _ table uri).imp_right .inl
  | createFollow row => exact (records_addRecord t _ row.uri _ table uri).imp_right .inl
  | deletePost own => exact (records_deleteRecord t _ own now table uri).imp_right .inr
  | deleteLike own => exact (records_deleteRecord t _ own now table uri).imp_right .inr
  | deleteFollow own => exact (records_deleteRecord t _ own now table uri).imp_right .inr
  | putProfile row =>
    left
    show (t.addProfile row).records table uri = _
    unfold addProfile
    split <;> rfl
  | _ => exact .inl rfl

end Tables

/-! ## Rows by their keys -/

/-- **Rows** — tables as a store keeps them: rows under their keys, and the profiles of each account. -/
structure Rows (L : Schema) where
  position : Option Int
  actors : Keyed L.Account
  posts : Keyed L.Post
  likes : Keyed LinkRow
  follows : Keyed LinkRow
  profiles : String → List L.Profile

namespace Rows

variable {L : Schema} (r : Rows L)

/-- **tables** — what stands in the rows. -/
def tables : Tables L where
  position := r.position
  accounts did := r.actors.get? did
  records
    | .posts, uri => (r.posts.get? uri).map .post
    | .likes, uri => (r.likes.get? uri).map .link
    | .follows, uri => (r.follows.get? uri).map .link
  profiles := r.profiles

/-- A mark is read off the row. -/
theorem mark_tables (table : Table) (uri : String) :
    r.tables.ledger.mark table uri =
      match table with
      | .posts => (r.posts.get? uri).map L.deletedAt
      | .likes => (r.likes.get? uri).map (·.deletedAt)
      | .follows => (r.follows.get? uri).map (·.deletedAt) := by
  cases table <;> exact Option.map_map ..

/-! ### Changes of the accounts -/

theorem tables_insertActor (did : String) (row : L.Account) :
    { r with actors := r.actors.insertNew did row }.tables = r.tables.changeAccount did (·.or (some row)) := by
  refine Tables.ext rfl (funext fun other => ?_) rfl rfl
  have read := Keyed.map_get?_insertNew id did other row r.actors
  simp only [Option.map_id, id] at read
  exact read

theorem tables_modifyActor (did : String) (change : L.Account → L.Account) :
    { r with actors := r.actors.modify did change }.tables = r.tables.changeAccount did (·.map change) := by
  refine Tables.ext rfl (funext fun other => ?_) rfl rfl
  have read := Keyed.map_get?_modify id (f := change) (fun _ => rfl) did other r.actors
  simp only [Option.map_id, id] at read
  exact read

/-! ### Changes of the records -/

/-- A change of one table leaves the others as they are. -/
theorem eq_changeRecord {t next : Tables L} {table : Table} {uri : String}
    {change : Option L.Row → Option L.Row} (position : next.position = t.position)
    (accounts : next.accounts = t.accounts) (profiles : next.profiles = t.profiles)
    (others : ∀ other, other = table ∨ next.records other = t.records other)
    (own : ∀ u, next.records table u = if u = uri then change (t.records table u) else t.records table u) :
    next = t.changeRecord table uri change := by
  refine Tables.ext position accounts ?_ profiles
  funext other u
  by_cases h : other = table
  · subst h
    simp [Tables.changeRecord, own]
  · simp [Tables.changeRecord, h, (others other).resolve_left h]

section

variable (uri : String)

theorem tables_insertPost (row : L.Post) :
    { r with posts := r.posts.insertNew uri row }.tables = r.tables.addRecord .posts uri (.post row) :=
  eq_changeRecord rfl rfl rfl (fun table => by cases table <;> simp <;> rfl) fun other =>
    Keyed.map_get?_insertNew Schema.Row.post uri other row r.posts

theorem tables_insertLike (row : LinkRow) :
    { r with likes := r.likes.insertNew uri row }.tables = r.tables.addRecord .likes uri (.link row) :=
  eq_changeRecord rfl rfl rfl (fun table => by cases table <;> simp <;> rfl) fun other =>
    Keyed.map_get?_insertNew Schema.Row.link uri other row r.likes

theorem tables_insertFollow (row : LinkRow) :
    { r with follows := r.follows.insertNew uri row }.tables = r.tables.addRecord .follows uri (.link row) :=
  eq_changeRecord rfl rfl rfl (fun table => by cases table <;> simp <;> rfl) fun other =>
    Keyed.map_get?_insertNew Schema.Row.link uri other row r.follows

theorem tables_deletePost (now : Timestamp) :
    { r with posts := r.posts.modify uri (L.delete now) }.tables = r.tables.deleteRecord .posts uri now :=
  eq_changeRecord rfl rfl rfl (fun table => by cases table <;> simp <;> rfl) fun other =>
    Keyed.map_get?_modify Schema.Row.post (f := (·.delete now)) (fun _ => rfl) uri other r.posts

theorem tables_deleteLike (now : Timestamp) :
    { r with likes := r.likes.modify uri (·.delete now) }.tables = r.tables.deleteRecord .likes uri now :=
  eq_changeRecord rfl rfl rfl (fun table => by cases table <;> simp <;> rfl) fun other =>
    Keyed.map_get?_modify Schema.Row.link (f := (·.delete now)) (fun _ => rfl) uri other r.likes

theorem tables_deleteFollow (now : Timestamp) :
    { r with follows := r.follows.modify uri (·.delete now) }.tables =
      r.tables.deleteRecord .follows uri now :=
  eq_changeRecord rfl rfl rfl (fun table => by cases table <;> simp <;> rfl) fun other =>
    Keyed.map_get?_modify Schema.Row.link (f := (·.delete now)) (fun _ => rfl) uri other r.follows

end

/-! ### A profile that is added -/

theorem tables_addProfile {row : ProfileRow} (new : r.tables.hasProfile row.actorDid row.commitCid = false)
    {profiles : String → List L.Profile}
    (added : ∀ did, profiles did =
      if did = row.actorDid then r.profiles did ++ [L.ofProfile row] else r.profiles did) :
    { r with actors := r.actors.modify row.actorDid (L.pointTo row.commitCid), profiles }.tables =
      r.tables.addProfile row := by
  unfold Tables.addProfile
  rw [new, if_neg Bool.false_ne_true, ← tables_modifyActor]
  exact Tables.ext rfl rfl rfl (funext added)

end Rows

/-! ## Stores of tables -/

/-- **TableStore** — a store whose requests do what they do to its tables, and whose answers about accounts and
follows are read off the tables. -/
class TableStore (σ : Type) [Store σ] extends LedgerStore σ where
  schema : Schema
  tables : σ → Tables schema
  ledger_eq (store : σ) : ledger store = (tables store).ledger
  tables_after (now : Timestamp) (request : StoreOperation) (store : σ) :
    tables (request.after now store) = (tables store).apply now request
  named_of_sound {store : σ} (sound : Sound store) : (tables store).Named
  createActor_new {actor : Actor} {store : σ} (absent : (tables store).accounts actor.did = none) :
    (Store.createActor actor : Storing σ Actor).answer store = .ok actor
  /-- An account that is there is in the way, if it can be read. -/
  createActor_taken {actor : Actor} {row : schema.Account} {store : σ}
    (stored : (tables store).accounts actor.did = some row) :
    (Store.createActor actor : Storing σ Actor).answer store =
      .error ((schema.actor? row).elim .unreadable fun _ => .actorExists actor.did)
  getActor_read {did : String} {row : schema.Account} {actor : Actor} {store : σ}
    (stored : (tables store).accounts did = some row) (read : schema.actor? row = some actor) :
    (Store.getActor did : Storing σ _).answer store = .ok (some actor)
  setActorStatus_read {did : String} {actor : Actor} {store : σ}
    (read : ((tables store).accounts did).bind schema.actor? = some actor) (status : ActorStatus) :
    (Store.setActorStatus did status : Storing σ _).answer store = .ok { actor with status }
  /-- A status is not set where there is no account, or none that can be read. -/
  setActorStatus_unread {did : String} {store : σ}
    (unread : ((tables store).accounts did).bind schema.actor? = none) (status : ActorStatus) :
    ∃ failure, (Store.setActorStatus did status : Storing σ _).answer store = .error failure
  getFollow_tables (uri : String) (store : σ) :
    ∃ row, (Store.getFollow uri : Storing σ _).answer store = .ok row ∧
      (tables store).records .follows uri = row.map .link
  deleteFollow_outcome (now : Timestamp) (uri : String) (store : σ) :
    (StoreOperation.deleteFollow uri).outcome now store = .ok ()

end FeedIndex
