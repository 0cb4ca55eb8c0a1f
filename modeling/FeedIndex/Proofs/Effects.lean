import FeedIndex.Proofs.Faulty
import FeedIndex.Proofs.Signals
import FeedIndex.Proofs.Tables.Memory

/-!
# What an event may change

An event has bounds, whatever the store and the roster hold when it comes, and whether or not it is handled in the
end: one row under its own address, one profile of its own account, and what is known of that account. `Bounded`
lists these changes, each with what it takes, and leaves everything else as it was. The bounds hold of stores that
fail as well: a request then changes nothing, and what was done before it stays.
-/

namespace FeedIndex

open Handler

/-! ## Stores that may fail -/

/-- **BoundedStore** — a store whose requests do to its tables what they do to tables, or nothing, and whose answers
about accounts and follows are about what was asked for. -/
class BoundedStore (σ : Type) [Store σ] where
  schema : Schema
  tables : σ → Tables schema
  Sound : σ → Prop
  tables_after (now : Timestamp) (request : StoreOperation) (store : σ) :
    tables (request.after now store) = tables store ∨
      tables (request.after now store) = (tables store).apply now request
  sound_after {store : σ} (now : Timestamp) (request : StoreOperation) (sound : Sound store) :
    Sound (request.after now store)
  createActor_did {actor stored : Actor} {store : σ}
    (answer : (Store.createActor actor : Storing σ _).answer store = .ok stored) : stored.did = actor.did
  getActor_did {did : String} {stored : Actor} {store : σ} (sound : Sound store)
    (answer : (Store.getActor did : Storing σ _).answer store = .ok (some stored)) : stored.did = did
  setActorStatus_did {did : String} {status : ActorStatus} {stored : Actor} {store : σ} (sound : Sound store)
    (answer : (Store.setActorStatus did status : Storing σ _).answer store = .ok stored) : stored.did = did
  getFollow_stored {uri : String} {row : LinkRow} {store : σ}
    (answer : (Store.getFollow uri : Storing σ _).answer store = .ok (some row)) :
    (tables store).records .follows uri = some (.link row)

namespace BoundedStore

variable {σ α : Type} [Store σ]

/-- A store that does what it is asked. -/
instance [TableStore σ] : BoundedStore σ where
  schema := TableStore.schema σ
  tables := TableStore.tables
  Sound := LedgerStore.Sound
  tables_after now request store := .inr (TableStore.tables_after now request store)
  sound_after := LedgerStore.sound_after
  createActor_did := by
    intro actor stored store answer
    rcases known : (TableStore.tables store).accounts actor.did with _ | row
    · rw [TableStore.createActor_new known] at answer
      obtain rfl := Except.ok.inj answer
      rfl
    · rw [TableStore.createActor_taken known] at answer
      cases answer
  getActor_did sound answer := (LedgerStore.getActor_answer sound answer).2 _ rfl
  setActorStatus_did sound answer := (LedgerStore.setActorStatus_answer sound answer).1
  getFollow_stored := by
    intro uri row store answer
    obtain ⟨found, answer', stored⟩ := TableStore.getFollow_tables uri store
    obtain rfl := Except.ok.inj (answer'.symm.trans answer)
    exact stored

/-- A store of which some operations fail at present. -/
instance [BoundedStore σ] : BoundedStore (Faulty σ) where
  schema := schema σ
  tables store := tables store.base
  Sound store := Sound store.base
  tables_after now request store := by
    rcases Faulty.base_after now request store with failed | done
    · exact .inl (congrArg tables failed)
    · rw [done]
      exact tables_after now request store.base
  sound_after now request sound := by
    rename_i store
    rcases Faulty.base_after now request store with failed | done
    · exact failed ▸ sound
    · exact done ▸ sound_after now request sound
  createActor_did answer := createActor_did (Faulty.answer_of_guarded answer)
  getActor_did sound answer := getActor_did sound (Faulty.answer_of_guarded answer)
  setActorStatus_did sound answer := setActorStatus_did sound (Faulty.answer_of_guarded answer)
  getFollow_stored answer := getFollow_stored (Faulty.answer_of_guarded answer)

/-- An operation does to the tables what the request does that stands for it, or nothing. -/
theorem tables_after_operation {now : Timestamp} {request : StoreOperation} {operation : Storing σ α}
    {answer : α → StoreAnswer} [BoundedStore σ]
    (h : request.perform now = (operation >>= fun a => pure (answer a))) (store : σ) :
    tables (operation.after store) = tables store ∨
      tables (operation.after store) = (tables store).apply now request := by
  rw [StoreOperation.after_of_perform now request h]
  exact tables_after now request store

end BoundedStore

/-! ## Bounds -/

/-- The status that the roster shows of an account. -/
def Roster.status? (roster : Roster) (did : String) : Option ActorStatus := (roster.get? did).map (·.status)

namespace Handler

variable {L : Schema}

section

variable (handler : Handler) (event : Event) (now : Timestamp) (roster : Roster)

/-- **MayAdd** — the rows that an event may add, each with its table. -/
inductive MayAdd : Table → L.Row → Prop
  /-- A post of an approved account that is no reply. -/
  | post {post : Post} {raw : Json.Value} {row : PostRow} (kind : Collection.ofName event.collection = .post)
      (action : event.action = .create) (approved : roster.status? event.did = some .approved)
      (opened : handler.openWithRaw event = .ok (post, raw)) (noReply : post.reply = none)
      (decided : handler.postRow? event now = .ok (some row)) : MayAdd .posts (.post (L.ofPost row))
  /-- A like of an approved account. -/
  | like {row : LinkRow} (kind : Collection.ofName event.collection = .like) (action : event.action = .create)
      (approved : roster.status? event.did = some .approved) (decided : handler.likeRow event now = .ok row) :
      MayAdd .likes (.link row)
  /-- A follow of an approved account, or one of the subject. -/
  | follow {follow : Follow} {createdAt : Timestamp} (kind : Collection.ofName event.collection = .follow)
      (action : event.action = .create) (opened : handler.openRecord event = .ok follow)
      (may : roster.status? event.did = some .approved ∨ follow.subject = handler.subject) :
      MayAdd .follows (.link (followRow event follow createdAt now))

/-- **MayDelete** — the event deletes a record of the table, and its account is known. -/
structure MayDelete (table : Table) : Prop where
  kind : event.table? = some table
  action : event.action = .delete
  known : roster.status? event.did ≠ none

/-- **WritesProfile** — the event writes a profile of an account that is approved or waits for a moderator. -/
structure WritesProfile (row : ProfileRow) : Prop where
  kind : Collection.ofName event.collection = .profile
  action : event.action = .create ∨ event.action = .update
  kept : roster.status? event.did = some .pending ∨ roster.status? event.did = some .approved
  decided : handler.profileRow event now = .ok row

/-- **Signalling** — the account follows the subject, or deletes a follow of it that stands in the tables. -/
def Signalling (t : Tables L) : Prop := handler.Joins event ∨ handler.Leaves event t

/-- **MayChange** — what may become of the row of the event's account. -/
inductive MayChange (t : Tables L) : Option L.Account → Option L.Account → Prop
  /-- A follow of the subject adds an account that the roster does not show. -/
  | added (joins : handler.Joins event) (unknown : roster.status? event.did = none) :
      MayChange t none (some (L.ofActor (.fresh event.did .pending Index.addedRemark now)))
  | moved {row : L.Account} {next : ActorStatus} (signals : handler.Signalling event t) :
      MayChange t (some row) (some (L.setStatus next row))
  /-- The account points to the profile that was written. -/
  | pointed {row : L.Account} {profile : ProfileRow} (writes : handler.WritesProfile event now roster profile) :
      MayChange t (some row) (some (L.pointTo profile.commitCid row))

/-- **Bounded** — what an event may change about the tables and the roster. -/
structure Bounded (t : Tables L) (t' : Tables L) (roster' : Roster) : Prop where
  position : t'.position = t.position
  records (table : Table) (uri : String) : t'.records table uri = t.records table uri ∨
    uri = event.uri ∧
      ((t.records table uri = none ∧
          ∃ row, t'.records table uri = some row ∧ handler.MayAdd event now roster table row) ∨
        ∃ row, t.records table uri = some row ∧ t'.records table uri = some (row.delete now) ∧
          MayDelete event roster table)
  profiles (did : String) : t'.profiles did = t.profiles did ∨
    did = event.did ∧ ∃ row, t'.profiles did = t.profiles did ++ [L.ofProfile row] ∧
      handler.WritesProfile event now roster row
  accounts (did : String) : t'.accounts did = t.accounts did ∨
    did = event.did ∧ handler.MayChange event now roster t (t.accounts did) (t'.accounts did)
  shown (did : String) : roster'.get? did = roster.get? did ∨
    did = event.did ∧ handler.Signalling event t

end

variable {handler : Handler} {event : Event} {now : Timestamp} {roster roster' : Roster} {t t' : Tables L}

/-! ### One request -/

theorem Bounded.refl (handler : Handler) (event : Event) (now : Timestamp) (roster : Roster) (t : Tables L) :
    handler.Bounded event now roster t t roster where
  position := rfl
  records _ _ := .inl rfl
  profiles _ := .inl rfl
  accounts _ := .inl rfl
  shown _ := .inl rfl

/-- A record may still be added if none was added or deleted before. -/
theorem Bounded.addRecord (bounded : handler.Bounded event now roster t t' roster')
    (untouched : t'.records = t.records) {table : Table} {row : L.Row}
    (may : handler.MayAdd event now roster table row) :
    handler.Bounded event now roster t (t'.addRecord table event.uri row) roster' where
  position := bounded.position
  records other uri := by
    by_cases own : other = table ∧ uri = event.uri
    · obtain ⟨rfl, rfl⟩ := own
      have added : (t'.addRecord other event.uri row).records other event.uri =
          (t'.records other event.uri).or (some row) := if_pos ⟨rfl, rfl⟩
      rw [added, untouched]
      rcases t.records other event.uri with _ | old
      · exact .inr ⟨rfl, .inl ⟨rfl, row, rfl, may⟩⟩
      · exact .inl rfl
    · have kept : (t'.addRecord table event.uri row).records other uri = t'.records other uri := if_neg own
      rw [kept, untouched]
      exact .inl rfl
  profiles := bounded.profiles
  accounts := bounded.accounts
  shown := bounded.shown

theorem bounded_deleteRecord {table : Table} (may : MayDelete event roster table) :
    handler.Bounded event now roster t (t.deleteRecord table event.uri now) roster where
  position := rfl
  records other uri := by
    by_cases own : other = table ∧ uri = event.uri
    · obtain ⟨rfl, rfl⟩ := own
      have deleted : (t.deleteRecord other event.uri now).records other event.uri =
          (t.records other event.uri).map (·.delete now) := if_pos ⟨rfl, rfl⟩
      rw [deleted]
      rcases t.records other event.uri with _ | old
      · exact .inl rfl
      · exact .inr ⟨rfl, .inr ⟨old, rfl, rfl, may⟩⟩
    · exact .inl (if_neg own)
  profiles _ := .inl rfl
  accounts _ := .inl rfl
  shown _ := .inl rfl

theorem bounded_addProfile {row : ProfileRow} (writes : handler.WritesProfile event now roster row) :
    handler.Bounded event now roster t (t.addProfile row) roster := by
  have own : row.actorDid = event.did := actorDid_of_profileRow writes.decided
  unfold Tables.addProfile
  split
  · exact .refl handler event now roster t
  · refine ⟨rfl, fun _ _ => .inl rfl, fun did => ?_, fun did => ?_, fun _ => .inl rfl⟩
    · dsimp only [Tables.appendProfile, Tables.changeAccount]
      split
      · next same => exact .inr ⟨same.trans own, row, rfl, writes⟩
      · exact .inl rfl
    · dsimp only [Tables.appendProfile, Tables.changeAccount]
      split
      · next same =>
        rcases t.accounts did with _ | old
        · exact .inl rfl
        · exact .inr ⟨same.trans own, .pointed writes⟩
      · exact .inl rfl

theorem status?_of_isApproved {did : String} (approved : isApproved (roster.get? did) = true) :
    roster.status? did = some .approved := by
  unfold Roster.status?
  rcases shown : roster.get? did with _ | actor
  · rw [shown] at approved
    cases approved
  · rw [shown] at approved
    exact congrArg some (eq_of_beq (a := actor.status) approved)

theorem status?_of_keepsProfile {did : String} (keeps : keepsProfile (roster.get? did) = true) :
    roster.status? did = some .pending ∨ roster.status? did = some .approved := by
  unfold Roster.status?
  rcases shown : roster.get? did with _ | actor
  · rw [shown] at keeps
    cases keeps
  · rw [shown] at keeps
    rcases Bool.or_eq_true_iff.mp (show (actor.status == .pending || actor.status == .approved) = true from keeps)
      with pending | approved
    · exact .inl (congrArg some (eq_of_beq pending))
    · exact .inr (congrArg some (eq_of_beq approved))

theorem status?_ne_none {did : String} (known : (roster.get? did).isSome = true) : roster.status? did ≠ none := by
  unfold Roster.status?
  obtain ⟨actor, shown⟩ := Option.isSome_iff_exists.mp known
  rw [shown]
  exact nofun

/-- A post that is decided on is no reply. -/
theorem opened_of_postRow? {row : PostRow} (decided : handler.postRow? event now = .ok (some row)) :
    ∃ (post : Post) (raw : Json.Value), handler.openWithRaw event = .ok (post, raw) ∧ post.reply = none := by
  obtain ⟨post, raw, createdAt, opened, noReply, -, -⟩ := parts_of_postRow? decided
  refine ⟨post, raw, opened, ?_⟩
  simpa [Post.classify] using noReply

/-- What an event enters without touching its account keeps to the bounds. -/
theorem Entry.bounded {request : StoreOperation} (entry : Entry handler event now roster request) :
    handler.Bounded event now roster t (t.apply now request) roster := by
  have start := Bounded.refl handler event now roster t
  cases entry with
  | @post row kind action approved decided =>
    obtain ⟨post, raw, opened, noReply⟩ := opened_of_postRow? decided
    have added := start.addRecord rfl
      (.post kind action (status?_of_isApproved approved) opened noReply decided)
    rw [← (uri_of_postRow? decided).1] at added
    exact added
  | @like row kind action approved decided =>
    have added := start.addRecord rfl (.like kind action (status?_of_isApproved approved) decided)
    rw [← (uri_of_likeRow decided).1] at added
    exact added
  | follow kind action approved opened _ _ =>
    exact start.addRecord rfl (.follow kind action opened (.inl (status?_of_isApproved approved)))
  | profile kind action keeps decided =>
    refine bounded_addProfile ⟨kind, ?_, status?_of_keepsProfile keeps, decided⟩
    rcases acts : event.action
    · exact .inl rfl
    · exact .inr rfl
    · exact absurd acts action
  | deletedPost kind action known =>
    exact bounded_deleteRecord ⟨congrArg Collection.table? kind, action, status?_ne_none known⟩
  | deletedLike kind action known =>
    exact bounded_deleteRecord ⟨congrArg Collection.table? kind, action, status?_ne_none known⟩

/-! ### An account that is filed -/

/-- What is filed of the event's account keeps to the bounds, if the account is added only where the roster does not
show it. -/
theorem mayChange_file {mid : Tables L} (untouched : mid.accounts = t.accounts) {change : AccountChange}
    (signals : handler.Signalling event t)
    (adds : change = .add → handler.Joins event ∧ roster.status? event.did = none) (did : String) :
    (mid.file event.did now change).accounts did = t.accounts did ∨
      did = event.did ∧
        handler.MayChange event now roster t (t.accounts did) ((mid.file event.did now change).accounts did) := by
  by_cases own : did = event.did
  · subst own
    cases change with
    | add =>
      have filed : (mid.file event.did now .add).accounts event.did =
          (mid.accounts event.did).or (some (L.ofActor (.fresh event.did .pending Index.addedRemark now))) :=
        if_pos rfl
      obtain ⟨joins, unknown⟩ := adds rfl
      rw [filed, untouched]
      rcases t.accounts event.did with _ | row
      · exact .inr ⟨rfl, .added joins unknown⟩
      · exact .inl rfl
    | set next =>
      have filed : (mid.file event.did now (.set next)).accounts event.did =
          (mid.accounts event.did).map (L.setStatus next) := if_pos rfl
      rw [filed, untouched]
      rcases t.accounts event.did with _ | row
      · exact .inl rfl
      · exact .inr ⟨rfl, .moved signals⟩
  · rw [← untouched]
    cases change <;> exact .inl (if_neg own)

open BoundedStore

variable {σ : Type} [Store σ] [BoundedStore σ]

/-- **Refiled** — an account was filed, as far as the store did it: the roster shows other accounts as before. -/
structure Refiled (did : String) (now : Timestamp) (change : Option AccountChange) (index moved : Index σ) : Prop where
  stored : tables moved.store = tables index.store ∨
    ∃ c, change = some c ∧ tables moved.store = (tables index.store).file did now c
  shown (other : String) : moved.roster.get? other = index.roster.get? other ∨ other = did ∧ change ≠ none

variable {index moved : Index σ} {did : String}

theorem refiled_set (sound : Sound index.store) (did : String) (now : Timestamp) (status : ActorStatus) :
    Refiled did now (some (.set status)) index ((filing now did (.set status)).run.run index).2 := by
  have filed := tables_after_operation (StoreOperation.perform_setActorStatus (σ := σ) now did status) index.store
  have stored : tables ((Store.setActorStatus did status : Storing σ _).after index.store) = tables index.store ∨
      ∃ c, some (AccountChange.set status) = some c ∧
        tables ((Store.setActorStatus did status : Storing σ _).after index.store) =
          (tables index.store).file did now c := filed.imp_right fun filed => ⟨_, rfl, filed⟩
  unfold filing moveStatus
  rw [Indexing.run_bind, run_indexing, Index.run_setStatus]
  rcases answer : (Store.setActorStatus did status : Storing σ _).answer index.store with failure | actor
  · exact ⟨stored, fun _ => .inl rfl⟩
  · refine ⟨stored, fun other => ?_⟩
    show (index.roster.put actor).get? other = _ ∨ _
    rw [Roster.get?_put, setActorStatus_did sound answer]
    split
    · next own => exact .inr ⟨own, nofun⟩
    · exact .inl rfl

/-- Adding an account changes nothing but its row, and comes to an account of its identifier. -/
theorem createOrGet_bounded (now : Timestamp) (sound : Sound index.store) (actor : Actor)
    {result : Except StoreFailure Actor} (made : (Index.createOrGet actor).run.run index = (result, moved)) :
    (tables moved.store = tables index.store ∨
        tables moved.store = (tables index.store).apply now (.createActor actor)) ∧
      moved.roster = index.roster ∧ ∀ stored, result = .ok stored → stored.did = actor.did := by
  have performCreate := StoreOperation.perform_createActor (σ := σ) now actor
  have performGet := StoreOperation.perform_getActor (σ := σ) now actor.did
  have created := tables_after_operation performCreate index.store
  have sound' : Sound ((Store.createActor actor : Storing σ _).after index.store) := by
    rw [StoreOperation.after_of_perform now _ performCreate]
    exact sound_after now _ sound
  -- looking the account up leaves the tables as they are, done or not
  have looked : tables ((Store.getActor actor.did : Storing σ _).after
      ((Store.createActor actor : Storing σ _).after index.store)) =
        tables ((Store.createActor actor : Storing σ _).after index.store) :=
    (tables_after_operation performGet _).elim id id
  rw [Index.run_createOrGet] at made
  rcases answer : (Store.createActor actor : Storing σ _).answer index.store with failure | stored
  · rw [answer] at made
    cases failure with
    | actorExists taken =>
      obtain ⟨rfl, rfl⟩ := Prod.mk.inj made
      refine ⟨by rw [looked]; exact created, rfl, fun known h => ?_⟩
      rcases found : (Store.getActor actor.did : Storing σ _).answer
        ((Store.createActor actor : Storing σ _).after index.store) with failure | _ | other
      · rw [found] at h
        cases h
      · rw [found] at h
        cases h
      · rw [found] at h
        obtain rfl := Except.ok.inj h
        exact getActor_did sound' found
    | _ =>
      obtain ⟨rfl, rfl⟩ := Prod.mk.inj made
      exact ⟨created, rfl, nofun⟩
  · rw [answer] at made
    obtain ⟨rfl, rfl⟩ := Prod.mk.inj made
    refine ⟨created, rfl, ?_⟩
    rintro known ⟨⟩
    exact createActor_did answer

theorem refiled_add (sound : Sound index.store) (did : String) (now : Timestamp) :
    Refiled did now (some .add) index ((filing now did .add).run.run index).2 := by
  unfold filing
  rw [Indexing.run_bind, run_indexing, Index.run_createPending]
  rcases made : (Index.createOrGet (Actor.fresh did .pending Index.addedRemark now)).run.run index with
    ⟨failure | actor, moved⟩
  · obtain ⟨stored, shown, -⟩ := createOrGet_bounded now sound _ made
    exact ⟨stored.imp_right fun filed => ⟨.add, rfl, filed⟩, fun other => .inl (by rw [← shown]; rfl)⟩
  · obtain ⟨stored, shown, own⟩ := createOrGet_bounded now sound _ made
    refine ⟨stored.imp_right fun filed => ⟨.add, rfl, filed⟩, fun other => ?_⟩
    show (moved.roster.put actor).get? other = _ ∨ _
    rw [Roster.get?_put, own actor rfl, shown]
    split
    · next same => exact .inr ⟨same, nofun⟩
    · exact .inl rfl

theorem refiled_filing? (index : Index σ) (sound : Sound index.store) (did : String) (now : Timestamp)
    (change : Option AccountChange) : Refiled did now change index ((filing? now did change).run.run index).2 := by
  rcases change with _ | _ | status
  · exact ⟨.inl rfl, fun _ => .inl rfl⟩
  · exact refiled_add sound did now
  · exact refiled_set sound did now status

/-- The account may still be filed if only records have changed before. -/
theorem Bounded.refile {change : Option AccountChange} (refiled : Refiled event.did now change index moved)
    {roster : Roster} {t : Tables (schema σ)}
    (bounded : handler.Bounded event now roster t (tables index.store) index.roster)
    (untouched : (tables index.store).accounts = t.accounts) (same : index.roster = roster)
    (signals : handler.Signalling event t)
    (adds : change = some .add → handler.Joins event ∧ roster.status? event.did = none) :
    handler.Bounded event now roster t (tables moved.store) moved.roster := by
  have shown (other : String) : moved.roster.get? other = roster.get? other ∨
      other = event.did ∧ handler.Signalling event t := by
    rw [← same]
    exact (refiled.shown other).imp_right fun ⟨own, _⟩ => ⟨own, signals⟩
  rcases refiled.stored with stored | ⟨c, rfl, stored⟩
  · rw [stored]
    exact { bounded with shown }
  · rw [stored]
    have adds' : c = .add → handler.Joins event ∧ roster.status? event.did = none := fun h => adds (congrArg some h)
    have kept : ((tables index.store).file event.did now c).position = (tables index.store).position ∧
        ((tables index.store).file event.did now c).records = (tables index.store).records ∧
        ((tables index.store).file event.did now c).profiles = (tables index.store).profiles := by
      cases c <;> exact ⟨rfl, rfl, rfl⟩
    obtain ⟨position, records, profiles⟩ := kept
    refine ⟨position.trans bounded.position, ?_, ?_, mayChange_file untouched signals adds', shown⟩
    · rw [records]
      exact bounded.records
    · rw [profiles]
      exact bounded.profiles

/-! ## The whole event -/

/-- Only an unknown account is added. -/
theorem unknown_of_add {actor : Option Actor} (added : AccountChange.onFollow? actor = some .add) : actor = none := by
  rcases actor with _ | actor
  · rfl
  · obtain ⟨status, -, set⟩ := Option.map_eq_some_iff.mp added
    cases set

theorem onUnfollow?_ne_add (actor : Actor) : AccountChange.onUnfollow? actor ≠ some .add := by
  intro added
  obtain ⟨status, -, set⟩ := Option.map_eq_some_iff.mp added
  cases set

/-- The account of a follow of the subject moves within the bounds, before the follow is kept. -/
theorem bounded_followedSubject (sound : Sound index.store) {follow : Follow}
    (follows : FollowsSubject handler event follow) {result : Except HandleFailure Unit}
    (move : (followedSubject event (index.roster.get? event.did) now).run.run index = (result, moved)) :
    handler.Bounded event now index.roster (tables index.store) (tables moved.store) moved.roster ∧
      (tables moved.store).records = (tables index.store).records := by
  have refiled := refiled_filing? index sound event.did now (AccountChange.onFollow? (index.roster.get? event.did))
  rw [← followedSubject_eq, move] at refiled
  have adds : AccountChange.onFollow? (index.roster.get? event.did) = some .add →
      handler.Joins event ∧ index.roster.status? event.did = none := by
    intro added
    refine ⟨⟨follow, follows⟩, ?_⟩
    rw [Roster.status?, unknown_of_add added]
    rfl
  refine ⟨(Bounded.refl handler event now _ _).refile refiled rfl rfl (.inl ⟨follow, follows⟩) adds, ?_⟩
  rcases refiled.stored with stored | ⟨change, -, stored⟩
  · rw [stored]
  · rw [stored, Tables.records_file]

theorem tables_getFollow (uri : String) (now : Timestamp) (store : σ) :
    tables ((StoreOperation.getFollow uri).after now store) = tables store :=
  (tables_after now _ store).elim id id

/-- A follow is looked up and deleted, or left as it is where the store fails. -/
theorem tables_withoutFollow (event : Event) (now : Timestamp) (store : σ) :
    tables (withoutFollow event now store) = tables store ∨
      tables (withoutFollow event now store) = (tables store).deleteRecord .follows event.uri now := by
  have deleted := tables_after now (.deleteFollow event.uri) ((StoreOperation.getFollow event.uri).after now store)
  rw [tables_getFollow] at deleted
  exact deleted

theorem bounded_withoutFollow {actor : Actor} (unfollows : Unfollows event index.roster actor) :
    handler.Bounded event now index.roster (tables index.store) (tables (withoutFollow event now index.store))
      index.roster := by
  rcases tables_withoutFollow event now index.store with same | deleted
  · rw [same]
    exact .refl ..
  · rw [deleted]
    refine bounded_deleteRecord ⟨congrArg Collection.table? unfollows.kind, unfollows.action, ?_⟩
    exact status?_ne_none (by rw [unfollows.known]; rfl)

/-- The account of a follow of the subject that is deleted moves within the bounds, after the follow is gone. -/
theorem bounded_unfollowedSubject (sound : Sound index.store) {actor : Actor} {row : LinkRow}
    {result : Except HandleFailure Unit} (unfollows : Unfollows event index.roster actor)
    (stored : (Store.getFollow event.uri : Storing σ _).answer index.store = .ok (some row))
    (subject : row.subject = handler.subject)
    (move : (moveStatus event.did actor.status.afterUnfollow).run.run
      { index with store := withoutFollow event now index.store } = (result, moved)) :
    handler.Bounded event now index.roster (tables index.store) (tables moved.store) moved.roster := by
  have sound' : Sound (withoutFollow event now index.store) := sound_after now _ (sound_after now _ sound)
  have refiled := refiled_filing? { index with store := withoutFollow event now index.store } sound'
    event.did now (AccountChange.onUnfollow? actor)
  rw [← moveStatus_eq, move] at refiled
  have leaves : handler.Leaves event (tables index.store) :=
    ⟨unfollows.valid, unfollows.kind, unfollows.action, _, getFollow_stored stored, congrArg some subject⟩
  have accounts : (tables (withoutFollow event now index.store)).accounts = (tables index.store).accounts := by
    rcases tables_withoutFollow event now index.store with same | deleted
    · rw [same]
    · rw [deleted]
      rfl
  exact Bounded.refile refiled (bounded_withoutFollow unfollows) accounts rfl (.inr leaves) fun added =>
    absurd added (onUnfollow?_ne_add actor)

/-- **Every event keeps to its bounds**, whether it is handled or fails, and in a store that fails itself too. -/
theorem bounded_run (handler : Handler) (event : Event) (now : Timestamp) (sound : Sound index.store) :
    handler.Bounded event now index.roster (tables index.store) (tables (handler.run event now index).2.store)
      (handler.run event now index).2.roster := by
  have start := Bounded.refl handler event now index.roster (tables index.store)
  have way := handled_run handler event now index
  generalize (handler.run event now index).1 = result at way
  generalize (handler.run event now index).2 = last at way
  cases way with
  | passed => exact start
  | refused _ => exact start
  | @entered request _ entry =>
    rcases tables_after now request index.store with failed | done
    · dsimp only
      rw [failed]
      exact start
    · dsimp only
      rw [done]
      exact entry.bounded
  | followFailed follows move => exact (bounded_followedSubject sound follows move).1
  | followUntimed follows move _ => exact (bounded_followedSubject sound follows move).1
  | @followKept follow createdAt moved follows move time =>
    obtain ⟨bounded, untouched⟩ := bounded_followedSubject sound follows move
    rcases tables_after now (.createFollow (followRow event follow createdAt now)) moved.store with failed | done
    · dsimp only
      rw [failed]
      exact bounded
    · dsimp only
      rw [done]
      exact bounded.addRecord untouched (.follow follows.kind follows.action follows.opened (.inr follows.subject))
  | unfollowUnknown _ _ =>
    dsimp only
    rw [tables_getFollow]
    exact start
  | unfollowed unfollows _ _ => exact bounded_withoutFollow unfollows
  | unfollowedSubject unfollows stored subject _ move => exact bounded_unfollowedSubject sound unfollows stored subject move

/-! ### A follow that a store does not take -/

namespace Outage

/-- An empty store that takes no follows at present. -/
def start : Index (Faulty Memory) := ⟨⟨{}, [.createFollow]⟩, {}⟩

/-- An unknown account follows the subject. -/
def follow : Event where
  seq := 1
  did := "did:plc:hdhoaan3xa3jiuq4fg4mefid"
  action := .create
  collection := "app.bsky.graph.follow"
  rkey := "f1"
  cid := none
  payload := some (.json
    "\x7b\"subject\":\"did:plc:jdkvwye2lf4mingzk7qdebzc\",\"createdAt\":\"2025-01-26T17:11:03Z\"\x7d")

set_option maxRecDepth 100000 in
/-- The follow fails within its bounds: the account has been added, and nothing else. -/
theorem account_added :
    (({} : Handler).Bounded follow ⟨1, 0⟩ start.roster (tables start.store)
        (tables (Handler.run {} follow ⟨1, 0⟩ start).2.store) (Handler.run {} follow ⟨1, 0⟩ start).2.roster) ∧
      (Handler.run {} follow ⟨1, 0⟩ start).1 = .error (.unstored .poisoned) ∧
      (Handler.run {} follow ⟨1, 0⟩ start).2.store.base.actors.map (·.2.status) = [.pending] ∧
      (Handler.run {} follow ⟨1, 0⟩ start).2.store.base.follows = [] :=
  ⟨bounded_run {} follow ⟨1, 0⟩ (show Sound start.store from Memory.sound_empty), by decide +kernel⟩

end Outage

end Handler

end FeedIndex
