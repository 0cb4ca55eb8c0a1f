import FeedIndex.Proofs.Agreement
import FeedIndex.Proofs.Backends
import FeedIndex.Proofs.Faithful
import FeedIndex.Proofs.Profiles

/-!
# Histories of profiles

The profiles of an account are a history: a snapshot is added at the end or not at all, and no commit comes twice.
Two things that are written apart from each other have to keep up with it, the row of the account, which points to the
last snapshot, and the order in which a store reads the snapshots back. They do as long as events are all that writes
and the clock does not go back: an account whose profile is kept is stored, since roster and store agree, so that the
pointer moves with every snapshot, and snapshots are read in the order of the clock.
-/

namespace FeedIndex

open LedgerStore TableStore ProfileStore Handler

theorem Handler.indexedAt_of_profileOf? {handler : Handler} {did : String} {event : Event} {now : Timestamp}
    {row : ProfileRow} (written : handler.profileOf? did (event, now) = some row) : row.indexedAt = now := by
  unfold profileOf? at written
  split at written
  · obtain ⟨commit, profile, createdAt, -, -, -, rfl⟩ := parts_of_profileRow (ok_of_toOption written)
    rfl
  · cases written

/-! ## Chronicles -/

/-- **Chronicle** — these are the profiles that the tables hold of an account, each of a commit of its own and indexed
at one of the times that have come, in their order; the account points to the last. -/
structure Tables.Chronicle {L : Schema} (P : Pointers L) (times : List Timestamp) (t : Tables L) (did : String)
    (rows : List ProfileRow) : Prop where
  profiles : t.profiles did = rows.map L.ofProfile
  distinct : (rows.map (·.commitCid)).Nodup
  pointer : t.pointer? P did = rows.getLast?.map (·.commitCid)
  times : (rows.map (·.indexedAt)).Sublist times

namespace Tables.Chronicle

variable {L : Schema} {P : Pointers L} {times : List Timestamp} {t t' : Tables L} {did : String}
  {rows : List ProfileRow}

theorem hasProfile_iff (chronicle : t.Chronicle P times did rows) {commit : String} :
    t.hasProfile did commit = true ↔ ∃ row ∈ rows, row.commitCid = commit := by
  unfold hasProfile
  rw [chronicle.profiles, List.any_map]
  simp only [Function.comp_def, L.commit_ofProfile, List.any_eq_true, beq_iff_eq]

/-- Time goes on, and the profiles stay. -/
theorem stay (chronicle : t.Chronicle P times did rows) (profiles : t'.profiles did = t.profiles did)
    (pointer : t'.pointer? P did = t.pointer? P did) (now : Timestamp) :
    t'.Chronicle P (times ++ [now]) did rows where
  profiles := profiles.trans chronicle.profiles
  distinct := chronicle.distinct
  pointer := pointer.trans chronicle.pointer
  times := chronicle.times.trans (List.sublist_append_left times [now])

/-- A profile of a stored account is added at the end, if its commit is new. -/
theorem addProfile (chronicle : t.Chronicle P times did rows) {row : ProfileRow} (own : row.actorDid = did)
    (stored : t.accounts did ≠ none) :
    ∃ added : Option ProfileRow, (added = some row ∨ added = none) ∧
      (t.addProfile row).Chronicle P (times ++ [row.indexedAt]) did (rows ++ added.toList) := by
  subst own
  unfold Tables.addProfile
  by_cases known : t.hasProfile row.actorDid row.commitCid = true
  · rw [if_pos known]
    refine ⟨none, .inr rfl, ?_⟩
    rw [Option.toList_none, List.append_nil]
    exact chronicle.stay rfl rfl row.indexedAt
  · rw [if_neg known]
    refine ⟨some row, .inl rfl, ?_, ?_, ?_, ?_⟩
    · show (if row.actorDid = row.actorDid then t.profiles row.actorDid ++ [L.ofProfile row] else _) = _
      rw [if_pos rfl, chronicle.profiles, Option.toList_some, List.map_append]
      rfl
    -- the check for the commit, which is made before, keeps the commits distinct
    · rw [Option.toList_some, List.map_append, List.map_singleton, List.nodup_append]
      refine ⟨chronicle.distinct, List.pairwise_singleton _ _, fun commit listed other new same => ?_⟩
      rw [List.mem_singleton.mp new] at same
      obtain ⟨old, among, rfl⟩ := List.mem_map.mp listed
      exact known (chronicle.hasProfile_iff.mpr ⟨old, among, same⟩)
    -- the pointer moves because the account is stored: a missing one would be passed over
    · obtain ⟨account, found⟩ := Option.ne_none_iff_exists'.mp stored
      show (if row.actorDid = row.actorDid then (t.accounts row.actorDid).map (L.pointTo row.commitCid)
        else _).bind P.pointer = _
      rw [if_pos rfl, found, Option.toList_some, List.getLast?_concat]
      exact P.pointer_pointTo _ _
    · rw [Option.toList_some, List.map_append]
      exact chronicle.times.append (List.Sublist.refl _)

/-- **One event** adds at most the profile that it writes. -/
theorem take {handler : Handler} {event : Event} {now : Timestamp} {index : Index (Tables L)}
    (faithful : index.Faithful) (chronicle : index.store.Chronicle P times did rows) :
    ∃ added : Option ProfileRow, (added = handler.profileOf? did (event, now) ∨ added = none) ∧
      (handler.take event now index).store.Chronicle P (times ++ [now]) did (rows ++ added.toList) := by
  have still (t' : Tables L) (profiles : t'.profiles did = index.store.profiles did)
      (pointer : t'.pointer? P did = index.store.pointer? P did) :
      t'.Chronicle P (times ++ [now]) did (rows ++ (none : Option ProfileRow).toList) := by
    rw [Option.toList_none, List.append_nil]
    exact chronicle.stay profiles pointer now
  rcases written : handler.profileOf? did (event, now) with _ | row
  · have same : (handler.take event now index).store.profiles did = index.store.profiles did ∧
        (handler.take event now index).store.pointer? P did = index.store.pointer? P did := same_take_of_none written
    exact ⟨none, .inr rfl, still _ same.1 same.2⟩
  · rw [take_of_written written]
    split
    · next entered =>
      -- the roster shows the account, so it is stored
      obtain ⟨actor, known⟩ : ∃ actor, index.roster.get? did = some actor := by
        obtain ⟨actor, known, -⟩ := Option.any_eq_true _ _ |>.mp entered.2
        exact ⟨actor, known⟩
      obtain ⟨added, only, next⟩ :=
        chronicle.addProfile (actorDid_of_profileOf? written) (faithful.stored known)
      rw [indexedAt_of_profileOf? written] at next
      exact ⟨added, only, next⟩
    · exact ⟨none, .inr rfl, still _ rfl rfl⟩

end Tables.Chronicle

/-! ## Stores that answer histories -/

/-- **HistoryStore** — a store that answers the history of an account from its tables, if the snapshots stand in the
order of the clock, and that leaves all as it is where a commit comes again. -/
class HistoryStore (σ : Type) [Store σ] extends ProfileStore σ where
  profileHistory_ordered {did : String} {store : σ} {rows : List ProfileRow}
    (profiles : (tables store).profiles did = rows.map schema.ofProfile)
    (ordered : (rows.map (·.indexedAt)).Pairwise (· ≤ ·)) (regular : ∀ row ∈ rows, row.indexedAt.Regular) :
    (Store.profileHistory did : Storing σ _).answer store = .ok rows
  latestProfile_empty {did : String} {store : σ} (empty : (tables store).profiles did = []) :
    (Store.latestProfile did : Storing σ _).answer store = .ok none
  getActor_pointer (did : String) {store : σ} (readable : (tables store).Readable) :
    ∃ actor, (Store.getActor did : Storing σ _).answer store = .ok actor ∧
      actor.bind (·.profileCid) = (tables store).pointer? pointers did
  putProfile_known {row : ProfileRow} {store : σ} (known : (tables store).hasProfile row.actorDid row.commitCid = true)
    (now : Timestamp) : (StoreOperation.putProfile row).after now store = store

open HistoryStore

instance : HistoryStore Memory where
  profileHistory_ordered {did m rows} profiles _ _ := by
    change m.history did = rows.map id at profiles
    rw [List.map_id] at profiles
    exact congrArg Except.ok profiles
  latestProfile_empty {did m} empty := by
    change m.history did = [] at empty
    show Except.ok ((m.pointed? did).or (m.history did).getLast?) = _
    unfold Memory.pointed?
    rw [empty]
    rcases (m.actors.get? did).bind (·.profileCid) with _ | commit <;> rfl
  getActor_pointer did m _ := ⟨m.actors.get? did, rfl, rfl⟩
  putProfile_known {row m} known _ := if_pos known

instance : HistoryStore Relational where
  profileHistory_ordered {did db rows} profiles ordered regular := by
    change db.profiles.filter (·.actorDid == did) = rows.map ProfileColumns.ofProfile at profiles
    have kept : db.historyRows did = rows.map ProfileColumns.ofProfile := by
      unfold Relational.historyRows
      rw [profiles]
      exact Relational.mergeSort_ofProfile ordered regular
    have read : (rows.map ProfileColumns.ofProfile).mapM ProfileColumns.profile? = some rows :=
      Json.mapM_map_eq_some_iff.mpr fun profile _ => ProfileColumns.profile?_ofProfile profile
    rw [Storing.answer, Relational.run_profileHistory, Relational.run_mapM_readable, kept, read]
    rfl
  latestProfile_empty {did db} empty := by
    change db.profiles.filter (·.actorDid == did) = [] at empty
    have pointed : db.pointedRow? did = none := by
      rw [Relational.pointedRow?_eq, empty]
      rcases (db.actors.get? did).bind (·.profileCid) with _ | commit <;> rfl
    show ((Relational.selectLatest did).run.run db).1 = _
    rw [Relational.run_selectLatest, pointed, Relational.historyRows, empty, List.mergeSort_nil]
    rfl
  getActor_pointer did db readable := by
    show ∃ actor, ((Relational.selectActor did).run.run db).1 = .ok actor ∧
      actor.bind (·.profileCid) = (db.actors.get? did).bind (·.profileCid)
    rw [Relational.run_selectActor]
    rcases stored : db.actors.get? did with _ | row
    · exact ⟨none, rfl, rfl⟩
    · obtain ⟨actor, read⟩ := Option.isSome_iff_exists.mp (readable did row stored)
      change row.actor? = some actor at read
      refine ⟨some actor, ?_, ?_⟩
      · dsimp only
        rw [read]
        rfl
      · unfold ActorColumns.actor? at read
        obtain ⟨roles, -, rfl⟩ := Option.map_eq_some_iff.mp read
        rfl
  putProfile_known {row db} known _ := by
    refine if_pos ?_
    change (db.profiles.filter (·.actorDid == row.actorDid)).any (·.commitCid == row.commitCid) = true at known
    rw [List.any_filter] at known
    exact known

/-! ## What is done meanwhile -/

/-- The request reads and writes nothing. -/
def StoreOperation.isReading : StoreOperation → Bool
  | .getCursor | .listActors _ | .getActor _ | .getPost _ | .getLike _ | .getFollow _ | .latestProfile _
  | .profileHistory _ => true
  | _ => false

namespace Act

/-- The act handles an event, refreshes the roster, or reads: nobody else writes. -/
def isUndisturbing : Act → Bool
  | .request asked _ => asked.isReading
  | _ => true

/-- The time of the clock at which the act handles an event. -/
def time? : Act → Option Timestamp
  | handle _ now => some now
  | _ => none

theorem filterMap_time?_concat (acts : List Act) (last : Act) :
    (acts ++ [last]).filterMap time? = acts.filterMap time? ++ last.time?.toList := by
  rw [List.filterMap_append]
  rcases time : last.time? with _ | now <;> simp [time]

/-- The profile that the act writes of the account, if it is kept. -/
def profile? (handler : Handler) (did : String) : Act → Option ProfileRow
  | handle event now => handler.profileOf? did (event, now)
  | _ => none

end Act

section

variable {σ : Type} [Store σ]

theorem Index.acts_concat (handler : Handler) (acts : List Act) (last : Act) (index : Index σ) :
    index.acts handler (acts ++ [last]) = (index.acts handler acts).act handler last := by
  unfold Index.acts
  rw [List.foldl_append]
  rfl

/-- **Tells** — what a store answers about the profiles of an account: the history, in which no commit comes twice, the
last snapshot as the latest profile, and an account that points to it, or to none if there is none. -/
structure Tells (store : σ) (did : String) (rows : List ProfileRow) : Prop where
  history : (Store.profileHistory did : Storing σ _).answer store = .ok rows
  distinct : (rows.map (·.commitCid)).Nodup
  latest : (Store.latestProfile did : Storing σ _).answer store = .ok rows.getLast?
  pointer : ∃ actor, (Store.getActor did : Storing σ _).answer store = .ok actor ∧
    actor.bind (·.profileCid) = rows.getLast?.map (·.commitCid)

end

section

variable {σ : Type} [Store σ] [HistoryStore σ] {handler : Handler} {did : String} {times : List Timestamp}
  {rows : List ProfileRow}

/-- A reading leaves the tables as they are. -/
theorem tables_after_reading {request : StoreOperation} (reads : request.isReading = true) (now : Timestamp)
    (store : σ) : tables (request.after now store) = tables store := by
  rw [tables_after]
  cases request <;> first | rfl | cases reads

/-- A store tells the profiles of its tables. -/
theorem Tables.Chronicle.tells {store : σ} (readable : (tables store).Readable)
    (chronicle : (tables store).Chronicle pointers times did rows) (clock : times.Pairwise (· ≤ ·))
    (regular : ∀ time ∈ times, time.Regular) : Tells store did rows where
  history := by
    refine profileHistory_ordered chronicle.profiles (clock.sublist chronicle.times) fun row listed => ?_
    exact regular row.indexedAt (chronicle.times.subset (List.mem_map_of_mem listed))
  distinct := chronicle.distinct
  latest := by
    rcases last : rows.getLast? with _ | row
    · obtain rfl := List.getLast?_eq_none_iff.mp last
      exact latestProfile_empty chronicle.profiles
    · have listed : row ∈ rows := List.mem_of_getLast? last
      have found : ((tables store).profiles did).find? ((schema σ).commit · == row.commitCid) =
          some ((schema σ).ofProfile row) := by
        rw [chronicle.profiles, List.find?_map]
        simp only [Function.comp_def, (schema σ).commit_ofProfile]
        rw [ProfileRow.find?_of_nodup chronicle.distinct listed]
        rfl
      refine latestProfile_pointed ?_ found (pointers.profile?_ofProfile row)
      rw [chronicle.pointer, last]
      rfl
  pointer := by
    obtain ⟨actor, answer, pointer⟩ := getActor_pointer did readable
    exact ⟨actor, answer, pointer.trans chronicle.pointer⟩

variable {index : Index σ}

/-- A profile whose commit is known already changes nothing. -/
theorem run_of_known (chronicle : (tables index.store).Chronicle pointers times did rows) {event : Event}
    (own : event.did = did) (kind : Collection.ofName event.collection = .profile)
    (known : ∃ row ∈ rows, event.cid = some row.commitCid) (now : Timestamp) :
    (handler.run event now index).2 = index := by
  by_cases valid : Did.isValid event.did = true
  · have plan := run_plan handler event now index valid kind rfl nofun
    by_cases action : event.action = .delete
    · rw [action] at plan
      rw [run_eq_plan, plan]
      rfl
    · have entering : (handler.plan event now).run.run index =
          (entering (keepsProfile (index.roster.get? event.did)) (handler.profileRow event now)
            Store.putProfile).run.run index := by
        rw [plan]
        rcases acts : event.action
        case delete => exact absurd acts action
        all_goals rfl
      rcases keeps : keepsProfile (index.roster.get? event.did)
      · rw [run_eq_plan, entering, keeps]
        rfl
      rcases decided : handler.profileRow event now with failure | row
      · rw [run_eq_plan, entering, keeps, decided]
        rfl
      · rw [keeps] at entering
        rw [run_of_entering handler event now index (.putProfile row) entering decided rfl]
        -- whatever the payload is, the row has the commit of the event
        have held : (tables index.store).hasProfile row.actorDid row.commitCid = true := by
          obtain ⟨old, listed, again⟩ := known
          rw [actorDid_of_profileRow decided, own, chronicle.hasProfile_iff]
          exact ⟨old, listed, Option.some.inj (again.symm.trans (cid_of_profileRow decided))⟩
        dsimp only
        rw [putProfile_known held]
  · rw [run_of_invalid now (Bool.eq_false_iff.mpr valid)]

variable [ReadsBack σ]

theorem Index.Mirrors.faithful (mirrors : index.Mirrors) : index.tabled.Faithful :=
  ⟨mirrors.agrees, mirrors.readable, named_of_sound mirrors.sound⟩

/-- **One act** adds at most the profile that it writes. -/
theorem Index.Mirrors.act (mirrors : index.Mirrors) (handler : Handler)
    (chronicle : (tables index.store).Chronicle pointers times did rows) {act : Act}
    (undisturbed : act.isUndisturbing = true) :
    (index.act handler act).Mirrors ∧
      ∃ added : Option ProfileRow, (added = act.profile? handler did ∨ added = none) ∧
        (tables (index.act handler act).store).Chronicle pointers (times ++ act.time?.toList) did
          (rows ++ added.toList) := by
  have still (t : Tables (schema σ)) (same : t = tables index.store) :
      t.Chronicle pointers (times ++ (none : Option Timestamp).toList) did
        (rows ++ (none : Option ProfileRow).toList) := by
    rw [Option.toList_none, Option.toList_none, List.append_nil, List.append_nil, same]
    exact chronicle
  cases act with
  | handle event now =>
    obtain ⟨added, only, next⟩ : ∃ added : Option ProfileRow, (added = handler.profileOf? did (event, now) ∨
        added = none) ∧ (handler.take event now index.tabled).store.Chronicle pointers (times ++ [now]) did
          (rows ++ added.toList) := chronicle.take mirrors.faithful
    rw [← tabled_run] at next
    exact ⟨mirrors.run handler event now, added, only, next⟩
  | request request now =>
    have same : tables (request.after now index.store) = tables index.store :=
      tables_after_reading undisturbed now index.store
    have readable : (tables (request.after now index.store)).Readable := by
      rw [same]
      exact mirrors.readable
    exact ⟨mirrors.withStore (congrArg Tables.status same) readable (sound_after now request mirrors.sound), none,
      .inr rfl, still _ same⟩
  | sync => exact ⟨mirrors.sync, none, .inr rfl, still _ (tables_sync index)⟩

/-- A run of acts from tables without profiles keeps a chronicle of each account. -/
theorem Index.Mirrors.acts (mirrors : index.Mirrors) (handler : Handler)
    (chronicle : (tables index.store).Chronicle pointers [] did []) {acts : List Act}
    (undisturbed : ∀ act ∈ acts, act.isUndisturbing = true) :
    (index.acts handler acts).Mirrors ∧
      ∃ rows, (tables (index.acts handler acts).store).Chronicle pointers (acts.filterMap Act.time?) did rows := by
  -- on the last act: the chronicle is of the moment before it
  induction acts using List.reverseRecOn with
  | nil => exact ⟨mirrors, [], chronicle⟩
  | append_singleton acts last ih =>
    obtain ⟨mirrors', rows, chronicle'⟩ := ih fun act listed => undisturbed act (List.mem_append_left _ listed)
    obtain ⟨mirrors'', added, -, next⟩ := mirrors'.act handler chronicle'
      (undisturbed last (List.mem_append_right _ (List.mem_singleton_self last)))
    rw [Index.acts_concat, Act.filterMap_time?_concat]
    exact ⟨mirrors'', rows ++ added.toList, next⟩

/-- **Histories only grow at their end.** A roster is taken from a store without profiles, in which no account points
to one. Then events are handled at times of a clock that does not go back, between them the store is read and the
roster is refreshed, and nobody else writes. At every moment the store tells the history of each account: no commit
comes twice in it, the latest profile is its last snapshot, and the account points to that, or to none if there is
none. The next act leaves the history or adds one snapshot at its end, the one that the act writes. A profile whose
commit is in the history changes nothing at all. -/
theorem history_grows_at_end {start synced : Index σ} {size : Nat} (sound : Sound start.store)
    (loaded : Index.sync.run.run start = (.ok size, synced))
    (bare : ∀ did, (tables start.store).profiles did = [] ∧ (tables start.store).pointer? pointers did = none)
    {acts : List Act} {last : Act} (undisturbed : ∀ act ∈ acts ++ [last], act.isUndisturbing = true)
    (clock : ((acts ++ [last]).filterMap Act.time?).Pairwise (· ≤ ·))
    (regular : ∀ time ∈ (acts ++ [last]).filterMap Act.time?, time.Regular) (did : String) :
    ∃ (rows : List ProfileRow) (added : Option ProfileRow),
      Tells (synced.acts handler acts).store did rows ∧
      Tells (synced.acts handler (acts ++ [last])).store did (rows ++ added.toList) ∧
      (added = last.profile? handler did ∨ added = none) ∧
      ∀ (event : Event) (now : Timestamp), event.did = did → Collection.ofName event.collection = .profile →
        (∃ row ∈ rows, event.cid = some row.commitCid) →
          (handler.run event now (synced.acts handler acts)).2 = synced.acts handler acts := by
  have mirrors : synced.Mirrors := Index.mirrors_of_sync sound loaded
  have same : tables synced.store = tables start.store := by
    have tables := Index.tables_sync start
    rw [loaded] at tables
    exact tables
  have first : (tables synced.store).Chronicle pointers [] did [] := by
    rw [same]
    exact ⟨(bare did).1, .nil, (bare did).2, .slnil⟩
  obtain ⟨mirrors', rows, chronicle⟩ := mirrors.acts handler first fun act listed =>
    undisturbed act (List.mem_append_left _ listed)
  obtain ⟨mirrors'', added, only, next⟩ := mirrors'.act handler chronicle
    (undisturbed last (List.mem_append_right _ (List.mem_singleton_self last)))
  have times := Act.filterMap_time?_concat acts last
  rw [← times] at next
  rw [← Index.acts_concat] at mirrors'' next
  refine ⟨rows, added, chronicle.tells mirrors'.readable ?_ ?_, next.tells mirrors''.readable clock regular, only, ?_⟩
  · rw [times] at clock
    exact (List.pairwise_append.mp clock).1
  · intro time listed
    rw [times] at regular
    exact regular time (List.mem_append_left _ listed)
  · exact fun event now own kind known => run_of_known chronicle own kind known now

end

/-! ### Two snapshots -/

namespace TwoSnapshots

open SecondPass (did)
open ReturningProfile (first second)

/-- A store in tables with an approved account, and an empty roster. -/
def start : Index Relational :=
  ⟨(StoreOperation.createActor (.fresh did .approved "" ⟨0, 0⟩)).after ⟨0, 0⟩ {}, {}⟩

/-- The roster has been taken from the store. -/
def synced : Index Relational := (Index.sync.run.run start).2

/-- The account writes its first profile, and its history is read. -/
def acts : List Act := [.handle first ⟨1, 0⟩, .request (.profileHistory did) ⟨2, 0⟩]

/-- The account writes its second profile. -/
def last : Act := .handle second ⟨3, 0⟩

/-- The commits of the history, and the name in the latest profile. -/
def shown (index : Index Relational) : List String × Option (Option String) :=
  (((tables index.store).profiles did).map (·.commitCid),
    ((Store.latestProfile did : Storing Relational _).answer index.store).toOption.join.map (·.displayName))

theorem bare_start (other : String) :
    (tables start.store).profiles other = [] ∧ (tables start.store).pointer? pointers other = none := by
  refine ⟨rfl, ?_⟩
  have stored : start.store.actors = [(did, .ofActor (.fresh did .approved "" ⟨0, 0⟩))] := rfl
  show (start.store.actors.get? other).bind (·.profileCid) = none
  rw [stored, Keyed.get?, Keyed.get?]
  split <;> rfl

set_option maxRecDepth 100000 in
/-- The second snapshot comes at the end of the history, after the first. -/
theorem second_at_end :
    (∃ (rows : List ProfileRow) (added : Option ProfileRow),
      Tells (synced.acts {} acts).store did rows ∧
      Tells (synced.acts {} (acts ++ [last])).store did (rows ++ added.toList) ∧
      (added = last.profile? {} did ∨ added = none) ∧
      ∀ (event : Event) (now : Timestamp), event.did = did → Collection.ofName event.collection = .profile →
        (∃ row ∈ rows, event.cid = some row.commitCid) →
          (Handler.run {} event now (synced.acts {} acts)).2 = synced.acts {} acts) ∧
      shown (synced.acts {} acts) = (["c1"], some (some "first")) ∧
      shown (synced.acts {} (acts ++ [last])) = (["c1", "c2"], some (some "second")) := by
  have sound : Sound start.store := Relational.sound_after _ _ Relational.sound_empty
  have loaded : Index.sync.run.run start = (.ok 1, synced) := Prod.ext (show _ = Except.ok 1 by decide +kernel) rfl
  have clock : ((acts ++ [last]).filterMap Act.time?).Pairwise (· ≤ ·) :=
    List.pairwise_pair.mpr (.inl (.inl (by decide)))
  have regular : ∀ time ∈ (acts ++ [last]).filterMap Act.time?, time.Regular := by
    show ∀ time ∈ [(⟨1, 0⟩ : Timestamp), ⟨3, 0⟩], time.Regular
    simp only [List.forall_mem_cons]
    exact ⟨⟨by decide, by decide, by decide⟩, ⟨by decide, by decide, by decide⟩, nofun⟩
  exact ⟨history_grows_at_end sound loaded bare_start (by decide) clock regular did, by decide +kernel,
    by decide +kernel⟩

end TwoSnapshots

end FeedIndex
