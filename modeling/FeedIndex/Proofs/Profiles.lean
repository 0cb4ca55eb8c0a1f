import FeedIndex.Proofs.Columns
import FeedIndex.Proofs.Prefixes
import FeedIndex.Proofs.Replay
import FeedIndex.Proofs.Tables.Relational
import Mathlib.Data.List.Induction
import Mathlib.Data.List.Infix

/-!
# Profiles of an account

A store keeps each profile once, under the commit that wrote it, and points the account to the profile that it added
last. A commit names the content of its record, so an account that returns to a profile it had before writes nothing:
the pointer stays at what came in between, and that is what the store takes for the latest profile.
-/

namespace FeedIndex

open ActorStatus (IsClosed)
open LedgerStore TableStore

/-! ## Commits that come first -/

namespace ProfileRow

/-- Adds a profile at the end, if its commit is new. -/
def keep (rows : List ProfileRow) (row : ProfileRow) : List ProfileRow :=
  if rows.any (·.commitCid == row.commitCid) then rows else rows ++ [row]

/-- **firsts** — of the profiles of one commit the first. -/
def firsts (rows : List ProfileRow) : List ProfileRow := rows.foldl keep []

/-- The commit wrote one of the profiles. -/
def Wrote (commit : String) (rows : List ProfileRow) : Prop := ∃ row ∈ rows, row.commitCid = commit

/-- **Settled** — once the commit has come, no commit comes that is new. -/
def Settled (commit : String) (rows : List ProfileRow) : Prop :=
  ∀ before next, before ++ [next] <+: rows → Wrote commit before → Wrote next.commitCid before

theorem firsts_concat (rows : List ProfileRow) (row : ProfileRow) :
    firsts (rows ++ [row]) = keep (firsts rows) row := by
  unfold firsts
  rw [List.foldl_append]
  rfl

theorem wrote_concat {commit : String} {rows : List ProfileRow} {row : ProfileRow} :
    Wrote commit (rows ++ [row]) ↔ Wrote commit rows ∨ row.commitCid = commit := by
  unfold Wrote
  simp only [List.mem_append, List.mem_singleton, or_and_right, exists_or, exists_eq_left]

theorem any_commit {commit : String} {rows : List ProfileRow} :
    rows.any (·.commitCid == commit) = true ↔ Wrote commit rows := by
  simp [Wrote]

theorem keep_of_wrote {rows : List ProfileRow} {row : ProfileRow} (wrote : Wrote row.commitCid rows) :
    keep rows row = rows := if_pos (any_commit.mpr wrote)

theorem keep_of_not_wrote {rows : List ProfileRow} {row : ProfileRow} (new : ¬ Wrote row.commitCid rows) :
    keep rows row = rows ++ [row] := if_neg fun known => new (any_commit.mp known)

/-- No commit is lost. -/
theorem wrote_firsts {commit : String} {rows : List ProfileRow} : Wrote commit (firsts rows) ↔ Wrote commit rows := by
  induction rows using List.reverseRecOn with
  | nil => rfl
  | append_singleton rows row ih =>
    rw [firsts_concat, wrote_concat, ← ih]
    by_cases known : Wrote row.commitCid (firsts rows)
    · rw [keep_of_wrote known]
      refine ⟨.inl, ?_⟩
      rintro (wrote | rfl)
      · exact wrote
      · exact known
    · rw [keep_of_not_wrote known, wrote_concat]

theorem mem_of_mem_firsts {rows : List ProfileRow} {row : ProfileRow} (listed : row ∈ firsts rows) : row ∈ rows := by
  induction rows using List.reverseRecOn with
  | nil => exact listed
  | append_singleton rows last ih =>
    rw [firsts_concat, keep] at listed
    split at listed
    · exact List.mem_append_left _ (ih listed)
    · rcases List.mem_append.mp listed with old | new
      · exact List.mem_append_left _ (ih old)
      · exact List.mem_append_right _ new

/-- **The last of the first ones** is of a commit exactly if nothing new has come since. -/
theorem getLast?_firsts {commit : String} {rows : List ProfileRow} (wrote : Wrote commit rows) :
    (firsts rows).getLast?.map (·.commitCid) = some commit ↔ Settled commit rows := by
  induction rows using List.reverseRecOn with
  | nil =>
    obtain ⟨row, listed, -⟩ := wrote
    cases listed
  | append_singleton rows row ih =>
    unfold Settled
    rw [Prefixes.forall_next_concat_iff, firsts_concat]
    by_cases known : Wrote row.commitCid rows
    · rw [keep_of_wrote (wrote_firsts.mpr known)]
      have wrote' : Wrote commit rows := (wrote_concat.mp wrote).elim id fun same => same ▸ known
      rw [ih wrote', Settled]
      simp [known]
    · rw [keep_of_not_wrote fun old => known (wrote_firsts.mp old), List.getLast?_concat, Option.map_some,
        Option.some.injEq]
      by_cases own : row.commitCid = commit
      · subst own
        refine iff_of_true rfl ⟨fun before next listed old => ?_, fun old => absurd old known⟩
        -- the commit is new, so it came in no part of the run
        refine absurd ?_ known
        obtain ⟨other, listed', same⟩ := old
        exact ⟨other, listed.subset (List.mem_append_left _ listed'), same⟩
      · have old := (wrote_concat.mp wrote).resolve_right own
        exact iff_of_false own fun settled => known (settled.2 old)

/-- A commit that comes makes its own no less settled. -/
theorem settled_concat {rows : List ProfileRow} {row : ProfileRow} :
    Settled row.commitCid (rows ++ [row]) ↔ Settled row.commitCid rows := by
  unfold Settled
  rw [Prefixes.forall_next_concat_iff]
  exact and_iff_left id

/-- Each commit is kept once. -/
theorem find?_firsts {rows : List ProfileRow} {row : ProfileRow} (listed : row ∈ firsts rows) :
    (firsts rows).find? (·.commitCid == row.commitCid) = some row := by
  induction rows using List.reverseRecOn with
  | nil => cases listed
  | append_singleton rows last ih =>
    rw [firsts_concat] at listed ⊢
    by_cases known : Wrote last.commitCid (firsts rows)
    · rw [keep_of_wrote known] at listed ⊢
      exact ih listed
    · rw [keep_of_not_wrote known] at listed ⊢
      rw [List.find?_append]
      rcases List.mem_append.mp listed with old | new
      · rw [ih old]
        rfl
      · obtain rfl := List.mem_singleton.mp new
        have absent : (firsts rows).find? (·.commitCid == row.commitCid) = none := by
          rw [List.find?_eq_none]
          exact fun other listed same => known ⟨other, listed, beq_iff_eq.mp same⟩
        rw [absent]
        simp

/-- A profile is found under its commit, if no commit comes twice. -/
theorem find?_of_nodup {rows : List ProfileRow} (distinct : (rows.map (·.commitCid)).Nodup) {row : ProfileRow}
    (listed : row ∈ rows) : rows.find? (·.commitCid == row.commitCid) = some row := by
  induction rows with
  | nil => cases listed
  | cons first rest ih =>
    obtain ⟨new, distinct'⟩ := List.nodup_cons.mp distinct
    rcases List.mem_cons.mp listed with rfl | later
    · exact List.find?_cons_of_pos (beq_self_eq_true _)
    · rw [List.find?_cons_of_neg, ih distinct' later]
      intro same
      exact new (List.mem_map.mpr ⟨row, later, (beq_iff_eq.mp same).symm⟩)

end ProfileRow

/-! ## What accounts point to -/

/-- **Pointers** — what the rows of a schema say of profiles: the profile that an account points to, and the profile
that a row is read back as. -/
structure Pointers (L : Schema) where
  pointer : L.Account → Option String
  profile? : L.Profile → Option ProfileRow
  pointer_ofActor (actor : Actor) : pointer (L.ofActor actor) = actor.profileCid
  pointer_setStatus (next : ActorStatus) (row : L.Account) : pointer (L.setStatus next row) = pointer row
  pointer_pointTo (commit : String) (row : L.Account) : pointer (L.pointTo commit row) = some commit
  profile?_ofProfile (row : ProfileRow) : profile? (L.ofProfile row) = some row

section

variable {L : Schema} {P : Pointers L} {t : Tables L} {did : String}

/-- The profile that an account points to. -/
def Tables.pointer? (P : Pointers L) (t : Tables L) (did : String) : Option String := (t.accounts did).bind P.pointer

theorem Tables.pointer?_file (t : Tables L) (own : String) (now : Timestamp) (change : AccountChange) :
    (t.file own now change).pointer? P did = t.pointer? P did := by
  unfold pointer?
  cases change with
  | add =>
    show (if did = own then (t.accounts did).or (some (L.ofActor (.fresh own .pending Index.addedRemark now)))
      else t.accounts did).bind P.pointer = _
    split
    · rcases t.accounts did with _ | row
      · exact P.pointer_ofActor _
      · rfl
    · rfl
  | set next =>
    show (if did = own then (t.accounts did).map (L.setStatus next) else t.accounts did).bind P.pointer = _
    split
    · rcases t.accounts did with _ | row
      · rfl
      · exact P.pointer_setStatus next row
    · rfl

/-- **Shows** — the tables hold these profiles of the account, each commit once, and the account points to the last
one that was added. -/
structure Tables.Shows (P : Pointers L) (t : Tables L) (did : String) (rows : List ProfileRow) : Prop where
  profiles : t.profiles did = (ProfileRow.firsts rows).map L.ofProfile
  pointer : rows ≠ [] → t.pointer? P did = (ProfileRow.firsts rows).getLast?.map (·.commitCid)

theorem Tables.Shows.congr {t' : Tables L} {rows : List ProfileRow} (shows : t.Shows P did rows)
    (profiles : t'.profiles did = t.profiles did) (pointer : t'.pointer? P did = t.pointer? P did) :
    t'.Shows P did rows :=
  ⟨profiles.trans shows.profiles, fun wrote => pointer.trans (shows.pointer wrote)⟩

/-- A profile of another account is none of this one. -/
theorem Tables.addProfile_of_ne {row : ProfileRow} (other : did ≠ row.actorDid) (t : Tables L) :
    (t.addProfile row).profiles did = t.profiles did ∧ (t.addProfile row).pointer? P did = t.pointer? P did := by
  unfold addProfile pointer?
  split
  · exact ⟨rfl, rfl⟩
  · exact ⟨if_neg other, congrArg (Option.bind · P.pointer) (if_neg other)⟩

/-- A profile of a stored account is added if its commit is new, and is pointed to then. -/
theorem Tables.Shows.addProfile {rows : List ProfileRow} (shows : t.Shows P did rows) {row : ProfileRow}
    (own : row.actorDid = did) (stored : t.accounts did ≠ none) :
    (t.addProfile row).Shows P did (rows ++ [row]) := by
  subst own
  have has : t.hasProfile row.actorDid row.commitCid = true ↔
      ProfileRow.Wrote row.commitCid (ProfileRow.firsts rows) := by
    unfold hasProfile
    rw [shows.profiles, ← ProfileRow.any_commit, List.any_map]
    simp only [Function.comp_def, L.commit_ofProfile]
  unfold Tables.addProfile
  by_cases known : ProfileRow.Wrote row.commitCid (ProfileRow.firsts rows)
  · rw [if_pos (has.mpr known)]
    have kept := ProfileRow.firsts_concat rows row
    rw [ProfileRow.keep_of_wrote known] at kept
    have wrote : rows ≠ [] := by
      rintro rfl
      obtain ⟨old, listed, -⟩ := known
      cases listed
    exact ⟨by rw [kept]; exact shows.profiles, fun _ => by rw [kept]; exact shows.pointer wrote⟩
  · rw [if_neg fun old => known (has.mp old)]
    have kept := ProfileRow.firsts_concat rows row
    rw [ProfileRow.keep_of_not_wrote known] at kept
    refine ⟨?_, fun _ => ?_⟩
    · show (if row.actorDid = row.actorDid then t.profiles row.actorDid ++ [L.ofProfile row] else _) = _
      rw [if_pos rfl, kept, shows.profiles, List.map_append]
      rfl
    · obtain ⟨account, found⟩ := Option.ne_none_iff_exists'.mp stored
      show (if row.actorDid = row.actorDid then (t.accounts row.actorDid).map (L.pointTo row.commitCid)
        else _).bind P.pointer = _
      rw [if_pos rfl, found, kept, List.getLast?_concat]
      exact P.pointer_pointTo _ _

/-! ## Events that write profiles -/

namespace Handler

variable (handler : Handler) (event : Event) (now : Timestamp)

/-- **profileOf?** — the profile that an event writes of the account, if it is kept. -/
def profileOf? (did : String) (event : Event × Timestamp) : Option ProfileRow :=
  if event.1.did = did ∧ Collection.ofName event.1.collection = .profile ∧ event.1.action ≠ .delete then
    (handler.profileRow event.1 event.2).toOption
  else none

/-- The profiles that events write of the account. -/
def profilesOf (did : String) (events : List (Event × Timestamp)) : List ProfileRow :=
  events.filterMap (handler.profileOf? did)

variable {handler event now} {index : Index (Tables L)}

theorem actorDid_of_profileOf? {row : ProfileRow} (written : handler.profileOf? did (event, now) = some row) :
    row.actorDid = did := by
  unfold profileOf? at written
  split at written
  · next own =>
    rw [actorDid_of_profileRow (ok_of_toOption written)]
    exact own.1
  · cases written

/-- An event that writes no profile of the account leaves its profiles and its pointer. -/
theorem same_take_of_none (silent : handler.profileOf? did (event, now) = none) :
    (handler.take event now index).store.profiles did = index.store.profiles did ∧
      (handler.take event now index).store.pointer? P did = index.store.pointer? P did := by
  refine Index.doAll_induction (P := fun mid => mid.store.profiles did = index.store.profiles did ∧
    mid.store.pointer? P did = index.store.pointer? P did) ⟨rfl, rfl⟩ ?_ ?_
  · rintro request hmem mid ⟨profiles, pointer⟩
    have does := does_of_mem_deeds hmem
    rcases does.accounts_apply mid.store with ⟨accounts, same⟩ | ⟨row, rfl, own⟩
    · refine ⟨(congrFun same did).trans profiles, Eq.trans ?_ pointer⟩
      unfold Tables.pointer?
      exact congrArg (Option.bind · P.pointer) (congrFun accounts did)
    · by_cases ours : did = row.actorDid
      · -- the event would have written it
        exfalso
        cases does with
        | entry _ entry =>
          cases entry with
          | profile kind action _ decided =>
            unfold profileOf? at silent
            rw [if_pos ⟨(ours.trans own).symm, kind, action⟩, decided] at silent
            cases silent
      · obtain ⟨profiles', pointer'⟩ := Tables.addProfile_of_ne (P := P) ours mid.store
        exact ⟨profiles'.trans profiles, pointer'.trans pointer⟩
  · rintro change _ mid ⟨profiles, pointer⟩
    rw [Index.store_file]
    refine ⟨Eq.trans ?_ profiles, (Tables.pointer?_file mid.store event.did now change).trans pointer⟩
    cases change <;> rfl

theorem shows_take_of_none {rows : List ProfileRow} (shows : index.store.Shows P did rows)
    (silent : handler.profileOf? did (event, now) = none) :
    (handler.take event now index).store.Shows P did rows := by
  obtain ⟨profiles, pointer⟩ := same_take_of_none (P := P) silent
  exact shows.congr profiles pointer

/-- A profile is entered if its account is kept, and else comes to nothing. -/
theorem take_of_written {row : ProfileRow} (written : handler.profileOf? did (event, now) = some row) :
    handler.take event now index =
      if Did.isValid did = true ∧ keepsProfile (index.roster.get? did) = true then index.enter now (.putProfile row)
      else index := by
  unfold profileOf? at written
  split at written
  · next own =>
    obtain ⟨rfl, kind, action⟩ := own
    have decided := ok_of_toOption written
    unfold take deeds entered?
    by_cases valid : Did.isValid event.did = true
    · rw [if_pos valid]
      simp only [valid, true_and]
      rcases acts : event.action
      case delete => exact absurd acts action
      all_goals
        rw [kind]
        dsimp only
        rw [decided]
        split <;> rfl
    · rw [if_neg valid, if_neg fun both => valid both.1]
      rfl
  · cases written

/-- A profile of an account that is kept is entered. -/
theorem take_of_profileOf? {row : ProfileRow} (valid : Did.isValid did = true)
    (keeps : keepsProfile (index.roster.get? did) = true) (written : handler.profileOf? did (event, now) = some row) :
    handler.take event now index = index.enter now (.putProfile row) := by
  rw [take_of_written written, if_pos ⟨valid, keeps⟩]

/-- What a profile event writes that went well. -/
theorem profileOf?_of_ok {σ : Type} [Store σ] {index : Index σ} (own : event.did = did)
    (kind : Collection.ofName event.collection = .profile) (writes : event.action ≠ .delete)
    (keeps : keepsProfile (index.roster.get? did) = true) (ok : (handler.run event now index).1 = .ok ()) :
    Did.isValid did = true ∧ ∃ row, handler.profileRow event now = .ok row ∧
      handler.profileOf? did (event, now) = some row := by
  subst own
  have indexed : Collection.ofName event.collection ≠ .other := by
    rw [kind]
    exact nofun
  have valid : Did.isValid event.did = true := by
    by_contra invalid
    rw [run_eq_plan, run_plan_of_invalid handler event now index indexed (Bool.eq_false_iff.mpr invalid)] at ok
    cases ok
  refine ⟨valid, ?_⟩
  have plan : (handler.plan event now).run.run index =
      (entering (keepsProfile (index.roster.get? event.did)) (handler.profileRow event now)
        Store.putProfile).run.run index := by
    have plan := run_plan handler event now index valid kind rfl nofun
    rw [plan]
    rcases acts : event.action
    case delete => exact absurd acts writes
    all_goals rfl
  rcases decided : handler.profileRow event now with failure | row
  · rw [run_eq_plan, plan, entering, if_pos keeps, Indexing.run_bind, run_deciding, decided] at ok
    cases ok
  · refine ⟨row, rfl, ?_⟩
    rw [profileOf?, if_pos ⟨rfl, kind, writes⟩, decided]
    rfl

end Handler

/-! ## Runs -/

/-- **Keeping** — the account is pending or approved, in the tables and in the roster. -/
def Index.Keeping (index : Index (Tables L)) (did : String) : Prop :=
  ¬ IsClosed (index.store.status did) ∧ ¬ IsClosed ((index.roster.get? did).map (·.status))

instance (index : Index (Tables L)) (did : String) : Decidable (index.Keeping did) :=
  inferInstanceAs (Decidable (¬ (_ ∧ _) ∧ ¬ (_ ∧ _)))

theorem ActorStatus.not_isClosed_iff {status : Option ActorStatus} :
    ¬ IsClosed status ↔ status = some .pending ∨ status = some .approved := by
  unfold IsClosed
  rcases status with _ | status
  · simp
  · cases status <;> simp

theorem Index.Keeping.stored {index : Index (Tables L)} (keeping : index.Keeping did) :
    index.store.accounts did ≠ none := by
  intro absent
  refine keeping.1 ?_
  rw [Tables.status, absent]
  exact ⟨by rintro ⟨⟩, by rintro ⟨⟩⟩

theorem Index.Keeping.keepsProfile {index : Index (Tables L)} (keeping : index.Keeping did) :
    Handler.keepsProfile (index.roster.get? did) = true := by
  have shown := keeping.2
  rw [ActorStatus.not_isClosed_iff] at shown
  rcases known : index.roster.get? did with _ | actor
  · rw [known] at shown
    rcases shown with h | h <;> cases h
  · rw [known, Option.map_some, Option.some.injEq, Option.some.injEq] at shown
    rcases shown with h | h <;> simp [Handler.keepsProfile, h]

namespace Handler

/-- **One event** of an account that is kept. -/
theorem shows_take (handler : Handler) (event : Event × Timestamp) {index : Index (Tables L)}
    {rows : List ProfileRow} (valid : Did.isValid did = true) (keeping : index.Keeping did)
    (shows : index.store.Shows P did rows) :
    (handler.take event.1 event.2 index).store.Shows P did (rows ++ (handler.profileOf? did event).toList) := by
  rcases written : handler.profileOf? did event with _ | row
  · rw [Option.toList_none, List.append_nil]
    exact shows_take_of_none shows written
  · rw [take_of_profileOf? valid keeping.keepsProfile written]
    exact shows.addProfile (actorDid_of_profileOf? written) keeping.stored

/-- **A run of events** of an account that is kept throughout. -/
theorem shows_takeAll (handler : Handler) {events : List (Event × Timestamp)} {index : Index (Tables L)}
    {rows : List ProfileRow} (valid : Did.isValid did = true)
    (keeping : ∀ before, before <+: events → (handler.takeAll before index).Keeping did)
    (shows : index.store.Shows P did rows) :
    (handler.takeAll events index).store.Shows P did (rows ++ handler.profilesOf did events) := by
  induction events generalizing index rows with
  | nil =>
    rw [profilesOf, List.filterMap_nil, List.append_nil]
    exact shows
  | cons event rest ih =>
    obtain ⟨start, others⟩ := Prefixes.forall_prefix_cons_iff.mp keeping
    have next := ih others (shows_take handler event valid start shows)
    rw [List.append_assoc] at next
    have listed : (handler.profileOf? did event).toList ++ handler.profilesOf did rest =
        handler.profilesOf did (event :: rest) := by
      unfold profilesOf
      rw [List.filterMap_cons]
      rcases handler.profileOf? did event with _ | row <;> rfl
    rw [listed] at next
    exact next

theorem cid_of_profileRow {handler : Handler} {event : Event} {now : Timestamp} {row : ProfileRow}
    (written : handler.profileRow event now = .ok row) : event.cid = some row.commitCid := by
  obtain ⟨commit, profile, createdAt, carried, -, -, rfl⟩ := parts_of_profileRow written
  exact carried

/-- What a profile event writes is decided by its account, its commit and its record, and by the clock. -/
theorem profileRow_eq_retime {handler : Handler} {event other : Event} {now : Timestamp} {row : ProfileRow}
    (earlier : Timestamp) (did : other.did = event.did) (cid : other.cid = event.cid)
    (record : (handler.openRecord other : Except HandleFailure Profile) = handler.openRecord event)
    (written : handler.profileRow event now = .ok row) :
    handler.profileRow other earlier = .ok { row with indexedAt := earlier } := by
  have same : handler.profileRow other earlier = handler.profileRow event earlier := by
    unfold profileRow
    rw [did, cid, record]
  rw [same, ← retime_profileRow (fun _ => earlier) handler event now, written]
  rfl

/-- A profile that an account had under the commit of another one differs from it only in the time of its index. -/
theorem eq_retime_of_commit {handler : Handler} {events : List (Event × Timestamp)} {event : Event} {now : Timestamp}
    {row latest : ProfileRow} (own : event.did = did)
    (content : ∀ other ∈ events, other.1.did = did → Collection.ofName other.1.collection = .profile →
      other.1.cid = event.cid → (handler.openRecord other.1 : Except HandleFailure Profile) = handler.openRecord event)
    (decided : handler.profileRow event now = .ok row) (listed : latest ∈ handler.profilesOf did events)
    (same : latest.commitCid = row.commitCid) : latest = { row with indexedAt := latest.indexedAt } := by
  obtain ⟨other, among, written⟩ := List.mem_filterMap.mp listed
  unfold profileOf? at written
  split at written
  · next ours =>
    obtain ⟨own', kind, -⟩ := ours
    have decided' := ok_of_toOption written
    have cid : other.1.cid = event.cid := by
      rw [cid_of_profileRow decided', cid_of_profileRow decided, same]
    have again := profileRow_eq_retime other.2 (own'.trans own.symm) cid (content other among own' kind cid) decided
    rw [Except.ok.inj (decided'.symm.trans again)]
  · cases written

end Handler

end

open Handler

/-! ## The latest profile -/

/-- **ProfileStore** — a store of tables that answers the profile an account points to. -/
class ProfileStore (σ : Type) [Store σ] extends TableStore σ where
  pointers : Pointers schema
  latestProfile_pointed {did commit : String} {store : σ} {row : schema.Profile} {profile : ProfileRow}
    (points : (tables store).pointer? pointers did = some commit)
    (found : ((tables store).profiles did).find? (schema.commit · == commit) = some row)
    (read : pointers.profile? row = some profile) :
    (Store.latestProfile did : Storing σ _).answer store = .ok (some profile)

open ProfileStore

instance : ProfileStore Memory where
  pointers :=
    { pointer := (·.profileCid)
      profile? := some
      pointer_ofActor := fun _ => rfl
      pointer_setStatus := fun _ _ => rfl
      pointer_pointTo := fun _ _ => rfl
      profile?_ofProfile := fun _ => rfl }
  latestProfile_pointed := by
    rintro did commit m row profile points found read
    obtain rfl := Option.some.inj read
    have pointed : m.pointed? did = some row := by
      unfold Memory.pointed?
      rw [show (m.actors.get? did).bind (·.profileCid) = some commit from points]
      exact found
    show Except.ok ((m.pointed? did).or (m.history did).getLast?) = _
    rw [pointed]
    rfl

instance : ProfileStore Relational where
  pointers :=
    { pointer := (·.profileCid)
      profile? := ProfileColumns.profile?
      pointer_ofActor := fun _ => rfl
      pointer_setStatus := fun _ _ => rfl
      pointer_pointTo := fun _ _ => rfl
      profile?_ofProfile := ProfileColumns.profile?_ofProfile }
  latestProfile_pointed := by
    rintro did commit db row profile points found read
    have pointed : db.pointedRow? did = some row := by
      rw [Relational.pointedRow?_eq, show (db.actors.get? did).bind (·.profileCid) = some commit from points]
      exact found
    change row.profile? = some profile at read
    show ((Relational.selectLatest did).run.run db).1 = _
    rw [Relational.run_selectLatest, pointed, Option.some_or]
    dsimp only
    rw [read]
    rfl

section

variable {σ : Type} [Store σ] [ProfileStore σ]

/-- A store that shows profiles answers the last of those that are kept, and points to it. -/
theorem latestProfile_of_shows {store : σ} {did : String} {rows : List ProfileRow} {latest : ProfileRow}
    (shows : (tables store).Shows pointers did rows) (final : (ProfileRow.firsts rows).getLast? = some latest) :
    (Store.latestProfile did : Storing σ _).answer store = .ok (some latest) ∧
      (tables store).pointer? pointers did = some latest.commitCid := by
  have listed := List.mem_of_getLast? final
  have pointer : (tables store).pointer? pointers did = some latest.commitCid := by
    rw [shows.pointer fun none => List.not_mem_nil (none ▸ ProfileRow.mem_of_mem_firsts listed), final]
    rfl
  have found : ((tables store).profiles did).find? ((schema σ).commit · == latest.commitCid) =
      some ((schema σ).ofProfile latest) := by
    rw [show (tables store).profiles did = _ from shows.profiles, List.find?_map]
    simp only [Function.comp_def, (schema σ).commit_ofProfile]
    rw [ProfileRow.find?_firsts listed]
    rfl
  exact ⟨latestProfile_pointed pointer found (pointers.profile?_ofProfile latest), pointer⟩

/-- **When the latest profile is the one written last.** Events are handled, throughout which an account that had no
profiles is pending or approved. After a profile of it that went well, the store answers a snapshot that the account
points to. It is the one that was written exactly if no profile with a new commit had come since its commit came
first. -/
theorem latest_profile_iff (handler : Handler) {index : Index σ} {did : String}
    (new : (tables index.store).profiles did = []) {events : List (Event × Timestamp)}
    (keeping : ∀ before, before <+: events → (handler.runEach before index).tabled.Keeping did) {event : Event}
    {now : Timestamp} (own : event.did = did) (kind : Collection.ofName event.collection = .profile)
    (writes : event.action ≠ .delete)
    (content : ∀ other ∈ events, other.1.did = did → Collection.ofName other.1.collection = .profile →
      other.1.cid = event.cid → (handler.openRecord other.1 : Except HandleFailure Profile) = handler.openRecord event)
    (ok : (handler.run event now (handler.runEach events index)).1 = .ok ()) {after : Index σ}
    (handled : after = (handler.run event now (handler.runEach events index)).2) :
    ∃ row latest, handler.profileRow event now = .ok row ∧
      (Store.latestProfile did : Storing σ _).answer after.store = .ok (some latest) ∧
      (tables after.store).pointer? pointers did = some latest.commitCid ∧
      (latest = { row with indexedAt := latest.indexedAt } ↔
        ProfileRow.Settled row.commitCid (handler.profilesOf did events)) := by
  have last : (handler.runEach events index).tabled.Keeping did := keeping events (List.prefix_refl _)
  have keeps : keepsProfile ((handler.runEach events index).roster.get? did) = true := last.keepsProfile
  obtain ⟨valid, row, decided, written⟩ := profileOf?_of_ok own kind writes keeps ok
  -- the profiles after the run, and after the event
  have start : index.tabled.store.Shows pointers did [] := ⟨new, fun h => absurd rfl h⟩
  have run := shows_takeAll handler valid
    (fun before listed => by rw [← tabled_runEach]; exact keeping before listed) start
  rw [← tabled_runEach, List.nil_append] at run
  have done := shows_take handler (event, now) valid last run
  rw [← tabled_run, ← handled, written, Option.toList_some] at done
  have wrote : ProfileRow.Wrote row.commitCid (handler.profilesOf did events ++ [row]) :=
    ⟨row, List.mem_append_right _ (List.mem_singleton_self row), rfl⟩
  obtain ⟨latest, final⟩ : ∃ latest,
      (ProfileRow.firsts (handler.profilesOf did events ++ [row])).getLast? = some latest := by
    obtain ⟨first, listed, -⟩ := ProfileRow.wrote_firsts.mpr wrote
    exact ⟨_, List.getLast?_eq_some_getLast (List.ne_nil_of_mem listed)⟩
  obtain ⟨answered, pointer⟩ := latestProfile_of_shows done final
  refine ⟨row, latest, decided, answered, pointer, ?_⟩
  · -- the commits of the two are the same exactly if the commit is settled
    have settled := ProfileRow.getLast?_firsts wrote
    rw [final, Option.map_some, Option.some.injEq, ProfileRow.settled_concat] at settled
    rw [← settled]
    constructor
    · intro same
      rw [same]
    · intro same
      rcases List.mem_append.mp (ProfileRow.mem_of_mem_firsts (List.mem_of_getLast? final)) with old | new
      · exact eq_retime_of_commit own content decided old same
      · rw [List.mem_singleton.mp new]

end

/-! ### A profile that comes back -/

namespace ReturningProfile

open SecondPass (did start)

/-- The account changes its profile to the one whose record has the commit. -/
def change (seq : Int) (commit payload : String) : Event where
  seq := seq
  did := did
  action := .update
  collection := "app.bsky.actor.profile"
  rkey := "self"
  cid := some commit
  payload := some (.json payload)

/-- The profile with which the account begins. -/
def first : Event := change 1 "c1" "\x7b\"displayName\":\"first\"\x7d"

/-- Another profile. -/
def second : Event := change 2 "c2" "\x7b\"displayName\":\"second\"\x7d"

/-- The account returns to its first profile. -/
def back : Event := { first with seq := 3 }

/-- The index after the events. -/
def after (events : List Event) : Index Memory := Handler.runEach {} (events.map (·, ⟨1, 0⟩)) (start .approved)

/-- The name in the latest profile, and what the account points to. -/
def shown (index : Index Memory) : Option (Option String) × Option String :=
  (((Store.latestProfile did : Storing Memory _).answer index.store).toOption.join.map (·.displayName),
    (tables index.store).pointer? pointers did)

set_option maxRecDepth 100000 in
/-- **A profile that comes back is not the latest one**: the account has its first profile again, and the store answers
the second. -/
theorem second_stays_latest :
    (tables (start .approved).store).profiles did = [] ∧
    (∀ before, before <+: [first, second, back] → (after before).tabled.Keeping did) ∧
    (Handler.run {} back ⟨1, 0⟩ (after [first, second])).1 = .ok () ∧
    shown (Handler.run {} back ⟨1, 0⟩ (after [first, second])).2 = (some (some "second"), some "c2") := by
  refine ⟨rfl, ?_, by decide +kernel, by decide +kernel⟩
  simp only [← List.mem_inits]
  decide +kernel

/-- The account writes its second profile again. -/
def again : Event := { second with seq := 3 }

/-- The events up to then. -/
def events : List (Event × Timestamp) := [(first, ⟨1, 0⟩), (second, ⟨1, 0⟩)]

/-- The index after all of them. -/
@[irreducible]
def final : Index Memory := (Handler.run {} again ⟨2, 0⟩ (Handler.runEach {} events (start .approved))).2

set_option maxRecDepth 100000 in
/-- The second profile is still the latest one when it comes again. -/
theorem second_comes_again :
    (∃ row latest, Handler.profileRow {} again ⟨2, 0⟩ = .ok row ∧
      (Store.latestProfile did : Storing Memory _).answer final.store = .ok (some latest) ∧
      (tables final.store).pointer? pointers did = some latest.commitCid ∧
      (latest = { row with indexedAt := latest.indexedAt } ↔
        ProfileRow.Settled row.commitCid (Handler.profilesOf {} did events))) ∧
    shown final = (some (some "second"), some "c2") := by
  have keeping : ∀ before, before <+: events → (Handler.runEach {} before (start .approved)).tabled.Keeping did := by
    simp only [← List.mem_inits]
    decide +kernel
  have content : ∀ other ∈ events, other.1.did = did → Collection.ofName other.1.collection = .profile →
      other.1.cid = again.cid →
      (Handler.openRecord {} other.1 : Except HandleFailure Profile) = Handler.openRecord {} again := by
    intro other listed _ _ cid
    rcases List.mem_cons.mp listed with rfl | listed
    · exact absurd cid (by decide)
    · obtain rfl := List.mem_singleton.mp listed
      rfl
  have ok : (Handler.run {} again ⟨2, 0⟩ (Handler.runEach {} events (start .approved))).1 = .ok () := by
    decide +kernel
  have handled : final = (Handler.run {} again ⟨2, 0⟩ (Handler.runEach {} events (start .approved))).2 := by
    unfold final
    rfl
  have writes : again.action ≠ .delete := by decide
  have new : (tables (start .approved).store).profiles did = [] := rfl
  exact ⟨latest_profile_iff {} new keeping rfl (by decide) writes content ok handled,
    by decide +kernel⟩

end ReturningProfile

end FeedIndex
