import FeedIndex.Proofs.Decisions
import FeedIndex.Proofs.Deeds
import FeedIndex.Proofs.Tables.Memory

/-!
# The standing of an account

Whether an account is indexed at all is for a moderator to say. What the account does itself moves it only
between the statuses of one standing: it can ask to be followed and take that back, and opt out once it is
followed and come back, but it cannot get itself approved. So an account that no moderator has let in gains no
rows, but for its follows of the subject, which are how it asks.
-/

namespace FeedIndex

open LedgerStore TableStore Handler

/-! ## Standings -/

/-- **Standing** — what moderators have made of an account. -/
inductive Standing
  /-- The account is not let in, or not yet. -/
  | outside
  /-- The account is let in, and may have opted out again. -/
  | listed
  | banned
  | rejected
deriving DecidableEq, Repr

namespace Standing

/-- **of** — the standing by the status, if the account is stored. -/
def of : Option ActorStatus → Standing
  | none | some .none | some .pending => outside
  | some .approved | some .optedOut => listed
  | some .banned => banned
  | some .rejected => rejected

theorem of_afterFollow {status next : ActorStatus} (h : status.afterFollow = some next) :
    of (some next) = of (some status) := by
  cases status <;> cases h <;> rfl

theorem of_afterUnfollow {status next : ActorStatus} (h : status.afterUnfollow = some next) :
    of (some next) = of (some status) := by
  cases status <;> cases h <;> rfl

/-- A change that an account makes of itself keeps its standing. -/
def Admits (standing : Standing) : AccountChange → Prop
  | .add => standing = outside
  | .set status => of (some status) = standing

/-- An approved account is listed. -/
theorem of_isApproved {actor : Option Actor} (approved : isApproved actor = true) :
    of (actor.map (·.status)) = listed := by
  rcases actor with _ | actor
  · cases approved
  · have status : actor.status = .approved := eq_of_beq approved
    rw [Option.map_some, status]
    rfl

end Standing

/-! ## Standings of an index -/

variable {L : Schema}

/-- **HasStandings** — every account has its standing, in the tables and in the roster alike. -/
structure Index.HasStandings (index : Index (Tables L)) (standing : String → Standing) : Prop where
  stored (did : String) : Standing.of (index.store.status did) = standing did
  shown (did : String) : Standing.of ((index.roster.get? did).map (·.status)) = standing did
  named : index.store.Named

/-- **Earned** — a row that an account may have added itself: it lies under an address of its author, who is let
in, or it is a follow of the subject. -/
def Earned (handler : Handler) (standing : String → Standing) (table : Table) (uri : String) (row : L.Row) :
    Prop :=
  (∃ key, uri = address row.author key) ∧
    (standing row.author = .listed ∨ table = .follows ∧ row.subject? = some handler.subject)

/-- **GainsEarned** — the rows that stand in the tables and not in the ones before are earned. -/
def GainsEarned (handler : Handler) (standing : String → Standing) (start t : Tables L) : Prop :=
  ∀ table uri row, start.records table uri = none → t.records table uri = some row →
    Earned handler standing table uri row

namespace Handler

variable {handler : Handler} {event : Event} {now : Timestamp} {index mid : Index (Tables L)}
  {standing : String → Standing}

/-! ### One deed -/

/-- What an event changes about its account keeps its standing. -/
theorem Does.admits {change : AccountChange} (does : Does handler event now index (.file change))
    (stands : index.HasStandings standing) : (standing event.did).Admits change := by
  have shown := stands.shown event.did
  cases does with
  | followed follows changes =>
    rcases known : index.roster.get? event.did with _ | actor
    · rw [known] at changes shown
      obtain rfl := Option.some.inj changes
      exact shown.symm
    · rw [known] at changes shown
      obtain ⟨next, after, rfl⟩ := Option.map_eq_some_iff.mp changes
      exact (Standing.of_afterFollow after).trans shown
  | unfollowed unfollows stored subject changes =>
    rw [unfollows.known] at shown
    obtain ⟨next, after, rfl⟩ := Option.map_eq_some_iff.mp changes
    exact (Standing.of_afterUnfollow after).trans shown

/-- Filing a change that the standing admits keeps every standing. -/
theorem hasStandings_file {did : String} {change : AccountChange} (admits : (standing did).Admits change)
    (stands : mid.HasStandings standing) : (mid.file did now change).HasStandings standing := by
  have named : (mid.store.file did now change).Named := stands.named.apply now (change.request did now)
  have stored (other : String) : Standing.of ((mid.store.file did now change).status other) = standing other := by
    have before := stands.stored other
    rw [Tables.status_file]
    by_cases own : other = did
    · subst own
      cases change with
      | add =>
        rcases status : mid.store.status other with _ | status
        · rw [if_pos rfl]
          exact admits.symm
        · rw [if_pos rfl, ← status]
          rw [status] at before ⊢
          exact before
      | set next =>
        rw [if_pos rfl]
        rcases status : mid.store.status other with _ | status
        · rw [status] at before
          exact before
        · exact admits
    · rw [if_neg own]
      exact before
  rcases read : (mid.store.file did now change).actor? did with _ | actor
  · unfold Index.file
    rw [read]
    exact ⟨stored, stands.shown, named⟩
  · obtain ⟨filed, place, status⟩ := Index.file_of_read stands.named read
    rw [filed]
    refine ⟨stored, fun other => ?_, named⟩
    dsimp only
    rw [Roster.get?_put, place]
    split
    · next own =>
      -- what is read back is what is stored
      rw [own, Option.map_some, ← status]
      exact stored did
    · exact stands.shown other

/-- A row that an event adds is earned. -/
theorem Does.earned {request : StoreOperation} {table : Table} {uri : String} {row : L.Row}
    (does : Does handler event now index (.enter request)) (stands : index.HasStandings standing)
    (adds : Tables.added? request = some (table, uri, row)) : Earned handler standing table uri row := by
  obtain ⟨rfl, author, -, may⟩ := does.added adds
  refine ⟨⟨_, by rw [author]; exact event.uri_eq_address⟩, ?_⟩
  rcases may with approved | subject
  · refine .inl ?_
    rw [author, ← stands.shown event.did]
    exact Standing.of_isApproved approved
  · exact .inr subject

theorem earned_delete {table : Table} {uri : String} {row : L.Row} (earned : Earned handler standing table uri row)
    (now : Timestamp) : Earned handler standing table uri (row.delete now) := by
  unfold Earned
  rw [Schema.Row.author_delete, Schema.Row.subject?_delete]
  exact earned

/-- What an event enters is earned. -/
theorem gainsEarned_enter {request : StoreOperation} {start t : Tables L}
    (does : Does handler event now index (.enter request)) (stands : index.HasStandings standing)
    (gains : GainsEarned handler standing start t) :
    GainsEarned handler standing start (t.apply now request) := by
  intro table uri row absent stored
  rcases t.records_apply now request table uri with same | ⟨new, adds, added⟩ | ⟨-, deleted⟩
  · rw [same] at stored
    exact gains table uri row absent stored
  · rw [added] at stored
    rcases Option.or_eq_some_iff.mp stored with hold | ⟨-, hnew⟩
    · exact gains table uri row absent hold
    · obtain rfl := Option.some.inj hnew
      exact does.earned stands adds
  · rw [deleted] at stored
    obtain ⟨old, hold, rfl⟩ := Option.map_eq_some_iff.mp stored
    exact earned_delete (gains table uri old absent hold) now

/-! ### One event -/

/-- **An event** keeps every standing, and what it adds is earned. -/
theorem standings_take {start : Tables L} (handler : Handler) (event : Event) (now : Timestamp)
    (stands : index.HasStandings standing) (gains : GainsEarned handler standing start index.store) :
    (handler.take event now index).HasStandings standing ∧
      GainsEarned handler standing start (handler.take event now index).store := by
  refine Index.doAll_induction (P := fun mid => mid.HasStandings standing ∧
    GainsEarned handler standing start mid.store) ⟨stands, gains⟩ ?_ ?_
  · rintro request hmem mid ⟨stands', gains'⟩
    have does := does_of_mem_deeds hmem
    refine ⟨⟨?_, stands'.shown, stands'.named.apply now request⟩, gainsEarned_enter does stands gains'⟩
    intro did
    show Standing.of ((mid.store.apply now request).status did) = standing did
    rw [does.status_apply]
    exact stands'.stored did
  · rintro change hmem mid ⟨stands', gains'⟩
    have does := does_of_mem_deeds hmem
    refine ⟨hasStandings_file (does.admits stands) stands', ?_⟩
    intro table uri row absent stored
    rw [Index.store_file, Tables.records_file] at stored
    exact gains' table uri row absent stored

end Handler

/-! ### Any number of acts -/

/-- The request leaves every account and every record as it is. -/
def StoreOperation.keepsRows : StoreOperation → Bool
  | .getCursor | .setCursor _ | .listActors _ | .getActor _ | .getPost _ | .getLike _ | .getFollow _
  | .latestProfile _ | .profileHistory _ => true
  | _ => false

/-- Nobody but the events themselves writes to the accounts and records. -/
def Act.isOwn : Act → Bool
  | .handle .. | .sync => true
  | .request asked _ => asked.keepsRows

theorem Tables.apply_of_keepsRows {request : StoreOperation} (keeps : request.keepsRows = true) (now : Timestamp)
    (t : Tables L) :
    (t.apply now request).accounts = t.accounts ∧ (t.apply now request).records = t.records := by
  cases request <;> first | exact ⟨rfl, rfl⟩ | cases keeps

/-- The standing of an account by the tables. -/
def Tables.standing (t : Tables L) (did : String) : Standing := .of (t.status did)

/-- **Agrees** — the roster shows the accounts that are stored, and each with its status. -/
def Index.Agrees (index : Index (Tables L)) : Prop :=
  ∀ did, (index.roster.get? did).map (·.status) = index.store.status did

section

variable {σ : Type} [Store σ] [TableStore σ] {handler : Handler} {index : Index σ} {standing : String → Standing}

/-- The list of the actors is asked for, and the tables stay. -/
theorem tables_listActors (store : σ) :
    tables ((Store.listActors none : Storing σ (List Actor)).after store) = tables store :=
  tables_after_of_perform (StoreOperation.perform_listActors ⟨0, 0⟩ none) store

/-- Once the roster has been taken anew, it agrees with the tables. -/
theorem agrees_sync {actors : List Actor} (sound : Sound index.store)
    (answer : (Store.listActors none : Storing σ _).answer index.store = .ok actors) :
    (index.act handler .sync).tabled.Agrees := by
  intro did
  have listed := listActors_answer sound answer did
  rw [ledger_eq] at listed
  unfold Index.act Index.tabled
  rw [Index.run_sync, answer]
  dsimp only
  rw [tables_listActors]
  exact listed

/-- **One act** keeps every standing, and what it adds is earned. -/
theorem standings_act {act : Act} {start : Tables (schema σ)} (own : act.isOwn = true) (sound : Sound index.store)
    (stands : index.tabled.HasStandings standing) (gains : GainsEarned handler standing start (tables index.store)) :
    (index.act handler act).tabled.HasStandings standing ∧
      GainsEarned handler standing start (tables (index.act handler act).store) := by
  cases act with
  | handle event now =>
    have taken := standings_take handler event now stands gains
    rw [← tabled_run] at taken
    exact taken
  | request request now =>
    obtain ⟨accounts, records⟩ := Tables.apply_of_keepsRows own now (tables index.store)
    have after := tables_after now request index.store
    refine ⟨⟨?_, stands.shown, ?_⟩, ?_⟩
    · intro did
      show Standing.of ((tables (request.after now index.store)).status did) = _
      rw [after, Tables.status, accounts]
      exact stands.stored did
    · show (tables (request.after now index.store)).Named
      rw [after]
      exact stands.named.apply now request
    · intro table uri row absent stored
      change (tables (request.after now index.store)).records table uri = some row at stored
      rw [after, records] at stored
      exact gains table uri row absent stored
  | sync =>
    unfold Index.act
    rw [Index.run_sync]
    rcases answer : (Store.listActors none : Storing σ _).answer index.store with failure | actors
    · -- the roster stays as it is
      unfold Index.tabled
      dsimp only
      rw [tables_listActors]
      exact ⟨stands, gains⟩
    · unfold Index.tabled
      dsimp only
      rw [tables_listActors]
      refine ⟨⟨stands.stored, ?_, stands.named⟩, gains⟩
      intro did
      have listed := listActors_answer sound answer did
      rw [ledger_eq] at listed
      dsimp only
      rw [listed]
      exact stands.stored did

/-- **No account lets itself in**: whatever accounts publish, and whenever the roster is taken anew, every account
keeps the standing that it had at the start, in the tables and in the roster. The rows that were gained belong to
accounts that had been let in, or are follows of the subject. -/
theorem standing_acts (handler : Handler) {acts : List Act} (own : ∀ act ∈ acts, act.isOwn = true)
    (sound : Sound index.store) (agrees : index.tabled.Agrees) :
    (index.acts handler acts).tabled.HasStandings (tables index.store).standing ∧
      GainsEarned handler (tables index.store).standing (tables index.store)
        (tables (index.acts handler acts).store) := by
  have start : index.tabled.HasStandings (tables index.store).standing :=
    ⟨fun _ => rfl, fun did => congrArg Standing.of (agrees did), named_of_sound sound⟩
  have gainsNothing : GainsEarned handler (tables index.store).standing (tables index.store) (tables index.store) := by
    intro table uri row absent stored
    rw [absent] at stored
    cases stored
  -- for any index on the way, so that the induction goes through
  have general : ∀ mid : Index σ, Sound mid.store → mid.tabled.HasStandings (tables index.store).standing →
      GainsEarned handler (tables index.store).standing (tables index.store) (tables mid.store) →
      (mid.acts handler acts).tabled.HasStandings (tables index.store).standing ∧
        GainsEarned handler (tables index.store).standing (tables index.store)
          (tables (mid.acts handler acts).store) := by
    induction acts with
    | nil => exact fun mid _ stands gains => ⟨stands, gains⟩
    | cons act rest ih =>
      intro mid sound' stands gains
      obtain ⟨stands', gains'⟩ := standings_act (own act List.mem_cons_self) sound' stands gains
      exact ih (fun act hmem => own act (List.mem_cons_of_mem _ hmem)) _ (sound_act sound' act) stands' gains'
  exact general index sound start gainsNothing

end

/-! ### Accounts that nobody let in -/

namespace Uninvited

/-- An account that is banned. -/
def banned : String := "did:plc:banned"

/-- An account that nobody knows. -/
def unknown : String := "did:plc:unknown"

/-- A follow of the subject by an account. -/
def follow (did : String) : Event where
  seq := 1
  did := did
  action := .create
  collection := "app.bsky.graph.follow"
  rkey := "f1"
  cid := none
  payload := some (.json
    "\x7b\"subject\":\"did:plc:jdkvwye2lf4mingzk7qdebzc\",\"createdAt\":\"2025-01-26T17:11:03Z\"\x7d")

/-- A post of an account. -/
def post (did : String) : Event where
  seq := 2
  did := did
  action := .create
  collection := "app.bsky.feed.post"
  rkey := "p1"
  cid := none
  payload := some (.json "\x7b\"text\":\"hello\",\"createdAt\":\"2025-01-26T17:11:03Z\"\x7d")

/-- The banned account is stored, and the roster shows it. -/
def start : Index Memory :=
  Index.act {} (Index.act {} ⟨{}, {}⟩ (.request (.createActor (.fresh banned .banned "" ⟨0, 0⟩)) ⟨0, 0⟩)) .sync

/-- Both accounts ask to be let in, and post. -/
def acts : List Act := [
  .handle (follow unknown) ⟨1, 0⟩, .handle (post unknown) ⟨1, 0⟩,
  .handle (follow banned) ⟨2, 0⟩, .handle (post banned) ⟨2, 0⟩,
  .sync, .handle (post unknown) ⟨3, 0⟩]

set_option maxRecDepth 100000 in
/-- The unknown account is left waiting, the banned one stays banned, and no post is kept. -/
theorem left_waiting :
    ((Index.acts {} start acts).tabled.HasStandings (tables start.store).standing ∧
      GainsEarned {} (tables start.store).standing (tables start.store) (tables (Index.acts {} start acts).store)) ∧
    (Memory.ledger (Index.acts {} start acts).store).status unknown = some .pending ∧
    (Memory.ledger (Index.acts {} start acts).store).status banned = some .banned ∧
    (Index.acts {} start acts).store.posts.length = 0 := by
  have empty : Sound (⟨{}, {}⟩ : Index Memory).store := Memory.sound_empty
  have created : Sound (Index.act {} (⟨{}, {}⟩ : Index Memory)
      (.request (.createActor (.fresh banned .banned "" ⟨0, 0⟩)) ⟨0, 0⟩)).store := sound_act empty _
  exact ⟨standing_acts {} (by decide) (sound_act created .sync) (agrees_sync created rfl), by decide +kernel⟩

end Uninvited

end FeedIndex
