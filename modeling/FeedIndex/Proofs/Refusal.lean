import FeedIndex.Proofs.Accounts
import FeedIndex.Proofs.Ledger.Memory

/-!
# Events that are refused

An event that is refused for a reason of its own leaves the index as it was, in every store. There is one
case that does not: a follow of the subject with a time that cannot be read. The account of such an event
moves on before the time is looked at, and stays there when the follow is then refused.
-/

namespace FeedIndex

namespace Handler

variable {σ : Type} {handler : Handler} {event : Event} {now : Timestamp}

/-! ## Who is to blame -/

section

variable [Store σ] {index moved : Index σ} {failure : HandleFailure}

theorem isOfStore_of_mapError {α : Type} {result : Except StoreFailure α}
    (h : result.mapError HandleFailure.unstored = .error failure) : failure.isOfStore = true := by
  rcases result with cause | a
  · obtain rfl := Except.error.inj h
    rfl
  · cases h

/-- A request that is not done is the store's failure. -/
theorem isOfStore_of_outcome {request : StoreOperation} {store : σ}
    (h : request.outcome now store = .error failure) : failure.isOfStore = true :=
  isOfStore_of_mapError h

omit [Store σ] in
theorem isOfStore_of_indexing {operation : Indexing σ StoreFailure Actor}
    (h : (indexing operation >>= fun _ => (pure () : Handling σ Unit)).run.run index =
      (.error failure, moved)) : failure.isOfStore = true := by
  rw [Indexing.run_bind, run_indexing] at h
  rcases result : (operation.run.run index).1 with cause | actor
  · rw [result] at h
    obtain ⟨hfailure, -⟩ := Prod.mk.inj h
    obtain rfl := Except.error.inj hfailure
    rfl
  · rw [result] at h
    cases h

/-- An account that cannot be moved is the store's failure. -/
theorem isOfStore_of_moveStatus {did : String} {next : Option ActorStatus}
    (h : (moveStatus did next).run.run index = (.error failure, moved)) : failure.isOfStore = true := by
  rcases next with _ | status
  · cases h
  · exact isOfStore_of_indexing h

theorem isOfStore_of_followedSubject {actor : Option Actor}
    (h : (followedSubject event actor now).run.run index = (.error failure, moved)) :
    failure.isOfStore = true := by
  rcases actor with _ | actor
  · exact isOfStore_of_indexing h
  · exact isOfStore_of_moveStatus h

/-! ## What is left behind -/

/-- **MovesUntimed** — the event is a follow of the subject, it cannot be read when it was made, and the
roster has its account where a follow moves it on. -/
def MovesUntimed (handler : Handler) (event : Event) (roster : Roster) : Prop :=
  ∃ follow failure, FollowsSubject handler event follow ∧
    claimedTime follow.createdAt = .error failure ∧
    AccountChange.onFollow? (roster.get? event.did) ≠ none

/-- An account that does not change is left alone. -/
theorem run_followedSubject_of_onFollow?_eq_none
    (stays : AccountChange.onFollow? (index.roster.get? event.did) = none) :
    (followedSubject event (index.roster.get? event.did) now).run.run index = (.ok (), index) := by
  rcases known : index.roster.get? event.did with _ | actor
  · rw [known] at stays
    cases stays
  · rw [known] at stays
    have unmoved : actor.status.afterFollow = none := Option.map_eq_none_iff.mp stays
    show (moveStatus event.did actor.status.afterFollow).run.run index = _
    rw [unmoved]
    rfl

/-- An event that is refused leaves the index as it was, unless its account moves on. -/
theorem eq_of_run_eq_error {index' : Index σ} (h : handler.run event now index = (.error failure, index'))
    (own : failure.isOfStore = false) (orderly : ¬ MovesUntimed handler event index.roster) :
    index' = index := by
  have way := handled_run handler event now index
  rw [h] at way
  -- a failure of the store is none of the event's own
  have absurd_of_store {P : Prop} (ofStore : failure.isOfStore = true) : P := by
    rw [own] at ofStore
    cases ofStore
  generalize hresult : (Except.error failure : Except HandleFailure Unit) = result at way
  dsimp only at way
  cases way with
  | passed => cases hresult
  | refused _ => rfl
  | entered _ _ => exact absurd_of_store (isOfStore_of_outcome hresult.symm)
  | followFailed follows move =>
    obtain rfl := Except.error.inj hresult
    exact absurd_of_store (isOfStore_of_followedSubject move)
  | followUntimed follows move untimed =>
    by_cases stays : AccountChange.onFollow? (index.roster.get? event.did) = none
    · rw [run_followedSubject_of_onFollow?_eq_none stays] at move
      exact (Prod.mk.inj move).2.symm
    · exact absurd ⟨_, _, follows, untimed, stays⟩ orderly
  | followKept _ _ _ => exact absurd_of_store (isOfStore_of_outcome hresult.symm)
  | unfollowUnknown _ _ => exact absurd_of_store (isOfStore_of_outcome hresult.symm)
  | unfollowed _ _ _ => exact absurd_of_store (isOfStore_of_outcome hresult.symm)
  | unfollowedSubject _ _ _ _ move =>
    rw [← hresult] at move
    exact absurd_of_store (isOfStore_of_moveStatus move)

end

/-! ## What is left behind for sure -/

section

open LedgerStore

variable [Store σ] [LedgerStore σ] {index index' : Index σ} {failure : HandleFailure}

/-- A status never moves to itself. -/
theorem afterFollow_ne {status next : ActorStatus} (h : status.afterFollow = some next) : next ≠ status := by
  cases status <;> cases h <;> exact nofun

/-- Filing what changes of an account that follows the subject shows in the roster. -/
theorem roster_ne_of_filed {did : String} {change : AccountChange} {result : Except HandleFailure Unit}
    (changes : AccountChange.onFollow? (index.roster.get? did) = some change)
    (filed : Filed did (change.apply did) index result index') (done : result = .ok ()) :
    index'.roster.get? did ≠ index.roster.get? did := by
  cases filed with
  | failed _ _ _ => cases done
  | @done actor store own shown effect sound =>
    rw [Roster.get?_put, if_pos own.symm]
    intro same
    -- the account was known, and it has the status that it was given
    rw [← same] at changes
    obtain ⟨status, moves, rfl⟩ := Option.map_eq_some_iff.mp changes
    have set : (ledger store).status did = ((ledger index.store).status did).map fun _ => status := by
      rw [effect]
      simp [AccountChange.apply, Ledger.setStatus]
    rw [shown] at set
    obtain ⟨-, -, rfl⟩ := Option.map_eq_some_iff.mp set.symm
    exact afterFollow_ne moves rfl

/-- An account whose follow has no time that can be read has moved on in the roster. -/
theorem roster_ne_of_movesUntimed (sound : Sound index.store)
    (h : handler.run event now index = (.error failure, index')) (own : failure.isOfStore = false)
    (moves : MovesUntimed handler event index.roster) :
    index'.roster.get? event.did ≠ index.roster.get? event.did := by
  obtain ⟨follow, cause, follows, untimed, hchange⟩ := moves
  obtain ⟨change, changes⟩ := Option.ne_none_iff_exists'.mp hchange
  have filed := run_followedSubject sound event now
  rw [changes] at filed
  rw [run_followsSubject now follows] at h
  rcases move : (followedSubject event (index.roster.get? event.did) now).run.run index with
    ⟨cause' | ⟨⟩, moved⟩
  · rw [move] at h
    obtain ⟨hcause, -⟩ := Prod.mk.inj h
    obtain rfl := Except.error.inj hcause
    have ofStore := isOfStore_of_followedSubject move
    rw [own] at ofStore
    cases ofStore
  · rw [move] at h filed
    dsimp only at h
    rw [run_keepFollow, untimed] at h
    obtain ⟨-, rfl⟩ := Prod.mk.inj h
    exact roster_ne_of_filed changes filed rfl

/-- **A refused event changes nothing**, unless it is a follow of the subject whose time cannot be read and
whose account a follow moves on; then the roster has moved on with it. -/
theorem refused_keeps_index (h : handler.run event now index = (.error failure, index'))
    (own : failure.isOfStore = false) :
    (¬ MovesUntimed handler event index.roster → index' = index) ∧
      (Sound index.store → MovesUntimed handler event index.roster →
        index'.roster.get? event.did ≠ index.roster.get? event.did) := by
  constructor
  · intro orderly
    exact eq_of_run_eq_error h own orderly
  · intro sound moves
    exact roster_ne_of_movesUntimed sound h own moves

end

/-! ### A follow without a time -/

/-- A follow of the subject that was made at no time. -/
def untimedFollow : Event where
  seq := 1
  did := "did:plc:hdhoaan3xa3jiuq4fg4mefid"
  action := .create
  collection := "app.bsky.graph.follow"
  rkey := "f1"
  cid := none
  payload := some (.json
    "\x7b\"subject\":\"did:plc:jdkvwye2lf4mingzk7qdebzc\",\"createdAt\":\"yesterday\"\x7d")

/-- What becomes of it in an empty index. -/
def untimedRun : Except HandleFailure Unit × Index Memory :=
  ({} : Handler).run untimedFollow ⟨0, 0⟩ ⟨{}, {}⟩

set_option maxRecDepth 100000 in
/-- An account that nobody knew has been added although its follow is refused. -/
theorem untimedRun_adds_account :
    untimedRun.1 = .error (.badTime "yesterday" .tooShort) ∧
      untimedRun.2.store.actors.map (·.2.status) = [.pending] ∧
      untimedRun.2.store.follows = [] := by
  decide +kernel

set_option maxRecDepth 100000 in
/-- The follow is refused for its time, and its account moves on before. -/
theorem untimedRun_moves :
    untimedRun.1 = .error (.badTime "yesterday" .tooShort) ∧ MovesUntimed {} untimedFollow {} := by
  have follows : FollowsSubject {} untimedFollow ⟨"did:plc:jdkvwye2lf4mingzk7qdebzc", "yesterday"⟩ :=
    { valid := by decide +kernel
      kind := by decide +kernel
      action := rfl
      opened := by decide +kernel
      subject := rfl }
  exact ⟨by decide +kernel, _, .badTime "yesterday" .tooShort, follows, by decide +kernel, nofun⟩

/-- The roster of the empty index has changed. -/
theorem untimedRun_shows_account :
    untimedRun.2.roster.get? untimedFollow.did ≠ ({} : Roster).get? untimedFollow.did := by
  have refused : untimedRun = (.error (.badTime "yesterday" .tooShort), untimedRun.2) :=
    Prod.ext untimedRun_moves.1 rfl
  exact (refused_keeps_index refused rfl).2 Memory.sound_empty untimedRun_moves.2

end Handler

end FeedIndex
