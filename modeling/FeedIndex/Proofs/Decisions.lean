import FeedIndex.Proofs.Course
import FeedIndex.Proofs.Ledger.Memory
import FeedIndex.Proofs.Prefixes

/-!
# Decisions of moderators

A moderator writes to the store, and the roster learns of it later. Until then an event is handled by what
the roster still shows, and what moves its account then is written over the decision. That is the only way in
which a decision is lost: as long as no event moves the account, it stands, whatever else happens, and from
the moment at which the roster shows the decision no event does.
-/

namespace FeedIndex

open LedgerStore Handler

/-! ## What can happen -/

/-- **Act** — what happens to an index: an event is handled, the roster is taken from the store anew, or
somebody else asks the store for something. -/
inductive Act
  | handle (event : Event) (now : Timestamp)
  | sync
  | request (request : StoreOperation) (now : Timestamp)

/-- A moderator decides on an account. -/
def Act.decides (did : String) : Act → Bool
  | .request (.setActorStatus other _) _ => other == did
  | _ => false

namespace ActorStatus

/-- The account is excluded by a moderator. -/
def isExcluded : ActorStatus → Bool
  | .banned | .rejected => true
  | _ => false

/-- An excluded account does not move. -/
theorem after_eq_none_of_isExcluded {status : ActorStatus} (excluded : status.isExcluded = true) :
    status.afterFollow = Option.none ∧ status.afterUnfollow = Option.none := by
  cases status with
  | banned => exact ⟨rfl, rfl⟩
  | rejected => exact ⟨rfl, rfl⟩
  | _ => cases excluded

/-- No account moves to where it is excluded. -/
theorem isExcluded_of_after {status next : ActorStatus}
    (moves : status.afterFollow = some next ∨ status.afterUnfollow = some next) :
    next.isExcluded = false := by
  rcases moves with follow | unfollow
  · cases status <;> cases follow <;> rfl
  · cases status <;> cases unfollow <;> rfl

end ActorStatus

namespace Index

variable {σ : Type} [Store σ]

/-- **act** — the index after an act. -/
def act (handler : Handler) (index : Index σ) : Act → Index σ
  | .handle event now => (handler.run event now index).2
  | .sync => (sync.run.run index).2
  | .request request now => { index with store := request.after now index.store }

/-- **acts** — the index after acts in their order. -/
def acts (handler : Handler) (index : Index σ) (acts : List Act) : Index σ := acts.foldl (act handler) index

theorem run_sync (index : Index σ) :
    sync.run.run index =
      match (Store.listActors none : Storing σ _).answer index.store with
      | .ok actors =>
        (.ok (Roster.ofActors actors).size,
          ⟨(Store.listActors none).after index.store, Roster.ofActors actors⟩)
      | .error failure =>
        (.error failure, { index with store := (Store.listActors none).after index.store }) := by
  unfold sync
  rw [Indexing.run_bind, Indexing.run_onStore]
  rcases (Store.listActors none : Storing σ _).answer index.store with failure | actors <;> rfl

end Index

/-! ## One act -/

section

variable {σ : Type} [Store σ] [LedgerStore σ] {handler : Handler} {index : Index σ} {did : String}
  {status : ActorStatus}

/-- **Overrides** — handling the event writes a status over the one that is stored. -/
def Overrides (handler : Handler) (event : Event) (now : Timestamp) (did : String) (index : Index σ) : Prop :=
  event.did = did ∧ ∃ status, Moves handler event now index (.set status)

/-- What the roster shows of an account, if anything, is this status. -/
def Roster.ShowsOnly (roster : Roster) (did : String) (status : ActorStatus) : Prop :=
  ∀ actor, roster.get? did = some actor → actor.status = status

omit [LedgerStore σ] in
/-- What moves an account to a status is what the roster shows of it. -/
theorem shown_of_moves {event : Event} {now : Timestamp} {next : ActorStatus}
    (moves : Moves handler event now index (.set next)) :
    ∃ actor, index.roster.get? event.did = some actor ∧
      (actor.status.afterFollow = some next ∨ actor.status.afterUnfollow = some next) := by
  cases moves with
  | followed _ changes =>
    rcases known : index.roster.get? event.did with _ | actor
    · rw [known] at changes
      cases changes
    · rw [known] at changes
      obtain ⟨status, after, heq⟩ := Option.map_eq_some_iff.mp changes
      obtain rfl := AccountChange.set.inj heq
      exact ⟨actor, rfl, .inl after⟩
  | @unfollowed actor _ _ unfollows _ _ _ changes =>
    obtain ⟨status, after, heq⟩ := Option.map_eq_some_iff.mp changes
    obtain rfl := AccountChange.set.inj heq
    exact ⟨actor, unfollows.known, .inr after⟩

omit [LedgerStore σ] in
/-- An event whose account is shown as excluded overrides nothing. -/
theorem not_overrides_of_showsOnly {event : Event} {now : Timestamp} (excluded : status.isExcluded = true)
    (shows : index.roster.ShowsOnly did status) : ¬ Overrides handler event now did index := by
  rintro ⟨rfl, next, moves⟩
  obtain ⟨actor, known, after⟩ := shown_of_moves moves
  have hstatus : actor.status = status := shows actor known
  obtain ⟨follow, unfollow⟩ := ActorStatus.after_eq_none_of_isExcluded excluded
  rw [hstatus, follow, unfollow] at after
  rcases after with h | h
  · cases h
  · cases h

/-- On its course, an event that overrides nothing keeps the status that is stored; and if the roster shows
that status, it goes on to do so. -/
theorem stands_on_course {event : Event} {now : Timestamp} {mid : Index σ}
    (course : Course handler event now index mid) (lenient : ¬ Overrides handler event now did index)
    (stored : (ledger index.store).status did = some status) :
    (ledger mid.store).status did = some status ∧
      (index.roster.ShowsOnly did status → mid.roster.ShowsOnly did status) := by
  induction course with
  | start => exact ⟨stored, id⟩
  | request _ own ih =>
    refine ⟨?_, ih.2⟩
    show (ledger (StoreOperation.after now _ _)).status did = some status
    rw [ledger_after, own.apply_status]
    exact ih.1
  | @account mid moved change result _ _ moves filed ih =>
    have kept : (ledger moved.store).status did = some status := by
      rw [filed.ledger_eq]
      by_cases own : did = event.did
      · cases change with
        | set next => exact absurd ⟨own.symm, next, moves⟩ lenient
        | add =>
          subst own
          simp only [AccountChange.apply, Ledger.addAccount, if_pos, ih.1, Option.some_or]
      · rw [AccountChange.apply_status_of_ne own]
        exact ih.1
    refine ⟨kept, ?_⟩
    intro shows
    cases filed with
    | failed _ _ _ => exact ih.2 shows
    | @done filed store own shown _ _ =>
      intro actor found
      rw [Roster.get?_put] at found
      split at found
      · next hdid =>
        -- the roster shows of this account what is stored
        obtain rfl := Option.some.inj found
        rw [hdid, own, shown] at kept
        exact Option.some.inj kept
      · exact ih.2 shows actor found

/-- **One act** keeps what a moderator has decided, unless it decides or overrides. -/
theorem stands_act {act : Act} (sound : Sound index.store)
    (undecided : act.decides did = false)
    (lenient : ∀ event now, act = .handle event now → ¬ Overrides handler event now did index)
    (stored : (ledger index.store).status did = some status) :
    (ledger (index.act handler act).store).status did = some status ∧
      (index.roster.ShowsOnly did status → (index.act handler act).roster.ShowsOnly did status) := by
  cases act with
  | handle event now =>
    exact stands_on_course (course_run handler event now sound) (lenient event now rfl) stored
  | request request now =>
    refine ⟨?_, id⟩
    show (ledger (request.after now index.store)).status did = some status
    rw [ledger_after]
    cases request with
    | createActor actor => simp [Ledger.apply, Ledger.addAccount, stored]
    | setActorStatus other next =>
      have hother : did ≠ other := by
        intro heq
        subst heq
        simp [Act.decides] at undecided
      simp [Ledger.apply, Ledger.setStatus, hother, stored]
    | _ => exact stored
  | sync =>
    have same : ledger ((Store.listActors none : Storing σ _).after index.store) = ledger index.store :=
      ledger_after_of_perform _ _ (StoreOperation.perform_listActors ⟨0, 0⟩ none) index.store
    unfold Index.act
    rw [Index.run_sync]
    rcases answer : (Store.listActors none : Storing σ _).answer index.store with failure | actors
    · exact ⟨by rw [same]; exact stored, id⟩
    · refine ⟨by rw [same]; exact stored, ?_⟩
      intro _ actor found
      have listed := listActors_answer sound answer did
      rw [found, stored] at listed
      exact Option.some.inj listed

/-- An act keeps the store sound. -/
theorem sound_act (sound : Sound index.store) (act : Act) : Sound (index.act handler act).store := by
  cases act with
  | handle event now => exact (course_run handler event now sound).sound sound
  | request request now => exact sound_after now request sound
  | sync =>
    have sound' := sound_after_of_perform _ _ (StoreOperation.perform_listActors ⟨0, 0⟩ none) sound
    unfold Index.act
    rw [Index.run_sync]
    rcases (Store.listActors none : Storing σ _).answer index.store with failure | actors
    · exact sound'
    · exact sound'

/-- An event that overrides a decision undoes it. -/
theorem status_ne_of_overrides {event : Event} {now : Timestamp} (sound : Sound index.store)
    (excluded : status.isExcluded = true) (stored : (ledger index.store).status did = some status)
    (overrides : Overrides handler event now did index) :
    (ledger (handler.run event now index).2.store).status did ≠ some status := by
  obtain ⟨rfl, next, moves⟩ := overrides
  rw [status_run_of_moves sound moves]
  simp only [AccountChange.apply, Ledger.setStatus, if_pos, stored, Option.map_some]
  intro heq
  obtain rfl := Option.some.inj heq
  obtain ⟨actor, -, after⟩ := shown_of_moves moves
  rw [ActorStatus.isExcluded_of_after after] at excluded
  cases excluded

/-! ## Any number of acts -/

theorem sound_acts (sound : Sound index.store) (acts : List Act) :
    Sound (index.acts handler acts).store := by
  induction acts generalizing index with
  | nil => exact sound
  | cons act rest ih => exact ih (sound_act sound act)

/-- **Lenient** — none of the events that are handled among the acts overrides the account. -/
def Lenient (handler : Handler) (index : Index σ) (did : String) (acts : List Act) : Prop :=
  ∀ before last, before ++ [last] <+: acts → ∀ event now, last = .handle event now →
    ¬ Overrides handler event now did (index.acts handler before)

/-- **Stands** — all along the acts the status of the account is stored. -/
def Stands (handler : Handler) (index : Index σ) (did : String) (status : ActorStatus) (acts : List Act) :
    Prop :=
  ∀ before, before <+: acts → (ledger (index.acts handler before).store).status did = some status

theorem stands_cons_iff {act : Act} {rest : List Act} :
    Stands handler index did status (act :: rest) ↔
      (ledger index.store).status did = some status ∧
        Stands handler (index.act handler act) did status rest :=
  Prefixes.forall_prefix_cons_iff

omit [LedgerStore σ] in
theorem lenient_cons_iff {act : Act} {rest : List Act} :
    Lenient handler index did (act :: rest) ↔
      (∀ event now, act = .handle event now → ¬ Overrides handler event now did index) ∧
        Lenient handler (index.act handler act) did rest :=
  Prefixes.forall_next_cons_iff

/-- A decision stands exactly as long as no event overrides it. -/
theorem stands_iff_lenient {acts : List Act} (sound : Sound index.store)
    (excluded : status.isExcluded = true) (stored : (ledger index.store).status did = some status)
    (undecided : ∀ act ∈ acts, act.decides did = false) :
    Stands handler index did status acts ↔ Lenient handler index did acts := by
  -- the status stands up to the first event that overrides, and not right after it
  induction acts generalizing index with
  | nil =>
    constructor
    · intro _ before last hbefore
      exact absurd hbefore Prefixes.not_next_prefix_nil
    · intro _ before hbefore
      obtain rfl := List.prefix_nil.mp hbefore
      exact stored
  | cons act rest ih =>
    have hact : act.decides did = false := undecided act List.mem_cons_self
    have hrest : ∀ act ∈ rest, act.decides did = false := by
      intro act hmem
      exact undecided act (List.mem_cons_of_mem _ hmem)
    rw [stands_cons_iff, lenient_cons_iff]
    by_cases first : ∀ event now, act = .handle event now → ¬ Overrides handler event now did index
    · have stored' := (stands_act sound hact first stored).1
      have rest_iff := ih (sound_act sound act) stored' hrest
      constructor
      · rintro ⟨-, stands⟩
        exact ⟨first, rest_iff.mp stands⟩
      · rintro ⟨-, lenient⟩
        exact ⟨stored, rest_iff.mpr lenient⟩
    · constructor
      · rintro ⟨-, stands⟩
        -- the first event overrides, so the status is another one after it
        refine absurd ?_ first
        rintro event now rfl overrides
        exact status_ne_of_overrides sound excluded stored overrides (stands [] List.nil_prefix)
      · rintro ⟨lenient, -⟩
        exact absurd lenient first

/-- A decision that the roster shows, or of whose account the roster shows nothing, stands. -/
theorem stands_of_showsOnly {acts : List Act} (sound : Sound index.store)
    (excluded : status.isExcluded = true) (stored : (ledger index.store).status did = some status)
    (undecided : ∀ act ∈ acts, act.decides did = false) (shows : index.roster.ShowsOnly did status) :
    Stands handler index did status acts := by
  induction acts generalizing index with
  | nil =>
    intro before hbefore
    obtain rfl := List.prefix_nil.mp hbefore
    exact stored
  | cons act rest ih =>
    have first : ∀ event now, act = .handle event now → ¬ Overrides handler event now did index := by
      intro event now _
      exact not_overrides_of_showsOnly excluded shows
    obtain ⟨stored', shows'⟩ := stands_act sound (undecided act List.mem_cons_self) first stored
    refine stands_cons_iff.mpr ⟨stored, ih (sound_act sound act) stored' ?_ (shows' shows)⟩
    intro act hmem
    exact undecided act (List.mem_cons_of_mem _ hmem)

/-- **Decisions of moderators**: a ban or a refusal that is stored stands, through any acts among which no
moderator decides on the account again, exactly if no event overrides it. From a roster that shows it, or
knows nothing of the account, it stands in any case. -/
theorem decision_stands_iff (handler : Handler) {acts : List Act} (sound : Sound index.store)
    (excluded : status.isExcluded = true) (stored : (ledger index.store).status did = some status)
    (undecided : ∀ act ∈ acts, act.decides did = false) :
    (Stands handler index did status acts ↔ Lenient handler index did acts) ∧
      (index.roster.ShowsOnly did status → Stands handler index did status acts) := by
  constructor
  · exact stands_iff_lenient sound excluded stored undecided
  · intro shows
    exact stands_of_showsOnly sound excluded stored undecided shows

end

/-! ### A decision that the roster has not learnt of -/

namespace StaleDecision

/-- The account that is decided on. -/
def did : String := "did:plc:hdhoaan3xa3jiuq4fg4mefid"

/-- Its follow of the subject. -/
def follow : Event where
  seq := 1
  did := did
  action := .create
  collection := "app.bsky.graph.follow"
  rkey := "f1"
  cid := none
  payload := some (.json
    "\x7b\"subject\":\"did:plc:jdkvwye2lf4mingzk7qdebzc\",\"createdAt\":\"2025-01-26T17:11:03Z\"\x7d")

/-- The deletion of that follow. -/
def unfollow : Event := { follow with seq := 2, action := .delete, payload := none }

/-- The account is approved, follows the subject, and is banned; the roster still shows it as approved. -/
def banned : Index Memory :=
  Index.acts {} ⟨{}, {}⟩ [
    .request (.createActor (.fresh did .approved "" ⟨0, 0⟩)) ⟨0, 0⟩,
    .sync,
    .handle follow ⟨0, 0⟩,
    .request (.setActorStatus did .banned) ⟨0, 0⟩]

set_option maxRecDepth 100000 in
/-- The ban is stored, and unfollowing the subject undoes it. -/
theorem ban_undone :
    (Memory.ledger banned.store).status did = some .banned ∧
      (Memory.ledger (banned.act {} (.handle unfollow ⟨0, 0⟩)).store).status did = some .optedOut := by
  decide +kernel

set_option maxRecDepth 100000 in
theorem ban_stored : (Memory.ledger (banned.act {} .sync).store).status did = some .banned := by
  decide +kernel

set_option maxRecDepth 100000 in
theorem ban_shown : ((banned.act {} .sync).roster.get? did).map (·.status) = some .banned := by
  decide +kernel

/-- Once the roster has been taken anew, the ban stands whatever the account does. -/
theorem ban_stands :
    Stands {} (banned.act {} .sync) did .banned [.handle unfollow ⟨0, 0⟩, .sync, .handle follow ⟨0, 0⟩] := by
  have empty : Sound (⟨{}, {}⟩ : Index Memory).store := Memory.sound_empty
  have sound : Sound banned.store := sound_acts empty _
  have shows : (banned.act {} .sync).roster.ShowsOnly did .banned := by
    intro actor known
    have shown := ban_shown
    rw [known] at shown
    exact Option.some.inj shown
  exact (decision_stands_iff {} (sound_act sound .sync) rfl ban_stored (by decide)).2 shows

end StaleDecision

end FeedIndex
