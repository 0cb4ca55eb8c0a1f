import FeedIndex.Proofs.Independence
import FeedIndex.Proofs.Prefixes
import FeedIndex.Proofs.Requests

/-!
# Events that come again

After a restart, events come again that were handled already, from some point of the run on. This restores every
status, for a status is what the last signal makes of it, and the signals of the first pass are signals of the
second. The rows are another matter. They stay as they are only if no event that comes again has something to add
or to delete by then: a deletion that was there before its record, or a creation that was refused before its
account joined, is made up for in the second pass.
-/

namespace FeedIndex

open ActorStatus (joined left IsClosed isClosed_left left_eq_of_joined_eq)
open Tables (SameRows Within)

variable {L : Schema}

namespace Handler

variable {handler : Handler} {index : Index (Tables L)} {did : String}

/-! ## Runs of a faithful index -/

section

variable (handler : Handler) (faithful : index.Faithful) (events : List (Event × Timestamp))

include faithful

theorem faithful_takeAll : (handler.takeAll events index).Faithful := by
  induction events generalizing index with
  | nil => exact faithful
  | cons event rest ih => exact ih (faithful.take handler event.1 event.2)

theorem within_takeAll : index.store.Within (handler.takeAll events index).store := by
  induction events generalizing index with
  | nil => exact .refl _
  | cons event rest ih =>
    have taken := faithful.take handler event.1 event.2
    exact (within_take faithful).trans (ih taken)

theorem known_takeAll (known : index.store.status did ≠ none) :
    (handler.takeAll events index).store.status did ≠ none := by
  induction events generalizing index with
  | nil => exact known
  | cons event rest ih =>
    exact ih (faithful.take handler event.1 event.2) (known_take faithful known)

theorem joined_takeAll (did : String) :
    joined ((handler.takeAll events index).store.status did) = joined (index.store.status did) := by
  induction events generalizing index with
  | nil => rfl
  | cons event rest ih =>
    exact (ih (faithful.take handler event.1 event.2)).trans (joined_take faithful did)

end

/-- If a run leaves the rows as they are, so does its first event. -/
theorem met_of_sameRows_takeAll (faithful : index.Faithful) {event : Event × Timestamp}
    {rest : List (Event × Timestamp)} (same : SameRows index.store (handler.takeAll (event :: rest) index).store) :
    handler.Met event.1 event.2 index := by
  have taken := faithful.take handler event.1 event.2
  have back : (handler.take event.1 event.2 index).store.Within index.store :=
    (within_takeAll handler taken rest).trans same.symm.within
  exact (sameRows_take_iff faithful).mp ((within_take faithful).antisymm back)

/-- If a run leaves the rows as they are, the roster shows an account as before, or as it is stored. -/
theorem shown_takeAll (faithful : index.Faithful) {events : List (Event × Timestamp)}
    (same : SameRows index.store (handler.takeAll events index).store) (did : String) :
    (handler.takeAll events index).roster.get? did = index.roster.get? did ∧
        (handler.takeAll events index).store.accounts did = index.store.accounts did ∨
      (handler.takeAll events index).roster.get? did = (handler.takeAll events index).store.actor? did := by
  induction events generalizing index with
  | nil => exact .inl ⟨rfl, rfl⟩
  | cons event rest ih =>
    have met := met_of_sameRows_takeAll faithful same
    have rest_same := ((sameRows_take_iff faithful).mpr met).symm.trans same
    have later := ih (faithful.take handler event.1 event.2) rest_same
    show (handler.takeAll rest (handler.take event.1 event.2 index)).roster.get? did = _ ∧ _ ∨ _ = _
    rcases later with ⟨shown, account⟩ | stored
    · rcases shown_take faithful met did with ⟨shown', account'⟩ | stored'
      · exact .inl ⟨shown.trans shown', account.trans account'⟩
      · refine .inr (shown.trans (stored'.trans ?_))
        exact congrArg (Option.bind · L.actor?) account.symm
    · exact .inr stored

/-! ### What is still to come -/

/-- **WillJoin** — one of the events joins the account. -/
def WillJoin (handler : Handler) (did : String) (events : List (Event × Timestamp)) : Prop :=
  ∃ event ∈ events, event.1.did = did ∧ handler.Joins event.1

theorem WillJoin.cons {event : Event × Timestamp} {rest : List (Event × Timestamp)}
    (will : WillJoin handler did rest) : WillJoin handler did (event :: rest) := by
  obtain ⟨other, listed, joins⟩ := will
  exact ⟨other, List.mem_cons_of_mem _ listed, joins⟩

theorem WillJoin.of_cons {event : Event × Timestamp} {rest : List (Event × Timestamp)}
    (will : WillJoin handler did (event :: rest)) (other : ¬ (event.1.did = did ∧ handler.Joins event.1)) :
    WillJoin handler did rest := by
  obtain ⟨joining, listed, joins⟩ := will
  rcases List.mem_cons.mp listed with rfl | listed
  · exact absurd joins other
  · exact ⟨joining, listed, joins⟩

/-- An account that becomes known joins on the way. -/
theorem willJoin_of_known (faithful : index.Faithful) {events : List (Event × Timestamp)}
    (unknown : index.store.status did = none) (known : (handler.takeAll events index).store.status did ≠ none) :
    WillJoin handler did events := by
  induction events generalizing index with
  | nil => exact absurd unknown known
  | cons event rest ih =>
    by_cases still : (handler.take event.1 event.2 index).store.status did = none
    · exact (ih (faithful.take handler event.1 event.2) still known).cons
    · exact ⟨event, List.mem_cons_self, joins_of_known_take faithful unknown still⟩

/-- An account joins on the way if a follow of the subject comes to one of its addresses. -/
theorem willJoin_of_pointsTo (faithful : index.Faithful) {events : List (Event × Timestamp)} {key : String}
    (valid : Did.isValid did = true) (absent : ¬ index.store.PointsTo (address did key) handler.subject)
    (points : (handler.takeAll events index).store.PointsTo (address did key) handler.subject) :
    WillJoin handler did events := by
  induction events generalizing index with
  | nil => exact absurd points absent
  | cons event rest ih =>
    by_cases come : (handler.take event.1 event.2 index).store.PointsTo (address did key) handler.subject
    · obtain ⟨joins, place⟩ := (pointsTo_take faithful come).resolve_left absent
      obtain ⟨follow, follows⟩ := joins
      rw [Event.uri_eq_address] at place
      exact ⟨event, List.mem_cons_self, eq_of_address_eq place follows.valid valid, follow, follows⟩
    · exact (ih (faithful.take handler event.1 event.2) come points).cons

/-! ### What was signalled -/

/-- **Signals** — the event is a signal of the account: it joins, or it leaves by a follow that stands in the
tables. -/
def Signals (handler : Handler) (t : Tables L) (did : String) (event : Event) : Prop :=
  event.did = did ∧ (handler.Joins event ∨ handler.Leaves event t)

/-- **Signalled** — one of the events is a signal of the account. -/
def Signalled (handler : Handler) (t : Tables L) (did : String) (events : List (Event × Timestamp)) : Prop :=
  ∃ event ∈ events, handler.Signals t did event.1

theorem signalled_append_singleton {t : Tables L} {events : List (Event × Timestamp)} {event : Event × Timestamp} :
    Signalled handler t did (events ++ [event]) ↔
      Signalled handler t did events ∨ handler.Signals t did event.1 := by
  unfold Signalled
  simp only [List.mem_append, List.mem_singleton, or_and_right, exists_or, exists_eq_left]

/-- The status of an account changes only by its signals. -/
theorem status_take_of_not_signals {event : Event} {now : Timestamp} (faithful : index.Faithful)
    (quiet : ¬ handler.Signals index.store did event) :
    (handler.take event now index).store.status did = index.store.status did := by
  by_cases own : did = event.did
  · refine status_take_still faithful (fun joins => quiet ⟨own.symm, .inl joins⟩) ?_ did
    exact fun leaves => quiet ⟨own.symm, .inr leaves⟩
  · exact status_take_of_ne faithful own

theorem Signals.mono {t t' : Tables L} {event : Event} (within : t.Within t')
    (signals : handler.Signals t did event) : handler.Signals t' did event := by
  obtain ⟨own, joins | ⟨valid, kind, action, points⟩⟩ := signals
  · exact ⟨own, .inl joins⟩
  · exact ⟨own, .inr ⟨valid, kind, action, within.pointsTo points⟩⟩

/-! ## The second pass beside the first -/

/-- **Replaying** — where the second pass stands when the same events are to come as in the first pass, whose last
state is where the second one began. -/
structure Replaying (handler : Handler) (last : Index (Tables L)) (seen rest : List (Event × Timestamp))
    (first second : Index (Tables L)) : Prop where
  faithful_first : first.Faithful
  faithful_second : second.Faithful
  last_eq : handler.takeAll rest first = last
  within : last.store.Within second.store
  joined_eq (did : String) : joined (first.store.status did) = joined (second.store.status did)
  /-- The second pass meets no new follows of the subject. -/
  points (uri : String) :
    second.store.PointsTo uri handler.subject ↔ last.store.PointsTo uri handler.subject
  /-- The second pass meets no new accounts. -/
  known (did : String) : second.store.status did = none ↔ last.store.status did = none
  unsignalled (did : String) : ¬ Signalled handler last.store did seen →
    second.store.status did = last.store.status did
  /-- From its first signal on an account stands as in the first pass, or it waits to join. -/
  signalled (did : String) : Signalled handler last.store did seen →
    second.store.status did = first.store.status did ∨
      IsClosed (second.store.status did) ∧ WillJoin handler did rest

/-- Where the second pass begins. -/
theorem Replaying.start (faithful : index.Faithful) (rest : List (Event × Timestamp)) :
    Replaying handler (handler.takeAll rest index) [] rest index (handler.takeAll rest index) where
  faithful_first := faithful
  faithful_second := faithful_takeAll handler faithful rest
  last_eq := rfl
  within := .refl _
  joined_eq did := (joined_takeAll handler faithful rest did).symm
  points _ := Iff.rfl
  known _ := Iff.rfl
  unsignalled _ _ := rfl
  signalled did h := by
    obtain ⟨event, listed, -⟩ := h
    cases listed

namespace Replaying

variable {last first second : Index (Tables L)} {seen rest : List (Event × Timestamp)} {event : Event}
  {now later : Timestamp}

theorem faithful_last (replaying : Replaying handler last seen rest first second) : last.Faithful := by
  rw [← replaying.last_eq]
  exact faithful_takeAll handler replaying.faithful_first rest

theorem next_eq (replaying : Replaying handler last seen ((event, now) :: rest) first second) :
    handler.takeAll rest (handler.take event now first) = last := replaying.last_eq

/-- What the first pass wanted is there in the second, so it is not wanted again. -/
theorem met_of_wanted?_eq (replaying : Replaying handler last seen ((event, now) :: rest) first second)
    (creates : event.action ≠ .delete)
    (same : handler.wanted? event later second = handler.wanted? event later first) :
    handler.Met event later second := by
  intro request wanted
  rw [same, ← wanted?_retime creates now later] at wanted
  obtain ⟨earlier, wanted', rfl⟩ := Option.map_eq_some_iff.mp wanted
  have creation := (does_of_wanted? wanted').enters.1 creates
  have taken := replaying.faithful_first.take handler event now
  have reached : (handler.take event now first).store.Within second.store := by
    have run := within_takeAll handler taken rest
    rw [replaying.next_eq] at run
    exact run.trans replaying.within
  have held := reached.holds creation (holds_take replaying.faithful_first wanted')
  exact Tables.holds_retime.mpr held

/-- An account that joins is known after the first pass. -/
theorem known_of_joins (replaying : Replaying handler last seen ((event, now) :: rest) first second)
    (joins : handler.Joins event) : second.store.status event.did ≠ none := by
  have taken := replaying.faithful_first.take handler event now
  have joined : (handler.take event now first).store.status event.did ≠ none := by
    rw [status_take_joins replaying.faithful_first joins]
    exact nofun
  have known := known_takeAll handler taken rest joined
  rw [replaying.next_eq] at known
  exact fun unknown => known ((replaying.known event.did).mp unknown)

theorem met_of_joins (replaying : Replaying handler last seen ((event, now) :: rest) first second)
    (joins : handler.Joins event) (later : Timestamp) : handler.Met event later second := by
  have creates : event.action ≠ .delete := fun deletes => not_joins_of_delete deletes joins
  exact replaying.met_of_wanted?_eq creates (wanted?_of_joins joins second first)

/-- **What the second pass would change**: what the event would change after the first pass, but for creations of
accounts that have signalled. -/
theorem met_iff (replaying : Replaying handler last seen ((event, now) :: rest) first second)
    (later : Timestamp) (same : SameRows second.store last.store) :
    handler.Met event later second ↔
      handler.Met event later last ∨ event.action ≠ .delete ∧ Signalled handler last.store event.did seen := by
  have faithful := replaying.faithful_last
  have met_iff_of_wanted?_eq (wanted : handler.wanted? event later second = handler.wanted? event later last) :
      handler.Met event later second ↔ handler.Met event later last := by
    unfold Met
    rw [wanted]
    exact forall₂_congr fun request _ => ⟨same.holds, same.symm.holds⟩
  by_cases deletes : event.action = .delete
  · rw [met_iff_of_wanted?_eq (wanted?_congr_of_delete replaying.faithful_second faithful deletes same
      (replaying.known event.did))]
    simp [deletes]
  by_cases signalled : Signalled handler last.store event.did seen
  · refine iff_of_true ?_ (.inr ⟨deletes, signalled⟩)
    by_cases joins : handler.Joins event
    · exact replaying.met_of_joins joins later
    rcases replaying.signalled event.did signalled with status | ⟨closed, -⟩
    · exact replaying.met_of_wanted?_eq deletes
        (wanted?_congr replaying.faithful_second replaying.faithful_first deletes status)
    · intro request wanted
      rw [wanted?_of_closed replaying.faithful_second deletes joins closed] at wanted
      cases wanted
  · have status := replaying.unsignalled event.did signalled
    rw [met_iff_of_wanted?_eq (wanted?_congr replaying.faithful_second faithful deletes status)]
    simp [signalled]

/-! ### One event -/

theorem points_take (replaying : Replaying handler last seen ((event, now) :: rest) first second) (uri : String) :
    (handler.take event later second).store.PointsTo uri handler.subject ↔
      last.store.PointsTo uri handler.subject := by
  rw [← replaying.points]
  constructor
  · intro points
    rcases pointsTo_take replaying.faithful_second points with old | ⟨joins, -⟩
    · exact old
    · have same := (sameRows_take_iff replaying.faithful_second).mpr
        (replaying.met_of_joins joins later)
      exact same.symm.within.pointsTo points
  · exact (within_take replaying.faithful_second).pointsTo

/-- What an account that leaves comes to in both passes. -/
theorem leaves_take (replaying : Replaying handler last seen ((event, now) :: rest) first second)
    (leaves : handler.Leaves event last.store) :
    (handler.take event later second).store.status event.did =
        (handler.take event now first).store.status event.did ∨
      IsClosed ((handler.take event later second).store.status event.did) ∧
        WillJoin handler event.did rest := by
  have taken := replaying.faithful_first.take handler event now
  have last_eq := replaying.next_eq
  have stays : ¬ handler.Joins event := not_joins_of_delete leaves.action
  have leaves' : handler.Leaves event second.store :=
    ⟨leaves.valid, leaves.kind, leaves.action, (replaying.points event.uri).mpr leaves.points⟩
  rw [status_take_leaves replaying.faithful_second leaves']
  rcases status : second.store.status event.did with _ | status'
  · -- the account is known to neither pass
    left
    by_contra other
    refine known_takeAll handler taken rest (Ne.symm other) ?_
    rw [last_eq]
    exact (replaying.known event.did).mp status
  have known : last.store.status event.did ≠ none := by
    intro unknown
    rw [(replaying.known event.did).mpr unknown] at status
    cases status
  rw [← last_eq] at known
  rcases before : first.store.status event.did with _ | status₀
  · -- the first pass gets to know it later
    refine .inr ⟨isClosed_left status', willJoin_of_known taken ?_ known⟩
    by_contra come
    exact stays (joins_of_known_take replaying.faithful_first before come).2
  by_cases standing : handler.Leaves event first.store
  · left
    rw [status_take_leaves replaying.faithful_first standing, before]
    have class_eq := replaying.joined_eq event.did
    rw [before, status] at class_eq
    exact congrArg some (left_eq_of_joined_eq class_eq).symm
  · -- the first pass gets to the follow later
    refine .inr ⟨isClosed_left status', ?_⟩
    have absent : ¬ (handler.take event now first).store.PointsTo event.uri handler.subject := by
      intro points
      rcases pointsTo_take replaying.faithful_first points with old | ⟨joins, -⟩
      · exact standing ⟨leaves.valid, leaves.kind, leaves.action, old⟩
      · exact stays joins
    have points := leaves.points
    rw [← last_eq] at points
    rw [Event.uri_eq_address] at absent points
    exact willJoin_of_pointsTo taken leaves.valid absent points

/-- **One event** handled again. -/
theorem step (replaying : Replaying handler last seen ((event, now) :: rest) first second) (later : Timestamp) :
    Replaying handler last (seen ++ [(event, later)]) rest (handler.take event now first)
      (handler.take event later second) := by
  have taken := replaying.faithful_first.take handler event now
  have within_first : first.store.Within last.store := by
    rw [← replaying.last_eq]
    exact within_takeAll handler replaying.faithful_first _
  have quiet_first {did : String} (quiet : ¬ handler.Signals last.store did event) :
      (handler.take event now first).store.status did = first.store.status did :=
    status_take_of_not_signals replaying.faithful_first fun signals => quiet (signals.mono within_first)
  have quiet_second {did : String} (quiet : ¬ handler.Signals last.store did event) :
      (handler.take event later second).store.status did = second.store.status did := by
    refine status_take_of_not_signals replaying.faithful_second fun signals => quiet ?_
    obtain ⟨own, joins | ⟨valid, kind, action, points⟩⟩ := signals
    · exact ⟨own, .inl joins⟩
    · exact ⟨own, .inr ⟨valid, kind, action, (replaying.points event.uri).mp points⟩⟩
  refine
    { faithful_first := taken
      faithful_second := replaying.faithful_second.take handler event later
      last_eq := replaying.next_eq
      within := replaying.within.trans (within_take replaying.faithful_second)
      joined_eq := fun did => ?_
      points := replaying.points_take
      known := fun did => ?_
      unsignalled := fun did quiet => ?_
      signalled := fun did signalled => ?_ }
  · rw [joined_take replaying.faithful_first, joined_take replaying.faithful_second]
    exact replaying.joined_eq did
  · rw [← replaying.known]
    constructor
    · intro unknown
      by_contra known
      exact known_take replaying.faithful_second known unknown
    · intro unknown
      by_contra known
      obtain ⟨rfl, joins⟩ := joins_of_known_take replaying.faithful_second unknown known
      exact replaying.known_of_joins joins unknown
  · rw [signalled_append_singleton, not_or] at quiet
    rw [quiet_second quiet.2]
    exact replaying.unsignalled did quiet.1
  · by_cases signals : handler.Signals last.store did event
    · obtain ⟨rfl, joins | leaves⟩ := signals
      · left
        rw [status_take_joins replaying.faithful_first joins, status_take_joins replaying.faithful_second joins,
          replaying.joined_eq]
      · exact replaying.leaves_take leaves
    · have before := (signalled_append_singleton.mp signalled).resolve_right signals
      rw [quiet_first signals, quiet_second signals]
      refine (replaying.signalled did before).imp_right fun ⟨closed, will⟩ => ⟨closed, will.of_cons ?_⟩
      exact fun joins => signals ⟨joins.1, .inl joins.2⟩

/-! ### All the events -/

/-- **What a second pass leaves the same**: the tables but for the statuses, exactly if no event that comes again
would change a row by itself after the first pass, creations of accounts that have signalled apart. -/
theorem unstatused_iff {events : List (Event × Timestamp)}
    (replaying : Replaying handler last seen rest first second) (sameEvents : events.map (·.1) = rest.map (·.1))
    (same : second.store.unstatused = last.store.unstatused) :
    (handler.takeAll events second).store.unstatused = last.store.unstatused ↔
      ∀ before event, before ++ [event] <+: events → handler.Met event.1 event.2 last ∨
        event.1.action ≠ .delete ∧ Signalled handler last.store event.1.did (seen ++ before) := by
  induction events generalizing seen rest first second with
  | nil => exact iff_of_true same fun before event hbefore => absurd hbefore Prefixes.not_next_prefix_nil
  | cons head tail ih =>
    obtain ⟨event, later⟩ := head
    rcases rest with _ | ⟨⟨event', now⟩, rest⟩
    · cases sameEvents
    obtain ⟨rfl, sameRest⟩ := List.cons.inj sameEvents
    have rows := Tables.sameRows_of_unstatused same
    have decided := replaying.met_iff later rows
    rw [Prefixes.forall_next_cons_iff, List.append_nil]
    dsimp only at decided ⊢
    rw [← decided]
    by_cases met : handler.Met event later second
    · rw [and_iff_right met]
      have stored (joins : handler.Joins event) : second.store.accounts event.did ≠ none := by
        have known := replaying.known_of_joins joins
        exact fun absent => known (by rw [Tables.status, absent]; rfl)
      have stays := (unstatused_take replaying.faithful_second met stored).trans same
      have next := ih (replaying.step later) sameRest stays
      simp only [List.append_assoc, List.singleton_append] at next
      exact next
    · refine iff_of_false ?_ fun h => met h.1
      intro final
      have back := Tables.sameRows_of_unstatused (same.trans final.symm)
      exact met (met_of_sameRows_takeAll replaying.faithful_second back)

/-- The statuses come out the same. -/
theorem status_eq {events : List (Event × Timestamp)}
    (replaying : Replaying handler last seen rest first second) (sameEvents : events.map (·.1) = rest.map (·.1)) :
    (handler.takeAll events second).store.status = last.store.status := by
  induction events generalizing seen rest first second with
  | nil =>
    obtain rfl := List.map_eq_nil_iff.mp sameEvents.symm
    funext did
    by_cases signalled : Signalled handler last.store did seen
    · rcases replaying.signalled did signalled with same | ⟨-, event, listed, -⟩
      · rw [← replaying.last_eq]
        exact same
      · cases listed
    · exact replaying.unsignalled did signalled
  | cons head tail ih =>
    obtain ⟨event, later⟩ := head
    rcases rest with _ | ⟨⟨event', now⟩, rest⟩
    · cases sameEvents
    obtain ⟨rfl, sameRest⟩ := List.cons.inj sameEvents
    exact ih (replaying.step later) sameRest

end Replaying

end Handler

open LedgerStore TableStore Handler

/-- **What a replay leaves the same.** Events are handled, and those from some point on are handled again. Every
account has the status then that it had before, in the tables and in the roster. The tables are the same exactly if
each event that comes again would change no row if it came right after the first pass, or it creates and comes
after a signal of its account. If they are, the roster shows each account as it did before or as it is stored. -/
theorem replay_harmless_iff {σ : Type} [Store σ] [TableStore σ] (handler : Handler) {index : Index σ}
    (faithful : index.tabled.Faithful) (earlier events : List (Event × Timestamp)) {again : List (Event × Timestamp)}
    (same : again.map (·.1) = events.map (·.1)) {once twice : Index σ}
    (first : once = handler.runEach (earlier ++ events) index) (second : twice = handler.runEach again once) :
    (∀ did, (tables twice.store).status did = (tables once.store).status did ∧
      (twice.roster.get? did).map (·.status) = (once.roster.get? did).map (·.status)) ∧
    (tables twice.store = tables once.store ↔
      ∀ before event, before ++ [event] <+: again →
        SameRows (tables once.store) (tables (handler.run event.1 event.2 once).2.store) ∨
          event.1.action ≠ .delete ∧ Signalled handler (tables once.store) event.1.did before) ∧
    (tables twice.store = tables once.store → ∀ did,
      twice.roster.get? did = once.roster.get? did ∨ twice.roster.get? did = (tables twice.store).actor? did) := by
  have once_eq : once.tabled = handler.takeAll events (handler.takeAll earlier index.tabled) := by
    rw [first, tabled_runEach]
    exact List.foldl_append ..
  have twice_eq : twice.tabled = handler.takeAll again once.tabled := by rw [second, tabled_runEach]
  have earlier_faithful : (handler.takeAll earlier index.tabled).Faithful := faithful_takeAll handler faithful earlier
  have start : Replaying handler once.tabled [] events (handler.takeAll earlier index.tabled) once.tabled := by
    rw [once_eq]
    exact Replaying.start earlier_faithful events
  have once_faithful := start.faithful_second
  have twice_faithful : twice.tabled.Faithful := by
    rw [twice_eq]
    exact faithful_takeAll handler once_faithful again
  have statuses : (tables twice.store).status = (tables once.store).status := by
    have statuses := start.status_eq same
    rw [← twice_eq] at statuses
    exact statuses
  refine ⟨fun did => ⟨congrFun statuses did, ?_⟩, ?_, ?_⟩
  · exact (twice_faithful.agrees did).trans ((congrFun statuses did).trans (once_faithful.agrees did).symm)
  · have unchanged := start.unstatused_iff same rfl
    rw [← twice_eq] at unchanged
    have tables_iff : tables twice.store = tables once.store ↔
        twice.tabled.store.unstatused = once.tabled.store.unstatused :=
      ⟨congrArg Tables.unstatused, fun same => Tables.eq_of_unstatused same statuses⟩
    rw [tables_iff, unchanged]
    refine forall₃_congr fun before event _ => or_congr_left ?_
    rw [← sameRows_take_iff once_faithful, ← tabled_run]
    exact Iff.rfl
  · intro unchanged did
    have rows : SameRows once.tabled.store (handler.takeAll again once.tabled).store := by
      rw [← twice_eq]
      exact ⟨congrArg Tables.records unchanged.symm, congrArg Tables.profiles unchanged.symm⟩
    have shown := shown_takeAll once_faithful rows did
    rw [← twice_eq] at shown
    exact shown.imp_left And.left

/-! ### A deletion that comes again -/

namespace SecondPass

def did : String := "did:plc:hdhoaan3xa3jiuq4fg4mefid"

/-- A post of the account. -/
def creation : Event where
  seq := 2
  did := did
  action := .create
  collection := "app.bsky.feed.post"
  rkey := "p1"
  cid := none
  payload := some (.json "\x7b\"text\":\"hello\",\"createdAt\":\"2025-01-26T17:11:03Z\"\x7d")

/-- The deletion of an older post at that address. -/
def deletion : Event := { creation with seq := 1, action := .delete, payload := none }

/-- A follow of the subject. -/
def joining (rkey : String) : Event where
  seq := 3
  did := did
  action := .create
  collection := "app.bsky.graph.follow"
  rkey := rkey
  cid := none
  payload := some (.json
    "\x7b\"subject\":\"did:plc:jdkvwye2lf4mingzk7qdebzc\",\"createdAt\":\"2025-01-26T17:11:03Z\"\x7d")

/-- The deletion of the follow. -/
def leaving (rkey : String) : Event := { joining rkey with seq := 4, action := .delete, payload := none }

/-- Nothing is stored but the account, and the roster shows it. -/
def start (status : ActorStatus) : Index Memory :=
  Index.act {} (Index.act {} ⟨{}, {}⟩ (.request (.createActor (.fresh did status "" ⟨0, 0⟩)) ⟨0, 0⟩)) .sync

theorem faithful_start (status : ActorStatus) : (start status).tabled.Faithful := by
  have empty : Sound (⟨{}, {}⟩ : Index Memory).store := Memory.sound_empty
  have created : Sound (Index.act {} (⟨{}, {}⟩ : Index Memory)
      (.request (.createActor (.fresh did status "" ⟨0, 0⟩)) ⟨0, 0⟩)).store := sound_act empty _
  exact ⟨agrees_sync created rfl, fun _ _ _ => rfl, named_of_sound (sound_act created .sync)⟩

/-- The index after events that are handled at some time. -/
def pass (seconds : Int) (events : List Event) (index : Index Memory) : Index Memory :=
  Handler.runEach {} (events.map (·, ⟨seconds, 0⟩)) index

/-- What the store says of the post. -/
def mark (index : Index Memory) : Option (Option Timestamp) := (Memory.ledger index.store).mark .posts creation.uri

set_option maxRecDepth 100000 in
/-- **A second pass can do harm**: it deletes a post that was created after the deletion, and it stores a post that
was refused before its account came back. -/
theorem second_pass_changes_tables :
    ((start .approved).tabled.Faithful ∧
      mark (pass 1 [deletion, creation] (start .approved)) = some none ∧
      mark (pass 2 [deletion, creation] (pass 1 [deletion, creation] (start .approved))) = some (some ⟨2, 0⟩)) ∧
    ((start .optedOut).tabled.Faithful ∧
      mark (pass 1 [creation, joining "f1"] (start .optedOut)) = none ∧
      mark (pass 2 [creation, joining "f1"] (pass 1 [creation, joining "f1"] (start .optedOut))) = some none) :=
  ⟨⟨faithful_start .approved, by decide +kernel⟩, faithful_start .optedOut, by decide +kernel⟩

/-- The account leaves, posts, and comes back by another follow. -/
def detour : List Event := [joining "f1", leaving "f1", creation, joining "f2"]

/-- After one pass. -/
@[irreducible]
def once : Index Memory := Handler.runEach {} ([] ++ detour.map (·, ⟨1, 0⟩)) (start .approved)

/-- After two passes. -/
@[irreducible]
def twice : Index Memory := Handler.runEach {} (detour.map (·, ⟨2, 0⟩)) once

set_option maxRecDepth 100000 in
/-- The account is approved after both passes, and its post is refused in both: when it comes again, the account has
left again. -/
theorem detour_repeated :
    ((∀ did, (tables twice.store).status did = (tables once.store).status did ∧
        (twice.roster.get? did).map (·.status) = (once.roster.get? did).map (·.status)) ∧
      (tables twice.store = tables once.store ↔
        ∀ before event, before ++ [event] <+: detour.map (·, ⟨2, 0⟩) →
          SameRows (tables once.store) (tables (Handler.run {} event.1 event.2 once).2.store) ∨
            event.1.action ≠ .delete ∧ Signalled {} (tables once.store) event.1.did before) ∧
      (tables twice.store = tables once.store → ∀ did,
        twice.roster.get? did = once.roster.get? did ∨
          twice.roster.get? did = (tables twice.store).actor? did)) ∧
    mark once = none ∧ mark twice = none ∧
    (Memory.ledger twice.store).status did = some .approved ∧
    mark (pass 2 [creation] once) = some none := by
  have first : once = Handler.runEach {} ([] ++ detour.map (·, ⟨1, 0⟩)) (start .approved) := by unfold once; rfl
  have second : twice = Handler.runEach {} (detour.map (·, ⟨2, 0⟩)) once := by unfold twice; rfl
  have events : (detour.map (·, (⟨2, 0⟩ : Timestamp))).map (·.1) =
      (detour.map (·, (⟨1, 0⟩ : Timestamp))).map (·.1) := rfl
  exact ⟨replay_harmless_iff {} (faithful_start .approved) [] _ events first second, by decide +kernel⟩

end SecondPass

end FeedIndex
