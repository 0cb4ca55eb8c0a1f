import FeedIndex.Proofs.Course

/-!
# Records

What an event does to the rows of records. It can only touch the row of its own record: the address of an
account's record tells the account, the collection and the key apart. A creation adds the row or changes
nothing, and a deletion by an account that is known marks the row if there is one.
-/

namespace FeedIndex

open LedgerStore

/-! ## Addresses -/

namespace RecordUri

/-- A text is cut in one way only at the first separator. -/
theorem cut_unique {sep : Char} {before after before' after' : List Char}
    (h : before ++ sep :: after = before' ++ sep :: after') (hbefore : sep ∉ before)
    (hbefore' : sep ∉ before') : before = before' ∧ after = after' := by
  induction before generalizing before' with
  | nil =>
    rcases before' with _ | ⟨c, cs⟩
    · exact ⟨rfl, (List.cons.inj h).2⟩
    · exact absurd (List.mem_cons.mpr (.inl (List.cons.inj h).1)) hbefore'
  | cons c cs ih =>
    rcases before' with _ | ⟨c', cs'⟩
    · -- the other text ends here, so the first one would hold the separator
      exact absurd (List.mem_cons.mpr (.inl (List.cons.inj h).1.symm)) hbefore
    · obtain ⟨rfl, htail⟩ := List.cons.inj h
      have hcs : sep ∉ cs := fun hmem => hbefore (List.mem_cons_of_mem _ hmem)
      have hcs' : sep ∉ cs' := fun hmem => hbefore' (List.mem_cons_of_mem _ hmem)
      obtain ⟨rfl, rfl⟩ := ih htail hcs hcs'
      exact ⟨rfl, rfl⟩

theorem slash_not_mem_did {did : String} (valid : Did.isValid did = true) : '/' ∉ did.toList := by
  intro hmem
  unfold Did.isValid Did.wellFormed at valid
  simp only [Bool.and_eq_true, List.all_eq_true] at valid
  have allowed := valid.2.1 '/' hmem
  revert allowed
  decide

theorem slash_not_mem_collection {name : String} (indexed : (Collection.ofName name).table? ≠ none) :
    '/' ∉ name.toList := by
  unfold Collection.ofName at indexed
  split at indexed
  · next h => rw [h]; decide
  split at indexed
  · next h => rw [h]; decide
  split at indexed
  · next h => rw [h]; decide
  split at indexed
  · exact absurd rfl indexed
  · exact absurd rfl indexed

theorem toList_render (uri : RecordUri) : uri.render.toList =
    "at://".toList ++ (uri.did.toList ++ '/' :: (uri.collection.toList ++ '/' :: uri.rkey.toList)) := by
  unfold render
  simp only [String.toList_append, List.append_assoc]
  rfl

/-- **Addresses tell records apart**, those of accounts in collections that are indexed. -/
theorem eq_of_render_eq {a b : RecordUri} (h : a.render = b.render) (valid : Did.isValid a.did = true)
    (valid' : Did.isValid b.did = true) (indexed : (Collection.ofName a.collection).table? ≠ none)
    (indexed' : (Collection.ofName b.collection).table? ≠ none) : a = b := by
  have texts := congrArg String.toList h
  rw [toList_render, toList_render] at texts
  have tails := List.append_cancel_left texts
  obtain ⟨hdid, rest⟩ := cut_unique tails (slash_not_mem_did valid) (slash_not_mem_did valid')
  obtain ⟨hcollection, hrkey⟩ := cut_unique rest (slash_not_mem_collection indexed)
    (slash_not_mem_collection indexed')
  obtain ⟨did, collection, rkey⟩ := a
  obtain ⟨did', collection', rkey'⟩ := b
  obtain rfl := String.toList_injective hdid
  obtain rfl := String.toList_injective hcollection
  obtain rfl := String.toList_injective hrkey
  rfl

end RecordUri

/-- The record that an event is about. -/
def Event.record (event : Event) : RecordUri := ⟨event.did, event.collection, event.rkey⟩

namespace Handler

variable {σ : Type} [Store σ] [LedgerStore σ] {handler : Handler} {event : Event} {now : Timestamp}
  {index mid : Index σ}

/-! ## Rows on the course of an event -/

/-- A request of an event changes no row but its own, and that one as the event says. -/
theorem RequestOf.apply_mark {request : StoreOperation} (own : RequestOf event request) (now : Timestamp)
    (l : Ledger) (table : Table) (uri : String) :
    (l.apply now request).mark table uri = l.mark table uri ∨
      (event.table? = some table ∧ event.uri = uri) ∧
        (event.action = .create ∧ (l.apply now request).mark table uri =
            (l.mark table uri).or (some none) ∨
          event.action = .delete ∧ (l.apply now request).mark table uri =
            (l.mark table uri).map (·.or (some now))) := by
  cases own with
  | silent keeps =>
    left
    rw [keeps]
  | @add own kind action adds =>
    rw [Ledger.apply_of_added? adds]
    by_cases h : table = own ∧ uri = event.uri
    · obtain ⟨rfl, rfl⟩ := h
      right
      refine ⟨⟨kind, rfl⟩, .inl ⟨action, ?_⟩⟩
      simp [Ledger.addRecord]
    · left
      simp [Ledger.addRecord, h]
  | @delete own kind action deletes =>
    rw [Ledger.apply_of_deleted? deletes]
    by_cases h : table = own ∧ uri = event.uri
    · obtain ⟨rfl, rfl⟩ := h
      right
      refine ⟨⟨kind, rfl⟩, .inr ⟨action, ?_⟩⟩
      simp [Ledger.deleteRecord]
    · left
      simp [Ledger.deleteRecord, h]

/-- All along its course an event changes no row but its own, and that one as it says. -/
theorem Course.mark (course : Course handler event now index mid) (table : Table) (uri : String) :
    (ledger mid.store).mark table uri = (ledger index.store).mark table uri ∨
      (event.table? = some table ∧ event.uri = uri) ∧
        (event.action = .create ∧ (ledger mid.store).mark table uri =
            ((ledger index.store).mark table uri).or (some none) ∨
          event.action = .delete ∧ (ledger mid.store).mark table uri =
            ((ledger index.store).mark table uri).map (·.or (some now))) := by
  induction course with
  | start => exact .inl rfl
  | account _ _ _ filed ih =>
    rw [filed.ledger_eq, AccountChange.apply_mark]
    exact ih
  | @request mid request _ own ih =>
    have step := own.apply_mark now (ledger mid.store) table uri
    rw [← ledger_after] at step
    dsimp only at ih ⊢
    rcases step with same | ⟨about, ⟨action, added⟩ | ⟨action, deleted⟩⟩
    · rw [same]
      exact ih
    · -- adding a row twice is adding it once
      refine .inr ⟨about, .inl ⟨action, ?_⟩⟩
      rw [added]
      rcases ih with same | ⟨-, ⟨-, before⟩ | ⟨other, -⟩⟩
      · rw [same]
      · rw [before]
        rcases (ledger index.store).mark table uri with _ | _ <;> rfl
      · rw [action] at other
        cases other
    · refine .inr ⟨about, .inr ⟨action, ?_⟩⟩
      rw [deleted]
      rcases ih with same | ⟨-, ⟨other, -⟩ | ⟨-, before⟩⟩
      · rw [same]
      · rw [action] at other
        cases other
      · rw [before]
        rcases (ledger index.store).mark table uri with _ | _ | _ <;> rfl

/-! ## The row of a record -/

variable {record : RecordUri} {table : Table}

/-- **Effect** — what handling an event, or writing the post that was planned for it, may do to an index: it
follows the course of the event, and if the account has no valid identifier it does nothing. -/
structure Effect (handler : Handler) (event : Event) (now : Timestamp) (index mid : Index σ) : Prop where
  course : Course handler event now index mid
  nothing : Did.isValid event.did = false → mid = index

theorem effect_run (sound : Sound index.store) : Effect handler event now index (handler.run event now index).2 where
  course := course_run handler event now sound
  nothing := run_of_invalid now

theorem effect_written {post : PostRow} (planned : Planned handler event now post) :
    Effect handler event now index ((storing (Store.createPost post)).run.run index).2 where
  course := by
    obtain ⟨huri, hdeleted⟩ := uri_of_postRow? planned.decided
    have own : RequestOf event (.createPost post) := by
      refine .add (congrArg Collection.table? planned.kind) planned.action ?_
      rw [Ledger.added?, huri, hdeleted]
    rw [run_entering (.createPost post) rfl]
    exact .request .start own
  nothing invalid := by
    rw [planned.valid] at invalid
    cases invalid

/-- An event about another record leaves the row alone. -/
theorem Effect.mark_of_ne (effect : Effect handler event now index mid)
    (indexed : (Collection.ofName record.collection).table? = some table)
    (valid : Did.isValid record.did = true) (other : event.record ≠ record) :
    (ledger mid.store).mark table record.render = (ledger index.store).mark table record.render := by
  by_cases valid' : Did.isValid event.did = true
  · rcases effect.course.mark table record.render with same | ⟨⟨kind, huri⟩, -⟩
    · exact same
    · -- an event at this address is about this record
      refine absurd (RecordUri.eq_of_render_eq huri valid' valid ?_ ?_) other
      · show event.table? ≠ none
        rw [kind]
        exact nofun
      · rw [indexed]
        exact nofun
  · rw [effect.nothing (Bool.eq_false_iff.mpr valid')]

/-- A request that deletes a row marks it, if it is there. -/
theorem mark_after_of_deletes {request : StoreOperation} {uri : String}
    (deletes : Ledger.deleted? request = some (table, uri)) (now : Timestamp) (store : σ) :
    (ledger (request.after now store)).mark table uri =
      ((ledger store).mark table uri).map (·.or (some now)) := by
  rw [ledger_after, Ledger.apply_of_deleted? deletes]
  simp [Ledger.deleteRecord]

theorem mark_withoutFollow (event : Event) (now : Timestamp) (store : σ) :
    (ledger (withoutFollow event now store)).mark .follows event.uri =
      ((ledger store).mark .follows event.uri).map (·.or (some now)) := by
  have looked : ledger ((StoreOperation.getFollow event.uri).after now store) = ledger store :=
    ledger_after now _ store
  unfold withoutFollow
  rw [mark_after_of_deletes rfl, looked]

/-- A follow of an account that is known is deleted, if it is there. -/
theorem mark_run_of_unfollows (sound : Sound index.store) {actor : Actor}
    (unfollows : Unfollows event index.roster actor) :
    (ledger (handler.run event now index).2.store).mark .follows event.uri =
      ((ledger index.store).mark .follows event.uri).map (·.or (some now)) := by
  obtain ⟨row, stored, hrow⟩ := getFollow_answer event.uri index.store
  rcases row with _ | row
  · -- without a row there is nothing to mark
    have absent : (ledger index.store).mark .follows event.uri = none := by
      rw [← Option.isNone_iff_eq_none, ← Option.not_isSome, ← hrow]
      rfl
    rcases (course_run handler event now sound).mark .follows event.uri with
      same | ⟨-, ⟨other, -⟩ | ⟨-, deleted⟩⟩
    · rw [same, absent]
      rfl
    · rw [unfollows.action] at other
      cases other
    · exact deleted
  · have deleted := mark_withoutFollow event now index.store
    rw [run_unfollows now unfollows, run_followDeleted handler event now index actor stored]
    rcases deletionOutcome event now index.store with failure | ⟨⟩
    · exact deleted
    dsimp only
    split
    · -- moving the account on leaves the row as it is
      have filed := run_unfollowedSubject { index with store := withoutFollow event now index.store }
        (sound_withoutFollow sound) event.did actor
      rcases changes : AccountChange.onUnfollow? actor with _ | change
      · rw [changes] at filed
        rw [filed]
        exact deleted
      · rw [changes] at filed
        rw [filed.ledger_eq, AccountChange.apply_mark]
        exact deleted
    · exact deleted

/-- A deletion by an account that is known marks the row, if there is one. -/
theorem mark_run_of_delete (sound : Sound index.store) (kind : event.table? = some table)
    (action : event.action = .delete) (valid : Did.isValid event.did = true)
    (known : (index.roster.get? event.did).isSome = true) :
    (ledger (handler.run event now index).2.store).mark table event.uri =
      ((ledger index.store).mark table event.uri).map (·.or (some now)) := by
  unfold Event.table? at kind
  rcases hkind : Collection.ofName event.collection <;> rw [hkind] at kind <;> cases kind
  case post =>
    rw [run_deletedPost now valid hkind action known]
    exact mark_after_of_deletes rfl now index.store
  case like =>
    rw [run_deletedLike now valid hkind action known]
    exact mark_after_of_deletes rfl now index.store
  case follow =>
    obtain ⟨actor, hactor⟩ := Option.isSome_iff_exists.mp known
    exact mark_run_of_unfollows sound ⟨valid, hkind, action, hactor⟩

omit [Store σ] [LedgerStore σ] in
/-- A row that has been marked does not live. -/
theorem marked_ne_live (mark : Option (Option Timestamp)) (now : Timestamp) :
    mark.map (·.or (some now)) ≠ some none := by
  rcases mark with _ | _ | deletedAt <;> exact nofun

omit [Store σ] [LedgerStore σ] in
/-- A row that was added and lives was not there, or lived before. -/
theorem eq_none_of_added {mark : Option (Option Timestamp)} (added : mark.or (some none) = some none)
    (before : mark ≠ some none) : mark = none := by
  rcases mark with _ | _ | deletedAt
  · rfl
  · exact absurd rfl before
  · cases added

/-- **A row comes to life** only by the creation of its record, and only where there was none. -/
theorem Effect.created_of_live (effect : Effect handler event now index mid)
    (indexed : (Collection.ofName record.collection).table? = some table)
    (valid : Did.isValid record.did = true)
    (before : (ledger index.store).mark table record.render ≠ some none)
    (after : (ledger mid.store).mark table record.render = some none) :
    event.record = record ∧ event.action = .create ∧
      (ledger index.store).mark table record.render = none := by
  have own : event.record = record := by
    by_contra other
    rw [effect.mark_of_ne indexed valid other] at after
    exact before after
  rcases effect.course.mark table record.render with same | ⟨-, ⟨action, added⟩ | ⟨-, deleted⟩⟩
  · rw [same] at after
    exact absurd after before
  · rw [added] at after
    exact ⟨own, action, eq_none_of_added after before⟩
  · rw [deleted] at after
    exact absurd after (marked_ne_live _ now)

/-- A row that lives goes on to do so until its record is deleted. -/
theorem Effect.live_of_live (effect : Effect handler event now index mid)
    (indexed : (Collection.ofName record.collection).table? = some table)
    (valid : Did.isValid record.did = true)
    (before : (ledger index.store).mark table record.render = some none)
    (kept : event.record = record → event.action ≠ .delete) :
    (ledger mid.store).mark table record.render = some none := by
  by_cases own : event.record = record
  · rcases effect.course.mark table record.render with same | ⟨-, ⟨-, added⟩ | ⟨action, -⟩⟩
    · rw [same, before]
    · rw [added, before]
      rfl
    · exact absurd action (kept own)
  · rw [effect.mark_of_ne indexed valid own, before]

/-- A row does not live after its record was deleted by an account that is known. -/
theorem not_live_run_of_delete (sound : Sound index.store)
    (indexed : (Collection.ofName record.collection).table? = some table)
    (valid : Did.isValid record.did = true) (known : (index.roster.get? record.did).isSome = true)
    (own : event.record = record) (action : event.action = .delete) :
    (ledger (handler.run event now index).2.store).mark table record.render ≠ some none := by
  subst own
  have deleted : (ledger (handler.run event now index).2.store).mark table event.record.render = _ :=
    mark_run_of_delete sound indexed action valid known
  rw [deleted]
  exact marked_ne_live _ now

end Handler

end FeedIndex
