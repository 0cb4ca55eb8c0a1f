import FeedIndex.Proofs.Retiming
import FeedIndex.Proofs.Signals

/-!
# Requests of an event

What an event adds to the records and profiles, or deletes of them, is its request. The tables can hold already what
it asks for; then only the status of its account may change. An event that creates asks for the status of its
account and for nothing else, at any time; one that deletes asks whether the account is known.
-/

namespace FeedIndex

open ActorStatus (IsClosed)
open Tables (SameRows Within)

variable {L : Schema}

/-- When a request comes is no matter to whether it is met. -/
theorem Tables.holds_retime {t : Tables L} {f : Timestamp → Timestamp} {request : StoreOperation} :
    t.Holds (request.retime f) ↔ t.Holds request := by
  cases request <;> exact Iff.rfl

namespace Handler

variable {handler : Handler} {event : Event} {now : Timestamp} {index : Index (Tables L)}

/-! ## What an event does to the rows -/

theorem Does.enters {request : StoreOperation} (does : Does handler event now index (.enter request)) :
    (event.action ≠ .delete → request.isCreation = true) ∧
      (request.isCreation = true ∨ request.isDeletion = true) := by
  cases does with
  | kept _ _ => exact ⟨fun _ => rfl, .inl rfl⟩
  | deleted unfollows _ => exact ⟨absurd unfollows.action, .inr rfl⟩
  | entry _ entry =>
    cases entry with
    | post _ _ _ _ | like _ _ _ _ | follow _ _ _ _ _ _ | profile _ _ _ _ => exact ⟨fun _ => rfl, .inl rfl⟩
    | deletedPost _ action _ | deletedLike _ action _ => exact ⟨absurd action, .inr rfl⟩

theorem sameRows_file? (did : String) (now : Timestamp) (change : Option AccountChange) (index : Index (Tables L)) :
    SameRows index.store (index.file? did now change).store := by
  rcases change with _ | change
  · exact ⟨rfl, rfl⟩
  · show SameRows index.store (index.file did now change).store
    rw [Index.store_file]
    cases change <;> exact ⟨rfl, rfl⟩

/-- What was wanted is there afterwards. -/
theorem holds_take (faithful : index.Faithful) {request : StoreOperation}
    (wanted : handler.wanted? event now index = some request) :
    (handler.take event now index).store.Holds request := by
  rw [take_eq faithful, wanted]
  exact Tables.holds_apply (does_of_wanted? wanted).enters.2 now _

/-- **Met** — the tables hold already what an event wants. -/
def Met (handler : Handler) (event : Event) (now : Timestamp) (index : Index (Tables L)) : Prop :=
  ∀ request, handler.wanted? event now index = some request → index.store.Holds request

/-- An event whose request is met does no more than file its account. -/
theorem take_eq_of_met (faithful : index.Faithful) (met : handler.Met event now index) :
    handler.take event now index = index.file? event.did now (handler.moved? event now index) := by
  have same := sameRows_file? event.did now (handler.moved? event now index) index
  rw [take_eq faithful]
  rcases wanted : handler.wanted? event now index with _ | request
  · rfl
  · exact congrArg (Index.mk · _) (Tables.apply_of_holds (same.holds (met request wanted)) now)

/-- An event changes a row exactly if its request is not met. -/
theorem sameRows_take_iff (faithful : index.Faithful) :
    SameRows index.store (handler.take event now index).store ↔ handler.Met event now index := by
  have filed := sameRows_file? event.did now (handler.moved? event now index) index
  constructor
  · intro same request wanted
    have enters := (does_of_wanted? wanted).enters.2
    rw [take_eq faithful, wanted] at same
    exact (Tables.sameRows_apply_iff enters now).mp (same.trans (filed.apply now request).symm)
  · intro met
    rw [take_eq_of_met faithful met]
    exact filed

/-- Then nothing but the status changes, unless the account is added. -/
theorem unstatused_take (faithful : index.Faithful) (met : handler.Met event now index)
    (known : handler.Joins event → index.store.accounts event.did ≠ none) :
    (handler.take event now index).store.unstatused = index.store.unstatused := by
  rw [take_eq_of_met faithful met]
  rcases moved : handler.moved? event now index with _ | change
  · rfl
  · have stored : index.store.accounts event.did ≠ none := by
      cases does_of_moved? moved with
      | followed follows _ => exact known ⟨_, follows⟩
      | unfollowed unfollows _ _ _ => exact faithful.stored unfollows.known
    show ((index.file event.did now change).store).unstatused = _
    rw [Index.store_file, Tables.unstatused_file stored]

/-- The roster shows an account as before, or as it is stored. -/
theorem shown_take (faithful : index.Faithful) (met : handler.Met event now index) (did : String) :
    (handler.take event now index).roster.get? did = index.roster.get? did ∧
        (handler.take event now index).store.accounts did = index.store.accounts did ∨
      (handler.take event now index).roster.get? did = (handler.take event now index).store.actor? did := by
  rw [take_eq_of_met faithful met]
  rcases moved : handler.moved? event now index with _ | change
  · exact .inl ⟨rfl, rfl⟩
  · obtain ⟨actor, read⟩ := faithful.read_file (fits_of_moved? faithful moved) now
    obtain ⟨filed, place, -⟩ := Index.file_of_read faithful.named read
    show (index.file event.did now change).roster.get? did = _ ∧
        (index.file event.did now change).store.accounts did = _ ∨
      (index.file event.did now change).roster.get? did = (index.file event.did now change).store.actor? did
    rw [filed]
    dsimp only
    rw [Roster.get?_put, place]
    by_cases own : did = event.did
    · rw [if_pos own, own, read]
      exact .inr rfl
    · rw [if_neg own]
      refine .inl ⟨rfl, ?_⟩
      cases change <;> exact if_neg own

theorem within_take (faithful : index.Faithful) : index.store.Within (handler.take event now index).store := by
  have filed := (sameRows_file? event.did now (handler.moved? event now index) index).within
  rw [take_eq faithful]
  rcases handler.wanted? event now index with _ | request
  · exact filed
  · exact filed.trans (Tables.within_apply now request _)

/-! ### What the account has to do with it -/

theorem isApproved_eq (actor : Option Actor) :
    isApproved actor = (actor.map (·.status)).any (· == .approved) := by
  rcases actor with _ | actor <;> rfl

theorem keepsProfile_eq (actor : Option Actor) :
    keepsProfile actor = (actor.map (·.status)).any fun status => status == .pending || status == .approved := by
  rcases actor with _ | actor <;> rfl

theorem onFollow?_eq (actor : Option Actor) :
    AccountChange.onFollow? actor =
      (actor.map (·.status)).elim (some .add) fun status => status.afterFollow.map .set := by
  rcases actor with _ | actor <;> rfl

/-- An event that creates asks for the status of its account alone. -/
theorem deeds_congr {actor actor' : Option Actor} (same : actor.map (·.status) = actor'.map (·.status))
    (creates : event.action ≠ .delete) (follow follow' : Option LinkRow) :
    handler.deeds event now actor follow = handler.deeds event now actor' follow' := by
  have known : actor.isSome = actor'.isSome := by
    have shown := congrArg Option.isSome same
    rw [Option.isSome_map, Option.isSome_map] at shown
    exact shown
  have entered : handler.entered? event now actor = handler.entered? event now actor' := by
    unfold entered?
    rw [isApproved_eq, isApproved_eq, keepsProfile_eq, keepsProfile_eq, same, known]
  have followed : handler.followDeeds event now actor = handler.followDeeds event now actor' := by
    unfold followDeeds
    rw [isApproved_eq, isApproved_eq, onFollow?_eq, onFollow?_eq, same]
  unfold deeds
  split
  · split
    · exact followed
    · next action => exact absurd action creates
    · rw [entered]
  · rfl

theorem wanted?_congr {index' : Index (Tables L)} (faithful : index.Faithful) (faithful' : index'.Faithful)
    (creates : event.action ≠ .delete) (same : index.store.status event.did = index'.store.status event.did) :
    handler.wanted? event now index = handler.wanted? event now index' := by
  have same' : (index.roster.get? event.did).map (·.status) = (index'.roster.get? event.did).map (·.status) := by
    rw [faithful.agrees, faithful'.agrees, same]
  unfold wanted? deedsOf
  rw [deeds_congr same' creates]

/-- An event that creates wants the same at any time. -/
theorem wanted?_retime (creates : event.action ≠ .delete) (now later : Timestamp) :
    (handler.wanted? event now index).map (·.retime fun _ => later) = handler.wanted? event later index := by
  have same : ((index.roster.get? event.did).map (·.retime fun _ => later)).map (·.status) =
      (index.roster.get? event.did).map (·.status) := by
    rw [Option.map_map]
    rfl
  have deeds := retime_deeds (fun _ => later) handler event now (index.roster.get? event.did)
    (index.store.follow? event.uri)
  rw [deeds_congr same creates _ (index.store.follow? event.uri)] at deeds
  unfold wanted? deedsOf
  rw [← deeds, List.findSome?_map, List.map_findSome?]
  congr 1
  funext deed
  cases deed <;> rfl

/-- A follow of the subject is kept whatever the status. -/
theorem wanted?_of_joins (joins : handler.Joins event) (index index' : Index (Tables L)) :
    handler.wanted? event now index = handler.wanted? event now index' := by
  obtain ⟨follow, follows⟩ := joins
  unfold wanted?
  rw [deedsOf_of_follows follows, deedsOf_of_follows follows, (findSome?_deeds _ _).1, (findSome?_deeds _ _).1]

/-- A deletion asks only whether the account is known. -/
theorem wanted?_congr_of_delete {index' : Index (Tables L)} (faithful : index.Faithful) (faithful' : index'.Faithful)
    (deletes : event.action = .delete) (rows : SameRows index.store index'.store)
    (same : index.store.status event.did = none ↔ index'.store.status event.did = none) :
    handler.wanted? event now index = handler.wanted? event now index' := by
  have known : (index.roster.get? event.did).isSome = (index'.roster.get? event.did).isSome := by
    have agrees := faithful.agrees event.did
    have agrees' := faithful'.agrees event.did
    rw [← agrees, ← agrees', Option.map_eq_none_iff, Option.map_eq_none_iff] at same
    rcases h : index.roster.get? event.did with _ | actor <;>
      rcases h' : index'.roster.get? event.did with _ | actor' <;> simp_all
  have followed : index.store.follow? event.uri = index'.store.follow? event.uri := by
    unfold Tables.follow?
    rw [rows.records]
  unfold wanted? deedsOf deeds entered?
  rw [deletes, followed, known]
  split
  · rcases kind : Collection.ofName event.collection
    case follow =>
      rcases h : index.roster.get? event.did with _ | actor <;>
        rcases h' : index'.roster.get? event.did with _ | actor' <;>
        rw [h, h'] at known <;> first | rfl | cases known
      rcases index'.store.follow? event.uri with _ | row <;> rfl
    all_goals rfl
  · rfl

/-- A closed account creates nothing, unless it joins. -/
theorem wanted?_of_closed (faithful : index.Faithful) (creates : event.action ≠ .delete)
    (stays : ¬ handler.Joins event) (closed : IsClosed (index.store.status event.did)) :
    handler.wanted? event now index = none := by
  have agrees := faithful.agrees event.did
  have unapproved : isApproved (index.roster.get? event.did) ≠ true := by
    intro approved
    rcases known : index.roster.get? event.did with _ | actor <;> rw [known] at approved agrees
    · cases approved
    · have status : actor.status = .approved := eq_of_beq approved
      exact closed.1 (by rw [← agrees, Option.map_some, status])
  rcases wanted : handler.wanted? event now index with _ | request
  · rfl
  · cases does_of_wanted? wanted with
    | kept follows _ => exact absurd ⟨_, follows⟩ stays
    | deleted unfollows _ => exact absurd unfollows.action creates
    | entry _ entry =>
      cases entry with
      | post _ _ approved _ | like _ _ approved _ | follow _ _ approved _ _ _ => exact absurd approved unapproved
      | profile _ _ keeps _ =>
        rcases known : index.roster.get? event.did with _ | actor <;> rw [known] at keeps agrees
        · cases keeps
        · rcases Bool.or_eq_true_iff.mp keeps with status | status
          · exact absurd (agrees.symm.trans (congrArg some (eq_of_beq status))) closed.2
          · exact absurd (agrees.symm.trans (congrArg some (eq_of_beq status))) closed.1
      | deletedPost _ action _ | deletedLike _ action _ => exact absurd action creates

/-- A follow of the subject comes to an address by joining. -/
theorem pointsTo_take (faithful : index.Faithful) {uri : String}
    (points : (handler.take event now index).store.PointsTo uri handler.subject) :
    index.store.PointsTo uri handler.subject ∨ handler.Joins event ∧ event.uri = uri := by
  have filed := sameRows_file? event.did now (handler.moved? event now index) index
  obtain ⟨row, stored, subject⟩ := points
  rw [take_eq faithful] at stored
  rcases wanted : handler.wanted? event now index with _ | request
  · rw [wanted] at stored
    exact .inl ⟨row, (congrFun (congrFun filed.records .follows) uri).trans stored, subject⟩
  · rw [wanted] at stored
    have does := does_of_wanted? wanted
    change (Tables.apply now request _).records .follows uri = some row at stored
    rcases Tables.records_apply _ now request .follows uri with same | ⟨new, adds, added⟩ | ⟨-, deleted⟩
    · rw [same, ← filed.records] at stored
      exact .inl ⟨row, stored, subject⟩
    · rw [added, ← filed.records] at stored
      rcases Option.or_eq_some_iff.mp stored with old | ⟨-, new⟩
      · exact .inl ⟨row, old, subject⟩
      · obtain rfl := Option.some.inj new
        refine .inr ⟨?_, (does.added adds).1.symm⟩
        cases does with
        | kept follows _ => exact ⟨_, follows⟩
        | deleted _ _ => cases adds
        | entry _ entry =>
          cases entry with
          | follow _ _ _ _ other _ =>
            cases adds
            exact absurd (Option.some.inj subject) other
          | _ => cases adds
    · rw [deleted, ← filed.records] at stored
      obtain ⟨old, hold, rfl⟩ := Option.map_eq_some_iff.mp stored
      rw [Schema.Row.subject?_delete] at subject
      exact .inl ⟨old, hold, subject⟩

end Handler

end FeedIndex
