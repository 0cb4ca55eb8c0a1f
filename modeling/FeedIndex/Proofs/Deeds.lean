import FeedIndex.Proofs.Course
import FeedIndex.Proofs.Tables

/-!
# What an event does to the tables

An event comes to a short list of deeds: requests about its own record, and at most one change of its account.
The event decides which, together with what the roster shows of its account and the follow that stands at its
address. To do them is all there is to handling it, as far as the tables and the roster tell (`tabled_run`),
so that a law about the tables is proved for each deed and then for lists of them.
-/

namespace FeedIndex

variable {L : Schema}

/-! ## Doing deeds -/

/-- **Deed** — a step of an event. -/
inductive Deed
  | enter (request : StoreOperation)
  /-- The account of the event is filed anew. -/
  | file (change : AccountChange)

/-- The request that makes a change of an account. -/
def AccountChange.request (did : String) (now : Timestamp) : AccountChange → StoreOperation
  | add => .createActor (Actor.fresh did .pending Index.addedRemark now)
  | set status => .setActorStatus did status

namespace Tables

/-- The account as it is read back. -/
def actor? (t : Tables L) (did : String) : Option Actor := (t.accounts did).bind L.actor?

/-- The follow at an address. -/
def follow? (t : Tables L) (uri : String) : Option LinkRow :=
  match t.records .follows uri with
  | some (.link row) => some row
  | _ => none

/-- The tables after an account was changed. -/
def file (did : String) (now : Timestamp) (change : AccountChange) (t : Tables L) : Tables L :=
  t.apply now (change.request did now)

end Tables

namespace Index

/-- **enter** — a request is entered. -/
def enter (now : Timestamp) (request : StoreOperation) (index : Index (Tables L)) : Index (Tables L) :=
  { index with store := index.store.apply now request }

/-- **file** — an account is changed, and the roster learns what is read back of it, if anything is. -/
def file (did : String) (now : Timestamp) (change : AccountChange) (index : Index (Tables L)) :
    Index (Tables L) :=
  match (index.store.file did now change).actor? did with
  | none => ⟨index.store.file did now change, index.roster⟩
  | some actor => ⟨index.store.file did now change, index.roster.put actor⟩

/-- **doAll** — does deeds one after the other. Where an account cannot be read back, the rest is left
undone. -/
def doAll (did : String) (now : Timestamp) : List Deed → Index (Tables L) → Index (Tables L)
  | [], index => index
  | .enter request :: rest, index => doAll did now rest (index.enter now request)
  | .file change :: rest, index =>
    if ((index.store.file did now change).actor? did).isSome then
      doAll did now rest (index.file did now change)
    else index.file did now change

/-- What every deed keeps is kept by all of them. -/
theorem doAll_induction {P : Index (Tables L) → Prop} {did : String} {now : Timestamp} {deeds : List Deed}
    {index : Index (Tables L)} (start : P index)
    (enter : ∀ request, .enter request ∈ deeds → ∀ mid, P mid → P (mid.enter now request))
    (file : ∀ change, .file change ∈ deeds → ∀ mid, P mid → P (mid.file did now change)) :
    P (index.doAll did now deeds) := by
  induction deeds generalizing index with
  | nil => exact start
  | cons deed rest ih =>
    have enter' : ∀ request, .enter request ∈ rest → ∀ mid, P mid → P (mid.enter now request) :=
      fun request hmem => enter request (List.mem_cons_of_mem _ hmem)
    have file' : ∀ change, .file change ∈ rest → ∀ mid, P mid → P (mid.file did now change) :=
      fun change hmem => file change (List.mem_cons_of_mem _ hmem)
    cases deed with
    | enter request => exact ih (enter request List.mem_cons_self index start) enter' file'
    | file change =>
      have filed := file change List.mem_cons_self index start
      unfold doAll
      split
      · exact ih filed enter' file'
      · exact filed

end Index

/-! ## The deeds of an event -/

namespace Handler

section

variable (handler : Handler) (event : Event) (now : Timestamp) (actor : Option Actor)

/-- The request of an event about a post, a like or a profile, if its account lets it through. -/
def entered? : Option StoreOperation :=
  match Collection.ofName event.collection, event.action with
  | .post, .create =>
    if isApproved actor then (handler.postRow? event now).toOption.join.map .createPost else none
  | .like, .create => if isApproved actor then (handler.likeRow event now).toOption.map .createLike else none
  | .profile, .create | .profile, .update =>
    if keepsProfile actor then (handler.profileRow event now).toOption.map .putProfile else none
  | .post, .delete => if actor.isSome then some (.deletePost event.uri) else none
  | .like, .delete => if actor.isSome then some (.deleteLike event.uri) else none
  | _, _ => none

/-- The request that keeps a follow, if its time can be read. -/
def kept? (follow : Follow) : Option StoreOperation :=
  (claimedTime follow.createdAt).toOption.map fun createdAt =>
    .createFollow (followRow event follow createdAt now)

/-- The deeds of a follow. -/
def followDeeds : List Deed :=
  match (handler.openRecord event : Except HandleFailure Follow) with
  | .error _ => []
  | .ok follow =>
    if follow.subject = handler.subject then
      ((AccountChange.onFollow? actor).map .file).toList ++ ((kept? event now follow).map .enter).toList
    else if isApproved actor then ((kept? event now follow).map .enter).toList
    else []

/-- The deeds of the deletion of a follow. -/
def unfollowDeeds (follow : Option LinkRow) : List Deed :=
  match actor, follow with
  | some actor, some row =>
    .enter (.deleteFollow event.uri) ::
      if row.subject = handler.subject then ((AccountChange.onUnfollow? actor).map .file).toList else []
  | _, _ => []

/-- **deeds** — what an event comes to, from what the roster shows of its account and from the follow that
stands at its address. -/
def deeds (follow : Option LinkRow) : List Deed :=
  if Did.isValid event.did then
    match Collection.ofName event.collection, event.action with
    | .follow, .create => handler.followDeeds event now actor
    | .follow, .delete => handler.unfollowDeeds event actor follow
    | _, _ => ((handler.entered? event now actor).map .enter).toList
  else []

end

/-- **take** — the tables and the roster after an event. -/
def take (handler : Handler) (event : Event) (now : Timestamp) (index : Index (Tables L)) : Index (Tables L) :=
  index.doAll event.did now
    (handler.deeds event now (index.roster.get? event.did) (index.store.follow? event.uri))

/-- **takeAll** — the tables and the roster after events, each at its time. -/
def takeAll (handler : Handler) (events : List (Event × Timestamp)) (index : Index (Tables L)) :
    Index (Tables L) :=
  events.foldl (fun index event => handler.take event.1 event.2 index) index

end Handler

/-! ### An account that is filed -/

namespace Tables

/-- What is read back of an account that is filed: one that was added, or the one that was there, with its new
status. -/
theorem actor?_file (did : String) (now : Timestamp) (change : AccountChange) (t : Tables L) :
    (t.file did now change).actor? did =
      match change with
      | .add =>
        ((t.accounts did).or (some (L.ofActor (Actor.fresh did .pending Index.addedRemark now)))).bind L.actor?
      | .set status => (t.actor? did).map fun actor => { actor with status } := by
  cases change with
  | add => simp [actor?, file, AccountChange.request, apply, changeAccount, Actor.fresh]
  | set status =>
    simp only [actor?, file, AccountChange.request, apply, changeAccount, if_pos]
    rcases t.accounts did with _ | row
    · rfl
    · exact L.actor?_setStatus status row

theorem status_file (did : String) (now : Timestamp) (change : AccountChange) (t : Tables L) (other : String) :
    (t.file did now change).status other =
      if other = did then
        match change with
        | .add => (t.status other).or (some .pending)
        | .set status => (t.status other).map fun _ => status
      else t.status other := by
  cases change with
  | add =>
    refine t.status_changeAccount did (·.or (some (L.ofActor (Actor.fresh did .pending Index.addedRemark now))))
      (f := (·.or (some .pending))) ?_ other
    rintro (_ | row)
    · exact congrArg some (L.status_ofActor _)
    · rfl
  | set status =>
    refine t.status_changeAccount did (·.map (L.setStatus status)) (f := (·.map fun _ => status)) ?_ other
    rintro (_ | row)
    · rfl
    · exact congrArg some (L.status_setStatus status row)

theorem records_file (did : String) (now : Timestamp) (change : AccountChange) (t : Tables L) :
    (t.file did now change).records = t.records := by
  cases change <;> rfl

end Tables

@[simp] theorem Index.store_file (did : String) (now : Timestamp) (change : AccountChange)
    (index : Index (Tables L)) : (index.file did now change).store = index.store.file did now change := by
  unfold Index.file
  split <;> rfl

/-- The roster learns of an account that was filed what is stored of it. -/
theorem Index.file_of_read {did : String} {now : Timestamp} {change : AccountChange} {index : Index (Tables L)}
    (named : index.store.Named) {actor : Actor} (read : (index.store.file did now change).actor? did = some actor) :
    index.file did now change = ⟨index.store.file did now change, index.roster.put actor⟩ ∧ actor.did = did ∧
      (index.store.file did now change).status did = some actor.status := by
  have named' : (index.store.file did now change).Named := named.apply now (change.request did now)
  obtain ⟨row, stored, read'⟩ := Option.bind_eq_some_iff.mp read
  refine ⟨by rw [Index.file, read], by rw [L.did_of_actor? read', named' did row stored], ?_⟩
  rw [Tables.status, stored, Option.map_some, L.status_of_actor? read']

/-! ## What a deed tells of its event -/

namespace Handler

variable {handler : Handler} {event : Event} {now : Timestamp} {index : Index (Tables L)} {deed : Deed}

/-- **Does** — the deeds that an event can come to, each with what it takes. -/
inductive Does (handler : Handler) (event : Event) (now : Timestamp) (index : Index (Tables L)) : Deed → Prop
  | entry {request : StoreOperation} (valid : Did.isValid event.did = true)
      (entry : Entry handler event now index.roster request) : Does handler event now index (.enter request)
  /-- A follow of the subject is kept. -/
  | kept {follow : Follow} {createdAt : Timestamp} (follows : FollowsSubject handler event follow)
      (time : claimedTime follow.createdAt = .ok createdAt) :
      Does handler event now index (.enter (.createFollow (followRow event follow createdAt now)))
  | followed {follow : Follow} {change : AccountChange} (follows : FollowsSubject handler event follow)
      (changes : AccountChange.onFollow? (index.roster.get? event.did) = some change) :
      Does handler event now index (.file change)
  | deleted {actor : Actor} {row : LinkRow} (unfollows : Unfollows event index.roster actor)
      (stored : index.store.follow? event.uri = some row) :
      Does handler event now index (.enter (.deleteFollow event.uri))
  | unfollowed {actor : Actor} {row : LinkRow} {change : AccountChange}
      (unfollows : Unfollows event index.roster actor) (stored : index.store.follow? event.uri = some row)
      (subject : row.subject = handler.subject) (changes : AccountChange.onUnfollow? actor = some change) :
      Does handler event now index (.file change)

theorem ok_of_toOption {ε α : Type} {decision : Except ε α} {a : α} (h : decision.toOption = some a) :
    decision = .ok a := by
  rcases decision with failure | b
  · cases h
  · exact congrArg Except.ok (Option.some.inj h)

/-- What is entered into the posts, the likes or the profiles is entered as it may be. -/
theorem entry_of_entered? {request : StoreOperation}
    (h : handler.entered? event now (index.roster.get? event.did) = some request) :
    Entry handler event now index.roster request := by
  unfold entered? at h
  split at h
  · next kind action =>
    obtain ⟨approved, h⟩ := Option.ite_none_right_eq_some.mp h
    obtain ⟨row, decided, rfl⟩ := Option.map_eq_some_iff.mp h
    exact .post kind action approved (ok_of_toOption (Option.join_eq_some_iff.mp decided))
  · next kind action =>
    obtain ⟨approved, h⟩ := Option.ite_none_right_eq_some.mp h
    obtain ⟨row, decided, rfl⟩ := Option.map_eq_some_iff.mp h
    exact .like kind action approved (ok_of_toOption decided)
  · next kind action =>
    obtain ⟨keeps, h⟩ := Option.ite_none_right_eq_some.mp h
    obtain ⟨row, decided, rfl⟩ := Option.map_eq_some_iff.mp h
    exact .profile kind (by rw [action]; exact nofun) keeps (ok_of_toOption decided)
  · next kind action =>
    obtain ⟨keeps, h⟩ := Option.ite_none_right_eq_some.mp h
    obtain ⟨row, decided, rfl⟩ := Option.map_eq_some_iff.mp h
    exact .profile kind (by rw [action]; exact nofun) keeps (ok_of_toOption decided)
  · next kind action =>
    obtain ⟨known, h⟩ := Option.ite_none_right_eq_some.mp h
    obtain rfl := Option.some.inj h
    exact .deletedPost kind action known
  · next kind action =>
    obtain ⟨known, h⟩ := Option.ite_none_right_eq_some.mp h
    obtain rfl := Option.some.inj h
    exact .deletedLike kind action known
  · cases h

theorem does_of_mem_followDeeds (valid : Did.isValid event.did = true)
    (kind : Collection.ofName event.collection = .follow) (action : event.action = .create)
    (h : deed ∈ handler.followDeeds event now (index.roster.get? event.did)) :
    Does handler event now index deed := by
  unfold followDeeds at h
  rcases opened : (handler.openRecord event : Except HandleFailure Follow) with failure | follow
  · rw [opened] at h
    cases h
  rw [opened] at h
  dsimp only at h
  by_cases subject : follow.subject = handler.subject
  · have follows : FollowsSubject handler event follow := ⟨valid, kind, action, opened, subject⟩
    rw [if_pos subject] at h
    rcases List.mem_append.mp h with hfile | hkeep
    · obtain ⟨change, changes, rfl⟩ := Option.map_eq_some_iff.mp (Option.mem_toList.mp hfile)
      exact .followed follows changes
    · obtain ⟨request, kept, rfl⟩ := Option.map_eq_some_iff.mp (Option.mem_toList.mp hkeep)
      obtain ⟨createdAt, time, rfl⟩ := Option.map_eq_some_iff.mp kept
      exact .kept follows (ok_of_toOption time)
  · rw [if_neg subject] at h
    by_cases approved : isApproved (index.roster.get? event.did) = true
    · rw [if_pos approved] at h
      obtain ⟨request, kept, rfl⟩ := Option.map_eq_some_iff.mp (Option.mem_toList.mp h)
      obtain ⟨createdAt, time, rfl⟩ := Option.map_eq_some_iff.mp kept
      exact .entry valid (.follow kind action approved opened subject (ok_of_toOption time))
    · rw [if_neg approved] at h
      cases h

theorem does_of_mem_unfollowDeeds (valid : Did.isValid event.did = true)
    (kind : Collection.ofName event.collection = .follow) (action : event.action = .delete)
    (h : deed ∈ handler.unfollowDeeds event (index.roster.get? event.did) (index.store.follow? event.uri)) :
    Does handler event now index deed := by
  rcases known : index.roster.get? event.did with _ | actor
  · rw [known] at h
    cases h
  rcases stored : index.store.follow? event.uri with _ | row
  · rw [known, stored] at h
    cases h
  rw [known, stored] at h
  have unfollows : Unfollows event index.roster actor := ⟨valid, kind, action, known⟩
  rcases List.mem_cons.mp h with rfl | h
  · exact .deleted unfollows stored
  by_cases subject : row.subject = handler.subject
  · rw [if_pos subject] at h
    obtain ⟨change, changes, rfl⟩ := Option.map_eq_some_iff.mp (Option.mem_toList.mp h)
    exact .unfollowed unfollows stored subject changes
  · rw [if_neg subject] at h
    cases h

/-- **An event does nothing else.** -/
theorem does_of_mem_deeds
    (h : deed ∈ handler.deeds event now (index.roster.get? event.did) (index.store.follow? event.uri)) :
    Does handler event now index deed := by
  unfold deeds at h
  by_cases valid : Did.isValid event.did = true
  · rw [if_pos valid] at h
    split at h
    · next kind action => exact does_of_mem_followDeeds valid kind action h
    · next kind action => exact does_of_mem_unfollowDeeds valid kind action h
    · obtain ⟨request, entered, rfl⟩ := Option.map_eq_some_iff.mp (Option.mem_toList.mp h)
      exact .entry valid (entry_of_entered? entered)
  · rw [if_neg valid] at h
    cases h

end Handler

/-! ### The rows of an event -/

/-- **address** — an address of an account: whatever follows its identifier. -/
def address (did key : String) : String := "at://" ++ did ++ "/" ++ key

theorem Event.uri_eq_address (event : Event) :
    event.uri = address event.did (event.collection ++ "/" ++ event.rkey) := by
  unfold Event.uri RecordUri.render address
  simp only [String.append_assoc]

namespace Handler

variable {handler : Handler} {event : Event} {now : Timestamp} {index : Index (Tables L)}

theorem actorDid_of_postRow? {row : PostRow} (h : handler.postRow? event now = .ok (some row)) :
    row.actorDid = event.did := by
  obtain ⟨post, raw, createdAt, -, -, -, rfl⟩ := parts_of_postRow? h
  rfl

theorem actorDid_of_likeRow {row : LinkRow} (h : handler.likeRow event now = .ok row) :
    row.actorDid = event.did := by
  obtain ⟨like, subject, createdAt, -, -, -, rfl⟩ := parts_of_likeRow h
  rfl

theorem actorDid_of_profileRow {row : ProfileRow} (h : handler.profileRow event now = .ok row) :
    row.actorDid = event.did := by
  obtain ⟨commit, profile, createdAt, -, -, -, rfl⟩ := parts_of_profileRow h
  rfl

/-- A row that an event adds is its own, and lives. Its account is approved, or the row is a follow of the
subject. -/
theorem Does.added {request : StoreOperation} {table : Table} {uri : String} {row : L.Row}
    (does : Does handler event now index (.enter request))
    (adds : Tables.added? request = some (table, uri, row)) :
    uri = event.uri ∧ row.author = event.did ∧ row.deletedAt = none ∧
      (isApproved (index.roster.get? event.did) = true ∨
        table = .follows ∧ row.subject? = some handler.subject) := by
  cases does with
  | kept follows time =>
    cases adds
    exact ⟨rfl, rfl, rfl, .inr ⟨rfl, congrArg some follows.subject⟩⟩
  | deleted unfollows stored => cases adds
  | entry valid entry =>
    cases entry with
    | post kind action approved decided =>
      cases adds
      obtain ⟨huri, hdeleted⟩ := uri_of_postRow? decided
      exact ⟨huri, (L.author_ofPost _).trans (actorDid_of_postRow? decided), (L.deletedAt_ofPost _).trans hdeleted,
        .inl approved⟩
    | like kind action approved decided =>
      cases adds
      obtain ⟨huri, hdeleted⟩ := uri_of_likeRow decided
      exact ⟨huri, actorDid_of_likeRow decided, hdeleted, .inl approved⟩
    | follow kind action approved opened other time =>
      cases adds
      exact ⟨rfl, rfl, rfl, .inl approved⟩
    | profile kind action keeps decided => cases adds
    | deletedPost kind action known => cases adds
    | deletedLike kind action known => cases adds

/-- A row that an event deletes is its own. -/
theorem Does.deletes {request : StoreOperation} {table : Table} {uri : String}
    (does : Does handler event now index (.enter request))
    (deletes : Ledger.deleted? request = some (table, uri)) : uri = event.uri := by
  cases does with
  | kept _ _ => cases deletes
  | deleted _ _ => cases deletes; rfl
  | entry _ entry => cases entry <;> cases deletes <;> rfl

/-- What an event enters leaves every account as it is, or it is a profile of its own account. -/
theorem Does.accounts_apply {request : StoreOperation} (does : Does handler event now index (.enter request))
    (t : Tables L) :
    (t.apply now request).accounts = t.accounts ∧ (t.apply now request).profiles = t.profiles ∨
      ∃ row, request = .putProfile row ∧ row.actorDid = event.did := by
  cases does with
  | kept _ _ => exact .inl ⟨rfl, rfl⟩
  | deleted _ _ => exact .inl ⟨rfl, rfl⟩
  | entry _ entry =>
    cases entry with
    | profile _ _ _ decided => exact .inr ⟨_, rfl, actorDid_of_profileRow decided⟩
    | _ => exact .inl ⟨rfl, rfl⟩

/-- What an event enters leaves every status as it is. -/
theorem Does.status_apply {request : StoreOperation} (does : Does handler event now index (.enter request))
    (t : Tables L) : (t.apply now request).status = t.status := by
  rcases does.accounts_apply t with ⟨same, -⟩ | ⟨row, rfl, -⟩
  · unfold Tables.status
    rw [same]
  · exact Tables.status_addProfile t row

end Handler

/-! ## Handling is doing the deeds -/

open TableStore

variable {σ : Type} [Store σ] [TableStore σ]

/-- **tabled** — the tables of an index, with its roster. -/
def Index.tabled (index : Index σ) : Index (Tables (schema σ)) := ⟨tables index.store, index.roster⟩

/-- A request does to the tables of an index what it does to tables. -/
theorem Index.tabled_after (now : Timestamp) (request : StoreOperation) (index : Index σ) :
    { index with store := request.after now index.store }.tabled = index.tabled.enter now request := by
  unfold Index.tabled Index.enter
  dsimp only
  rw [tables_after]

/-- An operation does to the tables what the request does that stands for it. -/
theorem tables_after_of_perform {α : Type} {now : Timestamp} {request : StoreOperation}
    {operation : Storing σ α} {answer : α → StoreAnswer}
    (h : request.perform now = (operation >>= fun a => pure (answer a))) (store : σ) :
    tables (operation.after store) = (tables store).apply now request := by
  rw [StoreOperation.after_of_perform now request h]
  exact tables_after now request store

namespace Handler

variable (handler : Handler) (event : Event) (now : Timestamp) (index : Index σ)

/-! ### Filing an account -/

/-- Files a change of an account. -/
def filing (did : String) : AccountChange → Handling σ Unit
  | .add => do
    let _ ← indexing (Index.createPending did now)
    return ()
  | .set status => moveStatus did (some status)

/-- **FiledAs** — an account of an index was filed, which fails exactly where it cannot be read back. -/
inductive FiledAs (did : String) (now : Timestamp) (change : AccountChange) (index : Index σ) :
    Except HandleFailure Unit × Index σ → Prop
  | done {moved : Index σ} (read : ((index.tabled.store.file did now change).actor? did).isSome = true)
      (filed : moved.tabled = index.tabled.file did now change) : FiledAs did now change index (.ok (), moved)
  | failed {failure : HandleFailure} {moved : Index σ}
      (unread : ((index.tabled.store.file did now change).actor? did).isSome = false)
      (filed : moved.tabled = index.tabled.file did now change) :
      FiledAs did now change index (.error failure, moved)

variable {index} in
theorem FiledAs.of_read {did : String} {change : AccountChange} {store : σ} {actor : Actor}
    (read : (index.tabled.store.file did now change).actor? did = some actor)
    (filed : tables store = index.tabled.store.file did now change) :
    FiledAs did now change index (.ok (), ⟨store, index.roster.put actor⟩) := by
  refine .done (by rw [read]; rfl) ?_
  rw [Index.file, read]
  exact congrArg (Index.mk · _) filed

variable {index} in
theorem FiledAs.of_unread {did : String} {change : AccountChange} {store : σ} {failure : HandleFailure}
    (unread : (index.tabled.store.file did now change).actor? did = none)
    (filed : tables store = index.tabled.store.file did now change) :
    FiledAs did now change index (.error failure, { index with store }) := by
  refine .failed (by rw [unread]; rfl) ?_
  rw [Index.file, unread]
  exact congrArg (Index.mk · _) filed

theorem filedAs_set (did : String) (status : ActorStatus) :
    FiledAs did now (.set status) index ((filing now did (.set status)).run.run index) := by
  have filed := tables_after_of_perform (StoreOperation.perform_setActorStatus (σ := σ) now did status) index.store
  have back := Tables.actor?_file did now (.set status) index.tabled.store
  unfold filing moveStatus
  rw [Indexing.run_bind, run_indexing, Index.run_setStatus]
  rcases read : index.tabled.store.actor? did with _ | actor
  · obtain ⟨failure, answer⟩ := setActorStatus_unread read status
    rw [answer]
    exact .of_unread now (by rw [back, read]; rfl) filed
  · rw [setActorStatus_read read status]
    exact .of_read now (by rw [back, read]; rfl) filed

theorem filedAs_add (did : String) :
    FiledAs did now .add index ((filing now did .add).run.run index) := by
  have created := tables_after_of_perform
    (StoreOperation.perform_createActor (σ := σ) now (Actor.fresh did .pending Index.addedRemark now)) index.store
  have back := Tables.actor?_file did now .add index.tabled.store
  unfold filing
  rw [Indexing.run_bind, run_indexing, Index.run_createPending, Index.run_createOrGet]
  rcases stored : index.tabled.store.accounts did with _ | row
  · -- the account is new
    rw [createActor_new stored]
    refine .of_read now ?_ created
    rw [back, stored]
    exact (schema σ).actor?_ofActor rfl
  rw [createActor_taken stored]
  rcases read : (schema σ).actor? row with _ | actor
  · refine .of_unread now ?_ created
    rw [back, stored]
    exact read
  · -- the account is there already, and it is looked up
    have kept : (tables ((Store.createActor (Actor.fresh did .pending Index.addedRemark now) : Storing σ _).after
        index.store)).accounts did = some row := by
      rw [created]
      simp only [Tables.apply, Tables.changeAccount, Actor.fresh, if_pos]
      show (index.tabled.store.accounts did).or _ = some row
      rw [stored]
      rfl
    have looked := tables_after_of_perform (StoreOperation.perform_getActor (σ := σ) now did)
      ((Store.createActor (Actor.fresh did .pending Index.addedRemark now) : Storing σ _).after index.store)
    rw [Option.elim_some]
    dsimp only
    rw [show (Actor.fresh did .pending Index.addedRemark now).did = did from rfl, getActor_read kept read]
    refine .of_read now ?_ (looked.trans created)
    rw [back, stored]
    exact read

theorem filedAs_filing (did : String) (change : AccountChange) :
    FiledAs did now change index ((filing now did change).run.run index) := by
  cases change with
  | add => exact filedAs_add now index did
  | set status => exact filedAs_set now index did status

/-- Files a change of an account, if there is one. -/
def filing? (did : String) : Option AccountChange → Handling σ Unit
  | none => return ()
  | some change => filing now did change

omit [TableStore σ] in
theorem followedSubject_eq (actor : Option Actor) :
    (followedSubject event actor now : Handling σ Unit) =
      filing? now event.did (AccountChange.onFollow? actor) := by
  rcases actor with _ | actor
  · rfl
  · unfold followedSubject AccountChange.onFollow?
    dsimp only
    rcases actor.status.afterFollow with _ | status <;> rfl

omit [TableStore σ] in
theorem moveStatus_eq (did : String) (actor : Actor) :
    (moveStatus did actor.status.afterUnfollow : Handling σ Unit) =
      filing? now did (AccountChange.onUnfollow? actor) := by
  unfold AccountChange.onUnfollow?
  rcases actor.status.afterUnfollow with _ | status <;> rfl

/-- An account is filed, and what comes next is done if that succeeds. -/
theorem tabled_filing?_bind (did : String) (change : Option AccountChange) {next : Handling σ Unit}
    {rest : List Deed} (done : ∀ moved : Index σ, (next.run.run moved).2.tabled = moved.tabled.doAll did now rest) :
    ((filing? now did change >>= fun _ => next).run.run index).2.tabled =
      index.tabled.doAll did now ((change.map .file).toList ++ rest) := by
  rcases change with _ | change
  · exact done index
  show _ = index.tabled.doAll did now (.file change :: rest)
  rw [Indexing.run_bind, Index.doAll]
  have filed := filedAs_filing now index did change
  rw [filing?]
  generalize (filing now did change).run.run index = result at filed
  cases filed with
  | done read filed =>
    dsimp only
    rw [if_pos read, done, filed]
  | failed unread filed =>
    rw [unread, if_neg Bool.false_ne_true]
    exact filed

theorem tabled_filing? (did : String) (change : Option AccountChange) :
    ((filing? now did change).run.run index).2.tabled =
      index.tabled.doAll did now (change.map .file).toList := by
  have ends (moved : Index σ) : ((pure () : Handling σ Unit).run.run moved).2.tabled =
      moved.tabled.doAll did now [] := rfl
  have ended := tabled_filing?_bind now index did change ends
  rw [List.append_nil, Indexing.run_bind] at ended
  rw [← ended]
  rcases (filing? now did change).run.run index with ⟨failure | ⟨⟩, moved⟩ <;> rfl

/-! ### The events of each kind -/

/-- A follow is kept if its time can be read. -/
theorem tabled_keepFollow (did : String) (follow : Follow) (index : Index σ) :
    ((keepFollow event follow now).run.run index).2.tabled =
      index.tabled.doAll did now ((kept? event now follow).map .enter).toList := by
  rw [run_keepFollow, kept?]
  rcases claimedTime follow.createdAt with failure | createdAt
  · rfl
  · exact Index.tabled_after now _ index

theorem tabled_followCreated (actor : Option Actor) :
    ((handler.followCreated event actor now).run.run index).2.tabled =
      index.tabled.doAll event.did now (handler.followDeeds event now actor) := by
  unfold followCreated followDeeds
  rw [Indexing.run_bind, run_deciding]
  rcases (handler.openRecord event : Except HandleFailure Follow) with failure | follow
  · rfl
  dsimp only
  by_cases subject : follow.subject = handler.subject
  · rw [if_pos subject, if_pos subject, followedSubject_eq]
    exact tabled_filing?_bind now index event.did _ (tabled_keepFollow event now event.did follow)
  · rw [if_neg subject, if_neg subject]
    split
    · exact tabled_keepFollow event now event.did follow index
    · rfl

theorem tabled_followDeleted (actor : Actor) :
    ((handler.followDeleted event actor now).run.run index).2.tabled =
      index.tabled.doAll event.did now
        (handler.unfollowDeeds event (some actor) (index.tabled.store.follow? event.uri)) := by
  obtain ⟨row, answer, stored⟩ := getFollow_tables event.uri index.store
  have found : index.tabled.store.follow? event.uri = row := by
    unfold Tables.follow? Index.tabled
    dsimp only
    rw [stored]
    rcases row with _ | row <;> rfl
  rw [found]
  have looked := tables_after now (.getFollow event.uri) index.store
  rcases row with _ | row
  · -- there is no follow to delete
    unfold followDeleted
    rw [Indexing.run_bind, run_storing, answer,
      StoreOperation.after_of_perform now _ (StoreOperation.perform_getFollow now event.uri)]
    exact Index.tabled_after now (.getFollow event.uri) index
  · have deleted : deletionOutcome event now index.store = .ok () := deleteFollow_outcome now event.uri _
    have without : { index with store := withoutFollow event now index.store }.tabled =
        index.tabled.enter now (.deleteFollow event.uri) := by
      unfold withoutFollow Index.tabled Index.enter
      dsimp only
      rw [tables_after, looked]
      rfl
    rw [run_followDeleted handler event now index actor answer, deleted]
    dsimp only [unfollowDeeds]
    rw [Index.doAll, ← without]
    split
    · rw [moveStatus_eq now]
      exact tabled_filing? now _ event.did _
    · rfl

/-- A row that was decided on is entered. -/
theorem tabled_of_entering {ρ : Type} {gate : Bool} {decision : Except HandleFailure ρ}
    {operation : ρ → Storing σ Unit} (request : ρ → StoreOperation)
    (plan : (handler.plan event now).run.run index = (entering gate decision operation).run.run index)
    (perform : ∀ row, (request row).perform now = (operation row >>= fun _ => pure .done)) :
    (handler.run event now index).2.tabled =
      index.tabled.doAll event.did now
        (((if gate then decision.toOption.map request else none).map .enter).toList) := by
  rcases gate with _ | _
  · rw [run_eq_plan, plan]
    rfl
  rcases decided : decision with failure | row
  · rw [run_eq_plan, plan, entering, if_pos rfl, Indexing.run_bind, run_deciding, decided]
    rfl
  · rw [run_of_entering handler event now index (request row) plan decided (perform row)]
    exact Index.tabled_after now (request row) index

theorem tabled_postCreated
    (plan : (handler.plan event now).run.run index =
      (planFor handler event now (index.roster.get? event.did) .post .create).run.run index) :
    (handler.run event now index).2.tabled =
      index.tabled.doAll event.did now
        (((if isApproved (index.roster.get? event.did) then
          (handler.postRow? event now).toOption.join.map .createPost else none).map Deed.enter).toList) := by
  rw [run_eq_plan, plan, planFor]
  by_cases approved : isApproved (index.roster.get? event.did) = true
  · rw [if_pos approved, if_pos approved, run_deciding]
    rcases handler.postRow? event now with failure | _ | row
    · rfl
    · rfl
    · dsimp only
      rw [run_entering (.createPost row) rfl]
      exact Index.tabled_after now (.createPost row) index
  · rw [if_neg approved, if_neg approved]
    rfl

/-- **Handling an event is doing its deeds**, as far as the tables and the roster tell. -/
theorem tabled_run :
    (handler.run event now index).2.tabled = handler.take event now index.tabled := by
  unfold take deeds
  by_cases valid : Did.isValid event.did = true
  · rw [if_pos valid]
    by_cases other : Collection.ofName event.collection = .other
    · rw [run_eq_plan, run_plan_of_other handler event now index other]
      simp [entered?, other]
      rfl
    have plan := run_plan handler event now index valid rfl rfl other
    have passes (h : (handler.plan event now).run.run index = (.ok none, index)) :
        (handler.run event now index).2.tabled = index.tabled := by
      rw [run_eq_plan, h]
    rcases kind : Collection.ofName event.collection <;> rcases action : event.action <;>
      rw [kind, action] at plan <;> simp only [entered?, kind, action]
    case post.create => exact tabled_postCreated handler event now index plan
    case post.delete =>
      exact tabled_of_entering handler event now index (fun _ => .deletePost event.uri) plan fun _ => rfl
    case like.create => exact tabled_of_entering handler event now index .createLike plan fun _ => rfl
    case like.delete =>
      exact tabled_of_entering handler event now index (fun _ => .deleteLike event.uri) plan fun _ => rfl
    case follow.create =>
      rw [run_of_plan_bind handler event now index plan]
      exact tabled_followCreated handler event now index _
    case follow.delete =>
      show _ = index.tabled.doAll event.did now (handler.unfollowDeeds event (index.roster.get? event.did) _)
      rcases known : index.roster.get? event.did with _ | actor
      · rw [known] at plan
        exact passes plan
      · rw [known] at plan
        rw [run_of_plan_bind handler event now index plan]
        exact tabled_followDeleted handler event now index actor
    case profile.create | profile.update =>
      exact tabled_of_entering handler event now index .putProfile plan fun _ => rfl
    case other.create | other.update | other.delete => exact absurd kind other
    all_goals exact passes plan
  · rw [if_neg valid, run_of_invalid now (Bool.eq_false_iff.mpr valid)]
    rfl

/-- **runEach** — handles events one after the other, each at its time. -/
def runEach (handler : Handler) (events : List (Event × Timestamp)) (index : Index σ) : Index σ :=
  events.foldl (fun index event => (handler.run event.1 event.2 index).2) index

theorem tabled_runEach (events : List (Event × Timestamp)) :
    (handler.runEach events index).tabled = handler.takeAll events index.tabled := by
  induction events generalizing index with
  | nil => rfl
  | cons event rest ih =>
    refine (ih _).trans ?_
    rw [tabled_run]
    rfl

end Handler

end FeedIndex
