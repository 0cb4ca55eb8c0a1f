import FeedIndex.Proofs.Accounts

/-!
# The course of an event

Handling an event takes an index through requests about the event's own record and at most one change of its
account. `Course` follows it from one to the next, so that what each of them keeps is kept by the whole.
-/

namespace FeedIndex

open LedgerStore

/-- The table of the records of a collection. -/
def Collection.table? : Collection → Option Table
  | .post => some .posts
  | .like => some .likes
  | .follow => some .follows
  | .profile | .other => none

/-- The table that an event is about. -/
def Event.table? (event : Event) : Option Table := (Collection.ofName event.collection).table?

namespace Handler

/-! ## Requests of an event -/

/-- **Own request** — a request that an event may make: it adds the event's record, or deletes it, or leaves
the ledger alone. -/
inductive RequestOf (event : Event) : StoreOperation → Prop
  | add {request : StoreOperation} {table : Table} (kind : event.table? = some table)
      (action : event.action = .create) (adds : Ledger.added? request = some (table, event.uri, none)) :
      RequestOf event request
  | delete {request : StoreOperation} {table : Table} (kind : event.table? = some table)
      (action : event.action = .delete) (deletes : Ledger.deleted? request = some (table, event.uri)) :
      RequestOf event request
  | silent {request : StoreOperation} (keeps : ∀ now (l : Ledger), l.apply now request = l) :
      RequestOf event request

variable {handler : Handler} {event : Event} {now : Timestamp}

/-! ### What the rows of an event are made of -/

/-- A record that is opened is opened from the payload of its event. -/
theorem payload_of_openRecord {α : Type} [Record α] {record : α} (opened : handler.openRecord event = .ok record) :
    ∃ payload, event.payload = some payload ∧ handler.opener.openRecord payload = .ok record := by
  unfold openRecord payloadOf at opened
  rcases carried : event.payload with _ | payload
  · rw [carried] at opened
    cases opened
  · rw [carried] at opened
    exact ⟨payload, rfl, ok_of_mapError opened⟩

theorem payload_of_openWithRaw {α : Type} [Record α] {record : α} {raw : Json.Value}
    (opened : handler.openWithRaw event = .ok (record, raw)) :
    ∃ payload, event.payload = some payload ∧ handler.opener.openWithRaw payload = .ok (record, raw) := by
  unfold openWithRaw payloadOf at opened
  rcases carried : event.payload with _ | payload
  · rw [carried] at opened
    cases opened
  · rw [carried] at opened
    exact ⟨payload, rfl, ok_of_mapError opened⟩

/-- What the row of a post is made of: a post that is no reply, the whole of its record, and its claimed time. -/
theorem parts_of_postRow? {row : PostRow} (decided : handler.postRow? event now = .ok (some row)) :
    ∃ (post : Post) (raw : Json.Value) (createdAt : Timestamp), handler.openWithRaw event = .ok (post, raw) ∧
      post.classify.isReply = false ∧ claimedTime post.createdAt = .ok createdAt ∧
      row = ⟨event.uri, event.did, createdAt, now, post.classify.hashtags, post.classify.selfLabels,
        post.classify.tags.map FeedTag.name, post.classify.hasMedia, post.classify.hasVideo, post.classify.isNsfw, raw,
        none⟩ := by
  obtain ⟨⟨post, raw⟩, opened, decided⟩ := ok_of_bind decided
  change (if post.classify.isReply then _ else _ : Except HandleFailure (Option PostRow)) = _ at decided
  split at decided
  · cases decided
  · next noReply =>
    obtain ⟨createdAt, claimed, decided⟩ := ok_of_bind decided
    cases decided
    exact ⟨post, raw, createdAt, opened, by simpa using noReply, claimed, rfl⟩

theorem parts_of_likeRow {row : LinkRow} (decided : handler.likeRow event now = .ok row) :
    ∃ (like : Like) (subject : String) (createdAt : Timestamp), handler.openRecord event = .ok like ∧
      likedUri like.subject.uri = .ok subject ∧ claimedTime like.createdAt = .ok createdAt ∧
      row = ⟨event.uri, event.did, subject, createdAt, now, none⟩ := by
  obtain ⟨like, opened, decided⟩ := ok_of_bind decided
  obtain ⟨subject, pointed, decided⟩ := ok_of_bind decided
  obtain ⟨createdAt, claimed, decided⟩ := ok_of_bind decided
  cases decided
  exact ⟨like, subject, createdAt, opened, pointed, claimed, rfl⟩

theorem parts_of_profileRow {row : ProfileRow} (decided : handler.profileRow event now = .ok row) :
    ∃ (commit : String) (profile : Profile) (createdAt : Option Timestamp), event.cid = some commit ∧
      handler.openRecord event = .ok profile ∧ profile.createdAt.mapM claimedTime = .ok createdAt ∧
      row = ⟨event.did, commit, profile.displayName, profile.description, profile.selfLabels, createdAt, now⟩ := by
  unfold profileRow at decided
  split at decided
  · next commit carried =>
    obtain ⟨profile, opened, decided⟩ := ok_of_bind decided
    obtain ⟨createdAt, claimed, decided⟩ := ok_of_bind decided
    cases decided
    exact ⟨commit, profile, createdAt, carried, opened, claimed, rfl⟩
  · cases decided

/-- The row of a post stands under the address of its event, and is not deleted. -/
theorem uri_of_postRow? {row : PostRow} (h : handler.postRow? event now = .ok (some row)) :
    row.uri = event.uri ∧ row.deletedAt = none := by
  obtain ⟨post, raw, createdAt, -, -, -, rfl⟩ := parts_of_postRow? h
  exact ⟨rfl, rfl⟩

theorem uri_of_likeRow {row : LinkRow} (h : handler.likeRow event now = .ok row) :
    row.uri = event.uri ∧ row.deletedAt = none := by
  obtain ⟨like, subject, createdAt, -, -, -, rfl⟩ := parts_of_likeRow h
  exact ⟨rfl, rfl⟩

/-! ### What an event enters -/

/-- What an event enters is a request of its own. -/
theorem Entry.requestOf {roster : Roster} {request : StoreOperation}
    (entry : Entry handler event now roster request) : RequestOf event request := by
  cases entry with
  | @post row kind action approved decided =>
    obtain ⟨huri, hdeleted⟩ := uri_of_postRow? decided
    refine .add (congrArg Collection.table? kind) action ?_
    rw [Ledger.added?, huri, hdeleted]
  | @like row kind action approved decided =>
    obtain ⟨huri, hdeleted⟩ := uri_of_likeRow decided
    refine .add (congrArg Collection.table? kind) action ?_
    rw [Ledger.added?, huri, hdeleted]
  | follow kind action _ _ _ _ => exact .add (congrArg Collection.table? kind) action rfl
  | profile _ _ _ _ => exact .silent fun _ _ => rfl
  | deletedPost kind action _ => exact .delete (congrArg Collection.table? kind) action rfl
  | deletedLike kind action _ => exact .delete (congrArg Collection.table? kind) action rfl

/-! ## The states in between -/

variable {σ : Type} [Store σ]

/-- **Moves** — what an event changes about its account, and why. -/
inductive Moves (handler : Handler) (event : Event) (now : Timestamp) (index : Index σ) :
    AccountChange → Prop
  | followed {follow : Follow} {change : AccountChange} (follows : FollowsSubject handler event follow)
      (changes : AccountChange.onFollow? (index.roster.get? event.did) = some change) :
      Moves handler event now index change
  | unfollowed {actor : Actor} {row : LinkRow} {change : AccountChange}
      (unfollows : Unfollows event index.roster actor)
      (stored : (Store.getFollow event.uri : Storing σ _).answer index.store = .ok (some row))
      (subject : row.subject = handler.subject) (deleted : deletionOutcome event now index.store = .ok ())
      (changes : AccountChange.onUnfollow? actor = some change) :
      Moves handler event now index change

variable [LedgerStore σ]

theorem sound_withoutFollow {store : σ} (sound : Sound store) : Sound (withoutFollow event now store) :=
  sound_after now _ (sound_after now _ sound)

/-- **Course** — the indexes that an event takes an index through. -/
inductive Course (handler : Handler) (event : Event) (now : Timestamp) (index : Index σ) : Index σ → Prop
  | start : Course handler event now index index
  | request {mid : Index σ} {request : StoreOperation} (before : Course handler event now index mid)
      (own : RequestOf event request) :
      Course handler event now index { mid with store := request.after now mid.store }
  | account {mid moved : Index σ} {change : AccountChange} {result : Except HandleFailure Unit}
      (before : Course handler event now index mid) (roster : mid.roster = index.roster)
      (moves : Moves handler event now index change)
      (filed : Filed event.did (change.apply event.did) mid result moved) :
      Course handler event now index moved

namespace Course

variable {index : Index σ}

/-- The account of a follow of the subject moves, or nothing changes. -/
theorem followed (sound : Sound index.store) {follow : Follow} {result : Except HandleFailure Unit}
    {moved : Index σ} (follows : FollowsSubject handler event follow)
    (move : (followedSubject event (index.roster.get? event.did) now).run.run index = (result, moved)) :
    Course handler event now index moved := by
  have filed := run_followedSubject sound event now
  rw [move] at filed
  rcases changes : AccountChange.onFollow? (index.roster.get? event.did) with _ | change
  · rw [changes] at filed
    obtain ⟨-, rfl⟩ := Prod.mk.inj filed
    exact .start
  · rw [changes] at filed
    exact .account .start rfl (.followed follows changes) filed

/-- A follow is looked up and deleted. -/
theorem withoutFollow {actor : Actor} (unfollows : Unfollows event index.roster actor) :
    Course handler event now index { index with store := Handler.withoutFollow event now index.store } := by
  have kind : event.table? = some .follows := congrArg Collection.table? unfollows.kind
  have looked : Course handler event now index
      { index with store := (StoreOperation.getFollow event.uri).after now index.store } :=
    .request .start (.silent fun _ _ => rfl)
  exact .request looked (.delete kind unfollows.action rfl)

/-- Handling an event follows its course. -/
theorem of_handled (sound : Sound index.store) {result : Except HandleFailure Unit} {index' : Index σ}
    (way : Handled handler event now index result index') : Course handler event now index index' := by
  cases way with
  | passed => exact .start
  | refused _ => exact .start
  | entered _ entry => exact .request .start entry.requestOf
  | followFailed follows move => exact followed sound follows move
  | followUntimed follows move _ => exact followed sound follows move
  | followKept follows move _ =>
    have kind : event.table? = some .follows := congrArg Collection.table? follows.kind
    exact .request (followed sound follows move) (.add kind follows.action rfl)
  | unfollowUnknown _ _ => exact .request .start (.silent fun _ _ => rfl)
  | unfollowed unfollows _ _ => exact withoutFollow unfollows
  | @unfollowedSubject actor row result moved unfollows stored subject deleted move =>
    have course : Course handler event now index
        { index with store := Handler.withoutFollow event now index.store } := withoutFollow unfollows
    have filed := run_unfollowedSubject { index with store := Handler.withoutFollow event now index.store }
      (sound_withoutFollow sound) event.did actor
    rw [move] at filed
    rcases changes : AccountChange.onUnfollow? actor with _ | change
    · rw [changes] at filed
      obtain ⟨-, rfl⟩ := Prod.mk.inj filed
      exact course
    · rw [changes] at filed
      exact .account course rfl (.unfollowed unfollows stored subject deleted changes) filed

end Course

/-- Every event follows its course to the end. -/
theorem course_run (handler : Handler) (event : Event) (now : Timestamp) {index : Index σ}
    (sound : Sound index.store) :
    Course handler event now index (handler.run event now index).2 :=
  Course.of_handled sound (handled_run handler event now index)

/-! ## What is kept on the way -/

namespace RequestOf

variable {request : StoreOperation}

theorem apply_status (own : RequestOf event request) (l : Ledger) :
    (l.apply now request).status = l.status := by
  cases own with
  | add _ _ adds => rw [Ledger.apply_of_added? adds]; rfl
  | delete _ _ deletes => rw [Ledger.apply_of_deleted? deletes]; rfl
  | silent keeps => rw [keeps]

end RequestOf

namespace Course

variable {index mid : Index σ}

/-- The store of every index on the way is sound. -/
theorem sound (course : Course handler event now index mid) (start : Sound index.store) :
    Sound mid.store := by
  induction course with
  | start => exact start
  | request _ _ ih => exact sound_after now _ ih
  | account _ _ _ filed _ => exact filed.sound

/-- An account that is known stays known. -/
theorem known (course : Course handler event now index mid) {did : String}
    (start : (index.roster.get? did).isSome = true) : (mid.roster.get? did).isSome = true := by
  induction course with
  | start => exact start
  | request _ _ ih => exact ih
  | account _ _ _ filed ih =>
    cases filed with
    | failed _ _ _ => exact ih
    | done _ _ _ _ =>
      rw [Roster.get?_put]
      split
      · rfl
      · exact ih

end Course

/-! ## What is done for sure -/

variable {index : Index σ}

/-- What moves an account is what is stored of it: keeping or deleting the follow itself changes no status. -/
theorem status_run_of_moves (sound : Sound index.store) {change : AccountChange}
    (moves : Moves handler event now index change) :
    (ledger (handler.run event now index).2.store).status =
      (change.apply event.did (ledger index.store)).status := by
  cases moves with
  | @followed follow _ follows changes =>
    have filed := run_followedSubject sound event now
    rw [changes] at filed
    rw [run_followsSubject now follows]
    rcases move : (followedSubject event (index.roster.get? event.did) now).run.run index with
      ⟨failure | ⟨⟩, moved⟩
    · rw [move] at filed
      exact congrArg Ledger.status filed.ledger_eq
    · rw [move] at filed
      dsimp only
      rw [run_keepFollow]
      rcases claimedTime follow.createdAt with failure | createdAt
      · exact congrArg Ledger.status filed.ledger_eq
      · show (ledger (StoreOperation.after now _ moved.store)).status = _
        rw [ledger_after, ← filed.ledger_eq]
        rfl
  | @unfollowed actor row _ unfollows stored subject deleted changes =>
    have filed := run_unfollowedSubject { index with store := withoutFollow event now index.store }
      (sound_withoutFollow sound) event.did actor
    rw [changes] at filed
    rw [run_unfollows now unfollows, run_followDeleted handler event now index actor stored, deleted]
    dsimp only
    rw [if_pos subject, filed.ledger_eq]
    -- looking the follow up and deleting it left every status as it was
    have same : (ledger (withoutFollow event now index.store)).status = (ledger index.store).status := by
      unfold withoutFollow
      rw [ledger_after, ledger_after]
      rfl
    cases change with
    | add => simp only [AccountChange.apply, Ledger.addAccount, same]
    | set status => simp only [AccountChange.apply, Ledger.setStatus, same]

end Handler

end FeedIndex
