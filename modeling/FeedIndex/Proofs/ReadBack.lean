import FeedIndex.Proofs.Backends
import FeedIndex.Proofs.Canonical
import FeedIndex.Proofs.ColumnTimes
import FeedIndex.Proofs.RawPost

/-!
# Posts that are read back

A post that an event creates goes into columns, which are texts: its times, its lists, and the whole of its record. All
columns but the last are read back, whatever the post is. The last is read back as far as the reader of texts goes,
which is less far than records come: a block may be nested deeper than a text that is read.
-/

namespace FeedIndex

open Json (Value)

/-! ## Times in columns -/

/-- **withTimesRead?** — the row with its times as they are read from the texts in their columns. -/
def PostColumns.withTimesRead? (row : PostColumns) : Option PostColumns := do
  return { row with
    createdAt := ← Timestamp.ofColumn? row.createdAt.columnText
    indexedAt := ← Timestamp.ofColumn? row.indexedAt.columnText
    deletedAt := ← row.deletedAt.mapM fun time => Timestamp.ofColumn? time.columnText }

/-- Times of the clock are read as they are. -/
theorem PostColumns.withTimesRead?_eq {row : PostColumns} (created : row.createdAt.OnClock)
    (indexed : row.indexedAt.OnClock) (deleted : ∀ time, row.deletedAt = some time → time.OnClock) :
    row.withTimesRead? = some row := by
  have deletedRead : (row.deletedAt.mapM fun time => Timestamp.ofColumn? time.columnText) = some row.deletedAt := by
    rcases gone : row.deletedAt with _ | time
    · rfl
    · rw [Option.mapM_some, (deleted time gone).ofColumn?_columnText]
      rfl
  unfold withTimesRead?
  rw [created.ofColumn?_columnText, indexed.ofColumn?_columnText, deletedRead]
  rfl

/-! ## Raw values in columns -/

/-- **A post is read back from its row**, whatever its record is but for doubles, exactly if the record is no deeper
than the reader of texts allows and holds no object that begins with the reserved key. -/
theorem PostColumns.post?_ofPost_depth_iff {post : PostRow} (canonical : post.raw.Canonical)
    (whole : post.raw.holdsDouble = false) :
    (ofPost post).post? = some post ↔ post.raw.depth ≤ Json.maxDepth ∧ ¬ post.raw.Embeds :=
  post?_ofPost_iff_ofText?.trans (canonical.fits whole).ofText?_render_depth_iff

namespace Handler

variable {handler : Handler} {event : Event} {now : Timestamp}

/-! ## The row of an event -/

theorem onClock_of_claimedTime {text : String} {time : Timestamp} (claimed : claimedTime text = .ok time) :
    time.OnClock :=
  Timestamp.onClock_of_read (ok_of_mapError claimed)

/-- The row of a post has a claimed time of the clock, the time of the event, and a canonical record. -/
theorem columns_of_postRow? {row : PostRow} (decided : handler.postRow? event now = .ok (some row)) :
    row.createdAt.OnClock ∧ row.indexedAt = now ∧ row.raw.Canonical := by
  obtain ⟨post, raw, createdAt, opened, -, claimed, rfl⟩ := parts_of_postRow? decided
  obtain ⟨payload, -, opened⟩ := payload_of_openWithRaw opened
  refine ⟨onClock_of_claimedTime claimed, rfl, ?_⟩
  exact Opener.canonical_of_rawValue? (Opener.parts_of_openWithRaw opened).2

variable {index : Index Relational}

/-- A post that was not there before is the one that was decided on. -/
theorem stored_of_run (kind : Collection.ofName event.collection = .post) (action : event.action = .create)
    (free : index.store.posts.get? event.uri = none) (accepted : (handler.run event now index).1 = .ok ())
    (stored : (handler.run event now index).2.store.posts.get? event.uri ≠ none) :
    ∃ row, handler.postRow? event now = .ok (some row) ∧
      (handler.run event now index).2.store.posts.get? event.uri = some (.ofPost row) := by
  -- of the ways to handle an event, all others are for another kind or action, or leave the posts as they are
  have handled := handled_run handler event now index
  generalize (handler.run event now index).1 = result at handled accepted
  generalize (handler.run event now index).2 = after at handled stored
  cases handled with
  | passed => exact absurd free stored
  | refused => cases accepted
  | entered valid entry =>
    cases entry with
    | @post row _ _ _ decided =>
      refine ⟨row, decided, ?_⟩
      show (index.store.posts.insertNew row.uri (.ofPost row)).get? event.uri = _
      rw [(uri_of_postRow? decided).1, Keyed.get?_insertNew, if_pos rfl, free]
      rfl
    | like other => cases kind.symm.trans other
    | follow other => cases kind.symm.trans other
    | profile other => cases kind.symm.trans other
    | deletedPost _ other => cases action.symm.trans other
    | deletedLike other => cases kind.symm.trans other
  | followFailed follows => cases kind.symm.trans follows.kind
  | followUntimed follows => cases kind.symm.trans follows.kind
  | followKept follows => cases kind.symm.trans follows.kind
  | unfollowUnknown unfollows => cases kind.symm.trans unfollows.kind
  | unfollowed unfollows => cases kind.symm.trans unfollows.kind
  | unfollowedSubject unfollows => cases kind.symm.trans unfollows.kind

/-- **A created post is read back**: its times from the texts in their columns, and the whole post, if its record has no
doubles, exactly if the record is no deeper than the reader of texts allows and holds no object that begins with the
reserved key. -/
theorem created_post_read_back_iff (handler : Handler) (event : Event) (now : Timestamp) (index : Index Relational)
    (kind : Collection.ofName event.collection = .post) (action : event.action = .create) (clock : now.OnClock)
    (free : index.store.posts.get? event.uri = none)
    (accepted : (handler.run event now index).1 = .ok ())
    (stored : (handler.run event now index).2.store.posts.get? event.uri ≠ none) :
    ∃ row columns, handler.postRow? event now = .ok (some row) ∧
      (handler.run event now index).2.store.posts.get? event.uri = some columns ∧
      columns.withTimesRead? = some columns ∧
      (row.raw.holdsDouble = false →
        ((Store.getPost event.uri : Storing Relational _).answer (handler.run event now index).2.store =
            .ok (some row) ↔
          row.raw.depth ≤ Json.maxDepth ∧ ¬ row.raw.Embeds)) := by
  obtain ⟨row, decided, stands⟩ := stored_of_run kind action free accepted stored
  obtain ⟨created, indexed, canonical⟩ := columns_of_postRow? decided
  refine ⟨row, .ofPost row, decided, stands, ?_, fun whole => ?_⟩
  · have now_indexed : row.indexedAt.OnClock := by rw [indexed]; exact clock
    refine PostColumns.withTimesRead?_eq created now_indexed fun time deleted => ?_
    cases (uri_of_postRow? decided).2.symm.trans deleted
  · exact (Relational.answer_getPost_eq_iff stands row).trans (PostColumns.post?_ofPost_depth_iff canonical whole)

end Handler

/-! ### Posts of one account -/

namespace DeepRecord

open RawPost

/-- The author is approved and has no posts in the tables. -/
def start : Index Relational := ⟨(StoreOperation.createActor author).after ⟨0, 0⟩ {}, Roster.put author {}⟩

/-- A post with lists, so many in another, in a field that posts do not have. -/
def nested (lists : Nat) : Payload :=
  let block := Cbor.headBytes .map 3 ++ Cbor.textBytes "text" ++ Cbor.textBytes "hello" ++ Cbor.textBytes "z" ++
    (List.replicate lists (Cbor.headBytes .array 1)).flatten ++ Cbor.headBytes .array 0 ++ time
  .block (identifier block) block

/-- A post with the reserved key, which comes first where the members are in order. -/
def reserved : Payload := .json
  ("\x7b\"text\":\"hello\",\"createdAt\":\"2025-01-26T17:11:03Z\",\"" ++ Json.embeddedKey ++ "\":\"2\"\x7d")

/-- What becomes of the record of a post: its depth, whether it has doubles, and whether it embeds something. -/
def rawOf (payload : Payload) : Option (Nat × Bool × Bool) :=
  ((Handler.postRow? {} (created "p1" payload) ⟨1, 0⟩).toOption.bind id).map fun row =>
    (row.raw.depth, row.raw.holdsDouble, decide row.raw.Embeds)

/-- The index after the author has created the post. -/
def after (payload : Payload) : Index Relational := (Handler.run {} (created "p1" payload) ⟨1, 0⟩ start).2

/-- A record that is as deep as the reader of texts allows is read back. -/
theorem nested_read_back :
    ∃ row, Handler.postRow? {} (created "p1" (nested 125)) ⟨1, 0⟩ = .ok (some row) ∧ row.raw.depth = Json.maxDepth ∧
      (Store.getPost (created "p1" (nested 125)).uri : Storing Relational _).answer (after (nested 125)).store =
        .ok (some row) := by
  have accepted : (Handler.run {} (created "p1" (nested 125)) ⟨1, 0⟩ start).1 = .ok () := by decide +kernel
  have stored : (Handler.run {} (created "p1" (nested 125)) ⟨1, 0⟩ start).2.store.posts.get?
      (created "p1" (nested 125)).uri ≠ none := by decide +kernel
  have raw : rawOf (nested 125) = some (127, false, false) := by decide +kernel
  obtain ⟨row, -, decided, -, -, back⟩ := Handler.created_post_read_back_iff {} (created "p1" (nested 125)) ⟨1, 0⟩
    start rfl rfl ⟨by decide, by decide⟩ rfl accepted stored
  rw [rawOf, decided] at raw
  obtain ⟨depth, others⟩ := Prod.mk.inj (Option.some.inj raw)
  obtain ⟨whole, plain⟩ := Prod.mk.inj others
  refine ⟨row, decided, depth, ?_⟩
  rw [after]
  exact (back whole).mpr ⟨Nat.le_of_eq depth, of_decide_eq_false plain⟩

/-- **Unread** — the post is created where none was, accepted and stored; its record has no doubles, and is not read back
from the tables. -/
def Unread (payload : Payload) : Prop :=
  start.store.posts.get? (created "p1" payload).uri = none ∧
    (Handler.run {} (created "p1" payload) ⟨1, 0⟩ start).1 = .ok () ∧
    ∃ row, Handler.postRow? {} (created "p1" payload) ⟨1, 0⟩ = .ok (some row) ∧ row.raw.holdsDouble = false ∧
      (after payload).store.posts.get? (created "p1" payload).uri = some (.ofPost row) ∧
      (Store.getPost (created "p1" payload).uri : Storing Relational _).answer (after payload).store ≠ .ok (some row)

theorem unread_of_raw {payload : Payload} {depth : Nat} {embeds : Bool}
    (accepted : (Handler.run {} (created "p1" payload) ⟨1, 0⟩ start).1 = .ok ())
    (stored : (after payload).store.posts.get? (created "p1" payload).uri ≠ none)
    (raw : rawOf payload = some (depth, false, embeds)) (spoilt : Json.maxDepth < depth ∨ embeds = true) :
    Unread payload := by
  obtain ⟨row, decided, stands⟩ := Handler.stored_of_run rfl rfl rfl accepted stored
  rw [rawOf, decided] at raw
  obtain ⟨rfl, others⟩ := Prod.mk.inj (Option.some.inj raw)
  obtain ⟨whole, rfl⟩ := Prod.mk.inj others
  refine ⟨rfl, accepted, row, decided, whole, stands, fun answered => ?_⟩
  have canonical := (Handler.columns_of_postRow? decided).2.2
  have read := (Relational.answer_getPost_eq_iff stands row).mp answered
  obtain ⟨shallow, plain⟩ := (PostColumns.post?_ofPost_depth_iff canonical whole).mp read
  rcases spoilt with deep | embeds
  · exact Nat.not_lt.mpr shallow deep
  · exact plain (of_decide_eq_true embeds)

/-- **Posts that are not read back**: the one is a level deeper than the reader allows, the other begins with the
reserved key. -/
theorem deepest_and_reserved_unread : Unread (nested 126) ∧ Unread reserved := by
  constructor
  · have raw : rawOf (nested 126) = some (128, false, false) := by decide +kernel
    exact unread_of_raw (by decide +kernel) (by decide +kernel) raw (.inl (by decide))
  · have raw : rawOf reserved = some (1, false, true) := by decide +kernel
    exact unread_of_raw (by decide +kernel) (by decide +kernel) raw (.inr rfl)

end DeepRecord

end FeedIndex
