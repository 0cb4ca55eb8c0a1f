import FeedIndex.Proofs.Cbor.Strict
import FeedIndex.Proofs.Cbor.Written
import FeedIndex.Proofs.Deeds
import FeedIndex.Proofs.Json.Portrayed
import FeedIndex.Proofs.Tables.Memory

/-!
# A post and the whole of its record

A post is stored with the whole of its record as a JSON value, beside what its classification says of it. The record
is read twice for that, once as a post and once as a value. Read again from the value, it is the same post, and so has
the same classification, whichever way it came; except where the two readings take one thing for two. In a text that
is an object that begins with the reserved key, in a block an item that is read as another type than its own.
-/

namespace FeedIndex

open Json (Value)

/-! ## Reading a post again -/

/-- What a value stands for gives the post that is read again from the value. -/
theorem Portrayal.reread {ω : Type} [Wire ω] (P : Portrayal ω) (allowed : Wire.levels ω ≤ Cbor.maxLevels)
    {input rest : ω} {post : Post} {v : Value} (taken : Wire.read Post.reading input = some (post, rest))
    (there : ∃ rest', P.Shows input v rest') : Record.ofValue? v = some post := by
  obtain ⟨rest', there⟩ := there
  have carries : Carries P (n := max v.depth Cbor.maxLevels) Post.reading Post.reading :=
    carries_post (Nat.le_trans allowed (Nat.le_max_right _ _))
  obtain ⟨-, reads⟩ := carries taken there
  have again := reads (max v.depth Cbor.maxLevels) ⟨[]⟩ (Nat.le_max_left _ _)
  exact congrArg (Option.map Prod.fst) again

theorem reread_text {text : String} (plain : (Json.parse? text).any Json.Tree.embeds = false) {post : Post}
    (read : Record.ofJson? text = some post) {raw : Value} (whole : Value.ofText? text = some raw) :
    Record.ofValue? raw = some post := by
  obtain ⟨tree, parsed, read⟩ := Option.bind_eq_some_iff.mp read
  obtain ⟨⟨_, rest⟩, taken, rfl⟩ := Option.map_eq_some_iff.mp read
  obtain ⟨tree', parsed', valued⟩ := Option.bind_eq_some_iff.mp whole
  obtain rfl := Option.some.inj (parsed.symm.trans parsed')
  rw [parsed] at plain
  exact Json.treePortrayal.reread (by decide) taken ⟨[], tree, rfl, plain, _, _, valued⟩

theorem reread_block {bs : Bytes} {post : Post} (strict : Cbor.Strict.read? Post.reading bs = some post)
    {d : Cbor.Data} (whole : Cbor.Data.ofBytes? bs = some d) : Record.ofValue? d.toJson = some post := by
  unfold Cbor.Strict.read? at strict
  unfold Cbor.Data.ofBytes? at whole
  split at strict
  · next taken =>
    cases strict
    split at whole
    · next read =>
      cases whole
      exact Cbor.dataPortrayal.reread (Nat.le_refl _) taken ⟨⟨[]⟩, _, Nat.le_refl _, _, read, rfl⟩
    · cases whole
  · cases strict

/-- **isUnambiguous** — a payload of which nothing is read as one thing for a post and as another for its value: no
object of a text begins with the reserved key, and a block gives the same post where no item is read as another type
than its own. -/
def Payload.isUnambiguous : Payload → Bool
  | .json text => !(Json.parse? text).any Json.Tree.embeds
  | .block _ bs => Cbor.Strict.read? Post.reading bs = (Record.ofBlock? bs : Option Post)

namespace Opener

variable {opener : Opener} {payload : Payload} {post : Post} {raw : Value}

theorem parts_of_openWithRaw (opened : opener.openWithRaw payload = .ok (post, raw)) :
    opener.openRecord payload = .ok post ∧ rawValue? payload = some raw := by
  unfold openWithRaw at opened
  split at opened
  · cases opened
  · next record read =>
    split at opened
    · next whole value =>
      cases opened
      exact ⟨read, value⟩
    · cases opened

theorem read_of_openRecord_block {cid : Cid} {bs : Bytes} (opened : opener.openRecord (.block cid bs) = .ok post) :
    Record.ofBlock? bs = some post := by
  unfold openRecord at opened
  dsimp only at opened
  split at opened
  · cases opened
  · split at opened
    · next read =>
      cases opened
      exact read
    · cases opened

/-- **The whole of a record is the record**: the post that was opened with it is read from it again. -/
theorem reread (opened : opener.openWithRaw payload = .ok (post, raw)) (unambiguous : payload.isUnambiguous = true) :
    Record.ofValue? raw = some post := by
  obtain ⟨read, whole⟩ := parts_of_openWithRaw opened
  cases payload with
  | json text =>
    have plain : (Json.parse? text).any Json.Tree.embeds = false := by simpa [Payload.isUnambiguous] using unambiguous
    unfold openRecord at read
    dsimp only at read
    split at read
    · next read' =>
      cases read
      exact reread_text plain read' whole
    · cases read
  | block cid bs =>
    have strict : Cbor.Strict.read? Post.reading bs = (Record.ofBlock? bs : Option Post) :=
      of_decide_eq_true unambiguous
    obtain ⟨d, data, rfl⟩ := Option.map_eq_some_iff.mp whole
    exact reread_block (strict.trans (read_of_openRecord_block read)) data

end Opener

/-! ## What is stored of a post -/

/-- **Classifies** — the row of a post says of it what its classification says. -/
structure PostRow.Classifies (row : PostRow) (post : Post) : Prop where
  hashtags : row.hashtags = post.classify.hashtags
  selfLabels : row.selfLabels = post.classify.selfLabels
  tags : row.tags = post.classify.tags.map FeedTag.name
  hasMedia : row.hasMedia = post.classify.hasMedia
  hasVideo : row.hasVideo = post.classify.hasVideo
  isNsfw : row.isNsfw = post.classify.isNsfw

/-- The row says of its post what is said of the post that is read from the value it keeps. -/
def PostRow.AgreesWithRaw (row : PostRow) : Prop :=
  ∃ post : Post, Record.ofValue? row.raw = some post ∧ row.Classifies post

/-- The post that an event creates, if it creates one, is read alike both times. -/
def Event.IsUnambiguous (event : Event) : Prop :=
  Collection.ofName event.collection = .post → event.action = .create →
    ∀ payload, event.payload = some payload → payload.isUnambiguous = true

namespace Handler

variable {handler : Handler} {event : Event} {now : Timestamp}

theorem agreesWithRaw_of_postRow? {row : PostRow} (decided : handler.postRow? event now = .ok (some row))
    (unambiguous : ∀ payload, event.payload = some payload → payload.isUnambiguous = true) : row.AgreesWithRaw := by
  obtain ⟨post, raw, createdAt, opened, -, -, rfl⟩ := parts_of_postRow? decided
  obtain ⟨payload, carried, opened⟩ := payload_of_openWithRaw opened
  have again : Record.ofValue? raw = some post := Opener.reread opened (unambiguous payload carried)
  exact ⟨post, again, rfl, rfl, rfl, rfl, rfl, rfl⟩

end Handler

variable {L : Schema}

/-- **Agreeing** — every post that is stored was stored with a row that agrees with its raw value, and has since been
deleted at most. -/
def Tables.Agreeing (t : Tables L) : Prop :=
  ∀ uri stored, t.records .posts uri = some stored →
    ∃ row : PostRow, row.AgreesWithRaw ∧
      (stored = .post (L.ofPost row) ∨ ∃ time, stored = .post (L.delete time (L.ofPost row)))

namespace Tables.Agreeing

variable {t : Tables L}

theorem addRecord (agreeing : t.Agreeing) {row : PostRow} (agrees : row.AgreesWithRaw) (uri : String) :
    (t.addRecord .posts uri (.post (L.ofPost row))).Agreeing := by
  intro other stored there
  change (if Table.posts = Table.posts ∧ other = uri then
    (t.records .posts other).or (some (.post (L.ofPost row))) else t.records .posts other) = some stored at there
  split at there
  · rcases old : t.records .posts other with _ | before
    · rw [old] at there
      cases there
      exact ⟨row, agrees, .inl rfl⟩
    · rw [old] at there
      cases there
      exact agreeing other stored old
  · exact agreeing other stored there

/-- A post that is deleted was stored as it was; its first deletion stays. -/
theorem deleteRecord (agreeing : t.Agreeing) (uri : String) (now : Timestamp) :
    (t.deleteRecord .posts uri now).Agreeing := by
  intro other stored there
  change (if Table.posts = Table.posts ∧ other = uri then
    (t.records .posts other).map (·.delete now) else t.records .posts other) = some stored at there
  split at there
  · obtain ⟨before, old, rfl⟩ := Option.map_eq_some_iff.mp there
    obtain ⟨row, agrees, rfl | ⟨time, rfl⟩⟩ := agreeing other before old
    · exact ⟨row, agrees, .inr ⟨now, rfl⟩⟩
    · -- deleted before, so it stays as it is
      have deleted : L.deletedAt (L.delete time (L.ofPost row)) ≠ none := by
        rw [L.deletedAt_delete]
        cases L.deletedAt (L.ofPost row) <;> exact nofun
      refine ⟨row, agrees, .inr ⟨time, ?_⟩⟩
      exact congrArg Schema.Row.post (L.delete_of_deleted deleted)
  · exact agreeing other stored there

/-- Tables with the same posts agree alike. -/
theorem of_records_eq (agreeing : t.Agreeing) {next : Tables L} (same : next.records .posts = t.records .posts) :
    next.Agreeing := by
  intro uri stored there
  rw [same] at there
  exact agreeing uri stored there

/-- What an event enters keeps the stored posts in agreement. -/
theorem apply {handler : Handler} {event : Event} {now : Timestamp} {index : Index (Tables L)} (agreeing : t.Agreeing)
    (unambiguous : event.IsUnambiguous) {request : StoreOperation}
    (does : Handler.Does handler event now index (.enter request)) : (t.apply now request).Agreeing := by
  cases does with
  | kept _ _ => exact agreeing.of_records_eq rfl
  | deleted _ _ => exact agreeing.of_records_eq rfl
  | entry valid entry =>
    cases entry with
    | post kind action _ decided =>
      exact agreeing.addRecord (Handler.agreesWithRaw_of_postRow? decided (unambiguous kind action)) _
    | deletedPost _ _ _ => exact agreeing.deleteRecord _ now
    | profile _ _ _ _ =>
      refine agreeing.of_records_eq ?_
      show (t.addProfile _).records .posts = _
      unfold Tables.addProfile
      split <;> rfl
    | _ => exact agreeing.of_records_eq rfl

/-- An event keeps the stored posts in agreement. -/
theorem take {handler : Handler} {event : Event} {now : Timestamp} {index : Index (Tables L)}
    (agreeing : index.store.Agreeing) (unambiguous : event.IsUnambiguous) :
    (handler.take event now index).store.Agreeing := by
  refine Index.doAll_induction (P := fun mid => mid.store.Agreeing) agreeing ?_ ?_
  · intro request listed mid held
    exact held.apply unambiguous (Handler.does_of_mem_deeds listed)
  · intro change _ mid held
    rw [Index.store_file]
    exact held.of_records_eq (congrFun (Tables.records_file event.did now change mid.store) _)

theorem takeAll {handler : Handler} {events : List (Event × Timestamp)}
    (unambiguous : ∀ event ∈ events, event.1.IsUnambiguous) {index : Index (Tables L)}
    (agreeing : index.store.Agreeing) : (handler.takeAll events index).store.Agreeing := by
  induction events generalizing index with
  | nil => exact agreeing
  | cons event rest ih =>
    obtain ⟨first, others⟩ := List.forall_mem_cons.mp unambiguous
    exact ih others (agreeing.take first)

end Tables.Agreeing

/-! ## Both readings -/

/-- **The whole of a record and the post agree.** A post that is opened with the whole of its record is read from it
again. Every post that events leave in a store is classified as the post that is read from the value kept of it. A
block is classified as the JSON value of its data is. -/
theorem post_agrees_with_raw (handler : Handler) :
    (∀ (payload : Payload) (post : Post) (raw : Value), handler.opener.openWithRaw payload = .ok (post, raw) →
      payload.isUnambiguous = true → Record.ofValue? raw = some post) ∧
    (∀ (σ : Type) [Store σ] [TableStore σ] (events : List (Event × Timestamp)) (index : Index σ),
      (TableStore.tables index.store).Agreeing → (∀ event ∈ events, event.1.IsUnambiguous) →
        (TableStore.tables (handler.runEach events index).store).Agreeing) ∧
    ∀ (cid : Cid) (bs : Bytes) (post : Post) (d : Cbor.Data), handler.opener.openRecord (.block cid bs) = .ok post →
      Cbor.Data.ofBytes? bs = some d → (Payload.block cid bs).isUnambiguous = true →
        (Record.ofValue? d.toJson).map Post.classify = some post.classify := by
  refine ⟨fun payload post raw => Opener.reread, ?_, ?_⟩
  · intro σ _ _ events index agreeing unambiguous
    have after : (handler.takeAll events index.tabled).store.Agreeing := .takeAll unambiguous agreeing
    rw [← Handler.tabled_runEach] at after
    exact after
  · intro cid bs post d opened whole unambiguous
    have strict : Cbor.Strict.read? Post.reading bs = (Record.ofBlock? bs : Option Post) :=
      of_decide_eq_true unambiguous
    rw [reread_block (strict.trans (Opener.read_of_openRecord_block opened)) whole, Option.map_some]

/-! ### Posts of one account -/

namespace RawPost

def author : Actor := .fresh "did:plc:author" .approved "" ⟨0, 0⟩

/-- The author is approved and has no posts. -/
def start : Index Memory := ⟨(StoreOperation.createActor author).after ⟨0, 0⟩ {}, Roster.put author {}⟩

/-- The author creates a post. -/
def created (rkey : String) (payload : Payload) : Event where
  seq := 1
  did := author.did
  action := .create
  collection := "app.bsky.feed.post"
  rkey := rkey
  cid := none
  payload := some payload

/-- A post with an image, and twice with a field that posts do not have. -/
def pictured : Payload := .json
  ("\x7b\"via\":1,\"text\":\"#art\",\"embed\":\x7b\"$type\":\"app.bsky.embed.images\",\"images\":[\x7b\x7d]\x7d," ++
    "\"createdAt\":\"2025-01-26T17:11:03Z\",\"via\":[2]\x7d")

/-- The time of a post as members of a block. -/
def time : Bytes := Cbor.textBytes "createdAt" ++ Cbor.textBytes "2025-01-26T17:11:03Z"

/-- A post with bytes in a field that posts do not have. -/
def salted : Bytes :=
  Cbor.headBytes .map 3 ++ Cbor.textBytes "text" ++ Cbor.textBytes "#art" ++
    Cbor.textBytes "salt" ++ Cbor.stringBytes .bytes [0xde, 0xad] ++ time

def identifier (block : Bytes) : Cid := .v1 0x71 Cid.sha256Code (Sha256.digest block)

/-- The author creates both posts. -/
def stream : List (Event × Timestamp) :=
  [(created "p1" pictured, ⟨1, 0⟩), (created "p2" (.block (identifier salted) salted), ⟨2, 0⟩)]

open TableStore in
/-- Both posts are opened and stored, and agree with the wholes of their records. -/
theorem posts_agree :
    (∃ (post : Post) (raw : Value), Opener.verifying.openWithRaw pictured = .ok (post, raw) ∧
      post.classify.hasMedia = true ∧ Record.ofValue? raw = some post) ∧
    (tables (Handler.runEach {} stream start).store).Agreeing ∧
    (Handler.runEach {} stream start).store.posts.length = 2 ∧
    ∃ (post : Post) (d : Cbor.Data), Opener.verifying.openRecord (.block (identifier salted) salted) = .ok post ∧
      Cbor.Data.ofBytes? salted = some d ∧ (Record.ofValue? d.toJson).map Post.classify = some post.classify := by
  have unambiguous : pictured.isUnambiguous = true ∧
      (Payload.block (identifier salted) salted).isUnambiguous = true := by decide +kernel
  obtain ⟨text, stored, block⟩ := post_agrees_with_raw {}
  refine ⟨?_, stored Memory stream start (fun uri post there => nomatch there) ?_, by decide +kernel, ?_⟩
  · have opened : (Opener.verifying.openWithRaw pictured : Except OpenFailure (Post × Value)).toOption.map
        (fun opened => opened.1.classify.hasMedia) = some true := by decide +kernel
    obtain ⟨⟨post, raw⟩, opened, media⟩ := Option.map_eq_some_iff.mp opened
    exact ⟨post, raw, Handler.ok_of_toOption opened, media,
      text pictured post raw (Handler.ok_of_toOption opened) unambiguous.1⟩
  · simp only [stream, List.forall_mem_cons]
    refine ⟨fun _ _ payload carried => ?_, fun _ _ payload carried => ?_, nofun⟩
    · cases carried
      exact unambiguous.1
    · cases carried
      exact unambiguous.2
  · have opened : (Opener.verifying.openRecord (.block (identifier salted) salted) :
        Except OpenFailure Post).toOption.isSome = true := by decide +kernel
    obtain ⟨post, opened⟩ := Option.isSome_iff_exists.mp opened
    have whole : (Cbor.Data.ofBytes? salted).isSome = true := by decide +kernel
    obtain ⟨d, whole⟩ := Option.isSome_iff_exists.mp whole
    exact ⟨post, d, Handler.ok_of_toOption opened, whole,
      block _ salted post d (Handler.ok_of_toOption opened) whole unambiguous.2⟩

/-- A post with an embed that begins with the reserved key, and embeds the text of another. -/
def embedding : Payload := .json
  ("\x7b\"text\":\"#art\",\"createdAt\":\"2025-01-26T17:11:03Z\",\"embed\":\x7b\"" ++ Json.embeddedKey ++
    "\":\"\x7b\\\"$type\\\":\\\"app.bsky.embed.images\\\",\\\"images\\\":[\x7b\x7d]\x7d\"\x7d\x7d")

/-- A post with bytes where its text is expected. -/
def mistyped : Bytes :=
  Cbor.headBytes .map 2 ++ Cbor.textBytes "text" ++ Cbor.stringBytes .bytes [0x61] ++ time

/-- **The readings come apart** for both: the one post is stored as one without media, and is a post with media where
it is read from its raw value; the other has a text, and no post is read from its raw value. -/
theorem embed_apart :
    ((Opener.verifying.openWithRaw embedding : Except OpenFailure (Post × Value)).toOption.map fun opened =>
        (opened.1.embeds, (Record.ofValue? opened.2).map Post.embeds)) =
      some ([⟨"", []⟩], some [⟨"app.bsky.embed.images", [""]⟩]) ∧
    ((Handler.run {} (created "p1" embedding) ⟨1, 0⟩ start).2.store.posts.map fun entry =>
        (entry.2.hasMedia, entry.2.tags, (Record.ofValue? entry.2.raw).map fun post : Post =>
          (post.classify.hasMedia, post.classify.tags.map FeedTag.name))) =
      [(false, [], some (true, ["art"]))] ∧
    ((Opener.verifying.openWithRaw (.block (identifier mistyped) mistyped) :
        Except OpenFailure (Post × Value)).toOption.map fun opened =>
        (opened.1.text, (Record.ofValue? opened.2 : Option Post))) = some ("a", none) := by
  decide +kernel

end RawPost

end FeedIndex
