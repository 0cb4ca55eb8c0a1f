import FeedIndex.Proofs.Deeds
import FeedIndex.Proofs.Tables.Memory
import FeedIndex.Transport.Session

/-!
# Where stored content comes from

A relay vouches for nothing: a commit names its records by identifiers, and ships blocks that may be anything. An
event that writes is handled by opening its payload first, and an opener that verifies opens a block only if it
has the hash that its identifier says. So what a frame of a relay leaves behind in an index comes from a block
that its archive holds under the identifier that its commit names, and whose hash is that identifier's.
-/

namespace FeedIndex

/-! ## Blocks and their identifiers -/

theorem Sha256.length_digest (message : Bytes) : (Sha256.digest message).length = 32 := by
  simp [Sha256.digest, Sha256.State.words, Bytes.ofNat]

/-- **Vouches** — the identifier is one by SHA-256, and the block is the one that it names. -/
structure Cid.Vouches (cid : Cid) (block : Bytes) : Prop where
  hash : cid.hashCode = Cid.sha256Code
  digest : Sha256.digest block = cid.digest

/-- No digest that vouches is cut short. -/
theorem Cid.Vouches.length_digest {cid : Cid} {block : Bytes} (vouches : cid.Vouches block) :
    cid.digest.length = 32 := by
  rw [← vouches.digest]
  exact Sha256.length_digest block

/-- The payload is a text, or a block that its identifier vouches for. -/
def Payload.IsVouched : Payload → Prop
  | .json _ => True
  | .block cid bytes => cid.Vouches bytes

namespace Opener

variable {α : Type} [Record α] {payload : Payload} {record : α}

theorem vouches_of_verify {cid : Cid} {block : Bytes} (h : verifying.verify cid block = .ok ()) :
    cid.Vouches block := by
  change checkHash cid block = .ok () at h
  unfold checkHash at h
  split at h
  · cases h
  · next hash =>
    split at h
    · cases h
    · next digest => exact ⟨not_not.mp hash, not_not.mp digest⟩

theorem vouched_of_openRecord (h : verifying.openRecord payload = .ok record) : payload.IsVouched := by
  cases payload with
  | json text => trivial
  | block cid block =>
    unfold openRecord at h
    rcases verified : verifying.verify cid block with failure | ⟨⟩
    · simp [verified] at h
    · exact vouches_of_verify verified

theorem vouched_of_openWithRaw {raw : Json.Value} (h : verifying.openWithRaw payload = .ok (record, raw)) :
    payload.IsVouched ∧ rawValue? payload = some raw := by
  unfold openWithRaw at h
  rcases opened : (verifying.openRecord payload : Except OpenFailure α) with failure | other
  · simp [opened] at h
  · rcases value : rawValue? payload with _ | whole
    · simp [opened, value] at h
    · simp only [opened, value, Except.ok.injEq, Prod.mk.injEq] at h
      exact ⟨vouched_of_openRecord opened, congrArg some h.2⟩

end Opener

/-! ## Events that write -/

namespace Handler

variable {handler : Handler} {event : Event} {now : Timestamp}

section

variable (verifying : handler.opener = .verifying)

include verifying

theorem vouched_of_openRecord {α : Type} [Record α] {record : α}
    (h : handler.openRecord event = .ok record) : ∃ payload, event.payload = some payload ∧ payload.IsVouched := by
  obtain ⟨payload, carried, opened⟩ := payload_of_openRecord h
  rw [verifying] at opened
  exact ⟨payload, carried, Opener.vouched_of_openRecord opened⟩

theorem vouched_of_openWithRaw {α : Type} [Record α] {record : α} {raw : Json.Value}
    (h : handler.openWithRaw event = .ok (record, raw)) :
    ∃ payload, event.payload = some payload ∧ payload.IsVouched ∧ Opener.rawValue? payload = some raw := by
  obtain ⟨payload, carried, opened⟩ := payload_of_openWithRaw h
  rw [verifying] at opened
  exact ⟨payload, carried, Opener.vouched_of_openWithRaw opened⟩

/-- The whole of a post is kept as it is carried. -/
theorem vouched_of_postRow? {row : PostRow} (h : handler.postRow? event now = .ok (some row)) :
    ∃ payload, event.payload = some payload ∧ payload.IsVouched ∧ Opener.rawValue? payload = some row.raw := by
  obtain ⟨post, raw, createdAt, opened, -, -, rfl⟩ := parts_of_postRow? h
  exact vouched_of_openWithRaw verifying opened

theorem vouched_of_likeRow {row : LinkRow} (h : handler.likeRow event now = .ok row) :
    ∃ payload, event.payload = some payload ∧ payload.IsVouched := by
  obtain ⟨like, subject, createdAt, opened, -⟩ := parts_of_likeRow h
  exact vouched_of_openRecord verifying opened

/-- A profile is kept under the identifier that the event claims. -/
theorem vouched_of_profileRow {row : ProfileRow} (h : handler.profileRow event now = .ok row) :
    event.cid = some row.commitCid ∧ ∃ payload, event.payload = some payload ∧ payload.IsVouched := by
  obtain ⟨commit, profile, createdAt, carried, opened, -, rfl⟩ := parts_of_profileRow h
  exact ⟨carried, vouched_of_openRecord verifying opened⟩

theorem Entry.vouched {roster : Roster} {request : StoreOperation} (writes : event.action ≠ .delete)
    (entry : Entry handler event now roster request) :
    ∃ payload, event.payload = some payload ∧ payload.IsVouched := by
  cases entry with
  | post _ _ _ decided =>
    obtain ⟨payload, carried, vouched, -⟩ := vouched_of_postRow? verifying decided
    exact ⟨payload, carried, vouched⟩
  | like _ _ _ decided => exact vouched_of_likeRow verifying decided
  | follow _ _ _ opened _ _ => exact vouched_of_openRecord verifying opened
  | profile _ _ _ decided => exact (vouched_of_profileRow verifying decided).2
  | deletedPost _ action _ => exact absurd action writes
  | deletedLike _ action _ => exact absurd action writes

/-- **What writes is vouched for**: an event that changes the index, other than by a deletion, carries a payload
that is vouched for. -/
theorem vouched_of_run_ne {σ : Type} [Store σ] {index : Index σ} (writes : event.action ≠ .delete)
    (changed : (handler.run event now index).2 ≠ index) :
    ∃ payload, event.payload = some payload ∧ payload.IsVouched := by
  have handled := handled_run handler event now index
  generalize handler.run event now index = outcome at handled changed
  obtain ⟨result, after⟩ := outcome
  cases handled with
  | passed => exact absurd rfl changed
  | refused own => exact absurd rfl changed
  | entered valid entry => exact entry.vouched verifying writes
  | followFailed follows move => exact vouched_of_openRecord verifying follows.opened
  | followUntimed follows move untimed => exact vouched_of_openRecord verifying follows.opened
  | followKept follows move time => exact vouched_of_openRecord verifying follows.opened
  | unfollowUnknown unfollows unknown => exact absurd unfollows.action writes
  | unfollowed unfollows stored stays => exact absurd unfollows.action writes
  | unfollowedSubject unfollows stored subject deleted move => exact absurd unfollows.action writes

end

end Handler

/-! ## What a frame ships -/

/-- **Ships** — a frame ships a block for an event: it is a commit with the event among its entries, and its archive
holds the block under the identifier that the entry names. -/
inductive Frame.Ships (frame : Bytes) (event : Event) (cid : Cid) (block : Bytes) : Prop
  | of {body : RepoCommit} {blocks : Archive.Blocks} {change : RepoChange}
      (decoded : Frame.decode frame = .ok (.commit body)) (archive : body.archive = .ok blocks)
      (listed : change ∈ body.changes) (made : body.event? blocks change = some event)
      (named : change.cid = some cid) (held : blocks.get? cid = some block) : Ships frame event cid block

/-- What an event of an entry carries. -/
theorem RepoCommit.payload_of_event? {body : RepoCommit} {blocks : Archive.Blocks} {change : RepoChange}
    {event : Event} (made : body.event? blocks change = some event) :
    event.cid = change.cid.map Cid.text ∧ event.payload = payload? blocks event.action change.cid := by
  unfold event? at made
  split at made
  · cases made
    exact ⟨rfl, rfl⟩
  · cases made

/-- An event that an accepted frame gives out carries a block that the frame ships for it, or nothing. -/
theorem Frame.ships_of_acceptFrame {frame : Bytes} {last next : Option Int} {commit : Commit} {event : Event}
    {payload : Payload} (accepted : Session.acceptFrame frame last = .ok (some commit, next))
    (given : event ∈ commit.events) (carried : event.payload = some payload) :
    ∃ cid block, payload = .block cid block ∧ event.cid = some cid.text ∧ Frame.Ships frame event cid block := by
  unfold Session.acceptFrame at accepted
  split at accepted
  all_goals try cases accepted
  next body decoded =>
    split at accepted
    · split at accepted
      · next events made =>
        cases accepted
        unfold RepoCommit.events at made
        rcases archive : body.archive with failure | blocks
        · rw [archive] at made
          cases made
        · rw [archive] at made
          obtain rfl := Except.ok.inj made
          obtain ⟨change, listed, made⟩ := List.mem_filterMap.mp given
          obtain ⟨hcid, hpayload⟩ := RepoCommit.payload_of_event? made
          rw [carried] at hpayload
          unfold RepoCommit.payload? at hpayload
          split at hpayload
          · cases hpayload
          · rcases named : change.cid with _ | cid
            · rw [named] at hpayload
              cases hpayload
            · rw [named] at hpayload hcid
              obtain ⟨block, held, rfl⟩ := Option.map_eq_some_iff.mp hpayload.symm
              exact ⟨cid, block, rfl, hcid, .of decoded archive listed made named held⟩
      · cases accepted
    · cases accepted

/-! ## What is stored of it -/

variable {L : Schema}

/-- **StoredFrom** — the tables after an event hold, beside what they held before, a post whose whole is read from
the block, or a profile under the identifier, or no new post and no new profile. -/
inductive StoredFrom (cid : Cid) (block : Bytes) (t : Tables L) : Tables L → Prop
  | post {row : PostRow} (raw : (Cbor.Data.ofBytes? block).map Cbor.Data.toJson = some row.raw) :
      StoredFrom cid block t (t.addRecord .posts row.uri (.post (L.ofPost row)))
  | profile {row : ProfileRow} (commit : row.commitCid = cid.text) : StoredFrom cid block t (t.addProfile row)
  | link {next : Tables L} (posts : next.records .posts = t.records .posts) (profiles : next.profiles = t.profiles) :
      StoredFrom cid block t next

namespace Handler

variable {handler : Handler} {event : Event} {now : Timestamp} {index : Index (Tables L)} {cid : Cid} {block : Bytes}

/-- What is entered comes from the block that is carried. -/
theorem Entry.storedFrom {roster : Roster} {request : StoreOperation} (verifying : handler.opener = .verifying)
    (carried : event.payload = some (.block cid block)) (claimed : event.cid = some cid.text)
    (writes : event.action ≠ .delete) (entry : Entry handler event now roster request) (t : Tables L) :
    StoredFrom cid block t (t.apply now request) := by
  cases entry with
  | post _ _ _ decided =>
    obtain ⟨payload, carried', -, raw⟩ := vouched_of_postRow? verifying decided
    obtain rfl := Option.some.inj (carried.symm.trans carried')
    exact .post raw
  | profile _ _ _ decided =>
    have commit := (vouched_of_profileRow verifying decided).1
    exact .profile (Option.some.inj (commit.symm.trans claimed))
  | like _ _ _ _ => exact .link rfl rfl
  | follow _ _ _ _ _ _ => exact .link rfl rfl
  | deletedPost _ action _ => exact absurd action writes
  | deletedLike _ _ _ => exact .link rfl rfl

/-- A follow stores no post and no profile. -/
theorem storedFrom_of_follow (kind : Collection.ofName event.collection = .follow) :
    StoredFrom cid block index.store (handler.take event now index).store := by
  have kept : (handler.take event now index).store.records .posts = index.store.records .posts ∧
      (handler.take event now index).store.profiles = index.store.profiles := by
    refine Index.doAll_induction (P := fun mid => mid.store.records .posts = index.store.records .posts ∧
      mid.store.profiles = index.store.profiles) ⟨rfl, rfl⟩ ?_ ?_
    · intro request hmem mid same
      cases does_of_mem_deeds hmem with
      | kept _ _ => exact same
      | deleted _ _ => exact same
      | entry _ entry =>
        cases entry with
        | follow _ _ _ _ _ _ => exact same
        | post kind' _ _ _ | like kind' _ _ _ | profile kind' _ _ _ | deletedPost kind' _ _ | deletedLike kind' _ _ =>
          rw [kind] at kind'
          cases kind'
    · intro change _ mid same
      rw [Index.store_file]
      cases change <;> exact same
  exact .link kept.1 kept.2

/-- An event that is no follow enters one request, if any. -/
theorem deeds_of_ne_follow (kind : Collection.ofName event.collection ≠ .follow)
    (valid : Did.isValid event.did = true) (actor : Option Actor) (follow : Option LinkRow) :
    handler.deeds event now actor follow = ((handler.entered? event now actor).map .enter).toList := by
  unfold deeds
  rw [if_pos valid]
  split
  · next isFollow _ => exact absurd isFollow kind
  · next isFollow _ => exact absurd isFollow kind
  · rfl

/-- **What an event stores comes from the block that it carries.** -/
theorem storedFrom_take (verifying : handler.opener = .verifying)
    (carried : event.payload = some (.block cid block)) (claimed : event.cid = some cid.text)
    (writes : event.action ≠ .delete) :
    StoredFrom cid block index.store (handler.take event now index).store := by
  by_cases kind : Collection.ofName event.collection = .follow
  · exact storedFrom_of_follow kind
  by_cases valid : Did.isValid event.did = true
  · unfold take
    rw [deeds_of_ne_follow kind valid]
    rcases decided : handler.entered? event now (index.roster.get? event.did) with _ | request
    · exact .link rfl rfl
    · exact (entry_of_entered? decided).storedFrom verifying carried claimed writes index.store
  · unfold take deeds
    rw [if_neg valid]
    exact .link rfl rfl

end Handler

open TableStore

/-- **Verified from end to end**: an event of a frame that writes and changes the index carries a block which the
frame ships under the identifier that its entry claims; that identifier is one by SHA-256, and its digest is the
whole hash of the block. The posts and profiles that were stored come from that block and that identifier. -/
theorem verified_end_to_end {σ : Type} [Store σ] [TableStore σ] {handler : Handler} {frame : Bytes}
    {last next : Option Int} {commit : Commit} {event : Event} {now : Timestamp} {index : Index σ}
    (verifying : handler.opener = .verifying)
    (accepted : Session.acceptFrame frame last = .ok (some commit, next)) (given : event ∈ commit.events)
    (writes : event.action ≠ .delete) (changed : (handler.run event now index).2 ≠ index) :
    ∃ cid block, Frame.Ships frame event cid block ∧ event.payload = some (.block cid block) ∧
      event.cid = some cid.text ∧ cid.hashCode = Cid.sha256Code ∧ Sha256.digest block = cid.digest ∧
      cid.digest.length = 32 ∧
      StoredFrom cid block (tables index.store) (tables (handler.run event now index).2.store) := by
  obtain ⟨payload, carried, vouched⟩ := Handler.vouched_of_run_ne verifying writes changed
  obtain ⟨cid, block, rfl, claimed, ships⟩ := Frame.ships_of_acceptFrame accepted given carried
  have vouches : cid.Vouches block := vouched
  have stored : StoredFrom cid block index.tabled.store (handler.take event now index.tabled).store :=
    Handler.storedFrom_take verifying carried claimed writes
  rw [← Handler.tabled_run] at stored
  exact ⟨cid, block, ships, carried, claimed, vouches.hash, vouches.digest, vouches.length_digest, stored⟩

/-! ### A post that is shipped -/

namespace Shipped

/-- A text as a frame holds it. -/
def text (content : String) : Bytes := UInt8.ofNat (0x60 + content.utf8ByteSize) :: content.toUTF8.toList

/-- Bytes as a frame holds them. -/
def bytes (content : Bytes) : Bytes := 0x58 :: UInt8.ofNat content.length :: content

/-- The block of the post. -/
def block : Bytes :=
  [0xa2] ++ text "text" ++ text "hello" ++ text "createdAt" ++ text "2025-01-26T17:11:03Z"

def cid : Cid := .v1 0x71 Cid.sha256Code (Sha256.digest block)

/-- An archive of the block alone. -/
def archive : Bytes := [1, 0, UInt8.ofNat (cid.toBytes ++ block).length] ++ cid.toBytes ++ block

/-- The commit that creates the post. -/
def frame : Bytes :=
  [0xa2] ++ text "t" ++ text "#commit" ++ text "op" ++ [1] ++
  [0xa4] ++ text "ops" ++ [0x81, 0xa3] ++
      text "cid" ++ [0xd8, 0x2a] ++ bytes (0 :: cid.toBytes) ++
      text "path" ++ text "app.bsky.feed.post/p1" ++ text "action" ++ text "create" ++
    text "seq" ++ [1] ++ text "repo" ++ text "did:plc:author" ++ text "blocks" ++ bytes archive

def event : Event where
  seq := 1
  did := "did:plc:author"
  action := .create
  collection := "app.bsky.feed.post"
  rkey := "p1"
  cid := some cid.text
  payload := some (.block cid block)

def author : Actor := .fresh "did:plc:author" .approved "" ⟨0, 0⟩

/-- The author is approved. -/
def start : Index Memory := ⟨(StoreOperation.createActor author).after ⟨0, 0⟩ {}, Roster.put author {}⟩

set_option maxRecDepth 100000 in
/-- The post is stored. -/
theorem post_verified :
    (∃ cid block, Frame.Ships frame event cid block ∧ event.payload = some (.block cid block) ∧
      event.cid = some cid.text ∧ cid.hashCode = Cid.sha256Code ∧ Sha256.digest block = cid.digest ∧
      cid.digest.length = 32 ∧
      StoredFrom cid block (tables start.store) (tables (Handler.run {} event ⟨1, 0⟩ start).2.store)) ∧
    (Handler.run {} event ⟨1, 0⟩ start).2.store.posts.length = 1 := by
  have accepted : Session.acceptFrame frame none = .ok (some ⟨1, [event]⟩, some 1) := by decide +kernel
  have stored : (Handler.run {} event ⟨1, 0⟩ start).2.store.posts.length = 1 := by decide +kernel
  have changed : (Handler.run {} event ⟨1, 0⟩ start).2 ≠ start := by
    intro same
    rw [same] at stored
    exact absurd stored (by decide +kernel)
  exact ⟨verified_end_to_end rfl accepted List.mem_cons_self (by decide) changed, stored⟩

end Shipped

end FeedIndex
