import FeedIndex.Proofs.RawPost
import FeedIndex.Proofs.Records

/-!
# Naming rows

The row of a record stands under the text of the record's address. The account and the collection in it are checked
before anything is stored; the key is whatever the event carried. So the text is read as the address again if the key
is a record key, and only then: otherwise it is read as no address, or as that of another record, since a key is cut
off at a question mark or a hash. The same tells which rows a like can name.
-/

namespace FeedIndex

/-! ## Reading what was written -/

namespace Text

theorem cut_append {sep : Char} {before : List Char} (plain : sep ∉ before) (after : List Char) :
    cut sep (before ++ sep :: after) = some (before, after) := by
  induction before with
  | nil => simp [cut]
  | cons c cs ih =>
    have other : c ≠ sep := fun same => plain (same ▸ List.mem_cons_self)
    have rest : sep ∉ cs := fun hmem => plain (List.mem_cons_of_mem _ hmem)
    simp [cut, other, ih rest]

theorem dropHead_append (head rest : List Char) : dropHead head (head ++ rest) = some rest := by
  induction head with
  | nil => rfl
  | cons c cs ih => simp [dropHead, ih]

/-- Text in ASCII has one byte for each character. -/
theorem utf8ByteSize_of_ascii {s : String} (ascii : ∀ c ∈ s.toList, c.toNat < 128) :
    s.utf8ByteSize = s.toList.length := by
  rw [← String.ofList_toList (s := s)]
  generalize s.toList = cs at ascii
  simp only [String.toList_ofList]
  induction cs with
  | nil => rfl
  | cons c cs ih =>
    obtain ⟨first, rest⟩ := List.forall_mem_cons.mp ascii
    have one : c.utf8Size = 1 := Char.utf8Size_eq_one_iff.mpr (by
      rw [UInt32.le_iff_toNat_le]
      exact Nat.le_of_lt_succ first)
    rw [String.ofList_cons, String.utf8ByteSize_append, ih rest, String.utf8ByteSize_singleton, one, List.length_cons,
      Nat.add_comm]

end Text

namespace RecordUri

/-- **IsPlain** — a character of ASCII that does not end an address. -/
def IsPlain (c : Char) : Prop := c.toNat < 128 ∧ c ≠ '?' ∧ c ≠ '#'

instance : DecidablePred IsPlain := fun c => inferInstanceAs (Decidable (c.toNat < 128 ∧ c ≠ '?' ∧ c ≠ '#'))

theorem isPlain_of_isAlphanum {c : Char} (h : c.isAlphanum = true) : IsPlain c := by
  refine ⟨?_, ?_, ?_⟩
  · have ranges : ((decide (c.val ≥ 65 ∧ c.val ≤ 90) || decide (c.val ≥ 97) && decide (c.val ≤ 122)) ||
        decide (c.val ≥ 48) && decide (c.val ≤ 57)) = true := h
    simp only [Bool.or_eq_true, Bool.and_eq_true, decide_eq_true_eq, UInt32.le_iff_toNat_le] at ranges
    have bound : c.val.toNat ≤ 122 := by
      rcases ranges with (range | range) | range
      · exact range.2.trans (by decide)
      · exact range.2
      · exact range.2.trans (by decide)
    exact Nat.lt_of_le_of_lt bound (by decide)
  · rintro rfl
    revert h
    decide
  · rintro rfl
    revert h
    decide

theorem isPlain_of_isAllowed {c : Char} (allowed : Did.isAllowed c = true) : IsPlain c := by
  simp only [Did.isAllowed, Bool.or_eq_true, beq_iff_eq] at allowed
  rcases allowed with ((((h | rfl) | rfl) | rfl) | rfl) | rfl
  · exact isPlain_of_isAlphanum h
  all_goals decide

theorem isPlain_of_isKeyChar {c : Char} (allowed : isKeyChar c = true) : IsPlain c := by
  simp only [isKeyChar, Bool.or_eq_true, beq_iff_eq] at allowed
  rcases allowed with ((((h | rfl) | rfl) | rfl) | rfl) | rfl
  · exact isPlain_of_isAlphanum h
  all_goals decide

theorem isPlain_of_all {cs : List Char} (all : cs.all (decide <| IsPlain ·) = true) : ∀ c ∈ cs, IsPlain c := by
  simpa using all

theorem isPlain_did {did : String} (valid : Did.isValid did = true) : ∀ c ∈ did.toList, IsPlain c := by
  unfold Did.isValid Did.wellFormed at valid
  simp only [Bool.and_eq_true, List.all_eq_true] at valid
  exact fun c hmem => isPlain_of_isAllowed (valid.2.1 c hmem)

theorem isPlain_key {key : List Char} (allowed : isKey key = true) : ∀ c ∈ key, IsPlain c := by
  unfold isKey at allowed
  simp only [Bool.and_eq_true, List.all_eq_true] at allowed
  exact fun c hmem => isPlain_of_isKeyChar (allowed.2 c hmem)

theorem length_did_le {did : String} (valid : Did.isValid did = true) : did.toList.length ≤ Did.maxBytes := by
  have bounded := valid
  unfold Did.isValid at bounded
  simp only [Bool.and_eq_true, decide_eq_true_eq] at bounded
  rw [← Text.utf8ByteSize_of_ascii fun c hmem => (isPlain_did valid c hmem).1]
  exact bounded.1

theorem length_key_le {key : List Char} (allowed : isKey key = true) : key.length ≤ maxKeyBytes := by
  unfold isKey at allowed
  simp only [Bool.and_eq_true, decide_eq_true_eq] at allowed
  exact allowed.1.1.1.2

/-- The collections that are indexed are few. -/
theorem collection_of_indexed {name : String} (indexed : (Collection.ofName name).table? ≠ none) :
    (∀ c ∈ name.toList, IsPlain c) ∧ isCollection name.toList = true ∧ name.toList.length ≤ 21 := by
  unfold Collection.ofName at indexed
  split at indexed
  · next h => exact h ▸ ⟨isPlain_of_all (by decide), by decide, by decide⟩
  split at indexed
  · next h => exact h ▸ ⟨isPlain_of_all (by decide), by decide, by decide⟩
  split at indexed
  · next h => exact h ▸ ⟨isPlain_of_all (by decide), by decide, by decide⟩
  split at indexed
  · exact absurd rfl indexed
  · exact absurd rfl indexed

/-- What is read of a path whose parts are fine but for the key. -/
theorem ofPath?_parts {did collection : String} (valid : Did.isValid did = true)
    (indexed : (Collection.ofName collection).table? ≠ none) (key : List Char) :
    ofPath? (did.toList ++ '/' :: (collection.toList ++ '/' :: key)) =
      if isKey key then some ⟨did, collection, String.ofList key⟩ else none := by
  unfold ofPath?
  rw [Text.cut_append (slash_not_mem_did valid)]
  dsimp only
  rw [Text.cut_append (slash_not_mem_collection indexed)]
  simp only [String.ofList_toList, valid, (collection_of_indexed indexed).2.1, Bool.and_self, Bool.true_and]

variable {uri : RecordUri} (valid : Did.isValid uri.did = true)
  (indexed : (Collection.ofName uri.collection).table? ≠ none)

include valid indexed

/-- Only the key can cut an address short. -/
theorem withoutSuffix_path :
    withoutSuffix (uri.did.toList ++ '/' :: (uri.collection.toList ++ '/' :: uri.rkey.toList)) =
      uri.did.toList ++ '/' :: (uri.collection.toList ++ '/' :: withoutSuffix uri.rkey.toList) := by
  have step (c : Char) (rest : List Char) (plain : IsPlain c) :
      withoutSuffix (c :: rest) = c :: withoutSuffix rest := by
    simp [withoutSuffix, plain.2.1, plain.2.2]
  -- account, collection and slashes are plain, so the first mark is in the key
  have through (before after : List Char) (plain : ∀ c ∈ before, IsPlain c) :
      withoutSuffix (before ++ after) = before ++ withoutSuffix after := by
    refine List.takeWhile_append_of_pos fun c hmem => ?_
    simp [(plain c hmem).2.1, (plain c hmem).2.2]
  have slash : IsPlain '/' := by decide
  rw [through _ _ (isPlain_did valid), step _ _ slash, through _ _ (collection_of_indexed indexed).1, step _ _ slash]

/-- **What the text of an address is read as**: its account, its collection, and its key up to a question mark or a
hash, if that is a record key. -/
theorem parse?_render :
    parse? uri.render =
      if uri.render.utf8ByteSize ≤ maxBytes ∧ uri.render.toList.all (·.toNat < 128) = true ∧
          isKey (withoutSuffix uri.rkey.toList) = true then
        some { uri with rkey := String.ofList (withoutSuffix uri.rkey.toList) }
      else none := by
  unfold parse?
  simp only [Bool.and_eq_true, decide_eq_true_eq]
  by_cases readable : uri.render.utf8ByteSize ≤ maxBytes ∧ uri.render.toList.all (·.toNat < 128) = true
  · have path : Text.dropHead ['a', 't', ':', '/', '/'] uri.render.toList =
        some (uri.did.toList ++ '/' :: (uri.collection.toList ++ '/' :: uri.rkey.toList)) := by
      rw [toList_render]
      exact Text.dropHead_append _ _
    rw [if_pos readable, path, Option.bind_some, withoutSuffix_path valid indexed, ofPath?_parts valid indexed]
    simp only [readable, true_and]
  · rw [if_neg readable, if_neg fun h => readable ⟨h.1, h.2.1⟩]

omit valid indexed in
theorem withoutSuffix_of_isKey {key : List Char} (allowed : isKey key = true) : withoutSuffix key = key := by
  unfold withoutSuffix
  rw [← List.append_nil key, List.takeWhile_append_of_pos, List.takeWhile_nil]
  intro c hmem
  have plain := isPlain_key allowed c hmem
  simp [plain.2.1, plain.2.2]

/-- An address with a record key is not too long and has ASCII characters only. -/
theorem readable_of_isKey (allowed : isKey uri.rkey.toList = true) :
    uri.render.utf8ByteSize ≤ maxBytes ∧ uri.render.toList.all (·.toNat < 128) = true := by
  have plain : ∀ c ∈ uri.render.toList, c.toNat < 128 := by
    rw [toList_render]
    intro c hmem
    simp only [List.mem_append, List.mem_cons] at hmem
    rcases hmem with hmem | hmem | rfl | hmem | rfl | hmem
    · exact (isPlain_of_all (by decide) c hmem).1
    · exact (isPlain_did valid c hmem).1
    · decide
    · exact ((collection_of_indexed indexed).1 c hmem).1
    · decide
    · exact (isPlain_key allowed c hmem).1
  refine ⟨?_, by simpa using plain⟩
  have didBytes := length_did_le valid
  have keyBytes := length_key_le allowed
  have name := (collection_of_indexed indexed).2.2
  have scheme : "at://".toList.length = 5 := by decide
  rw [Text.utf8ByteSize_of_ascii plain, toList_render]
  simp only [List.length_append, List.length_cons, scheme]
  unfold Did.maxBytes at didBytes
  unfold maxKeyBytes at keyBytes
  unfold maxBytes
  omega

/-- An address is read from its own text if its key is a record key. -/
theorem parse?_render_eq_some_iff : parse? uri.render = some uri ↔ isKey uri.rkey.toList = true := by
  rw [parse?_render valid indexed]
  constructor
  · intro read
    obtain ⟨⟨-, -, allowed⟩, same⟩ := Option.ite_none_right_eq_some.mp read
    have key : String.ofList (withoutSuffix uri.rkey.toList) = uri.rkey :=
      congrArg RecordUri.rkey (Option.some.inj same)
    rw [← key, String.toList_ofList]
    exact allowed
  · intro allowed
    have readable := readable_of_isKey valid indexed allowed
    rw [withoutSuffix_of_isKey allowed, if_pos ⟨readable.1, readable.2, allowed⟩, String.ofList_toList]

/-- Whatever the text of an address is read as differs from it in the key only. -/
theorem eq_of_parse?_render {found : RecordUri} (read : parse? uri.render = some found) :
    found = { uri with rkey := String.ofList (withoutSuffix uri.rkey.toList) } := by
  rw [parse?_render valid indexed] at read
  exact (Option.some.inj (Option.ite_none_right_eq_some.mp read).2).symm

/-- **What a like may name**: the text of an address is taken for a record, and stays what it is, if the key is a record
key. -/
theorem likedUri_render_iff : Handler.likedUri uri.render = .ok uri.render ↔ isKey uri.rkey.toList = true := by
  rw [← parse?_render_eq_some_iff valid indexed]
  unfold Handler.likedUri
  constructor
  · intro accepted
    rcases read : parse? uri.render with _ | found
    · rw [read] at accepted
      cases accepted
    · rw [read] at accepted
      -- the text that is stored is the canonical one, from which no part is lost
      have same : found.render = uri.render := Except.ok.inj accepted
      obtain rfl := eq_of_parse?_render valid indexed read
      rw [eq_of_render_eq same valid valid indexed indexed]
  · intro read
    rw [read]

end RecordUri

/-! ## The rows of a run -/

/-- An event adds rows to the table of its collection only. -/
theorem Handler.Does.table {L : Schema} {handler : Handler} {event : Event} {now : Timestamp} {index : Index (Tables L)}
    {request : StoreOperation} {table : Table} {uri : String} {row : L.Row}
    (does : Does handler event now index (.enter request))
    (adds : Tables.added? request = some (table, uri, row)) :
    Did.isValid event.did = true ∧ event.table? = some table := by
  cases does with
  | kept follows time =>
    cases adds
    exact ⟨follows.valid, congrArg Collection.table? follows.kind⟩
  | deleted unfollows stored => cases adds
  | entry valid entry =>
    refine ⟨valid, ?_⟩
    cases entry with
    | post kind action approved decided | like kind action approved decided
    | follow kind action approved opened other time =>
      cases adds
      exact congrArg Collection.table? kind
    | profile kind action keeps decided | deletedPost kind action known | deletedLike kind action known => cases adds

namespace RecordUri

/-- **Addresses** — the address of a record that an account has in a table; any text may be its key. -/
structure Addresses (record : RecordUri) (table : Table) (did : String) : Prop where
  did : record.did = did
  valid : Did.isValid record.did = true
  indexed : (Collection.ofName record.collection).table? = some table

/-- **Names** — a text is read as the address of a record that an account has in a table, and is its canonical form. -/
def Names (uri : String) (table : Table) (did : String) : Prop :=
  ∃ record, parse? uri = some record ∧ record.Addresses table did ∧ record.render = uri

theorem Addresses.indexed_ne {record : RecordUri} {table : Table} {did : String} (own : record.Addresses table did) :
    (Collection.ofName record.collection).table? ≠ none := by
  rw [own.indexed]
  exact nofun

theorem Addresses.names_iff {record : RecordUri} {table : Table} {did : String} (own : record.Addresses table did) :
    Names record.render table did ↔ isKey record.rkey.toList = true := by
  rw [← parse?_render_eq_some_iff own.valid own.indexed_ne]
  constructor
  · rintro ⟨found, read, own', same⟩
    rw [read, eq_of_render_eq same own'.valid own.valid own'.indexed_ne own.indexed_ne]
  · intro read
    exact ⟨record, read, own, rfl⟩

end RecordUri

namespace Tables

variable {L : Schema}

/-- **Addressed** — every row stands under the address of a record of its account in its table. -/
def Addressed (t : Tables L) : Prop :=
  ∀ table uri row, t.records table uri = some row →
    ∃ record : RecordUri, record.render = uri ∧ record.Addresses table row.author

namespace Addressed

theorem of_records_eq {t t' : Tables L} (addressed : t.Addressed) (same : t'.records = t.records) : t'.Addressed := by
  unfold Addressed
  rw [same]
  exact addressed

/-- A request keeps the rows under addresses if the rows that it adds are. -/
theorem apply {t : Tables L} (addressed : t.Addressed) {request : StoreOperation}
    (own : ∀ (table : Table) (uri : String) (row : L.Row), added? request = some (table, uri, row) →
      ∃ record : RecordUri, record.render = uri ∧ record.Addresses table row.author)
    (now : Timestamp) : (t.apply now request).Addressed := by
  intro table uri row stored
  rcases t.records_apply now request table uri with same | ⟨new, adds, added⟩ | ⟨-, deleted⟩
  · exact addressed table uri row (same ▸ stored)
  · rw [added] at stored
    rcases Option.or_eq_some_iff.mp stored with old | ⟨-, new⟩
    · exact addressed table uri row old
    -- a row that is there already stays, so only the new ones are asked about
    · obtain rfl := Option.some.inj new
      exact own table uri _ adds
  · rw [deleted] at stored
    obtain ⟨old, held, rfl⟩ := Option.map_eq_some_iff.mp stored
    rw [Schema.Row.author_delete]
    exact addressed table uri old held

/-- An event keeps the rows under addresses. -/
theorem take {handler : Handler} {event : Event} {now : Timestamp} {index : Index (Tables L)}
    (addressed : index.store.Addressed) : (handler.take event now index).store.Addressed := by
  refine Index.doAll_induction (P := fun mid => mid.store.Addressed) addressed ?_ ?_
  · intro request among mid held
    have does := Handler.does_of_mem_deeds among
    refine held.apply (fun table uri row adds => ?_) now
    obtain ⟨huri, author, -, -⟩ := does.added adds
    obtain ⟨valid, indexed⟩ := does.table adds
    exact ⟨event.record, huri.symm, author.symm, valid, indexed⟩
  · intro change _ mid held
    refine held.of_records_eq ?_
    rw [Index.store_file, records_file]

theorem takeAll {handler : Handler} {events : List (Event × Timestamp)} {index : Index (Tables L)}
    (addressed : index.store.Addressed) : (handler.takeAll events index).store.Addressed := by
  induction events generalizing index with
  | nil => exact addressed
  | cons event rest ih => exact ih addressed.take

end Addressed

end Tables

/-! ## Likes of the rows -/

namespace Handler

/-- **Likes** — an event is a like by an account that is approved, and can be read. -/
structure Likes (handler : Handler) (event : Event) (roster : Roster) (like : Like) (createdAt : Timestamp) : Prop where
  valid : Did.isValid event.did = true
  kind : Collection.ofName event.collection = .like
  action : event.action = .create
  approved : isApproved (roster.get? event.did) = true
  opened : handler.openRecord event = .ok like
  time : claimedTime like.createdAt = .ok createdAt

open TableStore

variable {σ : Type} [Store σ] [TableStore σ] {handler : Handler} {event : Event} {index : Index σ} {like : Like}
  {createdAt : Timestamp}

/-- A like that is new is stored if what it likes is a record. -/
theorem records_run_of_likes (likes : Likes handler event index.roster like createdAt) (now : Timestamp)
    (new : (tables index.store).records .likes event.uri = none) :
    (tables (handler.run event now index).2.store).records .likes event.uri =
      (likedUri like.subject.uri).toOption.map fun subject =>
        .link ⟨event.uri, event.did, subject, createdAt, now, none⟩ := by
  have row : handler.likeRow event now =
      (likedUri like.subject.uri).map fun subject => ⟨event.uri, event.did, subject, createdAt, now, none⟩ := by
    unfold likeRow
    rw [likes.opened]
    show (likedUri like.subject.uri >>= fun subject => claimedTime like.createdAt >>= fun time => _) = _
    rw [likes.time]
    rcases likedUri like.subject.uri with failure | subject <;> rfl
  have taken := congrArg Index.store (tabled_run handler event now index)
  change tables (handler.run event now index).2.store = _ at taken
  rw [taken]
  simp only [take, deeds, likes.valid, if_true, likes.kind, likes.action, entered?]
  rw [show index.tabled.roster = index.roster from rfl, if_pos likes.approved, row]
  rcases likedUri like.subject.uri with failure | subject
  · exact new
  · show ((tables index.store).addRecord .likes event.uri (.link ⟨event.uri, _, _, _, _, _⟩)).records .likes
        event.uri = _
    rw [Tables.addRecord, Tables.changeRecord]
    dsimp only
    rw [if_pos ⟨rfl, rfl⟩, new]
    rfl

/-- **A row is named by the text under which it stands if its key is a record key, and only then.** After events that
began with no records, each row stands under the address of a record of its account in its table. That text is read as
the address of such a record, and is its canonical form, exactly if the key is a record key; if it is read at all, then
as the address with the key cut off at a question mark or a hash. A like of the text is stored as it stands under the
same condition. -/
theorem row_named_iff (handler : Handler) (events : List (Event × Timestamp))
    (empty : ∀ table uri, (tables index.store).records table uri = none) {table : Table} {uri : String}
    {row : (schema σ).Row} (stored : (tables (handler.runEach events index).store).records table uri = some row) :
    ∃ record : RecordUri, record.render = uri ∧ record.Addresses table row.author ∧
      (RecordUri.Names uri table row.author ↔ RecordUri.isKey record.rkey.toList = true) ∧
      (∀ found, RecordUri.parse? uri = some found →
        found = { record with rkey := String.ofList (RecordUri.withoutSuffix record.rkey.toList) }) ∧
      ∀ (later : Index σ) (event : Event) (like : Like) (createdAt now : Timestamp),
        Likes handler event later.roster like createdAt → like.subject.uri = uri →
          (tables later.store).records .likes event.uri = none →
            ((tables (handler.run event now later).2.store).records .likes event.uri =
                some (.link ⟨event.uri, event.did, uri, createdAt, now, none⟩) ↔
              RecordUri.isKey record.rkey.toList = true) := by
  have start : index.tabled.store.Addressed := by
    intro table uri row stored
    change (tables index.store).records table uri = some row at stored
    rw [empty] at stored
    cases stored
  have addressed : (handler.runEach events index).tabled.store.Addressed := by
    rw [tabled_runEach]
    exact start.takeAll
  obtain ⟨record, rfl, own⟩ := addressed table uri row stored
  refine ⟨record, rfl, own, own.names_iff, fun found => RecordUri.eq_of_parse?_render own.valid own.indexed_ne, ?_⟩
  intro later event like createdAt now likes subject new
  rw [records_run_of_likes likes now new, subject, ← RecordUri.likedUri_render_iff own.valid own.indexed_ne]
  rcases likedUri record.render with failure | found
  · simp [Except.toOption]
  · simp [Except.toOption]

end Handler

/-! ### Keys that are no record keys -/

namespace OddKeys

open RawPost TableStore

/-- A post of text only. -/
def plain : Payload := .json "\x7b\"text\":\"hello\",\"createdAt\":\"2025-01-26T17:11:03Z\"\x7d"

/-- The author creates posts under three keys. -/
def stream : List (Event × Timestamp) :=
  [(created "p1" plain, ⟨1, 0⟩), (created "a/b" plain, ⟨2, 0⟩), (created "p1?x" plain, ⟨3, 0⟩)]

/-- The author likes what stands under an address of its posts. -/
def liked (rkey : String) : Event where
  seq := 4
  did := author.did
  action := .create
  collection := "app.bsky.feed.like"
  rkey := "l1"
  cid := none
  payload := some (.json ("\x7b\"subject\":\x7b\"uri\":\"at://did:plc:author/app.bsky.feed.post/" ++ rkey ++
    "\",\"cid\":\"c\"\x7d,\"createdAt\":\"2025-01-26T17:11:03Z\"\x7d"))

/-- The post under the first key is named by the text under which it stands. -/
theorem first_post_named :
    ∃ row, (tables (Handler.runEach {} stream start).store).records .posts
        "at://did:plc:author/app.bsky.feed.post/p1" = some row ∧
      RecordUri.Names "at://did:plc:author/app.bsky.feed.post/p1" .posts row.author := by
  have stored : ((tables (Handler.runEach {} stream start).store).records .posts
      "at://did:plc:author/app.bsky.feed.post/p1").isSome = true := by decide +kernel
  obtain ⟨row, stored⟩ := Option.isSome_iff_exists.mp stored
  obtain ⟨record, written, own, named, -, -⟩ := Handler.row_named_iff {} stream
    (fun table uri => by cases table <;> rfl) stored
  refine ⟨row, stored, named.mpr ?_⟩
  have first : (⟨"did:plc:author", "app.bsky.feed.post", "p1"⟩ : RecordUri).Addresses .posts "did:plc:author" :=
    ⟨rfl, by decide, by decide⟩
  obtain rfl := RecordUri.eq_of_render_eq (b := ⟨"did:plc:author", "app.bsky.feed.post", "p1"⟩) written own.valid
    first.valid own.indexed_ne first.indexed_ne
  decide

/-- **Rows that cannot be named**: three posts are stored. The text under which the second stands is no address, so that
a like of it is refused. The text under which the third stands is read as the address of the first, and a like of it is
kept as one of the first. -/
theorem odd_keys_unnamed :
    (Handler.runEach {} stream start).store.posts.map (·.1) =
      ["at://did:plc:author/app.bsky.feed.post/p1", "at://did:plc:author/app.bsky.feed.post/a/b",
        "at://did:plc:author/app.bsky.feed.post/p1?x"] ∧
    RecordUri.parse? "at://did:plc:author/app.bsky.feed.post/a/b" = none ∧
    (Handler.run {} (liked "a/b") ⟨4, 0⟩ (Handler.runEach {} stream start)).1 =
      .error (.badSubject "at://did:plc:author/app.bsky.feed.post/a/b") ∧
    (Handler.run {} (liked "p1?x") ⟨4, 0⟩ (Handler.runEach {} stream start)).2.store.likes.map (·.2.subject) =
      ["at://did:plc:author/app.bsky.feed.post/p1"] := by
  decide +kernel

end OddKeys

end FeedIndex
