import FeedIndex.Proofs.Cbor.Written
import FeedIndex.Proofs.Tiling
import FeedIndex.Transport.Frame

/-!
# Frames as they are written

A commit is sent as a header, the body and, inside the body, the archive of its blocks. The header is read by other
rules than the body, which begins where the header ends; both come back as they were written. From the body that is
read the events follow: one for each entry that has a known action and a path with a slash, in the order of the
entries, with the last block that the archive has under the entry's identifier.
-/

namespace FeedIndex

open Cbor

/-! ## Headers -/

namespace Cbor.Lenient

/-- A head that is no tag is found at once. -/
theorem untagged?_headBytes (major : Major) (noTag : major ≠ .tag) {n : Nat} (fits : n < 2 ^ 64) (rest : Bytes) :
    ∃ argument : Argument, argument.number? = some n ∧
      untagged? (headBytes major n ++ rest).length (headBytes major n ++ rest) = some (⟨major, argument⟩, rest) := by
  obtain ⟨argument, number, read⟩ := head?_headBytes major fits rest
  refine ⟨argument, number, ?_⟩
  have nonempty : (headBytes major n ++ rest).length = ((information n).2 ++ rest).length + 1 := rfl
  rw [nonempty, untagged?, read]
  cases major <;> first | rfl | exact absurd rfl noTag

theorem map?_headBytes {n : Nat} (fits : n < 2 ^ 64) (rest : Bytes) :
    map? (headBytes .map n ++ rest) = some (some n, rest) := by
  obtain ⟨argument, number, read⟩ := untagged?_headBytes .map (by decide) fits rest
  unfold map?
  rw [read]
  dsimp only
  rw [number]

/-- A text of a header is read back as a key, by its bytes. -/
theorem key_textBytes {s : String} (short : s.utf8ByteSize ≤ maxKeyBytes) (rest : Bytes) :
    key (textBytes s ++ rest) = some (Bytes.ofText s, rest) := by
  have fits : (Bytes.ofText s).length < 2 ^ 64 := Nat.lt_of_le_of_lt short (by decide)
  obtain ⟨argument, number, read⟩ := untagged?_headBytes .text (by decide) fits (Bytes.ofText s ++ rest)
  unfold key textBytes stringBytes
  rw [List.append_assoc, read]
  dsimp only
  rw [number]
  dsimp only
  have inside : ¬ maxKeyBytes < (Bytes.ofText s).length := Nat.not_lt.mpr short
  rw [if_neg inside, Bytes.takeExact_append]
  dsimp only
  rw [if_pos (.inr ⟨rfl, by rw [Bytes.utf8?_ofText]; rfl⟩)]

/-- A text of a header is read back as a value. -/
theorem optionalText_textBytes {s : String} (fits : s.utf8ByteSize < 2 ^ 64) (rest : Bytes) :
    optionalText (textBytes s ++ rest) = some (some s, rest) := by
  have fits' : (Bytes.ofText s).length < 2 ^ 64 := fits
  obtain ⟨argument, -, first⟩ := head?_headBytes .text fits' (Bytes.ofText s ++ rest)
  obtain ⟨argument', number, read⟩ := untagged?_headBytes .text (by decide) fits' (Bytes.ofText s ++ rest)
  unfold optionalText textBytes stringBytes
  rw [List.append_assoc, first]
  dsimp only
  rw [read]
  dsimp only
  rw [number]
  have whole : [Bytes.ofText s].mapM Bytes.utf8? = some [s] := by simp [Bytes.utf8?_ofText]
  unfold textOf piecesOf
  dsimp only
  rw [Bytes.takeExact_append, Option.map_some, Option.bind_some]
  dsimp only
  rw [whole]
  simp [String.join]

/-- A number of a header is read back. -/
theorem integer_integerBytes {n : Int} (word : IsWord n) (fuel : Nat) (rest : Bytes) :
    integer (fuel + 1) (integerBytes n ++ rest) = some (n, rest) := by
  obtain ⟨argument, size, number, ⟨rfl, read⟩ | ⟨rfl, read⟩⟩ := head?_integerBytes word rest
  all_goals
    rw [integer, read]
    dsimp only
    rw [number]
    rfl

end Cbor.Lenient

/-- An entry as it can be written: texts of a stated length, and an identifier that can be written. -/
structure RepoChange.Fits (change : RepoChange) : Prop where
  action : change.action.utf8ByteSize < 2 ^ 64
  path : change.path.utf8ByteSize < 2 ^ 64
  cid : ∀ cid ∈ change.cid, cid.IsValid

/-- A commit as it can be written: its numbers fit 64 bits, and so do the lengths of its parts. -/
structure RepoCommit.Fits (commit : RepoCommit) : Prop where
  seq : IsWord commit.seq
  repo : commit.repo.utf8ByteSize < 2 ^ 64
  rev : commit.rev.utf8ByteSize < 2 ^ 64
  count : commit.changes.length < 2 ^ 64
  changes : ∀ change ∈ commit.changes, change.Fits
  blocks : commit.blocks.length < 2 ^ 64

namespace Frame

/-- The member of a header that holds its number. -/
def opBytes (op : Int) : Bytes := textBytes "op" ++ integerBytes op

/-- The member of a header that holds its type. -/
def typeBytes (type : String) : Bytes := textBytes "t" ++ textBytes type

/-- **headers** — the forms of a header with a number and a type: either member may come first. -/
def headers (op : Int) (type : String) : List Bytes :=
  [headBytes .map 2 ++ opBytes op ++ typeBytes type, headBytes .map 2 ++ typeBytes type ++ opBytes op]

theorem entry_opBytes {op : Int} (word : IsWord op) (rest : Bytes) :
    Header.entry (opBytes op ++ rest) = some (.op op, rest) := by
  obtain ⟨low, high⟩ := word
  have key : Bytes.ofText "op" = "op".toUTF8.toList := by decide +kernel
  have nonempty : (integerBytes op ++ rest).length = (integerBytes op ++ rest).length - 1 + 1 := by
    unfold integerBytes
    split <;> rfl
  have number : Header.number? op = some op := if_pos ⟨low, high⟩
  unfold Header.entry opBytes
  rw [List.append_assoc, Lenient.key_textBytes (by decide)]
  dsimp only
  rw [if_pos key, nonempty, Lenient.integer_integerBytes ⟨low, high⟩, Option.bind_some, number]
  rfl

theorem entry_typeBytes {type : String} (fits : type.utf8ByteSize < 2 ^ 64) (rest : Bytes) :
    Header.entry (typeBytes type ++ rest) = some (.type (some type), rest) := by
  have key : Bytes.ofText "t" = "t".toUTF8.toList := by decide +kernel
  have other : Bytes.ofText "t" ≠ "op".toUTF8.toList := by decide +kernel
  unfold Header.entry typeBytes
  rw [List.append_assoc, Lenient.key_textBytes (by decide)]
  dsimp only
  rw [if_neg other, if_pos key, Lenient.optionalText_textBytes fits]
  rfl

/-- **A header is read back**, and the body begins where it ends. -/
theorem header?_headers {op : Int} {type : String} (word : IsWord op) (fits : type.utf8ByteSize < 2 ^ 64)
    {header : Bytes} (written : header ∈ headers op type) (body : Bytes) :
    header? (header ++ body) = some (⟨op, some type⟩, body) := by
  unfold headers at written
  rw [List.mem_cons, List.mem_singleton] at written
  rcases written with rfl | rfl
  · simp only [List.append_assoc]
    unfold header?
    rw [Lenient.map?_headBytes (by decide)]
    dsimp only [counting]
    rw [Wire.counted, entry_opBytes word]
    dsimp only
    rw [Wire.counted, entry_typeBytes fits]
    rfl
  · simp only [List.append_assoc]
    unfold header?
    rw [Lenient.map?_headBytes (by decide)]
    dsimp only [counting]
    rw [Wire.counted, entry_typeBytes fits]
    dsimp only
    rw [Wire.counted, entry_opBytes word]
    rfl

/-! ## Bodies -/

/-- The item of an identifier that may be missing. -/
def cidBytes : Option Cid → Bytes
  | none => [nullByte]
  | some cid => linkBytes cid

/-- The item of an entry: its members by the length of their keys. -/
def changeBytes (change : RepoChange) : Bytes :=
  headBytes .map 3 ++ (textBytes "cid" ++ (cidBytes change.cid ++ (textBytes "path" ++ (textBytes change.path ++
    (textBytes "action" ++ textBytes change.action)))))

/-- The item of a commit: its members by the length of their keys, then in the order of the keys. -/
def commitBytes (commit : RepoCommit) : Bytes :=
  headBytes .map 6 ++ (textBytes "ops" ++ (listBytes changeBytes commit.changes ++ (textBytes "rev" ++
    (textBytes commit.rev ++ (textBytes "seq" ++ (integerBytes commit.seq ++ (textBytes "repo" ++
      (textBytes commit.repo ++ (textBytes "blocks" ++ (stringBytes .bytes commit.blocks ++ (textBytes "tooBig" ++
        boolBytes commit.tooBig)))))))))))

open Wire (Field)

/-- An identifier that may be missing is read back. -/
theorem optional_cidBytes {cid : Option Cid} (valid : ∀ found ∈ cid, found.IsValid) (levels : Nat) (rest : Bytes) :
    Wire.optional Cbor.link (levels + 1) (cidBytes cid ++ rest) = some (cid, rest) := by
  rcases cid with _ | cid
  · rfl
  · have noNull : Wire.null? (linkBytes cid ++ rest) = none := by rfl
    unfold Wire.optional cidBytes
    rw [noNull]
    show (if levels + 1 < 1 then none else Wire.mapped some Cbor.link levels _) = _
    rw [if_neg (by omega)]
    rw [Wire.mapped, link_linkBytes levels (valid cid rfl)]
    rfl

/-- **An entry is read back.** -/
theorem changeReading_changeBytes {change : RepoChange} (fits : change.Fits) (levels : Nat) (rest : Bytes) :
    changeReading (levels + 2) (changeBytes change ++ rest) = some (change, rest) := by
  unfold changeReading changeBytes
  simp only [List.append_assoc]
  rw [fields_headBytes (by decide),
    members_defaulted (by decide) rfl rfl (optional_cidBytes fits.cid levels _),
    members_required (by decide) rfl rfl (wireText_textBytes fits.path _),
    members_required (by decide) rfl rfl (wireText_textBytes fits.action _)]
  rfl

/-- **A commit is read back.** -/
theorem commitReading_commitBytes {commit : RepoCommit} (fits : commit.Fits) (levels : Nat) (rest : Bytes) :
    commitReading (levels + 4) (commitBytes commit ++ rest) = some (commit, rest) := by
  unfold commitReading commitBytes
  simp only [List.append_assoc]
  have changes : ∀ rest, Wire.listOf changeReading (levels + 3) (listBytes changeBytes commit.changes ++ rest) =
      some (commit.changes, rest) := listOf_listBytes fits.count fun change mem rest =>
    changeReading_changeBytes (fits.changes change mem) levels rest
  rw [fields_headBytes (by decide),
    members_required (by decide) rfl rfl (changes _),
    members_defaulted (by decide) rfl rfl (wireText_textBytes fits.rev _),
    members_required (by decide) rfl rfl (signed_integerBytes fits.seq _),
    members_required (by decide) rfl rfl (wireText_textBytes fits.repo _),
    members_required (by decide) rfl rfl (string_stringBytes .bytes (levels + 3) fits.blocks _),
    members_defaulted (by decide) rfl rfl (bool_boolBytes (levels + 3) commit.tooBig _)]
  rfl

/-- **write** — the bytes of a commit behind a header. -/
def write (header : Bytes) (commit : RepoCommit) : Bytes := header ++ commitBytes commit

/-- **A frame of a commit is read back**, whichever form its header has. -/
theorem decode_write {commit : RepoCommit} (fits : commit.Fits) {header : Bytes} (form : header ∈ headers 1 "#commit") :
    decode (write header commit) = .ok (.commit commit) := by
  have body := commitReading_commitBytes fits 252 []
  rw [List.append_nil] at body
  have whole : bodyOf commitReading (commitBytes commit) = .ok commit := by
    unfold bodyOf Cbor.read? Wire.read
    rw [show Wire.levels Bytes = 252 + 4 from rfl, body]
  unfold decode write
  rw [header?_headers (by decide) (by decide) form]
  dsimp only
  rw [if_neg (by decide), if_pos rfl, if_pos rfl, whole]
  rfl

end Frame

/-! ## Events -/

namespace RepoCommit

/-- **Tells** — an event is what an entry of a commit says, with the blocks that the commit ships. -/
structure Tells (commit : RepoCommit) (blocks : List (Cid × Bytes)) (change : RepoChange) (event : Event) : Prop where
  seq : event.seq = commit.seq
  did : event.did = commit.repo
  action : change.action = event.action.name
  path : change.path.toList = event.collection.toList ++ '/' :: event.rkey.toList
  /-- The path is cut at its first slash. -/
  first : '/' ∉ event.collection.toList
  cid : event.cid = change.cid.map Cid.text
  payload : event.payload =
    if event.action = .delete then none
    else change.cid.bind fun cid => (Archive.lastUnder? cid blocks).map (.block cid)

/-- An entry tells of an event: its action is known, and its path has a slash. -/
def isEvent (change : RepoChange) : Bool :=
  (change.action = "create" ∨ change.action = "update" ∨ change.action = "delete") ∧ '/' ∈ change.path.toList

theorem name_of_ofName? {name : String} {action : Action} (known : Action.ofName? name = some action) :
    name = action.name := by
  unfold Action.ofName? at known
  split at known
  · next same => rw [← Option.some.inj known, same, Action.name]
  split at known
  · next same => rw [← Option.some.inj known, same, Action.name]
  split at known
  · next same => rw [← Option.some.inj known, same, Action.name]
  · cases known

theorem ofName?_eq_none_iff {name : String} :
    Action.ofName? name = none ↔ ¬ (name = "create" ∨ name = "update" ∨ name = "delete") := by
  unfold Action.ofName?
  split
  · simp_all
  split
  · simp_all
  split <;> simp_all

end RepoCommit

theorem Text.cut_eq_none_iff {sep : Char} {cs : List Char} : cut sep cs = none ↔ sep ∉ cs := by
  induction cs with
  | nil => simp [cut]
  | cons c cs ih =>
    rw [cut]
    by_cases h : c = sep
    · simp [h]
    · rw [if_neg h, Option.map_eq_none_iff, ih, List.mem_cons, not_or]
      exact ⟨fun absent => ⟨Ne.symm h, absent⟩, fun both => both.2⟩

namespace RepoCommit

variable {commit : RepoCommit} {blocks : List (Cid × Bytes)} {found : Archive.Blocks}

/-- An entry that tells of no event is dropped. -/
theorem event?_of_not_isEvent {change : RepoChange} (silent : isEvent change = false) :
    commit.event? found change = none := by
  unfold isEvent at silent
  rw [decide_eq_false_iff_not, not_and_or] at silent
  unfold event?
  rcases silent with unknown | noSlash
  · rw [ofName?_eq_none_iff.mpr unknown]
  · rw [Text.cut_eq_none_iff.mpr noSlash]
    split <;> simp_all

/-- **An entry that tells of an event makes it**, with the last block of its identifier. -/
theorem tells_of_isEvent (holds : ∀ cid, found.get? cid = Archive.lastUnder? cid blocks) {change : RepoChange}
    (tells : isEvent change = true) :
    ∃ event, commit.event? found change = some event ∧ commit.Tells blocks change event := by
  unfold isEvent at tells
  obtain ⟨known, slash⟩ := of_decide_eq_true tells
  unfold event?
  rcases named : Action.ofName? change.action with _ | action
  · exact absurd known (ofName?_eq_none_iff.mp named)
  rcases cut : Text.cut '/' change.path.toList with _ | ⟨collection, rkey⟩
  · exact absurd slash (Text.cut_eq_none_iff.mp cut)
  obtain ⟨path, first⟩ := Text.cut_eq_some cut
  refine ⟨_, rfl, rfl, rfl, name_of_ofName? named, ?_, ?_, rfl, ?_⟩
  · rw [String.toList_ofList, String.toList_ofList]
    exact path
  · rw [String.toList_ofList]
    exact first
  · show payload? found action change.cid = _
    unfold payload?
    rcases change.cid with _ | cid
    · rfl
    · show (if action = .delete then none else (found.get? cid).map (Payload.block cid)) =
        if action = .delete then none else (Archive.lastUnder? cid blocks).map (Payload.block cid)
      rw [holds]

/-- The events of entries, one after the other. -/
theorem forall₂_tells (holds : ∀ cid, found.get? cid = Archive.lastUnder? cid blocks) (changes : List RepoChange) :
    List.Forall₂ (commit.Tells blocks) (changes.filter isEvent) (changes.filterMap (commit.event? found)) := by
  induction changes with
  | nil => exact .nil
  | cons change rest ih =>
    rcases tells : isEvent change with _ | _
    · rw [List.filter_cons_of_neg (by rw [tells]; exact Bool.false_ne_true),
        List.filterMap_cons_none (event?_of_not_isEvent tells)]
      exact ih
    · obtain ⟨event, made, told⟩ :
          ∃ event, commit.event? found change = some event ∧ commit.Tells blocks change event :=
        tells_of_isEvent holds tells
      rw [List.filter_cons_of_pos tells, List.filterMap_cons_some made]
      exact .cons told ih

end RepoCommit

/-- **What is sent as a commit arrives as it was sent, down to the records.** -/
theorem shipped_commit_arrives {commit : RepoCommit} (fits : commit.Fits) {blocks : List (Cid × Bytes)}
    (valid : ∀ entry ∈ blocks, entry.1.IsValid) {roots : Bytes} (ships : commit.blocks = Archive.write roots blocks)
    {header : Bytes} (form : header ∈ Frame.headers 1 "#commit") :
    Frame.decode (Frame.write header commit) = .ok (.commit commit) ∧
      ∃ events, commit.events = .ok events ∧
        List.Forall₂ (commit.Tells blocks) (commit.changes.filter RepoCommit.isEvent) events := by
  refine ⟨Frame.decode_write fits form, ?_⟩
  have size := fits.blocks
  rw [ships] at size
  have read := Archive.read_write valid size
  have nonempty : commit.blocks.isEmpty = false := by
    rw [ships]
    simp [Archive.write, Varint.encode_ne_nil]
  have archive : commit.archive = Archive.read (Archive.write roots blocks) := by
    unfold RepoCommit.archive
    rw [nonempty, if_neg Bool.false_ne_true, ships]
  refine ⟨_, by rw [RepoCommit.events, archive, read]; rfl, RepoCommit.forall₂_tells (fun cid => ?_) commit.changes⟩
  rw [Archive.get?_foldl_put]
  exact Option.or_none

/-! ## A commit with entries of all kinds -/

namespace MixedCommit

/-- The identifier of a record. -/
def cid : Cid := .v1 0x71 Cid.sha256Code (List.replicate 32 7)

/-- The identifier of a record that is not shipped. -/
def absent : Cid := .v0 (List.replicate 32 9)

/-- The blocks, two of them under one identifier. -/
def blocks : List (Cid × Bytes) := [(cid, [0xA0]), (cid, [0x80])]

def commit : RepoCommit where
  seq := -5
  repo := "did:plc:author"
  rev := ""
  changes := [⟨"create", "app.bsky.feed.post/a/b", some cid⟩, ⟨"frobnicate", "app.bsky.feed.post/c", some cid⟩,
    ⟨"delete", "no-slash", none⟩, ⟨"update", "/", some absent⟩, ⟨"delete", "app.bsky.feed.like/d", some cid⟩]
  blocks := Archive.write [] blocks
  tooBig := true

/-- The commit can be written. -/
theorem fits : commit.Fits where
  seq := by decide
  repo := by decide
  rev := by decide
  count := by decide
  changes := by
    intro change mem
    have all : ∀ change ∈ commit.changes, change.action.utf8ByteSize < 2 ^ 64 ∧ change.path.utf8ByteSize < 2 ^ 64 ∧
        ∀ cid ∈ change.cid, cid.IsValid := by
      decide
    obtain ⟨action, path, cid⟩ := all change mem
    exact ⟨action, path, cid⟩
  blocks := by
    have short : commit.blocks.length = 77 := by decide +kernel
    omega

/-- **Three of five entries are events**, and the first one has the second of the blocks. -/
theorem three_events_arrive :
    commit.changes.filter RepoCommit.isEvent =
        [⟨"create", "app.bsky.feed.post/a/b", some cid⟩, ⟨"update", "/", some absent⟩,
          ⟨"delete", "app.bsky.feed.like/d", some cid⟩] ∧
      Archive.lastUnder? cid blocks = some [0x80] ∧
      Frame.decode (Frame.write (headBytes .map 2 ++ Frame.typeBytes "#commit" ++ Frame.opBytes 1) commit) =
        .ok (.commit commit) ∧
      ∃ events, commit.events = .ok events ∧
        List.Forall₂ (commit.Tells blocks) (commit.changes.filter RepoCommit.isEvent) events := by
  have ships : commit.blocks = Archive.write [] blocks := rfl
  refine ⟨by decide, by decide, ?_⟩
  exact shipped_commit_arrives fits (by decide) ships (.tail _ (.head _))

end MixedCommit

end FeedIndex
