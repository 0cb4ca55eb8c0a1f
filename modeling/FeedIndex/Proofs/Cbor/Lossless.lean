import FeedIndex.Proofs.Cbor.Strict
import FeedIndex.Proofs.Letters

/-!
# Data told from its JSON value

The JSON value of data has fewer kinds of things: bytes and links become objects of one member, with a key that says
which of the two it is and a text that says the rest. So data with such a key of its own is not told from a link or
bytes, and neither is a whole number beyond 64 bits from its digits, nor one infinite float from another. All other
data is told from its JSON value, whatever is nested in it.
-/

namespace FeedIndex.Cbor

namespace Data

/-- **Plain** — data of which nothing is lost: whole numbers have 64 bits, there are no floats, and no map has a key
that marks a link or bytes. Its links are such as can be written. -/
inductive Plain : Data → Prop
  | null : Plain .null
  | bool (b : Bool) : Plain (.bool b)
  | int {n : Int} (whole : Json.isWhole n = true) : Plain (.int n)
  | text (s : String) : Plain (.text s)
  | bytes (bs : Bytes) : Plain (.bytes bs)
  | list {items : List Data} (each : ∀ item ∈ items, Plain item) : Plain (.list items)
  | map {members : List (String × Data)} (unmarked : ∀ member ∈ members, member.1 ≠ "$link" ∧ member.1 ≠ "$bytes")
      (each : ∀ member ∈ members, Plain member.2) : Plain (.map members)
  | link {cid : Cid} (valid : cid.IsValid) : Plain (.link cid)

theorem toJson_int {n : Int} (whole : Json.isWhole n = true) : (int n).toJson = .int n := by
  rw [toJson, if_pos whole]

theorem toJson_list (items : List Data) : (list items).toJson = .array (items.map toJson) := by
  rw [toJson, jsonItems_eq_map]

theorem toJson_map (members : List (String × Data)) :
    (map members).toJson = .object (Keyed.mapValues toJson members) := by
  rw [toJson, jsonMembers_eq_mapValues]

/-- Things are told from what becomes of them, one by one. -/
theorem eq_of_map_eq {α β : Type} {f : α → β} {as as' : List α}
    (told : ∀ a ∈ as, ∀ a' ∈ as', f a = f a' → a = a') (same : as.map f = as'.map f) : as = as' := by
  induction as generalizing as' with
  | nil => exact (List.map_eq_nil_iff.mp same.symm).symm
  | cons a as ih =>
    obtain ⟨a', rest', rfl, first, others⟩ := List.map_eq_cons_iff.mp same.symm
    rw [told a List.mem_cons_self a' List.mem_cons_self first.symm,
      ih (fun a listed a' listed' => told a (List.mem_cons_of_mem _ listed) a' (List.mem_cons_of_mem _ listed'))
        others.symm]

/-- A map without such a key does not become what a link or bytes become. -/
theorem toJson_map_ne {members : List (String × Data)}
    (unmarked : ∀ member ∈ members, member.1 ≠ "$link" ∧ member.1 ≠ "$bytes") {key : String}
    (marks : key = "$link" ∨ key = "$bytes") (v : Json.Value) : (map members).toJson ≠ .object [(key, v)] := by
  intro same
  rw [toJson_map] at same
  obtain ⟨member, rest, rfl, first, -⟩ := List.map_eq_cons_iff.mp (Json.Value.object.inj same)
  obtain ⟨noLink, noBytes⟩ := unmarked member List.mem_cons_self
  obtain rfl : member.1 = key := congrArg Prod.fst first
  exact marks.elim noLink noBytes

/-- Bytes do not become what a link becomes. -/
theorem toJson_bytes_ne_link (bs : Bytes) (cid : Cid) : (bytes bs).toJson ≠ (link cid).toJson := by
  simp [toJson]

theorem bytes_of_toJson_eq {bs bs' : Bytes} (same : (bytes bs).toJson = (bytes bs').toJson) : bs = bs' := by
  have letters : Radix.base64 bs = Radix.base64 bs' := by simpa [toJson] using same
  exact Radix.base64_injective letters

theorem cid_of_toJson_eq {cid cid' : Cid} (valid : cid.IsValid) (valid' : cid'.IsValid)
    (same : (link cid).toJson = (link cid').toJson) : cid = cid' := by
  have texts : cid.text = cid'.text := by simpa [toJson] using same
  exact Cid.text_injective valid valid' texts

variable {a b : Data}

/-- **Data is told from its JSON value**, with all that is nested in it, if it is plain. -/
theorem eq_of_toJson_eq (plain : a.Plain) (plain' : b.Plain) (same : a.toJson = b.toJson) : a = b := by
  -- data of different kinds becomes values of different kinds, but for the objects of links, bytes and maps
  induction plain generalizing b with
  | null =>
    cases plain' with
    | null => rfl
    | int whole' => cases same.trans (toJson_int whole')
    | _ => cases same
  | bool =>
    cases plain' with
    | bool =>
      cases same
      rfl
    | int whole' => cases same.trans (toJson_int whole')
    | _ => cases same
  | int whole =>
    have same := (toJson_int whole).symm.trans same
    cases plain' with
    | int whole' =>
      cases same.trans (toJson_int whole')
      rfl
    | _ => cases same
  | text =>
    cases plain' with
    | text =>
      cases same
      rfl
    | int whole' => cases same.trans (toJson_int whole')
    | _ => cases same
  | bytes =>
    cases plain' with
    | bytes => rw [bytes_of_toJson_eq same]
    | int whole' => cases same.trans (toJson_int whole')
    | map unmarked' => exact (toJson_map_ne unmarked' (.inr rfl) _ same.symm).elim
    | link => exact (toJson_bytes_ne_link _ _ same).elim
    | _ => cases same
  | link valid =>
    cases plain' with
    | bytes => exact (toJson_bytes_ne_link _ _ same.symm).elim
    | int whole' => cases same.trans (toJson_int whole')
    | map unmarked' => exact (toJson_map_ne unmarked' (.inl rfl) _ same.symm).elim
    | link valid' => rw [cid_of_toJson_eq valid valid' same]
    | _ => cases same
  | @list items each ih =>
    cases plain' with
    | @list items' each' =>
      rw [toJson_list, toJson_list] at same
      refine congrArg list (eq_of_map_eq (fun item listed item' listed' => ?_) (Json.Value.array.inj same))
      exact ih item listed (each' item' listed')
    | int whole' => cases same.trans (toJson_int whole')
    | _ => cases same
  | @map members unmarked each ih =>
    cases plain' with
    | bytes => exact (toJson_map_ne unmarked (.inr rfl) _ same).elim
    | int whole' => cases same.trans (toJson_int whole')
    | @map members' unmarked' each' =>
      rw [toJson_map, toJson_map] at same
      refine congrArg map (eq_of_map_eq (fun member listed member' listed' alike => ?_) (Json.Value.object.inj same))
      obtain ⟨key, value⟩ := Prod.mk.inj alike
      exact Prod.ext key (ih member listed (each' member' listed') value)
    | link => exact (toJson_map_ne unmarked (.inl rfl) _ same).elim
    | _ => cases same

/-- A map with the key of bytes is not told from bytes. -/
example : (map [("$bytes", text "AA")]).toJson = (bytes [0]).toJson := rfl

end Data

namespace NestedRecord

open Data

/-- An identifier of version 0. -/
def bare : Cid := .v0 (List.replicate 32 0)

/-- An identifier of version 1 with the same digest. -/
def full : Cid := .v1 0x70 Cid.sha256Code (List.replicate 32 0)

def embedded : Data := .map [("cid", .link bare), ("data", .bytes [0xFB, 0xFF])]

def limits : Data := .list [.int (-Nat.pow 2 63), .int (Nat.pow 2 64 - 1), .null]

def links : Data := .list [.link bare, .link full]

def record : Data := .map [("embed", embedded), ("limits", limits), ("links", links), ("text", .text "$link")]

/-- The members of the record as they may be written. -/
def unordered : List (String × Data) :=
  [("text", .text "$link"), ("links", links), ("embed", embedded), ("limits", limits)]

theorem plain_unordered : ∀ member ∈ unordered, member.2.Plain := by
  simp only [unordered, List.forall_mem_cons]
  refine ⟨.text _, .list ?_, .map (by decide) ?_, .list ?_, nofun⟩
  · simp only [List.forall_mem_cons]
    exact ⟨.link (by decide), .link (by decide), nofun⟩
  · simp only [List.forall_mem_cons]
    exact ⟨.link (by decide), .bytes _, nofun⟩
  · simp only [List.forall_mem_cons]
    exact ⟨.int (by decide), .int (by decide), .null, nofun⟩

theorem plain_record : record.Plain := by
  refine .map (by decide) fun member listed => plain_unordered member ?_
  simp only [unordered, List.mem_cons] at listed ⊢
  tauto

/-- **A record with links of both versions is told from its JSON value**, whatever order its members came in. -/
theorem record_told : record.Plain ∧ (map (Keyed.sorted unordered)).Plain ∧
    record.toJson = (map (Keyed.sorted unordered)).toJson ∧ record = map (Keyed.sorted unordered) := by
  have plain' : (map (Keyed.sorted unordered)).Plain :=
    .map (by decide +kernel) fun member listed => plain_unordered member (Keyed.mem_of_mem_sorted listed)
  have same : record.toJson = (map (Keyed.sorted unordered)).toJson := by rfl
  exact ⟨plain_record, plain', same, eq_of_toJson_eq plain_record plain' same⟩

end NestedRecord

end FeedIndex.Cbor
