/-!
# Byte strings

Readers work on lists of bytes: each takes what it needs from the head and returns the rest.
-/

namespace FeedIndex

/-- Byte strings. -/
abbrev Bytes := List UInt8

namespace Bytes

/-- **takeExact** — the first `n` bytes and the rest; nothing if there are fewer. -/
def takeExact : Nat → Bytes → Option (Bytes × Bytes)
  | 0, bs => some ([], bs)
  | _ + 1, [] => none
  | n + 1, b :: bs => (takeExact n bs).map fun parts => (b :: parts.1, parts.2)

/-- **bigEndian** — the number that bytes make, the first the most significant. -/
def bigEndian (bs : Bytes) : Nat := bs.foldl (fun n b => 256 * n + b.toNat) 0

/-- **ofNat** — the last `count` bytes of a number, the most significant first. -/
def ofNat (count n : Nat) : Bytes :=
  (List.range count).reverse.map fun i => (n / Nat.pow 256 i).toUInt8

/-- **utf8?** — the text that bytes encode, if they are UTF-8. -/
def utf8? (bs : Bytes) : Option String := String.fromUTF8? (ByteArray.mk bs.toArray)

theorem takeExact_eq_some {n : Nat} {bs head rest : Bytes} (h : takeExact n bs = some (head, rest)) :
    bs = head ++ rest ∧ head.length = n := by
  induction n generalizing bs head with
  | zero => simp [takeExact] at h; simp [h]
  | succ n ih =>
    cases bs with
    | nil => simp [takeExact] at h
    | cons b bs =>
      simp only [takeExact, Option.map_eq_some_iff] at h
      obtain ⟨⟨hd, tl⟩, htake, heq⟩ := h
      cases heq
      obtain ⟨rfl, hlen⟩ := ih htake
      exact ⟨rfl, by simp [hlen]⟩

end Bytes

end FeedIndex
