import FeedIndex.Bytes.Basic

/-!
# Text of any bytes

Bytes that are to be shown need not be UTF-8. Where no character stands, as many bytes as could begin one,
and at least one, are shown as a replacement character.
-/

namespace FeedIndex.Text

/-- What is shown for bytes that are no character. -/
def replacement : Char := '\uFFFD'

/-- A character begins with these bytes and has more of them: its last ones may be the least or the greatest
that can follow. -/
def canBegin (bs : Bytes) : Bool :=
  [1, 2, 3].any fun count =>
    [0x80, 0xBF].any fun b => (Bytes.utf8? (bs ++ List.replicate count b)).isSome

/-- **character** — the character at the head of bytes, and how many bytes it has. -/
def character (bs : Bytes) : Char × Nat :=
  let isWhole (count : Nat) : Option (Char × Nat) :=
    (Bytes.utf8? (bs.take count)).bind fun s => s.toList.head?.map (·, count)
  match [1, 2, 3, 4].findSome? isWhole with
  | some whole => whole
  | none => (replacement, ([3, 2].find? fun count => canBegin (bs.take count)).getD 1)

/-- **ofBytes** — the text of bytes. -/
def ofBytes (bs : Bytes) : List Char :=
  match bs with
  | [] => []
  | b :: rest =>
    let (c, count) := character (b :: rest)
    c :: ofBytes (rest.drop (count - 1))
termination_by bs.length
decreasing_by
  simp only [List.length_drop, List.length_cons]
  omega

/-- There are no more characters than bytes. -/
theorem length_ofBytes_le (bs : Bytes) : (ofBytes bs).length ≤ bs.length := by
  fun_induction ofBytes bs with
  | case1 => simp
  | case2 b rest c count _ ih =>
    simp only [List.length_cons, List.length_drop] at ih ⊢
    omega

end FeedIndex.Text
