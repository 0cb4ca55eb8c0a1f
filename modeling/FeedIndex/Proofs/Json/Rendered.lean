import FeedIndex.Json.Value
import Mathlib.Tactic.IntervalCases

/-!
# Reading back what was written

The compact text of a value is read back as one tree, whatever follows it in a container. The induction is on the
value, which has no doubles. It fits if its numbers have 64 bits and the members of its objects are in order as well.
-/

namespace FeedIndex.Json

/-! ## Strings -/

theorem hexValue?_hexDigit {n : Nat} (small : n < 16) : hexValue? (hexDigit n) = some n := by
  interval_cases n <;> decide

/-- The escape of a character is read as the character. -/
theorem units?_escapeChar (c : Char) (rest : List Char) :
    units? (escapeChar c ++ rest) = (units? rest).map fun (us, rest) => (.char c :: us, rest) := by
  unfold escapeChar
  split
  · next quote => subst quote; rfl
  split
  · next backslash => subst backslash; rfl
  split
  · next backspace => subst backspace; rfl
  split
  · next feed => subst feed; rfl
  split
  · next newline => subst newline; rfl
  split
  · next carriage => subst carriage; rfl
  split
  · next tab => subst tab; rfl
  split
  · next small =>
    have code : codeUnit? '0' '0' (hexDigit (c.toNat / 16)) (hexDigit (c.toNat % 16)) = some c.toNat := by
      have zero : hexValue? '0' = some 0 := by decide
      unfold codeUnit?
      rw [zero, hexValue?_hexDigit (by omega), hexValue?_hexDigit (by omega)]
      show some (4096 * 0 + 256 * 0 + 16 * (c.toNat / 16) + c.toNat % 16) = some c.toNat
      congr 1
      omega
    have piece : Piece.ofCode c.toNat = .char c := by
      unfold Piece.ofCode
      rw [if_neg (by omega), Char.ofNat_toNat]
    show units? ('\\' :: 'u' :: '0' :: '0' :: _ :: _ :: rest) = _
    rw [units?, code]
    dsimp only
    rw [piece]
  · next quote backslash _ _ _ _ _ large =>
    -- a character that stands for itself is neither a quote nor a backslash
    show units? (c :: rest) = _
    rw [units?.eq_def]
    split <;> simp_all

theorem units?_escaped (cs rest : List Char) :
    units? (cs.flatMap escapeChar ++ '"' :: rest) = some (cs.map .char, rest) := by
  induction cs with
  | nil => rfl
  | cons c cs ih =>
    rw [List.flatMap_cons, List.append_assoc, units?_escapeChar, ih]
    rfl

theorem assemble?_chars (cs : List Char) : assemble? (cs.map .char) = some cs := by
  induction cs with
  | nil => rfl
  | cons c cs ih =>
    rw [List.map_cons, assemble?, ih]
    rfl

theorem textBody?_escaped (s : String) (rest : List Char) :
    textBody? (s.toList.flatMap escapeChar ++ '"' :: rest) = some (some s, rest) := by
  unfold textBody?
  rw [units?_escaped, Option.map_some]
  dsimp only
  rw [assemble?_chars, Option.map_some, String.ofList_toList]

/-! ## What comes after a value -/

/-- **Ends** — nothing follows that could belong to a number: the text is over, or a comma or a closing bracket
comes. -/
def Ends (rest : List Char) : Prop := ∀ c ∈ rest.head?, c = ',' ∨ c = ']' ∨ c = '}'

theorem ends_nil : Ends [] := nofun

theorem ends_cons {c : Char} (h : c = ',' ∨ c = ']' ∨ c = '}') (rest : List Char) : Ends (c :: rest) := by
  rintro _ ⟨⟩
  exact h

theorem Ends.skipBlank_eq {rest : List Char} (ends : Ends rest) : skipBlank rest = rest := by
  rcases rest with _ | ⟨c, rest⟩
  · rfl
  · rcases ends c rfl with rfl | rfl | rfl <;> rfl

/-! ## Whole numbers -/

/-- A whole number as it is written. -/
def Numeral.ofInt (n : Int) : Numeral := ⟨n < 0, Nat.toDigits 10 n.natAbs, none, none⟩

theorem natOfDigits_toDigits (n : Nat) : natOfDigits (Nat.toDigits 10 n) = n := Nat.ofDigitChars_ten_toDigits

theorem Numeral.integer?_ofInt (n : Int) : (ofInt n).integer? = some n := by
  unfold integer? ofInt
  dsimp only
  rw [natOfDigits_toDigits]
  by_cases negative : n < 0
  · have large : n.natAbs ≠ 0 := by omega
    simp only [negative, decide_true, if_true, large, if_false, Option.some.injEq]
    omega
  · simp only [negative, decide_false, Bool.false_eq_true, if_false, Option.some.injEq]
    omega

/-- Only zero is written with a zero in front. -/
theorem head_toDigits (n : Nat) : ∃ d ds, Nat.toDigits 10 n = d :: ds ∧ (d = '0' → n = 0) := by
  induction n using Nat.strongRecOn with
  | ind n ih =>
    by_cases small : n < 10
    · refine ⟨n.digitChar, [], Nat.toDigits_of_lt_base small, ?_⟩
      intro zero
      interval_cases n <;> first | rfl | cases zero
    · obtain ⟨d, ds, written, leads⟩ := ih (n / 10) (by omega)
      refine ⟨d, ds ++ [(n % 10).digitChar], ?_, fun zero => ?_⟩
      · rw [Nat.toDigits_of_base_le (by omega) (by omega), written]
        rfl
      · have := leads zero
        omega

theorem isDigit_toDigits {n : Nat} {c : Char} (h : c ∈ Nat.toDigits 10 n) : c.isDigit = true :=
  Nat.isDigit_of_mem_toDigits (by omega) (by omega) h

theorem Ends.takeWhile_isDigit {rest : List Char} (ends : Ends rest) :
    rest.takeWhile Char.isDigit = [] ∧ rest.dropWhile Char.isDigit = rest := by
  rcases rest with _ | ⟨c, rest⟩
  · exact ⟨rfl, rfl⟩
  · rcases ends c rfl with rfl | rfl | rfl <;> exact ⟨rfl, rfl⟩

theorem whole?_toDigits (n : Nat) {rest : List Char} (ends : Ends rest) :
    whole? (Nat.toDigits 10 n ++ rest) = some (Nat.toDigits 10 n, rest) := by
  obtain ⟨d, ds, written, leads⟩ := head_toDigits n
  have digits : ∀ c ∈ d :: ds, c.isDigit = true := fun c hc => isDigit_toDigits (n := n) (by rw [written]; exact hc)
  by_cases zero : n = 0
  · subst zero
    rfl
  · have nonzero : d ≠ '0' := fun h => zero (leads h)
    obtain ⟨none, all⟩ := ends.takeWhile_isDigit
    have read : digits? (d :: ds ++ rest) = some (d :: ds, rest) := by
      unfold digits?
      rw [List.takeWhile_append_of_pos digits, List.dropWhile_append_of_pos digits, none, all, List.append_nil]
    rw [written, ← read, List.cons_append]
    unfold whole?
    split
    · next same => exact absurd (List.cons.inj same).1 nonzero
    · rfl

/-- No fraction and no exponent is found at the end of a number. -/
theorem Ends.fraction_exponent {rest : List Char} (ends : Ends rest) :
    fraction? rest = some (none, rest) ∧ exponent? rest = some (none, rest) := by
  rcases rest with _ | ⟨c, rest⟩
  · exact ⟨rfl, rfl⟩
  · rcases ends c rfl with rfl | rfl | rfl <;> exact ⟨rfl, rfl⟩

theorem unsigned?_toDigits (negative : Bool) (n : Nat) {rest : List Char} (ends : Ends rest) :
    unsigned? negative (Nat.toDigits 10 n ++ rest) = some (⟨negative, Nat.toDigits 10 n, none, none⟩, rest) := by
  unfold unsigned?
  obtain ⟨fraction, exponent⟩ := ends.fraction_exponent
  simp only [whole?_toDigits n ends, fraction, exponent, Option.bind_eq_bind, Option.bind_some, Option.pure_def]

theorem numeral?_renderInt (n : Int) {rest : List Char} (ends : Ends rest) :
    numeral? (renderInt n ++ rest) = some (.ofInt n, rest) := by
  unfold renderInt Numeral.ofInt
  by_cases negative : n < 0
  · simp only [negative, if_true, decide_true]
    exact unsigned?_toDigits true n.natAbs ends
  · simp only [negative, if_false, decide_false]
    rw [← unsigned?_toDigits false n.natAbs ends]
    obtain ⟨d, ds, written, -⟩ := head_toDigits n.natAbs
    have digit : d.isDigit = true := isDigit_toDigits (n := n.natAbs) (by rw [written]; exact List.mem_cons_self)
    rw [written]
    unfold numeral?
    split
    · next sign =>
      obtain rfl := (List.cons.inj sign).1
      cases digit
    · rfl

/-! ## Values -/

/-- **tree** — the tree of a value's text. -/
def Value.tree : Value → Tree
  | .null => .null
  | .bool b => .bool b
  | .int n => .number (.ofInt n)
  | .double bits => (parse? (Shortest.render bits)).getD .null
  | .text s => .text (some s)
  | .array items => .array (items.map tree)
  | .object members => .object (members.map fun member => (some member.1, tree member.2))
decreasing_by
  · have smaller := List.sizeOf_lt_of_mem ‹_›
    simp only [Value.array.sizeOf_spec]
    omega
  · have smaller := List.sizeOf_lt_of_mem ‹member ∈ members›
    have part : sizeOf member = 1 + sizeOf member.1 + sizeOf member.2 := rfl
    simp only [Value.object.sizeOf_spec]
    omega

/-- **Fits** — the value has no doubles, its numbers are whole, its containers are nested no deeper than the number
says, and its members stand in the order of their keys. -/
inductive Value.Fits : Nat → Value → Prop
  | null (depth : Nat) : Fits depth .null
  | bool (depth : Nat) (b : Bool) : Fits depth (.bool b)
  | int (depth : Nat) {n : Int} (whole : isWhole n = true) : Fits depth (.int n)
  | text (depth : Nat) (s : String) : Fits depth (.text s)
  | array {depth : Nat} {items : List Value} (fit : ∀ item ∈ items, Fits depth item) :
      Fits (depth + 1) (.array items)
  | object {depth : Nat} {members : List (String × Value)} (sorted : members.Pairwise (·.1 < ·.1))
      (fit : ∀ member ∈ members, Fits depth member.2) : Fits (depth + 1) (.object members)

/-- **Discrete** — the value has no doubles. Members may stand in any order. -/
inductive Value.Discrete : Value → Prop
  | null : Discrete .null
  | bool (b : Bool) : Discrete (.bool b)
  | int (n : Int) : Discrete (.int n)
  | text (s : String) : Discrete (.text s)
  | array {items : List Value} (all : ∀ item ∈ items, Discrete item) : Discrete (.array items)
  | object {members : List (String × Value)} (all : ∀ member ∈ members, Discrete member.2) :
      Discrete (.object members)

theorem Value.Fits.discrete {depth : Nat} {v : Value} (fits : v.Fits depth) : v.Discrete := by
  induction fits with
  | null => exact .null
  | bool _ b => exact .bool b
  | int _ _ => exact .int _
  | text _ s => exact .text s
  | array _ ih => exact .array ih
  | object _ _ ih => exact .object ih

/-- The items of a container after its first. -/
def following {β : Type} (write : β → List Char) (close : Char) : List β → List Char
  | [] => [close]
  | b :: bs => ',' :: write b ++ following write close bs

theorem renderItems_eq (items : List Value) : renderItems items = following Value.renderChars ']' items := by
  induction items with
  | nil => rw [renderItems, following]
  | cons item items ih => rw [renderItems, following, ih]

/-- A member of an object as it is written. -/
def renderMember (member : String × Value) : List Char := renderText member.1 ++ ':' :: member.2.renderChars

theorem renderMembers_eq (members : List (String × Value)) :
    renderMembers members = following renderMember '}' members := by
  induction members with
  | nil => rw [renderMembers, following]
  | cons member members ih =>
    obtain ⟨key, v⟩ := member
    rw [renderMembers, following, ih, renderMember]
    simp

theorem renderChars_array (item : Value) (items : List Value) :
    (Value.array (item :: items)).renderChars =
      '[' :: (item.renderChars ++ following Value.renderChars ']' items) := by
  rw [Value.renderChars, renderItems_eq, List.cons_append]

theorem renderChars_object (member : String × Value) (members : List (String × Value)) :
    (Value.object (member :: members)).renderChars =
      '\x7b' :: (renderMember member ++ following renderMember '\x7d' members) := by
  obtain ⟨key, v⟩ := member
  rw [Value.renderChars, renderMembers_eq, renderMember]
  simp

section

variable {α β : Type} {item : Reader α} {write : β → List Char} {read : β → α} {close : Char}

theorem ends_following (write : β → List Char) (brackets : close = ']' ∨ close = '}') (bs : List β) (rest : List Char) :
    Ends (following write close bs ++ rest) := by
  rcases bs with _ | ⟨b, bs⟩
  · exact ends_cons (.inr brackets) rest
  · exact ends_cons (.inl rfl) _

theorem length_following (write : β → List Char) (close : Char) (bs : List β) :
    bs.length < (following write close bs).length := by
  induction bs with
  | nil => exact Nat.zero_lt_one
  | cons b bs ih =>
    rw [following, List.length_append, List.length_cons, List.length_cons]
    omega

/-- What is written of an item is shorter than the whole. -/
theorem length_lt_of_mem (write : β → List Char) (close : Char) {b b' : β} {bs : List β} (listed : b' ∈ b :: bs) :
    (write b').length < (write b ++ following write close bs).length := by
  rw [List.length_append]
  induction bs generalizing b with
  | nil =>
    obtain rfl := List.mem_singleton.mp listed
    exact Nat.lt_add_one _
  | cons next bs ih =>
    rw [following, List.length_append, List.length_cons]
    rcases List.mem_cons.mp listed with rfl | listed
    · omega
    · have := ih listed
      omega

/-- **Separated items** are read back if each item is. -/
theorem separated_following (brackets : close = ']' ∨ close = '}') {b : β} {bs : List β}
    (reads : ∀ b' ∈ b :: bs, ∀ rest, Ends rest → item (write b' ++ rest) = some (read b', rest)) {n : Nat}
    (enough : bs.length < n) (rest : List Char) :
    separated item close n (write b ++ (following write close bs ++ rest)) =
      some (read b :: bs.map read, rest) := by
  induction bs generalizing b n with
  | nil =>
    obtain ⟨n, rfl⟩ : ∃ m, n = m + 1 := ⟨n - 1, by omega⟩
    have ends := ends_following write brackets [] rest
    rw [separated, reads b List.mem_cons_self _ ends]
    dsimp only
    rw [ends.skipBlank_eq]
    simp [following]
  | cons b' bs ih =>
    obtain ⟨n, rfl⟩ : ∃ m, n = m + 1 := ⟨n - 1, by omega⟩
    have ends := ends_following write brackets (b' :: bs) rest
    have rest_read := ih (b := b') (n := n) (fun b'' listed => reads b'' (List.mem_cons_of_mem _ listed))
      (by rw [List.length_cons] at enough; omega)
    have comma : ',' ≠ close := by rcases brackets with rfl | rfl <;> decide
    rw [separated, reads b List.mem_cons_self _ ends]
    dsimp only
    rw [ends.skipBlank_eq, following]
    simp only [List.cons_append, List.append_assoc, comma, if_false, if_true]
    rw [rest_read]
    rfl

/-- **Containers** are read back if each item is, and no item begins like white space or a closing bracket. -/
theorem container_following (brackets : close = ']' ∨ close = '}') {b : β} {bs : List β}
    (reads : ∀ b' ∈ b :: bs, ∀ rest, Ends rest → item (write b' ++ rest) = some (read b', rest)) {c : Char}
    {cs : List Char} (begins : write b = c :: cs) (solid : isBlank c = false) (opens : c ≠ close)
    (rest : List Char) :
    container item close (write b ++ (following write close bs ++ rest)) = some (read b :: bs.map read, rest) := by
  have start : skipBlank (write b ++ (following write close bs ++ rest)) =
      c :: (cs ++ (following write close bs ++ rest)) := by
    rw [begins, List.cons_append, skipBlank, List.dropWhile_cons_of_neg (by simp [solid])]
  have enough : bs.length < (write b ++ (following write close bs ++ rest)).length := by
    have := length_following write close bs
    rw [List.length_append, List.length_append]
    omega
  unfold container
  rw [start]
  dsimp only
  rw [if_neg opens]
  exact separated_following brackets reads enough rest

end

/-! ### Values at the head of a text -/

theorem value_array (n : Nat) (rest : List Char) :
    value (n + 1) ('[' :: rest) = (container (value n) ']' rest).map fun (items, rest) => (.array items, rest) := rfl

theorem value_object (n : Nat) (rest : List Char) :
    value (n + 1) ('\x7b' :: rest) =
      (container (member (value n)) '\x7d' rest).map fun (ms, rest) => (.object ms, rest) := rfl

theorem value_text (n : Nat) (s : String) (rest : List Char) :
    value (n + 1) (renderText s ++ rest) = some (.text (some s), rest) := by
  have read : value (n + 1) ('"' :: (s.toList.flatMap escapeChar ++ '"' :: rest)) =
      (textBody? (s.toList.flatMap escapeChar ++ '"' :: rest)).map fun read => (.text read.1, read.2) := rfl
  rw [textBody?_escaped] at read
  unfold renderText
  simpa using read

theorem value_numeral (n : Nat) {c : Char} (cs : List Char) (number : c = '-' ∨ c.isDigit = true) :
    value (n + 1) (c :: cs) = (numeral? (c :: cs)).map fun (m, rest) => (.number m, rest) := by
  rcases number with rfl | digit
  · rfl
  have solid : skipBlank (c :: cs) = c :: cs := by
    refine List.dropWhile_cons_of_neg fun blank => ?_
    simp only [isBlank, Bool.or_eq_true, beq_iff_eq] at blank
    rcases blank with ((rfl | rfl) | rfl) | rfl <;> cases digit
  rw [value, solid]
  split
  case h_7 => rfl
  all_goals
    next same =>
      obtain rfl := (List.cons.inj same).1
      cases digit

/-- A whole number begins with a sign or a digit. -/
theorem renderInt_cons (n : Int) : ∃ c cs, renderInt n = c :: cs ∧ (c = '-' ∨ c.isDigit = true) := by
  unfold renderInt
  split
  · exact ⟨_, _, rfl, .inl rfl⟩
  · obtain ⟨d, ds, written, -⟩ := head_toDigits n.natAbs
    exact ⟨d, ds, written, .inr (isDigit_toDigits (n := n.natAbs) (by rw [written]; exact List.mem_cons_self))⟩

theorem value_int (n : Nat) (i : Int) {rest : List Char} (ends : Ends rest) :
    value (n + 1) (renderInt i ++ rest) = some (.number (.ofInt i), rest) := by
  obtain ⟨c, cs, written, number⟩ := renderInt_cons i
  have read := numeral?_renderInt i ends
  rw [written, List.cons_append] at read ⊢
  rw [value_numeral n _ number, read]
  rfl

/-- A value begins neither like white space nor like the end of a list. -/
theorem Value.Discrete.begins {v : Value} (discrete : v.Discrete) :
    ∃ c cs, v.renderChars = c :: cs ∧ isBlank c = false ∧ c ≠ ']' := by
  cases discrete with
  | null => exact ⟨_, _, by rw [renderChars], rfl, by decide⟩
  | bool b => cases b <;> exact ⟨_, _, by rw [renderChars], rfl, by decide⟩
  | int n =>
    obtain ⟨c, cs, written, number⟩ := renderInt_cons n
    refine ⟨c, cs, by rw [renderChars, written], ?_⟩
    rcases number with rfl | digit
    · exact ⟨rfl, by decide⟩
    · refine ⟨?_, fun bracket => ?_⟩
      · unfold isBlank
        by_contra blank
        simp only [Bool.not_eq_false, Bool.or_eq_true, beq_iff_eq] at blank
        rcases blank with ((rfl | rfl) | rfl) | rfl <;> cases digit
      · subst bracket
        cases digit
  | text s => exact ⟨_, _, by rw [renderChars, renderText, List.cons_append], rfl, by decide⟩
  | @array items _ =>
    rcases items with _ | ⟨item, items⟩
    · exact ⟨_, _, by rw [renderChars], rfl, by decide⟩
    · exact ⟨_, _, by rw [renderChars, List.cons_append], rfl, by decide⟩
  | @object members _ =>
    rcases members with _ | ⟨member, members⟩
    · exact ⟨_, _, by rw [renderChars], rfl, by decide⟩
    · exact ⟨_, _, by rw [renderChars, List.cons_append, List.cons_append], rfl, by decide⟩

/-- A member is read back if its value is. -/
theorem member_renderMember {item : Reader Tree} {m : String × Value} {rest : List Char}
    (read : item (m.2.renderChars ++ rest) = some (m.2.tree, rest)) :
    member item (renderMember m ++ rest) = some ((some m.1, m.2.tree), rest) := by
  have text : textBody? (m.1.toList.flatMap escapeChar ++ '"' :: (':' :: (m.2.renderChars ++ rest))) =
      some (some m.1, ':' :: (m.2.renderChars ++ rest)) := textBody?_escaped _ _
  have written : renderMember m ++ rest =
      '"' :: (m.1.toList.flatMap escapeChar ++ '"' :: (':' :: (m.2.renderChars ++ rest))) := by
    simp [renderMember, renderText]
  have quote (cs : List Char) : skipBlank ('"' :: cs) = '"' :: cs := rfl
  have colon (cs : List Char) : skipBlank (':' :: cs) = ':' :: cs := rfl
  simp only [member, written, quote, text, colon, read, Option.map_some]

/-- **The text of a value is read as its tree.** -/
theorem Value.Discrete.read {v : Value} (discrete : v.Discrete) {n : Nat} {rest : List Char} (enough : v.renderChars.length < n) (ends : Ends rest) :
    value n (v.renderChars ++ rest) = some (v.tree, rest) := by
  obtain ⟨n, rfl⟩ : ∃ m, n = m + 1 := ⟨n - 1, by omega⟩
  induction discrete generalizing n rest with
  | null => rw [renderChars, tree]; rfl
  | bool b => cases b <;> (rw [renderChars, tree]; rfl)
  | int i =>
    rw [renderChars, tree]
    exact value_int n i ends
  | text s =>
    rw [renderChars, tree]
    exact value_text n s rest
  | @array items all ih =>
    rcases items with _ | ⟨item, items⟩
    · rw [renderChars, tree]
      rfl
    rw [renderChars_array] at enough ⊢
    -- every item is shorter than the list
    have reads : ∀ v ∈ item :: items, ∀ rest, Ends rest →
        value n (v.renderChars ++ rest) = some (v.tree, rest) := by
      intro v listed rest ends
      have short := length_lt_of_mem renderChars ']' listed
      rw [List.length_cons] at enough
      obtain ⟨n, rfl⟩ : ∃ m, n = m + 1 := ⟨n - 1, by omega⟩
      exact ih v listed ends n (by omega)
    obtain ⟨c, cs, begins, solid, opens⟩ := (all item List.mem_cons_self).begins
    have read := container_following (.inl rfl) reads begins solid opens rest
    rw [List.cons_append, List.append_assoc, value_array, read, tree]
    rfl
  | @object members all ih =>
    rcases members with _ | ⟨first, members⟩
    · rw [renderChars, tree]
      rfl
    rw [renderChars_object] at enough ⊢
    -- every member is shorter than the object, and its value is shorter than the member
    have reads : ∀ m ∈ first :: members, ∀ rest, Ends rest →
        member (value n) (renderMember m ++ rest) = some ((some m.1, m.2.tree), rest) := by
      intro m listed rest ends
      have short := length_lt_of_mem renderMember '\x7d' listed
      have part : m.2.renderChars.length < (renderMember m).length := by
        rw [renderMember, List.length_append, List.length_cons]
        omega
      rw [List.length_cons] at enough
      obtain ⟨n, rfl⟩ : ∃ m, n = m + 1 := ⟨n - 1, by omega⟩
      exact member_renderMember (ih m listed ends n (by omega))
    have begins : renderMember first =
        '"' :: (first.1.toList.flatMap escapeChar ++ '"' :: ':' :: first.2.renderChars) := by
      simp [renderMember, renderText]
    have read := container_following (.inr rfl) reads begins rfl (by decide) rest
    rw [List.cons_append, List.append_assoc, value_object, read, tree]
    rfl

/-- The text of a value has the tree of the value. -/
theorem Value.Discrete.parse?_render {v : Value} (discrete : v.Discrete) : parse? v.render = some v.tree := by
  have read : value (v.render.length + 1) (v.renderChars ++ []) = some (v.tree, []) :=
    discrete.read (by simp [render]) ends_nil
  rw [List.append_nil] at read
  unfold parse? whole
  rw [render, String.toList_ofList] at *
  rw [read]
  rfl

theorem Value.Fits.parse?_render {depth : Nat} {v : Value} (fits : v.Fits depth) : parse? v.render = some v.tree :=
  fits.discrete.parse?_render

end FeedIndex.Json
