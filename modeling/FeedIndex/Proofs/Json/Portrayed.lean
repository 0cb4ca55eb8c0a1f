import FeedIndex.Proofs.Json.Kept
import FeedIndex.Proofs.Rereading

/-!
# Records in JSON texts, and the values of the texts

A text is read into a record from its tree, and the tree makes a value. The value stands for the tree, unless the
tree has an object that begins with the reserved key: such an object is a structure with an unknown field when a
record is read, and the text that it embeds when the value is made.
-/

namespace FeedIndex.Json

mutual

/-- **embeds** — the tree has an object that begins with the reserved key. -/
def Tree.embeds : Tree → Bool
  | .array items => itemsEmbed items
  | .object members => (embedded? members).isSome || membersEmbed members
  | _ => false

def itemsEmbed : List Tree → Bool
  | [] => false
  | t :: ts => t.embeds || itemsEmbed ts

def membersEmbed : List (Option String × Tree) → Bool
  | [] => false
  | (_, t) :: ms => t.embeds || membersEmbed ms

end

/-- The value of the first tree, which embeds nothing. -/
def TreeShows (input : List Tree) (v : Value) (rest : List Tree) : Prop :=
  ∃ t, input = t :: rest ∧ t.embeds = false ∧ ∃ inner depth, t.toValue? inner depth = some v

/-- The first tree is a key. -/
def TreeNames (input : List Tree) (key : String) (rest : List Tree) : Prop := input = .text (some key) :: rest

variable {inner : String → Option Value} {depth : Nat}

/-- Values stand for trees, one by one, if they are read from them one by one. -/
theorem inTurn_of_mapM {items : List Tree} (plain : itemsEmbed items = false) {vs : List Value}
    (read : items.mapM (Tree.toValue? inner depth) = some vs) (rest : List Tree) :
    vs.length = items.length ∧ InTurn TreeShows (items ++ rest) vs rest := by
  induction items generalizing vs with
  | nil =>
    obtain rfl := Option.some.inj read
    exact ⟨rfl, .done rest⟩
  | cons t items ih =>
    obtain ⟨first, others⟩ := Bool.or_eq_false_iff.mp plain
    rw [List.mapM_cons] at read
    obtain ⟨v, valued, read⟩ := Option.bind_eq_some_iff.mp read
    obtain ⟨vs, later, same⟩ := Option.bind_eq_some_iff.mp read
    obtain rfl := Option.some.inj same
    obtain ⟨length, inTurn⟩ := ih others later
    exact ⟨congrArg (· + 1) length, .next ⟨t, rfl, first, inner, depth, valued⟩ inTurn⟩

theorem membersInTurn_of_mapM {members : List (Option String × Tree)} (plain : membersEmbed members = false)
    {pairs : List (String × Value)} (read : members.mapM (readMember (Tree.toValue? inner depth)) = some pairs)
    (rest : List Tree) :
    pairs.length = members.length ∧ MembersInTurn TreeNames TreeShows (inTurn .text members ++ rest) pairs rest := by
  induction members generalizing pairs with
  | nil =>
    obtain rfl := Option.some.inj read
    exact ⟨rfl, .done rest⟩
  | cons member members ih =>
    obtain ⟨key?, t⟩ := member
    obtain ⟨first, others⟩ := Bool.or_eq_false_iff.mp plain
    rw [List.mapM_cons] at read
    obtain ⟨pair, entry, read⟩ := Option.bind_eq_some_iff.mp read
    obtain ⟨pairs, later, same⟩ := Option.bind_eq_some_iff.mp read
    obtain rfl := Option.some.inj same
    obtain ⟨key, rfl, entry⟩ := Option.bind_eq_some_iff.mp entry
    obtain ⟨v, valued, rfl⟩ := Option.map_eq_some_iff.mp entry
    obtain ⟨length, inTurn⟩ := ih others later
    exact ⟨congrArg (· + 1) length, .next rfl ⟨t, rfl, first, inner, depth, valued⟩ inTurn⟩

theorem toValue?_array {items : List Tree} {v : Value} (read : (Tree.array items).toValue? inner depth = some v) :
    ∃ depth' vs, items.mapM (Tree.toValue? inner depth') = some vs ∧ v = .array vs := by
  cases depth with
  | zero => cases read
  | succ depth =>
    rw [Tree.toValue?] at read
    obtain ⟨vs, listed, rfl⟩ := Option.map_eq_some_iff.mp read
    exact ⟨depth, vs, listed, rfl⟩

/-- An object that embeds nothing is read member by member. -/
theorem toValue?_plain_object {members : List (Option String × Tree)} (plain : (embedded? members).isSome = false)
    {v : Value} (read : (Tree.object members).toValue? inner depth = some v) :
    ∃ depth' pairs, members.mapM (readMember (Tree.toValue? inner depth')) = some pairs ∧
      v = .object (Keyed.sorted pairs) := by
  cases depth with
  | zero => cases read
  | succ depth =>
    have free : embedded? members = none := by simpa using plain
    rw [Tree.toValue?, free] at read
    obtain ⟨pairs, listed, rfl⟩ := Option.map_eq_some_iff.mp read
    exact ⟨depth, pairs, listed, rfl⟩

/-- Items stand for the items of an array. -/
theorem TreeShows.items {items : List Tree} {v : Value} {rest rest' : List Tree}
    (there : TreeShows (.array items :: rest) v rest') :
    ∃ vs, v = .array vs ∧ vs.length = items.length ∧ InTurn TreeShows (items ++ rest) vs rest' := by
  obtain ⟨t, same, plain, inner, depth, read⟩ := there
  obtain ⟨rfl, rfl⟩ := List.cons.inj same
  obtain ⟨depth, vs, listed, rfl⟩ := toValue?_array read
  obtain ⟨length, inTurn⟩ := inTurn_of_mapM plain listed rest
  exact ⟨vs, rfl, length, inTurn⟩

theorem TreeShows.members {members : List (Option String × Tree)} {v : Value} {rest rest' : List Tree}
    (there : TreeShows (.object members :: rest) v rest') :
    ∃ ms, v = .object (Keyed.sorted ms) ∧ ms.length = members.length ∧
      MembersInTurn TreeNames TreeShows (inTurn .text members ++ rest) ms rest' := by
  obtain ⟨t, same, plain, inner, depth, read⟩ := there
  obtain ⟨rfl, rfl⟩ := List.cons.inj same
  obtain ⟨free, plain⟩ := Bool.or_eq_false_iff.mp plain
  obtain ⟨depth, pairs, listed, rfl⟩ := toValue?_plain_object free read
  obtain ⟨length, inTurn⟩ := membersInTurn_of_mapM plain listed rest
  exact ⟨pairs, rfl, length, inTurn⟩

theorem take?_eq_some {ν α : Type} {what? : ν → Option α} {input rest : List ν} {a : α}
    (taken : take? what? input = some (a, rest)) : ∃ v, input = v :: rest ∧ what? v = some a := by
  cases input with
  | nil => cases taken
  | cons v others =>
    obtain ⟨a, own, same⟩ := Option.map_eq_some_iff.mp taken
    cases same
    exact ⟨v, rfl, own⟩

theorem length_inTurn {ν : Type} (ofKey : Option String → ν) (members : List (Option String × ν)) :
    (inTurn ofKey members).length / 2 = members.length := by
  have twice : (inTurn ofKey members).length = 2 * members.length := by
    induction members with
    | nil => rfl
    | cons member members ih =>
      have first : (inTurn ofKey (member :: members)).length = (inTurn ofKey members).length + 2 := rfl
      rw [first, ih, List.length_cons]
      omega
  omega

/-- What a tree is laid out as. -/
theorem layout?_tree {input inner : List Tree} {layout : Layout} (opened : Wire.layout? input = some (layout, inner)) :
    (∃ members rest, input = .object members :: rest ∧ layout = .named members.length ∧
        inner = inTurn .text members ++ rest) ∨
      ∃ items rest, input = .array items :: rest ∧ layout = .inOrder items.length ∧ inner = items ++ rest := by
  obtain ⟨⟨⟨layout, parts⟩, rest⟩, taken, same⟩ := Option.map_eq_some_iff.mp opened
  cases same
  obtain ⟨t, rfl, own⟩ := take?_eq_some taken
  cases t with
  | object members =>
    cases own
    exact .inl ⟨members, rest, rfl, congrArg Layout.named (length_inTurn ..), rfl⟩
  | array items =>
    cases own
    exact .inr ⟨_, rest, rfl, rfl, rfl⟩
  | _ => cases own

/-- **The values of trees** stand for the trees, whatever record is read from them. -/
def treePortrayal : Portrayal (List Tree) where
  Shows := TreeShows
  Names := TreeNames
  null {input rest rest' v} taken there := by
    obtain ⟨t, rfl, -, inner, depth, read⟩ := there
    cases t with
    | null =>
      cases taken
      cases depth <;> cases read <;> exact ⟨rfl, rfl⟩
    | _ => cases taken
  text {levels input rest rest' v s} taken there := by
    obtain ⟨t, rfl, -, inner, depth, read⟩ := there
    obtain ⟨_, same, own⟩ := take?_eq_some taken
    obtain ⟨rfl, rfl⟩ := List.cons.inj same
    cases t with
    | text s =>
      obtain rfl : s = some _ := own
      cases depth <;> cases read <;> exact ⟨rfl, rfl⟩
    | _ => cases own
  name {levels input rest rest' key s} taken there := by
    obtain rfl : input = _ := there
    cases taken
    exact ⟨rfl, rfl⟩
  integer {input rest rest' v k} taken whole there := by
    obtain ⟨t, rfl, -, inner, depth, read⟩ := there
    obtain ⟨_, same, own⟩ := take?_eq_some taken
    obtain ⟨rfl, rfl⟩ := List.cons.inj same
    cases t with
    | number m =>
      have integer : m.integer? = some k := own
      have read : m.value? = some v := by cases depth <;> exact read
      rw [Numeral.value?, integer] at read
      dsimp only at read
      rw [if_pos whole] at read
      exact ⟨rfl, (Option.some.inj read).symm⟩
    | _ => cases own
  skip {levels input rest rest' v} taken there := by
    obtain ⟨t, rfl, -⟩ := there
    cases taken
    rfl
  list {input inner rest v count} taken there := by
    obtain ⟨⟨items, others⟩, opened, same⟩ := Option.map_eq_some_iff.mp taken
    cases same
    obtain ⟨t, rfl, own⟩ := take?_eq_some opened
    cases t with
    | array items =>
      cases own
      exact there.items
    | _ => cases own
  named {input inner rest v count} taken there := by
    obtain ⟨members, others, rfl, same, rfl⟩ | ⟨items, others, -, other, -⟩ := layout?_tree taken
    · cases same
      exact there.members
    · cases other
  inOrder {input inner rest v count} taken there := by
    obtain ⟨members, others, -, other, -⟩ | ⟨items, others, rfl, same, rfl⟩ := layout?_tree taken
    · cases other
    · cases same
      exact there.items

end FeedIndex.Json
