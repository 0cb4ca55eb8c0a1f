/-!
# Lists by key

Values kept under text keys, each key once. Insertion order is kept where it is what an answer shows; where
an answer is in the order of the keys, values are put in their place. A look-up says all there is to know
about the content of such a list, so each change comes with a law about it.
-/

namespace FeedIndex

/-- **Keyed** — values under keys. -/
abbrev Keyed (α : Type) := List (String × α)

namespace Keyed

variable {α : Type}

/-- **get?** — the value of a key. -/
def get? (key : String) : Keyed α → Option α
  | [] => none
  | (k, a) :: rest => if k = key then some a else get? key rest

/-- **insertNew** — adds a value at the end if its key is new. -/
def insertNew (key : String) (a : α) (t : Keyed α) : Keyed α :=
  if (get? key t).isSome then t else t ++ [(key, a)]

/-- **modify** — changes the value of a key, if there is one. -/
def modify (key : String) (f : α → α) : Keyed α → Keyed α
  | [] => []
  | (k, a) :: rest => if k = key then (k, f a) :: rest else (k, a) :: modify key f rest

/-- **set** — sets the value of a key, in its place or at the end. -/
def set (key : String) (a : α) : Keyed α → Keyed α
  | [] => [(key, a)]
  | (k, b) :: rest => if k = key then (k, a) :: rest else (k, b) :: set key a rest

/-- **putSorted** — sets the value of a key in a list that is sorted by key. -/
def putSorted (key : String) (a : α) : Keyed α → Keyed α
  | [] => [(key, a)]
  | (k, b) :: rest =>
    if key < k then (key, a) :: (k, b) :: rest
    else if key = k then (key, a) :: rest
    else (k, b) :: putSorted key a rest

/-- **sorted** — the list by ascending key; of repeated keys the last value counts. -/
def sorted (t : Keyed α) : Keyed α := t.foldl (fun done entry => putSorted entry.1 entry.2 done) []

/-! ## What a look-up finds after a change -/

theorem get?_append (key : String) (s t : Keyed α) :
    get? key (s ++ t) = (get? key s).or (get? key t) := by
  induction s with
  | nil => simp [get?]
  | cons entry rest ih => by_cases h : entry.1 = key <;> simp [get?, h, ih]

theorem get?_insertNew (key other : String) (a : α) (t : Keyed α) :
    get? other (insertNew key a t) = if other = key then (get? key t).or (some a) else get? other t := by
  unfold insertNew
  split
  · rename_i h
    obtain ⟨b, hb⟩ := Option.isSome_iff_exists.mp h
    by_cases ho : other = key <;> simp [ho, hb]
  · rename_i h
    have hn : get? key t = none := by simpa using h
    by_cases ho : other = key
    · simp [get?_append, get?, ho, hn]
    · simp [get?_append, get?, ho, Ne.symm ho]

theorem get?_modify (key other : String) (f : α → α) (t : Keyed α) :
    get? other (modify key f t) = if other = key then (get? key t).map f else get? other t := by
  induction t with
  | nil => simp [modify, get?]
  | cons entry rest ih =>
    by_cases h : entry.1 = key
    · by_cases ho : other = key
      · simp [modify, get?, h, ho]
      · simp [modify, get?, h, ho, Ne.symm ho]
    · by_cases ho : other = key
      · subst ho
        simp [modify, get?, h, ih]
      · simp [modify, get?, h, ho, ih]

theorem get?_set (key other : String) (a : α) (t : Keyed α) :
    get? other (set key a t) = if other = key then some a else get? other t := by
  induction t with
  | nil =>
    by_cases ho : other = key
    · simp [set, get?, ho]
    · simp [set, get?, ho, Ne.symm ho]
  | cons entry rest ih =>
    by_cases h : entry.1 = key
    · by_cases ho : other = key
      · simp [set, get?, h, ho]
      · simp [set, get?, h, ho, Ne.symm ho]
    · by_cases ho : other = key
      · subst ho
        simp [set, get?, h, ih]
      · simp [set, get?, h, ho, ih]

end Keyed

end FeedIndex
