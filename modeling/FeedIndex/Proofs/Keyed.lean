import FeedIndex.Keyed
import Mathlib.Tactic.Common

/-!
# Tables of named values

A table of values that have a name of their own is `Named` if each stands under its name, and no name stands
twice. Changes that keep the names keep such a table as it is, and its values can be listed in any order and
put into another table without a loss.
-/

namespace FeedIndex.Keyed

variable {α β : Type}

/-! ## Look-ups and entries -/

theorem mem_of_get? {key : String} {a : α} {t : Keyed α} (h : get? key t = some a) : (key, a) ∈ t := by
  induction t with
  | nil => simp [get?] at h
  | cons entry rest ih =>
    by_cases hk : entry.1 = key
    · simp only [get?, if_pos hk, Option.some.injEq] at h
      subst hk h
      exact List.mem_cons_self
    · simp only [get?, if_neg hk] at h
      exact List.mem_cons_of_mem _ (ih h)

theorem get?_eq_none_iff {key : String} {t : Keyed α} : get? key t = none ↔ key ∉ t.map (·.1) := by
  induction t with
  | nil => simp [get?]
  | cons entry rest ih =>
    by_cases hk : entry.1 = key
    · simp [get?, hk]
    · simp [get?, hk, ih, Ne.symm hk]

/-- Where no key stands twice, a look-up finds every entry. -/
theorem get?_of_mem {t : Keyed α} (distinct : (t.map (·.1)).Nodup) {entry : String × α} (h : entry ∈ t) :
    get? entry.1 t = some entry.2 := by
  induction t with
  | nil => cases h
  | cons first rest ih =>
    rw [List.map_cons, List.nodup_cons] at distinct
    rcases List.mem_cons.mp h with rfl | hmem
    · simp [get?]
    · have other : first.1 ≠ entry.1 := by
        intro heq
        exact distinct.1 (heq ▸ List.mem_map_of_mem hmem)
      simp only [get?, if_neg other]
      exact ih distinct.2 hmem

theorem map_fst_modify (key : String) (f : α → α) (t : Keyed α) :
    (modify key f t).map (·.1) = t.map (·.1) := by
  induction t with
  | nil => rfl
  | cons entry rest ih =>
    by_cases hk : entry.1 = key
    · simp [modify, hk]
    · simp [modify, hk, ih]

theorem mem_modify {key : String} {f : α → α} {t : Keyed α} {entry : String × α}
    (h : entry ∈ modify key f t) : entry ∈ t ∨ ∃ a, (entry.1, a) ∈ t ∧ entry.2 = f a := by
  induction t with
  | nil => cases h
  | cons first rest ih =>
    by_cases hk : first.1 = key
    · simp only [modify, if_pos hk] at h
      rcases List.mem_cons.mp h with rfl | hmem
      · exact .inr ⟨first.2, List.mem_cons_self, rfl⟩
      · exact .inl (List.mem_cons_of_mem _ hmem)
    · simp only [modify, if_neg hk] at h
      rcases List.mem_cons.mp h with rfl | hmem
      · exact .inl List.mem_cons_self
      · rcases ih hmem with hold | ⟨a, hold, ha⟩
        · exact .inl (List.mem_cons_of_mem _ hold)
        · exact .inr ⟨a, List.mem_cons_of_mem _ hold, ha⟩

/-! ## What is read off the values -/

/-- What is read off the values of a table after a new one was added. -/
theorem map_get?_insertNew (read : α → β) (key other : String) (a : α) (t : Keyed α) :
    (get? other (insertNew key a t)).map read =
      if other = key then ((get? other t).map read).or (some (read a)) else (get? other t).map read := by
  rw [get?_insertNew]
  by_cases h : other = key
  · subst h
    rw [if_pos rfl, if_pos rfl]
    rcases get? other t with _ | b <;> rfl
  · rw [if_neg h, if_neg h]

/-- What is read off the values of a table after one of them was changed. -/
theorem map_get?_modify (read : α → β) {change : α → α} {f : β → β} (h : ∀ a, read (change a) = f (read a))
    (key other : String) (t : Keyed α) :
    (get? other (modify key change t)).map read =
      if other = key then ((get? other t).map read).map f else (get? other t).map read := by
  rw [get?_modify]
  by_cases ho : other = key
  · subst ho
    rw [if_pos rfl, if_pos rfl]
    rcases get? other t with _ | a
    · rfl
    · exact congrArg some (h a)
  · rw [if_neg ho, if_neg ho]

/-- A change that one does not read. -/
theorem map_get?_modify_of_keeps (read : α → β) {change : α → α} (h : ∀ a, read (change a) = read a)
    (key other : String) (t : Keyed α) :
    (get? other (modify key change t)).map read = (get? other t).map read := by
  rw [map_get?_modify read (f := id) h]
  simp

theorem modify_of_get?_eq_none {key : String} {t : Keyed α} (h : get? key t = none) (change : α → α) :
    modify key change t = t := by
  induction t with
  | nil => rfl
  | cons entry rest ih =>
    by_cases hk : entry.1 = key
    · simp [get?, hk] at h
    · simp only [get?, if_neg hk] at h
      simp [modify, hk, ih h]

/-! ## Putting entries one after the other -/

/-- Entries that agree with `f` are put into a table: at their keys it says what `f` says. -/
theorem get?_foldl_put {put : String → α → Keyed α → Keyed α}
    (hput : ∀ key other a t, get? other (put key a t) = if other = key then some a else get? other t)
    {f : String → Option α} {entries : Keyed α} (agrees : ∀ entry ∈ entries, f entry.1 = some entry.2)
    (key : String) (t : Keyed α) :
    get? key (entries.foldl (fun done entry => put entry.1 entry.2 done) t) =
      if (get? key entries).isSome then f key else get? key t := by
  induction entries generalizing t with
  | nil => simp [get?]
  | cons entry rest ih =>
    have head : f entry.1 = some entry.2 := agrees entry List.mem_cons_self
    rw [List.foldl_cons, ih fun other h => agrees other (List.mem_cons_of_mem _ h), hput]
    by_cases hk : entry.1 = key
    · subst hk
      simp [get?, head]
    · simp [get?, hk, Ne.symm hk]

theorem get?_putSorted (key other : String) (a : α) (t : Keyed α) :
    get? other (putSorted key a t) = if other = key then some a else get? other t := by
  induction t with
  | nil => simp [putSorted, get?, eq_comm]
  | cons entry rest ih =>
    simp only [putSorted]
    split
    · simp [get?, eq_comm]
    split
    · next h =>
      by_cases ho : other = key
      · simp [get?, ho]
      · simp [get?, ho, ← h, Ne.symm ho]
    · next h =>
      by_cases ho : entry.1 = other
      · subst ho
        simp [get?, Ne.symm h]
      · simp [get?, ho, ih]

/-- Sorting a table loses nothing. -/
theorem get?_sorted {t : Keyed α} (distinct : (t.map (·.1)).Nodup) (key : String) :
    get? key (sorted t) = get? key t := by
  unfold sorted
  rw [get?_foldl_put get?_putSorted (f := fun key => get? key t) fun entry h => get?_of_mem distinct h]
  rcases get? key t with _ | a
  · rfl
  · rfl

theorem mem_putSorted {key : String} {a : α} {t : Keyed α} {entry : String × α}
    (h : entry ∈ putSorted key a t) : entry = (key, a) ∨ entry ∈ t := by
  induction t with
  | nil => exact .inl (List.mem_singleton.mp h)
  | cons first rest ih =>
    simp only [putSorted] at h
    split at h
    · exact List.mem_cons.mp h
    split at h
    · rcases List.mem_cons.mp h with rfl | hmem
      · exact .inl rfl
      · exact .inr (List.mem_cons_of_mem _ hmem)
    · rcases List.mem_cons.mp h with rfl | hmem
      · exact .inr List.mem_cons_self
      · rcases ih hmem with hnew | hold
        · exact .inl hnew
        · exact .inr (List.mem_cons_of_mem _ hold)

/-- A value is put in its place. -/
theorem pairwise_putSorted {t : Keyed α} (ordered : t.Pairwise (·.1 < ·.1)) (key : String) (a : α) :
    (putSorted key a t).Pairwise (·.1 < ·.1) := by
  induction t with
  | nil => exact List.pairwise_singleton _ _
  | cons first rest ih =>
    obtain ⟨after, ordered⟩ := List.pairwise_cons.mp ordered
    rw [putSorted]
    split
    · next before =>
      refine List.pairwise_cons.mpr ⟨fun entry listed => ?_, List.pairwise_cons.mpr ⟨after, ordered⟩⟩
      rcases List.mem_cons.mp listed with rfl | later
      · exact before
      · exact String.lt_trans before (after entry later)
    split
    · next same => exact List.pairwise_cons.mpr ⟨fun entry listed => same ▸ after entry listed, ordered⟩
    · next notBefore other =>
      have behind : first.1 < key := by
        by_contra notBehind
        exact other (String.le_antisymm (String.not_lt.mp notBehind) (String.not_lt.mp notBefore))
      refine List.pairwise_cons.mpr ⟨fun entry listed => ?_, ih ordered⟩
      rcases mem_putSorted listed with rfl | old
      · exact behind
      · exact after entry old

/-- The keys of a sorted table stand in order, each once. -/
theorem pairwise_sorted (t : Keyed α) : (sorted t).Pairwise (·.1 < ·.1) := by
  have general : ∀ done : Keyed α, done.Pairwise (·.1 < ·.1) →
      (t.foldl (fun done e => putSorted e.1 e.2 done) done).Pairwise (·.1 < ·.1) := by
    induction t with
    | nil => exact fun done ordered => ordered
    | cons first rest ih => exact fun done ordered => ih _ (pairwise_putSorted ordered first.1 first.2)
  exact general [] List.Pairwise.nil

theorem mem_of_mem_sorted {t : Keyed α} {entry : String × α} (h : entry ∈ sorted t) : entry ∈ t := by
  -- for any table to start from, so that the induction goes through
  have general : ∀ done : Keyed α,
      entry ∈ t.foldl (fun done e => putSorted e.1 e.2 done) done → entry ∈ t ∨ entry ∈ done := by
    clear h
    induction t with
    | nil => exact fun done h => .inr h
    | cons first rest ih =>
      intro done h
      rcases ih _ h with hrest | hput
      · exact .inl (List.mem_cons_of_mem _ hrest)
      · rcases mem_putSorted hput with rfl | hdone
        · exact .inl List.mem_cons_self
        · exact .inr hdone
  rcases general [] h with ht | hnil
  · exact ht
  · cases hnil

/-- A key of a table is a key of the sorted table. -/
theorem get?_sorted_ne_none {t : Keyed α} {entry : String × α} (h : entry ∈ t) : get? entry.1 (sorted t) ≠ none := by
  -- a key that is found stays found, for any table to start from
  have general : ∀ done : Keyed α, entry ∈ t ∨ get? entry.1 done ≠ none →
      get? entry.1 (t.foldl (fun done e => putSorted e.1 e.2 done) done) ≠ none := by
    clear h
    induction t with
    | nil => exact fun done found => found.resolve_left (List.not_mem_nil)
    | cons first rest ih =>
      intro done found
      refine ih _ ?_
      rw [get?_putSorted]
      by_cases same : entry.1 = first.1
      · exact .inr (by rw [if_pos same]; exact nofun)
      · rw [if_neg same]
        refine found.imp_left fun listed => (List.mem_cons.mp listed).resolve_left fun own => same ?_
        rw [own]
  exact general [] (.inl h)

theorem putSorted_of_lt {key : String} {a : α} {t : Keyed α} (last : ∀ entry ∈ t, entry.1 < key) :
    putSorted key a t = t ++ [(key, a)] := by
  induction t with
  | nil => rfl
  | cons first rest ih =>
    have before : first.1 < key := last first List.mem_cons_self
    have distinct : key ≠ first.1 := fun same => String.lt_irrefl _ (same ▸ before)
    rw [putSorted, if_neg (String.lt_asymm before), if_neg distinct,
      ih fun entry listed => last entry (List.mem_cons_of_mem _ listed)]
    rfl

/-- A table in order is sorted already. -/
theorem sorted_eq_self {t : Keyed α} (ordered : t.Pairwise (·.1 < ·.1)) : sorted t = t := by
  have general : ∀ done : Keyed α, (done ++ t).Pairwise (·.1 < ·.1) →
      t.foldl (fun done e => putSorted e.1 e.2 done) done = done ++ t := by
    clear ordered
    induction t with
    | nil => simp
    | cons first rest ih =>
      intro done ordered
      have last : ∀ entry ∈ done, entry.1 < first.1 := fun entry listed =>
        (List.pairwise_append.mp ordered).2.2 entry listed first List.mem_cons_self
      rw [List.foldl_cons, putSorted_of_lt last, ih]
      · simp
      · simpa using ordered
  exact general [] ordered

/-! ## Values written in another form -/

/-- **mapValues** — the same keys with values in another form. -/
def mapValues (g : α → β) (t : Keyed α) : Keyed β := t.map fun entry => (entry.1, g entry.2)

theorem get?_mapValues (g : α → β) (key : String) (t : Keyed α) : get? key (mapValues g t) = (get? key t).map g := by
  induction t with
  | nil => rfl
  | cons entry rest ih =>
    rw [mapValues, List.map_cons, get?, get?]
    split
    · rfl
    · exact ih

theorem mapValues_insertNew (g : α → β) (key : String) (a : α) (t : Keyed α) :
    mapValues g (insertNew key a t) = insertNew key (g a) (mapValues g t) := by
  unfold insertNew
  rw [get?_mapValues, Option.isSome_map]
  split
  · rfl
  · exact List.map_append

theorem mapValues_modify (g : α → β) {change : α → α} {change' : β → β} (h : ∀ a, g (change a) = change' (g a))
    (key : String) (t : Keyed α) : mapValues g (modify key change t) = modify key change' (mapValues g t) := by
  induction t with
  | nil => rfl
  | cons entry rest ih =>
    rw [mapValues, mapValues, List.map_cons, modify, modify]
    split
    · rw [List.map_cons, h]
    · exact congrArg _ ih

theorem mapValues_set (g : α → β) (key : String) (a : α) (t : Keyed α) :
    mapValues g (set key a t) = set key (g a) (mapValues g t) := by
  induction t with
  | nil => rfl
  | cons entry rest ih =>
    rw [mapValues, mapValues, List.map_cons, set, set]
    split
    · rfl
    · exact congrArg _ ih

theorem mapValues_putSorted (g : α → β) (key : String) (a : α) (t : Keyed α) :
    mapValues g (putSorted key a t) = putSorted key (g a) (mapValues g t) := by
  induction t with
  | nil => rfl
  | cons first rest ih =>
    rw [mapValues, mapValues, List.map_cons, putSorted, putSorted]
    split
    · rfl
    split
    · rfl
    · exact congrArg _ ih

/-- Sorting goes by the keys alone. -/
theorem mapValues_sorted (g : α → β) (t : Keyed α) : mapValues g (sorted t) = sorted (mapValues g t) := by
  have general : ∀ done : Keyed α, mapValues g (t.foldl (fun done e => putSorted e.1 e.2 done) done) =
      (mapValues g t).foldl (fun done e => putSorted e.1 e.2 done) (mapValues g done) := by
    induction t with
    | nil => exact fun done => rfl
    | cons first rest ih =>
      intro done
      rw [List.foldl_cons, ih, mapValues_putSorted]
      rfl
  exact general []

/-! ## Named values -/

/-- **Named** — each value stands under its own name, and no name stands twice. -/
structure Named (name : α → String) (t : Keyed α) : Prop where
  own : ∀ entry ∈ t, name entry.2 = entry.1
  distinct : (t.map (·.1)).Nodup

variable {name : α → String} {t : Keyed α}

theorem named_nil : Named name [] := ⟨nofun, List.nodup_nil⟩

theorem Named.name_eq (h : Named name t) {key : String} {a : α} (found : get? key t = some a) :
    name a = key :=
  h.own _ (mem_of_get? found)

theorem Named.insertNew (h : Named name t) (a : α) : Named name (insertNew (name a) a t) := by
  unfold Keyed.insertNew
  split
  · exact h
  · next absent =>
    have hnone : get? (name a) t = none := by simpa using absent
    refine ⟨?_, ?_⟩
    · intro entry hmem
      rcases List.mem_append.mp hmem with hold | hnew
      · exact h.own entry hold
      · rw [List.mem_singleton.mp hnew]
    · rw [List.map_append, List.nodup_append]
      refine ⟨h.distinct, by simp, ?_⟩
      rintro key hkey other hother rfl
      have : key = name a := by simpa using hother
      exact get?_eq_none_iff.mp hnone (this ▸ hkey)

theorem Named.modify (h : Named name t) (key : String) {f : α → α} (keeps : ∀ a, name (f a) = name a) :
    Named name (modify key f t) := by
  refine ⟨?_, ?_⟩
  · intro entry hmem
    rcases mem_modify hmem with hold | ⟨a, hold, ha⟩
    · exact h.own entry hold
    · rw [ha, keeps]
      exact h.own _ hold
  · rw [map_fst_modify]
    exact h.distinct

end FeedIndex.Keyed
