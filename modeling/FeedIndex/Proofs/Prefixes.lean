import Mathlib.Tactic.Common

/-!
# All along a list

What holds after every part of a run holds at its start, and after every part of the rest. These laws take
such a statement apart at the head of the list, so that it can be proved along the run.
-/

namespace FeedIndex.Prefixes

variable {α : Type} {a : α} {rest : List α}

theorem forall_prefix_cons_iff {P : List α → Prop} :
    (∀ before, before <+: a :: rest → P before) ↔ P [] ∧ ∀ before, before <+: rest → P (a :: before) := by
  constructor
  · intro h
    refine ⟨h [] List.nil_prefix, ?_⟩
    intro before hbefore
    exact h (a :: before) (List.cons_prefix_cons.mpr ⟨rfl, hbefore⟩)
  · rintro ⟨first, others⟩ before hbefore
    rcases List.prefix_cons_iff.mp hbefore with rfl | ⟨tail, rfl, htail⟩
    · exact first
    · exact others tail htail

/-- The same of what comes next after a part of the run. -/
theorem forall_next_cons_iff {P : List α → α → Prop} :
    (∀ before last, before ++ [last] <+: a :: rest → P before last) ↔
      P [] a ∧ ∀ before last, before ++ [last] <+: rest → P (a :: before) last := by
  constructor
  · intro h
    constructor
    · exact h [] a (List.cons_prefix_cons.mpr ⟨rfl, List.nil_prefix⟩)
    · intro before last hbefore
      exact h (a :: before) last (List.cons_prefix_cons.mpr ⟨rfl, hbefore⟩)
  · rintro ⟨first, others⟩ before last hbefore
    rcases before with _ | ⟨head, tail⟩
    · obtain ⟨rfl, -⟩ := List.cons_prefix_cons.mp hbefore
      exact first
    · obtain ⟨rfl, htail⟩ := List.cons_prefix_cons.mp hbefore
      exact others tail last htail

/-- The same from the end of the run. -/
theorem forall_next_concat_iff {l : List α} {P : List α → α → Prop} :
    (∀ before last, before ++ [last] <+: l ++ [a] → P before last) ↔
      (∀ before last, before ++ [last] <+: l → P before last) ∧ P l a := by
  constructor
  · intro h
    refine ⟨fun before last hbefore => h before last (hbefore.trans (List.prefix_append l [a])), ?_⟩
    exact h l a (List.prefix_refl _)
  · rintro ⟨others, final⟩ before last hbefore
    rcases List.prefix_concat_iff.mp hbefore with same | hbefore
    · obtain ⟨rfl, rfl⟩ := List.append_singleton_inj.mp same
      exact final
    · exact others before last hbefore

theorem not_next_prefix_nil {before : List α} {last : α} : ¬ before ++ [last] <+: [] := by
  intro h
  have := h.length_le
  simp at this

end FeedIndex.Prefixes
