/-!
# Cutting text at a separator

Two ways to take a text apart at a character: at its first occurrence, and at every occurrence. Both keep
all the other characters, which is what their laws say.
-/

namespace FeedIndex.Text

/-- **cut** — what stands before and after the first `sep`; nothing if there is none. -/
def cut (sep : Char) : List Char → Option (List Char × List Char)
  | [] => none
  | c :: cs =>
    if c = sep then some ([], cs)
    else (cut sep cs).map fun parts => (c :: parts.1, parts.2)

/-- **split** — the pieces between the occurrences of `sep`; one more than there are occurrences. -/
def split {α : Type} [DecidableEq α] (sep : α) : List α → List (List α)
  | [] => [[]]
  | c :: cs =>
    match split sep cs with
    | piece :: pieces => if c = sep then [] :: piece :: pieces else (c :: piece) :: pieces
    | [] => [[c]]

/-- **dropHead** — the rest of a text after a fixed beginning; nothing if it begins otherwise. -/
def dropHead : List Char → List Char → Option (List Char)
  | [], cs => some cs
  | _ :: _, [] => none
  | b :: bs, c :: cs => if b = c then dropHead bs cs else none

theorem cut_eq_some {sep : Char} {cs before after : List Char} (h : cut sep cs = some (before, after)) :
    cs = before ++ sep :: after ∧ sep ∉ before := by
  induction cs generalizing before with
  | nil => simp [cut] at h
  | cons c cs ih =>
    by_cases hc : c = sep
    · simp [cut, hc] at h
      obtain ⟨rfl, rfl⟩ := h
      simp [hc]
    · simp only [cut, if_neg hc, Option.map_eq_some_iff] at h
      obtain ⟨⟨b, a⟩, hcut, heq⟩ := h
      cases heq
      obtain ⟨rfl, hmem⟩ := ih hcut
      exact ⟨rfl, by simp [hmem, Ne.symm hc]⟩

theorem dropHead_eq_some {head cs rest : List Char} (h : dropHead head cs = some rest) :
    cs = head ++ rest := by
  induction head generalizing cs with
  | nil => simpa [dropHead] using h
  | cons b bs ih =>
    cases cs with
    | nil => simp [dropHead] at h
    | cons c cs =>
      by_cases hbc : b = c
      · simp only [dropHead, if_pos hbc] at h
        simp [hbc, ih h]
      · simp [dropHead, hbc] at h

end FeedIndex.Text
