/-
**Histories: what has been opened and not closed since.**

A history is a list of what has happened, the latest at its end. `Open` says that something in it opens a
matter, which may depend on what was before, and that nothing after it closes the matter.

* `split_last`: a place in a history with one more entry is a place in the old one, or the new entry;
* `open_append`: a matter is open if the new entry opens it, or if it was open and is not closed.
-/

import Mathlib.Tactic

universe u

namespace History

variable {α : Type u} {opens : List α → α → Prop} {closes : α → Prop} {history before after : List α}
  {last entry : α}

theorem split_last (parts : history ++ [last] = before ++ entry :: after) :
    (after = [] ∧ before = history ∧ entry = last)
      ∨ ∃ rest, after = rest ++ [last] ∧ history = before ++ entry :: rest := by
  rcases List.eq_nil_or_concat after with rfl | ⟨rest, final, rfl⟩
  · obtain ⟨same, one⟩ := List.append_inj' parts rfl
    exact .inl ⟨rfl, same.symm, (List.cons.inj one).1.symm⟩
  · rw [List.concat_eq_append, ← List.cons_append, ← List.append_assoc] at parts
    obtain ⟨same, one⟩ := List.append_inj' parts rfl
    rw [List.concat_eq_append, (List.cons.inj one).1]
    exact .inr ⟨rest, rfl, same⟩

/-- Something opens, and nothing since closes. -/
def Open (opens : List α → α → Prop) (closes : α → Prop) (history : List α) : Prop :=
  ∃ before entry after, history = before ++ entry :: after ∧ opens before entry
    ∧ ∀ later ∈ after, ¬ closes later

theorem not_open_nil : ¬ Open opens closes [] := by
  rintro ⟨before, entry, after, parts, -⟩
  simp at parts

theorem open_append :
    Open opens closes (history ++ [last]) ↔ opens history last ∨ (Open opens closes history ∧ ¬ closes last) := by
  constructor
  · rintro ⟨before, entry, after, parts, opened, unclosed⟩
    rcases split_last parts with ⟨-, rfl, rfl⟩ | ⟨rest, rfl, same⟩
    · exact .inl opened
    · refine .inr ⟨⟨before, entry, rest, same, opened, fun later inside => ?_⟩, ?_⟩
      · exact unclosed later (List.mem_append_left _ inside)
      · exact unclosed last (List.mem_append_right _ List.mem_cons_self)
  · rintro (opened | ⟨⟨before, entry, after, rfl, opened, unclosed⟩, stays⟩)
    · exact ⟨history, last, [], rfl, opened, fun later inside => absurd inside List.not_mem_nil⟩
    · refine ⟨before, entry, after ++ [last], by simp, opened, fun later inside => ?_⟩
      rcases List.mem_append.mp inside with earlier | now
      · exact unclosed later earlier
      · rw [List.mem_singleton.mp now]
        exact stays

end History
