/-
**A cell that is overwritten by one writer after the other, each of which keeps what it found.**

The writers that have not taken their value back are *layers*, the last one first. What the cell holds
is the value of the first layer; under it lies what that layer found, and so on down to the value from
before the first of them. A writer that takes its value back puts there what it found: that is right for
the topmost layer only. Who takes all of them back, in whatever order, leaves there what the last one
that he comes to had found.
-/

import Mathlib.Tactic

universe u v

namespace UndoStack

variable {α : Type u} {Value : Type v} (written saved : α → Value)

/-- The layers of a cell with the content, over the value at the bottom. -/
def Stacked (bottom : Value) : Value → List α → Prop
  | content, [] => content = bottom
  | content, layer :: older => content = written layer ∧ Stacked bottom (saved layer) older

/-- Every layer is taken back, in the order of the list. -/
def takeBack (content : Value) (layers : List α) : Value :=
  layers.foldl (fun _ layer => saved layer) content

variable {written saved} {bottom content : Value} {layer : α} {older layers : List α}

theorem Stacked.bare (stacked : Stacked written saved bottom content []) : content = bottom := stacked

theorem Stacked.push (stacked : Stacked written saved bottom content older)
    (found : saved layer = content) :
    Stacked written saved bottom (written layer) (layer :: older) := by
  refine ⟨rfl, ?_⟩
  rw [found]
  exact stacked

/-- The topmost layer is taken back. -/
theorem Stacked.pop (stacked : Stacked written saved bottom content (layer :: older)) :
    Stacked written saved bottom (saved layer) older := stacked.2

/-- The oldest layer has found what lies at the bottom. -/
theorem Stacked.oldest (stacked : Stacked written saved bottom content layers)
    (last : layers.getLast? = some layer) : saved layer = bottom := by
  induction layers generalizing content with
  | nil => cases last
  | cons first rest ih =>
    cases rest with
    | nil =>
      obtain rfl : first = layer := by simpa using last
      exact stacked.pop.bare
    | cons second rest => exact ih stacked.pop (by rwa [List.getLast?_cons_cons] at last)

/-- What is left there depends on the last of them. -/
theorem takeBack_eq (content : Value) (layers : List α) :
    takeBack saved content layers = (layers.getLast?.map saved).getD content := by
  induction layers using List.reverseRecOn with
  | nil => rfl
  | append_singleton rest layer => simp [takeBack]

/-- **Whoever comes to the oldest layer last leaves there what lies at the bottom**, in whatever order
he comes to the others. -/
theorem Stacked.takeBack (stacked : Stacked written saved bottom content layers) {order : List α}
    (last : order.getLast? = layers.getLast?) : takeBack saved content order = bottom := by
  rw [takeBack_eq, last]
  cases found : layers.getLast? with
  | none =>
    rw [List.getLast?_eq_none_iff.mp found] at stacked
    exact stacked.bare
  | some layer => exact stacked.oldest found

end UndoStack
