/-
**One walk for the best element.**

A walk over a list keeps the best of the elements that may be chosen so far: one is better than another
if its key is lower. `select_none`: it keeps none exactly if none may be chosen; `select_some`: what it
keeps may be chosen, and none of those has a lower key; `select_first`: of those with the lowest key it is
the first. For the highest key, the order is turned around.
-/

import Mathlib.Tactic

universe u v

namespace Selection

variable {α : Type u} (eligible : α → Prop) (better : α → α → Prop) [DecidablePred eligible]
  [DecidableRel better]

/-- The element in hand is kept unless the next one may be chosen and is better. -/
def pick (best : Option α) (x : α) : Option α :=
  if eligible x then
    match best with
    | none => some x
    | some b => if better x b then some x else best
  else best

def select (elements : List α) : Option α := elements.foldl (pick eligible better) none

variable {eligible better}

theorem pick_skips {x : α} (not : ¬ eligible x) (best : Option α) : pick eligible better best x = best :=
  if_neg not

theorem pick_first {x : α} (may : eligible x) : pick eligible better none x = some x := if_pos may

theorem pick_some {x : α} (may : eligible x) (b : α) :
    pick eligible better (some b) x = if better x b then some x else some b := if_pos may

theorem select_skips {x : α} (not : ¬ eligible x) (rest : List α) :
    select eligible better (x :: rest) = select eligible better rest :=
  congrArg (rest.foldl (pick eligible better)) (pick_skips not none)

theorem select_cons {x : α} (may : eligible x) (rest : List α) :
    select eligible better (x :: rest) = rest.foldl (pick eligible better) (some x) :=
  congrArg (rest.foldl (pick eligible better)) (pick_first may)

variable {elements : List α}

/-- **None is kept** exactly if none may be chosen. -/
theorem select_none : select eligible better elements = none ↔ ∀ x ∈ elements, ¬ eligible x := by
  have walks (best : Option α) : elements.foldl (pick eligible better) best = none
      ↔ best = none ∧ ∀ x ∈ elements, ¬ eligible x := by
    induction elements generalizing best with
    | nil => exact (and_iff_left fun x member => absurd member List.not_mem_nil).symm
    | cons x rest ih =>
      rw [List.foldl_cons, ih, List.forall_mem_cons, ← and_assoc]
      refine and_congr_left fun _ => ?_
      by_cases may : eligible x
      · refine iff_of_false (fun none => ?_) fun both => both.2 may
        cases best with
        | none =>
          rw [pick_first may] at none
          exact Option.some_ne_none x none
        | some b =>
          rw [pick_some may] at none
          split_ifs at none
      · rw [pick_skips may, and_iff_left may]
  exact (walks none).trans (and_iff_right rfl)

variable {β : Type v} [LinearOrder β] {key : α → β}

/-- **What is kept** may be chosen, and has the lowest key. -/
theorem select_some (compares : ∀ x b, better x b ↔ key x < key b) {b : α}
    (kept : select eligible better elements = some b) :
    b ∈ elements ∧ eligible b ∧ ∀ x ∈ elements, eligible x → key b ≤ key x := by
  have walks (walked : List α) (best : Option α)
      (kept : walked.foldl (pick eligible better) best = some b) :
      (best = some b ∨ b ∈ walked ∧ eligible b) ∧ (∀ first ∈ best, key b ≤ key first)
        ∧ ∀ x ∈ walked, eligible x → key b ≤ key x := by
    induction walked generalizing best with
    | nil =>
      have same : best = some b := kept
      refine ⟨.inl same, fun first found => ?_, fun x member => absurd member List.not_mem_nil⟩
      rw [same] at found
      exact Option.some.inj found ▸ le_rfl
    | cons x rest ih =>
      obtain ⟨origin, least, others⟩ := ih _ kept
      have later (inside : b ∈ rest ∧ eligible b) : b ∈ x :: rest ∧ eligible b :=
        ⟨List.mem_cons_of_mem x inside.1, inside.2⟩
      by_cases may : eligible x
      · have taken (same : some x = some b) : b ∈ x :: rest ∧ eligible b :=
          Option.some.inj same ▸ ⟨List.mem_cons_self, may⟩
        cases best with
        | none =>
          rw [pick_first may] at origin least
          exact ⟨.inr (origin.elim taken later), fun first none => absurd none.symm
            (Option.some_ne_none first), List.forall_mem_cons.mpr ⟨fun _ => least x rfl, others⟩⟩
        | some old =>
          rw [pick_some may] at origin least
          by_cases more : better x old
          · rw [if_pos more] at origin least
            have lower := (compares x old).mp more
            refine ⟨.inr (origin.elim taken later), fun first same => ?_,
              List.forall_mem_cons.mpr ⟨fun _ => least x rfl, others⟩⟩
            exact Option.some.inj same ▸ le_trans (least x rfl) (le_of_lt lower)
          · rw [if_neg more] at origin least
            have higher := not_lt.mp (mt (compares x old).mpr more)
            exact ⟨origin.imp_right later, least,
              List.forall_mem_cons.mpr ⟨fun _ => le_trans (least old rfl) higher, others⟩⟩
      · rw [pick_skips may] at origin least
        exact ⟨origin.imp_right later, least,
          List.forall_mem_cons.mpr ⟨fun allowed => absurd allowed may, others⟩⟩
  obtain ⟨origin, -, others⟩ := walks elements none kept
  obtain ⟨member, chosen⟩ := origin.resolve_left (Option.some_ne_none b).symm
  exact ⟨member, chosen, others⟩

/-- The only element with the lowest key is kept. -/
theorem select_unique (compares : ∀ x b, better x b ↔ key x < key b) {b : α}
    (member : b ∈ elements) (may : eligible b) (least : ∀ x ∈ elements, eligible x → key b ≤ key x)
    (only : ∀ x ∈ elements, key x = key b → x = b) : select eligible better elements = some b := by
  cases kept : select eligible better elements with
  | none => exact absurd may (select_none.mp kept b member)
  | some x =>
    obtain ⟨inside, allowed, lowest⟩ := select_some compares kept
    rw [only x inside (le_antisymm (lowest b member may) (least x inside allowed))]

/-- What is kept stays if nothing that may be chosen is better. -/
theorem keeps {b : α} (no : ∀ x ∈ elements, eligible x → ¬ better x b) :
    elements.foldl (pick eligible better) (some b) = some b := by
  induction elements with
  | nil => rfl
  | cons x rest ih =>
    obtain ⟨here, later⟩ := List.forall_mem_cons.mp no
    rw [List.foldl_cons]
    by_cases may : eligible x
    · rw [pick_some may, if_neg (here may)]
      exact ih later
    · rw [pick_skips may]
      exact ih later

section Compares

variable (compares : ∀ x b, better x b ↔ key x < key b)

include compares

/-- **Of equal elements the first is kept.** -/
theorem select_first {front rest : List α} {b : α}
    (may : eligible b) (worse : ∀ x ∈ front, eligible x → key b < key x)
    (least : ∀ x ∈ rest, eligible x → key b ≤ key x) :
    select eligible better (front ++ b :: rest) = some b := by
  have kept : rest.foldl (pick eligible better) (some b) = some b :=
    keeps fun x inside allowed => mt (compares x b).mp (not_lt.mpr (least x inside allowed))
  unfold select
  rw [List.foldl_append, List.foldl_cons]
  cases found : front.foldl (pick eligible better) none with
  | none => rw [pick_first may, kept]
  | some x =>
    obtain ⟨inside, allowed, -⟩ := select_some compares found
    rw [pick_some may, if_pos ((compares b x).mpr (worse x inside allowed)), kept]

/-- Before the one that is kept, all that may be chosen have higher keys. -/
theorem select_before {b : α} (kept : select eligible better elements = some b) :
    ∃ front rest, elements = front ++ b :: rest ∧ ∀ x ∈ front, eligible x → key b < key x := by
  induction elements using List.reverseRecOn with
  | nil => cases kept
  | append_singleton init last ih =>
    have walked : pick eligible better (select eligible better init) last = some b := by
      unfold select at kept ⊢
      rwa [List.foldl_append] at kept
    have earlier (found : select eligible better init = some b) :
        ∃ front rest, init ++ [last] = front ++ b :: rest
          ∧ ∀ x ∈ front, eligible x → key b < key x := by
      obtain ⟨front, rest, parts, worse⟩ := ih found
      exact ⟨front, rest ++ [last], by rw [parts, List.append_assoc, List.cons_append], worse⟩
    by_cases may : eligible last
    · cases found : select eligible better init with
      | none =>
        rw [found, pick_first may] at walked
        cases walked
        exact ⟨init, [], rfl, fun x inside allowed => absurd allowed (select_none.mp found x inside)⟩
      | some best =>
        rw [found, pick_some may] at walked
        split_ifs at walked with more
        · cases walked
          refine ⟨init, [], rfl, fun x inside allowed => ?_⟩
          exact ((compares _ _).mp more).trans_le ((select_some compares found).2.2 x inside allowed)
        · cases walked
          exact earlier found
    · rw [pick_skips may] at walked
      exact earlier walked

/-- An element in hand goes if a better one is kept without it. -/
theorem walks_better {b x : α}
    (may : eligible b) (kept : select eligible better elements = some x) (lower : key x < key b) :
    elements.foldl (pick eligible better) (some b) = some x := by
  obtain ⟨front, rest, parts, worse⟩ := select_before compares kept
  obtain ⟨-, allowed, least⟩ := select_some compares kept
  have whole : select eligible better ((b :: front) ++ x :: rest) = some x := by
    refine select_first compares allowed (List.forall_mem_cons.mpr ⟨fun _ => lower, worse⟩) ?_
    intro y inside
    refine least y ?_
    rw [parts]
    exact List.mem_append_right _ (List.mem_cons_of_mem x inside)
  rwa [List.cons_append, ← parts, select_cons may] at whole

end Compares

/-- The walk over the images of elements. -/
theorem select_map {γ : Type*} {f : γ → α} {eligible' : γ → Prop} {better' : γ → γ → Prop}
    [DecidablePred eligible'] [DecidableRel better'] (may : ∀ x, eligible (f x) ↔ eligible' x)
    (compares : ∀ x b, better (f x) (f b) ↔ better' x b) (elements : List γ) :
    select eligible better (elements.map f) = (select eligible' better' elements).map f := by
  have walks (best : Option γ) : (elements.map f).foldl (pick eligible better) (best.map f)
      = (elements.foldl (pick eligible' better') best).map f := by
    induction elements generalizing best with
    | nil => rfl
    | cons x rest ih =>
      rw [List.map_cons, List.foldl_cons, List.foldl_cons, ← ih]
      congr 1
      unfold pick
      simp only [may]
      split_ifs
      · cases best with
        | none => rfl
        | some b =>
          simp only [Option.map_some, compares]
          split_ifs <;> rfl
      · rfl
  exact walks none

end Selection
