/-
**Alarms in a bounded log.**

The entries of the log have keys and are open or closed. A check of a key either raises an entry,
which does nothing while the key has an open one, or closes every open entry of its key. The log has
a cap: an entry that does not fit drops the oldest one, whether open or closed. A pass is a list of
checks, and two checks of it may be of one key.

* `Consistent`: the checks of a pass say one thing of each key;
* `grown`: without a cap, a consistent pass closes some entries and appends the missing ones;
* `kept_iff`: a pass with a cap drops no open entry whose check still raises if and only if there is
  room for the missing entries before the first such entry would go;
* `unresolved_iff`, `run_again`: then the open entries afterwards are determined by what is checked,
  not by the order of the checks, and a second pass does nothing.
-/

import Mathlib.Data.List.Nodup
import Mathlib.Data.List.Dedup
import Mathlib.Data.List.TakeWhile
import Mathlib.Tactic

set_option linter.unusedSectionVars false

namespace Alarms

/-- What a log reads and writes of its entries. -/
structure Entries (α κ : Type*) where
  key : α → κ
  resolved : α → Bool
  resolve : α → α
  key_resolve : ∀ a, key (resolve a) = key a
  resolved_resolve : ∀ a, resolved (resolve a) = true

inductive Check (α κ : Type*) where
  | raise (a : α)
  | resolve (k : κ)
deriving DecidableEq

/-- What a check did to the log. -/
inductive Event (α : Type*) where
  | raised (a : α)
  | resolved (a : α)
  | dropped (a : α)
deriving DecidableEq, Repr

variable {α κ : Type*} [DecidableEq α] [DecidableEq κ]

namespace Entries

variable (E : Entries α κ) (cap : ℕ)

/-- The entry is open, and of the key. -/
def openFor (k : κ) (a : α) : Bool := E.key a = k && !E.resolved a

def active (k : κ) (log : List α) : Bool := log.any (E.openFor k)

def close (k : κ) (a : α) : α := if E.openFor k a then E.resolve a else a

/-- How many entries go when one more comes. -/
def excess (log : List α) : ℕ := if cap < log.length + 1 then 1 else 0

def step (log : List α) : Check α κ → List α × List (Event α)
  | .raise a =>
    if E.active (E.key a) log then (log, [])
    else ((log ++ [a]).drop (excess cap log),
      .raised a :: ((log ++ [a]).take (excess cap log)).map .dropped)
  | .resolve k => (log.map (E.close k), (log.filter (E.openFor k)).map .resolved)

def run (log : List α) : List (Check α κ) → List α × List (Event α)
  | [] => (log, [])
  | c :: rest =>
    let here := E.step cap log c
    let later := run here.1 rest
    (later.1, here.2 ++ later.2)

/-- A check raises entries of this key. -/
def due (checks : List (Check α κ)) (k : κ) : Bool :=
  checks.any fun
    | .raise a => E.key a = k
    | .resolve _ => false

/-- An open entry whose check still raises. -/
def holding (checks : List (Check α κ)) (a : α) : Bool := !E.resolved a && E.due checks (E.key a)

/-- The entries that a pass raises and the log does not have. -/
def missing (checks : List (Check α κ)) (log : List α) : List α :=
  (checks.filterMap fun
    | .raise a => if E.active (E.key a) log then none else some a
    | .resolve _ => none).dedup

/-- The checks say one thing of each key. -/
structure Consistent (checks : List (Check α κ)) : Prop where
  unresolved : ∀ a, .raise a ∈ checks → E.resolved a = false
  one : ∀ a b, .raise a ∈ checks → .raise b ∈ checks → E.key a = E.key b → a = b
  apart : ∀ a k, .raise a ∈ checks → .resolve k ∈ checks → E.key a ≠ k

/-- No open entry goes whose check still raises. -/
def Kept (checks : List (Check α κ)) (log : List α) : Prop :=
  ∀ a, .dropped a ∈ (E.run cap log checks).2 → E.holding checks a = false

/-- There is room for the missing entries in front of the first entry that has to stay. -/
def Room (checks : List (Check α κ)) (log : List α) : Prop :=
  (E.missing checks log).length
    ≤ cap - log.length + (log.takeWhile fun a => !E.holding checks a).length

/-! ### Keys and closing -/

variable {E cap} {a b : α} {k : κ} {log : List α} {checks : List (Check α κ)}

theorem openFor_iff : E.openFor k a = true ↔ E.key a = k ∧ E.resolved a = false := by
  simp [openFor]

theorem active_iff : E.active k log = true ↔ ∃ a ∈ log, E.key a = k ∧ E.resolved a = false := by
  simp only [active, List.any_eq_true, openFor_iff]

theorem active_eq_false : E.active k log = false ↔ ∀ a ∈ log, E.key a = k → E.resolved a = true := by
  rw [← Bool.not_eq_true, active_iff]
  push Not
  simp only [ne_eq, Bool.not_eq_false]

theorem active_append {more : List α} :
    E.active k (log ++ more) = (E.active k log || E.active k more) := List.any_append

@[simp] theorem key_close : E.key (E.close k a) = E.key a := by
  unfold close
  split
  · exact E.key_resolve a
  · rfl

theorem close_of_ne (other : E.key a ≠ k) : E.close k a = a := by
  simp [close, openFor, other]

theorem close_of_resolved (closed : E.resolved a = true) : E.close k a = a := by
  simp [close, openFor, closed]

theorem resolved_close : E.resolved (E.close k a) = (E.resolved a || decide (E.key a = k)) := by
  unfold close openFor
  by_cases same : E.key a = k <;> cases closed : E.resolved a <;>
    simp [same, closed, E.resolved_resolve]

theorem due_iff : E.due checks k = true ↔ ∃ a, .raise a ∈ checks ∧ E.key a = k := by
  simp only [due, List.any_eq_true]
  constructor
  · rintro ⟨c, inside, here⟩
    cases c with
    | raise a => exact ⟨a, inside, of_decide_eq_true here⟩
    | resolve k => cases here
  · rintro ⟨a, inside, here⟩
    exact ⟨.raise a, inside, decide_eq_true here⟩

theorem holding_iff : E.holding checks a = true ↔ E.resolved a = false ∧ E.due checks (E.key a) = true := by
  simp [holding]

theorem holding_close (harmless : E.holding checks a = false) : E.holding checks (E.close k a) = false := by
  unfold holding at harmless ⊢
  rw [resolved_close, key_close]
  cases closed : E.resolved a
  · rw [closed] at harmless
    simp only [Bool.not_false, Bool.true_and] at harmless
    simp [harmless]
  · simp

theorem mem_missing : a ∈ E.missing checks log ↔ .raise a ∈ checks ∧ E.active (E.key a) log = false := by
  simp only [missing, List.mem_dedup, List.mem_filterMap]
  constructor
  · rintro ⟨c, inside, here⟩
    cases c with
    | raise b =>
      simp only at here
      split at here
      · cases here
      · rename_i quiet
        cases here
        exact ⟨inside, by simpa using quiet⟩
    | resolve k => cases here
  · rintro ⟨inside, quiet⟩
    exact ⟨.raise a, inside, by simp [quiet]⟩

theorem missing_nodup : (E.missing checks log).Nodup := List.nodup_dedup _

theorem Consistent.mono {fewer : List (Check α κ)} (consistent : E.Consistent checks)
    (sub : fewer ⊆ checks) : E.Consistent fewer where
  unresolved a inside := consistent.unresolved a (sub inside)
  one a b first second := consistent.one a b (sub first) (sub second)
  apart a k first second := consistent.apart a k (sub first) (sub second)

theorem run_append (log : List α) (first second : List (Check α κ)) :
    E.run cap log (first ++ second)
      = ((E.run cap (E.run cap log first).1 second).1,
        (E.run cap log first).2 ++ (E.run cap (E.run cap log first).1 second).2) := by
  induction first generalizing log with
  | nil => rfl
  | cons c rest ih => simp only [List.cons_append, run, ih, List.append_assoc]

theorem run_singleton (log : List α) (c : Check α κ) : E.run cap log [c] = E.step cap log c := by
  simp [run]

/-- A pass whose checks do nothing does nothing. -/
theorem run_quiet (quiet : ∀ c ∈ checks, E.step cap log c = (log, [])) :
    E.run cap log checks = (log, []) := by
  induction checks with
  | nil => rfl
  | cons c rest ih =>
    rw [List.forall_mem_cons] at quiet
    simp only [run, quiet.1, ih quiet.2, List.append_nil]

/-! ### Without a cap -/

variable (E) in
/-- A check of a log that never drops. -/
def grow (log : List α) : Check α κ → List α
  | .raise a => if E.active (E.key a) log then log else log ++ [a]
  | .resolve k => log.map (E.close k)

variable (E) in
/-- What a pass makes of an entry that is there before. -/
def settle (checks : List (Check α κ)) (a : α) : α :=
  if .resolve (E.key a) ∈ checks then E.close (E.key a) a else a

@[simp] theorem key_settle : E.key (E.settle checks a) = E.key a := by
  unfold settle
  split
  · exact key_close
  · rfl

theorem settle_of_due (consistent : E.Consistent checks) (raises : .raise b ∈ checks)
    (same : E.key b = E.key a) : E.settle checks a = a :=
  if_neg fun closes => consistent.apart b _ raises closes same

theorem resolved_settle (closes : .resolve (E.key a) ∈ checks) : E.resolved (E.settle checks a) = true := by
  rw [settle, if_pos closes, resolved_close]
  simp

theorem holding_settle {all : List (Check α κ)} (harmless : E.holding all a = false) :
    E.holding all (E.settle checks a) = false := by
  unfold settle
  split
  · exact holding_close harmless
  · exact harmless

theorem close_settle : E.close k (E.settle checks a) = E.settle (checks ++ [.resolve k]) a := by
  by_cases before : .resolve (E.key a) ∈ checks
  · rw [close_of_resolved (resolved_settle before), settle, settle, if_pos before,
      if_pos (List.mem_append_left _ before)]
  · rw [settle, if_neg before, settle]
    by_cases same : E.key a = k
    · rw [if_pos (by simp [same]), same]
    · rw [if_neg (by simp [before, same]), close_of_ne same]

theorem settle_nil : E.settle [] = id := by
  funext a
  simp [settle]

theorem settle_append_raise : E.settle (checks ++ [.raise b]) = E.settle checks := by
  funext a
  simp [settle]

theorem map_close_of_apart {entries : List α} (apart : ∀ a ∈ entries, E.key a ≠ k) :
    entries.map (E.close k) = entries := by
  calc entries.map (E.close k) = entries.map id :=
        List.map_congr_left fun a inside => close_of_ne (apart a inside)
    _ = entries := List.map_id entries

/-- A key that a pass raises is active after closing other keys if and only if it was before. -/
theorem active_map_settle (consistent : E.Consistent checks) {fewer : List (Check α κ)}
    (sub : fewer ⊆ checks) (raises : .raise a ∈ checks) :
    E.active (E.key a) (log.map (E.settle fewer)) = E.active (E.key a) log := by
  have same : ∀ b, E.openFor (E.key a) (E.settle fewer b) = E.openFor (E.key a) b := by
    intro b
    by_cases equal : E.key a = E.key b
    · rw [settle, if_neg fun closes => consistent.apart a _ raises (sub closes) equal]
    · simp [openFor, Ne.symm equal]
  simp only [active, List.any_map, Function.comp_def, same]

/-- **Without a cap**: what was there stays, settled, and the missing entries come after it. -/
theorem grown (consistent : E.Consistent checks) (log : List α) :
    ∃ new, checks.foldl E.grow log = log.map (E.settle checks) ++ new ∧ new.Nodup
      ∧ ∀ a, a ∈ new ↔ .raise a ∈ checks ∧ E.active (E.key a) log = false := by
  induction checks using List.reverseRecOn with
  | nil => exact ⟨[], by simp [settle_nil], List.nodup_nil, by simp⟩
  | append_singleton done c ih =>
    have sub : done ⊆ done ++ [c] := List.subset_append_left _ _
    obtain ⟨new, shape, distinct, mem⟩ := ih (consistent.mono sub)
    rw [List.foldl_append, shape, List.foldl_cons, List.foldl_nil]
    cases c with
    | resolve k =>
      refine ⟨new, ?_, distinct, fun a => by simp [mem a]⟩
      rw [grow, List.map_append, List.map_map, map_close_of_apart fun a inside =>
        consistent.apart a k (sub ((mem a).mp inside).1) (by simp)]
      congr 1
      exact List.map_congr_left fun a _ => close_settle
    | raise a =>
      have here : .raise a ∈ done ++ [Check.raise (κ := κ) a] := by simp
      have before := @active_map_settle _ _ _ _ E a log _ consistent _ sub here
      rw [settle_append_raise, grow, active_append, before]
      split
      · rename_i found
        refine ⟨new, rfl, distinct, fun b => ?_⟩
        rw [mem b, List.mem_append, List.mem_singleton]
        refine ⟨fun raised => ⟨.inl raised.1, raised.2⟩, fun raised => ⟨?_, raised.2⟩⟩
        rcases raised.1 with old | new'
        · exact old
        · cases new'
          rw [raised.2, Bool.false_or, active_iff] at found
          obtain ⟨b, inside, same, -⟩ := found
          have known := ((mem b).mp inside).1
          rwa [consistent.one b a (sub known) here same] at known
      · rename_i quiet
        rw [Bool.not_eq_true, Bool.or_eq_false_iff] at quiet
        have absent : a ∉ new := fun inside => by
          have closed := active_eq_false.mp quiet.2 a inside rfl
          rw [consistent.unresolved a here] at closed
          cases closed
        refine ⟨new ++ [a], by rw [List.append_assoc], ?_, fun b => ?_⟩
        · exact List.nodup_append'.mpr ⟨distinct, List.nodup_singleton a, List.disjoint_singleton.mpr absent⟩
        · simp only [List.mem_append, mem b, List.mem_singleton, Check.raise.injEq]
          constructor
          · rintro (old | rfl)
            · exact ⟨.inl old.1, old.2⟩
            · exact ⟨.inr rfl, quiet.1⟩
          · rintro ⟨old | rfl, free⟩
            · exact .inl ⟨old, free⟩
            · exact .inr rfl

/-! ### With a cap -/

/-- How many entries a log that has grown without a cap has too many. -/
def surplus (cap : ℕ) (log history : List α) : ℕ :=
  history.length - log.length - (cap - log.length)

variable (E cap) in
/-- The log is what a log without a cap would be, less its oldest entries, and none of them had to
stay. -/
structure Trails (all : List (Check α κ)) (log history now : List α) : Prop where
  longer : log.length ≤ history.length
  now_eq : now = history.drop (surplus cap log history)
  harmless : ∀ a ∈ history.take (surplus cap log history), E.holding all a = false

variable {all : List (Check α κ)} {history now : List α}

theorem surplus_le (cap : ℕ) (log history : List α) : surplus cap log history ≤ history.length := by
  unfold surplus
  omega

section Trails

variable (trails : E.Trails cap all log history now)

include trails

/-- An open entry of a key that the pass raises has not gone. -/
theorem Trails.mem_now (inside : a ∈ history) (holds : E.holding all a = true) : a ∈ now := by
  rw [← List.take_append_drop (surplus cap log history) history, List.mem_append] at inside
  rcases inside with gone | stays
  · rw [trails.harmless a gone] at holds
    cases holds
  · rwa [trails.now_eq]

theorem Trails.active (raises : .raise a ∈ all) : E.active (E.key a) now = E.active (E.key a) history := by
  rw [Bool.eq_iff_iff, active_iff, active_iff]
  constructor
  · rintro ⟨b, inside, here⟩
    rw [trails.now_eq] at inside
    exact ⟨b, List.mem_of_mem_drop inside, here⟩
  · rintro ⟨b, inside, same, unresolved⟩
    have due : E.due all (E.key b) = true := due_iff.mpr ⟨a, raises, same.symm⟩
    exact ⟨b, trails.mem_now inside (holding_iff.mpr ⟨unresolved, due⟩), same, unresolved⟩

/-- One more entry, and whether the oldest one goes. -/
theorem Trails.surplus_succ (a : α) :
    surplus cap log (history ++ [a]) = surplus cap log history + excess cap now := by
  have longer := trails.longer
  rw [trails.now_eq]
  unfold surplus excess
  rw [List.length_append, List.length_singleton, List.length_drop]
  split <;> omega

theorem Trails.take_succ (a : α) :
    (history ++ [a]).take (surplus cap log (history ++ [a]))
      = history.take (surplus cap log history) ++ (now ++ [a]).take (excess cap now) := by
  rw [trails.surplus_succ, List.take_add, List.take_append_of_le_length (surplus_le cap log history),
    List.drop_append_of_le_length (surplus_le cap log history), ← trails.now_eq]

theorem Trails.drop_succ (a : α) :
    (history ++ [a]).drop (surplus cap log (history ++ [a])) = (now ++ [a]).drop (excess cap now) := by
  rw [trails.surplus_succ, ← List.drop_drop,
    List.drop_append_of_le_length (surplus_le cap log history), ← trails.now_eq]

end Trails

/-- What a step drops is the end of what is too much. -/
theorem Trails.dropped {c : Check α κ} (trails : E.Trails cap all log history now) (inside : c ∈ all)
    (gone : .dropped a ∈ (E.step cap now c).2) :
    a ∈ (E.grow history c).take (surplus cap log (E.grow history c)) := by
  cases c with
  | resolve k => simp [Entries.step] at gone
  | raise b =>
    rw [Entries.step, trails.active inside] at gone
    rw [grow]
    split at gone
    · cases gone
    · rename_i quiet
      rw [if_neg quiet, trails.take_succ]
      refine List.mem_append_right _ ?_
      simp only [List.mem_cons, reduceCtorEq, false_or, List.mem_map, Event.dropped.injEq] at gone
      obtain ⟨b', inside', rfl⟩ := gone
      exact inside'

/-- **A step**: if nothing that had to stay is dropped, the log still trails. -/
theorem Trails.step {c : Check α κ} (trails : E.Trails cap all log history now) (inside : c ∈ all)
    (kept : ∀ a, .dropped a ∈ (E.step cap now c).2 → E.holding all a = false) :
    E.Trails cap all log (E.grow history c) (E.step cap now c).1 := by
  cases c with
  | resolve k =>
    have same : surplus cap log (history.map (E.close k)) = surplus cap log history := by
      simp [surplus]
    refine ⟨by simpa [grow] using trails.longer, ?_, ?_⟩
    · rw [grow, same, ← List.map_drop, ← trails.now_eq]
      rfl
    · rw [grow, same, ← List.map_take]
      intro a gone
      obtain ⟨b, before, rfl⟩ := List.mem_map.mp gone
      exact holding_close (trails.harmless b before)
  | raise a =>
    rw [Entries.step, trails.active inside] at kept
    rw [Entries.step, grow, trails.active inside]
    split at kept
    · rename_i found
      rwa [if_pos found, if_pos found]
    · rename_i quiet
      rw [if_neg quiet, if_neg quiet]
      refine ⟨by simpa using Nat.le_succ_of_le trails.longer, (trails.drop_succ a).symm, ?_⟩
      rw [trails.take_succ]
      intro b gone
      rcases List.mem_append.mp gone with before | dropped
      · exact trails.harmless b before
      · exact kept b (List.mem_cons_of_mem _ (List.mem_map_of_mem dropped))

/-- What a pass without a cap leaves is as long as the log and the missing entries. -/
theorem length_grown (consistent : E.Consistent checks) (log : List α) :
    (checks.foldl E.grow log).length = log.length + (E.missing checks log).length := by
  obtain ⟨new, shape, distinct, mem⟩ := grown consistent log
  have same : new.Perm (E.missing checks log) :=
    (List.perm_ext_iff_of_nodup distinct missing_nodup).mpr fun a => by rw [mem, mem_missing]
  rw [shape, List.length_append, List.length_map, same.length_eq]

theorem surplus_grown (consistent : E.Consistent checks) (log : List α) :
    surplus cap log (checks.foldl E.grow log) = (E.missing checks log).length - (cap - log.length) := by
  rw [surplus, length_grown consistent, Nat.add_sub_cancel_left]

theorem trails_start : E.Trails cap all log log log where
  longer := le_rfl
  now_eq := by simp [surplus]
  harmless := by simp [surplus]

/-- **A pass** that drops nothing that had to stay. -/
theorem trails_run (sub : checks ⊆ all)
    (kept : ∀ a, .dropped a ∈ (E.run cap log checks).2 → E.holding all a = false) :
    E.Trails cap all log (checks.foldl E.grow log) (E.run cap log checks).1 := by
  induction checks using List.reverseRecOn with
  | nil => exact trails_start
  | append_singleton done c ih =>
    simp only [run_append, run_singleton, List.mem_append] at kept
    rw [run_append, run_singleton, List.foldl_append, List.foldl_cons, List.foldl_nil]
    exact (ih (fun d inside => sub (List.mem_append_left _ inside)) fun a gone =>
      kept a (.inl gone)).step (sub (by simp)) fun a gone => kept a (.inr gone)

variable (E) in
/-- The entries in front of the first one that has to stay. -/
def front (all : List (Check α κ)) (log : List α) : List α :=
  log.takeWhile fun a => !E.holding all a

theorem front_le : (E.front all log).length ≤ log.length := (List.takeWhile_prefix _).length_le

variable (E) in
theorem front_append (all : List (Check α κ)) (log : List α) :
    E.front all log ++ log.dropWhile (fun a => !E.holding all a) = log :=
  List.takeWhile_append_dropWhile

/-- They are harmless, whatever a pass makes of them. -/
theorem harmless_front {n : ℕ} (short : n ≤ (E.front all log).length) {new : List α} :
    ∀ a ∈ (log.map (E.settle checks) ++ new).take n, E.holding all a = false := by
  intro a inside
  rw [List.take_append_of_le_length (by simpa using short.trans front_le), ← List.map_take] at inside
  obtain ⟨b, before, rfl⟩ := List.mem_map.mp inside
  have first : b ∈ E.front all log := by
    rw [← front_append E all log, List.take_append_of_le_length short] at before
    exact List.mem_of_mem_take before
  have harmless := List.mem_takeWhile_imp first
  exact holding_settle (by simpa using harmless)

/-- The next one has to stay. -/
theorem holding_after_front (consistent : E.Consistent checks) {new : List α}
    (raised : ∀ a ∈ new, .raise a ∈ checks)
    (longer : (E.front checks log).length < (log.map (E.settle checks) ++ new).length) :
    ∃ a ∈ (log.map (E.settle checks) ++ new).take ((E.front checks log).length + 1),
      E.holding checks a = true := by
  have whole := front_append E checks log
  cases rest : log.dropWhile fun a => !E.holding checks a with
  | nil =>
    rw [rest, List.append_nil] at whole
    rw [whole] at longer ⊢
    cases new with
    | nil => simp at longer
    | cons a more =>
      have raises := raised a (List.mem_cons_self)
      refine ⟨a, ?_, holding_iff.mpr ⟨consistent.unresolved a raises, due_iff.mpr ⟨a, raises, rfl⟩⟩⟩
      rw [List.take_append]
      simp
  | cons b more =>
    have stays : E.holding checks b = true := by
      have head := List.head_dropWhile_not (fun a => !E.holding checks a) (l := log) (by simp [rest])
      simpa [rest] using head
    obtain ⟨c, raises, same⟩ := due_iff.mp (holding_iff.mp stays).2
    refine ⟨b, ?_, stays⟩
    rw [← settle_of_due consistent raises same]
    rw [rest] at whole
    conv in log.map _ => rw [← whole]
    simp [List.take_append]

theorem missing_mono {fewer : List (Check α κ)} (sub : fewer ⊆ checks) :
    (E.missing fewer log).length ≤ (E.missing checks log).length := by
  refine (List.subperm_of_subset missing_nodup fun a inside => ?_).length_le
  rw [mem_missing] at inside ⊢
  exact ⟨sub inside.1, inside.2⟩

theorem room_iff : E.Room cap checks log
    ↔ (E.missing checks log).length - (cap - log.length) ≤ (E.front checks log).length := by
  rw [Room, Nat.add_comm, ← Nat.sub_le_iff_le_add]
  rfl

/-- Where there is room, every prefix of the pass keeps what has to stay. -/
theorem kept_prefix (consistent : E.Consistent checks) (room : E.Room cap checks log)
    {done rest : List (Check α κ)} (split : done ++ rest = checks) :
    ∀ a, .dropped a ∈ (E.run cap log done).2 → E.holding checks a = false := by
  induction done using List.reverseRecOn generalizing rest with
  | nil => exact fun a gone => by cases gone
  | append_singleton done c ih =>
    have sub : done ++ [c] ⊆ checks := split ▸ List.subset_append_left _ _
    have before := @ih (c :: rest) (by simpa using split)
    have trails := trails_run (fun d inside => sub (List.mem_append_left _ inside)) before
    intro a gone
    rw [run_append, run_singleton, List.mem_append] at gone
    rcases gone with earlier | now
    · exact before a earlier
    · have late := trails.dropped (sub (by simp)) now
      have same : (done ++ [c]).foldl E.grow log = E.grow (done.foldl E.grow log) c := by simp
      rw [← same] at late
      have short : surplus cap log ((done ++ [c]).foldl E.grow log) ≤ (E.front checks log).length := by
        calc surplus cap log ((done ++ [c]).foldl E.grow log)
            = (E.missing (done ++ [c]) log).length - (cap - log.length) :=
              surplus_grown (consistent.mono sub) log
          _ ≤ (E.missing checks log).length - (cap - log.length) :=
              Nat.sub_le_sub_right (missing_mono sub) _
          _ ≤ (E.front checks log).length := room_iff.mp room
      obtain ⟨new, shape, -⟩ := grown (consistent.mono sub) log
      rw [shape] at late short
      exact harmless_front short a late

/-- **With a cap**: nothing that has to stay goes if and only if there is room. -/
theorem kept_iff (consistent : E.Consistent checks) : E.Kept cap checks log ↔ E.Room cap checks log := by
  constructor
  · intro kept
    have trails := trails_run (List.Subset.refl checks) kept
    obtain ⟨new, shape, -, mem⟩ := grown consistent log
    rw [room_iff, ← surplus_grown consistent log]
    by_contra more
    rw [Nat.not_le] at more
    have longer := more.trans_le (surplus_le cap log (checks.foldl E.grow log))
    rw [shape] at longer
    obtain ⟨a, inside, stays⟩ :=
      holding_after_front consistent (fun a raised => ((mem a).mp raised).1) longer
    rw [← shape] at inside
    have gone := List.take_subset_take_left _ more inside
    rw [trails.harmless a gone] at stays
    cases stays
  · exact fun room => kept_prefix consistent room (List.append_nil checks)

/-! ### After a pass -/

/-- A pass with room leaves what was there, settled and less the surplus, and the missing entries. -/
theorem run_eq (consistent : E.Consistent checks) (room : E.Room cap checks log) :
    ∃ new, (E.run cap log checks).1
        = (log.drop ((E.missing checks log).length - (cap - log.length))).map (E.settle checks) ++ new
      ∧ ∀ a, a ∈ new ↔ a ∈ E.missing checks log := by
  have trails := trails_run (List.Subset.refl checks) ((kept_iff consistent).mpr room)
  obtain ⟨new, shape, -, mem⟩ := grown consistent log
  have short : (E.missing checks log).length - (cap - log.length) ≤ (log.map (E.settle checks)).length := by
    rw [List.length_map]
    exact (room_iff.mp room).trans front_le
  refine ⟨new, ?_, fun a => (mem a).trans mem_missing.symm⟩
  rw [trails.now_eq, surplus_grown consistent log, shape, List.drop_append_of_le_length short,
    List.map_drop]

/-- **After a pass** the open entries are those from before that it does not close, less the surplus,
and the missing ones. -/
theorem unresolved_iff (consistent : E.Consistent checks) (room : E.Room cap checks log) :
    a ∈ (E.run cap log checks).1 ∧ E.resolved a = false
      ↔ (a ∈ log.drop ((E.missing checks log).length - (cap - log.length))
          ∧ E.resolved a = false ∧ .resolve (E.key a) ∉ checks)
        ∨ a ∈ E.missing checks log := by
  obtain ⟨new, shape, mem⟩ := run_eq consistent room
  rw [shape, List.mem_append, mem]
  constructor
  · rintro ⟨old | raised, unresolved⟩
    · obtain ⟨b, before, rfl⟩ := List.mem_map.mp old
      have stays : .resolve (E.key b) ∉ checks := fun closes => by
        rw [resolved_settle closes] at unresolved
        cases unresolved
      rw [settle, if_neg stays] at unresolved ⊢
      exact .inl ⟨before, unresolved, stays⟩
    · exact .inr raised
  · rintro (⟨before, unresolved, stays⟩ | raised)
    · refine ⟨.inl (List.mem_map.mpr ⟨a, before, ?_⟩), unresolved⟩
      rw [settle, if_neg stays]
    · exact ⟨.inr raised, consistent.unresolved a (mem_missing.mp raised).1⟩

section Order

variable {other : List (Check α κ)}

theorem missing_congr (same : ∀ c, c ∈ checks ↔ c ∈ other) :
    (E.missing checks log).length = (E.missing other log).length :=
  Nat.le_antisymm (missing_mono fun c => (same c).mp) (missing_mono fun c => (same c).mpr)

theorem holding_congr (same : ∀ c, c ∈ checks ↔ c ∈ other) : E.holding checks a = E.holding other a := by
  have due : E.due checks (E.key a) = E.due other (E.key a) := by
    rw [Bool.eq_iff_iff, due_iff, due_iff]
    simp only [same]
  rw [holding, holding, due]

theorem room_congr (same : ∀ c, c ∈ checks ↔ c ∈ other) : E.Room cap checks log ↔ E.Room cap other log := by
  simp only [Room, missing_congr same, holding_congr same]

variable (consistent : E.Consistent checks) (room : E.Room cap checks log) (same : ∀ c, c ∈ checks ↔ c ∈ other)

include consistent room same

/-- **The order of the checks does not matter** for the open entries afterwards. -/
theorem unresolved_congr :
    a ∈ (E.run cap log checks).1 ∧ E.resolved a = false
      ↔ a ∈ (E.run cap log other).1 ∧ E.resolved a = false := by
  have consistent' : E.Consistent other := consistent.mono fun c => (same c).mpr
  rw [unresolved_iff consistent room, unresolved_iff consistent' ((room_congr same).mp room),
    missing_congr same, mem_missing, mem_missing, same, same]

/-- **A second pass does nothing.** -/
theorem run_again : E.run cap (E.run cap log checks).1 other = ((E.run cap log checks).1, []) := by
  have unresolved := fun b => unresolved_iff (a := b) consistent room
  refine run_quiet fun c inside => ?_
  cases c with
  | raise a =>
    have raises := (same _).mpr inside
    have found : E.active (E.key a) (E.run cap log checks).1 = true := by
      have trails := trails_run (List.Subset.refl checks) ((kept_iff consistent).mpr room)
      obtain ⟨new, shape, -, mem⟩ := grown consistent log
      rw [trails.active raises, shape, active_append,
        active_map_settle consistent (List.Subset.refl checks) raises]
      cases before : E.active (E.key a) log
      · rw [Bool.false_or, active_iff]
        exact ⟨a, (mem a).mpr ⟨raises, before⟩, rfl, consistent.unresolved a raises⟩
      · rfl
    rw [step, if_pos found]
  | resolve k =>
    have closes := (same _).mpr inside
    have none : ∀ b ∈ (E.run cap log checks).1, E.openFor k b = false := by
      intro b after
      rw [← Bool.not_eq_true, openFor_iff]
      rintro ⟨rfl, still⟩
      rcases (unresolved b).mp ⟨after, still⟩ with ⟨-, -, stays⟩ | raised
      · exact stays closes
      · exact consistent.apart b _ (mem_missing.mp raised).1 closes rfl
    have idle : (E.run cap log checks).1.map (E.close k) = (E.run cap log checks).1 := by
      calc (E.run cap log checks).1.map (E.close k)
          = (E.run cap log checks).1.map id := List.map_congr_left fun b after => by
            rw [close, none b after]
            rfl
        _ = (E.run cap log checks).1 := List.map_id _
    rw [step, idle, List.filter_eq_nil_iff.mpr fun b after => by simp [none b after]]
    rfl

end Order

/-! ### Checks that contradict each other -/

/-- A key that is closed and not raised again is not active at the end. -/
theorem not_active_run (quiet : E.active k log = false) (silent : ∀ a, .raise a ∈ checks → E.key a ≠ k) :
    E.active k (E.run cap log checks).1 = false := by
  induction checks generalizing log with
  | nil => exact quiet
  | cons c rest ih =>
    refine ih ?_ fun a inside => silent a (List.mem_cons_of_mem _ inside)
    rw [active_eq_false] at quiet ⊢
    cases c with
    | resolve k' =>
      intro a inside same
      obtain ⟨b, before, rfl⟩ := List.mem_map.mp inside
      rw [key_close] at same
      rw [resolved_close, quiet b before same, Bool.true_or]
    | raise b =>
      intro a inside same
      have apart := silent b (List.mem_cons_self)
      rw [step] at inside
      split at inside
      · exact quiet a inside same
      · rcases List.mem_append.mp (List.mem_of_mem_drop inside) with before | here
        · exact quiet a before same
        · rw [List.mem_singleton.mp here] at same
          exact absurd same apart

theorem active_close : E.active k (log.map (E.close k)) = false := by
  rw [active_eq_false]
  intro a inside same
  obtain ⟨b, -, rfl⟩ := List.mem_map.mp inside
  rw [key_close] at same
  simp [resolved_close, same]

/-- A key that is raised is active. -/
theorem active_step (room : 0 < cap) (unresolved : E.resolved a = false) :
    E.active (E.key a) (E.step cap log (.raise a)).1 = true := by
  rw [step]
  split
  · assumption
  · have last : a ∈ (log ++ [a]).drop (excess cap log) := by
      have short : excess cap log ≤ log.length := by
        unfold excess
        split <;> omega
      rw [List.drop_append_of_le_length short]
      simp
    exact active_iff.mpr ⟨a, last, rfl, unresolved⟩

/-- A key that is active and not closed, and whose entries are not dropped, stays active. -/
theorem active_run (found : E.active k log = true) (open' : .resolve k ∉ checks)
    (kept : ∀ a, .dropped a ∈ (E.run cap log checks).2 → ¬ (E.key a = k ∧ E.resolved a = false)) :
    E.active k (E.run cap log checks).1 = true := by
  induction checks generalizing log with
  | nil => exact found
  | cons c rest ih =>
    refine ih ?_ (fun inside => open' (List.mem_cons_of_mem _ inside))
      fun a gone => kept a (List.mem_append_right _ gone)
    obtain ⟨a, inside, here, unresolved⟩ := active_iff.mp found
    refine active_iff.mpr ?_
    cases c with
    | resolve k' =>
      have apart : k' ≠ k := fun same => open' (same ▸ List.mem_cons_self)
      exact ⟨a, List.mem_map.mpr ⟨a, inside, close_of_ne (here ▸ apart.symm)⟩, here, unresolved⟩
    | raise b =>
      rw [run, step] at kept
      rw [step]
      split at kept
      · rename_i already
        rw [if_pos already]
        exact ⟨a, inside, here, unresolved⟩
      · rename_i fresh
        rw [if_neg fresh]
        have somewhere := List.mem_append_left [b] inside
        rw [← List.take_append_drop (excess cap log) (log ++ [b]), List.mem_append] at somewhere
        rcases somewhere with gone | stays
        · exact absurd ⟨here, unresolved⟩ (kept a (List.mem_append_left _
            (List.mem_cons_of_mem _ (List.mem_map_of_mem gone))))
        · exact ⟨a, stays, here, unresolved⟩

end Entries

end Alarms
