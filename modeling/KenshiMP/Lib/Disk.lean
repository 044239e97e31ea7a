/-
**Files of a directory under operations that may fail, and crashes.**

A directory maps names to contents. An operation is atomic and may fail without effect, except that
appending may stop after any part of what it was to append. A script says what comes next from
whether an operation has succeeded. It runs against a list of fates, one for each operation, and
when the list ends, or an operation is to crash, the script has crashed and the directory stays as it
was left: so a statement about every list of fates is one about every pattern of failures and every
moment of a crash.

* `apply_other`: an operation touches only the files it names;
* `exec_other`: so does a script.
-/

import Mathlib.Tactic

namespace Disk

universe u v w

/-- The contents under each name. -/
abbrev Dir (ν : Type u) (β : Type v) := ν → Option (List β)

inductive Op (ν : Type u) (β : Type v) where
  /-- an empty file, whatever was there -/
  | create (name : ν)
  | append (name : ν) (content : List β)
  /-- fails if there is nothing to rename, or something under the new name -/
  | rename (source target : ν)
  /-- a renaming that replaces what is under the new name -/
  | replace (source target : ν)
  | remove (name : ν)

/-- What happens to an operation: it is carried out if it can be, it fails, or the program ends before
it is finished. Of an append, that many elements are written first. -/
inductive Fate where
  | done
  | fails (written : Nat)
  | crash (written : Nat)
deriving DecidableEq

/-- What a program does: an operation, and then more, depending on its success. -/
inductive Script (ν : Type u) (β : Type v) (α : Type w) where
  | ret (result : α)
  | step (op : Op ν β) (next : Bool → Script ν β α)

section Semantics

variable {ν : Type u} {β : Type v} {α : Type w} [DecidableEq ν]

/-- Put contents under a name, or nothing. -/
def Dir.set (dir : Dir ν β) (name : ν) (content : Option (List β)) : Dir ν β :=
  Function.update dir name content

def Dir.appended (dir : Dir ν β) (name : ν) (content : List β) : Dir ν β :=
  dir.set name (some ((dir name).getD [] ++ content))

/-- Carry out an operation, if that is possible. -/
def Op.perform (dir : Dir ν β) : Op ν β → Dir ν β × Bool
  | .create name => (dir.set name (some []), true)
  | .append name content => (dir.appended name content, true)
  | .rename source target =>
    if (dir source).isSome && (dir target).isNone then
      ((dir.set target (dir source)).set source none, true)
    else (dir, false)
  | .replace source target =>
    if (dir source).isSome then ((dir.set target (dir source)).set source none, true)
    else (dir, false)
  | .remove name => (dir.set name none, (dir name).isSome)

/-- What an operation leaves behind that is not carried out. -/
def Op.part (written : Nat) (dir : Dir ν β) : Op ν β → Dir ν β
  | .append name content => dir.appended name (content.take written)
  | _ => dir

/-- The directory after an operation, and what the program is told, unless it has crashed. -/
def Op.apply (dir : Dir ν β) (op : Op ν β) : Fate → Dir ν β × Option Bool
  | .done => ((op.perform dir).1, some (op.perform dir).2)
  | .fails written => (op.part written dir, some false)
  | .crash written => (op.part written dir, none)

/-- The directory a script leaves behind, and its result, unless it has crashed. -/
def Script.exec : Script ν β α → Dir ν β → List Fate → Dir ν β × Option α
  | .ret result, dir, _ => (dir, some result)
  | .step _ _, dir, [] => (dir, none)
  | .step op next, dir, fate :: rest =>
    match op.apply dir fate with
    | (after, none) => (after, none)
    | (after, some success) => (next success).exec after rest

/-! ### What is touched -/

def Op.names : Op ν β → List ν
  | .create name | .append name _ | .remove name => [name]
  | .rename source target | .replace source target => [source, target]

theorem Dir.set_other (dir : Dir ν β) {name other : ν} (different : other ≠ name)
    (content : Option (List β)) : dir.set name content other = dir other :=
  Function.update_of_ne different _ _

theorem Dir.set_self (dir : Dir ν β) (name : ν) (content : Option (List β)) :
    dir.set name content name = content :=
  Function.update_self _ _ _

theorem perform_other (dir : Dir ν β) {op : Op ν β} {name : ν} (untouched : name ∉ op.names) :
    (op.perform dir).1 name = dir name := by
  cases op with
  | create other => exact dir.set_other (by simpa [Op.names] using untouched) _
  | append other content => exact dir.set_other (by simpa [Op.names] using untouched) _
  | remove other => exact dir.set_other (by simpa [Op.names] using untouched) _
  | rename source target =>
    have different : name ≠ source ∧ name ≠ target := by simpa [Op.names] using untouched
    simp only [Op.perform]
    split_ifs
    · exact (Dir.set_other _ different.1 _).trans (Dir.set_other _ different.2 _)
    · rfl
  | replace source target =>
    have different : name ≠ source ∧ name ≠ target := by simpa [Op.names] using untouched
    simp only [Op.perform]
    split_ifs
    · exact (Dir.set_other _ different.1 _).trans (Dir.set_other _ different.2 _)
    · rfl

/-- An operation touches only what it names, whatever its fate. -/
theorem apply_other (dir : Dir ν β) {op : Op ν β} {name : ν} (untouched : name ∉ op.names)
    (fate : Fate) : (op.apply dir fate).1 name = dir name := by
  have part (written : Nat) : op.part written dir name = dir name := by
    cases op with
    | append other content => exact dir.set_other (by simpa [Op.names] using untouched) _
    | _ => rfl
  cases fate with
  | done => exact perform_other dir untouched
  | fails written => exact part written
  | crash written => exact part written

/-- A script whose operations do not name a file. -/
def Script.Spares (name : ν) : Script ν β α → Prop
  | .ret _ => True
  | .step op next => name ∉ op.names ∧ ∀ success, (next success).Spares name

/-- **A script leaves a file alone that it does not name.** -/
theorem exec_other {script : Script ν β α} {name : ν} (spares : script.Spares name) (dir : Dir ν β)
    (fates : List Fate) : (script.exec dir fates).1 name = dir name := by
  induction script generalizing dir fates with
  | ret result => rfl
  | step op next ih =>
    cases fates with
    | nil => rfl
    | cons fate rest =>
      have here := apply_other dir spares.1 fate
      unfold Script.exec
      generalize op.apply dir fate = applied at here
      obtain ⟨after, success⟩ := applied
      cases success with
      | none => exact here
      | some success => exact (ih success (spares.2 success) after rest).trans here

end Semantics

end Disk
