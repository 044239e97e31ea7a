/-
**Whether the world file survives failures and crashes.**

A save is written under another name and then moved over the old one (`saveWorldScript`). If the
move fails, the old file is renamed to a backup, the new one is renamed to its place, and if that
fails too the backup is renamed back. Between the first and the second renaming there is no file
under the name that the loader opens, and the loader knows no other name. `Vacates` says when a save
ends there.

* `save_iff`: after one save, with any failures and a crash anywhere, the old or the new document
  is there in full exactly if the save does not end there;
* `saves_iff`: so it is after every one of a sequence of saves.
-/

import KenshiMP.Lib.Disk
import KenshiMP.Lib.Machine
import KenshiMP.Server.Persistence

namespace KenshiMP

open Disk
open Wire (Bytes)

namespace Persistence

/-! ### The operations of a save -/

inductive SaveName where
  | path | tmp | bak
deriving DecidableEq

abbrev SaveDir := Dir SaveName UInt8
abbrev SaveScript := Script SaveName UInt8 Bool

/-- Put the backup back. -/
def restoreBackup : SaveScript := .step (.rename .bak .path) fun _ => .ret false

def renameTemp : SaveScript :=
  .step (.rename .tmp .path) fun renamed =>
    if renamed then .step (.remove .bak) fun _ => .ret true else restoreBackup

/-- Without an atomic move: the old file to the backup, the new one to its place. -/
def fallback : SaveScript :=
  .step (.remove .bak) fun _ => .step (.rename .path .bak) fun _ => renameTemp

def replaceFile : SaveScript :=
  .step (.replace .tmp .path) fun moved => if moved then .ret true else fallback

/-- What saving a document does to the files; the result is that of the function. -/
def saveWorldScript (document : Bytes) : SaveScript :=
  .step (.create .tmp) fun opened =>
    if !opened then .ret false
    else
      .step (.append .tmp document) fun good =>
        if !good then .step (.remove .tmp) fun _ => .ret false else replaceFile

/-- What the loader opens. -/
def savedFile (dir : SaveDir) : Option Bytes := dir .path

/-! ### Fates that leave no file -/

/-- From here the new file is not put into its place, and the old one not put back. -/
def LeftVacant : List Fate → Prop
  | [] => True
  | .crash _ :: _ => True
  | .done :: _ => False
  | .fails _ :: restore => restore.head? ≠ some .done

/-- The old file has been renamed to the backup, and there it ends. -/
def VacatesFallback (backup : Bool) : List Fate → Prop
  | .done :: .done :: rest => LeftVacant rest
  | .fails _ :: .done :: rest => backup = false ∧ LeftVacant rest
  | _ => False

/-- A save that writes its file, fails to move it, and ends without a file in its place. -/
def Vacates (dir : SaveDir) : List Fate → Prop
  | .done :: .done :: .fails _ :: rest => VacatesFallback (dir .bak).isSome rest
  | _ => False

/-! ### One save -/

/-- In the place of the file is the old or the new document. -/
def Intact (old new : Bytes) (dir : SaveDir) : Prop :=
  savedFile dir = some old ∨ savedFile dir = some new

section Save

variable {dir : SaveDir} {old new : Bytes}

/-- With the file in its place, nothing can be renamed to it. -/
theorem renameTemp_there (there : dir .path = some old) (fates : List Fate) :
    (renameTemp.exec dir fates).1 .path = some old := by
  have stays (source : SaveName) : (Op.rename source .path : Op SaveName UInt8).perform dir
      = (dir, false) := by
    simp only [Op.perform, there, Option.isNone_some, Bool.and_false, Bool.false_eq_true, if_false]
  have restored (rest : List Fate) : (restoreBackup.exec dir rest).1 .path = some old := by
    cases rest with
    | nil => exact there
    | cons fate rest =>
      cases fate with
      | done =>
        simp only [restoreBackup, Script.exec, Op.apply, stays]
        exact there
      | fails written => exact there
      | crash written => exact there
  cases fates with
  | nil => exact there
  | cons fate rest =>
    cases fate with
    | done =>
      simp only [renameTemp, Script.exec, Op.apply, stays]
      exact restored rest
    | fails written => exact restored rest
    | crash written => exact there

/-- With the old file in the backup and the new one still to be renamed. -/
theorem renameTemp_vacant (gone : dir .path = none) (kept : dir .bak = some old)
    (written : dir .tmp = some new) (fates : List Fate) :
    Intact old new (renameTemp.exec dir fates).1 ↔ ¬ LeftVacant fates := by
  have vacant {dir : SaveDir} (none : dir .path = none) : ¬ Intact old new dir := by
    unfold Intact savedFile
    rw [none]
    rintro (same | same)
    · cases same
    · cases same
  cases fates with
  | nil => exact iff_of_false (vacant gone) (not_not_intro trivial)
  | cons fate rest =>
    cases fate with
    | crash written => exact iff_of_false (vacant gone) (not_not_intro trivial)
    | done =>
      -- the new file is in its place, whatever becomes of the backup
      have placed : (Op.rename SaveName.tmp .path : Op SaveName UInt8).perform dir
          = ((dir.set .path (some new)).set .tmp none, true) := by
        simp only [Op.perform, written, gone, Option.isSome_some, Option.isNone_none, Bool.and_self,
          if_true]
      have here : ((renameTemp.exec dir (.done :: rest)).1) .path = some new := by
        simp only [renameTemp, Script.exec, Op.apply, placed, if_true]
        have spares : (Script.step (.remove .bak) fun _ => .ret true : SaveScript).Spares .path :=
          And.intro (by decide) fun _ => trivial
        refine (exec_other spares _ rest).trans ?_
        exact (Dir.set_other _ (by decide) _).trans (Dir.set_self _ _ _)
      exact iff_of_true (.inr here) id
    | fails part =>
      have again : (renameTemp.exec dir (.fails part :: rest)).1 = (restoreBackup.exec dir rest).1 :=
        rfl
      rw [again]
      show _ ↔ ¬ rest.head? ≠ some .done
      rw [not_not]
      cases rest with
      | nil => exact iff_of_false (vacant gone) (by simp)
      | cons fate rest =>
        cases fate with
        | done =>
          have restored : (Op.rename SaveName.bak .path : Op SaveName UInt8).perform dir
              = ((dir.set .path (some old)).set .bak none, true) := by
            simp only [Op.perform, kept, gone, Option.isSome_some, Option.isNone_none, Bool.and_self,
              if_true]
          refine iff_of_true (.inl ?_) rfl
          simp only [savedFile, restoreBackup, Script.exec, Op.apply, restored]
          exact (Dir.set_other _ (by decide) _).trans (Dir.set_self _ _ _)
        | fails part => exact iff_of_false (vacant gone) (by simp)
        | crash part => exact iff_of_false (vacant gone) (by simp)

variable (there : dir .path = some old)

include there

/-- The fallback, with both files there. -/
theorem fallback_iff (written : dir .tmp = some new) (fates : List Fate) :
    Intact old new (fallback.exec dir fates).1 ↔ ¬ VacatesFallback (dir .bak).isSome fates := by
  -- after the first operation, the backup is there or not, and the rest is as it was
  have second (dir : SaveDir) (there : dir .path = some old) (written : dir .tmp = some new)
      (rest : List Fate) :
      Intact old new ((Script.step (.rename .path .bak) fun _ => renameTemp : SaveScript).exec dir rest).1
        ↔ ¬ ((dir .bak).isSome = false ∧ ∃ later, rest = .done :: later ∧ LeftVacant later) := by
    cases rest with
    | nil => exact iff_of_true (.inl there) (by simp)
    | cons fate later =>
      cases fate with
      | crash part => exact iff_of_true (.inl there) (by simp)
      | fails part => exact iff_of_true (.inl (renameTemp_there there later)) (by simp)
      | done =>
        cases backup : dir .bak with
        | some other =>
          have stays : (Op.rename SaveName.path .bak : Op SaveName UInt8).perform dir = (dir, false) := by
            simp only [Op.perform, backup, Option.isNone_some, Bool.and_false, Bool.false_eq_true,
              if_false]
          refine iff_of_true (.inl ?_) (by simp)
          simp only [savedFile, Script.exec, Op.apply, stays]
          exact renameTemp_there there later
        | none =>
          have moved : (Op.rename SaveName.path .bak : Op SaveName UInt8).perform dir
              = ((dir.set .bak (some old)).set .path none, true) := by
            simp only [Op.perform, there, backup, Option.isSome_some, Option.isNone_none,
              Bool.and_self, if_true]
          simp only [Script.exec, Op.apply, moved]
          rw [renameTemp_vacant (Dir.set_self _ _ _)
            ((Dir.set_other _ (by decide) _).trans (Dir.set_self _ _ _))
            ((Dir.set_other _ (by decide) _).trans ((Dir.set_other _ (by decide) _).trans written))]
          simp
  cases fates with
  | nil => exact iff_of_true (.inl there) id
  | cons fate rest =>
    cases fate with
    | crash part => exact iff_of_true (.inl there) id
    | fails part =>
      refine (second dir there written rest).trans (not_congr ?_)
      cases rest with
      | nil => simp [VacatesFallback]
      | cons next later => cases next <;> simp [VacatesFallback]
    | done =>
      have cleared : (Op.remove SaveName.bak : Op SaveName UInt8).perform dir
          = (dir.set .bak none, (dir .bak).isSome) := rfl
      have rest_ := second (dir.set .bak none) ((Dir.set_other _ (by decide) _).trans there)
        ((Dir.set_other _ (by decide) _).trans written) rest
      simp only [fallback, Script.exec, Op.apply, cleared]
      refine rest_.trans (not_congr ?_)
      rw [Dir.set_self]
      cases rest with
      | nil => simp [VacatesFallback]
      | cons next later => cases next <;> simp [VacatesFallback]

/-- The move, with both files there. -/
theorem replaceFile_iff (written : dir .tmp = some new) (fates : List Fate) :
    Intact old new (replaceFile.exec dir fates).1
      ↔ ¬ ∃ part rest, fates = .fails part :: rest ∧ VacatesFallback (dir .bak).isSome rest := by
  cases fates with
  | nil => exact iff_of_true (.inl there) (by simp)
  | cons fate rest =>
    cases fate with
    | crash part => exact iff_of_true (.inl there) (by simp)
    | fails part => exact (fallback_iff there written rest).trans (not_congr (by simp))
    | done =>
      have moved : (Op.replace SaveName.tmp .path : Op SaveName UInt8).perform dir
          = ((dir.set .path (some new)).set .tmp none, true) := by
        simp only [Op.perform, written, Option.isSome_some, if_true]
      refine iff_of_true (.inr ?_) (by simp)
      simp only [savedFile, replaceFile, Script.exec, Op.apply, moved, if_true]
      exact (Dir.set_other _ (by decide) _).trans (Dir.set_self _ _ _)

/-- **One save.** The old or the new document is there in full, exactly if the save does not end
between the two renamings. -/
theorem save_iff (fates : List Fate) :
    Intact old new ((saveWorldScript new).exec dir fates).1 ↔ ¬ Vacates dir fates := by
  -- until the file is written, only the temporary one is touched
  have created : (dir.set .tmp (some [])) .path = some old :=
    (Dir.set_other _ (by decide) _).trans there
  have appended (content : Bytes) : ((dir.set .tmp (some [])).appended .tmp content) .path = some old :=
    (Dir.set_other _ (by decide) _).trans created
  cases fates with
  | nil => exact iff_of_true (.inl there) id
  | cons fate rest =>
    cases fate with
    | crash part => exact iff_of_true (.inl there) id
    | fails part => exact iff_of_true (.inl there) id
    | done =>
      cases rest with
      | nil => exact iff_of_true (.inl created) id
      | cons fate rest =>
        cases fate with
        | crash part => exact iff_of_true (.inl (appended (new.take part))) id
        | fails part =>
          have stopped := appended (new.take part)
          refine iff_of_true (.inl ?_) id
          have spares : (Script.step (.remove .tmp) fun _ => .ret false : SaveScript).Spares .path :=
            And.intro (by decide) fun _ => trivial
          exact (exec_other spares _ rest).trans stopped
        | done =>
          have written : ((dir.set .tmp (some [])).appended .tmp new) .tmp = some new := by
            unfold Dir.appended
            rw [Dir.set_self, Dir.set_self]
            rfl
          have backup : ((dir.set .tmp (some [])).appended .tmp new) .bak = dir .bak :=
            (Dir.set_other _ (by decide) _).trans (Dir.set_other _ (by decide) _)
          refine (replaceFile_iff (appended new) written rest).trans (not_congr ?_)
          rw [backup]
          cases rest with
          | nil => simp [Vacates]
          | cons fate rest => cases fate <;> simp [Vacates]

end Save

/-! ### Saves in a row -/

/-- A save of a document, with what happens to its operations. -/
structure Attempt where
  document : Bytes
  fates : List Fate

/-- The directory from one save to the next; the program may have crashed and been started again. -/
def saveMachine : Machine SaveDir Attempt Empty where
  step dir attempt := (((saveWorldScript attempt.document).exec dir attempt.fates).1, [])

/-- What was the file before the last attempt is there in full after it, or the new document is. -/
def Survives (dir : SaveDir) (attempts : List Attempt) (last : Attempt) : Prop :=
  ∃ old, savedFile (saveMachine.run dir attempts) = some old
    ∧ Intact old last.document (saveMachine.run dir (attempts ++ [last]))

/-- **Every save of a run leaves the old or the new document in full, exactly if none of them ends
between the two renamings.** -/
theorem saves_iff (dir : SaveDir) (old : Bytes) (there : savedFile dir = some old)
    (attempts : List Attempt) :
    (∀ before last after, attempts = before ++ last :: after → Survives dir before last)
      ↔ saveMachine.Along (fun dir attempt => ¬ Vacates dir attempt.fates) dir attempts := by
  induction attempts generalizing dir old with
  | nil =>
    refine iff_of_true (fun before last after split => ?_) trivial
    exact absurd split (by simp)
  | cons attempt rest ih =>
    have first : Intact old attempt.document
        ((saveWorldScript attempt.document).exec dir attempt.fates).1
        ↔ ¬ Vacates dir attempt.fates := save_iff there attempt.fates
    constructor
    · intro survives
      obtain ⟨old', there', intact⟩ := survives [] attempt rest rfl
      obtain rfl := Option.some.inj (there.symm.trans there')
      obtain ⟨kept, found⟩ : ∃ kept, savedFile (saveMachine.next dir attempt) = some kept :=
        intact.elim (fun same => ⟨_, same⟩) fun same => ⟨_, same⟩
      refine ⟨first.mp intact, (ih _ kept found).mp fun before last after split => ?_⟩
      exact survives (attempt :: before) last after (congrArg (attempt :: ·) split)
    · rintro ⟨here, later⟩ before last after split
      have intact := first.mpr here
      cases before with
      | nil =>
        obtain ⟨rfl, -⟩ := List.cons.inj split
        exact ⟨old, there, intact⟩
      | cons attempt' before =>
        obtain ⟨rfl, split'⟩ := List.cons.inj split
        obtain ⟨kept, found⟩ : ∃ kept, savedFile (saveMachine.next dir attempt) = some kept :=
          intact.elim (fun same => ⟨_, same⟩) fun same => ⟨_, same⟩
        exact (ih _ kept found).mpr later before last after split'

/-- A directory with a world file and no other. -/
def savedDir : SaveDir
  | .path => some [0x7b, 0x7d]
  | _ => none

/-- A save that is cut off in its file, one whose move fails, and one that crashes before it. -/
theorem saves_survive :
    Survives savedDir
      [⟨[1, 2, 3], [.done, .fails 2]⟩, ⟨[4, 5], [.done, .done, .fails 0, .done, .done, .done]⟩]
      ⟨[6], [.done, .done]⟩ :=
  (saves_iff savedDir [0x7b, 0x7d] rfl
    [⟨[1, 2, 3], [.done, .fails 2]⟩, ⟨[4, 5], [.done, .done, .fails 0, .done, .done, .done]⟩,
      ⟨[6], [.done, .done]⟩]).mpr ⟨id, id, id, trivial⟩ _ _ [] rfl

/-- The move fails, the old file has become the backup, and the program crashes. -/
theorem saves_vacated :
    ¬ Survives savedDir [] ⟨[1, 2, 3], [.done, .done, .fails 0, .done, .done]⟩
      ∧ savedFile (saveMachine.run savedDir
        [⟨[1, 2, 3], [.done, .done, .fails 0, .done, .done]⟩]) = none := by
  have gone : savedFile (saveMachine.run savedDir
      [⟨[1, 2, 3], [.done, .done, .fails 0, .done, .done]⟩]) = none := by
    decide +kernel
  refine ⟨?_, gone⟩
  rintro ⟨old, -, same | same⟩
  · exact absurd (gone.symm.trans same) (by simp)
  · exact absurd (gone.symm.trans same) (by simp)

end Persistence

end KenshiMP
