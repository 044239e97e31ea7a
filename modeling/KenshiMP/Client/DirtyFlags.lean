/-
**Dirty flags: marks, and the calls that consume them.**

An entity is marked by one operation of the registry. `ConsumeDirty` is a call of many: it takes the list
of the remote entities, then looks at each of them, and where it finds a flag of its mask it notes the
entity and clears the flags of the mask by another operation. Marks and any number of such calls are
interleaved at these operations. The calls are numbered in the order in which they begin.
-/

import KenshiMP.Client.EntityResolver

namespace KenshiMP

open Assoc

namespace EntityRegistry

variable (registry : EntityRegistry)

def setDirtyFlags (netId : EntityID) (flags : UInt16) : EntityRegistry :=
  (RegistryOp.setDirtyFlags netId flags).apply registry

def clearDirtyFlags (netId : EntityID) (mask : UInt16) : EntityRegistry :=
  (RegistryOp.clearDirtyFlags netId mask).apply registry

def dirtyFlags (netId : EntityID) : UInt16 :=
  ((registry.getInfo netId).map EntityInfo.dirtyFlags).getD Dirty_None

/-- `IsDirty` -/
def isDirty (netId : EntityID) (mask : UInt16) : Bool :=
  (registry.getInfo netId).any fun info => info.dirtyFlags &&& mask ≠ 0

end EntityRegistry

namespace DirtyFlags

/-- A call that has not returned. -/
structure ConsumeCall where
  mask : UInt16
  /-- the entities it has not finished with -/
  remotes : List EntityID
  /-- the first of them is noted, and its flags are not cleared yet -/
  noted : Bool := false
  result : List EntityID := []

structure Consumers where
  registry : EntityRegistry := {}
  calls : AMap Nat ConsumeCall := ∅
  /-- how many calls have begun -/
  begun : Nat := 0

inductive Event where
  /-- `MarkDirty` and `SetDirtyFlags` -/
  | mark (netId : EntityID) (flags : UInt16)
  | consumeDirty (mask : UInt16)
  /-- a call goes on -/
  | proceed (number : Nat)

/-- What happens, as far as it matters for a mark. -/
inductive Entry where
  | marked (netId : EntityID) (flags : UInt16)
  | began (number : Nat) (mask : UInt16)
  | reported (number : Nat) (mask : UInt16) (netId : EntityID)
  | returned (number : Nat) (mask : UInt16) (result : List EntityID)
deriving DecidableEq

namespace Consumers

variable (s : Consumers)

/-- The next operation of a call, which returns when the list is used up. -/
def proceed (number : Nat) (call : ConsumeCall) : Consumers × List Entry :=
  match call.remotes with
  | [] =>
    ({ s with calls := AList.erase number s.calls }, [.returned number call.mask call.result])
  | netId :: rest =>
    if call.noted then
      ({ s with
          registry := s.registry.clearDirtyFlags netId call.mask
          calls := AList.insert number { call with remotes := rest, noted := false } s.calls }, [])
    else if s.registry.isDirty netId call.mask then
      ({ s with
          calls := AList.insert number
            { call with noted := true, result := call.result ++ [netId] } s.calls },
        [.reported number call.mask netId])
    else ({ s with calls := AList.insert number { call with remotes := rest } s.calls }, [])

/-- Only an entity that is registered is marked. -/
def machine : Machine Consumers Event Entry where
  step s event :=
    match event with
    | .mark netId flags =>
      ({ s with registry := s.registry.setDirtyFlags netId flags },
        if (s.registry.getInfo netId).isSome then [.marked netId flags] else [])
    | .consumeDirty mask =>
      ({ s with
          calls := AList.insert s.begun { mask, remotes := s.registry.getRemoteEntities } s.calls
          begun := s.begun + 1 }, [.began s.begun mask])
    | .proceed number =>
      match s.calls.lookup number with
      | none => (s, [])
      | some call => s.proceed number call

end Consumers

/-! ### Flags after an operation -/

section Flags

theorem eq_of_bits {one two : UInt16}
    (same : ∀ i < 16, one.toBitVec.getLsbD i = two.toBitVec.getLsbD i) : one = two :=
  UInt16.toBitVec_inj.mp (BitVec.eq_of_getLsbD_eq same)

theorem bit_of_apart {flags mask : UInt16} (apart : flags &&& mask = 0) (i : Nat) :
    (flags.toBitVec.getLsbD i && mask.toBitVec.getLsbD i) = false := by
  rw [← BitVec.getLsbD_and, ← UInt16.toBitVec_and, apart]
  simp

/-- Taking away flags that have nothing in common with a mask. -/
theorem and_not_and {all other mask : UInt16} (apart : other &&& mask = 0) :
    all &&& ~~~other &&& mask = all &&& mask := by
  refine eq_of_bits fun i inside => ?_
  have bit := bit_of_apart apart i
  simp only [UInt16.toBitVec_and, UInt16.toBitVec_not, BitVec.getLsbD_and, BitVec.getLsbD_not, inside,
    decide_true, Bool.true_and]
  revert bit
  generalize all.toBitVec.getLsbD i = a
  generalize other.toBitVec.getLsbD i = o
  generalize mask.toBitVec.getLsbD i = m
  revert a o m
  decide

/-- Adding them. -/
theorem or_and {all flags mask : UInt16} (apart : flags &&& mask = 0) :
    (all ||| flags) &&& mask = all &&& mask := by
  refine eq_of_bits fun i _ => ?_
  have bit := bit_of_apart apart i
  simp only [UInt16.toBitVec_and, UInt16.toBitVec_or, BitVec.getLsbD_and, BitVec.getLsbD_or]
  revert bit
  generalize all.toBitVec.getLsbD i = a
  generalize flags.toBitVec.getLsbD i = f
  generalize mask.toBitVec.getLsbD i = m
  revert a f m
  decide

theorem and_or {all flags mask : UInt16} (some : all &&& mask ≠ 0 ∨ flags &&& mask ≠ 0) :
    (all ||| flags) &&& mask ≠ 0 := by
  intro none
  have part (one : UInt16) (below : ∀ i, one.toBitVec.getLsbD i = true →
      (all ||| flags).toBitVec.getLsbD i = true) : one &&& mask = 0 := by
    refine eq_of_bits fun i _ => ?_
    have bit := bit_of_apart none i
    have lower := below i
    rw [UInt16.toBitVec_and, BitVec.getLsbD_and]
    cases here : one.toBitVec.getLsbD i with
    | false => simp
    | true =>
      rw [lower here] at bit
      simpa using bit
  rcases some with old | new
  · exact old (part all fun i here => by simp [here])
  · exact new (part flags fun i here => by simp [here])

variable {registry : EntityRegistry} {netId id : EntityID} {flags mask other : UInt16}

theorem dirtyFlags_setDirtyFlags : (registry.setDirtyFlags netId flags).dirtyFlags id
    = if id = netId ∧ (registry.getInfo id).isSome then registry.dirtyFlags id ||| flags
      else registry.dirtyFlags id := by
  unfold EntityRegistry.dirtyFlags EntityRegistry.setDirtyFlags RegistryOp.apply
  dsimp only
  rw [EntityRegistry.getInfo_update]
  cases registry.getInfo id with
  | none => simp
  | some info =>
    by_cases here : id = netId
    · simp [here]
    · simp [here]

theorem dirtyFlags_clearDirtyFlags : (registry.clearDirtyFlags netId mask).dirtyFlags id
    = if id = netId then registry.dirtyFlags id &&& ~~~mask else registry.dirtyFlags id := by
  unfold EntityRegistry.dirtyFlags EntityRegistry.clearDirtyFlags RegistryOp.apply
  dsimp only
  rw [EntityRegistry.getInfo_update]
  cases registry.getInfo id with
  | none => simp [Dirty_None]
  | some info =>
    by_cases here : id = netId
    · simp [here]
    · simp [here]

/-- Marks and clearing leave everything else as it is. -/
theorem isRemote_update {f : EntityInfo → EntityInfo} (same : ∀ info, (f info).isRemote = info.isRemote) :
    (registry.update netId f).isRemote id = registry.isRemote id := by
  show ((registry.update netId f).getInfo id |>.map EntityInfo.isRemote).getD false = _
  rw [EntityRegistry.getInfo_update, Option.map_map]
  refine congrArg (fun f => (Option.map f (registry.getInfo id)).getD false) ?_
  funext info
  simp only [Function.comp_apply]
  split_ifs
  · exact same info
  · rfl

theorem isRemote_setDirtyFlags : (registry.setDirtyFlags netId flags).isRemote id = registry.isRemote id :=
  isRemote_update fun _ => rfl

theorem isRemote_clearDirtyFlags : (registry.clearDirtyFlags netId mask).isRemote id = registry.isRemote id :=
  isRemote_update fun _ => rfl

theorem isDirty_iff : registry.isDirty id mask = true ↔ registry.dirtyFlags id &&& mask ≠ 0 := by
  unfold EntityRegistry.isDirty EntityRegistry.dirtyFlags
  cases registry.getInfo id with
  | none => simp [Dirty_None]
  | some info => simp

/-- Clearing other flags, or those of another entity, leaves a mark. -/
theorem isDirty_clearDirtyFlags (kept : id ≠ netId ∨ other &&& mask = 0) :
    (registry.clearDirtyFlags netId other).isDirty id mask = registry.isDirty id mask := by
  rw [Bool.eq_iff_iff, isDirty_iff, isDirty_iff, dirtyFlags_clearDirtyFlags]
  split_ifs with here
  · have apart := kept.resolve_left (not_not.mpr here)
    rw [and_not_and apart]
  · rfl

theorem not_isDirty_clearDirtyFlags : (registry.clearDirtyFlags netId mask).isDirty netId mask = false := by
  refine Bool.eq_false_of_not_eq_true fun dirty => isDirty_iff.mp dirty ?_
  rw [dirtyFlags_clearDirtyFlags, if_pos rfl, UInt16.and_assoc]
  have apart : ~~~mask &&& mask = 0 := by
    refine UInt16.toBitVec_inj.mp (BitVec.eq_of_getLsbD_eq fun i inside => ?_)
    simp
  rw [apart, UInt16.and_zero]

/-- A mark is there, and no other one goes. -/
theorem isDirty_setDirtyFlags (marked : registry.isDirty id mask = true
      ∨ id = netId ∧ (registry.getInfo id).isSome = true ∧ flags &&& mask ≠ 0) :
    (registry.setDirtyFlags netId flags).isDirty id mask = true := by
  rw [isDirty_iff, dirtyFlags_setDirtyFlags]
  rw [isDirty_iff] at marked
  split_ifs with here
  · exact and_or (marked.imp_right fun both => both.2.2)
  · exact marked.resolve_right fun both => here ⟨both.1, both.2.1⟩

/-- A mark without a flag of the mask changes nothing for the mask. -/
theorem isDirty_setDirtyFlags_of_apart (apart : flags &&& mask = 0 ∨ id ≠ netId) :
    (registry.setDirtyFlags netId flags).isDirty id mask = registry.isDirty id mask := by
  rw [Bool.eq_iff_iff, isDirty_iff, isDirty_iff, dirtyFlags_setDirtyFlags]
  split_ifs with here
  · have none := apart.resolve_right (not_not.mpr here.1)
    rw [or_and none]
  · rfl

end Flags

end DirtyFlags

end KenshiMP
