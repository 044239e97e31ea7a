/-
**Whether an item that is handed over is kept.**

A transfer is two messages, and each does what it can: the removal stops at zero, the addition wraps around,
and neither does anything where no stack of the item is found.

* `Conserves`: the total of the item, the stacks that change, and everything else;
* `Inventory.shape`: what the two do to the first stack of the item;
* `item_transfer`: the accepted transfer is sent as the two messages, and whichever comes first, the item is
  conserved exactly if `Conserving`.
-/

import KenshiMP.Client.Inventories
import KenshiMP.Server.Entities

namespace KenshiMP

open Assoc

/-! ### Transfers -/

/-- The server accepts the transfer. -/
def GameServer.AcceptsTransfer (server : GameServer) (player : ConnectedPlayer) (reader : PacketReader)
    (msg : MsgItemTransfer) : Prop :=
  (∃ rest, reader.readRaw MsgItemTransfer.codec = some (msg, rest)) ∧ server.owns player msg.sourceEntityId = true
    ∧ (server.entities.lookup msg.destEntityId).isSome ∧ 0 < msg.quantity ∧ msg.quantity ≤ 10000

namespace MsgItemTransfer

variable (msg : MsgItemTransfer)

def removal : MsgInventoryUpdate := ⟨msg.sourceEntityId, 1, msg.itemTemplateId, msg.quantity⟩

def addition : MsgInventoryUpdate := ⟨msg.destEntityId, 0, msg.itemTemplateId, msg.quantity⟩

/-- The two messages about a transfer. -/
def updates : List MsgInventoryUpdate := [msg.removal, msg.addition]

/-- The entities whose inventories are concerned. -/
def holders : List EntityID :=
  if msg.sourceEntityId = msg.destEntityId then [msg.sourceEntityId] else [msg.sourceEntityId, msg.destEntityId]

end MsgItemTransfer

/-! ### What should be -/

/-- The count of a slot of the item. -/
def Item.countOf (templateId : UInt32) (slot : Option Item) : Int :=
  slot.elim 0 fun item => if item.templateId = templateId then item.stackCount.toInt else 0

def Inventory.total (templateId : UInt32) (inventory : Inventory) : Int :=
  (inventory.items.map (Item.countOf templateId)).sum

namespace InventoryClient

def handleAll (client : InventoryClient) (messages : List MsgInventoryUpdate) : InventoryClient :=
  messages.foldl handleInventoryUpdate client

/-- The total of the item over the inventories concerned. -/
def total (client : InventoryClient) (msg : MsgItemTransfer) : Int :=
  (msg.holders.map fun id => (client.inventories.lookup id).elim 0 (Inventory.total msg.itemTemplateId)).sum

end InventoryClient

/-- A slot stays as it is, or it is a stack of the item that has not become negative and has not changed by
more than the quantity. -/
def Kept (msg : MsgItemTransfer) (before after : Option Item) : Prop :=
  after = before ∨ ∃ item count, before = some item ∧ after = some { item with stackCount := count }
    ∧ item.templateId = msg.itemTemplateId ∧ 0 ≤ count.toInt
    ∧ |count.toInt - item.stackCount.toInt| ≤ msg.quantity.toInt

/-- **The item is conserved.** -/
structure Conserves (msg : MsgItemTransfer) (before after : InventoryClient) : Prop where
  total : after.total msg = before.total msg
  slots : ∀ id inventory, before.inventories.lookup id = some inventory → ∃ later,
    after.inventories.lookup id = some later ∧ List.Forall₂ (Kept msg) inventory.items later.items
  elsewhere : ∀ id, id ∉ msg.holders → after.inventories.lookup id = before.inventories.lookup id

/-! ### The condition -/

/-- A slot with a stack of a template. -/
def Inventory.stackOf (templateId : UInt32) (slot : Option Item) : Option Item :=
  slot.filter fun item => item.templateId = templateId

/-- The count of the first stack of a template. -/
def Inventory.first (templateId : UInt32) (inventory : Inventory) : Option Int32 :=
  ((inventory.items.take inventory.getItemCount).findSome? (stackOf templateId)).map Item.stackCount

/-- Both sides have a stack of the item, the first one of the source has the quantity, and that of the
destination can take it; or neither has one; or the source has an empty one and the destination has none. -/
def Conserving (msg : MsgItemTransfer) (source dest : Inventory) : Prop :=
  if msg.sourceEntityId = msg.destEntityId then
    ∀ count, source.first msg.itemTemplateId = some count → msg.quantity ≤ count
  else
    match source.first msg.itemTemplateId, dest.first msg.itemTemplateId with
    | some here, some there => msg.quantity ≤ here ∧ 0 ≤ there.toInt + msg.quantity.toInt
        ∧ there.toInt + msg.quantity.toInt < 2 ^ 31
    | some here, none => here = 0
    | none, some _ => False
    | none, none => True

/-! ### Stacks -/

namespace Inventory

/-- Either no stack of the item is found, or the first one, which both changes find also afterwards. -/
theorem changeStack_cases (templateId : UInt32) (items : List (Option Item)) :
    (items.findSome? (stackOf templateId) = none ∧ ∀ f, changeStack templateId f items = none)
      ∨ ∃ front item back, items = front ++ some item :: back ∧ item.templateId = templateId
        ∧ items.findSome? (stackOf templateId) = some item
        ∧ ∀ count f, changeStack templateId f (front ++ some { item with stackCount := count } :: back)
          = some (front ++ some { item with stackCount := f count } :: back) := by
  induction items with
  | nil => exact .inl ⟨rfl, fun _ => rfl⟩
  | cons slot rest ih =>
    cases slot with
    | none =>
      have other : stackOf templateId none = none := rfl
      rw [List.findSome?_cons, other]
      rcases ih with ⟨missing, unchanged⟩ | ⟨front, item, back, rfl, its, found, changed⟩
      · refine .inl ⟨missing, fun f => ?_⟩
        unfold changeStack
        rw [unchanged]
        rfl
      · refine .inr ⟨none :: front, item, back, rfl, its, found, fun count f => ?_⟩
        rw [List.cons_append]
        unfold changeStack
        rw [changed]
        rfl
    | some first =>
      by_cases here : first.templateId = templateId
      · have stack : stackOf templateId (some first) = some first := by simp [stackOf, here]
        refine .inr ⟨[], first, rest, rfl, here, ?_, fun count f => ?_⟩
        · rw [List.findSome?_cons, stack]
        · show changeStack templateId f (some { first with stackCount := count } :: rest) = _
          unfold changeStack
          exact if_pos here
      · have other : stackOf templateId (some first) = none := by simp [stackOf, here]
        rw [List.findSome?_cons, other]
        rcases ih with ⟨missing, unchanged⟩ | ⟨front, item, back, rfl, its, found, changed⟩
        · refine .inl ⟨missing, fun f => ?_⟩
          unfold changeStack
          rw [if_neg here, unchanged]
          rfl
        · refine .inr ⟨some first :: front, item, back, rfl, its, found, fun count f => ?_⟩
          rw [List.cons_append]
          unfold changeStack
          rw [if_neg here, changed]
          rfl

/-- An inventory around one of its stacks, with another count. -/
def around (front : List (Option Item)) (item : Item) (back : List (Option Item)) (count : Int32) : Inventory :=
  ⟨front ++ some { item with stackCount := count } :: back⟩

/-- **What a change does**: nothing, or it changes the count of the first stack. -/
theorem shape (templateId : UInt32) (inventory : Inventory) :
    (inventory.first templateId = none ∧ ∀ f, inventory.change templateId f = none)
      ∨ ∃ front item back, inventory = around front item back item.stackCount ∧ item.templateId = templateId
        ∧ inventory.first templateId = some item.stackCount
        ∧ ∀ count f, (around front item back count).change templateId f
          = some (around front item back (f count)) := by
  unfold first change
  by_cases counted : inventory.items.length < 10000
  · have all : inventory.getItemCount = inventory.items.length := if_pos counted
    rw [all, List.take_length, List.drop_length]
    rcases changeStack_cases templateId inventory.items with
      ⟨missing, unchanged⟩ | ⟨front, item, back, same, its, found, changed⟩
    · rw [missing]
      exact .inl ⟨rfl, fun f => by rw [unchanged]; rfl⟩
    · rw [found]
      refine .inr ⟨front, item, back, ?_, its, rfl, fun count f => ?_⟩
      · cases inventory
        exact congrArg Inventory.mk same
      · have length : (around front item back count).items.length = inventory.items.length := by
          rw [same]
          simp [around]
        have all' : (around front item back count).getItemCount = (around front item back count).items.length :=
          if_pos (length ▸ counted)
        rw [all', List.take_length, List.drop_length]
        show (changeStack templateId f (front ++ some { item with stackCount := count } :: back)).map _ = _
        rw [changed]
        simp [around]
  · have nothing : inventory.getItemCount = 0 := if_neg counted
    rw [nothing]
    exact .inl ⟨rfl, fun f => rfl⟩

theorem total_around (templateId : UInt32) (front : List (Option Item)) {item : Item} (back : List (Option Item))
    (its : item.templateId = templateId) (count : Int32) :
    (around front item back count).total templateId
      = (around front item back item.stackCount).total templateId + (count.toInt - item.stackCount.toInt) := by
  unfold total around
  simp only [List.map_append, List.map_cons, List.sum_append, List.sum_cons]
  have one (count : Int32) : Item.countOf templateId (some { item with stackCount := count }) = count.toInt :=
    if_pos its
  rw [one, one]
  ring

/-- The slots around the stack stay. -/
theorem forall₂_around {msg : MsgItemTransfer} {front back : List (Option Item)} {item : Item} {count : Int32} :
    List.Forall₂ (Kept msg) (around front item back item.stackCount).items (around front item back count).items
      ↔ Kept msg (some item) (some { item with stackCount := count }) := by
  have same (slots : List (Option Item)) : List.Forall₂ (Kept msg) slots slots :=
    List.forall₂_same.mpr fun slot _ => .inl rfl
  unfold around
  constructor
  · intro both
    induction front with
    | nil =>
      cases both with
      | cons here _ => exact here
    | cons slot rest ih =>
      cases both with
      | cons _ later => exact ih later
  · intro here
    exact List.rel_append (same front) (.cons here (same back))

end Inventory

/-! ### Counts -/

section Counts

variable {quantity count : Int32} (positive : 0 < quantity) (few : quantity ≤ 10000)

include positive few

theorem quantity_range : 0 < quantity.toInt ∧ quantity.toInt ≤ 10000 :=
  ⟨Int32.lt_iff_toInt_lt.mp positive, Int32.le_iff_toInt_le.mp few⟩

/-- An addition that is too large for the count makes it negative. -/
theorem toInt_added : count.toInt + quantity.toInt < 2 ^ 31 ∧ (count + quantity).toInt = count.toInt + quantity.toInt
    ∨ 2 ^ 31 ≤ count.toInt + quantity.toInt ∧ (count + quantity).toInt < 0
      ∧ (count + quantity).toInt = count.toInt + quantity.toInt - 2 ^ 32 := by
  have range := quantity_range positive few
  have low := count.le_toInt
  have high := count.toInt_lt
  rw [Int32.toInt_add, Int.bmod_def]
  split_ifs <;> omega

theorem toInt_taken : -2 ^ 31 ≤ count.toInt - quantity.toInt ∧ (count - quantity).toInt = count.toInt - quantity.toInt
    ∨ count.toInt - quantity.toInt < -2 ^ 31
      ∧ (count - quantity).toInt = count.toInt - quantity.toInt + 2 ^ 32 := by
  have range := quantity_range positive few
  have low := count.le_toInt
  have high := count.toInt_lt
  rw [Int32.toInt_sub, Int.bmod_def]
  split_ifs <;> omega

/-- A removal stops at zero, unless it wraps around. -/
theorem toInt_reduced : quantity.toInt ≤ count.toInt
      ∧ (Inventory.reduced quantity count).toInt = count.toInt - quantity.toInt
    ∨ count.toInt < quantity.toInt ∧ -2 ^ 31 ≤ count.toInt - quantity.toInt
      ∧ (Inventory.reduced quantity count).toInt = 0
    ∨ count.toInt - quantity.toInt < -2 ^ 31 ∧ (Inventory.reduced quantity count).toInt = count.toInt - quantity.toInt + 2 ^ 32 := by
  have range := quantity_range positive few
  have low := count.le_toInt
  have high := count.toInt_lt
  have taken := @toInt_taken quantity count positive few
  have zero : (0 : Int32).toInt = 0 := rfl
  unfold Inventory.reduced
  simp only
  split_ifs with negative
  · rw [Int32.lt_iff_toInt_lt, zero] at negative
    rw [zero]
    omega
  · rw [Int32.lt_iff_toInt_lt, zero] at negative
    omega

end Counts

/-! ### Messages -/

/-- What a message does to the inventory of its entity. -/
def MsgInventoryUpdate.applied (update : MsgInventoryUpdate) (inventory : Inventory) : Inventory :=
  if update.action = 0 then (inventory.addItem update.itemTemplateId update.quantity).getD inventory
  else if update.action = 1 then (inventory.removeItem update.itemTemplateId update.quantity).getD inventory
  else inventory

namespace InventoryClient

variable {client : InventoryClient}

theorem lookup_store {id : EntityID} {inventory : Inventory}
    (stored : client.inventories.lookup id = some inventory) (result : Option Inventory) (key : EntityID) :
    (client.store id result).inventories.lookup key
      = (client.inventories.lookup key).map fun before => if key = id then result.getD before else before := by
  cases result with
  | none =>
    show client.inventories.lookup key = _
    cases client.inventories.lookup key <;> simp
  | some changed =>
    show (AList.insert id changed client.inventories).lookup key = _
    rw [AMap.lookup_insert_eq]
    split_ifs with here
    · rw [here, stored]
      rfl
    · exact Option.map_id'.symm

theorem store_loaded (id : EntityID) (result : Option Inventory) :
    (client.store id result).gameLoaded = client.gameLoaded := by
  cases result <;> rfl

variable (loaded : client.gameLoaded = true)

include loaded

theorem handleInventoryUpdate_loaded (update : MsgInventoryUpdate) :
    (client.handleInventoryUpdate update).gameLoaded = true := by
  unfold handleInventoryUpdate
  simp only [loaded, Bool.not_true, Bool.false_eq_true, if_false]
  split
  · exact loaded
  · split_ifs
    · rw [store_loaded, loaded]
    · rw [store_loaded, loaded]
    · exact loaded

/-- **A message** changes the inventory of its entity. -/
theorem lookup_handleInventoryUpdate (update : MsgInventoryUpdate)
    (key : EntityID) : (client.handleInventoryUpdate update).inventories.lookup key
      = (client.inventories.lookup key).map fun before =>
        if key = update.entityId then update.applied before else before := by
  unfold handleInventoryUpdate
  rw [loaded]
  simp only [Bool.not_true, Bool.false_eq_true, if_false]
  cases stored : client.inventories.lookup update.entityId with
  | none =>
    by_cases here : key = update.entityId
    · rw [here, stored]
      rfl
    · simp only [here, if_false]
      exact Option.map_id'.symm
  | some inventory =>
    by_cases here : key = update.entityId
    · subst here
      simp only [if_true]
      unfold MsgInventoryUpdate.applied
      split_ifs
      · rw [lookup_store stored, stored]
        simp
      · rw [lookup_store stored, stored]
        simp
      · rw [stored]
        rfl
    · simp only [here, if_false]
      have apart (result : Option Inventory) : (client.store update.entityId result).inventories.lookup key
          = client.inventories.lookup key := by
        rw [lookup_store stored]
        simp [here]
      split_ifs
      · rw [apart]
        exact Option.map_id'.symm
      · rw [apart]
        exact Option.map_id'.symm
      · exact Option.map_id'.symm

/-- Two messages, one after the other. -/
theorem lookup_handleAll (first second : MsgInventoryUpdate) (key : EntityID) :
    (client.handleAll [first, second]).inventories.lookup key
      = (client.inventories.lookup key).map fun before =>
        let middle := if key = first.entityId then first.applied before else before
        if key = second.entityId then second.applied middle else middle := by
  show ((client.handleInventoryUpdate first).handleInventoryUpdate second).inventories.lookup key = _
  rw [lookup_handleInventoryUpdate (handleInventoryUpdate_loaded loaded first), lookup_handleInventoryUpdate loaded,
    Option.map_map]
  rfl

end InventoryClient

/-! ### One inventory, and two -/

theorem kept_all (msg : MsgItemTransfer) (inventory : Inventory) :
    List.Forall₂ (Kept msg) inventory.items inventory.items :=
  List.forall₂_same.mpr fun _ _ => .inl rfl

section Transfer

variable {msg : MsgItemTransfer} {client after : InventoryClient} {source dest : Inventory}

/-- A transfer within one inventory. -/
theorem conserves_same (same : msg.sourceEntityId = msg.destEntityId)
    (stored : client.inventories.lookup msg.sourceEntityId = some source) {later : Inventory}
    (held : after.inventories.lookup msg.sourceEntityId = some later)
    (elsewhere : ∀ key, key ≠ msg.sourceEntityId →
      after.inventories.lookup key = client.inventories.lookup key) :
    Conserves msg client after ↔ later.total msg.itemTemplateId = source.total msg.itemTemplateId
      ∧ List.Forall₂ (Kept msg) source.items later.items := by
  have one : msg.holders = [msg.sourceEntityId] := if_pos same
  have totals : after.total msg = client.total msg
      ↔ later.total msg.itemTemplateId = source.total msg.itemTemplateId := by
    unfold InventoryClient.total
    rw [one]
    simp [held, stored]
  constructor
  · intro conserves
    obtain ⟨found, is, kept⟩ := conserves.slots _ source stored
    rw [held] at is
    cases is
    exact ⟨totals.mp conserves.total, kept⟩
  · rintro ⟨total, kept⟩
    refine ⟨totals.mpr total, fun id inventory before => ?_, fun id outside => ?_⟩
    · by_cases here : id = msg.sourceEntityId
      · subst here
        rw [stored] at before
        cases before
        exact ⟨later, held, kept⟩
      · exact ⟨inventory, (elsewhere id here).trans before, kept_all msg inventory⟩
    · rw [one, List.mem_singleton] at outside
      exact elsewhere id outside

/-- A transfer between two inventories. -/
theorem conserves_apart (apart : msg.sourceEntityId ≠ msg.destEntityId)
    (stored : client.inventories.lookup msg.sourceEntityId = some source)
    (stored' : client.inventories.lookup msg.destEntityId = some dest) {later later' : Inventory}
    (held : after.inventories.lookup msg.sourceEntityId = some later)
    (held' : after.inventories.lookup msg.destEntityId = some later')
    (elsewhere : ∀ key, key ≠ msg.sourceEntityId → key ≠ msg.destEntityId →
      after.inventories.lookup key = client.inventories.lookup key) :
    Conserves msg client after ↔
      later.total msg.itemTemplateId + later'.total msg.itemTemplateId
          = source.total msg.itemTemplateId + dest.total msg.itemTemplateId
        ∧ List.Forall₂ (Kept msg) source.items later.items
        ∧ List.Forall₂ (Kept msg) dest.items later'.items := by
  have two : msg.holders = [msg.sourceEntityId, msg.destEntityId] := if_neg apart
  have totals : after.total msg = client.total msg
      ↔ later.total msg.itemTemplateId + later'.total msg.itemTemplateId
        = source.total msg.itemTemplateId + dest.total msg.itemTemplateId := by
    unfold InventoryClient.total
    rw [two]
    simp [held, stored, held', stored']
  constructor
  · intro conserves
    obtain ⟨found, is, kept⟩ := conserves.slots _ source stored
    obtain ⟨found', is', kept'⟩ := conserves.slots _ dest stored'
    rw [held] at is
    rw [held'] at is'
    cases is
    cases is'
    exact ⟨totals.mp conserves.total, kept, kept'⟩
  · rintro ⟨total, kept, kept'⟩
    refine ⟨totals.mpr total, fun id inventory before => ?_, fun id outside => ?_⟩
    · by_cases here : id = msg.sourceEntityId
      · subst here
        rw [stored] at before
        cases before
        exact ⟨later, held, kept⟩
      · by_cases there : id = msg.destEntityId
        · subst there
          rw [stored'] at before
          cases before
          exact ⟨later', held', kept'⟩
        · exact ⟨inventory, (elsewhere id here there).trans before, kept_all msg inventory⟩
    · rw [two, List.mem_cons, List.mem_singleton, not_or] at outside
      exact elsewhere id outside.1 outside.2

end Transfer

/-! ### Transfers of both orders -/

section Orders

variable {msg : MsgItemTransfer} {client : InventoryClient} {source dest : Inventory}

theorem applied_removal (positive : 0 < msg.quantity) (inventory : Inventory) :
    msg.removal.applied inventory
      = (inventory.change msg.itemTemplateId (Inventory.reduced msg.quantity)).getD inventory := by
  have some : ¬msg.quantity ≤ 0 := Int32.not_le.mpr positive
  unfold MsgInventoryUpdate.applied MsgItemTransfer.removal Inventory.removeItem
  simp [some]

theorem applied_addition (positive : 0 < msg.quantity) (inventory : Inventory) :
    msg.addition.applied inventory
      = (inventory.change msg.itemTemplateId fun count => count + msg.quantity).getD inventory := by
  have some : ¬msg.quantity ≤ 0 := Int32.not_le.mpr positive
  unfold MsgInventoryUpdate.applied MsgItemTransfer.addition Inventory.addItem
  simp [some]

theorem forall_orders {α : Type} {first second : α} {motive : List α → Prop} :
    (∀ order, order.Perm [first, second] → motive order) ↔ motive [first, second] ∧ motive [second, first] := by
  constructor
  · exact fun all => ⟨all _ (.refl _), all _ (.swap _ _ _)⟩
  · rintro ⟨one, two⟩ order perm
    obtain ⟨x, y, rfl⟩ := List.length_eq_two.mp perm.length_eq
    rcases List.mem_pair.mp (perm.mem_iff.mp List.mem_cons_self) with rfl | rfl
    · rw [List.singleton_perm_singleton.mp perm.cons_inv]
      exact one
    · rw [List.singleton_perm_singleton.mp (perm.trans (.swap _ _ _)).cons_inv]
      exact two

theorem kept_count {item : Item} (its : item.templateId = msg.itemTemplateId) (count : Int32) :
    Kept msg (some item) (some { item with stackCount := count }) ↔ count = item.stackCount
      ∨ 0 ≤ count.toInt ∧ |count.toInt - item.stackCount.toInt| ≤ msg.quantity.toInt := by
  obtain ⟨templateId, before⟩ := item
  constructor
  · rintro (same | ⟨other, found, before_is, changed, -, sound, near⟩)
    · exact .inl (congrArg Item.stackCount (Option.some.inj same))
    · cases before_is
      cases changed
      exact .inr ⟨sound, near⟩
  · rintro (rfl | ⟨sound, near⟩)
    · exact .inl rfl
    · exact .inr ⟨_, count, rfl, rfl, its, sound, near⟩

/-- Within one inventory only the count that comes back is conserved. -/
theorem around_same {front back : List (Option Item)} {item : Item} (its : item.templateId = msg.itemTemplateId)
    (count : Int32) : (Inventory.around front item back count).total msg.itemTemplateId
          = (Inventory.around front item back item.stackCount).total msg.itemTemplateId
        ∧ List.Forall₂ (Kept msg) (Inventory.around front item back item.stackCount).items
          (Inventory.around front item back count).items
      ↔ count = item.stackCount := by
  rw [Inventory.total_around _ front back its, Inventory.forall₂_around, kept_count its]
  constructor
  · rintro ⟨total, -⟩
    exact Int32.toInt_inj.mp (by omega)
  · rintro rfl
    exact ⟨by omega, .inl rfl⟩

variable (positive : 0 < msg.quantity) (few : msg.quantity ≤ 10000)

include positive few

/-- There and back within one stack. -/
theorem back_iff (count : Int32) : Inventory.reduced msg.quantity count + msg.quantity = count
      ∧ Inventory.reduced msg.quantity (count + msg.quantity) = count ↔ msg.quantity ≤ count := by
  have range := quantity_range positive few
  have low := count.le_toInt
  have high := count.toInt_lt
  have first := @toInt_reduced msg.quantity count positive few
  have second := @toInt_added msg.quantity (Inventory.reduced msg.quantity count) positive few
  have third := @toInt_added msg.quantity count positive few
  have fourth := @toInt_reduced msg.quantity (count + msg.quantity) positive few
  rw [← Int32.toInt_inj, ← Int32.toInt_inj, Int32.le_iff_toInt_le]
  omega

theorem transfer_same (loaded : client.gameLoaded = true) (same : msg.sourceEntityId = msg.destEntityId)
    (stored : client.inventories.lookup msg.sourceEntityId = some source) :
    (∀ order, order.Perm msg.updates → Conserves msg client (client.handleAll order))
      ↔ ∀ count, source.first msg.itemTemplateId = some count → msg.quantity ≤ count := by
  -- both messages are about the one inventory, in either order
  have held (first second : MsgInventoryUpdate) (its : first.entityId = msg.sourceEntityId)
      (its' : second.entityId = msg.sourceEntityId) :
      (client.handleAll [first, second]).inventories.lookup msg.sourceEntityId
        = some (second.applied (first.applied source)) := by
    rw [InventoryClient.lookup_handleAll loaded, stored, its, its']
    simp
  have elsewhere (first second : MsgInventoryUpdate) (its : first.entityId = msg.sourceEntityId)
      (its' : second.entityId = msg.sourceEntityId) (key : EntityID) (other : key ≠ msg.sourceEntityId) :
      (client.handleAll [first, second]).inventories.lookup key = client.inventories.lookup key := by
    rw [InventoryClient.lookup_handleAll loaded, its, its']
    simp [other]
  unfold MsgItemTransfer.updates
  rw [forall_orders,
    conserves_same same stored (held msg.removal msg.addition rfl same.symm) (elsewhere _ _ rfl same.symm),
    conserves_same same stored (held msg.addition msg.removal same.symm rfl) (elsewhere _ _ same.symm rfl),
    applied_addition positive, applied_addition positive, applied_removal positive, applied_removal positive]
  rcases source.shape msg.itemTemplateId with
    ⟨missing, unchanged⟩ | ⟨front, item, back, shaped, its, found, changed⟩
  · rw [missing, unchanged, unchanged, Option.getD_none, unchanged, unchanged]
    exact iff_of_true ⟨⟨rfl, kept_all msg source⟩, rfl, kept_all msg source⟩ fun count none => by cases none
  · rw [found, shaped, changed, changed, Option.getD_some, Option.getD_some, changed, changed, Option.getD_some,
      Option.getD_some, around_same its, around_same its, back_iff positive few]
    simp

theorem transfer_apart (loaded : client.gameLoaded = true) (apart : msg.sourceEntityId ≠ msg.destEntityId)
    (stored : client.inventories.lookup msg.sourceEntityId = some source)
    (stored' : client.inventories.lookup msg.destEntityId = some dest) :
    (∀ order, order.Perm msg.updates → Conserves msg client (client.handleAll order))
      ↔ Conserving msg source dest := by
  have range := quantity_range positive few
  -- the two messages are about two inventories, and their order does not matter
  have here (first second : MsgInventoryUpdate) (its : first.entityId ≠ second.entityId) {inventory : Inventory}
      (before : client.inventories.lookup first.entityId = some inventory) :
      (client.handleAll [first, second]).inventories.lookup first.entityId = some (first.applied inventory) := by
    rw [InventoryClient.lookup_handleAll loaded, before]
    simp [its]
  have there (first second : MsgInventoryUpdate) (its : first.entityId ≠ second.entityId) {inventory : Inventory}
      (before : client.inventories.lookup second.entityId = some inventory) :
      (client.handleAll [first, second]).inventories.lookup second.entityId = some (second.applied inventory) := by
    rw [InventoryClient.lookup_handleAll loaded, before]
    simp [its.symm]
  have elsewhere (first second : MsgInventoryUpdate) (key : EntityID) (other : key ≠ first.entityId)
      (other' : key ≠ second.entityId) :
      (client.handleAll [first, second]).inventories.lookup key = client.inventories.lookup key := by
    rw [InventoryClient.lookup_handleAll loaded]
    simp [other, other']
  unfold MsgItemTransfer.updates Conserving
  rw [forall_orders,
    conserves_apart apart stored stored' (here msg.removal msg.addition apart stored)
      (there msg.removal msg.addition apart stored') (elsewhere msg.removal msg.addition),
    conserves_apart apart stored stored' (there msg.addition msg.removal apart.symm stored)
      (here msg.addition msg.removal apart.symm stored')
      fun key other other' => elsewhere msg.addition msg.removal key other' other,
    and_self_iff, if_neg apart, applied_addition positive, applied_removal positive]
  rcases source.shape msg.itemTemplateId with
    ⟨missing, unchanged⟩ | ⟨front, item, back, shaped, its, found, changed⟩
  · rcases dest.shape msg.itemTemplateId with
      ⟨missing', unchanged'⟩ | ⟨front', item', back', shaped', its', found', changed'⟩
    · rw [missing, missing', unchanged, unchanged', Option.getD_none, Option.getD_none]
      exact iff_of_true ⟨rfl, kept_all msg source, kept_all msg dest⟩ trivial
    · have added := @toInt_added msg.quantity item'.stackCount positive few
      rw [missing, found', unchanged, shaped', changed', Option.getD_none, Option.getD_some,
        Inventory.total_around _ front' back' its']
      refine iff_of_false ?_ id
      rintro ⟨total, -⟩
      omega
  · have reduced := @toInt_reduced msg.quantity item.stackCount positive few
    rcases dest.shape msg.itemTemplateId with
      ⟨missing', unchanged'⟩ | ⟨front', item', back', shaped', its', found', changed'⟩
    · rw [found, missing', unchanged', shaped, changed, Option.getD_none, Option.getD_some,
        Inventory.total_around _ front back its, Inventory.forall₂_around, kept_count its]
      have zero : (0 : Int32).toInt = 0 := rfl
      show _ ↔ item.stackCount = 0
      rw [← Int32.toInt_inj, ← Int32.toInt_inj, zero]
      constructor
      · rintro ⟨total, -⟩
        omega
      · intro empty
        have low := item.stackCount.le_toInt
        exact ⟨by omega, .inl (by omega), kept_all msg dest⟩
    · have added := @toInt_added msg.quantity item'.stackCount positive few
      rw [found, found', shaped, shaped', changed, changed', Option.getD_some, Option.getD_some,
        Inventory.total_around _ front back its, Inventory.total_around _ front' back' its',
        Inventory.forall₂_around, Inventory.forall₂_around, kept_count its, kept_count its', abs_le, abs_le]
      show _ ↔ msg.quantity ≤ item.stackCount ∧ 0 ≤ item'.stackCount.toInt + msg.quantity.toInt
        ∧ item'.stackCount.toInt + msg.quantity.toInt < 2 ^ 31
      rw [Int32.le_iff_toInt_le, ← Int32.toInt_inj, ← Int32.toInt_inj]
      have low := item.stackCount.le_toInt
      have high := item.stackCount.toInt_lt
      omega

end Orders

/-- **An accepted transfer** is sent to the others as two messages, and in both orders these conserve the item
exactly under the condition. -/
theorem item_transfer {server : GameServer} {player : ConnectedPlayer} {reader : PacketReader}
    {msg : MsgItemTransfer} (accepted : server.AcceptsTransfer player reader msg) {client : InventoryClient}
    (loaded : client.gameLoaded = true) {source dest : Inventory}
    (stored : client.inventories.lookup msg.sourceEntityId = some source)
    (stored' : client.inventories.lookup msg.destEntityId = some dest) :
    server.handleItemTransfer player reader = (server, msg.updates.flatMap fun update =>
        server.broadcastExcept player.id KMP_CHANNEL_RELIABLE_UNORDERED (.inventoryUpdate update))
      ∧ ((∀ order, order.Perm msg.updates → Conserves msg client (client.handleAll order))
        ↔ Conserving msg source dest) := by
  obtain ⟨⟨rest, read⟩, owns, dest_known, positive, few⟩ := accepted
  constructor
  · have known : ¬(server.entities.lookup msg.destEntityId).isNone = true := by
      obtain ⟨entity, found⟩ := Option.isSome_iff_exists.mp dest_known
      rw [found]
      exact Bool.false_ne_true
    have range : ¬(msg.quantity ≤ 0 ∨ 10000 < msg.quantity) :=
      not_or.mpr ⟨Int32.not_le.mpr positive, Int32.not_lt.mpr few⟩
    unfold GameServer.handleItemTransfer GameServer.onMessage
    rw [read]
    simp only [owns, Bool.not_true, Bool.false_eq_true, if_false, known, range]
    simp [MsgItemTransfer.updates, MsgItemTransfer.removal, MsgItemTransfer.addition]
  · by_cases same : msg.sourceEntityId = msg.destEntityId
    · rw [transfer_same positive few loaded same stored]
      unfold Conserving
      rw [if_pos same]
    · exact transfer_apart positive few loaded same stored stored'

/-! ### A destination without the item -/

/-- A server with one player, who owns the first of two characters. -/
def shop : GameServer :=
  ({ config := {} : GameServer }.addEntity { id := 1, owner := 1 }).addEntity { id := 2 }

def trader : ConnectedPlayer := { id := 1, name := [], peer := 0, ping := 0, lastUpdate := lit 0 1 }

/-- Three pieces of the item 7. -/
def handover : MsgItemTransfer := ⟨1, 2, 7, 3⟩

def handoverReader : PacketReader := PacketReader.start (MsgItemTransfer.codec.encode handover)

theorem accepts_handover : shop.AcceptsTransfer trader handoverReader handover := by
  obtain ⟨rest, read, -, -⟩ := PacketReader.readRaw_append MsgItemTransfer.codec handoverReader handover []
    (List.append_nil _).symm
  exact ⟨⟨rest, read⟩, by decide +kernel, by decide +kernel, by decide, by decide⟩

/-- The inventories of a client: five pieces at the source. -/
def bags (dest : List (Option Item)) : InventoryClient where
  gameLoaded := true
  inventories := AList.insert 2 ⟨dest⟩ (AList.insert 1 ⟨[none, some ⟨7, 5⟩, some ⟨8, 1⟩]⟩ ∅)

theorem conserving_handover : Conserving handover ⟨[none, some ⟨7, 5⟩, some ⟨8, 1⟩]⟩ ⟨[some ⟨7, 1⟩]⟩ := by
  unfold Conserving
  rw [if_neg (by decide)]
  show (3 : Int32) ≤ 5 ∧ 0 ≤ (1 : Int32).toInt + (3 : Int32).toInt ∧ (1 : Int32).toInt + (3 : Int32).toInt < 2 ^ 31
  decide

theorem item_transfer_handover : Conserves handover (bags [some ⟨7, 1⟩])
    ((bags [some ⟨7, 1⟩]).handleAll [handover.addition, handover.removal]) :=
  (@item_transfer shop trader handoverReader handover accepts_handover (bags [some ⟨7, 1⟩]) rfl
    ⟨[none, some ⟨7, 5⟩, some ⟨8, 1⟩]⟩ ⟨[some ⟨7, 1⟩]⟩ (by decide) (by decide)).2.mpr conserving_handover _
    (.swap _ _ _)

/-- **The destination has no stack**: the item is gone. -/
theorem item_transfer_fails : ¬∀ (server : GameServer) (player : ConnectedPlayer) (reader : PacketReader)
    (msg : MsgItemTransfer) (client : InventoryClient) (source dest : Inventory),
    server.AcceptsTransfer player reader msg → client.gameLoaded = true →
    client.inventories.lookup msg.sourceEntityId = some source →
    client.inventories.lookup msg.destEntityId = some dest →
    ∀ order, order.Perm msg.updates → Conserves msg client (client.handleAll order) := by
  intro always
  have conserves := always shop trader handoverReader handover (bags []) ⟨[none, some ⟨7, 5⟩, some ⟨8, 1⟩]⟩ ⟨[]⟩
    accepts_handover rfl (by decide) (by decide) handover.updates (.refl _)
  exact absurd conserves.total (by decide +kernel)

end KenshiMP
