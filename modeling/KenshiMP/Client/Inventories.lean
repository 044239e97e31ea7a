/-
**Inventories of the characters on a client.**

An inventory is an array of pointers to items, some of them null; a count of ten thousand or more is taken
for garbage, and nothing is found in such an inventory. An item can only be added to a stack that is there,
as a client cannot make items. A null array, offsets that are not known, and memory that cannot be read or
written are left out: nothing is found there either.
-/

import KenshiMP.Lib.Assoc
import KenshiMP.Protocol

namespace KenshiMP

open Assoc

structure Item where
  templateId : UInt32
  stackCount : Int32
deriving DecidableEq

structure Inventory where
  items : List (Option Item)
deriving DecidableEq

namespace Inventory

variable (inventory : Inventory)

def getItemCount : Nat := if inventory.items.length < 10000 then inventory.items.length else 0

/-- Change the first stack of a template in an array, if there is one. -/
def changeStack (templateId : UInt32) (f : Int32 → Int32) : List (Option Item) → Option (List (Option Item))
  | [] => none
  | none :: rest => (changeStack templateId f rest).map (none :: ·)
  | some item :: rest =>
    if item.templateId = templateId then some (some { item with stackCount := f item.stackCount } :: rest)
    else (changeStack templateId f rest).map (some item :: ·)

/-- Change the first stack of a template among the items that are counted. -/
def change (templateId : UInt32) (f : Int32 → Int32) : Option Inventory :=
  (changeStack templateId f (inventory.items.take inventory.getItemCount)).map fun items =>
    ⟨items ++ inventory.items.drop inventory.getItemCount⟩

/-- The inventory afterwards, or nothing where the call returns false. -/
def addItem (templateId : UInt32) (quantity : Int32) : Option Inventory :=
  if quantity ≤ 0 then none else inventory.change templateId fun existingQty => existingQty + quantity

/-- What is left of a stack. -/
def reduced (quantity existingQty : Int32) : Int32 :=
  let newQty := existingQty - quantity
  if newQty < 0 then 0 else newQty

def removeItem (templateId : UInt32) (quantity : Int32) : Option Inventory :=
  if quantity ≤ 0 then none else inventory.change templateId (reduced quantity)

end Inventory

/-- The inventories of the characters that entities are linked with. -/
structure InventoryClient where
  gameLoaded : Bool
  inventories : AMap EntityID Inventory

namespace InventoryClient

variable (client : InventoryClient)

/-- Take over the result of a change. -/
def store (id : EntityID) : Option Inventory → InventoryClient
  | none => client
  | some changed => { client with inventories := AList.insert id changed client.inventories }

def handleInventoryUpdate (msg : MsgInventoryUpdate) : InventoryClient :=
  if !client.gameLoaded then client
  else
    match client.inventories.lookup msg.entityId with
    | none => client
    | some inventory =>
      if msg.action = 0 then client.store msg.entityId (inventory.addItem msg.itemTemplateId msg.quantity)
      else if msg.action = 1 then
        client.store msg.entityId (inventory.removeItem msg.itemTemplateId msg.quantity)
      else client

end InventoryClient

end KenshiMP
