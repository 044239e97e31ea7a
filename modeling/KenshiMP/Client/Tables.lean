/-
**The side tables of a client, and what may happen to them.**

`Tables` is what is left of a client when only its entities, their characters and the tables around
them count. A `Task` is what one handler does to all of the tables for one entity, for one request or
for one player; whatever a client does is a list of tasks.

This says what the tables are for and names no handler. `Client/Tasks.lean` says which tasks each
handler of a client performs.
-/

import KenshiMP.Client.RegistryFacts
import KenshiMP.Client.World

namespace KenshiMP

/-- What counts of an entity. -/
structure Row where
  remote : Bool
  object : GameObject
  owner : PlayerID
  spawning : Bool
deriving DecidableEq

@[ext]
structure Tables where
  rows : EntityID → Option Row
  /-- the entity that a character is linked to -/
  ids : GameObject → Option EntityID
  /-- the entities with positions in the interpolation -/
  buffers : EntityID → Bool
  marks : Finset GameObject
  /-- the requests, each with its entity and its player -/
  queue : List (EntityID × PlayerID)
  hijacks : PlayerID → Nat
  directs : PlayerID → Nat
  paths : EntityID → Option SpawnPath

/-- What becomes of a request that is taken from the queue. -/
inductive RequestFate where
  /-- its entity has a character; the request counts nevertheless -/
  | discard
  /-- nothing becomes of it -/
  | drop
  | give (path : SpawnPath) (character : GameObject)
  | requeue
  /-- there were too many attempts, and the entity is removed -/
  | exhaust
  /-- it is given up, and counted back -/
  | release
deriving DecidableEq

inductive Task where
  /-- an entity is announced, with the entities that get positions; it gets a character or a request -/
  | announce (id : EntityID) (owner : PlayerID) (buffered : List EntityID) (character : Option GameObject)
  /-- an entity is announced that needs no character -/
  | build (id : EntityID) (owner : PlayerID)
  | snapshot (id : EntityID)
  | link (id : EntityID) (character : GameObject)
  | take (fate : RequestFate)
  | retire (cleanUp : CleanUp) (owner : PlayerID) (id : EntityID)
  | unbuffer (id : EntityID)
  /-- a player leaves, with the entities of the player -/
  | leave (owner : PlayerID) (ids : List EntityID)
  | resetHijacks
  | resetDirects
  | disconnect (unmarks : Bool)
  | reload
  | lose (id : EntityID)
  | own (id : EntityID) (character : GameObject) (owner : PlayerID)
  | confirm (oldId newId : EntityID)
deriving DecidableEq

namespace Tables

variable (t : Tables)

/-- The character of an entity, or zero. -/
def object (id : EntityID) : GameObject := ((t.rows id).map Row.object).getD 0

def register (id : EntityID) (owner : PlayerID) : Tables :=
  match t.rows id with
  | some _ => t
  | none => { t with rows := Function.update t.rows id (some ⟨true, 0, owner, true⟩) }

/-- An address is forgotten. -/
def unlink (object : GameObject) : GameObject → Option EntityID :=
  if object = 0 then t.ids else Function.update t.ids object none

/-- A known entity gets a character, or none. -/
def setObject (id : EntityID) (object : GameObject) : Tables :=
  match t.rows id with
  | none => t
  | some row =>
    { t with
      rows := Function.update t.rows id
        (some { row with object := object, spawning := row.spawning && object = 0 })
      ids :=
        if object = 0 then t.unlink row.object
        else Function.update (t.unlink row.object) object (some id) }

def unregister (id : EntityID) : Tables :=
  { t with rows := Function.update t.rows id none, ids := t.unlink (t.object id) }

def note (path : SpawnPath) (id : EntityID) (character : GameObject) : Tables :=
  { t with
    paths := if t.object id = character then t.paths else Function.update t.paths id (some path) }

/-- A character is given to an entity, and marked. -/
def embody (path : SpawnPath) (id : EntityID) (character : GameObject) : Tables :=
  { (t.note path id character).setObject id (EntityRegistry.linkable character) with
    marks := insert character t.marks }

def decrement (owner : PlayerID) : Tables :=
  { t with hijacks := Function.update t.hijacks owner (t.hijacks owner - 1) }

def count (path : SpawnPath) (owner : PlayerID) : Tables :=
  match path with
  | .direct => { t with directs := Function.update t.directs owner (t.directs owner + 1) }
  | .hijack => { t with hijacks := Function.update t.hijacks owner (t.hijacks owner + 1) }
  | _ => t

def retire (cleanUp : CleanUp) (owner : PlayerID) (id : EntityID) : Tables :=
  { t.unregister id with
    marks := if cleanUp.unmarks && t.object id ≠ 0 then t.marks.erase (t.object id) else t.marks
    hijacks :=
      if cleanUp.counts then Function.update t.hijacks owner (t.hijacks owner - 1) else t.hijacks
    buffers := if cleanUp.forgets then Function.update t.buffers id false else t.buffers }

def buffer (ids : List EntityID) : Tables :=
  { t with buffers := fun id => t.buffers id || id ∈ ids }

def purge (owner : PlayerID) : Tables :=
  { t with queue := t.queue.filter fun request => request.2 ≠ owner }

/-- The entities of other players. -/
def IsRemote (id : EntityID) : Prop := ∃ row, t.rows id = some row ∧ row.remote = true

/-- The characters of the entities of other players. -/
def IsLinked (object : GameObject) : Prop :=
  object ≠ 0 ∧ ∃ id row, t.rows id = some row ∧ row.remote = true ∧ row.object = object

open Classical in
/-- The remote entities go, with all positions and requests. -/
noncomputable def disconnect (unmarks : Bool) : Tables :=
  { t with
    rows := fun id => (t.rows id).filter fun row => !row.remote
    ids := fun object => if t.IsLinked object then none else t.ids object
    buffers := fun _ => false
    marks := if unmarks then t.marks.filter fun object => ¬ t.IsLinked object else t.marks
    queue := [] }

def reload : Tables :=
  { t with rows := fun _ => none, ids := fun _ => none, buffers := fun _ => false }

def take (fate : RequestFate) : Tables :=
  match t.queue with
  | [] => t
  | (id, owner) :: rest =>
    let popped := { t with queue := rest }
    match fate with
    | .discard => popped.count .direct owner
    | .drop => popped
    | .give path character => (popped.embody path id character).count path owner
    | .requeue => { t with queue := rest ++ [(id, owner)] }
    | .exhaust => popped.retire ⟨false, true, true⟩ owner id
    | .release => popped.decrement owner

/-- An own entity gets another number. -/
def confirm (oldId newId : EntityID) : Tables :=
  match t.rows oldId, t.rows newId with
  | some row, none =>
    { t with
      rows := Function.update (Function.update t.rows oldId none) newId (some row)
      ids := if row.object = 0 then t.ids else Function.update t.ids row.object (some newId) }
  | _, _ => t

noncomputable def apply (t : Tables) : Task → Tables
  | .announce id owner buffered character =>
    let introduced := (t.register id owner).buffer buffered
    match character with
    | some character => introduced.embody .link id character
    | none => { introduced with queue := t.queue ++ [(id, owner)] }
  | .build id owner => t.register id owner
  | .snapshot id => t.buffer [id]
  | .link id character => t.embody .link id character
  | .take fate => t.take fate
  | .retire cleanUp owner id => t.retire cleanUp owner id
  | .unbuffer id => { t with buffers := Function.update t.buffers id false }
  | .leave owner ids => ids.foldl (fun t id => t.retire ⟨true, true, true⟩ owner id) (t.purge owner)
  | .resetHijacks => { t with hijacks := fun _ => 0 }
  | .resetDirects => { t with directs := fun _ => 0 }
  | .disconnect unmarks => t.disconnect unmarks
  | .reload => t.reload
  | .lose id => t.setObject id 0
  | .own id character owner =>
    { t with
      rows := Function.update t.rows id (some ⟨false, character, owner, false⟩)
      ids := Function.update t.ids character (some id) }
  | .confirm oldId newId => t.confirm oldId newId

/-- The machine of the tables; it has no outputs. -/
noncomputable def machine : Machine Tables Task Empty where
  step t task := (t.apply task, [])

end Tables

/-! ### The tables of a client -/

def Row.of (info : EntityInfo) : Row where
  remote := info.isRemote
  object := info.gameObject
  owner := info.ownerPlayerId
  spawning := info.state = .Spawning

def EntityRegistry.rows (registry : EntityRegistry) (id : EntityID) : Option Row :=
  (registry.getInfo id).map Row.of

def EntityRegistry.ids (registry : EntityRegistry) (object : GameObject) : Option EntityID :=
  registry.ptrToId.lookup object

def Interpolation.buffers (interp : Interpolation) (id : EntityID) : Bool :=
  (interp.entities.lookup id).isSome

def ClientWorld.tables (w : ClientWorld) : Tables where
  rows := w.client.registry.rows
  ids := w.client.registry.ids
  buffers := w.client.interpolation.buffers
  marks := w.remoteControlled
  queue := w.client.spawnQueue.map fun req => (req.netId, req.owner)
  hijacks := w.spawnsPerPlayer
  directs := w.directSpawnsPerPlayer
  paths := w.paths

end KenshiMP
