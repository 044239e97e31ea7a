/-
**The queue of the spawn manager, and its processor on the game thread.**

Every operation takes the mutex of the queue once. The processor takes the whole queue, works on it without
the mutex, and puts back what it could not spawn; when the original function is not known it puts back all
of it, by a swap. What it finds of the templates, and what the game makes of them, is an input.

A request has a number here, by which it is followed: one that a caller has popped may be put back by this
caller. What becomes of a request is recorded. Left out are the log, the events of the pipeline, and what is
written into a character.
-/

import KenshiMP.Client.World

namespace KenshiMP

open Wire (Bytes)
open Assoc

/-- A request that is followed; its attempts are counted since it was queued last. -/
structure SpawnEntry where
  number : Nat
  queuedRetries : UInt32
  attempts : Nat := 0
  request : FactoryRequest

inductive SpawnFate where
  | spawned (character : GameObject)
  | cleared
  | dropped
deriving DecidableEq, Repr

/-- Where `ProcessSpawnQueueFromHook` is: it has the queue, is about to put all of it back, or works. -/
inductive SpawnProcessor where
  | outside
  | swapped (toProcess : List SpawnEntry)
  | returning (toProcess : List SpawnEntry)
  | working (toProcess retryQueue : List SpawnEntry)

/-- What the processor finds. -/
structure SpawnFindings where
  origProcess : GameObject
  factory : GameObject
  modTemplateCount : Int
  modPlayerTemplates : Nat → GameObject
  characterTemplates : AMap Bytes GameObject
  lastCharacterTemplate : GameObject
  factoryInputTemplates : AMap Bytes GameObject
  lastFactoryInput : GameObject
  /-- what `CallFactoryCreate` returns -/
  created : GameObject
  /-- what the original function returns -/
  processed : GameObject

namespace SpawnFindings

variable (found : SpawnFindings)

def MAX_MOD_TEMPLATES : Int := 16

def modSlot (owner : PlayerID) : Int :=
  let slot : Int :=
    if 0 < found.modTemplateCount ∧ 0 < owner then (owner.toInt32.toInt - 1).tmod found.modTemplateCount
    else 0
  if slot < 0 ∨ found.modTemplateCount ≤ slot then 0 else slot

def spawnWithModTemplate (playerSlot : Int) : GameObject :=
  if playerSlot < 0 ∨ MAX_MOD_TEMPLATES ≤ playerSlot then 0
  else if found.modPlayerTemplates playerSlot.toNat = 0 then 0
  else if found.factory = 0 then 0
  else if ClientWorld.isCharacter 0x10001 found.created then found.created else 0

/-- The template by its name, then any, of characters before the inputs of the factory. -/
def templateData (templateName : Bytes) : GameObject :=
  let named (templates : AMap Bytes GameObject) : GameObject :=
    if templateName = [] then 0 else (templates.lookup templateName).getD 0
  let candidates := [named found.characterTemplates, found.lastCharacterTemplate,
    named found.factoryInputTemplates, found.lastFactoryInput]
  (candidates.find? fun candidate => candidate ≠ 0).getD 0

/-- The character for a request, or zero. -/
def character (req : FactoryRequest) : GameObject :=
  let fromMod := found.spawnWithModTemplate (found.modSlot req.owner)
  if fromMod ≠ 0 then fromMod
  else if found.templateData req.templateName = 0 then 0
  else found.processed

end SpawnFindings

structure SpawnManager where
  spawnQueue : List SpawnEntry := []
  processor : SpawnProcessor := .outside
  /-- with the callers of `PopNextSpawn` -/
  popped : List SpawnEntry := []
  nextNumber : Nat := 0
  fates : List (SpawnEntry × SpawnFate) := []
  /-- the number that was next when the requests of a player were cleared last -/
  clearedBelow : PlayerID → Nat := fun _ => 0

namespace SpawnEntry

variable (entry : SpawnEntry)

/-- An attempt has failed. -/
def retried : SpawnEntry :=
  { entry with
    attempts := entry.attempts + 1
    request := { entry.request with retryCount := entry.request.retryCount + 1 } }

/-- A caller puts the request back, with its own count. -/
def requeued (retryCount : UInt32) : SpawnEntry :=
  { entry with
    queuedRetries := retryCount, attempts := 0, request := { entry.request with retryCount := retryCount } }

end SpawnEntry

namespace SpawnManager

variable (manager : SpawnManager)

def queueSpawn (request : FactoryRequest) : SpawnManager :=
  { manager with
    spawnQueue := manager.spawnQueue
      ++ [{ number := manager.nextNumber, queuedRetries := request.retryCount, request := request }]
    nextNumber := manager.nextNumber + 1 }

def popNextSpawn : SpawnManager :=
  match manager.spawnQueue with
  | [] => manager
  | entry :: rest => { manager with spawnQueue := rest, popped := manager.popped ++ [entry] }

/-- The caller that has popped this request puts it back. -/
def requeueSpawn (number : Nat) (retryCount : UInt32) : SpawnManager :=
  match manager.popped.find? fun entry => entry.number = number with
  | none => manager
  | some entry =>
    { manager with
      popped := manager.popped.eraseP fun entry => entry.number = number
      spawnQueue := manager.spawnQueue ++ [entry.requeued retryCount] }

def clear (removes : SpawnEntry → Bool) : SpawnManager :=
  { manager with
    spawnQueue := manager.spawnQueue.filter fun entry => !removes entry
    fates := manager.fates ++ (manager.spawnQueue.filter removes).map fun entry => (entry, .cleared) }

def clearSpawnsForOwner (owner : PlayerID) : SpawnManager :=
  { manager.clear fun entry => entry.request.owner = owner with
    clearedBelow := Function.update manager.clearedBelow owner manager.nextNumber }

def clearSpawnQueue : SpawnManager := manager.clear fun _ => true

/-- One request: it is spawned, kept for later, or dropped. -/
def processOne (found : SpawnFindings) (entry : SpawnEntry) (rest retryQueue : List SpawnEntry) : SpawnManager :=
  let character := found.character entry.request
  if character ≠ 0 then
    { manager with
      processor := .working rest retryQueue, fates := manager.fates ++ [(entry, .spawned character)] }
  else if entry.retried.request.retryCount < MAX_SPAWN_RETRIES then
    { manager with processor := .working rest (retryQueue ++ [entry.retried]) }
  else
    { manager with
      processor := .working rest retryQueue, fates := manager.fates ++ [(entry.retried, .dropped)] }

/-- The next step of `ProcessSpawnQueueFromHook`. -/
def processSpawnQueueFromHook (found : SpawnFindings) : SpawnManager :=
  match manager.processor with
  | .outside =>
    if manager.spawnQueue = [] then manager
    else { manager with spawnQueue := [], processor := .swapped manager.spawnQueue }
  | .swapped toProcess =>
    { manager with
      processor := if found.origProcess = 0 then .returning toProcess else .working toProcess [] }
  -- the swap takes what is in the queue out of it, and nobody keeps that
  | .returning toProcess => { manager with spawnQueue := toProcess, processor := .outside }
  | .working (entry :: rest) retryQueue => manager.processOne found entry rest retryQueue
  | .working [] retryQueue =>
    { manager with spawnQueue := manager.spawnQueue ++ retryQueue, processor := .outside }

inductive Event where
  | queueSpawn (request : FactoryRequest)
  | popNextSpawn
  | requeueSpawn (number : Nat) (retryCount : UInt32)
  | clearSpawnsForOwner (owner : PlayerID)
  | clearSpawnQueue
  | process (found : SpawnFindings)

def step (manager : SpawnManager) : Event → SpawnManager
  | .queueSpawn request => manager.queueSpawn request
  | .popNextSpawn => manager.popNextSpawn
  | .requeueSpawn number retryCount => manager.requeueSpawn number retryCount
  | .clearSpawnsForOwner owner => manager.clearSpawnsForOwner owner
  | .clearSpawnQueue => manager.clearSpawnQueue
  | .process found => manager.processSpawnQueueFromHook found

/-- The machine of the queue; it has no outputs. -/
def machine : Machine SpawnManager Event Empty where
  step manager event := (manager.step event, [])

end SpawnManager

end KenshiMP
