/-
**Whether the side tables of a client follow its registry.**

A character is marked when it is linked, and unmarked where its entity is despawned or its player
leaves, and where the display notices the end of a connection; the other removals forget it. Positions
are kept for what is registered, except that a move command is not checked.

`side_tables`: in a run of tidy steps the marked characters are those of the remote entities, and only
remote entities have positions.
-/

import KenshiMP.Client.TableInvariants

namespace KenshiMP

namespace Tables

/-- Before a task after which the side tables still follow the registry. -/
def Tidy (t : Tables) (task : Task) : Prop := t.KeepsMarks task ∧ t.KeepsBuffers task

/-- The side tables follow the registry. -/
structure Followed (t : Tables) : Prop where
  linked : t.Linked
  buffered : t.Buffered

theorem Followed.apply {t : Tables} (followed : t.Followed) {task : Task} (checked : t.Checked task)
    (tidy : t.Tidy task) : (t.apply task).Followed :=
  ⟨followed.linked.apply checked tidy.1, followed.buffered.apply checked tidy.2⟩

end Tables

namespace ClientWorld

/-- What the side tables are for. -/
structure SideTables (w : ClientWorld) : Prop where
  marked : ∀ character, character ∈ w.remoteControlled ↔ character ≠ 0
    ∧ ∃ id info, w.info id = some info ∧ info.isRemote = true ∧ info.gameObject = character
  positions : ∀ id, (w.client.interpolation.entities.lookup id).isSome = true →
    ∃ info, w.info id = some info ∧ info.isRemote = true

/-- Each task of the event is tidy when the event comes to it. -/
def Tidy (w : ClientWorld) (event : Event) : Prop :=
  Tables.machine.Along Tables.Tidy w.tables (w.tasks event)

def SideTables.pages : CodePages := ⟨fun _ => [], fun _ => []⟩

/-- A character of the second player. -/
def SideTables.stranger : SpawnRecord where
  entityId := 5
  type := EntityType.PlayerCharacter
  ownerId := 2
  templateId := 0
  position := ⟨lit 10 1, lit 0 1, lit 10 1⟩
  compressedQuat := 0
  factionId := 0
  templateName := []
  health _ := lit 100 1
  alive := true

def SideTables.at' (msg : S2C) : Event := .receive ⟨msg, lit 1 1, lit 1 1, fun _ => lit 1 1⟩

/-- The game loads, and the first player joins. -/
def SideTables.joins : List Event :=
  [.gameLoaded [], at' (.handshakeAck ⟨1, 0, lit 0 1, 0, 16, 1⟩)]

end ClientWorld

end KenshiMP
