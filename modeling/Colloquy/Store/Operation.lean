import Colloquy.Store

/-!
# Operations on the store

An `Operation` is a change of the store as data, with the time that was drawn for it where the store
notes one. `Store.perform` carries it out, and `Store.step` leaves the store as it was if the
operation is refused. The stores that there can be are those that a run of operations leads to from
the empty store (`Store.Reachable`).
-/

namespace Colloquy.Store

/-- A change of the store. -/
inductive Operation where
  | migrate
  | createSpace (space : Space)
  | updateSpaceConfigs (now : Instant) (id : Uuid) (configs : JsonObject)
  | deleteSpace (id : Uuid)
  | createSession (session : Session)
  | updateSessionConfigs (now : Instant) (id : Uuid) (configs : JsonObject)
  | connectSession (now : Instant) (id spaceId : Uuid)
  | deleteSession (id : Uuid)
  | insertMessage (message : Message)
  | setProcessStatus (now : Instant) (ids : List Uuid) (status : TaskStatus)
  | insertTask (task : Task)
  | updateTaskStatus (now : Instant) (id : Uuid) (status : TaskStatus)
  | markTaskDigested (now : Instant) (id : Uuid)
  | createDisk (disk : Disk)
  | deleteDisk (id : Uuid)

/-- Carries out an operation. -/
def perform (s : Store) : Operation → Except StoreError Store
  | .migrate => s.migrate
  | .createSpace space => s.createSpace space
  | .updateSpaceConfigs now id configs => s.updateSpaceConfigs now id configs
  | .deleteSpace id => s.deleteSpace id
  | .createSession session => s.createSession session
  | .updateSessionConfigs now id configs => s.updateSessionConfigs now id configs
  | .connectSession now id spaceId => s.connectSession now id spaceId
  | .deleteSession id => s.deleteSession id
  | .insertMessage message => (s.insertMessage message).map (·.1)
  | .setProcessStatus now ids status => (s.setProcessStatus now ids status).map (·.1)
  | .insertTask task => s.insertTask task
  | .updateTaskStatus now id status => s.updateTaskStatus now id status
  | .markTaskDigested now id => s.markTaskDigested now id
  | .createDisk disk => s.createDisk disk
  | .deleteDisk id => s.deleteDisk id

/-- The store after an operation, which is the store before it if the operation is refused. -/
def step (s : Store) (op : Operation) : Store :=
  match s.perform op with
  | .ok s => s
  | .error _ => s

/-- The store after operations one after another. -/
def run (s : Store) (ops : List Operation) : Store :=
  ops.foldl step s

/-- The stores that operations lead to. -/
def Reachable (s : Store) : Prop :=
  ∃ ops, s = empty.run ops

end Colloquy.Store
