import Colloquy.Part
import Colloquy.Uuid
import Colloquy.Instant.Format
import Colloquy.Instant.Parse

/-!
# Records

The records of the store. A project owns spaces, sessions and disks; a session may be connected to
a space and holds messages and tasks. Messages of a session form a chain: each names the one
inserted before it as its parent.
-/

namespace Colloquy

/-- A place where a project gathers what its sessions teach. -/
structure Space where
  id : Uuid
  projectId : Uuid
  configs : JsonObject
  createdAt : Instant
  updatedAt : Instant

/-- A conversation. -/
structure Session where
  id : Uuid
  projectId : Uuid
  /-- The space that the session is connected to. -/
  spaceId : Option Uuid
  configs : JsonObject
  createdAt : Instant
  updatedAt : Instant

/-- A message of a session. -/
structure Message where
  id : Uuid
  sessionId : Uuid
  /-- The message inserted into the session just before this one. -/
  parentId : Option Uuid
  role : MessageRole
  metadata : JsonObject
  parts : List Part
  /-- The task that the message belongs to. -/
  taskId : Option Uuid
  /-- How far the extraction of the message got. -/
  processStatus : TaskStatus
  createdAt : Instant
  updatedAt : Instant

/-- A task of a session. -/
structure Task where
  id : Uuid
  sessionId : Uuid
  /-- The place of the task in its session, taken only once. -/
  order : Int
  data : JsonObject
  status : TaskStatus
  isPlanning : Bool
  /-- Whether the task has been folded into the space of its session. -/
  spaceDigested : Bool
  createdAt : Instant
  updatedAt : Instant

/-- A disk of a project. -/
structure Disk where
  id : Uuid
  projectId : Uuid
  createdAt : Instant
  updatedAt : Instant
  deriving DecidableEq

/-- How many tasks of a session have been folded into its space. -/
structure LearningStatus where
  digested : Nat
  notDigested : Nat
  deriving DecidableEq

/-- The announcement of a stored message. -/
structure MessageInserted where
  projectId : Uuid
  sessionId : Uuid
  messageId : Uuid
  deriving DecidableEq

/-- The queue that stored messages are announced on. -/
def MessageInserted.routingKey : String := "session.message.insert"

/-- A request to send a message. -/
structure SendMessage where
  projectId : Uuid
  sessionId : Uuid
  role : MessageRole
  parts : List Part
  metadata : JsonObject

/-! ### New records -/

namespace Space

/-- A new space. -/
def new (id : Uuid) (now : Instant) (projectId : Uuid) (configs : JsonObject) : Space :=
  ⟨id, projectId, configs, now, now⟩

end Space

namespace Session

/-- A new session. -/
def new (id : Uuid) (now : Instant) (projectId : Uuid) (spaceId : Option Uuid)
    (configs : JsonObject) : Session :=
  ⟨id, projectId, spaceId, configs, now, now⟩

end Session

namespace Message

/-- A new message, which is not chained yet. -/
def new (id : Uuid) (now : Instant) (sessionId : Uuid) (role : MessageRole) (parts : List Part)
    (metadata : JsonObject) : Message :=
  ⟨id, sessionId, none, role, metadata, parts, none, .pending, now, now⟩

end Message

namespace Task

/-- A new task. -/
def new (id : Uuid) (now : Instant) (sessionId : Uuid) (order : Int) (data : JsonObject) : Task :=
  ⟨id, sessionId, order, data, .pending, false, false, now, now⟩

end Task

namespace Disk

/-- A new disk. -/
def new (id : Uuid) (now : Instant) (projectId : Uuid) : Disk :=
  ⟨id, projectId, now, now⟩

end Disk

/-! ### Times of records -/

/-- A space with its times changed. -/
def Space.mapTimes (f : Instant → Instant) (a : Space) : Space :=
  { a with createdAt := f a.createdAt, updatedAt := f a.updatedAt }

/-- A space stays the same exactly if its times do. -/
theorem Space.mapTimes_eq_self_iff {f : Instant → Instant} {a : Space} : a.mapTimes f = a ↔
    f a.createdAt = a.createdAt ∧ f a.updatedAt = a.updatedAt := by
  cases a
  simp [mapTimes]

/-- A session with its times changed. -/
def Session.mapTimes (f : Instant → Instant) (a : Session) : Session :=
  { a with createdAt := f a.createdAt, updatedAt := f a.updatedAt }

/-- A session stays the same exactly if its times do. -/
theorem Session.mapTimes_eq_self_iff {f : Instant → Instant} {a : Session} : a.mapTimes f = a ↔
    f a.createdAt = a.createdAt ∧ f a.updatedAt = a.updatedAt := by
  cases a
  simp [mapTimes]

/-- A message with its times changed. -/
def Message.mapTimes (f : Instant → Instant) (a : Message) : Message :=
  { a with createdAt := f a.createdAt, updatedAt := f a.updatedAt }

/-- A message stays the same exactly if its times do. -/
theorem Message.mapTimes_eq_self_iff {f : Instant → Instant} {a : Message} : a.mapTimes f = a ↔
    f a.createdAt = a.createdAt ∧ f a.updatedAt = a.updatedAt := by
  cases a
  simp [mapTimes]

/-- A task with its times changed. -/
def Task.mapTimes (f : Instant → Instant) (a : Task) : Task :=
  { a with createdAt := f a.createdAt, updatedAt := f a.updatedAt }

/-- A task stays the same exactly if its times do. -/
theorem Task.mapTimes_eq_self_iff {f : Instant → Instant} {a : Task} : a.mapTimes f = a ↔
    f a.createdAt = a.createdAt ∧ f a.updatedAt = a.updatedAt := by
  cases a
  simp [mapTimes]

/-- A disk with its times changed. -/
def Disk.mapTimes (f : Instant → Instant) (a : Disk) : Disk :=
  { a with createdAt := f a.createdAt, updatedAt := f a.updatedAt }

/-- A disk stays the same exactly if its times do. -/
theorem Disk.mapTimes_eq_self_iff {f : Instant → Instant} {a : Disk} : a.mapTimes f = a ↔
    f a.createdAt = a.createdAt ∧ f a.updatedAt = a.updatedAt := by
  cases a
  simp [mapTimes]

end Colloquy
