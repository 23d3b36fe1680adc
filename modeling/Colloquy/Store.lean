import Colloquy.Store.Deletion
import Colloquy.Store.Listing

/-!
# The store

A `Store` keeps spaces, sessions, messages, tasks and disks as tables of rows in the order of their
insertion. Each operation either gives a new store or an error, so a refused operation changes
nothing. Ids are unique in a table, a task takes a place in its session that no other task has, and
references name stored rows. When a row goes, the rows that belong to it go too, and the references
that may be absent are cleared.
-/

namespace Colloquy

/-- The stored tables, each in the order of insertion, and the version of their layout. -/
structure Store where
  version : Int
  spaces : List SpaceRow
  sessions : List SessionRow
  messages : List MessageRow
  tasks : List TaskRow
  disks : List DiskRow
  deriving DecidableEq

/-- Which sessions of a project a listing covers. -/
inductive SessionFilter where
  | all
  | inSpace (id : Uuid)
  | notConnected
  deriving DecidableEq

namespace Store

/-! ### Layout -/

/-- The layout that this library writes. -/
def supportedVersion : Int := 1

/-- The names of the tables. -/
def tableNames : List String := ["spaces", "sessions", "tasks", "messages", "disks"]

/-- Whether there is a table with this name. -/
def hasTable (name : String) : Bool := tableNames.contains name

/-- Brings an older layout up to date; a newer one is refused. -/
def migrate (s : Store) : Except StoreError Store :=
  if supportedVersion < s.version then
    .error (.unsupportedVersion s.version supportedVersion)
  else if s.version < 1 then .ok { s with version := 1 }
  else .ok s

/-- A store without rows. -/
def empty : Store := ⟨supportedVersion, [], [], [], [], []⟩

/-! ### Constraints -/

/-- Adds a row whose id no other row has. -/
def append {ρ α : Type} [Row ρ α] (table : String) (r : ρ) (rows : List ρ) :
    Except StoreError (List ρ) :=
  if hasId (Row.id r) rows then .error (.violation (.unique table ["id"])) else .ok (rows ++ [r])

/-- Checks that an operation found the record that it names. -/
def found (entity : Entity) (id : Uuid) (any : Bool) (s : Store) : Except StoreError Store :=
  if any then .ok s else .error (.notFound entity id)

/-- Changes the rows with the given id. -/
def updateWhere {ρ α : Type} [Row ρ α] (id : Uuid) (change : ρ → ρ) (rows : List ρ) : List ρ :=
  rows.map fun r => if Row.id r = Cell.ofUuid id then change r else r

/-- The rows without the given id. -/
def withoutId {ρ α : Type} [Row ρ α] (id : Uuid) (rows : List ρ) : List ρ :=
  rows.filter fun r => Row.id r != Cell.ofUuid id

/-! ### Spaces -/

/-- Adds a space. -/
def createSpace (s : Store) (space : Space) : Except StoreError Store := do
  let row ← space.toRow
  return { s with spaces := ← append "spaces" row s.spaces }

/-- The space with the given id. -/
def space? (s : Store) (id : Uuid) : Except StoreError (Option Space) :=
  Listing.find? id s.spaces

/-- Replaces the configuration of a space. -/
def updateSpaceConfigs (s : Store) (now : Instant) (id : Uuid) (configs : JsonObject) :
    Except StoreError Store := do
  let updatedAt ← Cell.ofInstant now
  let change (r : SpaceRow) := { r with configs := .ofObject configs, updatedAt }
  found .space id (hasId (.ofUuid id) s.spaces) { s with spaces := updateWhere id change s.spaces }

/-- Removes a space; the sessions connected to it are connected to none. -/
def deleteSpace (s : Store) (id : Uuid) : Except StoreError Store :=
  let disconnect (r : SessionRow) : SessionRow :=
    if r.spaceId = .ofUuid id then { r with spaceId := .null } else r
  found .space id (hasId (.ofUuid id) s.spaces)
    { s with spaces := withoutId id s.spaces, sessions := s.sessions.map disconnect }

/-- A page of the spaces of a project. -/
def listSpaces (s : Store) (projectId : Uuid) (q : KeysetQuery) : Except StoreError (Page Space) :=
  Listing.page q (s.spaces.filter fun r => r.projectId == .ofUuid projectId)

/-! ### Sessions -/

/-- Adds a session. -/
def createSession (s : Store) (session : Session) : Except StoreError Store := do
  let row ← session.toRow
  let sessions ← append "sessions" row s.sessions
  checkReference row.spaceId s.spaces
  return { s with sessions }

/-- The session with the given id. -/
def session? (s : Store) (id : Uuid) : Except StoreError (Option Session) :=
  Listing.find? id s.sessions

/-- Replaces the configuration of a session. -/
def updateSessionConfigs (s : Store) (now : Instant) (id : Uuid) (configs : JsonObject) :
    Except StoreError Store := do
  let updatedAt ← Cell.ofInstant now
  let change (r : SessionRow) := { r with configs := .ofObject configs, updatedAt }
  found .session id (hasId (.ofUuid id) s.sessions)
    { s with sessions := updateWhere id change s.sessions }

/-- Connects a session to a stored space. -/
def connectSession (s : Store) (now : Instant) (id spaceId : Uuid) : Except StoreError Store := do
  match ← s.space? spaceId with
  | none => .error (.notFound .space spaceId)
  | some _ =>
    let updatedAt ← Cell.ofInstant now
    let change (r : SessionRow) := { r with spaceId := .ofUuid spaceId, updatedAt }
    found .session id (hasId (.ofUuid id) s.sessions)
      { s with sessions := updateWhere id change s.sessions }

/-- Removes a session with its messages and tasks; messages of other sessions that belong to one of
the tasks belong to none. -/
def deleteSession (s : Store) (id : Uuid) : Except StoreError Store := do
  if hasId (.ofUuid id) s.sessions then
    let d : Deletion := ⟨withoutId id s.sessions, s.messages, s.tasks, 0⟩
    let d ← d.removeContents (.ofUuid id)
    if d.waiting = 0 then
      return { s with sessions := d.sessions, messages := d.messages, tasks := d.tasks }
    else .error (.violation .foreignKey)
  else .error (.notFound .session id)

/-- A page of the sessions of a project. -/
def listSessions (s : Store) (projectId : Uuid) (filter : SessionFilter) (q : KeysetQuery) :
    Except StoreError (Page Session) :=
  let chosen (r : SessionRow) : Bool :=
    match filter with
    | .all => true
    | .inSpace id => r.spaceId == .ofUuid id
    | .notConnected => r.spaceId == .null
  Listing.page q (s.sessions.filter fun r => r.projectId == .ofUuid projectId && chosen r)

/-! ### Messages -/

/-- The id of the message inserted last into a session. -/
def lastMessageId? (s : Store) (sessionId : Uuid) : Except StoreError (Option Uuid) :=
  match (s.messages.filter fun r => r.sessionId == .ofUuid sessionId).getLast? with
  | none => .ok none
  | some r =>
    match r.id.uuid? 0 with
    | .ok id => .ok (some id)
    | .error fault => .error (.unreadable fault)

/-- Adds a message as a reply to the message inserted last into its session. The order of insertion
counts, not the order of times. The message is given back with its parent, which may be itself. -/
def insertMessage (s : Store) (message : Message) : Except StoreError (Store × Message) := do
  let parentId ← s.lastMessageId? message.sessionId
  let message := { message with parentId }
  let row ← message.toRow
  let messages ← append "messages" row s.messages
  checkReference row.sessionId s.sessions
  checkReference row.parentId messages
  checkReference row.taskId s.tasks
  return ({ s with messages }, message)

/-- The message with the given id. -/
def message? (s : Store) (id : Uuid) : Except StoreError (Option Message) :=
  Listing.find? id s.messages

/-- A page of the messages of a session. -/
def listMessages (s : Store) (sessionId : Uuid) (q : KeysetQuery) :
    Except StoreError (Page Message) :=
  Listing.page q (s.messages.filter fun r => r.sessionId == .ofUuid sessionId)

/-- How many messages of a session wait for their extraction. -/
def pendingMessageCount (s : Store) (sessionId : Uuid) : Nat :=
  s.messages.countP fun r =>
    r.sessionId == .ofUuid sessionId && r.processStatus == .text TaskStatus.pending.name

/-- Sets the process status of messages one after another, and counts the rows that were set: an id
that is given twice counts twice, and one that names no message counts for nothing. -/
def setProcessStatus (s : Store) (now : Instant) (ids : List Uuid) (status : TaskStatus) :
    Except StoreError (Store × Nat) := do
  let updatedAt ← Cell.ofInstant now
  let change (r : MessageRow) := { r with processStatus := .text status.name, updatedAt }
  return ids.foldl (fun (s, n) id =>
    ({ s with messages := updateWhere id change s.messages },
      n + s.messages.countP fun r => r.id == .ofUuid id)) (s, 0)

/-! ### Tasks -/

/-- Adds a task at a place of its session that is free. -/
def insertTask (s : Store) (task : Task) : Except StoreError Store := do
  let row ← task.toRow
  if s.tasks.any fun r => r.sessionId == row.sessionId && r.order == row.order then
    .error (.violation (.unique "tasks" ["session_id", "task_order"]))
  else
    let tasks ← append "tasks" row s.tasks
    checkReference row.sessionId s.sessions
    return { s with tasks }

/-- The task with the given id. -/
def task? (s : Store) (id : Uuid) : Except StoreError (Option Task) :=
  Listing.find? id s.tasks

/-- A page of the tasks of a session. -/
def listTasks (s : Store) (sessionId : Uuid) (q : KeysetQuery) : Except StoreError (Page Task) :=
  Listing.page q (s.tasks.filter fun r => r.sessionId == .ofUuid sessionId)

/-- Sets the status of a task. -/
def updateTaskStatus (s : Store) (now : Instant) (id : Uuid) (status : TaskStatus) :
    Except StoreError Store := do
  let updatedAt ← Cell.ofInstant now
  let change (r : TaskRow) := { r with status := .text status.name, updatedAt }
  found .task id (hasId (.ofUuid id) s.tasks) { s with tasks := updateWhere id change s.tasks }

/-- Marks a task as folded into the space of its session. -/
def markTaskDigested (s : Store) (now : Instant) (id : Uuid) : Except StoreError Store := do
  let updatedAt ← Cell.ofInstant now
  let change (r : TaskRow) := { r with spaceDigested := .ofBool true, updatedAt }
  found .task id (hasId (.ofUuid id) s.tasks) { s with tasks := updateWhere id change s.tasks }

/-- How many tasks of a session have been folded into its space, and how many have not. -/
def learningStatus (s : Store) (sessionId : Uuid) : LearningStatus :=
  let count (mark : Cell) := s.tasks.countP fun r =>
    r.sessionId == .ofUuid sessionId && r.spaceDigested == mark
  ⟨count (.ofBool true), count (.ofBool false)⟩

/-! ### Disks -/

/-- Adds a disk. -/
def createDisk (s : Store) (disk : Disk) : Except StoreError Store := do
  let row ← disk.toRow
  return { s with disks := ← append "disks" row s.disks }

/-- Removes a disk. -/
def deleteDisk (s : Store) (id : Uuid) : Except StoreError Store :=
  found .disk id (hasId (.ofUuid id) s.disks) { s with disks := withoutId id s.disks }

/-- A page of the disks of a project. -/
def listDisks (s : Store) (projectId : Uuid) (q : KeysetQuery) : Except StoreError (Page Disk) :=
  Listing.page q (s.disks.filter fun r => r.projectId == .ofUuid projectId)

end Store

end Colloquy
