import Colloquy.Queue
import Colloquy.Store

/-!
# The service

A `Service` stands before the store: it checks requests, makes new records, and announces messages
on a queue once they are stored. New records take their id and time from the caller of these
operations, who draws them. An announcement that does not reach the queue changes neither the store
nor the answer.
-/

namespace Colloquy

/-- Why the service refuses a request. -/
inductive ServiceError where
  | storage (e : StoreError)
  | paging (e : PagingError)
  /-- The part of a message with this index is not valid. -/
  | invalidPart (index : Nat) (fault : PartFault)
  /-- A message without parts. -/
  | emptyMessage
  | notFound (entity : Entity) (id : Uuid)
  deriving DecidableEq

namespace ServiceError

/-- The wording of each error. -/
def message : ServiceError → String
  | .storage e => "storage error: " ++ e.message
  | .paging e => "paging error: " ++ e.message
  | .invalidPart index fault => s!"parts[{index}]: " ++ fault.message
  | .emptyMessage => "message requires at least one part"
  | .notFound entity id => entity.notFound id

/-- Whether the request is the cause, and not the service. -/
def isClientError : ServiceError → Bool
  | .paging e => e.isClientError
  | .invalidPart _ _ | .emptyMessage | .notFound _ _ | .storage (.notFound _ _) => true
  | .storage _ => false

end ServiceError

/-- A store, the limits of its pages, and the queue on which stored messages are announced. -/
structure Service where
  store : Store
  limits : PagingLimits
  queue : Option Queue := none

/-- A stored message, and what became of its announcement if there is a queue. -/
structure Delivery where
  service : Service
  message : Message
  announcement : Option (Except PublishError MessageInserted)

namespace Service

/-- Passes on the answer of the store. -/
def stored {α : Type} : Except StoreError α → Except ServiceError α :=
  Except.mapError .storage

/-- The service after a change of its store. -/
def withStore (s : Service) (change : Except StoreError Store) : Except ServiceError Service := do
  return { s with store := ← stored change }

/-- Checks a request for a page. -/
def resolve (s : Service) (request : PageRequest) : Except ServiceError KeysetQuery :=
  (request.resolve s.limits).mapError .paging

/-- What was looked up, which has to be there. -/
def present {α : Type} (entity : Entity) (id : Uuid) (lookup : Except StoreError (Option α)) :
    Except ServiceError α := do
  match ← stored lookup with
  | some a => return a
  | none => .error (.notFound entity id)

/-! ### Spaces -/

/-- Makes a space. -/
def createSpace (s : Service) (id : Uuid) (now : Instant) (projectId : Uuid)
    (configs : JsonObject) : Except ServiceError (Service × Space) := do
  let space := Space.new id now projectId configs
  return (← s.withStore (s.store.createSpace space), space)

/-- The space with the given id. -/
def space (s : Service) (id : Uuid) : Except ServiceError Space :=
  present .space id (s.store.space? id)

/-- Replaces the configuration of a space. -/
def updateSpaceConfigs (s : Service) (now : Instant) (id : Uuid) (configs : JsonObject) :
    Except ServiceError Service :=
  s.withStore (s.store.updateSpaceConfigs now id configs)

/-- Removes a space. -/
def deleteSpace (s : Service) (id : Uuid) : Except ServiceError Service :=
  s.withStore (s.store.deleteSpace id)

/-- A page of the spaces of a project. -/
def listSpaces (s : Service) (projectId : Uuid) (request : PageRequest) :
    Except ServiceError (Page Space) := do
  let query ← s.resolve request
  stored (s.store.listSpaces projectId query)

/-! ### Sessions -/

/-- Makes a session, connected to a stored space if one is given. -/
def createSession (s : Service) (id : Uuid) (now : Instant) (projectId : Uuid)
    (spaceId : Option Uuid) (configs : JsonObject) : Except ServiceError (Service × Session) := do
  if let some spaceId := spaceId then
    let _ ← s.space spaceId
  let session := Session.new id now projectId spaceId configs
  return (← s.withStore (s.store.createSession session), session)

/-- The session with the given id. -/
def session (s : Service) (id : Uuid) : Except ServiceError Session :=
  present .session id (s.store.session? id)

/-- Replaces the configuration of a session. -/
def updateSessionConfigs (s : Service) (now : Instant) (id : Uuid) (configs : JsonObject) :
    Except ServiceError Service :=
  s.withStore (s.store.updateSessionConfigs now id configs)

/-- Connects a session to a space. -/
def connectToSpace (s : Service) (now : Instant) (id spaceId : Uuid) :
    Except ServiceError Service :=
  s.withStore (s.store.connectSession now id spaceId)

/-- Removes a session with its messages and tasks. -/
def deleteSession (s : Service) (id : Uuid) : Except ServiceError Service :=
  s.withStore (s.store.deleteSession id)

/-- A page of the sessions of a project. -/
def listSessions (s : Service) (projectId : Uuid) (filter : SessionFilter)
    (request : PageRequest) : Except ServiceError (Page Session) := do
  let query ← s.resolve request
  stored (s.store.listSessions projectId filter query)

/-! ### Messages -/

/-- Checks parts one after another, counting from `index`. -/
def checkParts (index : Nat) : List Part → Except ServiceError Unit
  | [] => .ok ()
  | part :: rest =>
    match part.validate with
    | .error fault => .error (.invalidPart index fault)
    | .ok () => checkParts (index + 1) rest

/-- Announces a stored message, if there is a queue. -/
def announce (s : Service) (projectId : Uuid) (message : Message) : Delivery :=
  match s.queue with
  | none => ⟨s, message, none⟩
  | some queue =>
    let event : MessageInserted := ⟨projectId, message.sessionId, message.id⟩
    match queue.publish event with
    | .ok queue => ⟨{ s with queue := some queue }, message, some (.ok event)⟩
    | .error e => ⟨s, message, some (.error e)⟩

/-- Checks and stores a message, and then announces it. -/
def sendMessage (s : Service) (id : Uuid) (now : Instant) (input : SendMessage) :
    Except ServiceError Delivery := do
  if input.parts.isEmpty then .error .emptyMessage
  else
    checkParts 0 input.parts
    let _ ← s.session input.sessionId
    let message := Message.new id now input.sessionId input.role input.parts input.metadata
    let (store, message) ← stored (s.store.insertMessage message)
    return announce { s with store } input.projectId message

/-- A page of the messages of a session. -/
def getMessages (s : Service) (sessionId : Uuid) (request : PageRequest) :
    Except ServiceError (Page Message) := do
  let query ← s.resolve request
  stored (s.store.listMessages sessionId query)

/-- How many messages of a session wait for their extraction. -/
def pendingMessageCount (s : Service) (sessionId : Uuid) : Nat :=
  s.store.pendingMessageCount sessionId

/-- Notes how far the extraction of some messages got, and counts the updates. -/
def setMessageProcessStatus (s : Service) (now : Instant) (ids : List Uuid)
    (status : TaskStatus) : Except ServiceError (Service × Nat) := do
  let (store, n) ← stored (s.store.setProcessStatus now ids status)
  return ({ s with store }, n)

/-! ### Tasks -/

/-- Adds a task to a stored session. -/
def addTask (s : Service) (id : Uuid) (now : Instant) (sessionId : Uuid) (order : Int)
    (data : JsonObject) : Except ServiceError (Service × Task) := do
  let _ ← s.session sessionId
  let task := Task.new id now sessionId order data
  return (← s.withStore (s.store.insertTask task), task)

/-- Sets the status of a task. -/
def updateTaskStatus (s : Service) (now : Instant) (id : Uuid) (status : TaskStatus) :
    Except ServiceError Service :=
  s.withStore (s.store.updateTaskStatus now id status)

/-- Marks a task as folded into the space of its session. -/
def markTaskSpaceDigested (s : Service) (now : Instant) (id : Uuid) :
    Except ServiceError Service :=
  s.withStore (s.store.markTaskDigested now id)

/-- A page of the tasks of a session. -/
def getTasks (s : Service) (sessionId : Uuid) (request : PageRequest) :
    Except ServiceError (Page Task) := do
  let query ← s.resolve request
  stored (s.store.listTasks sessionId query)

/-- How many tasks of a session have been folded into its space, and how many have not. -/
def learningStatus (s : Service) (sessionId : Uuid) : LearningStatus :=
  s.store.learningStatus sessionId

/-! ### Disks -/

/-- Makes a disk. -/
def createDisk (s : Service) (id : Uuid) (now : Instant) (projectId : Uuid) :
    Except ServiceError (Service × Disk) := do
  let disk := Disk.new id now projectId
  return (← s.withStore (s.store.createDisk disk), disk)

/-- Removes a disk. -/
def deleteDisk (s : Service) (id : Uuid) : Except ServiceError Service :=
  s.withStore (s.store.deleteDisk id)

/-- A page of the disks of a project. -/
def listDisks (s : Service) (projectId : Uuid) (request : PageRequest) :
    Except ServiceError (Page Disk) := do
  let query ← s.resolve request
  stored (s.store.listDisks projectId query)

end Service

end Colloquy
