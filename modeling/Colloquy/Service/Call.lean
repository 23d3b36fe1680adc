import Colloquy.Paging.Format
import Colloquy.Service

/-!
# Calls of the service

A `Call` is a request to the service as data, and a `Reply` is what it answers. `Service.perform`
carries out a call with the id and the time that were drawn for it. The command line and whoever
else talks to the service go through calls.
-/

namespace Colloquy

/-- A request to the service. -/
inductive Call where
  | createSpace (projectId : Uuid) (configs : JsonObject)
  | space (id : Uuid)
  | updateSpaceConfigs (id : Uuid) (configs : JsonObject)
  | deleteSpace (id : Uuid)
  | listSpaces (projectId : Uuid) (request : PageRequest)
  | createSession (projectId : Uuid) (spaceId : Option Uuid) (configs : JsonObject)
  | session (id : Uuid)
  | updateSessionConfigs (id : Uuid) (configs : JsonObject)
  | connectToSpace (id spaceId : Uuid)
  | deleteSession (id : Uuid)
  | listSessions (projectId : Uuid) (filter : SessionFilter) (request : PageRequest)
  | sendMessage (message : SendMessage)
  | getMessages (sessionId : Uuid) (request : PageRequest)
  | pendingMessageCount (sessionId : Uuid)
  | setMessageProcessStatus (ids : List Uuid) (status : TaskStatus)
  | addTask (sessionId : Uuid) (order : Int) (data : JsonObject)
  | updateTaskStatus (id : Uuid) (status : TaskStatus)
  | markTaskSpaceDigested (id : Uuid)
  | getTasks (sessionId : Uuid) (request : PageRequest)
  | learningStatus (sessionId : Uuid)
  | createDisk (projectId : Uuid)
  | deleteDisk (id : Uuid)
  | listDisks (projectId : Uuid) (request : PageRequest)

/-- The answer to a call. -/
inductive Reply where
  /-- The call was carried out and has nothing to tell. -/
  | done
  | count (n : Nat)
  | space (s : Space)
  | spaces (p : Page Space)
  | session (s : Session)
  | sessions (p : Page Session)
  /-- A message that was sent, with what became of its announcement. -/
  | sent (m : Message) (announcement : Option (Except PublishError MessageInserted))
  | messages (p : Page Message)
  | task (t : Task)
  | tasks (p : Page Task)
  | learningStatus (s : LearningStatus)
  | disk (d : Disk)
  | disks (p : Page Disk)

namespace Reply

/-- The JSON form of an answer, if there is anything to tell. -/
def toDocument? : Reply → Option Json.Document
  | .done => none
  | .count n => some (.int n)
  | .space s => some s.toDocument
  | .spaces p => some (p.toDocument Space.toDocument)
  | .session s => some s.toDocument
  | .sessions p => some (p.toDocument Session.toDocument)
  | .sent m _ => some m.toDocument
  | .messages p => some (p.toDocument Message.toDocument)
  | .task t => some t.toDocument
  | .tasks p => some (p.toDocument Task.toDocument)
  | .learningStatus s => some s.toDocument
  | .disk d => some d.toDocument
  | .disks p => some (p.toDocument Disk.toDocument)

end Reply

namespace Service

/-- Carries out a call with an id and a time for the record that it may make or change. -/
def perform (s : Service) (fresh : Uuid) (now : Instant) :
    Call → Except ServiceError (Service × Reply)
  | .createSpace projectId configs => do
    let (s, space) ← s.createSpace fresh now projectId configs
    return (s, .space space)
  | .space id => return (s, .space (← s.space id))
  | .updateSpaceConfigs id configs => return (← s.updateSpaceConfigs now id configs, .done)
  | .deleteSpace id => return (← s.deleteSpace id, .done)
  | .listSpaces projectId request => return (s, .spaces (← s.listSpaces projectId request))
  | .createSession projectId spaceId configs => do
    let (s, session) ← s.createSession fresh now projectId spaceId configs
    return (s, .session session)
  | .session id => return (s, .session (← s.session id))
  | .updateSessionConfigs id configs => return (← s.updateSessionConfigs now id configs, .done)
  | .connectToSpace id spaceId => return (← s.connectToSpace now id spaceId, .done)
  | .deleteSession id => return (← s.deleteSession id, .done)
  | .listSessions projectId filter request =>
    return (s, .sessions (← s.listSessions projectId filter request))
  | .sendMessage message => do
    let delivery ← s.sendMessage fresh now message
    return (delivery.service, .sent delivery.message delivery.announcement)
  | .getMessages sessionId request => return (s, .messages (← s.getMessages sessionId request))
  | .pendingMessageCount sessionId => return (s, .count (s.pendingMessageCount sessionId))
  | .setMessageProcessStatus ids status => do
    let (s, n) ← s.setMessageProcessStatus now ids status
    return (s, .count n)
  | .addTask sessionId order data => do
    let (s, task) ← s.addTask fresh now sessionId order data
    return (s, .task task)
  | .updateTaskStatus id status => return (← s.updateTaskStatus now id status, .done)
  | .markTaskSpaceDigested id => return (← s.markTaskSpaceDigested now id, .done)
  | .getTasks sessionId request => return (s, .tasks (← s.getTasks sessionId request))
  | .learningStatus sessionId => return (s, .learningStatus (s.learningStatus sessionId))
  | .createDisk projectId => do
    let (s, disk) ← s.createDisk fresh now projectId
    return (s, .disk disk)
  | .deleteDisk id => return (← s.deleteDisk id, .done)
  | .listDisks projectId request => return (s, .disks (← s.listDisks projectId request))

/-- Carries out calls one after another up to the first that fails, and gives the service as it is
then with the last answer. -/
def performAll (s : Service) (fresh : Uuid) (now : Instant) (last : Reply) :
    List Call → Service × Except ServiceError Reply
  | [] => (s, .ok last)
  | call :: rest =>
    match s.perform fresh now call with
    | .error e => (s, .error e)
    | .ok (s, reply) => performAll s fresh now reply rest

end Service

end Colloquy
