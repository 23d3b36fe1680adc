import Colloquy.CommandLine.Command
import Colloquy.Config
import Colloquy.Json.Reader
import Colloquy.Service.Call

/-!
# Running commands

A command is carried out as calls of the service: first those that change something, and then, where
the command shows a record, the one that reads it. `Command.calls?` makes the calls, `Command.run`
carries them out and gives what is printed, and `Invocation.run` does so from the content of the
configuration file and the stored data on.
-/

namespace Colloquy

/-- Why a command fails. -/
inductive CommandError where
  | noProject
  /-- A text that is no JSON object. -/
  | noObject
  /-- The part with this number, counted from one, is no part of a message. -/
  | badPart (number : Nat)
  | service (e : ServiceError)
  deriving DecidableEq

/-- The wording of each error. -/
def CommandError.message : CommandError → String
  | .noProject => "no project: pass --project or set project_id in the config file"
  | .noObject => "expected a JSON object"
  | .badPart number => s!"--part #{number}"
  | .service e => e.message

namespace Command

/-- The JSON object that a text writes; no text stands for the empty object. -/
def objectOf : Option String → Except CommandError JsonObject
  | none => .ok []
  | some s =>
    match (Json.Document.ofString? s).bind (Json.Reader.object Json.maxLevels) with
    | some fields => .ok fields
    | none => .error .noObject

/-- The parts that texts write in JSON, counting from `number`. -/
def partsOf (number : Nat) : List String → Except CommandError (List Part)
  | [] => .ok []
  | s :: rest =>
    match (Json.Document.ofString? s).bind (Part.read Json.maxLevels) with
    | some part => do return part :: (← partsOf (number + 1) rest)
    | none => .error (.badPart number)

/-- The calls of the service that a command stands for. -/
def calls? (project : Option Uuid) (command : Command) : Except CommandError (List Call) := do
  let owner : Except CommandError Uuid :=
    match project with
    | some id => .ok id
    | none => .error .noProject
  match command with
  | .createSpace configs => return [.createSpace (← owner) (← objectOf configs)]
  | .listSpaces page => return [.listSpaces (← owner) page]
  | .configureSpace id configs =>
    return [.updateSpaceConfigs id (← objectOf (some configs)), .space id]
  | .deleteSpace id => return [.deleteSpace id]
  | .createSession spaceId configs =>
    return [.createSession (← owner) spaceId (← objectOf configs)]
  | .listSessions filter page => return [.listSessions (← owner) filter page]
  | .showSession id => return [.session id]
  | .configureSession id configs =>
    return [.updateSessionConfigs id (← objectOf (some configs)), .session id]
  | .connectSession id spaceId => return [.connectToSpace id spaceId, .session id]
  | .deleteSession id => return [.deleteSession id]
  | .sendMessage sessionId role texts parts metadata =>
    let parts := texts.map Part.ofText ++ (← partsOf 1 parts)
    let projectId ← owner
    let metadata ← objectOf metadata
    return [.sendMessage { projectId, sessionId, role, parts, metadata }]
  | .listMessages sessionId page => return [.getMessages sessionId page]
  | .countPendingMessages sessionId => return [.pendingMessageCount sessionId]
  | .setMessageStatus ids status => return [.setMessageProcessStatus ids status]
  | .addTask sessionId order data => return [.addTask sessionId order (← objectOf data)]
  | .listTasks sessionId page => return [.getTasks sessionId page]
  | .setTaskStatus id status => return [.updateTaskStatus id status]
  | .markTaskDigested id => return [.markTaskSpaceDigested id]
  | .showLearningStatus sessionId => return [.learningStatus sessionId]
  | .createDisk => return [.createDisk (← owner)]
  | .listDisks page => return [.listDisks (← owner) page]
  | .deleteDisk id => return [.deleteDisk id]

/-- What is printed for an answer: its JSON over several lines, or nothing. -/
def printed (reply : Reply) : String :=
  match reply.toDocument? with
  | some d => d.pretty ++ "\n"
  | none => ""

/-- Carries out a command with an id and a time for the record that it may make or change. -/
def run (service : Service) (fresh : Uuid) (now : Instant) (project : Option Uuid)
    (command : Command) : Service × Except CommandError String :=
  match command.calls? project with
  | .error e => (service, .error e)
  | .ok calls =>
    match service.performAll fresh now .done calls with
    | (service, .ok reply) => (service, .ok (printed reply))
    | (service, .error e) => (service, .error (.service e))

end Command

/-- Why a run of the command line fails. -/
inductive RunError where
  | config (fault : ConfigFault)
  /-- The stored data cannot be opened. -/
  | database (e : StoreError)
  | command (e : CommandError)
  deriving DecidableEq

namespace Invocation

/-- Runs a command with a configuration on stored data, which is brought up to date first. -/
def runWith (i : Invocation) (config : Config) (store : Store) (fresh : Uuid) (now : Instant) :
    Store × Except RunError String :=
  match store.migrate with
  | .error e => (store, .error (.database e))
  | .ok store =>
    let service : Service := { store, limits := config.paging }
    let (service, result) := i.command.run service fresh now (i.project.or config.projectId)
    (service.store, result.mapError .command)

/-- Runs a command on stored data, with the content of the configuration file if there is one. -/
def run (i : Invocation) (file : Option (List UInt8)) (store : Store) (fresh : Uuid)
    (now : Instant) : Store × Except RunError String :=
  match Config.load file with
  | .error fault => (store, .error (.config fault))
  | .ok config => i.runWith config store fresh now

end Invocation

end Colloquy
