import Colloquy.CommandLine.Usage
import Colloquy.Store
import Colloquy.Paging.Query

/-!
# The commands

A `Command` is what somebody wants from the command line, and `CommandLine.parse` reads it from
words. Commands come in groups, one for each kind of record. An `Invocation` is a command together
with the options that every command takes.
-/

namespace Colloquy

/-- A command. Texts that should be JSON are kept as they are given. -/
inductive Command where
  | createSpace (configs : Option String)
  | listSpaces (page : PageRequest)
  | configureSpace (id : Uuid) (configs : String)
  | deleteSpace (id : Uuid)
  | createSession (spaceId : Option Uuid) (configs : Option String)
  | listSessions (filter : SessionFilter) (page : PageRequest)
  | showSession (id : Uuid)
  | configureSession (id : Uuid) (configs : String)
  | connectSession (id spaceId : Uuid)
  | deleteSession (id : Uuid)
  | sendMessage (sessionId : Uuid) (role : MessageRole) (texts parts : List String)
      (metadata : Option String)
  | listMessages (sessionId : Uuid) (page : PageRequest)
  | countPendingMessages (sessionId : Uuid)
  | setMessageStatus (ids : List Uuid) (status : TaskStatus)
  | addTask (sessionId : Uuid) (order : Int) (data : Option String)
  | listTasks (sessionId : Uuid) (page : PageRequest)
  | setTaskStatus (id : Uuid) (status : TaskStatus)
  | markTaskDigested (id : Uuid)
  | showLearningStatus (sessionId : Uuid)
  | createDisk
  | listDisks (page : PageRequest)
  | deleteDisk (id : Uuid)
  deriving DecidableEq

/-- A command and the options that every command takes. -/
structure Invocation where
  /-- The configuration file. -/
  configFile : Option String
  /-- The database, in place of the configured one. -/
  database : Option String
  /-- The project, in place of the configured one. -/
  project : Option Uuid
  /-- Whether to log in detail. -/
  debug : Bool
  command : Command
  deriving DecidableEq

namespace CommandLine

/-- The options that every command takes. -/
def sharedOptions : List Parameter := [
  { name := "config", takes := some .path },
  { name := "db", takes := some .path },
  { name := "project", takes := some .id },
  { name := "debug", takes := none }]

/-- An operand that is the id of a record. -/
def idOperand : Parameter := { name := "ID", takes := some .id }

/-- The option for a JSON object. -/
def objectOption (name : String) : Parameter := { name, takes := some .text }

/-- The option that names a space. -/
def spaceOption : Parameter := { name := "space", takes := some .id }

/-- The options of listings. -/
def pageOptions : List Parameter := [
  { name := "limit", takes := some .nat32 },
  { name := "cursor", takes := some .text },
  { name := "asc", takes := none }]

/-- The page that the options of a listing ask for. -/
def pageOf (a : Arguments) : PageRequest where
  limit := (a.number? "limit").map Int.toNat
  cursor := a.text? "cursor"
  timeDesc := some (!a.has "asc")

/-- A command with one id and nothing else. -/
def onRecord (make : Uuid → Command) : CommandUsage Command where
  operands := [idOperand]
  make a := (a.id? "ID").map make

/-- A listing of what belongs to the project. -/
def listingOfProject (make : PageRequest → Command) : CommandUsage Command where
  options := pageOptions
  make a := some (make (pageOf a))

/-- A listing of what belongs to one record. -/
def listingOf (make : Uuid → PageRequest → Command) : CommandUsage Command where
  options := pageOptions
  operands := [idOperand]
  make a := do return make (← a.id? "ID") (pageOf a)

/-- A command that replaces the configuration of a record. -/
def configure (make : Uuid → String → Command) : CommandUsage Command where
  options := [objectOption "set"]
  operands := [idOperand]
  make a := do return make (← a.id? "ID") (← a.text? "set")

/-- The commands for spaces. -/
def spaceUsage : Usage Command := .group [
  ("create", .command {
    options := [objectOption "configs"]
    make := fun a => some (.createSpace (a.text? "configs")) }),
  ("list", .command (listingOfProject .listSpaces)),
  ("configs", .command (configure .configureSpace)),
  ("delete", .command (onRecord .deleteSpace))]

/-- Which sessions a listing covers. -/
def sessionFilterOf (a : Arguments) : SessionFilter :=
  match a.id? "space" with
  | some id => .inSpace id
  | none => if a.has "not-connected" then .notConnected else .all

/-- The command that lists sessions. -/
def sessionsUsage : CommandUsage Command where
  options := [spaceOption, { name := "not-connected", takes := none }] ++ pageOptions
  exclusive := [("space", "not-connected")]
  make a := some (.listSessions (sessionFilterOf a) (pageOf a))

/-- The commands for sessions. -/
def sessionUsage : Usage Command := .group [
  ("create", .command {
    options := [spaceOption, objectOption "configs"]
    make := fun a => some (.createSession (a.id? "space") (a.text? "configs")) }),
  ("list", .command sessionsUsage),
  ("show", .command (onRecord .showSession)),
  ("configs", .command (configure .configureSession)),
  ("connect", .command {
    options := [spaceOption]
    operands := [idOperand]
    make := fun a => do return .connectSession (← a.id? "ID") (← a.id? "space") }),
  ("delete", .command (onRecord .deleteSession))]

/-- The command that sends a message. -/
def sendUsage : CommandUsage Command where
  options := [{ name := "role", takes := some .role },
    { name := "text", takes := some .text, repeatable := true },
    { name := "part", takes := some .text, repeatable := true },
    objectOption "meta"]
  operands := [idOperand]
  make a := do
    return .sendMessage (← a.id? "ID") ((a.role? "role").getD .user) (a.texts "text")
      (a.texts "part") (a.text? "meta")

/-- The commands for messages. -/
def messageUsage : Usage Command := .group [
  ("send", .command sendUsage),
  ("list", .command (listingOf .listMessages)),
  ("pending", .command (onRecord .countPendingMessages)),
  ("status", .command {
    options := [{ name := "status", takes := some .status }]
    operands := [{ idOperand with repeatable := true }]
    make := fun a => do
      if a.has "ID" then return .setMessageStatus (a.ids "ID") (← a.status? "status") else none })]

/-- The command that adds a task. -/
def addUsage : CommandUsage Command where
  options := [{ name := "order", takes := some .int64 }, objectOption "data"]
  operands := [idOperand]
  make a := do return .addTask (← a.id? "ID") (← a.number? "order") (a.text? "data")

/-- The commands for tasks. -/
def taskUsage : Usage Command := .group [
  ("add", .command addUsage),
  ("list", .command (listingOf .listTasks)),
  ("status", .command {
    operands := [idOperand, { name := "STATUS", takes := some .status }]
    make := fun a => do return .setTaskStatus (← a.id? "ID") (← a.status? "STATUS") }),
  ("digested", .command (onRecord .markTaskDigested)),
  ("learning-status", .command (onRecord .showLearningStatus))]

/-- The commands for disks. -/
def diskUsage : Usage Command := .group [
  ("create", .command { make := fun _ => some .createDisk }),
  ("list", .command (listingOfProject .listDisks)),
  ("delete", .command (onRecord .deleteDisk))]

/-- All commands. -/
def usage : Usage Command := .group [
  ("space", spaceUsage),
  ("session", sessionUsage),
  ("message", messageUsage),
  ("task", taskUsage),
  ("disk", diskUsage)]

/-- Reads the words of a command line. -/
def parse (words : List String) : Except UsageError Invocation := do
  let parsed ← usage.parse sharedOptions words
  return {
    configFile := parsed.shared.text? "config"
    database := parsed.shared.text? "db"
    project := parsed.shared.id? "project"
    debug := parsed.shared.has "debug"
    command := parsed.command }

end CommandLine

end Colloquy
