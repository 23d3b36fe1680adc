import Colloquy.CommandLine.Run

/-!
# Lines one after another

A `Line` is all that a run of the command line is given besides the stored data. Lines follow one
another on the same stored data (`Line.afterAll`), whether they succeed or fail. `Line.Reads` says
of a line that it shows or lists what is stored and that nothing is wrong with what it asks for.
-/

namespace Colloquy

/-- Why a line fails. -/
inductive LineError where
  | usage (e : UsageError)
  | run (e : RunError)
  deriving DecidableEq

/-- The words of a run of the command line, the content of the configuration file if there is one,
and the id and the time that are drawn. -/
structure Line where
  words : List String
  configFile : Option (List UInt8) := none
  fresh : Uuid
  now : Instant

/-- The part that a text writes, if it nests no more than the given number of levels. -/
def Part.ofText? (levels : Nat) (text : String) : Option Part :=
  (Json.Document.ofString? text).bind (Part.read levels)

/-- Whether a request is one that limits allow, with a cursor that can be read. -/
def PageRequest.Accepted (request : PageRequest) (limits : PagingLimits) : Prop :=
  ∃ q, request.resolve limits = .ok q

/-- Whether a command shows or lists what is stored, and what it asks for can be given: there is a
project if the command needs one, the page is accepted, and the session is stored. -/
def Command.Reads (limits : PagingLimits) (project : Option Uuid) (s : Store) : Command → Prop
  | .listSpaces page | .listSessions _ page | .listDisks page =>
    project ≠ none ∧ page.Accepted limits
  | .showSession id => Store.hasId (.ofUuid id) s.sessions = true
  | .listMessages _ page | .listTasks _ page => page.Accepted limits
  | .countPendingMessages _ | .showLearningStatus _ => True
  | _ => False

/-- Whether a command only shows or lists what is stored. -/
def Command.isReading : Command → Bool
  | .listSpaces _ | .listSessions _ _ | .showSession _ | .listMessages _ _
  | .countPendingMessages _ | .listTasks _ _ | .showLearningStatus _ | .listDisks _ => true
  | _ => false

namespace Line

/-- Runs a line on stored data. -/
def run (l : Line) (s : Store) : Store × Except LineError String :=
  match CommandLine.parse l.words with
  | .error e => (s, .error (.usage e))
  | .ok i =>
    let (s, result) := i.run l.configFile s l.fresh l.now
    (s, result.mapError .run)

/-- The stored data after lines one after another, of which nothing is left but what they stored. -/
def afterAll (lines : List Line) : Store :=
  lines.foldl (fun s l => (l.run s).1) .empty

/-- Whether a line is understood as a command that reads what is stored. -/
def Reads (l : Line) (s : Store) : Prop :=
  ∃ i config, CommandLine.parse l.words = .ok i ∧ Config.load l.configFile = .ok config ∧
    i.command.Reads config.paging (i.project.or config.projectId) s

/-- Whether a line is understood as a command that only shows or lists what is stored. -/
def OnlyReads (l : Line) : Prop :=
  ∃ i, CommandLine.parse l.words = .ok i ∧ i.command.isReading = true

/-- Whether a line lists the messages of a session. -/
def ListsMessages (l : Line) (sessionId : Uuid) : Prop :=
  ∃ i page, CommandLine.parse l.words = .ok i ∧ i.command = .listMessages sessionId page

/-- The texts of the parts that a line sends to a session. -/
def partsTo (sessionId : Uuid) (l : Line) : List String :=
  match CommandLine.parse l.words with
  | .error _ => []
  | .ok i =>
    match i.command with
    | .sendMessage id _ _ parts _ => if id = sessionId then parts else []
    | _ => []

end Line

end Colloquy
