import Colloquy.CommandLine.Spelling
import Colloquy.Store.Scope

/-!
# Listings on the command line

A line lists a scope with a request (`Line.Lists`), and the same line goes on from a cursor that is
given to it as one more option (`Line.goOn`). `Line.Prints` is what somebody gets who runs lines one
after another, reads the pages that they print, and gives each line the cursor of the page before
it.
-/

namespace Colloquy

open Json (Document)

/-- What a command lists and the page that it asks for, if it is a listing and is given the project
that it needs. -/
def Command.listing? (project : Option Uuid) : Command → Option (Scope × PageRequest)
  | .listSpaces page => project.map fun id => (.spaces id, page)
  | .listSessions filter page => project.map fun id => (.sessions id filter, page)
  | .listMessages id page => some (.messages id, page)
  | .listTasks id page => some (.tasks id, page)
  | .listDisks page => project.map fun id => (.disks id, page)
  | _ => none

namespace Scope

/-- Writes a record of a scope. -/
def toDocument : (scope : Scope) → scope.Record → Document
  | .spaces _ => Space.toDocument
  | .sessions _ _ => Session.toDocument
  | .messages _ => Message.toDocument
  | .tasks _ => Task.toDocument
  | .disks _ => Disk.toDocument

/-- The command that lists a scope. -/
def command : Scope → PageRequest → Command
  | .spaces _, page => .listSpaces page
  | .sessions _ filter, page => .listSessions filter page
  | .messages id, page => .listMessages id page
  | .tasks id, page => .listTasks id page
  | .disks _, page => .listDisks page

/-- The project that has to be named to list a scope. -/
def project? : Scope → Option Uuid
  | .spaces id | .sessions id _ | .disks id => some id
  | .messages _ | .tasks _ => none

/-- The words of the command that lists a scope, but for its project. -/
def words : Scope → List String
  | .spaces _ => ["space", "list"]
  | .sessions _ .all => ["session", "list"]
  | .sessions _ (.inSpace id) => ["session", "list", "--space", id.text]
  | .sessions _ .notConnected => ["session", "list", "--not-connected"]
  | .messages id => ["message", "list", id.text]
  | .tasks id => ["task", "list", id.text]
  | .disks _ => ["disk", "list"]

end Scope

namespace CommandLine

/-- The words that say how many records a page holds at most, if it is said. -/
def limitWords : Option Nat → List String
  | some n => ["--limit", .ofList (Decimal.ofInt n)]
  | none => []

/-- The words that say in which order a listing is. -/
def orderWords (timeDesc : Bool) : List String :=
  if timeDesc then [] else ["--asc"]

/-- The words that list a scope from its start. -/
def listWords (scope : Scope) (limit : Option Nat) (timeDesc : Bool) : List String :=
  scope.words ++ (limitWords limit ++ (orderWords timeDesc ++ projectWords scope.project?))

end CommandLine

/-- The page that a text shows, with its records as they are written. -/
def Page.ofPrinted? (text : String) : Option (Page Document) :=
  (Document.ofString? text).bind (Page.read (fun _ d => some d) Json.maxLevels)

namespace Line

/-- Whether a line is understood as the listing of a scope with a request, under limits. -/
def Lists (l : Line) (scope : Scope) (limits : PagingLimits) (request : PageRequest) : Prop :=
  ∃ i config, CommandLine.parse l.words = .ok i ∧ Config.load l.configFile = .ok config ∧
    config.paging = limits ∧
      i.command.listing? (i.project.or config.projectId) = some (scope, request)

/-- A line with the cursor that it goes on from, if there is one. -/
def goOn (l : Line) : Option String → Line
  | some cursor => { l with words := l.words ++ ["--cursor", cursor] }
  | none => l

/-- The lines from number `i` on, run one after another on stored data, print the records `items`
and leave the stored data `s'`. The first of them goes on from `cursor`, each other one from the
cursor that the page before it shows, and the last one prints a page that shows none. -/
inductive Prints (line : Nat → Line) :
    Nat → Option String → Store → List Document → Store → Prop
  | last {i : Nat} {cursor : Option String} {s s' : Store} {output : String}
      {page : Page Document} (hrun : ((line i).goOn cursor).run s = (s', .ok output))
      (hpage : Page.ofPrinted? output = some page) (hlast : page.nextCursor = none) :
      Prints line i cursor s page.items s'
  | next {i : Nat} {cursor : Option String} {s s' s'' : Store} {output next : String}
      {page : Page Document} {later : List Document}
      (hrun : ((line i).goOn cursor).run s = (s', .ok output))
      (hpage : Page.ofPrinted? output = some page) (hnext : page.nextCursor = some next)
      (hlater : Prints line (i + 1) (some next) s' later s'') :
      Prints line i cursor s (page.items ++ later) s''

end Line

end Colloquy
