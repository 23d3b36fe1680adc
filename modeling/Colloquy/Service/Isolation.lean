import Colloquy.Service.Run

/-!
# What concerns one session

What one session looks like from outside is its view: its row, its messages in the order of their
insertion, and its tasks. Of a run, those events concern the session that are addressed to it, to
its tasks or to spaces, and of a batch of messages those of its own.
-/

namespace Colloquy

/-- The stored rows of one session, its messages and tasks in the order of their insertion. -/
structure SessionView where
  session : Option SessionRow
  messages : List MessageRow
  tasks : List TaskRow

/-- The view of a session. -/
def Store.view (s : Store) (sessionId : Uuid) : SessionView where
  session := s.sessions.find? fun r => r.id == .ofUuid sessionId
  messages := s.messages.filter fun r => r.sessionId == .ofUuid sessionId
  tasks := s.tasks.filter fun r => r.sessionId == .ofUuid sessionId

namespace Event

/-- The id of the message, if the event sends one to the given session. -/
def messageOf? (sessionId : Uuid) (e : Event) : Option Uuid :=
  match e.call with
  | .sendMessage message => if message.sessionId = sessionId then some e.fresh else none
  | _ => none

/-- The id of the task, if the event adds one to the given session. -/
def taskOf? (sessionId : Uuid) (e : Event) : Option Uuid :=
  match e.call with
  | .addTask id _ _ => if id = sessionId then some e.fresh else none
  | _ => none

/-- Whether the event is about a batch of messages. -/
def isBatch (e : Event) : Bool :=
  match e.call with
  | .setMessageProcessStatus _ _ => true
  | _ => false

/-- What of an event concerns a session with the given messages and tasks. -/
def part? (sessionId : Uuid) (messages tasks : List Uuid) (e : Event) : Option Event :=
  match e.call with
  | .createSpace _ _ | .space _ | .updateSpaceConfigs _ _ | .deleteSpace _ | .listSpaces _ _ =>
    some e
  | .createSession _ _ _ => if e.fresh = sessionId then some e else none
  | .sendMessage message => if message.sessionId = sessionId then some e else none
  | .session id | .updateSessionConfigs id _ | .connectToSpace id _ | .deleteSession id
  | .getMessages id _ | .pendingMessageCount id | .addTask id _ _ | .getTasks id _
  | .learningStatus id => if id = sessionId then some e else none
  | .updateTaskStatus id _ | .markTaskSpaceDigested id => if id ∈ tasks then some e else none
  | .setMessageProcessStatus ids status =>
    some { e with call := .setMessageProcessStatus (ids.filter (· ∈ messages)) status }
  | .listSessions _ _ _ | .createDisk _ | .deleteDisk _ | .listDisks _ _ => none

/-- What of an event among others concerns a session: the messages that some of them send to it are
its messages, and the tasks that some of them add to it its tasks. -/
def partOf? (sessionId : Uuid) (events : List Event) : Event → Option Event :=
  part? sessionId (events.filterMap (messageOf? sessionId)) (events.filterMap (taskOf? sessionId))

/-- What of some events concerns a session. -/
def restrict (sessionId : Uuid) (events : List Event) : List Event :=
  events.filterMap (partOf? sessionId events)

end Event

end Colloquy
