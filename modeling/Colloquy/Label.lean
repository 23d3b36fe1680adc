import Colloquy.Json.Fields
import Colloquy.Text.Case

/-!
# Labels

The small vocabularies of the store: how far the processing of a task or message got (`TaskStatus`),
who speaks (`MessageRole`), and what a part of a message is (`PartKind`). Each label has one name.
Callers who type a name may use any case and surrounding blanks (`parse`); records hold the exact
name.
-/

namespace Colloquy

/-- How far the processing of a task or a message got. -/
inductive TaskStatus where
  | success
  | failed
  | running
  | pending
  deriving DecidableEq, Repr

/-- Who speaks in a message. -/
inductive MessageRole where
  | user
  | assistant
  | system
  | tool
  | function
  deriving DecidableEq, Repr

/-- What a part of a message is. -/
inductive PartKind where
  | text
  | image
  | audio
  | video
  | file
  | toolCall
  | toolResult
  | data
  deriving DecidableEq, Repr

/-- A name that belongs to no label of its vocabulary. -/
structure UnknownLabel where
  vocabulary : String
  name : String
  deriving DecidableEq, Repr

/-- The wording for an unknown name. -/
def UnknownLabel.message (e : UnknownLabel) : String :=
  "unknown " ++ e.vocabulary ++ ": " ++ e.name

/-- Finds the label that a name means, after blanks are dropped and the case is lowered. -/
def parseLabel {α : Type} (vocabulary : String) (named? : String → Option α) (s : String) :
    Except UnknownLabel α :=
  let name := String.ofList (Text.lower (Text.trim s.toList))
  match named? name with
  | some label => .ok label
  | none => .error ⟨vocabulary, name⟩

namespace TaskStatus

/-- All statuses. -/
def all : List TaskStatus := [.success, .failed, .running, .pending]

/-- The name of a status. -/
def name : TaskStatus → String
  | .success => "success"
  | .failed => "failed"
  | .running => "running"
  | .pending => "pending"

/-- The status with the given name. -/
def named? (s : String) : Option TaskStatus := all.find? (·.name == s)

/-- Whether processing has ended. -/
def isTerminal : TaskStatus → Bool
  | .success | .failed => true
  | .running | .pending => false

/-- The status that a typed name means. -/
def parse : String → Except UnknownLabel TaskStatus := parseLabel "task status" named?

/-- Reads a status. -/
def read : Json.Reader TaskStatus := Json.Reader.oneOf named?

end TaskStatus

namespace MessageRole

/-- All roles. -/
def all : List MessageRole := [.user, .assistant, .system, .tool, .function]

/-- The name of a role. -/
def name : MessageRole → String
  | .user => "user"
  | .assistant => "assistant"
  | .system => "system"
  | .tool => "tool"
  | .function => "function"

/-- The role with the given name. -/
def named? (s : String) : Option MessageRole := all.find? (·.name == s)

/-- The role that a typed name means. -/
def parse : String → Except UnknownLabel MessageRole := parseLabel "message role" named?

/-- Reads a role. -/
def read : Json.Reader MessageRole := Json.Reader.oneOf named?

end MessageRole

namespace PartKind

/-- All kinds of parts. -/
def all : List PartKind :=
  [.text, .image, .audio, .video, .file, .toolCall, .toolResult, .data]

/-- The name of a kind. -/
def name : PartKind → String
  | .text => "text"
  | .image => "image"
  | .audio => "audio"
  | .video => "video"
  | .file => "file"
  | .toolCall => "tool-call"
  | .toolResult => "tool-result"
  | .data => "data"

/-- The kind with the given name. -/
def named? (s : String) : Option PartKind := all.find? (·.name == s)

/-- The kind that a typed name means. -/
def parse : String → Except UnknownLabel PartKind := parseLabel "part type" named?

/-- Reads a kind. -/
def read : Json.Reader PartKind := Json.Reader.oneOf named?

end PartKind

end Colloquy
