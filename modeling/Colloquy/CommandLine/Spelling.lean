import Colloquy.CommandLine.Line

/-!
# How values are given

The value of an option is attached to its name with an equals sign, or it is the word after the name
(`GivenValue.words`). A word that begins with a hyphen and goes on is never taken as a value
(`GivenValue.Accepted`). The words that add a task and that send texts are put together here for any
values, given in either way.
-/

namespace Colloquy

/-- Whether a word begins with a hyphen and is longer than that. -/
def Word.beginsOption (s : String) : Bool :=
  match s.toList with
  | '-' :: _ :: _ => true
  | _ => false

/-- A value of an option, and whether it is attached to the name of the option. -/
structure GivenValue where
  text : String
  attached : Bool
  deriving DecidableEq, Repr

namespace GivenValue

/-- The words of an option with its value. -/
def words (name : String) (value : GivenValue) : List String :=
  if value.attached then ["--" ++ name ++ "=" ++ value.text] else ["--" ++ name, value.text]

/-- Whether a value is taken as one: it is attached, or no word that could be an option. -/
def Accepted (value : GivenValue) : Prop :=
  value.attached = true ∨ Word.beginsOption value.text = false

instance (value : GivenValue) : Decidable value.Accepted :=
  inferInstanceAs (Decidable (_ ∨ _))

end GivenValue

namespace CommandLine

/-- The words that name a project, if one is named. -/
def projectWords : Option Uuid → List String
  | some id => ["--project", id.text]
  | none => []

/-- The words that add a task with an order to a session. -/
def addTaskWords (sessionId : Uuid) (order : GivenValue) (project : Option Uuid) : List String :=
  ["task", "add", sessionId.text] ++ (order.words "order" ++ projectWords project)

/-- The words that send texts to a session. -/
def sendTextsWords (sessionId : Uuid) (texts : List GivenValue) (project : Option Uuid) :
    List String :=
  ["message", "send", sessionId.text] ++
    (texts.flatMap (GivenValue.words "text") ++ projectWords project)

end CommandLine

end Colloquy
