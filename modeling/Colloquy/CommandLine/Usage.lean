import Colloquy.Label
import Colloquy.Text.Decimal
import Colloquy.Uuid

/-!
# Arguments of commands

A `Usage` says which arguments the commands of a program take, and `Usage.parse` reads a list of
words as one of these commands. Options are written `--name value` or `--name=value`, flags
`--name`, and everything else is an operand; behind `--` there are only operands. A value that
starts with a hyphen has to be attached with an equals sign, because it would be taken for an option
otherwise.

The values of an argument wait until the next argument starts, and are checked only then. So a word
that is not understood is reported before a bad value of the argument in front of it.
-/

namespace Colloquy

/-- Why words are not understood as a command. -/
inductive UsageError where
  /-- Help was asked for. -/
  | help
  /-- A group of commands was named and nothing else. -/
  | nothingElse
  | missingCommand
  | unknownCommand
  | unknownArgument
  /-- An option without its value. -/
  | missingValue
  /-- A value that its argument does not take. -/
  | badValue
  /-- An argument that may not be given twice, or not together with another one. -/
  | conflict
  /-- A flag with a value. -/
  | unexpectedValue
  | missingArgument
  deriving DecidableEq, Repr

/-- A value of an argument. -/
inductive Value where
  | id (id : Uuid)
  | number (n : Int)
  | text (s : String)
  | role (r : MessageRole)
  | status (s : TaskStatus)

/-- What kind of value an argument takes. -/
inductive ValueKind where
  | id
  /-- An unsigned 32-bit integer. -/
  | nat32
  | int64
  | text
  /-- A text that is not empty. -/
  | path
  | role
  | status
  deriving DecidableEq, Repr

/-- Reads a value. -/
def ValueKind.read (kind : ValueKind) (s : String) : Except UsageError Value :=
  let orBad (v : Option Value) : Except UsageError Value :=
    match v with
    | some v => .ok v
    | none => .error .badValue
  match kind with
  | .id => orBad ((Uuid.read? s).map .id)
  | .nat32 => orBad do
    let n ← (Decimal.readInt64 s.toList).toOption
    if 0 ≤ n.1 ∧ n.1 < 4294967296 then return .number n.1 else none
  | .int64 => orBad do return .number (← (Decimal.readInt64 s.toList).toOption).1
  | .text => .ok (.text s)
  | .path => if s = "" then .error .missingValue else .ok (.text s)
  | .role => orBad ((MessageRole.parse s).toOption.map .role)
  | .status => orBad ((TaskStatus.parse s).toOption.map .status)

/-- An argument: a flag takes no value. -/
structure Parameter where
  name : String
  takes : Option ValueKind
  repeatable : Bool := false

/-- Reads a value of an argument. -/
def Parameter.read (parameter : Parameter) (word : String) : Except UsageError Value :=
  match parameter.takes with
  | some kind => kind.read word
  | none => .error .unexpectedValue

/-- The arguments that were found, by name, each with its values. An argument that is given several
times has several entries. -/
abbrev Arguments := List (String × List Value)

namespace Arguments

/-- The first value of an argument. -/
def value? (a : Arguments) (name : String) : Option Value :=
  (a.lookup name).bind List.head?

/-- All values of an argument. -/
def values (a : Arguments) (name : String) : List Value :=
  (a.filter (·.1 == name)).flatMap (·.2)

/-- Whether an argument is given. -/
def has (a : Arguments) (name : String) : Bool :=
  a.any (·.1 == name)

/-- The identifier given for an argument. -/
def id? (a : Arguments) (name : String) : Option Uuid :=
  match a.value? name with
  | some (.id id) => some id
  | _ => none

/-- The number given for an argument. -/
def number? (a : Arguments) (name : String) : Option Int :=
  match a.value? name with
  | some (.number n) => some n
  | _ => none

/-- The text given for an argument. -/
def text? (a : Arguments) (name : String) : Option String :=
  match a.value? name with
  | some (.text s) => some s
  | _ => none

/-- The role given for an argument. -/
def role? (a : Arguments) (name : String) : Option MessageRole :=
  match a.value? name with
  | some (.role r) => some r
  | _ => none

/-- The status given for an argument. -/
def status? (a : Arguments) (name : String) : Option TaskStatus :=
  match a.value? name with
  | some (.status s) => some s
  | _ => none

/-- All identifiers given for an argument. -/
def ids (a : Arguments) (name : String) : List Uuid :=
  (a.values name).filterMap fun
    | .id id => some id
    | _ => none

/-- All texts given for an argument. -/
def texts (a : Arguments) (name : String) : List String :=
  (a.values name).filterMap fun
    | .text s => some s
    | _ => none

end Arguments

/-- The arguments of one command, and how it is made of them. A command is not made if it lacks an
argument. -/
structure CommandUsage (α : Type) where
  options : List Parameter := []
  operands : List Parameter := []
  /-- Arguments that may not be given together. -/
  exclusive : List (String × String) := []
  make : Arguments → Option α

/-- The commands of a program, in groups. -/
inductive Usage (α : Type) where
  | group (commands : List (String × Usage α))
  | command (usage : CommandUsage α)

/-- What has been read at one level of commands. -/
structure Progress where
  found : Arguments := []
  /-- The argument that was started last, with its values so far. -/
  waiting : Option (Parameter × List String) := none
  /-- How many operands are done. -/
  operands : Nat := 0
  /-- Whether only operands follow. -/
  onlyOperands : Bool := false

namespace Progress

/-- Notes an argument with the values that its words are read as. -/
def note (p : Progress) (parameter : Parameter) (words : List String) :
    Except UsageError Progress :=
  if !parameter.repeatable && p.found.has parameter.name then .error .conflict
  else do return { p with found := p.found ++ [(parameter.name, ← words.mapM parameter.read)] }

/-- Checks the values of the waiting argument. -/
def settle (p : Progress) : Except UsageError Progress :=
  match p.waiting with
  | none => .ok p
  | some (_, []) => .error .missingValue
  | some (parameter, words) =>
    { p with waiting := none }.note parameter words

/-- Whether an option waits for its value. -/
def awaitsValue (p : Progress) : Bool :=
  match p.waiting with
  | some (_, []) => true
  | _ => false

/-- Starts an argument. -/
def start (p : Progress) (parameter : Parameter) (words : List String) :
    Except UsageError Progress := do
  let p ← p.settle
  return { p with waiting := some (parameter, words) }

/-- Takes a flag. -/
def flag (p : Progress) (parameter : Parameter) : Except UsageError Progress := do
  let p ← p.settle
  p.note parameter []

/-- Takes an option with its value attached. -/
def attached (p : Progress) (parameter : Parameter) (word : String) :
    Except UsageError Progress := do
  let p ← p.start parameter [word]
  p.settle

/-- Takes a word as the value of the waiting option. -/
def giveValue (p : Progress) (word : String) : Progress :=
  match p.waiting with
  | some (parameter, words) => { p with waiting := some (parameter, words ++ [word]) }
  | none => p

/-- Takes a word as an operand; there is none if all operands are done. -/
def operand? (p : Progress) (operands : List Parameter) (word : String) :
    Option (Except UsageError Progress) :=
  match operands[p.operands]? with
  | none => none
  | some parameter =>
    if parameter.repeatable then
      match p.waiting with
      | some (waiting, _) =>
        if waiting.name == parameter.name then some (.ok (p.giveValue word))
        else some (p.start parameter [word])
      | none => some (p.start parameter [word])
    else some do
      let p ← p.start parameter [word]
      return { p with operands := p.operands + 1 }

end Progress

/-! ### Words -/

/-- The forms of a word. -/
inductive Word where
  /-- Two hyphens alone. -/
  | separator
  | long (name : String) (value : Option String)
  /-- One hyphen and letters. -/
  | short (letters : List Char)
  | plain
  deriving DecidableEq, Repr

/-- The form of a word. -/
def Word.of (s : String) : Word :=
  match s.toList with
  | ['-', '-'] => .separator
  | '-' :: '-' :: rest =>
    let name := String.ofList (rest.takeWhile (· != '='))
    match rest.dropWhile (· != '=') with
    | _ :: value => .long name (some (String.ofList value))
    | [] => .long name none
  | '-' :: c :: rest => .short (c :: rest)
  | _ => .plain

/-! ### Commands -/

/-- A command that was read, and the arguments that all commands share. -/
structure Parsed (α : Type) where
  command : α
  shared : Arguments

namespace Usage

variable {α : Type}

/-- The name of the command that explains the others of its group. -/
def helpName : String := "help"

/-- The commands of a group. -/
def commands : Usage α → List (String × Usage α)
  | group commands => commands
  | command _ => []

/-- The options that are understood, those of all commands among them. -/
def options (shared : List Parameter) : Usage α → List Parameter
  | group _ => shared
  | command usage => usage.options ++ shared

/-- The operands that are taken. -/
def operands : Usage α → List Parameter
  | group _ => []
  | command usage => usage.operands

/-- Whether a word names a command of the group. -/
def hasCommand (u : Usage α) (word : String) : Bool :=
  !u.commands.isEmpty && (word == helpName || u.commands.any (·.1 == word))

/-- What comes of asking for help on a command. -/
def explain : Usage α → List String → UsageError
  | _, [] => .help
  | u, word :: rest =>
    match u.commands.lookup word with
    | some u => explain u rest
    | none => if u.hasCommand word && rest.isEmpty then .help else .unknownCommand

/-- What is wrong with an operand that is not taken. -/
def stray (u : Usage α) (afterSeparator : Bool) (word : String) : UsageError :=
  if u.commands.isEmpty || (afterSeparator && u.hasCommand word) then .unknownArgument
  else .unknownCommand

/-- Makes the command at the end of all words. -/
def finish (shared : List Parameter) (u : Usage α) (p : Progress) :
    Except UsageError (Parsed α) := do
  let p ← p.settle
  match u with
  | group _ => .error (if p.found.isEmpty then .nothingElse else .missingCommand)
  | command usage =>
    if usage.exclusive.any fun (a, b) => p.found.has a && p.found.has b then .error .conflict
    else
      match usage.make p.found with
      | none => .error .missingArgument
      | some made =>
        return ⟨made, p.found.filter fun (name, _) => shared.any (·.name == name)⟩

/-- Takes a word that is no name of a command. -/
def takeWord (shared : List Parameter) (u : Usage α) (p : Progress) (word : String) :
    Except UsageError Progress :=
  let operand := (p.operand? u.operands word).getD (.error (u.stray p.onlyOperands word))
  if p.onlyOperands then operand
  else
    match Word.of word with
    | .separator => .ok { p with onlyOperands := true }
    | .short letters =>
      if letters.head? = some 'h' then do
        let _ ← p.settle
        .error .help
      else .error .unknownArgument
    | .long name value =>
      if name == helpName then
        if value.isSome then .error .unexpectedValue
        else do
          let _ ← p.settle
          .error .help
      else
        match (u.options shared).find? (·.name == name) with
        | none => .error .unknownArgument
        | some parameter =>
          match parameter.takes, value with
          | none, none => p.flag parameter
          | none, some _ => .error .unexpectedValue
          | some _, some value => p.attached parameter value
          | some _, none => p.start parameter []
    | .plain => if p.awaitsValue then .ok (p.giveValue word) else operand

/-- Reads words at one level of commands. -/
def read (shared : List Parameter) (u : Usage α) (p : Progress) :
    List String → Except UsageError (Parsed α)
  | [] => u.finish shared p
  | word :: rest =>
    if !p.onlyOperands && !p.awaitsValue && u.hasCommand word then
      match u.commands.lookup word with
      | none => .error (u.explain rest)
      | some inner => do
        let parsed ← read shared inner {} rest
        let p ← p.settle
        return { parsed with shared := parsed.shared ++ p.found }
    else do
      let p ← u.takeWord shared p word
      read shared u p rest

/-- Reads words as a command. Arguments that all commands share may stand at every level, and the
one that is furthest in counts. -/
def parse (shared : List Parameter) (u : Usage α) (words : List String) :
    Except UsageError (Parsed α) :=
  u.read shared {} words

end Usage

end Colloquy
