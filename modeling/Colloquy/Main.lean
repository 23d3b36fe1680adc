import Std.Time.DateTime.Timestamp
import Colloquy.CommandLine.Run
import Colloquy.Store.File

/-!
# The program

The program reads its configuration and the stored data, draws an id and a time, runs the command,
and writes the data back if they changed. What it does in between is `Invocation.runWith`.
-/

namespace Colloquy

/-- What the environment of the process says about the places of files. -/
def Environment.current : IO Environment := do
  return {
    configFile := ← IO.getEnv "CTXBASE_CONFIG"
    configHome := ← IO.getEnv "XDG_CONFIG_HOME"
    dataHome := ← IO.getEnv "XDG_DATA_HOME"
    home := ← IO.getEnv "HOME" }

/-- The bytes of a file, if it exists. -/
def fileBytes? (path : String) : IO (Option (List UInt8)) := do
  try return some (← IO.FS.readBinFile path).toList
  catch
    | .noFileOrDirectory .. => return none
    | e => throw e

/-- The directory part of a path. -/
def directoryOf (path : String) : String :=
  "/".intercalate (path.splitOn "/").dropLast

/-- The stored data at a path; a file that does not exist holds none. -/
def loadStore (path : String) : IO Store := do
  match ← fileBytes? path with
  | none => return Store.empty
  | some bytes =>
    match (Text.ofUtf8? bytes).bind Store.ofText? with
    | some store => return store
    | none => throw (IO.userError ("open database " ++ path ++ ": file is not a database"))

/-- Writes the stored data to a path. -/
def saveStore (path : String) (store : Store) : IO Unit := do
  let directory := directoryOf path
  unless directory.isEmpty do IO.FS.createDirAll directory
  IO.FS.writeFile path store.toText

/-- A fresh random identifier. -/
def drawId : IO Uuid := do
  let bytes ← IO.getRandomBytes 16
  return .ofRandomBits (bytes.toList.foldl (fun acc b => acc * 256 + b.toNat) 0)

/-- The time of the clock. -/
def drawTime : IO Instant := do
  let now ← Std.Time.Timestamp.now
  match Instant.ofNanos? now.toNanosecondsSinceUnixEpoch.val with
  | some t => return t
  | none => throw (IO.userError "the clock is out of range")

/-- The wording of an error of a run. -/
def RunError.message (configPath databasePath : String) : RunError → String
  | .config fault => fault.message configPath
  | .database e => "open database " ++ databasePath ++ ": " ++ e.message
  | .command e => e.message

/-- The names of all commands, a line for each. -/
def CommandLine.overview : String :=
  "Usage: ctxbase [OPTIONS] COMMAND\n" ++
    String.join (usage.commands.flatMap fun (group, inner) =>
      inner.commands.map fun (name, _) => "  ctxbase " ++ group ++ " " ++ name ++ "\n")

/-- Runs a command and gives the exit code. -/
def Invocation.execute (i : Invocation) : IO UInt32 := do
  let environment ← Environment.current
  let configPath := environment.configPath i.configFile
  match Config.load (← fileBytes? configPath) with
  | .error fault =>
    IO.eprintln ("ctxbase: " ++ fault.message configPath)
    return 1
  | .ok config =>
    let databasePath := i.database.getD (environment.databasePath config)
    let store ← loadStore databasePath
    let (after, result) := i.runWith config store (← drawId) (← drawTime)
    if after ≠ store then saveStore databasePath after
    match result with
    | .ok out =>
      IO.print out
      return 0
    | .error e =>
      IO.eprintln ("ctxbase: " ++ e.message configPath databasePath)
      return 1

/-- Reads the command line and runs the command. -/
def program (words : List String) : IO UInt32 := do
  match CommandLine.parse words with
  | .error .help =>
    IO.print CommandLine.overview
    return 0
  | .error _ =>
    IO.eprint CommandLine.overview
    return 2
  | .ok invocation =>
    try invocation.execute
    catch e =>
      IO.eprintln ("ctxbase: " ++ toString e)
      return 1

end Colloquy

/-- The program. -/
def main (words : List String) : IO UInt32 :=
  Colloquy.program words
