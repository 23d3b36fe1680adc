import Colloquy.Paging.Query
import Colloquy.Text.Utf8
import Colloquy.Toml.Reader

/-!
# Configuration

A `Config` says where the database is, which project is meant and how large pages may be. It is
read from a file in which everything may be missing (`Config.load`), and an `Environment` says where
that file and the database are when nobody names them.
-/

namespace Colloquy

/-- The settings of the command line. -/
structure Config where
  databasePath : Option String := none
  projectId : Option Uuid := none
  logLevel : Option String := none
  paging : PagingLimits := {}

/-- What is wrong with the limits of a configuration. -/
inductive LimitsFault where
  | noMaximum
  | defaultOutside (maxLimit defaultLimit : Nat)
  deriving DecidableEq, Repr

/-- The wording of each fault. -/
def LimitsFault.message : LimitsFault → String
  | .noMaximum => "paging.max_limit must be at least 1"
  | .defaultOutside maxLimit defaultLimit =>
    s!"paging.default_limit must be within 1..={maxLimit}, got {defaultLimit}"

/-- Why a configuration file is refused. -/
inductive ConfigFault where
  /-- The file is no text. -/
  | unreadable
  /-- The text is no configuration. -/
  | malformed
  | invalid (fault : LimitsFault)
  deriving DecidableEq, Repr

/-- The wording of each fault for the file at a path. -/
def ConfigFault.message (path : String) : ConfigFault → String
  | .unreadable => "read config " ++ path
  | .malformed => "parse config " ++ path
  | .invalid fault => "invalid config " ++ path ++ ": " ++ fault.message

/-- Checks that there are pages, and that a page of the default size is allowed. -/
def PagingLimits.check (l : PagingLimits) : Except LimitsFault Unit :=
  if l.maxLimit = 0 then .error .noMaximum
  else if l.defaultLimit = 0 ∨ l.maxLimit < l.defaultLimit then
    .error (.defaultOutside l.maxLimit l.defaultLimit)
  else .ok ()

/-- Reads the limits of pages from a configuration file. -/
def PagingLimits.ofToml? (v : Toml) : Option PagingLimits := do
  let fields ← v.fields? ["default_limit", "max_limit"]
  return {
    defaultLimit := ← Toml.field? fields "default_limit" 20 Toml.nat32?
    maxLimit := ← Toml.field? fields "max_limit" 200 Toml.nat32? }

namespace Config

/-- Reads a configuration; unknown names are passed over. -/
def ofToml? (v : Toml) : Option Config := do
  let fields ← v.fields? ["database_path", "project_id", "log_level", "paging"]
  return {
    databasePath := ← Toml.field? fields "database_path" none fun v => v.text?.map some
    projectId := ← Toml.field? fields "project_id" none fun v => v.uuid?.map some
    logLevel := ← Toml.field? fields "log_level" none fun v => v.text?.map some
    paging := ← Toml.field? fields "paging" {} PagingLimits.ofToml? }

/-- Reads the content of a configuration file. A missing file stands for the defaults. -/
def load : Option (List UInt8) → Except ConfigFault Config
  | none => .ok {}
  | some bytes =>
    match Text.ofUtf8? bytes with
    | none => .error .unreadable
    | some text =>
      match (Toml.ofString? text).bind ofToml? with
      | none => .error .malformed
      | some config =>
        match config.paging.check with
        | .error fault => .error (.invalid fault)
        | .ok () => .ok config

end Config

/-- What the environment says about the places of files. -/
structure Environment where
  /-- The configuration file. -/
  configFile : Option String := none
  /-- The directory of configurations, which counts if it is absolute. -/
  configHome : Option String := none
  /-- The directory of data, which counts if it is absolute. -/
  dataHome : Option String := none
  home : Option String := none
  /-- The home directory of the account, which counts where `home` is missing or empty. -/
  accountHome : Option String := none

namespace Environment

/-- A path inside a directory. -/
def inside (directory path : String) : String :=
  if directory.isEmpty || directory.endsWith "/" then directory ++ path
  else directory ++ "/" ++ path

/-- A directory for one kind of files: the one that is named if it is absolute, else a place in the
home directory, and where there is none the current directory. -/
def directory (e : Environment) (named : Option String) (underHome : String) : String :=
  match named.filter (·.startsWith "/"), (e.home.filter (!·.isEmpty)).or e.accountHome with
  | some path, _ => path
  | none, some home => inside home underHome
  | none, none => "."

/-- The path of the configuration file. -/
def configPath (e : Environment) (explicit : Option String) : String :=
  match explicit, e.configFile with
  | some path, _ => path
  | none, some path => path
  | none, none => inside (e.directory e.configHome ".config") "ctxbase/config.toml"

/-- The path of the database. -/
def databasePath (e : Environment) (config : Config) : String :=
  config.databasePath.getD
    (inside (e.directory e.dataHome ".local/share") "ctxbase/context.db")

end Environment

end Colloquy
