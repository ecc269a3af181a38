import LanguageClient.Settings.Basic
import LanguageClient.Settings.Overlay
import LanguageClient.Storage.FileTree
import LanguageClient.Toml.Document

/-!
# Where settings come from

Settings come from four places, the later ones going before the earlier: the defaults, a person's own
file, the project's file, and variables of the environment.  For the Java home it is the other way
round with the environment, which only fills in when no file says anything.

`load` reads them, for a project or for the person alone; `init` writes a file with the defaults.
-/

namespace LanguageClient

/-- Which of the two files. -/
inductive ConfigScope
  | global | project
  deriving DecidableEq, Inhabited, Repr

def ConfigScope.name : ConfigScope → String
  | global => "global"
  | project => "project"

/-- Why there are no settings. -/
inductive ConfigError
  | notToml (scope : ConfigScope)
  | wrongShape (fault : Fault)
  | invalidValue (key message : String)
  | io (error : IoError)
  /-- A wording of its own, from outside. -/
  | parse (text : String)
  | notFound (text : String)
  deriving Inhabited

namespace ConfigError

def message : ConfigError → String
  | notToml _ => "Config parse error: invalid TOML"
  | wrongShape f => "Config parse error: " ++ f.located
  | invalidValue key m => "Invalid value for '" ++ key ++ "': " ++ m
  | io e => e.message
  | parse text => "Config parse error: " ++ text
  | notFound text => text

end ConfigError

/-- Where the client runs: the variables it sees and the directory it works in. -/
structure Surroundings where
  env : Environment := []
  cwd : Place := []
  deriving Inhabited, Repr

namespace Settings

/-- The directory for a person's own files. -/
def configHome (env : Environment) : String :=
  match env.get? "XDG_CONFIG_HOME" with
  | some dir => dir
  | none =>
    match env.get? "HOME" with
    | some home => Path.join home ".config"
    | none => "."

/-- The path of a person's own file. -/
def globalPath (env : Environment) : String :=
  Path.join (Path.join (configHome env) "aya-client") "config.toml"

/-- The path of a project's file. -/
def projectPath (project : String) : String :=
  Path.join (Path.join project ".aya") "client.toml"

def path (scope : ConfigScope) (env : Environment) (project : String) : String :=
  match scope with
  | .global => globalPath env
  | .project => projectPath project

/-- The table of a file; a missing file is an empty table. -/
def readTable (files : FileTree) (here : Surroundings) (scope : ConfigScope) (path : String) :
    Except ConfigError (List (String × Json)) :=
  if files.exists? here.cwd path then
    match files.readText here.cwd path with
    | .error e => .error (.io e)
    | .ok text =>
      match Toml.parse? text with
      | some table => .ok table
      | none => .error (.notToml scope)
  else .ok []

/-- Reads a port from a variable. -/
def portOf (text : String) : Except ConfigError UInt16 :=
  match Text.readNat 0xFFFF text.toList with
  | .ok n => .ok (UInt16.ofNat n)
  | .error e => .error (.invalidValue "AYA_LSP_PORT" (text ++ ": " ++ e.message))

/-- Reads a mode from a variable. -/
def modeOf (text : String) : Except ConfigError TransportMode :=
  (TransportMode.parse text).mapError fun e => .invalidValue "AYA_LSP_MODE" e.message

/-- The settings with what the environment says. -/
def override (env : Environment) (c : ClientConfig) : Except ConfigError ClientConfig := do
  let mode ← match env.get? "AYA_LSP_MODE" with
    | some text => modeOf text
    | none => .ok c.lsp.mode
  let host := (env.get? "AYA_LSP_HOST").getD c.lsp.host
  let port ← match env.get? "AYA_LSP_PORT" with
    | some text => portOf text
    | none => .ok c.lsp.port
  let path := (env.get? "AYA_LSP_PATH").or c.lsp.path
  let home := c.java.home.or ((env.get? "JAVA_HOME").filter (!·.isEmpty))
  return { c with lsp := { c.lsp with mode, host, port, path }, java := { home } }

/-- The settings in a table. -/
def ofTable (table : List (String × Json)) : Except ConfigError ClientConfig :=
  (ClientConfig.decodeTable (.obj table)).mapError .wrongShape

/-- The settings of a project, or those of the person alone. -/
def load (files : FileTree) (here : Surroundings) (project : String) (globalOnly : Bool) :
    Except ConfigError ClientConfig := do
  let below ← readTable files here .global (globalPath here.env)
  if globalOnly then ofTable below
  else
    let above ← readTable files here .project (projectPath project)
    let config ← ofTable (overlayMembers below above)
    override here.env config

/-- Writes a file with the defaults; a file that is there is only replaced by force.  Answers the
path of the file. -/
def init (files : FileTree) (here : Surroundings) (project : String) (scope : ConfigScope)
    (force : Bool) : Except ConfigError (String × FileTree) :=
  let path := path scope here.env project
  if files.exists? here.cwd path && !force then
    .error (.invalidValue "config"
      ("Config already exists: " ++ path ++ ". Use --force to overwrite."))
  else
    let io {α : Type} (r : Except IoError α) : Except ConfigError α := r.mapError .io
    do
      let files ← match Path.parent? path with
        | none => .ok files
        | some "" => .ok files
        | some parent => io (files.makePath here.cwd parent)
      let files ← io (files.write here.cwd path (Utf8.ofString (ClientConfig.render {})))
      return (path, files)

end Settings

end LanguageClient
