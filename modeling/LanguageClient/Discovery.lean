import LanguageClient.Endpoint
import LanguageClient.Settings.Load

/-!
# Finding the server and its Java

The server is the file that the settings name, if there is one, and else the first `aya-lsp` in the
directories of `PATH`.  Java is the first one below the home of the settings, then below the
directories of `JAVA_HOME`, then in those of `PATH`; if there is none at all it is left to the system
to find `java`.

Each search is the first file of a list of candidates, and the lists are definitions of their own
(`serverCandidates`, `javaCandidates`).
-/

namespace LanguageClient

/-- Why there is no server to start. -/
inductive DiscoveryError
  | disabled
  | notFound
  deriving DecidableEq, Inhabited, Repr

def DiscoveryError.message : DiscoveryError → String
  | disabled => "Aya language server is disabled"
  | notFound => "Cannot find aya language server"

/-- The two lists of directories in which the client looks. -/
structure SearchPaths where
  path : Option String := none
  javaHome : Option String := none
  deriving DecidableEq, Inhabited, Repr

/-- The lists that the environment gives. -/
def SearchPaths.ofEnvironment (env : Environment) : SearchPaths :=
  ⟨env.get? "PATH", env.get? "JAVA_HOME"⟩

/-- A Java, and the home that it was found in. -/
structure JavaLocation where
  executable : String
  home : Option String
  deriving DecidableEq, Inhabited, Repr

/-- What is needed to start a server. -/
structure Discovery where
  server : String
  java : JavaLocation
  deriving DecidableEq, Inhabited, Repr

namespace Discovery

def serverName : String := "aya-lsp"

def javaName : String := "java"

/-- The entries of a list of directories; an empty list is one empty entry. -/
def entries (list : String) : List String :=
  go list.toList
where
  go (cs : List Char) : List String :=
    (split cs).map String.ofList
  split : List Char → List (List Char)
    | [] => [[]]
    | c :: cs =>
      if c = ':' then [] :: split cs
      else match split cs with
        | [] => [[c]]
        | s :: rest => (c :: s) :: rest

/-- A program in each directory of an optional list. -/
def onPath (list : Option String) (program : String) : List String :=
  (list.toList.flatMap entries).map (Path.join · program)

/-- Where the server may be, in order of preference. -/
def serverCandidates (settings : ServerSettings) (paths : SearchPaths) : List String :=
  settings.path.toList ++ onPath paths.path serverName

/-- A Java in a home. -/
def javaIn (home : String) : JavaLocation :=
  ⟨Path.join (Path.join home "bin") javaName, some home⟩

/-- Where Java may be, in order of preference. -/
def javaCandidates (settings : JavaSettings) (paths : SearchPaths) : List JavaLocation :=
  ((settings.home.toList ++ paths.javaHome.toList).flatMap entries).map javaIn
    ++ (onPath paths.path javaName).map (⟨·, none⟩)

/-- The server. -/
def findServer (isFile : String → Bool) (settings : ServerSettings) (paths : SearchPaths) :
    Except DiscoveryError String :=
  if settings.enabled then
    match (serverCandidates settings paths).find? isFile with
    | some path => .ok path
    | none => .error .notFound
  else .error .disabled

/-- Java. -/
def findJava (isFile : String → Bool) (settings : JavaSettings) (paths : SearchPaths) :
    JavaLocation :=
  ((javaCandidates settings paths).find? (isFile ·.executable)).getD ⟨javaName, none⟩

/-- Both. -/
def discover (isFile : String → Bool) (config : ClientConfig) (paths : SearchPaths) :
    Except DiscoveryError Discovery := do
  let server ← findServer isFile config.lsp paths
  return ⟨server, findJava isFile config.java paths⟩

/-- How the server is started: with the home of its Java in the environment, if that has one. -/
def launch (d : Discovery) : Launch :=
  let l : Launch := { program := d.server }
  match d.java.home with
  | some home => l.withEnv "JAVA_HOME" home
  | none => l

/-- The endpoint that the settings ask for.  To dial a running server nothing has to be found. -/
def endpointFor (isFile : String → Bool) (config : ClientConfig) (paths : SearchPaths) :
    Except DiscoveryError Endpoint :=
  match config.lsp.mode with
  | .tcpClient =>
    if config.lsp.enabled then .ok (.tcpClient config.lsp.host config.lsp.port)
    else .error .disabled
  | .stdio => return .stdio (← discover isFile config paths).launch
  | .tcpServer =>
    return .tcpServer config.lsp.host config.lsp.port (← discover isFile config paths).launch

end Discovery

end LanguageClient
