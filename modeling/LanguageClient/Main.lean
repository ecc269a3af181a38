import LanguageClient.CommandLine.Run
import LanguageClient.Rehearsal.FarEnd

/-!
# The program

Reads the files and variables that a command may look at, runs the command on them, writes back the
file of settings that it may have made, and prints what it has to say.  Streams to a server are not
opened here: a command that needs one reports that it cannot be reached.
-/

namespace LanguageClient.Main

/-- The variables that a command may look at. -/
def variableNames : List String :=
  ["AYA_LSP_MODE", "AYA_LSP_HOST", "AYA_LSP_PORT", "AYA_LSP_PATH", "JAVA_HOME", "XDG_CONFIG_HOME",
    "HOME", "PATH"]

def readEnvironment : IO Environment := do
  let mut env : Environment := []
  for name in variableNames do
    if let some value ← IO.getEnv name then env := env ++ [(name, value)]
  return env

/-- Adds a file to the tree, if it can be read. -/
def addFile (t : FileTree) (cwd : Place) (path : String) : IO FileTree := do
  let full := Path.join (Path.absolute cwd) path
  try
    let content ← IO.FS.readBinFile full
    return t.put (Path.components full) (.file content.toList false)
  catch _ => return t

/-- The files that a command may name. -/
def operands : Command → List String
  | .load file _ => [file]
  | .compute _ location => ((Location.parse location).toOption.map Location.file).toList
  | _ => []

/-- The files of settings. -/
def settingsPaths (env : Environment) (root : String) : List String :=
  [Settings.path .global env root, Settings.path .project env root]

/-- The files that the search for a server and its Java looks at. -/
def candidatePaths (c : ClientConfig) (env : Environment) : List String :=
  let paths := SearchPaths.ofEnvironment env
  Discovery.serverCandidates c.lsp paths
    ++ (Discovery.javaCandidates c.java paths).map JavaLocation.executable

/-- Connections cannot be opened. -/
def opener : Opener where
  connect e := .error (.connect e.render OsError.networkUnreachable.message)

/-- Writes a file back if it has changed. -/
def writeBack (before after : FileTree) (cwd : Place) (path : String) : IO Unit := do
  let content (t : FileTree) : Option (List UInt8) := (t.read cwd path).toOption
  if content after ≠ content before then
    if let some bytes := content after then
      if let some parent := Path.parent? path then
        unless parent.isEmpty do IO.FS.createDirAll parent
      IO.FS.writeBinFile path (ByteArray.mk bytes.toArray)

end LanguageClient.Main

open LanguageClient LanguageClient.Main in
def main (args : List String) : IO UInt32 := do
  let env ← readEnvironment
  let root := toString (← IO.currentDir)
  let cwd := Path.components root
  let mut files : FileTree := (⟨[]⟩ : FileTree).put cwd .directory
  for path in settingsPaths env root do files ← addFile files cwd path
  let here : Surroundings := ⟨env, cwd⟩
  let config := (Client.ofDirectory root here files).config
  let named := ((Invocation.parse args).toOption.map fun i => operands i.command).getD []
  for path in candidatePaths config env ++ named do files ← addFile files cwd path
  let client := Client.ofDirectory root here files
  let stage : Rehearsal := { bench := { client, opener := some opener } }
  let (result, stage) := RunResult.ofArgs args stage Stage.carryOut
  for path in settingsPaths env root do writeBack files stage.bench.client.files cwd path
  IO.print result.stdout
  return result.exit.toUInt32
