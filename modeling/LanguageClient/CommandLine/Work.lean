import LanguageClient.Client.Errand
import LanguageClient.CommandLine.Command
import LanguageClient.CommandLine.Location
import LanguageClient.CommandLine.Report

/-!
# What the commands do

Each command is an errand that ends in a report, or in a text that says why there is none.  A command
that needs a server opens its file there first, and stops the session in the end whatever came of it.
-/

namespace LanguageClient

/-- An errand that may fail with a text. -/
abbrev Work := ExceptT String Errand

namespace Work

def call (c : Call) : Work Reply := do
  match ← (Errand.call c : Errand CallResult) with
  | .ok r => return r
  | .error e => throw e.message

def look : Work Client := (Errand.look : Errand Client)

def change (f : Client → Client) : Work Unit := (Errand.change f : Errand Unit)

/-- Starts the session and opens a file in it.  Answers the URI of the file. -/
def openInSession (file : String) : Work String := do
  match ← call .begin_ with
  | .flag false =>
    let c ← look
    throw ((c.editor.messages.getLast?.map (·.2)).getD "Aya language server is unavailable")
  | _ =>
    match ← call (.open_ file) with
    | .uri uri => return uri
    | _ => return ""

/-- The editor that shows what was just opened. -/
def activeEditor : Work EditorRef := do
  match (← look).editor.activeEditor with
  | some editor => return editor
  | none => throw "No active editor after opening the file"

/-! ## Loading -/

/-- How often it is looked whether highlights have come, in milliseconds. -/
def pollInterval : Nat := 50

/-- Waits until something is painted in an editor, at most until a time and for `polls` intervals. -/
def waitForPaint (editor : EditorId) (deadline : Nat) : (polls : Nat) → Errand Unit
  | 0 => .done ()
  | polls + 1 => .looks fun c =>
    if (c.decorations editor).isEmpty && c.now < deadline then
      .rests pollInterval (waitForPaint editor deadline polls)
    else .done ()

def load (file : String) (waitMs : Nat) : Work Json := do
  let uri ← openInSession file
  let editor ← activeEditor
  let delivery ← match ← call (.runAction .load true) with
    | .outcome (some _) => pure "response"
    | _ =>
      let c ← look
      (waitForPaint editor.id (c.now + waitMs) (waitMs / pollInterval + 2) : Errand Unit)
      pure "notification"
  let c ← look
  let symbols := ((c.overlay.cached? uri).map List.length).getD 0
  return Report.success
    (Report.load (Path.relativeTo c.root (Uri.toPath uri)) delivery symbols (c.decorations editor.id))

/-! ## Computing -/

def compute (kind : ActionKind) (location : String) : Work Json := do
  let c ← look
  let location ←
    match (Location.parse location).bind (Location.absolute c.files c.here.cwd) with
    | .ok l => pure l
    | .error e => throw e.message
  let _ ← openInSession location.file
  let editor ← activeEditor
  change fun c =>
    { c with editor := c.editor.setSelection editor.id (.caret location.position) }
  match ← call (.runAction kind true) with
  | .outcome (some (.computed r)) =>
    return Report.success (Report.computed (Path.relativeTo c.root location.file) kind.label r)
  | _ => return Report.failure ("No " ++ kind.label ++ " at " ++ location.render)

/-! ## Examining -/

/-- What comes of trying to start the session. -/
def tryHandshake : Errand Json := do
  match ← Errand.call .begin_ with
  | .error e => return Report.handshakeFailed e.message
  | .ok (.flag false) => return Report.handshakeFailed "language server unavailable"
  | .ok _ =>
    let c ← Errand.look
    return Report.handshake (c.session.handshake?.bind (·.serverInfo)) c.session.peer?

def doctor (connect : Bool) : Errand Json := do
  let c ← Errand.look
  let handshake ← if connect then do
      let h ← tryHandshake
      let _ ← Errand.call .stop
      pure (some h)
    else pure none
  let isFile := c.files.isFile c.here.cwd
  let paths := SearchPaths.ofEnvironment c.here.env
  return Report.success (Report.examination c.config
    (Discovery.findServer isFile c.config.lsp paths) (Discovery.findJava isFile c.config.java paths)
    c.endpoint.toOption handshake)

/-! ## Settings -/

def scope (global : Bool) : ConfigScope := if global then .global else .project

/-- How the path of a settings file is shown. -/
def shownPath (c : Client) (s : ConfigScope) (path : String) : String :=
  match s with
  | .global => path
  | .project => Path.relativeTo c.root path

def configInit (global force : Bool) : Errand Json := do
  let c ← Errand.look
  let s := scope global
  match Settings.init c.files c.here c.root s force with
  | .error e => return Report.failure e.message
  | .ok (path, files) =>
    Errand.change fun c => { c with files }
    return Report.success
      [("status", .str "created"), ("path", .str (shownPath c s path)), ("level", .str s.name)]

def configShow (global : Bool) : Errand Json := do
  let c ← Errand.look
  match Settings.load c.files c.here c.root global with
  | .error e => return Report.failure e.message
  | .ok config =>
    let level := if global then "global" else "merged"
    return Report.success [("level", .str level), ("config", config.toJson)]

def configPath (global : Bool) : Errand Json := do
  let c ← Errand.look
  let s := scope global
  let path := Settings.path s c.here.env c.root
  return Report.success [("level", .str s.name), ("path", .str (shownPath c s path)),
    ("exists", .bool (c.files.exists? c.here.cwd path))]

end Work

/-- What a command does. -/
def Command.work : Command → Work Json
  | load file waitMs => Work.load file waitMs.toNat
  | compute kind location => Work.compute kind location
  | doctor connect => (Work.doctor connect : Errand Json)
  | configInit global force => (Work.configInit global force : Errand Json)
  | configShow global => (Work.configShow global : Errand Json)
  | configPath global => (Work.configPath global : Errand Json)

/-- A command from beginning to end. -/
def Command.errand (c : Command) : Errand (Except String Json) := do
  let report ← c.work.run
  if c.needsSession then
    let _ ← Errand.call .stop
  return report

end LanguageClient
