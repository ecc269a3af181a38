import LanguageClient.Action.Kind
import LanguageClient.Discovery
import LanguageClient.Editor.Headless
import LanguageClient.Highlight.Overlay
import LanguageClient.Session.Basic

/-!
# The client

A client is an editor, an overlay that paints it, a session with a server, and a queue between them.
What the editor reports and what the server sends about highlights goes into the queue and is handled
one after another in the order in which it came (`dispatch?`).  Who needs to know that everything
queued so far has been handled queues a barrier and waits until it has been reached.
-/

namespace LanguageClient

/-- Work for the queue. -/
inductive Dispatch
  | event (e : EditorEvent)
  | highlights (r : HighlightResult)
  /-- Tells an activity that everything before it has been handled. -/
  | barrier (task : TaskId)
  deriving DecidableEq, Inhabited, Repr

structure Client where
  /-- The directory of the project. -/
  root : String := "/"
  config : ClientConfig := {}
  here : Surroundings := {}
  files : FileTree := {}
  editor : HeadlessEditor := {}
  overlay : Overlay := {}
  session : Session := {}
  queue : List Dispatch := []
  /-- Activities whose barrier has been reached. -/
  reached : List TaskId := []
  /-- The person has been told that there is no server. -/
  announced : Bool := false
  /-- The time in milliseconds. -/
  now : Nat := 0
  log : List (LogLevel × String) := []
  /-- What observers of notifications have been shown. -/
  observed : List (String × Json) := []
  deriving Inhabited

/-- Why a call of the client fails. -/
inductive ClientError
  | session (e : Failure)
  | host (e : HostError)
  | io (e : IoError)
  deriving DecidableEq, Inhabited

def ClientError.message : ClientError → String
  | session e => e.message
  | host e => e.message
  | io e => e.message

namespace Client

/-- A client for a project, with its handler for highlights. -/
def ofProject (root : String) (config : ClientConfig) (here : Surroundings) (files : FileTree)
    (limits : TimeoutSettings) : Client :=
  let session : Session :=
    { rootUri := some (Uri.ofPath root)
      limits
      handlers := [(publishHighlightMethod, .overlay)] }
  { root, config, here, files, session }

/-- An activity on the session. -/
def onSession {π α : Type} (c : Client) (p : Progress Session π α) : Progress Client π α :=
  p.onState fun session => { c with session }

def write (c : Client) (level : LogLevel) (text : String) : Client :=
  { c with log := c.log ++ [(level, text)] }

/-! ## The queue -/

def send (c : Client) (d : Dispatch) : Client := { c with queue := c.queue ++ [d] }

/-- The client after one piece of work. -/
def perform (c : Client) : Dispatch → Client
  | .event e =>
    let (overlay, editor) := c.overlay.handle c.editor e
    { c with overlay, editor }
  | .highlights r =>
    let (_, overlay, editor) := c.overlay.applyHighlights c.editor r
    { c with overlay, editor }
  | .barrier task => { c with reached := c.reached ++ [task] }

/-- The next step of the dispatcher. -/
def dispatch? (c : Client) : Option Client :=
  match c.queue with
  | [] => none
  | d :: rest => some ({ c with queue := rest }.perform d)

/-! ## What the server says -/

/-- What a step of a reader means to the client.  Highlights that cannot be read are dropped. -/
def absorb (c : Client) : Signal → Client
  | .logged level text => c.write level text
  | .notified (.observer name _) params => { c with observed := c.observed ++ [(name, params)] }
  | .notified .overlay params =>
    match HighlightResult.decode params with
    | .ok r => c.send (.highlights r)
    | .error _ => c

/-- The client after a step of a reader. -/
def absorbAll (c : Client) (step : Session × List Signal) : Client :=
  step.2.foldl absorb { c with session := step.1 }

/-- The next step of the reader of a line. -/
def read? (c : Client) (line : Nat) : Option Client := (c.session.read? line).map c.absorbAll

/-- A step that the reader of a line takes although it was told to stop. -/
def readOn? (c : Client) (line : Nat) : Option Client := (c.session.readOn? line).map c.absorbAll

/-! ## What a person is told -/

/-- Tells the person why there is no server, but only once. -/
def announce (c : Client) (e : DiscoveryError) : Client :=
  if c.announced then c
  else
    let level : MessageLevel := match e with
      | .disabled => .info
      | .notFound => .warning
    { c with announced := true, editor := c.editor.showMessage level e.message }

/-- The endpoint that the configuration asks for. -/
def endpoint (c : Client) : Except DiscoveryError Endpoint :=
  Discovery.endpointFor (c.files.isFile c.here.cwd) c.config (.ofEnvironment c.here.env)

/-- What is painted in an editor. -/
def decorations (c : Client) (editor : EditorId) : List RenderedDecoration :=
  c.editor.canvas.inEditor editor

end Client

end LanguageClient
