import LanguageClient.Rehearsal.Hosted
import LanguageClient.Rehearsal.Stage

/-!
# A client with its processes

On this stage the far ends of the connections are processes of the same machine.  What the client
writes is sent to the process, what the process writes is received by the client, and each side
notices when the other one is gone.
-/

namespace LanguageClient

/-- A process that is expected to dial. -/
structure Expected where
  hosted : Hosted
  address : String
  deadline : Nat

structure Household where
  bench : Workbench := {}
  /-- The process of each line, with the number of messages that have been sent to it. -/
  processes : Table Nat (Nat × Hosted) := []
  expected : Option Expected := none

namespace Household

def now (m : Household) : Nat := m.bench.client.now

def machine (m : Household) : Machine :=
  let c := m.bench.client
  ⟨c.files, c.here.cwd, c.here.env⟩

def limits (m : Household) : TimeoutSettings := m.bench.client.session.limits

def offer (m : Household) (r : Except Failure Line) : Household :=
  { m with bench := m.bench.modifySession fun s => { s with wanted := none, offer := some r } }

/-- Tries to reach the endpoint that is wanted. -/
def open_ (m : Household) (e : Endpoint) : Household :=
  match (m.machine.open_ m.limits m.now e).2 with
  | .failed f => m.offer (.error f)
  | .connected peer h =>
    { m with processes := m.processes.set m.bench.client.session.lines.length (0, h.tick m.now) }.offer
      (.ok { peer, process := some {} })
  | .listening h address deadline =>
    { m with
      expected := some ⟨h, address, deadline⟩
      bench := m.bench.modifySession fun s => { s with wanted := none } }

/-- Nothing more comes from a process. -/
def closeLink (c : Connection) : Connection :=
  { c with link := { c.link with ended := true, refusal := some (.system .brokenPipe) } }

/-- One thing that happens between a line and its process. -/
def pump? (now : Nat) (l : Line) (fed : Nat) (h : Hosted) : Option (Line × Nat × Hosted) :=
  let sent := l.connection.link.sent
  if fed < sent.length then
    let bytes := (sent.drop fed).flatMap fun m => Utf8.ofString (Frame.ofJson m.toJson)
    some (l, sent.length, (h.send bytes).tick now)
  else if !l.connection.writable && !h.sentAll then some (l, fed, h.endInput.tick now)
  else if !h.messages.isEmpty then
    some ({ l with connection := l.connection.receive h.messages }, fed, { h with messages := [] })
  else if h.streamsClosed && !l.connection.link.ended then
    some ({ l with connection := closeLink l.connection }, fed, h)
  else if h.process.exit.isSome && l.process.any (·.exit.isNone) then
    some ({ l with process := some ⟨h.process.exit⟩ }, fed, h)
  else if l.process.any (·.exit.isSome) && h.process.status.isNone && !h.process.killWanted then
    some (l, fed, h.kill.tick now)
  else if h.wake?.any (· ≤ now) then some (l, fed, h.tick now)
  else none

/-- Something happens between one of the lines and its process. -/
def pumpAny? (m : Household) : Option Household :=
  m.processes.findSome? fun (n, fed, h) =>
    (m.bench.client.session.line? n).bind fun l =>
      (pump? m.now l fed h).map fun (l, fed, h) =>
        { m with
          processes := m.processes.set n (fed, h)
          bench := m.bench.modifySession fun s => s.modifyLine n fun _ => l }

/-- A process that was expected to dial goes on, or is given up. -/
def expect? (m : Household) : Option Household :=
  match m.expected with
  | none => none
  | some x =>
    let done (e : IoError) : Household :=
      { m with expected := none }.offer (.error (.connect x.address e.message))
    let h := x.hosted.tick m.now
    if h.process.exit.isSome then some (done Machine.exitedEarly)
    else if x.deadline ≤ m.now then
      some (done (Machine.nobodyDialled (m.limits.acceptSecs.toNat * 1000)))
    else if h.wake? ≠ x.hosted.wake? then some { m with expected := some { x with hosted := h } }
    else none

def react? (m : Household) : Option Household :=
  match m.bench.client.session.wanted with
  | some e => some (m.open_ e)
  | none => (m.expect?).or m.pumpAny?

def wake? (m : Household) : Option Nat :=
  let times := m.processes.values.filterMap (fun (_, h) => h.wake?)
    ++ (m.expected.toList.flatMap fun x => x.deadline :: x.hosted.wake?.toList)
  (times.filter (m.now < ·)).min?

instance : Stage Household where
  bench := bench
  setBench m bench := { m with bench }
  react? := react?
  wake? := wake?

end Household

end LanguageClient
