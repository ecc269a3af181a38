import LanguageClient.Client.Call

/-!
# Everything that goes on

A workbench is a client together with all its activities: the calls that have not returned, a reader
and a writer of answers for each line, the watches, the dispatcher, whoever opens connections, and
the servers that are about to leave.  `act?` is one step of one activity, and absent if the activity waits.  Which of them steps next is
for nobody to say; `Step` allows every order.

`settle` is one order: an activity goes on until it waits, and then the one that has been ready
longest has its turn, until all of them wait; whoever is told to stop does so at once, and an opener
answers at once.  Who does several things to a workbench that rests notes after each of them who has
become ready (`wake`), so that this is known.  What `settle` does is a run of `Step` (`run_settle`),
so whatever holds after every run holds after it.  `settleWithoutFiles` is the same order for as long
as no file has been read or written.
-/

namespace LanguageClient

/-- Something that goes on. -/
inductive Activity
  | call (task : TaskId)
  | reader (line : Nat)
  /-- The reader of a line, for as long as it goes on although it was told to stop. -/
  | lateReader (line : Nat)
  | payer (line : Nat)
  /-- The server of a line, which has let go of the stream. -/
  | leaver (line : Nat)
  | watch (line : Nat)
  | dispatcher
  | opener
  deriving DecidableEq, Inhabited, Repr

/-- Opens connections at once: whether it works, and to whom they lead. -/
structure Opener where
  /-- Failures of the next attempts, the next one first. -/
  refusals : List (Endpoint → Failure) := []
  /-- What an attempt comes to otherwise. -/
  connect : Endpoint → Except Failure Line := fun e => .ok { peer := e.render }

instance : Inhabited Opener := ⟨{}⟩

namespace Opener

/-- One attempt. -/
def attempt (o : Opener) (e : Endpoint) : Except Failure Line × Opener :=
  match o.refusals with
  | [] => (o.connect e, o)
  | refusal :: rest => (.error (refusal e), { o with refusals := rest })

end Opener

structure Workbench where
  client : Client := {}
  /-- The calls that have not returned. -/
  calls : Table TaskId Call := []
  /-- What the calls that have returned came to, the first one first. -/
  returned : List (TaskId × CallResult) := []
  latestTask : Nat := 0
  /-- Without an opener it is for somebody else to open connections. -/
  opener : Option Opener := some {}
  /-- Those who have become ready since everything rested, the first one first. -/
  ready : List Activity := []
  deriving Inhabited

namespace Workbench

/-- What a call that has returned came to. -/
def result? (w : Workbench) (task : TaskId) : Option CallResult :=
  (w.returned.find? (·.1 = task)).map (·.2)

def modifySession (w : Workbench) (f : Session → Session) : Workbench :=
  { w with client := { w.client with session := f w.client.session } }

def modifyConnection (w : Workbench) (line : Nat) (f : Connection → Connection) : Workbench :=
  w.modifySession fun s => s.modifyLine line fun l => { l with connection := f l.connection }

/-! ## Steps -/

/-- The next step of an activity. -/
def act? (w : Workbench) : Activity → Option Workbench
  | .call task =>
    match w.calls.get? task with
    | none => none
    | some call =>
      match call.step task w.client with
      | .waits => none
      | .goesOn client call => some { w with client, calls := w.calls.set task call }
      | .ends client r =>
        some { w with client, calls := w.calls.erase task, returned := w.returned ++ [(task, r)] }
  | .reader n => (w.client.read? n).map fun client => { w with client }
  | .lateReader n => (w.client.readOn? n).map fun client => { w with client }
  | .payer n => (w.client.session.pay? n).map fun session => w.modifySession fun _ => session
  | .leaver n =>
    ((w.client.session.line? n).bind (·.connection.leave?)).map fun c => w.modifyConnection n fun _ => c
  | .watch n => (w.client.session.watch? n).map fun session => w.modifySession fun _ => session
  | .dispatcher => w.client.dispatch?.map fun client => { w with client }
  | .opener =>
    match w.opener, w.client.session.wanted with
    | some opener, some endpoint =>
      let (offer, opener) := opener.attempt endpoint
      some ({ w with opener := some opener }.modifySession fun s =>
        { s with wanted := none, offer := some offer })
    | _, _ => none

/-- Some activity takes a step. -/
def Step (w w' : Workbench) : Prop := ∃ a, w.act? a = some w'

/-- Any number of steps. -/
inductive Run : Workbench → Workbench → Prop
  | rest (w : Workbench) : Run w w
  | step {w w' w'' : Workbench} : Step w w' → Run w' w'' → Run w w''

/-! ## One order of steps -/

/-- Everything that may have a step to take and has to wait for its turn. -/
def activities (w : Workbench) : List Activity :=
  let lines := List.range w.client.session.lines.length
  [Activity.dispatcher] ++ w.calls.keys.map .call
    ++ lines.flatMap (fun n => [Activity.reader n, .payer n, .leaver n])
    ++ w.client.session.watches.keys.map .watch

/-- The queue of those who are ready, with those at its end who have become so; an opener does not
wait. -/
def awaken (w : Workbench) (queue : List Activity) : List Activity :=
  let atOnce := if (w.act? .opener).isSome then [.opener] else []
  atOnce ++ queue ++ w.activities.filter fun a => !queue.contains a && (w.act? a).isSome

/-- Notes who has become ready. -/
def wake (w : Workbench) : Workbench := { w with ready := w.awaken w.ready }

/-- Takes steps, but not more than `fuel`, until everything waits; an activity that is held back
waits as well. -/
def settleFrom (held : Workbench → Activity → Bool) :
    (fuel : Nat) → List Activity → Workbench → Workbench
  | 0, _, w => w
  | fuel + 1, queue, w =>
    match (w.awaken queue).filter (!held w ·) with
    | [] => w
    | a :: rest =>
      match w.act? a with
      | some w => settleFrom held fuel (a :: rest) w
      | none => settleFrom held fuel rest w

/-- More steps than anything takes that comes to rest. -/
def stepLimit : Nat := 1000000

/-- Takes steps until everything waits. -/
def settle (w : Workbench) : Workbench := settleFrom (fun _ _ => false) stepLimit w.ready w

/-- The next step of an activity reads or writes a file. -/
def usesFile (w : Workbench) : Activity → Bool
  | .call task =>
    match w.calls.get? task with
    | some (.run _ _ (.acting (.writing ..))) | some (.openFile _ .opening) => true
    | _ => false
  | _ => false

/-- Takes steps until everything waits, be it for a file. -/
def settleWithoutFiles (w : Workbench) : Workbench := settleFrom usesFile stepLimit w.ready w

/-- Makes a call. -/
def add (w : Workbench) (call : Call) : TaskId × Workbench :=
  let task : TaskId := ⟨w.latestTask + 1⟩
  (task, wake { w with latestTask := w.latestTask + 1, calls := w.calls.set task call })

/-! ## Time -/

/-- When something that waits wants to be looked at although nothing has happened. -/
def deadlines (w : Workbench) : List Nat := w.calls.values.filterMap Call.deadline?

def setTime (w : Workbench) (now : Nat) : Workbench :=
  wake { w with client := { w.client with now } }

/-! ## What settling does -/

theorem Run.trans {w w' w'' : Workbench} (h : Run w w') (h' : Run w' w'') : Run w w'' := by
  induction h with
  | rest => exact h'
  | step s _ ih => exact .step s (ih h')

theorem run_settleFrom (held : Workbench → Activity → Bool) (fuel : Nat) (queue : List Activity)
    (w : Workbench) : Run w (settleFrom held fuel queue w) := by
  induction fuel generalizing queue w with
  | zero => exact .rest w
  | succ fuel ih =>
    rw [settleFrom]
    split
    · exact .rest w
    next a rest _ =>
      split
      next w' h => exact .step ⟨a, h⟩ (ih _ w')
      · exact ih rest w

/-- Settling is a run. -/
theorem run_settle (w : Workbench) : Run w w.settle := run_settleFrom _ _ _ w

theorem run_settleWithoutFiles (w : Workbench) : Run w w.settleWithoutFiles := run_settleFrom _ _ _ w

end Workbench

end LanguageClient
