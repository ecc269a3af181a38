import LanguageClient.Proofs.Connection.Notes

/-!
# Who tells the server about documents

A text is sent and a document is closed by calls, any number of which may be on one connection at
once.  A `Correspondence` is a connection together with everybody who is in the middle of telling
something on it.

* `Telling` — what a party is in the middle of: sending a text, or closing a document.
* `Telling.Move` and `Telling.step_moves` — everything that its next step can be, each with what it
  found and what it did.
* `Correspondence.Step` — a party takes a step, the stream changes, or something else happens that is
  silent about documents.
-/

namespace LanguageClient

/-- What a party is in the middle of telling about a document. -/
inductive Telling
  | syncs (uri text : String) (p : SyncPoint)
  | forgets (uri : String) (p : ForgetPoint)

namespace Telling

/-- It has not begun yet. -/
def IsFirst : Telling → Prop
  | syncs _ _ .beginning | forgets _ .beginning => True
  | _ => False

/-- The next step. -/
def step (task : TaskId) (c : Connection) :
    Telling → Progress Connection Telling (Except Failure Unit)
  | syncs uri text p => (p.step task uri text c).last (syncs uri text) id
  | forgets uri p => (p.step task uri c).last (forgets uri) id

/-- What is about to be written. -/
def message? : Telling → Option Message
  | syncs uri text (.changing version) => some (DocumentMessage.changed uri version text)
  | syncs uri text .opening => some (DocumentMessage.opened uri text)
  | forgets uri .writing => some (DocumentMessage.closed uri)
  | _ => none

/-- What the next step of a party is: the connection after it, and where the party goes on or with
what it ends. -/
inductive Move (task : TaskId) (c : Connection) :
    Telling → Connection → Telling ⊕ Except Failure Unit → Prop
  | joinsToSync {uri text : String} :
      Move task c (syncs uri text .beginning) (c.joinDocuments task) (.inl (syncs uri text .looking))
  | joinsToForget {uri : String} :
      Move task c (forgets uri .beginning) (c.joinDocuments task) (.inl (forgets uri .removing))
  | findsNothing {uri text : String} (turn : c.documentLock.holder? = some task)
      (found : c.documents.get? uri = none) :
      Move task c (syncs uri text .looking) c (.inl (syncs uri text .opening))
  | findsSame {uri : String} {d : SentDocument} (turn : c.documentLock.holder? = some task)
      (found : c.documents.get? uri = some d) :
      Move task c (syncs uri d.text .looking) c (.inl (syncs uri d.text (.leaving (.ok ()))))
  | findsOther {uri text : String} {d : SentDocument} (turn : c.documentLock.holder? = some task)
      (found : c.documents.get? uri = some d) (differs : d.text ≠ text) :
      Move task c (syncs uri text .looking) (c.rememberDocument uri ⟨d.version + 1, text⟩)
        (.inl (syncs uri text (.changing (d.version + 1))))
  | changes {uri text : String} {version : UInt32} {c' : Connection}
      (written : c.write (DocumentMessage.changed uri version text) = .ok c') :
      Move task c (syncs uri text (.changing version)) c' (.inl (syncs uri text (.leaving (.ok ()))))
  | opens {uri text : String} {c' : Connection}
      (written : c.write (DocumentMessage.opened uri text) = .ok c') :
      Move task c (syncs uri text .opening) c' (.inl (syncs uri text .recording))
  | fails {uri text : String} {p : SyncPoint} {m : Message} {e : Failure}
      (message : (syncs uri text p).message? = some m) (refused : c.write m = .error e) :
      Move task c (syncs uri text p) c (.inl (syncs uri text (.leaving (.error e))))
  | records {uri text : String} :
      Move task c (syncs uri text .recording) (c.rememberDocument uri ⟨1, text⟩)
        (.inl (syncs uri text (.leaving (.ok ()))))
  | leaves {uri text : String} {result : Except Failure Unit} :
      Move task c (syncs uri text (.leaving result)) c.leaveDocuments (.inr result)
  | removes {uri : String} {d : SentDocument} (turn : c.documentLock.holder? = some task)
      (found : c.documents.get? uri = some d) :
      Move task c (forgets uri .removing) (c.forgetDocument uri).leaveDocuments
        (.inl (forgets uri .writing))
  | hasNothing {uri : String} (turn : c.documentLock.holder? = some task)
      (found : c.documents.get? uri = none) :
      Move task c (forgets uri .removing) c.leaveDocuments (.inr (.ok ()))
  | closes {uri : String} {c' : Connection}
      (written : c.write (DocumentMessage.closed uri) = .ok c') :
      Move task c (forgets uri .writing) c' (.inr (.ok ()))
  | failsToClose {uri : String} {e : Failure}
      (refused : c.write (DocumentMessage.closed uri) = .error e) :
      Move task c (forgets uri .writing) c (.inr (.error e))

theorem sync_moves (task : TaskId) (uri text : String) (c : Connection) (p : SyncPoint) :
    (p.step task uri text c).Leads
      (fun c' p' => Move task c (syncs uri text p) c' (.inl (syncs uri text p')))
      fun c' r => Move task c (syncs uri text p) c' (.inr r) := by
  cases p with
  | beginning => exact .joinsToSync
  | looking =>
    rw [SyncPoint.step]
    split
    next hheld =>
      have turn : c.documentLock.holder? = some task := by simpa [Lock.heldBy] using hheld
      split
      next h => exact .findsNothing turn h
      next d h =>
        split
        next ht => subst ht; exact .findsSame turn h
        next ht => exact .findsOther turn h ht
    next => trivial
  | changing version =>
    rw [SyncPoint.step, Connection.tryWrite]
    cases hw : c.write (DocumentMessage.changed uri version text) with
    | ok c' => exact .changes hw
    | error e => exact .fails rfl hw
  | opening =>
    rw [SyncPoint.step]
    split
    next c' hw => exact .opens hw
    next e hw => exact .fails rfl hw
  | recording => exact .records
  | leaving result => exact .leaves

theorem forget_moves (task : TaskId) (uri : String) (c : Connection) (p : ForgetPoint) :
    (p.step task uri c).Leads (fun c' p' => Move task c (forgets uri p) c' (.inl (forgets uri p')))
      fun c' r => Move task c (forgets uri p) c' (.inr r) := by
  cases p with
  | beginning => exact .joinsToForget
  | removing =>
    rw [ForgetPoint.step]
    split
    next hheld =>
      have turn : c.documentLock.holder? = some task := by simpa [Lock.heldBy] using hheld
      cases h : c.documents.get? uri with
      | none =>
        rw [if_neg (by simp [Table.contains, h])]
        exact .hasNothing turn h
      | some d =>
        rw [if_pos (by simp [Table.contains, h])]
        exact .removes turn h
    next => trivial
  | writing =>
    rw [ForgetPoint.step, Connection.tryWrite]
    cases hw : c.write (DocumentMessage.closed uri) with
    | ok c' => exact .closes hw
    | error e => exact .failsToClose hw

/-- **Everything that the next step of a party can be.** -/
theorem step_moves (task : TaskId) (c : Connection) (x : Telling) :
    (x.step task c).Leads (fun c' x' => x.Move task c c' (.inl x')) fun c' r =>
      x.Move task c c' (.inr r) := by
  cases x with
  | syncs uri text p => exact (sync_moves task uri text c p).last (fun _ _ h => h) fun _ _ h => h
  | forgets uri p => exact (forget_moves task uri c p).last (fun _ _ h => h) fun _ _ h => h

/-- What refuses to be written to goes on refusing. -/
theorem Move.refuses {task : TaskId} {c c' : Connection} {x : Telling}
    {next : Telling ⊕ Except Failure Unit} (h : Move task c x c' next) (hr : c.Refuses) : c'.Refuses := by
  cases h with
  | changes written | opens written | closes written =>
    obtain ⟨e, he⟩ := hr.write_error _
    rw [written] at he
    cases he
  | _ => exact hr

end Telling

/-- A connection and what everybody is in the middle of telling on it. -/
structure Correspondence where
  connection : Connection
  parties : TaskId → Option Telling

namespace Correspondence

/-- Nothing has been done on the connection, and at most something is about to begin. -/
structure IsFresh (x : Correspondence) : Prop where
  connection : ∃ link, x.connection = { link } ∧ link.sent = []
  parties : ∀ task p, x.parties task = some p → p.IsFirst

/-- Who is behind a step. -/
inductive Source
  | party (task : TaskId)
  /-- The stream changes. -/
  | stream (f : Link → Link)
  | elsewhere

/-- What can happen to a correspondence in one step. -/
inductive Step (x x' : Correspondence) : Source → Prop
  | moves {task : TaskId} {p : Telling} {next : Telling ⊕ Except Failure Unit}
      (hp : x.parties task = some p) (h : p.Move task x.connection x'.connection next)
      (hp' : x'.parties task = next.getLeft?)
      (others : ∀ other, other ≠ task → x'.parties other = x.parties other) : Step x x' (.party task)
  | streams {f : Link → Link}
      (h : x'.connection = { x.connection with
        link := { f x.connection.link with sent := x.connection.link.sent } })
      (hp : x'.parties = x.parties) : Step x x' (.stream f)
  | beside {e : Source} (h : x.connection.Silent x'.connection)
      (hp : ∀ task, x'.parties task = x.parties task ∨
        (x.parties task = none ∧ ∀ p, x'.parties task = some p → p.IsFirst)) : Step x x' e

/-- A party takes its next step. -/
def Advances (x x' : Correspondence) (task : TaskId) : Prop :=
  ∃ p next, x.parties task = some p ∧ p.Move task x.connection x'.connection next ∧
    x'.parties task = next.getLeft? ∧ ∀ other, other ≠ task → x'.parties other = x.parties other

theorem Advances.step {x x' : Correspondence} {task : TaskId} (h : x.Advances x' task) :
    x.Step x' (.party task) := by
  obtain ⟨p, next, hp, hmove, hp', others⟩ := h
  exact .moves hp hmove hp' others

end Correspondence

end LanguageClient
