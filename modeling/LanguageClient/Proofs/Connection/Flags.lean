import LanguageClient.Connection.Documents
import LanguageClient.Connection.Handshake
import LanguageClient.Connection.Reader
import LanguageClient.Proofs.Task.Progress

/-!
# What the steps on a connection leave alone

Relations between a connection and what a step makes of it.

* `Connection.Keeps` — what has been given up stays given up: a connection that is being closed
  remains so, a reader that was told to stop is never told to go on, and the writing half never comes
  back.  Every step keeps it.
* `Connection.Quiet` — nothing changes that the reader and those who close the connection have given
  up.  The steps of requests are quiet.
* `Connection.Calm` — nothing changes that requests, the reader and those who close the connection
  find out about each other by.  The documents, the handshake, what is owed to the server and the
  stream itself may change.  Every step is calm that is neither a request's, nor a reader's, nor one
  of closing.
* `Connection.Carried` — a relation that holds of the accesses by which a connection begins, asks and ends
  holds of the steps of a handshake and of an orderly end.
-/

namespace LanguageClient

namespace Connection

/-- What has been given up stays given up. -/
structure Keeps (c c' : Connection) : Prop where
  closing : c.closing = true → c'.closing = true
  readerAborted : c.readerAborted = true → c'.readerAborted = true
  writable : c.writable = false → c'.writable = false

namespace Keeps

theorem refl (c : Connection) : c.Keeps c := ⟨id, id, id⟩

end Keeps

/-- Nothing changes that the reader and those who close the connection have given up. -/
structure Quiet (c c' : Connection) : Prop where
  writable : c'.writable = c.writable
  reader : c'.reader = c.reader
  readerAborted : c'.readerAborted = c.readerAborted
  closing : c'.closing = c.closing

/-- Nothing changes that concerns requests, the reader or the end of the connection. -/
structure Calm (c c' : Connection) : Prop where
  writable : c'.writable = c.writable
  nextId : c'.nextId = c.nextId
  pending : c'.pending = c.pending
  slots : c'.slots = c.slots
  answers : c'.answers = c.answers
  reader : c'.reader = c.reader
  readerAborted : c'.readerAborted = c.readerAborted
  closing : c'.closing = c.closing
  terminated : c'.terminated = c.terminated
  lost : c'.lost = c.lost

namespace Calm

theorem refl (c : Connection) : c.Calm c := by constructor <;> rfl

theorem quiet {c c' : Connection} (h : c.Calm c') : c.Quiet c' :=
  ⟨h.writable, h.reader, h.readerAborted, h.closing⟩

theorem keeps {c c' : Connection} (h : c.Calm c') : c.Keeps c' :=
  ⟨fun hc => h.closing.trans hc, fun hc => h.readerAborted.trans hc, fun hc => h.writable.trans hc⟩

end Calm

/-! ## Indivisible accesses -/

theorem write_eq {c c' : Connection} {m : Message} (h : c.write m = .ok c') :
    c' = { c with link := { c.link with sent := c.link.sent ++ [m] } } ∧ c.writable = true := by
  unfold write at h
  split at h
  next hw =>
    split at h
    next => cases h
    next => cases h; exact ⟨rfl, hw⟩
  next => cases h

/-- Writing fails because the writing half was given up, or because the stream refuses. -/
theorem write_error {c : Connection} {m : Message} {e : Failure} (h : c.write m = .error e) :
    (c.writable = false ∧ e = .terminated) ∨ ∃ io, c.link.refusal = some io ∧ e = .io io := by
  unfold write at h
  split at h
  next =>
    split at h
    next io hio => cases h; exact .inr ⟨io, hio, rfl⟩
    next => cases h
  next hw => cases h; exact .inl ⟨by simpa using hw, rfl⟩

/-- Nothing can be written any more once the writing half was given up. -/
theorem write_of_not_writable {c : Connection} (h : c.writable = false) (m : Message) :
    c.write m = .error .terminated := by
  simp [write, h]

theorem calm_write {c c' : Connection} {m : Message} (h : c.write m = .ok c') : c.Calm c' := by
  obtain ⟨rfl, _⟩ := write_eq h
  constructor <;> rfl

theorem calm_tryWrite (c : Connection) (m : Message) : c.Calm (c.tryWrite m).1 := by
  unfold tryWrite
  split
  next c' h => exact calm_write h
  next => exact Calm.refl c

theorem tryWrite_error {c : Connection} {m : Message} {e : Failure}
    (h : (c.tryWrite m).2 = .error e) : e = .terminated ∨ ∃ io, e = .io io := by
  unfold tryWrite at h
  split at h
  next => cases h
  next e' he =>
    cases h
    exact (write_error he).imp And.right fun ⟨io, _, h⟩ => ⟨io, h⟩

theorem keeps_settle (c : Connection) (r : Response) : c.Keeps (c.settle r) := by
  unfold settle
  split
  next => exact Keeps.refl c
  next => exact ⟨id, id, id⟩

end Connection

open Connection

/-! ## Steps of the activities -/

theorem RequestPoint.step_keeps (q : Query) (now : Nat) (c : Connection) (p : RequestPoint) :
    (p.step q now c).All c.Keeps := by
  cases p with
  | beginning => rw [step]; split <;> exact Keeps.refl c
  | numbering => exact ⟨id, id, id⟩
  | registering id => exact ⟨fun h => h, fun h => h, fun h => h⟩
  | writing id slot =>
    rw [step]
    split
    next c' h => exact (calm_write h).keeps
    next => exact Keeps.refl c
  | waiting id slot deadline =>
    rw [step]
    split
    next => exact ⟨fun h => h, fun h => h, fun h => h⟩
    next =>
      split
      next => exact Keeps.refl c
      next =>
        split
        next => exact Keeps.refl c
        next => trivial
  | withdrawing id e => exact ⟨fun h => h, fun h => h, fun h => h⟩

theorem ClosePoint.step_keeps (reason : String) (c : Connection) (p : ClosePoint) :
    (p.step reason c).All c.Keeps := by
  cases p with
  | flagging => exact ⟨fun _ => rfl, id, id⟩
  | stoppingReader => exact ⟨id, fun _ => rfl, id⟩
  | takingWriter => exact ⟨id, id, fun _ => rfl⟩
  | draining => exact ⟨id, id, id⟩

/-- A closing ends by answering everything. -/
theorem ClosePoint.eq_drain_of_ends {reason : String} {p : ClosePoint} {c c' : Connection}
    (h : p.step reason c = .ends c' ()) :
    p = .draining ∧ c' = c.drain ResponseError.requestCancelled reason := by
  cases p with
  | draining => exact ⟨rfl, (Progress.ends.inj h).1.symm⟩
  | _ => cases h

/-! ### What a connection carries -/

/-- The relation is reflexive and holds of every access by which a connection begins, asks and ends. -/
structure Connection.Carried (R : Connection → Connection → Prop) : Prop where
  refl : ∀ c, R c c
  asks : ∀ q now c (p : RequestPoint), (p.step q now c).All (R c)
  closes : ∀ reason c (p : ClosePoint), (p.step reason c).All (R c)
  remembers : ∀ c r, R c { c with handshake := some r }
  confirms : ∀ c, R c (c.tryWrite Handshake.confirmation).1
  exits : ∀ c, R c (c.tryWrite ShutdownPoint.exitMessage).1

section

variable {R : Connection → Connection → Prop}

theorem InitializePoint.step_carried (h : Connection.Carried R) (q : Query) (now : Nat) (c : Connection)
    (p : InitializePoint) : (p.step q now c).All (R c) := by
  cases p with
  | asking p =>
    have step := h.asks q now c p
    rw [InitializePoint.step]
    split
    next => trivial
    next he => rw [he] at step; exact step
    next he =>
      rw [he] at step
      split <;> exact step
  | remembering r => exact h.remembers c r
  | confirming r => exact h.confirms c

theorem ShutdownPoint.step_carried (h : Connection.Carried R) (q : Query) (now : Nat) (c : Connection)
    (p : ShutdownPoint) : (p.step q now c).All (R c) := by
  cases p with
  | asking p => simpa [ShutdownPoint.step] using h.asks q now c p
  | exiting => exact h.exits c
  | closing p => simpa [ShutdownPoint.step] using h.closes reason c p

end

theorem Connection.keeps_carried : Connection.Carried Connection.Keeps where
  refl := .refl
  asks q now c p := p.step_keeps q now c
  closes reason c p := p.step_keeps reason c
  remembers _ _ := ⟨id, id, id⟩
  confirms c := (calm_tryWrite c _).keeps
  exits c := (calm_tryWrite c _).keeps

theorem InitializePoint.step_keeps (q : Query) (now : Nat) (c : Connection) (p : InitializePoint) :
    (p.step q now c).All c.Keeps :=
  p.step_carried keeps_carried q now c

theorem ShutdownPoint.step_keeps (q : Query) (now : Nat) (c : Connection) (p : ShutdownPoint) :
    (p.step q now c).All c.Keeps :=
  p.step_carried keeps_carried q now c

/-! ### Other activities -/

theorem SyncPoint.step_calm (task : TaskId) (uri text : String) (c : Connection) (p : SyncPoint) :
    (p.step task uri text c).All c.Calm := by
  cases p with
  | beginning => constructor <;> rfl
  | looking =>
    rw [step]
    split
    next =>
      split
      next => exact Calm.refl c
      next =>
        split
        next => exact Calm.refl c
        next => constructor <;> rfl
    next => trivial
  | changing version => exact calm_tryWrite c _
  | opening =>
    rw [step]
    split
    next c' h => exact calm_write h
    next => exact Calm.refl c
  | recording => constructor <;> rfl
  | leaving result => constructor <;> rfl

theorem ForgetPoint.step_calm (task : TaskId) (uri : String) (c : Connection) (p : ForgetPoint) :
    (p.step task uri c).All c.Calm := by
  cases p with
  | beginning => constructor <;> rfl
  | removing =>
    rw [step]
    split
    next => split <;> constructor <;> rfl
    next => trivial
  | writing => exact calm_tryWrite c _

theorem Reader.pay?_calm {c c' : Connection} (h : Reader.pay? c = some c') : c.Calm c' := by
  unfold pay? at h
  split at h
  next => cases h
  next r rest _ =>
    cases h
    have calm := calm_tryWrite { c with owed := rest } (.response r)
    exact ⟨calm.writable, calm.nextId, calm.pending, calm.slots, calm.answers, calm.reader,
      calm.readerAborted, calm.closing, calm.terminated, calm.lost⟩

theorem Reader.hear_keeps (handlers : Handlers) (c : Connection) (m : Message) :
    c.Keeps (Reader.hear handlers c m).1 := by
  cases m with
  | request r => exact ⟨id, id, id⟩
  | response r =>
    have h := keeps_settle c r
    exact ⟨h.closing, h.readerAborted, h.writable⟩
  | notification n =>
    simp only [hear]
    split <;> exact ⟨id, id, id⟩

theorem Reader.step?_keeps {handlers : Handlers} {c c' : Connection} {signals : List Signal}
    (h : Reader.step? handlers c = some (c', signals)) : c.Keeps c' := by
  unfold step? at h
  split at h
  next => split at h <;> cases h <;> exact ⟨id, id, id⟩
  next m _ =>
    obtain rfl : (hear handlers c m).1 = c' := by simpa using congrArg (·.map Prod.fst) h
    exact hear_keeps handlers c m
  next => cases h; exact ⟨id, id, id⟩
  next => cases h; exact ⟨id, id, fun _ => rfl⟩
  next => cases h; exact ⟨id, id, id⟩
  next => cases h; exact ⟨id, id, id⟩
  next => cases h

theorem Reader.stop?_eq {c c' : Connection} (h : Reader.stop? c = some c') :
    c.readerAborted = true ∧ c' = { c with reader := .stopped } := by
  unfold stop? at h
  split at h
  next => cases h
  next ha _ => cases h; exact ⟨ha, rfl⟩
  next => cases h

end LanguageClient
