import LanguageClient.Proofs.Session.Drift

/-!
# One connection at a time

A session that nobody is starting or stopping is *settled*: its state is one in which it can rest, it
holds a connection if it is ready and none if it is idle or stopped, and every connection that it
does not hold has been disposed.  While a call starts, restarts or stops it, this does not hold; what
holds instead depends on how far the call has come (`LifecyclePoint.Fits`).

* `Session.Disposed` and `Session.Vacant` say which lines may still be in use.
* `TeardownPoint.step_fits` and `ConnectPoint.step_fits` follow a line to its end and from its
  beginning.
* `enter_fits` — a call that begins finds the session settled, and is at a point that fits.
* **`LifecyclePoint.step_fits`** — every further step leads to a point that fits, or leaves the session
  settled.
* `LifecyclePoint.Fits.drift` — whatever goes on beside leaves the call where it fits.

Lines below `first` were there before the session was used; nothing is said about them.
-/

namespace LanguageClient

/-! ## Lines that are done with -/

/-- The client has closed the connection: its reader has been told to stop, and nothing can be written
any more. -/
structure Connection.IsClosed (c : Connection) : Prop where
  closing : c.closing = true
  readerAborted : c.readerAborted = true
  writable : c.writable = false

/-- The connection of the line has been closed, and the process behind it runs no more. -/
def Line.IsDisposed (l : Line) : Prop := l.connection.IsClosed ∧ l.hasExited = true

theorem Connection.Keeps.isClosed {c c' : Connection} (h : c.Keeps c') (hc : c.IsClosed) :
    c'.IsClosed :=
  ⟨h.closing hc.closing, h.readerAborted hc.readerAborted, h.writable hc.writable⟩

theorem Line.Keeps.isDisposed {l l' : Line} (h : l.Keeps l') (hl : l.IsDisposed) : l'.IsDisposed :=
  ⟨h.connection.isClosed hl.1, h.exited hl.2⟩

namespace Session

variable {s s' : Session} {first n : Nat} {but : Option Nat} {last : Option Endpoint}

/-- Every line has been disposed, but for one. -/
def Disposed (first : Nat) (but : Option Nat) (s : Session) : Prop :=
  ∀ n l, first ≤ n → but ≠ some n → s.line? n = some l → l.IsDisposed

/-- Something holds of the connection of a line. -/
def On (n : Nat) (P : Connection → Prop) (s : Session) : Prop :=
  ∀ l, s.line? n = some l → P l.connection

/-- No connection is held or asked for, and only one line is not done with. -/
structure Vacant (first : Nat) (but : Option Nat) (s : Session) : Prop where
  active : s.active = none
  disposed : s.Disposed first but
  wanted : s.wanted = none
  offer : s.offer = none

/-- Nobody is starting or stopping the session; `last` is the endpoint of the latest start. -/
structure Settled (first : Nat) (last : Option Endpoint) (s : Session) : Prop where
  state : s.state.isTransitional = false
  ready : s.state = .ready → s.active.isSome
  rest : s.state = .idle ∨ s.state = .stopped → s.active = none
  held : ∀ n, s.active = some n → n < s.lines.length
  disposed : s.Disposed first s.active
  wanted : s.wanted = none
  offer : s.offer = none
  remembered : s.remembered = last
  known : s.state.canRestart = true → last.isSome

theorem Disposed.of_lines (h : s.Disposed first but) (hs : s'.lines = s.lines) :
    s'.Disposed first but := by
  intro n l hn hb hl
  exact h n l hn hb (by rwa [line?, ← hs])

/-- What is done to the line that is not done with is nobody's concern. -/
theorem Disposed.modifyLine (h : s.Disposed first (some n)) (f : Line → Line) :
    (s.modifyLine n f).Disposed first (some n) := by
  intro m l hm hb hl
  rw [line?_modifyLine, if_neg (fun e => hb (congrArg some e))] at hl
  exact h m l hm hb hl

theorem Vacant.of_lines (h : s.Vacant first but) (lines : s'.lines = s.lines)
    (active : s'.active = s.active) (wanted : s'.wanted = s.wanted) (offer : s'.offer = s.offer) :
    s'.Vacant first but :=
  ⟨active.trans h.active, h.disposed.of_lines lines, wanted.trans h.wanted, offer.trans h.offer⟩

theorem Vacant.modifyLine (h : s.Vacant first (some n)) (f : Line → Line) :
    (s.modifyLine n f).Vacant first (some n) :=
  ⟨h.active, h.disposed.modifyLine f, h.wanted, h.offer⟩

/-- A line whose connection has been closed is done with when its process has been killed. -/
theorem Vacant.kill (h : s.Vacant first (some n)) (hc : s.On n Connection.IsClosed) :
    (s.modifyLine n Line.kill).Vacant first none := by
  refine ⟨h.active, fun m l hm _ hl => ?_, h.wanted, h.offer⟩
  rw [line?_modifyLine] at hl
  split at hl
  next e =>
    obtain ⟨l', hl', rfl⟩ := Option.map_eq_some_iff.1 hl
    exact ⟨hc l' (e ▸ hl'), l'.hasExited_exit .killed⟩
  next e => exact h.disposed m l hm (fun he => e (Option.some.inj he)) hl

/-- A line that comes is the only one that is not done with. -/
theorem Disposed.append (h : s.Disposed first none) (l : Line) (hs : s'.lines = s.lines ++ [l]) :
    s'.Disposed first (some s.lines.length) := by
  intro m l' hm hb hl
  rw [line?, hs] at hl
  have hne : m ≠ s.lines.length := fun e => hb (congrArg some e.symm)
  have hlt : m < (s.lines ++ [l]).length := (List.getElem?_eq_some_iff.1 hl).1
  rw [List.length_append, List.length_singleton] at hlt
  rw [List.getElem?_append_left (by omega)] at hl
  exact h m l' hm (Option.some_ne_none m).symm hl

/-- A session without a connection rests if it has failed or was stopped. -/
theorem Vacant.settled (h : s.Vacant first none) (hr : s.remembered = last)
    (hs : (s.state = .failed ∧ last.isSome) ∨ s.state = .stopped) : s.Settled first last where
  state := by rcases hs with ⟨hs, _⟩ | hs <;> rw [hs] <;> rfl
  ready hready := by rcases hs with ⟨hs, _⟩ | hs <;> rw [hs] at hready <;> cases hready
  rest _ := h.active
  held n hn := by rw [h.active] at hn; cases hn
  disposed := h.active ▸ h.disposed
  wanted := h.wanted
  offer := h.offer
  remembered := hr
  known hc := by
    rcases hs with ⟨_, hlast⟩ | hs
    · exact hlast
    · rw [hs] at hc; cases hc

/-! ## What drifts leave alone -/

namespace Drifts

theorem disposed (d : s.Drifts s') (h : s.Disposed first but) : s'.Disposed first but := by
  intro n l' hn hb hl'
  obtain ⟨l, hl, hk⟩ := d.keeps n l' hl'
  exact hk.isDisposed (h n l hn hb hl)

theorem on (d : s.Drifts s') {P : Connection → Prop} (hP : ∀ c c', c.Keeps c' → P c → P c')
    (h : s.On n P) : s'.On n P := by
  intro l' hl'
  obtain ⟨l, hl, hk⟩ := d.keeps n l' hl'
  exact hP _ _ hk.connection (h l hl)

/-- An answer is only given to somebody who has asked. -/
theorem unasked (d : s.Drifts s') (hw : s.wanted = none) (ho : s.offer = none) :
    s'.wanted = none ∧ s'.offer = none := by
  rcases d.asked with ⟨hw', ho'⟩ | ⟨hsome, _⟩
  · exact ⟨hw'.trans hw, ho'.trans ho⟩
  · rw [hw] at hsome; cases hsome

theorem vacant (d : s.Drifts s') (h : s.Vacant first but) : s'.Vacant first but :=
  have ⟨hw, ho⟩ := d.unasked h.wanted h.offer
  ⟨d.active.trans h.active, d.disposed h.disposed, hw, ho⟩

theorem canRestart (d : s.Drifts s') : s'.state.canRestart = s.state.canRestart := by
  rcases d.state with h | ⟨h, h'⟩
  · rw [h]
  · rw [h, h']; rfl

theorem settled (d : s.Drifts s') (h : s.Settled first last) : s'.Settled first last := by
  have ⟨hw, ho⟩ := d.unasked h.wanted h.offer
  refine ⟨?_, fun hs => ?_, fun hs => ?_, fun n hn => ?_, ?_, hw, ho, d.remembered.trans h.remembered,
    fun hc => h.known (d.canRestart ▸ hc)⟩
  · rcases d.state with hs | ⟨_, hs⟩
    · rw [hs]; exact h.state
    · rw [hs]; rfl
  · rcases d.state with hs' | ⟨_, hs'⟩
    · rw [d.active]; exact h.ready (hs' ▸ hs)
    · rw [hs'] at hs; cases hs
  · rcases d.state with hs' | ⟨_, hs'⟩
    · rw [d.active]; exact h.rest (hs' ▸ hs)
    · rw [hs'] at hs; rcases hs with hs | hs <;> cases hs
  · rw [d.length]; exact h.held n (d.active ▸ hn)
  · rw [d.active]; exact d.disposed h.disposed

end Drifts

end Session

open Session

/-! ## Closing a connection -/

/-- What has been done when closing has come to a point. -/
def ClosePoint.Fits (c : Connection) : ClosePoint → Prop
  | flagging => True
  | stoppingReader => c.closing = true
  | takingWriter => c.closing = true ∧ c.readerAborted = true
  | draining => c.IsClosed

/-- Who closes a connection has closed it in the end. -/
theorem ClosePoint.step_fits {p : ClosePoint} {c : Connection} (h : p.Fits c) (reason : String) :
    (p.step reason c).Leads (fun c' p' => p'.Fits c') fun c' _ => c'.IsClosed := by
  cases p with
  | flagging => exact rfl
  | stoppingReader => exact ⟨h, rfl⟩
  | takingWriter => exact ⟨h.1, h.2, rfl⟩
  | draining => exact ⟨h.closing, h.readerAborted, h.writable⟩

theorem ClosePoint.Fits.keeps {p : ClosePoint} {c c' : Connection} (k : c.Keeps c') (h : p.Fits c) :
    p.Fits c' := by
  cases p with
  | flagging => trivial
  | stoppingReader => exact k.closing h
  | takingWriter => exact ⟨k.closing h.1, k.readerAborted h.2⟩
  | draining => exact k.isClosed h

def ShutdownPoint.Fits (c : Connection) : ShutdownPoint → Prop
  | closing p => p.Fits c
  | _ => True

/-- An orderly end closes the connection too, whatever the server says to it. -/
theorem ShutdownPoint.step_fits {p : ShutdownPoint} {c : Connection} (h : p.Fits c) (q : Query)
    (now : Nat) : (p.step q now c).Leads (fun c' p' => p'.Fits c') fun c' _ => c'.IsClosed := by
  cases p with
  | asking p =>
    rw [step]
    cases p.step q now c with
    | waits => trivial
    | goesOn c' p' => trivial
    | ends c' r => cases r <;> trivial
  | exiting => trivial
  | closing p => exact (ClosePoint.step_fits h reason).last (fun _ _ h => h) fun _ _ h => h

theorem ShutdownPoint.Fits.keeps {p : ShutdownPoint} {c c' : Connection} (k : c.Keeps c')
    (h : p.Fits c) : p.Fits c' := by
  cases p with
  | closing p => exact ClosePoint.Fits.keeps k h
  | _ => trivial

/-! ## Tearing down -/

/-- What a call does to a session while it holds the lock and has not come to its end. -/
structure Session.Frames (s s' : Session) : Prop where
  remembered : s'.remembered = s.remembered
  lock : s'.lock = s.lock

/-- A step on the connection of the one line that is not done with. -/
theorem Session.Vacant.onLine {π α : Type} {s : Session} {first n : Nat}
    (h : s.Vacant first (some n)) {P : Connection → π → Prop} {Q : Connection → α → Prop}
    {f : Connection → Progress Connection π α}
    (hf : ∀ l, s.line? n = some l → (f l.connection).Leads P Q) :
    (s.onLine n f).Leads
      (fun s' x => s'.Vacant first (some n) ∧ s'.On n (P · x) ∧ s.Frames s' ∧
        s'.lines.length = s.lines.length)
      fun s' a => s'.Vacant first (some n) ∧ s'.On n (Q · a) ∧ s.Frames s' ∧
        s'.lines.length = s.lines.length := by
  unfold Session.onLine
  split
  next => trivial
  next l hl =>
    have on (c : Connection) {R : Connection → Prop} (hc : R c) : (s.setConnection n c).On n R := by
      intro l' hl'
      rw [line?_setConnection, if_pos rfl, hl] at hl'
      cases hl'
      exact hc
    have hlead := hf l hl
    cases hstep : f l.connection with
    | waits => trivial
    | goesOn c x =>
      rw [hstep] at hlead
      exact ⟨h.modifyLine _, on c hlead, ⟨rfl, rfl⟩, List.length_modify ..⟩
    | ends c a =>
      rw [hstep] at hlead
      exact ⟨h.modifyLine _, on c hlead, ⟨rfl, rfl⟩, List.length_modify ..⟩

/-- What holds when tearing down has come to a point. -/
def TeardownPoint.Fits (first : Nat) (s : Session) : TeardownPoint → Prop
  | taking => s.Disposed first s.active ∧ s.wanted = none ∧ s.offer = none
  | unwatching n => s.Vacant first (some n)
  | shutting n p => s.Vacant first (some n) ∧ s.On n (ShutdownPoint.Fits · p)
  | closing n p => s.Vacant first (some n) ∧ s.On n (ClosePoint.Fits · p)
  | waitingExit n _ | killing n => s.Vacant first (some n) ∧ s.On n Connection.IsClosed

/-- **What is torn down is disposed**, and then nothing is left. -/
theorem TeardownPoint.step_fits {first : Nat} {s : Session} {p : TeardownPoint} (h : p.Fits first s)
    (graceful : Bool) (reason : String) (now : Nat) :
    (p.step graceful reason now s).Leads (fun s' p' => p'.Fits first s' ∧ s.Frames s')
      fun s' _ => s'.Vacant first none ∧ s.Frames s' := by
  cases p with
  | taking =>
    obtain ⟨hd, hw, ho⟩ := h
    rw [step]
    split
    next ha => exact ⟨⟨ha, ha ▸ hd, hw, ho⟩, rfl, rfl⟩
    next n ha => exact ⟨⟨rfl, (ha ▸ hd : s.Disposed first (some n)).of_lines rfl, hw, ho⟩, rfl, rfl⟩
  | unwatching n =>
    have hv : Session.Vacant first (some n)
        { s with watches := s.watches.modify n fun w => { w with aborted := true } } :=
      h.of_lines rfl rfl rfl rfl
    cases graceful with
    | true => exact ⟨⟨hv, fun _ _ => trivial⟩, rfl, rfl⟩
    | false => exact ⟨⟨hv, fun _ _ => trivial⟩, rfl, rfl⟩
  | shutting n p =>
    refine (h.1.onLine fun l hl => ShutdownPoint.step_fits (h.2 l hl) s.shutdownQuery now).within
      (fun _ _ hs => ⟨⟨hs.1, hs.2.1⟩, hs.2.2.1⟩) fun _ _ hs => ⟨?_, hs.2.2.1⟩
    cases graceful with
    | true => exact ⟨hs.1, hs.2.1⟩
    | false => exact ⟨hs.1, hs.2.1⟩
  | closing n p =>
    exact (h.1.onLine fun l hl => ClosePoint.step_fits (h.2 l hl) reason).within
      (fun _ _ hs => ⟨⟨hs.1, hs.2.1⟩, hs.2.2.1⟩) fun _ _ hs => ⟨⟨hs.1, hs.2.1⟩, hs.2.2.1⟩
  | waitingExit n deadline =>
    rw [step]
    split
    next => exact ⟨h, rfl, rfl⟩
    next => trivial
  | killing n => exact ⟨h.1.kill h.2, rfl, rfl⟩

theorem TeardownPoint.Fits.drift {first : Nat} {s s' : Session} (d : s.Drifts s') {p : TeardownPoint}
    (h : p.Fits first s) : p.Fits first s' := by
  cases p with
  | taking => exact ⟨d.active ▸ d.disposed h.1, d.unasked h.2.1 h.2.2⟩
  | unwatching n => exact d.vacant h
  | shutting n p => exact ⟨d.vacant h.1, d.on (fun _ _ => ShutdownPoint.Fits.keeps) h.2⟩
  | closing n p => exact ⟨d.vacant h.1, d.on (fun _ _ => ClosePoint.Fits.keeps) h.2⟩
  | waitingExit n deadline => exact ⟨d.vacant h.1, d.on (fun _ _ => Connection.Keeps.isClosed) h.2⟩
  | killing n => exact ⟨d.vacant h.1, d.on (fun _ _ => Connection.Keeps.isClosed) h.2⟩

/-! ## Connecting -/

/-- What holds when a new connection has come to a point. -/
def ConnectPoint.Fits (first : Nat) (s : Session) : ConnectPoint → Prop
  | beginning | asking | failing _ => s.Vacant first none
  | opening => s.active = none ∧ s.Disposed first none ∧ (s.wanted = none ∨ s.offer = none)
  | initializing n _ => s.Vacant first (some n) ∧ n < s.lines.length
  | abandoning n _ p => s.Vacant first (some n) ∧ s.On n (ClosePoint.Fits · p)
  | killing n _ => s.Vacant first (some n) ∧ s.On n Connection.IsClosed
  | numbering n | announcing n _ => s.Vacant first (some n) ∧ n < s.lines.length
  | handingOver n _ =>
    s.Vacant first (some n) ∧ n < s.lines.length ∧ (s.state = .ready ∨ s.state = .failed)

/-- **A new connection is held, or it is disposed** and the session has failed. -/
theorem ConnectPoint.step_fits {first : Nat} {s : Session} {endpoint : Endpoint}
    (hr : s.remembered = some endpoint) {p : ConnectPoint} (h : p.Fits first s) (now : Nat) :
    (p.step endpoint now s).Leads (fun s' p' => p'.Fits first s' ∧ s.Frames s')
      fun s' _ => s'.Settled first (some endpoint) ∧ s'.lock = s.lock := by
  cases p with
  | beginning => exact ⟨h.of_lines rfl rfl rfl rfl, rfl, rfl⟩
  | asking => exact ⟨⟨h.active, h.disposed.of_lines rfl, .inr h.offer⟩, rfl, rfl⟩
  | opening =>
    obtain ⟨ha, hd, hasked⟩ := h
    have hwanted {r} (ho : s.offer = some r) : s.wanted = none := by
      rcases hasked with hw | hn
      · exact hw
      · rw [ho] at hn; cases hn
    rw [step]
    split
    next => trivial
    next e ho => exact ⟨⟨ha, hd.of_lines rfl, hwanted ho, rfl⟩, rfl, rfl⟩
    next line ho =>
      refine ⟨⟨⟨ha, hd.append line rfl, hwanted ho, rfl⟩, ?_⟩, rfl, rfl⟩
      simp
  | initializing n p =>
    refine (h.1.onLine fun l _ => (p.step s.initializeQuery now l.connection).leads_true).within
      (fun _ _ hs => ⟨⟨hs.1, hs.2.2.2 ▸ h.2⟩, hs.2.2.1⟩) fun _ r hs => ⟨?_, hs.2.2.1⟩
    cases r with
    | ok r => exact ⟨hs.1, hs.2.2.2 ▸ h.2⟩
    | error e => exact ⟨hs.1, fun _ _ => trivial⟩
  | abandoning n e p =>
    exact (h.1.onLine fun l hl => ClosePoint.step_fits (h.2 l hl) abandonReason).within
      (fun _ _ hs => ⟨⟨hs.1, hs.2.1⟩, hs.2.2.1⟩) fun _ _ hs => ⟨⟨hs.1, hs.2.1⟩, hs.2.2.1⟩
  | killing n e => exact ⟨h.1.kill h.2, rfl, rfl⟩
  | failing e =>
    have hv : Session.Vacant first none (s.setState .failed) :=
      h.of_lines rfl rfl rfl rfl
    exact ⟨hv.settled hr (.inl ⟨rfl, rfl⟩), rfl⟩
  | numbering n => exact ⟨⟨h.1.of_lines rfl rfl rfl rfl, h.2⟩, rfl, rfl⟩
  | announcing n generation =>
    exact ⟨⟨h.1.of_lines rfl rfl rfl rfl, h.2, .inl rfl⟩, rfl, rfl⟩
  | handingOver n generation =>
    obtain ⟨hv, hn, hs⟩ := h
    refine ⟨⟨?_, fun _ => rfl, fun hrest => ?_, fun m hm => ?_, hv.disposed.of_lines rfl, hv.wanted,
      hv.offer, hr, fun _ => rfl⟩, rfl⟩
    · rcases hs with hs | hs <;> (show s.state.isTransitional = false; rw [hs]; rfl)
    · -- A loss has at most made a failure of the state by now.
      replace hrest : s.state = .idle ∨ s.state = .stopped := hrest
      rcases hs with hs | hs <;> rw [hs] at hrest <;> rcases hrest with hrest | hrest <;> cases hrest
    · cases hm
      exact hn

theorem ConnectPoint.Fits.drift {first : Nat} {s s' : Session} (d : s.Drifts s') {p : ConnectPoint}
    (h : p.Fits first s) : p.Fits first s' := by
  cases p with
  | beginning => exact d.vacant h
  | asking => exact d.vacant h
  | opening =>
    refine ⟨d.active.trans h.1, d.disposed h.2.1, ?_⟩
    rcases d.asked with ⟨hw, ho⟩ | ⟨_, hw⟩
    · rw [hw, ho]; exact h.2.2
    · exact .inl hw
  | initializing n p => exact ⟨d.vacant h.1, d.length ▸ h.2⟩
  | abandoning n e p => exact ⟨d.vacant h.1, d.on (fun _ _ => ClosePoint.Fits.keeps) h.2⟩
  | killing n e => exact ⟨d.vacant h.1, d.on (fun _ _ => Connection.Keeps.isClosed) h.2⟩
  | failing e => exact d.vacant h
  | numbering n => exact ⟨d.vacant h.1, d.length ▸ h.2⟩
  | announcing n generation => exact ⟨d.vacant h.1, d.length ▸ h.2⟩
  | handingOver n generation =>
    refine ⟨d.vacant h.1, d.length ▸ h.2.1, ?_⟩
    rcases d.state with hs | ⟨_, hs⟩
    · rw [hs]; exact h.2.2
    · exact .inr hs

/-! ## Calls that start, restart and stop -/

/-- Whom a call is going to connect to: the endpoint of the latest start, or nobody. -/
def LifecycleCall.Aims (last : Option Endpoint) (s : Session) (next : Option Endpoint) :
    LifecycleCall → Prop
  | .start endpoint => next = some endpoint ∧ last = some endpoint
  | .restart => ∃ endpoint, next = some endpoint ∧ s.remembered = some endpoint ∧ last = some endpoint
  | .stop => next = none ∧ s.remembered = last

namespace LifecyclePoint

/-- The call has the lock, and has looked at the session. -/
def hasEntered : LifecyclePoint → Bool
  | queueing | entering => false
  | _ => true

/-- What holds when a call that has entered has come to a point. -/
def Fits (first : Nat) (last : Option Endpoint) (call : LifecycleCall) (s : Session) :
    LifecyclePoint → Prop
  | queueing | entering => True
  | switching _ endpoint =>
    TeardownPoint.taking.Fits first s ∧ call.Aims last s (some endpoint)
  | tearing _ next p => p.Fits first s ∧ call.Aims last s next
  | remembering endpoint => s.Vacant first none ∧ last = some endpoint
  | bannering endpoint => s.Vacant first none ∧ s.remembered = some endpoint ∧ last = some endpoint
  | connecting endpoint p => p.Fits first s ∧ s.remembered = some endpoint ∧ last = some endpoint
  | stopping => s.Vacant first none ∧ s.remembered = last
  | leaving _ => s.Settled first last

end LifecyclePoint

/-- The endpoint of the latest start when a call has entered a session: a start of a ready session
does not count. -/
def LifecycleCall.latest (last : Option Endpoint) (s : Session) : LifecycleCall → Option Endpoint
  | .start endpoint => if s.state = .ready then last else some endpoint
  | _ => last

theorem LifecycleCall.Aims.of_remembered {last next : Option Endpoint} {s s' : Session}
    (hr : s'.remembered = s.remembered) {call : LifecycleCall} (h : call.Aims last s next) :
    call.Aims last s' next := by
  cases call with
  | start endpoint => exact h
  | restart =>
    obtain ⟨endpoint, hn, he, hl⟩ := h
    exact ⟨endpoint, hn, hr.trans he, hl⟩
  | stop => exact ⟨h.1, hr.trans h.2⟩

/-- The states in which a session can rest. -/
theorem Session.Settled.states {first : Nat} {last : Option Endpoint} {s : Session}
    (h : s.Settled first last) :
    s.state = .idle ∨ s.state = .ready ∨ s.state = .failed ∨ s.state = .stopped := by
  have hstate := h.state
  cases hs : s.state with
  | connecting => rw [hs] at hstate; cases hstate
  | restarting => rw [hs] at hstate; cases hstate
  | _ => simp

/-- A settled session can be started, unless it is ready. -/
theorem Session.Settled.canStart {first : Nat} {last : Option Endpoint} {s : Session}
    (h : s.Settled first last) (hs : s.state ≠ .ready) : s.state.canStart = true := by
  rcases h.states with hidle | hready | hfailed | hstopped
  · rw [hidle]; rfl
  · exact absurd hready hs
  · rw [hfailed]; rfl
  · rw [hstopped]; rfl

namespace LifecyclePoint

variable {first : Nat} {last : Option Endpoint} {call : LifecycleCall} {s s' : Session}

/-- **A start is never refused**: it finds a session that is ready, or one that can be started. -/
theorem enter_start (h : s.Settled first last) (endpoint : Endpoint) :
    enter (.start endpoint) s =
      if s.state = .ready then leaving (.ok ()) else tearing false (some endpoint) .taking := by
  rw [enter]
  split
  next => rfl
  next hs => rw [if_pos (h.canStart hs)]

/-- **A restart that the state allows finds the endpoint of the latest start.** -/
theorem enter_restart (h : s.Settled first last) (hs : s.state.canRestart = true) :
    ∃ endpoint, last = some endpoint ∧ s.remembered = some endpoint ∧
      enter .restart s = switching (s.state = .ready) endpoint := by
  obtain ⟨endpoint, hlast⟩ := Option.isSome_iff_exists.1 (h.known hs)
  have hr : s.remembered = some endpoint := h.remembered.trans hlast
  exact ⟨endpoint, hlast, hr, by rw [enter, hs, hr]⟩

/-- A call that enters a settled session is at a point that fits. -/
theorem enter_fits (h : s.Settled first last) (call : LifecycleCall) :
    (enter call s).hasEntered = true ∧ (enter call s).Fits first (call.latest last s) call s := by
  have taking : TeardownPoint.taking.Fits first s := ⟨h.disposed, h.wanted, h.offer⟩
  cases call with
  | start endpoint =>
    rw [enter_start h, LifecycleCall.latest]
    split
    next => exact ⟨rfl, h⟩
    next => exact ⟨rfl, taking, rfl, rfl⟩
  | restart =>
    by_cases hs : s.state.canRestart = true
    · obtain ⟨endpoint, hlast, hr, he⟩ := enter_restart h hs
      rw [he]
      exact ⟨rfl, taking, endpoint, rfl, hr, hlast⟩
    · have he : enter .restart s = leaving (.error (.invalidState .restart s.state)) := by
        rw [enter]
        split
        next hc _ => exact absurd hc hs
        next => rfl
      rw [he]
      exact ⟨rfl, h⟩
  | stop =>
    have stopping (hs : s.state = .idle ∨ s.state = .stopped) :
        LifecyclePoint.stopping.Fits first last .stop s :=
      ⟨⟨h.rest hs, h.rest hs ▸ h.disposed, h.wanted, h.offer⟩, h.remembered⟩
    have hlatest : LifecycleCall.latest last s .stop = last := rfl
    rw [enter, hlatest]
    split
    next hs => exact ⟨rfl, stopping (.inl hs)⟩
    next hs => exact ⟨rfl, stopping (.inr hs)⟩
    next => exact ⟨rfl, taking, rfl, h.remembered⟩

/-- **Every step of a call that has entered leads to a point that fits**, and the call leaves the
session settled in the end. -/
theorem step_fits {p : LifecyclePoint} (hp : p.hasEntered = true) (h : p.Fits first last call s)
    (task : TaskId) (now : Nat) :
    (p.step task call now s).Leads
      (fun s' p' => p'.hasEntered = true ∧ p'.Fits first last call s' ∧ s'.lock = s.lock)
      fun s' _ => s'.Settled first last ∧ s'.lock = s.lock.release := by
  cases p with
  | queueing => cases hp
  | entering => cases hp
  | switching graceful endpoint =>
    obtain ⟨⟨hd, hw, ho⟩, haims⟩ := h
    exact ⟨rfl, ⟨⟨hd.of_lines rfl, hw, ho⟩, haims.of_remembered rfl⟩, rfl⟩
  | tearing graceful next p =>
    obtain ⟨hfits, haims⟩ := h
    refine (TeardownPoint.step_fits hfits graceful (reason call) now).within
      (fun _ _ hs => ⟨rfl, ⟨hs.1, haims.of_remembered hs.2.remembered⟩, hs.2.lock⟩) fun s' _ hs => ?_
    obtain ⟨hv, hf⟩ := hs
    cases call with
    | start endpoint =>
      obtain ⟨rfl, hl⟩ := haims
      exact ⟨rfl, ⟨hv, hl⟩, hf.lock⟩
    | restart =>
      obtain ⟨endpoint, rfl, hr, hl⟩ := haims
      exact ⟨rfl, ⟨hv, hf.remembered.trans hr, hl⟩, hf.lock⟩
    | stop =>
      obtain ⟨rfl, hr⟩ := haims
      exact ⟨rfl, ⟨hv, hf.remembered.trans hr⟩, hf.lock⟩
  | remembering endpoint =>
    obtain ⟨hv, hl⟩ := h
    exact ⟨rfl, ⟨hv.of_lines rfl rfl rfl rfl, rfl, hl⟩, rfl⟩
  | bannering endpoint =>
    obtain ⟨hv, hr, hl⟩ := h
    exact ⟨rfl, ⟨hv.of_lines rfl rfl rfl rfl, hr, hl⟩, rfl⟩
  | connecting endpoint p =>
    obtain ⟨hfits, hr, hl⟩ := h
    exact (ConnectPoint.step_fits hr hfits now).within
      (fun _ _ hs => ⟨rfl, ⟨hs.1, hs.2.remembered.trans hr, hl⟩, hs.2.lock⟩)
      fun _ _ hs => ⟨rfl, hl ▸ hs.1, hs.2⟩
  | stopping =>
    obtain ⟨hv, hr⟩ := h
    have hv' : Session.Vacant first none (s.setState .stopped) :=
      hv.of_lines rfl rfl rfl rfl
    exact ⟨rfl, hv'.settled hr (.inr rfl), rfl⟩
  | leaving result =>
    exact ⟨⟨h.state, h.ready, h.rest, h.held, h.disposed.of_lines rfl, h.wanted, h.offer, h.remembered,
      h.known⟩, rfl⟩

/-- Whatever goes on beside leaves the call where it fits. -/
theorem Fits.drift (d : s.Drifts s') {p : LifecyclePoint} (h : p.Fits first last call s) :
    p.Fits first last call s' := by
  cases p with
  | queueing => trivial
  | entering => trivial
  | switching graceful endpoint =>
    exact ⟨TeardownPoint.Fits.drift d h.1, h.2.of_remembered d.remembered⟩
  | tearing graceful next p => exact ⟨TeardownPoint.Fits.drift d h.1, h.2.of_remembered d.remembered⟩
  | remembering endpoint => exact ⟨d.vacant h.1, h.2⟩
  | bannering endpoint => exact ⟨d.vacant h.1, d.remembered.trans h.2.1, h.2.2⟩
  | connecting endpoint p =>
    exact ⟨ConnectPoint.Fits.drift d h.1, d.remembered.trans h.2.1, h.2.2⟩
  | stopping => exact ⟨d.vacant h.1, d.remembered.trans h.2⟩
  | leaving result => exact d.settled h

/-- A call ends when it gives the lock back, with the result that it has come to. -/
theorem eq_leaving_of_ends {p : LifecyclePoint} {task : TaskId} {now : Nat} {r : Except Failure Unit}
    (h : p.step task call now s = .ends s' r) : p = leaving r := by
  cases p with
  | leaving result => rw [(Progress.ends.inj h).2]
  | entering =>
    rw [step] at h
    split at h <;> cases h
  | tearing graceful next p =>
    rw [step] at h
    cases hp : p.step graceful (reason call) now s <;> rw [hp] at h <;> cases h
  | connecting endpoint p =>
    rw [step] at h
    cases hp : p.step endpoint now s <;> rw [hp] at h <;> cases h
  | _ => cases h

/-- Connections are only asked for at one point. -/
theorem step_opens (p : LifecyclePoint) (task : TaskId) (call : LifecycleCall) (now : Nat)
    (s : Session) (hp : ∀ endpoint, p ≠ connecting endpoint .asking) :
    (p.step task call now s).All fun s' => s'.opens = s.opens := by
  have onLine {π α : Type} (n : Nat) (f : Connection → Progress Connection π α) :
      (s.onLine n f).All fun s' => s'.opens = s.opens := by
    unfold Session.onLine
    split
    next => trivial
    next l _ => cases f l.connection <;> trivial
  cases p with
  | entering =>
    rw [step]
    split <;> trivial
  | tearing graceful next p =>
    rw [step, Progress.all_within]
    cases p with
    | taking => rw [TeardownPoint.step]; split <;> exact rfl
    | unwatching n => exact rfl
    | shutting n p => rw [TeardownPoint.step, Progress.all_within]; exact onLine n _
    | closing n p => rw [TeardownPoint.step, Progress.all_within]; exact onLine n _
    | waitingExit n deadline => rw [TeardownPoint.step]; split <;> trivial
    | killing n => exact rfl
  | connecting endpoint p =>
    rw [step, Progress.all_within]
    cases p with
    | asking => exact absurd rfl (hp endpoint)
    | opening => rw [ConnectPoint.step]; split <;> trivial
    | initializing n p => rw [ConnectPoint.step, Progress.all_within]; exact onLine n _
    | abandoning n e p => rw [ConnectPoint.step, Progress.all_within]; exact onLine n _
    | _ => exact rfl
  | _ => exact rfl

end LifecyclePoint

end LanguageClient
