import LanguageClient.Proofs.Session.Lifecycle

/-!
# A connection that is taken down

Who stops or restarts a session that holds a connection closes that very connection, whatever goes on
beside: the line it is concerned with stays the same from the moment it looks at the session.

* `TeardownPoint.Concerns`, `LifecyclePoint.Concerns` — the line that a call is about to take, or has
  taken and is closing.
* `LifecyclePoint.enter_concerns` and **`LifecyclePoint.step_concerns`** — each step stays with the line,
  until its connection is marked as being closed.
* `LifecyclePoint.Concerns.drift` — what goes on beside does not take the line away.
-/

namespace LanguageClient

open Session

/-- The line is about to be taken from the session, or is being torn down. -/
def TeardownPoint.Concerns (n : Nat) (s : Session) : TeardownPoint → Prop
  | taking => s.active = some n
  | unwatching m | shutting m _ | closing m _ | waitingExit m _ | killing m => m = n

/-- **What is torn down is the line that the session held**, and in the end its connection is being
closed. -/
theorem TeardownPoint.step_concerns {first n : Nat} {s : Session} {p : TeardownPoint}
    (h : p.Fits first s) (hc : p.Concerns n s) (graceful : Bool) (reason : String) (now : Nat) :
    (p.step graceful reason now s).Leads (fun s' p' => p'.Concerns n s')
      fun s' _ => s'.On n fun c => c.closing = true := by
  cases p with
  | taking =>
    rw [step, show s.active = some n from hc]
    exact rfl
  | unwatching m =>
    obtain rfl : m = n := hc
    cases graceful <;> exact rfl
  | shutting m p =>
    obtain rfl : m = n := hc
    refine (Progress.leads_true _).within (fun _ _ _ => rfl) fun _ _ _ => ?_
    cases graceful <;> exact rfl
  | closing m p =>
    obtain rfl : m = n := hc
    exact (Progress.leads_true _).within (fun _ _ _ => rfl) fun _ _ _ => rfl
  | waitingExit m deadline =>
    rw [step]
    split
    next => exact hc
    next => trivial
  | killing m =>
    obtain rfl : m = n := hc
    intro l hl
    rw [line?_modifyLine, if_pos rfl] at hl
    obtain ⟨l', hl', rfl⟩ := Option.map_eq_some_iff.1 hl
    exact (h.2 l' hl').closing

theorem TeardownPoint.Concerns.drift {n : Nat} {s s' : Session} (d : s.Drifts s') {p : TeardownPoint}
    (h : p.Concerns n s) : p.Concerns n s' := by
  cases p with
  | taking => exact d.active.trans h
  | _ => exact h

namespace LifecyclePoint

variable {first n : Nat} {last : Option Endpoint} {call : LifecycleCall} {s s' : Session}

/-- The same of a call that stops or restarts the session.  One whose turn has come finds the line if
nobody else takes it first. -/
def Concerns (n : Nat) (s : Session) : LifecyclePoint → Prop
  | entering => s.active = some n ∧ s.state.canRestart = true
  | switching _ _ => s.active = some n
  | tearing _ _ p => p.Concerns n s
  | _ => False

/-- A stop or a restart that enters goes for the connection that the session holds. -/
theorem enter_concerns (h : s.Settled first last) (hcall : call = .restart ∨ call = .stop)
    (hc : entering.Concerns n s) : (enter call s).Concerns n s := by
  obtain ⟨hactive, hstate⟩ := hc
  rcases hcall with rfl | rfl
  · obtain ⟨endpoint, -, -, he⟩ := enter_restart h hstate
    rw [he]
    exact hactive
  · rw [enter]
    split
    next hs => rw [hs] at hstate; cases hstate
    next hs => rw [hs] at hstate; cases hstate
    next => exact hactive

/-- **Every further step stays with the line**, until its connection is being closed. -/
theorem step_concerns {p : LifecyclePoint} (hp : p.hasEntered = true) (h : p.Fits first last call s)
    (hc : p.Concerns n s) (task : TaskId) (now : Nat) :
    (p.step task call now s).Leads
      (fun s' p' => p'.Concerns n s' ∨ s'.On n fun c => c.closing = true) fun _ _ => False := by
  cases p with
  | entering => cases hp
  | switching graceful endpoint => exact .inl hc
  | tearing graceful next p =>
    exact (TeardownPoint.step_concerns h.1 hc graceful (reason call) now).within
      (fun _ _ hp' => .inl hp') fun _ _ hclosing => .inr hclosing
  | _ => exact hc.elim

/-- Whatever goes on beside leaves the line to the call. -/
theorem Concerns.drift (d : s.Drifts s') {p : LifecyclePoint} (h : p.Concerns n s) :
    p.Concerns n s' := by
  cases p with
  | entering => exact ⟨d.active.trans h.1, d.canRestart.trans h.2⟩
  | switching graceful endpoint => exact d.active.trans h
  | tearing graceful next p => exact TeardownPoint.Concerns.drift d h
  | _ => exact h

end LifecyclePoint

end LanguageClient
