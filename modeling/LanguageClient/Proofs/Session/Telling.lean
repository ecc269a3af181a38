import LanguageClient.Proofs.Connection.Telling
import LanguageClient.Proofs.Session.Along

/-!
# What is told about documents over a session

The steps of a session seen from what is told on its lines.

* `Session.Silent` — on no line anything is said about documents.  Starting, stopping and requests are
  silent (`LifecyclePoint.step_silent`, `Via.step_silent`).
* `Session.Tells` — a step of somebody who is in the middle of telling something, or a silent step
  after which at most something is about to begin.
* `Via.step_tells` — sending a text and closing a document on whatever connection is active.
-/

namespace LanguageClient

open Session

/-- Nothing is being told, or it has not begun yet. -/
def Hushed (t : Option (Nat × Telling)) : Prop := ∀ n p, t = some (n, p) → p.IsFirst

theorem hushed_none : Hushed none := fun _ _ h => nomatch h

/-! ## Silent steps of a session -/

namespace Session

/-- On no line anything is said about documents, and every line stays. -/
def Silent (s s' : Session) : Prop :=
  ∀ n l, s.line? n = some l → ∃ l', s'.line? n = some l' ∧ l.connection.Silent l'.connection

namespace Silent

theorem of_lines {s s' : Session} (h : s'.lines = s.lines) : s.Silent s' := Along.of_lines .refl h

theorem refl (s : Session) : s.Silent s := of_lines rfl

theorem modifyLine (s : Session) (n : Nat) {f : Line → Line}
    (h : ∀ l, s.line? n = some l → l.connection.Silent (f l).connection) :
    s.Silent (s.modifyLine n f) :=
  Along.modifyLine .refl s n h

theorem setConnection {s : Session} {n : Nat} {l : Line} {c : Connection} (hl : s.line? n = some l)
    (h : l.connection.Silent c) : s.Silent (s.setConnection n c) :=
  Along.setConnection .refl hl h

end Silent

theorem onLine_silent {π α : Type} (s : Session) (n : Nat)
    {f : Connection → Progress Connection π α} (h : ∀ c, (f c).All c.Silent) :
    (s.onLine n f).All s.Silent :=
  s.onLine_along .refl n h

end Session

/-- By what a connection begins, asks and ends, nothing is said about documents. -/
theorem Connection.silent_carried : Connection.Carried Connection.Silent where
  refl := .refl
  asks q now c p := p.step_silent q now c
  closes reason c p := p.step_silent reason c
  remembers _ _ := .of_sent rfl rfl rfl id id
  confirms := Connection.silent_tryWrite rfl
  exits := Connection.silent_tryWrite rfl

theorem LifecyclePoint.step_silent (task : TaskId) (call : LifecycleCall) (now : Nat) (s : Session)
    (p : LifecyclePoint) : (p.step task call now s).All s.Silent :=
  p.step_along Connection.silent_carried task call now s

theorem Via.step_silent {π α : Type} (first : π)
    {run : π → Connection → Progress Connection π (Except Failure α)} (s : Session)
    (hrun : ∀ p c, (run p c).All c.Silent) (p : Via π) : (p.step first run s).All s.Silent :=
  p.step_along .refl first s hrun

/-! ## Calls to the active connection -/

section

variable {π α : Type} {first : π} {run : π → Connection → Progress Connection π (Except Failure α)}
  {s s' : Session} {p : Via π}

/-- A call that goes on has looked at the state, has been given the active line, or is on its line. -/
theorem Via.step_goesOn {p' : Via π} (h : p.step first run s = .goesOn s' p') :
    (p = .looking ∧ s' = s ∧ ∃ seen, p' = .picking seen) ∨
      (∃ seen n, p = .picking seen ∧ s' = s ∧ s.active = some n ∧ p' = .on n first) ∨
      ∃ n q l c q', p = .on n q ∧ s.line? n = some l ∧ run q l.connection = .goesOn c q' ∧
        s' = s.setConnection n c ∧ p' = .on n q' := by
  cases p with
  | looking =>
    rw [step] at h
    split at h
    next => cases h; exact .inl ⟨rfl, rfl, _, rfl⟩
    next => cases h
  | picking seen =>
    rw [step] at h
    split at h
    next => cases h
    next =>
      split at h
      next => cases h
      next n hn =>
        cases h
        refine .inr (.inl ⟨seen, n, rfl, rfl, ?_, rfl⟩)
        unfold readyLine at hn
        split at hn
        next ha => split at hn <;> cases hn; exact ha
        next => cases hn
  | on n q =>
    rw [step] at h
    cases hl : s.line? n with
    | none => rw [onLine_of_none hl] at h; cases h
    | some l =>
      rw [onLine_of_some hl] at h
      cases hr : run q l.connection with
      | goesOn c q' =>
        rw [hr] at h
        cases h
        exact .inr (.inr ⟨n, q, l, c, q', rfl, hl, hr, rfl, rfl⟩)
      | _ => rw [hr] at h; cases h

/-- A call that ends was not ready to have a line, or is at the end of what it does there. -/
theorem Via.step_ends {r : Except Failure α} (h : p.step first run s = .ends s' r) :
    ((∀ n q, p ≠ .on n q) ∧ s' = s ∧ ∃ state, r = .error (.notReady state)) ∨
      ∃ n q l c, p = .on n q ∧ s.line? n = some l ∧ run q l.connection = .ends c r ∧
        s' = s.setConnection n c := by
  cases p with
  | looking =>
    rw [step] at h
    split at h
    next => cases h
    next => cases h; exact .inl ⟨by rintro _ _ ⟨⟩, rfl, _, rfl⟩
  | picking seen =>
    rw [step] at h
    split at h
    next => cases h
    next =>
      split at h
      next e he =>
        cases h
        refine .inl ⟨by rintro _ _ ⟨⟩, rfl, seen, ?_⟩
        unfold readyLine at he
        split at he
        next => split at he <;> cases he; rfl
        next => cases he; rfl
      next => cases h
  | on n q =>
    rw [step] at h
    cases hl : s.line? n with
    | none => rw [onLine_of_none hl] at h; cases h
    | some l =>
      rw [onLine_of_some hl] at h
      cases hr : run q l.connection with
      | ends c a =>
        rw [hr] at h
        cases h
        exact .inr ⟨n, q, l, c, rfl, hl, hr, rfl⟩
      | _ => rw [hr] at h; cases h

end

/-! ## Steps that tell -/

/-- What the step of a call comes to: silence, or the next step of what it is in the middle of
telling. -/
inductive Session.Tells (task : TaskId) (s : Session) :
    Option (Nat × Telling) → Session → Option (Nat × Telling) → Prop
  | moves {n : Nat} {l : Line} {c : Connection} {p : Telling} {next : Telling ⊕ Except Failure Unit}
      (hl : s.line? n = some l) (h : p.Move task l.connection c next) :
      Tells task s (some (n, p)) (s.setConnection n c) (next.getLeft?.map (n, ·))
  | aside {s' : Session} {t : Option (Nat × Telling)} (h : s.Silent s') (ht : Hushed t) :
      Tells task s none s' t

namespace Progress

variable {σ π ρ α β : Type}

/-- The step of an activity that is in the middle of telling `t`. -/
def Tells (session : σ → Session) (task : TaskId) (s : Session) (t : Option (Nat × Telling))
    (telling? : π → Option (Nat × Telling)) : Progress σ π α → Prop
  | waits => True
  | goesOn s' p => s.Tells task t (session s') (telling? p)
  | ends s' _ => s.Tells task t (session s') none

variable {session : σ → Session} {task : TaskId} {s : Session} {t : Option (Nat × Telling)}
  {telling? : π → Option (Nat × Telling)}

theorem All.tells {p : Progress σ π α} (h : p.All fun s' => s.Silent (session s'))
    (hp : ∀ x, Hushed (telling? x)) : p.Tells session task s none telling? := by
  cases p with
  | waits => trivial
  | goesOn s' x => exact .aside h (hp x)
  | ends s' a => exact .aside h hushed_none

theorem Tells.last {p : Progress σ π α} (h : p.Tells session task s t telling?)
    (told? : ρ → Option (Nat × Telling)) (wrap : π → ρ) (hw : ∀ x, told? (wrap x) = telling? x)
    (result : α → β) : (p.last wrap result).Tells session task s t told? := by
  cases p with
  | waits => trivial
  | goesOn s' x => simpa [Tells, Progress.last, hw] using h
  | ends s' a => exact h

end Progress

/-- A step on a connection that tells something. -/
theorem Session.onLine_tells {π : Type} (task : TaskId) (s : Session) (n : Nat) (as : π → Telling)
    {run : π → Connection → Progress Connection π (Except Failure Unit)}
    (h : ∀ p c, (run p c).Leads (fun c' p' => (as p).Move task c c' (.inl (as p')))
      fun c' r => (as p).Move task c c' (.inr r)) (p : π) :
    (s.onLine n (run p)).Tells id task s (some (n, as p)) fun p => some (n, as p) := by
  cases hl : s.line? n with
  | none =>
    rw [onLine_of_none hl]
    trivial
  | some l =>
    rw [onLine_of_some hl]
    have hm := h p l.connection
    cases hr : run p l.connection with
    | waits => trivial
    | goesOn c p' =>
      rw [hr] at hm
      exact .moves hl hm
    | ends c r =>
      rw [hr] at hm
      exact .moves hl hm

def Via.telling? {π : Type} (as : π → Telling) : Via π → Option (Nat × Telling)
  | on n p => some (n, as p)
  | _ => none

/-- The same on whatever connection is active. -/
theorem Via.step_tells {π : Type} (task : TaskId) (s : Session) (as : π → Telling) (first : π)
    {run : π → Connection → Progress Connection π (Except Failure Unit)} (hfirst : (as first).IsFirst)
    (h : ∀ p c, (run p c).Leads (fun c' p' => (as p).Move task c c' (.inl (as p')))
      fun c' r => (as p).Move task c c' (.inr r)) (p : Via π) :
    (p.step first run s).Tells id task s (p.telling? as) (Via.telling? as) := by
  cases p with
  | looking =>
    rw [step]
    split <;> exact .aside (.refl s) hushed_none
  | picking seen =>
    rw [step]
    split
    next => trivial
    next =>
      split
      next => exact .aside (.refl s) hushed_none
      next n _ =>
        refine .aside (.refl s) ?_
        rintro _ _ ⟨⟩
        exact hfirst
  | on n p => exact (onLine_tells task s n as h p).last (Via.telling? as) (on n) (fun _ => rfl) id

end LanguageClient
