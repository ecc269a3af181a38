import LanguageClient.Proofs.Session.Traffic

/-!
# What becomes of every connection

A relation between a connection and what a step makes of it holds along the step of a session if every
line stays and it holds of the connection of each (`Session.Along`).

* `LifecyclePoint.step_along` — what a connection carries by itself (`Connection.Carried`) holds along every
  step of a start, a restart or a stop.
* `Via.step_along` — a reflexive relation holds along every step of a call to the active connection if it
  holds of the steps there.
-/

namespace LanguageClient

open Session

variable {R : Connection → Connection → Prop}

namespace Session

/-- Every line stays, and the relation holds of its connection. -/
def Along (R : Connection → Connection → Prop) (s s' : Session) : Prop :=
  ∀ n l, s.line? n = some l → ∃ l', s'.line? n = some l' ∧ R l.connection l'.connection

namespace Along

theorem of_lines (refl : ∀ c, R c c) {s s' : Session} (h : s'.lines = s.lines) : s.Along R s' :=
  fun n l hl => ⟨l, by rwa [line?, h], refl _⟩

theorem refl (refl : ∀ c, R c c) (s : Session) : s.Along R s := of_lines refl rfl

/-- A line may come. -/
theorem of_append (refl : ∀ c, R c c) {s s' : Session} {line : Line}
    (h : s'.lines = s.lines ++ [line]) : s.Along R s' :=
  fun n l hl => by
    rw [line?, h]
    exact ⟨l, (List.getElem?_append_left (List.getElem?_eq_some_iff.1 hl).1).trans hl, refl _⟩

theorem modifyLine (refl : ∀ c, R c c) (s : Session) (n : Nat) {f : Line → Line}
    (h : ∀ l, s.line? n = some l → R l.connection (f l).connection) :
    s.Along R (s.modifyLine n f) := fun m l hl => by
  rw [line?_modifyLine]
  split
  next e => exact ⟨f l, by simp [hl], h l (e ▸ hl)⟩
  next => exact ⟨l, hl, refl _⟩

theorem setConnection (refl : ∀ c, R c c) {s : Session} {n : Nat} {l : Line} {c : Connection}
    (hl : s.line? n = some l) (h : R l.connection c) : s.Along R (s.setConnection n c) :=
  modifyLine refl s n fun l' hl' => by
    obtain rfl : l = l' := by simpa [hl] using hl'
    exact h

end Along

theorem onLine_along (refl : ∀ c, R c c) {π α : Type} (s : Session) (n : Nat)
    {f : Connection → Progress Connection π α} (h : ∀ c, (f c).All (R c)) :
    (s.onLine n f).All (s.Along R) := by
  unfold onLine
  split
  next => trivial
  next l hl =>
    rw [Progress.all_onState]
    exact (h l.connection).mono fun c hc => .setConnection refl hl hc

end Session

theorem TeardownPoint.step_along (h : Connection.Carried R) (graceful : Bool) (reason : String)
    (now : Nat) (s : Session) (p : TeardownPoint) :
    (p.step graceful reason now s).All (s.Along R) := by
  cases p with
  | taking =>
    rw [step]
    split
    next => exact .refl h.refl s
    next => exact .of_lines h.refl rfl
  | unwatching n => exact .of_lines h.refl rfl
  | shutting n p =>
    rw [step, Progress.all_within]
    exact s.onLine_along h.refl n fun c => p.step_carried h _ now c
  | closing n p =>
    rw [step, Progress.all_within]
    exact s.onLine_along h.refl n fun c => h.closes reason c p
  | waitingExit n deadline =>
    rw [step]
    split
    next => exact .refl h.refl s
    next => trivial
  | killing n => exact .modifyLine h.refl s n fun l _ => h.refl _

theorem ConnectPoint.step_along (h : Connection.Carried R) (endpoint : Endpoint) (now : Nat)
    (s : Session) (p : ConnectPoint) : (p.step endpoint now s).All (s.Along R) := by
  cases p with
  | opening =>
    rw [step]
    split
    next => trivial
    next => exact .of_lines h.refl rfl
    next => exact .of_append h.refl rfl
  | initializing n p =>
    rw [step, Progress.all_within]
    exact s.onLine_along h.refl n fun c => p.step_carried h _ now c
  | abandoning n e p =>
    rw [step, Progress.all_within]
    exact s.onLine_along h.refl n fun c => h.closes abandonReason c p
  | killing n e => exact .modifyLine h.refl s n fun l _ => h.refl _
  | _ => exact .of_lines h.refl rfl

theorem LifecyclePoint.step_along (h : Connection.Carried R) (task : TaskId) (call : LifecycleCall)
    (now : Nat) (s : Session) (p : LifecyclePoint) : (p.step task call now s).All (s.Along R) := by
  cases p with
  | entering =>
    rw [step]
    split
    next => exact .refl h.refl s
    next => trivial
  | tearing graceful next p =>
    rw [step, Progress.all_within]
    exact p.step_along h graceful (reason call) now s
  | connecting endpoint p =>
    rw [step, Progress.all_within]
    exact p.step_along h endpoint now s
  | _ => exact .of_lines h.refl rfl

theorem Via.step_along (refl : ∀ c, R c c) {π α : Type} (first : π)
    {run : π → Connection → Progress Connection π (Except Failure α)} (s : Session)
    (hrun : ∀ p c, (run p c).All (R c)) (p : Via π) : (p.step first run s).All (s.Along R) := by
  cases p with
  | looking =>
    rw [step]
    split <;> exact .refl refl s
  | picking seen =>
    rw [step]
    split
    next => trivial
    next => split <;> exact .refl refl s
  | on n p =>
    rw [step, Progress.all_last]
    exact s.onLine_along refl n (hrun p)

end LanguageClient
