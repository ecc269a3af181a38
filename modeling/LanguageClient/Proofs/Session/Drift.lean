import LanguageClient.Proofs.Session.Traffic

/-!
# What goes on in a session beside starting and stopping

Starting, restarting and stopping take turns, but everything else goes on meanwhile: requests are
made on the active connection and on connections that are on their way out, readers read, processes
exit, and a watch may let the state fall.  `Session.Drifts` says what all this can come to.  The
active line, the remembered endpoint and the number of openings stay, and so does who holds the lock;
the state can only fall from ready to failed; no line comes or goes, and what has been given up on a
line stays given up.

Most of it is less than that: `Session.Touches` says that at most the connection of one line has
changed, and `Session.Steady` that nothing has changed that concerns the watches.

* `read?_touches`, `pay?_touches`, `watch?_drifts` — what goes on by itself.
* `Session.onLine_touches`, `Via.step_touches` — a step on a connection touches no more than this
  connection.
-/

namespace LanguageClient

/-! ## Lines -/

/-- A process that exits, or has exited before, has exited. -/
theorem Line.hasExited_exit (l : Line) (e : ExitEvent) :
    Line.hasExited { l with process := l.process.map fun p => { p with exit := p.exit.or (some e) } } =
      true := by
  rw [hasExited]
  cases l.process with
  | none => rfl
  | some p => simp

/-- What has been given up on a line stays given up. -/
structure Line.Keeps (l l' : Line) : Prop where
  connection : l.connection.Keeps l'.connection
  exited : l.hasExited = true → l'.hasExited = true

theorem Line.Keeps.refl (l : Line) : l.Keeps l := ⟨.refl l.connection, id⟩

namespace Session

/-! ## Drifting -/

/-- What a session can come to beside starting, restarting and stopping. -/
structure Drifts (s s' : Session) : Prop where
  state : s'.state = s.state ∨ (s.state = .ready ∧ s'.state = .failed)
  active : s'.active = s.active
  remembered : s'.remembered = s.remembered
  opens : s'.opens = s.opens
  /-- Others may have asked for the lock. -/
  lock : s'.lock = s.lock ∨ ∃ task, s'.lock = s.lock.join task
  /-- Who asked for a connection may have got an answer. -/
  asked : (s'.wanted = s.wanted ∧ s'.offer = s.offer) ∨ (s.wanted.isSome ∧ s'.wanted = none)
  length : s'.lines.length = s.lines.length
  keeps : ∀ n l', s'.line? n = some l' → ∃ l, s.line? n = some l ∧ l.Keeps l'

namespace Drifts

variable {s s' : Session}

/-- What leaves all of this alone is a drift. -/
theorem of_lines (lines : s'.lines = s.lines) (state : s'.state = s.state)
    (active : s'.active = s.active) (remembered : s'.remembered = s.remembered)
    (opens : s'.opens = s.opens) (lock : s'.lock = s.lock) (wanted : s'.wanted = s.wanted)
    (offer : s'.offer = s.offer) : s.Drifts s' where
  state := .inl state
  active := active
  remembered := remembered
  opens := opens
  lock := .inl lock
  asked := .inl ⟨wanted, offer⟩
  length := by rw [lines]
  keeps n l' hl' := ⟨l', by rwa [line?, ← lines], .refl l'⟩

theorem refl (s : Session) : s.Drifts s := of_lines rfl rfl rfl rfl rfl rfl rfl rfl

/-- A change to one line. -/
theorem modifyLine (s : Session) (n : Nat) {f : Line → Line}
    (h : ∀ l, s.line? n = some l → l.Keeps (f l)) : s.Drifts (s.modifyLine n f) where
  state := .inl rfl
  active := rfl
  remembered := rfl
  opens := rfl
  lock := .inl rfl
  asked := .inl ⟨rfl, rfl⟩
  length := List.length_modify ..
  keeps m l' hl' := by
    rw [line?_modifyLine] at hl'
    split at hl'
    next e =>
      obtain ⟨l, hl, rfl⟩ := Option.map_eq_some_iff.1 hl'
      exact ⟨l, hl, h l (e ▸ hl)⟩
    next => exact ⟨l', hl', .refl l'⟩

theorem setConnection {n : Nat} {l : Line} {c : Connection} (hl : s.line? n = some l)
    (h : l.connection.Keeps c) : s.Drifts (s.setConnection n c) :=
  modifyLine s n fun l' hl' => by
    obtain rfl : l = l' := by simpa [hl] using hl'
    exact ⟨h, id⟩

/-- A call asks for the lock. -/
theorem joins (s : Session) (task : TaskId) : s.Drifts { s with lock := s.lock.join task } where
  state := .inl rfl
  active := rfl
  remembered := rfl
  opens := rfl
  lock := .inr ⟨task, rfl⟩
  asked := .inl ⟨rfl, rfl⟩
  length := rfl
  keeps _ l' hl' := ⟨l', hl', .refl l'⟩

/-- Who holds the lock goes on holding it. -/
theorem holder? (d : s.Drifts s') {task : TaskId} (h : s.lock.holder? = some task) :
    s'.lock.holder? = some task := by
  rcases d.lock with hl | ⟨other, hl⟩
  · rw [hl]; exact h
  · rw [hl]; exact Lock.holder?_join h other

/-- Whoever asked for a connection gets an answer. -/
theorem answered (h : s.wanted.isSome) (r : Except Failure Line) :
    s.Drifts { s with wanted := none, offer := some r } where
  state := .inl rfl
  active := rfl
  remembered := rfl
  opens := rfl
  lock := .inl rfl
  asked := .inr ⟨h, rfl⟩
  length := rfl
  keeps _ l' hl' := ⟨l', hl', .refl l'⟩

end Drifts

/-- At most the connection of one line is replaced, and what has been given up there stays given up. -/
inductive Touches (s : Session) : Session → Prop
  | nothing : s.Touches s
  | connection {n : Nat} {l : Line} {c : Connection} (hl : s.line? n = some l)
      (h : l.connection.Keeps c) : s.Touches (s.setConnection n c)

theorem Touches.drifts {s s' : Session} (h : s.Touches s') : s.Drifts s' := by
  cases h with
  | nothing => exact .refl s
  | connection hl h => exact .setConnection hl h

/-- Nothing changes that concerns watches. -/
structure Steady (s s' : Session) : Prop where
  state : s'.state = s.state
  active : s'.active = s.active
  generation : s'.generation = s.generation
  watches : s'.watches = s.watches

theorem Steady.refl (s : Session) : s.Steady s := ⟨rfl, rfl, rfl, rfl⟩

theorem Touches.steady {s s' : Session} (h : s.Touches s') : s.Steady s' := by
  cases h <;> exact ⟨rfl, rfl, rfl, rfl⟩

/-- The watch over a line notices, stops, or lets the state fall. -/
theorem watch?_drifts {s s' : Session} {n : Nat} (h : s.watch? n = some s') : s.Drifts s' := by
  simp only [watch?, Option.bind_eq_bind, Option.bind_eq_some_iff] at h
  obtain ⟨x, _, h⟩ := h
  split at h
  next =>
    cases h
    unfold lose
    split
    next hready =>
      exact { Drifts.refl s with state := .inr ⟨hready.1, rfl⟩ }
    next => exact .of_lines rfl rfl rfl rfl rfl rfl rfl rfl
  next =>
    split at h
    next => cases h; exact .of_lines rfl rfl rfl rfl rfl rfl rfl rfl
    next =>
      split at h
      next => cases h; exact .of_lines rfl rfl rfl rfl rfl rfl rfl rfl
      next => cases h

theorem read?_touches {s s' : Session} {n : Nat} {signals : List Signal}
    (h : s.read? n = some (s', signals)) : s.Touches s' := by
  simp only [read?, Option.bind_eq_bind, Option.bind_eq_some_iff] at h
  obtain ⟨l, hl, h⟩ := h
  split at h
  next c hstop =>
    cases h
    obtain ⟨_, rfl⟩ := Reader.stop?_eq hstop
    exact .connection hl ⟨id, id, id⟩
  next =>
    obtain ⟨⟨c, _⟩, hstep, he⟩ := Option.bind_eq_some_iff.1 h
    cases he
    exact .connection hl (Reader.step?_keeps hstep)

theorem readOn?_touches {s s' : Session} {n : Nat} {signals : List Signal}
    (h : s.readOn? n = some (s', signals)) : s.Touches s' := by
  simp only [readOn?, Option.bind_eq_bind, Option.bind_eq_some_iff] at h
  obtain ⟨l, hl, h⟩ := h
  split at h
  next =>
    obtain ⟨⟨c, _⟩, hstep, he⟩ := Option.bind_eq_some_iff.1 h
    cases he
    exact .connection hl (Reader.step?_keeps hstep)
  next => cases h

theorem pay?_touches {s s' : Session} {n : Nat} (h : s.pay? n = some s') : s.Touches s' := by
  simp only [pay?, Option.bind_eq_bind, Option.bind_eq_some_iff] at h
  obtain ⟨l, hl, c, hc, he⟩ := h
  cases he
  exact .connection hl (Reader.pay?_calm hc).keeps

/-! ## Calls on a connection -/

theorem onLine_touches {π α : Type} (s : Session) (n : Nat)
    {f : Connection → Progress Connection π α} (h : ∀ c, (f c).All c.Keeps) :
    (s.onLine n f).All s.Touches := by
  unfold onLine
  split
  next => trivial
  next l hl =>
    rw [Progress.all_onState]
    exact (h l.connection).mono fun c hc => .connection hl hc

theorem onLine_steady {π α : Type} (s : Session) (n : Nat) (f : Connection → Progress Connection π α) :
    (s.onLine n f).All s.Steady := by
  unfold onLine
  split
  next => trivial
  next l _ => cases f l.connection <;> first | trivial | exact ⟨rfl, rfl, rfl, rfl⟩

end Session

open Session

theorem Via.step_touches {π α : Type} (first : π)
    {run : π → Connection → Progress Connection π (Except Failure α)} (s : Session)
    (hrun : ∀ p c, (run p c).All c.Keeps) (p : Via π) : (p.step first run s).All s.Touches := by
  cases p with
  | looking =>
    rw [step]
    split <;> exact .nothing
  | picking seen =>
    rw [step]
    split
    next => trivial
    next => split <;> exact .nothing
  | on n p =>
    rw [step, Progress.all_last]
    exact s.onLine_touches n (hrun p)

end LanguageClient
