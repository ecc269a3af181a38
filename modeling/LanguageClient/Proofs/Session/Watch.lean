import LanguageClient.Proofs.Session.Lifecycle

/-!
# Watches

A watch is set for the line that a session takes up, and bears the generation that the session has
then.  Watches are told to stop and new generations are counted while watches still go on, so what a
watch may still do to the session is a matter of generations.

* `Session.Watched` — no watch is ahead of the session, and the one that is level with it is over the
  line that became ready last; a ready session that holds a line has a watch over it that was not told
  to stop; and what a watch has noticed was there to be seen.
* `LifecyclePoint.Counts` — a call that is about to hand a line over has counted a generation for it
  that no watch has yet.
* **`LifecyclePoint.step_watched`**, `watch?_watched` — the steps of calls and of watches keep this.
* **`state_of_watch?`** — so the only watch that lets the state fall is over the line that became ready
  last, and has seen its loss.
* `LifecyclePoint.step_state` — the calls set the state without looking at any line.
-/

namespace LanguageClient

namespace Session

variable {s s' : Session} {seen : Nat → Prop} {last : Option Nat} {n : Nat}

/-! ## Watches and generations -/

/-- The watches of a session, of which the loss of some lines has been seen; `last` is the line that
became ready last. -/
structure Watched (seen : Nat → Prop) (last : Option Nat) (s : Session) : Prop where
  behind : ∀ n w, s.watches.get? n = some w → w.generation ≤ s.generation
  level : ∀ n w, s.watches.get? n = some w → w.generation = s.generation → last = some n
  noticed : ∀ n w, s.watches.get? n = some w → w.noticed = true → seen n
  held : ∀ n, s.state = .ready → s.active = some n →
    ∃ w, s.watches.get? n = some w ∧ w.aborted = false ∧ w.generation = s.generation

/-- The current generation is too new for a watch. -/
def Unwatched (s : Session) : Prop := ∀ n w, s.watches.get? n = some w → w.generation < s.generation

namespace Watched

theorem steady (h : s.Watched seen last) (hs : s.Steady s') : s'.Watched seen last where
  behind := by rw [hs.watches, hs.generation]; exact h.behind
  level := by rw [hs.watches, hs.generation]; exact h.level
  noticed := by rw [hs.watches]; exact h.noticed
  held := by rw [hs.state, hs.active, hs.watches, hs.generation]; exact h.held

theorem mono {seen' : Nat → Prop} (h : s.Watched seen last) (hseen : ∀ n, seen n → seen' n) :
    s.Watched seen' last :=
  ⟨h.behind, h.level, fun n w hw hn => hseen n (h.noticed n w hw hn), h.held⟩

/-- Watches may be told to stop, and may go away. -/
theorem of_watches (h : s.Watched seen last) (generation : s'.generation = s.generation)
    (watches : ∀ n w', s'.watches.get? n = some w' → ∃ w, s.watches.get? n = some w ∧
      w'.generation = w.generation ∧ (w'.noticed = true → w.noticed = true ∨ seen n))
    (held : ∀ n, s'.state = .ready → s'.active = some n →
      ∃ w, s'.watches.get? n = some w ∧ w.aborted = false ∧ w.generation = s'.generation) :
    s'.Watched seen last where
  behind n w' hw' := by
    obtain ⟨w, hw, hg, _⟩ := watches n w' hw'
    rw [hg, generation]
    exact h.behind n w hw
  level n w' hw' he := by
    obtain ⟨w, hw, hg, _⟩ := watches n w' hw'
    rw [hg, generation] at he
    exact h.level n w hw he
  noticed n w' hw' hn := by
    obtain ⟨w, hw, _, hseen⟩ := watches n w' hw'
    exact (hseen hn).elim (h.noticed n w hw) id
  held := held

/-- A session that holds no line, or is not ready, need not be watched. -/
theorem of_idle (h : s.Watched seen last) (generation : s'.generation = s.generation)
    (watches : s'.watches = s.watches) (idle : s'.state = .ready → s'.active = none) :
    s'.Watched seen last :=
  h.of_watches generation (fun n w' hw' => ⟨w', watches ▸ hw', rfl, .inl⟩) fun n hready hactive => by
    rw [idle hready] at hactive
    cases hactive

end Watched

/-! ## Steps of a watch -/

/-- A watch that has noticed the loss of its line speaks up, one that was told to stop ends, and one
that sees the loss notices it. -/
theorem watch?_cases (h : s.watch? n = some s') : ∃ w, s.watches.get? n = some w ∧
    ((w.noticed = true ∧ s' = (s.endWatch n).lose w.generation) ∨
      (w.aborted = true ∧ s' = s.endWatch n) ∨
      ((∃ l, s.line? n = some l ∧ l.isGone = true) ∧
        s' = { s with watches := s.watches.set n { w with noticed := true } })) := by
  simp only [watch?, Option.bind_eq_bind, Option.bind_eq_some_iff] at h
  obtain ⟨w, hw, h⟩ := h
  refine ⟨w, hw, ?_⟩
  split at h
  next hnoticed => cases h; exact .inl ⟨hnoticed, rfl⟩
  next =>
    split at h
    next haborted => cases h; exact .inr (.inl ⟨haborted, rfl⟩)
    next =>
      split at h
      next hgone => cases h; exact .inr (.inr ⟨(Option.any_eq_true _ _).1 hgone, rfl⟩)
      next => cases h

theorem get?_watches_endWatch {m : Nat} {w : Watch} (h : (s.endWatch n).watches.get? m = some w) :
    n ≠ m ∧ s.watches.get? m = some w := by
  have hget : (s.endWatch n).watches.get? m = if n = m then none else s.watches.get? m :=
    Table.get?_erase ..
  rw [hget] at h
  split at h
  next => cases h
  next hne => exact ⟨hne, h⟩

theorem watches_lose (s : Session) (generation : Nat) : (s.lose generation).watches = s.watches := by
  unfold lose
  split <;> rfl

theorem generation_lose (s : Session) (generation : Nat) :
    (s.lose generation).generation = s.generation := by
  unfold lose
  split <;> rfl

/-- A session that is still ready has not lost anything, or not by a watch of its generation. -/
theorem lose_of_ready {generation : Nat} (h : (s.lose generation).state = .ready) :
    s.lose generation = s ∧ s.generation ≠ generation := by
  unfold lose at h ⊢
  split at h
  next => cases h
  next hne => exact ⟨if_neg hne, fun he => hne ⟨h, he⟩⟩

/-- **The steps of a watch keep the session watched.** -/
theorem watch?_watched (h : s.Watched seen last) (hstep : s.watch? n = some s')
    (hseen : (∃ l, s.line? n = some l ∧ l.isGone = true) → seen n) : s'.Watched seen last := by
  obtain ⟨w, hw, ⟨_, rfl⟩ | ⟨haborted, rfl⟩ | ⟨hgone, rfl⟩⟩ := watch?_cases hstep
  · refine h.of_watches (generation_lose _ _) (fun m w' hw' => ?_) fun m hready hactive => ?_
    · rw [watches_lose] at hw'
      exact ⟨w', (get?_watches_endWatch hw').2, rfl, .inl⟩
    · -- The line that is held is another one, or its loss would have let the state fall.
      obtain ⟨he, hne⟩ := lose_of_ready hready
      rw [he] at hready hactive ⊢
      obtain ⟨w', hw', haborted, hlevel⟩ := h.held m hready hactive
      refine ⟨w', ?_, haborted, hlevel⟩
      refine (Table.get?_erase ..).trans ((if_neg ?_).trans hw')
      rintro rfl
      rw [hw] at hw'
      cases hw'
      exact hne hlevel.symm
  · refine h.of_watches rfl (fun m w' hw' => ⟨w', (get?_watches_endWatch hw').2, rfl, .inl⟩)
      fun m hready hactive => ?_
    obtain ⟨w', hw', hkept, hlevel⟩ := h.held m hready hactive
    refine ⟨w', (Table.get?_erase ..).trans ((if_neg ?_).trans hw'), hkept, hlevel⟩
    rintro rfl
    rw [hw] at hw'
    cases hw'
    rw [haborted] at hkept
    cases hkept
  · have hget (m : Nat) : (s.watches.set n { w with noticed := true }).get? m =
        if n = m then some { w with noticed := true } else s.watches.get? m := Table.get?_set ..
    refine h.of_watches rfl (fun m w' hw' => ?_) fun m hready hactive => ?_
    · rw [hget] at hw'
      split at hw'
      next e =>
        subst e
        cases hw'
        exact ⟨w, hw, rfl, fun _ => .inr (hseen hgone)⟩
      next => exact ⟨w', hw', rfl, .inl⟩
    · obtain ⟨w', hw', hkept, hlevel⟩ := h.held m hready hactive
      by_cases e : n = m
      · subst e
        rw [hw] at hw'
        cases hw'
        exact ⟨_, (hget n).trans (if_pos rfl), hkept, hlevel⟩
      · exact ⟨w', (hget m).trans ((if_neg e).trans hw'), hkept, hlevel⟩

/-- **A watch lets the state fall only for the line that became ready last**, and only if its loss was
seen. -/
theorem state_of_watch? (h : s.Watched seen last) (hstep : s.watch? n = some s')
    (hstate : s'.state ≠ s.state) :
    s.state = .ready ∧ s'.state = .failed ∧ last = some n ∧ seen n := by
  obtain ⟨w, hw, ⟨hnoticed, rfl⟩ | ⟨_, rfl⟩ | ⟨_, rfl⟩⟩ := watch?_cases hstep
  · by_cases hlost : (s.endWatch n).state = .ready ∧ (s.endWatch n).generation = w.generation
    · rw [lose, if_pos hlost]
      exact ⟨hlost.1, rfl, h.level n w hw hlost.2.symm, h.noticed n w hw hnoticed⟩
    · rw [lose, if_neg hlost] at hstate
      exact absurd rfl hstate
  · exact absurd rfl hstate
  · exact absurd rfl hstate

theorem generation_watch? (hstep : s.watch? n = some s') : s'.generation = s.generation := by
  obtain ⟨w, _, ⟨_, rfl⟩ | ⟨_, rfl⟩ | ⟨_, rfl⟩⟩ := watch?_cases hstep
  · exact generation_lose _ _
  · rfl
  · rfl

theorem Unwatched.steady (h : s.Unwatched) (hs : s.Steady s') : s'.Unwatched := by
  rw [Unwatched, hs.watches, hs.generation]
  exact h

/-- A watch does not become newer. -/
theorem Unwatched.watch? (h : s.Unwatched) (hstep : s.watch? n = some s') : s'.Unwatched := by
  obtain ⟨w, hw, ⟨_, rfl⟩ | ⟨_, rfl⟩ | ⟨_, rfl⟩⟩ := watch?_cases hstep
  · intro m w' hw'
    rw [watches_lose] at hw'
    rw [generation_lose]
    exact h m w' (get?_watches_endWatch hw').2
  · exact fun m w' hw' => h m w' (get?_watches_endWatch hw').2
  · intro m w' hw'
    have hget : (s.watches.set n { w with noticed := true }).get? m = some w' := hw'
    rw [Table.get?_set] at hget
    split at hget
    next =>
      cases hget
      exact h n w hw
    next => exact h m w' hget

end Session

open Session

/-! ## Steps of calls -/

section

variable {seen : Nat → Prop} {last : Option Nat} {s s' : Session} {first : Nat}

/-- Who tears a line down tells its watch to stop, when the session holds the line no more. -/
theorem TeardownPoint.step_watched {p : TeardownPoint} (hp : p.Fits first s)
    (h : s.Watched seen last) (graceful : Bool) (reason : String) (now : Nat) :
    (p.step graceful reason now s).All (Watched seen last) := by
  cases p with
  | taking =>
    rw [step]
    split
    next => exact h
    next => exact h.of_idle rfl rfl fun _ => rfl
  | unwatching n =>
    refine h.of_watches rfl (fun m w' hw' => ?_) fun m _ hactive => ?_
    · replace hw' : (s.watches.modify n fun w => { w with aborted := true }).get? m = some w' := hw'
      rw [Table.get?_modify] at hw'
      split at hw'
      next =>
        obtain ⟨w, hw, rfl⟩ := Option.map_eq_some_iff.1 hw'
        exact ⟨w, hw, rfl, .inl⟩
      next => exact ⟨w', hw', rfl, .inl⟩
    · replace hactive : s.active = some m := hactive
      rw [hp.active] at hactive
      cases hactive
  | shutting n p =>
    rw [step, Progress.all_within]
    exact (s.onLine_steady n _).mono fun _ => h.steady
  | closing n p =>
    rw [step, Progress.all_within]
    exact (s.onLine_steady n _).mono fun _ => h.steady
  | waitingExit n deadline =>
    rw [step]
    split
    next => exact h
    next => trivial
  | killing n => exact h.steady ⟨rfl, rfl, rfl, rfl⟩

/-- A line that is about to be handed over has a generation of its own. -/
def ConnectPoint.Counts (last : Option Nat) (s : Session) : ConnectPoint → Prop
  | announcing _ generation => generation = s.generation ∧ s.Unwatched
  | handingOver n generation => generation = s.generation ∧ s.Unwatched ∧ last = some n
  | _ => True

theorem ConnectPoint.Counts.keep {p : ConnectPoint} (h : p.Counts last s)
    (generation : s'.generation = s.generation) (unwatched : s.Unwatched → s'.Unwatched) :
    p.Counts last s' := by
  cases p with
  | announcing n g => exact ⟨h.1.trans generation.symm, unwatched h.2⟩
  | handingOver n g => exact ⟨h.1.trans generation.symm, unwatched h.2.1, h.2.2⟩
  | _ => trivial

/-- The line with which the session becomes ready by this step. -/
def ConnectPoint.readies? : ConnectPoint → Option Nat
  | announcing n _ => some n
  | _ => none

/-- **A line that is handed over is watched**, and a new generation is counted before. -/
theorem ConnectPoint.step_watched {p : ConnectPoint} (hp : p.Fits first s) (h : s.Watched seen last)
    (hc : p.Counts last s) (endpoint : Endpoint) (now : Nat) :
    (p.step endpoint now s).Leads
      (fun s' p' => s'.Watched seen (p.readies?.or last) ∧ p'.Counts (p.readies?.or last) s')
      fun s' _ => s'.Watched seen (p.readies?.or last) := by
  cases p with
  | beginning => exact ⟨h.of_idle rfl rfl (by rintro ⟨⟩), trivial⟩
  | asking => exact ⟨h.steady ⟨rfl, rfl, rfl, rfl⟩, trivial⟩
  | opening =>
    rw [step]
    split
    next => trivial
    next => exact ⟨h.steady ⟨rfl, rfl, rfl, rfl⟩, trivial⟩
    next => exact ⟨h.steady ⟨rfl, rfl, rfl, rfl⟩, trivial⟩
  | initializing n p =>
    refine (s.onLine_steady n _).leads.within (fun _ _ hs => ⟨h.steady hs, trivial⟩) fun _ r hs => ?_
    cases r <;> exact ⟨h.steady hs, trivial⟩
  | abandoning n e p =>
    exact (s.onLine_steady n _).leads.within (fun _ _ hs => ⟨h.steady hs, trivial⟩)
      fun _ _ hs => ⟨h.steady hs, trivial⟩
  | killing n e => exact ⟨h.steady ⟨rfl, rfl, rfl, rfl⟩, trivial⟩
  | failing e => exact h.of_idle rfl rfl (by rintro ⟨⟩)
  | numbering n =>
    have unwatched (m : Nat) (w : Watch) (hw : s.watches.get? m = some w) :
        w.generation < s.generation + 1 := Nat.lt_succ_of_le (h.behind m w hw)
    refine ⟨⟨fun m w hw => Nat.le_of_lt (unwatched m w hw), fun m w hw he => ?_, h.noticed,
      fun m _ hactive => ?_⟩, rfl, unwatched⟩
    · exact absurd he (Nat.ne_of_lt (unwatched m w hw))
    · replace hactive : s.active = some m := hactive
      rw [hp.1.active] at hactive
      cases hactive
  | announcing n generation =>
    obtain ⟨rfl, unwatched⟩ := hc
    refine ⟨⟨h.behind, fun m w hw he => ?_, h.noticed, fun m _ hactive => ?_⟩, rfl, unwatched, rfl⟩
    · exact absurd he (Nat.ne_of_lt (unwatched m w hw))
    · replace hactive : s.active = some m := hactive
      rw [hp.1.active] at hactive
      cases hactive
  | handingOver n generation =>
    obtain ⟨rfl, unwatched, hlast⟩ := hc
    have hget (m : Nat) : (s.watches.set n { generation := s.generation }).get? m =
        if n = m then some { generation := s.generation } else s.watches.get? m := Table.get?_set ..
    refine ⟨fun m w hw => ?_, fun m w hw he => ?_, fun m w hw hnoticed => ?_, fun m _ hactive => ?_⟩
    · replace hw := (hget m).symm.trans hw
      split at hw
      next => cases hw; exact Nat.le_refl _
      next => exact h.behind m w hw
    · replace hw := (hget m).symm.trans hw
      split at hw
      next e => exact e ▸ hlast
      next => exact absurd he (Nat.ne_of_lt (unwatched m w hw))
    · replace hw := (hget m).symm.trans hw
      split at hw
      next => cases hw; cases hnoticed
      next => exact h.noticed m w hw hnoticed
    · cases hactive
      exact ⟨_, (hget n).trans (if_pos rfl), rfl, rfl⟩

namespace LifecyclePoint

variable {call : LifecycleCall}

/-- The same of a call that starts or restarts the session. -/
def Counts (last : Option Nat) (s : Session) : LifecyclePoint → Prop
  | connecting _ p => p.Counts last s
  | _ => True

def readies? : LifecyclePoint → Option Nat
  | connecting _ p => p.readies?
  | _ => none

theorem Counts.keep {p : LifecyclePoint} (h : p.Counts last s)
    (generation : s'.generation = s.generation) (unwatched : s.Unwatched → s'.Unwatched) :
    p.Counts last s' := by
  cases p with
  | connecting endpoint p => exact ConnectPoint.Counts.keep h generation unwatched
  | _ => trivial

/-- Who has just entered is not connecting yet. -/
theorem enter_ne_connecting (call : LifecycleCall) (s : Session) (endpoint : Endpoint)
    (p : ConnectPoint) : enter call s ≠ connecting endpoint p := by
  intro h
  cases call with
  | start endpoint' =>
    rw [enter] at h
    split at h
    next => cases h
    next => split at h <;> cases h
  | restart =>
    rw [enter] at h
    split at h <;> cases h
  | stop =>
    rw [enter] at h
    split at h <;> cases h

theorem counts_enter (call : LifecycleCall) (s : Session) : (enter call s).Counts last s := by
  cases h : enter call s with
  | connecting endpoint p => exact absurd h (enter_ne_connecting call s endpoint p)
  | _ => trivial

/-- **Every step of a call that has entered keeps the session watched.** -/
theorem step_watched {endpoint : Option Endpoint} {p : LifecyclePoint} (hp : p.hasEntered = true)
    (hfits : p.Fits first endpoint call s) (h : s.Watched seen last) (hc : p.Counts last s)
    (task : TaskId) (now : Nat) :
    (p.step task call now s).Leads
      (fun s' p' => s'.Watched seen (p.readies?.or last) ∧ p'.Counts (p.readies?.or last) s')
      fun s' _ => s'.Watched seen last := by
  cases p with
  | queueing => cases hp
  | entering => cases hp
  | switching graceful endpoint => exact ⟨h.of_idle rfl rfl nofun, trivial⟩
  | tearing graceful next p =>
    refine (TeardownPoint.step_watched hfits.1 h graceful (reason call) now).leads.within
      (fun _ _ hs => ⟨hs, trivial⟩) fun _ _ hs => ⟨hs, ?_⟩
    unfold afterTeardown
    split <;> trivial
  | remembering endpoint => exact ⟨h.steady ⟨rfl, rfl, rfl, rfl⟩, trivial⟩
  | bannering endpoint => exact ⟨h.steady ⟨rfl, rfl, rfl, rfl⟩, trivial⟩
  | connecting endpoint p =>
    exact (ConnectPoint.step_watched hfits.1 h hc endpoint now).within (fun _ _ hs => hs)
      fun _ _ hs => ⟨hs, trivial⟩
  | stopping => exact ⟨h.of_idle rfl rfl nofun, trivial⟩
  | leaving result => exact h.steady ⟨rfl, rfl, rfl, rfl⟩

end LifecyclePoint

/-! ## The state -/

/-- The state that the session has after this step, whatever has become of any line. -/
def ConnectPoint.sets? : ConnectPoint → Option SessionState
  | beginning => some .connecting
  | failing _ => some .failed
  | announcing _ _ => some .ready
  | _ => none

def LifecyclePoint.sets? : LifecyclePoint → Option SessionState
  | switching _ _ => some .restarting
  | connecting _ p => p.sets?
  | stopping => some .stopped
  | _ => none

theorem TeardownPoint.step_state (graceful : Bool) (reason : String) (now : Nat) (s : Session)
    (p : TeardownPoint) : (p.step graceful reason now s).All fun s' => s'.state = s.state := by
  cases p with
  | taking =>
    rw [step]
    split <;> exact rfl
  | unwatching n => exact rfl
  | shutting n p =>
    rw [step, Progress.all_within]
    exact (s.onLine_steady n _).mono fun _ hs => hs.state
  | closing n p =>
    rw [step, Progress.all_within]
    exact (s.onLine_steady n _).mono fun _ hs => hs.state
  | waitingExit n deadline =>
    rw [step]
    split <;> trivial
  | killing n => exact rfl

theorem ConnectPoint.step_state (endpoint : Endpoint) (now : Nat) (s : Session) (p : ConnectPoint) :
    (p.step endpoint now s).All fun s' => s'.state = p.sets?.getD s.state := by
  cases p with
  | opening =>
    rw [step]
    split <;> trivial
  | initializing n p =>
    rw [step, Progress.all_within]
    exact (s.onLine_steady n _).mono fun _ hs => hs.state
  | abandoning n e p =>
    rw [step, Progress.all_within]
    exact (s.onLine_steady n _).mono fun _ hs => hs.state
  | _ => exact rfl

/-- **How far a call has come decides what it does to the state.** -/
theorem LifecyclePoint.step_state (task : TaskId) (call : LifecycleCall) (now : Nat) (s : Session)
    (p : LifecyclePoint) : (p.step task call now s).All fun s' => s'.state = p.sets?.getD s.state := by
  cases p with
  | entering =>
    rw [step]
    split <;> trivial
  | tearing graceful next p =>
    rw [step, Progress.all_within]
    exact p.step_state graceful (reason call) now s
  | connecting endpoint p =>
    rw [step, Progress.all_within]
    exact p.step_state endpoint now s
  | _ => exact rfl

end

end LanguageClient
