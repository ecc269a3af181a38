import LanguageClient.Proofs.Client.Traffic
import LanguageClient.Proofs.Session.Lifecycle

/-!
# Starting and stopping among everything else

A workbench may have any number of calls that start, restart or stop its session, among calls of
every other kind.  `Workbench.lifecycle?` says how far such a call has come.

* `Call.step_touches`, `Call.step_lifecycle` — the step of a call touches one connection at most, or it
  is the step of such a call on the session.
* **`happen?_shift`** — so is whatever happens.
* `Workbench.Orderly` is the invariant: only the holder of the lock has entered, and it is at a point
  that fits; while nobody has entered, the session is settled.
* **`orderly_after?`** — every history keeps it, with `latestStart?` for the latest start.
-/

namespace LanguageClient

open Session

/-! ## Calls -/

/-- How far a call has come that starts, restarts or stops the session. -/
def Call.lifecycle? : Call → Option (LifecycleCall × LifecyclePoint)
  | lifecycle call p => some (call, p)
  | startUp (.starting endpoint p) => some (.start endpoint, p)
  | restart p => some (.restart, p)
  | _ => none

/-- The call does not start, restart or stop the session, or it is at the beginning of it. -/
def Call.IsAside (call : Call) : Prop := ∀ c p, call.lifecycle? = some (c, p) → p = .queueing

theorem Call.isAside_of_none {call : Call} (h : call.lifecycle? = none) : call.IsAside := by
  intro c p he
  rw [h] at he
  cases he

/-- A call at its beginning has not joined the queue for the lock. -/
theorem Call.isAside_of_isNew {call : Call} (h : call.isNew = true) : call.IsAside := by
  intro c p he
  cases call with
  | lifecycle call p =>
    cases he
    cases p <;> first | rfl | cases h
  | startUp p =>
    cases p with
    | finding => cases he
    | starting endpoint p => cases h
  | restart p =>
    cases he
    cases p <;> first | rfl | cases h
  | _ => cases he

theorem Client.onSession_touches {π α : Type} {c : Client} {p : Progress Session π α}
    (h : p.All c.session.Touches) : (c.onSession p).All fun c' => c.session.Touches c'.session := by
  rw [Client.onSession, Progress.all_onState]
  exact h

theorem ActionPoint.step_touches (task : TaskId) (kind : ActionKind) (c : Client) (p : ActionPoint) :
    (p.step task kind c).All fun c' => c.session.Touches c'.session := by
  cases p with
  | picking => rw [step]; split <;> exact .nothing
  | saving editor => rw [step]; split <;> exact .nothing
  | writing editor path text => rw [step]; split <;> exact .nothing
  | saved editor => exact .nothing
  | reading editor => exact .nothing
  | syncing editor text p =>
    have h := Client.onSession_touches (p.step_touches .beginning c.session fun p x =>
      (p.step_calm task editor.uri text x).mono fun _ h => h.keeps)
    rw [step]
    split
    next => trivial
    next he => rw [he] at h; exact h
    next he => rw [he] at h; exact h
    next he => rw [he] at h; exact h
  | querying editor => exact .nothing
  | asking editor q p =>
    have h := Client.onSession_touches (p.step_touches .beginning c.session fun p x =>
      p.step_keeps q c.now x)
    rw [step]
    split
    next => trivial
    next he => rw [he] at h; exact h
    next he =>
      rw [he] at h
      split <;> exact h
  | routing editor outcome =>
    show c.session.Touches (c.route editor outcome).session
    rw [Client.session_route]
    exact .nothing

theorem RunPoint.step_touches (task : TaskId) (kind : ActionKind) (reporting : Bool) (c : Client)
    (p : RunPoint) : (p.step task kind reporting c).All fun c' => c.session.Touches c'.session := by
  cases p with
  | flushing => exact .nothing
  | waiting =>
    rw [step]
    split
    next => exact .nothing
    next => trivial
  | acting p =>
    have h := p.step_touches task kind c
    rw [step]
    split
    next => trivial
    next he => rw [he] at h; exact h
    next c' r he =>
      rw [he] at h
      cases reporting with
      | true => exact h
      | false => cases r <;> exact h
  | flushingAfter r => exact .nothing
  | waitingAfter r =>
    rw [step]
    split
    next => exact .nothing
    next => trivial

/-- A call that consists of a part which touches one connection at most. -/
theorem Call.last_touches {π α : Type} {c : Client} {p : Progress Client π α}
    (hp : p.All fun c' => c.session.Touches c'.session) (wrap : π → Call)
    (hw : ∀ x, (wrap x).lifecycle? = none) (result : α → CallResult) :
    (p.last wrap result).Leads (fun c' call' => c.session.Touches c'.session ∧ call'.IsAside)
      fun c' _ => c.session.Touches c'.session := by
  cases p with
  | waits => trivial
  | goesOn c' x => exact ⟨hp, isAside_of_none (hw x)⟩
  | ends c' a => exact hp

/-- **The step of any other call touches one connection at most**, or is the beginning of a start. -/
theorem Call.step_touches (task : TaskId) (c : Client) {call : Call} (h : call.lifecycle? = none) :
    (call.step task c).Leads (fun c' call' => c.session.Touches c'.session ∧ call'.IsAside)
      fun c' _ => c.session.Touches c'.session := by
  cases call with
  | lifecycle call p => cases h
  | request q p =>
    exact last_touches (Client.onSession_touches (p.step_touches .beginning c.session fun p x =>
      p.step_keeps q c.now x)) (request q) (fun _ => rfl) _
  | notify m p =>
    refine last_touches (Client.onSession_touches (p.step_touches () c.session fun _ x => ?_)) (notify m)
      (fun _ => rfl) _
    exact (x.calm_tryWrite m).keeps
  | sync uri text p =>
    exact last_touches (Client.onSession_touches (p.step_touches .beginning c.session fun p x =>
      (p.step_calm task uri text x).mono fun _ h => h.keeps)) (sync uri text) (fun _ => rfl) _
  | closeDocument uri p =>
    exact last_touches (Client.onSession_touches (p.step_touches .beginning c.session fun p x =>
      (p.step_calm task uri x).mono fun _ h => h.keeps)) (closeDocument uri) (fun _ => rfl) _
  | handshake n q p =>
    exact last_touches (Client.onSession_touches (c.session.onLine_touches n fun x => p.step_keeps q c.now x))
      (handshake n q) (fun _ => rfl) _
  | shutdown n q p =>
    exact last_touches (Client.onSession_touches (c.session.onLine_touches n fun x => p.step_keeps q c.now x))
      (shutdown n q) (fun _ => rfl) _
  | close n reason p =>
    exact last_touches (Client.onSession_touches (c.session.onLine_touches n fun x => p.step_keeps reason x))
      (close n reason) (fun _ => rfl) _
  | run kind reporting p => exact last_touches (p.step_touches task kind reporting c) (run kind reporting) (fun _ => rfl) _
  | startUp p =>
    cases p with
    | finding =>
      rw [step]
      split
      next e _ =>
        show c.session.Touches (c.announce e).session
        unfold Client.announce
        split <;> exact .nothing
      next endpoint _ =>
        refine ⟨.nothing, fun call p he => ?_⟩
        cases he
        rfl
    | starting endpoint p => cases h
  | restart p => cases h
  | openFile path p =>
    cases p with
    | opening =>
      rw [step]
      split
      next => exact .nothing
      next => exact ⟨.nothing, isAside_of_none rfl⟩
    | showing uri => rw [step]; split <;> exact .nothing

/-- The step of a call that starts, restarts or stops is one on the session. -/
theorem Call.step_lifecycle (task : TaskId) (c : Client) {call : Call} {lc : LifecycleCall}
    {p : LifecyclePoint} (h : call.lifecycle? = some (lc, p)) :
    (call.step task c).Leads
      (fun c' call' => ∃ p', call'.lifecycle? = some (lc, p') ∧
        p.step task lc c.now c.session = .goesOn c'.session p')
      fun c' _ => ∃ r, p.step task lc c.now c.session = .ends c'.session r := by
  cases call with
  | lifecycle lc' p' =>
    cases h
    rw [step]
    cases hs : p.step task lc c.now c.session with
    | waits => trivial
    | goesOn s' p' => exact ⟨p', rfl, rfl⟩
    | ends s' r => exact ⟨r, rfl⟩
  | startUp q =>
    cases q with
    | finding => cases h
    | starting endpoint p' =>
      cases h
      rw [step]
      cases hs : p.step task (.start endpoint) c.now c.session with
      | waits => trivial
      | goesOn s' p' => exact ⟨p', rfl, rfl⟩
      | ends s' r => exact ⟨r, rfl⟩
  | restart p' =>
    cases h
    rw [step]
    cases hs : p.step task .restart c.now c.session with
    | waits => trivial
    | goesOn s' p' => exact ⟨p', rfl, rfl⟩
    | ends s' r => cases r <;> exact ⟨_, rfl⟩
  | _ => cases h

namespace Workbench

/-! ## Workbenches -/

/-- How far a call has come that starts, restarts or stops the session. -/
def lifecycle? (w : Workbench) (task : TaskId) : Option (LifecycleCall × LifecyclePoint) :=
  (w.calls.get? task).bind Call.lifecycle?

/-- The same of a call that has got the lock and looked at the session. -/
def entered? (w : Workbench) (task : TaskId) : Option (LifecycleCall × LifecyclePoint) :=
  (w.lifecycle? task).filter (·.2.hasEntered)

theorem entered?_eq_some {w : Workbench} {task : TaskId} {call : LifecycleCall} {p : LifecyclePoint} :
    w.entered? task = some (call, p) ↔ w.lifecycle? task = some (call, p) ∧ p.hasEntered = true := by
  rw [entered?, Option.filter_eq_some_iff]

theorem entered?_congr {w w' : Workbench} {task : TaskId}
    (h : w'.lifecycle? task = w.lifecycle? task) : w'.entered? task = w.entered? task := by
  rw [entered?, h, entered?]

/-- A call has not entered that has not even joined the queue for the lock. -/
theorem entered?_of_isAside {w : Workbench} {task : TaskId}
    (h : ∀ call, w.calls.get? task = some call → call.IsAside) : w.entered? task = none := by
  cases he : w.entered? task with
  | none => rfl
  | some x =>
    obtain ⟨hl, hp⟩ := entered?_eq_some.1 he
    obtain ⟨call, hcall, hl⟩ := Option.bind_eq_some_iff.1 hl
    rw [h call hcall _ _ hl] at hp
    cases hp

/-- The endpoint of a start that enters with this, unless it finds the session ready. -/
def starts? (w : Workbench) : Happening → Option Endpoint
  | .goesOn (.call task) =>
    match w.lifecycle? task with
    | some (.start endpoint, .entering) =>
      if w.client.session.lock.heldBy task ∧ w.client.session.state ≠ .ready then some endpoint
      else none
    | _ => none
  | _ => none

/-- The endpoints of all starts in a history that did not find the session ready, in their order. -/
def starts (w : Workbench) (hs : List Happening) : List Endpoint := w.record starts? hs

/-- What a happening is to the calls that start, restart and stop the session. -/
inductive Shift (w w' : Workbench) : Happening → Prop
  /-- Nothing, whatever goes on beside. -/
  | drifts {g : Happening} (drifts : w.client.session.Drifts w'.client.session)
      (calls : ∀ task, w'.entered? task = w.entered? task) (starts : w.starts? g = none)
      (aside : ∀ task, g = .goesOn (.call task) → w.entered? task = none)
      (watches : w.client.session.Steady w'.client.session ∨
        ∃ n, g = .goesOn (.watch n) ∧ w.client.session.watch? n = some w'.client.session) :
      Shift w w' g
  /-- A call that has got the lock looks at the session. -/
  | enters {task : TaskId} {call : LifecycleCall}
      (hp : w.lifecycle? task = some (call, .entering))
      (lock : w.client.session.lock.holder? = some task)
      (session : w'.client.session = w.client.session)
      (hp' : w'.lifecycle? task = some (call, .enter call w.client.session))
      (others : ∀ other, other ≠ task → w'.entered? other = w.entered? other) :
      Shift w w' (.goesOn (.call task))
  | goesOn {task : TaskId} {call : LifecycleCall} {p p' : LifecyclePoint}
      (hp : w.entered? task = some (call, p))
      (h : p.step task call w.client.now w.client.session = .goesOn w'.client.session p')
      (hp' : w'.lifecycle? task = some (call, p'))
      (others : ∀ other, other ≠ task → w'.entered? other = w.entered? other) :
      Shift w w' (.goesOn (.call task))
  | ends {task : TaskId} {call : LifecycleCall} {p : LifecyclePoint} {r : Except Failure Unit}
      (hp : w.entered? task = some (call, p))
      (h : p.step task call w.client.now w.client.session = .ends w'.client.session r)
      (hp' : w'.entered? task = none)
      (others : ∀ other, other ≠ task → w'.entered? other = w.entered? other) :
      Shift w w' (.goesOn (.call task))

theorem starts?_of_lifecycle {w : Workbench} {task : TaskId}
    (h : ∀ call, w.lifecycle? task ≠ some (call, .entering)) :
    w.starts? (.goesOn (.call task)) = none := by
  rw [starts?]
  split
  next he => exact absurd he (h _)
  next => rfl

theorem starts?_of_entered {w : Workbench} {task : TaskId} {call : LifecycleCall}
    {p : LifecyclePoint} (h : w.entered? task = some (call, p)) :
    w.starts? (.goesOn (.call task)) = none := by
  obtain ⟨hp, hentered⟩ := entered?_eq_some.1 h
  refine starts?_of_lifecycle fun c he => ?_
  rw [hp] at he
  cases he
  cases hentered

/-- Who enters is the latest to start, if it is a start and the session is not ready. -/
theorem starts?_or_of_entering {w : Workbench} {task : TaskId} {call : LifecycleCall}
    (hp : w.lifecycle? task = some (call, .entering))
    (lock : w.client.session.lock.holder? = some task) (last : Option Endpoint) :
    (w.starts? (.goesOn (.call task))).or last = call.latest last w.client.session := by
  rw [starts?, hp]
  cases call with
  | start endpoint =>
    have hheld : w.client.session.lock.heldBy task = true := by simp [Lock.heldBy, lock]
    simp only [LifecycleCall.latest, hheld, true_and, ne_eq, ite_not]
    split <;> rfl
  | restart => rfl
  | stop => rfl

/-- What is known of the step of a call is known of the workbench after it. -/
theorem act?_call_leads {w w' : Workbench} {task : TaskId} {call : Call}
    {P : Client → Call → Prop} {Q : Client → CallResult → Prop}
    (h : w.act? (.call task) = some w') (hcall : w.calls.get? task = some call)
    (hs : (call.step task w.client).Leads P Q) :
    (∃ call', w'.calls.get? task = some call' ∧ P w'.client call') ∨
      (w'.calls.get? task = none ∧ ∃ r, Q w'.client r) := by
  obtain ⟨call₁, hcall₁, h⟩ := act?_call h
  obtain rfl : call = call₁ := Option.some.inj (hcall.symm.trans hcall₁)
  rcases h with ⟨client, call', he, rfl⟩ | ⟨client, r, he, rfl⟩
  · rw [he] at hs
    exact .inl ⟨call', by rw [Table.get?_set, if_pos rfl], hs⟩
  · rw [he] at hs
    exact .inr ⟨by rw [Table.get?_erase, if_pos rfl], r, hs⟩

/-- A step of a call leaves the other calls where they are. -/
theorem act?_call_others {w w' : Workbench} {task other : TaskId} (h : w.act? (.call task) = some w')
    (hne : other ≠ task) : w'.calls.get? other = w.calls.get? other := by
  obtain ⟨_, _, ⟨_, _, _, rfl⟩ | ⟨_, _, _, rfl⟩⟩ := act?_call h
  · rw [Table.get?_set, if_neg (Ne.symm hne)]
  · rw [Table.get?_erase, if_neg (Ne.symm hne)]

/-- A call is as it was after what others do. -/
theorem get?_of_other {w w' : Workbench} (hw : w.Sound) {g : Happening} (h : w.happen? g = some w')
    {task : TaskId} (hg : g ≠ .goesOn (.call task)) {call : Call}
    (hcall : w.calls.get? task = some call) : w'.calls.get? task = some call := by
  rcases happen?_cases h with ⟨other, rfl⟩ | ⟨c, rfl, _, rfl⟩ | ⟨hcalls, _⟩
  · exact (act?_call_others h fun e => hg (e ▸ rfl)).trans hcall
  · rcases hw.get?_add c task with ⟨hnone, _⟩ | hsame
    · rw [hnone] at hcall
      cases hcall
    · exact hsame.trans hcall
  · rw [hcalls]
    exact hcall

/-- Numbers are given out in ascending order. -/
theorem happen?_latestTask {w w' : Workbench} {g : Happening} (h : w.happen? g = some w') :
    w.latestTask ≤ w'.latestTask := by
  rcases happen?_cases h with ⟨task, rfl⟩ | ⟨c, rfl, -, rfl⟩ | ⟨-, -, hlatest, -⟩
  · obtain ⟨_, _, ⟨_, _, _, rfl⟩ | ⟨_, _, _, rfl⟩⟩ := act?_call h <;> exact Nat.le_refl _
  · exact Nat.le_succ _
  · exact Nat.le_of_eq hlatest.symm

/-- A call stays where it is unless it takes a step itself, for its number is not given out twice. -/
theorem happen?_others {w w' : Workbench} {g : Happening} (h : w.happen? g = some w') {task : TaskId}
    (hne : g ≠ .goesOn (.call task)) (hle : task.number ≤ w.latestTask) :
    w'.calls.get? task = w.calls.get? task := by
  rcases happen?_cases h with ⟨other, rfl⟩ | ⟨c, rfl, -, rfl⟩ | ⟨hcalls, -⟩
  · exact act?_call_others h fun e => hne (by rw [e])
  · have hold : (⟨w.latestTask + 1⟩ : TaskId) ≠ task := by
      rintro rfl
      exact Nat.not_succ_le_self _ hle
    exact (Table.get?_set ..).trans (if_neg hold)
  · rw [hcalls]

/-- A step of a call of another kind. -/
theorem shift_aside {w w' : Workbench} {task : TaskId} {call : Call}
    (h : w.act? (.call task) = some w') (hcall : w.calls.get? task = some call)
    (hnone : call.lifecycle? = none)
    (others : ∀ other, other ≠ task → w'.entered? other = w.entered? other) :
    w.Shift w' (.goesOn (.call task)) := by
  have hstart : w.starts? (.goesOn (.call task)) = none := starts?_of_lifecycle fun c he => by
    rw [lifecycle?, hcall, Option.bind_some, hnone] at he
    cases he
  have hbefore : w.entered? task = none := entered?_of_isAside fun call' hcall' => by
    rw [hcall] at hcall'
    cases hcall'
    exact Call.isAside_of_none hnone
  have haside (other : TaskId)
      (he : Happening.goesOn (.call task) = .goesOn (.call other)) : w.entered? other = none := by
    cases he
    exact hbefore
  rcases act?_call_leads h hcall (call.step_touches task w.client hnone) with
    ⟨call', hcall', htouches, hcalled⟩ | ⟨hcall', r, htouches⟩
  · have hafter : w'.entered? task = none := entered?_of_isAside fun call'' hcall'' => by
      rw [hcall'] at hcall''
      cases hcall''
      exact hcalled
    refine .drifts htouches.drifts (fun other => ?_) hstart haside (.inl htouches.steady)
    by_cases e : other = task
    · rw [e, hbefore, hafter]
    · exact others other e
  · have hafter : w'.entered? task = none := entered?_of_isAside fun call'' hcall'' => by
      rw [hcall'] at hcall''
      cases hcall''
    refine .drifts htouches.drifts (fun other => ?_) hstart haside (.inl htouches.steady)
    by_cases e : other = task
    · rw [e, hbefore, hafter]
    · exact others other e

/-- A call that waits for its turn joins the queue, or looks at the session. -/
theorem shift_waiting {w w' : Workbench} {task : TaskId} {call : LifecycleCall}
    {p p' : LifecyclePoint} (hp : w.lifecycle? task = some (call, p)) (hentered : p.hasEntered = false)
    (h : p.step task call w.client.now w.client.session = .goesOn w'.client.session p')
    (hp' : w'.lifecycle? task = some (call, p'))
    (others : ∀ other, other ≠ task → w'.entered? other = w.entered? other) :
    w.Shift w' (.goesOn (.call task)) := by
  cases p with
  | queueing =>
    have hs : w'.client.session =
        { w.client.session with lock := w.client.session.lock.join task } :=
      (Progress.goesOn.inj h).1.symm
    obtain rfl : LifecyclePoint.entering = p' := (Progress.goesOn.inj h).2
    have hbefore : w.entered? task = none := by
      rw [entered?, hp]
      rfl
    refine .drifts (hs ▸ .joins _ task) (fun other => ?_) (starts?_of_lifecycle fun c he => ?_)
      (fun other he => ?_) (.inl (hs ▸ ⟨rfl, rfl, rfl, rfl⟩))
    · by_cases e : other = task
      · rw [e, hbefore, entered?, hp']
        rfl
      · exact others other e
    · rw [hp] at he
      cases he
    · cases he
      exact hbefore
  | entering =>
    rw [LifecyclePoint.step] at h
    split at h
    next hlock =>
      have hs : w'.client.session = w.client.session := (Progress.goesOn.inj h).1.symm
      obtain rfl := (Progress.goesOn.inj h).2
      exact .enters hp (by simpa [Lock.heldBy] using hlock) hs hp' others
    next => cases h
  | _ => cases hentered

/-- A step of a call. -/
theorem shift_call {w w' : Workbench} {task : TaskId} (h : w.act? (.call task) = some w') :
    w.Shift w' (.goesOn (.call task)) := by
  obtain ⟨call, hcall, _⟩ := act?_call h
  have others (other : TaskId) (hne : other ≠ task) : w'.entered? other = w.entered? other :=
    entered?_congr (by rw [lifecycle?, act?_call_others h hne]; rfl)
  cases hc : call.lifecycle? with
  | none => exact shift_aside h hcall hc others
  | some x =>
    obtain ⟨lc, p⟩ := x
    have hp : w.lifecycle? task = some (lc, p) := by rw [lifecycle?, hcall, Option.bind_some, hc]
    rcases act?_call_leads h hcall (call.step_lifecycle task w.client hc) with
      ⟨call', hcall', p', hc', hstep⟩ | ⟨hcall', _, r, hstep⟩
    · have hp' : w'.lifecycle? task = some (lc, p') := by
        rw [lifecycle?, hcall', Option.bind_some, hc']
      by_cases hentered : p.hasEntered = true
      · exact .goesOn (entered?_eq_some.2 ⟨hp, hentered⟩) hstep hp' others
      · exact shift_waiting hp (by simpa using hentered) hstep hp' others
    · have hp' : w'.entered? task = none := by rw [entered?, lifecycle?, hcall']; rfl
      have hentered : p.hasEntered = true := by
        rw [LifecyclePoint.eq_leaving_of_ends hstep]
        rfl
      exact .ends (entered?_eq_some.2 ⟨hp, hentered⟩) hstep hp' others

/-- What an activity does that is neither a call nor a watch, and opens nothing. -/
theorem act?_touches {w w' : Workbench} {a : Activity} (h : w.act? a = some w')
    (hcall : ∀ task, a ≠ .call task) (hwatch : ∀ n, a ≠ .watch n) (hopener : a ≠ .opener) :
    w.client.session.Touches w'.client.session := by
  cases a with
  | call task => exact absurd rfl (hcall task)
  | watch n => exact absurd rfl (hwatch n)
  | opener => exact absurd rfl hopener
  | reader n =>
    obtain ⟨c, hc, rfl⟩ := Option.map_eq_some_iff.1 h
    obtain ⟨x, hx, rfl⟩ := Option.map_eq_some_iff.1 hc
    rw [Client.session_absorbAll]
    exact read?_touches hx
  | lateReader n =>
    obtain ⟨c, hc, rfl⟩ := Option.map_eq_some_iff.1 h
    obtain ⟨x, hx, rfl⟩ := Option.map_eq_some_iff.1 hc
    rw [Client.session_absorbAll]
    exact readOn?_touches hx
  | payer n =>
    obtain ⟨s, hs, rfl⟩ := Option.map_eq_some_iff.1 h
    exact pay?_touches hs
  | leaver n =>
    obtain ⟨c, hc, rfl⟩ := Option.map_eq_some_iff.1 h
    obtain ⟨l, hl, hc⟩ := Option.bind_eq_some_iff.1 hc
    refine .connection (c := c) hl ?_
    unfold Connection.leave? at hc
    split at hc
    next => cases hc; exact ⟨id, id, id⟩
    next => cases hc
  | dispatcher =>
    obtain ⟨c, hc, rfl⟩ := Option.map_eq_some_iff.1 h
    show w.client.session.Touches c.session
    rw [Client.session_dispatch? hc]
    exact .nothing

/-- What an activity does that is no call. -/
theorem act?_drifts {w w' : Workbench} {a : Activity} (h : w.act? a = some w')
    (ha : ∀ task, a ≠ .call task) : w.client.session.Drifts w'.client.session := by
  cases a with
  | watch n =>
    obtain ⟨s, hs, rfl⟩ := Option.map_eq_some_iff.1 h
    exact watch?_drifts hs
  | opener =>
    obtain ⟨o, e, _, he, rfl⟩ := act?_opener h
    exact .answered (Option.isSome_iff_exists.2 ⟨e, he⟩) _
  | _ => exact (act?_touches h ha (fun _ => nofun) nofun).drifts

/-- What comes from outside. -/
theorem happen?_drifts {w w' : Workbench} {g : Happening} (h : w.happen? g = some w')
    (hg : ∀ task, g ≠ .goesOn (.call task)) : w.client.session.Drifts w'.client.session := by
  cases g with
  | goesOn a => exact act?_drifts h fun task e => hg task (congrArg _ e)
  | calls c =>
    obtain ⟨_, rfl⟩ := happen?_calls.1 h
    exact .refl _
  | passes ms => cases h; exact .refl _
  | opens link peer process =>
    obtain ⟨hw, rfl⟩ := answer?_eq_some.1 h
    exact .answered hw _
  | refuses e =>
    obtain ⟨hw, rfl⟩ := answer?_eq_some.1 h
    exact .answered hw _
  | streams n f => cases h; exact .modifyLine _ n fun l _ => ⟨⟨id, id, id⟩, id⟩
  | exits n e => cases h; exact .modifyLine _ n fun l _ => ⟨.refl _, fun _ => l.hasExited_exit e⟩
  | handles handlers => cases h; exact .of_lines rfl rfl rfl rfl rfl rfl rfl rfl
  | edits f => cases h; exact .refl _

/-- But for the calls only a watch changes how things are with the session. -/
theorem happen?_steady {w w' : Workbench} {g : Happening} (h : w.happen? g = some w')
    (hg : ∀ task, g ≠ .goesOn (.call task)) :
    w.client.session.Steady w'.client.session ∨
      ∃ n, g = .goesOn (.watch n) ∧ w.client.session.watch? n = some w'.client.session := by
  cases g with
  | goesOn a =>
    by_cases hwatch : ∃ n, a = .watch n
    · obtain ⟨n, rfl⟩ := hwatch
      obtain ⟨s, hs, rfl⟩ := Option.map_eq_some_iff.1 h
      exact .inr ⟨n, rfl, hs⟩
    by_cases hopener : a = .opener
    · subst hopener
      obtain ⟨_, _, _, _, rfl⟩ := act?_opener h
      exact .inl ⟨rfl, rfl, rfl, rfl⟩
    · exact .inl (act?_touches h (fun task e => hg task (congrArg _ e))
        (fun n e => hwatch ⟨n, e⟩) hopener).steady
  | calls c =>
    obtain ⟨_, rfl⟩ := happen?_calls.1 h
    exact .inl (.refl _)
  | opens link peer process =>
    obtain ⟨_, rfl⟩ := answer?_eq_some.1 h
    exact .inl ⟨rfl, rfl, rfl, rfl⟩
  | refuses e =>
    obtain ⟨_, rfl⟩ := answer?_eq_some.1 h
    exact .inl ⟨rfl, rfl, rfl, rfl⟩
  | _ => cases h; exact .inl ⟨rfl, rfl, rfl, rfl⟩

/-- A new call has not entered, and no other is touched by it. -/
theorem entered?_add {w : Workbench} (hw : w.Sound) {c : Call} (hc : c.isNew = true) (task : TaskId) :
    (w.add c).2.entered? task = w.entered? task := by
  rcases hw.get?_add c task with ⟨hnone, hnew⟩ | hsame
  · have hbefore : w.entered? task = none := entered?_of_isAside fun call hcall => by
      rw [hnone] at hcall
      cases hcall
    rw [hbefore]
    refine entered?_of_isAside fun call hcall => ?_
    rw [hnew] at hcall
    cases hcall
    exact Call.isAside_of_isNew hc
  · exact entered?_congr (by rw [lifecycle?, hsame]; rfl)

/-- **Whatever happens is a drift, or a step of a call that starts, restarts or stops.** -/
theorem happen?_shift {w w' : Workbench} (hw : w.Sound) {g : Happening}
    (h : w.happen? g = some w') : w.Shift w' g := by
  rcases happen?_cases h with ⟨task, rfl⟩ | ⟨c, rfl, hc, rfl⟩ | ⟨hcalls, -, -, -⟩
  · exact shift_call h
  · exact .drifts (.refl _) (entered?_add hw hc) rfl (fun _ => nofun) (.inl (.refl _))
  · by_cases hg : ∃ task, g = .goesOn (.call task)
    · obtain ⟨task, rfl⟩ := hg
      exact shift_call h
    have hg' (task : TaskId) (e : g = .goesOn (.call task)) : False := hg ⟨task, e⟩
    refine .drifts (happen?_drifts h hg') (fun task => ?_) ?_ (fun task e => (hg' task e).elim)
      (happen?_steady h hg')
    · exact entered?_congr (by rw [lifecycle?, hcalls]; rfl)
    · unfold starts?
      split
      next task => exact absurd rfl (hg' task)
      next => rfl

/-! ## The invariant -/

/-- Only the holder of the lock has entered, and it is where it fits; while nobody has entered, the
session is settled. -/
structure Orderly (first : Nat) (last : Option Endpoint) (w : Workbench) : Prop where
  holds : ∀ task call p, w.entered? task = some (call, p) →
    w.client.session.lock.holder? = some task ∧ p.Fits first last call w.client.session
  settled : (∀ task, w.entered? task = none) → w.client.session.Settled first last

theorem IsFresh.orderly {w : Workbench} (h : w.IsFresh) :
    w.Orderly w.client.session.lines.length none where
  holds task call p he := by
    rw [entered?, lifecycle?, h.calls] at he
    cases he
  settled _ := by
    refine ⟨by rw [h.state]; rfl, fun hs => ?_, fun _ => h.active, fun n hn => ?_, fun n l hn _ hl => ?_,
      h.wanted, h.offer, h.remembered, fun hs => ?_⟩
    · rw [h.state] at hs; cases hs
    · rw [h.active] at hn; cases hn
    · exact absurd (List.getElem?_eq_some_iff.1 hl).1 (Nat.not_lt.2 hn)
    · rw [h.state] at hs; cases hs

namespace Orderly

variable {first : Nat} {last : Option Endpoint} {w w' : Workbench}

/-- Nobody else has entered while one call holds the lock. -/
theorem others (hw : w.Orderly first last) {task other : TaskId}
    (h : w.client.session.lock.holder? = some task) (hne : other ≠ task) : w.entered? other = none := by
  cases he : w.entered? other with
  | none => rfl
  | some x =>
    have hother := (hw.holds other x.1 x.2 he).1
    exact absurd (Option.some.inj (hother.symm.trans h)) hne

/-- While the holder of the lock is about to enter, the session is settled. -/
theorem settled_of_entering (hw : w.Orderly first last) {task : TaskId} {call : LifecycleCall}
    (h : w.client.session.lock.holder? = some task) (hp : w.lifecycle? task = some (call, .entering)) :
    w.client.session.Settled first last := by
  refine hw.settled fun other => ?_
  by_cases e : other = task
  · rw [e, entered?, hp]
    rfl
  · exact hw.others h e

/-- While the lock is free, the session is settled. -/
theorem settled_of_free (hw : w.Orderly first last) (h : w.client.session.lock.isFree = true) :
    w.client.session.Settled first last := by
  refine hw.settled fun task => ?_
  cases he : w.entered? task with
  | none => rfl
  | some x =>
    have hholder := (hw.holds task x.1 x.2 he).1
    rw [Lock.holder?, List.isEmpty_iff.1 h] at hholder
    cases hholder

/-- What has been entered by one call only is orderly if that call is where it fits. -/
theorem of_only {task : TaskId} {call : LifecycleCall} {p : LifecyclePoint}
    (hp : w.lifecycle? task = some (call, p)) (hentered : p.hasEntered = true)
    (others : ∀ other, other ≠ task → w.entered? other = none)
    (hlock : w.client.session.lock.holder? = some task)
    (hfits : p.Fits first last call w.client.session) : w.Orderly first last where
  holds other call' p' he := by
    by_cases e : other = task
    · subst e
      rw [entered?_eq_some.2 ⟨hp, hentered⟩] at he
      cases he
      exact ⟨hlock, hfits⟩
    · rw [others other e] at he
      cases he
  settled h := by
    have hnone := h task
    rw [entered?_eq_some.2 ⟨hp, hentered⟩] at hnone
    cases hnone

/-- **Every happening keeps the session orderly.** -/
theorem shift (hw : w.Orderly first last) {g : Happening} (h : w.Shift w' g) :
    w'.Orderly first ((w.starts? g).or last) := by
  cases h with
  | drifts drifts calls starts =>
    rw [starts, Option.none_or]
    refine ⟨fun task call p he => ?_, fun hnone => drifts.settled (hw.settled fun task => ?_)⟩
    · obtain ⟨hlock, hfits⟩ := hw.holds task call p (calls task ▸ he)
      exact ⟨drifts.holder? hlock, LifecyclePoint.Fits.drift drifts hfits⟩
    · rw [← calls task]
      exact hnone task
  | @enters task call hp lock session hp' others =>
    have settled := hw.settled_of_entering lock hp
    obtain ⟨hentered, hfits⟩ := LifecyclePoint.enter_fits settled call
    rw [starts?_or_of_entering hp lock]
    refine of_only hp' hentered (fun other hne => ?_) (session ▸ lock) (session ▸ hfits)
    rw [others other hne]
    exact hw.others lock hne
  | @goesOn task call p p' hp h hp' others =>
    obtain ⟨hlock, hfits⟩ := hw.holds task call p hp
    obtain ⟨hlife, hentered⟩ := entered?_eq_some.1 hp
    have step := LifecyclePoint.step_fits hentered hfits task w.client.now
    rw [h] at step
    obtain ⟨hentered', hfits', hlock'⟩ := step
    rw [starts?_of_entered hp, Option.none_or]
    refine of_only hp' hentered' (fun other hne => ?_) (by rw [hlock']; exact hlock) hfits'
    rw [others other hne]
    exact hw.others hlock hne
  | @ends task call p r hp h hp' others =>
    obtain ⟨hlock, hfits⟩ := hw.holds task call p hp
    obtain ⟨hlife, hentered⟩ := entered?_eq_some.1 hp
    have step := LifecyclePoint.step_fits hentered hfits task w.client.now
    rw [h] at step
    -- Whoever holds the lock next has not entered yet.
    have hnone (other : TaskId) : w'.entered? other = none := by
      by_cases e : other = task
      · rw [e]; exact hp'
      · rw [others other e]; exact hw.others hlock e
    rw [starts?_of_entered hp, Option.none_or]
    refine ⟨fun other call' p' he => ?_, fun _ => step.1⟩
    rw [hnone other] at he
    cases he

end Orderly

/-- The endpoint of the latest start in a history that did not find the session ready. -/
def latestStart? (w : Workbench) (hs : List Happening) : Option Endpoint := (w.starts hs).getLast?

theorem latestStart?_concat {w w' : Workbench} {hs : List Happening} (h : w.after? hs = some w')
    (g : Happening) : w.latestStart? (hs ++ [g]) = (w'.starts? g).or (w.latestStart? hs) := by
  rw [latestStart?, starts, record_concat _ h, List.getLast?_append]
  cases w'.starts? g <;> rfl

/-- **Every history keeps the session orderly.** -/
theorem orderly_after? {w₀ w : Workbench} {hs : List Happening} (h₀ : w₀.IsFresh)
    (h : w₀.after? hs = some w) :
    w.Orderly w₀.client.session.lines.length (w₀.latestStart? hs) :=
  after?_induction
    (P := fun hs w => w.Orderly w₀.client.session.lines.length (w₀.latestStart? hs)) h₀.orderly
    (fun hs g w w' hw ho hstep => by
      rw [latestStart?_concat hw]
      exact ho.shift (happen?_shift (sound_after? h₀ hw) hstep)) h

end Workbench

end LanguageClient
