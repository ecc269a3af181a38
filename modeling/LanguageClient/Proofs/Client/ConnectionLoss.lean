import LanguageClient.Proofs.Client.Lines
import LanguageClient.Proofs.Client.SingleConnection
import LanguageClient.Proofs.Connection.Loss
import LanguageClient.Proofs.Data.Table
import LanguageClient.Proofs.Session.Front

/-!
# The loss of the connection of a session

A ready session learns that its connection was lost from the watch over the line: the reader says that
the stream is gone, or the process exits, and the watch lets the state fall.  Lines come and go
meanwhile, and watches outlive them for a while.

* `Workbench.Attended` — the watches are in order, whatever has happened (`attended_after?`).
* `Workbench.Ordinary` — nobody closes the line at the front, as long as connections are only closed by
  starting, restarting and stopping the session (`ordinary_after?`).
* **`connection_loss_is_noticed`** — when nothing can go on any more, a session that is ready is
  connected; and the loss of a line changes the state only if no other line became ready since.
-/

namespace LanguageClient

open Session

/-! ## Calls that close connections -/

/-- The call closes the connection of a line that it names, whatever the session does with it. -/
def Call.closesLine : Call → Bool
  | shutdown .. | close .. => true
  | _ => false

def Happening.closesLine : Happening → Bool
  | calls c => c.closesLine
  | _ => false

/-- A call remains what it is. -/
theorem Call.step_closesLine (task : TaskId) (c : Client) (call : Call) :
    (call.step task c).Leads (fun _ call' => call'.closesLine = call.closesLine) fun _ _ => True := by
  have last {π α : Type} (p : Progress Client π α) (wrap : π → Call) (result : α → CallResult)
      {b : Bool} (hwrap : ∀ x, (wrap x).closesLine = b) :
      (p.last wrap result).Leads (fun _ call' => call'.closesLine = b) fun _ _ => True :=
    p.leads_true.last (fun _ x _ => hwrap x) fun _ _ _ => trivial
  cases call with
  | startUp p =>
    cases p with
    | finding =>
      rw [step]
      split <;> trivial
    | starting endpoint p => exact last _ _ _ fun _ => rfl
  | restart p =>
    rw [step]
    split <;> trivial
  | openFile path p =>
    cases p with
    | opening =>
      rw [step]
      split <;> trivial
    | showing uri =>
      rw [step]
      split <;> trivial
  | _ => exact last _ _ _ fun _ => rfl

/-- Else only who starts, restarts or stops the session closes a connection. -/
theorem Call.lifecycle_of_closes {call : Call} (h : call.closesLine = false) {n : Nat} {q : ClosePoint}
    (hp : call.place? = some (n, .closes q)) :
    ∃ lc p, call.lifecycle? = some (lc, p) ∧ p.place? = some (n, .closes q) := by
  cases call with
  | lifecycle lc p => exact ⟨lc, p, rfl, hp⟩
  | startUp x =>
    cases x with
    | finding => cases hp
    | starting endpoint p => exact ⟨.start endpoint, p, rfl, hp⟩
  | restart p => exact ⟨.restart, p, rfl, hp⟩
  | shutdown m q p => cases h
  | close m reason p => cases h
  | request q p => cases p <;> cases hp
  | handshake m q p => cases p <;> cases hp
  | run kind reporting p =>
    cases p with
    | acting p =>
      cases p with
      | asking editor q p => cases p <;> cases hp
      | _ => cases hp
    | _ => cases hp
  | _ => cases hp

namespace Workbench

/-! ## Watches in a history -/

/-- The line with which the session becomes ready by this. -/
def readies? (w : Workbench) : Happening → Option Nat
  | .goesOn (.call task) => (w.entered? task).bind (·.2.readies?)
  | _ => none

/-- The line with which the session became ready last. -/
def lastReady? (w : Workbench) (hs : List Happening) : Option Nat := (w.record readies? hs).getLast?

theorem lastReady?_concat {w w' : Workbench} {hs : List Happening} (h : w.after? hs = some w')
    (g : Happening) : w.lastReady? (hs ++ [g]) = (w'.readies? g).or (w.lastReady? hs) := by
  rw [lastReady?, record_concat _ h, List.getLast?_append]
  cases w'.readies? g <;> rfl

theorem readies?_of_entered {w : Workbench} {task : TaskId} {call : LifecycleCall} {p : LifecyclePoint}
    (h : w.entered? task = some (call, p)) : w.readies? (.goesOn (.call task)) = p.readies? := by
  rw [readies?, h]
  rfl

theorem readies?_of_aside {w : Workbench} {g : Happening}
    (h : ∀ task, g = .goesOn (.call task) → w.entered? task = none) : w.readies? g = none := by
  unfold readies?
  split
  next task => rw [h task rfl]; rfl
  next => rfl

/-- At some point of a history the watch over a line took a step and saw that the line was gone. -/
def SawLoss (w₀ : Workbench) (hs : List Happening) (n : Nat) : Prop :=
  ∃ k, During w₀ hs k fun v g =>
    g = .goesOn (.watch n) ∧ ∃ l, v.client.session.line? n = some l ∧ l.isGone = true

/-- The session is watched, and whoever is about to hand a line over has counted it. -/
structure Attended (w₀ : Workbench) (hs : List Happening) (w : Workbench) : Prop where
  watched : w.client.session.Watched (SawLoss w₀ hs) (w₀.lastReady? hs)
  counts : ∀ task call p, w.entered? task = some (call, p) →
    p.Counts (w₀.lastReady? hs) w.client.session

theorem IsFresh.attended {w : Workbench} (h : w.IsFresh) : Attended w [] w where
  watched := by
    refine ⟨fun n v hv => ?_, fun n v hv => ?_, fun n v hv => ?_, fun n hready => ?_⟩
    · rw [h.watches] at hv; cases hv
    · rw [h.watches] at hv; cases hv
    · rw [h.watches] at hv; cases hv
    · rw [h.state] at hready; cases hready
  counts task call p he := by
    rw [entered?, lifecycle?, h.calls] at he
    cases he

/-- **What happens leaves the session watched.** -/
theorem Attended.concat {w₀ w w' : Workbench} {hs : List Happening} {g : Happening} (h₀ : w₀.IsFresh)
    (hw : w₀.after? hs = some w) (ha : Attended w₀ hs w) (hstep : w.happen? g = some w') :
    Attended w₀ (hs ++ [g]) w' := by
  have watched := ha.watched.mono fun n ⟨k, d⟩ => (⟨k, d.concat g⟩ : SawLoss w₀ (hs ++ [g]) n)
  have orderly := orderly_after? h₀ hw
  have last := lastReady?_concat hw g
  cases happen?_shift (sound_after? h₀ hw) hstep with
  | drifts _ calls _ aside watches =>
    rw [readies?_of_aside aside, Option.none_or] at last
    rcases watches with hsteady | ⟨n, rfl, hwatch⟩
    · refine ⟨last ▸ watched.steady hsteady, fun task call p he => ?_⟩
      exact last ▸ (ha.counts task call p (calls task ▸ he)).keep hsteady.generation
        fun h => h.steady hsteady
    · refine ⟨last ▸ watch?_watched watched hwatch fun hgone => ?_, fun task call p he => ?_⟩
      · exact ⟨hs.length, .last hw _ ⟨rfl, hgone⟩⟩
      · exact last ▸ (ha.counts task call p (calls task ▸ he)).keep (generation_watch? hwatch)
          fun h => h.watch? hwatch
  | @enters task call hp lock session hp' others =>
    have hnone : w.entered? task = none := by rw [entered?, hp]; rfl
    rw [readies?_of_aside fun _ e => by cases e; exact hnone, Option.none_or] at last
    refine ⟨by rw [last, session]; exact watched, fun other call' p' he => ?_⟩
    rw [last, session]
    by_cases e : other = task
    · obtain ⟨hlife, _⟩ := entered?_eq_some.1 he
      rw [e, hp'] at hlife
      cases hlife
      exact LifecyclePoint.counts_enter call _
    · exact ha.counts other call' p' (others other e ▸ he)
  | @goesOn task call p p' hp h hp' others =>
    obtain ⟨hlock, hfits⟩ := orderly.holds task call p hp
    have step := LifecyclePoint.step_watched (entered?_eq_some.1 hp).2 hfits watched
      (ha.counts task call p hp) task w.client.now
    rw [h] at step
    rw [readies?_of_entered hp] at last
    refine ⟨last ▸ step.1, fun other call' q he => ?_⟩
    by_cases e : other = task
    · obtain ⟨hlife, _⟩ := entered?_eq_some.1 he
      rw [e, hp'] at hlife
      cases hlife
      exact last ▸ step.2
    · rw [others other e, orderly.others hlock e] at he
      cases he
  | @ends task call p r hp h hp' others =>
    obtain ⟨hlock, hfits⟩ := orderly.holds task call p hp
    have step := LifecyclePoint.step_watched (entered?_eq_some.1 hp).2 hfits watched
      (ha.counts task call p hp) task w.client.now
    rw [h] at step
    obtain rfl := LifecyclePoint.eq_leaving_of_ends h
    rw [readies?_of_entered hp] at last
    refine ⟨last ▸ step, fun other call' q he => ?_⟩
    by_cases e : other = task
    · rw [e, hp'] at he
      cases he
    · rw [others other e, orderly.others hlock e] at he
      cases he

/-- **Every history leaves the session watched.** -/
theorem attended_after? {w₀ w : Workbench} {hs : List Happening} (h₀ : w₀.IsFresh)
    (h : w₀.after? hs = some w) : Attended w₀ hs w :=
  after?_induction (P := fun hs w => Attended w₀ hs w) h₀.attended
    (fun _ _ _ _ hw ha hstep => ha.concat h₀ hw hstep) h

/-! ## Lines that nobody closes -/

/-- A connection is marked as being closed only when a call begins to close it. -/
theorem open_happen? {w w' : Workbench} {g : Happening} (hw : w.Sound) (hstep : w.happen? g = some w')
    {n : Nat} (hn : w.client.session.On n fun c => c.closing = false)
    (hclose : ∀ task, g = .goesOn (.call task) → w.place? task ≠ some (n, .closes .flagging)) :
    w'.client.session.On n fun c => c.closing = false := by
  refine happen?_on hw hstep hn (fun q p c hc => ?_) (fun task reason p c hg hplace hc => ?_)
    (fun l c _ _ hread hc => ?_) (fun c c' hcalm hc => hcalm.closing.trans hc) fun _ => rfl
  · exact (p.step_closing q _ c).mono fun _ he => he.trans hc
  · cases p with
    | flagging => exact absurd hplace (hclose task hg)
    | _ => exact hc
  · rcases hread with hstop | ⟨_, hread⟩
    · exact (Reader.stop?_closing hstop).trans hc
    · exact (Reader.step?_closing hread).trans hc

/-! ## The line at the front -/

/-- The session holds the line, or a call is about to hand it over. -/
def Fronts (w : Workbench) (n : Nat) : Prop :=
  w.client.session.active = some n ∨
    ∃ task call p, w.entered? task = some (call, p) ∧ p.front? = some n

/-- Nobody closes a line by its name, and the line at the front is not being closed. -/
structure Ordinary (w : Workbench) : Prop where
  calls : ∀ task call, w.calls.get? task = some call → call.closesLine = false
  front : ∀ n, w.Fronts n → w.client.session.On n fun c => c.closing = false

theorem IsFresh.ordinary {w : Workbench} (h : w.IsFresh) : w.Ordinary where
  calls task call hcall := by
    rw [h.calls] at hcall
    cases hcall
  front n hn l hl := by
    obtain ⟨link, peer, process, rfl⟩ := h.lines l (List.mem_of_getElem? hl)
    rfl

/-- A line at the front was there before, or is a new one. -/
theorem Fronts.before {first : Nat} {last : Option Endpoint} {w w' : Workbench} {g : Happening}
    (ho : w.Orderly first last) (h : w.Shift w' g) {n : Nat} (hn : w'.Fronts n) :
    w.Fronts n ∨ w.client.session.line? n = none := by
  cases h with
  | drifts drifts calls =>
    refine .inl (hn.imp (fun ha => drifts.active ▸ ha) fun ⟨task, call, p, he, hp⟩ => ?_)
    exact ⟨task, call, p, calls task ▸ he, hp⟩
  | @enters task call hp lock session hp' others =>
    refine .inl (hn.imp (fun ha => session ▸ ha) fun ⟨other, call', p', he, hfront⟩ => ?_)
    by_cases e : other = task
    · obtain ⟨hlife, _⟩ := entered?_eq_some.1 he
      rw [e, hp'] at hlife
      cases hlife
      rw [LifecyclePoint.front?_enter] at hfront
      cases hfront
    · exact ⟨other, call', p', others other e ▸ he, hfront⟩
  | @goesOn task call p p' hp h hp' others =>
    obtain ⟨hlock, _⟩ := ho.holds task call p hp
    have step := LifecyclePoint.step_front call w.client.session (entered?_eq_some.1 hp).2 task
      w.client.now
    rw [h] at step
    refine (step n (hn.imp_right fun ⟨other, call', q, he, hfront⟩ => ?_)).imp_left fun hfront =>
      hfront.imp_right fun hfront => ⟨task, call, p, hp, hfront⟩
    by_cases e : other = task
    · obtain ⟨hlife, _⟩ := entered?_eq_some.1 he
      rw [e, hp'] at hlife
      cases hlife
      exact hfront
    · rw [others other e, ho.others hlock e] at he
      cases he
  | @ends task call p r hp h hp' others =>
    obtain ⟨hlock, _⟩ := ho.holds task call p hp
    have step := LifecyclePoint.step_front call w.client.session (entered?_eq_some.1 hp).2 task
      w.client.now
    rw [h] at step
    refine .inl (hn.imp (step n) fun ⟨other, call', q, he, hfront⟩ => ?_)
    by_cases e : other = task
    · rw [e, hp'] at he
      cases he
    · rw [others other e, ho.others hlock e] at he
      cases he

namespace Ordinary

variable {first : Nat} {last : Option Endpoint} {w w' : Workbench} {g : Happening}

/-- Nobody closes the line at the front. -/
theorem not_closes (h : w.Ordinary) (ho : w.Orderly first last) {n : Nat} (hn : w.Fronts n)
    {task : TaskId} {q : ClosePoint} : w.place? task ≠ some (n, .closes q) := by
  intro hplace
  obtain ⟨call, hcall, hplace⟩ := Option.bind_eq_some_iff.1 hplace
  obtain ⟨lc, p, hlc, hp⟩ := Call.lifecycle_of_closes (h.calls task call hcall) hplace
  have hentered : w.entered? task = some (lc, p) := by
    refine entered?_eq_some.2 ⟨by rw [lifecycle?, hcall, Option.bind_some, hlc], ?_⟩
    exact LifecyclePoint.hasEntered_of_place (by rw [hp]; exact Option.some_ne_none _)
  obtain ⟨hlock, hfits⟩ := ho.holds task lc p hentered
  obtain ⟨hactive, hfront⟩ := LifecyclePoint.place_of_closes hfits hp
  rcases hn with hn | ⟨other, lc', p', hother, hn⟩
  · rw [hactive] at hn
    cases hn
  by_cases e : other = task
  · rw [e, hentered] at hother
    cases hother
    rw [hfront] at hn
    cases hn
  · rw [ho.others hlock e] at hother
    cases hother

/-- **What happens leaves the line at the front open**, if nobody closes a line by its name. -/
theorem happen? (h : w.Ordinary) (hw : w.Sound) (ho : w.Orderly first last)
    (hstep : w.happen? g = some w') (hg : g.closesLine = false) : w'.Ordinary where
  calls task call hcall := by
    rcases happen?_cases hstep with ⟨other, rfl⟩ | ⟨c, rfl, _, rfl⟩ | ⟨hcalls, _⟩
    · by_cases e : task = other
      · subst e
        obtain ⟨before, hbefore, _⟩ := act?_call hstep
        rcases act?_call_leads hstep hbefore (before.step_closesLine task w.client) with
          ⟨after, hafter, hsame⟩ | ⟨hnone, _⟩
        · obtain rfl : call = after := Option.some.inj (hcall.symm.trans hafter)
          exact hsame.trans (h.calls task before hbefore)
        · rw [hnone] at hcall
          cases hcall
      · exact h.calls task call (act?_call_others hstep e ▸ hcall)
    · have hget : (w.add c).2.calls.get? task =
          if (⟨w.latestTask + 1⟩ : TaskId) = task then some c else w.calls.get? task :=
        Table.get?_set ..
      rw [hget] at hcall
      split at hcall
      next => cases hcall; exact hg
      next => exact h.calls task call hcall
    · exact h.calls task call (hcalls ▸ hcall)
  front n hn := by
    rcases hn.before ho (happen?_shift hw hstep) with hbefore | hnone
    · exact open_happen? hw hstep (h.front n hbefore) fun _ _ => h.not_closes ho hbefore
    · intro l hl
      obtain ⟨link, peer, process, rfl⟩ := (happen?_turn hw hstep).comes hnone hl
      rfl

end Ordinary

theorem ordinary_after? {w₀ w : Workbench} {hs : List Happening} (h₀ : w₀.IsFresh)
    (h : w₀.after? hs = some w) (ordinary : ∀ g ∈ hs, g.closesLine = false) : w.Ordinary := by
  refine after?_induction (P := fun hs w => (∀ g ∈ hs, g.closesLine = false) → w.Ordinary)
    (fun _ => h₀.ordinary) ?_ h ordinary
  intro hs g w w' hw ih hstep ordinary
  have before : w.Ordinary := ih fun g' hg' => ordinary g' (List.mem_append_left [g] hg')
  exact before.happen? (sound_after? h₀ hw) (orderly_after? h₀ hw) hstep
    (ordinary g (List.mem_append_right hs (List.mem_singleton_self g)))

/-! ## When nothing goes on any more -/

/-- Nobody can take a step. -/
def Rests (w : Workbench) : Prop := ∀ a, w.act? a = none

/-- Whoever can take a step is looked at, but for openers, who do not wait, and for readers that go on
although they were told to stop. -/
theorem mem_activities {w : Workbench} {a : Activity} (h : w.act? a ≠ none) (hopener : a ≠ .opener)
    (hlate : ∀ n, a ≠ .lateReader n) : a ∈ w.activities := by
  have line (n : Nat) (hl : w.client.session.line? n ≠ none) : n < w.client.session.lines.length :=
    Nat.lt_of_not_le fun hn => hl (List.getElem?_eq_none_iff.2 hn)
  cases a with
  | call task =>
    have hcall : task ∈ w.calls.keys := by
      by_contra hno
      exact h (by rw [act?, Table.get?_eq_none.2 hno])
    simp [activities, hcall]
  | reader n =>
    have hn := line n fun hl => h (by simp [act?, Client.read?, Session.read?, hl])
    simp [activities, hn]
  | payer n =>
    have hn := line n fun hl => h (by simp [act?, Session.pay?, hl])
    simp [activities, hn]
  | leaver n =>
    have hn := line n fun hl => h (by simp [act?, hl])
    simp [activities, hn]
  | watch n =>
    have hwatch : n ∈ w.client.session.watches.keys := by
      by_contra hno
      exact h (by simp [act?, Session.watch?, Table.get?_eq_none.2 hno])
    simp [activities, hwatch]
  | dispatcher => simp [activities]
  | opener => exact absurd rfl hopener
  | lateReader n => exact absurd rfl (hlate n)

/-- A reader that goes on although it was told to stop could as well stop. -/
theorem reader_of_lateReader {w : Workbench} {n : Nat} (h : w.act? (.lateReader n) ≠ none) :
    w.act? (.reader n) ≠ none := by
  obtain ⟨w', h⟩ := Option.ne_none_iff_exists'.1 h
  rw [act?, Option.map_eq_some_iff] at h
  obtain ⟨c, hc, -⟩ := h
  rw [Client.readOn?, Option.map_eq_some_iff] at hc
  obtain ⟨x, hx, -⟩ := hc
  simp only [Session.readOn?, Option.bind_eq_bind, Option.bind_eq_some_iff] at hx
  obtain ⟨l, hl, hx⟩ := hx
  split at hx
  next haborted =>
    rw [Option.ne_none_iff_isSome]
    have hstop : (Reader.stop? l.connection).isSome = true := by
      cases hr : l.connection.reader with
      | stopped => simp [Reader.step?, hr] at hx
      | _ => simp [Reader.stop?, haborted, hr]
    obtain ⟨c, hc⟩ := Option.isSome_iff_exists.1 hstop
    simp [act?, Client.read?, Session.read?, hl, hc]
  next => cases hx

/-- **What is settled rests**: when nobody is left who would be woken, nobody can take a step. -/
theorem rests_of_awaken {w : Workbench} (h : w.awaken [] = []) : w.Rests := by
  obtain ⟨hopener, hnobody⟩ := List.append_eq_nil_iff.1 h
  have waits {a : Activity} (ha : a ∈ w.activities) : w.act? a = none := by
    simpa using List.filter_eq_nil_iff.1 hnobody a ha
  have opener : w.act? .opener = none := by
    by_contra hsome
    simp [Option.isSome_iff_ne_none.2 hsome] at hopener
  have rests {a : Activity} (hlate : ∀ n, a ≠ .lateReader n) : w.act? a = none := by
    by_contra hsome
    by_cases ha : a = .opener
    · exact hsome (ha ▸ opener)
    · exact hsome (waits (mem_activities hsome ha hlate))
  intro a
  by_cases ha : ∃ n, a = .lateReader n
  · obtain ⟨n, rfl⟩ := ha
    by_contra hsome
    exact reader_of_lateReader hsome (rests nofun)
  · exact rests fun n e => ha ⟨n, e⟩

theorem Rests.line {w : Workbench} (h : w.Rests) {n : Nat} {l : Line}
    (hl : w.client.session.line? n = some l) :
    Reader.step? w.client.session.handlers l.connection = none ∧ l.connection.leave? = none := by
  have reader := h (.reader n)
  have leaver := h (.leaver n)
  rw [act?, Option.map_eq_none_iff, hl, Option.bind_some] at leaver
  rw [act?, Option.map_eq_none_iff, Client.read?, Option.map_eq_none_iff, Session.read?, hl] at reader
  refine ⟨?_, leaver⟩
  rw [Option.bind_eq_bind, Option.bind_some] at reader
  split at reader
  next => cases reader
  next =>
    cases hstep : Reader.step? w.client.session.handlers l.connection with
    | none => rfl
    | some x =>
      rw [hstep] at reader
      cases reader

theorem Rests.watch {w : Workbench} (h : w.Rests) {n : Nat} {v : Watch}
    (hv : w.client.session.watches.get? n = some v) (haborted : v.aborted = false) :
    (w.client.session.line? n).any Line.isGone = false := by
  have watch := h (.watch n)
  rw [act?, Option.map_eq_none_iff, Session.watch?, hv] at watch
  simp only [Option.bind_eq_bind, Option.bind_some, haborted] at watch
  split at watch
  next => cases watch
  next =>
    split at watch
    next hno => cases hno
    next =>
      split at watch
      next => cases watch
      next hno => simpa using hno

/-- **No loss of a connection is missed, and none is mistaken for another.**  Whatever has been going
on:

* If connections were only closed by starting, restarting and stopping the session, nobody holds the
  lock, and nothing can go on, then a session that is ready holds a line with an open stream, which the
  server is not about to let go of and nobody has given up, and the process behind it, if there is one,
  has not exited.
* The state is only changed by the call that holds the lock, which does so at certain points whatever
  has become of any line, or from ready to failed by the watch over the line that became ready last,
  and only after this watch has seen that the line was gone. -/
theorem connection_loss_is_noticed {w₀ w : Workbench} {hs : List Happening} (h₀ : w₀.IsFresh)
    (h : w₀.after? hs = some w) :
    ((∀ g ∈ hs, g.closesLine = false) → w.client.session.lock.isFree = true → w.Rests →
      w.client.session.state = .ready →
      ∃ n l, w.client.session.active = some n ∧ w.client.session.line? n = some l ∧
        l.connection.Hears ∧ ∀ p, l.process = some p → p.exit = none) ∧
    ∀ g w', w.happen? g = some w' → w'.client.session.state ≠ w.client.session.state →
      (∃ task call p, g = .goesOn (.call task) ∧ w.client.session.lock.heldBy task = true ∧
        w.lifecycle? task = some (call, p) ∧ p.sets? = some w'.client.session.state) ∨
      ∃ n, g = .goesOn (.watch n) ∧ w₀.lastReady? hs = some n ∧ SawLoss w₀ hs n ∧
        w.client.session.state = .ready ∧ w'.client.session.state = .failed := by
  have orderly := orderly_after? h₀ h
  have attended := attended_after? h₀ h
  refine ⟨fun ordinary hfree rests hready => ?_, fun g w' hstep hstate => ?_⟩
  · have settled := orderly.settled_of_free hfree
    obtain ⟨n, hn⟩ := Option.isSome_iff_exists.1 (settled.ready hready)
    obtain ⟨l, hl⟩ : ∃ l, w.client.session.line? n = some l :=
      ⟨_, List.getElem?_eq_getElem (settled.held n hn)⟩
    obtain ⟨v, hv, haborted, _⟩ := attended.watched.held n hready hn
    have hgone : l.isGone = false := by simpa [hl] using rests.watch hv haborted
    rw [Line.isGone, Bool.or_eq_false_iff] at hgone
    obtain ⟨hlost, hexit⟩ := hgone
    obtain ⟨hread, hleave⟩ := rests.line hl
    have hclosing := (ordinary_after? h₀ h ordinary).front n (.inl hn) l hl
    have attentive := (exchange_induction (P := fun _ x => x.IsOrderly ∧ x.IsAttentive)
      (fun x hx => ⟨hx.isOrderly, hx.isAttentive⟩)
      (fun _ _ _ _ hx hstep => ⟨hx.1.step hstep, hx.2.step hx.1 hstep⟩) h₀ h
      (exchange?_eq_some.2 ⟨l, hl, rfl⟩)).2
    refine ⟨n, l, hn, hl, attentive.hears hclosing hlost hread hleave, fun p hp => ?_⟩
    simpa [hp] using hexit
  · have call {task : TaskId} {call : LifecycleCall} {p : LifecyclePoint}
        (hp : w.entered? task = some (call, p))
        (hset : w'.client.session.state = p.sets?.getD w.client.session.state) :
        ∃ task' call' p', Happening.goesOn (.call task) = .goesOn (.call task') ∧
          w.client.session.lock.heldBy task' = true ∧ w.lifecycle? task' = some (call', p') ∧
          p'.sets? = some w'.client.session.state := by
      refine ⟨task, call, p, rfl, ?_, (entered?_eq_some.1 hp).1, ?_⟩
      · simpa [Lock.heldBy] using (orderly.holds task call p hp).1
      · cases hsets : p.sets? with
        | none =>
          rw [hsets] at hset
          exact absurd hset hstate
        | some state =>
          rw [hsets] at hset
          exact congrArg some hset.symm
    cases happen?_shift (sound_after? h₀ h) hstep with
    | drifts _ _ _ _ watches =>
      rcases watches with hsteady | ⟨n, rfl, hwatch⟩
      · exact absurd hsteady.state hstate
      · obtain ⟨hready, hfailed, hlast, hsaw⟩ := state_of_watch? attended.watched hwatch hstate
        exact .inr ⟨n, rfl, hlast, hsaw, hready, hfailed⟩
    | enters _ _ session => exact absurd (congrArg Session.state session) hstate
    | @goesOn task lc p p' hp hgoes _ _ =>
      have set := p.step_state task lc w.client.now w.client.session
      rw [hgoes] at set
      exact .inl (call hp set)
    | @ends task lc p r hp hends _ _ =>
      have set := p.step_state task lc w.client.now w.client.session
      rw [hends] at set
      exact .inl (call hp set)

/-- The stream ends, the reader says so, and the watch over the line sees it. -/
def lossHistory : List Happening :=
  [Happening.streams 0 fun link => { link with ended := true }] ++ List.replicate 5 (.goesOn (.reader 0))
  ++ [Happening.goesOn (.watch 0)]

/-- A session becomes ready and rests, then loses its connection, and fails. -/
theorem connection_loss_is_noticed_once :
    ∃ v n l w w', unused.after? connectedHistory = some v ∧ v.Rests ∧
      v.client.session.active = some n ∧ v.client.session.line? n = some l ∧ l.connection.Hears ∧
      v.after? lossHistory = some w ∧ w.happen? (.goesOn (.watch 0)) = some w' ∧
      unused.lastReady? (connectedHistory ++ lossHistory) = some 0 ∧
      SawLoss unused (connectedHistory ++ lossHistory) 0 ∧
      w.client.session.state = .ready ∧ w'.client.session.state = .failed := by
  have reached : (unused.after? connectedHistory).any (fun v =>
      (v.awaken []).isEmpty && v.client.session.lock.isFree && v.client.session.state = .ready &&
        (v.after? lossHistory).any fun w => w.client.session.state = .ready &&
          (w.happen? (.goesOn (.watch 0))).any fun w' => w'.client.session.state = .failed) = true := by
    decide +kernel
  obtain ⟨v, hv, reached⟩ := (Option.any_eq_true _ _).1 reached
  simp only [Bool.and_eq_true, List.isEmpty_iff, decide_eq_true_eq] at reached
  obtain ⟨⟨⟨hnobody, hfree⟩, hready⟩, reached⟩ := reached
  obtain ⟨w, hw, reached⟩ := (Option.any_eq_true _ _).1 reached
  simp only [Bool.and_eq_true, decide_eq_true_eq] at reached
  obtain ⟨hready', reached⟩ := reached
  obtain ⟨w', hw', hfailed⟩ := (Option.any_eq_true _ _).1 reached
  simp only [decide_eq_true_eq] at hfailed
  have rests := rests_of_awaken hnobody
  obtain ⟨n, l, hn, hl, hears, -⟩ :=
    (connection_loss_is_noticed isFresh_unused hv).1 (by decide) hfree rests hready
  rcases (connection_loss_is_noticed isFresh_unused (after?_trans hv hw)).2 _ w' hw'
    (by rw [hready', hfailed]; decide) with ⟨_, _, _, hg, _⟩ | ⟨m, hg, hlast, hsaw, _, _⟩
  · cases hg
  · cases hg
    exact ⟨v, n, l, w, w', hv, rests, hn, hl, hears, hw, hw', hlast, hsaw, hready', hfailed⟩

end Workbench

end LanguageClient
