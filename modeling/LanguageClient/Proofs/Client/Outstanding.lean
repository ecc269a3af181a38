import LanguageClient.Proofs.Client.Lines
import LanguageClient.Proofs.Client.SingleConnection
import LanguageClient.Proofs.Connection.Cancellation
import LanguageClient.Proofs.Session.Takedown

/-!
# Requests that are outstanding when a session is stopped

Whoever stops or restarts a ready session ends its connection in good order, and in the end every
request that still waits there is told that it was cancelled.  But the reader goes on meanwhile, and
when it fails before the connection is marked as being closed, it tells them that the server is gone.

* `Workbench.WasLost` — that has happened in a history; until then the line is intact
  (`intact_or_lost`).
* `Workbench.Spares` — it never happens in a history, so the line stays intact (`intact_after?`).
* `waits_happen?`, `waits_after?` — a request goes on waiting until it comes to its end.
* `Workbench.TakesDown` — a stop or a restart has its turn, and goes on until the connection is being
  closed (`TakesDown.after?`).
* **`outstanding_requests_are_cancelled`** — on a line that is spared every request that waited is
  answered by the server or cancelled, and none waits for good.
* **`outstanding_request_is_lost`** — on a line that is not spared a request may be lost, even if the
  server goes only after it was told to exit.
-/

namespace LanguageClient

open Session

/-- A request that waits comes to its end, or its time is up. -/
theorem Session.Turn.waits {s s' : Session} {now n slot : Nat} {id : UInt64} {deadline : Option Nat}
    {t' : Option (Nat × Traffic)} (h : s.Turn now (some (n, .asks (.waiting id slot deadline))) s' t') :
    ∃ l, s.line? n = some l ∧
      ((∃ q c r, RequestPoint.Ends q l.connection (.waiting id slot deadline) c r) ∨
        ∃ t, deadline = some t ∧ t ≤ now) := by
  cases h with
  | asks hl hstep => exact ⟨_, hl, .inr (RequestPoint.late_of_step hstep)⟩
  | asked hl hstep _ => exact ⟨_, hl, .inl ⟨_, _, _, RequestPoint.ends_of_step hstep⟩⟩

namespace Workbench

/-! ## Lines that are spared -/

/-- The reader of a line cannot go on with what it takes up next, and nobody has said yet that the
connection is being closed. -/
def fails (w : Workbench) (n : Nat) : Bool :=
  (w.client.session.line? n).any fun l =>
    !l.connection.closing && l.connection.fails w.client.session.handlers

/-- The reader of a line fails with this happening. -/
def failure? (n : Nat) (w : Workbench) : Happening → Option Unit
  | .goesOn (.reader m) | .goesOn (.lateReader m) => if m = n ∧ w.fails n then some () else none
  | _ => none

/-- In a history the reader of a line never fails before the connection is being closed. -/
def Spares (w₀ : Workbench) (n : Nat) (hs : List Happening) : Prop := w₀.record (failure? n) hs = []

theorem Spares.of_append {w₀ w : Workbench} {n : Nat} {hs more : List Happening}
    (h : w₀.Spares n (hs ++ more)) (hw : w₀.after? hs = some w) :
    w₀.Spares n hs ∧ w.Spares n more := by
  rwa [Spares, record_append _ hw, List.append_eq_nil_iff] at h

/-- **What happens leaves a line intact**, unless its reader fails before the connection is being
closed. -/
theorem intact_happen? {w w' : Workbench} (hw : w.Sound) {g : Happening} (h : w.happen? g = some w')
    {n : Nat} (hn : w.client.session.On n Connection.IsIntact)
    (spared : g = .goesOn (.reader n) ∨ g = .goesOn (.lateReader n) → w.fails n = false) :
    w'.client.session.On n Connection.IsIntact := by
  refine happen?_on hw h hn (fun q p c hc => RequestPoint.step_intact hc q _ p)
    (fun _ reason p c _ _ hc => ClosePoint.step_intact hc reason p) (fun l c hg hl hstep hc => ?_)
    (fun _ _ hcalm => hcalm.intact) fun _ => ⟨rfl, id⟩
  rcases hstep with hstop | ⟨signals, hstep⟩
  · exact Reader.stop?_intact hstop hc
  · refine Reader.step?_intact hc (fun hclosing => ?_) hstep
    have hfails := spared hg
    simpa [fails, hl, hclosing] using hfails

/-- At some moment of a history the reader of a line failed, before the connection was being closed. -/
def WasLost (w₀ : Workbench) (hs : List Happening) (n : Nat) : Prop :=
  ∃ k, During w₀ hs k fun u g =>
    (g = .goesOn (.reader n) ∨ g = .goesOn (.lateReader n)) ∧ u.fails n = true

/-- **A line stays intact until its reader fails.** -/
theorem intact_or_lost {w₀ w : Workbench} {hs : List Happening} (h₀ : w₀.IsFresh)
    (h : w₀.after? hs = some w) (n : Nat) :
    w.client.session.On n Connection.IsIntact ∨ w₀.WasLost hs n := by
  refine after?_induction
    (P := fun hs w => w.client.session.On n Connection.IsIntact ∨ w₀.WasLost hs n)
    (.inl fun l hl => ?_) ?_ h
  · obtain ⟨link, peer, process, rfl⟩ := h₀.lines l (List.mem_of_getElem? hl)
    exact ⟨rfl, id⟩
  · rintro hs g w w' hw (hintact | ⟨k, d⟩) hstep
    · by_cases hfails : (g = .goesOn (.reader n) ∨ g = .goesOn (.lateReader n)) ∧ w.fails n = true
      · exact .inr ⟨hs.length, .last hw g hfails⟩
      · refine .inl (intact_happen? (sound_after? h₀ hw) hstep hintact fun hg => ?_)
        simpa using fun hf => hfails ⟨hg, hf⟩
    · exact .inr ⟨k, d.concat g⟩

/-- **A line that is spared stays intact.** -/
theorem intact_after? {w₀ w : Workbench} {hs : List Happening} (h₀ : w₀.IsFresh)
    (h : w₀.after? hs = some w) {n : Nat} (spared : w₀.Spares n hs) :
    w.client.session.On n Connection.IsIntact := by
  refine (intact_or_lost h₀ h n).resolve_right fun ⟨k, u, g, hu, hg, hreads, hfails⟩ => ?_
  refine not_during_of_record spared k ⟨u, g, hu, hg, ?_⟩
  rcases hreads with rfl | rfl <;> simp [failure?, hfails]

/-! ## A request that waits -/

/-- The request that a call is in the middle of on a line comes to its end with its next step, and
this is what it comes to. -/
def Concludes (w : Workbench) (n : Nat) (task : TaskId) (r : Except Failure Json) : Prop :=
  ∃ l q p c, w.client.session.line? n = some l ∧ w.place? task = some (n, .asks p) ∧
    RequestPoint.Ends q l.connection p c r

/-- **A request goes on waiting** until it comes to its end or its time is up. -/
theorem waits_happen? {w w' : Workbench} (hw : w.Sound) {g : Happening} (h : w.happen? g = some w')
    {task : TaskId} {n slot : Nat} {id : UInt64} {deadline : Option Nat}
    (hp : w.place? task = some (n, .asks (.waiting id slot deadline))) :
    w'.place? task = w.place? task ∨ g = .goesOn (.call task) ∧
      ((∃ r, w.Concludes n task r) ∨ ∃ t, deadline = some t ∧ t ≤ w.client.now) := by
  cases happen?_turn hw h with
  | @call other turn others =>
    by_cases e : task = other
    · subst e
      rw [hp] at turn
      obtain ⟨l, hl, ⟨q, c, r, hends⟩ | htime⟩ := turn.waits
      · exact .inr ⟨rfl, .inl ⟨r, l, q, _, c, hl, hp, hends⟩⟩
      · exact .inr ⟨rfl, .inr htime⟩
    · exact .inl (others task e)
  | reads _ _ _ _ places => exact .inl (congrFun places task)
  | stops _ _ _ places => exact .inl (congrFun places task)
  | calm _ places _ =>
    rcases places task with h | ⟨hnone, _⟩
    · exact .inl h
    · rw [hp] at hnone
      cases hnone

/-! ## Whoever takes the connection down -/

/-- A call that starts, restarts or stops the session is where it was after what others do. -/
theorem lifecycle?_of_other {w w' : Workbench} (hw : w.Sound) {g : Happening}
    (h : w.happen? g = some w') {task : TaskId} (hg : g ≠ .goesOn (.call task))
    {x : LifecycleCall × LifecyclePoint} (hx : w.lifecycle? task = some x) :
    w'.lifecycle? task = some x := by
  obtain ⟨call, hcall, hx⟩ := Option.bind_eq_some_iff.1 hx
  exact Option.bind_eq_some_iff.2 ⟨call, get?_of_other hw h hg hcall, hx⟩

/-- A stop or a restart holds the lock and is taking down the connection of a line. -/
def TakesDown (w : Workbench) (n : Nat) (task : TaskId) : Prop :=
  ∃ call p, (call = .restart ∨ call = .stop) ∧ w.lifecycle? task = some (call, p) ∧
    w.client.session.lock.holder? = some task ∧ p.Concerns n w.client.session

/-- What has been closed stays closed. -/
theorem closing_happen? {w w' : Workbench} (hw : w.Sound) {g : Happening}
    (h : w.happen? g = some w') {n : Nat} (hn : w.exchange? n ≠ none)
    (hclosing : w.client.session.On n fun c => c.closing = true) :
    w'.client.session.On n fun c => c.closing = true := by
  intro l' hl'
  obtain ⟨x, hx⟩ := Option.ne_none_iff_exists'.1 hn
  obtain ⟨x', hx', hstep⟩ := (happen?_turn hw h).exchange hx
  obtain ⟨l, hl, rfl⟩ := exchange?_eq_some.1 hx
  obtain ⟨l'', hl'', rfl⟩ := exchange?_eq_some.1 hx'
  obtain rfl : l' = l'' := Option.some.inj (hl'.symm.trans hl'')
  exact hstep.keeps.closing (hclosing l hl)

/-- The step of whoever takes the connection down. -/
theorem TakesDown.goesOn {first : Nat} {last : Option Endpoint} {w w' : Workbench}
    (ho : w.Orderly first last) {n : Nat} {task : TaskId} (ht : w.TakesDown n task)
    (h : w.happen? (.goesOn (.call task)) = some w') :
    w'.TakesDown n task ∨ w'.client.session.On n fun c => c.closing = true := by
  obtain ⟨call, p, hcall, hp, hlock, hconcerns⟩ := ht
  obtain ⟨c, hc, hlc⟩ := Option.bind_eq_some_iff.1 hp
  rcases act?_call_leads h hc (c.step_lifecycle task w.client hlc) with
    ⟨c', hc', p', hlc', hstep⟩ | ⟨_, _, r, hstep⟩
  · have hp' : w'.lifecycle? task = some (call, p') := by
      rw [lifecycle?, hc', Option.bind_some, hlc']
    by_cases hentered : p.hasEntered = true
    · have hfits := (ho.holds task call p (entered?_eq_some.2 ⟨hp, hentered⟩)).2
      have lead := LifecyclePoint.step_concerns hentered hfits hconcerns task w.client.now
      have lock := LifecyclePoint.step_fits hentered hfits task w.client.now
      rw [hstep] at lead lock
      exact lead.imp (fun hconcerns' => ⟨call, p', hcall, hp', lock.2.2.symm ▸ hlock, hconcerns'⟩) id
    · cases p with
      | entering =>
        rw [LifecyclePoint.step, if_pos (by simpa [Lock.heldBy] using hlock)] at hstep
        have hs : w'.client.session = w.client.session := (Progress.goesOn.inj hstep).1.symm
        obtain rfl := (Progress.goesOn.inj hstep).2
        have settled := ho.settled_of_entering hlock hp
        refine .inl ⟨call, _, hcall, hp', hs ▸ hlock, ?_⟩
        rw [hs]
        exact LifecyclePoint.enter_concerns settled hcall hconcerns
      | queueing => exact hconcerns.elim
      | _ => exact absurd rfl hentered
  · obtain rfl := LifecyclePoint.eq_leaving_of_ends hstep
    exact hconcerns.elim

/-- **Who takes a connection down goes on with it** until the connection is being closed, whatever
happens. -/
theorem TakesDown.happen? {first : Nat} {last : Option Endpoint} {w w' : Workbench} (hw : w.Sound)
    (ho : w.Orderly first last) {n : Nat} {task : TaskId} (ht : w.TakesDown n task) {g : Happening}
    (h : w.happen? g = some w') :
    w'.TakesDown n task ∨ w'.client.session.On n fun c => c.closing = true := by
  by_cases hg : g = .goesOn (.call task)
  · exact TakesDown.goesOn ho ht (hg ▸ h)
  obtain ⟨call, p, hcall, hp, hlock, hconcerns⟩ := ht
  have hp' := lifecycle?_of_other hw h hg hp
  -- Nobody else has entered, so nobody else takes a step that is more than a drift.
  have alone {other : TaskId} {x : LifecycleCall × LifecyclePoint} (hx : w.entered? other = some x)
      (he : g = .goesOn (.call other)) : False := by
    have hholder := (ho.holds other x.1 x.2 hx).1
    obtain rfl : other = task := Option.some.inj (hholder.symm.trans hlock)
    exact hg he
  cases happen?_shift hw h with
  | drifts drifts _ _ =>
    exact .inl ⟨call, p, hcall, hp', drifts.holder? hlock, hconcerns.drift drifts⟩
  | enters _ _ session _ _ =>
    exact .inl ⟨call, p, hcall, hp', session ▸ hlock, session ▸ hconcerns⟩
  | goesOn hother _ _ _ => exact (alone hother rfl).elim
  | ends hother _ _ _ => exact (alone hother rfl).elim

/-- The same of a whole history. -/
theorem TakesDown.after? {w₀ v w : Workbench} {before after : List Happening} (h₀ : w₀.IsFresh)
    (hv : w₀.after? before = some v) (hw : v.after? after = some w) {n : Nat} {task : TaskId}
    (ht : v.TakesDown n task) (hn : v.exchange? n ≠ none) :
    w.TakesDown n task ∨ w.client.session.On n fun c => c.closing = true := by
  refine (after?_induction (P := fun _ u => u.exchange? n ≠ none ∧
    (u.TakesDown n task ∨ u.client.session.On n fun c => c.closing = true)) ⟨hn, .inl ht⟩ ?_ hw).2
  intro hs g u u' hu ⟨hn, ih⟩ hstep
  have sound := sound_after? h₀ (after?_trans hv hu)
  refine ⟨fun hnone => hn ?_, ?_⟩
  · exact exchange?_eq_none.2 ((happen?_turn sound hstep).line?_none (exchange?_eq_none.1 hnone))
  · rcases ih with ht | hclosing
    · exact ht.happen? sound (orderly_after? h₀ (after?_trans hv hu)) hstep
    · exact .inr (closing_happen? sound hstep hn hclosing)

/-! ## What becomes of the request -/

/-- **What a request comes to** on a line that was spared: what the server answered, or that it was
cancelled. -/
theorem own_or_cancelled_of_concludes {w₀ w : Workbench} {hs : List Happening} (h₀ : w₀.IsFresh)
    (h : w₀.after? hs = some w) {n : Nat} (spared : w₀.Spares n hs) {task : TaskId} {id : UInt64}
    {slot : Nat} {deadline : Option Nat}
    (hp : w.place? task = some (n, .asks (.waiting id slot deadline))) {r : Except Failure Json}
    (hr : w.Concludes n task r) :
    (∃ reason, r = .error (.cancelled reason)) ∨
      ∃ a, Exchange.IsOwn (w₀.trace n hs) id slot a ∧
        r = a.outcome.mapError Failure.ofResponseError := by
  obtain ⟨l, q, p, c, hl, hp', hends⟩ := hr
  obtain rfl : RequestPoint.waiting id slot deadline = p := by simpa [hp] using hp'
  have hx : w.exchange? n = some ⟨l.connection, w.traffic? n⟩ := by rw [exchange?, hl]; rfl
  obtain ⟨correlated, -, authored⟩ := exchange_induction
    (P := fun events x => x.IsCorrelated events ∧ x.IsOrderly ∧ x.IsAuthored events)
    (fun x hx => ⟨hx.isCorrelated, hx.isOrderly, hx.isAuthored⟩)
    (fun events x x' e hx hstep =>
      ⟨hx.1.step hstep, hx.2.1.step hstep, hx.2.2.step hx.2.1 hstep⟩) h₀ h hx
  have intact := intact_after? h₀ h spared l hl
  cases hends with
  | @returns _ _ _ a ha =>
    rcases authored.own_or_cancelled correlated intact.terminated
      (.inr ⟨deadline, traffic?_eq_some.2 hp⟩) ha with hown | hcancelled
    · exact .inr ⟨a, hown, rfl⟩
    · exact .inl hcancelled.outcome
  | abandoned _ _ => exact .inl ⟨_, rfl⟩

/-- A request that waits still does after a history, or at some moment it came to its end or its time
was up. -/
theorem waits_after? {w₀ v w : Workbench} {before after : List Happening} (h₀ : w₀.IsFresh)
    (hv : w₀.after? before = some v) (hw : v.after? after = some w) {task : TaskId} {n slot : Nat}
    {id : UInt64} {deadline : Option Nat}
    (hp : v.place? task = some (n, .asks (.waiting id slot deadline))) :
    w.place? task = some (n, .asks (.waiting id slot deadline)) ∨
      ∃ k, During v after k fun u g => g = .goesOn (.call task) ∧
        u.place? task = some (n, .asks (.waiting id slot deadline)) ∧
        ((∃ r, u.Concludes n task r) ∨ ∃ t, deadline = some t ∧ t ≤ u.client.now) := by
  refine after?_induction (P := fun hs u =>
    u.place? task = some (n, .asks (.waiting id slot deadline)) ∨ ∃ k, During v hs k fun u g =>
      g = .goesOn (.call task) ∧ u.place? task = some (n, .asks (.waiting id slot deadline)) ∧
      ((∃ r, u.Concludes n task r) ∨ ∃ t, deadline = some t ∧ t ≤ u.client.now)) (.inl hp) ?_ hw
  rintro hs g u u' hu (hwaits | ⟨k, d⟩) hstep
  · rcases waits_happen? (sound_after? h₀ (after?_trans hv hu)) hstep hwaits with hsame | ⟨hg, hends⟩
    · exact .inl (hsame.trans hwaits)
    · exact .inr ⟨hs.length, .last hu g ⟨hg, hwaits, hends⟩⟩
  · exact .inr ⟨k, d.concat g⟩

/-- Nobody is left on a connection that was closed, once everybody on it is at rest. -/
theorem unoccupied_of_closing {w₀ w : Workbench} {hs : List Happening} (h₀ : w₀.IsFresh)
    (h : w₀.after? hs = some w) {n : Nat} {l : Line} (hl : w.client.session.line? n = some l)
    (hclosing : l.connection.closing = true)
    (hrest : ∀ task t, w.place? task = some (n, t) → w.act? (.call task) = none) (task : TaskId)
    (t : Traffic) : w.place? task ≠ some (n, t) := by
  have hx : w.exchange? n = some ⟨l.connection, w.traffic? n⟩ := by rw [exchange?, hl]; rfl
  have orderly := exchange_induction (P := fun _ x => x.IsOrderly) (fun x hx => hx.isOrderly)
    (fun _ x x' e hx hstep => hx.step hstep) h₀ h hx
  have rest (task : TaskId) (t : Traffic) (ht : w.traffic? n task = some t) :
      ∃ q now p, t = .asks p ∧ RequestPoint.step q now l.connection p = .waits := by
    have hp := traffic?_eq_some.1 ht
    obtain ⟨q, p, he, hw⟩ := waits_of_act? (sound_after? h₀ h) hp hl (hrest task t hp)
    exact ⟨q, _, p, he, hw⟩
  have isOver := orderly.isOver (.inr hclosing) fun task p hp => by
    obtain ⟨_, _, _, he, _⟩ := rest task _ hp
    cases he
  intro hp
  have hnone := (isOver.rest rest).2 task
  have htraffic : w.traffic? n task = some t := traffic?_eq_some.2 hp
  cases htraffic.symm.trans hnone

/-- **Requests that are outstanding when a session is stopped are cancelled**, or have been answered,
if the reader of the connection does not fail before the connection is being closed.

A stop or a restart has its turn in a ready session, and a request waits for its answer on the
connection that the session holds.  After any history from there the request still waits, or it came
to its end at some moment: with what the server answered to its own number, or because it was
cancelled; or else it had a time limit, and the time was up.  It does not wait for good: once the stop
or restart has returned, somebody on the line can still take a step as long as anybody waits there. -/
theorem outstanding_requests_are_cancelled {w₀ v w : Workbench} {before after : List Happening}
    (h₀ : w₀.IsFresh) (hv : w₀.after? before = some v) (hw : v.after? after = some w)
    {n : Nat} (spared : w₀.Spares n (before ++ after)) {stopper : TaskId} {call : LifecycleCall}
    (hcall : call = .restart ∨ call = .stop) (hlock : v.client.session.lock.heldBy stopper = true)
    (hstopper : v.lifecycle? stopper = some (call, .entering))
    (hready : v.client.session.state = .ready) (hactive : v.client.session.active = some n)
    {task : TaskId} {id : UInt64} {slot : Nat} {deadline : Option Nat}
    (hwaits : v.place? task = some (n, .asks (.waiting id slot deadline))) :
    (w.place? task = some (n, .asks (.waiting id slot deadline)) ∧
      (w.lifecycle? stopper = none →
        ∃ other t, w.place? other = some (n, t) ∧ w.act? (.call other) ≠ none)) ∨
    (∃ k r, During v after k (fun u g => g = .goesOn (.call task) ∧ u.Concludes n task r) ∧
      ((∃ reason, r = .error (.cancelled reason)) ∨
        ∃ a, Exchange.IsOwn (w₀.trace n (before ++ after.take k)) id slot a ∧
          r = a.outcome.mapError Failure.ofResponseError)) ∨
    ∃ k, During v after k fun u g =>
      g = .goesOn (.call task) ∧ ∃ t, deadline = some t ∧ t ≤ u.client.now := by
  have hline : v.exchange? n ≠ none := fun hnone => by
    have := (sound_after? h₀ hv).absent task n _ hwaits (exchange?_eq_none.1 hnone)
    simp at this
  have takesDown : v.TakesDown n stopper :=
    ⟨call, .entering, hcall, hstopper, of_decide_eq_true hlock, hactive, by rw [hready]; rfl⟩
  rcases waits_after? h₀ hv hw hwaits with hstill | ⟨k, u, g, hu, hg, rfl, hplace, ⟨r, hr⟩ | htime⟩
  · refine .inl ⟨hstill, fun hreturned => ?_⟩
    -- Whoever took the connection down has closed it, so somebody there can take a step.
    have hclosing := (takesDown.after? h₀ hv hw hline).resolve_left fun ⟨_, _, _, hlife, _⟩ => by
      rw [hreturned] at hlife
      cases hlife
    by_contra hnobody
    have hrest (other : TaskId) (t : Traffic) (ht : w.place? other = some (n, t)) :
        w.act? (.call other) = none := by
      by_contra hact
      exact hnobody ⟨other, t, ht, hact⟩
    have habsent := (sound_after? h₀ (after?_trans hv hw)).absent task n _ hstill
    cases hl : w.client.session.line? n with
    | none =>
      have := habsent hl
      simp at this
    | some l =>
      exact unoccupied_of_closing h₀ (after?_trans hv hw) hl (hclosing l hl) hrest task _ hstill
  · refine .inr (.inl ⟨k, r, ⟨u, _, hu, hg, rfl, hr⟩, ?_⟩)
    have hsplit : before ++ after = before ++ after.take k ++ after.drop k := by
      rw [List.append_assoc, List.take_append_drop]
    have sparedBefore := ((hsplit ▸ spared).of_append (after?_trans hv hu)).1
    exact own_or_cancelled_of_concludes h₀ (after?_trans hv hu) sparedBefore hplace hr
  · exact .inr (.inr ⟨k, u, _, hu, hg, rfl, htime⟩)

/-! ## Two stops -/

/-- A session is started, a request is made that nobody answers, and a stop has its turn. -/
def outstandingHistory : List Happening :=
  connectedHistory ++ [Happening.calls (.ask { method := "aya/load" })]
  ++ List.replicate 6 (.goesOn (.call ⟨2⟩)) ++ [Happening.calls .stop, .goesOn (.call ⟨3⟩)]

/-- The server agrees to shut down, and is told to exit. -/
def agreedHistory : List Happening :=
  List.replicate 7 (.goesOn (.call ⟨3⟩)) ++ [answers 3] ++ List.replicate 2 (.goesOn (.reader 0))
  ++ List.replicate 2 (.goesOn (.call ⟨3⟩))

/-- The connection is closed before anybody hears that the server has gone. -/
def closedHistory : List Happening :=
  agreedHistory ++ List.replicate 8 (.goesOn (.call ⟨3⟩)) ++ [Happening.goesOn (.call ⟨2⟩)]

/-- The server goes as soon as it has been told to exit, and the reader hears of it before the
connection is marked as being closed. -/
def brokenHistory : List Happening :=
  agreedHistory ++ [Happening.streams 0 fun link => { link with ended := true }]
  ++ List.replicate 4 (.goesOn (.reader 0)) ++ [Happening.goesOn (.call ⟨2⟩)]

/-- A stop has its turn in a ready session that holds the first line, and the second call waits there
for an answer. -/
def stopsWhileWaiting (w : Workbench) : Bool :=
  w.client.session.lock.heldBy ⟨3⟩ && w.client.session.state = .ready &&
    w.client.session.active = some 0 &&
    (match w.lifecycle? ⟨3⟩ with
    | some (.stop, .entering) => true
    | _ => false) &&
    match w.place? ⟨2⟩ with
    | some (0, .asks (.waiting _ _ none)) => true
    | _ => false

theorem of_stopsWhileWaiting {w : Workbench} (h : w.stopsWhileWaiting = true) :
    w.client.session.lock.heldBy ⟨3⟩ = true ∧ w.client.session.state = .ready ∧
      w.client.session.active = some 0 ∧ w.lifecycle? ⟨3⟩ = some (.stop, .entering) ∧
      ∃ id slot, w.place? ⟨2⟩ = some (0, .asks (.waiting id slot none)) := by
  simp only [stopsWhileWaiting, Bool.and_eq_true, decide_eq_true_eq, and_assoc] at h
  obtain ⟨hlock, hready, hactive, hstopper, hwaits⟩ := h
  refine ⟨hlock, hready, hactive, ?_, ?_⟩
  · split at hstopper
    next he => exact he
    next => cases hstopper
  · split at hwaits
    next he => exact ⟨_, _, he⟩
    next => cases hwaits

theorem outstanding_request_is_cancelled :
    ∃ v w, unused.after? outstandingHistory = some v ∧ v.after? closedHistory = some w ∧
      v.stopsWhileWaiting = true ∧ ∃ k r,
        During v closedHistory k (fun u g => g = .goesOn (.call ⟨2⟩) ∧ u.Concludes 0 ⟨2⟩ r) ∧
        ((∃ reason, r = .error (.cancelled reason)) ∨ ∃ id slot a,
          Exchange.IsOwn (unused.trace 0 (outstandingHistory ++ closedHistory.take k)) id slot a ∧
          r = a.outcome.mapError Failure.ofResponseError) := by
  obtain ⟨reached, spared⟩ : (unused.after? outstandingHistory).any (fun v => v.stopsWhileWaiting &&
        (v.after? closedHistory).any fun w => (w.place? ⟨2⟩).isNone) = true ∧
      unused.record (failure? 0) (outstandingHistory ++ closedHistory) = [] := by
    decide +kernel
  obtain ⟨v, hv, hreached⟩ := (Option.any_eq_true _ _).1 reached
  obtain ⟨hstops, hreached⟩ := (Bool.and_eq_true _ _).mp hreached
  obtain ⟨w, hw, hgone⟩ := (Option.any_eq_true _ _).1 hreached
  obtain ⟨hlock, hready, hactive, hstopper, id, slot, hwaits⟩ := of_stopsWhileWaiting hstops
  refine ⟨v, w, hv, hw, hstops, ?_⟩
  rcases outstanding_requests_are_cancelled isFresh_unused hv hw spared (.inr rfl) hlock hstopper
    hready hactive hwaits with ⟨hstill, -⟩ | ⟨k, r, hconcludes, hr⟩ | ⟨_, _, _, _, _, _, _, htime, _⟩
  · rw [hstill] at hgone
    cases hgone
  · exact ⟨k, r, hconcludes, hr.imp_right fun ⟨a, ha⟩ => ⟨id, slot, a, ha⟩⟩
  · cases htime

/-- The stream of the first line has ended before the server was told to exit. -/
def breaksOff (w : Workbench) : Bool :=
  (w.client.session.line? 0).any fun l => l.connection.link.ended &&
    !l.connection.link.sent.any fun
      | .notification n => n.method = "exit"
      | _ => false

/-- The second call is told that the connection is gone. -/
def losesSecond (w : Workbench) : Bool :=
  match w.result? ⟨2⟩ with
  | some (.error (.session .terminated)) => true
  | _ => false

theorem result?_of_losesSecond {w : Workbench} (h : w.losesSecond = true) :
    w.result? ⟨2⟩ = some (.error (.session .terminated)) := by
  unfold losesSecond at h
  split at h
  next he => exact he
  next => cases h

/-- **A request is lost although the session is being stopped.**  The server goes only after it was
told to exit, but between this and the mark that the connection is being closed there is a gap, and the
reader may hear of it there. -/
theorem outstanding_request_is_lost :
    ∃ v w, unused.after? outstandingHistory = some v ∧ v.after? brokenHistory = some w ∧
      v.stopsWhileWaiting = true ∧
      (∀ k, ¬ During unused (outstandingHistory ++ brokenHistory) k fun u _ => u.breaksOff = true) ∧
      w.result? ⟨2⟩ = some (.error (.session .terminated)) := by
  obtain ⟨reached, kept⟩ : (unused.after? outstandingHistory).any (fun v => v.stopsWhileWaiting &&
        (v.after? brokenHistory).any losesSecond) = true ∧
      unused.record (fun u _ => if u.breaksOff then some () else none)
        (outstandingHistory ++ brokenHistory) = [] := by
    decide +kernel
  obtain ⟨v, hv, hreached⟩ := (Option.any_eq_true _ _).1 reached
  obtain ⟨hstops, hreached⟩ := (Bool.and_eq_true _ _).mp hreached
  obtain ⟨w, hw, hlost⟩ := (Option.any_eq_true _ _).1 hreached
  refine ⟨v, w, hv, hw, hstops, fun k d => ?_, result?_of_losesSecond hlost⟩
  obtain ⟨u, g, hu, hg, hbreaks⟩ := d
  exact not_during_of_record kept k ⟨u, g, hu, hg, by simp [hbreaks]⟩

end Workbench

end LanguageClient
