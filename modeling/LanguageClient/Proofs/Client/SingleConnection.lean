import LanguageClient.Proofs.Client.Lifecycle
import LanguageClient.Proofs.Connection.Request

/-!
# A session has one connection at most

However calls that start, restart and stop a session are mixed with each other and with everything
else that goes on, the session never has two connections: a new one is only asked for when all those
before it have been disposed.

* `Failure.IsRefusal` — a call is refused because of the state.  `LifecyclePoint.Excused` follows the
  failures that a start carries with it, none of which is a refusal of its own.
* `Workbench.start_excused` — so a start returns a refusal only if it was given one instead of a
  connection.
* **`single_connection`** — what is known of the session while nobody starts or stops it, and of
  whoever starts, restarts or asks for a connection.
-/

namespace LanguageClient

open Session

/-! ## Failures of a start -/

/-- What was wanted is not possible in the state that the session is in. -/
def Failure.IsRefusal (e : Failure) : Prop := ∃ action state, e = .invalidState action state

theorem Failure.EndsRequest.not_isRefusal {e : Failure} (h : e.EndsRequest) : ¬ e.IsRefusal := by
  rintro ⟨action, state, rfl⟩
  exact h

/-- What the server answers is no refusal of this kind. -/
theorem Failure.not_isRefusal_ofResponseError (e : ResponseError) :
    ¬ (Failure.ofResponseError e).IsRefusal := by
  rintro ⟨action, state, h⟩
  unfold ofResponseError at h
  split at h
  next => cases h
  next => split at h <;> cases h

/-- A request that is being withdrawn was given up. -/
def RequestPoint.Excused : RequestPoint → Prop
  | withdrawing _ e => e.GivesUp
  | _ => True

theorem RequestPoint.step_excused {p : RequestPoint} (h : p.Excused) (q : Query) (now : Nat)
    (c : Connection) :
    (p.step q now c).Leads (fun _ p' => p'.Excused) fun _ r => ∀ e, r = .error e → ¬ e.IsRefusal := by
  cases hs : p.step q now c with
  | waits => trivial
  | goesOn c' p' =>
    cases p' with
    | withdrawing id e => exact (goes_of_step hs).givesUp
    | _ => trivial
  | ends c' r =>
    rintro e rfl
    generalize hr : Except.error e = r at hs
    cases ends_of_step hs with
    | lost _ => cases hr; exact Failure.EndsRequest.not_isRefusal trivial
    | @returns id slot deadline x _ =>
      cases ho : x.outcome with
      | ok j => rw [ho] at hr; cases hr
      | error e' =>
        rw [ho] at hr
        cases hr
        exact Failure.not_isRefusal_ofResponseError e'
    | abandoned _ _ => cases hr; exact Failure.EndsRequest.not_isRefusal trivial
    | withdraws => cases hr; exact (Failure.GivesUp.endsRequest h).not_isRefusal

def InitializePoint.Excused : InitializePoint → Prop
  | asking p => p.Excused
  | _ => True

theorem InitializePoint.step_excused {p : InitializePoint} (h : p.Excused) (q : Query) (now : Nat)
    (c : Connection) :
    (p.step q now c).Leads (fun _ p' => p'.Excused) fun _ r => ∀ e, r = .error e → ¬ e.IsRefusal := by
  cases p with
  | asking p =>
    have hstep := RequestPoint.step_excused h q now c
    rw [step]
    cases hs : p.step q now c with
    | waits => trivial
    | goesOn c' p' => rw [hs] at hstep; exact hstep
    | ends c' r =>
      rw [hs] at hstep
      cases r with
      | error e =>
        rintro e' ⟨⟩
        exact hstep e rfl
      | ok j =>
        simp only [readResult, Except.bind]
        cases InitializeResult.decode j with
        | ok r => trivial
        | error fault =>
          rintro e ⟨⟩ ⟨_, _, he⟩
          cases he
  | remembering r => trivial
  | confirming r =>
    intro e he
    replace he : (c.tryWrite Handshake.confirmation).2.map (fun _ => r) = .error e := he
    cases hw : (c.tryWrite Handshake.confirmation).2 with
    | ok u => rw [hw] at he; cases he
    | error e' =>
      rw [hw] at he
      cases he
      rcases Connection.tryWrite_error hw with rfl | ⟨io, rfl⟩ <;>
        exact Failure.EndsRequest.not_isRefusal trivial

section

variable {A : Failure → Prop} {s : Session}

/-- The failure that an attempt to connect carries with it is an allowed one. -/
def ConnectPoint.Excused (A : Failure → Prop) : ConnectPoint → Prop
  | initializing _ p => p.Excused
  | abandoning _ e _ | killing _ e | failing e => A e
  | _ => True

/-- **A connection fails for a reason that its handshake or its opening gives.** -/
theorem ConnectPoint.step_excused (hA : ∀ e, ¬ e.IsRefusal → A e)
    (hoffer : ∀ e, s.offer = some (.error e) → A e) {p : ConnectPoint} (h : p.Excused A)
    (endpoint : Endpoint) (now : Nat) :
    (p.step endpoint now s).Leads (fun _ p' => p'.Excused A) fun _ r => ∀ e, r = .error e → A e := by
  have onLine {π α : Type} (n : Nat) {f : Connection → Progress Connection π α}
      {P : π → Prop} {Q : α → Prop} (hf : ∀ c, (f c).Leads (fun _ x => P x) fun _ a => Q a) :
      (s.onLine n f).Leads (fun _ x => P x) fun _ a => Q a := by
    unfold Session.onLine
    split
    next => trivial
    next l _ =>
      have := hf l.connection
      cases hs : f l.connection <;> rw [hs] at this <;> exact this
  cases p with
  | opening =>
    rw [step]
    split
    next => trivial
    next e ho => exact hoffer e ho
    next => trivial
  | initializing n p =>
    refine (onLine n fun c => InitializePoint.step_excused h s.initializeQuery now c).within
      (fun _ _ hp => hp) fun _ r hr => ?_
    cases r with
    | ok r => trivial
    | error e => exact hA e (hr e rfl)
  | abandoning n e p =>
    exact (onLine n fun c => (p.step abandonReason c).leads_true).within (fun _ _ _ => h)
      fun _ _ _ => h
  | killing n e => exact h
  | failing e =>
    rintro e' ⟨⟩
    exact h
  | handingOver n generation => rintro e ⟨⟩
  | _ => trivial

/-- The same of a call that starts the session, and of what it is about to return. -/
def LifecyclePoint.Excused (A : Failure → Prop) : LifecyclePoint → Prop
  | connecting _ p => p.Excused A
  | leaving (.error e) => A e
  | _ => True

theorem LifecyclePoint.Excused.mono {B : Failure → Prop} (hAB : ∀ e, A e → B e)
    {p : LifecyclePoint} (h : p.Excused A) : p.Excused B := by
  cases p with
  | connecting endpoint p =>
    cases p with
    | abandoning n e p => exact hAB e h
    | killing n e => exact hAB e h
    | failing e => exact hAB e h
    | _ => exact h
  | leaving result =>
    cases result with
    | ok u => trivial
    | error e => exact hAB e h
  | _ => trivial

theorem LifecyclePoint.step_excused (hA : ∀ e, ¬ e.IsRefusal → A e)
    (hoffer : ∀ e, s.offer = some (.error e) → A e) {p : LifecyclePoint} (hp : p.hasEntered = true)
    (h : p.Excused A) (task : TaskId) (call : LifecycleCall) (now : Nat) :
    (p.step task call now s).Leads (fun _ p' => p'.Excused A)
      fun _ r => ∀ e, r = .error e → A e := by
  cases p with
  | queueing => cases hp
  | entering => cases hp
  | tearing graceful next p =>
    refine (p.step graceful (reason call) now s).leads_true.within (fun _ _ _ => trivial)
      fun _ _ _ => ?_
    unfold afterTeardown
    split <;> trivial
  | connecting endpoint p =>
    refine (ConnectPoint.step_excused hA hoffer h endpoint now).within (fun _ _ hp => hp)
      fun _ r hr => ?_
    cases r with
    | ok u => trivial
    | error e => exact hr e rfl
  | leaving result =>
    rintro e rfl
    exact h
  | _ => trivial

end

namespace Workbench

/-! ## What a start returns -/

/-- A failure that is no refusal, or that was given instead of a connection. -/
def Allowed (w₀ : Workbench) (hs : List Happening) (e : Failure) : Prop :=
  ¬ e.IsRefusal ∨ ∃ k, During w₀ hs k fun v _ => v.client.session.offer = some (.error e)

/-- No start carries a failure with it but an allowed one. -/
def Excused (w₀ : Workbench) (hs : List Happening) (w : Workbench) : Prop :=
  ∀ task endpoint p, w.entered? task = some (.start endpoint, p) → p.Excused (Allowed w₀ hs)

theorem Allowed.concat {w₀ : Workbench} {hs : List Happening} {e : Failure} (h : Allowed w₀ hs e)
    (g : Happening) : Allowed w₀ (hs ++ [g]) e :=
  h.imp id fun ⟨k, d⟩ => ⟨k, d.concat g⟩

/-- What happens leaves every start with an allowed failure. -/
theorem Excused.concat {w₀ w w' : Workbench} {hs : List Happening} {g : Happening} (h₀ : w₀.IsFresh)
    (hw : w₀.after? hs = some w) (hexcused : Excused w₀ hs w) (hstep : w.happen? g = some w') :
    Excused w₀ (hs ++ [g]) w' := by
  intro task endpoint p' he'
  -- What a call carried with it before is allowed still.
  have still {p : LifecyclePoint} (hp : p.Excused (Allowed w₀ hs)) :
      p.Excused (Allowed w₀ (hs ++ [g])) :=
    LifecyclePoint.Excused.mono (fun e ha => ha.concat g) hp
  have stays (hsame : w'.entered? task = w.entered? task) : p'.Excused (Allowed w₀ (hs ++ [g])) :=
    still (hexcused task endpoint p' (hsame ▸ he'))
  have allowed (e : Failure) (ho : w.client.session.offer = some (.error e)) :
      Allowed w₀ (hs ++ [g]) e :=
    .inr ⟨hs.length, .last hw g ho⟩
  obtain ⟨hlife', _⟩ := entered?_eq_some.1 he'
  cases happen?_shift (sound_after? h₀ hw) hstep with
  | drifts _ calls _ => exact stays (calls task)
  | @enters other call hp lock session hp' others =>
    by_cases e : task = other
    · subst e
      rw [hp'] at hlife'
      cases hlife'
      rw [LifecyclePoint.enter_start ((orderly_after? h₀ hw).settled_of_entering lock hp)]
      split <;> trivial
    · exact stays (others task e)
  | @goesOn other call p q hp hgoes hp' others =>
    by_cases e : task = other
    · subst e
      rw [hp'] at hlife'
      cases hlife'
      have step := LifecyclePoint.step_excused (fun e he => .inl he) allowed
        (entered?_eq_some.1 hp).2 (still (hexcused task endpoint p hp)) task (.start endpoint)
        w.client.now
      rw [hgoes] at step
      exact step
    · exact stays (others task e)
  | @ends other call p r hp _ hp' others =>
    by_cases e : task = other
    · rw [← e, he'] at hp'
      cases hp'
    · exact stays (others task e)

/-- **A start fails for a reason that was given to it**, and never because of the state. -/
theorem start_excused {w₀ w : Workbench} {hs : List Happening} (h₀ : w₀.IsFresh)
    (h : w₀.after? hs = some w) : Excused w₀ hs w := by
  refine after?_induction (P := fun hs w => Excused w₀ hs w) ?_ ?_ h
  · intro task endpoint p he
    rw [entered?, lifecycle?, h₀.calls] at he
    cases he
  · intro hs g w w' hw hexcused hstep
    exact hexcused.concat h₀ hw hstep

/-! ## One connection -/

/-- Who asks for a connection does so while there is none. -/
theorem Orderly.opens {first : Nat} {last : Option Endpoint} {w w' : Workbench}
    (hw : w.Orderly first last) {g : Happening} (h : w.Shift w' g)
    (hopens : w'.client.session.opens ≠ w.client.session.opens) :
    w.client.session.Vacant first none := by
  cases h with
  | drifts drifts _ _ => exact absurd drifts.opens hopens
  | enters _ _ session _ _ => rw [session] at hopens; exact absurd rfl hopens
  | @goesOn task call p p' hp h _ _ =>
    have hfits := (hw.holds task call p hp).2
    by_cases hasks : ∃ endpoint, p = .connecting endpoint .asking
    · obtain ⟨endpoint, rfl⟩ := hasks
      exact hfits.1
    · have step := p.step_opens task call w.client.now w.client.session fun endpoint e =>
        hasks ⟨endpoint, e⟩
      rw [h] at step
      exact absurd step hopens
  | @ends task call p r hp h _ _ =>
    have step := p.step_opens task call w.client.now w.client.session fun endpoint e => by
      subst e
      cases h
    rw [h] at step
    exact absurd step hopens

/-- **A session has one connection at most.**  Whatever has been going on:

* While nobody holds the lock, or its holder is only about to look at the session, the state is one to
  rest in; a ready session holds a connection, and one that is idle or stopped holds none.
* When a connection is asked for, none is held or on its way, and every connection that was opened
  before has been closed and its process has ended.
* A start whose turn has come is never refused: it finds the session ready, or goes on to connect.
  So it returns a refusal only if it was given one instead of a connection.
* A restart whose turn has come, and which the state allows, finds an endpoint, which is that of the
  latest start that did not find the session ready. -/
theorem single_connection {w₀ w : Workbench} {hs : List Happening} (h₀ : w₀.IsFresh)
    (h : w₀.after? hs = some w) :
    ((w.client.session.lock.isFree = true ∨ ∃ task call,
        w.client.session.lock.heldBy task = true ∧ w.lifecycle? task = some (call, .entering)) →
      (w.client.session.state = .idle ∨ w.client.session.state = .ready ∨
        w.client.session.state = .failed ∨ w.client.session.state = .stopped) ∧
      (w.client.session.state = .ready →
        ∃ n l, w.client.session.active = some n ∧ w.client.session.line? n = some l) ∧
      (w.client.session.state = .idle ∨ w.client.session.state = .stopped →
        w.client.session.active = none)) ∧
    (∀ g w', w.happen? g = some w' → w'.client.session.opens ≠ w.client.session.opens →
      w.client.session.active = none ∧ w.client.session.wanted = none ∧
      w.client.session.offer = none ∧
      ∀ n l, w₀.client.session.lines.length ≤ n → w.client.session.line? n = some l →
        l.IsDisposed) ∧
    (∀ task endpoint, w.client.session.lock.heldBy task = true →
      w.lifecycle? task = some (.start endpoint, .entering) →
      LifecyclePoint.enter (.start endpoint) w.client.session =
        if w.client.session.state = .ready then .leaving (.ok ())
        else .tearing false (some endpoint) .taking) ∧
    (∀ task endpoint p s action state, w.lifecycle? task = some (.start endpoint, p) →
      p.step task (.start endpoint) w.client.now w.client.session =
        .ends s (.error (.invalidState action state)) →
      ∃ k, During w₀ hs k fun v _ =>
        v.client.session.offer = some (.error (.invalidState action state))) ∧
    ∀ task, w.client.session.lock.heldBy task = true →
      w.lifecycle? task = some (.restart, .entering) →
      w.client.session.state.canRestart = true →
      ∃ endpoint, w₀.latestStart? hs = some endpoint ∧
        w.client.session.remembered = some endpoint ∧
        LifecyclePoint.enter .restart w.client.session =
          .switching (w.client.session.state = .ready) endpoint := by
  have orderly := orderly_after? h₀ h
  have holder {task : TaskId} (hl : w.client.session.lock.heldBy task = true) :
      w.client.session.lock.holder? = some task := of_decide_eq_true hl
  refine ⟨fun hfree => ?_, fun g w' hstep hopens => ?_, fun task endpoint hl hp => ?_,
    fun task endpoint p s action state hp hends => ?_, fun task hl hp hs => ?_⟩
  · have settled : w.client.session.Settled w₀.client.session.lines.length (w₀.latestStart? hs) := by
      rcases hfree with hfree | ⟨task, call, hl, hp⟩
      · exact orderly.settled_of_free hfree
      · exact orderly.settled_of_entering (holder hl) hp
    refine ⟨settled.states, fun hready => ?_, settled.rest⟩
    obtain ⟨n, hn⟩ := Option.isSome_iff_exists.1 (settled.ready hready)
    exact ⟨n, _, hn, List.getElem?_eq_getElem (settled.held n hn)⟩
  · have vacant := orderly.opens (happen?_shift (sound_after? h₀ h) hstep) hopens
    exact ⟨vacant.active, vacant.wanted, vacant.offer, fun n l hn hline =>
      vacant.disposed n l hn nofun hline⟩
  · exact LifecyclePoint.enter_start (orderly.settled_of_entering (holder hl) hp) endpoint
  · obtain rfl := LifecyclePoint.eq_leaving_of_ends hends
    rcases start_excused h₀ h task endpoint _ (entered?_eq_some.2 ⟨hp, rfl⟩) with hno | hgiven
    · exact absurd ⟨action, state, rfl⟩ hno
    · exact hgiven
  · exact LifecyclePoint.enter_restart (orderly.settled_of_entering (holder hl) hp) hs

/-- A session that nobody has used, and that somebody else opens connections for. -/
def unused : Workbench := { opener := none }

theorem isFresh_unused : unused.IsFresh where
  calls := rfl
  returned := rfl
  state := rfl
  active := rfl
  activeHeld := rfl
  remembered := rfl
  lock := rfl
  lines l hl := nomatch hl
  watches := rfl
  wanted := rfl
  offer := rfl
  opener o ho := by cases ho

/-- The server of the first line sends a message. -/
def sends (body : String) : Happening :=
  .streams 0 fun link =>
    { link with received := link.received ++ [Utf8.ofString (Frame.encode body)] }

/-- The server of the first line answers a request with an empty table. -/
def answers (id : Nat) : Happening :=
  sends ("\x7b\"jsonrpc\":\"2.0\",\"id\":" ++ toString id ++ ",\"result\":\x7b\x7d\x7d")

/-- A call takes some steps. -/
def takes (number steps : Nat) : List Happening := List.replicate steps (.goesOn (.call ⟨number⟩))

/-- A start is made, and the server agrees. -/
def connectedHistory : List Happening :=
  [Happening.calls (.start (.tcpClient "localhost" 1859))] ++ List.replicate 6 (.goesOn (.call ⟨1⟩))
  ++ [Happening.opens {} "localhost" none] ++ List.replicate 5 (.goesOn (.call ⟨1⟩)) ++ [answers 1]
  ++ List.replicate 2 (.goesOn (.reader 0)) ++ List.replicate 7 (.goesOn (.call ⟨1⟩))

/-- A start is made and answered, and then a restart is made, whose turn has come. -/
def restartHistory : List Happening :=
  [Happening.calls (.start (.tcpClient "localhost" 1859))] ++ List.replicate 6 (.goesOn (.call ⟨1⟩))
  ++ [Happening.opens {} "localhost" none] ++ List.replicate 5 (.goesOn (.call ⟨1⟩))
  ++ [Happening.streams 0 fun link => { link with received := [
      Utf8.ofString (Frame.encode "\x7b\"jsonrpc\":\"2.0\",\"id\":1,\"result\":\x7b\x7d\x7d")] }]
  ++ List.replicate 2 (.goesOn (.reader 0)) ++ List.replicate 7 (.goesOn (.call ⟨1⟩))
  ++ [Happening.calls .replace, .goesOn (.call ⟨2⟩)]

/-- The second call has the lock and is about to restart. -/
def restartsSecond (w : Workbench) : Bool :=
  match w.lifecycle? ⟨2⟩ with
  | some (.restart, .entering) => true
  | _ => false

theorem lifecycle?_of_restartsSecond {w : Workbench} (h : w.restartsSecond = true) :
    w.lifecycle? ⟨2⟩ = some (.restart, .entering) := by
  unfold restartsSecond at h
  split at h
  next he => exact he
  next => cases h

theorem single_connection_restarted :
    ∃ w endpoint, unused.after? restartHistory = some w ∧
      w.client.session.lock.heldBy ⟨2⟩ = true ∧ w.lifecycle? ⟨2⟩ = some (.restart, .entering) ∧
      w.client.session.state = .ready ∧
      (∃ n l, w.client.session.active = some n ∧ w.client.session.line? n = some l) ∧
      unused.latestStart? restartHistory = some endpoint ∧
      LifecyclePoint.enter .restart w.client.session = .switching true endpoint := by
  have reached : (unused.after? restartHistory).any (fun w =>
      w.client.session.lock.heldBy ⟨2⟩ && w.client.session.state = .ready && w.restartsSecond) =
        true := by
    decide +kernel
  obtain ⟨w, hw, hreached⟩ := (Option.any_eq_true _ _).1 reached
  simp only [Bool.and_eq_true, decide_eq_true_eq] at hreached
  obtain ⟨⟨hlock, hready⟩, hpoint⟩ := hreached
  have hp := lifecycle?_of_restartsSecond hpoint
  obtain ⟨rests, -, -, -, restarts⟩ := single_connection isFresh_unused hw
  obtain ⟨-, held, -⟩ := rests (.inr ⟨⟨2⟩, .restart, hlock, hp⟩)
  obtain ⟨endpoint, hlatest, -, henter⟩ := restarts ⟨2⟩ hlock hp (by rw [hready]; rfl)
  exact ⟨w, endpoint, hw, hlock, hp, hready, held hready, hlatest, by rw [henter]; simp [hready]⟩

end Workbench

end LanguageClient
