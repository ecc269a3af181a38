import LanguageClient.Proofs.Client.Utterances

/-!
# Actions that show nothing

An action may fail in many ways: its document cannot be saved, there is no server, the server cannot be
told, it answers with an error or with something else than was asked for.  However it fails, what a
person sees is what it was, for only the last step of an action touches the overlay, and before it the
action has its whole answer.

* `Client.LooksLike` — two clients look the same to a person.
* `Client.ShowsNothing` — results that nobody sees: failures, none at all, a computed term of another
  document.
* `RunPoint.Keeps` — what an action has not done up to a point; **`RunPoint.step_keeps`** is its step lemma.
* `Workbench.LeavesEditorTo` — nobody but one action touches the editor.
* **`failed_action_is_unseen`**.
-/

namespace LanguageClient

open Session

/-! ## What a person sees -/

/-- What is known of highlights, what is painted and owned, every selection, the active editor and
every text are the same. -/
structure Client.LooksLike (c c' : Client) : Prop where
  overlay : c'.overlay = c.overlay
  canvas : c'.editor.canvas = c.editor.canvas
  views : c'.editor.views = c.editor.views
  active : c'.editor.active = c.editor.active
  texts : ∀ uri, c'.editor.text? uri = c.editor.text? uri

/-- What an action that works on the active editor does not show. -/
def Client.ShowsNothing (c : Client) : Except ClientError (Option ActionOutcome) → Prop
  | .error _ | .ok none => True
  | .ok (some (.computed r)) => ∀ e, c.editor.activeEditor = some e → e.uri ≠ r.uri
  | .ok (some (.highlights _)) => False

namespace Client.LooksLike

variable {c c' c'' : Client}

theorem of_editor (overlay : c'.overlay = c.overlay) (editor : c'.editor = c.editor) :
    c.LooksLike c' :=
  ⟨overlay, by rw [editor], by rw [editor], by rw [editor], fun _ => by rw [editor]⟩

theorem refl (c : Client) : c.LooksLike c := of_editor rfl rfl

theorem trans (h : c.LooksLike c') (h' : c'.LooksLike c'') : c.LooksLike c'' :=
  ⟨h'.overlay.trans h.overlay, h'.canvas.trans h.canvas, h'.views.trans h.views,
    h'.active.trans h.active, fun uri => (h'.texts uri).trans (h.texts uri)⟩

theorem activeEditor (h : c.LooksLike c') : c'.editor.activeEditor = c.editor.activeEditor := by
  unfold HeadlessEditor.activeEditor HeadlessEditor.viewById?
  rw [h.active, h.views]

/-- Saving a document does not change its text. -/
theorem endSave (c : Client) (uri : String) :
    c.LooksLike { c with editor := c.editor.endSave uri } where
  overlay := rfl
  canvas := rfl
  views := rfl
  active := rfl
  texts uri' := by
    rw [HeadlessEditor.text?, HeadlessEditor.endSave, Table.get?_modify]
    split
    next heq =>
      subst heq
      rw [HeadlessEditor.text?, Option.map_map]
      rfl
    next => rfl

/-- A computed term of another document is not marked. -/
theorem routeComputed {e : EditorRef} {r : ComputeTermResult} (h : e.uri ≠ r.uri) (c : Client) :
    c.LooksLike (c.route e (.computed r)) := by
  rw [Client.route, Overlay.showComputed, if_neg h]
  exact of_editor rfl rfl

end Client.LooksLike

/-! ## The steps of an action -/

theorem Client.onSession_looksLike {π α : Type} (c : Client) (p : Progress Session π α) :
    (c.onSession p).All c.LooksLike := by
  cases p with
  | waits => trivial
  | goesOn s x => exact .of_editor rfl rfl
  | ends s a => exact .of_editor rfl rfl

/-- An action that works on the active editor, if it works on any, goes on with it, and shows something
only where it ends.  Without an active editor it ends at once and does nothing. -/
theorem ActionPoint.step_unseen (task : TaskId) (kind : ActionKind) {c : Client} {p : ActionPoint}
    (hp : ∀ e, p.editor? = some e → c.editor.activeEditor = some e) :
    (p.step task kind c).Leads
      (fun c' p' => c.LooksLike c' ∧ c.editor.activeEditor ≠ none ∧
        ∀ e, p'.editor? = some e → c.editor.activeEditor = some e)
      fun c' r => (c.ShowsNothing r → c.LooksLike c') ∧
        (c.editor.activeEditor = none → c' = c ∧ r = .ok none) := by
  have idle {e : EditorRef} (he : p.editor? = some e) : c.editor.activeEditor ≠ none := by
    rw [hp e he]
    nofun
  cases p with
  | picking =>
    rw [step]
    split
    next => exact ⟨fun _ => .refl c, fun _ => ⟨rfl, rfl⟩⟩
    next editor he =>
      refine ⟨.refl c, by rw [he]; nofun, fun e h => ?_⟩
      cases h
      exact he
  | saving editor =>
    rw [step]
    split
    next => exact ⟨fun _ => .refl c, fun h => absurd h (idle rfl)⟩
    next => exact ⟨.refl c, idle rfl, hp⟩
    next => exact ⟨.refl c, idle rfl, hp⟩
  | writing editor path text =>
    rw [step]
    split
    next => exact ⟨fun _ => .refl c, fun h => absurd h (idle rfl)⟩
    next => exact ⟨.of_editor rfl rfl, idle rfl, hp⟩
  | saved editor => exact ⟨.endSave c editor.uri, idle rfl, hp⟩
  | reading editor => exact ⟨.refl c, idle rfl, hp⟩
  | syncing editor text p =>
    have looks := c.onSession_looksLike
      (p.step .beginning (fun p x => p.step task editor.uri text x) c.session)
    rw [step]
    split
    next => trivial
    next he => rw [he] at looks; exact ⟨looks, idle rfl, hp⟩
    next he => rw [he] at looks; exact ⟨looks, idle rfl, hp⟩
    next he => rw [he] at looks; exact ⟨fun _ => looks, fun h => absurd h (idle rfl)⟩
  | querying editor => exact ⟨.refl c, idle rfl, hp⟩
  | asking editor q p =>
    have looks := c.onSession_looksLike (p.step .beginning (fun p x => p.step q c.now x) c.session)
    rw [step]
    split
    next => trivial
    next he => rw [he] at looks; exact ⟨looks, idle rfl, hp⟩
    next he =>
      rw [he] at looks
      split
      next => exact ⟨fun _ => looks, fun h => absurd h (idle rfl)⟩
      next => exact ⟨fun _ => looks, fun h => absurd h (idle rfl)⟩
      next => exact ⟨looks, idle rfl, hp⟩
  | routing editor outcome =>
    refine ⟨fun hr => ?_, fun h => absurd h (idle rfl)⟩
    cases outcome with
    | highlights r => exact hr.elim
    | computed r => exact .routeComputed (hr editor (hp editor rfl)) c

/-- What a run that began to act on `c` has not done to `c'` when it has come this far. -/
def RunPoint.Keeps (c c' : Client) : RunPoint → Prop
  | flushing | waiting => False
  | acting p => c.LooksLike c' ∧ ∀ e, p.editor? = some e → c.editor.activeEditor = some e
  | flushingAfter r | waitingAfter r => (c.ShowsNothing r → c.LooksLike c') ∧
      (c.editor.activeEditor = none → r = .ok none)

namespace RunPoint

variable {c c' c'' : Client} {p : RunPoint}

theorem Keeps.of_looksLike (h : p.Keeps c c') (looks : c'.LooksLike c'') : p.Keeps c c'' := by
  cases p with
  | acting p => exact ⟨h.1.trans looks, h.2⟩
  | flushingAfter r => exact ⟨fun hr => (h.1 hr).trans looks, h.2⟩
  | waitingAfter r => exact ⟨fun hr => (h.1 hr).trans looks, h.2⟩
  | _ => exact h

/-- Without an active editor there is nothing to say. -/
theorem Keeps.saying? (h : p.Keeps c c') (idle : c.editor.activeEditor = none) : p.saying? = none := by
  cases p with
  | acting p =>
    cases p with
    | syncing e text p => exact absurd (idle.symm.trans (h.2 e rfl)) nofun
    | asking e q p => exact absurd (idle.symm.trans (h.2 e rfl)) nofun
    | _ => rfl
  | _ => rfl

/-- **A step of a run keeps what it is to keep**, and without an active editor no file is written. -/
theorem step_keeps (task : TaskId) (kind : ActionKind) (reporting : Bool) (h : p.Keeps c c') :
    (p.step task kind reporting c').Leads
      (fun c'' p' => p'.Keeps c c'' ∧ (c.editor.activeEditor = none → c''.files = c'.files))
      fun c'' _ => c.editor.activeEditor = none → c''.files = c'.files := by
  cases p with
  | flushing => exact h.elim
  | waiting => exact h.elim
  | acting p =>
    obtain ⟨looks, hp⟩ := h
    have active := looks.activeEditor
    have unseen := p.step_unseen task kind (c := c') fun e he => active.trans (hp e he)
    have shows {r : Except ClientError (Option ActionOutcome)} (hr : c.ShowsNothing r) :
        c'.ShowsNothing r := by
      unfold Client.ShowsNothing at hr ⊢
      rwa [active]
    rw [active] at unseen
    rw [step]
    split
    next => trivial
    next he =>
      rw [he] at unseen
      exact ⟨⟨looks.trans unseen.1, unseen.2.2⟩, fun hnone => absurd hnone unseen.2.1⟩
    next c'' r he =>
      rw [he] at unseen
      obtain ⟨same, idle⟩ := unseen
      -- a failure that nobody asked for is only logged, and shows as little as one that is reported
      cases reporting with
      | true =>
        exact ⟨⟨fun hr => looks.trans (same (shows hr)), fun hnone => (idle hnone).2⟩,
          fun hnone => by rw [(idle hnone).1]⟩
      | false => cases r with
        | ok outcome =>
          exact ⟨⟨fun hr => looks.trans (same (shows hr)), fun hnone => (idle hnone).2⟩,
            fun hnone => by rw [(idle hnone).1]⟩
        | error e =>
          exact ⟨⟨fun _ => looks.trans ((same trivial).trans (.of_editor rfl rfl)), fun _ => rfl⟩,
            fun hnone => by cases (idle hnone).2⟩
  | flushingAfter r => exact ⟨h.of_looksLike (.of_editor rfl rfl), fun _ => rfl⟩
  | waitingAfter r =>
    rw [step]
    split
    next => exact fun _ => rfl
    next => trivial

end RunPoint

/-! ## What others do -/

/-- The call may touch the editor or the files. -/
def Call.usesEditor : Call → Bool
  | run .. | openFile .. => true
  | _ => false

/-- Who sees the client sees no difference, nor does who reads the files. -/
def Client.IsUntouched (c c' : Client) : Prop := c.LooksLike c' ∧ c'.files = c.files

theorem Client.isUntouched_of_editor {c c' : Client} (overlay : c'.overlay = c.overlay)
    (editor : c'.editor = c.editor) (files : c'.files = c.files) : c.IsUntouched c' :=
  ⟨.of_editor overlay editor, files⟩

theorem Call.last_isUntouched {π α : Type} (c : Client) (p : Progress Session π α) (wrap : π → Call)
    (result : α → CallResult) : ((c.onSession p).last wrap result).All c.IsUntouched := by
  cases p with
  | waits => trivial
  | goesOn s x => exact Client.isUntouched_of_editor rfl rfl rfl
  | ends s a => exact Client.isUntouched_of_editor rfl rfl rfl

theorem Call.step_isUntouched (task : TaskId) (c : Client) {call : Call}
    (h : call.usesEditor = false) : (call.step task c).All c.IsUntouched := by
  cases call with
  | run kind reporting p => cases h
  | openFile path p => cases h
  | startUp p =>
    cases p with
    | finding =>
      rw [step]
      split
      next =>
        unfold Client.announce
        split
        next => exact Client.isUntouched_of_editor rfl rfl rfl
        next => exact ⟨⟨rfl, rfl, rfl, rfl, fun _ => rfl⟩, rfl⟩
      next => exact Client.isUntouched_of_editor rfl rfl rfl
    | starting endpoint p => exact last_isUntouched ..
  | restart p =>
    rw [step]
    cases p.step task .restart c.now c.session with
    | waits => trivial
    | goesOn s x => exact Client.isUntouched_of_editor rfl rfl rfl
    | ends s r => cases r <;> exact Client.isUntouched_of_editor rfl rfl rfl
  | _ => exact last_isUntouched ..

theorem Client.absorbAll_isUntouched (c : Client) (step : Session × List Signal) :
    c.IsUntouched (c.absorbAll step) := by
  have fold (signals : List Signal) {c' : Client} (h : c.IsUntouched c') :
      c.IsUntouched (signals.foldl absorb c') := by
    induction signals generalizing c' with
    | nil => exact h
    | cons x signals ih =>
      refine ih ⟨h.1.trans ?_, ?_⟩
      · unfold absorb
        split
        next => exact .of_editor rfl rfl
        next => exact .of_editor rfl rfl
        next => split <;> exact .of_editor rfl rfl
      · refine Eq.trans ?_ h.2
        unfold absorb
        split
        next => rfl
        next => rfl
        next => split <;> rfl
  exact fold step.2 (isUntouched_of_editor rfl rfl rfl)

namespace Workbench

variable {w₀ u v v' w : Workbench} {before more : List Happening} {g : Happening} {task : TaskId}

/-- Nobody but one call touches the editor: there are other calls, the readers go on, time passes and
the server does what it likes, but the dispatcher has its turn at another time, and people wait. -/
def LeavesEditorTo (task : TaskId) (w : Workbench) : Happening → Prop
  | .goesOn (.call other) =>
    other = task ∨ ∀ call, w.calls.get? other = some call → call.usesEditor = false
  | .goesOn .dispatcher | .edits _ => False
  | _ => True

theorem LeavesEditorTo.isUntouched (leaves : v.LeavesEditorTo task g) (h : v.happen? g = some v')
    (hg : g ≠ .goesOn (.call task)) : v.client.IsUntouched v'.client := by
  cases g with
  | goesOn a =>
    cases a with
    | call other =>
      obtain ⟨call, hcall, h⟩ := act?_call h
      rcases leaves with rfl | leaves
      · exact absurd rfl hg
      have step := call.step_isUntouched other v.client (leaves call hcall)
      rcases h with ⟨client, call', hstep, rfl⟩ | ⟨client, r, hstep, rfl⟩ <;>
      · rw [hstep] at step
        exact step
    | reader n =>
      obtain ⟨_, _, _, _, rfl, _⟩ := act?_reader (.inl rfl) h
      exact v.client.absorbAll_isUntouched _
    | lateReader n =>
      obtain ⟨_, _, _, _, rfl, _⟩ := act?_reader (.inr rfl) h
      exact v.client.absorbAll_isUntouched _
    | dispatcher => exact leaves.elim
    | opener =>
      obtain ⟨_, _, _, _, rfl⟩ := act?_opener h
      exact Client.isUntouched_of_editor rfl rfl rfl
    | _ =>
      obtain ⟨_, _, rfl⟩ := Option.map_eq_some_iff.1 h
      exact Client.isUntouched_of_editor rfl rfl rfl
  | calls c =>
    obtain ⟨_, rfl⟩ := happen?_calls.1 h
    exact Client.isUntouched_of_editor rfl rfl rfl
  | opens link peer process =>
    obtain ⟨_, rfl⟩ := answer?_eq_some.1 h
    exact Client.isUntouched_of_editor rfl rfl rfl
  | refuses e =>
    obtain ⟨_, rfl⟩ := answer?_eq_some.1 h
    exact Client.isUntouched_of_editor rfl rfl rfl
  | edits f => exact leaves.elim
  | _ => cases h; exact Client.isUntouched_of_editor rfl rfl rfl

/-! ## Histories -/

/-- What an action that began on `u` has not done when `u` has become `v`. -/
structure IsUnseen (u : Workbench) (task : TaskId) (more : List Happening) (v : Workbench) : Prop where
  numbered : task.number ≤ v.latestTask
  calls : ∀ call, v.calls.get? task = some call →
    ∃ kind reporting p, call = .run kind reporting p ∧ p.Keeps u.client v.client
  idle : u.client.editor.activeEditor = none →
    v.client.files = u.client.files ∧ ∀ n, u.said task n more = []

/-- The step of the action itself. -/
theorem IsUnseen.call (h : u.IsUnseen task more v) (hv : u.after? more = some v)
    (hs : v.act? (.call task) = some v') : u.IsUnseen task (more ++ [.goesOn (.call task)]) v' := by
  obtain ⟨call, hcall, hs⟩ := act?_call hs
  obtain ⟨kind, reporting, p, rfl, keeps⟩ := h.calls call hcall
  have step : (Call.step task v.client (.run kind reporting p)).Leads
      (fun c' call' => (∃ kind reporting p', call' = .run kind reporting p' ∧ p'.Keeps u.client c') ∧
        (u.client.editor.activeEditor = none → c'.files = v.client.files))
      fun c' _ => u.client.editor.activeEditor = none → c'.files = v.client.files :=
    (p.step_keeps task kind reporting keeps).last
      (fun _ p' hp => ⟨⟨kind, reporting, p', rfl, hp.1⟩, hp.2⟩) fun _ _ hfiles => hfiles
  have silent (idle : u.client.editor.activeEditor = none) (n : Nat) :
      u.said task n (more ++ [.goesOn (.call task)]) = [] := by
    rw [said_concat hv, (h.idle idle).2 n]
    rcases utters_of_run hcall with nothing | ⟨_, x, hx, -⟩
    · exact nothing n
    · rw [keeps.saying? idle] at hx
      cases hx
  rcases hs with ⟨client, call', hstep, rfl⟩ | ⟨client, r, hstep, rfl⟩ <;> rw [hstep] at step
  · refine ⟨h.numbered, fun call hget => ?_, fun idle => ⟨?_, silent idle⟩⟩
    · rw [Table.get?_set, if_pos rfl] at hget
      cases hget
      exact step.1
    · exact (step.2 idle).trans (h.idle idle).1
  · refine ⟨h.numbered, fun call hget => ?_, fun idle => ⟨?_, silent idle⟩⟩
    · rw [Table.get?_erase, if_pos rfl] at hget
      cases hget
    · exact (step idle).trans (h.idle idle).1

/-- Whatever else happens. -/
theorem IsUnseen.beside (h : u.IsUnseen task more v) (hv : u.after? more = some v)
    (leaves : v.LeavesEditorTo task g) (hs : v.happen? g = some v') (hg : g ≠ .goesOn (.call task)) :
    u.IsUnseen task (more ++ [g]) v' := by
  obtain ⟨looks, files⟩ := leaves.isUntouched hs hg
  refine ⟨Nat.le_trans h.numbered (happen?_latestTask hs), fun call hcall => ?_, fun idle => ?_⟩
  · rw [happen?_others hs hg h.numbered] at hcall
    obtain ⟨kind, reporting, p, rfl, keeps⟩ := h.calls call hcall
    exact ⟨kind, reporting, p, rfl, keeps.of_looksLike looks⟩
  · refine ⟨files.trans (h.idle idle).1, fun n => ?_⟩
    rw [said_concat hv, (h.idle idle).2 n, utters_of_ne hg]
    rfl

theorem isUnseen_after? {kind : ActionKind} {reporting : Bool} (sound : u.Sound)
    (begins : u.calls.get? task = some (.run kind reporting (.acting .picking)))
    (h : u.after? more = some v) (leaves : u.Throughout more (LeavesEditorTo task)) :
    u.IsUnseen task more v := by
  refine after?_induction (P := fun more v => u.Throughout more (LeavesEditorTo task) →
    u.IsUnseen task more v) (fun _ => ?_) (fun more g v v' hv ih hstep leaves => ?_) h leaves
  · refine ⟨sound.numbered task _ begins, fun call hcall => ?_, fun _ => ⟨rfl, fun _ => rfl⟩⟩
    rw [begins] at hcall
    cases hcall
    exact ⟨kind, reporting, _, rfl, .refl _, nofun⟩
  · by_cases hg : g = .goesOn (.call task)
    · subst hg
      exact (ih leaves.of_concat).call hv hstep
    · exact (ih leaves.of_concat).beside hv (leaves.last hv) hstep hg

/-- **A failed action is unseen.**

An action of any kind begins to act, and nobody else touches the editor until it has its result.  If
the result is a failure, whatever it is, or nothing, or a computed term of another document than that of
the active editor, then the client looks as it looked when the action began.  And if there is no active
editor, then the result is nothing, no file is written, and the action has said nothing on any line. -/
theorem failed_action_is_unseen {kind : ActionKind} {reporting : Bool}
    {r : Except ClientError (Option ActionOutcome)} (h₀ : w₀.IsFresh) (hu : w₀.after? before = some u)
    (begins : u.calls.get? task = some (.run kind reporting (.acting .picking)))
    (h : u.after? more = some w) (leaves : u.Throughout more (LeavesEditorTo task))
    (ends : w.calls.get? task = some (.run kind reporting (.flushingAfter r))) :
    (u.client.ShowsNothing r → u.client.LooksLike w.client) ∧
      (u.client.editor.activeEditor = none → r = .ok none ∧ w.client.files = u.client.files ∧
        ∀ n, u.said task n more = []) := by
  have unseen := isUnseen_after? (sound_after? h₀ hu) begins h leaves
  obtain ⟨_, _, _, ⟨⟩, keeps⟩ := unseen.calls _ ends
  exact ⟨keeps.1, fun idle => ⟨keeps.2 idle, unseen.idle idle⟩⟩

/-! ## A question that the server cannot answer -/

/-- A name is highlighted in the document that is shown, and then somebody asks for a type and begins to
act. -/
def askingHistory : List Happening :=
  displayedHistory ++ [sends ("\x7b\"jsonrpc\":\"2.0\",\"method\":\"aya/publishSyntaxHighlight\"," ++
    "\"params\":\x7b\"uri\":\"a\",\"symbols\":[\x7b\"kind\":1,\"range\":[[0,0],[0,1]]\x7d]\x7d\x7d")]
  ++ List.replicate 2 (.goesOn (.reader 0)) ++ [Happening.goesOn .dispatcher,
    .calls (.runAction .computeType true), .goesOn (.call ⟨2⟩), .goesOn .dispatcher, .goesOn (.call ⟨2⟩)]

/-- The server is told and asked, and answers with an error. -/
def deniedHistory : List Happening :=
  takes 2 18 ++ [sends ("\x7b\"jsonrpc\":\"2.0\",\"id\":2," ++
    "\"error\":\x7b\"code\":-32603,\"message\":\"no\"\x7d\x7d")]
  ++ List.replicate 2 (.goesOn (.reader 0)) ++ takes 2 1

theorem leavesEditorTo_deniedHistory (w : Workbench) :
    ∀ g ∈ deniedHistory, w.LeavesEditorTo ⟨2⟩ g := by
  simp [deniedHistory, takes, sends, or_imp, forall_and, LeavesEditorTo]

/-- The second call is about to look for the editor. -/
def beginsSecond (u : Workbench) : Bool :=
  match u.calls.get? ⟨2⟩ with
  | some (.run .computeType true (.acting .picking)) => true
  | _ => false

theorem of_beginsSecond {u : Workbench} (h : u.beginsSecond = true) :
    u.calls.get? ⟨2⟩ = some (.run .computeType true (.acting .picking)) := by
  unfold beginsSecond at h
  split at h
  next he => exact he
  next => cases h

/-- The action of the second call has failed. -/
def failsSecond (w : Workbench) : Bool :=
  match w.calls.get? ⟨2⟩ with
  | some (.run .computeType true (.flushingAfter (.error _))) => true
  | _ => false

theorem of_failsSecond {w : Workbench} (h : w.failsSecond = true) :
    ∃ e, w.calls.get? ⟨2⟩ = some (.run .computeType true (.flushingAfter (.error e))) := by
  unfold failsSecond at h
  split at h
  next e he => exact ⟨e, he⟩
  next => cases h

/-- The name is still highlighted. -/
theorem failed_action_is_unseen_denied :
    ∃ u w e, unused.after? askingHistory = some u ∧ u.after? deniedHistory = some w ∧
      u.calls.get? ⟨2⟩ = some (.run .computeType true (.acting .picking)) ∧
      u.Throughout deniedHistory (LeavesEditorTo ⟨2⟩) ∧
      w.calls.get? ⟨2⟩ = some (.run .computeType true (.flushingAfter (.error e))) ∧
      u.client.decorations ⟨1⟩ ≠ [] ∧ u.client.LooksLike w.client := by
  have reached : (unused.after? askingHistory).any (fun u => u.beginsSecond &&
      u.client.decorations ⟨1⟩ ≠ [] && (u.after? deniedHistory).any failsSecond) = true := by
    decide +kernel
  obtain ⟨u, hu, reached⟩ := (Option.any_eq_true _ _).1 reached
  simp only [Bool.and_eq_true, decide_eq_true_eq] at reached
  obtain ⟨⟨hbegins, painted⟩, reached⟩ := reached
  obtain ⟨w, hw, hends⟩ := (Option.any_eq_true _ _).1 reached
  have begins := of_beginsSecond hbegins
  obtain ⟨e, ends⟩ := of_failsSecond hends
  have leaves : u.Throughout deniedHistory (LeavesEditorTo ⟨2⟩) := fun _ v g _ hg =>
    leavesEditorTo_deniedHistory v g (List.mem_of_getElem? hg)
  have unseen := failed_action_is_unseen isFresh_unused hu begins hw leaves ends
  exact ⟨u, w, e, hu, hw, begins, leaves, ends, painted, unseen.1 trivial⟩

end Workbench

end LanguageClient
