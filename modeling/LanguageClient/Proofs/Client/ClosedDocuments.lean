import LanguageClient.Proofs.Client.Painting
import LanguageClient.Proofs.Client.WireOrder

/-!
# Closed documents

People open, show, edit and close documents, calls are made and answered, and the dispatcher follows
what the editor reports.  Once it has followed that a document was closed, nothing is left of the
document, and nothing comes back until it is opened again.

A set that comes late is refused, because its document is not open.  A computed term that comes late is
not: it is marked in the editor that it was asked from, wherever that has gone.  So the theorem is about
histories in which computed terms are marked while their documents are open, and there is a history in
which one is not and a decoration is left (`late_marker_remains`).

* `Call.step_paints`, `Workbench.happen?_paints` — every step is one operation of the overlay.
* `Workbench.Shown` — the editors that have been visible.
* `Workbench.IsAccounted` — records and canvas agree, and only such editors are spoken of.
* **`closed_documents_are_clean`**.
-/

namespace LanguageClient

/-! ## Calls -/

/-- The editor that an action works on. -/
def ActionPoint.editor? : ActionPoint → Option EditorRef
  | picking => none
  | saving editor | writing editor _ _ | saved editor | reading editor | syncing editor _ _
  | querying editor | asking editor _ _ | routing editor _ => some editor

def Call.editor? : Call → Option EditorRef
  | run _ _ (.acting p) => p.editor?
  | _ => none

/-- The computed term that a call is about to mark, and the editor that it was asked from. -/
def Call.marking? : Call → Option (EditorRef × ComputeTermResult)
  | run _ _ (.acting (.routing editor (.computed r))) => some (editor, r)
  | _ => none

theorem Call.editor?_of_isNew {call : Call} (h : call.isNew = true) : call.editor? = none := by
  cases call with
  | run kind reporting p => cases p <;> first | rfl | cases h
  | _ => rfl

theorem Call.known_of_no_editor {known : EditorRef → Prop} {call : Call} (h : call.editor? = none)
    (e : EditorRef) (he : call.editor? = some e) : known e := by
  rw [h] at he
  cases he

/-- A step paints, and what is queued after it is about known editors. -/
structure Client.Proceeds (known : EditorRef → Prop) (marking : Option (EditorRef × ComputeTermResult))
    (c c' : Client) : Prop where
  paints : c.Paints known marking c'
  reports : c'.Reports (c'.Learns known)

section

variable {known : EditorRef → Prop} {marking : Option (EditorRef × ComputeTermResult)} {c c' : Client}

/-- A step that paints nothing and queues no event. -/
theorem Client.Proceeds.aside (reports : c.Reports known) (editor : c'.editor = c.editor)
    (overlay : c'.overlay = c.overlay) (queue : ∀ e, .event e ∈ c'.queue → .event e ∈ c.queue) :
    c.Proceeds known marking c' where
  paints := .nothing (editor ▸ .refl _) (congrArg HeadlessEditor.canvas editor) overlay
  reports e he := .inl (reports e (queue _ he))

/-- What else there is of a client does not matter. -/
theorem Client.Proceeds.of_same {c'' : Client} (h : c.Proceeds known marking c')
    (editor : c''.editor = c'.editor) (overlay : c''.overlay = c'.overlay)
    (queue : ∀ e, .event e ∈ c''.queue → .event e ∈ c'.queue) : c.Proceeds known marking c'' where
  paints := by
    cases h.paints with
    | nothing unfolds canvas same =>
      exact .nothing (editor ▸ unfolds) (editor ▸ canvas) (overlay.trans same)
    | follows event hknown ho he => exact .follows event hknown (overlay.trans ho) (editor.trans he)
    | takes r ho he => exact .takes r (overlay.trans ho) (editor.trans he)
    | marks e r hmarking hknown ho he =>
      exact .marks e r hmarking hknown (overlay.trans ho) (editor.trans he)
  reports e he := (h.reports e (queue _ he)).imp_right (editor ▸ ·)

theorem Client.onSession_proceeds {π α : Type} (marking : Option (EditorRef × ComputeTermResult))
    (reports : c.Reports known) (p : Progress Session π α) : (c.onSession p).All (c.Proceeds known marking) := by
  cases p with
  | waits => trivial
  | goesOn s x => exact .aside reports rfl rfl fun _ h => h
  | ends s a => exact .aside reports rfl rfl fun _ h => h

theorem ActionPoint.step_proceeds (task : TaskId) (kind : ActionKind)
    (marking : Option (EditorRef × ComputeTermResult))
    (visible : ∀ e ∈ c.editor.visibleEditors, known e) (reports : c.Reports known) {p : ActionPoint}
    (hp : ∀ e, p.editor? = some e → known e)
    (hm : ∀ e r, p = .routing e (.computed r) → marking = some (e, r)) :
    (p.step task kind c).Leads
      (fun c' p' => c.Proceeds known marking c' ∧ ∀ e, p'.editor? = some e → known e)
      fun c' _ => c.Proceeds known marking c' := by
  have aside : c.Proceeds known marking c := .aside reports rfl rfl fun _ h => h
  cases p with
  | picking =>
    rw [step]
    split
    next => exact aside
    next editor he =>
      refine ⟨aside, fun e h => ?_⟩
      cases h
      exact visible _ (HeadlessEditor.activeEditor_visible he)
  | saving editor =>
    rw [step]
    split
    next => exact aside
    next => exact ⟨aside, hp⟩
    next => exact ⟨aside, hp⟩
  | writing editor path text =>
    rw [step]
    split
    next => exact aside
    next => exact ⟨.aside reports rfl rfl fun _ h => h, hp⟩
  | saved editor =>
    exact ⟨⟨.nothing (.of_same rfl rfl) rfl rfl, fun e he => .inl (reports e he)⟩, hp⟩
  | reading editor => exact ⟨aside, hp⟩
  | syncing editor text p =>
    have proceeds := Client.onSession_proceeds marking reports
      (p.step .beginning (fun p x => p.step task editor.uri text x) c.session)
    rw [step]
    split
    next => trivial
    next he => rw [he] at proceeds; exact ⟨proceeds, hp⟩
    next he => rw [he] at proceeds; exact ⟨proceeds, hp⟩
    next he => rw [he] at proceeds; exact proceeds
  | querying editor => exact ⟨aside, hp⟩
  | asking editor q p =>
    have proceeds := Client.onSession_proceeds marking reports
      (p.step .beginning (fun p x => p.step q c.now x) c.session)
    rw [step]
    split
    next => trivial
    next he => rw [he] at proceeds; exact ⟨proceeds, hp⟩
    next he =>
      rw [he] at proceeds
      split
      next => exact proceeds
      next => exact proceeds
      next => exact ⟨proceeds, hp⟩
  | routing editor outcome =>
    cases outcome with
    | highlights r => exact ⟨.takes r rfl rfl, fun e he => .inl (reports e he)⟩
    | computed r =>
      exact ⟨.marks editor r (hm editor r rfl) (hp editor rfl) rfl rfl, fun e he => .inl (reports e he)⟩

theorem RunPoint.step_proceeds (task : TaskId) (kind : ActionKind) (reporting : Bool)
    (visible : ∀ e ∈ c.editor.visibleEditors, known e) (reports : c.Reports known) {p : RunPoint}
    (hp : ∀ e, (Call.run kind reporting p).editor? = some e → known e) :
    (p.step task kind reporting c).Leads
      (fun c' p' => c.Proceeds known (Call.run kind reporting p).marking? c' ∧
        ∀ e, (Call.run kind reporting p').editor? = some e → known e)
      fun c' _ => c.Proceeds known (Call.run kind reporting p).marking? c' := by
  have send (p : RunPoint) : c.Proceeds known (Call.run kind reporting p).marking?
      (c.send (.barrier task)) := by
    refine .aside reports rfl rfl fun e he => ?_
    simpa [Client.send] using he
  cases p with
  | flushing => exact ⟨send _, Call.known_of_no_editor rfl⟩
  | waiting =>
    rw [step]
    split
    next => exact ⟨.aside reports rfl rfl fun _ h => h, Call.known_of_no_editor rfl⟩
    next => trivial
  | acting p =>
    have proceeds := p.step_proceeds task kind (Call.run kind reporting (.acting p)).marking? visible
      reports hp fun e r he => by rw [he]; rfl
    rw [step]
    split
    next => trivial
    next he => rw [he] at proceeds; exact proceeds
    next c' r he =>
      rw [he] at proceeds
      -- a failure that nobody asked for is only logged
      cases reporting with
      | true => exact ⟨proceeds, Call.known_of_no_editor rfl⟩
      | false => cases r with
        | ok outcome => exact ⟨proceeds, Call.known_of_no_editor rfl⟩
        | error e =>
          exact ⟨proceeds.of_same rfl rfl fun _ h => h, Call.known_of_no_editor rfl⟩
  | flushingAfter r => exact ⟨send _, Call.known_of_no_editor rfl⟩
  | waitingAfter r =>
    rw [step]
    split
    next => exact .aside reports rfl rfl fun _ h => h
    next => trivial

/-- A call that has a part which is not about the picture. -/
theorem Call.last_proceeds {π α : Type} {p : Progress Client π α} (hp : p.All (c.Proceeds known marking))
    (wrap : π → Call) (hw : ∀ x, (wrap x).editor? = none) (result : α → CallResult) :
    (p.last wrap result).Leads
      (fun c' call' => c.Proceeds known marking c' ∧ ∀ e, call'.editor? = some e → known e)
      fun c' _ => c.Proceeds known marking c' :=
  hp.leads.last (fun _ x h => ⟨h, fun e he => by rw [hw x] at he; cases he⟩) fun _ _ h => h

/-- **A step of a call is one operation of the overlay**, and speaks of known editors only. -/
theorem Call.step_proceeds (task : TaskId) (visible : ∀ e ∈ c.editor.visibleEditors, known e)
    (reports : c.Reports known) {call : Call} (hcall : ∀ e, call.editor? = some e → known e) :
    (call.step task c).Leads
      (fun c' call' => c.Proceeds known call.marking? c' ∧ ∀ e, call'.editor? = some e → known e)
      fun c' _ => c.Proceeds known call.marking? c' := by
  have onSession {π α : Type} (p : Progress Session π α) (wrap : π → Call) (result : α → CallResult)
      (hw : ∀ x, (wrap x).editor? = none) :=
    last_proceeds (c.onSession_proceeds none reports p) wrap hw result
  cases call with
  | lifecycle call p => exact onSession _ _ _ fun _ => rfl
  | request q p => exact onSession _ _ _ fun _ => rfl
  | notify m p => exact onSession _ _ _ fun _ => rfl
  | sync uri text p => exact onSession _ _ _ fun _ => rfl
  | closeDocument uri p => exact onSession _ _ _ fun _ => rfl
  | handshake n q p => exact onSession _ _ _ fun _ => rfl
  | shutdown n q p => exact onSession _ _ _ fun _ => rfl
  | close n reason p => exact onSession _ _ _ fun _ => rfl
  | run kind reporting p =>
    exact (p.step_proceeds task kind reporting visible reports hcall).last (fun _ _ h => h) fun _ _ h => h
  | startUp p =>
    cases p with
    | finding =>
      rw [step]
      split
      next =>
        unfold Client.announce
        split
        next => exact .aside reports rfl rfl fun _ h => h
        next => exact ⟨.nothing (.of_same rfl rfl) rfl rfl, fun e he => .inl (reports e he)⟩
      next => exact ⟨.aside reports rfl rfl fun _ h => h, Call.known_of_no_editor rfl⟩
    | starting endpoint p => exact onSession _ _ _ fun _ => rfl
  | restart p =>
    have proceeds := c.onSession_proceeds none reports (p.step task .restart c.now c.session)
    rw [step]
    split
    next => trivial
    next he => rw [he] at proceeds; exact ⟨proceeds, Call.known_of_no_editor rfl⟩
    next he => rw [he] at proceeds; exact proceeds
    next he => rw [he] at proceeds; exact proceeds.of_same rfl rfl fun _ h => h
  | openFile path p =>
    cases p with
    | opening =>
      rw [step]
      split
      next => exact .aside reports rfl rfl fun _ h => h
      next h =>
        obtain ⟨unfolds, canvas⟩ := HeadlessEditor.unfolds_openFile h
        exact ⟨⟨.nothing unfolds canvas rfl, fun e he => .inl (reports e he)⟩, Call.known_of_no_editor rfl⟩
    | showing uri =>
      rw [step]
      split
      next => exact .aside reports rfl rfl fun _ h => h
      next event editor h =>
        obtain ⟨⟨shown, hshown, rfl⟩, -, canvas, -, -⟩ := HeadlessEditor.showDocument_ok h
        refine ⟨.nothing (HeadlessEditor.unfolds_showDocument h) canvas rfl, fun e he => ?_⟩
        rcases List.mem_append.1 he with he | he
        · exact .inl (reports e he)
        · simp only [List.mem_singleton, Dispatch.event.injEq, EditorEvent.activeChanged.injEq,
            Option.some.injEq] at he
          exact .inr (he ▸ hshown)

/-- An editor on which nothing has been painted, and nothing to do. -/
structure Client.IsBlank (c : Client) : Prop where
  overlay : c.overlay = {}
  canvas : c.editor.canvas = {}
  apart : c.editor.ViewsApart
  queue : c.queue = []

/-- Before anything is painted, the editors that are visible are known. -/
theorem Client.IsBlank.isAccounted (blank : c.IsBlank) :
    c.IsAccounted (· ∈ c.editor.visibleEditors) where
  accounts := by
    refine ⟨{ editor := c.editor }, rfl, ?_⟩
    rw [blank.overlay]
    exact Overlay.accounts_empty.of_canvas blank.canvas rfl
  apart := blank.apart
  visible _ he := he
  latest := blank.apart.id_le
  unique _ _ := blank.apart.eq_of_id
  seats id uri hs := by
    rw [blank.overlay] at hs
    cases hs

/-- Somebody makes a gesture, or passes on what the editor reports of a known editor. -/
def Client.IsHandled (known : EditorRef → Prop) (c c' : Client) : Prop :=
  (∃ gesture, c' = c.gesture gesture) ∨
    ∃ e, c' = c.send (.event e) ∧ ∀ shown, e = .activeChanged (some shown) → known shown

/-- What a reader says is not about editors. -/
theorem Client.absorbAll_proceeds (reports : c.Reports known)
    (step : Session × List Signal) : c.Proceeds known marking (c.absorbAll step) := by
  have fold (signals : List Signal) {c' : Client} (h : c.Proceeds known marking c') :
      c.Proceeds known marking (signals.foldl Client.absorb c') := by
    induction signals generalizing c' with
    | nil => exact h
    | cons x signals ih =>
      refine ih ?_
      unfold Client.absorb
      split
      next => exact h.of_same rfl rfl fun _ he => he
      next => exact h.of_same rfl rfl fun _ he => he
      next =>
        split
        next => exact h.of_same rfl rfl fun _ he => by simpa [Client.send] using he
        next => exact h
  exact fold step.2 (.aside reports rfl rfl fun _ he => he)

theorem Client.dispatch?_proceeds (reports : c.Reports known)
    (h : c.dispatch? = some c') : c.Proceeds known marking c' := by
  obtain ⟨d, rest, hq, rfl⟩ := Client.dispatch?_eq_some h
  have hrest (e : EditorEvent) (he : .event e ∈ rest) : .event e ∈ c.queue :=
    hq ▸ List.mem_cons_of_mem _ he
  cases d with
  | event event =>
    refine ⟨.follows event (fun e he => reports e ?_) rfl rfl, fun e he => .inl (reports e (hrest _ he))⟩
    rw [hq, he]
    exact List.mem_cons_self
  | highlights r => exact ⟨.takes r rfl rfl, fun e he => .inl (reports e (hrest _ he))⟩
  | barrier task => exact .aside reports rfl rfl fun e he => hrest e he

/-- People do what they like by hand. -/
theorem Client.IsHandled.proceeds (reports : c.Reports known)
    (h : c.IsHandled known c') : c.Proceeds known marking c' := by
  obtain ⟨gesture, rfl⟩ | ⟨event, rfl, hknown⟩ := h
  · obtain ⟨unfolds, canvas⟩ := c.unfolds_gesture gesture
    obtain ⟨editor, files, heq⟩ := c.gesture_eq gesture
    rw [heq] at unfolds canvas ⊢
    exact ⟨.nothing unfolds canvas rfl, fun e he => .inl (reports e he)⟩
  · refine ⟨.nothing (.refl _) rfl rfl, fun e he => .inl ?_⟩
    rcases List.mem_append.1 he with he | he
    · exact reports e he
    · simp only [List.mem_singleton, Dispatch.event.injEq] at he
      exact hknown e he.symm

end

namespace Happening

/-- If people edit, then with a gesture, or they pass on what has become of a document. -/
def IsByHand : Happening → Prop
  | edits f => (∃ gesture, f = (·.gesture gesture)) ∨
      ∃ e, f = (·.send (.event e)) ∧ ∀ shown, e ≠ .activeChanged shown
  | _ => True

@[simp] theorem isByHand_gesture (gesture : Gesture) : (edits (·.gesture gesture)).IsByHand :=
  .inl ⟨gesture, rfl⟩

@[simp] theorem isByHand_changed (uri : String) (changed : Bool) :
    (edits (·.send (.event (.documentChanged uri changed)))).IsByHand :=
  .inr ⟨_, rfl, nofun⟩

@[simp] theorem isByHand_closed (uri : String) :
    (edits (·.send (.event (.documentClosed uri)))).IsByHand :=
  .inr ⟨_, rfl, nofun⟩

theorem isByHand_of_ne {g : Happening} (h : ∀ f, g ≠ edits f) : g.IsByHand := by
  cases g with
  | edits f => exact absurd rfl (h f)
  | _ => trivial

end Happening

namespace Workbench

variable {w₀ w w' : Workbench} {hs more : List Happening} {g : Happening}

/-- The computed term that is about to be marked. -/
def marking? (w : Workbench) : Happening → Option (EditorRef × ComputeTermResult)
  | .goesOn (.call task) => (w.calls.get? task).bind Call.marking?
  | _ => none

/-- A computed term is marked only while its document is open. -/
def MarksInTime (w : Workbench) (g : Happening) : Prop :=
  ∀ e r, w.marking? g = some (e, r) → w.client.editor.isOpen e.uri = true

/-- An editor has been visible in the course of a history. -/
def Shown (w₀ : Workbench) (hs : List Happening) (e : EditorRef) : Prop :=
  ∃ k u, w₀.after? (hs.take k) = some u ∧ e ∈ u.client.editor.visibleEditors

/-- People change a client with gestures, and pass on what the editor reports, sooner or later. -/
def ByHand (w₀ : Workbench) (hs : List Happening) : Prop :=
  ∀ before f more u, hs = before ++ .edits f :: more → w₀.after? before = some u →
    u.client.IsHandled (w₀.Shown before) (f u.client)

/-- What every history keeps in which people change the client by hand only. -/
structure IsAccounted (known : EditorRef → Prop) (w : Workbench) : Prop where
  client : w.client.IsAccounted known
  reports : w.client.Reports known
  calls : ∀ task call e, w.calls.get? task = some call → call.editor? = some e → known e

theorem Shown.append {e : EditorRef} (h : w₀.Shown hs e) (more : List Happening) :
    w₀.Shown (hs ++ more) e := by
  obtain ⟨k, u, hu, he⟩ := h
  by_cases hk : k ≤ hs.length
  · exact ⟨k, u, by rwa [List.take_append_of_le_length hk], he⟩
  · rw [List.take_of_length_le (by omega)] at hu
    exact ⟨hs.length, u, by simpa using hu, he⟩

theorem shown_concat (h : w₀.after? hs = some w) (h' : w.happen? g = some w') {e : EditorRef} :
    w₀.Shown (hs ++ [g]) e ↔ w'.client.Learns (w₀.Shown hs) e := by
  have last : w₀.after? (hs ++ [g]) = some w' := after?_concat.2 ⟨w, h, h'⟩
  constructor
  · rintro ⟨k, u, hu, he⟩
    by_cases hk : k ≤ hs.length
    · exact .inl ⟨k, u, by rwa [List.take_append_of_le_length hk] at hu, he⟩
    · rw [List.take_of_length_le (by simp; omega), last] at hu
      cases hu
      exact .inr he
  · rintro (he | he)
    · exact he.append [g]
    · exact ⟨(hs ++ [g]).length, w', by rwa [List.take_length], he⟩

theorem shown_now (h : w₀.after? hs = some w) {e : EditorRef}
    (he : e ∈ w.client.editor.visibleEditors) : w₀.Shown hs e :=
  ⟨hs.length, w, by rwa [List.take_length], he⟩

/-! ### What happens -/

theorem act?_call_proceeds {known : EditorRef → Prop} (hw : w.IsAccounted known) {task : TaskId}
    (h : w.act? (.call task) = some w') :
    w.client.Proceeds known (w.marking? (.goesOn (.call task))) w'.client ∧
      ∀ e call, w'.calls.get? task = some call → call.editor? = some e → known e := by
  obtain ⟨call, hcall, h⟩ := act?_call h
  have proceeds := call.step_proceeds task hw.client.visible hw.reports (hw.calls task call · hcall)
  have hmarking : w.marking? (.goesOn (.call task)) = call.marking? := by rw [marking?, hcall]; rfl
  rw [hmarking]
  rcases h with ⟨client, call', hstep, rfl⟩ | ⟨client, r, hstep, rfl⟩
  · rw [hstep] at proceeds
    refine ⟨proceeds.1, fun e c hc he => ?_⟩
    rw [Table.get?_set, if_pos rfl] at hc
    cases hc
    exact proceeds.2 e he
  · rw [hstep] at proceeds
    refine ⟨proceeds, fun e c hc _ => ?_⟩
    rw [Table.get?_erase, if_pos rfl] at hc
    cases hc

/-- **Whatever happens is one operation of the overlay**, and speaks of known editors only. -/
theorem happen?_proceeds {known : EditorRef → Prop} (hw : w.IsAccounted known)
    (h : w.happen? g = some w')
    (hand : ∀ f, g = .edits f → w.client.IsHandled known (f w.client)) :
    w.client.Proceeds known (w.marking? g) w'.client := by
  have aside {marking} (hclient : w'.client.editor = w.client.editor ∧
      w'.client.overlay = w.client.overlay ∧ w'.client.queue = w.client.queue) :
      w.client.Proceeds known marking w'.client := by
    obtain ⟨editor, overlay, queue⟩ := hclient
    exact .aside hw.reports editor overlay fun _ he => queue ▸ he
  cases g with
  | goesOn a =>
    cases a with
    | call task => exact (act?_call_proceeds hw h).1
    | reader n =>
      obtain ⟨_, _, _, _, rfl, _⟩ := act?_reader (.inl rfl) h
      exact Client.absorbAll_proceeds hw.reports _
    | lateReader n =>
      obtain ⟨_, _, _, _, rfl, _⟩ := act?_reader (.inr rfl) h
      exact Client.absorbAll_proceeds hw.reports _
    | dispatcher =>
      obtain ⟨c, hc, rfl⟩ := Option.map_eq_some_iff.1 h
      exact Client.dispatch?_proceeds hw.reports hc
    | opener =>
      obtain ⟨_, _, _, _, rfl⟩ := act?_opener h
      exact aside ⟨rfl, rfl, rfl⟩
    | _ =>
      obtain ⟨_, _, rfl⟩ := Option.map_eq_some_iff.1 h
      exact aside ⟨rfl, rfl, rfl⟩
  | calls call =>
    obtain ⟨_, rfl⟩ := happen?_calls.1 h
    exact aside ⟨rfl, rfl, rfl⟩
  | opens link peer process =>
    obtain ⟨_, rfl⟩ := answer?_eq_some.1 h
    exact aside ⟨rfl, rfl, rfl⟩
  | refuses e =>
    obtain ⟨_, rfl⟩ := answer?_eq_some.1 h
    exact aside ⟨rfl, rfl, rfl⟩
  | edits f =>
    cases h
    exact ((hand f rfl).proceeds hw.reports).of_same rfl rfl fun _ he => he
  | _ => cases h; exact aside ⟨rfl, rfl, rfl⟩

theorem IsAccounted.happen? {known : EditorRef → Prop} (hw : w.IsAccounted known)
    (h : w.happen? g = some w')
    (hand : ∀ f, g = .edits f → w.client.IsHandled known (f w.client)) :
    w'.IsAccounted (w'.client.Learns known) where
  client := (happen?_proceeds hw h hand).paints.isAccounted hw.client
  reports := (happen?_proceeds hw h hand).reports
  calls task call e hc he := by
    refine .inl ?_
    rcases happen?_cases h with ⟨other, rfl⟩ | ⟨new, rfl, hnew, rfl⟩ | ⟨hcalls, -⟩
    · by_cases heq : task = other
      · exact (act?_call_proceeds hw (heq ▸ h)).2 e call hc he
      · exact hw.calls task call e (act?_call_others h heq ▸ hc) he
    · replace hc : (w.calls.set ⟨w.latestTask + 1⟩ new).get? task = some call := hc
      rw [Table.get?_set] at hc
      split at hc
      next =>
        cases hc
        rw [Call.editor?_of_isNew hnew] at he
        cases he
      next => exact hw.calls task call e hc he
    · exact hw.calls task call e (hcalls ▸ hc) he

/-! ### The whole history -/

theorem ByHand.of_append (hand : w₀.ByHand (hs ++ more)) : w₀.ByHand hs := by
  rintro before f rest u rfl hu
  exact hand before f (rest ++ more) u (by simp) hu

/-- One thing more is done by hand. -/
theorem ByHand.concat {g : Happening} (hand : w₀.ByHand hs)
    (h : ∀ f w, g = .edits f → w₀.after? hs = some w →
      w.client.IsHandled (w₀.Shown hs) (f w.client)) : w₀.ByHand (hs ++ [g]) := by
  intro before f rest u heq hu
  cases rest using List.reverseRecOn with
  | nil =>
    obtain ⟨rfl, hg⟩ := List.append_inj' heq rfl
    exact h f u (List.singleton_inj.1 hg) hu
  | append_singleton rest last _ =>
    rw [← List.cons_append, ← List.append_assoc] at heq
    exact hand before f rest u (List.append_inj' heq rfl).1 hu

theorem ByHand.append_forall (hand : w₀.ByHand hs) (h : ∀ g ∈ more, g.IsByHand) :
    w₀.ByHand (hs ++ more) := by
  induction more using List.reverseRecOn with
  | nil => rwa [List.append_nil]
  | append_singleton more g ih =>
    rw [← List.append_assoc]
    refine (ih fun g' hg' => h g' (List.mem_append_left _ hg')).concat fun f w hf _ => ?_
    subst hf
    obtain ⟨gesture, rfl⟩ | ⟨e, rfl, he⟩ := h (.edits f) (by simp)
    · exact .inl ⟨gesture, rfl⟩
    · exact .inr ⟨e, rfl, fun shown hshown => absurd hshown (he _)⟩

theorem byHand_of_forall (h : ∀ g ∈ hs, g.IsByHand) : w₀.ByHand hs := by
  have nothing : w₀.ByHand [] := fun before f rest u heq =>
    nomatch (List.append_eq_nil_iff.1 heq.symm).2
  exact nothing.append_forall h

/-- What people do last, they do by hand. -/
theorem ByHand.last (hand : w₀.ByHand (hs ++ [g])) (h : w₀.after? hs = some w) :
    ∀ f, g = .edits f → w.client.IsHandled (w₀.Shown hs) (f w.client) := by
  rintro f rfl
  exact hand hs f [] w rfl h

theorem isAccounted_after? (h₀ : w₀.IsFresh) (blank : w₀.client.IsBlank) (h : w₀.after? hs = some w)
    (hand : w₀.ByHand hs) : w.IsAccounted (w₀.Shown hs) := by
  refine after?_induction (P := fun hs w => w₀.ByHand hs → w.IsAccounted (w₀.Shown hs))
    (fun _ => ?_) (fun hs g w w' hw ih hstep hand => ?_) h hand
  · have now : w₀.Shown [] = (· ∈ w₀.client.editor.visibleEditors) := by
      funext e
      refine propext ⟨fun ⟨k, u, hu, he⟩ => ?_, fun he => shown_now rfl he⟩
      rw [List.take_nil] at hu
      cases hu
      exact he
    rw [now]
    refine ⟨blank.isAccounted, fun e he => ?_, ?_⟩
    · rw [blank.queue] at he
      cases he
    · intro task call e hc
      rw [h₀.calls] at hc
      cases hc
  · have known : w'.client.Learns (w₀.Shown hs) = w₀.Shown (hs ++ [g]) :=
      funext fun e => propext (shown_concat hw hstep).symm
    rw [← known]
    exact (ih hand.of_append).happen? hstep (hand.last hw)

/-- **Closed documents are clean.**

People change a client by hand only, beginning with an editor on which nothing has been painted.  When
the dispatcher has followed that a document was closed, and for as long as the document is not open
again, no set is cached for it, nothing is owned in an editor that was painted for it, and in no editor
that ever showed it there is a decoration: whatever else people do, whatever the server says and
whichever calls come to their ends, if computed terms are marked only while their documents are open. -/
theorem closed_documents_are_clean {v u : Workbench} {before after : List Happening} {uri : String}
    (h₀ : w₀.IsFresh) (blank : w₀.client.IsBlank) (hv : w₀.after? before = some v)
    (first : v.client.queue.head? = some (.event (.documentClosed uri)))
    (hu : v.happen? (.goesOn .dispatcher) = some u) (h : u.after? after = some w)
    (hand : w₀.ByHand (before ++ .goesOn .dispatcher :: after))
    (closed : u.Throughout after fun x _ => x.client.editor.isOpen uri = false)
    (intime : u.Throughout after MarksInTime) :
    w.client.overlay.IsRidOf uri ∧
      ∀ e, w₀.Shown (before ++ .goesOn .dispatcher :: after) e → e.uri = uri →
        w.client.decorations e.id = [] ∧ w.client.overlay.liveHandles e.id = 0 := by
  have reached {more : List Happening} {x : Workbench} (hx : u.after? more = some x) :
      w₀.after? (before ++ .goesOn .dispatcher :: more) = some x := by
    refine after?_trans hv ?_
    rw [after?, hu]
    exact hx
  have forgotten : u.client.overlay.IsRidOf uri := by
    have accounted := isAccounted_after? h₀ blank hv hand.of_append
    obtain ⟨a, -, accounts⟩ := accounted.client.accounts
    obtain ⟨rest, -, hperform⟩ := happen?_dispatcher first hu
    rw [hperform]
    exact Overlay.isRidOf_forget accounts.keys v.client.editor uri
  have stays : w.client.overlay.IsRidOf uri := by
    refine after?_induction (P := fun more x => w₀.ByHand (before ++ .goesOn .dispatcher :: more) →
      (u.Throughout more fun x _ => x.client.editor.isOpen uri = false) →
      u.Throughout more MarksInTime → x.client.overlay.IsRidOf uri) (fun _ _ _ => forgotten)
      (fun more g x x' hx ih hstep hand closed intime => ?_) h hand closed intime
    rw [← List.cons_append, ← List.append_assoc] at hand
    have accounted := isAccounted_after? h₀ blank (reached hx) hand.of_append
    have proceeds := happen?_proceeds accounted hstep (hand.last (reached hx))
    exact proceeds.paints.isRidOf accounted.client (ih hand.of_append closed.of_concat intime.of_concat)
      (closed.last hx) (intime.last hx)
  exact ⟨stays, fun e he hu =>
    (isAccounted_after? h₀ blank (reached h) hand).client.clean stays he hu⟩

/-! ## A marker in time, and a late one -/

/-- A ready client shows a document by hand. -/
def displayedHistory : List Happening :=
  connectedHistory ++ [Happening.handles [(publishHighlightMethod, .overlay)],
    .edits (·.gesture (.opens "a" "")), .edits (·.gesture (.shows "a"))]

theorem shown_displayed : unused.Shown displayedHistory ⟨⟨1⟩, "a"⟩ := by
  have showing : (unused.after? displayedHistory).any (fun v =>
      ⟨⟨1⟩, "a"⟩ ∈ v.client.editor.visibleEditors) = true := by
    decide +kernel
  obtain ⟨v, hv, showing⟩ := (Option.any_eq_true _ _).1 showing
  exact shown_now hv (of_decide_eq_true showing)

/-- Somebody asks for the type at the cursor. -/
def inquiredHistory : List Happening :=
  [Happening.calls (.run .computeType true .flushing), .goesOn (.call ⟨2⟩), .goesOn .dispatcher]
  ++ List.replicate 19 (.goesOn (.call ⟨2⟩))

/-- The server answers, and the action marks the term. -/
def markedHistory : List Happening :=
  [sends ("\x7b\"jsonrpc\":\"2.0\",\"id\":2,\"result\":\x7b\"uri\":\"a\"," ++
    "\"computed\":\"Nat\",\"range\":[[0,0],[0,1]]\x7d\x7d")]
  ++ List.replicate 2 (.goesOn (.reader 0)) ++ List.replicate 2 (.goesOn (.call ⟨2⟩))

/-- The document is closed. -/
def shutHistory : List Happening :=
  [.edits (·.gesture (.closes "a")), .edits (·.send (.event (.documentClosed "a")))]

theorem isByHand_histories : ∀ g ∈
    displayedHistory ++ inquiredHistory ++ markedHistory ++ shutHistory ++ pushedHistory, g.IsByHand := by
  simp [displayedHistory, inquiredHistory, markedHistory, shutHistory, pushedHistory, connectedHistory,
    answers, sends, or_imp, forall_and, Happening.isByHand_of_ne]

/-- What a history has to keep from when its document is closed. -/
def keepsClosed (w : Workbench) (uri : String) (g : Happening) : Bool :=
  !w.client.editor.isOpen uri && (w.marking? g).isNone

theorem of_keepsClosed {uri : String} (h : w.keepsClosed uri g = true) :
    w.client.editor.isOpen uri = false ∧ w.MarksInTime g := by
  simp only [keepsClosed, Bool.and_eq_true, Bool.not_eq_true', Option.isNone_iff_eq_none] at h
  exact ⟨h.1, fun e r he => by rw [h.2] at he; cases he⟩

theorem isBlank_unused : unused.client.IsBlank := ⟨rfl, rfl, HeadlessEditor.viewsApart_empty, rfl⟩

/-- The marker is shown in time and goes with the document; highlights that come later are refused. -/
theorem closed_document_is_clean_after_marker :
    ∃ v u w, unused.after? (displayedHistory ++ inquiredHistory ++ markedHistory ++ shutHistory) = some v ∧
      v.client.queue.head? = some (.event (.documentClosed "a")) ∧ v.client.decorations ⟨1⟩ ≠ [] ∧
      v.happen? (.goesOn .dispatcher) = some u ∧
      u.after? (pushedHistory ++ [.goesOn .dispatcher]) = some w ∧
      w.client.overlay.IsRidOf "a" ∧ w.client.decorations ⟨1⟩ = [] := by
  have reached : (unused.after? (displayedHistory ++ inquiredHistory ++ markedHistory ++ shutHistory)).any
      (fun v => v.client.queue.head? = some (.event (.documentClosed "a")) &&
        v.client.decorations ⟨1⟩ ≠ [] && (v.happen? (.goesOn .dispatcher)).any fun u =>
          (u.after? (pushedHistory ++ [.goesOn .dispatcher])).isSome &&
            (u.record (fun x g => if x.keepsClosed "a" g then none else some ())
              (pushedHistory ++ [.goesOn .dispatcher])).isEmpty) = true := by
    decide +kernel
  obtain ⟨v, hv, reached⟩ := (Option.any_eq_true _ _).1 reached
  simp only [Bool.and_eq_true, decide_eq_true_eq] at reached
  obtain ⟨⟨first, hshown⟩, reached⟩ := reached
  obtain ⟨u, hu, reached⟩ := (Option.any_eq_true _ _).1 reached
  simp only [Bool.and_eq_true, List.isEmpty_iff] at reached
  obtain ⟨hsome, hkept⟩ := reached
  obtain ⟨w, hw⟩ := Option.isSome_iff_exists.1 hsome
  have throughout : u.Throughout (pushedHistory ++ [.goesOn .dispatcher]) fun x g =>
      x.client.editor.isOpen "a" = false ∧ x.MarksInTime g :=
    throughout_of_check (fun _ _ => of_keepsClosed) hkept
  have hand : unused.ByHand (displayedHistory ++ inquiredHistory ++ markedHistory ++ shutHistory ++
      .goesOn .dispatcher :: (pushedHistory ++ [.goesOn .dispatcher])) := by
    refine byHand_of_forall fun g hg => ?_
    rcases List.mem_append.1 hg with hg | hg
    · exact isByHand_histories g (List.mem_append_left _ hg)
    · rcases List.mem_cons.1 hg with rfl | hg
      · trivial
      · rcases List.mem_append.1 hg with hg | hg
        · exact isByHand_histories g (List.mem_append_right _ hg)
        · rw [List.mem_singleton.1 hg]
          trivial
  have clean := closed_documents_are_clean isFresh_unused isBlank_unused hv first hu hw hand
    (fun k y g hy hg => (throughout k y g hy hg).1) fun k y g hy hg => (throughout k y g hy hg).2
  have shown := ((shown_displayed.append inquiredHistory).append markedHistory).append shutHistory
  exact ⟨v, u, w, hv, first, hshown, hu, hw, clean.1, (clean.2 _ (shown.append _) rfl).1⟩

/-- **A late marker remains.**  The document is closed while the server thinks about the term, and the
dispatcher follows; then the answer comes, and it is marked in the editor that is gone. -/
theorem late_marker_remains :
    ∃ v u w, unused.after? (displayedHistory ++ inquiredHistory ++ shutHistory) = some v ∧
      v.client.queue.head? = some (.event (.documentClosed "a")) ∧
      v.happen? (.goesOn .dispatcher) = some u ∧ u.after? markedHistory = some w ∧
      unused.ByHand (displayedHistory ++ inquiredHistory ++ shutHistory ++
        .goesOn .dispatcher :: markedHistory) ∧
      (u.Throughout markedHistory fun x _ => x.client.editor.isOpen "a" = false) ∧
      w.client.editor.isOpen "a" = false ∧
      unused.Shown (displayedHistory ++ inquiredHistory ++ shutHistory ++
        .goesOn .dispatcher :: markedHistory) ⟨⟨1⟩, "a"⟩ ∧
      w.client.decorations ⟨1⟩ ≠ [] ∧ w.client.overlay.liveHandles ⟨1⟩ = 1 := by
  have reached : (unused.after? (displayedHistory ++ inquiredHistory ++ shutHistory)).any
      (fun v => v.client.queue.head? = some (.event (.documentClosed "a")) &&
        (v.happen? (.goesOn .dispatcher)).any fun u =>
          (u.after? markedHistory).any (fun w => !w.client.editor.isOpen "a" &&
            w.client.decorations ⟨1⟩ ≠ [] && w.client.overlay.liveHandles ⟨1⟩ = 1) &&
          (u.record (fun x _ => if !x.client.editor.isOpen "a" then none else some ())
            markedHistory).isEmpty) = true := by
    decide +kernel
  obtain ⟨v, hv, reached⟩ := (Option.any_eq_true _ _).1 reached
  simp only [Bool.and_eq_true, decide_eq_true_eq] at reached
  obtain ⟨first, reached⟩ := reached
  obtain ⟨u, hu, reached⟩ := (Option.any_eq_true _ _).1 reached
  obtain ⟨reached, hkept⟩ := (Bool.and_eq_true _ _).mp reached
  obtain ⟨w, hw, reached⟩ := (Option.any_eq_true _ _).1 reached
  simp only [Bool.and_eq_true, decide_eq_true_eq, Bool.not_eq_true'] at reached
  obtain ⟨⟨closed, remains⟩, owned⟩ := reached
  refine ⟨v, u, w, hv, first, hu, hw, byHand_of_forall fun g hg => ?_, ?_, closed,
    ((shown_displayed.append inquiredHistory).append shutHistory).append _, remains, owned⟩
  · rcases List.mem_append.1 hg with hg | hg
    · rcases List.mem_append.1 hg with hg | hg
      · exact isByHand_histories g (List.mem_append_left _ (List.mem_append_left _
          (List.mem_append_left _ hg)))
      · exact isByHand_histories g (List.mem_append_left _ (List.mem_append_right _ hg))
    · rcases List.mem_cons.1 hg with rfl | hg
      · trivial
      · exact isByHand_histories g (List.mem_append_left _ (List.mem_append_left _
          (List.mem_append_right _ hg)))
  · refine throughout_of_check (fun x g h => ?_) (List.isEmpty_iff.1 hkept)
    simpa using h

end Workbench

end LanguageClient
