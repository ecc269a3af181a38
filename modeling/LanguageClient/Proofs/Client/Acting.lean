import LanguageClient.Proofs.Client.Gesture
import LanguageClient.Proofs.Client.Mirror
import LanguageClient.Proofs.Editor.Filed
import LanguageClient.Proofs.Highlight.Upkeep

/-!
# What an action knows

An action saves the document of the active editor, sends its text and makes one request.  What it
relies on at each point is what it has seen to before, and nobody takes it away as long as calls are
made one after another and people do not touch the editor in between.

* `Client.IsTidy` — every document is stored in its file unless it is dirty.
* `Client.Sees` — the text of the active editor, which its file holds as well; `Session.Lists` — the
  text that the server holds as far as the table of the active line says.
* `ActionPoint.Knows` — what is known at each point; **`ActionPoint.step_knows`** is its step lemma.
* `Client.Respects` — whatever else goes on leaves documents, views and files alone.
* **`isTidy_after?`** — so every action knows what it has to.
-/

namespace LanguageClient

open Session

/-! ## What there is to know -/

/-- Every document is filed, and the working directory is a place. -/
structure Client.IsTidy (c : Client) : Prop where
  filed : c.editor.Keeps c.files
  cwd : ∀ name ∈ c.here.cwd, Path.IsName name

/-- The editor is active, and its document has this text, which its file holds if it has one. -/
def Client.Sees (c : Client) (e : EditorRef) (text : String) : Prop :=
  c.editor.activeEditor = some e ∧
    ∃ d, c.editor.documents.get? e.uri = some d ∧ d.text = text ∧ d.IsStored c.files

/-- The table of a line. -/
def Session.table? (s : Session) (n : Nat) : Option (Table String SentDocument) :=
  (s.line? n).map (·.connection.documents)

/-- The table of the active line says that the server holds this text. -/
def Session.Lists (s : Session) (n : Nat) (uri text : String) : Prop :=
  s.active = some n ∧ ∃ t d, s.table? n = some t ∧ t.get? uri = some d ∧ d.text = text

/-- What the table says in the middle of sending a text. -/
def SyncPoint.Remembers (uri text : String) (t : Table String SentDocument) : SyncPoint → Prop
  | changing version => t.get? uri = some ⟨version, text⟩
  | leaving (.ok ()) => ∃ d, t.get? uri = some d ∧ d.text = text
  | _ => True

/-- What is known at each point of an action. -/
def ActionPoint.Knows (kind : ActionKind) (c : Client) : ActionPoint → Prop
  | picking | routing _ _ => True
  | saving e => c.editor.activeEditor = some e
  | writing e path text => c.editor.activeEditor = some e ∧
      ∃ d, c.editor.documents.get? e.uri = some d ∧ d.path = some path ∧ d.text = text
  | saved e | reading e => ∃ text, c.Sees e text
  | syncing e text p => c.Sees e text ∧ ∀ n q, p = .on n q → c.session.active = some n ∧
      ∀ t, c.session.table? n = some t → q.Remembers e.uri text t
  | querying e => ∃ n text, c.Sees e text ∧ c.session.Lists n e.uri text
  | asking e q p => ∃ n text, c.Sees e text ∧ c.session.Lists n e.uri text ∧
      q.method = kind.method ∧ q.params = some (kind.params c e) ∧ ∀ m r, p = .on m r → m = n

def Call.Knows (c : Client) : Call → Prop
  | run kind _ (.acting p) => p.Knows kind c
  | _ => True

theorem Call.knows_of_isNew {call : Call} (h : call.isNew = true) (c : Client) : call.Knows c := by
  cases call with
  | run kind reporting p =>
    cases p with
    | acting p => cases h
    | _ => trivial
  | _ => trivial

/-! ## Documents and files -/

namespace Client

variable {c c' : Client}

/-- What else there is of a client does not matter. -/
theorem IsTidy.of_same (h : c.IsTidy) (documents : c'.editor.documents = c.editor.documents)
    (files : c'.files = c.files) (here : c'.here = c.here) : c'.IsTidy where
  filed := files ▸ h.filed.of_documents documents
  cwd := here ▸ h.cwd

/-- **A gesture leaves everything filed.** -/
theorem IsTidy.gesture (h : c.IsTidy) (g : Gesture) : (c.gesture g).IsTidy := by
  have cwd : ∀ name ∈ (c.gesture g).here.cwd, Path.IsName name := by
    obtain ⟨editor, files, heq⟩ := c.gesture_eq g
    rw [heq]
    exact h.cwd
  refine ⟨?_, cwd⟩
  cases g with
  | opens uri text => exact h.filed.openDocument uri text
  | opensFile path =>
    simp only [Client.gesture]
    split
    next ho => exact h.filed.openFile h.cwd ho
    next => exact h.filed
  | shows uri =>
    simp only [Client.gesture]
    split
    next hs => exact h.filed.of_documents (HeadlessEditor.documents_showDocument hs)
    next => exact h.filed
  | edits uri text =>
    simp only [Client.gesture]
    split
    next he => exact h.filed.edit he
    next => exact h.filed
  | selects id selection => exact h.filed.of_documents rfl
  | saves uri =>
    simp only [Client.gesture]
    split
    next hs => exact h.filed.save hs
    next => exact h.filed
  | closes uri => exact h.filed.close uri

/-- Documents, views and files are left alone. -/
structure Respects (c c' : Client) : Prop where
  documents : c'.editor.documents = c.editor.documents
  views : c'.editor.views = c.editor.views
  active : c'.editor.active = c.editor.active
  files : c'.files = c.files
  here : c'.here = c.here

namespace Respects

theorem of_editor (editor : c'.editor = c.editor) (files : c'.files = c.files)
    (here : c'.here = c.here) : c.Respects c' :=
  ⟨by rw [editor], by rw [editor], by rw [editor], files, here⟩

theorem trans {c'' : Client} (h : c.Respects c') (h' : c'.Respects c'') : c.Respects c'' :=
  ⟨h'.documents.trans h.documents, h'.views.trans h.views, h'.active.trans h.active,
    h'.files.trans h.files, h'.here.trans h.here⟩

theorem isTidy (r : c.Respects c') (h : c.IsTidy) : c'.IsTidy := h.of_same r.documents r.files r.here

theorem activeEditor (r : c.Respects c') : c'.editor.activeEditor = c.editor.activeEditor := by
  unfold HeadlessEditor.activeEditor HeadlessEditor.viewById?
  rw [r.active, r.views]

theorem sees (r : c.Respects c') {e : EditorRef} {text : String} (h : c.Sees e text) :
    c'.Sees e text := by
  obtain ⟨active, d, hd, htext, stored⟩ := h
  exact ⟨r.activeEditor.trans active, d, by rwa [r.documents], htext, by rwa [r.files]⟩

theorem params (r : c.Respects c') (kind : ActionKind) (e : EditorRef) :
    kind.params c' e = kind.params c e := by
  cases kind <;> simp only [ActionKind.params, HeadlessEditor.selection?, HeadlessEditor.viewById?, r.views]

end Respects

/-- Decorations come and go without anybody's documents and views. -/
theorem respects_kept (c : Client) :
    KeptByDecorating fun editor : HeadlessEditor => editor.documents = c.editor.documents ∧
      editor.views = c.editor.views ∧ editor.active = c.editor.active where
  create same _ _ _ _ := same
  dispose same _ := same

theorem respects_perform (c : Client) (d : Dispatch) : c.Respects (c.perform d) := by
  cases d with
  | event e =>
    obtain ⟨documents, views, active⟩ := c.overlay.kept_handle c.respects_kept ⟨rfl, rfl, rfl⟩ e
    exact ⟨documents, views, active, rfl, rfl⟩
  | highlights r =>
    obtain ⟨documents, views, active⟩ :=
      c.overlay.kept_applyHighlights c.respects_kept ⟨rfl, rfl, rfl⟩ r
    exact ⟨documents, views, active, rfl, rfl⟩
  | barrier task => exact .of_editor rfl rfl rfl

theorem respects_dispatch? (h : c.dispatch? = some c') : c.Respects c' := by
  obtain ⟨d, rest, -, rfl⟩ := dispatch?_eq_some h
  have taken : c.Respects { c with queue := rest } := .of_editor rfl rfl rfl
  exact taken.trans (respects_perform _ d)

theorem respects_absorbAll (c : Client) (step : Session × List Signal) :
    c.Respects (c.absorbAll step) := by
  have fold (signals : List Signal) {c' : Client} (h : c.Respects c') :
      c.Respects (signals.foldl absorb c') := by
    induction signals generalizing c' with
    | nil => exact h
    | cons x signals ih =>
      refine ih (h.trans ?_)
      unfold absorb
      split
      next => exact .of_editor rfl rfl rfl
      next => exact .of_editor rfl rfl rfl
      next => split <;> exact .of_editor rfl rfl rfl
  exact fold step.2 (.of_editor rfl rfl rfl)

/-- What is shown in the end leaves the documents and the files alone. -/
theorem IsTidy.route (h : c.IsTidy) (e : EditorRef) (outcome : ActionOutcome) :
    (c.route e outcome).IsTidy := by
  cases outcome with
  | highlights r => exact (c.respects_perform (.highlights r)).isTidy h
  | computed r =>
    have kept : KeptByPainting fun editor : HeadlessEditor => editor.documents = c.editor.documents :=
      { create := fun same _ _ _ _ => same, dispose := fun same _ => same,
        setSelection := fun same _ _ => same }
    exact h.of_same (c.overlay.kept_showComputed kept rfl e r) rfl rfl

end Client

/-! ## The steps of an action -/

/-- **Whoever has sent a text finds it in the table.** -/
theorem SyncPoint.step_remembers (task : TaskId) {uri text : String} {c : Connection} {p : SyncPoint}
    (h : p.Remembers uri text c.documents) :
    (p.step task uri text c).Leads (fun c' p' => p'.Remembers uri text c'.documents)
      fun c' r => r = .ok () → ∃ d, c'.documents.get? uri = some d ∧ d.text = text := by
  cases p with
  | beginning => trivial
  | looking =>
    rw [step]
    split
    next =>
      split
      next => trivial
      next d hd =>
        split
        next htext => exact ⟨d, hd, htext⟩
        next => exact (Table.get?_set ..).trans (if_pos rfl)
    next => trivial
  | changing version =>
    rw [step, Connection.tryWrite]
    cases hw : c.write (DocumentMessage.changed uri version text) with
    | error e => trivial
    | ok c' =>
      refine ⟨⟨version, text⟩, ?_, rfl⟩
      rw [(Connection.documents_write hw).1]
      exact h
  | opening =>
    rw [step]
    split <;> trivial
  | recording => exact ⟨⟨1, text⟩, (Table.get?_set ..).trans (if_pos rfl), rfl⟩
  | leaving result =>
    rintro rfl
    exact h

theorem Session.table?_of_line {s : Session} {n : Nat} {l : Line} (h : s.line? n = some l) :
    s.table? n = some l.connection.documents := by
  rw [table?, h]
  rfl

theorem Session.table?_setConnection {s : Session} {n : Nat} {l : Line} (h : s.line? n = some l)
    (c : Connection) : (s.setConnection n c).table? n = some c.documents := by
  rw [table?, line?_setConnection, if_pos rfl, h]
  rfl

theorem Session.Lists.congr {s s' : Session} {n : Nat} {uri text : String} (h : s.Lists n uri text)
    (active : s'.active = s.active) (table : s'.table? n = s.table? n) : s'.Lists n uri text := by
  obtain ⟨hactive, t, d, ht, hd⟩ := h
  exact ⟨active.trans hactive, t, d, table.trans ht, hd⟩

/-- What is listed is listed by the table of a line. -/
theorem Session.Lists.line {s : Session} {n : Nat} {uri text : String} (h : s.Lists n uri text) :
    ∃ l, s.line? n = some l := by
  obtain ⟨-, t, d, ht, -⟩ := h
  obtain ⟨l, hl, -⟩ := Option.map_eq_some_iff.1 ht
  exact ⟨l, hl⟩

/-- Sending the text of the document. -/
theorem ActionPoint.syncing_knows (task : TaskId) (kind : ActionKind) {c : Client} (tidy : c.IsTidy)
    {e : EditorRef} {text : String} {p : Via SyncPoint} (h : (syncing e text p).Knows kind c) :
    ((syncing e text p).step task kind c).Leads (fun c' p' => c'.IsTidy ∧ p'.Knows kind c')
      fun c' _ => c'.IsTidy := by
  obtain ⟨sees, on⟩ := h
  have tidy' (s : Session) : Client.IsTidy { c with session := s } := tidy.of_same rfl rfl rfl
  rw [step]
  cases hvia : p.step .beginning (fun p x => p.step task e.uri text x) c.session with
  | waits => trivial
  | goesOn s p' =>
    refine ⟨tidy' s, sees, ?_⟩
    rcases Via.step_goesOn hvia with ⟨-, rfl, seen, rfl⟩ | ⟨seen, n, -, rfl, hn, rfl⟩ |
      ⟨n, q, l, x, q', rfl, hl, hrun, rfl, rfl⟩
    · rintro _ _ ⟨⟩
    · rintro _ _ ⟨⟩
      exact ⟨hn, fun _ _ => trivial⟩
    · rintro _ _ ⟨⟩
      obtain ⟨active, remembers⟩ := on n q rfl
      have step := SyncPoint.step_remembers task (remembers _ (table?_of_line hl))
      rw [hrun] at step
      refine ⟨active, fun t ht => ?_⟩
      obtain rfl := Option.some.inj ((table?_setConnection hl x).symm.trans ht)
      exact step
  | ends s r =>
    cases r with
    | error e => exact tidy' s
    | ok r =>
      rcases Via.step_ends hvia with ⟨-, -, state, ⟨⟩⟩ | ⟨n, q, l, x, rfl, hl, hrun, rfl⟩
      obtain ⟨active, remembers⟩ := on n q rfl
      have step := SyncPoint.step_remembers task (remembers _ (table?_of_line hl))
      rw [hrun] at step
      obtain ⟨d, hd, htext⟩ := step rfl
      exact ⟨tidy' _, n, text, sees, active, _, d, table?_setConnection hl x, hd, htext⟩

/-- Asking about the document. -/
theorem ActionPoint.asking_knows (task : TaskId) (kind : ActionKind) {c : Client} (tidy : c.IsTidy)
    {e : EditorRef} {q : Query} {p : Via RequestPoint} (h : (asking e q p).Knows kind c) :
    ((asking e q p).step task kind c).Leads (fun c' p' => c'.IsTidy ∧ p'.Knows kind c')
      fun c' _ => c'.IsTidy := by
  obtain ⟨n, text, sees, lists, method, params, on⟩ := h
  have tidy' (s : Session) : Client.IsTidy { c with session := s } := tidy.of_same rfl rfl rfl
  rw [step]
  cases hvia : p.step .beginning (fun p x => p.step q c.now x) c.session with
  | waits => trivial
  | goesOn s p' =>
    rcases Via.step_goesOn hvia with ⟨-, rfl, seen, rfl⟩ | ⟨seen, m, -, rfl, hm, rfl⟩ |
      ⟨m, r, l, x, r', rfl, hl, hrun, rfl, rfl⟩
    · exact ⟨tidy' _, n, text, sees, lists, method, params, by rintro _ _ ⟨⟩⟩
    · refine ⟨tidy' _, n, text, sees, lists, method, params, ?_⟩
      rintro _ _ ⟨⟩
      exact Option.some.inj (hm.symm.trans lists.1)
    · obtain rfl := on m r rfl
      have silent := r.step_silent q c.now l.connection
      rw [hrun] at silent
      refine ⟨tidy' _, m, text, sees, lists.congr rfl ?_, method, params, ?_⟩
      · exact (table?_setConnection hl x).trans (silent.documents ▸ (table?_of_line hl).symm)
      · rintro _ _ ⟨⟩
        rfl
  | ends s r =>
    simp only [Client.onSession, Progress.onState]
    split
    next => exact tidy' s
    next => exact tidy' s
    next => exact ⟨tidy' s, trivial⟩

/-- **What an action knows it knows after each step**, and files and documents agree all the time. -/
theorem ActionPoint.step_knows (task : TaskId) (kind : ActionKind) {c : Client} (tidy : c.IsTidy)
    {p : ActionPoint} (h : p.Knows kind c) :
    (p.step task kind c).Leads (fun c' p' => c'.IsTidy ∧ p'.Knows kind c') fun c' _ => c'.IsTidy := by
  cases p with
  | picking =>
    rw [step]
    split
    next => exact tidy
    next e he => exact ⟨tidy, he⟩
  | saving e =>
    rw [step]
    split
    next => exact tidy
    next hb =>
      obtain ⟨d, hd, stored⟩ := tidy.filed.beginSave_none hb
      exact ⟨tidy, d.text, h, d, hd, rfl, stored⟩
    next hb => exact ⟨tidy, h, HeadlessEditor.beginSave_some hb⟩
  | writing e path text =>
    obtain ⟨active, d, hd, hpath, rfl⟩ := h
    rw [step]
    split
    next => exact tidy
    next files hw =>
      obtain ⟨filed, stored⟩ := tidy.filed.writeSaved hd hpath hw
      exact ⟨⟨filed, tidy.cwd⟩, d.text, active, d, hd, rfl, stored⟩
  | saved e =>
    obtain ⟨text, active, d, hd, htext, stored⟩ := h
    refine ⟨⟨tidy.filed.endSave hd stored, tidy.cwd⟩, text, active, { d with dirty := false }, ?_,
      htext, stored⟩
    rw [HeadlessEditor.endSave, Table.get?_modify, if_pos rfl, hd]
    rfl
  | reading e =>
    obtain ⟨text, active, d, hd, rfl, stored⟩ := h
    have htext : (c.editor.text? e.uri).getD "" = d.text := by
      rw [HeadlessEditor.text?, hd]
      rfl
    rw [step, htext]
    exact ⟨tidy, ⟨active, d, hd, rfl, stored⟩, by rintro _ _ ⟨⟩⟩
  | syncing e text p => exact syncing_knows task kind tidy h
  | querying e =>
    obtain ⟨n, text, sees, lists⟩ := h
    exact ⟨tidy, n, text, sees, lists, rfl, rfl, by rintro _ _ ⟨⟩⟩
  | asking e q p => exact asking_knows task kind tidy h
  | routing e outcome => exact tidy.route e outcome

/-- What others do leaves to an action what it knows, if they respect the editor and the table. -/
theorem ActionPoint.Knows.of_respects {kind : ActionKind} {c c' : Client} {p : ActionPoint}
    (h : p.Knows kind c) (r : c.Respects c') (active : c'.session.active = c.session.active)
    (tables : ∀ n, c'.session.table? n = c.session.table? n) : p.Knows kind c' := by
  cases p with
  | picking => trivial
  | saving e => exact r.activeEditor.trans h
  | writing e path text =>
    obtain ⟨hactive, d, hd, hsame⟩ := h
    exact ⟨r.activeEditor.trans hactive, d, by rwa [r.documents], hsame⟩
  | saved e => exact h.imp fun _ => r.sees
  | reading e => exact h.imp fun _ => r.sees
  | syncing e text p =>
    obtain ⟨sees, on⟩ := h
    refine ⟨r.sees sees, fun n q hq => ?_⟩
    rw [active, tables]
    exact on n q hq
  | querying e =>
    obtain ⟨n, text, sees, lists⟩ := h
    exact ⟨n, text, r.sees sees, lists.congr active (tables n)⟩
  | asking e q p =>
    obtain ⟨n, text, sees, lists, method, params, on⟩ := h
    exact ⟨n, text, r.sees sees, lists.congr active (tables n), method,
      params.trans (congrArg some (r.params kind e).symm), on⟩
  | routing e outcome => trivial

theorem Call.Knows.of_respects {c c' : Client} {call : Call} (h : call.Knows c) (r : c.Respects c')
    (active : c'.session.active = c.session.active)
    (tables : ∀ n, c'.session.table? n = c.session.table? n) : call.Knows c' := by
  unfold Call.Knows at h ⊢
  split
  next => exact ActionPoint.Knows.of_respects h r active tables
  next => trivial

/-! ## The steps of a call -/

section

variable {c : Client} (tidy : c.IsTidy)

include tidy

theorem RunPoint.step_knows (task : TaskId) (kind : ActionKind) (reporting : Bool) {p : RunPoint}
    (h : (Call.run kind reporting p).Knows c) :
    (p.step task kind reporting c).Leads
      (fun c' p' => c'.IsTidy ∧ (Call.run kind reporting p').Knows c') fun c' _ => c'.IsTidy := by
  cases p with
  | flushing => exact ⟨tidy.of_same rfl rfl rfl, trivial⟩
  | waiting =>
    rw [step]
    split
    next => exact ⟨tidy.of_same rfl rfl rfl, trivial⟩
    next => trivial
  | acting p =>
    have step := p.step_knows task kind tidy h
    rw [RunPoint.step]
    split
    next => trivial
    next he => rw [he] at step; exact step
    next c' r he =>
      rw [he] at step
      -- a failure that nobody asked for is only logged
      cases reporting with
      | true => exact ⟨step, trivial⟩
      | false => cases r with
        | ok outcome => exact ⟨step, trivial⟩
        | error e => exact ⟨Client.IsTidy.of_same step rfl rfl rfl, trivial⟩
  | flushingAfter r => exact ⟨tidy.of_same rfl rfl rfl, trivial⟩
  | waitingAfter r =>
    rw [step]
    split
    next => exact tidy.of_same rfl rfl rfl
    next => trivial

/-- A call that consists of a part on the session. -/
theorem Call.last_knows {π α : Type} (p : Progress Session π α) (wrap : π → Call)
    (hw : ∀ x c, (wrap x).Knows c) (result : α → CallResult) :
    ((c.onSession p).last wrap result).Leads (fun c' call' => c'.IsTidy ∧ call'.Knows c')
      fun c' _ => c'.IsTidy := by
  cases p with
  | waits => trivial
  | goesOn s x => exact ⟨tidy.of_same rfl rfl rfl, hw x _⟩
  | ends s a => exact tidy.of_same rfl rfl rfl

/-- **Every call leaves documents and files in agreement**, and an action with what it has to know. -/
theorem Call.step_knows (task : TaskId) {call : Call} (h : call.Knows c) :
    (call.step task c).Leads (fun c' call' => c'.IsTidy ∧ call'.Knows c') fun c' _ => c'.IsTidy := by
  cases call with
  | run kind reporting p =>
    exact (p.step_knows tidy task kind reporting h).last (fun _ _ h => h) fun _ _ h => h
  | startUp p =>
    cases p with
    | finding =>
      rw [step]
      split
      next =>
        unfold Client.announce
        split <;> exact tidy.of_same rfl rfl rfl
      next => exact ⟨tidy, trivial⟩
    | starting endpoint p =>
      exact last_knows tidy _ (fun p => startUp (.starting endpoint p)) (fun _ _ => trivial) _
  | restart p =>
    rw [step]
    cases p.step task .restart c.now c.session with
    | waits => trivial
    | goesOn s x => exact ⟨tidy.of_same rfl rfl rfl, trivial⟩
    | ends s r => cases r <;> exact tidy.of_same rfl rfl rfl
  | openFile path p =>
    cases p with
    | opening =>
      rw [step]
      split
      next => exact tidy
      next ho => exact ⟨⟨tidy.filed.openFile tidy.cwd ho, tidy.cwd⟩, trivial⟩
    | showing uri =>
      rw [step]
      split
      next => exact tidy
      next hs => exact tidy.of_same (HeadlessEditor.documents_showDocument hs) rfl rfl
  | lifecycle call p => exact last_knows tidy _ (lifecycle call) (fun _ _ => trivial) _
  | request q p => exact last_knows tidy _ (request q) (fun _ _ => trivial) _
  | notify m p => exact last_knows tidy _ (notify m) (fun _ _ => trivial) _
  | sync uri text p => exact last_knows tidy _ (sync uri text) (fun _ _ => trivial) _
  | closeDocument uri p => exact last_knows tidy _ (closeDocument uri) (fun _ _ => trivial) _
  | handshake n q p => exact last_knows tidy _ (handshake n q) (fun _ _ => trivial) _
  | shutdown n q p => exact last_knows tidy _ (shutdown n q) (fun _ _ => trivial) _
  | close n reason p => exact last_knows tidy _ (close n reason) (fun _ _ => trivial) _

end

/-! ## Histories -/

namespace Workbench

/-- People touch the editor only between calls, and pass on what has become of it when they like. -/
def EditsBetween (w : Workbench) : Happening → Prop
  | .edits f => (w.calls = [] ∧ ∃ gesture, f = (·.gesture gesture)) ∨ ∃ e, f = (·.send (.event e))
  | _ => True

/-- Files and documents agree, and every action knows what it has to. -/
structure IsTidy (w : Workbench) : Prop where
  client : w.client.IsTidy
  calls : ∀ task call, w.calls.get? task = some call → call.Knows w.client

variable {w₀ w w' : Workbench} {g : Happening} {hs : List Happening}

/-- Only calls and people do anything to documents, views and files. -/
theorem happen?_respects (h : w.happen? g = some w') (hcall : ∀ task, g ≠ .goesOn (.call task))
    (hedits : ∀ f, g ≠ .edits f) : w.client.Respects w'.client := by
  cases g with
  | goesOn a =>
    cases a with
    | call task => exact absurd rfl (hcall task)
    | reader n =>
      obtain ⟨_, _, _, _, rfl, _⟩ := act?_reader (.inl rfl) h
      exact w.client.respects_absorbAll _
    | lateReader n =>
      obtain ⟨_, _, _, _, rfl, _⟩ := act?_reader (.inr rfl) h
      exact w.client.respects_absorbAll _
    | dispatcher =>
      obtain ⟨c, hc, rfl⟩ := Option.map_eq_some_iff.1 h
      exact Client.respects_dispatch? hc
    | opener =>
      obtain ⟨_, _, _, _, rfl⟩ := act?_opener h
      exact .of_editor rfl rfl rfl
    | _ =>
      obtain ⟨_, _, rfl⟩ := Option.map_eq_some_iff.1 h
      exact .of_editor rfl rfl rfl
  | calls c =>
    obtain ⟨_, rfl⟩ := happen?_calls.1 h
    exact .of_editor rfl rfl rfl
  | opens link peer process =>
    obtain ⟨_, rfl⟩ := answer?_eq_some.1 h
    exact .of_editor rfl rfl rfl
  | refuses e =>
    obtain ⟨_, rfl⟩ := answer?_eq_some.1 h
    exact .of_editor rfl rfl rfl
  | edits f => exact absurd rfl (hedits f)
  | _ => cases h; exact .of_editor rfl rfl rfl

/-- The tables are what the accounts say. -/
theorem table?_of_account? {n : Nat} (h : w'.account? n = w.account? n) :
    w'.client.session.table? n = w.client.session.table? n := by
  have table (u : Workbench) : u.client.session.table? n = (u.account? n).map Prod.snd := by
    rw [account?, Option.map_map]
    rfl
  rw [table, table, h]

theorem IsTidy.call (hw : w.IsTidy) (solitary : w.IsSolitary) {task : TaskId}
    (h : w.act? (.call task) = some w') : w'.IsTidy := by
  obtain ⟨call, hcall, h⟩ := act?_call h
  have step := call.step_knows hw.client task (hw.calls task call hcall)
  have alone {other : TaskId} {c : Call} (hc : w.calls.get? other = some c) : other = task :=
    solitary.unique hc hcall
  rcases h with ⟨client, call', hstep, rfl⟩ | ⟨client, r, hstep, rfl⟩ <;> rw [hstep] at step
  · refine ⟨step.1, fun other c hc => ?_⟩
    rw [Table.get?_set] at hc
    split at hc
    next => cases hc; exact step.2
    next hne => exact absurd (alone hc).symm hne
  · refine ⟨step, fun other c hc => ?_⟩
    rw [Table.get?_erase] at hc
    split at hc
    next => cases hc
    next hne => exact absurd (alone hc).symm hne

/-- **Whatever happens, files and documents agree and actions know what they have to.** -/
theorem IsTidy.happen? (hw : w.IsTidy) (solitary : w.IsSolitary) (sound : w.Sound) (plain : w.IsPlain)
    (edits : w.EditsBetween g) (h : w.happen? g = some w') : w'.IsTidy := by
  by_cases hcall : ∃ task, g = .goesOn (.call task)
  · obtain ⟨task, rfl⟩ := hcall
    exact hw.call solitary h
  have hcall (task : TaskId) (e : g = .goesOn (.call task)) : False := hcall ⟨task, e⟩
  have active := (happen?_drifts h hcall).active
  have tables (n : Nat) := table?_of_account? (account?_happen? sound plain h hcall n)
  by_cases hedits : ∃ f, g = .edits f
  · obtain ⟨f, rfl⟩ := hedits
    cases h
    rcases edits with ⟨rests, gesture, rfl⟩ | ⟨e, rfl⟩
    · refine ⟨(hw.client.gesture gesture).of_same rfl rfl rfl, fun task call hcall => ?_⟩
      rw [rests] at hcall
      cases hcall
    · have respects : w.client.Respects
          { w.client.send (.event e) with session := w.client.session } := .of_editor rfl rfl rfl
      exact ⟨respects.isTidy hw.client, fun task call hcall =>
        Call.Knows.of_respects (hw.calls task call hcall) respects active tables⟩
  have respects := happen?_respects h hcall fun f e => hedits ⟨f, e⟩
  refine ⟨respects.isTidy hw.client, fun task call hget => ?_⟩
  rcases happen?_cases h with ⟨task, rfl⟩ | ⟨c, rfl, hnew, rfl⟩ | ⟨hcalls, -, -, -⟩
  · exact (hcall task rfl).elim
  · rcases sound.get?_add c task with ⟨-, hadded⟩ | hsame
    · obtain rfl : c = call := Option.some.inj (hadded.symm.trans hget)
      exact Call.knows_of_isNew hnew _
    · exact Call.Knows.of_respects (hw.calls task call (hsame ▸ hget)) respects active tables
  · exact Call.Knows.of_respects (hw.calls task call (hcalls ▸ hget)) respects active tables

theorem isTidy_after? (h₀ : w₀.IsFresh) (documents : w₀.client.editor.documents = [])
    (cwd : ∀ name ∈ w₀.client.here.cwd, Path.IsName name) (h : w₀.after? hs = some w)
    (one : w₀.Throughout hs OneByOne) (plain : w₀.Throughout hs fun _ g => g.IsPlain)
    (edits : w₀.Throughout hs EditsBetween) : w.IsTidy := by
  refine after?_induction (P := fun hs w => w₀.Throughout hs OneByOne →
    (w₀.Throughout hs fun _ g => g.IsPlain) → w₀.Throughout hs EditsBetween → w.IsTidy)
    (fun _ _ _ => ?_) (fun hs g u u' hu ih hstep one plain edits => ?_) h one plain edits
  · refine ⟨⟨HeadlessEditor.keeps_of_documents_nil documents _, cwd⟩, fun task call hcall => ?_⟩
    rw [h₀.calls] at hcall
    cases hcall
  · exact (ih one.of_concat plain.of_concat edits.of_concat).happen?
      (isSolitary_after? h₀ one.of_concat hu) (sound_after? h₀ hu)
      (isPlain_after? h₀ plain.of_concat hu) (edits.last hu) hstep

end Workbench

end LanguageClient
