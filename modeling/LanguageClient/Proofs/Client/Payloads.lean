import LanguageClient.Proofs.Client.Queue
import LanguageClient.Proofs.Connection.Request
import LanguageClient.Proofs.Highlight.Upkeep

/-!
# Highlights on their way

Highlights for a document come in two ways.  Those that the server sends on its own account go through
the queue to the dispatcher; those that answer a request to load the document wait in the slot of the
request until the action reads them, and the action shows them itself.  Here is where the highlights
for one document are between these steps, and what each step does to them.

* `Client.queued` — what the dispatcher has still to handle, in its order.
* `Call.carries?` — what a call has got and has still to show.
* `Connection.pushes?` — what the reader of a connection is about to queue.
* `Client.Beside` — nothing of what is queued or cached changes.
* **`Call.step_carries`** — a call keeps what it carries, or shows it.
* `Client.queued_absorbAll`, `Client.dispatch?_cases` — what a step of a reader and of the dispatcher
  does.
-/

namespace LanguageClient

/-- The set of a document, if this is a result for it. -/
def HighlightResult.for? (r : HighlightResult) (uri : String) : Option (List Symbol) :=
  if r.uri = uri then some r.symbols else none

/-- The set that a piece of work brings for a document. -/
def Dispatch.payload? (uri : String) : Dispatch → Option (List Symbol)
  | highlights r => r.for? uri
  | _ => none

/-- The set that a signal of a reader brings for a document. -/
def Signal.payload? (uri : String) : Signal → Option (List Symbol)
  | notified .overlay params => (HighlightResult.decode params).toOption.bind (·.for? uri)
  | _ => none

/-- The set that a notification brings for a document, if it is handled as highlights. -/
def Notification.payload? (handlers : Handlers) (uri : String) (n : Notification) :
    Option (List Symbol) :=
  (handlers.get? n.method).bind fun h => (Signal.notified h (n.params.getD .null)).payload? uri

/-- The set for a document that an action reads out of what its request came to. -/
def ActionKind.brings? (kind : ActionKind) (uri : String) (r : Except Failure Json) :
    Option (List Symbol) :=
  match kind.readOutcome r with
  | .ok (some (.highlights r)) => r.for? uri
  | _ => none

/-- The set that the answer to an action brings for a document. -/
def ActionKind.payload? (kind : ActionKind) (uri : String) (a : Response) : Option (List Symbol) :=
  kind.brings? uri (a.outcome.mapError Failure.ofResponseError)

/-- A failure brings nothing. -/
theorem ActionKind.brings?_error (kind : ActionKind) (uri : String) (e : Failure) :
    kind.brings? uri (.error e) = none := by
  cases kind <;> rfl

namespace Client

/-- The sets for a document that the dispatcher has still to handle. -/
def queued (c : Client) (uri : String) : List (List Symbol) :=
  c.queue.filterMap (Dispatch.payload? uri)

theorem queued_send (c : Client) (uri : String) (d : Dispatch) :
    (c.send d).queued uri = c.queued uri ++ (d.payload? uri).toList := by
  rw [queued, send, List.filterMap_append]
  cases h : d.payload? uri <;> simp [queued, h]

/-- Nothing changes of what is queued or cached for a document. -/
structure Beside (uri : String) (c c' : Client) : Prop where
  queued : c'.queued uri = c.queued uri
  cached : c'.overlay.cached? uri = c.overlay.cached? uri

theorem Beside.refl (uri : String) (c : Client) : c.Beside uri c := ⟨rfl, rfl⟩

theorem beside_send {uri : String} {d : Dispatch} (c : Client) (h : d.payload? uri = none) :
    c.Beside uri (c.send d) := by
  refine ⟨?_, rfl⟩
  rw [queued_send, h]
  exact List.append_nil _

theorem onSession_beside {π α : Type} (uri : String) (c : Client) (p : Progress Session π α) :
    (c.onSession p).All (c.Beside uri) := by
  cases p <;> first | trivial | exact ⟨rfl, rfl⟩

/-- A set becomes the one that is cached for a document. -/
structure Shows (uri : String) (symbols : List Symbol) (c c' : Client) : Prop where
  queued : c'.queued uri = c.queued uri
  cached : c'.overlay.cached? uri = some symbols

/-! ## Taking highlights -/

/-- Highlights for an open document become those that are cached, and others leave them alone. -/
theorem cached?_highlights {c : Client} {uri : String} (hopen : c.editor.isOpen uri = true)
    (r : HighlightResult) :
    (c.perform (.highlights r)).overlay.cached? uri = (r.for? uri).or (c.overlay.cached? uri) := by
  refine (c.overlay.cached?_applyHighlights c.editor r uri).trans ?_
  by_cases huri : r.uri = uri
  · have hopen' : EditorHost.isOpen c.editor r.uri = true := huri ▸ hopen
    rw [if_pos ⟨hopen', huri⟩, HighlightResult.for?, if_pos huri]
    rfl
  · rw [if_neg fun h => huri h.2, HighlightResult.for?, if_neg huri]
    rfl

/-- Only closing a document makes what is cached for it go. -/
theorem cached?_event {c : Client} {uri : String} {e : EditorEvent} (h : e ≠ .documentClosed uri) :
    (c.perform (.event e)).overlay.cached? uri = c.overlay.cached? uri := by
  show (c.overlay.handle c.editor e).1.cached? uri = c.overlay.cached? uri
  cases e with
  | activeChanged editor =>
    cases editor with
    | none => rfl
    | some editor => exact congrArg (Table.get? · uri) (c.overlay.cache_showFor c.editor editor)
  | documentChanged uri' changed =>
    cases changed with
    | false => rfl
    | true =>
      rw [Overlay.handle]
      split
      next active _ =>
        split
        next => exact congrArg (Table.get? · uri) (c.overlay.cache_clear c.editor active.id)
        next => rfl
      next => rfl
  | documentClosed uri' =>
    refine (c.overlay.cached?_forget c.editor uri' uri).trans (if_neg ?_)
    rintro rfl
    exact h rfl

/-- **What the dispatcher does**: it takes up the next set for a document, or nothing that concerns
it. -/
theorem dispatch?_cases {c c' : Client} {uri : String} (h : c.dispatch? = some c')
    (hopen : c.editor.isOpen uri = true) (hkept : .event (.documentClosed uri) ∉ c.queue) :
    c.Beside uri c' ∨ ∃ symbols, c.queued uri = symbols :: c'.queued uri ∧
      c'.overlay.cached? uri = some symbols := by
  obtain ⟨d, rest, hq, rfl⟩ := dispatch?_eq_some h
  have hqueued : c.queued uri = (d.payload? uri).toList ++
      (({ c with queue := rest } : Client).perform d).queued uri := by
    rw [queued, hq, queued, queue_perform, List.filterMap_cons]
    cases d.payload? uri <;> rfl
  cases hd : d.payload? uri with
  | some symbols =>
    rw [hd] at hqueued
    refine .inr ⟨symbols, hqueued, ?_⟩
    cases d with
    | highlights r =>
      replace hd : r.for? uri = some symbols := hd
      rw [cached?_highlights (c := { c with queue := rest }) hopen, hd]
      rfl
    | event e => cases hd
    | barrier task => cases hd
  | none =>
    rw [hd] at hqueued
    refine .inl ⟨hqueued.symm, ?_⟩
    cases d with
    | highlights r =>
      replace hd : r.for? uri = none := hd
      rw [cached?_highlights (c := { c with queue := rest }) hopen, hd]
      rfl
    | event e =>
      refine cached?_event (c := { c with queue := rest }) ?_
      rintro rfl
      exact hkept (hq ▸ List.mem_cons_self)
    | barrier task => rfl

/-! ## What a reader queues -/

/-- A reader paints nothing. -/
theorem overlay_absorb (c : Client) (x : Signal) : (c.absorb x).overlay = c.overlay := by
  unfold absorb
  split
  next => rfl
  next => rfl
  next => split <;> rfl

theorem overlay_absorbAll (c : Client) (step : Session × List Signal) :
    (c.absorbAll step).overlay = c.overlay := by
  have fold (signals : List Signal) (c : Client) : (signals.foldl absorb c).overlay = c.overlay := by
    induction signals generalizing c with
    | nil => rfl
    | cons x signals ih => rw [List.foldl_cons, ih, overlay_absorb]
  exact fold step.2 _

end Client

/-- The set for a document that the reader is about to queue. -/
def Connection.pushes? (handlers : Handlers) (uri : String) (c : Connection) : Option (List Symbol) :=
  match c.reader with
  | .heard (.notification n) => n.payload? handlers uri
  | _ => none

/-- Whatever the document, it is part of what the reader is about to queue. -/
theorem Connection.pushes?_eq (handlers : Handlers) (uri : String) (c : Connection) :
    c.pushes? handlers uri = (c.push? handlers).bind (·.for? uri) := by
  rw [pushes?, push?]
  cases c.reader with
  | heard m =>
    cases m with
    | notification n =>
      simp only [Notification.payload?]
      cases handlers.get? n.method with
      | none => rfl
      | some handler => cases handler <;> rfl
    | _ => rfl
  | _ => rfl

/-- **A step of a reader queues what a notification brings**, and nothing else. -/
theorem Client.queued_absorbAll {handlers : Handlers} {x x' : Connection} {signals : List Signal}
    (h : Reader.step? handlers x = some (x', signals)) (c : Client) (s : Session) (uri : String) :
    (c.absorbAll (s, signals)).queued uri = c.queued uri ++ (x.pushes? handlers uri).toList := by
  rw [queued, (absorbAll_queues h c s).queue, List.filterMap_append, Connection.pushes?_eq]
  cases x.push? handlers with
  | none => rfl
  | some r =>
    show _ ++ ([Dispatch.highlights r].filterMap (Dispatch.payload? uri)) = _ ++ (r.for? uri).toList
    rw [List.filterMap_cons]
    cases hr : r.for? uri <;> simp [Dispatch.payload?, hr, queued]

/-! ## What a call carries -/

/-- What has come into a slot of a line. -/
def Session.answerIn? (s : Session) (n slot : Nat) : Option Response :=
  (s.line? n).bind (·.connection.answers.get? slot)

/-- The set for a document that an action has got: the answer has come, or it has been read. -/
def ActionPoint.carries? (kind : ActionKind) (uri : String) (s : Session) :
    ActionPoint → Option (List Symbol)
  | asking _ _ (.on n (.waiting _ slot _)) => (s.answerIn? n slot).bind (kind.payload? uri)
  | routing _ (.highlights r) => r.for? uri
  | _ => none

def Call.carries? (uri : String) (s : Session) : Call → Option (List Symbol)
  | run kind _ (.acting p) => p.carries? kind uri s
  | _ => none

/-- The line and the slot under which a request is about to be written. -/
def Call.writes? : Call → Option (Nat × Nat)
  | run _ _ (.acting (.asking _ _ (.on n (.writing _ slot)))) => some (n, slot)
  | _ => none

/-- The action whose request waits for an answer in a slot of a line. -/
def Call.awaits? (n slot : Nat) : Call → Option ActionKind
  | run kind _ (.acting (.asking _ _ (.on m (.waiting _ slot' _)))) =>
    if m = n ∧ slot' = slot then some kind else none
  | _ => none

/-- What such a call carries is what has come into the slot. -/
theorem Call.carries?_of_awaits {call : Call} {n slot : Nat} {kind : ActionKind}
    (h : call.awaits? n slot = some kind) (uri : String) (s : Session) :
    call.carries? uri s = (s.answerIn? n slot).bind (kind.payload? uri) ∧
      ∃ id deadline, call.place? = some (n, .asks (.waiting id slot deadline)) := by
  unfold awaits? at h
  split at h
  next kind' reporting editor q m id slot' deadline =>
    split at h
    next he =>
      obtain ⟨rfl, rfl⟩ := he
      cases h
      exact ⟨rfl, id, deadline, rfl⟩
    next => cases h
  next => cases h

/-- A call at its beginning carries nothing. -/
theorem Call.carries?_of_isNew {call : Call} (h : call.isNew = true) (uri : String) (s : Session) :
    call.carries? uri s = none := by
  cases call with
  | run kind reporting p => cases p <;> first | rfl | cases h
  | _ => rfl

/-- Other calls carry what they carry whatever has come in. -/
theorem Call.carries?_cases (call : Call) (uri : String) :
    (∃ n slot kind, call.awaits? n slot = some kind) ∨
      ∀ s s', call.carries? uri s = call.carries? uri s' := by
  cases call with
  | run kind reporting p =>
    cases p with
    | acting p =>
      cases p with
      | asking editor q p =>
        cases p with
        | on n p =>
          cases p with
          | waiting id slot deadline => exact .inl ⟨n, slot, kind, if_pos ⟨rfl, rfl⟩⟩
          | _ => exact .inr fun _ _ => rfl
        | _ => exact .inr fun _ _ => rfl
      | routing editor outcome =>
        cases outcome <;> exact .inr fun _ _ => rfl
      | _ => exact .inr fun _ _ => rfl
    | _ => exact .inr fun _ _ => rfl
  | _ => exact .inr fun _ _ => rfl

/-- A request that takes a step keeps what has come into its slot, unless it returns it. -/
theorem RequestPoint.step_carries (kind : ActionKind) (uri : String) (editor : EditorRef) (q : Query)
    (now : Nat) {s : Session} {n : Nat} {l : Line} (hl : s.line? n = some l) {p : RequestPoint}
    (early : ∀ id slot, p = .writing id slot → s.answerIn? n slot = none) :
    (p.step q now l.connection).Leads
      (fun c p' => (ActionPoint.asking editor q (.on n p')).carries? kind uri (s.setConnection n c) =
        (ActionPoint.asking editor q (.on n p)).carries? kind uri s)
      fun _ r =>
        (ActionPoint.asking editor q (.on n p)).carries? kind uri s = kind.brings? uri r := by
  have answer (slot : Nat) : s.answerIn? n slot = l.connection.answers.get? slot := by
    rw [Session.answerIn?, hl]
    rfl
  cases hs : p.step q now l.connection with
  | waits => trivial
  | goesOn c p' =>
    cases RequestPoint.goes_of_step hs with
    | @writes id slot deadline _ hw =>
      have hline : (s.setConnection n c).line? n = some { l with connection := c } := by
        rw [Session.line?_setConnection, if_pos rfl, hl]
        rfl
      have hanswers := (answer slot).symm.trans (early id slot rfl)
      show (((s.setConnection n c).answerIn? n slot).bind (kind.payload? uri) : Option _) = none
      rw [Session.answerIn?, hline, Option.bind_some, (Connection.calm_write hw).answers, hanswers]
      rfl
    | @expires id slot deadline ha =>
      show (none : Option (List Symbol)) = (s.answerIn? n slot).bind _
      rw [answer, ha]
      rfl
    | _ => rfl
  | ends c r =>
    cases RequestPoint.ends_of_step hs with
    | @returns id slot deadline a ha =>
      show (s.answerIn? n slot).bind _ = _
      rw [answer, ha]
      rfl
    | @abandoned id slot deadline ha _ =>
      refine Eq.trans ?_ (kind.brings?_error uri _).symm
      show (s.answerIn? n slot).bind _ = none
      rw [answer, ha]
      rfl
    | _ => exact (kind.brings?_error uri _).symm

/-- The request of an action keeps what has come into its slot, unless it returns it. -/
theorem ActionPoint.asking_carries (kind : ActionKind) (uri : String) (c : Client) (editor : EditorRef)
    (q : Query) {p : Via RequestPoint}
    (early : ∀ n id slot, p = .on n (.writing id slot) → c.session.answerIn? n slot = none) :
    (c.onSession (p.step .beginning (fun p x => RequestPoint.step q c.now x p) c.session)).Leads
      (fun c' p' => c.Beside uri c' ∧ (asking editor q p').carries? kind uri c'.session =
        (asking editor q p).carries? kind uri c.session)
      fun c' r => c.Beside uri c' ∧
        (asking editor q p).carries? kind uri c.session = kind.brings? uri r := by
  cases p with
  | looking =>
    rw [Via.step]
    split
    next => exact ⟨⟨rfl, rfl⟩, rfl⟩
    next => exact ⟨⟨rfl, rfl⟩, (kind.brings?_error uri _).symm⟩
  | picking seen =>
    rw [Via.step]
    split
    next => trivial
    next =>
      split
      next => exact ⟨⟨rfl, rfl⟩, (kind.brings?_error uri _).symm⟩
      next => exact ⟨⟨rfl, rfl⟩, rfl⟩
  | on n p =>
    rw [Via.step, Session.onLine]
    split
    next => trivial
    next l hl =>
      have step := RequestPoint.step_carries kind uri editor q c.now hl (p := p) fun id slot he =>
        early n id slot (by rw [he])
      cases hs : p.step q c.now l.connection with
      | waits => trivial
      | goesOn x p' => rw [hs] at step; exact ⟨⟨rfl, rfl⟩, step⟩
      | ends x r => rw [hs] at step; exact ⟨⟨rfl, rfl⟩, step⟩

/-- **An action keeps what it carries, or shows it.** -/
theorem ActionPoint.step_carries (task : TaskId) (kind : ActionKind) {uri : String} {c : Client}
    (hopen : c.editor.isOpen uri = true) {p : ActionPoint}
    (early : ∀ editor q n id slot, p = .asking editor q (.on n (.writing id slot)) →
      c.session.answerIn? n slot = none) :
    (p.step task kind c).Leads
      (fun c' p' => c.Beside uri c' ∧ p'.carries? kind uri c'.session = p.carries? kind uri c.session)
      fun c' _ => (c.Beside uri c' ∧ p.carries? kind uri c.session = none) ∨
        ∃ symbols, p.carries? kind uri c.session = some symbols ∧ c.Shows uri symbols c' := by
  cases p with
  | picking =>
    rw [step]
    split
    next => exact .inl ⟨.refl _ _, rfl⟩
    next => exact ⟨.refl _ _, rfl⟩
  | saving editor =>
    rw [step]
    split
    next => exact .inl ⟨.refl _ _, rfl⟩
    next => exact ⟨.refl _ _, rfl⟩
    next => exact ⟨.refl _ _, rfl⟩
  | writing editor path text =>
    rw [step]
    split
    next => exact .inl ⟨.refl _ _, rfl⟩
    next => exact ⟨⟨rfl, rfl⟩, rfl⟩
  | saved editor => exact ⟨⟨rfl, rfl⟩, rfl⟩
  | reading editor => exact ⟨.refl _ _, rfl⟩
  | syncing editor text p =>
    have beside := c.onSession_beside uri
      (p.step .beginning (fun p x => p.step task editor.uri text x) c.session)
    rw [step]
    split
    next => trivial
    next he => rw [he] at beside; exact ⟨beside, rfl⟩
    next he => rw [he] at beside; exact ⟨beside, rfl⟩
    next he => rw [he] at beside; exact .inl ⟨beside, rfl⟩
  | querying editor => exact ⟨.refl _ _, rfl⟩
  | asking editor q p =>
    have carries := asking_carries kind uri c editor q (p := p) fun n id slot he =>
      early editor q n id slot (by rw [he])
    rw [step]
    split
    next => trivial
    next he => rw [he] at carries; exact carries
    next c' r he =>
      rw [he] at carries
      obtain ⟨beside, hbrings⟩ := carries
      rw [hbrings, ActionKind.brings?]
      cases kind.readOutcome r with
      | error e => exact .inl ⟨beside, rfl⟩
      | ok outcome =>
        cases outcome with
        | none => exact .inl ⟨beside, rfl⟩
        | some outcome => cases outcome <;> exact ⟨beside, rfl⟩
  | routing editor outcome =>
    cases outcome with
    | highlights r =>
      have cached := Client.cached?_highlights hopen r
      cases hr : r.for? uri with
      | none =>
        rw [hr] at cached
        exact .inl ⟨⟨rfl, cached⟩, hr⟩
      | some symbols =>
        rw [hr] at cached
        exact .inr ⟨symbols, hr, rfl, cached⟩
    | computed r =>
      refine .inl ⟨⟨rfl, ?_⟩, rfl⟩
      exact congrArg (Table.get? · uri) (c.overlay.cache_showComputed c.editor editor r)

/-- A call keeps what it carries and shows nothing, or it shows what it carries. -/
def Client.Delivers (uri : String) (c c' : Client) (before after : Option (List Symbol)) : Prop :=
  (c.Beside uri c' ∧ after = before) ∨
    ∃ symbols, before = some symbols ∧ after = none ∧ c.Shows uri symbols c'

theorem RunPoint.step_carries (task : TaskId) (kind : ActionKind) (reporting : Bool) {uri : String}
    {c : Client} (hopen : c.editor.isOpen uri = true) {p : RunPoint}
    (early : ∀ n slot, (Call.run kind reporting p).writes? = some (n, slot) →
      c.session.answerIn? n slot = none) :
    (p.step task kind reporting c).Leads
      (fun c' p' => c.Delivers uri c' ((Call.run kind reporting p).carries? uri c.session)
        ((Call.run kind reporting p').carries? uri c'.session))
      fun c' _ => c.Delivers uri c' ((Call.run kind reporting p).carries? uri c.session) none := by
  cases p with
  | flushing => exact .inl ⟨c.beside_send rfl, rfl⟩
  | waiting =>
    rw [step]
    split
    next => exact .inl ⟨⟨rfl, rfl⟩, rfl⟩
    next => trivial
  | acting p =>
    have carries := p.step_carries task kind hopen fun editor q n id slot he =>
      early n slot (by rw [he]; rfl)
    rw [step]
    split
    next => trivial
    next he => rw [he] at carries; exact .inl carries
    next c' r he =>
      rw [he] at carries
      -- A failure that nobody asked for leaves a line in the log.
      have logged : (if reporting then (c', r) else swallow kind c' r).1.queued uri = c'.queued uri ∧
          (if reporting then (c', r) else swallow kind c' r).1.overlay = c'.overlay := by
        cases reporting with
        | true => exact ⟨rfl, rfl⟩
        | false => cases r <;> exact ⟨rfl, rfl⟩
      rcases carries with ⟨beside, hnone⟩ | ⟨symbols, hsome, shows⟩
      · exact .inl ⟨⟨logged.1.trans beside.queued,
          (congrArg (Overlay.cached? · uri) logged.2).trans beside.cached⟩, hnone.symm⟩
      · exact .inr ⟨symbols, hsome, rfl, logged.1.trans shows.queued,
          (congrArg (Overlay.cached? · uri) logged.2).trans shows.cached⟩
  | flushingAfter r => exact .inl ⟨c.beside_send rfl, rfl⟩
  | waitingAfter r =>
    rw [step]
    split
    next => exact .inl ⟨⟨rfl, rfl⟩, rfl⟩
    next => trivial

/-- A call that has a part which does nothing to the highlights of a document. -/
theorem Call.last_carries {π α : Type} {uri : String} {c : Client} {p : Progress Client π α}
    (hp : p.All (c.Beside uri)) (wrap : π → Call) (hw : ∀ x s, (wrap x).carries? uri s = none)
    (result : α → CallResult) :
    (p.last wrap result).Leads
      (fun c' call' => c.Delivers uri c' none (call'.carries? uri c'.session))
      fun c' _ => c.Delivers uri c' none none := by
  cases p with
  | waits => trivial
  | goesOn c' x => exact .inl ⟨hp, hw x _⟩
  | ends c' a => exact .inl ⟨hp, rfl⟩

/-- **A call keeps what it carries, or shows it.** -/
theorem Call.step_carries (task : TaskId) {uri : String} {c : Client}
    (hopen : c.editor.isOpen uri = true) {call : Call}
    (early : ∀ n slot, call.writes? = some (n, slot) → c.session.answerIn? n slot = none) :
    (call.step task c).Leads
      (fun c' call' => c.Delivers uri c' (call.carries? uri c.session) (call'.carries? uri c'.session))
      fun c' _ => c.Delivers uri c' (call.carries? uri c.session) none := by
  have onSession {π α : Type} (p : Progress Session π α) (wrap : π → Call) (result : α → CallResult)
      (hw : ∀ x s, (wrap x).carries? uri s = none) :=
    last_carries (c.onSession_beside uri p) wrap hw result
  cases call with
  | lifecycle call p => exact onSession _ _ _ fun _ _ => rfl
  | request q p => exact onSession _ _ _ fun _ _ => rfl
  | notify m p => exact onSession _ _ _ fun _ _ => rfl
  | sync uri text p => exact onSession _ _ _ fun _ _ => rfl
  | closeDocument uri p => exact onSession _ _ _ fun _ _ => rfl
  | handshake n q p => exact onSession _ _ _ fun _ _ => rfl
  | shutdown n q p => exact onSession _ _ _ fun _ _ => rfl
  | close n reason p => exact onSession _ _ _ fun _ _ => rfl
  | run kind reporting p =>
    exact (p.step_carries task kind reporting hopen early).last (fun _ _ h => h) fun _ _ h => h
  | startUp p =>
    cases p with
    | finding =>
      rw [step]
      split
      next e _ =>
        refine .inl ⟨?_, rfl⟩
        unfold Client.announce
        split <;> exact ⟨rfl, rfl⟩
      next => exact .inl ⟨.refl _ _, rfl⟩
    | starting endpoint p => exact onSession _ _ _ fun _ _ => rfl
  | restart p =>
    have beside := c.onSession_beside uri (p.step task .restart c.now c.session)
    rw [step]
    split
    next => trivial
    next he => rw [he] at beside; exact .inl ⟨beside, rfl⟩
    next he => rw [he] at beside; exact .inl ⟨beside, rfl⟩
    next he => rw [he] at beside; exact .inl ⟨⟨beside.queued, beside.cached⟩, rfl⟩
  | openFile path p =>
    cases p with
    | opening =>
      rw [step]
      split
      next => exact .inl ⟨.refl _ _, rfl⟩
      next => exact .inl ⟨⟨rfl, rfl⟩, rfl⟩
    | showing uri' =>
      rw [step]
      split
      next => exact .inl ⟨.refl _ _, rfl⟩
      next event editor _ =>
        have beside := Client.beside_send { c with editor }
          (show (Dispatch.event event).payload? uri = none from rfl)
        exact .inl ⟨⟨beside.queued, beside.cached⟩, rfl⟩

end LanguageClient
