import LanguageClient.Proofs.Client.Gesture
import LanguageClient.Proofs.Client.Traffic

/-!
# The queue of the dispatcher

Readers, calls and people put work into one queue, and the dispatcher takes it out.  What a happening
puts there can be read off before it happens (`Workbench.queues?`), and so can what the dispatcher takes
(`Workbench.handles?`); `queued` and `handled` list both along a history.

* `Call.step_queues`, `Client.absorbAll_queues` — what a call and a reader put into the queue.
* `Workbench.happen?_serves` — one happening puts in at the back, or takes out at the front, and a
  barrier that is taken out is reached.
* **`Workbench.handled_append_queue`** — so along every history the work is handled in the order in which
  it came, each piece once: what has been handled, followed by what still waits, is what there was at
  first, followed by what came.

People may do what they like with the editor, but to the queue they only add what the editor reports
(`Workbench.IsByGesture`).
-/

namespace LanguageClient

/-! ## What joins the queue -/

/-- The highlights that a signal of a reader brings. -/
def Signal.push? : Signal → Option HighlightResult
  | notified .overlay params => (HighlightResult.decode params).toOption
  | _ => none

/-- The highlights that the reader of a connection is about to queue. -/
def Connection.push? (handlers : Handlers) (c : Connection) : Option HighlightResult :=
  match c.reader with
  | .heard (.notification n) =>
    (handlers.get? n.method).bind fun h => (Signal.notified h (n.params.getD .null)).push?
  | _ => none

/-- What a call is about to put into the queue. -/
def Call.queues? (task : TaskId) (c : Client) : Call → Option Dispatch
  | run _ _ .flushing | run _ _ (.flushingAfter _) => some (.barrier task)
  | openFile _ (.showing uri) => (c.editor.showDocument uri).toOption.map (.event ·.1)
  | _ => none

/-- Those whose barriers have been reached, without the one that a call passes if it waits for it. -/
def Call.left (task : TaskId) (reached : List TaskId) : Call → List TaskId
  | run _ _ .waiting | run _ _ (.waitingAfter _) => reached.erase task
  | _ => reached

/-- The one whose barrier this is. -/
def Dispatch.reaches? : Dispatch → Option TaskId
  | barrier task => some task
  | _ => none

/-- What there is to do joins the queue at its back, and no barrier is reached or passed. -/
structure Client.Queues (ds : List Dispatch) (c c' : Client) : Prop where
  queue : c'.queue = c.queue ++ ds
  reached : c'.reached = c.reached

/-- People make a gesture, or pass on what the editor reports. -/
def Client.IsTouched (c c' : Client) : Prop :=
  (∃ gesture, c' = c.gesture gesture) ∨ ∃ e, c' = c.send (.event e)

namespace Client

theorem queue_perform (c : Client) (d : Dispatch) : (c.perform d).queue = c.queue := by
  cases d <;> rfl

theorem Queues.of_same {c c' : Client} (queue : c'.queue = c.queue) (reached : c'.reached = c.reached) :
    c.Queues [] c' :=
  ⟨queue.trans (List.append_nil _).symm, reached⟩

theorem onSession_queues {π α : Type} (c : Client) (p : Progress Session π α) :
    (c.onSession p).All (c.Queues []) := by
  cases p with
  | waits => trivial
  | goesOn s x => exact .of_same rfl rfl
  | ends s a => exact .of_same rfl rfl

/-! ### Readers -/

theorem absorb_queues (c : Client) (x : Signal) :
    c.Queues (x.push?.map .highlights).toList (c.absorb x) := by
  cases x with
  | logged level text => exact .of_same rfl rfl
  | notified handler params =>
    cases handler with
    | observer name fails => exact .of_same rfl rfl
    | overlay =>
      rw [absorb, Signal.push?]
      split
      next r hr => rw [hr]; exact ⟨rfl, rfl⟩
      next e he => rw [he]; exact .of_same rfl rfl

/-- What the signals of one step bring is queued in their order. -/
theorem foldl_absorb_queues (c : Client) (signals : List Signal) :
    c.Queues ((signals.filterMap Signal.push?).map .highlights) (signals.foldl absorb c) := by
  induction signals generalizing c with
  | nil => exact .of_same rfl rfl
  | cons x signals ih =>
    obtain ⟨queue, reached⟩ := c.absorb_queues x
    obtain ⟨queue', reached'⟩ := ih (c.absorb x)
    refine ⟨?_, reached'.trans reached⟩
    rw [List.foldl_cons, queue', queue, List.append_assoc, List.filterMap_cons]
    cases x.push? <;> rfl

end Client

namespace Reader

/-- What goes to the log is not for the queue. -/
theorem filterMap_logged (method : String) (params : Json) :
    (logged method params).filterMap Signal.push? = [] := by
  unfold logged
  split
  next => split <;> rfl
  next => rfl

/-- **A step of a reader brings what its notification brings**, and nothing else. -/
theorem step?_pushes {handlers : Handlers} {x x' : Connection} {signals : List Signal}
    (h : step? handlers x = some (x', signals)) :
    signals.filterMap Signal.push? = (x.push? handlers).toList := by
  unfold step? at h
  split at h
  next hr =>
    have hnone : x.push? handlers = none := by rw [Connection.push?, hr]
    rw [hnone]
    split at h <;> cases h <;> rfl
  next m hr =>
    obtain rfl : (hear handlers x m).2 = signals := by
      simpa using congrArg (·.map Prod.snd) h
    rw [Connection.push?, hr]
    cases m with
    | response r => rfl
    | request r => rfl
    | notification n =>
      simp only [hear]
      split
      next hnone => rw [hnone, filterMap_logged]; rfl
      next handler hhandler =>
        rw [hhandler, List.filterMap_append, filterMap_logged, List.nil_append, Option.bind_some,
          List.filterMap_cons]
        cases (Signal.notified handler (n.params.getD .null)).push? <;> rfl
  next hr => cases h; rw [Connection.push?, hr]; rfl
  next hr => cases h; rw [Connection.push?, hr]; rfl
  next hr => cases h; rw [Connection.push?, hr]; rfl
  next hr => cases h; rw [Connection.push?, hr]; rfl
  next => cases h

end Reader

/-- A step of a reader queues what its notification brings. -/
theorem Client.absorbAll_queues {handlers : Handlers} {x x' : Connection} {signals : List Signal}
    (h : Reader.step? handlers x = some (x', signals)) (c : Client) (s : Session) :
    c.Queues ((x.push? handlers).map .highlights).toList (c.absorbAll (s, signals)) := by
  obtain ⟨queue, reached⟩ := { c with session := s }.foldl_absorb_queues signals
  rw [Reader.step?_pushes h] at queue
  refine ⟨queue.trans ?_, reached⟩
  cases x.push? handlers <;> rfl

/-! ### Calls -/

theorem ActionPoint.step_queues (task : TaskId) (kind : ActionKind) (c : Client) (p : ActionPoint) :
    (p.step task kind c).All (c.Queues []) := by
  have same : c.Queues [] c := .of_same rfl rfl
  cases p with
  | picking => rw [step]; split <;> exact same
  | saving editor => rw [step]; split <;> exact same
  | writing editor path text =>
    rw [step]
    split
    next => exact same
    next => exact .of_same rfl rfl
  | saved editor => exact .of_same rfl rfl
  | reading editor => exact same
  | syncing editor text p =>
    have queues := c.onSession_queues
      (p.step .beginning (fun p x => p.step task editor.uri text x) c.session)
    rw [step]
    split
    next => trivial
    next he => rw [he] at queues; exact queues
    next he => rw [he] at queues; exact queues
    next he => rw [he] at queues; exact queues
  | querying editor => exact same
  | asking editor q p =>
    have queues := c.onSession_queues
      (p.step .beginning (fun p x => p.step q c.now x) c.session)
    rw [step]
    split
    next => trivial
    next he => rw [he] at queues; exact queues
    next he =>
      rw [he] at queues
      split <;> exact queues
  | routing editor outcome =>
    cases outcome <;> exact .of_same rfl rfl

theorem RunPoint.step_queues (task : TaskId) (kind : ActionKind) (reporting : Bool) (c : Client)
    (p : RunPoint) :
    (p.step task kind reporting c).All fun c' =>
      c'.queue = c.queue ++ ((Call.run kind reporting p).queues? task c).toList ∧
        c'.reached = (Call.run kind reporting p).left task c.reached := by
  cases p with
  | flushing => exact ⟨rfl, rfl⟩
  | waiting =>
    rw [step]
    split
    next => exact ⟨(List.append_nil _).symm, rfl⟩
    next => trivial
  | acting p =>
    have queues := p.step_queues task kind c
    rw [step]
    split
    next => trivial
    next he => rw [he] at queues; exact ⟨queues.queue, queues.reached⟩
    next c' r he =>
      rw [he] at queues
      -- A failure that nobody asked for leaves a line in the log.
      cases reporting with
      | true => exact ⟨queues.queue, queues.reached⟩
      | false => cases r <;> exact ⟨queues.queue, queues.reached⟩
  | flushingAfter r => exact ⟨rfl, rfl⟩
  | waitingAfter r =>
    rw [step]
    split
    next => exact ⟨(List.append_nil _).symm, rfl⟩
    next => trivial

/-- **What a step of a call does to the queue.** -/
theorem Call.step_queues (task : TaskId) (c : Client) (call : Call) :
    (call.step task c).All fun c' => c'.queue = c.queue ++ (call.queues? task c).toList ∧
      c'.reached = call.left task c.reached := by
  have aside {c' : Client} (queues : c.Queues [] c') :
      c'.queue = c.queue ++ (none : Option Dispatch).toList ∧ c'.reached = c.reached :=
    ⟨queues.queue, queues.reached⟩
  have onSession {π α : Type} (p : Progress Session π α) (wrap : π → Call) (result : α → CallResult) :
      ((c.onSession p).last wrap result).All fun c' =>
        c'.queue = c.queue ++ (none : Option Dispatch).toList ∧ c'.reached = c.reached :=
    (Progress.all_last _ _ _).2 ((c.onSession_queues p).mono fun _ h => aside h)
  cases call with
  | lifecycle call p => exact onSession _ _ _
  | request q p => exact onSession _ _ _
  | notify m p => exact onSession _ _ _
  | sync uri text p => exact onSession _ _ _
  | closeDocument uri p => exact onSession _ _ _
  | handshake n q p => exact onSession _ _ _
  | shutdown n q p => exact onSession _ _ _
  | close n reason p => exact onSession _ _ _
  | run kind reporting p => exact (Progress.all_last _ _ _).2 (p.step_queues task kind reporting c)
  | startUp p =>
    cases p with
    | finding =>
      rw [step]
      split
      next =>
        refine aside ?_
        unfold Client.announce
        split <;> exact .of_same rfl rfl
      next => exact aside (.of_same rfl rfl)
    | starting endpoint p => exact onSession _ _ _
  | restart p =>
    have queues := c.onSession_queues (p.step task .restart c.now c.session)
    rw [step]
    split
    next => trivial
    next he => rw [he] at queues; exact aside queues
    next he => rw [he] at queues; exact aside queues
    next he => rw [he] at queues; exact aside ⟨queues.queue, queues.reached⟩
  | openFile path p =>
    cases p with
    | opening =>
      rw [step]
      split
      next => exact aside (.of_same rfl rfl)
      next => exact aside (.of_same rfl rfl)
    | showing uri =>
      rw [step, queues?]
      split
      next e he => rw [he]; exact aside (.of_same rfl rfl)
      next event editor he => rw [he]; exact ⟨rfl, rfl⟩

/-! ### People -/

/-- What people do adds at most an event. -/
theorem Client.IsTouched.queues {c c' : Client} (h : c.IsTouched c') :
    c.Queues [] c' ∨ ∃ e, c.Queues [.event e] c' := by
  obtain ⟨gesture, rfl⟩ | ⟨e, rfl⟩ := h
  · obtain ⟨editor, files, heq⟩ := c.gesture_eq gesture
    rw [heq]
    exact .inl (.of_same rfl rfl)
  · exact .inr ⟨e, rfl, rfl⟩

/-! ## The queue of a workbench -/

namespace Workbench

variable {w₀ w w' : Workbench} {hs : List Happening} {g : Happening}

/-- The highlights that the reader of a line is about to queue. -/
def pushes? (w : Workbench) (n : Nat) : Option HighlightResult :=
  (w.client.session.line? n).bind (·.connection.push? w.client.session.handlers)

/-- What a happening puts into the queue.  A reader that is told to stop puts nothing there, unless it
goes on all the same; and what people put there stands behind everything that was there. -/
def queues? (w : Workbench) : Happening → Option Dispatch
  | .goesOn (.call task) => (w.calls.get? task).bind (·.queues? task w.client)
  | .goesOn (.reader n) =>
    if (w.client.session.line? n).any (·.connection.readerAborted) then none
    else (w.pushes? n).map .highlights
  | .goesOn (.lateReader n) => (w.pushes? n).map .highlights
  | .edits f => (f w.client).queue[w.client.queue.length]?
  | _ => none

/-- What the dispatcher handles. -/
def handles? (w : Workbench) : Happening → Option Dispatch
  | .goesOn .dispatcher => w.client.queue.head?
  | _ => none

/-- Those whose barriers have been reached, without the one that a call passes with this. -/
def left (w : Workbench) : Happening → List TaskId
  | .goesOn (.call task) =>
    (w.calls.get? task).elim w.client.reached (·.left task w.client.reached)
  | _ => w.client.reached

/-- What joins the queue in a history, the first one first. -/
def queued (w : Workbench) (hs : List Happening) : List Dispatch := w.record (·.queues? ·) hs

/-- What the dispatcher handles in a history, the first one first. -/
def handled (w : Workbench) (hs : List Happening) : List Dispatch := w.record (·.handles? ·) hs

/-- If people change the client, they make a gesture or pass on what the editor reports. -/
def IsByGesture (w : Workbench) (g : Happening) : Prop :=
  ∀ f, g = .edits f → w.client.IsTouched (f w.client)

theorem queued_concat (h : w₀.after? hs = some w) (g : Happening) :
    w₀.queued (hs ++ [g]) = w₀.queued hs ++ (w.queues? g).toList :=
  record_concat _ h g

theorem handled_concat (h : w₀.after? hs = some w) (g : Happening) :
    w₀.handled (hs ++ [g]) = w₀.handled hs ++ (w.handles? g).toList :=
  record_concat _ h g

/-- A reader queues what its notification brings, unless it is stopped. -/
theorem happen?_reader {n : Nat} {a : Activity} (ha : a = .reader n ∨ a = .lateReader n)
    (h : w.act? a = some w') :
    w.client.Queues (w.queues? (.goesOn a)).toList w'.client := by
  obtain ⟨l, c, signals, hl, rfl, ⟨rfl, hstop, rfl⟩ | ⟨haborted, hstep⟩⟩ := act?_reader ha h
  · have hnone : w.queues? (.goesOn (.reader n)) = none := by
      simp [queues?, hl, (Reader.stop?_eq hstop).1]
    rw [hnone]
    exact .of_same rfl rfl
  · have hpush : w.queues? (.goesOn a) =
        (l.connection.push? w.client.session.handlers).map .highlights := by
      rcases ha with rfl | rfl <;> simp_all [queues?, pushes?]
    rw [hpush]
    exact Client.absorbAll_queues hstep _ _

/-- What is first in the queue is what the dispatcher does. -/
theorem happen?_dispatcher {d : Dispatch} (first : w.client.queue.head? = some d)
    (h : w.happen? (.goesOn .dispatcher) = some w') :
    ∃ rest, w.client.queue = d :: rest ∧ w'.client = { w.client.perform d with queue := rest } := by
  obtain ⟨c, hc, rfl⟩ := Option.map_eq_some_iff.1 h
  obtain ⟨d', rest, hq, rfl⟩ := Client.dispatch?_eq_some hc
  rw [hq, List.head?_cons, Option.some.injEq] at first
  subst first
  refine ⟨rest, hq, ?_⟩
  cases d' <;> rfl

/-- One happening puts in at the back of the queue, or takes out at its front; a barrier that is taken
out is reached. -/
structure Serves (w w' : Workbench) (g : Happening) : Prop where
  queue : (w.handles? g).toList ++ w'.client.queue = w.client.queue ++ (w.queues? g).toList
  reached : w'.client.reached = w.left g ++ ((w.handles? g).bind Dispatch.reaches?).toList

/-- Something that is put into the queue without anybody's barrier being reached or passed. -/
theorem Serves.of_queues (h : w.client.Queues (w.queues? g).toList w'.client)
    (handles : w.handles? g = none) (left : w.left g = w.client.reached) : w.Serves w' g where
  queue := by rw [handles]; exact h.queue
  reached := by rw [handles, left, h.reached]; exact (List.append_nil _).symm

/-- **What every happening does to the queue.** -/
theorem happen?_serves (h : w.happen? g = some w') (hand : w.IsByGesture g) : w.Serves w' g := by
  cases g with
  | goesOn a =>
    cases a with
    | call task =>
      obtain ⟨call, hcall, h⟩ := act?_call h
      have queues := call.step_queues task w.client
      have hqueues : w.queues? (.goesOn (.call task)) = call.queues? task w.client := by
        rw [queues?, hcall]
        rfl
      have hleft : w.left (.goesOn (.call task)) = call.left task w.client.reached := by
        rw [left, hcall]
        rfl
      rcases h with ⟨client, call', hstep, rfl⟩ | ⟨client, r, hstep, rfl⟩ <;>
      · rw [hstep] at queues
        exact ⟨by rw [hqueues]; exact queues.1,
          by rw [hleft]; exact queues.2.trans (List.append_nil _).symm⟩
    | reader n => exact .of_queues (happen?_reader (.inl rfl) h) rfl rfl
    | lateReader n => exact .of_queues (happen?_reader (.inr rfl) h) rfl rfl
    | dispatcher =>
      obtain ⟨c, hc, rfl⟩ := Option.map_eq_some_iff.1 h
      obtain ⟨d, rest, hq, rfl⟩ := Client.dispatch?_eq_some hc
      have hhandles : w.handles? (.goesOn .dispatcher) = some d := by rw [handles?, hq]; rfl
      refine ⟨?_, ?_⟩
      · rw [hhandles, hq, Client.queue_perform]
        exact (List.append_nil _).symm
      · rw [hhandles]
        cases d with
        | barrier task => rfl
        | _ => exact (List.append_nil _).symm
    | opener =>
      obtain ⟨_, _, _, _, rfl⟩ := act?_opener h
      exact .of_queues (.of_same rfl rfl) rfl rfl
    | _ =>
      obtain ⟨_, _, rfl⟩ := Option.map_eq_some_iff.1 h
      exact .of_queues (.of_same rfl rfl) rfl rfl
  | calls call =>
    obtain ⟨_, rfl⟩ := happen?_calls.1 h
    exact .of_queues (.of_same rfl rfl) rfl rfl
  | opens link peer process =>
    obtain ⟨_, rfl⟩ := answer?_eq_some.1 h
    exact .of_queues (.of_same rfl rfl) rfl rfl
  | refuses e =>
    obtain ⟨_, rfl⟩ := answer?_eq_some.1 h
    exact .of_queues (.of_same rfl rfl) rfl rfl
  | edits f =>
    cases h
    refine .of_queues ?_ rfl rfl
    rcases (hand f rfl).queues with ⟨hqueue, hreached⟩ | ⟨e, hqueue, hreached⟩
    · exact ⟨by simp [queues?, hqueue], hreached⟩
    · exact ⟨by simp [queues?, hqueue], hreached⟩
  | _ => cases h; exact .of_queues (.of_same rfl rfl) rfl rfl

/-- **The work is handled in the order in which it came**, each piece once. -/
theorem handled_append_queue (h : w₀.after? hs = some w) (hand : w₀.Throughout hs IsByGesture) :
    w₀.handled hs ++ w.client.queue = w₀.client.queue ++ w₀.queued hs := by
  refine after?_induction (P := fun hs w => w₀.Throughout hs IsByGesture →
    w₀.handled hs ++ w.client.queue = w₀.client.queue ++ w₀.queued hs)
    (fun _ => (List.append_nil _).symm) (fun hs g w w' hw ih hstep hand => ?_) h hand
  calc w₀.handled (hs ++ [g]) ++ w'.client.queue
      = w₀.handled hs ++ ((w.handles? g).toList ++ w'.client.queue) := by
        rw [handled_concat hw, List.append_assoc]
    _ = w₀.handled hs ++ (w.client.queue ++ (w.queues? g).toList) := by
        rw [(happen?_serves hstep (hand.last hw)).queue]
    _ = w₀.client.queue ++ w₀.queued (hs ++ [g]) := by
        rw [← List.append_assoc, ih hand.of_concat, List.append_assoc, queued_concat hw]

/-- What is put into the queue comes next when all that was there before has been handled. -/
theorem head?_queue_of_sent {d : Dispatch} (h : w₀.after? (.edits (·.send d) :: hs) = some w)
    (hand : w₀.Throughout (.edits (·.send d) :: hs) IsByGesture)
    (due : (w₀.handled (.edits (·.send d) :: hs)).length = w₀.client.queue.length) :
    w.client.queue.head? = some d := by
  have law := handled_append_queue h hand
  have sent : w₀.queues? (.edits (·.send d)) = some d := by simp [queues?, Client.send]
  obtain ⟨x, hx, -⟩ := Option.bind_eq_some_iff.1 h
  have queued : w₀.queued (.edits (·.send d) :: hs) = d :: x.queued hs := by
    rw [Workbench.queued, record, sent, hx]
    rfl
  rw [(List.append_inj law due).2, queued]
  rfl

end Workbench

end LanguageClient
