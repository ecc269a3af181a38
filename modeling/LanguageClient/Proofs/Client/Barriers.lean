import LanguageClient.Proofs.Client.ClosedDocuments

/-!
# Barriers in the queue

A run of an action puts a barrier into the queue before it acts and another one when it has acted, and
each time it waits until its barrier has been reached.  The queue is handled in order, so everything that
was queued before the run is handled before it acts, and everything that was queued while it acted is
handled before it returns: above all the highlights that the server sent ahead of its answer, for they
were queued before the answer was taken up.

The two barriers of a run look alike.  They are told apart by counting them.

* `RunPoint.sent`, `RunPoint.passed` — how many barriers a run has queued and passed
  (`RunPoint.step_counts`).
* `Workbench.Barriers` — of the barriers that were handled some have been passed, and the others wait
  for it; `Barriers.others` is what everybody else does to this.
* `Workbench.Flanked` — a run that was called is on its way, or has passed two barriers.
* `Workbench.queued_prefix_handled` — where fewer barriers had been queued than have been handled since,
  everything has been handled that had been queued.
* **`Workbench.runs_are_flanked`** — what is handled before a run acts, and before it returns.
-/

namespace LanguageClient

/-! ## How far a run has come -/

namespace RunPoint

/-- How many barriers a run has put into the queue. -/
def sent : RunPoint → Nat
  | flushing => 0
  | waiting | acting _ | flushingAfter _ => 1
  | waitingAfter _ => 2

/-- How many of them it has passed. -/
def passed : RunPoint → Nat
  | flushing | waiting => 0
  | acting _ | flushingAfter _ | waitingAfter _ => 1

/-- **A run counts its barriers.**  A barrier that it passes is one that was reached, and when it ends it
has queued and passed two. -/
theorem step_counts (task : TaskId) (kind : ActionKind) (reporting : Bool) (c : Client) (p : RunPoint) :
    (p.step task kind reporting c).Leads
      (fun c' p' =>
        p'.sent = p.sent +
          ((Call.run kind reporting p).queues? task c).toList.count (.barrier task) ∧
        p'.passed + c'.reached.count task = p.passed + c.reached.count task)
      fun c' _ =>
        2 = p.sent + ((Call.run kind reporting p).queues? task c).toList.count (.barrier task) ∧
        2 + c'.reached.count task = p.passed + c.reached.count task := by
  have passes (h : c.reached.contains task = true) :
      1 + (c.reached.erase task).count task = c.reached.count task := by
    have hpos : 0 < c.reached.count task := List.count_pos_iff.2 (List.contains_iff_mem.1 h)
    rw [List.count_erase_self]
    omega
  cases p with
  | flushing => exact ⟨by simp [sent, Call.queues?], rfl⟩
  | waiting =>
    rw [step]
    split
    next h => exact ⟨rfl, (passes h).trans (Nat.zero_add _).symm⟩
    next => trivial
  | acting p =>
    have queues := p.step_queues task kind c
    rw [step]
    split
    next => trivial
    next he =>
      rw [he] at queues
      exact ⟨rfl, by rw [queues.reached]; rfl⟩
    next c' r he =>
      rw [he] at queues
      have same : c'.reached.count task = c.reached.count task := by rw [queues.reached]
      -- A failure that nobody asked for leaves a line in the log.
      refine ⟨rfl, congrArg (1 + ·) (Eq.trans ?_ same)⟩
      cases reporting with
      | true => rfl
      | false => cases r <;> rfl
  | flushingAfter r => exact ⟨by simp [sent, Call.queues?], rfl⟩
  | waitingAfter r =>
    rw [step]
    split
    next h =>
      refine ⟨rfl, ?_⟩
      show 1 + 1 + _ = 1 + _
      rw [Nat.add_assoc, passes h]
    next => trivial

end RunPoint

/-- A run that takes a step goes on as a run. -/
theorem Call.run_counts (task : TaskId) (kind : ActionKind) (reporting : Bool) (c : Client)
    (p : RunPoint) :
    (Call.step task c (.run kind reporting p)).Leads
      (fun c' call' => ∃ p' : RunPoint, call' = .run kind reporting p' ∧
        p'.sent = p.sent +
          ((Call.run kind reporting p).queues? task c).toList.count (.barrier task) ∧
        p'.passed + c'.reached.count task = p.passed + c.reached.count task)
      fun c' _ =>
        2 = p.sent + ((Call.run kind reporting p).queues? task c).toList.count (.barrier task) ∧
        2 + c'.reached.count task = p.passed + c.reached.count task :=
  (p.step_counts task kind reporting c).last (fun _ p' h => ⟨p', rfl, h⟩) fun _ _ h => h

/-- Of those whose barriers have been reached a call takes out nobody but itself. -/
theorem Call.count_left {task other : TaskId} (hne : other ≠ task) (reached : List TaskId)
    (call : Call) : (call.left other reached).count task = reached.count task := by
  unfold left
  split
  next => exact List.count_erase_of_ne hne.symm
  next => exact List.count_erase_of_ne hne.symm
  next => rfl

/-- A barrier that is handled is reached. -/
theorem Dispatch.count_reaches (d? : Option Dispatch) (task : TaskId) :
    (d?.bind reaches?).toList.count task = d?.toList.count (.barrier task) := by
  cases d? with
  | none => rfl
  | some d => cases d <;> simp [reaches?, List.count_singleton]

/-! ## What the server publishes -/

/-- The highlights that a notification publishes, if they can be read. -/
def Notification.published? (n : Notification) : Option HighlightResult :=
  if n.method = publishHighlightMethod then (HighlightResult.decode (n.params.getD .null)).toOption
  else none

/-- What is published is handled as highlights, and nothing else. -/
def Handlers.Publish (handlers : Handlers) : Prop :=
  ∀ method, handlers.get? method = some .overlay ↔ method = publishHighlightMethod

/-- The highlights that the reader of a connection takes up with its next step. -/
def Connection.publishes? (c : Connection) : Option HighlightResult :=
  match c.reader with
  | .heard (.notification n) => n.published?
  | _ => none

def Dispatch.highlights? : Dispatch → Option HighlightResult
  | highlights r => some r
  | _ => none

theorem Connection.push?_of_publish {handlers : Handlers} (h : handlers.Publish) (c : Connection) :
    c.push? handlers = c.publishes? := by
  rw [push?, publishes?]
  cases c.reader with
  | heard m =>
    cases m with
    | notification n =>
      simp only [Notification.published?]
      cases hget : handlers.get? n.method with
      | none => rw [if_neg fun hn => by rw [(h n.method).2 hn] at hget; cases hget]; rfl
      | some handler =>
        cases handler with
        | overlay => rw [if_pos ((h n.method).1 hget)]; rfl
        | observer name fails => rw [if_neg fun hn => by rw [(h n.method).2 hn] at hget; cases hget]; rfl
    | _ => rfl
  | _ => rfl

namespace Workbench

variable {w₀ w w' : Workbench} {hs more : List Happening} {g : Happening} {task : TaskId}

/-! ## Counting barriers -/

/-- A barrier is put into the queue by the call that waits for it. -/
theorem eq_of_queues_barrier (h : w.queues? g = some (.barrier task)) (hand : w.IsByGesture g) :
    g = .goesOn (.call task) := by
  have highlights (r? : Option HighlightResult) : r?.map Dispatch.highlights ≠ some (.barrier task) := by
    cases r? <;> nofun
  unfold queues? at h
  split at h
  next other =>
    obtain ⟨call, -, h⟩ := Option.bind_eq_some_iff.1 h
    unfold Call.queues? at h
    split at h
    next => cases h; rfl
    next => cases h; rfl
    next => obtain ⟨_, _, h⟩ := Option.map_eq_some_iff.1 h; cases h
    next => cases h
  next =>
    split at h
    next => cases h
    next => exact absurd h (highlights _)
  next => exact absurd h (highlights _)
  next f =>
    rcases (hand f rfl).queues with ⟨hqueue, -⟩ | ⟨e, hqueue, -⟩ <;> simp [hqueue] at h
  next => cases h

/-- So many barriers of a call have been queued, and so many of them it has passed: those that were
handled are passed, or wait for it. -/
structure Barriers (w₀ : Workbench) (hs : List Happening) (w : Workbench) (task : TaskId)
    (sent passed : Nat) : Prop where
  queued : (w₀.queued hs).count (.barrier task) = sent
  handled : (w₀.handled hs).count (.barrier task) = passed + w.client.reached.count task

/-- **Others do not change how many barriers a call has queued and passed.** -/
theorem Barriers.others {sent passed : Nat} (h : Barriers w₀ hs w task sent passed)
    (hw : w₀.after? hs = some w) (hstep : w.happen? g = some w') (hand : w.IsByGesture g)
    (hne : g ≠ .goesOn (.call task)) : Barriers w₀ (hs ++ [g]) w' task sent passed where
  queued := by
    rw [queued_concat hw, List.count_append, h.queued]
    have hnone : (w.queues? g).toList.count (.barrier task) = 0 := by
      refine List.count_eq_zero.2 fun hmem => hne (eq_of_queues_barrier ?_ hand)
      exact Option.mem_toList.1 hmem
    rw [hnone]
    rfl
  handled := by
    have hleft : (w.left g).count task = w.client.reached.count task := by
      unfold left
      split
      next other =>
        have hother : other ≠ task := fun e => hne (by rw [e])
        cases w.calls.get? other with
        | none => rfl
        | some call => exact call.count_left hother _
      next => rfl
    rw [handled_concat hw, List.count_append, h.handled, (happen?_serves hstep hand).reached,
      List.count_append, hleft, Dispatch.count_reaches, Nat.add_assoc]

/-- The call itself handles none, so it passes what it has waited for. -/
theorem Barriers.own {sent sent' passed passed' : Nat} (h : Barriers w₀ hs w task sent passed)
    (hw : w₀.after? hs = some w)
    (hsent : sent' = sent + (w.queues? (.goesOn (.call task))).toList.count (.barrier task))
    (hpassed : passed' + w'.client.reached.count task = passed + w.client.reached.count task) :
    Barriers w₀ (hs ++ [.goesOn (.call task)]) w' task sent' passed' where
  queued := by rw [queued_concat hw, List.count_append, h.queued, hsent]
  handled := by
    rw [handled_concat hw, List.count_append, h.handled, hpassed]
    rfl

/-- There is nothing in the queue, and no barrier has been reached. -/
structure IsIdle (w : Workbench) : Prop where
  queue : w.client.queue = []
  reached : w.client.reached = []

/-- A call that has not been made has no barriers. -/
theorem barriers_of_unborn (h₀ : w₀.IsFresh) (idle : w₀.IsIdle) (h : w₀.after? hs = some w)
    (hand : w₀.Throughout hs IsByGesture) (task : TaskId) (hlt : w.latestTask < task.number) :
    Barriers w₀ hs w task 0 0 := by
  refine after?_induction (P := fun hs w => w₀.Throughout hs IsByGesture →
    w.latestTask < task.number → Barriers w₀ hs w task 0 0)
    (fun _ _ => ⟨rfl, by rw [idle.reached]; rfl⟩) (fun hs g w w' hw ih hstep hand hlt => ?_) h hand hlt
  have hlt' : w.latestTask < task.number := Nat.lt_of_le_of_lt (happen?_latestTask hstep) hlt
  refine (ih hand.of_concat hlt').others hw hstep (hand.last hw) ?_
  rintro rfl
  obtain ⟨call, hcall, -⟩ := act?_call hstep
  exact absurd ((sound_after? h₀ hw).numbered task call hcall) (Nat.not_le_of_lt hlt')

/-! ## Between two barriers -/

/-- A run that was called is on its way, or it has returned and has passed two barriers. -/
structure Flanked (w₀ : Workbench) (hs : List Happening) (w : Workbench) (task : TaskId)
    (kind : ActionKind) (reporting : Bool) : Prop where
  numbered : task.number ≤ w.latestTask
  barriers : (∃ p : RunPoint, w.calls.get? task = some (.run kind reporting p) ∧
      Barriers w₀ hs w task p.sent p.passed) ∨
    (w.calls.get? task = none ∧ Barriers w₀ hs w task 2 2)

variable {kind : ActionKind} {reporting : Bool}

theorem Flanked.happen? (h : Flanked w₀ hs w task kind reporting) (hw : w₀.after? hs = some w)
    (hstep : w.happen? g = some w') (hand : w.IsByGesture g) :
    Flanked w₀ (hs ++ [g]) w' task kind reporting where
  numbered := Nat.le_trans h.numbered (happen?_latestTask hstep)
  barriers := by
    by_cases hg : g = .goesOn (.call task)
    · subst hg
      obtain ⟨call, hcall, hact⟩ := act?_call hstep
      rcases h.barriers with ⟨p, hrun, barriers⟩ | ⟨hnone, -⟩
      · obtain rfl := Option.some.inj (hrun.symm.trans hcall)
        have counts := Call.run_counts task kind reporting w.client p
        have hqueues : w.queues? (.goesOn (.call task)) =
            (Call.run kind reporting p).queues? task w.client := by
          rw [queues?, hcall]
          rfl
        rw [← hqueues] at counts
        rcases hact with ⟨client, call', hgoes, rfl⟩ | ⟨client, r, hends, rfl⟩
        · rw [hgoes] at counts
          obtain ⟨p', rfl, hsent, hpassed⟩ := counts
          exact .inl ⟨p', by rw [Table.get?_set, if_pos rfl], barriers.own hw hsent hpassed⟩
        · rw [hends] at counts
          exact .inr ⟨by rw [Table.get?_erase, if_pos rfl], barriers.own hw counts.1 counts.2⟩
      · rw [hnone] at hcall
        cases hcall
    · rw [happen?_others hstep hg h.numbered]
      rcases h.barriers with ⟨p, hrun, barriers⟩ | ⟨hnone, barriers⟩
      · exact .inl ⟨p, hrun, barriers.others hw hstep hand hg⟩
      · exact .inr ⟨hnone, barriers.others hw hstep hand hg⟩

/-- A run at its beginning has no barriers yet. -/
theorem flanked_of_calls (h₀ : w₀.IsFresh) (idle : w₀.IsIdle) (hw : w₀.after? hs = some w)
    (hcall : w.happen? (.calls (.runAction kind reporting)) = some w')
    (hand : w₀.Throughout hs IsByGesture) :
    Flanked w₀ (hs ++ [.calls (.runAction kind reporting)]) w' ⟨w.latestTask + 1⟩ kind reporting := by
  have unborn := barriers_of_unborn h₀ idle hw hand ⟨w.latestTask + 1⟩ (Nat.lt_succ_self _)
  have barriers := unborn.others hw hcall nofun nofun
  obtain ⟨-, rfl⟩ := happen?_calls.1 hcall
  exact ⟨Nat.le_refl _, .inl ⟨.flushing, (Table.get?_set ..).trans (if_pos rfl), barriers⟩⟩

/-- **A run is flanked by its barriers** all along. -/
theorem flanked_after? {v v' : Workbench} {before during : List Happening} (h₀ : w₀.IsFresh)
    (idle : w₀.IsIdle) (hv : w₀.after? before = some v)
    (hcall : v.happen? (.calls (.runAction kind reporting)) = some v')
    (h : v'.after? during = some w)
    (hand : w₀.Throughout (before ++ .calls (.runAction kind reporting) :: during) IsByGesture) :
    Flanked w₀ (before ++ .calls (.runAction kind reporting) :: during) w ⟨v.latestTask + 1⟩ kind
      reporting := by
  have hmade := after?_concat.2 ⟨v, hv, hcall⟩
  rw [List.append_cons] at hand ⊢
  refine after?_induction (P := fun during w =>
    w₀.Throughout ((before ++ [.calls (.runAction kind reporting)]) ++ during) IsByGesture →
    Flanked w₀ ((before ++ [.calls (.runAction kind reporting)]) ++ during) w _ kind reporting)
    (fun hand => ?_) (fun hs g u u' hu ih hstep hand => ?_) h hand
  · rw [List.append_nil] at hand ⊢
    exact flanked_of_calls h₀ idle hv hcall hand.of_concat
  · rw [← List.append_assoc] at hand ⊢
    have hreached := after?_trans hmade hu
    exact (ih hand.of_concat).happen? hreached hstep (hand.last hreached)

/-! ## What has been handled -/

/-- **What had been queued has been handled**, if fewer of its kind had been queued than have been
handled since. -/
theorem queued_prefix_handled {d : Dispatch} (idle : w₀.IsIdle) (hw : w₀.after? hs = some w)
    (hw' : w.after? more = some w') (hand : w₀.Throughout (hs ++ more) IsByGesture)
    (hlt : (w₀.queued hs).count d < (w₀.handled (hs ++ more)).count d) :
    w₀.queued hs <+: w₀.handled (hs ++ more) := by
  have law := handled_append_queue (after?_trans hw hw') hand
  rw [idle.queue, List.nil_append] at law
  have earlier : w₀.queued hs <+: w₀.queued (hs ++ more) := ⟨w.queued more, (record_append _ hw more).symm⟩
  have done : w₀.handled (hs ++ more) <+: w₀.queued (hs ++ more) := ⟨_, law⟩
  refine (List.prefix_or_prefix_of_prefix earlier done).resolve_right fun before => ?_
  exact absurd (before.sublist.count_le d) (Nat.not_le_of_lt hlt)

/-- The action of a run is in progress. -/
def Acts (w : Workbench) (task : TaskId) : Prop :=
  ∃ kind reporting p, w.calls.get? task = some (.run kind reporting (.acting p))

/-- The reader of a line takes up the answer that the action of a run waits for. -/
def IsAnswered (w : Workbench) (task : TaskId) (g : Happening) : Prop :=
  ∃ n r id slot, w.event? n g = some (.heard r (some (id, slot))) ∧
    ((w.calls.get? task).bind (·.awaits? n slot)).isSome = true

/-- An action that waits for an answer is in progress. -/
theorem IsAnswered.acts (h : w.IsAnswered task g) : w.Acts task := by
  obtain ⟨n, r, id, slot, -, hawaits⟩ := h
  obtain ⟨kind, hawaits⟩ := Option.isSome_iff_exists.1 hawaits
  obtain ⟨call, hcall, hawaits⟩ := Option.bind_eq_some_iff.1 hawaits
  unfold Call.awaits? at hawaits
  split at hawaits
  next => exact ⟨_, _, _, hcall⟩
  next => cases hawaits

/-- While it acts, a run has queued one barrier and has passed it. -/
theorem Flanked.acts (h : Flanked w₀ hs w task kind reporting) (hacts : w.Acts task) :
    Barriers w₀ hs w task 1 1 := by
  obtain ⟨kind', reporting', p', hcall⟩ := hacts
  rcases h.barriers with ⟨p, hrun, barriers⟩ | ⟨hnone, -⟩
  · obtain ⟨rfl, rfl, rfl⟩ : kind = kind' ∧ reporting = reporting' ∧ p = .acting p' := by
      simpa using hrun.symm.trans hcall
    exact barriers
  · rw [hnone] at hcall
    cases hcall

/-- When it has returned, it has queued and passed two. -/
theorem Flanked.returned (h : Flanked w₀ hs w task kind reporting) (hnone : w.calls.get? task = none) :
    Barriers w₀ hs w task 2 2 := by
  rcases h.barriers with ⟨p, hrun, -⟩ | ⟨-, barriers⟩
  · rw [hnone] at hrun
    cases hrun
  · exact barriers

/-! ## Highlights that the server publishes -/

/-- The highlights that a reader takes up with this.  A reader that is told to stop takes nothing up,
unless it goes on all the same. -/
def publishes? (w : Workbench) : Happening → Option HighlightResult
  | .goesOn (.reader n) =>
    if (w.client.session.line? n).any (·.connection.readerAborted) then none
    else (w.client.session.line? n).bind (·.connection.publishes?)
  | .goesOn (.lateReader n) => (w.client.session.line? n).bind (·.connection.publishes?)
  | _ => none

/-- The highlights that the server publishes in a history, in the order in which they come. -/
def published (w : Workbench) (hs : List Happening) : List HighlightResult :=
  w.record (·.publishes? ·) hs

theorem published_concat (h : w₀.after? hs = some w) (g : Happening) :
    w₀.published (hs ++ [g]) = w₀.published hs ++ (w.publishes? g).toList :=
  record_concat _ h g

/-- The highlights that the dispatcher handles in a history, the first ones first. -/
def handledHighlights (w : Workbench) (hs : List Happening) : List HighlightResult :=
  (w.handled hs).filterMap Dispatch.highlights?

/-- People touch the editor and pass on what it reports, and highlights that are published are
handled. -/
structure IsServed (w : Workbench) (g : Happening) : Prop where
  hand : w.IsByGesture g
  handlers : w.client.session.handlers.Publish

theorem highlights_queues? (h : w.IsServed g) : (w.queues? g).bind Dispatch.highlights? = w.publishes? g := by
  have pushes (n : Nat) : ((w.pushes? n).map Dispatch.highlights).bind Dispatch.highlights? =
      (w.client.session.line? n).bind (·.connection.publishes?) := by
    rw [pushes?]
    cases w.client.session.line? n with
    | none => rfl
    | some l =>
      rw [Option.bind_some, Option.bind_some, Connection.push?_of_publish h.handlers]
      cases l.connection.publishes? <;> rfl
  cases g with
  | goesOn a =>
    cases a with
    | call other =>
      rw [queues?]
      cases w.calls.get? other with
      | none => rfl
      | some call =>
        rw [Option.bind_some]
        unfold Call.queues?
        split
        next => rfl
        next => rfl
        next uri => cases (w.client.editor.showDocument uri).toOption <;> rfl
        next => rfl
    | reader n =>
      rw [queues?, publishes?]
      split
      next => rfl
      next => exact pushes n
    | lateReader n => exact pushes n
    | _ => rfl
  | edits f =>
    rcases (h.hand f rfl).queues with ⟨hqueue, -⟩ | ⟨e, hqueue, -⟩ <;>
      simp [queues?, hqueue, publishes?, Dispatch.highlights?]
  | _ => rfl

/-- The highlights that join the queue are those that are published. -/
theorem highlights_queued (h : w₀.after? hs = some w) (served : w₀.Throughout hs IsServed) :
    (w₀.queued hs).filterMap Dispatch.highlights? = w₀.published hs := by
  refine after?_induction (P := fun hs _ => w₀.Throughout hs IsServed →
    (w₀.queued hs).filterMap Dispatch.highlights? = w₀.published hs) (fun _ => rfl)
    (fun hs g w w' hw ih hstep served => ?_) h served
  rw [queued_concat hw, List.filterMap_append, ih served.of_concat, published_concat hw,
    ← highlights_queues? (served.last hw)]
  cases w.queues? g with
  | none => rfl
  | some d => cases hd : d.highlights? <;> simp [hd]

/-- **Runs are flanked by the queue.**

Somebody runs an action, whatever happened before and whatever happens meanwhile; at first the queue was
empty, people touch the editor and pass on what it reports, and highlights that are published are
handled.  While the action is in progress, and so when it looks for the active editor, everything has
been handled that was put into the queue before the run was called.  And when the run has returned, the
highlights that were handled are those that the server published, each once and in the order in which
they came, up to some point behind all those that came before the answer to the request of the action. -/
theorem runs_are_flanked {v v' : Workbench} {before during : List Happening} (h₀ : w₀.IsFresh)
    (idle : w₀.IsIdle) (hv : w₀.after? before = some v)
    (hcall : v.happen? (.calls (.runAction kind reporting)) = some v') (h : v'.after? during = some w)
    (served : w₀.Throughout (before ++ .calls (.runAction kind reporting) :: during) IsServed) :
    (∀ k, v'.During during k (fun u _ => u.Acts ⟨v.latestTask + 1⟩) →
      w₀.queued before <+:
        w₀.handled (before ++ .calls (.runAction kind reporting) :: during.take k)) ∧
    (w.calls.get? ⟨v.latestTask + 1⟩ = none →
      w₀.handledHighlights (before ++ .calls (.runAction kind reporting) :: during) <+:
        w₀.published (before ++ .calls (.runAction kind reporting) :: during) ∧
      ∀ k, v'.During during k (fun u g => u.IsAnswered ⟨v.latestTask + 1⟩ g) →
        w₀.published (before ++ .calls (.runAction kind reporting) :: during.take k) <+:
          w₀.handledHighlights (before ++ .calls (.runAction kind reporting) :: during)) := by
  have hand : w₀.Throughout (before ++ .calls (.runAction kind reporting) :: during) IsByGesture :=
    served.mono fun _ _ h => h.hand
  have since {more : List Happening} {u : Workbench} (hu : v'.after? more = some u) :
      v.after? (.calls (.runAction kind reporting) :: more) = some u := by
    rw [after?, hcall]
    exact hu
  -- the history up to a moment, and what follows
  have split (k : Nat) : before ++ .calls (.runAction kind reporting) :: during =
      (before ++ .calls (.runAction kind reporting) :: during.take k) ++ during.drop k := by
    simp
  have acting {k : Nat} {u : Workbench} (hu : v'.after? (during.take k) = some u)
      (hacts : u.Acts ⟨v.latestTask + 1⟩) :=
    (flanked_after? h₀ idle hv hcall hu (split k ▸ hand).of_append).acts hacts
  refine ⟨?_, fun hnone => ⟨?_, ?_⟩⟩
  · rintro k ⟨u, g, hu, -, hacts⟩
    refine queued_prefix_handled (d := .barrier ⟨v.latestTask + 1⟩) idle hv (since hu)
      (split k ▸ hand).of_append ?_
    have unborn :=
      barriers_of_unborn h₀ idle hv hand.of_append ⟨v.latestTask + 1⟩ (Nat.lt_succ_self _)
    rw [unborn.queued, (acting hu hacts).handled]
    omega
  · have law := handled_append_queue (after?_trans hv (since h)) hand
    rw [idle.queue, List.nil_append] at law
    rw [← highlights_queued (after?_trans hv (since h)) served]
    exact List.IsPrefix.filterMap _ ⟨_, law⟩
  · rintro k ⟨u, g, hu, -, answered⟩
    have reached := after?_trans hv (since hu)
    have later : u.after? (during.drop k) = some w := by
      have hsplit := after?_append v' (during.take k) (during.drop k)
      rw [List.take_append_drop, h, hu] at hsplit
      exact hsplit.symm
    have done := (flanked_after? h₀ idle hv hcall h hand).returned hnone
    rw [split k] at done ⊢
    rw [← highlights_queued reached (split k ▸ served).of_append]
    refine List.IsPrefix.filterMap _ (queued_prefix_handled (d := .barrier ⟨v.latestTask + 1⟩) idle
      reached later (split k ▸ hand) ?_)
    rw [(acting hu answered.acts).queued, done.handled]
    omega

/-! ## A load -/

/-- A workbench with the client of a project, as it is created. -/
def newProject : Workbench := { client := .ofProject "/" {} {} {} {}, opener := none }

theorem isFresh_newProject : newProject.IsFresh where
  calls := rfl
  returned := rfl
  state := rfl
  active := rfl
  activeHeld := rfl
  remembered := rfl
  lock := rfl
  lines l hl := nomatch hl
  watches := rfl
  wanted := rfl
  offer := rfl
  opener o ho := by cases ho

/-- A ready client shows a document, and what the editor reports is passed on. -/
def preparedHistory : List Happening :=
  connectedHistory ++ [Happening.edits (·.gesture (.opens "a" "")), .edits (·.gesture (.shows "a")),
    .edits (·.send (.event (.activeChanged (some ⟨⟨1⟩, "a"⟩))))]

/-- The document is loaded.  The server sends highlights on its own account before it answers, and the
dispatcher has no turn until the run waits for it. -/
def loadingHistory : List Happening :=
  takes 2 1 ++ List.replicate 2 (.goesOn .dispatcher) ++ takes 2 19 ++ pushedHistory ++ loadedHistory
  ++ takes 2 3 ++ List.replicate 2 (.goesOn .dispatcher) ++ takes 2 1

/-- Notifications are handled as a new client handles them. -/
def keepsHandlers (u : Workbench) : Happening → Bool :=
  fun _ => u.client.session.handlers = newProject.client.session.handlers

theorem publish_of_keepsHandlers {u : Workbench} {g : Happening} (h : u.keepsHandlers g = true) :
    u.client.session.handlers.Publish := by
  intro method
  rw [of_decide_eq_true h]
  simp [newProject, Client.ofProject, Table.get?, eq_comm]

theorem isByGesture_loadingHistory (u : Workbench) : ∀ g ∈
    preparedHistory ++ .calls (.runAction .load true) :: loadingHistory, u.IsByGesture g := by
  have gestures (gesture : Gesture) : u.IsByGesture (.edits (·.gesture gesture)) := by
    rintro _ ⟨⟩
    exact .inl ⟨gesture, rfl⟩
  have events (e : EditorEvent) : u.IsByGesture (.edits (·.send (.event e))) := by
    rintro _ ⟨⟩
    exact .inr ⟨e, rfl⟩
  have others {g : Happening} (h : ∀ f, g ≠ .edits f) : u.IsByGesture g := fun f hf => absurd hf (h f)
  simp [preparedHistory, loadingHistory, connectedHistory, takes, pushedHistory, loadedHistory, answers,
    sends, or_imp, forall_and, gestures, events, others]

/-- The reader takes up what the load waits for. -/
def answersLoad (u : Workbench) : Bool :=
  match u.event? 0 (.goesOn (.reader 0)) with
  | some (.heard _ (some (_, slot))) => ((u.calls.get? ⟨2⟩).bind (·.awaits? 0 slot)).isSome
  | _ => false

theorem of_answersLoad {u : Workbench} (h : u.answersLoad = true) :
    u.IsAnswered ⟨2⟩ (.goesOn (.reader 0)) := by
  unfold answersLoad at h
  split at h
  next r id slot he => exact ⟨0, r, id, slot, he, h⟩
  next => cases h

/-- The action of the second call is under way. -/
def actsForSecond (u : Workbench) : Bool :=
  match u.calls.get? ⟨2⟩ with
  | some (.run _ _ (.acting _)) => true
  | _ => false

theorem acts_of_actsForSecond {u : Workbench} (h : u.actsForSecond = true) : u.Acts ⟨2⟩ := by
  unfold actsForSecond at h
  split at h
  next kind reporting p hp => exact ⟨kind, reporting, p, hp⟩
  next => cases h

theorem runs_are_flanked_loading :
    ∃ v v' w, newProject.after? preparedHistory = some v ∧
      v.happen? (.calls (.runAction .load true)) = some v' ∧ v'.after? loadingHistory = some w ∧
      newProject.Throughout (preparedHistory ++ .calls (.runAction .load true) :: loadingHistory)
        IsServed ∧
      v'.During loadingHistory 4 (fun u _ => u.Acts ⟨2⟩) ∧
      newProject.queued preparedHistory = [.event (.activeChanged (some ⟨⟨1⟩, "a"⟩))] ∧
      newProject.queued preparedHistory <+: newProject.handled
        (preparedHistory ++ .calls (.runAction .load true) :: loadingHistory.take 4) ∧
      v'.During loadingHistory 27 (fun u g => u.IsAnswered ⟨2⟩ g) ∧ w.calls.get? ⟨2⟩ = none ∧
      newProject.published
        (preparedHistory ++ .calls (.runAction .load true) :: loadingHistory.take 27) = [⟨"a", []⟩] ∧
      newProject.published
          (preparedHistory ++ .calls (.runAction .load true) :: loadingHistory.take 27) <+:
        newProject.handledHighlights
          (preparedHistory ++ .calls (.runAction .load true) :: loadingHistory) := by
  obtain ⟨reached, hqueued, hpublished, hhandlers⟩ : (newProject.after? preparedHistory).any (fun v =>
      v.latestTask = 1 && (v.happen? (.calls (.runAction .load true))).any fun v' =>
        (v'.after? (loadingHistory.take 4)).any actsForSecond &&
        (v'.after? (loadingHistory.take 27)).any answersLoad &&
        (v'.after? loadingHistory).any fun w => (w.calls.get? ⟨2⟩).isNone) = true ∧
      newProject.queued preparedHistory = [.event (.activeChanged (some ⟨⟨1⟩, "a"⟩))] ∧
      newProject.published (preparedHistory ++ .calls (.runAction .load true) :: loadingHistory.take 27) =
        [⟨"a", []⟩] ∧
      newProject.record (fun u g => if u.keepsHandlers g then none else some ())
        (preparedHistory ++ .calls (.runAction .load true) :: loadingHistory) = [] := by
    decide +kernel
  obtain ⟨v, hv, reached⟩ := (Option.any_eq_true _ _).1 reached
  simp only [Bool.and_eq_true, decide_eq_true_eq] at reached
  obtain ⟨hlatest, reached⟩ := reached
  obtain ⟨v', hcall, reached⟩ := (Option.any_eq_true _ _).1 reached
  simp only [Bool.and_eq_true] at reached
  obtain ⟨⟨hacts, hanswers⟩, hreturned⟩ := reached
  obtain ⟨u, hu, hacts⟩ := (Option.any_eq_true _ _).1 hacts
  obtain ⟨u', hu', hanswers⟩ := (Option.any_eq_true _ _).1 hanswers
  obtain ⟨w, hw, hnone⟩ := (Option.any_eq_true _ _).1 hreturned
  have acts : v'.During loadingHistory 4 (fun u _ => u.Acts ⟨2⟩) :=
    ⟨u, .goesOn (.call ⟨2⟩), hu, rfl, acts_of_actsForSecond hacts⟩
  have answered : v'.During loadingHistory 27 (fun u g => u.IsAnswered ⟨2⟩ g) :=
    ⟨u', .goesOn (.reader 0), hu', rfl, of_answersLoad hanswers⟩
  have served : newProject.Throughout
      (preparedHistory ++ .calls (.runAction .load true) :: loadingHistory) IsServed := by
    have handlers := throughout_of_check (fun _ _ => publish_of_keepsHandlers) hhandlers
    exact fun k x g hx hg =>
      ⟨isByGesture_loadingHistory x g (List.mem_of_getElem? hg), handlers k x g hx hg⟩
  have flanked := runs_are_flanked isFresh_newProject ⟨rfl, rfl⟩ hv hcall hw served
  rw [hlatest] at flanked
  have hnone' := Option.isNone_iff_eq_none.1 hnone
  exact ⟨v, v', w, hv, hcall, hw, served, acts, hqueued, flanked.1 4 acts, answered, hnone', hpublished,
    (flanked.2 hnone').2 27 answered⟩

end Workbench

end LanguageClient
