import LanguageClient.Proofs.Client.Along
import LanguageClient.Proofs.Client.Lifecycle
import LanguageClient.Proofs.Session.Telling

/-!
# What calls tell about documents

A text is sent by a call of its own and by every action, and a document is closed by a call; no other
call says anything about documents, unless somebody writes such a notification by hand.
`Call.telling?` says what a call is in the middle of telling, and on which line.

* **`Call.step_tells`** — the step of any call is silent, or the next step of what it is in the middle
  of telling.
* `Workbench.correspondence?` — what is told on a line, and by whom.
* **`correspondence_step`** — seen from one line, whatever happens is a step of the correspondence
  there, and a line that comes has a fresh one.
* **`correspondence_induction`** — so what is true of a fresh correspondence and kept by each step is
  true of every line after every history.
-/

namespace LanguageClient

open Session

/-! ## Calls -/

def ActionPoint.telling? : ActionPoint → Option (Nat × Telling)
  | syncing editor text p => p.telling? (.syncs editor.uri text)
  | _ => none

def RunPoint.telling? : RunPoint → Option (Nat × Telling)
  | acting p => p.telling?
  | _ => none

namespace Call

/-- What a call is in the middle of telling, and on which line. -/
def telling? : Call → Option (Nat × Telling)
  | sync uri text p => p.telling? (.syncs uri text)
  | closeDocument uri p => p.telling? (.forgets uri)
  | run _ _ p => p.telling?
  | _ => none

/-- The call writes nothing about documents by hand. -/
def IsPlain : Call → Prop
  | notify m _ => DocumentNote.ofMessage? m = none
  | _ => True

theorem isPlain_iff {c : Call} :
    c.IsPlain ↔ ∀ m, c.byHand? = some m → DocumentNote.ofMessage? m = none := by
  cases c <;> simp [IsPlain, byHand?]

/-- A new call has told nothing yet. -/
theorem hushed_of_isNew {c : Call} (h : c.isNew = true) : Hushed c.telling? := by
  cases c with
  | sync uri text p =>
    cases p with
    | on n p =>
      rintro _ _ ⟨⟩
      cases p <;> trivial
    | _ => exact hushed_none
  | closeDocument uri p =>
    cases p with
    | on n p =>
      rintro _ _ ⟨⟩
      cases p <;> trivial
    | _ => exact hushed_none
  | run kind reporting p => cases p <;> first | exact hushed_none | cases h
  | _ => exact hushed_none

end Call

theorem Progress.Tells.onSession {π α : Type} {task : TaskId} {s : Session}
    {t : Option (Nat × Telling)} {telling? : π → Option (Nat × Telling)} {p : Progress Session π α}
    (h : p.Tells id task s t telling?) (c : Client) :
    (c.onSession p).Tells Client.session task s t telling? := by
  cases p <;> exact h

theorem Client.onSession_silent {π α : Type} {c : Client} {p : Progress Session π α}
    (h : p.All c.session.Silent) : (c.onSession p).All fun c' => c.session.Silent c'.session :=
  Client.onSession_along h

theorem ActionPoint.step_tells (task : TaskId) (kind : ActionKind) (c : Client) (p : ActionPoint) :
    (p.step task kind c).Tells Client.session task c.session p.telling? ActionPoint.telling? := by
  cases p with
  | picking => rw [step]; split <;> exact .aside (.refl _) hushed_none
  | saving editor => rw [step]; split <;> exact .aside (.refl _) hushed_none
  | writing editor path text => rw [step]; split <;> exact .aside (.refl _) hushed_none
  | saved editor => exact .aside (.refl _) hushed_none
  | reading editor => exact .aside (.refl _) hushed_none
  | syncing editor text p =>
    have h := (p.step_tells task c.session (.syncs editor.uri text) .beginning trivial fun p x =>
      Telling.sync_moves task editor.uri text x p).onSession c
    rw [step]
    split
    next => trivial
    next he => rw [he] at h; exact h
    next he => rw [he] at h; exact h
    next he => rw [he] at h; exact h
  | querying editor => exact .aside (.refl _) hushed_none
  | asking editor q p =>
    have h := Client.onSession_silent (p.step_silent .beginning c.session fun p x =>
      p.step_silent q c.now x)
    rw [step]
    split
    next => trivial
    next he => rw [he] at h; exact .aside h hushed_none
    next he =>
      rw [he] at h
      split <;> exact .aside h hushed_none
  | routing editor outcome =>
    show c.session.Tells task none (c.route editor outcome).session none
    rw [Client.session_route]
    exact .aside (.refl _) hushed_none

theorem RunPoint.step_tells (task : TaskId) (kind : ActionKind) (reporting : Bool) (c : Client)
    (p : RunPoint) :
    (p.step task kind reporting c).Tells Client.session task c.session p.telling? RunPoint.telling? := by
  cases p with
  | flushing => exact .aside (.refl _) hushed_none
  | waiting =>
    rw [step]
    split
    next => exact .aside (.refl _) hushed_none
    next => trivial
  | acting p =>
    have h := p.step_tells task kind c
    rw [step]
    split
    next => trivial
    next he => rw [he] at h; exact h
    next c' r he =>
      rw [he] at h
      cases reporting with
      | true => exact h
      | false => cases r <;> exact h
  | flushingAfter r => exact .aside (.refl _) hushed_none
  | waitingAfter r =>
    rw [step]
    split
    next => exact .aside (.refl _) hushed_none
    next => trivial

/-- A call that consists of a silent part. -/
theorem Call.last_silent {π α : Type} (task : TaskId) {c : Client} {p : Progress Session π α}
    (hp : p.All c.session.Silent) (wrap : π → Call) (hw : ∀ x, (wrap x).telling? = none)
    (result : α → CallResult) :
    ((c.onSession p).last wrap result).Tells Client.session task c.session none Call.telling? :=
  ((Client.onSession_silent hp).tells fun _ => hushed_none).last telling? wrap hw result

/-- **The step of any call is silent, or the next step of what it is in the middle of telling.** -/
theorem Call.step_tells (task : TaskId) (c : Client) {call : Call} (plain : call.IsPlain) :
    (call.step task c).Tells Client.session task c.session call.telling? Call.telling? := by
  cases call with
  | lifecycle call p =>
    exact last_silent task (p.step_silent task call c.now c.session) (lifecycle call) (fun _ => rfl) _
  | request q p =>
    exact last_silent task (p.step_silent .beginning c.session fun p x => p.step_silent q c.now x)
      (request q) (fun _ => rfl) _
  | notify m p =>
    refine last_silent task (p.step_silent () c.session fun _ x => ?_) (notify m) (fun _ => rfl) _
    exact Connection.silent_tryWrite plain x
  | sync uri text p =>
    exact ((p.step_tells task c.session (.syncs uri text) .beginning trivial fun p x =>
      Telling.sync_moves task uri text x p).onSession c).last telling? (sync uri text) (fun _ => rfl) _
  | closeDocument uri p =>
    exact ((p.step_tells task c.session (.forgets uri) .beginning trivial fun p x =>
      Telling.forget_moves task uri x p).onSession c).last telling? (closeDocument uri)
        (fun _ => rfl) _
  | handshake n q p =>
    exact last_silent task
      (c.session.onLine_silent n fun x => p.step_carried Connection.silent_carried q c.now x)
      (handshake n q) (fun _ => rfl) _
  | shutdown n q p =>
    exact last_silent task
      (c.session.onLine_silent n fun x => p.step_carried Connection.silent_carried q c.now x)
      (shutdown n q) (fun _ => rfl) _
  | close n reason p =>
    exact last_silent task (c.session.onLine_silent n fun x => p.step_silent reason x) (close n reason)
      (fun _ => rfl) _
  | run kind reporting p =>
    exact (p.step_tells task kind reporting c).last telling? (run kind reporting) (fun _ => rfl) _
  | startUp p =>
    cases p with
    | finding =>
      rw [step]
      split
      next e _ =>
        refine .aside (.of_lines ?_) hushed_none
        unfold Client.announce
        split <;> rfl
      next => exact .aside (.refl _) hushed_none
    | starting endpoint p =>
      exact last_silent task (p.step_silent task (.start endpoint) c.now c.session)
        (fun p => startUp (.starting endpoint p)) (fun _ => rfl) _
  | restart p =>
    have h := Client.onSession_silent (p.step_silent task .restart c.now c.session)
    rw [step]
    split
    next => trivial
    next he => rw [he] at h; exact .aside h hushed_none
    next he => rw [he] at h; exact .aside h hushed_none
    next he => rw [he] at h; exact .aside h hushed_none
  | openFile path p =>
    cases p with
    | opening => rw [step]; split <;> exact .aside (.refl _) hushed_none
    | showing uri => rw [step]; split <;> exact .aside (.refl _) hushed_none

/-! ## Workbenches -/

/-- Nobody is about to write about documents by hand. -/
def Happening.IsPlain : Happening → Prop
  | calls c => c.IsPlain
  | _ => True

/-- The source of a step on a line is this happening. -/
def Correspondence.Source.IsOf (n : Nat) (g : Happening) : Correspondence.Source → Prop
  | party task => g = .goesOn (.call task)
  | stream f => g = .streams n f
  | elsewhere => True

namespace Workbench

/-- What a call is in the middle of telling, and on which line. -/
def telling? (w : Workbench) (task : TaskId) : Option (Nat × Telling) :=
  (w.calls.get? task).bind Call.telling?

/-- What a call is in the middle of telling on a line. -/
def teller? (w : Workbench) (n : Nat) (task : TaskId) : Option Telling :=
  (w.telling? task).bind fun (m, p) => if m = n then some p else none

/-- What is told on a line, and by whom. -/
def correspondence? (w : Workbench) (n : Nat) : Option Correspondence :=
  (w.client.session.line? n).map fun l => ⟨l.connection, w.teller? n⟩

/-- What every history keeps in which nobody writes about documents by hand. -/
structure IsPlain (w : Workbench) : Prop where
  calls : ∀ task c, w.calls.get? task = some c → c.IsPlain
  /-- Nobody is in the middle of telling anything on a line that there is not. -/
  absent : ∀ task n p, w.telling? task = some (n, p) → w.client.session.line? n = none → p.IsFirst

/-- What a happening is to what is told about documents. -/
inductive Tells (w w' : Workbench) : Happening → Prop
  | call {task : TaskId}
      (turn : w.client.session.Tells task (w.telling? task) w'.client.session (w'.telling? task))
      (others : ∀ other, other ≠ task → w'.telling? other = w.telling? other) :
      Tells w w' (.goesOn (.call task))
  | streams {n : Nat} {f : Link → Link}
      (session : w'.client.session = w.client.session.modifyLine n fun l =>
        { l with connection := { l.connection with
          link := { f l.connection.link with sent := l.connection.link.sent } } })
      (tellings : w'.telling? = w.telling?) : Tells w w' (.streams n f)
  | beside {g : Happening} (h : w.client.session.Silent w'.client.session)
      (tellings : ∀ task, w'.telling? task = w.telling? task ∨
        (w.telling? task = none ∧ Hushed (w'.telling? task))) : Tells w w' g

variable {w w' : Workbench} {g : Happening}

theorem telling?_congr {task : TaskId} (h : w'.calls.get? task = w.calls.get? task) :
    w'.telling? task = w.telling? task := by
  rw [telling?, h, telling?]

/-- The step of a call is a turn of what it is in the middle of telling, and of nobody else's. -/
theorem turn_tells (hw : w.IsPlain) {task : TaskId} (h : w.act? (.call task) = some w') :
    w.client.session.Tells task (w.telling? task) w'.client.session (w'.telling? task) ∧
      ∀ other, other ≠ task → w'.telling? other = w.telling? other := by
  refine ⟨?_, fun other hne => telling?_congr (act?_call_others h hne)⟩
  obtain ⟨call, hcall, h⟩ := act?_call h
  have turn := call.step_tells task w.client (hw.calls task call hcall)
  have hbefore : w.telling? task = call.telling? := by rw [telling?, hcall]; rfl
  rw [hbefore]
  rcases h with ⟨client, call', hstep, rfl⟩ | ⟨client, r, hstep, rfl⟩
  · rw [hstep] at turn
    rw [telling?, Table.get?_set, if_pos rfl]
    exact turn
  · rw [hstep] at turn
    rw [telling?, Table.get?_erase, if_pos rfl]
    exact turn

theorem tells_call (hw : w.IsPlain) {task : TaskId} (h : w.act? (.call task) = some w') :
    w.Tells w' (.goesOn (.call task)) :=
  .call (turn_tells hw h).1 (turn_tells hw h).2

/-- What goes on by itself is silent about documents. -/
theorem act?_silent {a : Activity} (h : w.act? a = some w') (ha : ∀ task, a ≠ .call task) :
    w.client.session.Silent w'.client.session := by
  have reads {n : Nat} {a : Activity} (hreader : a = .reader n ∨ a = .lateReader n)
      (h : w.act? a = some w') : w.client.session.Silent w'.client.session := by
    obtain ⟨l, c, signals, hl, rfl, hread⟩ := act?_reader hreader h
    show w.client.session.Silent (w.client.absorbAll _).session
    rw [Client.session_absorbAll]
    refine .setConnection hl ?_
    rcases hread with ⟨_, hstop, _⟩ | ⟨_, hstep⟩
    · exact Reader.stop?_silent hstop
    · exact Reader.step?_silent hstep
  cases a with
  | call task => exact absurd rfl (ha task)
  | reader n => exact reads (.inl rfl) h
  | lateReader n => exact reads (.inr rfl) h
  | payer n =>
    obtain ⟨s, hs, rfl⟩ := Option.map_eq_some_iff.1 h
    simp only [Session.pay?, Option.bind_eq_bind, Option.bind_eq_some_iff] at hs
    obtain ⟨l, hl, c, hc, he⟩ := hs
    cases he
    exact .setConnection hl (Reader.pay?_silent hc)
  | _ =>
    refine act?_beside .refl (fun _ _ => Connection.silent_leave?) h ha fun n => ?_
    exact ⟨Activity.noConfusion, Activity.noConfusion, Activity.noConfusion⟩

/-- **What a happening is to what is told about documents.** -/
theorem happen?_tells (sound : w.Sound) (hw : w.IsPlain) (h : w.happen? g = some w') :
    w.Tells w' g := by
  rcases happen?_cases h with ⟨task, rfl⟩ | ⟨c, rfl, hc, rfl⟩ | ⟨hcalls, -, -, -⟩
  · exact tells_call hw h
  · refine .beside (.refl _) fun task => ?_
    rcases sound.get?_add c task with ⟨hnone, hnew⟩ | hsame
    · refine .inr ⟨by rw [telling?, hnone]; rfl, ?_⟩
      rw [telling?, hnew]
      exact Call.hushed_of_isNew hc
    · exact .inl (telling?_congr hsame)
  have tellings (task : TaskId) : w'.telling? task = w.telling? task :=
    telling?_congr (by rw [hcalls])
  cases g with
  | goesOn a =>
    by_cases ha : ∃ task, a = .call task
    · obtain ⟨task, rfl⟩ := ha
      exact tells_call hw h
    · exact .beside (act?_silent h fun task e => ha ⟨task, e⟩) fun task => .inl (tellings task)
  | calls c =>
    obtain ⟨_, rfl⟩ := happen?_calls.1 h
    exact .beside (.refl _) fun task => .inl (tellings task)
  | streams n f => cases h; exact .streams rfl (funext tellings)
  | exits n e => cases h; exact .beside (.modifyLine _ n fun l _ => .refl _) fun task => .inl (tellings task)
  | opens link peer process =>
    obtain ⟨_, rfl⟩ := answer?_eq_some.1 h
    exact .beside (.of_lines rfl) fun task => .inl (tellings task)
  | refuses e =>
    obtain ⟨_, rfl⟩ := answer?_eq_some.1 h
    exact .beside (.of_lines rfl) fun task => .inl (tellings task)
  | _ => cases h; exact .beside (.of_lines rfl) fun task => .inl (tellings task)

/-! ### What every history keeps -/

theorem IsFresh.isPlain (h : w.IsFresh) : w.IsPlain where
  calls task c hc := by rw [h.calls] at hc; cases hc
  absent task n p hp := by rw [telling?, h.calls] at hp; cases hp

/-- What a call is in the middle of telling on a line that there is not has not begun. -/
theorem IsPlain.tells_absent (hw : w.IsPlain) (t : w.Tells w' g) {task : TaskId} {n : Nat} {p : Telling}
    (hp : w'.telling? task = some (n, p)) (hn : w.client.session.line? n = none) : p.IsFirst := by
  cases t with
  | @call other turn others =>
    by_cases e : task = other
    · subst e
      generalize w.telling? task = t, w'.telling? task = t', w'.client.session = s' at turn hp
      cases turn with
      | @moves m l c q next hl hm =>
        obtain ⟨q', _, he⟩ := Option.map_eq_some_iff.1 hp
        cases he
        rw [hn] at hl
        cases hl
      | aside _ ht => exact ht n p hp
    · exact hw.absent task n p (others task e ▸ hp) hn
  | streams _ tellings => exact hw.absent task n p (tellings ▸ hp) hn
  | beside _ tellings =>
    rcases tellings task with h | ⟨_, h⟩
    · exact hw.absent task n p (h ▸ hp) hn
    · exact h n p hp

theorem IsPlain.happen? (sound : w.Sound) (hw : w.IsPlain) (plain : g.IsPlain)
    (h : w.happen? g = some w') : w'.IsPlain where
  calls task c hc := by
    rcases happen?_byHand sound h hc with ⟨before, hbefore, hsame⟩ | rfl
    · rw [Call.isPlain_iff, hsame]
      exact Call.isPlain_iff.1 (hw.calls task before hbefore)
    · exact plain
  absent _ _ _ hp hn := hw.tells_absent (happen?_tells sound hw h) hp
    ((happen?_turn sound h).line?_none hn)

theorem isPlain_after? {w₀ : Workbench} {hs : List Happening} (h₀ : w₀.IsFresh)
    (plain : w₀.Throughout hs fun _ g => g.IsPlain) (h : w₀.after? hs = some w) : w.IsPlain :=
  after?_induction (P := fun hs w => (w₀.Throughout hs fun _ g => g.IsPlain) → w.IsPlain)
    (fun _ => h₀.isPlain)
    (fun _ _ _ _ hw ih hstep plain =>
      (ih plain.of_concat).happen? (sound_after? h₀ hw) (plain.last hw) hstep) h plain

/-! ### One line -/

theorem correspondence?_eq_some {n : Nat} {x : Correspondence} :
    w.correspondence? n = some x ↔
      ∃ l, w.client.session.line? n = some l ∧ ⟨l.connection, w.teller? n⟩ = x :=
  Option.map_eq_some_iff

theorem correspondence?_eq_none {n : Nat} :
    w.correspondence? n = none ↔ w.client.session.line? n = none := by
  simp [correspondence?]

theorem teller?_eq_some {n : Nat} {task : TaskId} {p : Telling} :
    w.teller? n task = some p ↔ w.telling? task = some (n, p) := by
  rw [teller?, Option.bind_eq_some_iff]
  constructor
  · rintro ⟨⟨m, q⟩, hq, h⟩
    by_cases e : m = n
    · subst e
      simp only [if_true, Option.some.injEq] at h
      rwa [← h]
    · simp [e] at h
  · intro h
    exact ⟨(n, p), h, by simp⟩

theorem teller?_of_telling {m : Nat} {task : TaskId} {p : Telling}
    (h : w.telling? task = some (m, p)) (n : Nat) :
    w.teller? n task = if m = n then some p else none := by
  rw [teller?, h]
  rfl

theorem teller?_of_none {task : TaskId} (h : w.telling? task = none) (n : Nat) :
    w.teller? n task = none := by
  rw [teller?, h]
  rfl

theorem teller?_congr {task : TaskId} (h : w'.telling? task = w.telling? task) (n : Nat) :
    w'.teller? n task = w.teller? n task := by
  rw [teller?, h]
  rfl

/-- A step that is silent on a line, and after which at most something more is about to begin there. -/
theorem correspondence_beside {n : Nat} {x : Correspondence} (hx : w.correspondence? n = some x)
    (h : w.client.session.Silent w'.client.session)
    (hp : ∀ task, w'.teller? n task = w.teller? n task ∨
      (w.teller? n task = none ∧ ∀ p, w'.teller? n task = some p → p.IsFirst)) :
    ∃ x', w'.correspondence? n = some x' ∧ x.Step x' .elsewhere := by
  obtain ⟨l, hl, rfl⟩ := correspondence?_eq_some.1 hx
  obtain ⟨l', hl', silent⟩ := h n l hl
  exact ⟨_, correspondence?_eq_some.2 ⟨l', hl', rfl⟩, .beside silent hp⟩

/-- A step of a call, seen from one line: it tells something there, or is not there and is silent. -/
theorem Tells.correspondence_call {task : TaskId} {n : Nat} {x : Correspondence}
    (turn : w.client.session.Tells task (w.telling? task) w'.client.session (w'.telling? task))
    (others : ∀ other, other ≠ task → w'.telling? other = w.telling? other)
    (hx : w.correspondence? n = some x) :
    ∃ x', w'.correspondence? n = some x' ∧
      (x.Advances x' task ∨ (x.parties task = none ∧ x.Step x' .elsewhere)) := by
  have others' (other : TaskId) (h : other ≠ task) : w'.teller? n other = w.teller? n other :=
    teller?_congr (others other h) n
  generalize hp : w.telling? task = t, hp' : w'.telling? task = t', hs : w'.client.session = s' at turn
  cases turn with
  | @moves m l' c p next hl' hm =>
    by_cases e : m = n
    · subst e
      obtain ⟨l, hl, rfl⟩ := correspondence?_eq_some.1 hx
      obtain rfl : l = l' := by simpa [hl] using hl'
      have hc : w'.correspondence? m = some ⟨c, w'.teller? m⟩ := by
        rw [correspondence?, hs, line?_setConnection, if_pos rfl, hl]
        rfl
      refine ⟨_, hc, .inl ⟨p, next, ?_, hm, ?_, others'⟩⟩
      · exact (teller?_of_telling hp m).trans (if_pos rfl)
      · cases next with
        | inl q => exact (teller?_of_telling hp' m).trans (if_pos rfl)
        | inr r => exact teller?_of_none hp' m
    · -- What is told on another line is silent on this one.
      obtain ⟨l, hl, rfl⟩ := correspondence?_eq_some.1 hx
      have hc : w'.correspondence? n = some ⟨l.connection, w'.teller? n⟩ := by
        rw [correspondence?, hs, line?_setConnection, if_neg e, hl]
        rfl
      have hnone : w.teller? n task = none := (teller?_of_telling hp n).trans (if_neg e)
      refine ⟨_, hc, .inr ⟨hnone, .beside (.refl _) fun other => ?_⟩⟩
      by_cases eo : other = task
      · subst eo
        refine .inr ⟨hnone, fun q hq => ?_⟩
        obtain ⟨q', hq', he⟩ := Option.map_eq_some_iff.1 (hp'.symm.trans (teller?_eq_some.1 hq))
        cases he
        exact absurd rfl e
      · exact .inl (others' other eo)
  | aside silent hushed =>
    have hnone : w.teller? n task = none := teller?_of_none hp n
    obtain ⟨y, hy, hstep⟩ := correspondence_beside hx (hs ▸ silent) fun other => by
      by_cases e : other = task
      · subst e
        exact .inr ⟨hnone, fun q hq => hushed n q (hp' ▸ teller?_eq_some.1 hq)⟩
      · exact .inl (others' other e)
    obtain ⟨l, _, rfl⟩ := correspondence?_eq_some.1 hx
    exact ⟨y, hy, .inr ⟨hnone, hstep⟩⟩

/-- **Seen from one line, whatever happens is a step of the correspondence there.** -/
theorem Tells.correspondence (t : w.Tells w' g) {n : Nat} {x : Correspondence}
    (hx : w.correspondence? n = some x) :
    ∃ x' e, w'.correspondence? n = some x' ∧ x.Step x' e ∧ e.IsOf n g := by
  cases t with
  | call turn others =>
    obtain ⟨y, hy, hadvances | ⟨-, hstep⟩⟩ := correspondence_call turn others hx
    · exact ⟨y, _, hy, hadvances.step, rfl⟩
    · exact ⟨y, _, hy, hstep, trivial⟩
  | @streams m f session tellings =>
    obtain ⟨l, hl, rfl⟩ := correspondence?_eq_some.1 hx
    have hp : w'.teller? n = w.teller? n := funext fun task => teller?_congr (by rw [tellings]) n
    by_cases e : m = n
    · subst e
      have hc : w'.correspondence? m = some
          ⟨{ l.connection with
            link := { f l.connection.link with sent := l.connection.link.sent } }, w'.teller? m⟩ := by
        rw [correspondence?, session, line?_modifyLine, if_pos rfl, hl]
        rfl
      exact ⟨_, .stream f, hc, .streams rfl hp, rfl⟩
    · have hc : w'.correspondence? n = some ⟨l.connection, w'.teller? n⟩ := by
        rw [correspondence?, session, line?_modifyLine, if_neg e, hl]
        rfl
      exact ⟨_, .elsewhere, hc, .beside (.refl _) fun task => .inl (congrFun hp task), trivial⟩
  | beside silent tellings =>
    obtain ⟨y, hy, hstep⟩ := correspondence_beside hx silent fun task => by
      rcases tellings task with h | ⟨hnone, hushed⟩
      · exact .inl (teller?_congr h n)
      · exact .inr ⟨teller?_of_none hnone n, fun q hq => hushed n q (teller?_eq_some.1 hq)⟩
    exact ⟨y, _, hy, hstep, trivial⟩

/-- A new line has a fresh correspondence if nobody has begun to tell anything on it. -/
theorem correspondence_isFresh {n : Nat} {x : Correspondence} (hx : w.correspondence? n = some x)
    (hl : ∀ l, w.client.session.line? n = some l → l.IsFresh)
    (hp : ∀ task p, w.telling? task = some (n, p) → p.IsFirst) : x.IsFresh := by
  obtain ⟨l, hline, rfl⟩ := correspondence?_eq_some.1 hx
  obtain ⟨link, peer, process, rfl⟩ := hl l hline
  exact ⟨⟨_, rfl, rfl⟩, fun task p h => hp task p (teller?_eq_some.1 h)⟩

/-- **What is true of a fresh correspondence, and kept by every step, is true of every line after
every history.**  What is known of each happening can be used. -/
theorem correspondence_induction {P : Correspondence → Prop} {C : Workbench → Happening → Prop}
    {n : Nat} (fresh : ∀ x, x.IsFresh → P x)
    (step : ∀ u g x x' e, C u g → u.correspondence? n = some x → e.IsOf n g → P x → x.Step x' e → P x')
    {w₀ : Workbench} {hs : List Happening} (h₀ : w₀.IsFresh) (h : w₀.after? hs = some w)
    (plain : w₀.Throughout hs fun _ g => g.IsPlain) (given : w₀.Throughout hs C) {x : Correspondence}
    (hx : w.correspondence? n = some x) : P x := by
  refine after?_induction (P := fun hs w => (w₀.Throughout hs fun _ g => g.IsPlain) →
    w₀.Throughout hs C → ∀ x, w.correspondence? n = some x → P x) (fun _ _ x hx => ?_)
    (fun hs g w w' hw ih hstep plain given x' hx' => ?_) h plain given x hx
  · refine fresh x (correspondence_isFresh hx (fun l hl => ?_) fun task p hp => ?_)
    · exact h₀.lines l (List.mem_of_getElem? hl)
    · rw [telling?, h₀.calls] at hp
      cases hp
  · have sound := sound_after? h₀ hw
    have isPlain := isPlain_after? h₀ plain.of_concat hw
    have tells := happen?_tells sound isPlain hstep
    cases hx : w.correspondence? n with
    | none =>
      have hnone := correspondence?_eq_none.1 hx
      refine fresh x' (correspondence_isFresh hx' (fun l hl => ?_) fun task p hp => ?_)
      · exact (happen?_turn sound hstep).comes hnone hl
      · exact isPlain.tells_absent tells hp hnone
    | some x =>
      obtain ⟨y, e, hy, hs, he⟩ := tells.correspondence hx
      obtain rfl : y = x' := by simpa [hy] using hx'
      exact step w g x y e (given.last hw) hx he (ih plain.of_concat given.of_concat x hx) hs

end Workbench

end LanguageClient
