import LanguageClient.Proofs.Session.Traffic

/-!
# What goes on over each connection of a workbench

`Workbench.exchange?` is the view of one line: its connection, and what each call is in the middle of
there.  `Workbench.event?` says what a happening is to the ids and answers of a line, and
`Workbench.trace` lists the events of a history.

* `Call.step_turns` — the step of any call is a turn (`Session.Turn`).
* `Workbench.Sound` — what every history keeps: connections that are offered are new, and calls have
  numbers that were given out.
* **`Turn.exchange`** — seen from one line, a happening is a step of the exchange there, and bears the
  event that `event?` reads off.  A line that was not there comes with a fresh exchange.
* **`exchange_induction`** — so what is true of a fresh exchange and kept by each step of an exchange
  is true of every line after every history.
-/

namespace LanguageClient

open Session

/-! ## Calls -/

namespace Client

@[simp] theorem session_absorb (c : Client) (x : Signal) : (c.absorb x).session = c.session := by
  unfold absorb
  split
  · rfl
  · rfl
  · split <;> rfl

@[simp] theorem session_absorbAll (c : Client) (step : Session × List Signal) :
    (c.absorbAll step).session = step.1 := by
  have h (signals : List Signal) (c : Client) :
      (signals.foldl absorb c).session = c.session := by
    induction signals generalizing c with
    | nil => rfl
    | cons x signals ih => rw [List.foldl_cons, ih, session_absorb]
  exact h step.2 _

@[simp] theorem session_perform (c : Client) (d : Dispatch) : (c.perform d).session = c.session := by
  cases d <;> rfl

@[simp] theorem session_route (c : Client) (editor : EditorRef) (o : ActionOutcome) :
    (c.route editor o).session = c.session := by
  cases o <;> rfl

/-- The dispatcher takes what is first in the queue, and does it. -/
theorem dispatch?_eq_some {c c' : Client} (h : c.dispatch? = some c') :
    ∃ d rest, c.queue = d :: rest ∧ c' = { c with queue := rest }.perform d := by
  unfold dispatch? at h
  split at h
  next => cases h
  next d rest hq =>
    cases h
    exact ⟨d, rest, hq, rfl⟩

theorem session_dispatch? {c c' : Client} (h : c.dispatch? = some c') : c'.session = c.session := by
  obtain ⟨d, rest, -, rfl⟩ := dispatch?_eq_some h
  exact session_perform _ d

end Client

/-- A step on the session of a client. -/
theorem Progress.Turns.onSession {π α : Type} {now : Nat} {s : Session} {t : Option (Nat × Traffic)}
    {place : π → Option (Nat × Traffic)} {p : Progress Session π α}
    (h : p.Turns id now s t place) (c : Client) :
    (c.onSession p).Turns Client.session now s t place := by
  cases p <;> exact h

/-- A step that is not on the session. -/
theorem Session.Turn.refl (now : Nat) (s : Session) : s.Turn now none s none :=
  .aside (.refl s) begins_none

theorem ActionPoint.step_turns (task : TaskId) (kind : ActionKind) (c : Client) (p : ActionPoint) :
    (p.step task kind c).Turns Client.session c.now c.session p.place? ActionPoint.place? := by
  cases p with
  | picking => rw [step]; split <;> exact .refl _ _
  | saving editor => rw [step]; split <;> exact .refl _ _
  | writing editor path text => rw [step]; split <;> exact .refl _ _
  | saved editor => exact .refl _ _
  | reading editor => exact .refl _ _
  | syncing editor text p =>
    have h := (p.step_calm .beginning c.now c.session
      fun p x => p.step_calm task editor.uri text x).onSession c
    rw [step]
    split
    next he => rw [he] at h; exact h
    next he => rw [he] at h; exact h
    next he => rw [he] at h; exact h
    next he => rw [he] at h; exact h
  | querying editor => exact .refl _ _
  | asking editor q p =>
    have h := (p.step_asks q c.now c.session).onSession c
    rw [step]
    split
    next he => rw [he] at h; exact h
    next he => rw [he] at h; exact h
    next he =>
      rw [he] at h
      split <;> exact h
  | routing editor outcome =>
    show Session.Turn c.now c.session none (c.route editor outcome).session none
    rw [Client.session_route]
    exact .refl _ _

theorem RunPoint.step_turns (task : TaskId) (kind : ActionKind) (reporting : Bool) (c : Client)
    (p : RunPoint) :
    (p.step task kind reporting c).Turns Client.session c.now c.session p.place? RunPoint.place? := by
  cases p with
  | flushing => exact .refl _ _
  | waiting =>
    rw [step]
    split
    next => exact .refl _ _
    next => exact blocked_none _ _
  | acting p =>
    have h := p.step_turns task kind c
    rw [step]
    split
    next he => rw [he] at h; exact h
    next he => rw [he] at h; exact h
    next c' r he =>
      rw [he] at h
      cases reporting with
      | true => exact h
      | false => cases r <;> exact h
  | flushingAfter r => exact .refl _ _
  | waitingAfter r =>
    rw [step]
    split
    next => exact .refl _ _
    next => exact blocked_none _ _

/-- **What a step of a call is on a connection.** -/
theorem Call.step_turns (task : TaskId) (c : Client)
    (hc : ∀ l, c.session.offer = some (.ok l) → l.IsFresh) (call : Call) :
    (call.step task c).Turns Client.session c.now c.session call.place? Call.place? := by
  cases call with
  | lifecycle call p =>
    exact ((p.step_turns task call c.now c.session hc).onSession c).last place? (lifecycle call)
      (fun _ => rfl) _
  | request q p =>
    exact ((p.step_asks q c.now c.session).onSession c).last place? (request q) (fun _ => rfl) _
  | notify m p =>
    refine ((p.step_calm () c.now c.session fun _ x => ?_).onSession c).last place?
      (notify m) (fun _ => rfl) _
    exact x.calm_tryWrite m
  | sync uri text p =>
    have hrun (p : SyncPoint) (x : Connection) := p.step_calm task uri text x
    exact ((p.step_calm .beginning c.now c.session hrun).onSession c).last place?
      (sync uri text) (fun _ => rfl) _
  | closeDocument uri p =>
    have hrun (p : ForgetPoint) (x : Connection) := p.step_calm task uri x
    exact ((p.step_calm .beginning c.now c.session hrun).onSession c).last place?
      (closeDocument uri) (fun _ => rfl) _
  | handshake n q p =>
    exact ((onLine_handshake c.now c.session n q p).onSession c).last place? (handshake n q)
      (fun _ => rfl) _
  | shutdown n q p =>
    exact ((onLine_shutdown c.now c.session n q p).onSession c).last place? (shutdown n q)
      (fun _ => rfl) _
  | close n reason p =>
    exact ((onLine_closes c.now c.session n reason p).onSession c).last place? (close n reason)
      (fun _ => rfl) _
  | run kind reporting p =>
    exact (p.step_turns task kind reporting c).last place? (run kind reporting) (fun _ => rfl) _
  | startUp p =>
    cases p with
    | finding =>
      rw [step]
      split
      next e _ =>
        have hs : (c.announce e).session = c.session := by
          unfold Client.announce
          split <;> rfl
        show Session.Turn c.now c.session none (c.announce e).session none
        rw [hs]
        exact .refl _ _
      next => exact .refl _ _
    | starting endpoint p =>
      exact ((p.step_turns task (.start endpoint) c.now c.session hc).onSession c).last place?
        (fun p => startUp (.starting endpoint p)) (fun _ => rfl) _
  | restart p =>
    have h := (p.step_turns task .restart c.now c.session hc).onSession c
    rw [step]
    split
    next he => rw [he] at h; exact h
    next he => rw [he] at h; exact h
    next he => rw [he] at h; exact h
    next he => rw [he] at h; exact h
  | openFile path p =>
    cases p with
    | opening => rw [step]; split <;> exact .refl _ _
    | showing uri => rw [step]; split <;> exact .refl _ _

/-! ## Workbenches -/

namespace Workbench

/-- What a call is in the middle of, and on which line. -/
def place? (w : Workbench) (task : TaskId) : Option (Nat × Traffic) :=
  (w.calls.get? task).bind Call.place?

/-- What a call is in the middle of on a line. -/
def traffic? (w : Workbench) (n : Nat) (task : TaskId) : Option Traffic :=
  (w.place? task).bind fun (m, t) => if m = n then some t else none

/-- What goes on over a line. -/
def exchange? (w : Workbench) (n : Nat) : Option Exchange :=
  (w.client.session.line? n).map fun l => ⟨l.connection, w.traffic? n⟩

/-- What a happening is to the ids and answers of a line.  A reader that is told to stop does nothing
to them, unless it goes on all the same. -/
def event? (w : Workbench) (n : Nat) : Happening → Option Exchange.Event
  | .goesOn a => (w.exchange? n).bind fun x =>
    match a with
    | .call task => x.event? (.party task)
    | .reader m => if m = n ∧ x.connection.readerAborted = false then x.event? .reader else none
    | .lateReader m => if m = n then x.event? .reader else none
    | _ => none
  | _ => none

/-- The events of a history on a line, the first one first. -/
def trace (w : Workbench) (n : Nat) (hs : List Happening) : List Exchange.Event :=
  w.record (fun v g => v.event? n g) hs

theorem trace_concat {w w' : Workbench} {hs : List Happening} (h : w.after? hs = some w') (n : Nat)
    (g : Happening) : w.trace n (hs ++ [g]) = w.trace n hs ++ (w'.event? n g).toList :=
  record_concat _ h g

/-- What every history keeps. -/
structure Sound (w : Workbench) : Prop where
  offer : ∀ l, w.client.session.offer = some (.ok l) → l.IsFresh
  opener : ∀ o, w.opener = some o → o.IsHonest
  numbered : ∀ task c, w.calls.get? task = some c → task.number ≤ w.latestTask
  /-- Nobody is in the middle of anything on a line that there is not. -/
  absent : ∀ task n t, w.place? task = some (n, t) → w.client.session.line? n = none → t.IsFirst

theorem IsFresh.sound {w : Workbench} (h : w.IsFresh) : w.Sound where
  offer l hl := by rw [h.offer] at hl; cases hl
  opener := h.opener
  numbered task c hc := by rw [h.calls] at hc; cases hc
  absent task n t ht := by rw [place?, h.calls] at ht; cases ht

/-- A new call has a number that was not given out before, and the others stay what they are. -/
theorem Sound.get?_add {w : Workbench} (hw : w.Sound) (c : Call) (task : TaskId) :
    (w.calls.get? task = none ∧ (w.add c).2.calls.get? task = some c) ∨
      (w.add c).2.calls.get? task = w.calls.get? task := by
  have hget : (w.add c).2.calls.get? task =
      if (⟨w.latestTask + 1⟩ : TaskId) = task then some c else w.calls.get? task :=
    Table.get?_set ..
  by_cases e : (⟨w.latestTask + 1⟩ : TaskId) = task
  · refine .inl ⟨?_, hget.trans (if_pos e)⟩
    by_contra hsome
    obtain ⟨call, hcall⟩ := Option.ne_none_iff_exists'.1 hsome
    have hle := hw.numbered task call hcall
    rw [← e] at hle
    exact absurd hle (Nat.not_succ_le_self _)
  · exact .inr (hget.trans (if_neg e))

/-- What a happening is on the lines and to what the calls are in the middle of. -/
inductive Turn (w w' : Workbench) : Happening → Prop
  | call {task : TaskId}
      (turn : w.client.session.Turn w.client.now (w.place? task) w'.client.session (w'.place? task))
      (others : ∀ other, other ≠ task → w'.place? other = w.place? other) :
      Turn w w' (.goesOn (.call task))
  | reads {n : Nat} {a : Activity} {l : Line} {handlers : Handlers} {c : Connection}
      {signals : List Signal} (hl : w.client.session.line? n = some l)
      (ha : (a = .reader n ∧ l.connection.readerAborted = false) ∨ a = .lateReader n)
      (h : Reader.step? handlers l.connection = some (c, signals))
      (session : w'.client.session = w.client.session.setConnection n c)
      (places : w'.place? = w.place?) : Turn w w' (.goesOn a)
  | stops {n : Nat} {l : Line} {c : Connection} (hl : w.client.session.line? n = some l)
      (h : Reader.stop? l.connection = some c)
      (session : w'.client.session = w.client.session.setConnection n c)
      (places : w'.place? = w.place?) : Turn w w' (.goesOn (.reader n))
  | calm {g : Happening} (h : w.client.session.Calm w'.client.session)
      (places : ∀ task, w'.place? task = w.place? task ∨
        (w.place? task = none ∧ Begins (w'.place? task)))
      (event : ∀ n, w.event? n g = none) : Turn w w' g

/-- A call takes a step. -/
theorem act?_call {w w' : Workbench} {task : TaskId} (h : w.act? (.call task) = some w') :
    ∃ call, w.calls.get? task = some call ∧
      ((∃ client call', call.step task w.client = .goesOn client call' ∧
        w' = { w with client, calls := w.calls.set task call' }) ∨
      ∃ client r, call.step task w.client = .ends client r ∧
        w' = { w with
          client
          calls := w.calls.erase task
          returned := w.returned ++ [(task, r)] }) := by
  rw [act?] at h
  split at h
  next => cases h
  next call hcall =>
    refine ⟨call, hcall, ?_⟩
    split at h
    next => cases h
    next client call' hstep => cases h; exact .inl ⟨client, call', hstep, rfl⟩
    next client r hstep => cases h; exact .inr ⟨client, r, hstep, rfl⟩

theorem turn_call {w w' : Workbench} (hw : w.Sound) {task : TaskId}
    (h : w.act? (.call task) = some w') : w.Turn w' (.goesOn (.call task)) := by
  obtain ⟨call, hcall, h⟩ := act?_call h
  have turn := call.step_turns task w.client hw.offer
  have hplace : w.place? task = call.place? := by rw [place?, hcall]; rfl
  rcases h with ⟨client, call', hstep, rfl⟩ | ⟨client, r, hstep, rfl⟩
  · rw [hstep] at turn
    refine .call ?_ fun other hother => ?_
    · rw [hplace, place?, Table.get?_set, if_pos rfl]
      exact turn
    · rw [place?, Table.get?_set, if_neg (Ne.symm hother)]
      rfl
  · rw [hstep] at turn
    refine .call ?_ fun other hother => ?_
    · rw [hplace, place?, Table.get?_erase, if_pos rfl]
      exact turn
    · rw [place?, Table.get?_erase, if_neg (Ne.symm hother)]
      rfl

/-- The reader of a line takes a step, whether it was told to stop or not. -/
theorem act?_reader {w w' : Workbench} {n : Nat} {a : Activity} (ha : a = .reader n ∨ a = .lateReader n)
    (h : w.act? a = some w') :
    ∃ l c signals, w.client.session.line? n = some l ∧
      w' = { w with client := w.client.absorbAll (w.client.session.setConnection n c, signals) } ∧
      ((a = .reader n ∧ Reader.stop? l.connection = some c ∧ signals = []) ∨
        ((a = .reader n → l.connection.readerAborted = false) ∧
          Reader.step? w.client.session.handlers l.connection = some (c, signals))) := by
  rcases ha with rfl | rfl
  · simp only [act?, Client.read?, Session.read?, Option.map_map, Option.map_eq_some_iff,
      Option.bind_eq_bind, Option.bind_eq_some_iff] at h
    obtain ⟨⟨s, signals⟩, ⟨l, hl, hread⟩, rfl⟩ := h
    split at hread
    next c hstop =>
      cases hread
      exact ⟨l, c, [], hl, rfl, .inl ⟨rfl, hstop, rfl⟩⟩
    next hstop =>
      obtain ⟨⟨c, signals'⟩, hstep, he⟩ := Option.bind_eq_some_iff.1 hread
      cases he
      refine ⟨l, c, signals', hl, rfl, .inr ⟨fun _ => ?_, hstep⟩⟩
      -- A reader that was told to stop and did not has stopped already, and takes no step.
      by_contra haborted
      rw [Bool.not_eq_false] at haborted
      rw [Reader.stop?, haborted] at hstop
      cases hr : l.connection.reader with
      | stopped => rw [Reader.step?, hr] at hstep; cases hstep
      | _ => rw [hr] at hstop; cases hstop
  · simp only [act?, Client.readOn?, Session.readOn?, Option.map_map, Option.map_eq_some_iff,
      Option.bind_eq_bind, Option.bind_eq_some_iff] at h
    obtain ⟨⟨s, signals⟩, ⟨l, hl, hread⟩, rfl⟩ := h
    split at hread
    next =>
      obtain ⟨⟨c, signals'⟩, hstep, he⟩ := Option.bind_eq_some_iff.1 hread
      cases he
      exact ⟨l, c, signals', hl, rfl, .inr ⟨by rintro ⟨⟩, hstep⟩⟩
    next => cases hread

theorem turn_reader {w w' : Workbench} {n : Nat} {a : Activity} (ha : a = .reader n ∨ a = .lateReader n)
    (h : w.act? a = some w') : w.Turn w' (.goesOn a) := by
  obtain ⟨l, c, signals, hl, rfl, ⟨rfl, hstop, rfl⟩ | ⟨haborted, hstep⟩⟩ := act?_reader ha h
  · exact .stops hl hstop rfl rfl
  · exact .reads hl (ha.imp_left fun e => ⟨e, haborted e⟩) hstep (Client.session_absorbAll _ _) rfl

/-- Somebody makes a call. -/
theorem turn_calls {w w' : Workbench} (hw : w.Sound) {c : Call}
    (h : w.happen? (.calls c) = some w') : w.Turn w' (.calls c) := by
  obtain ⟨hc, rfl⟩ := happen?_calls.1 h
  refine .calm (.refl _) (fun task => ?_) fun _ => rfl
  rcases hw.get?_add c task with ⟨hbefore, hnew⟩ | hsame
  · have hplace : (w.add c).2.place? task = c.place? := by rw [place?, hnew]; rfl
    exact .inr ⟨by rw [place?, hbefore]; rfl, hplace ▸ Call.begins_of_isNew hc⟩
  · exact .inl (by rw [place?, hsame]; rfl)

/-- What an activity does that is neither a call nor a reader. -/
theorem turn_aside {w w' : Workbench} (hw : w.Sound) {a : Activity} (h : w.act? a = some w')
    (hcall : ∀ task, a ≠ .call task) (hreader : ∀ n, a ≠ .reader n ∧ a ≠ .lateReader n) :
    w.Turn w' (.goesOn a) := by
  have event (n : Nat) : w.event? n (.goesOn a) = none := by
    rw [event?]
    cases w.exchange? n with
    | none => rfl
    | some x =>
      cases a with
      | call task => exact absurd rfl (hcall task)
      | reader m => exact absurd rfl (hreader m).1
      | lateReader m => exact absurd rfl (hreader m).2
      | _ => rfl
  cases a with
  | call task => exact absurd rfl (hcall task)
  | reader m => exact absurd rfl (hreader m).1
  | lateReader m => exact absurd rfl (hreader m).2
  | payer n =>
    obtain ⟨s, hs, rfl⟩ := Option.map_eq_some_iff.1 h
    simp only [Session.pay?, Option.bind_eq_bind, Option.bind_eq_some_iff] at hs
    obtain ⟨l, hl, c, hc, he⟩ := hs
    cases he
    exact .calm (.setConnection hl (Reader.pay?_calm hc)) (fun _ => .inl rfl) event
  | leaver n =>
    obtain ⟨c, hc, rfl⟩ := Option.map_eq_some_iff.1 h
    obtain ⟨l, hl, hc⟩ := Option.bind_eq_some_iff.1 hc
    refine .calm (.modifyLine _ n fun l' hl' => ?_) (fun _ => .inl rfl) event
    obtain rfl : l = l' := by simpa [hl] using hl'
    unfold Connection.leave? at hc
    split at hc
    next => cases hc; constructor <;> rfl
    next => cases hc
  | watch n =>
    obtain ⟨s, hs, rfl⟩ := Option.map_eq_some_iff.1 h
    refine .calm ?_ (fun _ => .inl rfl) event
    simp only [Session.watch?, Option.bind_eq_bind, Option.bind_eq_some_iff] at hs
    obtain ⟨x, _, hs⟩ := hs
    split at hs
    next =>
      cases hs
      unfold Session.lose
      split <;> exact .of_lines rfl rfl
    next =>
      split at hs
      next => cases hs; exact .of_lines rfl rfl
      next =>
        split at hs
        next => cases hs; exact .of_lines rfl rfl
        next => cases hs
  | dispatcher =>
    obtain ⟨c, hc, rfl⟩ := Option.map_eq_some_iff.1 h
    refine .calm ?_ (fun _ => .inl rfl) event
    show w.client.session.Calm c.session
    rw [Client.session_dispatch? hc]
    exact .refl _
  | opener =>
    obtain ⟨o, e, ho, _, rfl⟩ := act?_opener h
    refine .calm (.of_offer rfl fun l hl => .inr ?_) (fun _ => .inl rfl) event
    have hl : (o.attempt e).1 = .ok l := Option.some.inj hl
    unfold Opener.attempt at hl
    split at hl
    next => exact hw.opener o ho e l hl
    next => cases hl

theorem happen?_turn {w w' : Workbench} (hw : w.Sound) {g : Happening} (h : w.happen? g = some w') :
    w.Turn w' g := by
  cases g with
  | goesOn a =>
    cases a with
    | call task => exact turn_call hw h
    | reader n => exact turn_reader (.inl rfl) h
    | lateReader n => exact turn_reader (.inr rfl) h
    | _ => exact turn_aside hw h (fun _ => nofun) fun _ => ⟨nofun, nofun⟩
  | calls c => exact turn_calls hw h
  | passes ms => cases h; exact .calm (.refl _) (fun _ => .inl rfl) fun _ => rfl
  | opens link peer process =>
    obtain ⟨_, rfl⟩ := answer?_eq_some.1 h
    refine .calm (.of_offer rfl fun l hl => .inr ?_) (fun _ => .inl rfl) fun _ => rfl
    cases hl
    exact ⟨link, peer, process, rfl⟩
  | refuses e =>
    obtain ⟨_, rfl⟩ := answer?_eq_some.1 h
    exact .calm (.of_offer rfl fun l hl => nomatch hl) (fun _ => .inl rfl) fun _ => rfl
  | streams n f =>
    cases h
    exact .calm (.modifyLine _ n fun l _ => by constructor <;> rfl) (fun _ => .inl rfl) fun _ => rfl
  | exits n e =>
    cases h
    exact .calm (.modifyLine _ n fun l _ => by constructor <;> rfl) (fun _ => .inl rfl) fun _ => rfl
  | handles handlers =>
    cases h
    exact .calm (.of_lines rfl rfl) (fun _ => .inl rfl) fun _ => rfl
  | edits f => cases h; exact .calm (.refl _) (fun _ => .inl rfl) fun _ => rfl

/-! ### What every history keeps -/

/-- Only calls and their steps change the calls, and only the opener changes itself. -/
theorem happen?_frame {w w' : Workbench} {g : Happening} (h : w.happen? g = some w')
    (hcall : ∀ task, g ≠ .goesOn (.call task)) (hcalls : ∀ c, g ≠ .calls c) :
    w'.calls = w.calls ∧ w'.returned = w.returned ∧ w'.latestTask = w.latestTask ∧
      (w'.opener = w.opener ∨ ∃ o e, w.opener = some o ∧ w'.opener = some (o.attempt e).2) := by
  cases g with
  | goesOn a =>
    cases a with
    | call task => exact absurd rfl (hcall task)
    | opener =>
      obtain ⟨o, e, ho, _, rfl⟩ := act?_opener h
      exact ⟨rfl, rfl, rfl, .inr ⟨o, e, ho, rfl⟩⟩
    | _ =>
      obtain ⟨x, _, rfl⟩ := Option.map_eq_some_iff.1 h
      exact ⟨rfl, rfl, rfl, .inl rfl⟩
  | calls c => exact absurd rfl (hcalls c)
  | opens link peer process =>
    obtain ⟨_, rfl⟩ := answer?_eq_some.1 h
    exact ⟨rfl, rfl, rfl, .inl rfl⟩
  | refuses e =>
    obtain ⟨_, rfl⟩ := answer?_eq_some.1 h
    exact ⟨rfl, rfl, rfl, .inl rfl⟩
  | _ => cases h; exact ⟨rfl, rfl, rfl, .inl rfl⟩

/-- What happens is a step of a call, a new call, or something that leaves the calls alone. -/
theorem happen?_cases {w w' : Workbench} {g : Happening} (h : w.happen? g = some w') :
    (∃ task, g = .goesOn (.call task)) ∨
      (∃ c, g = .calls c ∧ c.isNew = true ∧ w' = (w.add c).2) ∨
      (w'.calls = w.calls ∧ w'.returned = w.returned ∧ w'.latestTask = w.latestTask ∧
        (w'.opener = w.opener ∨ ∃ o e, w.opener = some o ∧ w'.opener = some (o.attempt e).2)) := by
  by_cases hcall : ∃ task, g = .goesOn (.call task)
  · exact .inl hcall
  by_cases hcalls : ∃ c, g = .calls c
  · obtain ⟨c, rfl⟩ := hcalls
    obtain ⟨hc, rfl⟩ := happen?_calls.1 h
    exact .inr (.inl ⟨c, rfl, hc, rfl⟩)
  · exact .inr (.inr (happen?_frame h (fun task e => hcall ⟨task, e⟩) fun c e => hcalls ⟨c, e⟩))

theorem Sound.happen?_opener {w w' : Workbench} (hw : w.Sound) {g : Happening}
    (h : w.happen? g = some w') {o : Opener} (ho : w'.opener = some o) : o.IsHonest := by
  rcases happen?_cases h with ⟨task, rfl⟩ | ⟨c, rfl, _, rfl⟩ | ⟨_, _, _, he | ⟨o', e, ho', he⟩⟩
  · obtain ⟨_, _, ⟨_, _, _, rfl⟩ | ⟨_, _, _, rfl⟩⟩ := act?_call h <;> exact hw.opener o ho
  · exact hw.opener o ho
  · exact hw.opener o (he ▸ ho)
  · rw [he] at ho
    cases ho
    unfold Opener.attempt
    split <;> exact hw.opener o' ho'

theorem Sound.happen?_numbered {w w' : Workbench} (hw : w.Sound) {g : Happening}
    (h : w.happen? g = some w') {task : TaskId} {c : Call} (hc : w'.calls.get? task = some c) :
    task.number ≤ w'.latestTask := by
  rcases happen?_cases h with ⟨other, rfl⟩ | ⟨c', rfl, _, rfl⟩ | ⟨hcalls, _, hlatest, _⟩
  · obtain ⟨call, hcall, ⟨_, _, _, rfl⟩ | ⟨_, _, _, rfl⟩⟩ := act?_call h
    · rw [Table.get?_set] at hc
      split at hc
      next e => exact hw.numbered task call (e ▸ hcall)
      next => exact hw.numbered task c hc
    · rw [Table.get?_erase] at hc
      split at hc
      next => cases hc
      next => exact hw.numbered task c hc
  · replace hc : (w.calls.set ⟨w.latestTask + 1⟩ c').get? task = some c := hc
    show task.number ≤ w.latestTask + 1
    rw [Table.get?_set] at hc
    split at hc
    next e => exact e ▸ Nat.le_refl _
    next => exact Nat.le_succ_of_le (hw.numbered task c hc)
  · rw [hlatest]
    exact hw.numbered task c (hcalls ▸ hc)

/-- A connection that is offered was offered before, or is new. -/
theorem Turn.offers {w w' : Workbench} {g : Happening} (t : w.Turn w' g) {l : Line}
    (h : w'.client.session.offer = some (.ok l)) :
    w.client.session.offer = some (.ok l) ∨ l.IsFresh := by
  cases t with
  | call turn _ => exact turn.offers h
  | reads _ _ _ session _ => rw [session] at h; exact .inl h
  | stops _ _ session _ => rw [session] at h; exact .inl h
  | calm hcalm _ _ => exact hcalm.offers l h

/-- A line that is there remains. -/
theorem Turn.line?_none {w w' : Workbench} {g : Happening} (t : w.Turn w' g) {n : Nat}
    (h : w'.client.session.line? n = none) : w.client.session.line? n = none := by
  cases t with
  | call turn _ => exact turn.line?_none h
  | reads _ _ _ session _ => rw [session] at h; exact line?_none_of_setConnection h
  | stops _ _ session _ => rw [session] at h; exact line?_none_of_setConnection h
  | calm hcalm _ _ => exact hcalm.line?_none h

/-- What a call is in the middle of on a line that there is not has not begun. -/
theorem Sound.turn_absent {w w' : Workbench} (hw : w.Sound) {g : Happening} (t : w.Turn w' g)
    {task : TaskId} {n : Nat} {x : Traffic} (ht : w'.place? task = some (n, x))
    (hn : w.client.session.line? n = none) : x.IsFirst := by
  cases t with
  | @call other turn others =>
    by_cases e : task = other
    · subst e
      exact turn.absent hn ht
    · exact hw.absent task n x (others task e ▸ ht) hn
  | reads _ _ _ _ places => exact hw.absent task n x (places ▸ ht) hn
  | stops _ _ _ places => exact hw.absent task n x (places ▸ ht) hn
  | calm _ places _ =>
    rcases places task with h | ⟨_, h⟩
    · exact hw.absent task n x (h ▸ ht) hn
    · exact h n x ht

/-- Every happening keeps what every history keeps. -/
theorem Sound.happen? {w w' : Workbench} (hw : w.Sound) {g : Happening}
    (h : w.happen? g = some w') : w'.Sound where
  offer l hl := ((happen?_turn hw h).offers hl).elim (hw.offer l) id
  opener _ ho := hw.happen?_opener h ho
  numbered _ _ hc := hw.happen?_numbered h hc
  absent _ _ _ ht hn := hw.turn_absent (happen?_turn hw h) ht ((happen?_turn hw h).line?_none hn)

theorem sound_after? {w₀ w : Workbench} {hs : List Happening} (h₀ : w₀.IsFresh)
    (h : w₀.after? hs = some w) : w.Sound :=
  after?_induction (P := fun _ w => w.Sound) h₀.sound
    (fun _ _ _ _ _ hw hstep => hw.happen? hstep) h

/-! ### One line -/

theorem exchange?_eq_some {w : Workbench} {n : Nat} {x : Exchange} :
    w.exchange? n = some x ↔
      ∃ l, w.client.session.line? n = some l ∧ ⟨l.connection, w.traffic? n⟩ = x :=
  Option.map_eq_some_iff

theorem exchange?_eq_none {w : Workbench} {n : Nat} :
    w.exchange? n = none ↔ w.client.session.line? n = none := by
  simp [exchange?]

theorem traffic?_eq_some {w : Workbench} {n : Nat} {task : TaskId} {t : Traffic} :
    w.traffic? n task = some t ↔ w.place? task = some (n, t) := by
  rw [traffic?, Option.bind_eq_some_iff]
  constructor
  · rintro ⟨⟨m, t'⟩, hp, h⟩
    by_cases e : m = n
    · subst e
      simp only [if_true, Option.some.injEq] at h
      rwa [← h]
    · simp [e] at h
  · intro h
    exact ⟨(n, t), h, by simp⟩

theorem traffic?_of_place {w : Workbench} {m : Nat} {task : TaskId} {t : Traffic}
    (h : w.place? task = some (m, t)) (n : Nat) :
    w.traffic? n task = if m = n then some t else none := by
  rw [traffic?, h]
  rfl

theorem traffic?_of_none {w : Workbench} {task : TaskId} (h : w.place? task = none) (n : Nat) :
    w.traffic? n task = none := by
  rw [traffic?, h]
  rfl

theorem traffic?_congr {w w' : Workbench} {task : TaskId} (h : w'.place? task = w.place? task)
    (n : Nat) : w'.traffic? n task = w.traffic? n task := by
  rw [traffic?, h]
  rfl

/-- What begins has not begun on any line. -/
theorem isFirst_of_begins {w : Workbench} {task : TaskId} (h : Begins (w.place? task)) {n : Nat}
    {t : Traffic} (ht : w.traffic? n task = some t) : t.IsFirst :=
  h n t (traffic?_eq_some.1 ht)

theorem event?_call {w : Workbench} {n : Nat} {x : Exchange} (hx : w.exchange? n = some x)
    (task : TaskId) : w.event? n (.goesOn (.call task)) = x.event? (.party task) := by
  rw [event?, hx]
  rfl

/-- The connection of a line is replaced. -/
theorem exchange?_setConnection {w w' : Workbench} {n : Nat} {l : Line} {c : Connection}
    (hl : w.client.session.line? n = some l)
    (hs : w'.client.session = w.client.session.setConnection n c) :
    w'.exchange? n = some ⟨c, w'.traffic? n⟩ := by
  rw [exchange?, hs, line?_setConnection, if_pos rfl, hl]
  rfl

/-- A step that is calm on a line, and after which at most something more is about to begin there. -/
theorem exchange_calm {w w' : Workbench} {n : Nat} {x : Exchange} (hx : w.exchange? n = some x)
    (hl : ∀ l, w.client.session.line? n = some l →
      ∃ l', w'.client.session.line? n = some l' ∧ l.connection.Calm l'.connection)
    (hp : ∀ task, w'.traffic? n task = w.traffic? n task ∨
      (w.traffic? n task = none ∧ ∀ t, w'.traffic? n task = some t → t.IsFirst)) :
    ∃ x', w'.exchange? n = some x' ∧ x.Step x' none := by
  obtain ⟨l, hline, rfl⟩ := exchange?_eq_some.1 hx
  obtain ⟨l', hline', hcalm⟩ := hl l hline
  exact ⟨_, exchange?_eq_some.2 ⟨l', hline', rfl⟩, .calm hcalm hp⟩

/-- What a call does on another line is calm on this one. -/
theorem exchange_elsewhere {w w' : Workbench} {n m : Nat} {x : Exchange} {task : TaskId} {t : Traffic}
    {c : Connection} (hx : w.exchange? n = some x) (hm : m ≠ n)
    (hs : w'.client.session = w.client.session.setConnection m c)
    (hp : w.place? task = some (m, t)) (hp' : ∀ t', w'.traffic? n task = some t' → t'.IsFirst)
    (others : ∀ other, other ≠ task → w'.place? other = w.place? other) :
    ∃ x', w'.exchange? n = some x' ∧ x.Step x' (x.event? (.party task)) := by
  have hnone : w.traffic? n task = none := by rw [traffic?_of_place hp, if_neg hm]
  have hevent : x.event? (.party task) = none := by
    obtain ⟨l, _, rfl⟩ := exchange?_eq_some.1 hx
    exact Exchange.event?_party_of_none hnone
  rw [hevent]
  refine exchange_calm hx (fun l hl => ⟨l, ?_, .refl _⟩) fun other => ?_
  · rw [hs, line?_setConnection, if_neg hm, hl]
  · by_cases e : other = task
    · subst e
      exact .inr ⟨hnone, hp'⟩
    · exact .inl (traffic?_congr (others other e) n)

/-- A step of a call, seen from one line. -/
theorem Turn.exchange_call {w w' : Workbench} {task : TaskId}
    (turn : w.client.session.Turn w.client.now (w.place? task) w'.client.session (w'.place? task))
    (others : ∀ other, other ≠ task → w'.place? other = w.place? other) {n : Nat} {x : Exchange}
    (hx : w.exchange? n = some x) :
    ∃ x', w'.exchange? n = some x' ∧ x.Step x' (x.event? (.party task)) := by
  obtain ⟨l, hl, rfl⟩ := exchange?_eq_some.1 hx
  have others' (other : TaskId) (h : other ≠ task) : w'.traffic? n other = w.traffic? n other :=
    traffic?_congr (others other h) n
  generalize hp : w.place? task = p at turn
  generalize hp' : w'.place? task = p' at turn
  generalize hs : w'.client.session = s' at turn
  cases turn with
  | @asks m l' q p p' c hl' h =>
    by_cases hm : m = n
    · subst hm
      obtain rfl : l = l' := by simpa [hl] using hl'
      exact ⟨_, exchange?_setConnection hl hs,
        .asks (by simpa using traffic?_of_place hp m) h (by simpa using traffic?_of_place hp' m) others'⟩
    · refine exchange_elsewhere hx hm hs hp (fun t ht => ?_) others
      rw [traffic?_of_place hp', if_neg hm] at ht
      cases ht
  | @asked m l' q p c r t hl' h ht =>
    have hfirst (t') (h : w'.traffic? n task = some t') : t'.IsFirst :=
      isFirst_of_begins (hp' ▸ ht) h
    by_cases hm : m = n
    · subst hm
      obtain rfl : l = l' := by simpa [hl] using hl'
      exact ⟨_, exchange?_setConnection hl hs,
        .asked (by simpa using traffic?_of_place hp m) h hfirst others'⟩
    · exact exchange_elsewhere hx hm hs hp hfirst others
  | @closes m l' reason p p' c hl' h =>
    by_cases hm : m = n
    · subst hm
      obtain rfl : l = l' := by simpa [hl] using hl'
      exact ⟨_, exchange?_setConnection hl hs,
        .closes (by simpa using traffic?_of_place hp m) h (by simpa using traffic?_of_place hp' m)
          others'⟩
    · refine exchange_elsewhere hx hm hs hp (fun t ht => ?_) others
      rw [traffic?_of_place hp', if_neg hm] at ht
      cases ht
  | @closed m l' reason p c t hl' h ht =>
    have hfirst (t') (h : w'.traffic? n task = some t') : t'.IsFirst :=
      isFirst_of_begins (hp' ▸ ht) h
    by_cases hm : m = n
    · subst hm
      obtain rfl : l = l' := by simpa [hl] using hl'
      exact ⟨_, exchange?_setConnection hl hs,
        .closed (by simpa using traffic?_of_place hp m) h hfirst others'⟩
    · exact exchange_elsewhere hx hm hs hp hfirst others
  | aside hcalm ht =>
    have hnone : w.traffic? n task = none := traffic?_of_none hp n
    rw [Exchange.event?_party_of_none hnone]
    refine exchange_calm hx (fun l hl => hs ▸ hcalm.stays n l hl) fun other => ?_
    by_cases e : other = task
    · subst e
      exact .inr ⟨hnone, fun t h => isFirst_of_begins (hp' ▸ ht) h⟩
    · exact .inl (others' other e)

/-- A step of a reader, seen from one line: its own, or another. -/
theorem exchange_reader {w w' : Workbench} {n m : Nat} {x : Exchange} {l : Line} {c : Connection}
    {e : Option Exchange.Event} (hx : w.exchange? n = some x)
    (hl : w.client.session.line? m = some l)
    (hs : w'.client.session = w.client.session.setConnection m c) (places : w'.place? = w.place?)
    (own : ∀ x', m = n → x.connection = l.connection → x'.connection = c →
      x'.parties = x.parties → x.Step x' e) (other : m ≠ n → e = none) :
    ∃ x', w'.exchange? n = some x' ∧ x.Step x' e := by
  have parties : w'.traffic? n = w.traffic? n := funext fun task => traffic?_congr (by rw [places]) n
  by_cases hm : m = n
  · subst hm
    obtain ⟨l', hl', rfl⟩ := exchange?_eq_some.1 hx
    obtain rfl : l = l' := by simpa [hl] using hl'
    exact ⟨_, exchange?_setConnection hl hs, own _ rfl rfl rfl parties⟩
  · rw [other hm]
    refine exchange_calm hx (fun l hl => ⟨l, ?_, .refl _⟩) fun task => .inl (by rw [parties])
    rw [hs, line?_setConnection, if_neg hm, hl]

/-- **What a happening is on one line.** -/
theorem Turn.exchange {w w' : Workbench} {g : Happening} (t : w.Turn w' g) {n : Nat} {x : Exchange}
    (hx : w.exchange? n = some x) : ∃ x', w'.exchange? n = some x' ∧ x.Step x' (w.event? n g) := by
  cases t with
  | call turn others =>
    rw [event?_call hx]
    exact exchange_call turn others hx
  | @reads m a l handlers c signals hl ha h session places =>
    refine exchange_reader hx hl session places (fun x' hm hc hc' hp => ?_) fun hm => ?_
    · have he : w.event? n (.goesOn a) = x.event? .reader := by
        rw [event?, hx]
        rcases ha with ⟨rfl, ha⟩ | rfl
        · simp [hm, hc, ha]
        · simp [hm]
      rw [he]
      exact .reads (by rw [hc, h, hc']) hp
    · rw [event?, hx]
      rcases ha with ⟨rfl, _⟩ | rfl <;> simp [hm]
  | @stops m l c hl h session places =>
    have he (hm : m = n) (hc : x.connection = l.connection) : w.event? n (.goesOn (.reader m)) = none := by
      have := (Reader.stop?_eq h).1
      rw [event?, hx]
      simp [hc, this]
    refine exchange_reader hx hl session places (fun x' hm hc hc' hp => ?_) fun hm => ?_
    · rw [he hm hc]
      exact .stops (by rw [hc, h, hc']) hp
    · rw [event?, hx]
      simp [hm]
  | calm hcalm places event =>
    rw [event]
    refine exchange_calm hx (hcalm.stays n) fun task => ?_
    rcases places task with h | ⟨h, hb⟩
    · exact .inl (traffic?_congr h n)
    · exact .inr ⟨traffic?_of_none h n, fun t ht => isFirst_of_begins hb ht⟩

/-- A line that comes is a new one. -/
theorem Turn.comes {w w' : Workbench} {g : Happening} (t : w.Turn w' g) {n : Nat} {l : Line}
    (hn : w.client.session.line? n = none) (hl : w'.client.session.line? n = some l) : l.IsFresh := by
  cases t with
  | call turn _ => exact turn.comes hn hl
  | reads _ _ _ session _ => rw [session] at hl; exact absurd hl (not_line?_setConnection hn)
  | stops _ _ session _ => rw [session] at hl; exact absurd hl (not_line?_setConnection hn)
  | calm hcalm _ _ => exact hcalm.comes n l hn hl

/-- A new line has a fresh exchange if nothing has begun on it. -/
theorem exchange_isFresh {w : Workbench} {n : Nat} {x : Exchange} (hx : w.exchange? n = some x)
    (hl : ∀ l, w.client.session.line? n = some l → l.IsFresh)
    (hp : ∀ task t, w.place? task = some (n, t) → t.IsFirst) : x.IsFresh := by
  obtain ⟨l, hline, rfl⟩ := exchange?_eq_some.1 hx
  obtain ⟨link, peer, process, rfl⟩ := hl l hline
  exact ⟨⟨_, rfl⟩, fun task t ht => hp task t (traffic?_eq_some.1 ht)⟩

/-- **What is true of a fresh exchange, and kept by every step of an exchange, is true of every line
after every history.**  The events so far can be spoken about. -/
theorem exchange_induction {P : List Exchange.Event → Exchange → Prop}
    (fresh : ∀ x, x.IsFresh → P [] x)
    (step : ∀ events x x' e, P events x → x.Step x' e → P (events ++ e.toList) x')
    {w₀ w : Workbench} {hs : List Happening} (h₀ : w₀.IsFresh) (h : w₀.after? hs = some w)
    {n : Nat} {x : Exchange} (hx : w.exchange? n = some x) : P (w₀.trace n hs) x := by
  refine (after?_induction (P := fun hs w =>
    (w.exchange? n = none → w₀.trace n hs = []) ∧ ∀ x, w.exchange? n = some x → P (w₀.trace n hs) x)
    ⟨fun _ => rfl, fun x hx => ?_⟩ (fun hs g w w' hw ih hstep => ?_) h).2 x hx
  · refine fresh x (exchange_isFresh hx (fun l hl => ?_) fun task t ht => ?_)
    · exact h₀.lines l (List.mem_of_getElem? hl)
    · rw [place?, h₀.calls] at ht
      cases ht
  · have sound := sound_after? h₀ hw
    have turn := happen?_turn sound hstep
    rw [trace_concat hw]
    cases hy : w.exchange? n with
    | none =>
      have hnone := exchange?_eq_none.1 hy
      have hevent : w.event? n g = none := by
        unfold event?
        split <;> simp [hy]
      rw [ih.1 hy, hevent]
      refine ⟨fun _ => rfl, fun x hx => fresh x (exchange_isFresh hx (fun l hl => ?_) ?_)⟩
      · exact turn.comes hnone hl
      · exact fun task t ht => sound.turn_absent turn ht hnone
    | some y =>
      obtain ⟨y', hy', hstep'⟩ := turn.exchange hy
      refine ⟨fun hnone => ?_, fun x hx => ?_⟩
      · rw [hy'] at hnone
        cases hnone
      · obtain rfl : y' = x := by simpa [hy'] using hx
        exact step _ _ _ _ (ih.2 y hy) hstep'

/-- A call that cannot take a step on a line waits for the answer to its request there. -/
theorem waits_of_act? {w : Workbench} (hw : w.Sound) {task : TaskId} {n : Nat} {t : Traffic} {l : Line}
    (hp : w.place? task = some (n, t)) (hl : w.client.session.line? n = some l)
    (h : w.act? (.call task) = none) :
    ∃ q p, t = .asks p ∧ RequestPoint.step q w.client.now l.connection p = .waits := by
  obtain ⟨call, hcall, hplace⟩ := Option.bind_eq_some_iff.1 hp
  have turn := call.step_turns task w.client hw.offer
  rw [act?, hcall] at h
  simp only at h
  split at h
  next hstep =>
    rw [hstep, hplace] at turn
    exact turn n t l rfl hl
  next => cases h
  next => cases h

end Workbench

end LanguageClient
