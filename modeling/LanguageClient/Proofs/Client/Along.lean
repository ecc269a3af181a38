import LanguageClient.Proofs.Client.Traffic
import LanguageClient.Proofs.Session.Along

/-!
# What becomes of every connection of a workbench

A relation between a connection and what is made of it that holds of every access by a call holds along
whatever happens but the steps of readers and of who writes the answers to the server.

* `Connection.Abides` — the accesses by calls: those by which a connection begins, asks and ends, and those
  by which the server is told about documents.
* `Call.byHand?` — what a call writes by hand; `happen?_byHand` — a call goes on with it.
* `Call.step_along` — the step of any call, if what it writes by hand is in the relation.
* `act?_beside` — what goes on by itself beside calls, readers and answers.
* **`happen?_along`** — whatever happens beside readers and answers.
-/

namespace LanguageClient

open Session

/-- The relation is reflexive and holds of every access by a call, unless that writes by hand. -/
structure Connection.Abides (R : Connection → Connection → Prop) : Prop extends Connection.Carried R where
  syncs : ∀ task uri text c (p : SyncPoint), (p.step task uri text c).All (R c)
  forgets : ∀ task uri c (p : ForgetPoint), (p.step task uri c).All (R c)

/-! ## By hand -/

namespace Call

/-- What a call writes by hand. -/
def byHand? : Call → Option Message
  | notify m _ => some m
  | _ => none

/-- It goes on being the same. -/
theorem step_byHand (task : TaskId) (c : Client) (call : Call) :
    (call.step task c).Leads (fun _ call' => call'.byHand? = call.byHand?) fun _ _ => True := by
  have last {π α : Type} (p : Progress Client π α) (wrap : π → Call) {m : Option Message}
      (hw : ∀ x, (wrap x).byHand? = m) (result : α → CallResult) :
      (p.last wrap result).Leads (fun _ call' => call'.byHand? = m) fun _ _ => True :=
    p.leads_true.last (fun _ x _ => hw x) fun _ _ _ => trivial
  cases call with
  | lifecycle call p => exact last _ (lifecycle call) (fun _ => rfl) _
  | request q p => exact last _ (request q) (fun _ => rfl) _
  | notify m p => exact last _ (notify m) (fun _ => rfl) _
  | sync uri text p => exact last _ (sync uri text) (fun _ => rfl) _
  | closeDocument uri p => exact last _ (closeDocument uri) (fun _ => rfl) _
  | handshake n q p => exact last _ (handshake n q) (fun _ => rfl) _
  | shutdown n q p => exact last _ (shutdown n q) (fun _ => rfl) _
  | close n reason p => exact last _ (close n reason) (fun _ => rfl) _
  | run kind reporting p => exact last _ (run kind reporting) (fun _ => rfl) _
  | startUp p =>
    cases p with
    | finding => rw [step]; split <;> trivial
    | starting endpoint p => exact last _ (fun p => startUp (.starting endpoint p)) (fun _ => rfl) _
  | restart p => rw [step]; split <;> trivial
  | openFile path p =>
    cases p with
    | opening => rw [step]; split <;> trivial
    | showing uri => rw [step]; split <;> trivial

end Call

/-! ## Calls -/

variable {R : Connection → Connection → Prop}

theorem Client.onSession_along {π α : Type} {c : Client} {p : Progress Session π α}
    (h : p.All (c.session.Along R)) : (c.onSession p).All fun c' => c.session.Along R c'.session := by
  rw [Client.onSession, Progress.all_onState]
  exact h

theorem ActionPoint.step_along (h : Connection.Abides R) (task : TaskId) (kind : ActionKind) (c : Client)
    (p : ActionPoint) : (p.step task kind c).All fun c' => c.session.Along R c'.session := by
  have still : c.session.Along R c.session := .refl h.refl _
  cases p with
  | picking => rw [step]; split <;> exact still
  | saving editor => rw [step]; split <;> exact still
  | writing editor path text => rw [step]; split <;> exact still
  | saved editor => exact still
  | reading editor => exact still
  | syncing editor text p =>
    have along := Client.onSession_along (p.step_along h.refl .beginning c.session fun p x =>
      h.syncs task editor.uri text x p)
    rw [step]
    split
    next => trivial
    next he => rw [he] at along; exact along
    next he => rw [he] at along; exact along
    next he => rw [he] at along; exact along
  | querying editor => exact still
  | asking editor q p =>
    have along := Client.onSession_along (p.step_along h.refl .beginning c.session fun p x =>
      h.asks q c.now x p)
    rw [step]
    split
    next => trivial
    next he => rw [he] at along; exact along
    next he =>
      rw [he] at along
      split <;> exact along
  | routing editor outcome =>
    show c.session.Along R (c.route editor outcome).session
    rw [Client.session_route]
    exact still

theorem RunPoint.step_along (h : Connection.Abides R) (task : TaskId) (kind : ActionKind)
    (reporting : Bool) (c : Client) (p : RunPoint) :
    (p.step task kind reporting c).All fun c' => c.session.Along R c'.session := by
  have still : c.session.Along R c.session := .refl h.refl _
  cases p with
  | flushing => exact still
  | waiting =>
    rw [step]
    split
    next => exact still
    next => trivial
  | acting p =>
    have along := p.step_along h task kind c
    rw [step]
    split
    next => trivial
    next he => rw [he] at along; exact along
    next c' r he =>
      rw [he] at along
      cases reporting with
      | true => exact along
      | false => cases r <;> exact along
  | flushingAfter r => exact still
  | waitingAfter r =>
    rw [step]
    split
    next => exact still
    next => trivial

/-- **The step of any call**, if what it writes by hand is in the relation. -/
theorem Call.step_along (h : Connection.Abides R) (task : TaskId) (c : Client) {call : Call}
    (byHand : ∀ m, call.byHand? = some m → ∀ x, R x (Connection.tryWrite x m).1) :
    (call.step task c).All fun c' => c.session.Along R c'.session := by
  have last {π α : Type} {p : Progress Session π α} (hp : p.All (c.session.Along R)) (wrap : π → Call)
      (result : α → CallResult) :
      ((c.onSession p).last wrap result).All fun c' => c.session.Along R c'.session := by
    rw [Progress.all_last]
    exact Client.onSession_along hp
  have still : c.session.Along R c.session := .refl h.refl _
  cases call with
  | lifecycle call p => exact last (p.step_along h.toCarried task call c.now c.session) _ _
  | request q p =>
    exact last (p.step_along h.refl .beginning c.session fun p x => h.asks q c.now x p) _ _
  | notify m p =>
    refine last (p.step_along h.refl () c.session fun _ x => ?_) _ _
    exact byHand m rfl x
  | sync uri text p =>
    exact last (p.step_along h.refl .beginning c.session fun p x => h.syncs task uri text x p) _ _
  | closeDocument uri p =>
    exact last (p.step_along h.refl .beginning c.session fun p x => h.forgets task uri x p) _ _
  | handshake n q p =>
    exact last (c.session.onLine_along h.refl n fun x => p.step_carried h.toCarried q c.now x) _ _
  | shutdown n q p =>
    exact last (c.session.onLine_along h.refl n fun x => p.step_carried h.toCarried q c.now x) _ _
  | close n reason p =>
    exact last (c.session.onLine_along h.refl n fun x => h.closes reason x p) _ _
  | run kind reporting p =>
    rw [step, Progress.all_last]
    exact p.step_along h task kind reporting c
  | startUp p =>
    cases p with
    | finding =>
      rw [step]
      split
      next e _ =>
        refine .of_lines h.refl ?_
        unfold Client.announce
        split <;> rfl
      next => exact still
    | starting endpoint p => exact last (p.step_along h.toCarried task (.start endpoint) c.now c.session) _ _
  | restart p =>
    have along := Client.onSession_along (p.step_along h.toCarried task .restart c.now c.session)
    rw [step]
    split
    next => trivial
    next he => rw [he] at along; exact along
    next he => rw [he] at along; exact along
    next he => rw [he] at along; exact along
  | openFile path p =>
    cases p with
    | opening => rw [step]; split <;> exact still
    | showing uri => rw [step]; split <;> exact still

namespace Workbench

variable {w w' : Workbench}

/-- What a call of a workbench writes by hand it did before, or it is a new call. -/
theorem happen?_byHand (sound : w.Sound) {g : Happening} (h : w.happen? g = some w') {task : TaskId}
    {call : Call} (hcall : w'.calls.get? task = some call) :
    (∃ before, w.calls.get? task = some before ∧ call.byHand? = before.byHand?) ∨ g = .calls call := by
  rcases happen?_cases h with ⟨other, rfl⟩ | ⟨new, rfl, _, rfl⟩ | ⟨hcalls, -, -, -⟩
  · obtain ⟨before, hbefore, hs⟩ := act?_call h
    have same := before.step_byHand other w.client
    rcases hs with ⟨client, after, hstep, rfl⟩ | ⟨client, r, hstep, rfl⟩
    · rw [Table.get?_set] at hcall
      split at hcall
      next e =>
        cases hcall
        rw [hstep] at same
        exact .inl ⟨before, e ▸ hbefore, same⟩
      next => exact .inl ⟨call, hcall, rfl⟩
    · rw [Table.get?_erase] at hcall
      split at hcall
      next => cases hcall
      next => exact .inl ⟨call, hcall, rfl⟩
  · rcases sound.get?_add new task with ⟨_, hnew⟩ | hsame
    · rw [hnew] at hcall
      cases hcall
      exact .inr rfl
    · exact .inl ⟨call, hsame ▸ hcall, rfl⟩
  · exact .inl ⟨call, hcalls ▸ hcall, rfl⟩

/-! ## Along whatever happens -/

/-- What goes on by itself beside calls, readers and answers. -/
theorem act?_beside (refl : ∀ c, R c c) (leaves : ∀ c c', Connection.leave? c = some c' → R c c')
    {a : Activity} (h : w.act? a = some w') (hcall : ∀ task, a ≠ .call task)
    (hline : ∀ n, a ≠ .reader n ∧ a ≠ .lateReader n ∧ a ≠ .payer n) :
    w.client.session.Along R w'.client.session := by
  cases a with
  | call task => exact absurd rfl (hcall task)
  | reader n => exact absurd rfl (hline n).1
  | lateReader n => exact absurd rfl (hline n).2.1
  | payer n => exact absurd rfl (hline n).2.2
  | leaver n =>
    obtain ⟨c, hc, rfl⟩ := Option.map_eq_some_iff.1 h
    obtain ⟨l, hl, hc⟩ := Option.bind_eq_some_iff.1 hc
    exact .setConnection refl hl (leaves _ _ hc)
  | watch n =>
    obtain ⟨s, hs, rfl⟩ := Option.map_eq_some_iff.1 h
    simp only [Session.watch?, Option.bind_eq_bind, Option.bind_eq_some_iff] at hs
    obtain ⟨x, _, hs⟩ := hs
    split at hs
    next =>
      cases hs
      unfold Session.lose
      split <;> exact .of_lines refl rfl
    next =>
      split at hs
      next => cases hs; exact .of_lines refl rfl
      next =>
        split at hs
        next => cases hs; exact .of_lines refl rfl
        next => cases hs
  | dispatcher =>
    obtain ⟨c, hc, rfl⟩ := Option.map_eq_some_iff.1 h
    show w.client.session.Along R c.session
    rw [Client.session_dispatch? hc]
    exact .refl refl _
  | opener =>
    obtain ⟨o, e, _, _, rfl⟩ := act?_opener h
    exact .of_lines refl rfl

/-- **Whatever happens beside readers and answers.** -/
theorem happen?_along (abides : Connection.Abides R)
    (streams : ∀ (c : Connection) (f : Link → Link),
      R c { c with link := { f c.link with sent := c.link.sent } })
    (leaves : ∀ c c', Connection.leave? c = some c' → R c c') {g : Happening}
    (h : w.happen? g = some w')
    (byHand : ∀ task call m, w.calls.get? task = some call → call.byHand? = some m →
      ∀ x, R x (Connection.tryWrite x m).1)
    (hline : ∀ n, g ≠ .goesOn (.reader n) ∧ g ≠ .goesOn (.lateReader n) ∧ g ≠ .goesOn (.payer n)) :
    w.client.session.Along R w'.client.session := by
  cases g with
  | goesOn a =>
    by_cases ha : ∃ task, a = .call task
    · obtain ⟨task, rfl⟩ := ha
      obtain ⟨call, hcall, hs⟩ := act?_call h
      have along := call.step_along abides task w.client fun m => byHand task call m hcall
      rcases hs with ⟨client, call', hstep, rfl⟩ | ⟨client, r, hstep, rfl⟩ <;>
      · rw [hstep] at along
        exact along
    · refine act?_beside abides.refl leaves h (fun task e => ha ⟨task, e⟩) fun n => ?_
      have := hline n
      exact ⟨fun e => this.1 (e ▸ rfl), fun e => this.2.1 (e ▸ rfl), fun e => this.2.2 (e ▸ rfl)⟩
  | calls c =>
    obtain ⟨_, rfl⟩ := happen?_calls.1 h
    exact .refl abides.refl _
  | streams n f => cases h; exact .modifyLine abides.refl _ n fun l _ => streams l.connection f
  | exits n e => cases h; exact .modifyLine abides.refl _ n fun l _ => abides.refl _
  | opens link peer process =>
    obtain ⟨_, rfl⟩ := answer?_eq_some.1 h
    exact .of_lines abides.refl rfl
  | refuses e =>
    obtain ⟨_, rfl⟩ := answer?_eq_some.1 h
    exact .of_lines abides.refl rfl
  | _ => cases h; exact .of_lines abides.refl rfl

end Workbench

end LanguageClient
