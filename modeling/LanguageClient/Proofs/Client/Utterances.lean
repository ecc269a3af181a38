import LanguageClient.Proofs.Client.Acting
import LanguageClient.Proofs.Client.ClosedDocuments

/-!
# What an action says

What a call says is read off the lines: the messages that are there after a step of it and were not
there before (`Workbench.utters`), one step after another along a history (`Workbench.said`).

An action says one thing at a time, and what it says next can be seen from where it is
(`RunPoint.saying?`).  It begins with what has to be told about its document; then it makes its
request, and then it is *spent*: it says nothing more.

* `Session.Utters` — what a step adds to the lines; **`RunPoint.step_advances`** — it is what can be seen
  beforehand.
* **`hasSaid_after?`** — until it is spent, an action has told the active line about its document and
  said nothing else.
* **`utters_nothing_after?`** — once it is spent, it says nothing.
-/

namespace LanguageClient

open Session

/-! ## Lines -/

/-- What has been written on a line. -/
def Session.sent (s : Session) (n : Nat) : List Message :=
  ((s.line? n).map (·.connection.link.sent)).getD []

/-- Nothing is added to the lines, or one message that can be seen beforehand. -/
def Session.Utters (s s' : Session) (saying : Option (Nat × Message)) : Prop :=
  (∀ m, s'.sent m = s.sent m) ∨
    ∃ n x, saying = some (n, x) ∧ ∀ m, s'.sent m = s.sent m ++ if n = m then [x] else []

theorem Session.Utters.refl (s : Session) (saying : Option (Nat × Message)) : s.Utters s saying :=
  .inl fun _ => rfl

/-- A connection says nothing, or one message that can be seen beforehand. -/
def Connection.Utters (c c' : Connection) (saying : Option Message) : Prop :=
  c'.link.sent = c.link.sent ∨ ∃ x, saying = some x ∧ c'.link.sent = c.link.sent ++ [x]

theorem Connection.utters_write {c c' : Connection} {m : Message} (h : c.write m = .ok c') :
    c.Utters c' (some m) := by
  obtain ⟨rfl, _⟩ := write_eq h
  exact .inr ⟨m, rfl, rfl⟩

theorem Session.Utters.setConnection {s : Session} {n : Nat} {l : Line} {c : Connection}
    {saying : Option Message} (hl : s.line? n = some l) (h : l.connection.Utters c saying) :
    s.Utters (s.setConnection n c) (saying.map (n, ·)) := by
  have here : (s.setConnection n c).sent n = c.link.sent := by
    rw [sent, line?_setConnection, if_pos rfl, hl]
    rfl
  have before : s.sent n = l.connection.link.sent := by
    rw [sent, hl]
    rfl
  have others (m : Nat) (hm : n ≠ m) : (s.setConnection n c).sent m = s.sent m := by
    rw [sent, line?_setConnection, if_neg hm]
    rfl
  rcases h with h | ⟨x, rfl, h⟩
  · refine .inl fun m => ?_
    by_cases hm : n = m
    · subst hm
      rw [here, before, h]
    · exact others m hm
  · refine .inr ⟨n, x, rfl, fun m => ?_⟩
    by_cases hm : n = m
    · subst hm
      rw [here, before, h, if_pos rfl]
    · rw [others m hm, if_neg hm, List.append_nil]

/-! ## Points -/

/-- The request has been written, or will not be any more. -/
def RequestPoint.IsPast : RequestPoint → Prop
  | waiting .. | withdrawing .. => True
  | _ => False

/-- What a request is about to write. -/
def RequestPoint.message? (q : Query) : RequestPoint → Option Message
  | writing id _ => some (.request (q.toRequest id))
  | _ => none

namespace ActionPoint

/-- What an action is about to say, and on which line. -/
def saying? : ActionPoint → Option (Nat × Message)
  | syncing e text (.on n p) => (Telling.syncs e.uri text p).message?.map (n, ·)
  | asking _ q (.on n p) => (p.message? q).map (n, ·)
  | _ => none

/-- An action that will say nothing more. -/
def IsSpent : ActionPoint → Prop
  | asking _ _ (.on _ p) => p.IsPast
  | routing _ _ => True
  | _ => False

end ActionPoint

namespace RunPoint

def saying? : RunPoint → Option (Nat × Message)
  | acting p => p.saying?
  | _ => none

def IsSpent : RunPoint → Prop
  | acting p => p.IsSpent
  | flushingAfter _ | waitingAfter _ => True
  | _ => False

/-- The editor that an action works on. -/
def editor? : RunPoint → Option EditorRef
  | acting p => p.editor?
  | _ => none

end RunPoint

/-- What a step of an action comes to: it says what could be seen, it is spent if it was or if it was
about to make its request, and it works on the same editor. -/
structure RunPoint.Advances (p : RunPoint) (c c' : Client) (p' : RunPoint) : Prop where
  utters : c.session.Utters c'.session p.saying?
  spent : p.IsSpent ∨ (∃ n r, p.saying? = some (n, .request r)) → p'.IsSpent
  editor : ¬ p'.IsSpent → ∀ e, p.editor? = some e → p'.editor? = some e

theorem SyncPoint.step_utters (task : TaskId) (uri text : String) (c : Connection) (p : SyncPoint) :
    (p.step task uri text c).All fun c' => c.Utters c' (Telling.syncs uri text p).message? := by
  cases p with
  | looking =>
    rw [step]
    split
    next =>
      split
      next => exact .inl rfl
      next => split <;> exact .inl rfl
    next => trivial
  | changing version =>
    rw [step, Connection.tryWrite]
    cases hw : c.write (DocumentMessage.changed uri version text) with
    | ok c' => exact Connection.utters_write hw
    | error e => exact .inl rfl
  | opening =>
    rw [step]
    split
    next hw => exact Connection.utters_write hw
    next => exact .inl rfl
  | _ => exact .inl rfl

/-- What is told about a document is no request. -/
theorem Telling.message?_ne_request {uri text : String} {p : SyncPoint} {r : Request} :
    (Telling.syncs uri text p).message? ≠ some (.request r) := by
  cases p <;> nofun

/-- What is told about a document is about it. -/
theorem Telling.about_of_message? {uri text : String} {p : SyncPoint} {m : Message}
    (h : (Telling.syncs uri text p).message? = some m) :
    ∃ note, DocumentNote.ofMessage? m = some note ∧ note.uri = uri := by
  cases p with
  | changing version =>
    cases h
    exact ⟨_, DocumentNote.ofMessage?_changed .., rfl⟩
  | opening =>
    cases h
    exact ⟨_, DocumentNote.ofMessage?_opened .., rfl⟩
  | _ => cases h

/-- A step of a request: it says what it was about to write, and is past it then. -/
theorem RequestPoint.step_utters (q : Query) (now : Nat) (c : Connection) (p : RequestPoint) :
    (p.step q now c).Leads
      (fun c' p' => c.Utters c' (p.message? q) ∧ (p.IsPast ∨ (p.message? q).isSome → p'.IsPast))
      fun c' _ => c.Utters c' (p.message? q) := by
  cases hstep : p.step q now c with
  | waits => trivial
  | goesOn c' p' =>
    cases goes_of_step hstep with
    | begins => exact ⟨.inl rfl, by rintro (h | h) <;> cases h⟩
    | numbers => exact ⟨.inl rfl, by rintro (h | h) <;> cases h⟩
    | registers => exact ⟨.inl rfl, by rintro (h | h) <;> cases h⟩
    | writes h => exact ⟨Connection.utters_write h, fun _ => trivial⟩
    | refused => exact ⟨.inl rfl, fun _ => trivial⟩
    | expires => exact ⟨.inl rfl, fun _ => trivial⟩
  | ends c' r =>
    cases ends_of_step hstep <;> exact .inl rfl

/-- Nothing is said, and the action goes on with the same editor. -/
theorem RunPoint.Advances.aside {c c' : Client} {p p' : RunPoint} (session : c'.session = c.session)
    (hp : ¬ p.IsSpent) (saying : p.saying? = none)
    (editor : ∀ e, p.editor? = some e → p'.editor? = some e) : p.Advances c c' p' where
  utters := session ▸ .refl _ _
  spent h := by
    rcases h with h | ⟨n, r, h⟩
    · exact absurd h hp
    · rw [saying] at h
      cases h
  editor _ := editor

namespace ActionPoint

theorem syncing_advances (task : TaskId) (kind : ActionKind) (c : Client) (e : EditorRef)
    (text : String) (p : Via SyncPoint) :
    ((syncing e text p).step task kind c).Leads
      (fun c' p' => (RunPoint.acting (syncing e text p)).Advances c c' (.acting p'))
      fun c' _ => c.session.Utters c'.session (syncing e text p).saying? := by
  have quiet (n : Nat) (r : Request) : (syncing e text p).saying? ≠ some (n, .request r) := by
    cases p with
    | on m q =>
      intro h
      obtain ⟨m', hm, he⟩ := Option.map_eq_some_iff.1 h
      cases he
      exact Telling.message?_ne_request hm
    | _ => nofun
  have advances {c' : Client} {p' : ActionPoint} (hp : p'.editor? = some e)
      (utters : c.session.Utters c'.session (syncing e text p).saying?) :
      (RunPoint.acting (syncing e text p)).Advances c c' (.acting p') := by
    refine ⟨utters, fun h => ?_, fun _ _ he => hp.trans he⟩
    rcases h with h | ⟨n, r, h⟩
    · exact h.elim
    · exact absurd h (quiet n r)
  rw [step]
  cases hvia : p.step .beginning (fun p x => p.step task e.uri text x) c.session with
  | waits => trivial
  | goesOn s p' =>
    refine advances rfl ?_
    rcases Via.step_goesOn hvia with ⟨-, rfl, _⟩ | ⟨seen, n, -, rfl, _⟩ |
      ⟨n, q, l, x, q', rfl, hl, hrun, rfl, rfl⟩
    · exact .refl _ _
    · exact .refl _ _
    · have utters := q.step_utters task e.uri text l.connection
      rw [hrun] at utters
      exact .setConnection hl utters
  | ends s r =>
    have utters : c.session.Utters s (syncing e text p).saying? := by
      rcases Via.step_ends hvia with ⟨-, rfl, _⟩ | ⟨n, q, l, x, rfl, hl, hrun, rfl⟩
      · exact .refl _ _
      · have utters := q.step_utters task e.uri text l.connection
        rw [hrun] at utters
        exact .setConnection hl utters
    cases r with
    | ok r => exact advances rfl utters
    | error e => exact utters

theorem asking_advances (task : TaskId) (kind : ActionKind) (c : Client) (e : EditorRef) (q : Query)
    (p : Via RequestPoint) :
    ((asking e q p).step task kind c).Leads
      (fun c' p' => (RunPoint.acting (asking e q p)).Advances c c' (.acting p'))
      fun c' _ => c.session.Utters c'.session (asking e q p).saying? := by
  rw [step]
  cases hvia : p.step .beginning (fun p x => p.step q c.now x) c.session with
  | waits => trivial
  | goesOn s p' =>
    rcases Via.step_goesOn hvia with ⟨rfl, rfl, _⟩ | ⟨seen, n, rfl, rfl, _⟩ |
      ⟨n, r, l, x, r', rfl, hl, hrun, rfl, rfl⟩
    · exact .aside rfl (fun h => h) rfl fun _ h => h
    · exact .aside rfl (fun h => h) rfl fun _ h => h
    · have utters := r.step_utters q c.now l.connection
      rw [hrun] at utters
      refine ⟨.setConnection hl utters.1, fun h => utters.2 (h.imp_right ?_), fun _ _ h => h⟩
      rintro ⟨m, request, hm⟩
      exact Option.isSome_iff_exists.2 ((Option.map_eq_some_iff.1 hm).imp fun _ h => h.1)
  | ends s r =>
    have utters : c.session.Utters s (asking e q p).saying? := by
      rcases Via.step_ends hvia with ⟨-, rfl, _⟩ | ⟨n, r, l, x, rfl, hl, hrun, rfl⟩
      · exact .refl _ _
      · have utters := r.step_utters q c.now l.connection
        rw [hrun] at utters
        exact .setConnection hl utters
    simp only [Client.onSession, Progress.onState]
    split
    next => exact utters
    next => exact utters
    next => exact ⟨utters, fun _ => trivial, fun h => absurd trivial h⟩

theorem step_advances (task : TaskId) (kind : ActionKind) (c : Client) (p : ActionPoint) :
    (p.step task kind c).Leads (fun c' p' => (RunPoint.acting p).Advances c c' (.acting p'))
      fun c' _ => c.session.Utters c'.session p.saying? := by
  cases p with
  | picking =>
    rw [step]
    split
    next => exact .refl _ _
    next => exact .aside rfl (fun h => h) rfl (by rintro _ ⟨⟩)
  | saving e =>
    rw [step]
    split
    next => exact .refl _ _
    next => exact .aside rfl (fun h => h) rfl fun _ h => h
    next => exact .aside rfl (fun h => h) rfl fun _ h => h
  | writing e path text =>
    rw [step]
    split
    next => exact .refl _ _
    next => exact .aside rfl (fun h => h) rfl fun _ h => h
  | saved e => exact .aside rfl (fun h => h) rfl fun _ h => h
  | reading e => exact .aside rfl (fun h => h) rfl fun _ h => h
  | syncing e text p => exact syncing_advances task kind c e text p
  | querying e => exact .aside rfl (fun h => h) rfl fun _ h => h
  | asking e q p => exact asking_advances task kind c e q p
  | routing e outcome =>
    show c.session.Utters (c.route e outcome).session _
    rw [Client.session_route]
    exact .refl _ _

end ActionPoint

namespace RunPoint

/-- **What an action says can be seen beforehand.** -/
theorem step_advances (task : TaskId) (kind : ActionKind) (reporting : Bool) (c : Client)
    (p : RunPoint) :
    (p.step task kind reporting c).Leads (p.Advances c)
      fun c' _ => c.session.Utters c'.session p.saying? := by
  have spent {c' : Client} {p' : RunPoint} (utters : c.session.Utters c'.session p.saying?)
      (hp' : p'.IsSpent) : p.Advances c c' p' := ⟨utters, fun _ => hp', fun h => absurd hp' h⟩
  cases p with
  | flushing => exact .aside rfl (fun h => h) rfl (by rintro _ ⟨⟩)
  | waiting =>
    rw [step]
    split
    next => exact .aside rfl (fun h => h) rfl (by rintro _ ⟨⟩)
    next => trivial
  | acting p =>
    have advances := p.step_advances task kind c
    rw [step]
    split
    next => trivial
    next he => rw [he] at advances; exact advances
    next c' r he =>
      rw [he] at advances
      -- a failure that nobody asked for is only logged
      cases reporting with
      | true => exact spent advances trivial
      | false => cases r <;> exact spent advances trivial
  | flushingAfter r => exact spent (.refl _ _) trivial
  | waitingAfter r =>
    rw [step]
    split
    next => exact .refl _ _
    next => trivial

theorem saying?_of_isSpent {p : RunPoint} (h : p.IsSpent) : p.saying? = none := by
  cases p with
  | acting p =>
    cases p with
    | asking e q p =>
      cases p with
      | on n r => cases r <;> first | rfl | exact h.elim
      | _ => rfl
    | syncing e text p => exact h.elim
    | _ => rfl
  | _ => rfl

/-- Who is about to make a request is where it is written. -/
theorem eq_of_saying?_request {p : RunPoint} {n : Nat} {r : Request}
    (h : p.saying? = some (n, .request r)) :
    ∃ e q id slot, p = .acting (.asking e q (.on n (.writing id slot))) ∧ r = q.toRequest id := by
  cases p with
  | acting p =>
    cases p with
    | syncing e text p =>
      cases p with
      | on m q =>
        obtain ⟨x, hx, he⟩ := Option.map_eq_some_iff.1 h
        cases he
        exact absurd hx Telling.message?_ne_request
      | _ => cases h
    | asking e q p =>
      cases p with
      | on m p =>
        obtain ⟨x, hx, he⟩ := Option.map_eq_some_iff.1 h
        cases he
        cases p <;> cases hx
        exact ⟨e, q, _, _, rfl, rfl⟩
      | _ => cases h
    | _ => cases h
  | _ => cases h

/-- An action that is about to say something tells the active line about its document, or makes its
request. -/
theorem about_of_saying? {kind : ActionKind} {reporting : Bool} {c : Client} {p : RunPoint} {n : Nat}
    {x : Message} (h : p.saying? = some (n, x)) (knows : (Call.run kind reporting p).Knows c) :
    (∃ r, x = .request r) ∨ c.session.active = some n ∧
      ∃ note e, DocumentNote.ofMessage? x = some note ∧ p.editor? = some e ∧ note.uri = e.uri := by
  cases p with
  | acting p =>
    cases p with
    | syncing e text p =>
      cases p with
      | on m q =>
        obtain ⟨x', hx, he⟩ := Option.map_eq_some_iff.1 h
        cases he
        obtain ⟨note, hnote, huri⟩ := Telling.about_of_message? hx
        exact .inr ⟨(knows.2 n q rfl).1, note, e, hnote, rfl, huri⟩
      | _ => cases h
    | asking e q p =>
      cases p with
      | on m r =>
        obtain ⟨x', hx, he⟩ := Option.map_eq_some_iff.1 h
        cases he
        cases r <;> cases hx
        exact .inl ⟨_, rfl⟩
      | _ => cases h
    | _ => cases h
  | _ => cases h

end RunPoint

/-- Only an action goes on as an action. -/
theorem Call.step_run {task : TaskId} {c c' : Client} {call : Call} {kind : ActionKind}
    {reporting : Bool} {p' : RunPoint} (h : call.step task c = .goesOn c' (.run kind reporting p')) :
    ∃ p : RunPoint, call = .run kind reporting p ∧ p.step task kind reporting c = .goesOn c' p' := by
  cases call with
  | run kind' reporting' p =>
    rw [step] at h
    cases hp : p.step task kind' reporting' c with
    | goesOn c'' p'' => rw [hp] at h; cases h; exact ⟨p, rfl, hp⟩
    | _ => rw [hp] at h; cases h
  | startUp p =>
    cases p with
    | finding => rw [step] at h; split at h <;> cases h
    | starting endpoint p =>
      rw [step] at h
      generalize c.onSession _ = q at h
      cases q <;> cases h
  | restart p => rw [step] at h; split at h <;> cases h
  | openFile path p =>
    cases p <;> (rw [step] at h; split at h <;> cases h)
  | _ =>
    obtain ⟨_, _, _, _, he⟩ := Client.last_onSession_goesOn h
    cases he

/-! ## Histories -/

namespace Workbench

/-- What a call says on a line with this. -/
def utters (w : Workbench) (task : TaskId) (n : Nat) : Happening → List Message
  | .goesOn (.call t) =>
    if t = task then
      match w.act? (.call t) with
      | some w' => (w'.client.session.sent n).drop (w.client.session.sent n).length
      | none => []
    else []
  | _ => []

/-- What a call says on a line in a history, the first message first. -/
def said (w : Workbench) (task : TaskId) (n : Nat) (hs : List Happening) : List Message :=
  (w.record (fun u g => some (u.utters task n g)) hs).flatten

variable {w₀ w w' : Workbench} {g : Happening} {hs : List Happening} {task : TaskId}

theorem said_append (h : w₀.after? hs = some w) (task : TaskId) (n : Nat) (more : List Happening) :
    w₀.said task n (hs ++ more) = w₀.said task n hs ++ w.said task n more := by
  rw [said, record_append _ h, List.flatten_append, said, said]

theorem said_cons (h : w.happen? g = some w') (task : TaskId) (n : Nat) (more : List Happening) :
    w.said task n (g :: more) = w.utters task n g ++ w'.said task n more := by
  rw [said, record, h]
  rfl

theorem said_concat (h : w₀.after? hs = some w) (task : TaskId) (n : Nat) (g : Happening) :
    w₀.said task n (hs ++ [g]) = w₀.said task n hs ++ w.utters task n g := by
  rw [said, record_concat _ h, List.flatten_append, said]
  simp

/-- What others do is not said by the call. -/
theorem utters_of_ne (h : g ≠ .goesOn (.call task)) (n : Nat) : w.utters task n g = [] := by
  unfold utters
  split
  next t => exact if_neg fun e => h (by rw [e])
  next => rfl

/-- An action says what it was about to say, or nothing. -/
theorem utters_of_run {kind : ActionKind} {reporting : Bool} {p : RunPoint}
    (hcall : w.calls.get? task = some (.run kind reporting p)) :
    (∀ m, w.utters task m (.goesOn (.call task)) = []) ∨ ∃ n x, p.saying? = some (n, x) ∧
      ∀ m, w.utters task m (.goesOn (.call task)) = if n = m then [x] else [] := by
  have step : (Call.step task w.client (.run kind reporting p)).All fun c' =>
      w.client.session.Utters c'.session p.saying? := by
    rw [Call.step, Progress.all_last]
    have advances := p.step_advances task kind reporting w.client
    cases hp : p.step task kind reporting w.client with
    | waits => trivial
    | goesOn c' p' => rw [hp] at advances; exact advances.utters
    | ends c' r => rw [hp] at advances; exact advances
  cases hact : w.act? (.call task) with
  | none => exact .inl fun m => by rw [utters, if_pos rfl, hact]
  | some w' =>
    have utters : w.client.session.Utters w'.client.session p.saying? := by
      obtain ⟨call, hcall', ⟨client, call', hstep, rfl⟩ | ⟨client, r, hstep, rfl⟩⟩ := act?_call hact <;>
      · obtain rfl := Option.some.inj (hcall.symm.trans hcall')
        rw [hstep] at step
        exact step
    have added (m : Nat) : w.utters task m (.goesOn (.call task)) =
        (w'.client.session.sent m).drop (w.client.session.sent m).length := by
      rw [Workbench.utters, if_pos rfl, hact]
    rcases utters with same | ⟨n, x, hx, adds⟩
    · exact .inl fun m => by rw [added, same, List.drop_length]
    · exact .inr ⟨n, x, hx, fun m => by rw [added, adds, List.drop_left]⟩

/-! ### Until the request is made -/

/-- What an action has said until it is spent: it has told the active line about its document. -/
structure HasSaid (w : Workbench) (task : TaskId) (said : Nat → List Message) : Prop where
  unborn : w.latestTask < task.number → ∀ m, said m = []
  told : ∀ kind reporting p, w.calls.get? task = some (.run kind reporting p) → ¬ p.IsSpent →
    ∀ m x, x ∈ said m → w.client.session.active = some m ∧
      ∃ note e, DocumentNote.ofMessage? x = some note ∧ p.editor? = some e ∧ note.uri = e.uri

/-- The step of the action itself. -/
theorem HasSaid.call {said : Nat → List Message} (h : w.HasSaid task said) (sound : w.Sound)
    (tidy : w.IsTidy) (hs : w.act? (.call task) = some w') :
    w'.HasSaid task fun m => said m ++ w.utters task m (.goesOn (.call task)) := by
  obtain ⟨call, hcall, hs⟩ := act?_call hs
  have numbered := sound.numbered task call hcall
  rcases hs with ⟨client, call', hstep, rfl⟩ | ⟨client, r, hstep, rfl⟩
  · refine ⟨fun hlt => absurd numbered (Nat.not_le_of_lt hlt), fun kind reporting p' hp' hspent m x hx => ?_⟩
    rw [Table.get?_set, if_pos rfl] at hp'
    cases hp'
    obtain ⟨p, rfl, hp⟩ := Call.step_run hstep
    have advances := p.step_advances task kind reporting w.client
    have touches := p.step_touches task kind reporting w.client
    rw [hp] at advances touches
    have active : client.session.active = w.client.session.active := touches.drifts.active
    have before : ¬ p.IsSpent := fun hp => hspent (advances.spent (.inl hp))
    rcases List.mem_append.1 hx with hx | hx
    · obtain ⟨hactive, note, e, hnote, he, huri⟩ := h.told kind reporting p hcall before m x hx
      exact ⟨active.trans hactive, note, e, hnote, advances.editor hspent e he, huri⟩
    · rcases utters_of_run hcall with nothing | ⟨n, x', hx', only⟩
      · rw [nothing] at hx
        cases hx
      · rw [only] at hx
        split at hx
        next heq =>
          obtain rfl := List.mem_singleton.1 hx
          subst heq
          rcases RunPoint.about_of_saying? hx' (tidy.calls task _ hcall) with
            ⟨r, rfl⟩ | ⟨hactive, note, e, hnote, he, huri⟩
          · exact absurd (advances.spent (.inr ⟨n, r, hx'⟩)) hspent
          · exact ⟨active.trans hactive, note, e, hnote, advances.editor hspent e he, huri⟩
        next => cases hx
  · refine ⟨fun hlt => absurd numbered (Nat.not_le_of_lt hlt), fun kind reporting p' hp' => ?_⟩
    rw [Table.get?_erase, if_pos rfl] at hp'
    cases hp'

/-- Whatever else happens. -/
theorem HasSaid.beside {said : Nat → List Message} (h : w.HasSaid task said) (solitary : w.IsSolitary)
    (hs : w.happen? g = some w') (hg : g ≠ .goesOn (.call task)) : w'.HasSaid task said := by
  rcases happen?_cases hs with ⟨other, rfl⟩ | ⟨c, rfl, hnew, rfl⟩ | ⟨hcalls, -, hlatest, -⟩
  · have hne : task ≠ other := fun e => hg (by rw [e])
    have same := act?_call_others hs hne
    obtain ⟨call, hcall, hs⟩ := act?_call hs
    have latest : w'.latestTask = w.latestTask := by
      rcases hs with ⟨_, _, _, rfl⟩ | ⟨_, _, _, rfl⟩ <;> rfl
    refine ⟨latest ▸ h.unborn, fun kind reporting p hp => ?_⟩
    exact absurd (solitary.unique (same ▸ hp) hcall) hne
  · refine ⟨fun hlt => h.unborn (Nat.lt_of_succ_lt hlt), fun kind reporting p hp hspent m x hx => ?_⟩
    replace hp : (w.calls.set ⟨w.latestTask + 1⟩ c).get? task = some (.run kind reporting p) := hp
    rw [Table.get?_set] at hp
    split at hp
    next heq =>
      subst heq
      rw [h.unborn (Nat.lt_succ_self _)] at hx
      cases hx
    next => exact h.told kind reporting p hp hspent m x hx
  · have hcall (t : TaskId) (e : g = .goesOn (.call t)) : w.calls.get? task ≠ none → False := by
      subst e
      intro hsome
      obtain ⟨call, hcall, -⟩ := act?_call hs
      obtain ⟨c, hc⟩ := Option.ne_none_iff_exists'.1 hsome
      exact hg (by rw [solitary.unique hc hcall])
    refine ⟨hlatest ▸ h.unborn, fun kind reporting p hp hspent m x hx => ?_⟩
    rw [hcalls] at hp
    have active : w'.client.session.active = w.client.session.active :=
      (happen?_drifts hs fun t e => hcall t e (by rw [hp]; exact Option.some_ne_none _)).active
    rw [active]
    exact h.told kind reporting p hp hspent m x hx

/-- **Until it is spent, an action has told the active line about its document**, and said nothing
else. -/
theorem hasSaid_after? (h₀ : w₀.IsFresh) (documents : w₀.client.editor.documents = [])
    (cwd : ∀ name ∈ w₀.client.here.cwd, Path.IsName name) (h : w₀.after? hs = some w)
    (one : w₀.Throughout hs OneByOne) (plain : w₀.Throughout hs fun _ g => g.IsPlain)
    (edits : w₀.Throughout hs EditsBetween) (task : TaskId) :
    w.HasSaid task fun m => w₀.said task m hs := by
  refine after?_induction (P := fun hs w => w₀.Throughout hs OneByOne →
    (w₀.Throughout hs fun _ g => g.IsPlain) → w₀.Throughout hs EditsBetween →
    w.HasSaid task fun m => w₀.said task m hs)
    (fun _ _ _ => ?_) (fun hs g u u' hu ih hstep one plain edits => ?_) h one plain edits
  · refine ⟨fun _ _ => rfl, fun kind reporting p hp => ?_⟩
    rw [h₀.calls] at hp
    cases hp
  · have before := ih one.of_concat plain.of_concat edits.of_concat
    simp only [said_concat hu]
    by_cases hg : g = .goesOn (.call task)
    · subst hg
      exact before.call (sound_after? h₀ hu)
        (isTidy_after? h₀ documents cwd hu one.of_concat plain.of_concat edits.of_concat) hstep
    · simp only [utters_of_ne hg, List.append_nil]
      exact before.beside (isSolitary_after? h₀ one.of_concat hu) hstep hg

/-! ### When the request is made -/

/-- An action that is spent, or has returned. -/
structure Spent (w : Workbench) (task : TaskId) : Prop where
  numbered : task.number ≤ w.latestTask
  calls : ∀ call, w.calls.get? task = some call →
    ∃ kind reporting p, call = .run kind reporting p ∧ p.IsSpent

theorem Spent.utters (h : w.Spent task) (g : Happening) (n : Nat) : w.utters task n g = [] := by
  by_cases hg : g = .goesOn (.call task)
  · subst hg
    cases hcall : w.calls.get? task with
    | none => rw [Workbench.utters, if_pos rfl, act?, hcall]
    | some call =>
      obtain ⟨kind, reporting, p, rfl, hp⟩ := h.calls call hcall
      rcases utters_of_run hcall with nothing | ⟨m, x, hx, _⟩
      · exact nothing n
      · rw [RunPoint.saying?_of_isSpent hp] at hx
        cases hx
  · exact utters_of_ne hg n

/-- An action that makes its request is spent then. -/
theorem Spent.of_advances {kind : ActionKind} {reporting : Bool} {p : RunPoint} (sound : w.Sound)
    (hcall : w.calls.get? task = some (.run kind reporting p))
    (hp : p.IsSpent ∨ ∃ n r, p.saying? = some (n, .request r))
    (hs : w.act? (.call task) = some w') : w'.Spent task := by
  have numbered := sound.numbered task _ hcall
  obtain ⟨call, hcall', hs⟩ := act?_call hs
  obtain rfl := Option.some.inj (hcall.symm.trans hcall')
  rcases hs with ⟨client, call', hstep, rfl⟩ | ⟨client, r, hstep, rfl⟩
  · refine ⟨numbered, fun c hc => ?_⟩
    rw [Table.get?_set, if_pos rfl] at hc
    cases hc
    have advances := p.step_advances task kind reporting w.client
    rw [Call.step] at hstep
    cases hrun : p.step task kind reporting w.client with
    | goesOn c' p' =>
      rw [hrun] at hstep advances
      cases hstep
      exact ⟨kind, reporting, p', rfl, advances.spent hp⟩
    | _ => rw [hrun] at hstep; cases hstep
  · refine ⟨numbered, fun c hc => ?_⟩
    rw [Table.get?_erase, if_pos rfl] at hc
    cases hc

theorem Spent.happen? (h : w.Spent task) (sound : w.Sound) (hs : w.happen? g = some w') :
    w'.Spent task := by
  by_cases hg : g = .goesOn (.call task)
  · subst hg
    obtain ⟨call, hcall, -⟩ := act?_call hs
    obtain ⟨kind, reporting, p, rfl, hp⟩ := h.calls call hcall
    exact .of_advances sound hcall (.inl hp) hs
  exact ⟨Nat.le_trans h.numbered (happen?_latestTask hs), fun call hcall =>
    h.calls call ((happen?_others hs hg h.numbered) ▸ hcall)⟩

/-- **Once it is spent, an action says nothing.** -/
theorem utters_nothing_after? {before more : List Happening} (h₀ : w₀.IsFresh)
    (hw : w₀.after? before = some w) (h : w.after? more = some w') (spent : w.Spent task) (n : Nat) :
    w.said task n more = [] := by
  refine (after?_induction (P := fun more u => u.Spent task ∧ w.said task n more = []) ⟨spent, rfl⟩
    (fun hs g u u' hu ih hstep => ?_) h).2
  have sound := sound_after? h₀ (after?_trans hw hu)
  exact ⟨ih.1.happen? sound hstep, by rw [said_concat hu, ih.2, ih.1.utters]; rfl⟩

end Workbench

end LanguageClient
