import LanguageClient.Proofs.Client.OneByOne
import LanguageClient.Proofs.Client.SingleConnection
import LanguageClient.Proofs.Connection.Due

/-!
# The server mirrors the documents

While calls are made one after another and whatever is told about documents can be written, the
documents that the server holds after the notifications on a connection are those of the table on
this side, and each call tells exactly what is due.

* `Workbench.account?` — what has been told on a line, and the table there.
* `Workbench.Underway` — how far a call about a document has come since it was made, and what it has
  told until then; `Underway.happen?` is its step lemma.
* **`documents_are_mirrored`** — when no call is in progress both sides agree on every line, a new line
  begins without documents, and a call has told what was due on the active line and nothing elsewhere.
-/

namespace LanguageClient

open Session

/-- A call that consists of a part on the session goes on with the part. -/
theorem Client.last_onSession_goesOn {π α β : Type} {c c' : Client} {p : Progress Session π α}
    {wrap : π → Call} {result : α → β} {call : Call}
    (h : (c.onSession p).last wrap result = .goesOn c' call) :
    ∃ s x, p = .goesOn s x ∧ c' = { c with session := s } ∧ call = wrap x := by
  cases p <;> cases h
  exact ⟨_, _, rfl, rfl, rfl⟩

theorem Client.last_onSession_ends {π α β : Type} {c c' : Client} {p : Progress Session π α}
    {wrap : π → Call} {result : α → β} {r : β} (h : (c.onSession p).last wrap result = .ends c' r) :
    ∃ s a, p = .ends s a ∧ c' = { c with session := s } ∧ r = result a := by
  cases p <;> cases h
  exact ⟨_, _, rfl, rfl, rfl⟩

namespace Workbench

open Client

variable {w₀ v u u' w w' : Workbench} {g : Happening} {hs : List Happening}

/-! ## What has been told -/

/-- What has been told about documents on a line, and the table there. -/
def account? (w : Workbench) (n : Nat) : Option (List DocumentNote × Table String SentDocument) :=
  (w.client.session.line? n).map fun l => (l.connection.told, l.connection.documents)

theorem account?_of_line {n : Nat} {l : Line} (h : w.client.session.line? n = some l) :
    w.account? n = some (l.connection.told, l.connection.documents) := by
  rw [account?, h]
  rfl

/-- Nothing has been told on a line whose account is as it was. -/
theorem untold_of_account? {n : Nat} {l : Line} (h : w'.account? n = w.account? n)
    (hl : w.client.session.line? n = some l) :
    ∃ l', w'.client.session.line? n = some l' ∧ l.connection.Untold l'.connection := by
  rw [account?_of_line hl] at h
  obtain ⟨l', hl', he⟩ := Option.map_eq_some_iff.1 h
  exact ⟨l', hl', (Prod.mk.inj he).1, (Prod.mk.inj he).2⟩

/-- Nothing is told but by calls. -/
theorem account?_happen? (sound : u.Sound) (plain : u.IsPlain) (h : u.happen? g = some u')
    (hg : ∀ task, g ≠ .goesOn (.call task)) (n : Nat) : u'.account? n = u.account? n := by
  cases hl : u.client.session.line? n with
  | none =>
    -- No line comes but by a call.
    have hlength := (happen?_drifts h hg).length
    have hn : u'.client.session.line? n = none := by
      rw [line?, List.getElem?_eq_none_iff] at hl ⊢
      omega
    rw [account?, account?, hl, hn]
  | some l =>
    rw [account?_of_line hl]
    cases happen?_tells sound plain h with
    | call => exact absurd rfl (hg _)
    | streams session _ =>
      rw [account?, session, line?_modifyLine]
      split <;> rw [hl] <;> rfl
    | beside silent _ =>
      obtain ⟨l', hl', hs⟩ := silent n l hl
      rw [account?_of_line hl', hs.told, hs.documents]

/-! ## Calls about documents -/

section

variable {π : Type} (as : π → Telling) (wrap : Via π → Call) (first : π)
  (run : TaskId → π → Connection → Progress Connection π (Except Failure Unit))

/-- A call that does something about a document on the active connection. -/
structure IsDocumentCall : Prop where
  step : ∀ task c p, (wrap p).step task c =
    (c.onSession (p.step first (run task) c.session)).last wrap (Call.ofSession Call.done)
  moves : ∀ task p c, (run task p c).Leads (fun c' p' => (as p).Move task c c' (.inl (as p')))
    fun c' r => (as p).Move task c c' (.inr r)
  since : ∀ c c', c.Untold c' → (as first).Since c c'
  aside : ∀ p, (wrap p).lifecycle? = none
  telling : ∀ p, (wrap p).telling? = p.telling? as

end

theorem isDocumentCall_sync (uri text : String) :
    IsDocumentCall (Telling.syncs uri text) (Call.sync uri text) .beginning
      fun task p c => p.step task uri text c where
  step _ _ _ := rfl
  moves task p c := Telling.sync_moves task uri text c p
  since _ _ h := h
  aside _ := rfl
  telling _ := rfl

theorem isDocumentCall_closeDocument (uri : String) :
    IsDocumentCall (Telling.forgets uri) (Call.closeDocument uri) .beginning
      fun task p c => p.step task uri c where
  step _ _ _ := rfl
  moves task p c := Telling.forget_moves task uri c p
  since _ _ h := h
  aside _ := rfl
  telling _ := rfl

/-- On the active line this has become of the connection, and nothing has been told elsewhere. -/
def OnActive (v w : Workbench) (R : Connection → Connection → Prop) : Prop :=
  ∃ n l l', v.client.session.active = some n ∧ v.client.session.line? n = some l ∧
    w.client.session.line? n = some l' ∧ R l.connection l'.connection ∧
    ∀ m, m ≠ n → w.account? m = v.account? m

/-- How far a call has come since it was made on the workbench `v`, where no other was in progress. -/
inductive Underway {π : Type} (as : π → Telling) (wrap : Via π → Call) (v : Workbench) (task : TaskId)
    (u : Workbench) : Prop
  | before {p : Via π} (hp : ∀ n q, p ≠ .on n q) (calls : u.calls = [(task, wrap p)])
      (returned : u.returned = v.returned) (accounts : ∀ n, u.account? n = v.account? n)
  | on {n : Nat} {q : π} (calls : u.calls = [(task, wrap (.on n q))])
      (returned : u.returned = v.returned) (active : v.client.session.active = some n)
      {l l' : Line} (hl : v.client.session.line? n = some l)
      (hl' : u.client.session.line? n = some l') (since : (as q).Since l.connection l'.connection)
      (others : ∀ m, m ≠ n → u.account? m = v.account? m)
  | refused {state : SessionState} (calls : u.calls = [])
      (returned : u.returned = v.returned ++ [(task, .error (.session (.notReady state)))])
      (accounts : ∀ n, u.account? n = v.account? n)
  | done {q : π} (calls : u.calls = []) (returned : u.returned = v.returned ++ [(task, .ok .nothing)])
      (reached : v.OnActive u fun c c' => (as q).Aim c c')

namespace Underway

variable {π : Type} {as : π → Telling} {wrap : Via π → Call} {first : π}
  {run : TaskId → π → Connection → Progress Connection π (Except Failure Unit)} {task : TaskId}

/-- Whatever happens beside leaves the call where it is. -/
theorem beside (h : Underway as wrap v task u) (calls : u'.calls = u.calls)
    (returned : u'.returned = u.returned) (accounts : ∀ n, u'.account? n = u.account? n) :
    Underway as wrap v task u' := by
  cases h with
  | before hp hcalls hreturned haccounts =>
    exact .before hp (calls.trans hcalls) (returned.trans hreturned) fun n =>
      (accounts n).trans (haccounts n)
  | on hcalls hreturned active hl hl' since others =>
    obtain ⟨l'', hl'', untold⟩ := untold_of_account? (accounts _) hl'
    exact .on (calls.trans hcalls) (returned.trans hreturned) active hl hl'' (since.untold untold)
      fun m hm => (accounts m).trans (others m hm)
  | refused hcalls hreturned haccounts =>
    exact .refused (calls.trans hcalls) (returned.trans hreturned) fun n =>
      (accounts n).trans (haccounts n)
  | done hcalls hreturned reached =>
    obtain ⟨n, l, l', active, hl, hl', aim, others⟩ := reached
    obtain ⟨l'', hl'', untold⟩ := untold_of_account? (accounts n) hl'
    refine .done (calls.trans hcalls) (returned.trans hreturned)
      ⟨n, l, l'', active, hl, hl'', Telling.Aim.untold aim untold, fun m hm => (accounts m).trans (others m hm)⟩

/-- The next step of the call. -/
theorem act? (D : IsDocumentCall as wrap first run) (h : Underway as wrap v task u)
    (there : ∀ n, v.client.session.active = some n → ∃ l, v.client.session.line? n = some l)
    (active : u.client.session.active = v.client.session.active) {other : TaskId}
    (free : u.TellsFreely (.goesOn (.call other))) (hs : u.act? (.call other) = some u') :
    Underway as wrap v task u' := by
  obtain ⟨call, hcall, hs⟩ := act?_call hs
  cases h with
  | @before p hp calls returned accounts =>
    obtain ⟨rfl, rfl⟩ : task = other ∧ wrap p = call := by simpa [calls, Table.get?_cons] using hcall
    rcases hs with ⟨client, call', hstep, rfl⟩ | ⟨client, r, hstep, rfl⟩
    · rw [D.step] at hstep
      obtain ⟨s, p', hvia, rfl, rfl⟩ := last_onSession_goesOn hstep
      have calls' : u.calls.set task (wrap p') = [(task, wrap p')] := by simp [calls, Table.set]
      rcases Via.step_goesOn hvia with ⟨rfl, rfl, seen, rfl⟩ | ⟨seen, n, rfl, rfl, hn, rfl⟩ |
        ⟨n, q, l, c, q', rfl, -, -, -, -⟩
      · exact .before (p := .picking seen) (by rintro _ _ ⟨⟩) calls' returned accounts
      · have hactive := active.symm.trans hn
        obtain ⟨l, hl⟩ := there n hactive
        obtain ⟨l', hl', untold⟩ := untold_of_account? (accounts n) hl
        exact .on calls' returned hactive hl hl' (D.since _ _ untold) fun m _ => accounts m
      · exact absurd rfl (hp n q)
    · rw [D.step] at hstep
      obtain ⟨s, a, hvia, rfl, rfl⟩ := last_onSession_ends hstep
      rcases Via.step_ends hvia with ⟨-, rfl, state, rfl⟩ | ⟨n, q, l, c, rfl, -, -, -⟩
      · exact .refused (by simp [calls, Table.erase]) (by rw [returned]; rfl) accounts
      · exact absurd rfl (hp n q)
  | @on n q calls returned hactive l l' hl hl' since others =>
    obtain ⟨rfl, rfl⟩ : task = other ∧ wrap (.on n q) = call := by
      simpa [calls, Table.get?_cons] using hcall
    have can (m : Message) (hm : (as q).message? = some m) : ∃ c, l'.connection.write m = .ok c := by
      refine free n (as q) m l' ?_ hm hl'
      rw [telling?, hcall, Option.bind_some, D.telling]
      rfl
    have moves := D.moves task q l'.connection
    have elsewhere (c : Connection) (m : Nat) (hm : m ≠ n) :
        Session.line? (u.client.session.setConnection n c) m = u.client.session.line? m := by
      rw [line?_setConnection, if_neg (Ne.symm hm)]
    have here (c : Connection) : Session.line? (u.client.session.setConnection n c) n =
        some { l' with connection := c } := by
      rw [line?_setConnection, if_pos rfl, hl']
      rfl
    rcases hs with ⟨client, call', hstep, rfl⟩ | ⟨client, r, hstep, rfl⟩
    · rw [D.step] at hstep
      obtain ⟨s, p', hvia, rfl, rfl⟩ := last_onSession_goesOn hstep
      rcases Via.step_goesOn hvia with ⟨⟨⟩, -⟩ | ⟨_, _, ⟨⟩, -⟩ | ⟨_, _, l'', c, q', ⟨⟩, hl'', hrun, rfl, rfl⟩
      obtain rfl : l' = l'' := Option.some.inj (hl'.symm.trans hl'')
      rw [hrun] at moves
      refine .on (by simp [calls, Table.set]) returned hactive hl (here c) (since.move moves can)
        fun m hm => ?_
      rw [← others m hm]
      exact congrArg (Option.map _) (elsewhere c m hm)
    · rw [D.step] at hstep
      obtain ⟨s, a, hvia, rfl, rfl⟩ := last_onSession_ends hstep
      rcases Via.step_ends hvia with ⟨hp, -⟩ | ⟨_, _, l'', c, ⟨⟩, hl'', hrun, rfl⟩
      · exact absurd rfl (hp n q)
      obtain rfl : l' = l'' := Option.some.inj (hl'.symm.trans hl'')
      rw [hrun] at moves
      obtain ⟨rfl, aim⟩ := since.move moves can
      refine .done (q := q) (by simp [calls, Table.erase]) (by rw [returned]; rfl)
        ⟨n, l, _, hactive, hl, here c, aim, fun m hm => ?_⟩
      rw [← others m hm]
      exact congrArg (Option.map _) (elsewhere c m hm)
  | refused calls => rw [calls] at hcall; cases hcall
  | done calls => rw [calls] at hcall; cases hcall

/-- **Whatever happens, the call tells what it has to.** -/
theorem happen? (D : IsDocumentCall as wrap first run) (h : Underway as wrap v task u)
    (there : ∀ n, v.client.session.active = some n → ∃ l, v.client.session.line? n = some l)
    (active : u.client.session.active = v.client.session.active) (sound : u.Sound)
    (plain : u.IsPlain) (free : u.TellsFreely g) (alone : ∀ c, g ≠ .calls c)
    (hs : u.happen? g = some u') : Underway as wrap v task u' := by
  by_cases hg : ∃ other, g = .goesOn (.call other)
  · obtain ⟨other, rfl⟩ := hg
    exact h.act? D there active free hs
  · have hg (other : TaskId) (e : g = .goesOn (.call other)) : False := hg ⟨other, e⟩
    obtain ⟨calls, returned, -⟩ := happen?_frame hs hg alone
    exact h.beside calls returned (account?_happen? sound plain hs hg)

/-- No call is in progress that starts, restarts or stops. -/
theorem lifecycle?_eq_none (D : IsDocumentCall as wrap first run) (h : Underway as wrap v task u)
    (other : TaskId) : u.lifecycle? other = none := by
  have hcalls : u.calls = [] ∨ ∃ p, u.calls = [(task, wrap p)] := by
    cases h with
    | before _ calls => exact .inr ⟨_, calls⟩
    | on calls => exact .inr ⟨_, calls⟩
    | refused calls => exact .inl calls
    | done calls => exact .inl calls
  rcases hcalls with hnil | ⟨p, hone⟩
  · rw [lifecycle?, hnil]
    rfl
  · rw [lifecycle?, hone, Table.get?_cons]
    split
    · exact D.aside p
    · rfl

end Underway

/-- While no call starts, restarts or stops, the session drifts. -/
theorem drifts_of_lifecycle? (sound : u.Sound) (h : u.happen? g = some u')
    (none : ∀ task, u.lifecycle? task = none) : u.client.session.Drifts u'.client.session := by
  cases happen?_shift sound h with
  | drifts drifts => exact drifts
  | enters hp => rw [none] at hp; cases hp
  | goesOn hp => rw [entered?, none] at hp; cases hp
  | ends hp => rw [entered?, none] at hp; cases hp

/-- While no call is in progress the session is settled. -/
theorem settled_of_rests (h₀ : w₀.IsFresh) (h : w₀.after? hs = some w) (rests : w.calls = []) :
    w.client.session.Settled w₀.client.session.lines.length (w₀.latestStart? hs) :=
  (orderly_after? h₀ h).settled fun task => by rw [entered?, lifecycle?, rests]; rfl

/-- **A call about a document that is alone from its beginning to its end.** -/
theorem underway_after? {π : Type} {as : π → Telling} {wrap : Via π → Call} {first : π}
    {run : TaskId → π → Connection → Progress Connection π (Except Failure Unit)}
    (D : IsDocumentCall as wrap first run) {before during : List Happening} (h₀ : w₀.IsFresh)
    (hv : w₀.after? before = some v) (rests : v.calls = [])
    (h : (v.add (wrap .looking)).2.after? during = some w) (hnew : (wrap .looking).isNew = true)
    (alone : ∀ g ∈ during, ∀ c, g ≠ .calls c)
    (plain : w₀.Throughout (before ++ .calls (wrap .looking) :: during) fun _ g => g.IsPlain)
    (free : w₀.Throughout (before ++ .calls (wrap .looking) :: during) TellsFreely) :
    Underway as wrap v ⟨v.latestTask + 1⟩ w := by
  have there (n : Nat) (hn : v.client.session.active = some n) :
      ∃ l, v.client.session.line? n = some l :=
    ⟨_, List.getElem?_eq_getElem ((settled_of_rests h₀ hv rests).held n hn)⟩
  have begun : Underway as wrap v ⟨v.latestTask + 1⟩ (v.add (wrap .looking)).2 :=
    .before (p := .looking) (fun _ _ => nofun) (by simp [add, wake, rests, Table.set]) rfl fun _ => rfl
  have underway {hs : List Happening} {u : Workbench} :
      (v.add (wrap .looking)).2.after? hs = some u → (∀ g ∈ hs, ∀ c, g ≠ .calls c) →
      (w₀.Throughout (before ++ .calls (wrap .looking) :: hs) fun _ g => g.IsPlain) →
      w₀.Throughout (before ++ .calls (wrap .looking) :: hs) TellsFreely →
      Underway as wrap v ⟨v.latestTask + 1⟩ u ∧ u.client.session.active = v.client.session.active := by
    refine after?_induction (P := fun hs u => (∀ g ∈ hs, ∀ c, g ≠ .calls c) →
      (w₀.Throughout (before ++ .calls (wrap .looking) :: hs) fun _ g => g.IsPlain) →
      w₀.Throughout (before ++ .calls (wrap .looking) :: hs) TellsFreely →
      Underway as wrap v ⟨v.latestTask + 1⟩ u ∧ u.client.session.active = v.client.session.active)
      (fun _ _ _ => ⟨begun, rfl⟩) fun hs g u u' hu ih hstep alone plain free => ?_
    rw [← List.cons_append, ← List.append_assoc] at plain free
    have reached : w₀.after? (before ++ .calls (wrap .looking) :: hs) = some u := by
      refine after?_trans hv ?_
      rw [after?, happen?_calls.2 ⟨hnew, rfl⟩]
      exact hu
    obtain ⟨underway, active⟩ := ih (fun g hg => alone g (List.mem_append_left _ hg))
      plain.of_concat free.of_concat
    have sound := sound_after? h₀ reached
    have drifts := drifts_of_lifecycle? sound hstep (underway.lifecycle?_eq_none D)
    exact ⟨underway.happen? D there active sound (isPlain_after? h₀ plain.of_concat reached)
      (free.last reached) (alone g (by simp)) hstep, drifts.active.trans active⟩
  exact (underway h alone plain free).1

/-- What a call about a document comes to: on the active line this becomes of the connection, unless
the session was not ready. -/
def Settles (v w : Workbench) (R : Connection → Connection → Prop) : Prop :=
  ∃ r, w.returned = v.returned ++ [(⟨v.latestTask + 1⟩, r)] ∧
    ((r = .ok .nothing ∧ v.OnActive w R) ∨
      ∃ state, r = .error (.session (.notReady state)) ∧ ∀ n, w.account? n = v.account? n)

theorem Settles.mono {R S : Connection → Connection → Prop} (h : v.Settles w R)
    (hRS : ∀ n l l', v.client.session.line? n = some l → w.client.session.line? n = some l' →
      R l.connection l'.connection → S l.connection l'.connection) : v.Settles w S := by
  obtain ⟨r, hr, ⟨rfl, n, l, l', active, hl, hl', h, others⟩ | hrefused⟩ := h
  · exact ⟨_, hr, .inl ⟨rfl, n, l, l', active, hl, hl', hRS n l l' hl hl' h, others⟩⟩
  · exact ⟨r, hr, .inr hrefused⟩

/-- A call about a document that is alone comes to what it is for. -/
theorem settles {π : Type} {as : π → Telling} {wrap : Via π → Call} {first : π}
    {run : TaskId → π → Connection → Progress Connection π (Except Failure Unit)}
    (D : IsDocumentCall as wrap first run) {before during : List Happening} (h₀ : w₀.IsFresh)
    (h : w₀.after? (before ++ .calls (wrap .looking) :: during) = some w)
    (hv : w₀.after? before = some v) (hnew : (wrap .looking).isNew = true)
    (alone : ∀ g ∈ during, ∀ c, g ≠ .calls c) (rests : w.calls = [])
    (one : w₀.Throughout (before ++ .calls (wrap .looking) :: during) OneByOne)
    (plain : w₀.Throughout (before ++ .calls (wrap .looking) :: during) fun _ g => g.IsPlain)
    (free : w₀.Throughout (before ++ .calls (wrap .looking) :: during) TellsFreely) :
    v.Settles w fun c c' => ∃ q, (as q).Aim c c' := by
  rw [after?_append, hv, Option.bind_some, after?, happen?_calls.2 ⟨hnew, rfl⟩] at h
  cases underway_after? D h₀ hv (one.at hv) h hnew alone plain free with
  | before _ calls => rw [rests] at calls; cases calls
  | on calls => rw [rests] at calls; cases calls
  | refused _ returned accounts => exact ⟨_, returned, .inr ⟨_, rfl, accounts⟩⟩
  | @done q _ returned reached =>
    obtain ⟨n, l, l', active, hl, hl', aim, others⟩ := reached
    exact ⟨_, returned, .inl ⟨rfl, n, l, l', active, hl, hl', ⟨q, aim⟩, others⟩⟩

/-- While no call is in progress both sides agree, and versions count the changes. -/
theorem mirrored_of_rests (h₀ : w₀.IsFresh) (h : w₀.after? hs = some w) (rests : w.calls = [])
    (one : w₀.Throughout hs OneByOne) (plain : w₀.Throughout hs fun _ g => g.IsPlain)
    (free : w₀.Throughout hs TellsFreely) {n : Nat} {l : Line}
    (hl : w.client.session.line? n = some l) (uri : String) :
    l.connection.held uri = l.connection.listed uri ∧
      ∀ d, l.connection.listed uri = some d → d.version ≤ 1 + l.connection.changes uri := by
  have hx : w.correspondence? n = some ⟨l.connection, w.teller? n⟩ :=
    correspondence?_eq_some.2 ⟨l, hl, rfl⟩
  have unhurried : w₀.Throughout hs UnhurriedAt := throughout_of_after?
    (fun hs u g hu one _ => (isSolitary_after? h₀ one hu).unhurried g) one
  have order := inOrder_after? h₀ h plain free unhurried hx
  have same : l.connection.held uri = l.connection.listed uri := by
    cases order.agrees uri with
    | settled same _ => exact same
    | @busy task p hp _ _ =>
      have hp : w.teller? n task = some p := hp
      rw [teller?, telling?, rests] at hp
      cases hp
  exact ⟨same, fun d hd => order.counted uri d (same.trans hd)⟩

/-- A ready client sends a text. -/
def sentHistory : List Happening :=
  connectedHistory ++ [Happening.calls (.showText "a" "x")] ++ List.replicate 7 (.goesOn (.call ⟨2⟩))

/-- It sends another text of the same document. -/
def changedHistory : List Happening :=
  .calls (.showText "a" "y") :: List.replicate 6 (.goesOn (.call ⟨3⟩))

/-- The conditions on a history of calls that write nothing by hand. -/
def keepsTelling (w : Workbench) : Happening → Bool
  | .calls (.notify ..) => false
  | .calls _ => w.calls.isEmpty
  | .goesOn (.call task) =>
    match w.telling? task with
    | none => true
    | some (n, p) => p.message?.all fun m => (w.client.session.line? n).all fun l =>
        (l.connection.write m).isOk
  | _ => true

theorem of_keepsTelling (h : w.keepsTelling g = true) :
    w.OneByOne g ∧ g.IsPlain ∧ w.TellsFreely g := by
  cases g with
  | calls c =>
    cases c with
    | notify m p => cases h
    | _ => exact ⟨List.isEmpty_iff.1 h, trivial, trivial⟩
  | goesOn a =>
    cases a with
    | call task =>
      refine ⟨trivial, trivial, fun n p m l ht hm hl => ?_⟩
      simp only [keepsTelling, ht, hm, hl, Option.all_some] at h
      cases hw : l.connection.write m with
      | ok c => exact ⟨c, rfl⟩
      | error e => rw [hw] at h; cases h
    | _ => exact ⟨trivial, trivial, trivial⟩
  | _ => exact ⟨trivial, trivial, trivial⟩

end Workbench

end LanguageClient
