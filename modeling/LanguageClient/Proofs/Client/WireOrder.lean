import LanguageClient.Proofs.Client.Payloads
import LanguageClient.Proofs.Client.SingleConnection
import LanguageClient.Proofs.Connection.Slots

/-!
# Highlights in the order of the wire

Of all the highlights that come for a document the last should be the ones that are known of it in the
end.  Highlights that the server sends on its own account keep their order, for they all go through
the queue.  Those that answer a request do not go through it: the action shows them itself, and when
it does so depends on nothing but who takes the next step.

* `Workbench.heard` — the highlights for a document that come off the wire in a history.
* `Workbench.carries?` and `Client.queued` — those that came and are not known yet.
* `Delivery` — what a happening does to highlights on their way (`happen?_delivery`).
* `Workbench.InTurn` — nothing that is queued is on its way together with an answer.
* **`last_highlights_are_known`** — then the last highlights off the wire are those that are known in
  the end.
* **`last_highlights_are_lost`** — and otherwise they may not be.
-/

namespace LanguageClient

open Session

namespace Workbench

/-! ## Highlights on their way -/

/-- The set for a document that a call has got and has still to show. -/
def carries? (w : Workbench) (uri : String) (task : TaskId) : Option (List Symbol) :=
  (w.calls.get? task).bind (·.carries? uri w.client.session)

/-- The set for a document that a response brings to an action that waits for it in a slot. -/
def settles? (w : Workbench) (uri : String) (n slot : Nat) (r : Response) : Option (List Symbol) :=
  w.calls.keys.findSome? fun task =>
    ((w.calls.get? task).bind (·.awaits? n slot)).bind (·.payload? uri r)

/-- The set for a document that the reader of a line takes up with its next step. -/
def takesUp? (w : Workbench) (uri : String) (n : Nat) : Option (List Symbol) :=
  (w.client.session.line? n).bind fun l =>
    match l.connection.reader with
    | .heard (.response r) =>
      (r.id.bind l.connection.claimant?).bind fun (_, slot) => w.settles? uri n slot r
    | _ => l.connection.pushes? w.client.session.handlers uri

/-- The set for a document that comes off the wire with this.  A reader that is told to stop takes
nothing up, unless it goes on all the same. -/
def hears? (w : Workbench) (uri : String) : Happening → Option (List Symbol)
  | .goesOn (.reader n) =>
    if (w.client.session.line? n).any (·.connection.readerAborted) then none else w.takesUp? uri n
  | .goesOn (.lateReader n) => w.takesUp? uri n
  | _ => none

/-- The sets for a document that come off the wire in a history, the first one first. -/
def heard (w : Workbench) (uri : String) (hs : List Happening) : List (List Symbol) :=
  w.record (fun u g => u.hears? uri g) hs

/-- Everything that came for a document is known. -/
def IsUpToDate (w : Workbench) (uri : String) : Prop :=
  w.client.queued uri = [] ∧ ∀ task, w.carries? uri task = none

/-- An answer that is on its way is alone. -/
def InTurn (w : Workbench) (uri : String) : Prop :=
  ∀ task, w.carries? uri task ≠ none →
    w.client.queued uri = [] ∧ ∀ other, w.carries? uri other ≠ none → other = task

/-- No request of an action is answered before it is written. -/
def IsTimely (w : Workbench) : Prop :=
  ∀ task call n slot, w.calls.get? task = some call → call.writes? = some (n, slot) →
    w.client.session.answerIn? n slot = none

/-- A document is open, nobody is going to close it, and people only add events to the queue. -/
structure StaysOpen (w : Workbench) (uri : String) (g : Happening) : Prop where
  isOpen : w.client.editor.isOpen uri = true
  kept : .event (.documentClosed uri) ∉ w.client.queue
  edits : ∀ f, g = .edits f → (f w.client).overlay = w.client.overlay ∧
    ∃ events : List EditorEvent, (f w.client).queue = w.client.queue ++ events.map .event

/-- A call that there is not carries nothing. -/
theorem carries?_of_not_mem {w : Workbench} {uri : String} {task : TaskId}
    (h : task ∉ w.calls.keys) : w.carries? uri task = none := by
  rw [carries?, Table.get?_eq_none.2 h]
  rfl

instance (w : Workbench) (uri : String) : Decidable (w.IsUpToDate uri) :=
  decidable_of_iff
    (w.client.queued uri = [] ∧ ∀ task ∈ w.calls.keys, w.carries? uri task = none)
    (and_congr_right fun _ => ⟨fun h task =>
      if hmem : task ∈ w.calls.keys then h task hmem else carries?_of_not_mem hmem,
      fun h task _ => h task⟩)

instance (w : Workbench) (uri : String) : Decidable (w.InTurn uri) :=
  decidable_of_iff
    (∀ task ∈ w.calls.keys, w.carries? uri task ≠ none →
      w.client.queued uri = [] ∧ ∀ other ∈ w.calls.keys, w.carries? uri other ≠ none → other = task)
    ⟨fun h task htask =>
      have hmem := not_imp_comm.1 carries?_of_not_mem htask
      (h task hmem htask).imp_right fun alone other hother =>
        alone other (not_imp_comm.1 carries?_of_not_mem hother) hother,
     fun h task _ htask => (h task htask).imp_right fun alone other _ => alone other⟩

instance (w : Workbench) : Decidable w.IsTimely :=
  decidable_of_iff
    (∀ task ∈ w.calls.keys, ∀ at' ∈ (w.calls.get? task).bind (·.writes?),
      w.client.session.answerIn? at'.1 at'.2 = none)
    ⟨fun h task call n slot hcall hwrites =>
      have hmem := not_imp_comm.1 Table.get?_eq_none.2 (Option.ne_none_iff_exists'.2 ⟨call, hcall⟩)
      h task hmem (n, slot) (by rw [hcall]; exact hwrites),
     fun h task _ at' hat => by
      obtain ⟨call, hcall, hwrites⟩ := Option.bind_eq_some_iff.1 hat
      exact h task call at'.1 at'.2 hcall hwrites⟩

/-! ## What others do to what a call carries -/

/-- Where the answers on a line come from. -/
def IsTraced (w : Workbench) : Prop :=
  ∀ n x, w.exchange? n = some x → ∃ events, Exchange.IsCorrelated events x ∧ x.IsUnanswered

theorem traced_after? {w₀ w : Workbench} {hs : List Happening} (h₀ : w₀.IsFresh)
    (h : w₀.after? hs = some w) : w.IsTraced := fun n _ hx =>
  ⟨w₀.trace n hs, exchange_induction
    (P := fun events x => Exchange.IsCorrelated events x ∧ x.IsUnanswered)
    (fun _ hx => ⟨hx.isCorrelated, hx.isUnanswered⟩)
    (fun _ _ _ _ hx hstep => ⟨hx.1.step hstep, hx.2.step hx.1 hstep⟩) h₀ h hx⟩

theorem answerIn?_of_exchange {w : Workbench} {n : Nat} {x : Exchange} (hx : w.exchange? n = some x)
    (slot : Nat) : w.client.session.answerIn? n slot = x.connection.answers.get? slot := by
  obtain ⟨l, hl, rfl⟩ := exchange?_eq_some.1 hx
  rw [answerIn?, hl]
  rfl

variable {w w' : Workbench} {g : Happening} {uri : String}

/-- **What a call carries is changed by others only through the answer that it waits for.** -/
theorem carries?_of_turn (uri : String) (hw : w.Sound) (ht : w.IsTraced) (turn : w.Turn w' g)
    {task : TaskId} (hcall : w'.calls.get? task = w.calls.get? task) :
    w'.carries? uri task = w.carries? uri task ∨
      ∃ n m slot r kind, w.event? n g = some (.heard r (some (m, slot))) ∧
        (w.calls.get? task).bind (·.awaits? n slot) = some kind ∧ w.carries? uri task = none ∧
        w'.carries? uri task = kind.payload? uri r := by
  cases hc : w.calls.get? task with
  | none =>
    refine .inl ?_
    rw [carries?, hcall, hc, carries?, hc]
    rfl
  | some call =>
    rw [hc] at hcall
    have before : w.carries? uri task = call.carries? uri w.client.session := by
      rw [carries?, hc]
      rfl
    have after : w'.carries? uri task = call.carries? uri w'.client.session := by
      rw [carries?, hcall]
      rfl
    rcases call.carries?_cases uri with ⟨n, slot, kind, hawaits⟩ | hsame
    · obtain ⟨hbefore, id, deadline, hplace⟩ := call.carries?_of_awaits hawaits uri w.client.session
      obtain ⟨hafter, _⟩ := call.carries?_of_awaits hawaits uri w'.client.session
      have hp : w.place? task = some (n, .asks (.waiting id slot deadline)) := by
        rw [place?, hc]
        exact hplace
      have hp' : w'.place? task = some (n, .asks (.waiting id slot deadline)) := by
        rw [place?, hcall]
        exact hplace
      cases hx : w.exchange? n with
      | none =>
        -- Nobody waits on a line that there is not.
        have := hw.absent task n _ hp (exchange?_eq_none.1 hx)
        simp at this
      | some x =>
        obtain ⟨x', hx', hstep⟩ := turn.exchange hx
        obtain ⟨events, correlated, unanswered⟩ := ht n x hx
        rw [answerIn?_of_exchange hx] at hbefore
        rw [answerIn?_of_exchange hx'] at hafter
        obtain ⟨l, hl, rfl⟩ := exchange?_eq_some.1 hx
        obtain ⟨l', hl', rfl⟩ := exchange?_eq_some.1 hx'
        have parties : w'.traffic? n task = w.traffic? n task := traffic?_congr (hp'.trans hp.symm) n
        rcases Exchange.answer_of_waits correlated unanswered hstep (traffic?_eq_some.2 hp) parties with
          hsame | ⟨hnone, ⟨r, m, he, hr⟩ | ⟨_, hfails⟩⟩
        · exact .inl (by rw [before, after, hbefore, hafter, hsame])
        · refine .inr ⟨n, m, slot, r, kind, he, hawaits, ?_, ?_⟩
          · rw [before, hbefore, hnone]
            rfl
          · rw [after, hafter, hr]
            rfl
        · refine .inl ?_
          rw [before, after, hbefore, hafter, hnone]
          cases hr : l'.connection.answers.get? slot with
          | none => rfl
          | some r =>
            obtain ⟨rid, error, rfl⟩ := hfails r hr
            exact kind.brings?_error uri _
    · exact .inl (by rw [before, after]; exact hsame _ _)

/-- While no answer is taken up, nothing changes of what a call carries. -/
theorem carries?_of_quiet (uri : String) (hw : w.Sound) (ht : w.IsTraced) (turn : w.Turn w' g)
    (quiet : ∀ n r claimant, w.event? n g ≠ some (.heard r claimant)) {task : TaskId}
    (hcall : w'.calls.get? task = w.calls.get? task) :
    w'.carries? uri task = w.carries? uri task := by
  rcases carries?_of_turn uri hw ht turn hcall with hsame | ⟨n, m, slot, r, _, he, _⟩
  · exact hsame
  · exact absurd he (quiet n r _)

/-- A call takes no answer up for others. -/
theorem event?_call_ne_heard (n : Nat) (task : TaskId) (r : Response)
    (claimant : Option (UInt64 × Nat)) :
    w.event? n (.goesOn (.call task)) ≠ some (.heard r claimant) := by
  intro he
  obtain ⟨x, _, he⟩ := Option.bind_eq_some_iff.1 he
  simp only [Exchange.event?] at he
  split at he <;> try cases he
  obtain ⟨_, _, he⟩ := Option.map_eq_some_iff.1 he
  cases he

/-! ## Deliveries -/

/-- What a happening does to the highlights for a document that are on their way. -/
inductive Delivery (uri : String) (w w' : Workbench) (g : Happening) : Prop
  /-- A set comes off the wire, and is queued or carried. -/
  | hears {symbols : List Symbol} (h : w.hears? uri g = some symbols)
      (arrives : (w'.client.queued uri).getLast? = some symbols ∨
        ∃ task, w'.carries? uri task = some symbols)
  /-- The dispatcher handles the next set. -/
  | handles {symbols : List Symbol} (h : w.hears? uri g = none)
      (carries : ∀ task, w'.carries? uri task = w.carries? uri task)
      (queued : w.client.queued uri = symbols :: w'.client.queued uri)
      (cached : w'.client.overlay.cached? uri = some symbols)
  /-- A call shows what it carries. -/
  | shows {task : TaskId} {symbols : List Symbol} (h : w.hears? uri g = none)
      (before : w.carries? uri task = some symbols) (after : w'.carries? uri task = none)
      (others : ∀ other, other ≠ task → w'.carries? uri other = w.carries? uri other)
      (shows : w.client.Shows uri symbols w'.client)
  | aside (h : w.hears? uri g = none) (carries : ∀ task, w'.carries? uri task = w.carries? uri task)
      (beside : w.client.Beside uri w'.client)

/-- The step of a call. -/
theorem delivery_call (hw : w.Sound) (ht : w.IsTraced) (timely : w.IsTimely)
    (hopen : w.client.editor.isOpen uri = true) {task : TaskId}
    (h : w.happen? (.goesOn (.call task)) = some w') : Delivery uri w w' (.goesOn (.call task)) := by
  have others (other : TaskId) (hne : other ≠ task) : w'.carries? uri other = w.carries? uri other := by
    refine carries?_of_quiet uri hw ht (happen?_turn hw h) (fun n => event?_call_ne_heard n task) ?_
    obtain ⟨call, hcall, ⟨_, _, _, rfl⟩ | ⟨_, _, _, rfl⟩⟩ := act?_call h
    · rw [Table.get?_set, if_neg (Ne.symm hne)]
    · rw [Table.get?_erase, if_neg (Ne.symm hne)]
  obtain ⟨call, hcall, hstep⟩ := act?_call h
  have before : w.carries? uri task = call.carries? uri w.client.session := by
    rw [carries?, hcall]
    rfl
  have delivers : w.client.Delivers uri w'.client (w.carries? uri task) (w'.carries? uri task) := by
    have step := call.step_carries task hopen (timely task call · · hcall)
    rw [← before] at step
    rcases hstep with ⟨client, call', hstep, rfl⟩ | ⟨client, r, hstep, rfl⟩ <;> rw [hstep] at step
    · rw [show carries? { w with client, calls := w.calls.set task call' } uri task =
          call'.carries? uri client.session by rw [carries?, Table.get?_set, if_pos rfl]; rfl]
      exact step
    · rw [show carries? { w with
            client, calls := w.calls.erase task, returned := w.returned ++ [(task, r)] } uri task =
          none by rw [carries?, Table.get?_erase, if_pos rfl]; rfl]
      exact step
  rcases delivers with ⟨beside, hsame⟩ | ⟨symbols, hsome, hnone, shows⟩
  · refine .aside rfl (fun other => ?_) beside
    by_cases e : other = task
    · rw [e, hsame]
    · exact others other e
  · exact .shows rfl hsome hnone others shows

/-! ### The step of a reader -/

section

variable {n : Nat} {a : Activity} {l : Line}

/-- What a reader that is not about to stop does to the answers on a line. -/
theorem event?_reads (ha : a = .reader n ∨ a = .lateReader n)
    (hl : w.client.session.line? n = some l)
    (haborted : a = .reader n → l.connection.readerAborted = false) (m : Nat) :
    w.event? m (.goesOn a) =
      if n = m then Exchange.event? ⟨l.connection, w.traffic? n⟩ .reader else none := by
  by_cases e : n = m
  · subst e
    have hx : w.exchange? n = some ⟨l.connection, w.traffic? n⟩ := exchange?_eq_some.2 ⟨l, hl, rfl⟩
    rw [if_pos rfl, event?, hx]
    rcases ha with rfl | rfl
    · simp [haborted rfl]
    · simp
  · rw [if_neg e, event?]
    rcases ha with rfl | rfl <;> cases w.exchange? m <;> simp [e]

theorem hears?_reads (uri : String) (ha : a = .reader n ∨ a = .lateReader n)
    (hl : w.client.session.line? n = some l)
    (haborted : a = .reader n → l.connection.readerAborted = false) :
    w.hears? uri (.goesOn a) = w.takesUp? uri n := by
  rcases ha with rfl | rfl
  · simp [hears?, hl, haborted rfl]
  · rfl

/-- A reader that stops takes up nothing. -/
theorem event?_stops (hl : w.client.session.line? n = some l)
    (haborted : l.connection.readerAborted = true) (m : Nat) :
    w.event? m (.goesOn (.reader n)) = none := by
  rw [event?]
  cases hx : w.exchange? m with
  | none => rfl
  | some x =>
    refine if_neg ?_
    rintro ⟨rfl, hfalse⟩
    obtain ⟨l', hl', rfl⟩ := exchange?_eq_some.1 hx
    obtain rfl : l = l' := Option.some.inj (hl.symm.trans hl')
    rw [haborted] at hfalse
    cases hfalse

/-- A response that settles a request is carried by whoever waits for it. -/
theorem carries?_of_settles (turn : w.Turn w' g) (hcalls : w'.calls = w.calls)
    (hl : w.client.session.line? n = some l) {r : Response} {id : UInt64} {slot : Nat}
    (he : w.event? n g = some (.heard r (some (id, slot)))) {symbols : List Symbol}
    (h : w.settles? uri n slot r = some symbols) : ∃ task, w'.carries? uri task = some symbols := by
  obtain ⟨task, _, h⟩ := List.exists_of_findSome?_eq_some h
  obtain ⟨kind, hawaits, hpayload⟩ := Option.bind_eq_some_iff.1 h
  obtain ⟨call, hcall, hawaits⟩ := Option.bind_eq_some_iff.1 hawaits
  obtain ⟨x', hx', hstep⟩ := turn.exchange (exchange?_eq_some.2 ⟨l, hl, rfl⟩)
  rw [he] at hstep
  refine ⟨task, ?_⟩
  rw [carries?, hcalls, hcall, Option.bind_some, (call.carries?_of_awaits hawaits uri _).1,
    answerIn?_of_exchange hx', Exchange.answer_of_heard hstep]
  exact hpayload

/-- A response that brings nothing to anybody changes nothing. -/
theorem carries?_of_unsettled (hw : w.Sound) (ht : w.IsTraced) (turn : w.Turn w' g)
    (hcalls : w'.calls = w.calls) {r : Response} {claimant : Option (UInt64 × Nat)}
    (only : ∀ m r' claimant', w.event? m g = some (.heard r' claimant') →
      m = n ∧ r' = r ∧ claimant' = claimant)
    (h : (claimant.bind fun (_, slot) => w.settles? uri n slot r) = none) (task : TaskId) :
    w'.carries? uri task = w.carries? uri task := by
  have hget : w'.calls.get? task = w.calls.get? task := by rw [hcalls]
  rcases carries?_of_turn uri hw ht turn hget with
    hsame | ⟨m, id, slot, r', kind, he, hawaits, hbefore, hafter⟩
  · exact hsame
  · obtain ⟨rfl, rfl, rfl⟩ := only m r' _ he
    obtain ⟨call, hcall, _⟩ := Option.bind_eq_some_iff.1 hawaits
    have hmem := not_imp_comm.1 Table.get?_eq_none.2 (Option.ne_none_iff_exists'.2 ⟨call, hcall⟩)
    have hnone := List.findSome?_eq_none_iff.1 h task hmem
    rw [hawaits, Option.bind_some] at hnone
    rw [hbefore, hafter, hnone]

/-- The reader takes up a response. -/
theorem delivery_response (hw : w.Sound) (ht : w.IsTraced) (turn : w.Turn w' (.goesOn a))
    (hcalls : w'.calls = w.calls) (ha : a = .reader n ∨ a = .lateReader n)
    (hl : w.client.session.line? n = some l)
    (haborted : a = .reader n → l.connection.readerAborted = false) {r : Response}
    (hr : l.connection.reader = .heard (.response r)) (beside : w.client.Beside uri w'.client) :
    Delivery uri w w' (.goesOn a) := by
  have hears : w.hears? uri (.goesOn a) =
      (r.id.bind l.connection.claimant?).bind fun (_, slot) => w.settles? uri n slot r := by
    rw [hears?_reads uri ha hl haborted, takesUp?, hl, Option.bind_some, hr]
  have event (m : Nat) : w.event? m (.goesOn a) =
      if n = m then some (.heard r (r.id.bind l.connection.claimant?)) else none := by
    rw [event?_reads ha hl haborted, Exchange.event?, hr]
  cases hsettles : w.hears? uri (.goesOn a) with
  | none =>
    have only (m : Nat) (r' : Response) (claimant' : Option (UInt64 × Nat))
        (he : w.event? m (.goesOn a) = some (.heard r' claimant')) :
        m = n ∧ r' = r ∧ claimant' = r.id.bind l.connection.claimant? := by
      rw [event m] at he
      split at he
      next hm =>
        cases he
        exact ⟨hm.symm, rfl, rfl⟩
      next => cases he
    exact .aside hsettles (carries?_of_unsettled hw ht turn hcalls only (hears.symm.trans hsettles))
      beside
  | some symbols =>
    refine .hears hsettles (.inr ?_)
    rw [hears] at hsettles
    obtain ⟨⟨id, slot⟩, hclaim, hsettles⟩ := Option.bind_eq_some_iff.1 hsettles
    have he := event n
    rw [if_pos rfl, hclaim] at he
    exact carries?_of_settles turn hcalls hl he hsettles

/-- The reader takes up something else, or goes on otherwise. -/
theorem delivery_push (hw : w.Sound) (ht : w.IsTraced) (turn : w.Turn w' (.goesOn a))
    (hcalls : w'.calls = w.calls) (ha : a = .reader n ∨ a = .lateReader n)
    (hl : w.client.session.line? n = some l)
    (haborted : a = .reader n → l.connection.readerAborted = false)
    (hr : ∀ r, l.connection.reader ≠ .heard (.response r))
    (queued : w'.client.queued uri =
      w.client.queued uri ++ (l.connection.pushes? w.client.session.handlers uri).toList)
    (cached : w'.client.overlay.cached? uri = w.client.overlay.cached? uri) :
    Delivery uri w w' (.goesOn a) := by
  have hears : w.hears? uri (.goesOn a) = l.connection.pushes? w.client.session.handlers uri := by
    rw [hears?_reads uri ha hl haborted, takesUp?, hl, Option.bind_some]
    split
    next r he => exact absurd he (hr r)
    next => rfl
  have quiet (m : Nat) (r : Response) (claimant : Option (UInt64 × Nat)) :
      w.event? m (.goesOn a) ≠ some (.heard r claimant) := by
    rw [event?_reads ha hl haborted]
    split
    next =>
      intro he
      simp only [Exchange.event?] at he
      split at he
      next r' he' => exact hr r' he'
      next => cases he
      next => cases he
    next => exact (Option.some_ne_none _).symm
  rw [← hears] at queued
  cases hpushes : w.hears? uri (.goesOn a) with
  | none =>
    rw [hpushes] at queued
    exact .aside hpushes (fun task => carries?_of_quiet uri hw ht turn quiet (by rw [hcalls]))
      ⟨queued.trans (List.append_nil _), cached⟩
  | some symbols =>
    rw [hpushes] at queued
    refine .hears hpushes (.inl ?_)
    rw [queued]
    exact List.getLast?_concat ..

theorem delivery_reader (hw : w.Sound) (ht : w.IsTraced) (ha : a = .reader n ∨ a = .lateReader n)
    (h : w.happen? (.goesOn a) = some w') : Delivery uri w w' (.goesOn a) := by
  have turn := happen?_turn hw h
  obtain ⟨l, c, signals, hl, hw', hread⟩ := act?_reader ha h
  have hcalls : w'.calls = w.calls := by rw [hw']
  have hclient : w'.client = w.client.absorbAll (w.client.session.setConnection n c, signals) := by
    rw [hw']
  have cached : w'.client.overlay.cached? uri = w.client.overlay.cached? uri := by
    rw [hclient, Client.overlay_absorbAll]
  rcases hread with ⟨rfl, hstop, rfl⟩ | ⟨haborted, hstep⟩
  · have haborted := (Reader.stop?_eq hstop).1
    have quiet (m : Nat) (r : Response) (claimant : Option (UInt64 × Nat)) :
        w.event? m (.goesOn (.reader n)) ≠ some (.heard r claimant) := by
      rw [event?_stops hl haborted]
      nofun
    exact .aside (by simp [hears?, hl, haborted])
      (fun task => carries?_of_quiet uri hw ht turn quiet (by rw [hcalls]))
      ⟨by rw [hclient]; rfl, cached⟩
  · have queued : w'.client.queued uri =
        w.client.queued uri ++ (l.connection.pushes? w.client.session.handlers uri).toList := by
      rw [hclient]
      exact Client.queued_absorbAll hstep w.client _ uri
    by_cases hresponse : ∃ r, l.connection.reader = .heard (.response r)
    · obtain ⟨r, hr⟩ := hresponse
      rw [Connection.pushes?, hr] at queued
      exact delivery_response hw ht turn hcalls ha hl haborted hr
        ⟨queued.trans (List.append_nil _), cached⟩
    · exact delivery_push hw ht turn hcalls ha hl haborted (fun r he => hresponse ⟨r, he⟩) queued cached

end

/-! ### Whatever happens -/

/-- Nobody but a call and the reader of a line changes what a call carries. -/
theorem carries?_of_others (uri : String) (hw : w.Sound) (ht : w.IsTraced) (h : w.happen? g = some w')
    (hcall : ∀ task, g ≠ .goesOn (.call task)) (hreader : ∀ n, g ≠ .goesOn (.reader n))
    (hlate : ∀ n, g ≠ .goesOn (.lateReader n)) (task : TaskId) :
    w'.carries? uri task = w.carries? uri task := by
  have quiet (n : Nat) (r : Response) (claimant : Option (UInt64 × Nat)) :
      w.event? n g ≠ some (.heard r claimant) := by
    cases g with
    | goesOn a =>
      intro he
      obtain ⟨x, _, he⟩ := Option.bind_eq_some_iff.1 he
      cases a with
      | call task => exact hcall task rfl
      | reader m => exact hreader m rfl
      | lateReader m => exact hlate m rfl
      | _ => cases he
    | _ => nofun
  have unchanged (hget : w'.calls.get? task = w.calls.get? task) :
      w'.carries? uri task = w.carries? uri task :=
    carries?_of_quiet uri hw ht (happen?_turn hw h) quiet hget
  rcases happen?_cases h with ⟨task', rfl⟩ | ⟨call, rfl, hnew, rfl⟩ | ⟨hcalls, -, -, -⟩
  · exact absurd rfl (hcall task')
  · rcases hw.get?_add call task with ⟨hbefore, hget⟩ | hsame
    · rw [carries?, hget, carries?, hbefore]
      exact Call.carries?_of_isNew hnew uri _
    · exact unchanged hsame
  · exact unchanged (by rw [hcalls])

/-- Nobody but the dispatcher, a call and the reader of a line changes what is queued or cached for a
document that stays open. -/
theorem StaysOpen.beside (stays : w.StaysOpen uri g) (h : w.happen? g = some w')
    (hcall : ∀ task, g ≠ .goesOn (.call task)) (hreader : ∀ n, g ≠ .goesOn (.reader n))
    (hlate : ∀ n, g ≠ .goesOn (.lateReader n)) (hdispatcher : g ≠ .goesOn .dispatcher) :
    w.client.Beside uri w'.client := by
  cases g with
  | goesOn a =>
    cases a with
    | call task => exact absurd rfl (hcall task)
    | reader n => exact absurd rfl (hreader n)
    | lateReader n => exact absurd rfl (hlate n)
    | dispatcher => exact absurd rfl hdispatcher
    | opener =>
      obtain ⟨_, _, _, _, rfl⟩ := act?_opener h
      exact ⟨rfl, rfl⟩
    | _ =>
      obtain ⟨_, _, rfl⟩ := Option.map_eq_some_iff.1 h
      exact ⟨rfl, rfl⟩
  | calls call =>
    obtain ⟨_, rfl⟩ := happen?_calls.1 h
    exact ⟨rfl, rfl⟩
  | opens link peer process =>
    obtain ⟨_, rfl⟩ := answer?_eq_some.1 h
    exact ⟨rfl, rfl⟩
  | refuses e =>
    obtain ⟨_, rfl⟩ := answer?_eq_some.1 h
    exact ⟨rfl, rfl⟩
  | edits f =>
    cases h
    obtain ⟨overlay, events, queue⟩ := stays.edits f rfl
    refine ⟨?_, congrArg (Overlay.cached? · uri) overlay⟩
    have nothing : events.filterMap (Dispatch.payload? uri ∘ .event) = [] :=
      List.filterMap_eq_nil_iff.2 fun _ _ => rfl
    show (f w.client).queued uri = w.client.queued uri
    rw [Client.queued, queue, List.filterMap_append, List.filterMap_map, nothing]
    exact List.append_nil _
  | _ => cases h; exact ⟨rfl, rfl⟩

/-- **Whatever happens delivers highlights in one of four ways**, while the document stays open. -/
theorem happen?_delivery (hw : w.Sound) (ht : w.IsTraced) (timely : w.IsTimely)
    (stays : w.StaysOpen uri g) (h : w.happen? g = some w') : Delivery uri w w' g := by
  by_cases hcall : ∃ task, g = .goesOn (.call task)
  · obtain ⟨task, rfl⟩ := hcall
    exact delivery_call hw ht timely stays.isOpen h
  by_cases hreader : ∃ n, g = .goesOn (.reader n)
  · obtain ⟨n, rfl⟩ := hreader
    exact delivery_reader hw ht (.inl rfl) h
  by_cases hlate : ∃ n, g = .goesOn (.lateReader n)
  · obtain ⟨n, rfl⟩ := hlate
    exact delivery_reader hw ht (.inr rfl) h
  have heard : w.hears? uri g = none := by
    unfold hears?
    split
    next n => exact absurd ⟨n, rfl⟩ hreader
    next n => exact absurd ⟨n, rfl⟩ hlate
    next => rfl
  have carries := carries?_of_others uri hw ht h (fun task e => hcall ⟨task, e⟩)
    (fun n e => hreader ⟨n, e⟩) fun n e => hlate ⟨n, e⟩
  by_cases hdispatcher : g = .goesOn .dispatcher
  · subst hdispatcher
    obtain ⟨client, hdispatch, rfl⟩ := Option.map_eq_some_iff.1 h
    rcases Client.dispatch?_cases hdispatch stays.isOpen stays.kept with
      beside | ⟨symbols, queued, cached⟩
    · exact .aside heard carries beside
    · exact .handles heard carries queued cached
  · exact .aside heard carries (stays.beside h (fun task e => hcall ⟨task, e⟩)
      (fun n e => hreader ⟨n, e⟩) (fun n e => hlate ⟨n, e⟩) hdispatcher)

/-! ## The last highlights -/

/-- Where the last set is that came for a document: on its way, or known. -/
structure IsCurrent (w : Workbench) (uri : String) (last : Option (List Symbol)) : Prop where
  queued : ∀ symbols, (w.client.queued uri).getLast? = some symbols → last = some symbols
  carried : ∀ task symbols, w.carries? uri task = some symbols → last = some symbols
  known : w.IsUpToDate uri → w.client.overlay.cached? uri = last

theorem IsUpToDate.isCurrent (h : w.IsUpToDate uri) :
    w.IsCurrent uri (w.client.overlay.cached? uri) where
  queued symbols hs := by
    rw [h.1] at hs
    cases hs
  carried task symbols hs := by
    rw [h.2 task] at hs
    cases hs
  known _ := rfl

/-- **A delivery keeps the last set current**, if answers on their way are alone before and after. -/
theorem Delivery.isCurrent {last : Option (List Symbol)} (d : Delivery uri w w' g)
    (current : w.IsCurrent uri last) (turn : w.InTurn uri) (turn' : w'.InTurn uri) :
    w'.IsCurrent uri ((w.hears? uri g).or last) := by
  cases d with
  | @hears symbols h arrives =>
    rw [h, Option.some_or]
    rcases arrives with hqueued | ⟨task, hcarried⟩
    · have queue : w'.client.queued uri ≠ [] := by
        intro hnil
        rw [hnil] at hqueued
        cases hqueued
      refine ⟨fun _ hs => hqueued.symm.trans hs, fun task _ hs => ?_, fun hend => ?_⟩
      · exact absurd (turn' task (Option.ne_none_iff_exists'.2 ⟨_, hs⟩)).1 queue
      · exact absurd hend.1 queue
    · obtain ⟨queue, alone⟩ := turn' task (Option.ne_none_iff_exists'.2 ⟨_, hcarried⟩)
      refine ⟨fun _ hs => ?_, fun other _ hs => ?_, fun hend => ?_⟩
      · rw [queue] at hs
        cases hs
      · obtain rfl := alone other (Option.ne_none_iff_exists'.2 ⟨_, hs⟩)
        exact hcarried.symm.trans hs
      · rw [hend.2 task] at hcarried
        cases hcarried
  | @handles symbols h carries queued cached =>
    rw [h, Option.none_or]
    refine ⟨fun s hs => current.queued s ?_, fun task s hs => current.carried task s ?_,
      fun hend => ?_⟩
    · rw [queued, List.getLast?_cons, hs]
      rfl
    · rw [← carries task]
      exact hs
    · rw [cached, current.queued symbols]
      rw [queued, hend.1]
      rfl
  | @shows task symbols h before after others shows =>
    rw [h, Option.none_or]
    obtain ⟨queue, alone⟩ := turn task (Option.ne_none_iff_exists'.2 ⟨_, before⟩)
    refine ⟨fun s hs => ?_, fun other s hs => ?_, fun _ => ?_⟩
    · rw [shows.queued, queue] at hs
      cases hs
    · have hne : other ≠ task := by
        rintro rfl
        rw [after] at hs
        cases hs
      rw [others other hne] at hs
      exact absurd (alone other (Option.ne_none_iff_exists'.2 ⟨_, hs⟩)) hne
    · rw [shows.cached, current.carried task symbols before]
  | aside h carries beside =>
    rw [h, Option.none_or]
    refine ⟨fun s hs => current.queued s ?_, fun task s hs => current.carried task s ?_,
      fun hend => ?_⟩
    · rw [← beside.queued]
      exact hs
    · rw [← carries task]
      exact hs
    · rw [beside.cached]
      exact current.known ⟨beside.queued.symm.trans hend.1, fun task =>
        (carries task).symm.trans (hend.2 task)⟩

theorem heard_concat {hs : List Happening} {v : Workbench} (h : v.after? hs = some w)
    (g : Happening) : v.heard uri (hs ++ [g]) = v.heard uri hs ++ (w.hears? uri g).toList :=
  record_concat _ h g

/-- **The last highlights off the wire are those that are known in the end.**

From any point of a history at which everything that came for a document is known, to any later one
at which it is again: if the document stays open meanwhile, no request is answered before it is
written, and no answer with highlights for the document is on its way together with others, then what
is known for the document in the end is the last set that came off the wire, by whichever way; and if
none came, what was known before. -/
theorem last_highlights_are_known {w₀ v w : Workbench} {before hs : List Happening} {uri : String}
    (h₀ : w₀.IsFresh) (hv : w₀.after? before = some v) (hw : v.after? hs = some w)
    (throughout : v.Throughout hs fun u g => u.StaysOpen uri g ∧ u.IsTimely ∧ u.InTurn uri)
    (hbegin : v.IsUpToDate uri) (hend : w.IsUpToDate uri) :
    w.client.overlay.cached? uri =
      (v.heard uri hs).getLast?.or (v.client.overlay.cached? uri) := by
  have current : w.InTurn uri →
      w.IsCurrent uri ((v.heard uri hs).getLast?.or (v.client.overlay.cached? uri)) := by
    refine after?_induction (P := fun hs u =>
      (v.Throughout hs fun u g => u.StaysOpen uri g ∧ u.IsTimely ∧ u.InTurn uri) → u.InTurn uri →
        u.IsCurrent uri ((v.heard uri hs).getLast?.or (v.client.overlay.cached? uri)))
      (fun _ _ => hbegin.isCurrent) ?_ hw throughout
    intro hs g u u' hu ih hstep throughout turn'
    obtain ⟨stays, timely, turn⟩ := throughout.last hu
    have reached := after?_trans hv hu
    have delivery :=
      happen?_delivery (sound_after? h₀ reached) (traced_after? h₀ reached) timely stays hstep
    have step := delivery.isCurrent (ih throughout.of_concat turn) turn turn'
    rw [heard_concat hu]
    cases hg : u.hears? uri g with
    | none =>
      rw [hg, Option.none_or] at step
      rw [Option.toList_none, List.append_nil]
      exact step
    | some symbols =>
      rw [hg, Option.some_or] at step
      rw [Option.toList_some, List.getLast?_concat, Option.some_or]
      exact step
  exact (current fun task hne => absurd (hend.2 task) hne).known hend

/-! ## Two ways to deliver the same highlights -/

/-- A ready client shows a document. -/
def shownHistory : List Happening :=
  connectedHistory ++ [Happening.handles [(publishHighlightMethod, .overlay)], .edits fun c =>
    { c with editor := ((c.editor.openDocument "a" "").showDocument "a").toOption.elim c.editor (·.2) }]

/-- Somebody asks for the document to be loaded. -/
def askedHistory : List Happening :=
  [Happening.calls (.run .load true .flushing), .goesOn (.call ⟨2⟩), .goesOn .dispatcher]
  ++ List.replicate 19 (.goesOn (.call ⟨2⟩))

/-- The one name that the server finds in the document. -/
def loadedNames : List Symbol := [⟨⟨⟨0, 0⟩, ⟨0, 1⟩⟩, .fnDef⟩]

/-- The server answers with this name, and the reader takes it up. -/
def loadedHistory : List Happening :=
  [sends ("\x7b\"jsonrpc\":\"2.0\",\"id\":2,\"result\":\x7b\"uri\":\"a\"," ++
    "\"symbols\":[\x7b\"kind\":1,\"range\":[[0,0],[0,1]]\x7d]\x7d\x7d")]
  ++ List.replicate 2 (.goesOn (.reader 0))

/-- The server says on its own account that there are no names, and the reader takes it up. -/
def pushedHistory : List Happening :=
  [sends ("\x7b\"jsonrpc\":\"2.0\",\"method\":\"aya/publishSyntaxHighlight\"," ++
    "\"params\":\x7b\"uri\":\"a\"\x7d\x7d")]
  ++ List.replicate 2 (.goesOn (.reader 0))

/-- The load shows what it has got and returns. -/
def routedHistory : List Happening :=
  List.replicate 3 (.goesOn (.call ⟨2⟩)) ++ [Happening.goesOn .dispatcher, .goesOn (.call ⟨2⟩)]

/-- What the server says on its own account is shown before the load has its answer. -/
def orderlyHistory : List Happening :=
  askedHistory ++ pushedHistory ++ [Happening.goesOn .dispatcher] ++ loadedHistory ++ routedHistory

/-- It comes when the load has its answer, and is shown first. -/
def overtakenHistory : List Happening :=
  askedHistory ++ loadedHistory ++ pushedHistory ++ [Happening.goesOn .dispatcher] ++ routedHistory

/-- A document stays open and requests are answered in time. -/
def keepsOpen (w : Workbench) (uri : String) : Happening → Bool
  | .edits _ => false
  | _ => w.client.editor.isOpen uri && .event (.documentClosed uri) ∉ w.client.queue && w.IsTimely

theorem of_keepsOpen (h : w.keepsOpen uri g = true) : w.StaysOpen uri g ∧ w.IsTimely := by
  cases g with
  | edits f => cases h
  | _ =>
    simp only [keepsOpen, Bool.and_eq_true, decide_eq_true_eq] at h
    exact ⟨⟨h.1.1, h.1.2, nofun⟩, h.2⟩

theorem last_highlights_are_known_in_turn :
    ∃ v w, unused.after? shownHistory = some v ∧ v.after? orderlyHistory = some w ∧
      (v.Throughout orderlyHistory fun u g => u.StaysOpen "a" g ∧ u.IsTimely ∧ u.InTurn "a") ∧
      v.IsUpToDate "a" ∧ w.IsUpToDate "a" ∧ v.heard "a" orderlyHistory = [[], loadedNames] ∧
      w.client.overlay.cached? "a" = some loadedNames := by
  have reached : (unused.after? shownHistory).any (fun v =>
      v.IsUpToDate "a" && v.heard "a" orderlyHistory = [[], loadedNames] &&
        (v.record (fun u g => if u.keepsOpen "a" g && u.InTurn "a" then none else some ())
          orderlyHistory).isEmpty &&
        (v.after? orderlyHistory).any fun w => w.IsUpToDate "a") = true := by
    decide +kernel
  obtain ⟨v, hv, reached⟩ := (Option.any_eq_true _ _).1 reached
  obtain ⟨reached, hend⟩ := (Bool.and_eq_true _ _).mp reached
  obtain ⟨reached, hkept⟩ := (Bool.and_eq_true _ _).mp reached
  obtain ⟨hbegin, hheard⟩ := (Bool.and_eq_true _ _).mp reached
  replace hbegin := of_decide_eq_true hbegin
  replace hheard := of_decide_eq_true hheard
  obtain ⟨w, hw, hend⟩ := (Option.any_eq_true _ _).1 hend
  replace hend := of_decide_eq_true hend
  have throughout :
      v.Throughout orderlyHistory fun u g => u.StaysOpen "a" g ∧ u.IsTimely ∧ u.InTurn "a" := by
    refine throughout_of_check (fun u g h => ?_) (List.isEmpty_iff.1 hkept)
    obtain ⟨hopen, hturn⟩ := (Bool.and_eq_true _ _).mp h
    obtain ⟨stays, timely⟩ := of_keepsOpen hopen
    exact ⟨stays, timely, of_decide_eq_true hturn⟩
  have known := last_highlights_are_known isFresh_unused hv hw throughout hbegin hend
  rw [hheard] at known
  exact ⟨v, w, hv, hw, throughout, hbegin, hend, hheard, known⟩

/-- **The last highlights off the wire may be lost.**  They come on the server's own account when the
answer before them has come to a load, and the dispatcher shows them before the load has a turn: then
the load shows what it has got, and this is what remains. -/
theorem last_highlights_are_lost :
    ∃ v w, unused.after? shownHistory = some v ∧ v.after? overtakenHistory = some w ∧
      (v.Throughout overtakenHistory fun u g => u.StaysOpen "a" g ∧ u.IsTimely) ∧
      v.IsUpToDate "a" ∧ w.IsUpToDate "a" ∧ v.heard "a" overtakenHistory = [loadedNames, []] ∧
      w.client.overlay.cached? "a" = some loadedNames := by
  have reached : (unused.after? shownHistory).any (fun v =>
      v.IsUpToDate "a" && v.heard "a" overtakenHistory = [loadedNames, []] &&
        (v.record (fun u g => if u.keepsOpen "a" g then none else some ()) overtakenHistory).isEmpty &&
        (v.after? overtakenHistory).any fun w =>
          w.IsUpToDate "a" && w.client.overlay.cached? "a" = some loadedNames) = true := by
    decide +kernel
  obtain ⟨v, hv, reached⟩ := (Option.any_eq_true _ _).1 reached
  simp only [Bool.and_eq_true, decide_eq_true_eq, List.isEmpty_iff] at reached
  obtain ⟨⟨⟨hbegin, hheard⟩, hkept⟩, reached⟩ := reached
  obtain ⟨w, hw, hlost⟩ := (Option.any_eq_true _ _).1 reached
  simp only [Bool.and_eq_true, decide_eq_true_eq] at hlost
  exact ⟨v, w, hv, hw, throughout_of_check (fun _ _ => of_keepsOpen) hkept, hbegin, hlost.1, hheard,
    hlost.2⟩

end Workbench

end LanguageClient
