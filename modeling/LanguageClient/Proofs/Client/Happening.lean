import LanguageClient.Client.Workbench
import Mathlib.Data.List.Induction

/-!
# Histories of a workbench

`Workbench.Step` says what the activities of a workbench do.  This file adds what comes from outside,
so that a list of *happenings* describes everything that can go on from the moment a client is
created: calls are made, time passes, a connection that was asked for is opened or refused, bytes
arrive, streams end, writing begins to fail, processes exit, and people do as they like with their
editor.

* `Workbench.happen?` — what one happening comes to, if it can happen now.
* `Workbench.after?` — what a history comes to.  Nothing is said about the order: every interleaving
  of the activities with each other and with what comes from outside is a history.
* `Workbench.IsFresh` — nothing has happened yet.
* `Workbench.record` — what is noted of the happenings of a history, in their order.
* **`after?_induction`** — what holds at the beginning and is kept by each happening holds after
  every history.
* `Workbench.During` — at some point of a history something was the case.  Statements about what must
  have happened earlier are made with it.
* `Workbench.Throughout` — all along a history something was the case.
-/

namespace LanguageClient

/-! ## What comes from outside -/

/-- A line over a stream that has just been opened: nothing has been written, and the connection is
as it is created. -/
def Line.opened (link : Link) (peer : String) (process : Option ServerProcess) : Line :=
  { connection := { link := { link with sent := [] } }, peer, process }

/-- Nothing has been done on the line. -/
def Line.IsFresh (l : Line) : Prop := ∃ link peer process, l = .opened link peer process

/-- Every connection that the opener makes is a new one. -/
def Opener.IsHonest (o : Opener) : Prop := ∀ e l, o.connect e = .ok l → l.IsFresh

/-- The call is at its beginning. -/
def Call.isNew : Call → Bool
  | lifecycle _ .queueing => true
  | request _ .looking | request _ (.on _ .beginning) => true
  | notify _ .looking | notify _ (.on _ _) => true
  | sync _ _ .looking | sync _ _ (.on _ .beginning) => true
  | closeDocument _ .looking | closeDocument _ (.on _ .beginning) => true
  | handshake _ _ (.asking .beginning) => true
  | shutdown _ _ (.asking .beginning) => true
  | close _ _ .flagging => true
  | run _ _ .flushing => true
  | startUp .finding => true
  | restart .queueing => true
  | openFile _ .opening => true
  | _ => false

/-- Something that can happen to a workbench. -/
inductive Happening
  /-- An activity takes its next step. -/
  | goesOn (a : Activity)
  /-- Somebody makes a call. -/
  | calls (c : Call)
  /-- Some milliseconds pass. -/
  | passes (ms : Nat)
  /-- The connection that was asked for is opened. -/
  | opens (link : Link) (peer : String) (process : Option ServerProcess)
  /-- The connection that was asked for cannot be opened. -/
  | refuses (e : Failure)
  /-- The stream of a line changes: bytes have come, it has ended, it cannot be written to any more,
  or it can again.  What has been written stays written. -/
  | streams (line : Nat) (f : Link → Link)
  /-- The process behind a line exits. -/
  | exits (line : Nat) (e : ExitEvent)
  /-- Notifications are handled differently from now on. -/
  | handles (handlers : Handlers)
  /-- People do something to whatever is not the session: the editor, the files, the queue. -/
  | edits (f : Client → Client)

namespace Workbench

/-- The one who asked for a connection gets an answer. -/
def answer? (w : Workbench) (r : Except Failure Line) : Option Workbench :=
  if w.client.session.wanted.isSome then
    some (w.modifySession fun s => { s with wanted := none, offer := some r })
  else none

/-- The workbench after something has happened, if it can happen. -/
def happen? (w : Workbench) : Happening → Option Workbench
  | .goesOn a => w.act? a
  | .calls c => if c.isNew then some (w.add c).2 else none
  | .passes ms => some (w.setTime (w.client.now + ms))
  | .opens link peer process => w.answer? (.ok (.opened link peer process))
  | .refuses e => w.answer? (.error e)
  | .streams n f => some (w.modifyConnection n fun c =>
      { c with link := { f c.link with sent := c.link.sent } })
  | .exits n e => some (w.modifySession fun s => s.modifyLine n fun l =>
      { l with process := l.process.map fun p => { p with exit := p.exit.or (some e) } })
  | .handles handlers => some (w.modifySession fun s => { s with handlers })
  | .edits f => some { w with client := { f w.client with session := w.client.session } }

/-- The workbench after a history, if it can happen. -/
def after? (w : Workbench) : List Happening → Option Workbench
  | [] => some w
  | h :: hs => (w.happen? h).bind (after? · hs)

/-- A workbench to which nothing has happened yet: no call was ever made, and the session is as it
is created.  There may be connections already that are not the session's, and nothing has been done
on them. -/
structure IsFresh (w : Workbench) : Prop where
  calls : w.calls = []
  returned : w.returned = []
  state : w.client.session.state = .idle
  active : w.client.session.active = none
  activeHeld : w.client.session.activeHeld = false
  remembered : w.client.session.remembered = none
  lock : w.client.session.lock = {}
  lines : ∀ l ∈ w.client.session.lines, l.IsFresh
  watches : w.client.session.watches = []
  wanted : w.client.session.wanted = none
  offer : w.client.session.offer = none
  opener : ∀ o, w.opener = some o → o.IsHonest

/-- A workbench with one connection on which nothing has been done. -/
def withLine : Workbench :=
  { client := { session := { lines := [.opened {} "server" none] } }, opener := none }

theorem isFresh_withLine : withLine.IsFresh where
  calls := rfl
  returned := rfl
  state := rfl
  active := rfl
  activeHeld := rfl
  remembered := rfl
  lock := rfl
  lines l hl := by
    obtain rfl := List.mem_singleton.1 hl
    exact ⟨_, _, _, rfl⟩
  watches := rfl
  wanted := rfl
  offer := rfl
  opener o ho := by cases ho

/-! ## What it comes to -/

theorem answer?_eq_some {w w' : Workbench} {r : Except Failure Line} :
    w.answer? r = some w' ↔ w.client.session.wanted.isSome = true ∧
      w.modifySession (fun s => { s with wanted := none, offer := some r }) = w' := by
  rw [answer?, Option.ite_none_right_eq_some, Option.some.injEq]

theorem happen?_calls {w w' : Workbench} {c : Call} :
    w.happen? (.calls c) = some w' ↔ c.isNew = true ∧ (w.add c).2 = w' := by
  rw [happen?, Option.ite_none_right_eq_some, Option.some.injEq]

/-- The opener answers whoever has asked. -/
theorem act?_opener {w w' : Workbench} (h : w.act? .opener = some w') :
    ∃ o e, w.opener = some o ∧ w.client.session.wanted = some e ∧
      w' = { w with opener := some (o.attempt e).2 }.modifySession fun s =>
        { s with wanted := none, offer := some (o.attempt e).1 } := by
  rw [act?] at h
  split at h
  next o e ho he => cases h; exact ⟨o, e, ho, he, rfl⟩
  next => cases h

/-! ## Histories -/

theorem after?_append (w : Workbench) (hs more : List Happening) :
    w.after? (hs ++ more) = (w.after? hs).bind (·.after? more) := by
  induction hs generalizing w with
  | nil => rfl
  | cons h hs ih =>
    cases e : w.happen? h with
    | none => simp [after?, e]
    | some v => simp [after?, e, ih]

/-- One history after another. -/
theorem after?_trans {w v u : Workbench} {hs more : List Happening} (h : w.after? hs = some v)
    (h' : v.after? more = some u) : w.after? (hs ++ more) = some u := by
  rw [after?_append, h]
  exact h'

/-- The last thing that happened is one happening after the history before it. -/
theorem after?_concat {w w' : Workbench} {hs : List Happening} {h : Happening} :
    w.after? (hs ++ [h]) = some w' ↔ ∃ v, w.after? hs = some v ∧ v.happen? h = some w' := by
  rw [after?_append, Option.bind_eq_some_iff]
  simp [after?]

/-- **What each happening keeps, every history keeps.**  The history so far can be spoken about: `P`
is a property of a history and of what it comes to. -/
theorem after?_induction {w₀ : Workbench} {P : List Happening → Workbench → Prop} (init : P [] w₀)
    (step : ∀ hs h w w', w₀.after? hs = some w → P hs w → w.happen? h = some w' → P (hs ++ [h]) w') :
    ∀ {hs w}, w₀.after? hs = some w → P hs w := by
  intro hs
  induction hs using List.reverseRecOn with
  | nil =>
    intro w hw
    cases hw
    exact init
  | append_singleton hs h ih =>
    intro w hw
    obtain ⟨v, hv, hstep⟩ := after?_concat.1 hw
    exact step hs h v w hv (ih hv) hstep

/-! ## What is noted of a history -/

/-- What is noted of the happenings of a history, the first one first. -/
def record {β : Type} (note : Workbench → Happening → Option β) (w : Workbench) :
    List Happening → List β
  | [] => []
  | h :: hs => (note w h).toList ++
    match w.happen? h with
    | some w' => record note w' hs
    | none => []

theorem record_append {β : Type} (note : Workbench → Happening → Option β) {w w' : Workbench}
    {hs : List Happening} (h : w.after? hs = some w') (more : List Happening) :
    w.record note (hs ++ more) = w.record note hs ++ w'.record note more := by
  induction hs generalizing w with
  | nil =>
    obtain rfl : w = w' := Option.some.inj h
    rfl
  | cons g hs ih =>
    rw [after?] at h
    cases e : w.happen? g with
    | none => rw [e] at h; cases h
    | some v =>
      rw [e] at h
      simp [record, e, ih h]

theorem record_concat {β : Type} (note : Workbench → Happening → Option β) {w w' : Workbench}
    {hs : List Happening} (h : w.after? hs = some w') (g : Happening) :
    w.record note (hs ++ [g]) = w.record note hs ++ (note w' g).toList := by
  rw [record_append note h, record]
  cases w'.happen? g <;> simp [record]

/-! ## Earlier in a history -/

/-- `P` holds of the `k`-th happening of a history and the workbench that it happened to. -/
def During (w₀ : Workbench) (hs : List Happening) (k : Nat) (P : Workbench → Happening → Prop) : Prop :=
  ∃ w h, w₀.after? (hs.take k) = some w ∧ hs[k]? = some h ∧ P w h

theorem During.lt {w₀ : Workbench} {hs : List Happening} {k : Nat} {P : Workbench → Happening → Prop}
    (d : During w₀ hs k P) : k < hs.length := by
  obtain ⟨_, _, _, hk, _⟩ := d
  exact (List.getElem?_eq_some_iff.1 hk).1

/-- What has happened remains so. -/
theorem During.concat {w₀ : Workbench} {hs : List Happening} {k : Nat}
    {P : Workbench → Happening → Prop} (d : During w₀ hs k P) (h : Happening) :
    During w₀ (hs ++ [h]) k P := by
  have hlt := d.lt
  obtain ⟨w, g, hw, hg, hP⟩ := d
  exact ⟨w, g, by rwa [List.take_append_of_le_length (by omega)],
    by rwa [List.getElem?_append_left hlt], hP⟩

/-- The last thing that happened has happened. -/
theorem During.last {w₀ w : Workbench} {hs : List Happening} (hw : w₀.after? hs = some w)
    (h : Happening) {P : Workbench → Happening → Prop} (hP : P w h) :
    During w₀ (hs ++ [h]) hs.length P :=
  ⟨w, h, by simpa using hw, by simp, hP⟩

/-- Nothing is noted of a history in which nothing of the kind happened. -/
theorem not_during_of_record {β : Type} {note : Workbench → Happening → Option β} {w : Workbench}
    {hs : List Happening} (h : w.record note hs = []) (k : Nat) :
    ¬ During w hs k fun u g => (note u g).isSome = true := by
  induction hs generalizing w k with
  | nil => exact fun d => absurd d.lt (Nat.not_lt_zero k)
  | cons g hs ih =>
    rw [record, List.append_eq_nil_iff, Option.toList_eq_nil_iff] at h
    rintro ⟨u, g', hu, hg', hsome⟩
    cases k with
    | zero =>
      cases hu
      cases hg'
      rw [h.1] at hsome
      cases hsome
    | succ k =>
      obtain ⟨v, hv, hu⟩ := Option.bind_eq_some_iff.1 hu
      rw [hv] at h
      exact ih h.2 k ⟨u, g', hu, hg', hsome⟩

/-! ## All along a history -/

/-- `P` holds of every happening of a history and the workbench that it happened to. -/
def Throughout (w₀ : Workbench) (hs : List Happening) (P : Workbench → Happening → Prop) : Prop :=
  ∀ k u g, w₀.after? (hs.take k) = some u → hs[k]? = some g → P u g

theorem Throughout.mono {w₀ : Workbench} {hs : List Happening} {P Q : Workbench → Happening → Prop}
    (t : Throughout w₀ hs P) (h : ∀ u g, P u g → Q u g) : Throughout w₀ hs Q :=
  fun k u g hu hg => h u g (t k u g hu hg)

/-- What holds all along a history holds along the beginning of it. -/
theorem Throughout.of_append {w₀ : Workbench} {hs more : List Happening}
    {P : Workbench → Happening → Prop} (t : Throughout w₀ (hs ++ more) P) : Throughout w₀ hs P := by
  intro k u g hu hg
  have hlt := (List.getElem?_eq_some_iff.1 hg).1
  refine t k u g ?_ ?_
  · rwa [List.take_append_of_le_length (Nat.le_of_lt hlt)]
  · rwa [List.getElem?_append_left hlt]

theorem Throughout.of_concat {w₀ : Workbench} {hs : List Happening} {g : Happening}
    {P : Workbench → Happening → Prop} (t : Throughout w₀ (hs ++ [g]) P) : Throughout w₀ hs P :=
  t.of_append

/-- What holds all along a history holds of each happening. -/
theorem Throughout.at {w₀ w : Workbench} {hs more : List Happening} {g : Happening}
    {P : Workbench → Happening → Prop} (t : Throughout w₀ (hs ++ g :: more) P)
    (h : w₀.after? hs = some w) : P w g :=
  t hs.length w g (by simpa using h) (by simp)

theorem Throughout.last {w₀ w : Workbench} {hs : List Happening} {g : Happening}
    {P : Workbench → Happening → Prop} (t : Throughout w₀ (hs ++ [g]) P)
    (hw : w₀.after? hs = some w) : P w g :=
  t.at hw

/-- What holds after every part of a history holds all along it. -/
theorem throughout_of_after? {w₀ : Workbench} {hs : List Happening}
    {P Q : Workbench → Happening → Prop}
    (h : ∀ hs u g, w₀.after? hs = some u → w₀.Throughout hs Q → Q u g → P u g)
    (t : w₀.Throughout hs Q) : w₀.Throughout hs P := by
  intro k u g hu hg
  have hk : k ≤ hs.length := Nat.le_of_lt (List.getElem?_eq_some_iff.1 hg).1
  refine h (hs.take k) u g hu (fun j v g' hv hg' => ?_) (t k u g hu hg)
  have hj : j < k := by
    have := (List.getElem?_eq_some_iff.1 hg').1
    rw [List.length_take] at this
    omega
  refine t j v g' ?_ ?_
  · rwa [List.take_take, Nat.min_eq_left (Nat.le_of_lt hj)] at hv
  · rwa [List.getElem?_take_of_lt hj] at hg'

/-- What holds all along a history can be checked happening by happening. -/
theorem throughout_of_check {w : Workbench} {hs : List Happening} {check : Workbench → Happening → Bool}
    {P : Workbench → Happening → Prop} (sound : ∀ u g, check u g = true → P u g)
    (h : w.record (fun u g => if check u g then none else some ()) hs = []) : Throughout w hs P := by
  intro k u g hu hg
  refine sound u g ?_
  by_contra hno
  exact not_during_of_record h k ⟨u, g, hu, hg, by simp [hno]⟩

end Workbench

end LanguageClient
