import LanguageClient.Proofs.Client.Along
import LanguageClient.Proofs.Client.SingleConnection
import LanguageClient.Proofs.Connection.Replies
import LanguageClient.Proofs.Data.History

/-!
# Every request of the server is answered once

Each answer to the server is written by one of its own, so they may be written in any order; a payer, who
writes the first that is owed, makes one of these orders.  A *dealing* is a happening, or that any of the
answers that are owed on a line is written.

* `Workbench.deal?`, `Workbench.dealt?` — what a dealing and a history of them come to.
* `Workbench.asked` — the requests of the server that have been read on a line, in their order.
* `Workbench.KeepsOpen` — nobody closes the line, what is written on it arrives, and nobody writes answers by
  hand.
* `Workbench.Answers` — what every such history keeps: the answers that have been written, are owed, or are
  about to be, are those to the requests that have been read (`answers_dealt?`).
* `Workbench.GoesOnAnswering` — what is missing can come at any time.
* **`every_request_is_answered_once`** — all of this, and that no request of the client is concerned.
-/

namespace LanguageClient

open Session

/-! ## Answers in any order -/

/-- What can happen where each answer to the server is written by one of its own. -/
inductive Dealing
  | happens (g : Happening)
  | answers (line k : Nat)

/-- Nobody is about to write an answer by hand. -/
def Dealing.IsPolite : Dealing → Bool
  | happens (.calls c) => (c.byHand?.bind Message.response?).isNone
  | _ => true

/-- The accesses of calls answer nothing. -/
theorem Connection.keepsReplies_abides : Connection.Abides Connection.KeepsReplies where
  toCarried := keepsReplies_carried
  syncs task uri text c p := p.step_keepsReplies task uri text c
  forgets task uri c p := p.step_keepsReplies task uri c

/-- What is added to the answers of the connection is the answer to what has been read. -/
def Connection.Serves (c c' : Connection) : Prop :=
  c'.replies.Perm (c.replies ++ (c.hears? c').toList.map Reader.answer)

theorem Connection.KeepsReplies.serves {c c' : Connection} (h : c.KeepsReplies c') : c.Serves c' := by
  rw [Connection.Serves, h.replies, h.hears?]
  simp

theorem Connection.serves_of_read {handlers : Handlers} {c c' : Connection} {signals : List Signal}
    (h : Reader.step? handlers c = some (c', signals)) : c.Serves c' :=
  .of_eq ((Reader.goes_of_step h).replies (Reader.step?_sent h))

theorem Connection.serves_of_payAt {c c' : Connection} (hopen : c.IsOpen) {k : Nat}
    (h : Reader.payAt? c k = some c') : c.Serves c' := by
  have same : c'.reader = c.reader := by
    obtain ⟨r, -, rfl⟩ := Option.map_eq_some_iff.1 h
    exact (Connection.calm_tryWrite _ _).reader
  have hears : c.hears? c' = none := by
    unfold hears?
    split
    next hreading hheard => rw [same, hreading] at hheard; cases hheard
    next => rfl
  rw [Serves, hears]
  simpa using Reader.payAt?_replies hopen h

namespace Workbench

/-- The workbench after a dealing, if it can be. -/
def deal? (w : Workbench) : Dealing → Option Workbench
  | .happens g => w.happen? g
  | .answers n k =>
    ((w.client.session.line? n).bind fun l => Reader.payAt? l.connection k).map fun c =>
      w.modifySession (·.setConnection n c)

/-- The workbench after a history of dealings, if it can be. -/
def dealt? (w : Workbench) (ds : List Dealing) : Option Workbench := ds.foldlM deal? w

/-- The request of the server that has been read on a line. -/
def hasRead? (n : Nat) (w w' : Workbench) : Option Request :=
  match w.client.session.line? n, w'.client.session.line? n with
  | some l, some l' => l.connection.hears? l'.connection
  | _, _ => none

/-- The requests of the server that are read on a line in a history, the first one first. -/
def asked (w : Workbench) (n : Nat) (ds : List Dealing) : List Request :=
  History.record deal? (fun u d => (u.deal? d).bind (u.hasRead? n)) w ds

/-- All along the history nobody closes the line or writes an answer by hand, and what is written
arrives. -/
def KeepsOpen (w : Workbench) (n : Nat) (ds : List Dealing) : Prop :=
  History.Throughout deal? (fun u d => u.client.session.On n Connection.IsOpen ∧ d.IsPolite) w ds

instance decidableOn (n : Nat) (P : Connection → Prop) [DecidablePred P] (s : Session) :
    Decidable (s.On n P) :=
  inferInstanceAs (Decidable (∀ l ∈ s.line? n, P l.connection))

instance decidableKeepsOpen (w : Workbench) (n : Nat) (ds : List Dealing) :
    Decidable (w.KeepsOpen n ds) :=
  inferInstanceAs (Decidable (History.Throughout deal? _ w ds))

/-! ## What every history keeps -/

variable {w w' w₀ : Workbench} {d : Dealing} {ds : List Dealing} {n k : Nat}

theorem deal?_answers : w.deal? (.answers n k) = some w' ↔ ∃ l c, w.client.session.line? n = some l ∧
    Reader.payAt? l.connection k = some c ∧ w' = w.modifySession (·.setConnection n c) := by
  simp only [deal?, Option.map_eq_some_iff, Option.bind_eq_some_iff]
  constructor
  · rintro ⟨c, ⟨l, hl, hc⟩, rfl⟩
    exact ⟨l, c, hl, hc, rfl⟩
  · rintro ⟨l, c, hl, hc, rfl⟩
    exact ⟨c, ⟨l, hl, hc⟩, rfl⟩

/-- A payer writes the first of the answers that are owed. -/
theorem deal?_payer (w : Workbench) (n : Nat) :
    w.deal? (.happens (.goesOn (.payer n))) = w.deal? (.answers n 0) := by
  simp only [deal?, happen?, act?, Session.pay?, Reader.payAt?_zero, Option.bind_eq_bind]
  cases w.client.session.line? n with
  | none => rfl
  | some l =>
    rw [Option.bind_some, Option.bind_some]
    cases Reader.pay? l.connection <;> rfl

theorem Sound.deal? (hw : w.Sound) (h : w.deal? d = some w') : w'.Sound := by
  cases d with
  | happens g => exact hw.happen? h
  | answers m k =>
    obtain ⟨l, c, -, -, rfl⟩ := deal?_answers.1 h
    exact ⟨hw.offer, hw.opener, hw.numbered, fun task i t ht hi =>
      hw.absent task i t ht (line?_none_of_setConnection hi)⟩

/-- A line that comes is a new one. -/
theorem deal?_comes (hw : w.Sound) (h : w.deal? d = some w') {l : Line}
    (hn : w.client.session.line? n = none) (hl : w'.client.session.line? n = some l) : l.IsFresh := by
  cases d with
  | happens g => exact (happen?_turn hw h).comes hn hl
  | answers m k =>
    obtain ⟨_, c, -, -, rfl⟩ := deal?_answers.1 h
    exact absurd hl (not_line?_setConnection hn)

/-- The connection of one line is replaced. -/
theorem serves_setConnection {m : Nat} {l : Line} {c : Connection}
    (hl : w.client.session.line? m = some l) (h : m = n → l.connection.Serves c) {s : Session}
    (hs : s = w.client.session.setConnection m c) {l₀ : Line} (hl₀ : w.client.session.line? n = some l₀) :
    ∃ l', s.line? n = some l' ∧ l₀.connection.Serves l'.connection := by
  rw [hs, line?_setConnection, hl₀]
  by_cases hm : m = n
  · subst hm
    obtain rfl : l = l₀ := by simpa [hl] using hl₀
    rw [if_pos rfl]
    exact ⟨_, rfl, h rfl⟩
  · rw [if_neg hm]
    exact ⟨l₀, rfl, (Connection.KeepsReplies.refl _).serves⟩

/-- Whatever can be done to an open line, what is added to its answers is the answer to what has been
read. -/
theorem deal?_serves (hopen : w.client.session.On n Connection.IsOpen)
    (polite : ∀ task call, w.calls.get? task = some call →
      (call.byHand?.bind Message.response?).isNone = true)
    (h : w.deal? d = some w') {l : Line} (hl : w.client.session.line? n = some l) :
    ∃ l', w'.client.session.line? n = some l' ∧ l.connection.Serves l'.connection := by
  have written {m k : Nat} (h : w.deal? (.answers m k) = some w') :
      ∃ l', w'.client.session.line? n = some l' ∧ l.connection.Serves l'.connection := by
    obtain ⟨l₁, c, hl₁, hc, rfl⟩ := deal?_answers.1 h
    refine serves_setConnection hl₁ (fun hm => ?_) rfl hl
    subst hm
    exact Connection.serves_of_payAt (hopen l₁ hl₁) hc
  have read {m : Nat} {a : Activity} (ha : a = .reader m ∨ a = .lateReader m)
      (h : w.act? a = some w') :
      ∃ l', w'.client.session.line? n = some l' ∧ l.connection.Serves l'.connection := by
    obtain ⟨l₁, c, signals, hl₁, rfl, hread⟩ := act?_reader ha h
    refine serves_setConnection hl₁ (fun hm => ?_) (Client.session_absorbAll _ _) hl
    subst hm
    rcases hread with ⟨-, hstop, -⟩ | ⟨-, hstep⟩
    · have := (hopen l₁ hl₁).reader
      rw [(Reader.stop?_eq hstop).1] at this
      cases this
    · exact Connection.serves_of_read hstep
  have beside {g : Happening} (h : w.happen? g = some w')
      (hline : ∀ n, g ≠ .goesOn (.reader n) ∧ g ≠ .goesOn (.lateReader n) ∧ g ≠ .goesOn (.payer n)) :
      ∃ l', w'.client.session.line? n = some l' ∧ l.connection.Serves l'.connection := by
    have along := happen?_along Connection.keepsReplies_abides (fun c f => .of_sent rfl rfl rfl)
      (fun _ _ => Connection.keepsReplies_leave?) h (fun task call m hcall hm x => ?_) hline
    · obtain ⟨l', hl', keeps⟩ := along n l hl
      exact ⟨l', hl', keeps.serves⟩
    · have := polite task call hcall
      rw [hm] at this
      exact Connection.keepsReplies_tryWrite (by simpa using this) x
  cases d with
  | answers m k => exact written h
  | happens g =>
    replace h : w.happen? g = some w' := h
    cases g with
    | goesOn a =>
      cases a with
      | reader m => exact read (.inl rfl) h
      | lateReader m => exact read (.inr rfl) h
      | payer m => exact written ((deal?_payer w m).symm.trans h)
      | _ => exact beside h fun _ => ⟨nofun, nofun, nofun⟩
    | _ => exact beside h fun _ => ⟨nofun, nofun, nofun⟩

/-- What every history keeps in which a line stays open. -/
structure Answers (w : Workbench) (n : Nat) (asked : List Request) : Prop where
  sound : w.Sound
  polite : ∀ task call, w.calls.get? task = some call →
    (call.byHand?.bind Message.response?).isNone = true
  replies : ∀ l, w.client.session.line? n = some l →
    l.connection.replies.Perm (asked.map Reader.answer)
  absent : w.client.session.line? n = none → asked = []

theorem replies_of_isFresh {l : Line} (h : l.IsFresh) : l.connection.replies = [] := by
  obtain ⟨link, peer, process, rfl⟩ := h
  rfl

theorem Answers.deal? {asked : List Request} (h : w.Answers n asked) (hs : w.deal? d = some w')
    (hopen : w.client.session.On n Connection.IsOpen) (polite : d.IsPolite = true) :
    w'.Answers n (asked ++ (w.hasRead? n w').toList) where
  sound := h.sound.deal? hs
  polite task call hcall := by
    cases d with
    | happens g =>
      rcases happen?_byHand h.sound hs hcall with ⟨before, hbefore, hsame⟩ | rfl
      · rw [hsame]
        exact h.polite task before hbefore
      · exact polite
    | answers m k =>
      obtain ⟨_, _, -, -, rfl⟩ := deal?_answers.1 hs
      exact h.polite task call hcall
  replies l' hl' := by
    cases hl : w.client.session.line? n with
    | none =>
      rw [hasRead?, hl, h.absent hl, replies_of_isFresh (deal?_comes h.sound hs hl hl')]
      rfl
    | some l =>
      obtain ⟨l₁, hl₁, serves⟩ := deal?_serves hopen h.polite hs hl
      obtain rfl : l₁ = l' := Option.some.inj (hl₁.symm.trans hl')
      rw [hasRead?, hl, hl', List.map_append]
      exact serves.trans ((h.replies l hl).append_right _)
  absent hnone := by
    have before : w.client.session.line? n = none := by
      by_contra hsome
      obtain ⟨l, hl⟩ := Option.ne_none_iff_exists'.1 hsome
      obtain ⟨l', hl', -⟩ := deal?_serves hopen h.polite hs hl
      rw [hnone] at hl'
      cases hl'
    rw [hasRead?, before, h.absent before]
    rfl

/-- **The answers that have been written, are owed, or are about to be, are those to the requests that
have been read.** -/
theorem answers_dealt? (h₀ : w₀.IsFresh) (h : w₀.dealt? ds = some w) (stays : w₀.KeepsOpen n ds) :
    w.Answers n (w₀.asked n ds) := by
  refine History.induction (P := fun ds w => w₀.KeepsOpen n ds → w.Answers n (w₀.asked n ds))
    ?_ ?_ h stays
  · refine fun _ => ⟨h₀.sound, fun task call hcall => ?_, fun l hl => ?_, fun _ => rfl⟩
    · rw [h₀.calls] at hcall
      cases hcall
    · rw [replies_of_isFresh (h₀.lines l (List.mem_of_getElem? hl))]
      exact .refl _
  · intro ds d u u' hu ih hs stays
    obtain ⟨before, hopen, polite⟩ := (History.throughout_concat hu).1 stays
    rw [asked, History.record_concat _ hu, hs, Option.bind_some]
    exact (ih before).deal? hs hopen polite

/-! ## What is missing comes -/

/-- The connection of an open line is replaced. -/
theorem line?_modifySession {l : Line} (hl : w.client.session.line? n = some l) (c : Connection) :
    (w.modifySession (·.setConnection n c)).client.session.line? n = some { l with connection := c } := by
  show (w.client.session.setConnection n c).line? n = _
  rw [line?_setConnection, if_pos rfl, hl]
  rfl

/-- A reader that nobody has told to stop takes its step. -/
theorem act?_reader_of_step {l : Line} {c : Connection} {signals : List Signal}
    (hl : w.client.session.line? n = some l) (ha : l.connection.readerAborted = false)
    (h : Reader.step? w.client.session.handlers l.connection = some (c, signals)) :
    ∃ w', w.act? (.reader n) = some w' ∧
      w'.client.session.line? n = some { l with connection := c } := by
  have stays : Reader.stop? l.connection = none := by rw [Reader.stop?, ha]
  refine ⟨{ w with client := w.client.absorbAll (w.client.session.setConnection n c, signals) }, ?_, ?_⟩
  · rw [act?, Client.read?, Session.read?, hl]
    simp only [Option.bind_eq_bind, Option.bind_some, stays, h]
    rfl
  · show (w.client.absorbAll _).session.line? n = _
    rw [Client.session_absorbAll, line?_setConnection, if_pos rfl, hl]
    rfl

/-- On a line that is open everything that is missing of the answers can come. -/
structure GoesOnAnswering (w : Workbench) (n : Nat) (c : Connection) : Prop where
  /-- A request that has come whole is read. -/
  reads : ∀ r rest, c.reader = .reading →
    Frame.readMessage c.link.ended c.link.received = .done (.ok (.request r)) rest →
    ∃ w', w.deal? (.happens (.goesOn (.reader n))) = some w' ∧ w.hasRead? n w' = some r
  /-- What has been read is answered. -/
  owes : ∀ r, c.reader = .heard (.request r) →
    ∃ w' l', w.deal? (.happens (.goesOn (.reader n))) = some w' ∧
      w'.client.session.line? n = some l' ∧
      l'.connection = { c with owed := c.owed ++ [Reader.answer r], reader := .reading }
  /-- Each answer is written. -/
  writes : ∀ k r, c.owed[k]? = some r →
    ∃ w' l', w.deal? (.answers n k) = some w' ∧ w'.client.session.line? n = some l' ∧
      l'.connection = { c with
        owed := c.owed.eraseIdx k
        link := { c.link with sent := c.link.sent ++ [.response r] } }

theorem goesOnAnswering {l : Line} (hl : w.client.session.line? n = some l)
    (hopen : l.connection.IsOpen) : w.GoesOnAnswering n l.connection where
  reads r rest hr hread := by
    have step : Reader.step? w.client.session.handlers l.connection = some ({ l.connection with
        link := { l.connection.link with received := rest }
        reader := .heard (.request r) }, []) := by
      rw [Reader.step?, hr]
      simp only [hread]
    obtain ⟨w', hw', hl'⟩ := act?_reader_of_step hl hopen.reader step
    refine ⟨w', hw', ?_⟩
    rw [hasRead?, hl, hl']
    simp only [Connection.hears?, hr]
  owes r hr := by
    have step : Reader.step? w.client.session.handlers l.connection =
        some (Reader.hear w.client.session.handlers l.connection (.request r)) := by
      rw [Reader.step?, hr]
    obtain ⟨w', hw', hl'⟩ := act?_reader_of_step hl hopen.reader step
    exact ⟨w', _, hw', hl', rfl⟩
  writes k r hk :=
    ⟨_, _, deal?_answers.2 ⟨l, _, hl, Reader.payAt?_of_isOpen hopen hk, rfl⟩,
      line?_modifySession hl _, rfl⟩

/-- What is owed can be written. -/
theorem all_written {l : Line} (hl : w.client.session.line? n = some l) (hopen : l.connection.IsOpen)
    (hnone : l.connection.inHand = []) : ∃ more w' l', w.dealt? more = some w' ∧
      w'.client.session.line? n = some l' ∧ l'.connection.answered.Perm l.connection.replies := by
  generalize hk : l.connection.owed.length = k
  induction k generalizing w l with
  | zero =>
    refine ⟨[], w, l, rfl, hl, .of_eq ?_⟩
    rw [Connection.replies, List.length_eq_zero_iff.1 hk, hnone]
    simp
  | succ k ih =>
    obtain ⟨r, rest, howed⟩ := List.exists_cons_of_length_eq_add_one hk
    have first : l.connection.owed[0]? = some r := by rw [howed]; rfl
    have paid := Reader.payAt?_of_isOpen hopen first
    obtain ⟨w', l', hw', hl', hc'⟩ := (goesOnAnswering hl hopen).writes 0 r first
    rw [← hc'] at paid
    have served := Reader.payAt?_replies hopen paid
    obtain ⟨more, u, l'', hu, hl'', told⟩ := ih hl' (by rw [hc']; exact ⟨hopen.1, hopen.2, hopen.3⟩)
      (by rw [hc']; exact hnone) (by rw [hc', List.length_eraseIdx, hk]; rfl)
    refine ⟨.answers n 0 :: more, u, l'', ?_, hl'', told.trans served⟩
    rw [dealt?, List.foldlM_cons, hw']
    exact hu

/-- All that has been read can be answered. -/
theorem all_answered {l : Line} (hl : w.client.session.line? n = some l) (hopen : l.connection.IsOpen) :
    ∃ more w' l', w.dealt? more = some w' ∧ w'.client.session.line? n = some l' ∧
      l'.connection.answered.Perm l.connection.replies := by
  by_cases hr : ∃ r, l.connection.reader = .heard (.request r)
  · obtain ⟨r, hr⟩ := hr
    obtain ⟨w', l', hw', hl', hc'⟩ := (goesOnAnswering hl hopen).owes r hr
    obtain ⟨more, u, l'', hu, hl'', told⟩ := all_written hl'
      (by rw [hc']; exact ⟨hopen.1, hopen.2, hopen.3⟩) (by rw [hc']; rfl)
    refine ⟨.happens (.goesOn (.reader n)) :: more, u, l'', ?_, hl'', told.trans (.of_eq ?_)⟩
    · rw [dealt?, List.foldlM_cons, hw']
      exact hu
    · rw [Connection.replies, Connection.replies, hc', Reader.inHand_of_heard hr]
      simp [Connection.inHand, Connection.answered]
  · exact all_written hl hopen (Reader.inHand_of_ne fun r h => hr ⟨r, h⟩)

/-! ## What is not concerned -/

/-- The reader of the line reads or has a request of the server in hand, or somebody writes an answer. -/
def AttendsToServer (w : Workbench) (n : Nat) (d : Dealing) : Prop :=
  (∃ k, d = .answers n k) ∨
    (d = .happens (.goesOn (.reader n)) ∨ d = .happens (.goesOn (.lateReader n))) ∧
      ∀ l, w.client.session.line? n = some l →
        l.connection.reader = .reading ∨ ∃ r, l.connection.reader = .heard (.request r)

theorem keepsRequests_deal? (h : w.deal? d = some w') (attends : w.AttendsToServer n d) :
    w'.calls = w.calls ∧ w'.returned = w.returned ∧
      w.client.session.Along Connection.KeepsRequests w'.client.session := by
  have replaced {l : Line} {c : Connection} (hl : w.client.session.line? n = some l)
      (keeps : l.connection.KeepsRequests c) : w.client.session.Along Connection.KeepsRequests
        (w.client.session.setConnection n c) := .setConnection .refl hl keeps
  have read {a : Activity} (ha : a = .reader n ∨ a = .lateReader n) (h : w.act? a = some w')
      (hr : ∀ l, w.client.session.line? n = some l →
        l.connection.reader = .reading ∨ ∃ r, l.connection.reader = .heard (.request r)) :
      w'.calls = w.calls ∧ w'.returned = w.returned ∧
        w.client.session.Along Connection.KeepsRequests w'.client.session := by
    obtain ⟨l, c, signals, hl, rfl, hread⟩ := act?_reader ha h
    refine ⟨rfl, rfl, ?_⟩
    show w.client.session.Along _ (w.client.absorbAll _).session
    rw [Client.session_absorbAll]
    refine replaced hl ?_
    rcases hread with ⟨-, hstop, -⟩ | ⟨-, hstep⟩
    · obtain ⟨-, rfl⟩ := Reader.stop?_eq hstop
      exact ⟨rfl, rfl, rfl, rfl⟩
    · exact (Reader.goes_of_step hstep).keepsRequests (hr l hl)
  rcases attends with ⟨k, rfl⟩ | ⟨rfl | rfl, hr⟩
  · obtain ⟨l, c, hl, hc, rfl⟩ := deal?_answers.1 h
    obtain ⟨r, -, rfl⟩ := Option.map_eq_some_iff.1 hc
    have calm := Connection.calm_tryWrite { l.connection with owed := l.connection.owed.eraseIdx k }
      (.response r)
    exact ⟨rfl, rfl, replaced hl ⟨calm.nextId, calm.pending, calm.slots, calm.answers⟩⟩
  · exact read (.inl rfl) h hr
  · exact read (.inr rfl) h hr

/-- **Every request of the server is answered once**, whatever its id, its method and its parameters are,
and whatever else goes on:

* The answer has the id of the request, and is what such a request is answered with.
* On a line that stays open, the answers that have been written, those that are owed, and the one that is
  about to be, are those to the requests that have been read, each as often as the request was read and in
  whatever order the answers are written.
* As long as the line is open what is missing can come at any time: a request that has come whole is read,
  what has been read is answered, and each answer that is owed is written.  With nothing else, all requests
  that have been read are answered in the end.
* Reading a request of the server, answering it and writing the answer leave the requests of the client on
  every line as they are, and the calls too. -/
theorem every_request_is_answered_once :
    (∀ r, (Reader.answer r).Answers r) ∧
    (∀ w₀ ds w n l, IsFresh w₀ → w₀.dealt? ds = some w → w₀.KeepsOpen n ds →
      w.client.session.line? n = some l →
      l.connection.replies.Perm ((w₀.asked n ds).map Reader.answer) ∧
      (l.connection.IsOpen → w.GoesOnAnswering n l.connection ∧
        ∃ more w' l', w.dealt? more = some w' ∧ w'.client.session.line? n = some l' ∧
          l'.connection.answered.Perm ((w₀.asked n ds).map Reader.answer))) ∧
    ∀ w d w' n, Workbench.deal? w d = some w' → w.AttendsToServer n d →
      w'.calls = w.calls ∧ w'.returned = w.returned ∧
        w.client.session.Along Connection.KeepsRequests w'.client.session := by
  refine ⟨Reader.answer_answers, fun w₀ ds w n l h₀ h stays hl => ?_,
    fun w d w' n h attends => keepsRequests_deal? h attends⟩
  have told := (answers_dealt? h₀ h stays).replies l hl
  refine ⟨told, fun hopen => ⟨goesOnAnswering hl hopen, ?_⟩⟩
  obtain ⟨more, w', l', hw', hl', written⟩ := all_answered hl hopen
  exact ⟨more, w', l', hw', hl', written.trans told⟩

/-- A request of the client waits with the number one.  The server makes a request with this number and
another one with a text that reads as it, and the second is answered first. -/
def crossedDealings : List Dealing :=
  ([Happening.calls (.request ⟨"textDocument/hover", none, none⟩ (.on 0 .beginning))] ++ takes 1 4
    ++ [sends ("\x7b\"jsonrpc\":\"2.0\",\"id\":1,\"method\":\"workspace/configuration\","
        ++ "\"params\":\x7b\"items\":[1,2]\x7d\x7d"),
      sends "\x7b\"jsonrpc\":\"2.0\",\"id\":\"1\",\"method\":\"workspace/applyEdit\"\x7d"]
    ++ List.replicate 4 (Happening.goesOn (.reader 0))).map .happens ++ [.answers 0 1]

/-- The first is still to be answered then, and the request of the client goes on waiting. -/
theorem crossed_requests_are_answered :
    ∃ w l, withLine.dealt? crossedDealings = some w ∧ w.client.session.line? 0 = some l ∧
      (withLine.asked 0 crossedDealings).map (·.id) = [.number 1, .text "1"] ∧
      l.connection.replies.Perm ((withLine.asked 0 crossedDealings).map Reader.answer) ∧
      l.connection.answered.map (·.id) = [some (.text "1")] ∧
      (∃ w', w.deal? (.answers 0 0) = some w' ∧ w'.calls = w.calls ∧
        w'.client.session.On 0 fun c => c.pending = [(1, 0)]) ∧
      ∃ more u l', w.dealt? more = some u ∧ u.client.session.line? 0 = some l' ∧
        l'.connection.answered.Perm ((withLine.asked 0 crossedDealings).map Reader.answer) := by
  have reached : (withLine.dealt? crossedDealings).any (fun w =>
      (w.client.session.line? 0).any fun l => decide l.connection.IsOpen &&
        l.connection.owed.length = 1 && l.connection.pending = [(1, 0)] &&
        l.connection.answered.map (·.id) = [some (.text "1")]) = true ∧
      withLine.KeepsOpen 0 crossedDealings ∧
      (withLine.asked 0 crossedDealings).map (·.id) = [.number 1, .text "1"] := by
    decide +kernel
  obtain ⟨hreached, stays, ids⟩ := reached
  obtain ⟨w, hw, hline⟩ := (Option.any_eq_true _ _).1 hreached
  obtain ⟨l, hl, hline⟩ := (Option.any_eq_true _ _).1 hline
  simp only [Bool.and_eq_true, decide_eq_true_eq] at hline
  obtain ⟨⟨⟨hopen, howed⟩, hpending⟩, hanswered⟩ := hline
  obtain ⟨-, serves, keeps⟩ := every_request_is_answered_once
  obtain ⟨told, missing⟩ :=
    serves withLine crossedDealings w 0 l isFresh_withLine hw stays hl
  obtain ⟨goesOn, finishes⟩ := missing hopen
  obtain ⟨r, hr⟩ := List.length_eq_one_iff.1 howed
  obtain ⟨w', l', hw', hl', -⟩ := goesOn.writes 0 r (by rw [hr]; rfl)
  obtain ⟨calls, -, along⟩ := keeps w (.answers 0 0) w' 0 hw' (.inl ⟨0, rfl⟩)
  refine ⟨w, l, hw, hl, ids, told, hanswered, ⟨w', hw', calls, fun l₁ hl₁ => ?_⟩, finishes⟩
  obtain ⟨l₂, hl₂, same⟩ := along 0 l hl
  obtain rfl : l₂ = l₁ := Option.some.inj (hl₂.symm.trans hl₁)
  rw [same.pending, hpending]

end Workbench

end LanguageClient
