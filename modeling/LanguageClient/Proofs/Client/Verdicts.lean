import LanguageClient.Proofs.Client.ConnectionLoss
import LanguageClient.Proofs.Client.Outstanding
import LanguageClient.Proofs.Connection.Verdicts

/-!
# Who is to blame when a request fails

The server answers a request with an error, the connection is lost, or the client gives the request up:
whoever has asked can tell these apart, as long as the server leaves the two codes alone that the client
has set aside for itself.

* `Workbench.WasClosed` — a call has begun to close a line, as `Workbench.WasLost` says that its reader
  has failed.
* `Workbench.ComesTo` — the next step of a request is its last, and this is what it comes to.
* **`server_errors_keep_their_identity`** — an error of the server is returned with its code and its
  message; a request is told that the connection is gone, or that it was cancelled, only if that is so.
* `reserved_codes_are_misread` — with a code that is set aside it is not so.
-/

namespace LanguageClient

open Exchange

/-- An error response with this code and this message is taken up for the first request. -/
def Exchange.Event.isError (code : Int32) (message : String) : Exchange.Event → Bool
  | .heard r (some (1, 0)) =>
    match r.outcome with
    | .error e => e.code = code && e.message = message
    | .ok _ => false
  | _ => false

theorem Exchange.Event.of_any_isError {events : List Exchange.Event} {code : Int32} {message : String}
    (h : events.any (·.isError code message) = true) :
    ∃ r e, Event.heard r (some (1, 0)) ∈ events ∧ r.outcome = .error e ∧
      e.code = code ∧ e.message = message := by
  obtain ⟨event, hmem, herror⟩ := List.any_eq_true.1 h
  unfold isError at herror
  split at herror
  next r =>
    split at herror
    next e ho => exact ⟨r, e, hmem, ho, by simpa using herror⟩
    next => cases herror
  next => cases herror

namespace Workbench

variable {w₀ w : Workbench} {hs : List Happening} {n : Nat}

/-- At some moment of a history a call began to close a line. -/
def WasClosed (w₀ : Workbench) (hs : List Happening) (n : Nat) : Prop :=
  ∃ k, During w₀ hs k fun u g =>
    ∃ task, g = .goesOn (.call task) ∧ u.place? task = some (n, .closes .flagging)

/-- **A line is open until a call begins to close it.** -/
theorem open_or_closed (h₀ : w₀.IsFresh) (h : w₀.after? hs = some w) (n : Nat) :
    (w.client.session.On n fun c => c.closing = false) ∨ w₀.WasClosed hs n := by
  refine after?_induction
    (P := fun hs w => (w.client.session.On n fun c => c.closing = false) ∨ w₀.WasClosed hs n)
    (.inl fun l hl => ?_) ?_ h
  · obtain ⟨link, peer, process, rfl⟩ := h₀.lines l (List.mem_of_getElem? hl)
    rfl
  · rintro hs g w w' hw (hopen | ⟨k, d⟩) hstep
    · by_cases hclose : ∃ task, g = .goesOn (.call task) ∧ w.place? task = some (n, .closes .flagging)
      · exact .inr ⟨hs.length, .last hw g hclose⟩
      · exact .inl (open_happen? (sound_after? h₀ hw) hstep hopen fun task hg hp =>
          hclose ⟨task, hg, hp⟩)
    · exact .inr ⟨k, d.concat g⟩

theorem wasLost_of_terminated (h₀ : w₀.IsFresh) (h : w₀.after? hs = some w) {l : Line}
    (hl : w.client.session.line? n = some l) (ht : l.connection.terminated = true) :
    w₀.WasLost hs n :=
  (intact_or_lost h₀ h n).resolve_left fun hintact =>
    absurd (ht.symm.trans (hintact l hl).terminated) nofun

theorem wasClosed_of_closing (h₀ : w₀.IsFresh) (h : w₀.after? hs = some w) {l : Line}
    (hl : w.client.session.line? n = some l) (hc : l.connection.closing = true) :
    w₀.WasClosed hs n :=
  (open_or_closed h₀ h n).resolve_left fun hopen => absurd (hc.symm.trans (hopen l hl)) nofun

/-! ## What every history keeps of a line -/

/-- Everything is known about the requests on a line. -/
structure Known (events : List Event) (x : Exchange) : Prop where
  numbered : IsNumbered events x
  correlated : IsCorrelated events x
  orderly : x.IsOrderly
  authored : IsAuthored events x
  unanswered : x.IsUnanswered
  grounded : x.IsGrounded
  awaited : IsAwaited events x
  kept : IsKept events x

theorem known_after? (h₀ : w₀.IsFresh) (h : w₀.after? hs = some w) {x : Exchange}
    (hx : w.exchange? n = some x) : Known (w₀.trace n hs) x := by
  refine exchange_induction (P := Known) (fun x hx => ?_) (fun events x x' e hx hstep => ?_) h₀ h hx
  · exact ⟨hx.isNumbered, hx.isCorrelated, hx.isOrderly, hx.isAuthored, hx.isUnanswered,
      hx.isGrounded, hx.isAwaited, hx.isKept⟩
  · exact {
      numbered := hx.numbered.step hstep
      correlated := hx.correlated.step hstep
      orderly := hx.orderly.step hstep
      authored := hx.authored.step hx.orderly hstep
      unanswered := hx.unanswered.step hx.correlated hstep
      grounded := hx.grounded.step hx.orderly hx.authored hstep
      awaited := hx.awaited.step hx.numbered hx.correlated hstep
      kept := hx.kept.step hx.correlated hx.unanswered hstep }

/-! ## A request that has been answered -/

/-- The next step of the request that a call is in the middle of on a line is its last, whatever is
asked and whenever the step is taken, and this is what the request comes to. -/
def ComesTo (w : Workbench) (n : Nat) (task : TaskId) (r : Except Failure Json) : Prop :=
  ∃ l p, w.client.session.line? n = some l ∧ w.place? task = some (n, .asks p) ∧
    ∀ q now, ∃ c, p.step q now l.connection = .ends c r

/-- A request that waits for its number, and for which a response was taken up, comes to what the
response says. -/
theorem comesTo_of_heard (h₀ : w₀.IsFresh) (h : w₀.after? hs = some w) {task : TaskId} {id : UInt64}
    {slot : Nat} {deadline : Option Nat}
    (hp : w.place? task = some (n, .asks (.waiting id slot deadline))) {r : Response}
    (hheard : .heard r (some (id, slot)) ∈ w₀.trace n hs) :
    w.ComesTo n task (r.outcome.mapError Failure.ofResponseError) := by
  cases hl : w.client.session.line? n with
  | none =>
    have := (sound_after? h₀ h).absent task n _ hp hl
    simp at this
  | some l =>
    have hx : w.exchange? n = some ⟨l.connection, w.traffic? n⟩ := by rw [exchange?, hl]; rfl
    have ha := (known_after? h₀ h hx).kept.answers id slot r hheard task id
      (.inr ⟨deadline, traffic?_eq_some.2 hp⟩)
    refine ⟨l, _, hl, hp, fun q now => ⟨l.connection.pickUp slot, ?_⟩⟩
    replace ha : l.connection.answers.get? slot = some r := ha
    rw [RequestPoint.step, ha]

/-- Whatever a request comes to with its next step, it can take this step. -/
theorem ComesTo.act? {task : TaskId} {r : Except Failure Json} (hw : w.Sound) (h : w.ComesTo n task r) :
    w.act? (.call task) ≠ none := by
  obtain ⟨l, p, hl, hp, hends⟩ := h
  intro hnone
  obtain ⟨q, p', he, hwaits⟩ := waits_of_act? hw hp hl hnone
  cases he
  obtain ⟨c, hstep⟩ := hends q w.client.now
  rw [hstep] at hwaits
  cases hwaits

/-- A call is in the middle of what it was in the middle of, until it takes a step itself. -/
theorem place?_of_other {w' : Workbench} (hw : w.Sound) {g : Happening} (h : w.happen? g = some w')
    {task : TaskId} (hg : g ≠ .goesOn (.call task)) {t : Nat × Traffic}
    (hp : w.place? task = some t) : w'.place? task = some t := by
  obtain ⟨call, hcall, ht⟩ := Option.bind_eq_some_iff.1 hp
  exact Option.bind_eq_some_iff.2 ⟨call, get?_of_other hw h hg hcall, ht⟩

/-- **A request that has been answered comes to the answer**, whatever happens in between. -/
theorem answered_after? {w' : Workbench} {more : List Happening} (h₀ : w₀.IsFresh)
    (h : w₀.after? hs = some w) (hmore : w.after? more = some w') {task : TaskId} {id : UInt64}
    {slot : Nat} {deadline : Option Nat}
    (hp : w.place? task = some (n, .asks (.waiting id slot deadline))) {r : Response}
    (hheard : .heard r (some (id, slot)) ∈ w₀.trace n hs) :
    w'.ComesTo n task (r.outcome.mapError Failure.ofResponseError) ∨
      ∃ k, During w more k fun u g => g = .goesOn (.call task) ∧
        u.ComesTo n task (r.outcome.mapError Failure.ofResponseError) := by
  have comes {more : List Happening} {u : Workbench} (hu : w.after? more = some u)
      (hp : u.place? task = some (n, .asks (.waiting id slot deadline))) :
      u.ComesTo n task (r.outcome.mapError Failure.ofResponseError) := by
    refine comesTo_of_heard h₀ (after?_trans h hu) hp ?_
    rw [trace, record_append _ h]
    exact List.mem_append_left _ hheard
  refine (after?_induction (P := fun more u =>
    u.place? task = some (n, .asks (.waiting id slot deadline)) ∨
      ∃ k, During w more k fun u g => g = .goesOn (.call task) ∧
        u.ComesTo n task (r.outcome.mapError Failure.ofResponseError)) (.inl hp) ?_ hmore).imp_left
    (comes hmore)
  rintro more g u u' hu (hwaits | ⟨k, d⟩) hstep
  · by_cases hg : g = .goesOn (.call task)
    · exact .inr ⟨more.length, .last hu g ⟨hg, comes hu hwaits⟩⟩
    · exact .inl (place?_of_other (sound_after? h₀ (after?_trans h hu)) hstep hg hwaits)
  · exact .inr ⟨k, d.concat g⟩

/-- **Errors of the server keep their identity**, on any line, after any history that begins with a
fresh workbench.

* A request waits for its number, and an error response was taken up for it, with a code that is not
  set aside.  Then, whatever happens, it fails with the code and the message of the response: it can
  take its step, or has taken it at some moment.
* A request fails with the connection only if the reader has failed and has marked the connection, or if
  a call has begun to close it, or if the server says so itself.
* A request is cancelled only if a call has begun to close the connection, or if the server says so
  itself, as long as fewer than `2 ^ 64` numbers were taken. -/
theorem server_errors_keep_their_identity (h₀ : w₀.IsFresh) (h : w₀.after? hs = some w) {l : Line}
    (hl : w.client.session.line? n = some l) :
    (∀ task id slot deadline r e, w.place? task = some (n, .asks (.waiting id slot deadline)) →
      .heard r (some (id, slot)) ∈ w₀.trace n hs → r.outcome = .error e → ¬ e.IsReserved →
      ∀ more w', w.after? more = some w' →
        (w'.ComesTo n task (.error (.backend e.code e.message)) ∧ w'.act? (.call task) ≠ none) ∨
          ∃ k, During w more k fun u g => g = .goesOn (.call task) ∧
            u.ComesTo n task (.error (.backend e.code e.message))) ∧
    (∀ task p q now c, w.place? task = some (n, .asks p) →
      p.step q now l.connection = .ends c (.error .terminated) →
      (l.connection.terminated = true ∧ w₀.WasLost hs n) ∨
        (l.connection.closing = true ∧ w₀.WasClosed hs n) ∨
        IsToldOf (w₀.trace n hs) p ResponseError.serverTerminated) ∧
    ((numbers (w₀.trace n hs)).length < 2 ^ 64 →
      ∀ task p q now c reason, w.place? task = some (n, .asks p) →
        p.step q now l.connection = .ends c (.error (.cancelled reason)) →
        (l.connection.closing = true ∧ w₀.WasClosed hs n) ∨
          IsToldOf (w₀.trace n hs) p ResponseError.requestCancelled) := by
  have hx : w.exchange? n = some ⟨l.connection, w.traffic? n⟩ := by rw [exchange?, hl]; rfl
  have known := known_after? h₀ h hx
  refine ⟨?_, ?_, ?_⟩
  · intro task id slot deadline r e hp hheard ho hreserved more w' hmore
    have answered := answered_after? h₀ h hmore hp hheard
    rw [ho, Except.mapError, Failure.ofResponseError_of_not_reserved hreserved] at answered
    exact answered.imp_left fun hcomes =>
      ⟨hcomes, hcomes.act? (sound_after? h₀ (after?_trans h hmore))⟩
  · intro task p q now c hp hstep
    rcases terminated_of_ends known.grounded known.authored known.correlated
      (traffic?_eq_some.2 hp) (RequestPoint.ends_of_step hstep) with hterm | hclosing | htold
    · exact .inl ⟨hterm, wasLost_of_terminated h₀ h hl hterm⟩
    · exact .inr (.inl ⟨hclosing, wasClosed_of_closing h₀ h hl hclosing⟩)
    · exact .inr (.inr htold)
  · intro hlt task p q now c reason hp hstep
    refine (cancelled_of_ends known.orderly known.authored known.correlated known.awaited
      (known.numbered.nodup hlt) (traffic?_eq_some.2 hp) (RequestPoint.ends_of_step hstep)).imp_left
      fun hclosing => ⟨hclosing, wasClosed_of_closing h₀ h hl hclosing⟩

/-! ## Two answers -/

/-- The server answers the first request with an error. -/
def failsFirst (code message : String) : Happening :=
  .streams 0 fun link => { link with received := [Utf8.ofString (Frame.encode
    ("\x7b\"jsonrpc\":\"2.0\",\"id\":1,\"error\":\x7b\"code\":" ++ code ++ ",\"message\":\"" ++ message ++
      "\"\x7d\x7d"))] }

/-- A request is made, and the server answers it with an error. -/
def erringHistory (code message : String) : List Happening :=
  [Happening.calls (.request { method := "aya/load" } (.on 0 .beginning))]
  ++ List.replicate 4 (.goesOn (.call ⟨1⟩)) ++ [failsFirst code message]
  ++ List.replicate 2 (.goesOn (.reader 0))

/-- Another request is made, and the connection is closed. -/
def closingHistory : List Happening :=
  [Happening.calls (.request { method := "aya/computeType" } (.on 0 .beginning))]
  ++ List.replicate 4 (.goesOn (.call ⟨2⟩)) ++ [Happening.calls (.close 0 "bye" .flagging)]
  ++ List.replicate 4 (.goesOn (.call ⟨3⟩))

/-- The first call waits for the answer to the first request. -/
def waitsForFirst (w : Workbench) : Bool :=
  match w.place? ⟨1⟩ with
  | some (0, .asks (.waiting 1 0 none)) => true
  | _ => false

theorem place?_of_waitsForFirst {w : Workbench} (h : w.waitsForFirst = true) :
    w.place? ⟨1⟩ = some (0, .asks (.waiting 1 0 none)) := by
  unfold waitsForFirst at h
  split at h
  next he => exact he
  next => cases h

/-- The second call is told with its next step that it was cancelled. -/
def cancelsSecond (w : Workbench) (l : Line) : Bool :=
  match w.place? ⟨2⟩ with
  | some (0, .asks p) =>
    match p.step default 0 l.connection with
    | .ends _ (.error (.cancelled _)) => true
    | _ => false
  | _ => false

theorem of_cancelsSecond {w : Workbench} {l : Line} (h : w.cancelsSecond l = true) :
    ∃ p c reason, w.place? ⟨2⟩ = some (0, .asks p) ∧
      p.step default 0 l.connection = .ends c (.error (.cancelled reason)) := by
  unfold cancelsSecond at h
  split at h
  next p hp =>
    split at h
    next c reason hstep => exact ⟨p, c, reason, hp, hstep⟩
    next => cases h
  next => cases h

theorem server_error_is_returned_by_closed_connection :
    ∃ w l, withLine.after? (erringHistory "-32603" "boom" ++ closingHistory) = some w ∧
      w.client.session.line? 0 = some l ∧
      (w.ComesTo 0 ⟨1⟩ (.error (.backend (-32603) "boom")) ∧ w.act? (.call ⟨1⟩) ≠ none) ∧
      ∃ p c reason, w.place? ⟨2⟩ = some (0, .asks p) ∧
        p.step default 0 l.connection = .ends c (.error (.cancelled reason)) ∧
        ((l.connection.closing = true ∧
            withLine.WasClosed (erringHistory "-32603" "boom" ++ closingHistory) 0) ∨
          IsToldOf (withLine.trace 0 (erringHistory "-32603" "boom" ++ closingHistory)) p
            ResponseError.requestCancelled) := by
  obtain ⟨reached, told, few⟩ :
      (withLine.after? (erringHistory "-32603" "boom" ++ closingHistory)).any (fun w =>
        w.waitsForFirst && (w.client.session.line? 0).any w.cancelsSecond) = true ∧
      (withLine.trace 0 (erringHistory "-32603" "boom" ++ closingHistory)).any
        (·.isError (-32603) "boom") = true ∧
      (numbers (withLine.trace 0 (erringHistory "-32603" "boom" ++ closingHistory))).length
        < 2 ^ 64 := by
    decide +kernel
  obtain ⟨w, hw, reached⟩ := (Option.any_eq_true _ _).1 reached
  obtain ⟨hwaits, reached⟩ := (Bool.and_eq_true _ _).mp reached
  obtain ⟨l, hl, hcancels⟩ := (Option.any_eq_true _ _).1 reached
  obtain ⟨r, e, hheard, ho, hcode, hmessage⟩ := Event.of_any_isError told
  obtain ⟨p, c, reason, hp, hstep⟩ := of_cancelsSecond hcancels
  obtain ⟨returned, -, cancelled⟩ := server_errors_keep_their_identity isFresh_withLine hw hl
  refine ⟨w, l, hw, hl, ?_, p, c, reason, hp, hstep, cancelled few _ p _ _ c reason hp hstep⟩
  have hreserved : ¬ e.IsReserved := by
    rw [ResponseError.IsReserved, hcode]
    decide
  rcases returned ⟨1⟩ 1 0 none r e (place?_of_waitsForFirst hwaits) hheard ho hreserved [] w rfl with
    hcomes | ⟨k, d⟩
  · rwa [hcode, hmessage] at hcomes
  · exact absurd d.lt (Nat.not_lt_zero k)

/-! ## Codes that are set aside -/

/-- An error response with this code and this message is taken up for a request that waits, on a
connection that is neither lost nor being closed; and the request comes to another failure. -/
def Misreads (w₀ : Workbench) (hs : List Happening) (code : Int32) (message : String)
    (failure : Failure) : Prop :=
  ∃ w l r e, w₀.after? hs = some w ∧ w.client.session.line? 0 = some l ∧
    l.connection.terminated = false ∧ l.connection.closing = false ∧
    w.place? ⟨1⟩ = some (0, .asks (.waiting 1 0 none)) ∧
    .heard r (some (1, 0)) ∈ w₀.trace 0 hs ∧ r.outcome = .error e ∧
    e.code = code ∧ e.message = message ∧
    w.ComesTo 0 ⟨1⟩ (.error failure) ∧ failure ≠ .backend code message

theorem misreads_of_check {hs : List Happening} {code : Int32} {message : String}
    (h₀ : w₀.IsFresh) (hreserved : code = ResponseError.serverTerminated ∨
      code = ResponseError.requestCancelled)
    (h : (w₀.after? hs).any (fun w => w.waitsForFirst && (w.client.session.line? 0).any fun l =>
        !l.connection.terminated && !l.connection.closing) = true ∧
      (w₀.trace 0 hs).any (·.isError code message) = true) :
    w₀.Misreads hs code message (Failure.ofResponseError { code, message }) := by
  obtain ⟨reached, told⟩ := h
  obtain ⟨w, hw, hreached⟩ := (Option.any_eq_true _ _).1 reached
  obtain ⟨hwaits, hreached⟩ := (Bool.and_eq_true _ _).mp hreached
  obtain ⟨l, hl, hflags⟩ := (Option.any_eq_true _ _).1 hreached
  simp only [Bool.and_eq_true, Bool.not_eq_true'] at hflags
  obtain ⟨r, e, hheard, ho, rfl, rfl⟩ := Event.of_any_isError told
  have hplace := place?_of_waitsForFirst hwaits
  have comes := comesTo_of_heard h₀ hw hplace hheard
  rw [ho] at comes
  refine ⟨w, l, r, e, hw, hl, hflags.1, hflags.2, hplace, hheard, ho, rfl, rfl, comes, ?_⟩
  rcases hreserved with hcode | hcode <;> rw [Failure.ofResponseError, hcode]
  · rintro ⟨⟩
  · rintro ⟨⟩

/-- **The server is taken for the client.**  An error with a code that is set aside is returned as if
the request had been cancelled, or as if the connection were lost, although nothing of the kind has
happened. -/
theorem reserved_codes_are_misread :
    withLine.Misreads (erringHistory "-32800" "request cancelled") (-32800) "request cancelled"
        (.cancelled "request cancelled") ∧
      withLine.Misreads (erringHistory "-32099" "out of memory") (-32099) "out of memory"
        .terminated :=
  ⟨misreads_of_check isFresh_withLine (.inr rfl) (by decide +kernel),
    misreads_of_check isFresh_withLine (.inl rfl) (by decide +kernel)⟩

end Workbench

end LanguageClient
