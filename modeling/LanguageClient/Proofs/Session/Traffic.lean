import LanguageClient.Client.Call
import LanguageClient.Proofs.Client.Happening
import LanguageClient.Proofs.Connection.Exchange

/-!
# What a call does on a connection

Calls of very different kinds come down to the same few things on a connection.  A request is made by
a plain request, by a handshake, by an orderly shutdown, by a start, a restart or a stop on the way,
and by an action; a connection is closed by a close, a shutdown, and again by whoever replaces it.
`Call.place?` says whether a call is in the middle of a request or of closing, and on which line.

**`Call.step_turns`** is the inversion lemma for the steps of all calls.  A step of a call is one of
five things (`Session.Turn`): the next step of its request, the last one, the next step of closing,
the last one, or a step beside all this, which is calm on every line and after which at most a
request or a closing is *about to* begin.  What holds of requests and closing in general is derived
from this, once and not for each kind of call.
-/

namespace LanguageClient

/-- Nothing is going on, or it has not begun yet. -/
def Begins (t : Option (Nat × Traffic)) : Prop := ∀ n x, t = some (n, x) → x.IsFirst

theorem begins_none : Begins none := fun _ _ h => nomatch h

theorem begins_asks (n : Nat) : Begins (some (n, .asks .beginning)) := by
  rintro _ _ ⟨⟩
  trivial

theorem begins_closes (n : Nat) : Begins (some (n, .closes .flagging)) := by
  rintro _ _ ⟨⟩
  trivial

/-! ## The place of a call -/

/-- A request on a line. -/
def RequestPoint.placeOn (n : Nat) (p : RequestPoint) : Option (Nat × Traffic) := some (n, .asks p)

def ClosePoint.placeOn (n : Nat) (p : ClosePoint) : Option (Nat × Traffic) := some (n, .closes p)

def InitializePoint.placeOn (n : Nat) : InitializePoint → Option (Nat × Traffic)
  | asking p => p.placeOn n
  | _ => none

def ShutdownPoint.placeOn (n : Nat) : ShutdownPoint → Option (Nat × Traffic)
  | asking p => p.placeOn n
  | exiting => none
  | closing p => p.placeOn n

def TeardownPoint.place? : TeardownPoint → Option (Nat × Traffic)
  | shutting n p => p.placeOn n
  | closing n p => p.placeOn n
  | _ => none

def ConnectPoint.place? : ConnectPoint → Option (Nat × Traffic)
  | initializing n p => p.placeOn n
  | abandoning n _ p => p.placeOn n
  | _ => none

def LifecyclePoint.place? : LifecyclePoint → Option (Nat × Traffic)
  | tearing _ _ p => p.place?
  | connecting _ p => p.place?
  | _ => none

def Via.place? {π : Type} (place : Nat → π → Option (Nat × Traffic)) : Via π → Option (Nat × Traffic)
  | on n p => place n p
  | _ => none

def ActionPoint.place? : ActionPoint → Option (Nat × Traffic)
  | asking _ _ p => p.place? RequestPoint.placeOn
  | _ => none

def RunPoint.place? : RunPoint → Option (Nat × Traffic)
  | acting p => p.place?
  | _ => none

/-- What a call is in the middle of, and on which line. -/
def Call.place? : Call → Option (Nat × Traffic)
  | lifecycle _ p => p.place?
  | request _ p => p.place? RequestPoint.placeOn
  | handshake n _ p => p.placeOn n
  | shutdown n _ p => p.placeOn n
  | close n _ p => p.placeOn n
  | run _ _ p => p.place?
  | startUp (.starting _ p) => p.place?
  | restart p => p.place?
  | _ => none

/-- A new call has not begun anything on a connection. -/
theorem Call.begins_of_isNew {c : Call} (h : c.isNew = true) : Begins c.place? := by
  cases c with
  | lifecycle call p => cases p <;> first | exact begins_none | cases h
  | request q p =>
    cases p with
    | looking => exact begins_none
    | picking seen => cases h
    | on n p => cases p <;> first | exact begins_asks n | cases h
  | notify m p => exact begins_none
  | sync uri text p => exact begins_none
  | closeDocument uri p => exact begins_none
  | handshake n q p =>
    cases p with
    | asking p => cases p <;> first | exact begins_asks n | cases h
    | remembering r => cases h
    | confirming r => cases h
  | shutdown n q p =>
    cases p with
    | asking p => cases p <;> first | exact begins_asks n | cases h
    | exiting => cases h
    | closing p => cases h
  | close n reason p => cases p <;> first | exact begins_closes n | cases h
  | run kind reporting p => cases p <;> first | exact begins_none | cases h
  | startUp p => cases p <;> first | exact begins_none | cases h
  | restart p => cases p <;> first | exact begins_none | cases h
  | openFile path p => exact begins_none

/-! ## Lines -/

namespace Session

theorem line?_modifyLine (s : Session) (n m : Nat) (f : Line → Line) :
    (s.modifyLine n f).line? m = if n = m then (s.line? m).map f else s.line? m := by
  simp only [modifyLine, line?, List.getElem?_modify]
  split <;> simp

theorem line?_setConnection (s : Session) (n m : Nat) (c : Connection) :
    (s.setConnection n c).line? m =
      if n = m then (s.line? m).map fun l => { l with connection := c } else s.line? m :=
  line?_modifyLine s n m _

/-- A step beside requests, readers and closing: every line stays and is as it was in these
respects, and every line that comes is a new one. -/
structure Calm (s s' : Session) : Prop where
  stays : ∀ n l, s.line? n = some l → ∃ l', s'.line? n = some l' ∧ l.connection.Calm l'.connection
  comes : ∀ n l, s.line? n = none → s'.line? n = some l → l.IsFresh
  offers : ∀ l, s'.offer = some (.ok l) → s.offer = some (.ok l) ∨ l.IsFresh

namespace Calm

/-- What leaves the lines alone is calm, if it does not offer an old line. -/
theorem of_offer {s s' : Session} (h : s'.lines = s.lines)
    (ho : ∀ l, s'.offer = some (.ok l) → s.offer = some (.ok l) ∨ l.IsFresh) : s.Calm s' where
  stays n l hl := ⟨l, by rwa [line?, h], Connection.Calm.refl _⟩
  comes n l hn hl := by rw [line?, h, ← line?, hn] at hl; cases hl
  offers := ho

theorem of_lines {s s' : Session} (h : s'.lines = s.lines) (ho : s'.offer = s.offer) : s.Calm s' :=
  of_offer h fun _ hl => .inl (ho ▸ hl)

/-- A new line may come. -/
theorem of_append {s s' : Session} {line : Line} (hline : line.IsFresh)
    (h : s'.lines = s.lines ++ [line]) (ho : s'.offer = none) : s.Calm s' where
  stays n l hl := by
    rw [line?, h]
    exact ⟨l, (List.getElem?_append_left (List.getElem?_eq_some_iff.1 hl).1).trans hl, .refl _⟩
  comes n l hn hl := by
    rw [line?, h, List.getElem?_append_right (List.getElem?_eq_none_iff.1 hn)] at hl
    obtain rfl := List.mem_singleton.1 (List.mem_of_getElem? hl)
    exact hline
  offers l hl := by
    rw [ho] at hl
    cases hl

theorem refl (s : Session) : s.Calm s := of_lines rfl rfl

/-- What is done to a line is calm if it is calm on its connection. -/
theorem modifyLine (s : Session) (n : Nat) {f : Line → Line}
    (h : ∀ l, s.line? n = some l → l.connection.Calm (f l).connection) : s.Calm (s.modifyLine n f) where
  stays m l hl := by
    rw [line?_modifyLine]
    split
    next e => exact ⟨f l, by simp [hl], h l (e ▸ hl)⟩
    next => exact ⟨l, hl, Connection.Calm.refl _⟩
  comes m l hm hl := by
    rw [line?_modifyLine, hm] at hl
    split at hl <;> cases hl
  offers l hl := .inl hl

end Calm

/-! ## Steps of calls -/

/-- What a step of a call that was in the middle of `t` comes to: the session after it, and what the
call is in the middle of then. -/
inductive Turn (now : Nat) (s : Session) :
    Option (Nat × Traffic) → Session → Option (Nat × Traffic) → Prop
  /-- Its request goes on. -/
  | asks {n : Nat} {l : Line} {q : Query} {p p' : RequestPoint} {c : Connection}
      (hl : s.line? n = some l) (h : p.step q now l.connection = .goesOn c p') :
      Turn now s (some (n, .asks p)) (s.setConnection n c) (some (n, .asks p'))
  /-- Its request ends. -/
  | asked {n : Nat} {l : Line} {q : Query} {p : RequestPoint} {c : Connection}
      {r : Except Failure Json} {t : Option (Nat × Traffic)}
      (hl : s.line? n = some l) (h : p.step q now l.connection = .ends c r) (ht : Begins t) :
      Turn now s (some (n, .asks p)) (s.setConnection n c) t
  /-- It goes on closing the connection. -/
  | closes {n : Nat} {l : Line} {reason : String} {p p' : ClosePoint} {c : Connection}
      (hl : s.line? n = some l) (h : p.step reason l.connection = .goesOn c p') :
      Turn now s (some (n, .closes p)) (s.setConnection n c) (some (n, .closes p'))
  /-- The connection has been closed. -/
  | closed {n : Nat} {l : Line} {reason : String} {p : ClosePoint} {c : Connection}
      {t : Option (Nat × Traffic)}
      (hl : s.line? n = some l) (h : p.step reason l.connection = .ends c ()) (ht : Begins t) :
      Turn now s (some (n, .closes p)) (s.setConnection n c) t
  /-- It does something else. -/
  | aside {s' : Session} {t : Option (Nat × Traffic)} (h : s.Calm s') (ht : Begins t) :
      Turn now s none s' t

/-- What has come to its end may be followed by something that has not begun yet. -/
theorem Turn.next {now : Nat} {s s' : Session} {t t' : Option (Nat × Traffic)}
    (h : s.Turn now t s' none) (ht : Begins t') : s.Turn now t s' t' := by
  cases h with
  | asked hl h _ => exact .asked hl h ht
  | closed hl h _ => exact .closed hl h ht
  | aside h _ => exact .aside h ht

theorem line?_none_of_setConnection {s : Session} {n m : Nat} {c : Connection}
    (h : (s.setConnection m c).line? n = none) : s.line? n = none := by
  rw [line?_setConnection] at h
  split at h <;> simpa using h

theorem Calm.line?_none {s s' : Session} (h : s.Calm s') {n : Nat} (hn : s'.line? n = none) :
    s.line? n = none := by
  cases hl : s.line? n with
  | none => rfl
  | some l =>
    obtain ⟨l', hl', _⟩ := h.stays n l hl
    rw [hn] at hl'
    cases hl'

/-- A line that is there remains. -/
theorem Turn.line?_none {now : Nat} {s s' : Session} {t t' : Option (Nat × Traffic)}
    (h : s.Turn now t s' t') {n : Nat} (hn : s'.line? n = none) : s.line? n = none := by
  cases h with
  | aside hcalm _ => exact hcalm.line?_none hn
  | _ => exact line?_none_of_setConnection hn

/-- A connection that is offered was offered before, or is new. -/
theorem Turn.offers {now : Nat} {s s' : Session} {t t' : Option (Nat × Traffic)}
    (h : s.Turn now t s' t') {l : Line} (hl : s'.offer = some (.ok l)) :
    s.offer = some (.ok l) ∨ l.IsFresh := by
  cases h with
  | aside hcalm _ => exact hcalm.offers l hl
  | _ => exact .inl hl

theorem not_line?_setConnection {s : Session} {n m : Nat} {c : Connection} {l : Line}
    (hn : s.line? n = none) : (s.setConnection m c).line? n ≠ some l := by
  rw [line?_setConnection, hn]
  split <;> exact nofun

/-- A line that comes is a new one. -/
theorem Turn.comes {now : Nat} {s s' : Session} {t t' : Option (Nat × Traffic)}
    (h : s.Turn now t s' t') {n : Nat} {l : Line} (hn : s.line? n = none)
    (hl : s'.line? n = some l) : l.IsFresh := by
  cases h with
  | aside hcalm _ => exact hcalm.comes n l hn hl
  | _ => exact absurd hl (not_line?_setConnection hn)

/-- What a call is in the middle of on a line that there is not has not begun. -/
theorem Turn.absent {now : Nat} {s s' : Session} {t t' : Option (Nat × Traffic)}
    (h : s.Turn now t s' t') {n : Nat} {x : Traffic} (hn : s.line? n = none)
    (hx : t' = some (n, x)) : x.IsFirst := by
  cases h with
  | asks hl _ => cases hx; rw [hn] at hl; cases hl
  | closes hl _ => cases hx; rw [hn] at hl; cases hl
  | asked _ _ ht => exact ht n x hx
  | closed _ _ ht => exact ht n x hx
  | aside _ ht => exact ht n x hx

/-- A call that waits on a line waits for the answer to its request. -/
def Blocked (now : Nat) (s : Session) (t : Option (Nat × Traffic)) : Prop :=
  ∀ n x l, t = some (n, x) → s.line? n = some l →
    ∃ q p, x = .asks p ∧ RequestPoint.step q now l.connection p = .waits

theorem blocked_none (now : Nat) (s : Session) : Blocked now s none := fun _ _ _ h => nomatch h

end Session

open Session

namespace Progress

variable {σ π ρ α β : Type}

/-- A step of a call in the middle of `t` is a turn: `place` says what the call is in the middle of
at each of its points, and a call that has ended is in the middle of nothing. -/
def Turns (session : σ → Session) (now : Nat) (s : Session) (t : Option (Nat × Traffic))
    (place : π → Option (Nat × Traffic)) : Progress σ π α → Prop
  | waits => s.Blocked now t
  | goesOn s' p => s.Turn now t (session s') (place p)
  | ends s' _ => s.Turn now t (session s') none

variable {session : σ → Session} {now : Nat} {s : Session} {t : Option (Nat × Traffic)}
  {place : π → Option (Nat × Traffic)} {place' : ρ → Option (Nat × Traffic)}

theorem Turns.last {p : Progress σ π α} (h : p.Turns session now s t place)
    (place' : ρ → Option (Nat × Traffic)) (wrap : π → ρ) (hw : ∀ x, place' (wrap x) = place x)
    (result : α → β) : (p.last wrap result).Turns session now s t place' := by
  cases p with
  | waits => exact h
  | goesOn s' x => simpa [Turns, Progress.last, hw] using h
  | ends s' a => exact h

theorem Turns.within {p : Progress σ π α} (h : p.Turns session now s t place) {wrap : π → ρ}
    {next : α → ρ} (hw : ∀ x, place' (wrap x) = place x) (hn : ∀ a, Begins (place' (next a))) :
    (p.within wrap next : Progress σ ρ β).Turns session now s t place' := by
  cases p with
  | waits => exact h
  | goesOn s' x => simpa [Turns, Progress.within, hw] using h
  | ends s' a => exact Turn.next h (hn a)

end Progress

/-! ### On one connection -/

namespace Session

section

variable {π α : Type} {s : Session} {n : Nat} {l : Line} {c : Connection}

theorem onLine_of_none (h : s.line? n = none) (f : Connection → Progress Connection π α) :
    s.onLine n f = .waits := by
  rw [onLine, h]

theorem onLine_of_some (h : s.line? n = some l) (f : Connection → Progress Connection π α) :
    s.onLine n f = (f l.connection).onState (s.setConnection n) := by
  rw [onLine, h]

theorem Calm.setConnection (hl : s.line? n = some l) (h : l.connection.Calm c) :
    s.Calm (s.setConnection n c) :=
  Calm.modifyLine s n fun l' hl' => by
    obtain rfl : l = l' := by simpa [hl] using hl'
    exact h

/-- Nobody waits on a line that there is not. -/
theorem blocked_of_none {now : Nat} (h : s.line? n = none) (x : Traffic) :
    s.Blocked now (some (n, x)) := by
  rintro _ _ l ⟨⟩ hl
  rw [h] at hl
  cases hl

theorem blocked_asks {now : Nat} {q : Query} {p : RequestPoint} (hl : s.line? n = some l)
    (h : p.step q now l.connection = .waits) : s.Blocked now (p.placeOn n) := by
  rintro _ _ l' ⟨⟩ hl'
  obtain rfl : l = l' := by simpa [hl] using hl'
  exact ⟨q, p, rfl, h⟩

end

variable (now : Nat) (s : Session) (n : Nat)

theorem onLine_asks (q : Query) (p : RequestPoint) :
    (s.onLine n fun c => p.step q now c).Turns id now s (p.placeOn n) (RequestPoint.placeOn n) := by
  cases hl : s.line? n with
  | none =>
    rw [onLine_of_none hl]
    exact blocked_of_none hl _
  | some l =>
    rw [onLine_of_some hl]
    cases h : p.step q now l.connection with
    | waits => exact blocked_asks hl h
    | goesOn c p' => exact .asks hl h
    | ends c r => exact .asked hl h begins_none

theorem onLine_closes (reason : String) (p : ClosePoint) :
    (s.onLine n fun c => p.step reason c).Turns id now s (p.placeOn n) (ClosePoint.placeOn n) := by
  cases hl : s.line? n with
  | none =>
    rw [onLine_of_none hl]
    exact blocked_of_none hl _
  | some l =>
    rw [onLine_of_some hl]
    cases h : p.step reason l.connection with
    | waits => cases p <;> cases h
    | goesOn c p' => exact .closes hl h
    | ends c r => exact .closed hl h begins_none

/-- A calm step on a connection. -/
theorem onLine_calm {π α : Type} {f : Connection → Progress Connection π α}
    (h : ∀ c, (f c).All c.Calm) : (s.onLine n f).Turns id now s none fun _ => none := by
  cases hl : s.line? n with
  | none =>
    rw [onLine_of_none hl]
    exact blocked_none now s
  | some l =>
    rw [onLine_of_some hl]
    have hc := h l.connection
    cases hf : f l.connection with
    | waits => exact blocked_none now s
    | goesOn c p => exact .aside (.setConnection hl (by rwa [hf] at hc)) begins_none
    | ends c a => exact .aside (.setConnection hl (by rwa [hf] at hc)) begins_none

theorem onLine_handshake (q : Query) (p : InitializePoint) :
    (s.onLine n fun c => p.step q now c).Turns id now s (p.placeOn n)
      (InitializePoint.placeOn n) := by
  cases hl : s.line? n with
  | none =>
    rw [onLine_of_none hl]
    cases p with
    | asking p => exact blocked_of_none hl _
    | remembering r => exact blocked_none now s
    | confirming r => exact blocked_none now s
  | some l =>
    rw [onLine_of_some hl]
    cases p with
    | asking p =>
      simp only [InitializePoint.step]
      cases h : p.step q now l.connection with
      | waits => exact blocked_asks hl h
      | goesOn c p' => exact .asks hl h
      | ends c r =>
        dsimp only
        split
        next => exact .asked hl h begins_none
        next => exact .asked hl h begins_none
    | remembering r => exact .aside (.setConnection hl (by constructor <;> rfl)) begins_none
    | confirming r => exact .aside (.setConnection hl (Connection.calm_tryWrite _ _)) begins_none

theorem onLine_shutdown (q : Query) (p : ShutdownPoint) :
    (s.onLine n fun c => p.step q now c).Turns id now s (p.placeOn n) (ShutdownPoint.placeOn n) := by
  cases hl : s.line? n with
  | none =>
    rw [onLine_of_none hl]
    cases p with
    | asking p => exact blocked_of_none hl _
    | exiting => exact blocked_none now s
    | closing p => exact blocked_of_none hl _
  | some l =>
    rw [onLine_of_some hl]
    cases p with
    | asking p =>
      simp only [ShutdownPoint.step]
      cases h : p.step q now l.connection with
      | waits => exact blocked_asks hl h
      | goesOn c p' => exact .asks hl h
      | ends c r =>
        cases r with
        | ok j => exact .asked hl h begins_none
        | error e => exact .asked hl h (begins_closes n)
    | exiting => exact .aside (.setConnection hl (Connection.calm_tryWrite _ _)) (begins_closes n)
    | closing p =>
      simp only [ShutdownPoint.step]
      cases h : p.step ShutdownPoint.reason l.connection with
      | waits => cases p <;> cases h
      | goesOn c p' => exact .closes hl h
      | ends c r => exact .closed hl h begins_none

end Session

/-! ### On a session -/

theorem TeardownPoint.step_turns (graceful : Bool) (reason : String) (now : Nat) (s : Session)
    (p : TeardownPoint) :
    (p.step graceful reason now s).Turns id now s p.place? TeardownPoint.place? := by
  cases p with
  | taking =>
    rw [step]
    split
    next => exact .aside (.refl s) begins_none
    next => exact .aside (.of_lines rfl rfl) begins_none
  | unwatching n =>
    refine .aside (.of_lines rfl rfl) ?_
    cases graceful with
    | true => exact begins_asks n
    | false => exact begins_closes n
  | shutting n p =>
    refine (onLine_shutdown now s n _ p).within (fun _ => rfl) fun _ => ?_
    cases graceful <;> exact begins_none
  | closing n p =>
    exact (onLine_closes now s n reason p).within (fun _ => rfl) fun _ => begins_none
  | waitingExit n deadline =>
    rw [step]
    split
    next => exact .aside (.refl s) begins_none
    next => exact blocked_none now s
  | killing n =>
    exact .aside (.modifyLine s n fun l _ => Connection.Calm.refl l.connection) begins_none

theorem ConnectPoint.step_turns (endpoint : Endpoint) (now : Nat) (s : Session)
    (hs : ∀ l, s.offer = some (.ok l) → l.IsFresh) (p : ConnectPoint) :
    (p.step endpoint now s).Turns id now s p.place? ConnectPoint.place? := by
  cases p with
  | beginning => exact .aside (.of_lines rfl rfl) begins_none
  | asking => exact .aside (.of_lines rfl rfl) begins_none
  | opening =>
    rw [step]
    split
    next => exact blocked_none now s
    next => exact .aside (.of_offer rfl fun l hl => nomatch hl) begins_none
    next line hline => exact .aside (.of_append (hs line hline) rfl rfl) (begins_asks _)
  | initializing n p =>
    refine (onLine_handshake now s n _ p).within (fun _ => rfl) fun r => ?_
    cases r with
    | ok r => exact begins_none
    | error e => exact begins_closes n
  | abandoning n e p =>
    exact (onLine_closes now s n abandonReason p).within (fun _ => rfl) fun _ => begins_none
  | killing n e =>
    exact .aside (.modifyLine s n fun l _ => Connection.Calm.refl l.connection) begins_none
  | failing e => exact .aside (.of_lines rfl rfl) begins_none
  | numbering n => exact .aside (.of_lines rfl rfl) begins_none
  | announcing n generation => exact .aside (.of_lines rfl rfl) begins_none
  | handingOver n generation => exact .aside (.of_lines rfl rfl) begins_none

theorem LifecyclePoint.step_turns (task : TaskId) (call : LifecycleCall) (now : Nat) (s : Session)
    (hs : ∀ l, s.offer = some (.ok l) → l.IsFresh) (p : LifecyclePoint) :
    (p.step task call now s).Turns id now s p.place? LifecyclePoint.place? := by
  cases p with
  | queueing => exact .aside (.of_lines rfl rfl) begins_none
  | entering =>
    rw [step]
    split
    next =>
      refine .aside (.refl s) ?_
      unfold enter
      split
      next => split <;> [exact begins_none; split <;> exact begins_none]
      next => split <;> exact begins_none
      next => split <;> exact begins_none
    next => exact blocked_none now s
  | switching graceful endpoint => exact .aside (.of_lines rfl rfl) begins_none
  | tearing graceful next p =>
    refine (p.step_turns graceful (reason call) now s).within (fun _ => rfl) fun _ => ?_
    unfold afterTeardown
    split <;> exact begins_none
  | remembering endpoint => exact .aside (.of_lines rfl rfl) begins_none
  | bannering endpoint => exact .aside (.of_lines rfl rfl) begins_none
  | connecting endpoint p =>
    exact (p.step_turns endpoint now s hs).within (fun _ => rfl) fun _ => begins_none
  | stopping => exact .aside (.of_lines rfl rfl) begins_none
  | leaving result => exact .aside (.of_lines rfl rfl) begins_none

theorem Via.step_turns {π α : Type} (place : Nat → π → Option (Nat × Traffic)) (first : π)
    {run : π → Connection → Progress Connection π (Except Failure α)} (now : Nat) (s : Session)
    (hfirst : ∀ n, Begins (place n first))
    (hrun : ∀ n p, (s.onLine n (run p)).Turns id now s (place n p) (place n)) (p : Via π) :
    (p.step first run s).Turns id now s (p.place? place) (Via.place? place) := by
  cases p with
  | looking =>
    rw [step]
    split
    next => exact .aside (.refl s) begins_none
    next => exact .aside (.refl s) begins_none
  | picking seen =>
    rw [step]
    split
    next => exact blocked_none now s
    next =>
      split
      next => exact .aside (.refl s) begins_none
      next n _ => exact .aside (.refl s) (hfirst n)
  | on n p => exact (hrun n p).last (Via.place? place) (on n) (fun _ => rfl) id

/-- A request to whatever connection is active. -/
theorem Via.step_asks (q : Query) (now : Nat) (s : Session) (p : Via RequestPoint) :
    (p.step .beginning (fun p c => p.step q now c) s).Turns id now s
      (p.place? RequestPoint.placeOn) (Via.place? RequestPoint.placeOn) :=
  p.step_turns RequestPoint.placeOn .beginning now s begins_asks fun n p => onLine_asks now s n q p

/-- What is calm on every connection is calm on the active one. -/
theorem Via.step_calm {π α : Type} (first : π)
    {run : π → Connection → Progress Connection π (Except Failure α)} (now : Nat) (s : Session)
    (hrun : ∀ p c, (run p c).All c.Calm) (p : Via π) :
    (p.step first run s).Turns id now s none fun _ => none := by
  have h := p.step_turns (fun _ _ => none) first now s (fun _ => begins_none)
    fun n p => onLine_calm now s n (hrun p)
  have hp (p : Via π) : p.place? (fun _ _ => none) = none := by cases p <;> rfl
  simpa only [funext hp, hp] using h

end LanguageClient
