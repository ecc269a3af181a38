import LanguageClient.Proofs.Session.Watch

/-!
# The line at the front

The line that a session holds, or that a call is about to hand over to it, is at the front.  A call
that closes a connection has taken the line away from the session before, or gives up one that it never
handed over; so nobody closes the line at the front.

* `LifecyclePoint.front?` — the line that a call is about to hand over.
* `LifecyclePoint.place_of_closes` — who closes a connection leaves no line at the front.
* **`LifecyclePoint.step_front`** — a line comes to the front only as a new one.
-/

namespace LanguageClient

open Session

/-- Tearing down brings no line to the front. -/
theorem TeardownPoint.step_active (graceful : Bool) (reason : String) (now : Nat) (s : Session)
    (p : TeardownPoint) :
    (p.step graceful reason now s).All fun s' => ∀ n, s'.active = some n → s.active = some n := by
  have steady {s' : Session} (h : s.Steady s') (n : Nat) (ha : s'.active = some n) :
      s.active = some n := h.active ▸ ha
  cases p with
  | taking =>
    rw [step]
    split
    next => exact fun _ h => h
    next => rintro _ ⟨⟩
  | unwatching n => exact fun _ h => h
  | shutting n p =>
    rw [step, Progress.all_within]
    exact (s.onLine_steady n _).mono fun _ => steady
  | closing n p =>
    rw [step, Progress.all_within]
    exact (s.onLine_steady n _).mono fun _ => steady
  | waitingExit n deadline =>
    rw [step]
    split
    next => exact fun _ h => h
    next => trivial
  | killing n => exact fun _ h => h

namespace ConnectPoint

/-- The new line, from its opening until it is handed over. -/
def front? : ConnectPoint → Option Nat
  | initializing n _ | numbering n | announcing n _ | handingOver n _ => some n
  | _ => none

/-- A new line comes to the front when it is opened, and is active in the end. -/
theorem step_front (endpoint : Endpoint) (now : Nat) (s : Session) (p : ConnectPoint) :
    (p.step endpoint now s).Leads
      (fun s' p' => ∀ n, s'.active = some n ∨ p'.front? = some n →
        (s.active = some n ∨ p.front? = some n) ∨ s.line? n = none)
      fun s' _ => ∀ n, s'.active = some n → s.active = some n ∨ p.front? = some n := by
  have steady {s' : Session} {p' : ConnectPoint} (hs : s.Steady s')
      (hf : p'.front? = none ∨ p'.front? = p.front?) (n : Nat)
      (h : s'.active = some n ∨ p'.front? = some n) :
      (s.active = some n ∨ p.front? = some n) ∨ s.line? n = none := by
    rw [hs.active] at h
    rcases hf with hf | hf <;> rw [hf] at h
    · exact .inl (.inl (h.resolve_right nofun))
    · exact .inl h
  cases p with
  | beginning => exact fun n h => .inl h
  | asking => exact fun n h => .inl h
  | opening =>
    rw [step]
    split
    next => trivial
    next => exact fun n h => .inl h
    next =>
      rintro n (h | h)
      · exact .inl (.inl h)
      · cases h
        exact .inr (List.getElem?_eq_none_iff.2 (Nat.le_refl _))
  | initializing n p =>
    refine (s.onLine_steady n _).leads.within (fun _ _ hs => steady hs (.inr rfl)) fun _ r hs => ?_
    cases r with
    | ok r => exact steady hs (.inr rfl)
    | error e => exact steady hs (.inl rfl)
  | abandoning n e p =>
    exact (s.onLine_steady n _).leads.within (fun _ _ hs => steady hs (.inl rfl))
      fun _ _ hs => steady hs (.inl rfl)
  | killing n e => exact fun n h => .inl h
  | failing e => exact fun n h => .inl h
  | numbering n => exact fun n h => .inl h
  | announcing n generation => exact fun n h => .inl h
  | handingOver n generation => exact fun m h => .inr h

end ConnectPoint

namespace LifecyclePoint

def front? : LifecyclePoint → Option Nat
  | connecting _ p => p.front?
  | _ => none

variable {first : Nat} {last : Option Endpoint} {call : LifecycleCall} {s : Session} {p : LifecyclePoint}

/-- Only who has entered is in the middle of something on a line. -/
theorem hasEntered_of_place (hp : p.place? ≠ none) : p.hasEntered = true := by
  cases p <;> first | rfl | exact absurd rfl hp

theorem front?_enter (call : LifecycleCall) (s : Session) : (enter call s).front? = none := by
  cases h : enter call s with
  | connecting endpoint p => exact absurd h (enter_ne_connecting call s endpoint p)
  | _ => rfl

/-- **Who closes a connection leaves no line at the front.** -/
theorem place_of_closes (h : p.Fits first last call s) {n : Nat} {q : ClosePoint}
    (hp : p.place? = some (n, .closes q)) : s.active = none ∧ p.front? = none := by
  cases p with
  | tearing graceful next p =>
    refine ⟨?_, rfl⟩
    cases p with
    | shutting m p => exact h.1.1.active
    | closing m p => exact h.1.1.active
    | _ => cases hp
  | connecting endpoint p =>
    cases p with
    | initializing m p => cases p <;> cases hp
    | abandoning m e p => exact ⟨h.1.1.active, rfl⟩
    | _ => cases hp
  | _ => cases hp

/-- **A line comes to the front only as a new one.** -/
theorem step_front (call : LifecycleCall) (s : Session) (hp : p.hasEntered = true) (task : TaskId)
    (now : Nat) :
    (p.step task call now s).Leads
      (fun s' p' => ∀ n, s'.active = some n ∨ p'.front? = some n →
        (s.active = some n ∨ p.front? = some n) ∨ s.line? n = none)
      fun s' _ => ∀ n, s'.active = some n → s.active = some n := by
  cases p with
  | queueing => cases hp
  | entering => cases hp
  | switching graceful endpoint => exact fun n h => .inl h
  | tearing graceful next p =>
    have hnone : (afterTeardown call next).front? = none := by
      unfold afterTeardown
      split <;> rfl
    refine (p.step_active graceful (reason call) now s).leads.within
      (fun s' p' h n hn => .inl (.inl (h n (hn.resolve_right nofun))))
      fun s' _ h n hn => .inl (.inl (h n (hn.resolve_right fun hf => ?_)))
    rw [hnone] at hf
    cases hf
  | remembering endpoint => exact fun n h => .inl h
  | bannering endpoint => exact fun n h => .inl h
  | connecting endpoint p =>
    exact (p.step_front endpoint now s).within (fun _ _ h => h)
      fun _ _ h n hn => .inl (h n (hn.resolve_right nofun))
  | stopping => exact fun n h => .inl h
  | leaving result => exact fun _ h => h

end LifecyclePoint

end LanguageClient
