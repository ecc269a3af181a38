import LanguageClient.Connection.Request
import LanguageClient.Proofs.Connection.Flags

/-!
# The steps of a request

What a request can do next, and what follows from where it is.

* `RequestPoint.Goes` and `RequestPoint.Ends` — the ways in which a request goes on and ends, each
  with everything that has to be the case for it (`goes_of_step`, `ends_of_step`).
* `RequestPoint.waits_of_step` — a request waits only for an answer that may still come.
-/

namespace LanguageClient

/-- A request is given up for such a reason: the connection was lost, the stream failed, or the time
was up. -/
def Failure.GivesUp : Failure → Prop
  | .terminated | .io _ | .timeout _ => True
  | _ => False

/-- A request ends for such a reason without what the server answered. -/
def Failure.EndsRequest : Failure → Prop
  | .terminated | .cancelled _ | .io _ | .timeout _ => True
  | _ => False

theorem Failure.GivesUp.endsRequest {e : Failure} (h : e.GivesUp) : e.EndsRequest := by
  cases e <;> trivial

namespace RequestPoint

/-- How a request goes on. -/
inductive Goes (q : Query) (c : Connection) : RequestPoint → Connection → RequestPoint → Prop
  | begins (h : c.terminated = false) : Goes q c beginning c numbering
  | numbers : Goes q c numbering { c with nextId := c.nextId + 1 } (registering c.nextId)
  | registers {id : UInt64} : Goes q c (registering id) (c.register id) (writing id c.slots)
  | writes {id : UInt64} {slot : Nat} {deadline : Option Nat} {c' : Connection}
      (h : c.write (.request (q.toRequest id)) = .ok c') :
      Goes q c (writing id slot) c' (waiting id slot deadline)
  | refused {id : UInt64} {slot : Nat} {e : Failure}
      (h : c.write (.request (q.toRequest id)) = .error e) :
      Goes q c (writing id slot) c (withdrawing id e)
  | expires {id : UInt64} {slot : Nat} {deadline : Option Nat} (h : c.answers.get? slot = none) :
      Goes q c (waiting id slot deadline) c (withdrawing id q.timeout)

/-- How a request ends, and what it comes to. -/
inductive Ends (q : Query) (c : Connection) :
    RequestPoint → Connection → Except Failure Json → Prop
  | lost (h : c.terminated = true) : Ends q c beginning c (.error .terminated)
  | returns {id : UInt64} {slot : Nat} {deadline : Option Nat} {r : Response}
      (h : c.answers.get? slot = some r) :
      Ends q c (waiting id slot deadline) (c.pickUp slot) (r.outcome.mapError Failure.ofResponseError)
  | abandoned {id : UInt64} {slot : Nat} {deadline : Option Nat} (h : c.answers.get? slot = none)
      (ha : c.awaits slot = false) : Ends q c (waiting id slot deadline) c (.error q.abandoned)
  | withdraws {id : UInt64} {e : Failure} :
      Ends q c (withdrawing id e) (c.withdraw id) (.error e)

variable {q : Query} {now : Nat} {c c' : Connection} {p p' : RequestPoint}

theorem goes_of_step (h : p.step q now c = .goesOn c' p') : Goes q c p c' p' := by
  cases p with
  | beginning =>
    rw [step] at h
    split at h
    next => cases h
    next ht => cases h; exact .begins (by simpa using ht)
  | numbering => cases h; exact .numbers
  | registering id => cases h; exact .registers
  | writing id slot =>
    rw [step] at h
    split at h
    next hw => cases h; exact .writes hw
    next hw => cases h; exact .refused hw
  | waiting id slot deadline =>
    rw [step] at h
    split at h
    next => cases h
    next ha =>
      split at h
      next => cases h
      next =>
        split at h
        next => cases h; exact .expires ha
        next => cases h
  | withdrawing id e => cases h

theorem ends_of_step {r : Except Failure Json} (h : p.step q now c = .ends c' r) :
    Ends q c p c' r := by
  cases p with
  | beginning =>
    rw [step] at h
    split at h
    next ht => cases h; exact .lost ht
    next => cases h
  | numbering => cases h
  | registering id => cases h
  | writing id slot => rw [step] at h; split at h <;> cases h
  | waiting id slot deadline =>
    rw [step] at h
    split at h
    next ha => cases h; exact .returns ha
    next ha =>
      split at h
      next hw => cases h; exact .abandoned ha (by simpa using hw)
      next => split at h <;> cases h
  | withdrawing id e => cases h; exact .withdraws

/-- A request that waits has no answer yet, and one may still come. -/
theorem waits_of_step (h : p.step q now c = .waits) :
    ∃ id slot deadline, p = waiting id slot deadline ∧ c.answers.get? slot = none ∧
      c.awaits slot = true := by
  cases p with
  | beginning => rw [step] at h; split at h <;> cases h
  | numbering => cases h
  | registering id => cases h
  | writing id slot => rw [step] at h; split at h <;> cases h
  | waiting id slot deadline =>
    rw [step] at h
    split at h
    next => cases h
    next ha =>
      split at h
      next => cases h
      next hw => exact ⟨id, slot, deadline, rfl, ha, by simpa using hw⟩
  | withdrawing id e => cases h

/-- A request that waits and goes on is late. -/
theorem late_of_step {id : UInt64} {slot : Nat} {deadline : Option Nat}
    (h : (waiting id slot deadline).step q now c = .goesOn c' p') :
    ∃ t, deadline = some t ∧ t ≤ now := by
  rw [step] at h
  split at h
  next => cases h
  next =>
    split at h
    next => cases h
    next =>
      split at h
      next hlate =>
        obtain ⟨t, ht, hle⟩ := (Option.any_eq_true _ _).1 hlate
        exact ⟨t, ht, of_decide_eq_true hle⟩
      next => cases h

/-- Where nothing is pending, no request waits. -/
theorem not_waits_of_pending_nil (h : c.pending = []) : p.step q now c ≠ .waits := by
  intro hw
  obtain ⟨_, slot, _, _, _, ha⟩ := waits_of_step hw
  simp [Connection.awaits, h, Table.values] at ha

/-- A request is withdrawn for a reason that gives it up. -/
theorem Goes.givesUp {id : UInt64} {e : Failure} (h : Goes q c p c' (.withdrawing id e)) :
    e.GivesUp := by
  cases h with
  | refused h =>
    rcases Connection.write_error h with ⟨_, rfl⟩ | ⟨_, _, rfl⟩ <;> trivial
  | expires h => trivial

theorem Goes.quiet (h : Goes q c p c' p') : c.Quiet c' := by
  cases h with
  | writes h => exact (Connection.calm_write h).quiet
  | _ => constructor <;> rfl

theorem Ends.quiet {r : Except Failure Json} (h : Ends q c p c' r) : c.Quiet c' := by
  cases h <;> constructor <;> rfl

/-- A request does not mark the connection. -/
theorem Goes.terminated (h : Goes q c p c' p') : c'.terminated = c.terminated := by
  cases h with
  | writes h => exact (Connection.calm_write h).terminated
  | _ => rfl

theorem Ends.terminated {r : Except Failure Json} (h : Ends q c p c' r) :
    c'.terminated = c.terminated := by
  cases h <;> rfl

end RequestPoint

end LanguageClient
