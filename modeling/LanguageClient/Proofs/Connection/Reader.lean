import LanguageClient.Connection.Reader
import LanguageClient.Proofs.Connection.Flags

/-!
# The steps of a reader

* `Reader.Goes` — the ways in which a reader goes on, each with what it does to the connection
  (`goes_of_step`).
* `Connection.claimant?_eq_some` — which request a response answers.
-/

namespace LanguageClient

namespace Reader

/-- How a reader goes on. -/
inductive Goes (c : Connection) : Connection → Prop
  | reads {link : Link} {m : Message} (hr : c.reader = .reading) :
      Goes c { c with link, reader := .heard m }
  /-- The stream has come to its end, or what has come is no message. -/
  | fails {link : Link} (hr : c.reader = .reading) : Goes c { c with link, reader := afterFailure c }
  | settles {r : Response} (hr : c.reader = .heard (.response r)) :
      Goes c { c.settle r with reader := .reading }
  | owes {r : Request} (hr : c.reader = .heard (.request r)) :
      Goes c { c with owed := c.owed ++ [answer r], reader := .reading }
  | tells {n : Notification} {point : ReaderPoint} (hr : c.reader = .heard (.notification n))
      (hp : point = .reading ∨ point = afterFailure c) : Goes c { c with reader := point }
  | marks (hr : c.reader = .marking) : Goes c { c with terminated := true, reader := .takingWriter }
  | takes (hr : c.reader = .takingWriter) : Goes c { c.takeWriter with reader := .draining }
  | drains (hr : c.reader = .draining) :
      Goes c { c.drain ResponseError.serverTerminated lossReason with reader := .announcing }
  | announces (hr : c.reader = .announcing) : Goes c { c with lost := true, reader := .stopped }

theorem goes_of_hear {handlers : Handlers} {c : Connection} {m : Message} (hr : c.reader = .heard m) :
    Goes c (hear handlers c m).1 := by
  cases m with
  | request r => exact .owes hr
  | response r => exact .settles hr
  | notification n =>
    rw [hear]
    split
    next => exact .tells hr (.inl rfl)
    next h _ =>
      refine .tells hr ?_
      cases h.fails
      · exact .inl rfl
      · exact .inr rfl

theorem goes_of_step {handlers : Handlers} {c c' : Connection} {signals : List Signal}
    (h : step? handlers c = some (c', signals)) : Goes c c' := by
  unfold step? at h
  split at h
  next hr =>
    split at h
    next => cases h
    next => cases h; exact @Goes.fails c c.link hr
    next => cases h; exact .fails hr
    next => cases h; exact .reads hr
  next m hr =>
    obtain rfl : (hear handlers c m).1 = c' := by simpa using congrArg (·.map Prod.fst) h
    exact goes_of_hear hr
  next hr => cases h; exact .marks hr
  next hr => cases h; exact .takes hr
  next hr => cases h; exact .drains hr
  next hr => cases h; exact .announces hr
  next => cases h

/-- A failure leads a reader to its end at once only if the connection is being closed. -/
theorem afterFailure_cases (c : Connection) :
    (c.closing = true ∧ afterFailure c = .stopped) ∨
      (c.closing = false ∧ afterFailure c = .marking) := by
  unfold afterFailure
  cases c.closing
  · exact .inr ⟨rfl, rfl⟩
  · exact .inl ⟨rfl, rfl⟩

end Reader

namespace Connection

/-- The request that a response answers: its id is the number of the request, or a text that reads as
that number, and the request is pending. -/
theorem claimant?_eq_some {c : Connection} {r : Response} {n : UInt64} {slot : Nat} :
    r.id.bind c.claimant? = some (n, slot) ↔
      (∃ id, r.id = some id ∧ number? id = some n) ∧ c.pending.get? n = some slot := by
  simp only [claimant?, Option.bind_eq_some_iff, Option.map_eq_some_iff, Prod.mk.injEq]
  constructor
  · rintro ⟨id, hid, _, hn, _, hs, rfl, rfl⟩
    exact ⟨⟨id, hid, hn⟩, hs⟩
  · rintro ⟨⟨id, hid, hn⟩, hs⟩
    exact ⟨id, hid, n, hn, slot, hs, rfl, rfl⟩

theorem settle_of_none {c : Connection} {r : Response} (h : r.id.bind c.claimant? = none) :
    c.settle r = c := by
  rw [settle, h]

theorem settle_of_some {c : Connection} {r : Response} {n : UInt64} {slot : Nat}
    (h : r.id.bind c.claimant? = some (n, slot)) : c.settle r = (c.withdraw n).deliver slot r := by
  rw [settle, h]

/-- A response makes nothing pending. -/
theorem mem_of_mem_settle {c : Connection} {r : Response} {b : UInt64 × Nat}
    (h : b ∈ (c.settle r).pending) : b ∈ c.pending := by
  cases hr : r.id.bind c.claimant? with
  | none => rwa [settle_of_none hr] at h
  | some a =>
    rw [settle_of_some hr] at h
    exact (Table.mem_erase.1 h).1

end Connection

/-- A response is given to its request, and nothing else changes. -/
theorem Connection.settle_frame (c : Connection) (r : Response) :
    ∃ pending answers, c.settle r = { c with pending, answers } := by
  cases hr : r.id.bind c.claimant? with
  | none => exact ⟨c.pending, c.answers, settle_of_none hr⟩
  | some a => exact ⟨_, _, settle_of_some hr⟩

/-- A reader does not close anything itself. -/
theorem Reader.Goes.closing {c c' : Connection} (h : Reader.Goes c c') :
    c'.closing = c.closing ∧ c'.readerAborted = c.readerAborted := by
  cases h with
  | @settles r _ =>
    obtain ⟨pending, answers, hs⟩ := c.settle_frame r
    rw [hs]
    exact ⟨rfl, rfl⟩
  | _ => exact ⟨rfl, rfl⟩

namespace Reader

/-- A reader that cannot go on stops or begins to give the connection up. -/
theorem ne_afterFailure {c : Connection} {point : ReaderPoint}
    (h : point = .reading ∨ point = afterFailure c) :
    point ≠ .draining ∧ point ≠ .announcing ∧ (point = .stopped → c.closing = true) := by
  rcases h with rfl | rfl
  · exact ⟨nofun, nofun, nofun⟩
  · rcases afterFailure_cases c with ⟨hc, h⟩ | ⟨_, h⟩
    · rw [h]; exact ⟨nofun, nofun, fun _ => hc⟩
    · rw [h]; exact ⟨nofun, nofun, nofun⟩

/-- Before a reader answers what is pending it has taken the writing half. -/
theorem Goes.draining {c c' : Connection} (h : Goes c c') (hr : c'.reader = .draining) :
    c'.writable = false := by
  cases h with
  | takes _ => rfl
  | fails _ => exact absurd hr (ne_afterFailure (.inr rfl)).1
  | tells _ hp => exact absurd hr (ne_afterFailure hp).1
  | _ => cases hr

/-- Before a reader tells that the connection was lost it has answered what was pending. -/
theorem Goes.announcing {c c' : Connection} (h : Goes c c') (hr : c'.reader = .announcing) :
    c.reader = .draining ∧ c'.writable = c.writable ∧ c'.pending = [] := by
  cases h with
  | drains hd => exact ⟨hd, rfl, rfl⟩
  | fails _ => exact absurd hr (ne_afterFailure (.inr rfl)).2.1
  | tells _ hp => exact absurd hr (ne_afterFailure hp).2.1
  | _ => cases hr

/-- A reader stops by itself when the connection is being closed, or at the end of giving it up. -/
theorem Goes.stopped {c c' : Connection} (h : Goes c c') (hr : c'.reader = .stopped) :
    c.closing = true ∨ c.reader = .announcing := by
  cases h with
  | announces ha => exact .inr ha
  | fails _ => exact .inl ((ne_afterFailure (.inr rfl)).2.2 hr)
  | tells _ hp => exact .inl ((ne_afterFailure hp).2.2 hr)
  | _ => cases hr

end Reader

/-- A reader makes nothing pending. -/
theorem Reader.Goes.mem_pending {c c' : Connection} (h : Reader.Goes c c') {b : UInt64 × Nat}
    (hb : b ∈ c'.pending) : b ∈ c.pending := by
  cases h with
  | settles _ => exact Connection.mem_of_mem_settle hb
  | drains _ => cases hb
  | _ => exact hb

end LanguageClient
