import LanguageClient.Proofs.Connection.NoOrphans
import LanguageClient.Proofs.Protocol.Framing

/-!
# The loss of a connection

A reader does not stop in silence.  Where it has stopped, the connection is being closed by somebody,
or those who watch it have been told that it was lost; and before it says to anybody that the
connection is terminated it is on its way to tell them.

* `Exchange.IsAttentive` — this, at every point of the reader.  Every step keeps it
  (`IsAttentive.step`).
* `Connection.Hears` — a reader that waits for more, on a stream that is still open.
* **`IsAttentive.hears`** — what remains when nothing goes on any more: a connection that is not being
  closed and was not lost has such a reader.
* `RequestPoint.step_closing`, `Reader.step?_closing` — nobody marks a connection as being closed but
  who closes it.
-/

namespace LanguageClient

/-- The stream is open, nobody has given the connection up, and its reader waits for more. -/
structure Connection.Hears (c : Connection) : Prop where
  reader : c.reader = .reading
  ended : c.link.ended = false
  leaving : c.link.leaving = false
  terminated : c.terminated = false
  lost : c.lost = false

namespace Exchange

/-- A reader does not stop in silence. -/
structure IsAttentive (x : Exchange) : Prop where
  stopped : x.connection.reader = .stopped → x.connection.closing = true ∨ x.connection.lost = true
  reading : x.connection.reader = .reading → x.connection.terminated = false
  heard : ∀ m, x.connection.reader = .heard m → x.connection.terminated = false

theorem IsFresh.isAttentive {x : Exchange} (h : x.IsFresh) : x.IsAttentive := by
  obtain ⟨⟨link, hc⟩, _⟩ := h
  refine ⟨?_, ?_, ?_⟩
  · rw [hc]; exact nofun
  · rw [hc]; exact fun _ => rfl
  · rw [hc]; exact fun _ _ => rfl

namespace IsAttentive

variable {x x' : Exchange} {e : Option Event}

/-- A step beside the reader. -/
theorem of_reader (h : x.IsAttentive) (reader : x'.connection.reader = x.connection.reader)
    (terminated : x'.connection.terminated = x.connection.terminated)
    (lost : x'.connection.lost = x.connection.lost)
    (closing : x.connection.closing = true → x'.connection.closing = true) : x'.IsAttentive where
  stopped hr := (h.stopped (reader ▸ hr)).imp closing fun hl => lost.trans hl
  reading hr := terminated.trans (h.reading (reader ▸ hr))
  heard m hr := terminated.trans (h.heard m (reader ▸ hr))

/-- **Every step keeps it.** -/
theorem step (h : x.IsAttentive) (orderly : x.IsOrderly) (hstep : x.Step x' e) :
    x'.IsAttentive := by
  have keeps := hstep.keeps.closing
  obtain ⟨c, parties'⟩ := x'
  cases hstep with
  | asks _ hs _ _ =>
    cases RequestPoint.goes_of_step hs with
    | writes hw =>
      have calm := Connection.calm_write hw
      exact h.of_reader calm.reader calm.terminated calm.lost keeps
    | _ => exact h.of_reader rfl rfl rfl keeps
  | asked _ hs _ _ => cases RequestPoint.ends_of_step hs <;> exact h.of_reader rfl rfl rfl keeps
  | @closes _ _ p _ _ hs _ _ => cases p <;> cases hs <;> exact h.of_reader rfl rfl rfl keeps
  | closed _ hs _ _ =>
    obtain ⟨_, rfl⟩ := ClosePoint.eq_drain_of_ends hs
    exact h.of_reader rfl rfl rfl keeps
  | calm hc _ => exact h.of_reader hc.reader hc.terminated hc.lost keeps
  | stops hs _ =>
    obtain ⟨haborted, rfl⟩ := Reader.stop?_eq hs
    exact ⟨fun _ => .inl (orderly.aborted haborted), nofun, fun _ => nofun⟩
  | reads hs _ =>
    have goes : Reader.Goes x.connection c := Reader.goes_of_step hs
    have failed {c : Connection} (hr : c.reader = Reader.afterFailure x.connection)
        (hc : c.closing = x.connection.closing) : IsAttentive ⟨c, parties'⟩ := by
      rcases Reader.afterFailure_cases x.connection with ⟨hclosing, hp⟩ | ⟨_, hp⟩ <;> rw [hp] at hr
      · refine ⟨fun _ => .inl (hc.trans hclosing), fun he => ?_, fun m he => ?_⟩
        · exact nomatch hr.symm.trans he
        · exact nomatch hr.symm.trans he
      · refine ⟨fun he => ?_, fun he => ?_, fun m he => ?_⟩ <;> exact nomatch hr.symm.trans he
    cases goes with
    | reads hr => exact ⟨nofun, nofun, fun _ _ => h.reading hr⟩
    | fails _ => exact failed rfl rfl
    | @settles r hr =>
      obtain ⟨pending, answers, hframe⟩ := x.connection.settle_frame r
      rw [hframe]
      exact ⟨nofun, fun _ => h.heard _ hr, fun _ => nofun⟩
    | owes hr => exact ⟨nofun, fun _ => h.heard _ hr, fun _ => nofun⟩
    | tells hr hp =>
      rcases hp with rfl | rfl
      · exact ⟨nofun, fun _ => h.heard _ hr, fun _ => nofun⟩
      · exact failed rfl rfl
    | marks _ => exact ⟨nofun, nofun, fun _ => nofun⟩
    | takes _ => exact ⟨nofun, nofun, fun _ => nofun⟩
    | drains _ => exact ⟨nofun, nofun, fun _ => nofun⟩
    | announces _ => exact ⟨fun _ => .inr rfl, nofun, fun _ => nofun⟩

/-- **A connection of which nothing was heard is still there.**  Its reader cannot take a step, the
server is not about to let go of the stream, nobody closes the connection, and nobody was told that it
was lost. -/
theorem hears (h : x.IsAttentive) (closing : x.connection.closing = false)
    (lost : x.connection.lost = false) {handlers : Handlers}
    (step : Reader.step? handlers x.connection = none) (leave : x.connection.leave? = none) :
    x.connection.Hears := by
  cases hr : x.connection.reader with
  | reading =>
    have hended : x.connection.link.ended = false := by
      cases hended : x.connection.link.ended with
      | false => rfl
      | true =>
        rw [Reader.step?, hr, hended] at step
        simp only at step
        split at step
        next hblocked => exact absurd hblocked (Frame.readMessage_of_ended _)
        next => cases step
        next => cases step
        next => cases step
    refine ⟨hr, hended, ?_, h.reading hr, lost⟩
    unfold Connection.leave? at leave
    split at leave
    next => cases leave
    next hno => simpa [hended] using hno
  | stopped =>
    rcases h.stopped hr with hc | hl
    · rw [closing] at hc; cases hc
    · rw [lost] at hl; cases hl
  | _ =>
    rw [Reader.step?, hr] at step
    cases step

end IsAttentive

end Exchange

/-! ## Connections that nobody closes -/

/-- Only who closes a connection marks it as being closed. -/
theorem RequestPoint.step_closing (q : Query) (now : Nat) (c : Connection) (p : RequestPoint) :
    (p.step q now c).All fun c' => c'.closing = c.closing := by
  cases hs : p.step q now c with
  | waits => trivial
  | goesOn c' p' => exact (goes_of_step hs).quiet.closing
  | ends c' r => exact (ends_of_step hs).quiet.closing

theorem Reader.step?_closing {handlers : Handlers} {c c' : Connection} {signals : List Signal}
    (h : Reader.step? handlers c = some (c', signals)) : c'.closing = c.closing := by
  cases Reader.goes_of_step h with
  | @settles r _ =>
    obtain ⟨pending, answers, hframe⟩ := c.settle_frame r
    rw [hframe]
  | _ => rfl

theorem Reader.stop?_closing {c c' : Connection} (h : Reader.stop? c = some c') :
    c'.closing = c.closing := by
  obtain ⟨_, rfl⟩ := Reader.stop?_eq h
  rfl

end LanguageClient
