import LanguageClient.Proofs.Connection.Cancellation
import LanguageClient.Proofs.Connection.Slots

/-!
# What a request comes to

A request that fails says who is to blame: the server, the loss of the connection, or whoever has given
the request up.  The last two make themselves heard by responses of their own making, with two codes
that are set aside for them, or by taking the writing half away; and a request is also given up when
its answer cannot come any more.

* `ResponseError.IsReserved` — the codes that are set aside, and what the others mean.
* `Exchange.IsGrounded` — nothing is refused before somebody closes the connection or it is lost.  Every
  step keeps it (`IsGrounded.step`).
* `Exchange.IsAwaited` — before the numbers run out, the number of a request without an answer is
  pending, so its answer can still come.  Every step keeps it (`IsAwaited.step`).
* `Exchange.IsKept` — a response that was taken up for a request is in its slot until the request
  returns it.  Every step keeps it (`IsKept.step`).
* **`terminated_of_ends`**, **`cancelled_of_ends`** — who is to blame when a request fails so.
-/

namespace LanguageClient

/-! ## Codes -/

/-- The code means the end of the connection, or a request that was given up. -/
def ResponseError.IsReserved (e : ResponseError) : Prop :=
  e.code = serverTerminated ∨ e.code = requestCancelled

namespace Failure

theorem ofResponseError_of_not_reserved {e : ResponseError} (h : ¬ e.IsReserved) :
    ofResponseError e = .backend e.code e.message := by
  rw [ResponseError.IsReserved, not_or] at h
  rw [ofResponseError, if_neg h.1, if_neg h.2]

theorem code_of_terminated {e : ResponseError} (h : ofResponseError e = .terminated) :
    e.code = ResponseError.serverTerminated := by
  unfold ofResponseError at h
  split at h
  next he => exact he
  next => split at h <;> cases h

theorem code_of_cancelled {e : ResponseError} {reason : String}
    (h : ofResponseError e = .cancelled reason) : e.code = ResponseError.requestCancelled := by
  unfold ofResponseError at h
  split at h
  next => cases h
  next =>
    split at h
    next he => exact he
    next => cases h

end Failure

/-- Whoever is answered with an error fails with what the error means. -/
theorem Response.error_of_outcome {r : Response} {f : Failure}
    (h : r.outcome.mapError Failure.ofResponseError = .error f) :
    ∃ e, r.outcome = .error e ∧ Failure.ofResponseError e = f := by
  cases ho : r.outcome with
  | ok j => rw [ho] at h; cases h
  | error e => rw [ho] at h; exact ⟨e, rfl, Except.error.inj h⟩

/-- After everything was given up, a slot without an answer is that of nobody who waits. -/
theorem Connection.unanswered_of_drain {c : Connection} {code : Int32} {reason : String} {slot : Nat}
    (h : (c.drain code reason).answers.get? slot = none) :
    c.answers.get? slot = none ∧ ∀ id, (id, slot) ∉ c.pending := by
  unfold drain at h
  simp only at h
  generalize c.answers = answers at h ⊢
  generalize c.pending = pending at h ⊢
  induction pending generalizing answers with
  | nil => exact ⟨h, fun _ => List.not_mem_nil⟩
  | cons b pending ih =>
    obtain ⟨id, slot'⟩ := b
    rw [List.foldl_cons] at h
    obtain ⟨hget, hpending⟩ := ih _ h
    rw [Table.get?_set] at hget
    split at hget
    next => cases hget
    next hne =>
      refine ⟨hget, fun id' hb => ?_⟩
      rcases List.mem_cons.1 hb with he | hb
      · cases he
        exact hne rfl
      · exact hpending id' hb

namespace Exchange

variable {events : List Event} {x x' : Exchange} {e : Option Event}

/-! ## Requests that are withdrawn -/

/-- Whoever withdraws a number did so before, or has just been refused, or was late. -/
theorem Step.withdrawing (h : x.Step x' e) {task : TaskId} {id : UInt64} {failure : Failure}
    (hp' : x'.parties task = some (.asks (.withdrawing id failure))) :
    x.parties task = some (.asks (.withdrawing id failure)) ∨
      ∃ q p, x.parties task = some (.asks p) ∧
        RequestPoint.Goes q x.connection p x'.connection (.withdrawing id failure) := by
  have not_first (hfirst : ∀ t, x'.parties task = some t → t.IsFirst) : False := by
    have := hfirst _ hp'
    simp at this
  cases h with
  | @asks other q _ p p' hp hstep hother others =>
    by_cases heq : task = other
    · subst heq
      rw [hp'] at hother
      cases hother
      exact .inr ⟨q, p, hp, RequestPoint.goes_of_step hstep⟩
    · exact .inl ((others task heq).symm.trans hp')
  | @closes other _ _ _ hp hstep hother others =>
    refine .inl ((others task ?_).symm.trans hp')
    rintro rfl
    rw [hp'] at hother
    cases hother
  | @asked other _ _ _ _ _ _ hfirst others =>
    refine .inl ((others task ?_).symm.trans hp')
    rintro rfl
    exact not_first hfirst
  | @closed other _ _ _ _ hfirst others =>
    refine .inl ((others task ?_).symm.trans hp')
    rintro rfl
    exact not_first hfirst
  | reads _ parties => exact .inl (parties ▸ hp')
  | stops _ parties => exact .inl (parties ▸ hp')
  | calm _ parties =>
    rcases parties task with hsame | ⟨_, hfirst⟩
    · exact .inl (hsame.symm.trans hp')
    · exact (not_first hfirst).elim

/-! ## Who refuses -/

/-- Nothing is refused without a reason. -/
structure IsGrounded (x : Exchange) : Prop where
  writable : x.connection.writable = false →
    x.connection.terminated = true ∨ x.connection.closing = true
  refused : ∀ task id, x.parties task = some (.asks (.withdrawing id .terminated)) →
    x.connection.writable = false

theorem IsFresh.isGrounded (h : x.IsFresh) : x.IsGrounded := by
  obtain ⟨⟨link, hc⟩, hp⟩ := h
  refine ⟨fun hw => ?_, fun task id ht => ?_⟩
  · rw [hc] at hw
    cases hw
  · have := hp task _ ht
    simp at this

/-- The writing half is taken by whoever closes the connection, or after it was marked. -/
theorem IsGrounded.step_writable (h : x.IsGrounded) (orderly : x.IsOrderly)
    (authored : IsAuthored events x) (hs : x.Step x' e) (hw : x'.connection.writable = false) :
    x'.connection.terminated = true ∨ x'.connection.closing = true := by
  have keeps := hs.keeps
  cases hs with
  | asks _ hstep _ _ =>
    have goes := RequestPoint.goes_of_step hstep
    rw [goes.terminated, goes.quiet.closing]
    exact h.writable (goes.quiet.writable ▸ hw)
  | asked _ hstep _ _ =>
    have ends := RequestPoint.ends_of_step hstep
    rw [ends.terminated, ends.quiet.closing]
    exact h.writable (ends.quiet.writable ▸ hw)
  | @closes task reason p _ hp hstep _ _ =>
    by_cases hfirst : p = .flagging
    · subst hfirst
      obtain ⟨hc, _⟩ := Progress.goesOn.inj hstep
      rw [← hc]
      exact .inr rfl
    · exact .inr (keeps.closing (orderly.closes task p hp hfirst))
  | @closed task _ _ hp hstep _ _ =>
    exact .inr (keeps.closing (orderly.closes task _ hp (by rintro rfl; cases hstep)))
  | stops hstep _ =>
    obtain ⟨_, hc⟩ := Reader.stop?_eq hstep
    rw [hc] at hw ⊢
    exact h.writable hw
  | calm hcalm _ =>
    rw [hcalm.terminated, hcalm.closing]
    exact h.writable (hcalm.writable ▸ hw)
  | reads hstep _ =>
    have goes := Reader.goes_of_step hstep
    generalize x'.connection = c at goes hw
    cases goes with
    | @settles r _ =>
      obtain ⟨pending, answers, hframe⟩ := x.connection.settle_frame r
      rw [hframe] at hw ⊢
      exact h.writable hw
    | marks _ => exact .inl rfl
    | takes hr =>
      exact .inl ((authored.marked (hr ▸ trivial)).resolve_left (by rw [hr]; exact nofun))
    | _ => exact h.writable hw

/-- **Every step keeps it.** -/
theorem IsGrounded.step (h : x.IsGrounded) (orderly : x.IsOrderly) (authored : IsAuthored events x)
    (hs : x.Step x' e) : x'.IsGrounded where
  writable := h.step_writable orderly authored hs
  refused task id hp' := by
    refine hs.keeps.writable ?_
    rcases hs.withdrawing hp' with hp | ⟨q, p, _, goes⟩
    · exact h.refused task id hp
    · generalize he : Failure.terminated = failure at goes
      generalize x'.connection = c at goes
      cases goes with
      | refused hw =>
        rcases Connection.write_error hw with ⟨hw, _⟩ | ⟨io, _, hio⟩
        · exact hw
        · exact nomatch he.trans hio
      | expires _ => cases he

/-! ## Whose answer can still come -/

/-- Whoever holds a slot took the number that it was registered under. -/
theorem IsNumbered.of_holds (h : IsNumbered events x) (hc : IsCorrelated events x) {task : TaskId}
    {id : UInt64} {slot : Nat} (holds : x.Holds task id slot) :
    Event.numbered task id ∈ events := by
  obtain ⟨i, hi⟩ := List.mem_iff_getElem?.1 (hc.holds task id slot holds).1
  obtain ⟨j, _, hj⟩ := h.registered i task id slot hi
  exact List.mem_of_getElem? hj

/-- By a step that is no event nothing ceases to be pending, unless it is withdrawn. -/
theorem Step.pending_of_quiet (h : x.Step x' e) (he : e = none) (id : UInt64) :
    x'.connection.pending.get? id = x.connection.pending.get? id ∨
      ∃ task failure, x.parties task = some (.asks (.withdrawing id failure)) := by
  cases h with
  | @asks task _ _ p _ hp hstep _ _ =>
    have goes := RequestPoint.goes_of_step hstep
    generalize x'.connection = c at goes
    cases goes with
    | registers => rw [event?, hp] at he; cases he
    | writes hw => rw [(Connection.calm_write hw).pending]; exact .inl rfl
    | _ => exact .inl rfl
  | @asked task _ _ p _ hp hstep _ _ =>
    have ends := RequestPoint.ends_of_step hstep
    generalize x'.connection = c at ends
    cases ends with
    | @withdraws id' failure =>
      by_cases heq : id' = id
      · subst heq
        exact .inr ⟨task, failure, hp⟩
      · exact .inl ((Table.get?_erase ..).trans (if_neg heq))
    | _ => exact .inl rfl
  | closes _ hstep _ _ => rw [pending_closes hstep]; exact .inl rfl
  | @closed task _ p hp hstep _ _ =>
    obtain ⟨rfl, _⟩ := ClosePoint.eq_drain_of_ends hstep
    rw [event?, hp] at he
    cases he
  | reads hstep _ =>
    have goes := Reader.goes_of_step hstep
    generalize x'.connection = c at goes
    cases goes with
    | settles hr | drains hr => rw [event?, hr] at he; cases he
    | _ => exact .inl rfl
  | stops hstep _ => rw [(Reader.stop?_eq hstep).2]; exact .inl rfl
  | calm hcalm _ => rw [hcalm.pending]; exact .inl rfl

/-- Whoever has no answer will still get one. -/
structure IsAwaited (events : List Event) (x : Exchange) : Prop where
  withdrawing : ∀ task id failure, x.parties task = some (.asks (.withdrawing id failure)) →
    Event.numbered task id ∈ events
  pending : (numbers events).Nodup → ∀ task id slot, x.Holds task id slot →
    x.connection.answers.get? slot = none → x.connection.pending.get? id = some slot

theorem IsFresh.isAwaited (h : x.IsFresh) : IsAwaited [] x where
  withdrawing task id failure ht := by
    have := h.parties task _ ht
    simp at this
  pending _ task id slot ht := absurd ht (not_holds_of_first (h.parties task))

namespace IsAwaited

/-- Before the numbers run out, what is pending stays so until its request has an answer. -/
theorem step_pending (h : IsAwaited events x) (hn : IsNumbered events x) (hc : IsCorrelated events x)
    (hs : x.Step x' e) (hd : (numbers events).Nodup) {task : TaskId} {id : UInt64} {slot : Nat}
    (holds' : x'.Holds task id slot) (ha : x'.connection.answers.get? slot = none) :
    x'.connection.pending.get? id = some slot := by
  rcases hs.move.holds_before holds' with holds | ⟨rfl, rfl⟩
  · -- Who has taken the number of a request is the request itself.
    have other_number {other : TaskId} (ht : Event.numbered other id ∈ events) : task = other :=
      eq_of_mem_numbered hd (hn.of_holds hc holds) ht
    have pending := h.pending hd task id slot holds
    have quiet := hs.pending_of_quiet
    cases hs.move with
    | numbers hc' _ _ =>
      rw [hc'] at ha ⊢
      exact pending ha
    | @registers other id' hregisters hc' _ _ =>
      rw [hc'] at ha ⊢
      refine (Table.get?_set ..).trans ((if_neg ?_).trans (pending ha))
      rintro rfl
      obtain rfl := other_number (hn.registering other _ hregisters)
      rw [Registers] at hregisters
      simp [Holds, hregisters] at holds
    | @hears r hc' _ =>
      rw [hc'] at ha ⊢
      cases hclaim : r.id.bind x.connection.claimant? with
      | none =>
        rw [Connection.settle_of_none hclaim] at ha ⊢
        exact pending ha
      | some claimant =>
        obtain ⟨n, slot'⟩ := claimant
        rw [Connection.settle_of_some hclaim] at ha ⊢
        have hget : (x.connection.answers.set slot' r).get? slot = none := ha
        rw [Table.get?_set] at hget
        split at hget
        next => cases hget
        next hne =>
          refine (Table.get?_erase ..).trans ((if_neg ?_).trans (pending hget))
          rintro rfl
          have hslot := (Connection.claimant?_eq_some.1 hclaim).2
          exact hne (Option.some.inj (hslot.symm.trans (pending hget)))
    | drains hc' _ =>
      rw [hc'] at ha
      obtain ⟨hnone, hpending⟩ := Connection.unanswered_of_drain ha
      exact absurd (Table.mem_of_get? (pending hnone)) (hpending id)
    | @returns other n slot' r hholds hr hc' hfirst _ =>
      rw [hc'] at ha ⊢
      have hget : (x.connection.answers.erase slot').get? slot = none := ha
      rw [Table.get?_erase] at hget
      split at hget
      next heq =>
        subst heq
        obtain ⟨rfl, _⟩ := hc.eq_of_slot (hc.holds _ _ _ holds).1 (hc.holds _ _ _ hholds).1
        exact absurd holds' (not_holds_of_first hfirst)
      next => exact pending hget
    | quiet _ _ _ answers _ =>
      rw [answers] at ha
      rcases quiet rfl id with hsame | ⟨other, failure, hwithdraws⟩
      · exact hsame.trans (pending ha)
      · obtain rfl := other_number (h.withdrawing other id failure hwithdraws)
        simp [Holds, hwithdraws] at holds
  · cases hs.move with
    | registers _ hc' _ _ =>
      rw [hc']
      exact (Table.get?_set ..).trans (if_pos rfl)

/-- **Every step keeps it.** -/
theorem step (h : IsAwaited events x) (hn : IsNumbered events x) (hc : IsCorrelated events x)
    (hs : x.Step x' e) : IsAwaited (events ++ e.toList) x' where
  withdrawing task id failure hp' := by
    refine List.mem_append_left _ ?_
    rcases hs.withdrawing hp' with hp | ⟨q, p, hp, goes⟩
    · exact h.withdrawing task id failure hp
    · generalize x'.connection = c at goes
      cases goes with
      | refused _ => exact hn.of_holds hc (.inl hp)
      | expires _ => exact hn.of_holds hc (.inr ⟨_, hp⟩)
  pending hd task id slot := by
    rw [numbers_append] at hd
    exact h.step_pending hn hc hs (List.nodup_append.1 hd).1

/-- Nobody who has no answer is abandoned before the numbers run out. -/
theorem awaits (h : IsAwaited events x) (hd : (numbers events).Nodup) {task : TaskId} {id : UInt64}
    {slot : Nat} (holds : x.Holds task id slot) (ha : x.connection.answers.get? slot = none) :
    x.connection.awaits slot = true := by
  have hb := Table.mem_of_get? (h.pending hd task id slot holds ha)
  rw [Connection.awaits, List.contains_iff_mem]
  exact List.mem_map.2 ⟨_, hb, rfl⟩

end IsAwaited

/-! ## Answers that were taken up -/

/-- What was taken up for a slot is still there if anybody holds the slot. -/
structure IsKept (events : List Event) (x : Exchange) : Prop where
  registered : ∀ n slot r, .heard r (some (n, slot)) ∈ events →
    ∃ task, Event.registered task n slot ∈ events
  answers : ∀ n slot r, .heard r (some (n, slot)) ∈ events → ∀ task id, x.Holds task id slot →
    x.connection.answers.get? slot = some r

theorem IsFresh.isKept (_ : x.IsFresh) : IsKept [] x :=
  ⟨fun _ _ _ => nofun, fun _ _ _ => nofun⟩

/-- A response is taken up for a request that is pending. -/
theorem pending_of_heard {r : Response} {n : UInt64} {slot : Nat}
    (hs : x.Step x' (some (.heard r (some (n, slot))))) : (n, slot) ∈ x.connection.pending := by
  generalize he : some (Event.heard r (some (n, slot))) = label at hs
  cases hs.move with
  | hears _ _ =>
    obtain ⟨rfl, hclaim⟩ := Event.heard.inj (Option.some.inj he)
    exact Table.mem_of_get? (Connection.claimant?_eq_some.1 hclaim.symm).2
  | _ => cases he

namespace IsKept

/-- What has been taken up before is still there. -/
theorem step_answers (h : IsKept events x) (hc : IsCorrelated events x) (hu : x.IsUnanswered)
    (hs : x.Step x' e) {n : UInt64} {slot : Nat} {r : Response}
    (hheard : .heard r (some (n, slot)) ∈ events) {task : TaskId} {id : UInt64}
    (holds' : x'.Holds task id slot) : x'.connection.answers.get? slot = some r := by
  rcases hs.move.holds_before holds' with holds | ⟨rfl, rfl⟩
  · have kept := h.answers n slot r hheard task id holds
    -- Nothing is pending any more under a slot with an answer.
    have settled (m : UInt64) : (m, slot) ∉ x.connection.pending := fun hb => by
      rw [hu m slot hb] at kept
      cases kept
    cases hs.move with
    | numbers hc' _ _ => rw [hc']; exact kept
    | registers _ hc' _ _ => rw [hc']; exact kept
    | @hears r' hc' _ =>
      rw [hc']
      cases hclaim : r'.id.bind x.connection.claimant? with
      | none =>
        rw [Connection.settle_of_none hclaim]
        exact kept
      | some claimant =>
        obtain ⟨m, slot'⟩ := claimant
        rw [Connection.settle_of_some hclaim]
        refine (Table.get?_set ..).trans ((if_neg ?_).trans kept)
        rintro rfl
        exact settled m (Table.mem_of_get? (Connection.claimant?_eq_some.1 hclaim).2)
    | @drains code reason reader hc' _ =>
      rw [hc']
      exact (Connection.get?_answers_drain settled code reason).trans kept
    | @returns other m slot' r' hholds _ hc' hfirst _ =>
      rw [hc']
      refine (Table.get?_erase ..).trans ((if_neg ?_).trans kept)
      rintro rfl
      obtain ⟨rfl, _⟩ := hc.eq_of_slot (hc.holds _ _ _ holds).1 (hc.holds _ _ _ hholds).1
      exact not_holds_of_first hfirst holds'
    | quiet _ _ _ answers _ => rw [answers]; exact kept
  · -- For the slot of a new registration nothing was taken up before.
    obtain ⟨_, ht⟩ := h.registered n _ r hheard
    exact absurd (hc.slots _ _ _ ht) (Nat.lt_irrefl _)

/-- **Every step keeps it.** -/
theorem step (h : IsKept events x) (hc : IsCorrelated events x) (hu : x.IsUnanswered)
    (hs : x.Step x' e) : IsKept (events ++ e.toList) x' where
  registered n slot r hheard := by
    rcases List.mem_append.1 hheard with hheard | hheard
    · obtain ⟨task, ht⟩ := h.registered n slot r hheard
      exact ⟨task, List.mem_append_left _ ht⟩
    · obtain ⟨task, ht⟩ := hc.pending n slot (pending_of_heard (Option.mem_toList.1 hheard ▸ hs))
      exact ⟨task, List.mem_append_left _ ht⟩
  answers n slot r hheard task id holds' := by
    rcases List.mem_append.1 hheard with hheard | hheard
    · exact h.step_answers hc hu hs hheard holds'
    · obtain rfl := Option.mem_toList.1 hheard
      exact answer_of_heard hs

end IsKept

/-! ## Who is to blame -/

/-- A request waits, and the server has answered it with an error that has this code. -/
def IsToldOf (events : List Event) (p : RequestPoint) (code : Int32) : Prop :=
  ∃ id slot deadline r e, p = .waiting id slot deadline ∧ IsOwn events id slot r ∧
    r.outcome = .error e ∧ e.code = code

variable {task : TaskId} {q : Query} {p : RequestPoint} {c : Connection}

/-- **A request fails with the connection only if it was lost or is being closed**, or if the server says
so itself. -/
theorem terminated_of_ends (grounded : x.IsGrounded) (authored : IsAuthored events x)
    (correlated : IsCorrelated events x) (hp : x.parties task = some (.asks p))
    (h : RequestPoint.Ends q x.connection p c (.error .terminated)) :
    x.connection.terminated = true ∨ x.connection.closing = true ∨
      IsToldOf events p ResponseError.serverTerminated := by
  generalize hv : Except.error Failure.terminated = v at h
  cases h with
  | lost ht => exact .inl ht
  | @returns id slot deadline r ha =>
    obtain ⟨e, ho, he⟩ := Response.error_of_outcome hv.symm
    rcases authored.own correlated (.inr ⟨deadline, hp⟩) ha with hown | ⟨hclosing, _⟩ | ⟨hterm, _⟩
    · exact .inr (.inr ⟨id, slot, deadline, r, e, rfl, hown, ho, Failure.code_of_terminated he⟩)
    · exact .inr (.inl hclosing)
    · exact .inl hterm
  | abandoned _ _ => cases hv
  | @withdraws id failure =>
    cases hv
    exact (grounded.writable (grounded.refused task id hp)).imp_right .inl

/-- **A request is cancelled only by whoever closes the connection**, or by the server itself, as long as
the numbers have not run out. -/
theorem cancelled_of_ends (orderly : x.IsOrderly) (authored : IsAuthored events x)
    (correlated : IsCorrelated events x) (awaited : IsAwaited events x)
    (hd : (numbers events).Nodup) (hp : x.parties task = some (.asks p)) {reason : String}
    (h : RequestPoint.Ends q x.connection p c (.error (.cancelled reason))) :
    x.connection.closing = true ∨ IsToldOf events p ResponseError.requestCancelled := by
  generalize hv : Except.error (Failure.cancelled reason) = v at h
  cases h with
  | lost _ => cases hv
  | @returns id slot deadline r ha =>
    obtain ⟨e, ho, he⟩ := Response.error_of_outcome hv.symm
    rcases authored.own correlated (.inr ⟨deadline, hp⟩) ha with hown | ⟨hclosing, _⟩ | ⟨_, hlost⟩
    · exact .inr ⟨id, slot, deadline, r, e, rfl, hown, ho, Failure.code_of_cancelled he⟩
    · exact .inl hclosing
    · obtain ⟨rid, rfl⟩ := hlost
      cases hv
  | abandoned ha hawaits =>
    rw [awaited.awaits hd (.inr ⟨_, hp⟩) ha] at hawaits
    cases hawaits
  | @withdraws id failure =>
    cases hv
    exact (orderly.withdrawing task id _ hp).elim

end Exchange

end LanguageClient
