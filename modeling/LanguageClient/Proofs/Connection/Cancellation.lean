import LanguageClient.Proofs.Connection.Correlation

/-!
# Who has answered

A reader that cannot go on gives the connection up, unless the connection is being closed already;
then every request that waits gets an answer that says that the server is gone.  Whoever closes the
connection answers the requests that still wait as well.  Both do so with responses of their own
making, which come into the slots just as those of the server do.

* `Connection.fails` — the next thing that the reader takes up is not something it can go on with: the
  end of the stream, something that is no message, or a notification whose handler fails.
* `Reader.step?_intact` — a reader that does not fail before the connection is being closed never gives
  it up: the connection stays `Connection.IsIntact`.
* `Exchange.IsAuthored` — every answer is a response of the server, taken up by the reader for the
  number of the slot, or that of a closing, or that of a reader that has marked the connection as
  terminated.  Every step keeps it (`IsAuthored.step`).
* **`IsAuthored.own`** — what comes into the slot of a request is a response to its own number, or one
  of those that are made up.
-/

namespace LanguageClient

/-- The reader is on its way to give the connection up. -/
def ReaderPoint.GivesUp : ReaderPoint → Prop
  | marking | takingWriter | draining | announcing => True
  | _ => False

namespace Connection

/-- The reader cannot go on with what it takes up next. -/
def fails (handlers : Handlers) (c : Connection) : Bool :=
  match c.reader with
  | .reading =>
    match Frame.readMessage c.link.ended c.link.received with
    | .failed _ | .done (.error _) _ => true
    | _ => false
  | .heard (.notification n) => (handlers.get? n.method).any Handler.fails
  | _ => false

/-- The reader has not given the connection up, and is not about to. -/
structure IsIntact (c : Connection) : Prop where
  terminated : c.terminated = false
  reader : ¬ c.reader.GivesUp

theorem IsIntact.of_eq {c c' : Connection} (h : c.IsIntact) (terminated : c'.terminated = c.terminated)
    (reader : c'.reader = c.reader) : c'.IsIntact :=
  ⟨terminated.trans h.terminated, reader ▸ h.reader⟩

end Connection

namespace Reader

/-- In a connection that is being closed a failure of the reader is its end. -/
theorem afterFailure_intact {c : Connection} (h : c.closing = true) : ¬ (afterFailure c).GivesUp := by
  rw [afterFailure, if_pos h]
  exact id

/-- **A reader that does not fail before the connection is being closed leaves it intact.** -/
theorem step?_intact {handlers : Handlers} {c c' : Connection} {signals : List Signal}
    (hc : c.IsIntact) (hf : c.closing = false → c.fails handlers = false)
    (h : step? handlers c = some (c', signals)) : c'.IsIntact := by
  have closing (hfails : c.fails handlers = true) : c.closing = true := by
    cases hclosing : c.closing with
    | true => rfl
    | false => rw [hf hclosing] at hfails; cases hfails
  unfold step? at h
  split at h
  next hr =>
    split at h
    next => cases h
    next hread =>
      cases h
      exact ⟨hc.terminated, afterFailure_intact (closing (by rw [Connection.fails, hr]; simp only [hread]))⟩
    next hread =>
      cases h
      exact ⟨hc.terminated, afterFailure_intact (closing (by rw [Connection.fails, hr]; simp only [hread]))⟩
    next => cases h; exact ⟨hc.terminated, id⟩
  next m hr =>
    obtain rfl : (hear handlers c m).1 = c' := by simpa using congrArg (·.map Prod.fst) h
    cases m with
    | response r =>
      obtain ⟨pending, answers, hs⟩ := c.settle_frame r
      refine ⟨?_, id⟩
      rw [hear, hs]
      exact hc.terminated
    | request r => exact ⟨hc.terminated, id⟩
    | notification n =>
      rw [hear]
      split
      next => exact ⟨hc.terminated, id⟩
      next handler hhandler =>
        refine ⟨hc.terminated, ?_⟩
        cases hfails : handler.fails with
        | false => exact id
        | true =>
          refine afterFailure_intact (closing ?_)
          rw [Connection.fails, hr]
          simpa only [hhandler, Option.any_some] using hfails
  next hr => exact absurd (hr ▸ trivial) hc.reader
  next hr => exact absurd (hr ▸ trivial) hc.reader
  next hr => exact absurd (hr ▸ trivial) hc.reader
  next hr => exact absurd (hr ▸ trivial) hc.reader
  next => cases h

end Reader

/-! ## What leaves a connection intact -/

theorem Connection.Calm.intact {c c' : Connection} (h : c.Calm c') (hc : c.IsIntact) : c'.IsIntact :=
  hc.of_eq h.terminated h.reader

theorem RequestPoint.step_intact {c : Connection} (hc : c.IsIntact) (q : Query) (now : Nat)
    (p : RequestPoint) : (p.step q now c).All Connection.IsIntact := by
  cases hs : p.step q now c with
  | waits => trivial
  | goesOn c' p' =>
    cases goes_of_step hs with
    | writes h => exact (Connection.calm_write h).intact hc
    | _ => exact hc.of_eq rfl rfl
  | ends c' r => cases ends_of_step hs <;> exact hc.of_eq rfl rfl

theorem ClosePoint.step_intact {c : Connection} (hc : c.IsIntact) (reason : String) (p : ClosePoint) :
    (p.step reason c).All Connection.IsIntact := by
  cases p <;> exact hc.of_eq rfl rfl

theorem Reader.stop?_intact {c c' : Connection} (h : Reader.stop? c = some c') (hc : c.IsIntact) :
    c'.IsIntact := by
  obtain ⟨_, rfl⟩ := Reader.stop?_eq h
  exact ⟨hc.terminated, id⟩

namespace Exchange

/-! ## Who has answered -/

/-- A response of the server, taken up for the number with which the slot was registered. -/
def IsOwn (events : List Event) (id : UInt64) (slot : Nat) (r : Response) : Prop :=
  (∃ rid, r.id = some rid ∧ Connection.number? rid = some id) ∧ .heard r (some (id, slot)) ∈ events

/-- The answer of somebody who closes the connection. -/
def IsCancellation (r : Response) : Prop :=
  ∃ id reason, r = .failure id { code := ResponseError.requestCancelled, message := reason }

theorem IsCancellation.outcome {r : Response} (h : IsCancellation r) :
    ∃ reason, r.outcome.mapError Failure.ofResponseError = .error (.cancelled reason) := by
  obtain ⟨id, reason, rfl⟩ := h
  exact ⟨reason, rfl⟩

/-- The answer of a reader that has lost the connection. -/
def IsLossNotice (r : Response) : Prop :=
  ∃ id, r = .failure id { code := ResponseError.serverTerminated, message := Reader.lossReason }

/-- Who has put an answer into a slot: the server, somebody who closes the connection, or a reader that
has lost it. -/
def HasAuthor (events : List Event) (c : Connection) (slot : Nat) (r : Response) : Prop :=
  (∃ id, IsOwn events id slot r) ∨ (c.closing = true ∧ IsCancellation r) ∨
    (c.terminated = true ∧ IsLossNotice r)

/-- It is clear who has answered. -/
structure IsAuthored (events : List Event) (x : Exchange) : Prop where
  marked : x.connection.reader.GivesUp →
    x.connection.reader = .marking ∨ x.connection.terminated = true
  answers : ∀ slot r, x.connection.answers.get? slot = some r →
    HasAuthor events x.connection slot r

theorem IsOwn.append {events : List Event} {id : UInt64} {slot : Nat} {r : Response}
    (h : IsOwn events id slot r) (more : List Event) : IsOwn (events ++ more) id slot r :=
  ⟨h.1, List.mem_append_left _ h.2⟩

theorem HasAuthor.append {events : List Event} {c c' : Connection} {slot : Nat} {r : Response}
    (h : HasAuthor events c slot r) (more : List Event)
    (closing : c.closing = true → c'.closing = true)
    (terminated : c.terminated = true → c'.terminated = true) :
    HasAuthor (events ++ more) c' slot r :=
  h.imp (fun ⟨id, hown⟩ => ⟨id, hown.append _⟩)
    (Or.imp (And.imp_left closing) (And.imp_left terminated))

theorem IsFresh.isAuthored {x : Exchange} (h : x.IsFresh) : IsAuthored [] x := by
  obtain ⟨⟨link, hc⟩, _⟩ := h
  refine ⟨?_, ?_⟩
  · rw [hc]; exact False.elim
  · rw [hc]; exact fun _ _ => nofun

namespace IsAuthored

variable {events : List Event} {x x' : Exchange} {e : Option Event}

/-- A step by which no answer comes. -/
theorem of_answers (h : IsAuthored events x) (reader : x'.connection.reader = x.connection.reader)
    (terminated : x'.connection.terminated = x.connection.terminated)
    (closing : x.connection.closing = true → x'.connection.closing = true)
    (answers : ∀ slot r, x'.connection.answers.get? slot = some r →
      x.connection.answers.get? slot = some r) : IsAuthored (events ++ e.toList) x' where
  marked hr := by
    rw [reader] at hr ⊢
    rw [terminated]
    exact h.marked hr
  answers slot r hr := (h.answers slot r (answers slot r hr)).append _ closing terminated.trans

theorem asks {q : Query} {p p' : RequestPoint} {c : Connection} {parties : TaskId → Option Traffic}
    (h : IsAuthored events x) (hgoes : RequestPoint.Goes q x.connection p c p') :
    IsAuthored (events ++ e.toList) ⟨c, parties⟩ := by
  have closing : x.connection.closing = true → c.closing = true := hgoes.quiet.closing.trans
  cases hgoes with
  | writes hw =>
    have calm := Connection.calm_write hw
    exact h.of_answers calm.reader calm.terminated closing fun _ _ hr => calm.answers ▸ hr
  | _ => exact h.of_answers rfl rfl closing fun _ _ hr => hr

theorem asked {q : Query} {p : RequestPoint} {r : Except Failure Json} {c : Connection}
    {parties : TaskId → Option Traffic} (h : IsAuthored events x)
    (hends : RequestPoint.Ends q x.connection p c r) :
    IsAuthored (events ++ e.toList) ⟨c, parties⟩ := by
  have closing : x.connection.closing = true → c.closing = true := hends.quiet.closing.trans
  cases hends with
  | @returns id slot deadline r ha =>
    refine h.of_answers rfl rfl closing fun slot' r' hr => ?_
    have hget : (x.connection.pickUp slot).answers.get? slot' =
        if slot = slot' then none else x.connection.answers.get? slot' := Table.get?_erase ..
    rw [hget] at hr
    split at hr
    next => cases hr
    next => exact hr
  | _ => exact h.of_answers rfl rfl closing fun _ _ hr => hr

/-- Somebody closes the connection: in the end everything that is pending is given up. -/
theorem closes {reason : String} {p p' : ClosePoint} {c : Connection}
    {parties : TaskId → Option Traffic} (h : IsAuthored events x)
    (hstep : p.step reason x.connection = .goesOn c p') :
    IsAuthored (events ++ e.toList) ⟨c, parties⟩ := by
  have keeps := p.step_keeps reason x.connection
  rw [hstep] at keeps
  cases p with
  | draining => cases hstep
  | _ => cases hstep; exact h.of_answers rfl rfl keeps.closing fun _ _ hr => hr

theorem closed {reason : String} {parties : TaskId → Option Traffic} (h : IsAuthored events x)
    (hclosing : x.connection.closing = true) :
    IsAuthored (events ++ e.toList)
      ⟨x.connection.drain ResponseError.requestCancelled reason, parties⟩ where
  marked := h.marked
  answers slot r hr := by
    rcases Connection.answers_drain hr with ⟨id, _, rfl⟩ | hr
    · exact .inr (.inl ⟨hclosing, .number id, reason, rfl⟩)
    · exact (h.answers slot r hr).append _ id id

/-- The reader takes up a response. -/
theorem settles {r : Response} {parties : TaskId → Option Traffic} (h : IsAuthored events x) :
    IsAuthored (events ++ [.heard r (r.id.bind x.connection.claimant?)])
      ⟨{ x.connection.settle r with reader := .reading }, parties⟩ where
  marked := False.elim
  answers slot r' hr := by
    obtain ⟨pending, answers, hframe⟩ := x.connection.settle_frame r
    have old (hold : x.connection.answers.get? slot = some r') :
        HasAuthor (events ++ [.heard r (r.id.bind x.connection.claimant?)])
          { x.connection.settle r with reader := .reading } slot r' := by
      rw [hframe]
      exact (h.answers slot r' hold).append _ id id
    cases hclaim : r.id.bind x.connection.claimant? with
    | none =>
      rw [hclaim] at old
      rw [Connection.settle_of_none hclaim] at hr
      exact old hr
    | some claimant =>
      obtain ⟨id, slot'⟩ := claimant
      rw [hclaim] at old
      have hget : ((x.connection.settle r).answers).get? slot = some r' := hr
      rw [Connection.settle_of_some hclaim, Connection.deliver, Table.get?_set] at hget
      split at hget
      next heq =>
        cases hget
        subst heq
        exact .inl ⟨id, (Connection.claimant?_eq_some.1 hclaim).1,
          List.mem_append_right _ (List.mem_singleton_self _)⟩
      next => exact old hget

/-- A reader that has lost the connection answers what is pending only after it has marked it. -/
theorem drains {parties : TaskId → Option Traffic} (h : IsAuthored events x)
    (hr : x.connection.reader = .draining) :
    IsAuthored (events ++ e.toList)
      ⟨{ x.connection.drain ResponseError.serverTerminated Reader.lossReason with
        reader := .announcing }, parties⟩ := by
  have hterm : x.connection.terminated = true :=
    (h.marked (hr ▸ trivial)).resolve_left (by rw [hr]; rintro ⟨⟩)
  refine ⟨fun _ => .inr hterm, fun slot r hget => ?_⟩
  rcases Connection.answers_drain hget with ⟨id, _, rfl⟩ | hold
  · exact .inr (.inr ⟨hterm, .number id, rfl⟩)
  · exact (h.answers slot r hold).append _ id id

/-- **Every step keeps it.** -/
theorem step (h : IsAuthored events x) (orderly : x.IsOrderly) (hstep : x.Step x' e) :
    IsAuthored (events ++ e.toList) x' := by
  obtain ⟨c, parties'⟩ := x'
  cases hstep with
  | asks _ hstep _ _ => exact h.asks (RequestPoint.goes_of_step hstep)
  | asked _ hstep _ _ => exact h.asked (RequestPoint.ends_of_step hstep)
  | closes _ hstep _ _ => exact h.closes hstep
  | @closed task _ _ hp hstep _ _ =>
    obtain ⟨_, rfl⟩ := ClosePoint.eq_drain_of_ends hstep
    exact h.closed (orderly.closes task _ hp (by rintro rfl; cases hstep))
  | stops hstep _ =>
    obtain ⟨_, rfl⟩ := Reader.stop?_eq hstep
    exact ⟨False.elim, fun slot r hr => (h.answers slot r hr).append _ id id⟩
  | calm hcalm _ =>
    exact h.of_answers hcalm.reader hcalm.terminated hcalm.closing.trans
      fun _ _ hr => hcalm.answers ▸ hr
  | reads hstep _ =>
    have goes : Reader.Goes x.connection c := Reader.goes_of_step hstep
    have others {c : Connection} (ht : x.connection.terminated = true → c.terminated = true)
        (hclosing : c.closing = x.connection.closing) (ha : c.answers = x.connection.answers)
        (hr : c.reader.GivesUp → c.reader = .marking ∨ c.terminated = true) :
        IsAuthored (events ++ (x.event? .reader).toList) ⟨c, parties'⟩ :=
      ⟨hr, fun slot r hget => (h.answers slot r (ha ▸ hget)).append _ hclosing.trans ht⟩
    have failed : (Reader.afterFailure x.connection).GivesUp →
        Reader.afterFailure x.connection = .marking := by
      rcases Reader.afterFailure_cases x.connection with ⟨_, hp⟩ | ⟨_, hp⟩ <;> rw [hp]
      · exact False.elim
      · exact fun _ => rfl
    cases goes with
    | reads _ => exact others id rfl rfl False.elim
    | fails _ => exact others id rfl rfl fun hr => .inl (failed hr)
    | @settles r hr =>
      rw [event?, hr]
      exact h.settles
    | owes _ => exact others id rfl rfl False.elim
    | tells _ hp =>
      refine others id rfl rfl fun hr => .inl ?_
      rcases hp with rfl | rfl
      · exact hr.elim
      · exact failed hr
    | marks _ => exact others (fun _ => rfl) rfl rfl fun _ => .inr rfl
    | takes hr =>
      refine others id rfl rfl fun _ => .inr ?_
      exact (h.marked (hr ▸ trivial)).resolve_left (by rw [hr]; rintro ⟨⟩)
    | drains hr => exact h.drains hr
    | announces hr => exact others id rfl rfl False.elim

/-- **Who answers a request answers its own number**, unless the answer is made up. -/
theorem own (h : IsAuthored events x) (hc : IsCorrelated events x) {task : TaskId} {id : UInt64}
    {slot : Nat} (holds : x.Holds task id slot) {r : Response}
    (hr : x.connection.answers.get? slot = some r) :
    IsOwn events id slot r ∨ (x.connection.closing = true ∧ IsCancellation r) ∨
      (x.connection.terminated = true ∧ IsLossNotice r) := by
  refine (h.answers slot r hr).imp_left fun ⟨id', ⟨rid, hrid, hnumber⟩, hheard⟩ => ?_
  -- The slot was registered by this request, and under no other number.
  obtain ⟨i, j, task', id'', _, _, hi, hfill⟩ := hc.answers slot r hr
  obtain ⟨_, rfl⟩ := hc.eq_of_slot (List.mem_of_getElem? hi) (hc.holds task id slot holds).1
  rcases hfill with ⟨hid, hj⟩ | ⟨_, e, rfl⟩
  · exact ⟨hid, List.mem_of_getElem? hj⟩
  · cases hrid
    cases hnumber
    exact ⟨⟨_, rfl, rfl⟩, hheard⟩

/-- **Whoever has not been lost is answered by the server or by whoever closes.**  What comes into the
slot of a request is a response to its own number, or says that it was given up. -/
theorem own_or_cancelled (h : IsAuthored events x) (hc : IsCorrelated events x)
    (ht : x.connection.terminated = false) {task : TaskId} {id : UInt64} {slot : Nat}
    (holds : x.Holds task id slot) {r : Response} (hr : x.connection.answers.get? slot = some r) :
    IsOwn events id slot r ∨ IsCancellation r := by
  rcases h.own hc holds hr with hown | ⟨_, hcancelled⟩ | ⟨hterm, _⟩
  · exact .inl hown
  · exact .inr hcancelled
  · exact absurd (hterm.symm.trans ht) nofun

end IsAuthored

end Exchange

end LanguageClient
