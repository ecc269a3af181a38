import LanguageClient.Proofs.Connection.NoOrphans
import LanguageClient.Proofs.Connection.Numbering

/-!
# Which response goes to which request

A request that registers a number has a slot of its own, and what it returns comes out of this slot.
So a response that is put into a slot can only go to the request that was registered with it, and
only once; and it is put there only if its id stands for the number that the slot was registered
under.

* `Exchange.Fills` — how an answer comes into a slot: by a response with the right id, or because
  everything was given up.
* `Exchange.IsCorrelated` — where everything comes from that is pending, answered, held by a request
  or returned.  Every step keeps it (`IsCorrelated.step`).
* **`responses_are_correlated`** — for every line and every history: numbers are not used twice
  before they run out; what a request returns is the answer to its own number, and was received
  after it was registered; a response is returned by at most one request; and what nobody waits for
  changes nothing.
-/

namespace LanguageClient

/-- Where an answer comes from when everything is given up. -/
theorem Connection.answers_drain {c : Connection} {code : Int32} {reason : String} {slot : Nat}
    {r : Response} (h : (c.drain code reason).answers.get? slot = some r) :
    (∃ id, (id, slot) ∈ c.pending ∧ r = .failure (.number id) { code, message := reason }) ∨
      c.answers.get? slot = some r := by
  unfold drain at h
  simp only at h
  generalize c.answers = answers at h
  generalize c.pending = pending at h
  induction pending generalizing answers with
  | nil => exact .inr h
  | cons b pending ih =>
    obtain ⟨id, slot'⟩ := b
    rw [List.foldl_cons] at h
    rcases ih _ h with ⟨id', hb, hr⟩ | h
    · exact .inl ⟨id', List.mem_cons_of_mem _ hb, hr⟩
    · rw [Table.get?_set] at h
      split at h
      next e =>
        cases h
        exact .inl ⟨id, e ▸ List.mem_cons_self, rfl⟩
      next => exact .inr h

namespace Exchange

/-- The `j`-th event puts an answer into a slot that was registered under an id: it is a response
whose id stands for that id, or it is the failure with which everything is given up. -/
def Fills (events : List Event) (j : Nat) (id : UInt64) (slot : Nat) (r : Response) : Prop :=
  ((∃ rid, r.id = some rid ∧ Connection.number? rid = some id) ∧
      events[j]? = some (.heard r (some (id, slot)))) ∨
    (events[j]? = some .drained ∧ ∃ e, r = .failure (.number id) e)

theorem Fills.append {events : List Event} {j : Nat} {id : UInt64} {slot : Nat} {r : Response}
    (h : Fills events j id slot r) (more : List Event) : Fills (events ++ more) j id slot r :=
  h.imp (fun ⟨hid, hj⟩ => ⟨hid, getElem?_of_before hj more⟩)
    fun ⟨hj, hr⟩ => ⟨getElem?_of_before hj more, hr⟩

/-- A slot was registered, and then an answer was put into it. -/
def Answered (events : List Event) (slot : Nat) (r : Response) : Prop :=
  ∃ (i j : Nat) (task : TaskId) (id : UInt64), i < j ∧ j < events.length ∧
    events[i]? = some (.registered task id slot) ∧ Fills events j id slot r

theorem Answered.append {events : List Event} {slot : Nat} {r : Response}
    (h : Answered events slot r) (more : List Event) : Answered (events ++ more) slot r := by
  obtain ⟨i, j, task, id, hij, hj, hi, hfill⟩ := h
  exact ⟨i, j, task, id, hij, by rw [List.length_append]; omega, getElem?_of_before hi more,
    hfill.append more⟩

/-- Where everything comes from. -/
structure IsCorrelated (events : List Event) (x : Exchange) : Prop where
  slots : ∀ task id slot, Event.registered task id slot ∈ events → slot < x.connection.slots
  /-- A slot is registered once. -/
  registered : ∀ (i i' : Nat) task task' id id' slot,
    events[i]? = some (Event.registered task id slot) →
    events[i']? = some (Event.registered task' id' slot) → i = i'
  pending : ∀ id slot, (id, slot) ∈ x.connection.pending →
    ∃ task, Event.registered task id slot ∈ events
  answers : ∀ slot r, x.connection.answers.get? slot = some r → Answered events slot r
  holds : ∀ task id slot, x.Holds task id slot → Event.registered task id slot ∈ events ∧
    ∀ task' id' r, Event.returned task' id' slot r ∉ events
  returned : ∀ (k : Nat) task id slot r, events[k]? = some (Event.returned task id slot r) →
    ∃ i j, i < j ∧ j < k ∧ events[i]? = some (Event.registered task id slot) ∧
      Fills events j id slot r
  /-- A slot is returned once. -/
  returnedOnce : ∀ (k k' : Nat) task task' id id' slot r r',
    events[k]? = some (Event.returned task id slot r) →
    events[k']? = some (Event.returned task' id' slot r') → k = k'

theorem IsFresh.isCorrelated {x : Exchange} (h : x.IsFresh) : IsCorrelated [] x := by
  obtain ⟨⟨link, hc⟩, hp⟩ := h
  refine ⟨fun _ _ _ => nofun, fun _ _ _ _ _ _ _ => nofun, ?_, ?_, ?_, fun _ _ _ _ _ => nofun,
    fun _ _ _ _ _ _ _ _ _ => nofun⟩
  · rw [hc]
    exact fun _ _ => nofun
  · rw [hc]
    exact fun _ _ => nofun
  · exact fun task id slot ht => absurd ht (not_holds_of_first (hp task))

namespace IsCorrelated

variable {events : List Event} {x x' : Exchange}

/-- Who was registered with a slot, and under which id, is determined by the slot. -/
theorem eq_of_slot (h : IsCorrelated events x) {task task' : TaskId} {id id' : UInt64} {slot : Nat}
    (ht : Event.registered task id slot ∈ events) (ht' : Event.registered task' id' slot ∈ events) :
    task = task' ∧ id = id' := by
  obtain ⟨i, hi⟩ := List.mem_iff_getElem?.1 ht
  obtain ⟨i', hi'⟩ := List.mem_iff_getElem?.1 ht'
  obtain rfl := h.registered i i' _ _ _ _ slot hi hi'
  rw [hi] at hi'
  cases hi'
  exact ⟨rfl, rfl⟩

/-- A step by which nothing is registered or returned.  What has to be looked at is where new answers
come from. -/
theorem of_other {e : Option Event} (h : IsCorrelated events x)
    (hreg : ∀ task id slot, e ≠ some (.registered task id slot))
    (hret : ∀ task id slot r, e ≠ some (.returned task id slot r))
    (slots : x'.connection.slots = x.connection.slots)
    (pending : ∀ b, b ∈ x'.connection.pending → b ∈ x.connection.pending)
    (answers : ∀ slot r, x'.connection.answers.get? slot = some r →
      x.connection.answers.get? slot = some r ∨ Answered (events ++ e.toList) slot r)
    (holds : ∀ task id slot, x'.Holds task id slot → x.Holds task id slot) :
    IsCorrelated (events ++ e.toList) x' := by
  have old_reg {task : TaskId} {id : UInt64} {slot : Nat}
      (hmem : Event.registered task id slot ∈ events ++ e.toList) :
      Event.registered task id slot ∈ events := by
    rcases List.mem_append.1 hmem with hmem | hmem
    · exact hmem
    · exact absurd (Option.mem_toList.1 hmem) (hreg _ _ _)
  have old_ret {task : TaskId} {id : UInt64} {slot k : Nat} {r : Response}
      (hk : (events ++ e.toList)[k]? = some (Event.returned task id slot r)) :
      events[k]? = some (Event.returned task id slot r) := by
    rcases before_or_now hk with hk | ⟨_, he⟩
    · exact hk
    · exact absurd he (hret _ _ _ _)
  refine ⟨?_, ?_, ?_, ?_, ?_, ?_, ?_⟩
  · intro task id slot hmem
    rw [slots]
    exact h.slots task id slot (old_reg hmem)
  · intro i i' task task' id id' slot hi hi'
    rcases before_or_now hi with hi | ⟨_, he⟩
    · rcases before_or_now hi' with hi' | ⟨_, he⟩
      · exact h.registered i i' _ _ _ _ slot hi hi'
      · exact absurd he (hreg _ _ _)
    · exact absurd he (hreg _ _ _)
  · intro id slot hb
    obtain ⟨task, ht⟩ := h.pending id slot (pending _ hb)
    exact ⟨task, List.mem_append_left _ ht⟩
  · intro slot r hr
    exact (answers slot r hr).elim (fun hr => (h.answers slot r hr).append _) id
  · intro task id slot ht
    obtain ⟨hmem, hnot⟩ := h.holds task id slot (holds task id slot ht)
    refine ⟨List.mem_append_left _ hmem, fun task' id' r hret' => ?_⟩
    obtain ⟨k, hk⟩ := List.mem_iff_getElem?.1 hret'
    exact hnot task' id' r (List.mem_of_getElem? (old_ret hk))
  · intro k task id slot r hk
    obtain ⟨i, j, hij, hjk, hi, hfill⟩ := h.returned k task id slot r (old_ret hk)
    exact ⟨i, j, hij, hjk, getElem?_of_before hi _, hfill.append _⟩
  · intro k k' task task' id id' slot r r' hk hk'
    exact h.returnedOnce k k' _ _ _ _ slot _ _ (old_ret hk) (old_ret hk')

/-- What is returned out of a slot was registered with it before. -/
theorem registered_of_returned (h : IsCorrelated events x) {task : TaskId} {id : UInt64} {slot : Nat}
    {r : Response} (hmem : Event.returned task id slot r ∈ events) :
    Event.registered task id slot ∈ events := by
  obtain ⟨k, hk⟩ := List.mem_iff_getElem?.1 hmem
  obtain ⟨_, _, _, _, hi, _⟩ := h.returned k task id slot r hk
  exact List.mem_of_getElem? hi

/-- A number is registered. -/
theorem of_registers {task : TaskId} {id : UInt64} (h : IsCorrelated events x)
    (hc : x'.connection = x.connection.register id)
    (hp' : x'.parties task = some (.asks (.writing id x.connection.slots)))
    (others : ∀ other, other ≠ task → x'.parties other = x.parties other) :
    IsCorrelated (events ++ (some (Event.registered task id x.connection.slots)).toList) x' := by
  -- The slot is new: nothing was registered with it, and so nothing was returned out of it.
  have fresh {task' : TaskId} {id' : UInt64} :
      Event.registered task' id' x.connection.slots ∉ events :=
    fun hmem => Nat.lt_irrefl _ (h.slots _ _ _ hmem)
  have old_ret {task' : TaskId} {id' : UInt64} {slot k : Nat} {r : Response}
      (hk : (events ++ (some (Event.registered task id x.connection.slots)).toList)[k]? =
        some (Event.returned task' id' slot r)) :
      events[k]? = some (Event.returned task' id' slot r) := by
    rcases before_or_now hk with hk | ⟨_, he⟩
    · exact hk
    · cases he
  refine ⟨?_, ?_, ?_, ?_, ?_, ?_, ?_⟩
  · intro task' id' slot hmem
    rw [hc]
    show slot < x.connection.slots + 1
    rcases List.mem_append.1 hmem with hmem | hmem
    · exact Nat.lt_succ_of_lt (h.slots _ _ _ hmem)
    · cases Option.mem_toList.1 hmem
      exact Nat.lt_succ_self _
  · intro i i' task₁ task₂ id₁ id₂ slot hi hi'
    rcases before_or_now hi with hi | ⟨rfl, he⟩
    · rcases before_or_now hi' with hi' | ⟨rfl, he⟩
      · exact h.registered i i' _ _ _ _ slot hi hi'
      · cases he
        exact absurd (List.mem_of_getElem? hi) fresh
    · rcases before_or_now hi' with hi' | ⟨rfl, _⟩
      · cases he
        exact absurd (List.mem_of_getElem? hi') fresh
      · rfl
  · intro id' slot hb
    rw [hc] at hb
    rcases Table.mem_set hb with he | hb
    · cases he
      exact ⟨task, List.mem_append_right _ List.mem_cons_self⟩
    · obtain ⟨task', ht⟩ := h.pending id' slot hb
      exact ⟨task', List.mem_append_left _ ht⟩
  · intro slot r hr
    rw [hc] at hr
    exact (h.answers slot r hr).append _
  · intro other id' slot ht
    by_cases e : other = task
    · subst e
      obtain ⟨rfl, rfl⟩ : id = id' ∧ x.connection.slots = slot := by
        rcases ht with ht | ⟨_, ht⟩ <;> rw [hp'] at ht <;> cases ht
        exact ⟨rfl, rfl⟩
      refine ⟨List.mem_append_right _ List.mem_cons_self, fun task' id' r hmem => ?_⟩
      obtain ⟨k, hk⟩ := List.mem_iff_getElem?.1 hmem
      exact fresh (h.registered_of_returned (List.mem_of_getElem? (old_ret hk)))
    · obtain ⟨hmem, hnot⟩ := h.holds other id' slot (ht.congr (others other e))
      refine ⟨List.mem_append_left _ hmem, fun task' id' r hmem => ?_⟩
      obtain ⟨k, hk⟩ := List.mem_iff_getElem?.1 hmem
      exact hnot task' id' r (List.mem_of_getElem? (old_ret hk))
  · intro k task' id' slot r hk
    obtain ⟨i, j, hij, hjk, hi, hfill⟩ := h.returned k task' id' slot r (old_ret hk)
    exact ⟨i, j, hij, hjk, getElem?_of_before hi _, hfill.append _⟩
  · intro k k' task₁ task₂ id₁ id₂ slot r r' hk hk'
    exact h.returnedOnce k k' _ _ _ _ slot _ _ (old_ret hk) (old_ret hk')

/-- A request returns what is in its slot. -/
theorem of_returns {task : TaskId} {id : UInt64} {slot : Nat} {r : Response}
    (h : IsCorrelated events x) (hp : x.Holds task id slot)
    (ha : x.connection.answers.get? slot = some r) (hc : x'.connection = x.connection.pickUp slot)
    (hp' : ∀ t, x'.parties task = some t → t.IsFirst)
    (others : ∀ other, other ≠ task → x'.parties other = x.parties other) :
    IsCorrelated (events ++ (some (Event.returned task id slot r)).toList) x' := by
  obtain ⟨hreg, hnot⟩ := h.holds task id slot hp
  have old_reg {task' : TaskId} {id' : UInt64} {slot' i : Nat}
      (hi : (events ++ (some (Event.returned task id slot r)).toList)[i]? =
        some (Event.registered task' id' slot')) :
      events[i]? = some (Event.registered task' id' slot') := by
    rcases before_or_now hi with hi | ⟨_, he⟩
    · exact hi
    · cases he
  refine ⟨?_, ?_, ?_, ?_, ?_, ?_, ?_⟩
  · intro task' id' slot' hmem
    rw [hc]
    obtain ⟨i, hi⟩ := List.mem_iff_getElem?.1 hmem
    exact h.slots _ _ _ (List.mem_of_getElem? (old_reg hi))
  · intro i i' task₁ task₂ id₁ id₂ slot' hi hi'
    exact h.registered i i' _ _ _ _ slot' (old_reg hi) (old_reg hi')
  · intro id' slot' hb
    rw [hc] at hb
    obtain ⟨task', ht⟩ := h.pending id' slot' hb
    exact ⟨task', List.mem_append_left _ ht⟩
  · intro slot' r' hr
    rw [hc, Connection.pickUp, Table.get?_erase] at hr
    split at hr
    next => cases hr
    next => exact (h.answers slot' r' hr).append _
  · intro other id' slot' ht
    have hne : other ≠ task := by
      rintro rfl
      exact not_holds_of_first hp' ht
    obtain ⟨hreg', hnot'⟩ := h.holds other id' slot' (ht.congr (others other hne))
    refine ⟨List.mem_append_left _ hreg', fun task' id₁ r₁ hmem => ?_⟩
    rcases List.mem_append.1 hmem with hmem | hmem
    · exact hnot' task' id₁ r₁ hmem
    · cases Option.mem_toList.1 hmem
      -- Two requests that hold one slot would be one request.
      exact hne (h.eq_of_slot hreg' hreg).1
  · intro k task' id' slot' r' hk
    rcases before_or_now hk with hk | ⟨rfl, he⟩
    · obtain ⟨i, j, hij, hjk, hi, hfill⟩ := h.returned k task' id' slot' r' hk
      exact ⟨i, j, hij, hjk, getElem?_of_before hi _, hfill.append _⟩
    · cases he
      obtain ⟨i, j, task', id', hij, hj, hi, hfill⟩ := h.answers slot r ha
      obtain ⟨rfl, rfl⟩ := h.eq_of_slot hreg (List.mem_of_getElem? hi)
      exact ⟨i, j, hij, hj, getElem?_of_before hi _, hfill.append _⟩
  · intro k k' task₁ task₂ id₁ id₂ slot' r₁ r₂ hk hk'
    rcases before_or_now hk with hk | ⟨rfl, he⟩
    · rcases before_or_now hk' with hk' | ⟨rfl, he⟩
      · exact h.returnedOnce k k' _ _ _ _ slot' _ _ hk hk'
      · cases he
        exact absurd (List.mem_of_getElem? hk) (hnot _ _ _)
    · rcases before_or_now hk' with hk' | ⟨rfl, _⟩
      · cases he
        exact absurd (List.mem_of_getElem? hk') (hnot _ _ _)
      · rfl

/-- What is pending was registered, so what is put into its slot now answers it. -/
theorem answered_now (h : IsCorrelated events x) {id : UInt64} {slot : Nat} {r : Response} {e : Event}
    (hb : (id, slot) ∈ x.connection.pending)
    (hfill : Fills (events ++ (some e).toList) events.length id slot r) :
    Answered (events ++ (some e).toList) slot r := by
  obtain ⟨task, ht⟩ := h.pending id slot hb
  obtain ⟨i, hi⟩ := List.mem_iff_getElem?.1 ht
  exact ⟨i, events.length, task, id, (List.getElem?_eq_some_iff.1 hi).1, by simp,
    getElem?_of_before hi _, hfill⟩

/-- **Every step keeps it.** -/
theorem step {e : Option Event} (h : IsCorrelated events x) (hs : x.Step x' e) :
    IsCorrelated (events ++ e.toList) x' := by
  cases hs.move with
  | @numbers task hc hp' others =>
    refine h.of_other (by rintro _ _ _ ⟨⟩) (by rintro _ _ _ _ ⟨⟩) (by rw [hc]) (fun b hb => ?_)
      (fun slot r hr => .inl ?_) fun other id slot ht => ?_
    · rwa [hc] at hb
    · rwa [hc] at hr
    · refine ht.congr (others other ?_)
      rintro rfl
      simp [Holds, hp'] at ht
  | registers _ hc hp' others => exact h.of_registers hc hp' others
  | @hears r hc parties =>
    refine h.of_other (by rintro _ _ _ ⟨⟩) (by rintro _ _ _ _ ⟨⟩) ?_ (fun b hb => ?_)
      (fun slot r' hr => ?_) (Lets.of_parties parties).holds
    · obtain ⟨pending, answers, hs⟩ := x.connection.settle_frame r
      rw [hc, hs]
    · rw [hc] at hb
      exact Connection.mem_of_mem_settle hb
    · rw [hc] at hr
      cases hclaim : r.id.bind x.connection.claimant? with
      | none =>
        rw [Connection.settle_of_none hclaim] at hr
        exact .inl hr
      | some a =>
        obtain ⟨id, slot'⟩ := a
        rw [Connection.settle_of_some hclaim] at hr
        obtain ⟨hid, hslot⟩ := Connection.claimant?_eq_some.1 hclaim
        replace hr : (x.connection.answers.set slot' r).get? slot = some r' := hr
        rw [Table.get?_set] at hr
        split at hr
        next e =>
          subst e
          cases hr
          exact .inr (h.answered_now (Table.mem_of_get? hslot) (.inl ⟨hid, getElem?_now events _⟩))
        next => exact .inl hr
  | @drains code reason reader hc lets =>
    refine h.of_other (by rintro _ _ _ ⟨⟩) (by rintro _ _ _ _ ⟨⟩) (by rw [hc]; rfl) (fun b hb => ?_)
      (fun slot r hr => ?_) lets.holds
    · rw [hc] at hb
      cases hb
    · rw [hc] at hr
      rcases Connection.answers_drain hr with ⟨id, hb, rfl⟩ | hr
      · exact .inr (h.answered_now hb (.inr ⟨getElem?_now events _, _, rfl⟩))
      · exact .inl hr
  | returns hp ha hc hp' others => exact h.of_returns hp ha hc hp' others
  | quiet _ slots pending answers lets =>
    refine h.of_other (by rintro _ _ _ ⟨⟩) (by rintro _ _ _ _ ⟨⟩) slots pending
      (fun slot r hr => .inl ?_) lets.holds
    rwa [answers] at hr

end IsCorrelated

def Event.isReturn : Event → Bool
  | returned _ _ _ _ => true
  | _ => false

/-- The `j`-th event is a response, and the `k`-th is that a request returns it. -/
def Settles (events : List Event) (j k : Nat) : Prop :=
  ∃ task id slot r, events[j]? = some (Event.heard r (some (id, slot))) ∧
    events[k]? = some (Event.returned task id slot r)

/-- **A response is returned by at most one request.** -/
theorem IsCorrelated.settles_unique {events : List Event} {x : Exchange} (h : IsCorrelated events x)
    {j k k' : Nat} (hk : Settles events j k) (hk' : Settles events j k') : k = k' := by
  obtain ⟨task, id, slot, r, hj, hk⟩ := hk
  obtain ⟨task', id', slot', r', hj', hk'⟩ := hk'
  rw [hj] at hj'
  cases hj'
  exact h.returnedOnce k k' _ _ _ _ slot _ _ hk hk'

/-- What a request ends with is what is in its slot, which is an event, or a failure of its own. -/
theorem event?_of_ends {x : Exchange} (hx : x.IsOrderly) {task : TaskId} {q : Query} {c : Connection}
    {p : RequestPoint} {v : Except Failure Json} (hp : x.parties task = some (.asks p))
    (h : RequestPoint.Ends q x.connection p c v) :
    (∃ e, v = .error e ∧ e.EndsRequest) ∧ x.event? (.party task) = none ∨
      ∃ id slot r, x.event? (.party task) = some (.returned task id slot r) ∧
        v = r.outcome.mapError Failure.ofResponseError := by
  cases h with
  | lost _ => exact .inl ⟨⟨_, rfl, trivial⟩, by rw [event?, hp]⟩
  | @returns id slot deadline r ha =>
    exact .inr ⟨id, slot, r, by rw [event?, hp]; simp only [ha, Option.map_some], rfl⟩
  | abandoned ha _ =>
    exact .inl ⟨⟨_, rfl, trivial⟩, by rw [event?, hp]; simp only [ha, Option.map_none]⟩
  | withdraws =>
    exact .inl ⟨⟨_, rfl, (hx.withdrawing task _ _ hp).endsRequest⟩, by rw [event?, hp]⟩

end Exchange

/-- A response that answers no request changes nothing that requests see. -/
theorem Reader.hear_unclaimed (handlers : Handlers) {c : Connection} {r : Response}
    (h : ∀ id n, r.id = some id → Connection.number? id = some n → c.pending.get? n = none) :
    (Reader.hear handlers c (.response r)).1 = { c with reader := .reading } := by
  have hnone : r.id.bind c.claimant? = none := by
    cases hclaim : r.id.bind c.claimant? with
    | none => rfl
    | some a =>
      obtain ⟨m, slot⟩ := a
      obtain ⟨⟨id, hid, hn⟩, hslot⟩ := Connection.claimant?_eq_some.1 hclaim
      rw [h id m hid hn] at hslot
      cases hslot
  rw [hear, Connection.settle_of_none hnone]

open Exchange

namespace Workbench

/-- **Which response goes to which request**, on any line, after any history that begins with a fresh
workbench.

* As long as fewer than `2 ^ 64` numbers were taken there are no two alike among them, nor among
  those that were registered; and what a call registers is the number that it took.
* What a request returns was put into its slot after the request was registered, by a response whose
  id stands for its number or because everything was given up.  A response comes when the reader
  takes it up.
* No response is returned twice.
* A request that does not return what is in its slot returns a failure of its own.
* A response that answers no request that waits changes nothing, and neither does a request of the
  server, whatever its id is. -/
theorem responses_are_correlated {w₀ w : Workbench} {hs : List Happening} (h₀ : w₀.IsFresh)
    (h : w₀.after? hs = some w) {n : Nat} {l : Line} (hl : w.client.session.line? n = some l) :
    ((numbers (w₀.trace n hs)).length < 2 ^ 64 →
      (numbers (w₀.trace n hs)).Nodup ∧ (registrations (w₀.trace n hs)).Nodup) ∧
    (∀ (i : Nat) task id slot, (w₀.trace n hs)[i]? = some (.registered task id slot) →
      ∃ j < i, (w₀.trace n hs)[j]? = some (.numbered task id)) ∧
    (∀ (k : Nat) task id slot r, (w₀.trace n hs)[k]? = some (.returned task id slot r) →
      ∃ i j, i < j ∧ j < k ∧ (w₀.trace n hs)[i]? = some (.registered task id slot) ∧
        Fills (w₀.trace n hs) j id slot r) ∧
    (∀ j k k', Settles (w₀.trace n hs) j k → Settles (w₀.trace n hs) j k' → k = k') ∧
    (∀ task p q now c v, w.place? task = some (n, .asks p) →
      p.step q now l.connection = .ends c v →
      (∃ e, v = .error e ∧ e.EndsRequest) ∧ w.event? n (.goesOn (.call task)) = none ∨
      ∃ id slot r, w.event? n (.goesOn (.call task)) = some (.returned task id slot r) ∧
        v = r.outcome.mapError Failure.ofResponseError) ∧
    (∀ handlers r,
      (∀ id m, r.id = some id → Connection.number? id = some m →
        l.connection.pending.get? m = none) →
      (Reader.hear handlers l.connection (.response r)).1 =
        { l.connection with reader := .reading }) ∧
    ∀ handlers r, (Reader.hear handlers l.connection (.request r)).1 =
      { l.connection with owed := l.connection.owed ++ [Reader.answer r], reader := .reading } := by
  have hx : w.exchange? n = some ⟨l.connection, w.traffic? n⟩ := by rw [exchange?, hl]; rfl
  have numbered := exchange_induction (P := IsNumbered) (fun _ hx => hx.isNumbered)
    (fun _ _ _ _ hx hstep => hx.step hstep) h₀ h hx
  have orderly := exchange_induction (P := fun _ x => x.IsOrderly) (fun _ hx => hx.isOrderly)
    (fun _ _ _ _ hx hstep => hx.step hstep) h₀ h hx
  have correlated := exchange_induction (P := IsCorrelated) (fun _ hx => hx.isCorrelated)
    (fun _ _ _ _ hx hstep => hx.step hstep) h₀ h hx
  refine ⟨fun hlt => ⟨numbered.nodup hlt, numbered.once (numbered.nodup hlt)⟩, numbered.registered,
    correlated.returned, fun _ _ _ => correlated.settles_unique, ?_, ?_, fun _ _ => rfl⟩
  · intro task p q now c v hp hstep
    rw [event?_call hx]
    exact event?_of_ends orderly (traffic?_eq_some.2 hp) (RequestPoint.ends_of_step hstep)
  · exact fun handlers r hr => Reader.hear_unclaimed handlers hr

/-- Two requests are made on one connection, and the second is answered first, by a response that
sends its number back as a text. -/
def crossedHistory : List Happening :=
  [Happening.calls (.request { method := "a" } (.on 0 .beginning)),
    .calls (.request { method := "b" } (.on 0 .beginning))]
  ++ List.replicate 4 (.goesOn (.call ⟨1⟩)) ++ List.replicate 4 (.goesOn (.call ⟨2⟩))
  ++ [Happening.streams 0 fun link => { link with received := [
      Utf8.ofString (Frame.encode "\x7b\"jsonrpc\":\"2.0\",\"id\":\"2\",\"result\":true\x7d"),
      Utf8.ofString (Frame.encode "\x7b\"jsonrpc\":\"2.0\",\"id\":1,\"result\":false\x7d")] }]
  ++ List.replicate 4 (.goesOn (.reader 0)) ++ [Happening.goesOn (.call ⟨1⟩), .goesOn (.call ⟨2⟩)]

theorem crossed_responses_are_correlated :
    ∃ w l, withLine.after? crossedHistory = some w ∧ w.client.session.line? 0 = some l ∧
      (numbers (withLine.trace 0 crossedHistory)).Nodup ∧
      ∃ task id slot r i j, (withLine.trace 0 crossedHistory)[6]? = some (.returned task id slot r) ∧
        i < j ∧ j < 6 ∧ (withLine.trace 0 crossedHistory)[i]? = some (.registered task id slot) ∧
        Fills (withLine.trace 0 crossedHistory) j id slot r := by
  obtain ⟨hsome, hreturn, hlength⟩ :
      ((withLine.after? crossedHistory).bind (·.client.session.line? 0)).isSome = true ∧
      ((withLine.trace 0 crossedHistory)[6]?.any Event.isReturn) = true ∧
      (numbers (withLine.trace 0 crossedHistory)).length < 2 ^ 64 := by
    decide +kernel
  obtain ⟨l, hl⟩ := Option.isSome_iff_exists.1 hsome
  obtain ⟨w, hw, hl⟩ := Option.bind_eq_some_iff.1 hl
  obtain ⟨nodup, _, returned, _⟩ := responses_are_correlated isFresh_withLine hw hl
  obtain ⟨e, he, hk⟩ := (Option.any_eq_true _ _).1 hreturn
  cases e with
  | returned task id slot r =>
    obtain ⟨i, j, hij, hj, hi, hfill⟩ := returned 6 task id slot r he
    exact ⟨w, l, hw, hl, (nodup hlength).1, task, id, slot, r, i, j, he, hij, hj, hi, hfill⟩
  | _ => cases hk

end Workbench

end LanguageClient
