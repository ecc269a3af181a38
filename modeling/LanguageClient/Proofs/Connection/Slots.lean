import LanguageClient.Proofs.Connection.Correlation

/-!
# The slot of a request that waits

A request that waits looks into its slot and nowhere else, and the slot is its own.  So as long as it
does not take a step itself, little can happen to what it will find there.

* `Exchange.IsUnanswered` — what is pending has no answer yet.  Every step keeps it
  (`IsUnanswered.step`).
* **`answer_of_waits`** — an answer that has come into the slot stays there; and one comes only with a
  response that the reader takes up, or because everything is given up.
-/

namespace LanguageClient

/-- Giving everything up answers what is pending, and nothing else. -/
theorem Connection.get?_answers_drain {c : Connection} {slot : Nat}
    (h : ∀ id, (id, slot) ∉ c.pending) (code : Int32) (reason : String) :
    (c.drain code reason).answers.get? slot = c.answers.get? slot := by
  unfold drain
  simp only
  generalize c.answers = answers
  generalize c.pending = pending at h
  induction pending generalizing answers with
  | nil => rfl
  | cons b pending ih =>
    obtain ⟨id, slot'⟩ := b
    have hne : slot' ≠ slot := by
      rintro rfl
      exact h id List.mem_cons_self
    rw [List.foldl_cons, ih _ fun id' hid => h id' (List.mem_cons_of_mem _ hid), Table.get?_set,
      if_neg hne]

namespace Exchange

variable {events : List Event} {x x' : Exchange} {e : Option Event}

/-- What is pending has no answer yet. -/
def IsUnanswered (x : Exchange) : Prop :=
  ∀ id slot, (id, slot) ∈ x.connection.pending → x.connection.answers.get? slot = none

theorem IsFresh.isUnanswered (h : x.IsFresh) : x.IsUnanswered := by
  obtain ⟨⟨link, hc⟩, _⟩ := h
  intro id slot _
  rw [hc]
  rfl

/-- Nothing was ever put into a slot that has not been given out. -/
theorem IsCorrelated.answers_slots (h : IsCorrelated events x) :
    x.connection.answers.get? x.connection.slots = none := by
  cases ha : x.connection.answers.get? x.connection.slots with
  | none => rfl
  | some r =>
    obtain ⟨i, _, task, id, _, _, hi, _⟩ := h.answers _ r ha
    exact absurd (h.slots task id _ (List.mem_of_getElem? hi)) (Nat.lt_irrefl _)

/-- A slot is pending under one id only. -/
theorem IsCorrelated.eq_of_pending (h : IsCorrelated events x) {id id' : UInt64} {slot : Nat}
    (hb : (id, slot) ∈ x.connection.pending) (hb' : (id', slot) ∈ x.connection.pending) : id = id' := by
  obtain ⟨_, ht⟩ := h.pending id slot hb
  obtain ⟨_, ht'⟩ := h.pending id' slot hb'
  exact (h.eq_of_slot ht ht').2

/-- **Every step keeps it.** -/
theorem IsUnanswered.step (h : x.IsUnanswered) (hc : IsCorrelated events x) (hs : x.Step x' e) :
    x'.IsUnanswered := by
  intro id slot hb
  cases hs.move with
  | numbers hc' _ _ => rw [hc'] at hb ⊢; exact h id slot hb
  | registers _ hc' _ _ =>
    rw [hc'] at hb ⊢
    rcases Table.mem_set hb with he | hb
    · cases he
      exact hc.answers_slots
    · exact h id slot hb
  | @hears r hc' _ =>
    rw [hc'] at hb ⊢
    cases hclaim : r.id.bind x.connection.claimant? with
    | none =>
      rw [Connection.settle_of_none hclaim] at hb ⊢
      exact h id slot hb
    | some a =>
      obtain ⟨n, slot'⟩ := a
      rw [Connection.settle_of_some hclaim] at hb ⊢
      obtain ⟨hb, hne⟩ := Table.mem_erase.1 hb
      have hslot : (n, slot') ∈ x.connection.pending :=
        Table.mem_of_get? (Connection.claimant?_eq_some.1 hclaim).2
      refine (Table.get?_set ..).trans ((if_neg ?_).trans (h id slot hb))
      rintro rfl
      exact hne (hc.eq_of_pending hb hslot)
  | drains hc' _ =>
    rw [hc'] at hb
    cases hb
  | returns _ _ hc' _ _ =>
    rw [hc'] at hb ⊢
    refine (Table.get?_erase ..).trans ?_
    split
    next => rfl
    next => exact h id slot hb
  | quiet _ _ pending answers _ =>
    rw [answers]
    exact h id slot (pending _ hb)

/-- A response that is taken up comes into the slot of the request that it answers. -/
theorem answer_of_heard {r : Response} {n : UInt64} {slot : Nat}
    (hs : x.Step x' (some (.heard r (some (n, slot))))) :
    x'.connection.answers.get? slot = some r := by
  generalize he : some (Event.heard r (some (n, slot))) = label at hs
  cases hs.move with
  | @hears r' hc _ =>
    obtain ⟨rfl, hclaim⟩ := Event.heard.inj (Option.some.inj he)
    rw [hc, Connection.settle_of_some hclaim.symm]
    exact (Table.get?_set ..).trans (if_pos rfl)
  | _ => cases he

/-- **What a request that waits will find.**  While it does not take a step itself, the answer in its
slot stays as it is, unless there is none: then one may come with a response that is taken up, or a
failure when everything is given up. -/
theorem answer_of_waits (hc : IsCorrelated events x) (hu : x.IsUnanswered) (hs : x.Step x' e)
    {task : TaskId} {id : UInt64} {slot : Nat} {deadline : Option Nat}
    (hp : x.parties task = some (.asks (.waiting id slot deadline)))
    (hp' : x'.parties task = x.parties task) :
    x'.connection.answers.get? slot = x.connection.answers.get? slot ∨
      (x.connection.answers.get? slot = none ∧
        ((∃ r n, e = some (.heard r (some (n, slot))) ∧ x'.connection.answers.get? slot = some r) ∨
          (e = some .drained ∧ ∀ r, x'.connection.answers.get? slot = some r →
            ∃ rid error, r = .failure rid error))) := by
  have holds : x.Holds task id slot := .inr ⟨deadline, hp⟩
  cases hs.move with
  | numbers hc' _ _ => rw [hc']; exact .inl rfl
  | registers _ hc' _ _ => rw [hc']; exact .inl rfl
  | @hears r hc' _ =>
    rw [hc']
    cases hclaim : r.id.bind x.connection.claimant? with
    | none =>
      rw [Connection.settle_of_none hclaim]
      exact .inl rfl
    | some a =>
      obtain ⟨n, slot'⟩ := a
      rw [Connection.settle_of_some hclaim]
      have hget : (x.connection.answers.set slot' r).get? slot =
          if slot' = slot then some r else x.connection.answers.get? slot := Table.get?_set ..
      by_cases heq : slot' = slot
      · subst heq
        have hslot : (n, slot') ∈ x.connection.pending :=
          Table.mem_of_get? (Connection.claimant?_eq_some.1 hclaim).2
        exact .inr ⟨hu n slot' hslot, .inl ⟨r, n, rfl, hget.trans (if_pos rfl)⟩⟩
      · exact .inl (hget.trans (if_neg heq))
  | @drains code reason reader hc' _ =>
    rw [hc']
    by_cases hb : ∃ n, (n, slot) ∈ x.connection.pending
    · obtain ⟨n, hb⟩ := hb
      have hnone := hu n slot hb
      refine .inr ⟨hnone, .inr ⟨rfl, fun r hr => ?_⟩⟩
      rcases Connection.answers_drain hr with ⟨n', _, rfl⟩ | hr
      · exact ⟨_, _, rfl⟩
      · rw [hnone] at hr
        cases hr
    · exact .inl (Connection.get?_answers_drain (fun n hn => hb ⟨n, hn⟩) code reason)
  | @returns other n slot' r holds' _ hc' hfirst _ =>
    rw [hc']
    refine .inl ((Table.get?_erase ..).trans (if_neg ?_))
    rintro rfl
    -- Whoever returns what is in the slot holds it, and is in the middle of nothing afterwards.
    obtain ⟨rfl, _⟩ := hc.eq_of_slot (hc.holds _ _ _ holds).1 (hc.holds _ _ _ holds').1
    have := hfirst _ (hp'.trans hp)
    simp at this
  | quiet _ _ _ answers _ => rw [answers]; exact .inl rfl

end Exchange

end LanguageClient
