import LanguageClient.Proofs.Client.Telling
import LanguageClient.Proofs.Connection.Agreement

/-!
# Calls made one after another

What is told about documents stays in order if whatever is told can be written and no text is looked
up in a hurry, which is when somebody else has just taken the document out of the table and has not
told the server yet.  Calls that are made one after another never hurry each other.

* `Workbench.OneByOne`, `Workbench.TellsFreely`, `Workbench.UnhurriedAt` — conditions on a history.
* `Workbench.IsSolitary` — at most one call is in progress.  Calls made one after another keep it
  (`isSolitary_after?`).
* **`inOrder_induction`** — every correspondence stays in order under these conditions, and so does
  whatever is kept while it is (`inOrder_after?` says only the former).
* `refuses_or_inOrder_after?` — it does so without the condition on writing, until its connection
  refuses to be written to for good.
-/

namespace LanguageClient

open Session

/-- A stream that cannot be written to any more stays so. -/
def Happening.BreaksForGood : Happening → Prop
  | streams _ f => ∀ link, link.refusal.isSome = true → (f link).refusal.isSome = true
  | _ => True

/-- What refuses to be written to goes on refusing, if the stream does. -/
theorem Correspondence.Step.refuses {x x' : Correspondence} {e : Correspondence.Source}
    (h : x.Step x' e) (hr : x.connection.Refuses)
    (breaks : ∀ f, e = .stream f → ∀ link : Link, link.refusal.isSome = true →
      (f link).refusal.isSome = true) : x'.connection.Refuses := by
  cases h with
  | moves hp h _ _ => exact h.refuses hr
  | @streams f hc _ =>
    rw [hc]
    exact hr.imp_right (breaks f rfl x.connection.link)
  | beside h _ => exact h.refuses hr

namespace Workbench

/-! ## Conditions on a history -/

/-- Somebody makes a call only while no other is in progress. -/
def OneByOne (w : Workbench) : Happening → Prop
  | .calls _ => w.calls = []
  | _ => True

/-- Whatever is about to be told about a document can be written. -/
def TellsFreely (w : Workbench) : Happening → Prop
  | .goesOn (.call task) => ∀ n p m l, w.telling? task = some (n, p) → p.message? = some m →
      w.client.session.line? n = some l → ∃ c, l.connection.write m = .ok c
  | _ => True

/-- No text is looked up while it is still to be written that the document is closed. -/
def UnhurriedAt (w : Workbench) : Happening → Prop
  | .goesOn (.call task) => ∀ n x, w.correspondence? n = some x → x.Unhurried task
  | _ => True

/-- At most one call is in progress. -/
def IsSolitary (w : Workbench) : Prop := w.calls = [] ∨ ∃ task c, w.calls = [(task, c)]

variable {w₀ w w' : Workbench} {g : Happening} {hs : List Happening}

theorem IsSolitary.unique (h : w.IsSolitary) {task other : TaskId} {c c' : Call}
    (hc : w.calls.get? task = some c) (hc' : w.calls.get? other = some c') : task = other := by
  rcases h with h | ⟨t, x, h⟩
  · rw [h] at hc
    cases hc
  · rw [h, Table.get?_cons] at hc hc'
    split at hc
    next e =>
      split at hc'
      next e' => exact e.symm.trans e'
      next => cases hc'
    next => cases hc

theorem IsSolitary.happen? (hw : w.IsSolitary) (one : w.OneByOne g) (h : w.happen? g = some w') :
    w'.IsSolitary := by
  rcases happen?_cases h with ⟨task, rfl⟩ | ⟨c, rfl, _, rfl⟩ | ⟨hcalls, -, -, -⟩
  · obtain ⟨call, hcall, h⟩ := act?_call h
    rcases hw with hnil | ⟨t, x, hw⟩
    · rw [hnil] at hcall
      cases hcall
    rw [hw, Table.get?_cons] at hcall
    split at hcall
    next e =>
      subst e
      rcases h with ⟨client, call', _, rfl⟩ | ⟨client, r, _, rfl⟩
      · exact .inr ⟨t, call', by simp [hw, Table.set]⟩
      · exact .inl (by simp [hw, Table.erase])
    next => cases hcall
  · have hnil : w.calls = [] := one
    exact .inr ⟨⟨w.latestTask + 1⟩, c, by simp [add, wake, hnil, Table.set]⟩
  · rw [IsSolitary, hcalls]
    exact hw

theorem isSolitary_after? (h₀ : w₀.IsFresh) (one : w₀.Throughout hs OneByOne)
    (h : w₀.after? hs = some w) : w.IsSolitary :=
  after?_induction (P := fun hs w => w₀.Throughout hs OneByOne → w.IsSolitary)
    (fun _ => .inl h₀.calls)
    (fun _ _ _ _ hw ih hstep one => (ih one.of_concat).happen? (one.last hw) hstep) h one

/-- Who is alone hurries nobody. -/
theorem IsSolitary.unhurried (hw : w.IsSolitary) (g : Happening) : w.UnhurriedAt g := by
  unfold UnhurriedAt
  split
  next task =>
    rintro n x hx uri text hp other hq
    obtain ⟨l, _, rfl⟩ := correspondence?_eq_some.1 hx
    obtain ⟨c, hc, hct⟩ := Option.bind_eq_some_iff.1 (teller?_eq_some.1 hp)
    obtain ⟨c', hc', hct'⟩ := Option.bind_eq_some_iff.1 (teller?_eq_some.1 hq)
    obtain rfl := hw.unique hc hc'
    rw [hc] at hc'
    cases hc'
    rw [hct] at hct'
    cases hct'
  next => trivial

/-- **Every correspondence stays in order** that can be written on, while no text is looked up in a
hurry; and so does whatever is kept by each step from a correspondence in order. -/
theorem inOrder_induction {P : Correspondence → Prop} (fresh : ∀ x, x.IsFresh → P x)
    (step : ∀ x x' e, x.InOrder → P x → x.Step x' e → P x') (h₀ : w₀.IsFresh)
    (h : w₀.after? hs = some w) (plain : w₀.Throughout hs fun _ g => g.IsPlain)
    (free : w₀.Throughout hs TellsFreely) (unhurried : w₀.Throughout hs UnhurriedAt) {n : Nat}
    {x : Correspondence} (hx : w.correspondence? n = some x) : x.InOrder ∧ P x := by
  refine correspondence_induction (P := fun x => x.InOrder ∧ P x)
    (C := fun u g => u.TellsFreely g ∧ u.UnhurriedAt g) (fun x hx => ⟨.of_isFresh hx, fresh x hx⟩)
    (fun u g x x' e hC hx he hp hstep => ⟨?_, step x x' e hp.1 hp.2 hstep⟩) h₀ h plain
    (fun k u g hu hg => ⟨free k u g hu hg, unhurried k u g hu hg⟩) hx
  refine hp.1.step hstep (fun task ht p m hq hm => ?_) fun task ht => ?_
  · subst ht
    obtain rfl : g = .goesOn (.call task) := he
    obtain ⟨l, hl, rfl⟩ := correspondence?_eq_some.1 hx
    exact hC.1 n p m l (teller?_eq_some.1 hq) hm hl
  · subst ht
    obtain rfl : g = .goesOn (.call task) := he
    exact hC.2 n x hx

theorem inOrder_after? (h₀ : w₀.IsFresh) (h : w₀.after? hs = some w)
    (plain : w₀.Throughout hs fun _ g => g.IsPlain) (free : w₀.Throughout hs TellsFreely)
    (unhurried : w₀.Throughout hs UnhurriedAt) {n : Nat} {x : Correspondence}
    (hx : w.correspondence? n = some x) : x.InOrder :=
  (inOrder_induction (P := fun _ => True) (fun _ _ => trivial) (fun _ _ _ _ _ _ => trivial) h₀ h plain
    free unhurried hx).1

/-- **Every correspondence stays in order, or its connection refuses to be written to**, if calls are
made one after another and streams that break stay broken. -/
theorem refuses_or_inOrder_after? (h₀ : w₀.IsFresh) (h : w₀.after? hs = some w)
    (one : w₀.Throughout hs OneByOne) (plain : w₀.Throughout hs fun _ g => g.IsPlain)
    (breaks : w₀.Throughout hs fun _ g => g.BreaksForGood) {n : Nat} {x : Correspondence}
    (hx : w.correspondence? n = some x) : x.connection.Refuses ∨ x.InOrder := by
  have given : w₀.Throughout hs fun u g => u.UnhurriedAt g ∧ g.BreaksForGood := fun k u g hu hg =>
    ⟨(throughout_of_after? (fun hs u g hu one _ => (isSolitary_after? h₀ one hu).unhurried g) one) k u g
      hu hg, breaks k u g hu hg⟩
  refine correspondence_induction (P := fun x => x.connection.Refuses ∨ x.InOrder)
    (fun _ hx => .inr (.of_isFresh hx)) (fun u g x x' e hC hx he hp hstep => ?_) h₀ h plain given hx
  have lasts (hr : x.connection.Refuses) : x'.connection.Refuses := by
    refine hstep.refuses hr fun f hf => ?_
    subst hf
    obtain rfl : g = .streams n f := he
    exact hC.2
  rcases hp with hr | hp
  · exact .inl (lasts hr)
  by_cases can : ∀ task, e = .party task → x.CanWrite task
  · refine .inr (hp.step hstep can fun task ht => ?_)
    subst ht
    obtain rfl : g = .goesOn (.call task) := he
    exact hC.1 n x hx
  · -- what cannot be written now cannot be written any more
    simp only [Correspondence.CanWrite, not_forall] at can
    obtain ⟨task, -, p, m, -, -, hfails⟩ := can
    cases hw : x.connection.write m with
    | ok c => exact absurd ⟨c, hw⟩ hfails
    | error e => exact .inl (lasts (Connection.refuses_of_write_error hw))

end Workbench

end LanguageClient
