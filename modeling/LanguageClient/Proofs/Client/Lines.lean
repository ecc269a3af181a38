import LanguageClient.Proofs.Client.Lifecycle

/-!
# What holds of the connection of a line

A property of one connection is kept by whatever happens if it is kept by what can happen to this
connection: the steps of requests and of those who close it, the steps of its reader, and what is calm.

* `Session.Turn.on` — the step of a call, as far as it concerns one connection.
* **`happen?_on`** — the rule.  It is told who closes the line, and when its reader takes a step.
-/

namespace LanguageClient

open Session

namespace Session

variable {s s' : Session} {n m : Nat} {P : Connection → Prop}

theorem On.setConnection {c : Connection} (h : s.On n P) (hc : m = n → P c) :
    (s.setConnection m c).On n P := by
  intro l hl
  rw [line?_setConnection] at hl
  split at hl
  next e =>
    obtain ⟨l', _, rfl⟩ := Option.map_eq_some_iff.1 hl
    exact hc e
  next => exact h l hl

theorem Calm.on (h : s.Calm s') (hn : s.On n P) (calm : ∀ c c', c.Calm c' → P c → P c')
    (fresh : ∀ link, P { link }) : s'.On n P := by
  intro l' hl'
  cases hl : s.line? n with
  | none =>
    obtain ⟨link, peer, process, rfl⟩ := h.comes n l' hl hl'
    exact fresh _
  | some l =>
    obtain ⟨l'', hl'', hcalm⟩ := h.stays n l hl
    obtain rfl : l' = l'' := Option.some.inj (hl'.symm.trans hl'')
    exact calm _ _ hcalm (hn l hl)

/-- The step of a call, as far as it concerns one connection. -/
theorem Turn.on {now : Nat} {t t' : Option (Nat × Traffic)} (h : s.Turn now t s' t') (hn : s.On n P)
    (asks : ∀ q (p : RequestPoint) c, P c → (p.step q now c).All P)
    (closes : ∀ reason p c, t = some (n, .closes p) → P c → (p.step reason c).All P)
    (calm : ∀ c c', c.Calm c' → P c → P c') (fresh : ∀ link, P { link }) : s'.On n P := by
  cases h with
  | @asks m l q p p' c hl h =>
    refine hn.setConnection fun e => ?_
    have step := asks q p l.connection (hn l (e ▸ hl))
    rwa [h] at step
  | @asked m l q p c r t hl h _ =>
    refine hn.setConnection fun e => ?_
    have step := asks q p l.connection (hn l (e ▸ hl))
    rwa [h] at step
  | @closes m l reason p p' c hl h =>
    refine hn.setConnection fun e => ?_
    have step := closes reason p l.connection (by rw [e]) (hn l (e ▸ hl))
    rwa [h] at step
  | @closed m l reason p c t hl h _ =>
    refine hn.setConnection fun e => ?_
    have step := closes reason p l.connection (by rw [e]) (hn l (e ▸ hl))
    rwa [h] at step
  | aside h _ => exact h.on hn calm fresh

end Session

namespace Workbench

/-- **What holds of the connection of a line is kept** by whatever happens, if it is kept by everything
that can happen to this connection. -/
theorem happen?_on {w w' : Workbench} (hw : w.Sound) {g : Happening} (h : w.happen? g = some w')
    {n : Nat} {P : Connection → Prop} (hn : w.client.session.On n P)
    (asks : ∀ q (p : RequestPoint) c, P c → (p.step q w.client.now c).All P)
    (closes : ∀ task reason p c, g = .goesOn (.call task) → w.place? task = some (n, .closes p) →
      P c → (p.step reason c).All P)
    (reads : ∀ l c, g = .goesOn (.reader n) ∨ g = .goesOn (.lateReader n) →
      w.client.session.line? n = some l → (Reader.stop? l.connection = some c ∨
        ∃ signals, Reader.step? w.client.session.handlers l.connection = some (c, signals)) →
      P l.connection → P c)
    (calm : ∀ c c', c.Calm c' → P c → P c') (fresh : ∀ link, P { link }) :
    w'.client.session.On n P := by
  by_cases hg : ∃ a, (a = .reader n ∨ a = .lateReader n) ∧ g = .goesOn a
  · obtain ⟨a, ha, rfl⟩ := hg
    obtain ⟨l, c, signals, hl, rfl, hstep⟩ := act?_reader ha h
    rw [Client.session_absorbAll]
    exact hn.setConnection fun _ => reads l c (ha.imp (congrArg _) (congrArg _)) hl
      (hstep.imp (fun hstop => hstop.2.1) fun hread => ⟨signals, hread.2⟩) (hn l hl)
  · cases happen?_turn hw h with
    | @call task turn _ =>
      exact turn.on hn asks (fun reason p c ht => closes task reason p c rfl ht) calm fresh
    | @reads m a l handlers c signals hl ha _ session _ =>
      rw [session]
      refine hn.setConnection fun e => ?_
      subst e
      exact absurd ⟨a, ha.imp And.left id, rfl⟩ hg
    | @stops m l c hl _ session _ =>
      rw [session]
      refine hn.setConnection fun e => ?_
      subst e
      exact absurd ⟨_, .inl rfl, rfl⟩ hg
    | calm hcalm _ _ => exact hcalm.on hn calm fresh

end Workbench

end LanguageClient
