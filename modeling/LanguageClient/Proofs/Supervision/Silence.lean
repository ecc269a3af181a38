import LanguageClient.Proofs.Supervision.Custody

/-!
# Nothing after the line about the exit

The reaper writes the line about the exit when all drains are done, and lets the exit be seen after
that.  So the line is the last that the log gets from a process, whichever comes first: the end of the
process, its killing, the end of its output or the end of the drains' time.

* `ReaperPoint.Fits` — what holds of the log, the exit and the drains when the reaper has come to a
  point (`SupervisedProcess.Reaps.fits`, `Custody.Aside.fits`, `Custody.fits_of_read`).
* **`Custody.sound_after?`** — it holds at any time, and who killed a process and waited was told of an
  exit that can be seen; so the log has no line about the exit yet or ends with the one that it has
  (`Custody.Sound.output_or_concluded`), and has it once the exit can be seen
  (`Custody.Sound.concluded_of_exit`).
* **`Custody.log_is_final`** — nothing comes into the log behind the line.
* `SupervisedProcess.remaining` — how many steps the reaper has yet to take: nobody adds to them
  (`Custody.occur?_remaining`), and the reaper of a process that has ended is never stuck
  (**`Custody.reaps_remaining`**).
-/

namespace LanguageClient

/-! ## What holds at each point -/

/-- What holds of a process when the reaper has come to a point. -/
def ReaperPoint.Fits (p : SupervisedProcess) : ReaperPoint → Prop
  | waiting => p.exit = none ∧ IsOutput p.log
  | draining e _ | stopping e => p.exit = none ∧ IsOutput p.log ∧ p.status = some e
  | writing e => p.exit = none ∧ IsOutput p.log ∧ p.status = some e ∧ p.drained = true
  | telling e => p.exit = none ∧ IsConcluded e p.log ∧ p.status = some e ∧ p.drained = true
  | gone => ∃ e, p.exit = some e ∧ IsConcluded e p.log ∧ p.status = some e ∧ p.drained = true

namespace SupervisedProcess

/-- The reaper goes on to where it fits. -/
theorem Reaps.fits {p p' : SupervisedProcess} {now : Nat} (h : p.Reaps now p')
    (hp : p.reaper.Fits p) : p'.reaper.Fits p' := by
  cases h with
  | sees hr hs =>
    rw [hr] at hp
    exact ⟨hp.1, hp.2, hs⟩
  | kills hr hs hk =>
    rw [hr] at hp
    show ReaperPoint.Fits _ p.reaper
    rw [hr]
    exact hp
  | finds hr hd =>
    rw [hr] at hp
    exact ⟨hp.1, hp.2.1, hp.2.2, hd⟩
  | losesPatience hr hd =>
    rw [hr] at hp
    exact hp
  | stops hr =>
    rw [hr] at hp
    exact ⟨hp.1, hp.2.1, hp.2.2, p.drained_stopDrains⟩
  | writes hr =>
    rw [hr] at hp
    exact ⟨hp.1, ⟨p.log, hp.2.1, rfl⟩, hp.2.2⟩
  | tells hr =>
    rw [hr] at hp
    exact ⟨_, rfl, hp.2⟩

theorem Reaps.killWanted {p p' : SupervisedProcess} {now : Nat} (h : p.Reaps now p')
    (hp : p.killWanted = true) : p'.killWanted = true := by
  cases h <;> exact hp

end SupervisedProcess

namespace Custody

/-- What holds at any time. -/
structure Sound (c : Custody) : Prop where
  reaper : c.process.reaper.Fits c.process
  killer : c.MayKill
  verdicts : ∀ e ∈ c.verdicts, c.process.exit = some e

theorem sound_spawned (streams : Nat) : (spawned streams).Sound where
  reaper := ⟨rfl, nofun⟩
  killer := ⟨nofun, nofun⟩
  verdicts := nofun

/-- Whatever else is done, the reaper stays where it fits. -/
theorem Aside.fits {o : Occurrence} {c c' : Custody} (h : c.Aside o c')
    (hc : c.process.reaper.Fits c.process) : c'.process.reaper.Fits c'.process := by
  rw [h.reaper]
  cases hr : c.process.reaper <;> rw [hr] at hc
  case waiting => exact ⟨h.exit.trans hc.1, h.log.symm ▸ hc.2⟩
  case draining => exact ⟨h.exit.trans hc.1, h.log.symm ▸ hc.2.1, h.status _ hc.2.2⟩
  case stopping => exact ⟨h.exit.trans hc.1, h.log.symm ▸ hc.2.1, h.status _ hc.2.2⟩
  case writing =>
    exact ⟨h.exit.trans hc.1, h.log.symm ▸ hc.2.1, h.status _ hc.2.2.1, h.drained hc.2.2.2⟩
  case telling =>
    exact ⟨h.exit.trans hc.1, h.log.symm ▸ hc.2.1, h.status _ hc.2.2.1, h.drained hc.2.2.2⟩
  case gone =>
    obtain ⟨e, he, hlog, hs, hd⟩ := hc
    exact ⟨e, h.exit.trans he, h.log.symm ▸ hlog, h.status _ hs, h.drained hd⟩

theorem not_drained_of_running {p : SupervisedProcess} {n : Nat} {d : Drain}
    (hd : p.drains[n]? = some d) (hr : d.running = true) : ¬ p.drained = true := by
  intro hdrained
  have := SupervisedProcess.drained_iff.1 hdrained n d hd
  rw [hr] at this
  cases this

/-- What is read comes before the line about the exit, for that is written when all drains are done. -/
theorem fits_of_read {p : SupervisedProcess} (hp : p.reaper.Fits p) (hd : ¬ p.drained = true)
    (drains : List Drain) (n : Nat) (bytes : List UInt8) :
    p.reaper.Fits { p with drains, log := p.log ++ [.output n bytes] } := by
  cases hpoint : p.reaper <;> rw [hpoint] at hp
  case waiting => exact ⟨hp.1, hp.2.concat n bytes⟩
  case draining => exact ⟨hp.1, hp.2.1.concat n bytes, hp.2.2⟩
  case stopping => exact ⟨hp.1, hp.2.1.concat n bytes, hp.2.2⟩
  case writing => exact absurd hp.2.2.2 hd
  case telling => exact absurd hp.2.2.2 hd
  case gone =>
    obtain ⟨_, -, -, -, hdrained⟩ := hp
    exact absurd hdrained hd

/-- The exit that can be seen stays the same. -/
theorem Becomes.exit {c c' : Custody} {o : Occurrence} (h : c.Becomes o c')
    (hc : c.process.reaper.Fits c.process) {e : ExitEvent} (he : c.process.exit = some e) :
    c'.process.exit = some e := by
  cases h with
  | aside h => exact h.exit.trans he
  | reads => exact he
  | reaps h =>
    cases h with
    | tells hr =>
      rw [hr] at hc
      rw [hc.1] at he
      cases he
    | _ => exact he

theorem Sound.becomes {c c' : Custody} {o : Occurrence} (hc : c.Sound) (h : c.Becomes o c') :
    c'.Sound := by
  have kept {e : ExitEvent} : c.process.exit = some e → c'.process.exit = some e := h.exit hc.reaper
  cases h with
  | aside h =>
    refine ⟨h.fits hc.reaper, ?_, fun e he => ?_⟩
    · rcases h.killer with hsame | hkiller
      · exact ⟨fun hk => h.wanted (hc.killer.waiting (hsame ▸ hk)),
          fun e he => kept (hc.killer.stopping e (hsame ▸ he))⟩
      · exact hkiller
    · rcases h.verdicts e he with hbefore | htold
      · exact kept (hc.verdicts e hbefore)
      · exact kept (hc.killer.stopping e htold)
  | reads hd hr =>
    exact ⟨fits_of_read hc.reaper (not_drained_of_running hd hr) _ _ _,
      ⟨hc.killer.waiting, hc.killer.stopping⟩, hc.verdicts⟩
  | reaps h =>
    exact ⟨h.fits hc.reaper, ⟨fun hk => h.killWanted (hc.killer.waiting hk),
      fun e he => kept (hc.killer.stopping e he)⟩, fun e he => kept (hc.verdicts e he)⟩

/-- **The reaper is where it fits at any time**, and whoever killed the process was told of its exit when
it could be seen. -/
theorem sound_after? {streams : Nat} {os : List Occurrence} {c : Custody}
    (h : (spawned streams).after? os = some c) : c.Sound :=
  History.induction (P := fun _ c => c.Sound) (sound_spawned streams)
    (fun _ _ _ _ _ hc ho => hc.becomes (becomes_of_occur? ho)) h

/-- The reaper sees to it that the log of a process that has exited is concluded. -/
theorem Sound.concluded_of_exit {c : Custody} (hc : c.Sound) {e : ExitEvent}
    (he : c.process.exit = some e) : IsConcluded e c.process.log := by
  have hfits := hc.reaper
  cases hr : c.process.reaper <;> rw [hr] at hfits
  case gone =>
    obtain ⟨e', he', hlog, -⟩ := hfits
    obtain rfl := Option.some.inj (he.symm.trans he')
    exact hlog
  all_goals
    rw [hfits.1] at he
    cases he

/-- The log of a process is not concluded before it has ended, and then it says how. -/
theorem Sound.output_or_concluded {c : Custody} (hc : c.Sound) :
    IsOutput c.process.log ∨ ∃ e, c.process.status = some e ∧ IsConcluded e c.process.log := by
  have hfits := hc.reaper
  cases hr : c.process.reaper <;> rw [hr] at hfits
  case waiting => exact .inl hfits.2
  case telling e => exact .inr ⟨e, hfits.2.2.1, hfits.2.1⟩
  case gone =>
    obtain ⟨e, -, hlog, hs, -⟩ := hfits
    exact .inr ⟨e, hs, hlog⟩
  all_goals exact .inl hfits.2.1

/-! ## After the line about the exit -/

/-- The line about the exit has been written. -/
def isWritten (c : Custody) : Prop :=
  (∃ e, c.process.reaper = .telling e) ∨ c.process.reaper = .gone

/-- Once it has been written, nothing else is. -/
theorem Becomes.isWritten {c c' : Custody} {o : Occurrence} (h : c.Becomes o c') (hc : c.Sound)
    (hw : c.isWritten) : c'.isWritten ∧ c'.process.log = c.process.log := by
  have hdrained : c.process.drained = true := by
    have hfits := hc.reaper
    rcases hw with ⟨e, hr⟩ | hr
    · rw [hr] at hfits
      exact hfits.2.2.2
    · rw [hr] at hfits
      obtain ⟨_, -, -, -, hd⟩ := hfits
      exact hd
  cases h with
  | aside h => exact ⟨by rwa [Custody.isWritten, h.reaper], h.log⟩
  | reads hd hr => exact absurd hdrained (not_drained_of_running hd hr)
  | reaps h =>
    cases h with
    | tells hr => exact ⟨.inr rfl, rfl⟩
    | sees hr | kills hr | finds hr | losesPatience hr | stops hr | writes hr =>
      rcases hw with ⟨e, he⟩ | he
      · rw [he] at hr
        cases hr
      · rw [he] at hr
        cases hr

theorem isWritten_of_isConcluded {c : Custody} (hc : c.Sound) {e : ExitEvent}
    (h : IsConcluded e c.process.log) : c.isWritten := by
  have hfits := hc.reaper
  cases hr : c.process.reaper <;> rw [hr] at hfits
  case waiting => exact absurd hfits.2 h.not_isOutput
  case draining => exact absurd hfits.2.1 h.not_isOutput
  case stopping => exact absurd hfits.2.1 h.not_isOutput
  case writing => exact absurd hfits.2.1 h.not_isOutput
  case telling e => exact .inl ⟨e, hr⟩
  case gone => exact .inr hr

/-- **Nothing comes into the log behind the line about the exit**, whatever occurs. -/
theorem log_is_final {c c' : Custody} (hc : c.Sound) {e : ExitEvent} (h : IsConcluded e c.process.log)
    {os : List Occurrence} (hafter : c.after? os = some c') : c'.process.log = c.process.log := by
  have hwritten := isWritten_of_isConcluded hc h
  refine (History.induction
    (P := fun _ c' => c'.Sound ∧ c'.isWritten ∧ c'.process.log = c.process.log)
    ⟨hc, hwritten, rfl⟩ ?_ hafter).2.2
  rintro os o u u' - ⟨hu, hw, hlog⟩ ho
  have hbecomes := becomes_of_occur? ho
  obtain ⟨hw', hlog'⟩ := hbecomes.isWritten hu hw
  exact ⟨hu.becomes hbecomes, hw', hlog'.trans hlog⟩

/-! ## Going on -/

end Custody

/-- How many steps the reaper has yet to take, from here to its end. -/
def ReaperPoint.remaining (ended : Bool) : ReaperPoint → Nat
  | waiting => if ended then 5 else 6
  | draining _ _ => 4
  | stopping _ => 3
  | writing _ => 2
  | telling _ => 1
  | gone => 0

theorem ReaperPoint.remaining_anti (r : ReaperPoint) {ended ended' : Bool}
    (h : ended = true → ended' = true) : r.remaining ended' ≤ r.remaining ended := by
  cases r with
  | waiting =>
    cases ended with
    | true =>
      obtain rfl := h rfl
      exact Nat.le_refl _
    | false => cases ended' <;> decide
  | _ => exact Nat.le_refl _

/-- How many steps the reaper has yet to take. -/
def SupervisedProcess.remaining (p : SupervisedProcess) : Nat := p.reaper.remaining p.status.isSome

theorem SupervisedProcess.Reaps.remaining_lt {p p' : SupervisedProcess} {now : Nat}
    (h : p.Reaps now p') : p'.remaining < p.remaining := by
  unfold SupervisedProcess.remaining
  cases h with
  | sees hr hs =>
    show 4 < p.reaper.remaining p.status.isSome
    rw [hr, hs]
    exact Nat.lt_succ_self 4
  | kills hr hs hk =>
    show p.reaper.remaining true < p.reaper.remaining p.status.isSome
    rw [hr, hs]
    exact Nat.lt_succ_self 5
  | finds hr | losesPatience hr | stops hr | writes hr | tells hr =>
    rw [hr, ReaperPoint.remaining, ReaperPoint.remaining]; decide

namespace Custody

theorem Aside.remaining_le {o : Occurrence} {c c' : Custody} (h : c.Aside o c') :
    c'.process.remaining ≤ c.process.remaining := by
  unfold SupervisedProcess.remaining
  rw [h.reaper]
  refine c.process.reaper.remaining_anti fun hs => ?_
  obtain ⟨e, he⟩ := Option.isSome_iff_exists.1 hs
  rw [h.status e he]
  rfl

/-- Nobody gives the reaper more to do. -/
theorem occur?_remaining {c c' : Custody} {o : Occurrence} (h : c.occur? o = some c') :
    c'.process.remaining ≤ c.process.remaining := by
  cases becomes_of_occur? h with
  | aside ha => exact ha.remaining_le
  | reads => exact Nat.le_refl _
  | reaps hr => exact Nat.le_of_lt hr.remaining_lt

/-- **The reaper of a process that has ended, or has to, is never stuck**: from some time on it can take
its next step, until everybody can see the exit. -/
theorem reaps_remaining {c : Custody} (hc : c.Sound)
    (hends : c.process.status.isSome = true ∨ c.process.killWanted = true)
    (hunseen : c.process.exit = none) :
    ∃ t, ∀ now, t ≤ now → ∃ c', c.occur? (.reaps now) = some c' ∧
      c'.process.remaining < c.process.remaining := by
  have steps (t : Nat) (h : ∀ now, t ≤ now → ∃ p, c.process.reap? now = some p) :
      ∃ t, ∀ now, t ≤ now → ∃ c', c.occur? (.reaps now) = some c' ∧
        c'.process.remaining < c.process.remaining := by
    refine ⟨t, fun now hnow => ?_⟩
    obtain ⟨p, hp⟩ := h now hnow
    exact ⟨{ c with process := p }, by rw [occur?, hp]; rfl,
      (SupervisedProcess.reaps_of_reap? hp).remaining_lt⟩
  have hfits := hc.reaper
  cases hr : c.process.reaper with
  | waiting =>
    refine steps 0 fun now _ => ?_
    rw [SupervisedProcess.reap?, hr]
    cases hs : c.process.status with
    | some e => exact ⟨_, rfl⟩
    | none =>
      rcases hends with hs' | hk
      · rw [hs] at hs'
        cases hs'
      · rw [hk]
        exact ⟨_, rfl⟩
  | draining e deadline =>
    refine steps deadline fun now hnow => ?_
    rw [SupervisedProcess.reap?, hr]
    by_cases hd : c.process.drained = true
    · exact ⟨_, if_pos hd⟩
    · exact ⟨_, (if_neg hd).trans (if_pos hnow)⟩
  | stopping e => exact steps 0 fun now _ => ⟨_, by rw [SupervisedProcess.reap?, hr]⟩
  | writing e => exact steps 0 fun now _ => ⟨_, by rw [SupervisedProcess.reap?, hr]⟩
  | telling e => exact steps 0 fun now _ => ⟨_, by rw [SupervisedProcess.reap?, hr]⟩
  | gone =>
    rw [hr] at hfits
    obtain ⟨e, he, -⟩ := hfits
    rw [hunseen] at he
    cases he

/-- **Whoever kills a process waits for its reaper and for nothing else.** -/
theorem killing_goes_on {c : Custody} (hc : c.Sound) {k : KillPoint} (hk : c.killer = some k) :
    (∃ c', c.occur? .killing = some c') ∨
      (c.process.killWanted = true ∧ c.process.exit = none) := by
  rw [occur?, hk, Option.map_some]
  cases k with
  | asking => exact .inl ⟨_, rfl⟩
  | waiting =>
    cases he : c.process.exit with
    | none => exact .inr ⟨hc.killer.waiting hk, rfl⟩
    | some e =>
      rw [KillPoint.step, he]
      exact .inl ⟨_, rfl⟩
  | stopping e => exact .inl ⟨_, rfl⟩

end Custody

end LanguageClient
