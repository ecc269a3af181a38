import LanguageClient.Proofs.Data.History
import LanguageClient.Supervision.Process

/-!
# A process in custody

A process that the client has started is in the hands of several at once: whoever writes to its
streams, the drains, the reaper, and whoever kills it or lets go of it.  What they do comes in any
order, and a list of *occurrences* describes one.

* `Custody.occur?` — what one occurrence comes to, if it can occur; `Custody.after?` is what a list of
  them comes to, and `Custody.spawned` is where they begin.
* `chunks` — what the log has from one stream, read by read; `IsOutput` and `IsConcluded` say whether
  the line about the exit is in the log yet.
* `SupervisedProcess.Reaps` — how the reaper goes on.
* **`becomes_of_occur?`** — an occurrence leaves the log and the reaper alone (`Custody.Aside`), or a drain
  reads, or the reaper goes on.
-/

namespace LanguageClient

/-- Something that can occur to a process and its streams. -/
inductive Occurrence
  /-- Somebody writes to a stream. -/
  | writes (stream : Nat) (bytes : List UInt8)
  /-- Nobody can write to a stream any more. -/
  | closes (stream : Nat)
  /-- A stream cannot be read any more. -/
  | breaks (stream : Nat)
  /-- The process ends by itself. -/
  | ends (e : ExitEvent)
  /-- A drain reads. -/
  | drains (stream size : Nat)
  /-- The reaper takes its next step, at a time in milliseconds. -/
  | reaps (now : Nat)
  /-- Somebody begins to kill the process and to wait until it is gone. -/
  | kills
  /-- Whoever kills the process takes the next step. -/
  | killing
  /-- Whoever kills the process does not wait any longer. -/
  | letsGo
  /-- Nobody wants the process any more. -/
  | drops
  deriving Repr

/-- What this writes to a stream. -/
def Occurrence.written (stream : Nat) : Occurrence → List UInt8
  | writes n bytes => if n = stream then bytes else []
  | _ => []

/-- A process with those who have to do with it. -/
structure Custody where
  process : SupervisedProcess
  /-- How far whoever kills the process has come. -/
  killer : Option KillPoint := none
  /-- What those were told who killed the process and waited. -/
  verdicts : List ExitEvent := []
  /-- Nobody wants the process any more. -/
  dropped : Bool := false
  deriving Inhabited, Repr

namespace Custody

/-- A process that has just been started, with the streams that are drained. -/
def spawned (streams : Nat) : Custody := { process := { drains := List.replicate streams {} } }

def setDrain (c : Custody) (n : Nat) (d : Drain) : Custody :=
  { c with process := { c.process with drains := c.process.drains.set n d } }

/-- The custody after something has occurred, if it can. -/
def occur? (c : Custody) : Occurrence → Option Custody
  | .writes n bytes =>
    match c.process.drains[n]? with
    | some d => if d.closed then none else some (c.setDrain n { d with waiting := d.waiting ++ bytes })
    | none => none
  | .closes n => c.process.drains[n]?.map fun d => c.setDrain n { d with closed := true }
  | .breaks n => c.process.drains[n]?.map fun d => c.setDrain n { d with running := false }
  | .ends e =>
    if c.process.status.isNone then some { c with process := { c.process with status := some e } }
    else none
  | .drains n size =>
    if 1 ≤ size ∧ size ≤ SupervisedProcess.maxRead then
      (c.process.drain? n size).map fun process => { c with process }
    else none
  | .reaps now => (c.process.reap? now).map fun process => { c with process }
  | .kills => if c.killer.isNone && !c.dropped then some { c with killer := some .asking } else none
  | .killing =>
    match c.killer.map (KillPoint.step c.process) with
    | some (.goesOn process p) => some { c with process, killer := some p }
    | some (.ends process e) =>
      some { c with process, killer := none, verdicts := c.verdicts ++ [e] }
    | _ => none
  | .letsGo => if c.killer.isSome then some { c with killer := none } else none
  | .drops =>
    if c.dropped then none
    else some { c with
      process := { c.process.stopDrains with killWanted := true }, killer := none, dropped := true }

/-- The custody after a list of occurrences, if they can occur. -/
def after? (c : Custody) (os : List Occurrence) : Option Custody := os.foldlM occur? c

end Custody

/-! ## Logs -/

/-- What was read from a stream, read by read. -/
def LogPiece.chunk? (stream : Nat) : LogPiece → Option (List UInt8)
  | output n bytes => if n = stream then some bytes else none
  | exitLine _ => none

/-- What was read from a stream, read by read. -/
def chunks (stream : Nat) (log : List LogPiece) : List (List UInt8) := log.filterMap (·.chunk? stream)

def LogPiece.isExitLine : LogPiece → Bool
  | output _ _ => false
  | exitLine _ => true

/-- The log holds nothing but what was read. -/
def IsOutput (log : List LogPiece) : Prop := ∀ piece ∈ log, piece.isExitLine = false

/-- The log ends with the one line about the exit. -/
def IsConcluded (e : ExitEvent) (log : List LogPiece) : Prop :=
  ∃ output, IsOutput output ∧ log = output ++ [.exitLine e]

theorem IsOutput.concat {log : List LogPiece} (h : IsOutput log) (n : Nat) (bytes : List UInt8) :
    IsOutput (log ++ [.output n bytes]) :=
  List.forall_mem_append.2 ⟨h, List.forall_mem_singleton.2 rfl⟩

theorem IsConcluded.not_isOutput {e : ExitEvent} {log : List LogPiece} (h : IsConcluded e log) :
    ¬ IsOutput log := by
  obtain ⟨output, -, rfl⟩ := h
  intro hno
  have := hno (.exitLine e) List.mem_concat_self
  cases this

/-! ## What an occurrence does -/

namespace SupervisedProcess

/-- What has been written to a stream and not been read. -/
def waitingOn (p : SupervisedProcess) (n : Nat) : List UInt8 := (p.drains[n]?.map Drain.waiting).getD []

/-- How the reaper goes on. -/
inductive Reaps (now : Nat) (p : SupervisedProcess) : SupervisedProcess → Prop
  | sees {e : ExitEvent} (hr : p.reaper = .waiting) (hs : p.status = some e) :
      Reaps now p { p with reaper := .draining e (now + grace) }
  | kills (hr : p.reaper = .waiting) (hs : p.status = none) (hk : p.killWanted = true) :
      Reaps now p { p with status := some .killed }
  | finds {e : ExitEvent} {deadline : Nat} (hr : p.reaper = .draining e deadline)
      (hd : p.drained = true) : Reaps now p { p with reaper := .writing e }
  | losesPatience {e : ExitEvent} {deadline : Nat} (hr : p.reaper = .draining e deadline)
      (hd : deadline ≤ now) : Reaps now p { p with reaper := .stopping e }
  | stops {e : ExitEvent} (hr : p.reaper = .stopping e) :
      Reaps now p { p.stopDrains with reaper := .writing e }
  | writes {e : ExitEvent} (hr : p.reaper = .writing e) :
      Reaps now p { p with log := p.log ++ [.exitLine e], reaper := .telling e }
  | tells {e : ExitEvent} (hr : p.reaper = .telling e) :
      Reaps now p { p with exit := some e, reaper := .gone }

theorem reaps_of_reap? {p p' : SupervisedProcess} {now : Nat} (h : p.reap? now = some p') :
    p.Reaps now p' := by
  unfold reap? at h
  split at h
  next hr =>
    split at h
    next hs => cases h; exact .sees hr hs
    next hs hk => cases h; exact .kills hr hs hk
    next => cases h
  next hr =>
    split at h
    next hd => cases h; exact .finds hr hd
    next =>
      split at h
      next hd => cases h; exact .losesPatience hr hd
      next => cases h
  next hr => cases h; exact .stops hr
  next hr => cases h; exact .writes hr
  next hr => cases h; exact .tells hr
  next => cases h

theorem drained_iff {p : SupervisedProcess} :
    p.drained = true ↔ ∀ (n : Nat) (d : Drain), p.drains[n]? = some d → d.running = false := by
  rw [drained, List.all_eq_true]
  simp only [Bool.not_eq_true']
  constructor
  · exact fun h n d hd => h d (List.mem_of_getElem? hd)
  · intro h d hd
    obtain ⟨n, hn⟩ := List.mem_iff_getElem?.1 hd
    exact h n d hn

theorem drained_stopDrains (p : SupervisedProcess) : p.stopDrains.drained = true := by
  rw [drained, stopDrains, List.all_map]
  exact List.all_eq_true.2 fun _ _ => rfl

theorem waitingOn_stopDrains (p : SupervisedProcess) (n : Nat) :
    p.stopDrains.waitingOn n = p.waitingOn n := by
  rw [waitingOn, stopDrains, List.getElem?_map, Option.map_map]
  rfl

end SupervisedProcess

namespace Custody

/-- Whoever kills the process and waits has asked for it, and whoever has seen the exit can see it. -/
structure MayKill (c : Custody) : Prop where
  waiting : c.killer = some .waiting → c.process.killWanted = true
  stopping : ∀ e, c.killer = some (.stopping e) → c.process.exit = some e

/-- An occurrence that has nothing to do with the log and the reaper. -/
structure Aside (o : Occurrence) (c c' : Custody) : Prop where
  log : c'.process.log = c.process.log
  reaper : c'.process.reaper = c.process.reaper
  exit : c'.process.exit = c.process.exit
  status : ∀ e, c.process.status = some e → c'.process.status = some e
  drained : c.process.drained = true → c'.process.drained = true
  waiting : ∀ n, c'.process.waitingOn n = c.process.waitingOn n ++ o.written n
  wanted : c.process.killWanted = true → c'.process.killWanted = true
  killer : c'.killer = c.killer ∨ c'.MayKill
  verdicts : ∀ e ∈ c'.verdicts, e ∈ c.verdicts ∨ c.killer = some (.stopping e)

/-- What an occurrence does. -/
inductive Becomes (c : Custody) : Occurrence → Custody → Prop
  | aside {o : Occurrence} {c' : Custody} (h : c.Aside o c') : Becomes c o c'
  | reads {n size : Nat} {d : Drain} (hd : c.process.drains[n]? = some d) (hr : d.running = true)
      (hw : d.waiting ≠ []) (hsize : 1 ≤ size ∧ size ≤ SupervisedProcess.maxRead) :
      Becomes c (.drains n size) { c with process := { c.process with
        drains := c.process.drains.set n { d with waiting := d.waiting.drop size }
        log := c.process.log ++ [.output n (d.waiting.take size)] } }
  | reaps {now : Nat} {p : SupervisedProcess} (h : c.process.Reaps now p) :
      Becomes c (.reaps now) { c with process := p }

theorem waitingOn_of_drain {p : SupervisedProcess} {n : Nat} {d : Drain}
    (h : p.drains[n]? = some d) : p.waitingOn n = d.waiting := by
  rw [SupervisedProcess.waitingOn, h]
  rfl

theorem waitingOn_set {p : SupervisedProcess} {n : Nat} {d d' : Drain} (h : p.drains[n]? = some d)
    (log : List LogPiece) (m : Nat) :
    ({ p with drains := p.drains.set n d', log } : SupervisedProcess).waitingOn m =
      if n = m then d'.waiting else p.waitingOn m := by
  obtain ⟨hlt, -⟩ := List.getElem?_eq_some_iff.1 h
  unfold SupervisedProcess.waitingOn
  by_cases hn : n = m
  · subst hn
    rw [if_pos rfl, List.getElem?_set_self hlt]
    rfl
  · rw [if_neg hn, List.getElem?_set_ne hn]

theorem drained_set {p : SupervisedProcess} {n : Nat} {d d' : Drain} (h : p.drains[n]? = some d)
    (hd : d.running = false → d'.running = false) (log : List LogPiece) (hp : p.drained = true) :
    ({ p with drains := p.drains.set n d', log } : SupervisedProcess).drained = true := by
  rw [SupervisedProcess.drained_iff] at hp ⊢
  intro m x hx
  obtain ⟨hlt, -⟩ := List.getElem?_eq_some_iff.1 h
  by_cases hn : n = m
  · subst hn
    obtain rfl : d' = x := by simpa [List.getElem?_set_self hlt] using hx
    exact hd (hp n d h)
  · exact hp m x (by simpa [List.getElem?_set_ne hn] using hx)

/-- What is done to one stream without reading from it. -/
theorem aside_setDrain {c : Custody} {o : Occurrence} {n : Nat} {d d' : Drain}
    (h : c.process.drains[n]? = some d) (hrunning : d.running = false → d'.running = false)
    (hwaiting : ∀ m, (if n = m then d'.waiting else c.process.waitingOn m) =
      c.process.waitingOn m ++ o.written m) : c.Aside o (c.setDrain n d') where
  log := rfl
  reaper := rfl
  exit := rfl
  status _ he := he
  drained := drained_set h hrunning c.process.log
  waiting m := (waitingOn_set h c.process.log m).trans (hwaiting m)
  wanted := id
  killer := .inl rfl
  verdicts _ he := .inl he

/-- A stream of which nothing is changed that waits to be read. -/
theorem waiting_unchanged {c : Custody} {n : Nat} {d : Drain} (h : c.process.drains[n]? = some d)
    (m : Nat) : (if n = m then d.waiting else c.process.waitingOn m) = c.process.waitingOn m ++ [] := by
  rw [List.append_nil]
  split
  next he => rw [← he, waitingOn_of_drain h]
  next => rfl

theorem becomes_of_drain? {c : Custody} {p : SupervisedProcess} {n size : Nat}
    (hsize : 1 ≤ size ∧ size ≤ SupervisedProcess.maxRead) (h : c.process.drain? n size = some p) :
    c.Becomes (.drains n size) { c with process := p } := by
  unfold SupervisedProcess.drain? at h
  split at h
  next => cases h
  next d hd =>
    split at h
    next => cases h
    next hr =>
      split at h
      next hw =>
        split at h
        next =>
          cases h
          exact .aside (aside_setDrain hd (fun _ => rfl) (waiting_unchanged (d := d) hd))
        next => cases h
      next hw =>
        cases h
        exact .reads hd (by simpa using hr) (by simpa using hw) hsize

/-- What is done to a process without touching its streams. -/
theorem aside_of_hands {c c' : Custody} {o : Occurrence} (hwritten : ∀ n, o.written n = [])
    (log : c'.process.log = c.process.log) (reaper : c'.process.reaper = c.process.reaper)
    (exit : c'.process.exit = c.process.exit)
    (status : ∀ e, c.process.status = some e → c'.process.status = some e)
    (drains : c'.process.drains = c.process.drains ∨ c'.process.drains = c.process.stopDrains.drains)
    (wanted : c.process.killWanted = true → c'.process.killWanted = true)
    (killer : c'.killer = c.killer ∨ c'.MayKill)
    (verdicts : ∀ e ∈ c'.verdicts, e ∈ c.verdicts ∨ c.killer = some (.stopping e)) : c.Aside o c' where
  log := log
  reaper := reaper
  exit := exit
  status := status
  drained h := by
    rw [SupervisedProcess.drained]
    rcases drains with hd | hd
    · rwa [hd]
    · rw [hd]
      exact c.process.drained_stopDrains
  waiting n := by
    rw [hwritten, List.append_nil, SupervisedProcess.waitingOn]
    rcases drains with hd | hd
    · rw [hd]
      rfl
    · rw [hd]
      exact c.process.waitingOn_stopDrains n
  wanted := wanted
  killer := killer
  verdicts := verdicts

/-- Whoever kills the process does not touch the log. -/
theorem aside_killing {c c' : Custody} (h : c.occur? .killing = some c') : c.Aside .killing c' := by
  rw [occur?] at h
  cases hk : c.killer with
  | none =>
    rw [hk] at h
    cases h
  | some p =>
    rw [hk] at h
    cases p with
    | asking =>
      cases h
      exact aside_of_hands (fun _ => rfl) rfl rfl rfl (fun _ he => he) (.inl rfl) (fun _ => rfl)
        (.inr ⟨fun _ => rfl, nofun⟩) fun _ he => .inl he
    | waiting =>
      cases he : c.process.exit with
      | none =>
        rw [Option.map_some, KillPoint.step, he] at h
        cases h
      | some e =>
        rw [Option.map_some, KillPoint.step, he] at h
        cases h
        refine aside_of_hands (fun _ => rfl) rfl rfl rfl (fun _ he => he) (.inl rfl) id
          (.inr ⟨nofun, ?_⟩) fun _ he => .inl he
        rintro _ ⟨⟩
        exact he
    | stopping e =>
      cases h
      refine aside_of_hands (fun _ => rfl) rfl rfl rfl (fun _ he => he) (.inr rfl) id
        (.inr ⟨nofun, nofun⟩) fun v hv => ?_
      rcases List.mem_append.1 hv with hv | hv
      · exact .inl hv
      · exact .inr (by rw [hk, List.mem_singleton.1 hv])

/-- **An occurrence leaves the log alone, or a drain reads, or the reaper goes on.** -/
theorem becomes_of_occur? {c c' : Custody} {o : Occurrence} (h : c.occur? o = some c') :
    c.Becomes o c' := by
  cases o with
  | writes n bytes =>
    rw [occur?] at h
    split at h
    next d hd =>
      split at h
      next => cases h
      next =>
        cases h
        refine .aside (aside_setDrain hd id fun m => ?_)
        rw [Occurrence.written]
        split
        next he => rw [← he, waitingOn_of_drain hd]
        next => rw [List.append_nil]
    next => cases h
  | closes n =>
    obtain ⟨d, hd, rfl⟩ := Option.map_eq_some_iff.1 h
    exact .aside (aside_setDrain hd id (waiting_unchanged (d := d) hd))
  | breaks n =>
    obtain ⟨d, hd, rfl⟩ := Option.map_eq_some_iff.1 h
    exact .aside (aside_setDrain hd (fun _ => rfl) (waiting_unchanged (d := d) hd))
  | ends e =>
    rw [occur?] at h
    split at h
    next hs =>
      cases h
      refine .aside (aside_of_hands (fun _ => rfl) rfl rfl rfl (fun e he => ?_) (.inl rfl) id (.inl rfl)
        fun _ he => .inl he)
      rw [he] at hs
      cases hs
    next => cases h
  | drains n size =>
    rw [occur?] at h
    split at h
    next hsize =>
      obtain ⟨p, hp, rfl⟩ := Option.map_eq_some_iff.1 h
      exact becomes_of_drain? hsize hp
    next => cases h
  | reaps now =>
    obtain ⟨p, hp, rfl⟩ := Option.map_eq_some_iff.1 h
    exact .reaps (SupervisedProcess.reaps_of_reap? hp)
  | kills =>
    rw [occur?] at h
    split at h
    next =>
      cases h
      exact .aside (aside_of_hands (fun _ => rfl) rfl rfl rfl (fun _ he => he) (.inl rfl) id
        (.inr ⟨nofun, nofun⟩) fun _ he => .inl he)
    next => cases h
  | killing => exact .aside (aside_killing h)
  | letsGo =>
    rw [occur?] at h
    split at h
    next =>
      cases h
      exact .aside (aside_of_hands (fun _ => rfl) rfl rfl rfl (fun _ he => he) (.inl rfl) id
        (.inr ⟨nofun, nofun⟩) fun _ he => .inl he)
    next => cases h
  | drops =>
    rw [occur?] at h
    split at h
    next => cases h
    next =>
      cases h
      exact .aside (aside_of_hands (fun _ => rfl) rfl rfl rfl (fun _ he => he) (.inr rfl) (fun _ => rfl)
        (.inr ⟨nofun, nofun⟩) fun _ he => .inl he)

end Custody

end LanguageClient
