import LanguageClient.Proofs.Client.SingleConnection
import LanguageClient.Proofs.Supervision.Output
import LanguageClient.Proofs.Supervision.Silence
import Mathlib.Logic.Function.Basic

/-!
# A client and its processes

The session of a client knows of the process behind a line only whether it has exited, and kills it in
one step.  The premises put the custody of each process beside the workbench: the session sees an exit
when the custody lets it be seen, and the step that kills a process is taken when whoever killed the
process there has been told.

* `Premises.incident?`, `Premises.after?` — what happens on the bench or occurs to a process, each where it
  can; `bench_after?` and `custody_after?` give the history of the bench and of one process.
* `Premises.IsLinked` — where the session sees an exit, the custody lets it be seen.
* `exited_of_bannering` — a restart that is about to announce itself sees the exit of every process.
* **`processes_fall_silent`** — what the log has from a process, that the line about the exit is the last
  of it, that it is written, and that a restart announces itself after it.
-/

namespace LanguageClient

/-! ## What the session sees -/

/-- The line whose process is killed by the next step of a start, restart or stop. -/
def LifecyclePoint.kills? : LifecyclePoint → Option Nat
  | tearing _ _ (.killing n) => some n
  | connecting _ (.killing n _) => some n
  | _ => none

namespace Workbench

/-- The line whose process is killed by this. -/
def kills? (w : Workbench) : Happening → Option Nat
  | .goesOn (.call task) => (w.lifecycle? task).bind (·.2.kills?)
  | _ => none

/-- There is a process behind the line. -/
def hasProcess (w : Workbench) (n : Nat) : Bool :=
  (w.client.session.line? n).any (·.process.isSome)

/-- The session sees that the process behind the line has exited. -/
def seesExit (w : Workbench) (n : Nat) : Bool :=
  (w.client.session.line? n).any fun l => l.process.any (·.exit.isSome)

end Workbench

/-- A workbench, and the process behind each line from the moment that it is started. -/
structure Premises where
  bench : Workbench
  custody : Nat → Custody

/-- Something that can happen on the premises. -/
inductive Incident
  | bench (h : Happening)
  | process (line : Nat) (o : Occurrence)

namespace Premises

/-- Who kills a process goes on when the process is known to be gone, and nobody sees an exit before the
reaper has told of it. -/
def permits (p : Premises) (h : Happening) (w' : Workbench) : Bool :=
  (p.bench.kills? h).all (fun n => !p.bench.hasProcess n || !(p.custody n).verdicts.isEmpty) &&
    (List.range w'.client.session.lines.length).all fun n =>
      !w'.seesExit n || p.bench.seesExit n || (p.custody n).process.exit.isSome

def setCustody (p : Premises) (n : Nat) (c : Custody) : Premises :=
  { p with custody := Function.update p.custody n c }

/-- The premises after something has happened, if it can happen. -/
def incident? (p : Premises) : Incident → Option Premises
  | .bench h => (p.bench.happen? h).bind fun w' =>
      if p.permits h w' then some { p with bench := w' } else none
  | .process n o => ((p.custody n).occur? o).map (p.setCustody n)

/-- The premises after a history, if it can happen. -/
def after? (p : Premises) (as : List Incident) : Option Premises := as.foldlM incident? p

/-- Nothing has happened yet: there is no line, and every process has just been started. -/
structure IsFresh (p : Premises) : Prop where
  bench : p.bench.IsFresh
  lines : p.bench.client.session.lines = []
  custody : ∀ n, ∃ streams, p.custody n = .spawned streams

variable {p p' p₀ : Premises} {a : Incident} {as : List Incident} {n : Nat}

theorem custody_setCustody_self (p : Premises) (n : Nat) (c : Custody) :
    (p.setCustody n c).custody n = c := Function.update_self ..

theorem custody_setCustody_of_ne {m : Nat} (h : n ≠ m) (p : Premises) (c : Custody) :
    (p.setCustody m c).custody n = p.custody n := Function.update_of_ne h ..

theorem incident?_bench {h : Happening} (ha : p.incident? (.bench h) = some p') :
    ∃ w', p.bench.happen? h = some w' ∧ p.permits h w' = true ∧ p' = { p with bench := w' } := by
  obtain ⟨w', hw', hp'⟩ := Option.bind_eq_some_iff.1 ha
  split at hp'
  next hpermits => cases hp'; exact ⟨w', hw', hpermits, rfl⟩
  next => cases hp'

theorem incident?_process {o : Occurrence} (ha : p.incident? (.process n o) = some p') :
    ∃ c, (p.custody n).occur? o = some c ∧ p' = p.setCustody n c := by
  obtain ⟨c, hc, rfl⟩ := Option.map_eq_some_iff.1 ha
  exact ⟨c, hc, rfl⟩

/-- What happened on the bench is a history of it. -/
theorem bench_after? (h : p₀.after? as = some p) : ∃ hs, p₀.bench.after? hs = some p.bench := by
  refine History.induction (P := fun _ p => ∃ hs, p₀.bench.after? hs = some p.bench) ⟨[], rfl⟩ ?_ h
  rintro as a p p' - ⟨hs, hbench⟩ ha
  cases a with
  | bench g =>
    obtain ⟨w', hw', -, rfl⟩ := incident?_bench ha
    exact ⟨hs ++ [g], Workbench.after?_concat.2 ⟨_, hbench, hw'⟩⟩
  | process n o =>
    obtain ⟨c, -, rfl⟩ := incident?_process ha
    exact ⟨hs, hbench⟩

/-- What occurred to a process is a list of occurrences to it. -/
theorem custody_after? (h : p₀.after? as = some p) (n : Nat) :
    ∃ os, (p₀.custody n).after? os = some (p.custody n) := by
  refine History.induction (P := fun _ p => ∃ os, (p₀.custody n).after? os = some (p.custody n))
    ⟨[], rfl⟩ ?_ h
  rintro as a p p' - ⟨os, hcustody⟩ ha
  cases a with
  | bench g =>
    obtain ⟨w', -, -, rfl⟩ := incident?_bench ha
    exact ⟨os, hcustody⟩
  | process m o =>
    obtain ⟨c, hc, rfl⟩ := incident?_process ha
    by_cases hm : n = m
    · subst hm
      refine ⟨os ++ [o], History.concat_eq_some.2 ⟨_, hcustody, ?_⟩⟩
      rw [custody_setCustody_self]
      exact hc
    · refine ⟨os, ?_⟩
      rw [custody_setCustody_of_ne hm]
      exact hcustody

theorem sound_custody (h₀ : p₀.IsFresh) (h : p₀.after? as = some p) (n : Nat) :
    (p.custody n).Sound := by
  obtain ⟨streams, hspawned⟩ := h₀.custody n
  obtain ⟨os, hafter⟩ := custody_after? h n
  rw [hspawned] at hafter
  exact Custody.sound_after? hafter

/-! ## Exits that are seen -/

/-- Where the session sees an exit, it can be seen. -/
def IsLinked (p : Premises) : Prop :=
  ∀ n, p.bench.seesExit n = true → (p.custody n).process.exit.isSome = true

theorem lt_length_of_seesExit {w : Workbench} (h : w.seesExit n = true) :
    n < w.client.session.lines.length := by
  obtain ⟨l, hl, -⟩ := (Option.any_eq_true _ _).1 h
  exact (List.getElem?_eq_some_iff.1 hl).1

theorem linked_after? (h₀ : p₀.IsFresh) (h : p₀.after? as = some p) : p.IsLinked := by
  refine History.induction (P := fun _ p => p.IsLinked) ?_ ?_ h
  · intro n hn
    have := lt_length_of_seesExit hn
    rw [h₀.lines] at this
    cases this
  · intro as a p p' hp hlinked ha n hn
    cases a with
    | bench g =>
      obtain ⟨w', -, hpermits, rfl⟩ := incident?_bench ha
      obtain ⟨-, hseen⟩ := Bool.and_eq_true_iff.1 hpermits
      have := List.all_eq_true.1 hseen n (List.mem_range.2 (lt_length_of_seesExit hn))
      simp only [Bool.or_eq_true, Bool.not_eq_true'] at this
      rcases this with (hunseen | hbefore) | hexit
      · exact absurd hn (by rw [hunseen]; exact Bool.false_ne_true)
      · exact hlinked n hbefore
      · exact hexit
    | process m o =>
      obtain ⟨c, hc, rfl⟩ := incident?_process ha
      have hbefore := hlinked n hn
      by_cases hm : n = m
      · subst hm
        obtain ⟨e, he⟩ := Option.isSome_iff_exists.1 hbefore
        rw [custody_setCustody_self,
          (Custody.becomes_of_occur? hc).exit (sound_custody h₀ hp n).reaper he]
        rfl
      · rwa [custody_setCustody_of_ne hm]

/-- **A restart that is about to announce itself sees the exit of every process.** -/
theorem exited_of_bannering {w₀ w : Workbench} {hs : List Happening} (h₀ : w₀.IsFresh)
    (hlines : w₀.client.session.lines = []) (h : w₀.after? hs = some w) {task : TaskId}
    {endpoint : Endpoint} (hp : w.lifecycle? task = some (.restart, .bannering endpoint))
    (hn : w.hasProcess n = true) : w.seesExit n = true := by
  have hentered : w.entered? task = some (.restart, .bannering endpoint) :=
    Workbench.entered?_eq_some.2 ⟨hp, rfl⟩
  obtain ⟨vacant, -⟩ := ((Workbench.orderly_after? h₀ h).holds task _ _ hentered).2
  obtain ⟨l, hl, hprocess⟩ := (Option.any_eq_true _ _).1 hn
  obtain ⟨-, hexited⟩ := vacant.disposed n l (by rw [hlines]; exact Nat.zero_le n) nofun hl
  refine (Option.any_eq_true _ _).2 ⟨l, hl, ?_⟩
  obtain ⟨process, hprocess⟩ := Option.isSome_iff_exists.1 hprocess
  rw [Line.hasExited, hprocess] at hexited
  rw [hprocess]
  exact hexited

/-- What the session prints when a restart announces itself. -/
theorem incident?_bannering {task : TaskId} {endpoint : Endpoint}
    (hp : p.bench.lifecycle? task = some (.restart, .bannering endpoint))
    (ha : p.incident? (.bench (.goesOn (.call task))) = some p') :
    p'.bench.client.session.serverLog =
      p.bench.client.session.serverLog ++ "\n" ++ LifecyclePoint.banner ++ "\n" ++ "\n" := by
  obtain ⟨w', hw', -, rfl⟩ := incident?_bench ha
  obtain ⟨call, hcall, hlifecycle⟩ := Option.bind_eq_some_iff.1 hp
  rcases Workbench.act?_call_leads hw' hcall (call.step_lifecycle task p.bench.client hlifecycle) with
    ⟨_, _, p', -, hstep⟩ | ⟨_, _, r, hstep⟩
  · rw [LifecyclePoint.step] at hstep
    injection hstep with hsession
    rw [← hsession, Session.print, Session.print, Session.print, String.append_empty,
      String.append_empty]
  · cases hstep

/-- **A process falls silent with the line about its exit**, and a restart announces itself after that.

Whatever occurs to a process:

* The log has from each stream, read by read and in this order, what was written to it up to what waits.
* The log ends with the one line about the exit, which says how the process has ended, or it has no such
  line yet.  It has it when the exit can be seen, and whoever killed the process and waited was told of an
  exit that can be seen.
* Once it has the line nothing comes behind it, whatever occurs from then on.
* The line is written and the exit told: the reaper of a process that has ended or is to be killed can take
  one of its few next steps from some time on, nobody adds to them, and whoever kills a process waits for
  nothing else.

When a restart is about to announce itself, which is what it does next, the exit of the process of every
line can be seen, its log is concluded, and it stays the same whatever happens from then on. -/
theorem processes_fall_silent :
    (∀ streams os c, (Custody.spawned streams).after? os = some c →
      (∀ n, (chunks n c.process.log).flatten ++ c.process.waitingOn n = Custody.written n os ∧
        ∀ bytes ∈ chunks n c.process.log,
          1 ≤ bytes.length ∧ bytes.length ≤ SupervisedProcess.maxRead) ∧
      (IsOutput c.process.log ∨ ∃ e, c.process.status = some e ∧ IsConcluded e c.process.log) ∧
      (∀ e, c.process.exit = some e → IsConcluded e c.process.log) ∧
      (∀ e ∈ c.verdicts, c.process.exit = some e) ∧
      (∀ e more c', IsConcluded e c.process.log → c.after? more = some c' →
        c'.process.log = c.process.log) ∧
      ((c.process.status.isSome = true ∨ c.process.killWanted = true) → c.process.exit = none →
        ∃ t, ∀ now, t ≤ now → ∃ c', c.occur? (.reaps now) = some c' ∧
          c'.process.remaining < c.process.remaining) ∧
      (∀ o c', c.occur? o = some c' → c'.process.remaining ≤ c.process.remaining) ∧
      ∀ k, c.killer = some k → (∃ c', c.occur? .killing = some c') ∨
        (c.process.killWanted = true ∧ c.process.exit = none)) ∧
    ∀ p₀ as p task endpoint, IsFresh p₀ → p₀.after? as = some p →
      p.bench.lifecycle? task = some (.restart, .bannering endpoint) →
      (∀ n, p.bench.hasProcess n = true → ∃ e, (p.custody n).process.exit = some e ∧
        IsConcluded e (p.custody n).process.log ∧
        ∀ more p', p.after? more = some p' →
          (p'.custody n).process.log = (p.custody n).process.log) ∧
      ∀ p', p.incident? (.bench (.goesOn (.call task))) = some p' →
        p'.bench.client.session.serverLog = p.bench.client.session.serverLog ++ "\n" ++
          LifecyclePoint.banner ++ "\n" ++ "\n" := by
  refine ⟨fun streams os c h => ?_, fun p₀ as p task endpoint h₀ h hp => ⟨fun n hn => ?_, fun p' ha =>
    incident?_bannering hp ha⟩⟩
  · have sound := Custody.sound_after? h
    exact ⟨fun n => ⟨Custody.received_after? h n, Custody.size_of_chunk h n⟩, sound.output_or_concluded,
      fun e he => sound.concluded_of_exit he, sound.verdicts,
      fun e more c' hlog hmore => Custody.log_is_final sound hlog hmore,
      Custody.reaps_remaining sound, fun o c' ho => Custody.occur?_remaining ho,
      fun k hk => Custody.killing_goes_on sound hk⟩
  · obtain ⟨hs, hbench⟩ := bench_after? h
    have seen := linked_after? h₀ h n (exited_of_bannering h₀.bench h₀.lines hbench hp hn)
    obtain ⟨e, he⟩ := Option.isSome_iff_exists.1 seen
    have sound := sound_custody h₀ h n
    have concluded := sound.concluded_of_exit he
    refine ⟨e, he, concluded, fun more p' hmore => ?_⟩
    obtain ⟨os, hos⟩ := custody_after? hmore n
    exact Custody.log_is_final sound concluded hos

/-- A client that nobody has used, with two streams of each process that it will start. -/
def vacant : Premises := { bench := .unused, custody := fun _ => .spawned 2 }

theorem isFresh_vacant : vacant.IsFresh where
  bench := Workbench.isFresh_unused
  lines := rfl
  custody _ := ⟨2, rfl⟩

/-- A process is killed while it writes, and goes on writing until the time of its drains is over. -/
def killedWhileWriting : List Occurrence :=
  [.writes 1 [0x6F], .drains 1 1, .kills, .killing, .reaps 0, .reaps 0, .writes 1 [0x6B], .drains 1 1,
    .writes 1 [0x21], .reaps 500, .reaps 500, .reaps 500, .reaps 500, .killing, .killing]

/-- A session is started and restarted, and its first process does not exit in time. -/
def killedHistory : List Incident :=
  ([Happening.calls (.start (.tcpClient "localhost" 1859))] ++ Workbench.takes 1 6
    ++ [Happening.opens {} "localhost" (some {})] ++ Workbench.takes 1 5 ++ [Workbench.answers 1]
    ++ List.replicate 2 (Happening.goesOn (.reader 0)) ++ Workbench.takes 1 7
    ++ [Happening.calls .replace] ++ Workbench.takes 2 9 ++ [Workbench.answers 2]
    ++ List.replicate 2 (Happening.goesOn (.reader 0)) ++ Workbench.takes 2 6
    ++ [Happening.passes 2000] ++ Workbench.takes 2 1).map .bench
  ++ killedWhileWriting.map (.process 0) ++ (Workbench.takes 2 1).map .bench

/-- Where the second call is about to announce a restart to. -/
def bannersSecond? (p : Premises) : Option Endpoint :=
  match p.bench.lifecycle? ⟨2⟩ with
  | some (.restart, .bannering endpoint) => some endpoint
  | _ => none

theorem lifecycle?_of_bannersSecond? {endpoint : Endpoint} (h : p.bannersSecond? = some endpoint) :
    p.bench.lifecycle? ⟨2⟩ = some (.restart, .bannering endpoint) := by
  unfold bannersSecond? at h
  split at h
  next he => cases h; exact he
  next => cases h

/-- Who kills such a process sees it gone, and what it had written in time is in the log when the restart
announces itself. -/
theorem killed_process_falls_silent :
    (∃ c, (Custody.spawned 2).after? killedWhileWriting = some c ∧ c.verdicts = [.killed] ∧
      c.process.exit = some .killed) ∧
    ∃ p endpoint, vacant.after? killedHistory = some p ∧
      p.bench.lifecycle? ⟨2⟩ = some (.restart, .bannering endpoint) ∧ p.bench.hasProcess 0 = true ∧
      (p.custody 0).process.log =
        [.output 1 [0x6F], .output 1 [0x6B], .exitLine .killed] ∧
      (p.custody 0).process.waitingOn 1 = [0x21] ∧
      IsConcluded .killed (p.custody 0).process.log := by
  obtain ⟨alone, restarts⟩ := processes_fall_silent
  obtain ⟨-, -, -, told, -⟩ := alone 2 killedWhileWriting _ rfl
  refine ⟨⟨_, rfl, rfl, told _ List.mem_cons_self⟩, ?_⟩
  have reached : (vacant.after? killedHistory).any (fun p =>
      p.bannersSecond?.isSome && p.bench.hasProcess 0 &&
        (p.custody 0).process.log = [.output 1 [0x6F], .output 1 [0x6B], .exitLine .killed] &&
        (p.custody 0).process.waitingOn 1 = [0x21] && (p.custody 0).process.exit = some .killed) =
        true := by
    decide +kernel
  obtain ⟨p, hp, hreached⟩ := (Option.any_eq_true _ _).1 reached
  simp only [Bool.and_eq_true, decide_eq_true_eq] at hreached
  obtain ⟨⟨⟨⟨hbanners, hprocess⟩, hlog⟩, hwaiting⟩, hexit⟩ := hreached
  obtain ⟨endpoint, hendpoint⟩ := Option.isSome_iff_exists.1 hbanners
  have hbannering := lifecycle?_of_bannersSecond? hendpoint
  obtain ⟨silent, -⟩ := restarts vacant killedHistory p ⟨2⟩ endpoint isFresh_vacant hp hbannering
  obtain ⟨e, he, concluded, -⟩ := silent 0 hprocess
  obtain rfl : e = .killed := Option.some.inj (he.symm.trans hexit)
  exact ⟨p, endpoint, hp, hbannering, hprocess, hlog, hwaiting, concluded⟩

end Premises

end LanguageClient
