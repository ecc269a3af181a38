import LanguageClient.Proofs.Client.Traffic
import LanguageClient.Proofs.Connection.Reader
import LanguageClient.Proofs.Connection.Request

/-!
# No request waits forever

A request registers its number and is written afterwards; whoever gives a connection up takes the
writing half first and answers what is pending afterwards.  Between these four steps anything can
happen, and a number may be registered after everything that was pending has been answered.  Nobody
will answer it.  But then the writing half is gone, so the request fails when it is written, and
withdraws its number.

* `Exchange.IsOver` — nothing can be written any more, and whatever is still pending belongs to a
  request that has still to fail or to withdraw.  Every step keeps it (`IsOver.step`).
* `Exchange.IsOrderly` — how far the reader and those who close the connection have come says what
  has been given up already: the writing half before anything is answered, and everything before a
  reader stops or a closing ends.  Every step keeps it (`IsOrderly.step`).
* **`no_request_is_orphaned`** — when the reader has stopped or the connection has been closed, and
  nobody on it can take a step, then nothing is pending, and no request is under way.  A request ends
  with its response or because it was given up, and one that registers too late always ends.
-/

namespace LanguageClient

namespace Exchange

/-! ## After everything was answered -/

/-- The request of a party has an id that it has still to write, or to withdraw. -/
def IsLate (x : Exchange) (task : TaskId) (id : UInt64) : Prop :=
  (∃ slot, x.parties task = some (.asks (.writing id slot))) ∨
    ∃ e, x.parties task = some (.asks (.withdrawing id e))

/-- The connection has been given up. -/
structure IsOver (x : Exchange) : Prop where
  writable : x.connection.writable = false
  late : ∀ id slot, (id, slot) ∈ x.connection.pending → ∃ task, x.IsLate task id

theorem IsLate.congr {x x' : Exchange} {task : TaskId} {id : UInt64} (h : x.IsLate task id)
    (hp : x'.parties task = x.parties task) : x'.IsLate task id := by
  unfold IsLate
  rwa [hp]

/-- A party that is not late with an id does not matter to those who are. -/
theorem IsLate.of_others {x x' : Exchange} {task other : TaskId} {id : UInt64}
    (h : x.IsLate other id) (others : ∀ t, t ≠ task → x'.parties t = x.parties t)
    (hp : ¬ x.IsLate task id) : x'.IsLate other id := by
  refine h.congr (others other ?_)
  rintro rfl
  exact hp h

/-- Nothing becomes pending, and who was late remains so. -/
theorem IsOver.of_pending {x x' : Exchange} (h : x.IsOver) (hk : x.connection.Keeps x'.connection)
    (hp : ∀ b, b ∈ x'.connection.pending → b ∈ x.connection.pending)
    (hl : ∀ task id, x.IsLate task id → x'.IsLate task id) : x'.IsOver where
  writable := hk.writable h.writable
  late id slot hb := by
    obtain ⟨task, ht⟩ := h.late id slot (hp _ hb)
    exact ⟨task, hl task id ht⟩

theorem isOver_asks {x x' : Exchange} {task : TaskId} {q : Query} {now : Nat} {p p' : RequestPoint}
    (hx : x.IsOver) (hp : x.parties task = some (.asks p))
    (h : p.step q now x.connection = .goesOn x'.connection p')
    (hp' : x'.parties task = some (.asks p'))
    (others : ∀ other, other ≠ task → x'.parties other = x.parties other) : x'.IsOver := by
  have keeps := p.step_keeps q now x.connection
  rw [h] at keeps
  -- Whoever was late and is not the party that steps remains so.
  have rest (hlate : ∀ id, ¬ x.IsLate task id) (other : TaskId) (id : UInt64)
      (ho : x.IsLate other id) : x'.IsLate other id := ho.of_others others (hlate id)
  have goes := RequestPoint.goes_of_step h
  generalize hc : x'.connection = c at goes keeps
  cases goes with
  | begins _ =>
    exact hx.of_pending (hc ▸ keeps) (fun b hb => hc ▸ hb) (rest fun id => by simp [IsLate, hp])
  | numbers =>
    exact hx.of_pending (hc ▸ keeps) (fun b hb => by rwa [hc] at hb)
      (rest fun id => by simp [IsLate, hp])
  | @registers id =>
    refine ⟨by rw [hc]; exact keeps.writable hx.writable, fun id' slot hb => ?_⟩
    rw [hc] at hb
    rcases Table.mem_set hb with he | hb
    · cases he
      exact ⟨task, .inl ⟨_, hp'⟩⟩
    · obtain ⟨other, ho⟩ := hx.late id' slot hb
      exact ⟨other, rest (fun id => by simp [IsLate, hp]) other id' ho⟩
  | writes hw =>
    rw [Connection.write_of_not_writable hx.writable] at hw
    cases hw
  | @refused id slot e hw =>
    refine hx.of_pending (hc ▸ keeps) (fun b hb => hc ▸ hb) fun other id' ho => ?_
    by_cases e : other = task
    · subst e
      rcases ho with ⟨_, ho⟩ | ⟨_, ho⟩
      · rw [hp] at ho
        cases ho
        exact .inr ⟨_, hp'⟩
      · rw [hp] at ho
        cases ho
    · exact ho.congr (others other e)
  | expires _ =>
    exact hx.of_pending (hc ▸ keeps) (fun b hb => hc ▸ hb) (rest fun id => by simp [IsLate, hp])

theorem isOver_asked {x x' : Exchange} {task : TaskId} {q : Query} {now : Nat} {p : RequestPoint}
    {r : Except Failure Json} (hx : x.IsOver) (hp : x.parties task = some (.asks p))
    (h : p.step q now x.connection = .ends x'.connection r)
    (others : ∀ other, other ≠ task → x'.parties other = x.parties other) : x'.IsOver := by
  have keeps := p.step_keeps q now x.connection
  rw [h] at keeps
  have rest (hlate : ∀ id, ¬ x.IsLate task id) (other : TaskId) (id : UInt64)
      (ho : x.IsLate other id) : x'.IsLate other id := ho.of_others others (hlate id)
  have ends := RequestPoint.ends_of_step h
  generalize hc : x'.connection = c at ends keeps
  cases ends with
  | lost _ =>
    exact hx.of_pending (hc ▸ keeps) (fun b hb => hc ▸ hb) (rest fun id => by simp [IsLate, hp])
  | returns _ =>
    exact hx.of_pending (hc ▸ keeps) (fun b hb => by rwa [hc] at hb)
      (rest fun id => by simp [IsLate, hp])
  | abandoned _ _ =>
    exact hx.of_pending (hc ▸ keeps) (fun b hb => hc ▸ hb) (rest fun id => by simp [IsLate, hp])
  | @withdraws id e =>
    -- The party was late with the id that it takes back, and with no other.
    refine ⟨by rw [hc]; exact keeps.writable hx.writable, fun id' slot hb => ?_⟩
    rw [hc] at hb
    obtain ⟨hb, hne⟩ := Table.mem_erase.1 hb
    obtain ⟨other, ho⟩ := hx.late id' slot hb
    refine ⟨other, ho.of_others others ?_⟩
    rintro (⟨_, ht⟩ | ⟨_, ht⟩) <;> rw [hp] at ht <;> cases ht
    exact hne rfl

theorem not_isLate_closes {x : Exchange} {task : TaskId} {p : ClosePoint}
    (hp : x.parties task = some (.closes p)) (id : UInt64) : ¬ x.IsLate task id := by
  simp [IsLate, hp]

/-- A closing makes nothing pending. -/
theorem pending_closes {reason : String} {p p' : ClosePoint} {c c' : Connection}
    (h : p.step reason c = .goesOn c' p') : c'.pending = c.pending := by
  cases p <;> cases h <;> rfl

/-- What has been given up remains so. -/
theorem IsOver.step {x x' : Exchange} {e : Option Event} (hx : x.IsOver) (h : x.Step x' e) :
    x'.IsOver := by
  cases h with
  | asks hp h hp' others => exact isOver_asks hx hp h hp' others
  | asked hp h _ others => exact isOver_asked hx hp h others
  | @closes task reason p p' hp h hp' others =>
    have keeps := p.step_keeps reason x.connection
    rw [h] at keeps
    refine hx.of_pending keeps (fun b hb => pending_closes h ▸ hb) fun other id ho => ?_
    exact ho.of_others others (not_isLate_closes hp id)
  | @closed task reason p hp h _ others =>
    obtain ⟨_, hc⟩ := ClosePoint.eq_drain_of_ends h
    refine ⟨by rw [hc]; exact hx.writable, fun id slot hb => ?_⟩
    rw [hc] at hb
    cases hb
  | reads h parties =>
    refine hx.of_pending (Reader.step?_keeps h) (fun b => (Reader.goes_of_step h).mem_pending) ?_
    exact fun task id ho => ho.congr (by rw [parties])
  | stops h parties =>
    obtain ⟨_, hc⟩ := Reader.stop?_eq h
    refine hx.of_pending (by rw [hc]; exact ⟨id, id, id⟩) (fun b hb => by rwa [hc] at hb) ?_
    exact fun task id ho => ho.congr (by rw [parties])
  | calm h parties =>
    refine hx.of_pending h.keeps (fun b hb => h.pending ▸ hb) fun task id ho => ?_
    rcases parties task with hp | ⟨hp, _⟩
    · exact ho.congr hp
    · simp [IsLate, hp] at ho

/-! ## How far it has come to give a connection up -/

/-- What has been given up already, at every point of the reader and of those who close. -/
structure IsOrderly (x : Exchange) : Prop where
  draining : x.connection.reader = .draining → x.connection.writable = false
  announcing : x.connection.reader = .announcing → x.IsOver
  stopped : x.connection.reader = .stopped → x.connection.closing = true ∨ x.IsOver
  aborted : x.connection.readerAborted = true → x.connection.closing = true
  closing : x.connection.closing = true →
    x.IsOver ∨ ∃ task p, x.parties task = some (.closes p) ∧ p ≠ .flagging
  closes : ∀ task p, x.parties task = some (.closes p) → p ≠ .flagging →
    x.connection.closing = true
  closeDraining : ∀ task, x.parties task = some (.closes .draining) → x.connection.writable = false
  withdrawing : ∀ task id e, x.parties task = some (.asks (.withdrawing id e)) → e.GivesUp

theorem IsFresh.isOrderly {x : Exchange} (h : x.IsFresh) : x.IsOrderly := by
  obtain ⟨⟨link, hc⟩, hp⟩ := h
  refine ⟨?_, ?_, ?_, ?_, ?_, fun task p ht hne => ?_, fun task ht => ?_, fun task id e ht => ?_⟩
  · rw [hc]; exact nofun
  · rw [hc]; exact nofun
  · rw [hc]; exact nofun
  · rw [hc]; exact nofun
  · rw [hc]; exact nofun
  · exact absurd (Traffic.isFirst_closes.1 (hp task _ ht)) hne
  · have := hp task _ ht
    simp at this
  · have := hp task _ ht
    simp at this

/-- A step that changes nothing of what the reader and those who close the connection have given up,
and no closing that has begun. -/
theorem IsOrderly.of_quiet {x x' : Exchange} (hx : x.IsOrderly)
    (quiet : x.connection.Quiet x'.connection) (isOver : x.IsOver → x'.IsOver)
    (closes : ∀ task p, p ≠ .flagging →
      (x'.parties task = some (.closes p) ↔ x.parties task = some (.closes p)))
    (withdrawing : ∀ task id e, x'.parties task = some (.asks (.withdrawing id e)) → e.GivesUp) :
    x'.IsOrderly where
  draining h := by rw [quiet.writable]; exact hx.draining (quiet.reader ▸ h)
  announcing h := isOver (hx.announcing (quiet.reader ▸ h))
  stopped h := by rw [quiet.closing]; exact (hx.stopped (quiet.reader ▸ h)).imp id isOver
  aborted h := by rw [quiet.closing]; exact hx.aborted (quiet.readerAborted ▸ h)
  closing h := by
    rcases hx.closing (quiet.closing ▸ h) with ho | ⟨task, p, hp, hne⟩
    · exact .inl (isOver ho)
    · exact .inr ⟨task, p, (closes task p hne).2 hp, hne⟩
  closes task p h hne := by rw [quiet.closing]; exact hx.closes task p ((closes task p hne).1 h) hne
  closeDraining task h := by
    rw [quiet.writable]
    exact hx.closeDraining task ((closes task .draining nofun).1 h)
  withdrawing := withdrawing

theorem isOrderly_asks {x x' : Exchange} {task : TaskId} {q : Query} {now : Nat}
    {p p' : RequestPoint} (hx : x.IsOrderly) (hp : x.parties task = some (.asks p))
    (h : p.step q now x.connection = .goesOn x'.connection p')
    (hp' : x'.parties task = some (.asks p'))
    (others : ∀ other, other ≠ task → x'.parties other = x.parties other) : x'.IsOrderly := by
  have goes := RequestPoint.goes_of_step h
  refine hx.of_quiet goes.quiet (isOver_asks · hp h hp' others) ?_ ?_
  · intro other p _
    by_cases heq : other = task
    · subst heq
      simp [hp, hp']
    · rw [others other heq]
  · intro other id e ho
    by_cases heq : other = task
    · subst heq
      rw [hp'] at ho
      cases ho
      exact goes.givesUp
    · rw [others other heq] at ho
      exact hx.withdrawing other id e ho

theorem isOrderly_asked {x x' : Exchange} {task : TaskId} {q : Query} {now : Nat}
    {p : RequestPoint} {r : Except Failure Json} (hx : x.IsOrderly)
    (hp : x.parties task = some (.asks p)) (h : p.step q now x.connection = .ends x'.connection r)
    (hp' : ∀ t, x'.parties task = some t → t.IsFirst)
    (others : ∀ other, other ≠ task → x'.parties other = x.parties other) : x'.IsOrderly := by
  refine hx.of_quiet (RequestPoint.ends_of_step h).quiet (isOver_asked · hp h others) ?_ ?_
  · intro other p hne
    by_cases heq : other = task
    · subst heq
      rw [hp]
      refine ⟨fun ho => absurd (Traffic.isFirst_closes.1 (hp' _ ho)) hne, nofun⟩
    · rw [others other heq]
  · intro other id e ho
    rw [others other (by rintro rfl; have := hp' _ ho; simp at this)] at ho
    exact hx.withdrawing other id e ho

theorem isOrderly_closes {x x' : Exchange} {task : TaskId} {reason : String} {p p' : ClosePoint}
    (hx : x.IsOrderly) (isOver : x.IsOver → x'.IsOver) (hp : x.parties task = some (.closes p))
    (h : p.step reason x.connection = .goesOn x'.connection p')
    (hp' : x'.parties task = some (.closes p'))
    (others : ∀ other, other ≠ task → x'.parties other = x.parties other) : x'.IsOrderly := by
  have withdrawing (other : TaskId) (id : UInt64) (e : Failure)
      (ho : x'.parties other = some (.asks (.withdrawing id e))) : e.GivesUp := by
    rw [others other (by rintro rfl; rw [hp'] at ho; cases ho)] at ho
    exact hx.withdrawing other id e ho
  generalize hc : x'.connection = c at h
  -- Every step but the last leaves this closing in the middle.
  have hne : p' ≠ .flagging := by cases p <;> cases h <;> exact nofun
  have closing (_ : x'.connection.closing = true) : x'.IsOver ∨ ∃ task p,
      x'.parties task = some (.closes p) ∧ p ≠ .flagging := .inr ⟨task, p', hp', hne⟩
  cases p with
  | flagging =>
    cases h
    refine ⟨?_, ?_, ?_, ?_, closing, ?_, fun other ho => ?_, withdrawing⟩
    · rw [hc]; exact hx.draining
    · rw [hc]; exact isOver ∘ hx.announcing
    · rw [hc]; exact fun _ => .inl rfl
    · rw [hc]; exact fun _ => rfl
    · rw [hc]; exact fun _ _ _ _ => rfl
    · rw [others other (by rintro rfl; rw [hp'] at ho; cases ho)] at ho
      rw [hc]
      exact hx.closeDraining other ho
  | stoppingReader =>
    cases h
    have hclosing := hx.closes task _ hp nofun
    refine ⟨?_, ?_, ?_, ?_, closing, ?_, fun other ho => ?_, withdrawing⟩
    · rw [hc]; exact hx.draining
    · rw [hc]; exact isOver ∘ hx.announcing
    · rw [hc]; exact fun _ => .inl hclosing
    · rw [hc]; exact fun _ => hclosing
    · rw [hc]; exact fun _ _ _ _ => hclosing
    · rw [others other (by rintro rfl; rw [hp'] at ho; cases ho)] at ho
      rw [hc]
      exact hx.closeDraining other ho
  | takingWriter =>
    cases h
    have hclosing := hx.closes task _ hp nofun
    refine ⟨?_, ?_, ?_, ?_, closing, ?_, fun other ho => ?_, withdrawing⟩
    · rw [hc]; exact fun _ => rfl
    · rw [hc]; exact isOver ∘ hx.announcing
    · rw [hc]; exact fun _ => .inl hclosing
    · rw [hc]; exact fun _ => hclosing
    · rw [hc]; exact fun _ _ _ _ => hclosing
    · rw [hc]; rfl
  | draining => cases h

theorem isOrderly_closed {x x' : Exchange} {task : TaskId} {reason : String} {p : ClosePoint}
    (hx : x.IsOrderly) (hp : x.parties task = some (.closes p))
    (h : p.step reason x.connection = .ends x'.connection ())
    (hp' : ∀ t, x'.parties task = some t → t.IsFirst)
    (others : ∀ other, other ≠ task → x'.parties other = x.parties other) : x'.IsOrderly := by
  obtain ⟨rfl, hc⟩ := ClosePoint.eq_drain_of_ends h
  -- The writing half was taken before, and now nothing is pending.
  have hwritable : x'.connection.writable = false := by rw [hc]; exact hx.closeDraining task hp
  have isOver : x'.IsOver := ⟨hwritable, fun id slot hb => by rw [hc] at hb; cases hb⟩
  refine ⟨fun _ => hwritable, fun _ => isOver, fun _ => .inr isOver, ?_, fun _ => .inl isOver, ?_,
    fun _ _ => hwritable, fun other id e ho => ?_⟩
  · rw [hc]; exact hx.aborted
  · intro _ _ _ _
    rw [hc]
    exact hx.closes task _ hp nofun
  · rw [others other (by rintro rfl; have := hp' _ ho; simp at this)] at ho
    exact hx.withdrawing other id e ho

/-- A step of the reader: what it has given up has to be looked at afresh. -/
theorem IsOrderly.of_reader {x x' : Exchange} (hx : x.IsOrderly) (isOver : x.IsOver → x'.IsOver)
    (keeps : x.connection.Keeps x'.connection)
    (closing : x'.connection.closing = x.connection.closing)
    (aborted : x'.connection.readerAborted = x.connection.readerAborted)
    (parties : x'.parties = x.parties)
    (draining : x'.connection.reader = .draining → x'.connection.writable = false)
    (announcing : x'.connection.reader = .announcing → x'.IsOver)
    (stopped : x'.connection.reader = .stopped → x'.connection.closing = true ∨ x'.IsOver) :
    x'.IsOrderly where
  draining := draining
  announcing := announcing
  stopped := stopped
  aborted h := by rw [closing]; exact hx.aborted (aborted ▸ h)
  closing h := by rw [parties]; exact (hx.closing (closing ▸ h)).imp isOver id
  closes := by rw [parties, closing]; exact hx.closes
  closeDraining task h := keeps.writable (hx.closeDraining task (parties ▸ h))
  withdrawing := by rw [parties]; exact hx.withdrawing

theorem isOrderly_reads {x x' : Exchange} (hx : x.IsOrderly) (isOver : x.IsOver → x'.IsOver)
    (keeps : x.connection.Keeps x'.connection) (h : Reader.Goes x.connection x'.connection)
    (parties : x'.parties = x.parties) : x'.IsOrderly := by
  obtain ⟨hclosing, haborted⟩ := h.closing
  refine hx.of_reader isOver keeps hclosing haborted parties h.draining (fun hr => ?_) fun hr => ?_
  · obtain ⟨hd, hw, hnil⟩ := h.announcing hr
    refine ⟨hw.trans (hx.draining hd), fun id slot hb => ?_⟩
    rw [hnil] at hb
    cases hb
  · rw [hclosing]
    rcases h.stopped hr with hc | ha
    · exact .inl hc
    · exact .inr (isOver (hx.announcing ha))

/-- **How far it has come says what has been given up.** -/
theorem IsOrderly.step {x x' : Exchange} {e : Option Event} (hx : x.IsOrderly) (h : x.Step x' e) :
    x'.IsOrderly := by
  have isOver (ho : x.IsOver) : x'.IsOver := ho.step h
  cases h with
  | asks hp h hp' others => exact isOrderly_asks hx hp h hp' others
  | asked hp h hp' others => exact isOrderly_asked hx hp h hp' others
  | closes hp h hp' others => exact isOrderly_closes hx isOver hp h hp' others
  | closed hp h hp' others => exact isOrderly_closed hx hp h hp' others
  | reads h parties =>
    exact isOrderly_reads hx isOver (Reader.step?_keeps h) (Reader.goes_of_step h) parties
  | stops h parties =>
    obtain ⟨ha, hc⟩ := Reader.stop?_eq h
    refine hx.of_reader isOver ?_ ?_ ?_ parties ?_ ?_ fun _ => ?_
    · rw [hc]; exact ⟨id, id, id⟩
    · rw [hc]
    · rw [hc]
    · rw [hc]; exact nofun
    · rw [hc]; exact nofun
    · rw [hc]; exact .inl (hx.aborted ha)
  | calm h parties =>
    refine hx.of_quiet h.quiet isOver (fun task p hne => ?_) fun task id e ht => ?_
    · rcases parties task with hp | ⟨hp, hfirst⟩
      · rw [hp]
      · rw [hp]
        refine ⟨fun ho => absurd (Traffic.isFirst_closes.1 (hfirst _ ho)) hne, nofun⟩
    · rcases parties task with hp | ⟨hp, hfirst⟩
      · rw [hp] at ht
        exact hx.withdrawing task id e ht
      · have := hfirst _ ht
        simp at this

/-- When the reader has stopped or the connection is being closed, and nobody is in the middle of
closing it, the connection is over. -/
theorem IsOrderly.isOver {x : Exchange} (hx : x.IsOrderly)
    (h : x.connection.reader = .stopped ∨ x.connection.closing = true)
    (hclose : ∀ task p, x.parties task ≠ some (.closes p)) : x.IsOver := by
  have closing (hc : x.connection.closing = true) : x.IsOver := by
    rcases hx.closing hc with ho | ⟨task, p, hp, _⟩
    · exact ho
    · exact absurd hp (hclose task p)
  rcases h with hr | hc
  · exact (hx.stopped hr).elim closing id
  · exact closing hc

/-- Where everything has been answered once, nothing can be written. -/
theorem IsOrderly.writable_of_drained {events : List Event} {x x' : Exchange} {e : Option Event}
    (hx : x.IsOrderly) (hd : .drained ∈ events → x.connection.writable = false)
    (h : x.Step x' e) (hmem : .drained ∈ events ++ e.toList) : x'.connection.writable = false := by
  refine h.keeps.writable ?_
  rcases List.mem_append.1 hmem with hmem | hmem
  · exact hd hmem
  · cases e with
    | none => cases hmem
    | some e =>
      obtain rfl : .drained = e := by simpa using hmem
      obtain ⟨a, ha⟩ := h.actor
      rcases event?_eq_drained ha with ⟨task, hp⟩ | hr
      · exact hx.closeDraining task hp
      · exact hx.draining hr

/-- **Nobody is left behind.**  When a connection is over and everybody on it waits, nothing is
pending and nobody is on it. -/
theorem IsOver.rest {x : Exchange} (hx : x.IsOver)
    (rest : ∀ task t, x.parties task = some t →
      ∃ q now p, t = .asks p ∧ RequestPoint.step q now x.connection p = .waits) :
    x.connection.pending = [] ∧ ∀ task, x.parties task = none := by
  have hnil : x.connection.pending = [] := by
    rw [List.eq_nil_iff_forall_not_mem]
    rintro ⟨id, slot⟩ hb
    -- Whose id it is could take a step.
    obtain ⟨task, ⟨slot, ht⟩ | ⟨e, ht⟩⟩ := hx.late id slot hb
    · obtain ⟨q, now, p, hp, hw⟩ := rest task _ ht
      cases hp
      obtain ⟨_, _, _, hp, _⟩ := RequestPoint.waits_of_step hw
      cases hp
    · obtain ⟨q, now, p, hp, hw⟩ := rest task _ ht
      cases hp
      obtain ⟨_, _, _, hp, _⟩ := RequestPoint.waits_of_step hw
      cases hp
  refine ⟨hnil, fun task => ?_⟩
  cases ht : x.parties task with
  | none => rfl
  | some t =>
    obtain ⟨q, now, p, _, hw⟩ := rest task t ht
    exact absurd hw (RequestPoint.not_waits_of_pending_nil hnil)

end Exchange

open Exchange

namespace Workbench

/-- **No request is orphaned**, on any line, after any history that begins with a fresh workbench.

When the reader has stopped or somebody has closed the connection, and no call that is on the line
can take a step, then nothing is pending and no call is in the middle of anything on the line: every
request has returned.  Whenever a request returns, it is with what is in its slot, or because the
connection was lost, the request was given up, the stream failed or its time was up.  And once
everything that was pending has been answered, a request that has yet to be written fails, and then
takes its own number back. -/
theorem no_request_is_orphaned {w₀ w : Workbench} {hs : List Happening} (h₀ : w₀.IsFresh)
    (h : w₀.after? hs = some w) {n : Nat} {l : Line} (hl : w.client.session.line? n = some l) :
    ((l.connection.reader = .stopped ∨ l.connection.closing = true) →
      (∀ task t, w.place? task = some (n, t) → w.act? (.call task) = none) →
      l.connection.pending = [] ∧ ∀ task t, w.place? task ≠ some (n, t)) ∧
    (∀ task p q now c r, w.place? task = some (n, .asks p) →
      p.step q now l.connection = .ends c r →
      (∃ id slot deadline a, p = .waiting id slot deadline ∧
        l.connection.answers.get? slot = some a ∧
        r = a.outcome.mapError Failure.ofResponseError) ∨
      ∃ e, r = .error e ∧ e.EndsRequest) ∧
    (.drained ∈ w₀.trace n hs → ∀ q now id,
      (∀ slot, RequestPoint.step q now l.connection (.writing id slot) =
        .goesOn l.connection (.withdrawing id .terminated)) ∧
      ∀ e, RequestPoint.step q now l.connection (.withdrawing id e) =
          .ends (l.connection.withdraw id) (.error e) ∧
        (l.connection.withdraw id).pending.get? id = none) := by
  have hx : w.exchange? n = some ⟨l.connection, w.traffic? n⟩ := by rw [exchange?, hl]; rfl
  have sound := sound_after? h₀ h
  obtain ⟨orderly, drained⟩ := exchange_induction
    (P := fun events x => x.IsOrderly ∧ (.drained ∈ events → x.connection.writable = false))
    (fun x hx => ⟨hx.isOrderly, fun hd => absurd hd List.not_mem_nil⟩)
    (fun events x x' e hx hstep => ⟨hx.1.step hstep, hx.1.writable_of_drained hx.2 hstep⟩) h₀ h hx
  refine ⟨fun hover hrest => ?_, ?_, ?_⟩
  · have rest (task : TaskId) (t : Traffic) (ht : w.traffic? n task = some t) :
        ∃ q now p, t = .asks p ∧ RequestPoint.step q now l.connection p = .waits := by
      have hp := traffic?_eq_some.1 ht
      obtain ⟨q, p, he, hw⟩ := waits_of_act? sound hp hl (hrest task t hp)
      exact ⟨q, _, p, he, hw⟩
    have isOver := orderly.isOver hover fun task p hp => by
      obtain ⟨_, _, _, he, _⟩ := rest task _ hp
      cases he
    obtain ⟨hnil, hnone⟩ := isOver.rest rest
    refine ⟨hnil, fun task t hp => ?_⟩
    have ht := traffic?_eq_some.2 hp
    rw [show w.traffic? n task = none from hnone task] at ht
    cases ht
  · intro task p q now c r hp hstep
    have ends := RequestPoint.ends_of_step hstep
    cases ends with
    | lost _ => exact .inr ⟨_, rfl, trivial⟩
    | returns ha => exact .inl ⟨_, _, _, _, rfl, ha, rfl⟩
    | abandoned _ _ => exact .inr ⟨_, rfl, trivial⟩
    | @withdraws id e =>
      exact .inr ⟨e, rfl, (orderly.withdrawing task id e (traffic?_eq_some.2 hp)).endsRequest⟩
  · intro hd q now id
    refine ⟨fun slot => ?_, fun e => ⟨rfl, ?_⟩⟩
    · rw [RequestPoint.step, Connection.write_of_not_writable (drained hd)]
    · exact (Table.get?_erase _ id id).trans (if_pos rfl)

/-- A call takes a number and registers it when the connection has been closed by another call. -/
def lateHistory : List Happening :=
  [.calls (.request { method := "workspace/symbol" } (.on 0 .beginning)), .goesOn (.call ⟨1⟩),
    .goesOn (.call ⟨1⟩), .calls (.close 0 "bye" .flagging), .goesOn (.call ⟨2⟩),
    .goesOn (.call ⟨2⟩), .goesOn (.call ⟨2⟩), .goesOn (.call ⟨2⟩), .goesOn (.call ⟨1⟩),
    .goesOn (.call ⟨1⟩), .goesOn (.call ⟨1⟩)]

theorem no_late_request_is_orphaned :
    ∃ w l, withLine.after? lateHistory = some w ∧ w.client.session.line? 0 = some l ∧
      l.connection.closing = true ∧ l.connection.pending = [] ∧
      ∀ task t, w.place? task ≠ some (0, t) := by
  refine ⟨_, _, rfl, rfl, rfl, ?_⟩
  exact (@no_request_is_orphaned _ _ lateHistory isFresh_withLine rfl 0 _ rfl).1 (.inr rfl)
    fun task t ht => by cases ht

end Workbench

end LanguageClient
