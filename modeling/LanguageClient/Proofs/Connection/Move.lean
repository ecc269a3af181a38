import LanguageClient.Proofs.Connection.Exchange
import LanguageClient.Proofs.Connection.Reader
import LanguageClient.Proofs.Connection.Request

/-!
# Steps by what they do to ids and answers

`Exchange.Step` lists the steps of an exchange by who takes them.  Here they are listed by the event
that they are: a number is taken, an id is registered, a response is taken up, everything is answered,
an answer is returned, or nothing of this kind happens.

* `Exchange.Holds` — a request has been registered and has still to return what comes into its slot.
* **`Step.move`** — every step is a move, and bears the event that the move says.
-/

namespace LanguageClient.Exchange

/-- A request is registered with an id and a slot, and has neither returned nor been given up. -/
def Holds (x : Exchange) (task : TaskId) (id : UInt64) (slot : Nat) : Prop :=
  x.parties task = some (.asks (.writing id slot)) ∨
    ∃ deadline, x.parties task = some (.asks (.waiting id slot deadline))

/-- A request has a number that it has not registered yet. -/
def Registers (x : Exchange) (task : TaskId) (id : UInt64) : Prop :=
  x.parties task = some (.asks (.registering id))

/-- Nobody takes a number or registers one, and nobody holds more than before. -/
structure Lets (x x' : Exchange) : Prop where
  holds : ∀ task id slot, x'.Holds task id slot → x.Holds task id slot
  registers : ∀ task id, x'.Registers task id → x.Registers task id

/-- What a step does to ids and answers. -/
inductive Move (x x' : Exchange) : Option Event → Prop
  | numbers {task : TaskId} (hc : x'.connection = { x.connection with nextId := x.connection.nextId + 1 })
      (hp' : x'.parties task = some (.asks (.registering x.connection.nextId)))
      (others : ∀ other, other ≠ task → x'.parties other = x.parties other) :
      Move x x' (some (.numbered task x.connection.nextId))
  | registers {task : TaskId} {id : UInt64} (hp : x.Registers task id)
      (hc : x'.connection = x.connection.register id)
      (hp' : x'.parties task = some (.asks (.writing id x.connection.slots)))
      (others : ∀ other, other ≠ task → x'.parties other = x.parties other) :
      Move x x' (some (.registered task id x.connection.slots))
  | hears {r : Response} (hc : x'.connection = { x.connection.settle r with reader := .reading })
      (parties : x'.parties = x.parties) :
      Move x x' (some (.heard r (r.id.bind x.connection.claimant?)))
  | drains {code : Int32} {reason : String} {reader : ReaderPoint}
      (hc : x'.connection = { x.connection.drain code reason with reader }) (lets : x.Lets x') :
      Move x x' (some .drained)
  | returns {task : TaskId} {id : UInt64} {slot : Nat} {r : Response} (hp : x.Holds task id slot)
      (ha : x.connection.answers.get? slot = some r) (hc : x'.connection = x.connection.pickUp slot)
      (hp' : ∀ t, x'.parties task = some t → t.IsFirst)
      (others : ∀ other, other ≠ task → x'.parties other = x.parties other) :
      Move x x' (some (.returned task id slot r))
  | quiet (nextId : x'.connection.nextId = x.connection.nextId)
      (slots : x'.connection.slots = x.connection.slots)
      (pending : ∀ b, b ∈ x'.connection.pending → b ∈ x.connection.pending)
      (answers : x'.connection.answers = x.connection.answers) (lets : x.Lets x') : Move x x' none

/-! ## Parties -/

theorem Holds.congr {x x' : Exchange} {task : TaskId} {id : UInt64} {slot : Nat}
    (h : x'.Holds task id slot) (hp : x'.parties task = x.parties task) : x.Holds task id slot := by
  unfold Holds at h ⊢
  rwa [hp] at h

theorem not_holds_of_first {x : Exchange} {task : TaskId} {id : UInt64} {slot : Nat}
    (h : ∀ t, x.parties task = some t → t.IsFirst) : ¬ x.Holds task id slot := by
  rintro (ht | ⟨_, ht⟩)
  · have := h _ ht
    simp at this
  · have := h _ ht
    simp at this

theorem not_registers_of_first {x : Exchange} {task : TaskId} {id : UInt64}
    (h : ∀ t, x.parties task = some t → t.IsFirst) : ¬ x.Registers task id := by
  intro ht
  have := h _ ht
  simp at this

/-- Only one party does anything. -/
theorem Lets.of_others {x x' : Exchange} {task : TaskId}
    (others : ∀ other, other ≠ task → x'.parties other = x.parties other)
    (holds : ∀ id slot, x'.Holds task id slot → x.Holds task id slot)
    (registers : ∀ id, x'.Registers task id → x.Registers task id) : x.Lets x' where
  holds other id slot h := by
    by_cases e : other = task
    · subst e
      exact holds id slot h
    · exact h.congr (others other e)
  registers other id h := by
    by_cases e : other = task
    · subst e
      exact registers id h
    · exact (others other e).symm.trans h

theorem Lets.of_first {x x' : Exchange} {task : TaskId}
    (others : ∀ other, other ≠ task → x'.parties other = x.parties other)
    (hp' : ∀ t, x'.parties task = some t → t.IsFirst) : x.Lets x' :=
  .of_others others (fun _ _ h => absurd h (not_holds_of_first hp'))
    fun _ h => absurd h (not_registers_of_first hp')

theorem Lets.of_parties {x x' : Exchange} (h : x'.parties = x.parties) : x.Lets x' where
  holds _ _ _ ht := ht.congr (by rw [h])
  registers _ _ ht := (congrFun h _).symm.trans ht

/-! ## Every step is a move -/

/-- A step after which the connection is `c`, which has the same numbers, slots and answers. -/
theorem Move.of_eq {x x' : Exchange} {c : Connection} (hc : x'.connection = c)
    (nextId : c.nextId = x.connection.nextId) (slots : c.slots = x.connection.slots)
    (pending : ∀ b, b ∈ c.pending → b ∈ x.connection.pending)
    (answers : c.answers = x.connection.answers) (lets : x.Lets x') : x.Move x' none := by
  subst hc
  exact .quiet nextId slots pending answers lets

theorem move_asks {x x' : Exchange} {task : TaskId} {q : Query} {p p' : RequestPoint}
    (hp : x.parties task = some (.asks p))
    (h : RequestPoint.Goes q x.connection p x'.connection p')
    (hp' : x'.parties task = some (.asks p'))
    (others : ∀ other, other ≠ task → x'.parties other = x.parties other) :
    x.Move x' (x.event? (.party task)) := by
  generalize hc : x'.connection = c at h
  cases h with
  | begins _ =>
    rw [show x.event? (.party task) = none by rw [event?, hp]]
    refine .of_eq hc rfl rfl (fun _ => id) rfl (.of_others others ?_ ?_)
    · simp [Holds, hp']
    · simp [Registers, hp']
  | numbers =>
    rw [show x.event? (.party task) = some (.numbered task x.connection.nextId) by rw [event?, hp]]
    exact .numbers hc hp' others
  | @registers id =>
    rw [show x.event? (.party task) = some (.registered task id x.connection.slots) by
      rw [event?, hp]]
    exact .registers hp hc hp' others
  | @writes id slot deadline c hw =>
    have calm := Connection.calm_write hw
    rw [show x.event? (.party task) = none by rw [event?, hp]]
    refine .of_eq hc calm.nextId calm.slots (fun b hb => calm.pending ▸ hb) calm.answers
      (.of_others others ?_ ?_)
    · rintro id' slot' (ht | ⟨_, ht⟩) <;> rw [hp'] at ht <;> cases ht
      exact .inl hp
    · simp [Registers, hp']
  | refused _ =>
    rw [show x.event? (.party task) = none by rw [event?, hp]]
    refine .of_eq hc rfl rfl (fun _ => id) rfl (.of_others others ?_ ?_)
    · simp [Holds, hp']
    · simp [Registers, hp']
  | expires ha =>
    rw [show x.event? (.party task) = none by rw [event?, hp]; simp only [ha, Option.map_none]]
    refine .of_eq hc rfl rfl (fun _ => id) rfl (.of_others others ?_ ?_)
    · simp [Holds, hp']
    · simp [Registers, hp']

theorem move_asked {x x' : Exchange} {task : TaskId} {q : Query} {p : RequestPoint}
    {r : Except Failure Json} (hp : x.parties task = some (.asks p))
    (h : RequestPoint.Ends q x.connection p x'.connection r)
    (hp' : ∀ t, x'.parties task = some t → t.IsFirst)
    (others : ∀ other, other ≠ task → x'.parties other = x.parties other) :
    x.Move x' (x.event? (.party task)) := by
  have lets := Lets.of_first others hp'
  generalize hc : x'.connection = c at h
  cases h with
  | lost _ =>
    rw [show x.event? (.party task) = none by rw [event?, hp]]
    exact .of_eq hc rfl rfl (fun _ => id) rfl lets
  | @returns id slot deadline r ha =>
    rw [show x.event? (.party task) = some (.returned task id slot r) by
      rw [event?, hp]; simp only [ha, Option.map_some]]
    exact .returns (.inr ⟨_, hp⟩) ha hc hp' others
  | abandoned ha _ =>
    rw [show x.event? (.party task) = none by rw [event?, hp]; simp only [ha, Option.map_none]]
    exact .of_eq hc rfl rfl (fun _ => id) rfl lets
  | withdraws =>
    rw [show x.event? (.party task) = none by rw [event?, hp]]
    exact .of_eq hc rfl rfl (fun b hb => (Table.mem_erase.1 hb).1) rfl lets

theorem move_closes {x x' : Exchange} {task : TaskId} {reason : String} {p p' : ClosePoint}
    (hp : x.parties task = some (.closes p))
    (h : p.step reason x.connection = .goesOn x'.connection p')
    (hp' : x'.parties task = some (.closes p'))
    (others : ∀ other, other ≠ task → x'.parties other = x.parties other) :
    x.Move x' (x.event? (.party task)) := by
  have lets : x.Lets x' := .of_others others (by simp [Holds, hp']) (by simp [Registers, hp'])
  generalize hc : x'.connection = c at h
  cases p with
  | draining => cases h
  | _ =>
    cases h
    rw [show x.event? (.party task) = none by rw [event?, hp]]
    exact .of_eq hc rfl rfl (fun _ => id) rfl lets

theorem move_reads {x x' : Exchange} (h : Reader.Goes x.connection x'.connection)
    (parties : x'.parties = x.parties) : x.Move x' (x.event? .reader) := by
  have lets := Lets.of_parties parties
  generalize hc : x'.connection = c at h
  cases h with
  | settles hr =>
    rw [show x.event? .reader = some (.heard _ _) by rw [event?, hr]]
    exact .hears hc parties
  | drains hr =>
    rw [show x.event? .reader = some .drained by rw [event?, hr]]
    exact .drains hc lets
  | reads hr | fails hr | owes hr | tells hr _ | marks hr | takes hr | announces hr =>
    rw [show x.event? .reader = none by rw [event?, hr]]
    exact .of_eq hc rfl rfl (fun _ => id) rfl lets

/-- **Every step is a move.** -/
theorem Step.move {x x' : Exchange} {e : Option Event} (h : x.Step x' e) : x.Move x' e := by
  cases h with
  | asks hp h hp' others => exact move_asks hp (RequestPoint.goes_of_step h) hp' others
  | asked hp h hp' others => exact move_asked hp (RequestPoint.ends_of_step h) hp' others
  | closes hp h hp' others => exact move_closes hp h hp' others
  | @closed task reason p hp h hp' others =>
    obtain ⟨rfl, hc⟩ := ClosePoint.eq_drain_of_ends h
    rw [show x.event? (.party task) = some .drained by rw [event?, hp]]
    exact .drains hc (.of_first others hp')
  | reads h parties => exact move_reads (Reader.goes_of_step h) parties
  | stops h parties =>
    obtain ⟨_, hc⟩ := Reader.stop?_eq h
    exact .of_eq hc rfl rfl (fun _ => id) rfl (.of_parties parties)
  | calm h parties =>
    refine .quiet h.nextId h.slots (fun b hb => h.pending ▸ hb) h.answers ⟨?_, ?_⟩
    · intro task id slot ht
      rcases parties task with hp | ⟨_, hfirst⟩
      · exact ht.congr hp
      · exact absurd ht (not_holds_of_first hfirst)
    · intro task id ht
      rcases parties task with hp | ⟨_, hfirst⟩
      · exact hp.symm.trans ht
      · exact absurd ht (not_registers_of_first hfirst)

/-- Who holds a slot held it before, unless the slot is a new one. -/
theorem Move.holds_before {x x' : Exchange} {e : Option Event} (h : x.Move x' e) {task : TaskId}
    {id : UInt64} {slot : Nat} (holds' : x'.Holds task id slot) :
    x.Holds task id slot ∨
      (e = some (.registered task id slot) ∧ slot = x.connection.slots) := by
  cases h with
  | @numbers other _ hp' others =>
    refine .inl (holds'.congr (others task ?_))
    rintro rfl
    simp [Holds, hp'] at holds'
  | @registers other id' _ _ hp' others =>
    by_cases heq : task = other
    · subst heq
      rcases holds' with ht | ⟨_, ht⟩ <;> rw [hp'] at ht <;> cases ht
      exact .inr ⟨rfl, rfl⟩
    · exact .inl (holds'.congr (others task heq))
  | hears _ parties => exact .inl (holds'.congr (congrFun parties task))
  | drains _ lets => exact .inl (lets.holds task id slot holds')
  | @returns other _ _ _ _ _ _ hfirst others =>
    refine .inl (holds'.congr (others task ?_))
    rintro rfl
    exact not_holds_of_first hfirst holds'
  | quiet _ _ _ _ lets => exact .inl (lets.holds task id slot holds')

/-! ## Lists of events -/

/-- What has happened before remains where it was. -/
theorem getElem?_of_before {events : List Event} {i : Nat} {a : Event} (h : events[i]? = some a)
    (more : List Event) : (events ++ more)[i]? = some a := by
  rw [List.getElem?_append_left (List.getElem?_eq_some_iff.1 h).1, h]

/-- What has happened, happened before or just now. -/
theorem before_or_now {events : List Event} {e : Option Event} {i : Nat} {a : Event}
    (h : (events ++ e.toList)[i]? = some a) :
    events[i]? = some a ∨ (i = events.length ∧ e = some a) := by
  by_cases hi : i < events.length
  · rw [List.getElem?_append_left hi] at h
    exact .inl h
  · rw [List.getElem?_append_right (by omega)] at h
    cases e with
    | none => cases h
    | some e =>
      obtain ⟨hlt, he⟩ := List.getElem?_eq_some_iff.1 h
      simp only [Option.toList_some, List.length_singleton] at hlt
      simp only [Option.toList_some, List.getElem_singleton] at he
      exact .inr ⟨by omega, by rw [he]⟩

theorem getElem?_now (events : List Event) (e : Event) :
    (events ++ (some e).toList)[events.length]? = some e := by
  simp

end LanguageClient.Exchange
