import LanguageClient.Proofs.Connection.Move
import Mathlib.Algebra.Group.Nat.Defs
import Mathlib.Data.List.Nodup

/-!
# The numbers of requests

Numbers count up from one and run out after `2 ^ 64` of them.  As long as they have not run out, a
number belongs to one request.

* `Exchange.numbers` and `Exchange.registrations` — the numbers that were taken and those that were
  registered, the first one first.
* `Exchange.IsNumbered` — how the numbers taken so far are related to the connection and its parties.
  Every step keeps it (`IsNumbered.step`).
* **`IsNumbered.nodup`** — among fewer than `2 ^ 64` numbers there are no two alike.
-/

namespace LanguageClient.Exchange

def Event.number? : Event → Option UInt64
  | numbered _ id => some id
  | _ => none

def Event.registration? : Event → Option UInt64
  | registered _ id _ => some id
  | _ => none

/-- The numbers that were taken. -/
def numbers (events : List Event) : List UInt64 := events.filterMap Event.number?

/-- The numbers that were registered. -/
def registrations (events : List Event) : List UInt64 := events.filterMap Event.registration?

/-- The number that is taken after `k` others. -/
def idAfter (k : Nat) : UInt64 := UInt64.ofNat (k + 1)

theorem idAfter_succ (k : Nat) : idAfter (k + 1) = idAfter k + 1 := by
  rw [idAfter, idAfter, UInt64.ofNat_add (k + 1) 1]
  rfl

/-- Numbers do not come back before they have run out. -/
theorem idAfter_inj {k m : Nat} (hk : k < 2 ^ 64) (hm : m < 2 ^ 64) (h : idAfter k = idAfter m) :
    k = m := by
  have h := congrArg UInt64.toNat h
  simp only [idAfter, UInt64.toNat_ofNat'] at h
  omega

@[simp] theorem numbers_append (events more : List Event) :
    numbers (events ++ more) = numbers events ++ numbers more := List.filterMap_append

@[simp] theorem registrations_append (events more : List Event) :
    registrations (events ++ more) = registrations events ++ registrations more :=
  List.filterMap_append

theorem mem_numbers {events : List Event} {id : UInt64} :
    id ∈ numbers events ↔ ∃ task, .numbered task id ∈ events := by
  rw [numbers, List.mem_filterMap]
  constructor
  · rintro ⟨e, he, hid⟩
    cases e with
    | numbered task id' => cases hid; exact ⟨task, he⟩
    | _ => cases hid
  · rintro ⟨task, he⟩
    exact ⟨_, he, rfl⟩

theorem mem_registrations {events : List Event} {id : UInt64} :
    id ∈ registrations events ↔ ∃ task slot, .registered task id slot ∈ events := by
  rw [registrations, List.mem_filterMap]
  constructor
  · rintro ⟨e, he, hid⟩
    cases e with
    | registered task id' slot => cases hid; exact ⟨task, slot, he⟩
    | _ => cases hid
  · rintro ⟨task, slot, he⟩
    exact ⟨_, he, rfl⟩

/-- A number that was taken only once was taken by one party. -/
theorem eq_of_mem_numbered {events : List Event} (h : (numbers events).Nodup) {id : UInt64}
    {task task' : TaskId} (ht : Event.numbered task id ∈ events)
    (ht' : Event.numbered task' id ∈ events) : task = task' := by
  induction events with
  | nil => cases ht
  | cons e events ih =>
    rw [← List.singleton_append, numbers_append] at h
    obtain ⟨_, tail, apart⟩ := List.nodup_append.1 h
    -- If one of the two is the first event, its number does not come again.
    have head {task task' : TaskId} (he : .numbered task id = e)
        (hmem : .numbered task' id ∈ events) : False := by
      subst he
      exact apart id (List.mem_singleton.2 rfl) id (mem_numbers.2 ⟨task', hmem⟩) rfl
    rcases List.mem_cons.1 ht with he | hmem
    · rcases List.mem_cons.1 ht' with he' | hmem'
      · cases he.trans he'.symm
        rfl
      · exact (head he hmem').elim
    · rcases List.mem_cons.1 ht' with he' | hmem'
      · exact (head he' hmem).elim
      · exact ih tail hmem hmem'

/-- The numbers that were taken, and who has registered them and who has not. -/
structure IsNumbered (events : List Event) (x : Exchange) : Prop where
  counted : numbers events = (List.range (numbers events).length).map idAfter
  nextId : x.connection.nextId = idAfter (numbers events).length
  registering : ∀ task id, x.Registers task id → Event.numbered task id ∈ events
  registered : ∀ (i : Nat) task id slot, events[i]? = some (Event.registered task id slot) →
    ∃ j < i, events[j]? = some (Event.numbered task id)
  /-- As long as no number comes back, whoever has yet to register one is the first to do so. -/
  unregistered : (numbers events).Nodup → ∀ task id, x.Registers task id → id ∉ registrations events
  once : (numbers events).Nodup → (registrations events).Nodup

theorem IsFresh.isNumbered {x : Exchange} (h : x.IsFresh) : IsNumbered [] x := by
  obtain ⟨⟨link, hc⟩, hp⟩ := h
  refine ⟨rfl, ?_, ?_, fun _ _ _ _ => nofun, fun _ _ _ _ => nofun, fun _ => .nil⟩
  · rw [hc]
    rfl
  · intro task id ht
    exact absurd ht (not_registers_of_first (hp task))

/-- **Among fewer than `2 ^ 64` numbers there are no two alike.** -/
theorem IsNumbered.nodup {events : List Event} {x : Exchange} (h : IsNumbered events x)
    (hlt : (numbers events).length < 2 ^ 64) : (numbers events).Nodup := by
  rw [h.counted]
  refine List.Nodup.map_on (fun k hk m hm heq => ?_) List.nodup_range
  rw [List.mem_range] at hk hm
  exact idAfter_inj (by omega) (by omega) heq

/-- What was registered before was numbered before that. -/
theorem IsNumbered.registered_before {events : List Event} {x : Exchange} (h : IsNumbered events x)
    {i : Nat} {task : TaskId} {id : UInt64} {slot : Nat}
    (hi : events[i]? = some (.registered task id slot)) (more : List Event) :
    ∃ j < i, (events ++ more)[j]? = some (Event.numbered task id) := by
  obtain ⟨j, hj, hn⟩ := h.registered i task id slot hi
  exact ⟨j, hj, getElem?_of_before hn more⟩

/-- A step by which no number is taken or registered. -/
theorem IsNumbered.of_other {events : List Event} {x x' : Exchange} {e : Option Event}
    (h : IsNumbered events x) (hn : numbers e.toList = []) (hr : registrations e.toList = [])
    (nextId : x'.connection.nextId = x.connection.nextId)
    (lets : ∀ task id, x'.Registers task id → x.Registers task id) :
    IsNumbered (events ++ e.toList) x' := by
  refine ⟨?_, ?_, ?_, ?_, ?_, ?_⟩
  · simpa [hn] using h.counted
  · simpa [hn, nextId] using h.nextId
  · exact fun task id ht => List.mem_append_left _ (h.registering task id (lets task id ht))
  · intro i task id slot hi
    rcases before_or_now hi with hi | ⟨_, rfl⟩
    · exact h.registered_before hi _
    · cases hr
  · simpa [hn, hr] using fun hd task id ht => h.unregistered hd task id (lets task id ht)
  · simpa [hn, hr] using h.once

/-- A number is taken. -/
theorem IsNumbered.of_numbers {events : List Event} {x x' : Exchange} {task : TaskId}
    (h : IsNumbered events x)
    (hc : x'.connection = { x.connection with nextId := x.connection.nextId + 1 })
    (hp' : x'.parties task = some (.asks (.registering x.connection.nextId)))
    (others : ∀ other, other ≠ task → x'.parties other = x.parties other) :
    IsNumbered (events ++ (some (Event.numbered task x.connection.nextId)).toList) x' := by
  have hn : numbers (some (Event.numbered task x.connection.nextId)).toList = [x.connection.nextId] :=
    rfl
  have hr : registrations (some (Event.numbered task x.connection.nextId)).toList = [] := rfl
  have registers (other : TaskId) (id : UInt64) (ht : x'.Registers other id) :
      (other = task ∧ id = x.connection.nextId) ∨ x.Registers other id := by
    by_cases e : other = task
    · subst e
      have : some (Traffic.asks (.registering id)) = some (.asks (.registering x.connection.nextId)) :=
        ht.symm.trans hp'
      exact .inl ⟨rfl, by simpa using this⟩
    · exact .inr ((others other e).symm.trans ht)
  refine ⟨?_, ?_, ?_, ?_, ?_, ?_⟩
  · rw [numbers_append, hn, List.length_append, List.length_singleton, List.range_succ,
      List.map_append, ← h.counted, h.nextId]
    rfl
  · rw [hc, numbers_append, hn, List.length_append, List.length_singleton, idAfter_succ, ← h.nextId]
  · intro other id ht
    rcases registers other id ht with ⟨rfl, rfl⟩ | ht
    · simp
    · exact List.mem_append_left _ (h.registering other id ht)
  · intro i other id slot hi
    rcases before_or_now hi with hi | ⟨_, he⟩
    · exact h.registered_before hi _
    · cases he
  · intro hd other id ht hmem
    rw [registrations_append, hr, List.append_nil] at hmem
    rw [numbers_append, hn] at hd
    obtain ⟨hold, _, apart⟩ := List.nodup_append.1 hd
    rcases registers other id ht with ⟨rfl, rfl⟩ | ht
    · -- What was registered was taken before, and the new number was not.
      obtain ⟨task', slot, hreg⟩ := mem_registrations.1 hmem
      obtain ⟨i, hi⟩ := List.mem_iff_getElem?.1 hreg
      obtain ⟨j, _, hj⟩ := h.registered i task' _ slot hi
      have htaken := mem_numbers.2 ⟨task', List.mem_of_getElem? hj⟩
      exact apart _ htaken _ (List.mem_singleton.2 rfl) rfl
    · exact h.unregistered hold other id ht hmem
  · intro hd
    rw [registrations_append, hr, List.append_nil]
    rw [numbers_append] at hd
    exact h.once (List.nodup_append.1 hd).1

/-- A number is registered. -/
theorem IsNumbered.of_registers {events : List Event} {x x' : Exchange} {task : TaskId} {id : UInt64}
    (h : IsNumbered events x) (hp : x.Registers task id)
    (hc : x'.connection = x.connection.register id)
    (hp' : x'.parties task = some (.asks (.writing id x.connection.slots)))
    (others : ∀ other, other ≠ task → x'.parties other = x.parties other) :
    IsNumbered (events ++ (some (Event.registered task id x.connection.slots)).toList) x' := by
  have hn : numbers (some (Event.registered task id x.connection.slots)).toList = [] := rfl
  have hr : registrations (some (Event.registered task id x.connection.slots)).toList = [id] := rfl
  have registers (other : TaskId) (id' : UInt64) (ht : x'.Registers other id') :
      other ≠ task ∧ x.Registers other id' := by
    by_cases e : other = task
    · subst e
      rw [Registers, hp'] at ht
      cases ht
    · exact ⟨e, (others other e).symm.trans ht⟩
  refine ⟨?_, ?_, ?_, ?_, ?_, ?_⟩
  · rw [numbers_append, hn, List.append_nil]
    exact h.counted
  · rw [hc, numbers_append, hn, List.append_nil]
    exact h.nextId
  · exact fun other id' ht =>
      List.mem_append_left _ (h.registering other id' (registers other id' ht).2)
  · intro i other id' slot hi
    rcases before_or_now hi with hi | ⟨rfl, he⟩
    · exact h.registered_before hi _
    · cases he
      obtain ⟨j, hj⟩ := List.mem_iff_getElem?.1 (h.registering task id hp)
      exact ⟨j, (List.getElem?_eq_some_iff.1 hj).1, getElem?_of_before hj _⟩
  · intro hd other id' ht hmem
    rw [numbers_append, hn, List.append_nil] at hd
    obtain ⟨hne, ht⟩ := registers other id' ht
    rw [registrations_append, hr] at hmem
    rcases List.mem_append.1 hmem with hmem | hmem
    · exact h.unregistered hd other id' ht hmem
    · cases List.mem_singleton.1 hmem
      exact hne (eq_of_mem_numbered hd (h.registering other _ ht) (h.registering task _ hp))
  · intro hd
    rw [numbers_append, hn, List.append_nil] at hd
    rw [registrations_append, hr]
    refine List.nodup_append.2 ⟨h.once hd, List.nodup_singleton id, fun id' hid' _ hmem => ?_⟩
    rintro rfl
    cases List.mem_singleton.1 hmem
    exact h.unregistered hd task _ hp hid'

/-- Every step keeps it. -/
theorem IsNumbered.step {events : List Event} {x x' : Exchange} {e : Option Event}
    (h : IsNumbered events x) (hs : x.Step x' e) : IsNumbered (events ++ e.toList) x' := by
  cases hs.move with
  | numbers hc hp' others => exact h.of_numbers hc hp' others
  | registers hp hc hp' others => exact h.of_registers hp hc hp' others
  | hears hc parties =>
    obtain ⟨pending, answers, hs⟩ := x.connection.settle_frame _
    exact h.of_other rfl rfl (by rw [hc, hs]) (Lets.of_parties parties).registers
  | drains hc lets => exact h.of_other rfl rfl (by rw [hc]; rfl) lets.registers
  | returns hp ha hc hp' others =>
    exact h.of_other rfl rfl (by rw [hc]; rfl) (Lets.of_first others hp').registers
  | quiet nextId _ _ _ lets => exact h.of_other rfl rfl nextId lets.registers

end LanguageClient.Exchange
