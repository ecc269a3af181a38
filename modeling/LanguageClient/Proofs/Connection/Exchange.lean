import LanguageClient.Proofs.Connection.Flags

/-!
# Everything that goes on over one connection

Requests, the reader and those who close a connection are activities of their own, and what one of
them may rely on is decided by what all the others can do in between.  An `Exchange` is a connection
together with everybody who is in the middle of something on it, and `Exchange.Step` says what can
happen to it in one indivisible step, whoever the parties are and in whichever order they come.

* `Traffic` — what a party is in the middle of: a request or a closing.
* `Exchange.Step` — a request takes a step or its last one, a closing takes a step or its last one,
  the reader takes a step or is stopped, or something else happens that is calm on the connection.
* `Exchange.Event` and `Exchange.event?` — what a step has to do with ids and answers.  It can be
  read off the exchange before the step and off who takes it, and a step bears it as a label; so
  statements about what came before what are statements about the list of the events of a run.
-/

namespace LanguageClient

/-- Something that a party is in the middle of on a connection. -/
inductive Traffic
  | asks (p : RequestPoint)
  | closes (p : ClosePoint)

namespace Traffic

/-- It has not begun yet. -/
def IsFirst : Traffic → Prop
  | asks .beginning | closes .flagging => True
  | _ => False

@[simp] theorem isFirst_asks {p : RequestPoint} : (asks p).IsFirst ↔ p = .beginning := by
  cases p <;> simp [IsFirst]

@[simp] theorem isFirst_closes {p : ClosePoint} : (closes p).IsFirst ↔ p = .flagging := by
  cases p <;> simp [IsFirst]

end Traffic

/-- A connection and what everybody is in the middle of on it. -/
structure Exchange where
  connection : Connection
  parties : TaskId → Option Traffic

namespace Exchange

/-- Nothing has been done on the connection, and at most something is about to begin. -/
structure IsFresh (x : Exchange) : Prop where
  connection : ∃ link, x.connection = { link }
  parties : ∀ task t, x.parties task = some t → t.IsFirst

/-! ## Events -/

/-- What a step has to do with ids and answers. -/
inductive Event
  /-- A request takes a number. -/
  | numbered (task : TaskId) (id : UInt64)
  /-- A request registers its number, and has a slot for its answer from now on. -/
  | registered (task : TaskId) (id : UInt64) (slot : Nat)
  /-- The reader takes up a response; if a request waits for it, its number and its slot. -/
  | heard (r : Response) (claimant : Option (UInt64 × Nat))
  /-- Everything that is pending is answered with an error. -/
  | drained
  /-- A request returns what is in its slot. -/
  | returned (task : TaskId) (id : UInt64) (slot : Nat) (r : Response)

/-- Those whose steps have to do with ids and answers. -/
inductive Actor
  | party (task : TaskId)
  | reader

/-- What the next step of an actor is to ids and answers, if it takes one. -/
def event? (x : Exchange) : Actor → Option Event
  | .party task =>
    match x.parties task with
    | some (.asks .numbering) => some (.numbered task x.connection.nextId)
    | some (.asks (.registering id)) => some (.registered task id x.connection.slots)
    | some (.asks (.waiting id slot _)) =>
      (x.connection.answers.get? slot).map (.returned task id slot)
    | some (.closes .draining) => some .drained
    | _ => none
  | .reader =>
    match x.connection.reader with
    | .heard (.response r) => some (.heard r (r.id.bind x.connection.claimant?))
    | .draining => some .drained
    | _ => none

theorem event?_party_of_none {x : Exchange} {task : TaskId} (h : x.parties task = none) :
    x.event? (.party task) = none := by
  rw [event?, h]

/-! ## Steps -/

/-- What can happen in one step, and which event it is.  When a request or a closing has come to its
end, its party may be about to begin something else. -/
inductive Step (x x' : Exchange) : Option Event → Prop
  | asks {task : TaskId} {q : Query} {now : Nat} {p p' : RequestPoint}
      (hp : x.parties task = some (.asks p))
      (h : p.step q now x.connection = .goesOn x'.connection p')
      (hp' : x'.parties task = some (.asks p'))
      (others : ∀ other, other ≠ task → x'.parties other = x.parties other) :
      Step x x' (x.event? (.party task))
  | asked {task : TaskId} {q : Query} {now : Nat} {p : RequestPoint} {r : Except Failure Json}
      (hp : x.parties task = some (.asks p))
      (h : p.step q now x.connection = .ends x'.connection r)
      (hp' : ∀ t, x'.parties task = some t → t.IsFirst)
      (others : ∀ other, other ≠ task → x'.parties other = x.parties other) :
      Step x x' (x.event? (.party task))
  | closes {task : TaskId} {reason : String} {p p' : ClosePoint}
      (hp : x.parties task = some (.closes p))
      (h : p.step reason x.connection = .goesOn x'.connection p')
      (hp' : x'.parties task = some (.closes p'))
      (others : ∀ other, other ≠ task → x'.parties other = x.parties other) :
      Step x x' (x.event? (.party task))
  | closed {task : TaskId} {reason : String} {p : ClosePoint}
      (hp : x.parties task = some (.closes p))
      (h : p.step reason x.connection = .ends x'.connection ())
      (hp' : ∀ t, x'.parties task = some t → t.IsFirst)
      (others : ∀ other, other ≠ task → x'.parties other = x.parties other) :
      Step x x' (x.event? (.party task))
  | reads {handlers : Handlers} {signals : List Signal}
      (h : Reader.step? handlers x.connection = some (x'.connection, signals))
      (parties : x'.parties = x.parties) : Step x x' (x.event? .reader)
  | stops (h : Reader.stop? x.connection = some x'.connection) (parties : x'.parties = x.parties) :
      Step x x' none
  | calm (h : x.connection.Calm x'.connection)
      (parties : ∀ task, x'.parties task = x.parties task ∨
        (x.parties task = none ∧ ∀ t, x'.parties task = some t → t.IsFirst)) : Step x x' none

/-- What has been given up stays given up. -/
theorem Step.keeps {x x' : Exchange} {e : Option Event} (h : x.Step x' e) :
    x.connection.Keeps x'.connection := by
  cases h with
  | @asks task q now p p' _ h _ _ =>
    have keeps := p.step_keeps q now x.connection
    rwa [h] at keeps
  | @asked task q now p r _ h _ _ =>
    have keeps := p.step_keeps q now x.connection
    rwa [h] at keeps
  | @closes task reason p p' _ h _ _ =>
    have keeps := p.step_keeps reason x.connection
    rwa [h] at keeps
  | @closed task reason p _ h _ _ =>
    have keeps := p.step_keeps reason x.connection
    rwa [h] at keeps
  | reads h _ => exact Reader.step?_keeps h
  | stops h _ =>
    rw [(Reader.stop?_eq h).2]
    exact ⟨id, id, id⟩
  | calm h _ => exact h.keeps

/-- An event is that of an actor. -/
theorem Step.actor {x x' : Exchange} {e : Event} (h : x.Step x' (some e)) :
    ∃ a, x.event? a = some e := by
  generalize he : some e = label at h
  cases h with
  | stops _ _ => cases he
  | calm _ _ => cases he
  | reads _ _ => exact ⟨.reader, rfl⟩
  | _ => exact ⟨_, rfl⟩

/-- Everything is answered by a party that closes the connection, or by the reader. -/
theorem event?_eq_drained {x : Exchange} {a : Actor} (h : x.event? a = some .drained) :
    (∃ task, x.parties task = some (.closes .draining)) ∨ x.connection.reader = .draining := by
  cases a with
  | party task =>
    rw [event?] at h
    split at h
    next => cases h
    next => cases h
    next => obtain ⟨_, _, he⟩ := Option.map_eq_some_iff.1 h; cases he
    next hp => exact .inl ⟨task, hp⟩
    next => cases h
  | reader =>
    rw [event?] at h
    split at h
    next => cases h
    next hr => exact .inr hr
    next => cases h

end Exchange

end LanguageClient
