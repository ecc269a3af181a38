/-!
# Activities in small steps

Several activities go on at once on one shared state: calls of the client, the reader of a
connection, the watcher of a server.  An activity is described by the *point* that it has reached
and by a function that says what its next step does to the state.  A step is what nothing can come
in between of; between two steps of an activity any other activity may take any number of steps.

An activity that consists of smaller ones has their points among its own.  `Progress.within` lifts a
step of the smaller activity: the larger one goes on from where the smaller one ends, and takes no
further step to notice.
-/

namespace LanguageClient

/-- What the next step of an activity comes to: `σ` is the state, `π` the points of the activity and
`α` what it results in. -/
inductive Progress (σ π α : Type)
  /-- There is nothing to do until another activity has done something, or time has passed. -/
  | waits
  | goesOn (state : σ) (point : π)
  | ends (state : σ) (value : α)
  deriving Inhabited

namespace Progress

variable {σ τ π ρ α β : Type}

/-- A step of a part is a step of the whole. -/
def within (p : Progress σ π α) (wrap : π → ρ) (next : α → ρ) : Progress σ ρ β :=
  match p with
  | waits => waits
  | goesOn s point => goesOn s (wrap point)
  | ends s a => goesOn s (next a)

/-- The last part of a whole: where the part ends, the whole ends. -/
def last (p : Progress σ π α) (wrap : π → ρ) (result : α → β) : Progress σ ρ β :=
  match p with
  | waits => waits
  | goesOn s point => goesOn s (wrap point)
  | ends s a => ends s (result a)

/-- The same step on a larger state. -/
def onState (p : Progress σ π α) (put : σ → τ) : Progress τ π α :=
  match p with
  | waits => waits
  | goesOn s point => goesOn (put s) point
  | ends s a => ends (put s) a

/-- There is something to do. -/
def isReady : Progress σ π α → Bool
  | waits => false
  | _ => true

@[simp] theorem isReady_within (p : Progress σ π α) (wrap : π → ρ) (next : α → ρ) :
    (p.within wrap next : Progress σ ρ β).isReady = p.isReady := by
  cases p <;> rfl

@[simp] theorem isReady_last (p : Progress σ π α) (wrap : π → ρ) (result : α → β) :
    (p.last wrap result).isReady = p.isReady := by
  cases p <;> rfl

@[simp] theorem isReady_onState (p : Progress σ π α) (put : σ → τ) :
    (p.onState put).isReady = p.isReady := by
  cases p <;> rfl

end Progress

end LanguageClient
