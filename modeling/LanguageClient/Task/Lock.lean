/-!
# Locks

A lock is held by at most one activity at a time, and goes to those that want it in the order in
which they asked.  So it is the queue of those that asked and have not yet given it back, and the
first of them holds it.
-/

namespace LanguageClient

/-- An activity, as far as others have to tell it from themselves. -/
structure TaskId where
  number : Nat
  deriving DecidableEq, Inhabited, Repr

structure Lock where
  queue : List TaskId := []
  deriving DecidableEq, Inhabited, Repr

namespace Lock

/-- Asks for the lock. -/
def join (l : Lock) (task : TaskId) : Lock := ⟨l.queue ++ [task]⟩

def holder? (l : Lock) : Option TaskId := l.queue.head?

/-- Whether it is this activity's turn. -/
def heldBy (l : Lock) (task : TaskId) : Bool := l.holder? = some task

/-- The holder gives the lock back. -/
def release (l : Lock) : Lock := ⟨l.queue.tail⟩

def isFree (l : Lock) : Bool := l.queue.isEmpty

@[simp] theorem holder?_join_free (task : TaskId) : (Lock.join {} task).holder? = some task := rfl

/-- Asking takes the lock away from nobody. -/
theorem holder?_join {l : Lock} {holder : TaskId} (h : l.holder? = some holder) (task : TaskId) :
    (l.join task).holder? = some holder := by
  obtain ⟨queue⟩ := l
  cases queue with
  | nil => simp [holder?] at h
  | cons t rest => simpa [holder?, join] using h

end Lock

end LanguageClient
