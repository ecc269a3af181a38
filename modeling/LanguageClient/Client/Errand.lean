import LanguageClient.Client.Call

/-!
# Errands

An errand is what somebody does with a client who waits for every answer: make a call and go on with
what it came to, look at the client, change what is in somebody's own hands, let time pass.  It says
nothing about how the calls are answered; that is for whoever carries it out.
-/

namespace LanguageClient

inductive Errand (α : Type)
  | done (a : α)
  | calls (c : Call) (next : CallResult → Errand α)
  | looks (next : Client → Errand α)
  | changes (f : Client → Client) (next : Errand α)
  /-- Lets some milliseconds pass. -/
  | rests (ms : Nat) (next : Errand α)

namespace Errand

variable {α β : Type}

/-- One errand after another. -/
def bind : Errand α → (α → Errand β) → Errand β
  | done a, f => f a
  | calls c next, f => calls c fun r => (next r).bind f
  | looks next, f => looks fun c => (next c).bind f
  | changes g next, f => changes g (next.bind f)
  | rests ms next, f => rests ms (next.bind f)

instance : Monad Errand where
  pure := done
  bind := bind

def call (c : Call) : Errand CallResult := calls c done

def look : Errand Client := looks done

def change (f : Client → Client) : Errand Unit := changes f (done ())

def rest (ms : Nat) : Errand Unit := rests ms (done ())

@[simp] theorem bind_done (x : Errand α) : x.bind done = x := by
  induction x with
  | done a => rfl
  | calls c next ih => simp [bind, ih]
  | looks next ih => simp [bind, ih]
  | changes g next ih => simp [bind, ih]
  | rests ms next ih => simp [bind, ih]

end Errand

end LanguageClient
