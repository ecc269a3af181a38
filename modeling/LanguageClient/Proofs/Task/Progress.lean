import LanguageClient.Task.Progress

/-!
# What holds of a step whichever way it goes

A step of an activity waits, goes on or ends, and with the last two there comes a new state.
`Progress.All P` says that `P` holds of the new state if there is one.  The combinators that make a
step of a part into a step of the whole leave the state alone (`all_within`, `all_last`), so what is
known of the parts of an activity is known of the activity.

`Progress.Leads P Q` also speaks of where the step leads: `P` holds of the new state and the next
point if the activity goes on, and `Q` of the new state and the result if it ends.
-/

namespace LanguageClient.Progress

variable {σ τ π ρ α β : Type}

/-- `P` holds of the state after the step, if the activity does not wait. -/
def All (P : σ → Prop) : Progress σ π α → Prop
  | waits => True
  | goesOn s _ => P s
  | ends s _ => P s

theorem All.mono {P Q : σ → Prop} {p : Progress σ π α} (h : p.All P) (hPQ : ∀ s, P s → Q s) :
    p.All Q := by
  cases p with
  | waits => trivial
  | goesOn s x => exact hPQ s h
  | ends s a => exact hPQ s h

@[simp] theorem all_within {P : σ → Prop} (p : Progress σ π α) (wrap : π → ρ) (next : α → ρ) :
    (p.within wrap next : Progress σ ρ β).All P ↔ p.All P := by
  cases p <;> rfl

@[simp] theorem all_last {P : σ → Prop} (p : Progress σ π α) (wrap : π → ρ) (result : α → β) :
    (p.last wrap result).All P ↔ p.All P := by
  cases p <;> rfl

@[simp] theorem all_onState {P : τ → Prop} (p : Progress σ π α) (put : σ → τ) :
    (p.onState put).All P ↔ p.All fun s => P (put s) := by
  cases p <;> rfl

/-- `P` holds if the activity goes on, and `Q` if it ends. -/
def Leads (P : σ → π → Prop) (Q : σ → α → Prop) : Progress σ π α → Prop
  | waits => True
  | goesOn s x => P s x
  | ends s a => Q s a

variable {P : σ → π → Prop} {Q : σ → α → Prop}

theorem leads_true (p : Progress σ π α) : p.Leads (fun _ _ => True) fun _ _ => True := by
  cases p <;> trivial

theorem All.leads {P : σ → Prop} {p : Progress σ π α} (h : p.All P) :
    p.Leads (fun s _ => P s) fun s _ => P s := by
  cases p with
  | waits => trivial
  | goesOn s x => exact h
  | ends s a => exact h

/-- What is known of a part is known of the whole, which goes on where the part ends. -/
theorem Leads.within {p : Progress σ π α} (h : p.Leads P Q) {R : σ → ρ → Prop} {S : σ → β → Prop}
    {wrap : π → ρ} {next : α → ρ} (hP : ∀ s x, P s x → R s (wrap x))
    (hQ : ∀ s a, Q s a → R s (next a)) : (p.within wrap next : Progress σ ρ β).Leads R S := by
  cases p with
  | waits => trivial
  | goesOn s x => exact hP s x h
  | ends s a => exact hQ s a h

/-- The same of the last part of a whole. -/
theorem Leads.last {p : Progress σ π α} (h : p.Leads P Q) {R : σ → ρ → Prop} {S : σ → β → Prop}
    {wrap : π → ρ} {result : α → β} (hP : ∀ s x, P s x → R s (wrap x))
    (hQ : ∀ s a, Q s a → S s (result a)) : (p.last wrap result).Leads R S := by
  cases p with
  | waits => trivial
  | goesOn s x => exact hP s x h
  | ends s a => exact hQ s a h

end LanguageClient.Progress
