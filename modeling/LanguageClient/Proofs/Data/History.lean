import Mathlib.Data.List.Induction

/-!
# Histories

A step takes a state to the next one, if it can be taken, and `es.foldlM step s` is what the history `es`
comes to from the state `s`.

* `History.concat_eq_some` — the last step of a history.
* **`History.induction`** — what each step keeps, every history keeps.  The history so far can be spoken
  about.
* `History.record` — what is noted of the steps of a history, in their order.
* `History.Throughout` — what is so of every step of a history and the state that it is taken in.
-/

namespace LanguageClient.History

variable {σ ε β : Type} {step : σ → ε → Option σ} {s s₀ s' : σ} {es : List ε} {e : ε}

/-- The last step of a history is taken from what the history before it came to. -/
theorem concat_eq_some : (es ++ [e]).foldlM step s = some s' ↔
    ∃ u, es.foldlM step s = some u ∧ step u e = some s' := by
  rw [List.foldlM_append]
  simp only [Option.bind_eq_bind, Option.bind_eq_some_iff, List.foldlM_cons, List.foldlM_nil,
    Option.pure_def, Option.some.injEq, exists_eq_right]

/-- **What each step keeps, every history keeps.** -/
theorem induction {P : List ε → σ → Prop} (init : P [] s₀)
    (keep : ∀ es e s s', es.foldlM step s₀ = some s → P es s → step s e = some s' → P (es ++ [e]) s') :
    ∀ {es s}, es.foldlM step s₀ = some s → P es s := by
  intro es
  induction es using List.reverseRecOn with
  | nil =>
    intro s h
    cases h
    exact init
  | append_singleton es e ih =>
    intro s h
    obtain ⟨u, hu, hs⟩ := concat_eq_some.1 h
    exact keep es e u s hu (ih hu) hs

/-- What is noted of the steps of a history, the first one first. -/
def record (step : σ → ε → Option σ) (note : σ → ε → Option β) (s : σ) : List ε → List β
  | [] => []
  | e :: es => (note s e).toList ++
    match step s e with
    | some s' => record step note s' es
    | none => []

theorem record_concat (note : σ → ε → Option β) (h : es.foldlM step s = some s') (e : ε) :
    record step note s (es ++ [e]) = record step note s es ++ (note s' e).toList := by
  induction es generalizing s with
  | nil =>
    obtain rfl : s = s' := Option.some.inj h
    rw [List.nil_append, record, record]
    cases step s e <;> simp [record]
  | cons g es ih =>
    rw [List.foldlM_cons] at h
    obtain ⟨u, hu, hes⟩ := Option.bind_eq_some_iff.1 h
    rw [List.cons_append, record, record, hu, List.append_assoc]
    exact congrArg _ (ih hes)

/-- It is so of every step of a history and the state that it is taken in. -/
def Throughout (step : σ → ε → Option σ) (P : σ → ε → Prop) (s : σ) : List ε → Prop
  | [] => True
  | e :: es => P s e ∧ ∀ s', step s e = some s' → Throughout step P s' es

theorem throughout_concat {P : σ → ε → Prop} (h : es.foldlM step s = some s') :
    Throughout step P s (es ++ [e]) ↔ Throughout step P s es ∧ P s' e := by
  induction es generalizing s with
  | nil =>
    obtain rfl : s = s' := Option.some.inj h
    simp [Throughout]
  | cons g es ih =>
    rw [List.foldlM_cons] at h
    obtain ⟨u, hu, hes⟩ := Option.bind_eq_some_iff.1 h
    simp only [List.cons_append, Throughout, hu, Option.some.injEq, forall_eq', ih hes, and_assoc]

instance decidableThroughout {P : σ → ε → Prop} [∀ s e, Decidable (P s e)] (s : σ) :
    (es : List ε) → Decidable (Throughout step P s es)
  | [] => .isTrue trivial
  | e :: es =>
    match h : step s e with
    | none => decidable_of_iff (P s e) (by simp [Throughout, h])
    | some s' =>
      have := decidableThroughout (P := P) s' es
      decidable_of_iff (P s e ∧ Throughout step P s' es) (by simp [Throughout, h])

end LanguageClient.History
