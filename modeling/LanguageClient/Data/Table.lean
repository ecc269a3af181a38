/-!
# Tables

Finite maps as lists of bindings, for the small tables of a client: open documents, pending requests,
what is painted in which editor.  A new key goes to the end and an old key keeps its place, so a
table lists its keys in the order in which they came.

`get?` is the view: what each operation does to it is a lemma beside the operation, and nothing else
needs to look at the list.
-/

namespace LanguageClient

/-- Bindings of keys to values; of two bindings of one key the first counts. -/
abbrev Table (κ α : Type) := List (κ × α)

namespace Table

variable {κ α : Type} [DecidableEq κ]

def get? (t : Table κ α) (key : κ) : Option α :=
  match t with
  | [] => none
  | (k, a) :: rest => if k = key then some a else get? rest key

def contains (t : Table κ α) (key : κ) : Bool := (get? t key).isSome

/-- Binds a key. -/
def set (t : Table κ α) (key : κ) (value : α) : Table κ α :=
  match t with
  | [] => [(key, value)]
  | (k, a) :: rest => if k = key then (key, value) :: rest else (k, a) :: set rest key value

/-- Removes every binding of a key. -/
def erase (t : Table κ α) (key : κ) : Table κ α :=
  t.filter fun (k, _) => k ≠ key

/-- Changes the value of a key that is bound. -/
def modify (t : Table κ α) (key : κ) (f : α → α) : Table κ α :=
  match get? t key with
  | some a => set t key (f a)
  | none => t

def keys (t : Table κ α) : List κ := t.map (·.1)

def values (t : Table κ α) : List α := t.map (·.2)

@[simp] theorem get?_nil (key : κ) : get? ([] : Table κ α) key = none := rfl

theorem get?_cons (k key : κ) (a : α) (t : Table κ α) :
    get? ((k, a) :: t) key = if k = key then some a else get? t key := rfl

theorem get?_set (t : Table κ α) (key key' : κ) (value : α) :
    get? (set t key value) key' = if key = key' then some value else get? t key' := by
  induction t with
  | nil => simp [set, get?_cons]
  | cons b t ih =>
    obtain ⟨k, a⟩ := b
    by_cases h : k = key <;> by_cases h' : k = key' <;> by_cases h'' : key = key' <;>
      simp_all [set, get?_cons]

theorem get?_erase (t : Table κ α) (key key' : κ) :
    get? (erase t key) key' = if key = key' then none else get? t key' := by
  induction t with
  | nil => simp [erase]
  | cons b t ih =>
    obtain ⟨k, a⟩ := b
    by_cases h : k = key <;> by_cases h' : k = key' <;> by_cases h'' : key = key' <;>
      simp_all [erase, get?_cons]

theorem get?_modify (t : Table κ α) (key key' : κ) (f : α → α) :
    get? (modify t key f) key' = if key = key' then (get? t key').map f else get? t key' := by
  unfold modify
  split
  · rw [get?_set]
    by_cases h : key = key' <;> simp_all
  · by_cases h : key = key' <;> simp_all

theorem mem_of_get? {t : Table κ α} {key : κ} {a : α} (h : get? t key = some a) : (key, a) ∈ t := by
  induction t with
  | nil => simp at h
  | cons b t ih =>
    obtain ⟨k, x⟩ := b
    rw [get?_cons] at h
    split at h
    next hk => simp_all
    next => exact List.mem_cons_of_mem _ (ih h)

/-- What is bound after binding a key was bound before, or is the new binding. -/
theorem mem_set {t : Table κ α} {key : κ} {a : α} {b : κ × α} (h : b ∈ set t key a) :
    b = (key, a) ∨ b ∈ t := by
  induction t with
  | nil => simpa [set] using h
  | cons c t ih =>
    obtain ⟨k, x⟩ := c
    rw [set] at h
    split at h
    next => exact (List.mem_cons.1 h).imp id (List.mem_cons_of_mem _)
    next =>
      rcases List.mem_cons.1 h with rfl | h
      · exact .inr List.mem_cons_self
      · exact (ih h).imp id (List.mem_cons_of_mem _)

theorem mem_erase {t : Table κ α} {key : κ} {b : κ × α} : b ∈ erase t key ↔ b ∈ t ∧ b.1 ≠ key := by
  simp [erase]

end Table

end LanguageClient
