import LanguageClient.Data.Table
import Mathlib.Data.List.Nodup

/-!
# Tables without double bindings

A table that was made by binding and removing keys binds each key once.  In such a table the bindings
are what `get?` tells, so a walk over all bindings (`get?_map`, `get?_filter`) can be read off it.
-/

namespace LanguageClient.Table

variable {κ α β : Type}

theorem keys_map (t : Table κ α) (f : α → β) : keys (t.map fun (k, a) => (k, f a)) = t.keys := by
  simp [keys, Function.comp_def]

theorem nodup_keys_filter {t : Table κ α} (hn : t.keys.Nodup) (q : κ × α → Bool) :
    (keys (t.filter q)).Nodup :=
  hn.sublist (List.filter_sublist.map _)

variable [DecidableEq κ]

theorem get?_eq_none {t : Table κ α} {key : κ} : get? t key = none ↔ key ∉ t.keys := by
  induction t with
  | nil => simp [keys]
  | cons b t ih =>
    obtain ⟨k, a⟩ := b
    rw [get?_cons]
    by_cases hk : k = key
    · simp [hk, keys]
    · simpa [hk, keys, Ne.symm hk] using ih

theorem get?_eq_some {t : Table κ α} (hn : t.keys.Nodup) {key : κ} {a : α} :
    get? t key = some a ↔ (key, a) ∈ t := by
  refine ⟨mem_of_get?, fun h => ?_⟩
  induction t with
  | nil => cases h
  | cons b t ih =>
    obtain ⟨k, x⟩ := b
    obtain ⟨hk, hn⟩ := List.nodup_cons.1 hn
    rw [get?_cons]
    rcases List.mem_cons.1 h with heq | h
    · cases heq
      exact if_pos rfl
    · have hne : k ≠ key := by
        rintro rfl
        exact hk (List.mem_map.2 ⟨_, h, rfl⟩)
      rw [if_neg hne]
      exact ih hn h

theorem keys_set (t : Table κ α) (key : κ) (a : α) :
    keys (set t key a) = if key ∈ t.keys then t.keys else t.keys ++ [key] := by
  induction t with
  | nil => rfl
  | cons b t ih =>
    obtain ⟨k, x⟩ := b
    rw [set]
    by_cases hk : k = key
    · simp [hk, keys]
    · by_cases hm : key ∈ t.map Prod.fst <;>
        simp_all [keys, Ne.symm hk]

theorem nodup_keys_set {t : Table κ α} (hn : t.keys.Nodup) (key : κ) (a : α) :
    (set t key a).keys.Nodup := by
  rw [keys_set]
  split
  next => exact hn
  next h =>
    refine List.nodup_append.2 ⟨hn, List.nodup_singleton key, fun k hk k' hk' => ?_⟩
    rw [List.mem_singleton.1 hk']
    rintro rfl
    exact h hk

/-- Of two bindings of one key the later one counts. -/
theorem set_set (t : Table κ α) (key : κ) (a b : α) : set (set t key a) key b = set t key b := by
  induction t with
  | nil => simp [set]
  | cons c t ih =>
    obtain ⟨k, x⟩ := c
    by_cases hk : k = key <;> simp [set, hk, ih]

theorem get?_map (t : Table κ α) (f : α → β) (key : κ) :
    get? (t.map fun (k, a) => (k, f a)) key = (get? t key).map f := by
  induction t with
  | nil => rfl
  | cons b t ih =>
    obtain ⟨k, a⟩ := b
    rw [List.map_cons, get?_cons, get?_cons, ih]
    split <;> rfl

theorem get?_filter {t : Table κ α} (hn : t.keys.Nodup) (q : α → Bool) (key : κ) :
    get? (t.filter fun (_, a) => q a) key = (get? t key).filter q := by
  ext a
  rw [Option.filter_eq_some_iff, get?_eq_some (nodup_keys_filter hn _), get?_eq_some hn,
    List.mem_filter]

end LanguageClient.Table
