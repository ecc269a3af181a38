import LanguageClient.Json.Basic
import Mathlib.Data.List.Induction
import Mathlib.Data.List.Nodup

/-!
# The members of an object

* `lookup_put` and `lookup_gathered` — an object has under a key what was put there last.
* `InOrder` — the members are in the order of their keys, and each key is there once;
  `inOrder_gathered` says so of every object that is read, and `InOrder.ext` that what there is under
  each key makes out such members.
* `hasKey_iff` — a key is present if there is a member with this key, whatever its value is.
-/

namespace LanguageClient.Json

variable {key : String} {value : Json} {members : List (String × Json)}

theorem lookup_cons_if (other : String) :
    ((key, value) :: members).lookup other =
      if other = key then some value else members.lookup other := by
  rw [List.lookup_cons]
  by_cases h : other = key
  · simp [h]
  · simp [h, beq_false_of_ne h]

/-- Under the key there is what was put there, and under every other key what was there before. -/
theorem lookup_put (other : String) :
    (put key value members).lookup other =
      if other = key then some value else members.lookup other := by
  fun_induction put key value members with
  | case1 => rw [lookup_cons_if]
  | case2 k v rest hlt => rw [lookup_cons_if]
  | case3 v rest hlt => simp only [lookup_cons_if]; split <;> rfl
  | case4 k v rest hlt hne ih =>
    rw [lookup_cons_if, ih, lookup_cons_if]
    by_cases hk : other = k
    · rw [if_pos hk, if_pos hk, if_neg (hk ▸ Ne.symm hne)]
    · rw [if_neg hk, if_neg hk]

/-! ## Order -/

/-- Members in the order of their keys, each key once. -/
def InOrder (members : List (String × Json)) : Prop := members.Pairwise fun m m' => m.1 < m'.1

theorem InOrder.nodup (h : InOrder members) : (members.map Prod.fst).Nodup := by
  rw [List.Nodup, List.pairwise_map]
  exact List.Pairwise.imp (fun hlt => Std.ne_of_lt hlt) h

theorem lookup_eq_some (h : (members.map Prod.fst).Nodup) :
    members.lookup key = some value ↔ (key, value) ∈ members := by
  refine ⟨fun hlookup => ?_, fun hmem => ?_⟩
  · obtain ⟨before, after, rfl, -⟩ := List.lookup_eq_some_iff.1 hlookup
    exact List.mem_append_right _ List.mem_cons_self
  · obtain ⟨before, after, rfl⟩ := List.append_of_mem hmem
    rw [List.map_append, List.map_cons, List.nodup_middle, List.nodup_cons] at h
    refine List.lookup_eq_some_iff.2 ⟨before, after, rfl, fun m hm => bne_iff_ne.2 fun he => h.1 ?_⟩
    exact List.mem_append_left _ (List.mem_map.2 ⟨m, hm, he.symm⟩)

/-- Members in order are made out by what there is under each key. -/
theorem InOrder.ext {others : List (String × Json)} (h : InOrder members) (h' : InOrder others)
    (heq : ∀ key, members.lookup key = others.lookup key) : members = others := by
  have hperm : members.Perm others := by
    refine (List.perm_ext_iff_of_nodup (List.Nodup.of_map _ h.nodup) (.of_map _ h'.nodup)).2 ?_
    rintro ⟨key, value⟩
    rw [← lookup_eq_some h.nodup, ← lookup_eq_some h'.nodup, heq]
  exact hperm.eq_of_pairwise (fun _ _ _ _ hlt hgt => absurd hgt (String.lt_asymm hlt)) h h'

theorem mem_put {m : String × Json} (h : m ∈ put key value members) :
    m = (key, value) ∨ m ∈ members := by
  fun_induction put key value members with
  | case1 => exact .inl (List.mem_singleton.1 h)
  | case2 k v rest hlt => exact List.mem_cons.1 h
  | case3 v rest hlt => exact (List.mem_cons.1 h).imp_right (List.mem_cons_of_mem _)
  | case4 k v rest hlt hne ih =>
    rcases List.mem_cons.1 h with rfl | h
    · exact .inr List.mem_cons_self
    · exact (ih h).imp_right (List.mem_cons_of_mem _)

theorem inOrder_put (h : InOrder members) : InOrder (put key value members) := by
  fun_induction put key value members with
  | case1 => exact List.pairwise_singleton _ _
  | case2 k v rest hlt =>
    refine List.pairwise_cons.2 ⟨fun m hm => ?_, h⟩
    rcases List.mem_cons.1 hm with rfl | hm
    · exact hlt
    · exact String.lt_trans hlt ((List.pairwise_cons.1 h).1 m hm)
  | case3 v rest hlt => exact List.pairwise_cons.2 (List.pairwise_cons.1 h)
  | case4 k v rest hlt hne ih =>
    have hbefore : k < key := Std.lt_of_le_of_ne (String.not_lt.1 hlt) (Ne.symm hne)
    obtain ⟨hk, hrest⟩ := List.pairwise_cons.1 h
    refine List.pairwise_cons.2 ⟨fun m hm => ?_, ih hrest⟩
    rcases mem_put hm with rfl | hm
    · exact hbefore
    · exact hk m hm

/-! ## Objects -/

/-- The members of the object that is read from some members. -/
def gathered (members : List (String × Json)) : List (String × Json) :=
  members.foldl (fun sorted (k, v) => put k v sorted) []

theorem gathered_concat (members : List (String × Json)) :
    gathered (members ++ [(key, value)]) = put key value (gathered members) := by
  rw [gathered, List.foldl_append]
  rfl

theorem inOrder_gathered (members : List (String × Json)) : InOrder (gathered members) := by
  induction members using List.reverseRecOn with
  | nil => exact List.Pairwise.nil
  | append_singleton members m ih => rw [gathered_concat]; exact inOrder_put ih

theorem mem_gathered {m : String × Json} (h : m ∈ gathered members) : m ∈ members := by
  induction members using List.reverseRecOn with
  | nil => cases h
  | append_singleton members last ih =>
    rw [gathered_concat] at h
    rcases mem_put h with rfl | h
    · exact List.mem_concat_self
    · exact List.mem_append_left _ (ih h)

/-- Of several members with one key the last one counts. -/
theorem lookup_gathered (members : List (String × Json)) (key : String) :
    (gathered members).lookup key = members.reverse.lookup key := by
  induction members using List.reverseRecOn with
  | nil => rfl
  | append_singleton members m ih =>
    rw [gathered_concat, lookup_put, ih, List.reverse_append, List.reverse_singleton,
      List.singleton_append, lookup_cons_if]

/-! ## Sorting within -/

theorem sortedItems_eq (items : List Json) : sortedItems items = items.map sorted := by
  induction items with
  | nil => rfl
  | cons item rest ih => rw [sortedItems, ih]; rfl

theorem sortedMembers_eq (members : List (String × Json)) :
    sortedMembers members = members.map fun (k, j) => (k, j.sorted) := by
  induction members with
  | nil => rfl
  | cons m rest ih => rw [sortedMembers, ih]; rfl

theorem sorted_obj (members : List (String × Json)) :
    sorted (.obj members) = .obj (gathered (sortedMembers members)) := rfl

theorem lookup_sortedMembers (members : List (String × Json)) (key : String) :
    (sortedMembers members).lookup key = (members.lookup key).map sorted := by
  induction members with
  | nil => rfl
  | cons m rest ih =>
    obtain ⟨k, j⟩ := m
    rw [sortedMembers, lookup_cons_if, lookup_cons_if, ih]
    split <;> rfl

/-- What an object that was read has under a key, in terms of the members that were written. -/
theorem lookup_gathered_sorted (members : List (String × Json)) (key : String) :
    (gathered (sortedMembers members)).lookup key = (members.reverse.lookup key).map sorted := by
  rw [lookup_gathered, ← lookup_sortedMembers, sortedMembers_eq, sortedMembers_eq, List.map_reverse]

/-! ## Keys -/

/-- An object that has a member with this key. -/
def HasKey (key : String) (j : Json) : Prop := ∃ members value, j = .obj members ∧ (key, value) ∈ members

theorem hasKey_iff {j : Json} : HasKey key j ↔ (j.get? key).isSome = true := by
  have isSome_lookup (members : List (String × Json)) :
      (members.lookup key).isSome = true ↔ ∃ value, (key, value) ∈ members := by
    induction members with
    | nil => simp
    | cons m rest ih =>
      obtain ⟨k, v⟩ := m
      rw [lookup_cons_if]
      by_cases hk : key = k
      · subst hk; simp
      · simp [hk, ih]
  cases j with
  | obj members =>
    rw [get?, isSome_lookup]
    constructor
    · rintro ⟨members', value, he, hmem⟩
      cases he
      exact ⟨value, hmem⟩
    · rintro ⟨value, hmem⟩
      exact ⟨members, value, rfl, hmem⟩
  | _ => exact ⟨fun ⟨_, _, he, _⟩ => (by cases he), nofun⟩

end LanguageClient.Json
