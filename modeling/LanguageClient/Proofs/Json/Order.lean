import LanguageClient.Json.Parser
import LanguageClient.Proofs.Json.Members

/-!
# Values whose members are in order

A value that was read lists the members of each of its objects by their keys, each key once.  These
are the values that `Json.sorted` leaves alone.

* `gathered_of_inOrder` — members in order are gathered as they stand.
* `sorted_item`, `sorted_member` — what is in a value in order is in order too, and `sorted_arr`,
  `sorted_ofMembers` say the converse; so whatever is sorted is in order (`sorted_sorted`).
* `value?_sorted` — the induction over the depth of what is read.
* **`parse?_sorted`** — what is read from a text is in order.
-/

namespace LanguageClient.Json

variable {key : String} {value : Json} {members : List (String × Json)} {items : List Json}

/-! ## Lists -/

theorem sorted_item (h : (Json.arr items).sorted = .arr items) {item : Json} (hitem : item ∈ items) :
    item.sorted = item := by
  rw [sorted, sortedItems_eq] at h
  exact List.map_inj_left.1 ((Json.arr.inj h).trans (List.map_id items).symm) item hitem

theorem sorted_arr (h : ∀ item ∈ items, item.sorted = item) :
    (Json.arr items).sorted = .arr items := by
  rw [sorted, sortedItems_eq]
  exact congrArg Json.arr ((List.map_congr_left h).trans (List.map_id items))

/-! ## Objects -/

theorem put_of_forall_lt (h : ∀ m ∈ members, m.1 < key) :
    put key value members = members ++ [(key, value)] := by
  induction members with
  | nil => rfl
  | cons m rest ih =>
    obtain ⟨k, v⟩ := m
    obtain ⟨hk, hrest⟩ := List.forall_mem_cons.1 h
    rw [put, if_neg (String.lt_asymm hk), if_neg (Ne.symm (Std.ne_of_lt hk)), ih hrest]
    rfl

theorem gathered_of_inOrder (h : InOrder members) : gathered members = members := by
  induction members using List.reverseRecOn with
  | nil => rfl
  | append_singleton members m ih =>
    obtain ⟨hmembers, -, hlast⟩ := List.pairwise_append.1 h
    rw [gathered_concat, ih hmembers]
    exact put_of_forall_lt fun m' hm' => hlast m' hm' m List.mem_cons_self

theorem sorted_member (h : (Json.obj members).sorted = .obj members) {m : String × Json}
    (hm : m ∈ members) : m.2.sorted = m.2 := by
  have hgathered : gathered (sortedMembers members) = members := Json.obj.inj h
  have horder : InOrder members := hgathered ▸ inOrder_gathered _
  have hkeys : InOrder (sortedMembers members) := by
    rw [sortedMembers_eq, InOrder, List.pairwise_map]
    exact horder
  have hsame : sortedMembers members = members.map id :=
    (gathered_of_inOrder hkeys).symm.trans (hgathered.trans (List.map_id members).symm)
  rw [sortedMembers_eq] at hsame
  exact congrArg Prod.snd (List.map_inj_left.1 hsame m hm)

/-- An object is in order if the values of its members are. -/
theorem sorted_ofMembers (h : ∀ m ∈ members, m.2.sorted = m.2) :
    (ofMembers members).sorted = ofMembers members := by
  show sorted (.obj (gathered members)) = .obj (gathered members)
  have hvalues : sortedMembers (gathered members) = gathered members := by
    rw [sortedMembers_eq]
    refine (List.map_congr_left fun m hm => ?_).trans (List.map_id _)
    exact Prod.ext rfl (h m (mem_gathered hm))
  rw [sorted_obj, hvalues, gathered_of_inOrder (inOrder_gathered members)]

/-! ## What was put in order -/

mutual

/-- A value that was put in order is in order. -/
theorem sorted_sorted : (j : Json) → j.sorted.sorted = j.sorted
  | .null | .bool _ | .int _ | .float _ | .str _ | .date _ => rfl
  | .arr items => sorted_arr (sorted_of_mem_sortedItems items)
  | .obj members => sorted_ofMembers (sorted_of_mem_sortedMembers members)

theorem sorted_of_mem_sortedItems : (items : List Json) → ∀ item ∈ sortedItems items,
    item.sorted = item
  | [], _, h => by cases h
  | j :: rest, item, h =>
    (List.mem_cons.1 h).elim (fun he => he ▸ sorted_sorted j) (sorted_of_mem_sortedItems rest item)

theorem sorted_of_mem_sortedMembers : (members : List (String × Json)) →
    ∀ m ∈ sortedMembers members, m.2.sorted = m.2
  | [], _, h => by cases h
  | (_, j) :: rest, m, h =>
    (List.mem_cons.1 h).elim (fun he => he ▸ sorted_sorted j) (sorted_of_mem_sortedMembers rest m)

end

/-! ## What is read -/

namespace Syntax

open Text (Reader)

/-- A reader that only takes what has a property. -/
def Takes {α : Type} (read : Reader α) (p : α → Prop) : Prop :=
  ∀ cs a rest, read cs = some (a, rest) → p a

variable {α : Type} {item : Reader α} {p : α → Prop} {close : Char}

theorem Takes.itemsLoop? (h : Takes item p) (fuel : Nat) :
    Takes (itemsLoop? item close fuel) (∀ a ∈ ·, p a) := by
  induction fuel with
  | zero => exact fun _ _ _ hread => (by cases hread)
  | succ fuel ih =>
    intro cs as rest hread
    rw [Syntax.itemsLoop?] at hread
    split at hread
    · cases hread
    · next a after hitem =>
      have ha : p a := h _ _ _ hitem
      split at hread
      · cases hread
      · split at hread
        · cases hread
          exact List.forall_mem_singleton.2 ha
        · split at hread
          · obtain ⟨⟨more, _⟩, hmore, he⟩ := Option.map_eq_some_iff.1 hread
            cases he
            exact List.forall_mem_cons.2 ⟨ha, ih _ _ _ hmore⟩
          · cases hread

theorem Takes.items? (h : Takes item p) : Takes (items? item close) (∀ a ∈ ·, p a) := by
  intro cs as rest hread
  rw [Syntax.items?] at hread
  split at hread
  · cases hread
  · split at hread
    · cases hread
      exact List.forall_mem_nil _
    · exact h.itemsLoop? _ _ _ _ hread

theorem takes_member? {read : Reader Json} {p : Json → Prop} (h : Takes read p) :
    Takes (member? read) (p ·.2) := by
  intro cs m rest hread
  rw [Syntax.member?] at hread
  split at hread
  · cases hread
  · split at hread
    · obtain ⟨⟨v, _⟩, hvalue, he⟩ := Option.map_eq_some_iff.1 hread
      cases he
      exact h _ _ _ hvalue
    · cases hread

theorem numeral_sorted {n : Numeral} {j : Json} (h : n.value? = some j) : j.sorted = j := by
  have hfloat : ∀ {j}, n.float?.map Json.float = some j → j.sorted = j := by
    intro j h
    obtain ⟨x, -, rfl⟩ := Option.map_eq_some_iff.1 h
    rfl
  rw [Numeral.value?] at h
  split at h
  · dsimp only at h
    split at h
    · split at h
      · cases h
        rfl
      · exact hfloat h
    · split at h
      · cases h
        rfl
      · exact hfloat h
  · exact hfloat h

theorem unsigned?_sorted (negative : Bool) : Takes (unsigned? negative) fun j => j.sorted = j := by
  intro cs j rest hread
  simp only [unsigned?, Option.bind_eq_bind, Option.bind_eq_some_iff, Option.pure_def,
    Option.some.injEq, Prod.mk.injEq] at hread
  obtain ⟨_, _, _, _, _, _, value, hvalue, rfl, -⟩ := hread
  exact numeral_sorted hvalue

theorem word?_sorted : Takes word? fun j => j.sorted = j := by
  intro cs j rest hread
  unfold word? at hread
  split at hread
  · cases hread
    rfl
  · cases hread
    rfl
  · cases hread
    rfl
  · cases hread

theorem string_sorted {cs rest : List Char} {j : Json}
    (h : ((string? cs).map fun (s, r) => (Json.str s, r)) = some (j, rest)) : j.sorted = j := by
  obtain ⟨⟨s, _⟩, -, he⟩ := Option.map_eq_some_iff.1 h
  cases he
  rfl

theorem scalar_sorted {c : Char} {cs rest : List Char} {j : Json}
    (h : (if c = '-' || c.isDigit then number? cs else word? cs) = some (j, rest)) : j.sorted = j := by
  split at h
  · unfold number? at h
    split at h
    · exact unsigned?_sorted _ _ _ _ h
    · exact unsigned?_sorted _ _ _ _ h
  · exact word?_sorted _ _ _ h

theorem value?_sorted (depth : Nat) : Takes (value? depth) fun j => j.sorted = j := by
  induction depth with
  | zero =>
    intro cs j rest hread
    rw [value?.eq_def] at hread
    dsimp only at hread
    split at hread
    · cases hread
    · exact string_sorted hread
    · cases hread
    · cases hread
    · exact scalar_sorted hread
  | succ depth ih =>
    intro cs j rest hread
    rw [value?.eq_def] at hread
    dsimp only at hread
    split at hread
    · cases hread
    · exact string_sorted hread
    · obtain ⟨⟨items, _⟩, hitems, he⟩ := Option.map_eq_some_iff.1 hread
      cases he
      exact sorted_arr (ih.items? _ _ _ hitems)
    · obtain ⟨⟨members, _⟩, hmembers, he⟩ := Option.map_eq_some_iff.1 hread
      cases he
      exact sorted_ofMembers ((takes_member? ih).items? _ _ _ hmembers)
    · exact scalar_sorted hread

end Syntax

/-- **What is read from a text is in order.** -/
theorem parse?_sorted {text : String} {j : Json} (h : parse? text = some j) : j.sorted = j := by
  rw [parse?] at h
  split at h
  · next j' rest hread =>
    split at h
    · cases h
      exact Syntax.value?_sorted _ _ _ _ hread
    · cases h
  · cases h

end LanguageClient.Json
