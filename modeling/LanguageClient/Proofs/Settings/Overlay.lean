import LanguageClient.Proofs.Toml.Value
import LanguageClient.Settings.Overlay
import Mathlib

/-!
# What a table has that is laid over another

Key by key:

* **`lookup_overlayMembers`** — a key of the table above has its value laid over what is below it, and
  every other key has what the table below has.  The entries above are laid one after another, so this
  needs that each of them has a key of its own.
* `isValue_overlayMembers` — a file's table laid over that of another file is again one that a file
  could have.
* `valueAt?` — what a table has under a key of one of its records; **`valueAt?_overlayMembers`** is
  `lookup_overlayMembers` for these, where records are tables.

Path by path:

* `MeetAt`, `PartAt` — two tables meet at a path as long as both have tables there, and part at the
  first key where they do not (`meet_or_part`).
* `at?_overlayMembers` — where they meet the tables there are laid over each other; `at?_of_partAt` —
  where they part the one above has the say, and what it has or does not have is taken whole.
* `at?_of_above`, `at?_of_base` — so nothing is lost but what is replaced.
* `overlayMembers_overlayMembers` — laying a table over another once more changes nothing: both tables
  are in order and have the same under each key, by induction on the table above.
* **`overlay_is_pointwise`** — all of this, for the tables of any two files.
-/

namespace LanguageClient

namespace Json

/-- What a value has under one key after another. -/
def at? : (path : List String) → Json → Option Json
  | [], j => some j
  | key :: path, j => (j.get? key).bind (at? path)

theorem at?_append (path rest : List String) (j : Json) :
    j.at? (path ++ rest) = (j.at? path).bind (at? rest) := by
  induction path generalizing j with
  | nil => rfl
  | cons key path ih =>
    rw [List.cons_append, at?, at?, Option.bind_assoc]
    exact congrArg _ (funext ih)

theorem at?_through (path rest : List String) (key : String) (j : Json) :
    j.at? (path ++ key :: rest) = (j.at? (path ++ [key])).bind (at? rest) := by
  rw [← at?_append, List.append_assoc, List.singleton_append]

/-- Only an object has objects in it. -/
theorem exists_members_of_at? {path : List String} {j : Json} {inner : List (String × Json)}
    (h : j.at? path = some (.obj inner)) : ∃ members, j = .obj members := by
  cases path with
  | nil => exact ⟨inner, Option.some.inj h⟩
  | cons key path =>
    cases j with
    | obj members => exact ⟨members, rfl⟩
    | _ => cases h

end Json

namespace Settings

open Json (lookup_put lookup_cons_if HasKey hasKey_iff InOrder)
open Toml (IsValue isValue_obj)

/-- The entries of a table. -/
abbrev Table := List (String × Json)

variable {base above : Table} {key : String}

/-! ## Values -/

theorem overlayValue_tables :
    overlayValue (some (.obj base)) (.obj above) = .obj (overlayMembers base above) := by
  rw [overlayValue]

/-- Only a table is laid over what is below; every other value replaces it. -/
theorem overlayValue_of_not_table {below : Option Json} {v : Json} (h : ∀ above, v ≠ .obj above) :
    overlayValue below v = v := by
  cases v with
  | obj above => exact absurd rfl (h above)
  | _ => rw [overlayValue]; nofun

/-- A table replaces what is no table. -/
theorem overlayValue_over_not_table {below : Option Json} (h : ∀ base, below ≠ some (.obj base)) :
    overlayValue below (.obj above) = .obj above := by
  rw [overlayValue]
  exact h

theorem exists_overlayValue (below : Option Json) (above : Table) :
    ∃ members, overlayValue below (.obj above) = .obj members := by
  by_cases h : ∃ base, below = some (.obj base)
  · obtain ⟨base, rfl⟩ := h
    exact ⟨_, overlayValue_tables⟩
  · exact ⟨_, overlayValue_over_not_table (not_exists.1 h)⟩

theorem overlayValue_none (v : Json) : overlayValue none v = v := by
  cases v with
  | obj above => exact overlayValue_over_not_table nofun
  | _ => exact overlayValue_of_not_table fun _ he => by cases he

/-! ## Members -/

theorem lookup_overlayMembers (h : (above.map Prod.fst).Nodup) (key : String) :
    (overlayMembers base above).lookup key =
      match above.lookup key with
      | some v => some (overlayValue (base.lookup key) v)
      | none => base.lookup key := by
  induction above generalizing base with
  | nil => rw [overlayMembers]; rfl
  | cons m rest ih =>
    obtain ⟨k, v⟩ := m
    obtain ⟨hk, hrest⟩ := List.nodup_cons.1 h
    rw [overlayMembers, ih hrest, lookup_put, lookup_cons_if]
    by_cases heq : key = k
    · subst heq
      have hnone : rest.lookup key = none := by
        refine List.lookup_eq_none_iff.2 fun m hm => bne_iff_ne.2 fun he => hk ?_
        exact List.mem_map.2 ⟨m, hm, he.symm⟩
      rw [hnone, if_pos rfl, if_pos rfl]
    · rw [if_neg heq, if_neg heq]

/-! ## Tables of files -/

/-- An empty table is only got by laying empty tables over each other. -/
theorem eq_empty_of_overlayValue {v : Json} (hv : IsValue v) {below? : Option Json}
    (h : overlayValue below? v = .obj []) : v = .obj [] := by
  cases v with
  | obj members =>
    by_cases hmeet : ∃ base, below? = some (.obj base)
    · obtain ⟨base, rfl⟩ := hmeet
      rw [overlayValue_tables] at h
      cases members with
      | nil => rfl
      | cons m rest =>
        have hlookup : (overlayMembers base (m :: rest)).lookup m.1 = _ :=
          lookup_overlayMembers hv.nodup m.1
        rw [Json.obj.inj h, List.lookup_cons_self] at hlookup
        cases hlookup
    · rwa [overlayValue_over_not_table (not_exists.1 hmeet)] at h
  | _ => rwa [overlayValue_of_not_table fun _ he => by cases he] at h

/-- Where one member comes of laying a table that is not empty over another, it has this member. -/
theorem eq_single_of_overlayMembers {members : Table} {e : Json}
    (hv : IsValue (.obj members)) (hne : members ≠ []) (h : overlayMembers base members = [(key, e)]) :
    ∃ v, members = [(key, v)] ∧ overlayValue (base.lookup key) v = e := by
  have hlookup (other : String) : [(key, e)].lookup other = _ :=
    h.symm ▸ lookup_overlayMembers hv.nodup other
  have hkey : ∀ m ∈ members, m.1 = key := by
    intro m hm
    cases hfound : members.lookup m.1 with
    | none => exact absurd rfl (bne_iff_ne.1 (List.lookup_eq_none_iff.1 hfound m hm))
    | some v =>
      have hone := hlookup m.1
      rw [hfound, lookup_cons_if] at hone
      split at hone
      · assumption
      · cases hone
  rcases members with - | ⟨⟨k, v⟩, rest⟩
  · exact absurd rfl hne
  · obtain rfl := hkey _ List.mem_cons_self
    cases rest with
    | nil =>
      have hone := hlookup k
      rw [List.lookup_cons_self, List.lookup_cons_self] at hone
      exact ⟨v, rfl, (Option.some.inj hone).symm⟩
    | cons m rest =>
      have hlt := List.rel_of_pairwise_cons (isValue_obj.1 hv).1 List.mem_cons_self
      rw [hkey m (List.mem_cons_of_mem _ List.mem_cons_self)] at hlt
      exact absurd hlt (String.lt_irrefl _)

theorem isValue_overlayValue {v : Json} (h : IsValue v) {below : Option Json}
    (hbelow : ∀ b, below = some b → IsValue b) : IsValue (overlayValue below v) := by
  induction h generalizing below with
  | @scalar v h =>
    rw [overlayValue_of_not_table fun above he => by subst he; exact h]
    exact .scalar h
  | @arr items h =>
    rw [overlayValue_of_not_table fun above he => by cases he]
    exact .arr h
  | @obj above order h ih =>
    -- Laying a table's entries one after another keeps what is below a table of a file.
    have members (base : Table) (hbase : IsValue (.obj base)) :
        IsValue (.obj (overlayMembers base above)) := by
      clear h order
      induction above generalizing base with
      | nil => rwa [overlayMembers]
      | cons m rest ihrest =>
        obtain ⟨hm, hrest⟩ := List.forall_mem_cons.1 ih
        rw [overlayMembers]
        exact ihrest hrest _ (hbase.put (hm fun b hb => hbase.lookup hb))
    by_cases hbase : ∃ base, below = some (.obj base)
    · obtain ⟨base, rfl⟩ := hbase
      rw [overlayValue_tables]
      exact members base (hbelow _ rfl)
    · rw [overlayValue_over_not_table (not_exists.1 hbase)]
      exact .obj order h

theorem isValue_overlayMembers (hbase : IsValue (.obj base)) (h : IsValue (.obj above)) :
    IsValue (.obj (overlayMembers base above)) := by
  rw [← overlayValue_tables]
  exact isValue_overlayValue h fun b hb => by cases hb; exact hbase

/-! ## Entries of records -/

variable {record : String}

/-- What a table has under a key of one of its records. -/
def valueAt? (record key : String) (table : Table) : Option Json :=
  (table.lookup record).bind (Json.get? key)

theorem isValue_valueAt {table : Table} {v : Json} (h : IsValue (.obj table))
    (hentry : valueAt? record key table = some v) : IsValue v := by
  obtain ⟨w, hfound, hv⟩ := Option.bind_eq_some_iff.1 hentry
  cases w with
  | obj members => exact (h.lookup hfound).lookup hv
  | _ => cases hv

/-- The record is a table, if it is there. -/
def IsTableAt (record : String) (table : Table) : Prop :=
  ∀ v, table.lookup record = some v → ∃ members, v = .obj members

section Records

variable (hvalue : IsValue (.obj above)) (hbase : IsTableAt record base)
  (habove : IsTableAt record above)

include hvalue hbase habove

theorem isTableAt_overlayMembers : IsTableAt record (overlayMembers base above) := by
  intro v hlookup
  rw [lookup_overlayMembers hvalue.nodup] at hlookup
  cases hfound : above.lookup record with
  | none =>
    rw [hfound] at hlookup
    exact hbase v hlookup
  | some w =>
    rw [hfound] at hlookup
    cases hlookup
    obtain ⟨members, rfl⟩ := habove w hfound
    exact exists_overlayValue _ _

/-- Where records are tables, an entry above is laid over the entry below. -/
theorem valueAt?_overlayMembers (key : String) :
    valueAt? record key (overlayMembers base above) =
      match valueAt? record key above with
      | some v => some (overlayValue (valueAt? record key base) v)
      | none => valueAt? record key base := by
  simp only [valueAt?]
  rw [lookup_overlayMembers hvalue.nodup]
  cases hfound : above.lookup record with
  | none => rfl
  | some w =>
    obtain ⟨members, rfl⟩ := habove w hfound
    simp only [Option.bind_some, Json.get?]
    cases hunder : base.lookup record with
    | none =>
      rw [overlayValue_none]
      cases hentry : members.lookup key with
      | none => exact hentry
      | some v =>
        simp only [Option.bind_none, overlayValue_none]
        exact hentry
    | some w' =>
      obtain ⟨others, rfl⟩ := hbase w' hunder
      rw [overlayValue_tables]
      exact lookup_overlayMembers (hvalue.lookup hfound).nodup key

end Records

/-! ## Paths -/

variable {b a : Table} {path : List String} {v : Json}

/-- **Where both have a table these are laid over each other.** -/
theorem at?_overlayMembers (habove : IsValue (.obj above))
    (hb : (Json.obj base).at? path = some (.obj b)) (ha : (Json.obj above).at? path = some (.obj a)) :
    (Json.obj (overlayMembers base above)).at? path = some (.obj (overlayMembers b a)) := by
  induction path generalizing base above with
  | nil =>
    cases hb
    cases ha
    rfl
  | cons key path ih =>
    obtain ⟨under, hunder, hb⟩ := Option.bind_eq_some_iff.1 hb
    obtain ⟨upper, hupper, ha⟩ := Option.bind_eq_some_iff.1 ha
    obtain ⟨base', rfl⟩ := Json.exists_members_of_at? hb
    obtain ⟨above', rfl⟩ := Json.exists_members_of_at? ha
    have hlookup : (overlayMembers base above).lookup key =
        some (.obj (overlayMembers base' above')) := by
      rw [lookup_overlayMembers habove.nodup, show above.lookup key = _ from hupper,
        show base.lookup key = _ from hunder]
      exact congrArg some overlayValue_tables
    exact Option.bind_eq_some_iff.2 ⟨_, hlookup, ih (habove.lookup hupper) hb ha⟩

theorem hasKey_overlayMembers (h : IsValue (.obj above)) (key : String) :
    HasKey key (.obj (overlayMembers base above)) ↔
      HasKey key (.obj base) ∨ HasKey key (.obj above) := by
  simp only [hasKey_iff, Json.get?, lookup_overlayMembers h.nodup]
  cases above.lookup key <;> simp

theorem isValue_at {j : Json} (h : IsValue j) (hv : j.at? path = some v) : IsValue v := by
  induction path generalizing j with
  | nil =>
    cases hv
    exact h
  | cons key path ih =>
    obtain ⟨w, hw, hrest⟩ := Option.bind_eq_some_iff.1 hv
    cases j with
    | obj members => exact ih (h.lookup hw) hrest
    | _ => cases hw

/-- Both tables have a table at the path. -/
def MeetAt (base above : Table) (path : List String) : Prop :=
  (∃ b, (Json.obj base).at? path = some (.obj b)) ∧ ∃ a, (Json.obj above).at? path = some (.obj a)

/-- Both tables have a table at the end of the path, but not under the next key. -/
def PartAt (base above : Table) (path : List String) (key : String) : Prop :=
  MeetAt base above path ∧ ¬ MeetAt base above (path ++ [key])

/-- Along every path the two tables meet up to its end or part somewhere. -/
theorem meet_or_part (base above : Table) (path : List String) :
    MeetAt base above path ∨
      ∃ before key after, path = before ++ key :: after ∧ PartAt base above before key := by
  induction path using List.reverseRecOn with
  | nil => exact .inl ⟨⟨base, rfl⟩, above, rfl⟩
  | append_singleton path key ih =>
    rcases ih with hmeet | ⟨before, k, after, rfl, hpart⟩
    · by_cases hnext : MeetAt base above (path ++ [key])
      · exact .inl hnext
      · exact .inr ⟨path, key, [], rfl, hmeet, hnext⟩
    · exact .inr ⟨before, k, after ++ [key], by simp, hpart⟩

/-- **Where the tables part there is what the one above has there, and else what the one below has**,
with all that is in it. -/
theorem at?_of_partAt (habove : IsValue (.obj above)) (h : PartAt base above path key)
    (rest : List String) :
    (Json.obj (overlayMembers base above)).at? (path ++ key :: rest) =
      (((Json.obj above).at? (path ++ [key])).or ((Json.obj base).at? (path ++ [key]))).bind
        (Json.at? rest) := by
  obtain ⟨⟨⟨b, hb⟩, a, ha⟩, hpart⟩ := h
  have hnext {t u : Table} (htable : (Json.obj t).at? path = some (.obj u)) :
      (Json.obj t).at? (path ++ [key]) = u.lookup key := by
    rw [Json.at?_append, htable, Option.bind_some]
    exact Option.bind_fun_some (u.lookup key)
  rw [Json.at?_through, hnext (at?_overlayMembers habove hb ha), hnext hb, hnext ha,
    lookup_overlayMembers (isValue_at habove ha).nodup]
  cases hover : a.lookup key with
  | none => rfl
  | some w =>
    have hwhole : overlayValue (b.lookup key) w = w := by
      by_cases htable : ∃ above', w = .obj above'
      · obtain ⟨above', rfl⟩ := htable
        refine overlayValue_over_not_table fun base' hunder => hpart ?_
        exact ⟨⟨base', (hnext hb).trans hunder⟩, above', (hnext ha).trans hover⟩
      · exact overlayValue_of_not_table (not_exists.1 htable)
    exact congrArg (fun w => (some w).bind (Json.at? rest)) hwhole

/-! ## Nothing is lost -/

/-- Where the table above has a value there it is, unless both have tables. -/
theorem at?_of_above (habove : IsValue (.obj above)) (hv : (Json.obj above).at? path = some v) :
    MeetAt base above path ∨ (Json.obj (overlayMembers base above)).at? path = some v := by
  refine (meet_or_part base above path).imp_right ?_
  rintro ⟨before, key, after, rfl, hpart⟩
  rw [Json.at?_through] at hv
  rw [at?_of_partAt habove hpart, ← hv]
  cases hover : (Json.obj above).at? (before ++ [key]) with
  | none =>
    rw [hover] at hv
    cases hv
  | some w => rfl

/-- The value there is replaced, alone or with the table that it is in, by one of the table above. -/
def IsReplaced (base above : Table) (path : List String) : Prop :=
  ∃ before key after w, path = before ++ key :: after ∧ PartAt base above before key ∧
    (Json.obj above).at? (before ++ [key]) = some w

/-- Where the table below has a value there it is, unless both have tables or the one above replaces
it. -/
theorem at?_of_base (habove : IsValue (.obj above)) (hv : (Json.obj base).at? path = some v) :
    MeetAt base above path ∨ IsReplaced base above path ∨
      (Json.obj (overlayMembers base above)).at? path = some v := by
  refine (meet_or_part base above path).imp_right ?_
  rintro ⟨before, key, after, rfl, hpart⟩
  cases hover : (Json.obj above).at? (before ++ [key]) with
  | none =>
    refine .inr ?_
    rw [at?_of_partAt habove hpart, hover, Option.none_or, ← Json.at?_through, hv]
  | some w => exact .inl ⟨before, key, after, w, rfl, hpart, hover⟩

/-! ## Laying a table twice -/

theorem inOrder_overlayMembers (hbase : IsValue (.obj base)) (habove : IsValue (.obj above)) :
    InOrder (overlayMembers base above) :=
  (isValue_obj.1 (isValue_overlayMembers hbase habove)).1

/-- Laying a table over the empty one changes nothing. -/
theorem overlayMembers_empty (h : IsValue (.obj above)) : overlayMembers [] above = above := by
  refine (inOrder_overlayMembers (.obj .nil nofun) h).ext (isValue_obj.1 h).1 fun key => ?_
  rw [lookup_overlayMembers h.nodup]
  cases above.lookup key with
  | none => rfl
  | some v => exact congrArg some (overlayValue_none v)

theorem overlayValue_overlayValue (h : IsValue v) {below : Option Json}
    (hbelow : ∀ w, below = some w → IsValue w) :
    overlayValue (some (overlayValue below v)) v = overlayValue below v := by
  induction h generalizing below with
  | @scalar v h =>
    have htable (members : Table) : v ≠ .obj members := fun he => by subst he; exact h
    rw [overlayValue_of_not_table htable, overlayValue_of_not_table htable]
  | @arr items h =>
    have htable (members : Table) : Json.arr items ≠ .obj members := nofun
    rw [overlayValue_of_not_table htable, overlayValue_of_not_table htable]
  | @obj above order h ih =>
    have habove : IsValue (.obj above) := .obj order h
    -- what is below may be taken for a table, the empty one if it is none
    have members (base : Table) (hbase : IsValue (.obj base)) :
        overlayMembers (overlayMembers base above) above = overlayMembers base above := by
      have hmerged := isValue_overlayMembers hbase habove
      refine (inOrder_overlayMembers hmerged habove).ext (isValue_obj.1 hmerged).1 fun key => ?_
      rw [lookup_overlayMembers habove.nodup, lookup_overlayMembers habove.nodup]
      cases hover : above.lookup key with
      | none => rfl
      | some w =>
        have hmem := (Json.lookup_eq_some habove.nodup).1 hover
        exact congrArg some (ih _ hmem fun w hw => hbase.lookup hw)
    by_cases hbase : ∃ base, below = some (.obj base)
    · obtain ⟨base, rfl⟩ := hbase
      rw [overlayValue_tables, overlayValue_tables, members base (hbelow _ rfl)]
    · have hempty := members [] (.obj .nil nofun)
      rw [overlayMembers_empty habove] at hempty
      rw [overlayValue_over_not_table (not_exists.1 hbase), overlayValue_tables, hempty]

/-- **Laying a table over another once more changes nothing.** -/
theorem overlayMembers_overlayMembers (hbase : IsValue (.obj base)) (h : IsValue (.obj above)) :
    overlayMembers (overlayMembers base above) above = overlayMembers base above := by
  have hagain : overlayValue (some (overlayValue (some (.obj base)) (.obj above))) (.obj above) =
      overlayValue (some (.obj base)) (.obj above) :=
    overlayValue_overlayValue h fun w hw => by cases hw; exact hbase
  simp only [overlayValue_tables] at hagain
  exact Json.obj.inj hagain

theorem overlayMembers_self (h : IsValue (.obj above)) : overlayMembers above above = above := by
  have hagain : overlayMembers (overlayMembers [] above) above = overlayMembers [] above :=
    overlayMembers_overlayMembers (.obj .nil nofun) h
  rwa [overlayMembers_empty h] at hagain

/-! ## Tables -/

/-- **One table laid over another is both of them, path by path.**  Where both have tables there is a
table that has the keys of both, which are laid over each other in turn; where they part there is what
the table above has, if it has anything there, and else what the table below has, whole.  So all of the
table above is there, and all of the table below but what is replaced; laying the empty table changes
nothing, nor does laying a table over itself or over another once more. -/
theorem overlay_is_pointwise (hbase : IsValue (.obj base)) (habove : IsValue (.obj above)) :
    (∀ path b a, (Json.obj base).at? path = some (.obj b) →
      (Json.obj above).at? path = some (.obj a) →
        (Json.obj (overlayMembers base above)).at? path = some (.obj (overlayMembers b a)) ∧
        ∀ key, HasKey key (.obj (overlayMembers b a)) ↔ HasKey key (.obj b) ∨ HasKey key (.obj a)) ∧
    (∀ path key, PartAt base above path key → ∀ rest,
      (Json.obj (overlayMembers base above)).at? (path ++ key :: rest) =
        (((Json.obj above).at? (path ++ [key])).or ((Json.obj base).at? (path ++ [key]))).bind
          (Json.at? rest)) ∧
    (∀ path v, (Json.obj above).at? path = some v →
      MeetAt base above path ∨ (Json.obj (overlayMembers base above)).at? path = some v) ∧
    (∀ path v, (Json.obj base).at? path = some v →
      MeetAt base above path ∨ IsReplaced base above path ∨
        (Json.obj (overlayMembers base above)).at? path = some v) ∧
    overlayMembers base [] = base ∧ overlayMembers [] above = above ∧
    overlayMembers above above = above ∧
    overlayMembers (overlayMembers base above) above = overlayMembers base above := by
  refine ⟨fun path b a hb ha => ⟨at?_overlayMembers habove hb ha, ?_⟩,
    fun path key hpart => at?_of_partAt habove hpart, fun path v => at?_of_above habove,
    fun path v => at?_of_base habove, by rw [overlayMembers], overlayMembers_empty habove,
    overlayMembers_self habove, overlayMembers_overlayMembers hbase habove⟩
  exact hasKey_overlayMembers (isValue_at habove ha)

/-- A table in a table beside a value, a value, and a table. -/
def lowerText : String := "a.x.p = 1\na.y = 2\nb = 3\nc.q = 4\n"

/-- A table for the value and a value for the table, and more for the table in a table. -/
def upperText : String := "a.x.r = 5\nb.s = 6\nc = 7\n"

theorem overlay_is_pointwise_of_texts :
    ∃ base above, Toml.parse? lowerText = some base ∧ Toml.parse? upperText = some above ∧
      IsValue (.obj base) ∧ IsValue (.obj above) ∧
      (Json.obj (overlayMembers base above)).at? ["a", "x"] =
        some (.obj [("p", .int 1), ("r", .int 5)]) ∧
      (Json.obj (overlayMembers base above)).at? ["a", "y"] = some (.int 2) ∧
      (Json.obj (overlayMembers base above)).at? ["b", "s"] = some (.int 6) ∧
      (Json.obj (overlayMembers base above)).at? ["c"] = some (.int 7) ∧
      overlayMembers (overlayMembers base above) above = overlayMembers base above := by
  let base : Table := [("a", .obj [("x", .obj [("p", .int 1)]), ("y", .int 2)]), ("b", .int 3),
    ("c", .obj [("q", .int 4)])]
  let above : Table := [("a", .obj [("x", .obj [("r", .int 5)])]), ("b", .obj [("s", .int 6)]),
    ("c", .int 7)]
  have hlower : Toml.parse? lowerText = some base := by cbv
  have hupper : Toml.parse? upperText = some above := by cbv
  have hbase := Toml.parse?_isValue hlower
  have habove := Toml.parse?_isValue hupper
  obtain ⟨hmeet, hpart, -, -, -, -, -, hagain⟩ := overlay_is_pointwise hbase habove
  have htable : PartAt base above [] "b" := by
    refine ⟨⟨⟨_, rfl⟩, _, rfl⟩, ?_⟩
    rintro ⟨⟨b, hb⟩, -⟩
    cases hb
  have hvalue : PartAt base above [] "c" := by
    refine ⟨⟨⟨_, rfl⟩, _, rfl⟩, ?_⟩
    rintro ⟨-, a, ha⟩
    cases ha
  have hlow : PartAt base above ["a"] "y" := by
    refine ⟨⟨⟨_, rfl⟩, _, rfl⟩, ?_⟩
    rintro ⟨⟨b, hb⟩, -⟩
    cases hb
  refine ⟨base, above, hlower, hupper, hbase, habove, ?_, hpart _ _ hlow [], hpart _ _ htable ["s"],
    hpart _ _ hvalue [], hagain⟩
  have hboth := (hmeet ["a", "x"] [("p", .int 1)] [("r", .int 5)] rfl rfl).1
  exact hboth.trans (by cbv)

end Settings

end LanguageClient
