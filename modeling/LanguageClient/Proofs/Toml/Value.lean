import LanguageClient.Proofs.Json.Members
import LanguageClient.Toml.Document

/-!
# What a configuration file can say

Not every `Json` value can stand in a configuration file, and what is read from the table of a file
depends on that: there is no null, and a table binds each key once.

* `IsValue` — the values of a file: no null at any depth, and the members of each table in the order
  of their keys, each key once.
* `Node.IsPlain` — the values as the file gives them, before `Node.value?` sorts them:
  `Node.IsPlain.value` says that a plain node means a value of a file.
* `Gives` — what a reader takes from a text has a property; `gives_value?` says so of the values and
  `gives_line?` of the lines.
* `Entries.IsPlain` — a table under construction holds plain nodes only; every way to put something
  into it keeps that.
* **`parse?_isValue`** — the table of every file is a value of a file.
-/

namespace LanguageClient.Toml

open Json (InOrder inOrder_put mem_put gathered inOrder_gathered mem_gathered)
open Text (Reader)

/-- A value that holds no other. -/
def IsScalar : Json → Prop
  | .null | .arr _ | .obj _ => False
  | _ => True

/-- A value that a configuration file can give. -/
inductive IsValue : Json → Prop
  | scalar {v : Json} (h : IsScalar v) : IsValue v
  | arr {items : List Json} (h : ∀ v ∈ items, IsValue v) : IsValue (.arr items)
  | obj {members : List (String × Json)} (order : InOrder members)
      (h : ∀ m ∈ members, IsValue m.2) : IsValue (.obj members)

theorem IsValue.ne_null {v : Json} (h : IsValue v) : v ≠ .null := by
  rintro rfl
  cases h
  contradiction

theorem isValue_arr {items : List Json} : IsValue (.arr items) ↔ ∀ v ∈ items, IsValue v := by
  refine ⟨fun h => ?_, .arr⟩
  cases h with
  | scalar h => exact h.elim
  | arr h => exact h

theorem isValue_obj {members : List (String × Json)} :
    IsValue (.obj members) ↔ InOrder members ∧ ∀ m ∈ members, IsValue m.2 := by
  refine ⟨fun h => ?_, fun ⟨order, h⟩ => .obj order h⟩
  cases h with
  | scalar h => exact h.elim
  | obj order h => exact ⟨order, h⟩

section Members

variable {key : String} {members : List (String × Json)} {v : Json}

theorem IsValue.put (h : IsValue (.obj members)) (hv : IsValue v) :
    IsValue (.obj (Json.put key v members)) := by
  obtain ⟨order, hmembers⟩ := isValue_obj.1 h
  refine .obj (inOrder_put order) fun m hm => ?_
  rcases mem_put hm with rfl | hm
  · exact hv
  · exact hmembers m hm

theorem IsValue.lookup (h : IsValue (.obj members)) (hlookup : members.lookup key = some v) :
    IsValue v := by
  obtain ⟨before, after, rfl, -⟩ := List.lookup_eq_some_iff.1 hlookup
  exact (isValue_obj.1 h).2 _ (List.mem_append_right _ List.mem_cons_self)

theorem IsValue.nodup (h : IsValue (.obj members)) : (members.map Prod.fst).Nodup :=
  (isValue_obj.1 h).1.nodup

end Members

/-! ## Nodes -/

/-- A node whose scalars are scalars. -/
inductive Node.IsPlain : Node → Prop
  | scalar {v : Json} (h : IsScalar v) : IsPlain (.scalar v)
  | list {items : List Node} (h : ∀ node ∈ items, node.IsPlain) : IsPlain (.list items)
  | table {members : List (String × Node)} (h : ∀ m ∈ members, m.2.IsPlain) :
      IsPlain (.table members)

theorem mem_valuesOf? {nodes : List Node} {vs : List Json} (h : valuesOf? nodes = some vs) {v : Json}
    (hv : v ∈ vs) : ∃ node ∈ nodes, node.value? = some v := by
  induction nodes generalizing vs with
  | nil =>
    cases h
    cases hv
  | cons node nodes ih =>
    simp only [valuesOf?, Option.pure_def, Option.bind_eq_bind, Option.bind_eq_some_iff] at h
    obtain ⟨first, hfirst, rest, hrest, h⟩ := h
    cases h
    rcases List.mem_cons.1 hv with rfl | hv
    · exact ⟨node, List.mem_cons_self, hfirst⟩
    · obtain ⟨other, hmem, hother⟩ := ih hrest hv
      exact ⟨other, List.mem_cons_of_mem _ hmem, hother⟩

theorem mem_membersOf? {nodes : List (String × Node)} {ms : List (String × Json)}
    (h : membersOf? nodes = some ms) {m : String × Json} (hm : m ∈ ms) :
    ∃ node, (m.1, node) ∈ nodes ∧ node.value? = some m.2 := by
  induction nodes generalizing ms with
  | nil =>
    cases h
    cases hm
  | cons named nodes ih =>
    obtain ⟨key, node⟩ := named
    simp only [membersOf?, Option.pure_def, Option.bind_eq_bind, Option.bind_eq_some_iff] at h
    obtain ⟨first, hfirst, rest, hrest, h⟩ := h
    cases h
    rcases List.mem_cons.1 hm with rfl | hm
    · exact ⟨node, List.mem_cons_self, hfirst⟩
    · obtain ⟨other, hmem, hother⟩ := ih hrest hm
      exact ⟨other, List.mem_cons_of_mem _ hmem, hother⟩

/-- The object that is gathered from values of a file is one. -/
theorem isValue_gathered {members : List (String × Json)} (h : ∀ m ∈ members, IsValue m.2) :
    IsValue (.obj (gathered members)) :=
  .obj (inOrder_gathered members) fun m hm => h m (mem_gathered hm)

theorem Node.IsPlain.value {node : Node} (h : node.IsPlain) {v : Json} (hv : node.value? = some v) :
    IsValue v := by
  induction h generalizing v with
  | scalar h =>
    cases hv
    exact .scalar h
  | list h ih =>
    obtain ⟨vs, hvs, rfl⟩ := Option.map_eq_some_iff.1 hv
    refine .arr fun v hv => ?_
    obtain ⟨node, hmem, hvalue⟩ := mem_valuesOf? hvs hv
    exact ih node hmem hvalue
  | @table members h ih =>
    rcases members with - | ⟨⟨key, node⟩, rest⟩
    · cases hv
      exact .obj .nil nofun
    rw [Node.value?] at hv
    split at hv
    · -- The reserved key makes the table a date.
      cases node with
      | scalar s =>
        cases s with
        | str text =>
          obtain ⟨d, -, rfl⟩ := Option.map_eq_some_iff.1 hv
          exact .scalar trivial
        | _ => cases hv
      | _ => cases hv
    · simp only [Option.pure_def, Option.bind_eq_bind, Option.bind_eq_some_iff] at hv
      obtain ⟨first, hfirst, vs, hvs, hv⟩ := hv
      cases hv
      refine isValue_gathered fun m hm => ?_
      rcases List.mem_cons.1 hm with rfl | hm
      · exact ih _ List.mem_cons_self hfirst
      · obtain ⟨other, hmem, hother⟩ := mem_membersOf? hvs hm
        exact ih _ (List.mem_cons_of_mem _ hmem) hother

/-! ## Tables under construction -/

theorem isPlain_table {members : List (String × Node)} :
    (Node.table members).IsPlain ↔ ∀ m ∈ members, m.2.IsPlain :=
  ⟨fun h => by cases h with | table h => exact h, .table⟩

theorem isPlain_list {items : List Node} :
    (Node.list items).IsPlain ↔ ∀ node ∈ items, node.IsPlain :=
  ⟨fun h => by cases h with | list h => exact h, .list⟩

theorem nodesOf_eq (es : Entries) : nodesOf es = es.map fun (k, e) => (k, e.node) := by
  induction es with
  | nil => rfl
  | cons m rest ih => rw [nodesOf, ih]; rfl

theorem rowsOf_eq (tables : List Entries) :
    rowsOf tables = tables.map fun es => .table (nodesOf es) := by
  induction tables with
  | nil => rfl
  | cons es rest ih => rw [rowsOf, ih]; rfl

/-- A property that each step keeps holds at the end. -/
theorem kept_foldlM {σ α : Type} {P : σ → Prop} {step : σ → α → Option σ} {as : List α}
    (hstep : ∀ a ∈ as, ∀ s s', P s → step s a = some s' → P s') {s s' : σ} (h : P s)
    (hfold : as.foldlM step s = some s') : P s' := by
  induction as generalizing s with
  | nil => cases hfold; exact h
  | cons a as ih =>
    obtain ⟨ha, has⟩ := List.forall_mem_cons.1 hstep
    rw [List.foldlM_cons] at hfold
    obtain ⟨s₁, hfirst, hrest⟩ := Option.bind_eq_some_iff.1 hfold
    exact ih has (ha s s₁ h hfirst) hrest

namespace Entries

variable {key : String} {e : Entry} {es sub : Entries}

/-- Entries that leave plain nodes. -/
def IsPlain (es : Entries) : Prop := ∀ m ∈ es, m.2.node.IsPlain

theorem isPlain_nil : IsPlain [] := nofun

theorem isPlain_nodesOf : (∀ m ∈ nodesOf es, m.2.IsPlain) ↔ es.IsPlain := by
  rw [nodesOf_eq, List.forall_mem_map]
  rfl

theorem node_table {origin : Origin} : (Entry.table origin sub).node.IsPlain ↔ sub.IsPlain := by
  rw [Entry.node, isPlain_table, isPlain_nodesOf]

theorem node_tables {earlier : List Entries} :
    (Entry.tables sub earlier).node.IsPlain ↔ sub.IsPlain ∧ ∀ es ∈ earlier, IsPlain es := by
  rw [Entry.node, isPlain_list, List.forall_mem_append, List.forall_mem_singleton, isPlain_table,
    isPlain_nodesOf, and_comm, rowsOf_eq]
  simp only [List.mem_reverse, List.forall_mem_map, isPlain_table, isPlain_nodesOf]

namespace IsPlain

theorem lookup (h : es.IsPlain) (hlookup : es.lookup key = some e) : e.node.IsPlain := by
  obtain ⟨before, after, rfl, -⟩ := List.lookup_eq_some_iff.1 hlookup
  exact h _ (List.mem_append_right _ List.mem_cons_self)

theorem put (h : es.IsPlain) (he : e.node.IsPlain) : (put key e es).IsPlain := by
  fun_induction Entries.put key e es with
  | case1 => exact List.forall_mem_singleton.2 he
  | case2 => exact List.forall_mem_cons.2 ⟨he, (List.forall_mem_cons.1 h).2⟩
  | case3 k v rest hne ih =>
    obtain ⟨hv, hrest⟩ := List.forall_mem_cons.1 h
    exact List.forall_mem_cons.2 ⟨hv, ih hrest⟩

theorem putLast (h : es.IsPlain) (he : e.node.IsPlain) : (putLast key e es).IsPlain :=
  List.forall_mem_append.2
    ⟨fun m hm => h m (List.mem_of_mem_filter hm), List.forall_mem_singleton.2 he⟩

theorem assign? {path : List String} {value : Node} (hvalue : value.IsPlain) {es es' : Entries}
    (h : es.IsPlain) (hassign : assign? path value es = some es') : es'.IsPlain := by
  fun_induction Entries.assign? path value es generalizing es' with
  | case1 => cases hassign
  | case2 => cases hassign; exact h.put hvalue
  | case3 => cases hassign
  | case4 value key next path es hnone ih =>
    obtain ⟨sub, hsub, rfl⟩ := Option.map_eq_some_iff.1 hassign
    exact h.put (node_table.2 (ih hvalue isPlain_nil hsub))
  | case5 value key next path es sub hsome ih =>
    obtain ⟨sub', hsub, rfl⟩ := Option.map_eq_some_iff.1 hassign
    exact h.put (node_table.2 (ih hvalue (node_table.1 (h.lookup hsome)) hsub))
  | case6 => cases hassign
  | case7 value key next path es sub hsome hpath ih =>
    obtain ⟨sub', hsub, rfl⟩ := Option.map_eq_some_iff.1 hassign
    exact h.put (node_table.2 (ih hvalue (node_table.1 (h.lookup hsome)) hsub))
  | case8 => cases hassign
  | case9 value key next path es latest earlier hsome hpath ih =>
    obtain ⟨sub', hsub, rfl⟩ := Option.map_eq_some_iff.1 hassign
    obtain ⟨hlatest, hearlier⟩ := node_tables.1 (h.lookup hsome)
    exact h.put (node_tables.2 ⟨ih hvalue hlatest hsub, hearlier⟩)
  | case10 => cases hassign
  | case11 => cases hassign

theorem assignAll? {lines : List (List String × Node)} (hlines : ∀ l ∈ lines, l.2.IsPlain)
    {es es' : Entries} (h : es.IsPlain) (hassign : assignAll? lines es = some es') :
    es'.IsPlain :=
  kept_foldlM (fun _ hl _ _ h hassign => h.assign? (hlines _ hl) hassign) h hassign

theorem alter? {f : String → Entries → Option Entries}
    (hf : ∀ key es es', es.IsPlain → f key es = some es' → es'.IsPlain) {path : List String}
    {es es' : Entries} (h : es.IsPlain) (halter : alter? f path es = some es') : es'.IsPlain := by
  fun_induction Entries.alter? f path es generalizing es' with
  | case1 => cases halter
  | case2 key es => exact hf key es es' h halter
  | case3 key next path es hnone ih =>
    obtain ⟨sub, hsub, rfl⟩ := Option.map_eq_some_iff.1 halter
    exact h.put (node_table.2 (ih isPlain_nil hsub))
  | case4 key next path es origin sub hsome ih =>
    obtain ⟨sub', hsub, rfl⟩ := Option.map_eq_some_iff.1 halter
    exact h.put (node_table.2 (ih (node_table.1 (h.lookup hsome)) hsub))
  | case5 key next path es latest earlier hsome ih =>
    obtain ⟨sub', hsub, rfl⟩ := Option.map_eq_some_iff.1 halter
    obtain ⟨hlatest, hearlier⟩ := node_tables.1 (h.lookup hsome)
    exact h.put (node_tables.2 ⟨ih hlatest hsub, hearlier⟩)
  | case6 => cases halter

section Section

variable {path : List String} {lines : List (List String × Node)} {es es' : Entries}

theorem open? (hlines : ∀ l ∈ lines, l.2.IsPlain) (h : es.IsPlain)
    (hopen : open? path lines es = some es') : es'.IsPlain := by
  refine h.alter? (fun key es es' h hput => ?_) hopen
  dsimp only at hput
  split at hput
  · obtain ⟨sub, hsub, hput⟩ := Option.bind_eq_some_iff.1 hput
    cases hput
    exact h.putLast (node_table.2 (isPlain_nil.assignAll? hlines hsub))
  · next known hfound =>
    obtain ⟨sub, hsub, hput⟩ := Option.bind_eq_some_iff.1 hput
    cases hput
    have hknown := node_table.1 (h.lookup hfound)
    exact h.putLast (node_table.2 (hknown.assignAll? hlines hsub))
  · cases hput

theorem append? (hlines : ∀ l ∈ lines, l.2.IsPlain) (h : es.IsPlain)
    (happend : append? path lines es = some es') : es'.IsPlain := by
  refine h.alter? (fun key es es' h hput => ?_) happend
  obtain ⟨sub, hsub, hput⟩ := Option.bind_eq_some_iff.1 hput
  have hsub := isPlain_nil.assignAll? hlines hsub
  dsimp only at hput
  split at hput
  · cases hput
    exact h.put (node_tables.2 ⟨hsub, nofun⟩)
  · next latest earlier hfound =>
    cases hput
    exact h.put (node_tables.2 ⟨hsub, List.forall_mem_cons.2 (node_tables.1 (h.lookup hfound))⟩)
  · cases hput

end Section

end IsPlain

end Entries

/-! ## Readers -/

section Yields

variable {α β : Type} {P : α → Prop}

/-- What is taken, if anything is, has a property. -/
def Yields (found : Option (α × List Char)) (P : α → Prop) : Prop :=
  ∀ a rest, found = some (a, rest) → P a

/-- What a reader takes has a property. -/
def Gives (r : Reader α) (P : α → Prop) : Prop := ∀ cs, Yields (r cs) P

theorem yields_none : Yields none P := nofun

theorem yields_some {a : α} {rest : List Char} (h : P a) : Yields (some (a, rest)) P := by
  intro _ _ he
  cases he
  exact h

theorem yields_bind {x : Option β} {f : β → Option (α × List Char)} (h : ∀ b, Yields (f b) P) :
    Yields (x >>= f) P := by
  intro a rest hbind
  obtain ⟨b, -, hb⟩ := Option.bind_eq_some_iff.1 hbind
  exact h b a rest hb

end Yields

section Readers

variable {value : Reader Node}

theorem gives_itemsLoop? (h : Gives value Node.IsPlain) (fuel : Nat) :
    Gives (itemsLoop? value fuel) fun nodes => ∀ node ∈ nodes, node.IsPlain := by
  induction fuel with
  | zero => nofun
  | succ fuel ih =>
    intro cs nodes rest hread
    rw [itemsLoop?] at hread
    split at hread
    · cases hread
      nofun
    · obtain ⟨⟨v, behind⟩, hv, hread⟩ := Option.bind_eq_some_iff.1 hread
      have hv := h _ _ _ hv
      dsimp only at hread
      split at hread
      · cases hread
        exact List.forall_mem_singleton.2 hv
      · obtain ⟨⟨vs, behind⟩, hvs, hread⟩ := Option.bind_eq_some_iff.1 hread
        cases hread
        exact List.forall_mem_cons.2 ⟨hv, ih _ _ _ hvs⟩
      · cases hread

theorem gives_keyValue? (h : Gives value Node.IsPlain) :
    Gives (keyValue? value) fun l => l.2.IsPlain := by
  intro cs l rest hread
  obtain ⟨⟨path, behind⟩, -, hread⟩ := Option.bind_eq_some_iff.1 hread
  dsimp only at hread
  split at hread
  · obtain ⟨⟨v, behind⟩, hv, hread⟩ := Option.bind_eq_some_iff.1 hread
    cases hread
    exact h _ _ _ hv
  · cases hread

theorem gives_membersLoop? (h : Gives value Node.IsPlain) (fuel : Nat) :
    Gives (membersLoop? value fuel) fun lines => ∀ l ∈ lines, l.2.IsPlain := by
  induction fuel with
  | zero => nofun
  | succ fuel ih =>
    intro cs lines rest hread
    obtain ⟨⟨l, behind⟩, hl, hread⟩ := Option.bind_eq_some_iff.1 hread
    have hl := gives_keyValue? h _ _ _ hl
    dsimp only at hread
    split at hread
    · cases hread
      exact List.forall_mem_singleton.2 hl
    · obtain ⟨⟨more, behind⟩, hmore, hread⟩ := Option.bind_eq_some_iff.1 hread
      cases hread
      exact List.forall_mem_cons.2 ⟨hl, ih _ _ _ hmore⟩
    · cases hread

theorem gives_braces? (h : Gives value Node.IsPlain) : Gives (braces? value) Node.IsPlain := by
  intro cs node rest hread
  have filled {lines : List (List String × Node)} (hlines : ∀ l ∈ lines, l.2.IsPlain)
      {es : Entries} (hes : Entries.assignAll? lines [] = some es) :
      (Node.table (nodesOf es)).IsPlain :=
    isPlain_table.2 (Entries.isPlain_nodesOf.2 (Entries.isPlain_nil.assignAll? hlines hes))
  rw [braces?] at hread
  dsimp only at hread
  split at hread
  · obtain ⟨empty, hempty, hread⟩ := Option.bind_eq_some_iff.1 hread
    cases hempty
    obtain ⟨es, hes, hread⟩ := Option.bind_eq_some_iff.1 hread
    cases hread
    exact filled (List.forall_mem_nil _) hes
  · obtain ⟨⟨lines, behind⟩, hlines, hread⟩ := Option.bind_eq_some_iff.1 hread
    obtain ⟨es, hes, hread⟩ := Option.bind_eq_some_iff.1 hread
    cases hread
    exact filled (gives_membersLoop? h _ _ _ _ hlines) hes

end Readers

theorem isScalar_int64? {n : Int} {v : Json} (h : int64? n = some v) : IsScalar v := by
  rw [int64?] at h
  split at h
  · cases h
    trivial
  · cases h

theorem gives_integer? : Gives integer? IsScalar := by
  have based {base : Nat} {p : Char → Bool} : Gives (integer?.based? base p) IsScalar := by
    intro cs v rest hread
    obtain ⟨digits, -, hread⟩ := Option.bind_eq_some_iff.1 hread
    obtain ⟨n, hn, hread⟩ := Option.bind_eq_some_iff.1 hread
    cases hread
    exact isScalar_int64? hn
  intro cs v rest hread
  unfold integer? at hread
  split at hread
  · exact based _ _ _ hread
  · exact based _ _ _ hread
  · exact based _ _ _ hread
  · obtain ⟨digits, -, hread⟩ := Option.bind_eq_some_iff.1 hread
    obtain ⟨n, hn, hread⟩ := Option.bind_eq_some_iff.1 hread
    cases hread
    exact isScalar_int64? hn

theorem gives_float? : Gives float? IsScalar := by
  intro cs
  unfold float?
  rcases sign cs with ⟨negative, rest⟩
  dsimp -zeta only
  extract_lets signed
  split
  · exact yields_some trivial
  · exact yields_some trivial
  · refine yields_bind fun ⟨whole, rest⟩ => ?_
    dsimp -zeta only
    extract_lets ends
    have hends (found : List Char × List Char) : Yields (ends found) IsScalar := by
      rcases found with ⟨fraction, rest⟩
      simp -zeta only [ends]
      extract_lets last
      have hlast (power : Int × List Char) : Yields (last power) IsScalar := by
        simp only [last]
        split
        · exact yields_none
        · exact yields_some trivial
      split
      · exact yields_bind hlast
      · split
        · exact yields_none
        · split
          · split
            · exact yields_none
            · exact yields_bind hlast
          · exact yields_bind hlast
    split
    · exact yields_bind hends
    · exact yields_bind hends

theorem gives_numeric? : Gives numeric? Node.IsPlain := by
  intro cs node rest hread
  rcases Option.or_eq_some_iff.1 hread with hread | ⟨-, hread⟩
  · obtain ⟨d, -, hread⟩ := Option.map_eq_some_iff.1 hread
    cases hread
    exact .scalar trivial
  · obtain ⟨⟨n, behind⟩, hn, hread⟩ := Option.map_eq_some_iff.1 hread
    cases hread
    rcases Option.or_eq_some_iff.1 hn with hn | ⟨-, hn⟩
    · exact .scalar (gives_float? _ _ _ hn)
    · exact .scalar (gives_integer? _ _ _ hn)

/-- **The values of a file are plain**, at any depth. -/
theorem gives_value? (depth : Nat) : Gives (value? depth) Node.IsPlain := by
  induction depth using Nat.strongRecOn with
  | _ depth ih =>
    intro cs node rest hread
    unfold value? at hread
    split at hread
    · obtain ⟨s, -, hread⟩ := Option.map_eq_some_iff.1 hread
      cases hread
      exact .scalar trivial
    · obtain ⟨s, -, hread⟩ := Option.map_eq_some_iff.1 hread
      cases hread
      exact .scalar trivial
    · split at hread
      · cases hread
      · obtain ⟨⟨vs, behind⟩, hvs, hread⟩ := Option.map_eq_some_iff.1 hread
        cases hread
        exact .list (gives_itemsLoop? (ih _ (Nat.lt_succ_self _)) _ _ _ _ hvs)
    · split at hread
      · cases hread
      · exact gives_braces? (ih _ (Nat.lt_succ_self _)) _ _ _ hread
    · cases hread
      exact .scalar trivial
    · cases hread
      exact .scalar trivial
    · exact gives_numeric? _ _ _ hread

/-! ## Lines and sections -/

/-- A line that gives a plain node, if it gives any. -/
def Line.IsPlain : Line → Prop
  | .assignment _ value => value.IsPlain
  | _ => True

theorem gives_line? : Gives line? Line.IsPlain := by
  intro cs
  unfold line?
  split
  · exact yields_bind fun _ => yields_bind fun _ => yields_bind fun _ => yields_some trivial
  · exact yields_bind fun _ => yields_bind fun _ => yields_bind fun _ => yields_some trivial
  · split
    · exact yields_some trivial
    · intro line rest hread
      obtain ⟨⟨⟨path, value⟩, behind⟩, hvalue, hread⟩ := Option.bind_eq_some_iff.1 hread
      obtain ⟨stop, -, hread⟩ := Option.bind_eq_some_iff.1 hread
      cases hread
      exact gives_keyValue? (gives_value? maxDepth) _ _ _ hvalue

theorem isPlain_lines? {fuel : Nat} {cs : List Char} {lines : List Line}
    (h : lines? fuel cs = some lines) : ∀ line ∈ lines, line.IsPlain := by
  induction fuel generalizing cs lines with
  | zero =>
    cases cs with
    | nil => cases h; nofun
    | cons => cases h
  | succ fuel ih =>
    cases cs with
    | nil => cases h; nofun
    | cons c cs =>
      obtain ⟨⟨line, rest⟩, hline, h⟩ := Option.bind_eq_some_iff.1 h
      obtain ⟨more, hmore, h⟩ := Option.bind_eq_some_iff.1 h
      cases h
      exact List.forall_mem_cons.2 ⟨gives_line? _ _ _ hline, ih hmore⟩

/-- A section with plain nodes. -/
def Section.IsPlain (s : Section) : Prop := ∀ l ∈ s.assignments, l.2.IsPlain

theorem isPlain_sections {lines : List Line} (h : ∀ line ∈ lines, line.IsPlain)
    (opening : Opening) : ∀ s ∈ sections opening lines, s.IsPlain := by
  fun_induction sections opening lines with
  | case1 opening => exact List.forall_mem_singleton.2 (List.forall_mem_nil _)
  | case2 opening rest ih => exact ih (List.forall_mem_cons.1 h).2
  | case3 => nofun
  | case4 opening path value rest s more hsections ih =>
    obtain ⟨hvalue, hrest⟩ := List.forall_mem_cons.1 h
    obtain ⟨hs, hmore⟩ := List.forall_mem_cons.1 (hsections ▸ ih hrest)
    exact List.forall_mem_cons.2 ⟨List.forall_mem_cons.2 ⟨hvalue, hs⟩, hmore⟩
  | case5 opening path rest ih =>
    exact List.forall_mem_cons.2 ⟨List.forall_mem_nil _, ih (List.forall_mem_cons.1 h).2⟩
  | case6 opening path rest ih =>
    exact List.forall_mem_cons.2 ⟨List.forall_mem_nil _, ih (List.forall_mem_cons.1 h).2⟩

theorem Section.IsPlain.enter? {s : Section} (hs : s.IsPlain) {es es' : Entries} (h : es.IsPlain)
    (henter : s.enter? es = some es') : es'.IsPlain := by
  unfold Section.enter? at henter
  split at henter
  · exact h.assignAll? hs henter
  · exact h.open? hs henter
  · exact h.append? hs henter

/-- **The table of a file is a value of a file**: no null at any depth, and each key once. -/
theorem parse?_isValue {text : String} {table : List (String × Json)}
    (h : parse? text = some table) : IsValue (.obj table) := by
  obtain ⟨lines, hlines, h⟩ := Option.bind_eq_some_iff.1 h
  obtain ⟨es, hes, h⟩ := Option.bind_eq_some_iff.1 h
  obtain ⟨members, hmembers, h⟩ := Option.bind_eq_some_iff.1 h
  cases h
  have hsections := isPlain_sections (isPlain_lines? hlines) .start
  have hplain : Entries.IsPlain es :=
    kept_foldlM (fun s hs _ _ h henter => (hsections s hs).enter? h henter) Entries.isPlain_nil hes
  refine isValue_gathered fun m hm => ?_
  obtain ⟨node, hnode, hvalue⟩ := mem_membersOf? hmembers hm
  exact (Entries.isPlain_nodesOf.2 hplain _ hnode).value hvalue

end LanguageClient.Toml
