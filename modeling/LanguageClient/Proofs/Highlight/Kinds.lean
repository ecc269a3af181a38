import LanguageClient.Highlight.Payload
import LanguageClient.Proofs.Protocol.Records

/-!
# What a kind can cost

A server may know kinds that the client does not.  Which values are highlight sets is said here without
the decoders, and no condition is put on the value of a kind: it only has to be there.

* `TellsBoth` — a value that says two things, as an object under two keys or as a list of just the two;
  records of two fields are read from exactly these (`decode_pair`).
* `IsRange` — a range that a value says, through two positions (`IsPosition`).
* `SaysKind` — what a value says in the place of a kind; every value says exactly one
  (`saysKind_iff`).
* `IsHighlights` — a highlight set that a payload says, which is the one that is read
  (`IsPayload.decode_eq_ok`).
* `Json.withKinds` — the payload with other values in the place of some kinds.
* **`unrecognised_kinds_cost_nothing`** — whether a payload is read does not depend on its kinds, and
  neither does anything else that is read from it.
-/

namespace LanguageClient

open Decode

variable {j v item : Json} {members : List (String × Json)}

namespace Json

/-- An object that has each of its keys once. -/
def KeysDistinct : Json → Prop
  | .obj members => (members.map Prod.fst).Nodup
  | _ => True

theorem keysDistinct_of_sorted (h : j.sorted = j) : j.KeysDistinct := by
  cases j with
  | obj members =>
    have hgathered : gathered (sortedMembers members) = members := Json.obj.inj h
    exact (hgathered ▸ inOrder_gathered _ : InOrder members).nodup
  | _ => trivial

theorem sorted_of_get? (h : j.sorted = j) {key : String} (hv : j.get? key = some v) :
    v.sorted = v := by
  cases j with
  | obj members =>
    obtain ⟨before, after, rfl, -⟩ := List.lookup_eq_some_iff.1 hv
    exact sorted_member h (List.mem_append_right _ List.mem_cons_self)
  | _ => cases hv

end Json

/-! ## Lists that go together -/

section Lists

variable {α β : Type} {R S : α → β → Prop} {as : List α} {bs : List β}

/-- Lists go together under either of two relations that agree on the items of the first. -/
theorem forall₂_congr_of_mem (h : ∀ a ∈ as, ∀ b, R a b ↔ S a b) :
    List.Forall₂ R as bs ↔ List.Forall₂ S as bs := by
  rw [List.forall₂_iff_zip, List.forall₂_iff_zip]
  refine and_congr_right fun _ => ?_
  exact ⟨fun hall a b hmem => (h a (List.of_mem_zip hmem).1 b).1 (hall hmem),
    fun hall a b hmem => (h a (List.of_mem_zip hmem).1 b).2 (hall hmem)⟩

theorem exists_forall₂ : (∃ bs, List.Forall₂ R as bs) ↔ ∀ a ∈ as, ∃ b, R a b := by
  induction as with
  | nil => simp
  | cons a as ih =>
    rw [List.forall_mem_cons, ← ih]
    simp only [List.forall₂_cons_left_iff]
    constructor
    · rintro ⟨-, b, bs, hb, hbs, rfl⟩
      exact ⟨⟨b, hb⟩, bs, hbs⟩
    · rintro ⟨⟨b, hb⟩, bs, hbs⟩
      exact ⟨_, b, bs, hb, hbs, rfl⟩

/-- Lists that go together still do when the items at each place are changed so that they do. -/
theorem forall₂_mapIdx {f : Nat → α → α} {g : Nat → β → β} (h : List.Forall₂ R as bs)
    (hfg : ∀ i a b, R a b → R (f i a) (g i b)) : List.Forall₂ R (as.mapIdx f) (bs.mapIdx g) := by
  induction h generalizing f g with
  | nil => exact .nil
  | cons hab _ ih =>
    rw [List.mapIdx_cons, List.mapIdx_cons]
    exact .cons (hfg 0 _ _ hab) (ih fun i => hfg (i + 1))

end Lists

/-! ## Values that say two things -/

section Pair

variable {α β γ : Type} {first second : String} {mk : α → β → γ} {readFirst : Decoder α}
  {readSecond : Decoder β} {name : String}

/-- An object that has one value under one key and one under another, or a list of just the two. -/
def HoldsBoth (first second : String) (j v w : Json) : Prop :=
  j.get? first = some v ∧ j.get? second = some w ∨ j = .arr [v, w]

/-- A value that says two things. -/
def TellsBoth (first second : String) (saysFirst : Json → α → Prop) (saysSecond : Json → β → Prop)
    (j : Json) (a : α) (b : β) : Prop :=
  ∃ v w, HoldsBoth first second j v w ∧ saysFirst v a ∧ saysSecond w b

theorem HoldsBoth.sorted {w : Json} (hboth : HoldsBoth first second j v w) (h : j.sorted = j) :
    v.sorted = v ∧ w.sorted = w := by
  rcases hboth with ⟨hv, hw⟩ | rfl
  · exact ⟨Json.sorted_of_get? h hv, Json.sorted_of_get? h hw⟩
  · exact ⟨Json.sorted_item h List.mem_cons_self,
      Json.sorted_item h (List.mem_cons_of_mem _ List.mem_cons_self)⟩

/-- **A record of two fields is read from the values that say both.** -/
theorem decode_pair (hj : j.KeysDistinct) {c : γ} :
    (mk <$> field first readFirst <*> field second readSecond).decode name j = .ok c ↔
      ∃ a b, mk a b = c ∧ TellsBoth first second (Means readFirst) (Means readSecond) j a b := by
  cases j with
  | obj members =>
    have hsource : Source.Distinct (.keyed members) := hj
    simp only [decode_obj, read_seq, read_map, read_field hsource, Source.at?, TellsBoth, HoldsBoth,
      Means, Json.get?, reduceCtorEq, or_false]
    constructor
    · rintro ⟨-, b, ⟨a, ⟨v, hv, ha⟩, rfl⟩, ⟨w, hw, hb⟩, rfl⟩
      exact ⟨a, b, rfl, v, w, ⟨hv, hw⟩, ha, hb⟩
    · rintro ⟨a, b, rfl, v, w, ⟨hv, hw⟩, ha, hb⟩
      exact ⟨_, b, ⟨a, ⟨v, hv, ha⟩, rfl⟩, ⟨w, hw, hb⟩, rfl⟩
  | arr items =>
    have hsource : Source.Distinct (.listed items) := trivial
    simp only [decode_arr, read_seq, read_map, read_field hsource, Source.at?, TellsBoth, HoldsBoth,
      Means, Json.get?, reduceCtorEq, false_and, false_or, Json.arr.injEq]
    constructor
    · rintro ⟨⟨-, b, ⟨a, ⟨v, hv, ha⟩, rfl⟩, ⟨w, hw, hb⟩, rfl⟩, hlength⟩
      refine ⟨a, b, rfl, v, w, ?_, ha, hb⟩
      rcases items with _ | ⟨v', _ | ⟨w', _ | ⟨z, rest⟩⟩⟩
      · cases hv
      · cases hw
      · cases hv
        cases hw
        rfl
      · have hlong : rest.length + 3 ≤ 2 := hlength
        omega
    · rintro ⟨a, b, rfl, v, w, rfl, ha, hb⟩
      exact ⟨⟨_, b, ⟨a, ⟨v, rfl, ha⟩, rfl⟩, ⟨w, rfl, hb⟩, rfl⟩, Nat.le_refl _⟩
  | _ => simp [TellsBoth, HoldsBoth, Json.get?, Fields.decode, refuse]

end Pair

/-! ## Places -/

/-- A value that is this number. -/
def IsWord (v : Json) (n : UInt32) : Prop := v = .int n.toNat

/-- A value that says this position. -/
def IsPosition (v : Json) (p : Position) : Prop :=
  TellsBoth "line" "character" IsWord IsWord v p.line p.character

/-- A value that says this range. -/
def IsRange (v : Json) (r : Range) : Prop :=
  TellsBoth "start" "end" IsPosition IsPosition v r.start r.stop

theorem Position.decode_eq_ok (hv : v.sorted = v) {p : Position} :
    decode v = .ok p ↔ IsPosition v p := by
  refine (decode_pair (Json.keysDistinct_of_sorted hv)).trans ?_
  simp only [TellsBoth, Means, uint32_eq_ok]
  constructor
  · rintro ⟨line, character, rfl, h⟩
    exact h
  · exact fun h => ⟨p.line, p.character, rfl, h⟩

theorem Range.decode_eq_ok (hv : v.sorted = v) {r : Range} : decode v = .ok r ↔ IsRange v r := by
  refine (decode_pair (Json.keysDistinct_of_sorted hv)).trans ?_
  constructor
  · rintro ⟨start, stop, rfl, w, z, hboth, hstart, hstop⟩
    obtain ⟨hw, hz⟩ := hboth.sorted hv
    exact ⟨w, z, hboth, (Position.decode_eq_ok hw).1 hstart, (Position.decode_eq_ok hz).1 hstop⟩
  · rintro ⟨w, z, hboth, hstart, hstop⟩
    obtain ⟨hw, hz⟩ := hboth.sorted hv
    exact ⟨r.start, r.stop, rfl, w, z, hboth, (Position.decode_eq_ok hw).2 hstart,
      (Position.decode_eq_ok hz).2 hstop⟩

/-! ## Kinds -/

/-- What a value says in the place of a kind: an integer the known kind of this number, a string the
known kind of this very name, and every other value a kind that is not known. -/
inductive SaysKind : Json → SymbolKind → Prop
  | number (n : Nat) (kind : SymbolKind) (h : SymbolKind.known[n]? = some kind) :
    SaysKind (.int n) kind
  | name (kind : SymbolKind) (h : kind ∈ SymbolKind.known) : SaysKind (.str kind.name) kind
  | other (v : Json) (number : ∀ n : Nat, n < 14 → v ≠ .int n)
    (name : ∀ kind ∈ SymbolKind.known, v ≠ .str kind.name) : SaysKind v .unknown

theorem saysKind_ofJson (v : Json) : SaysKind v (.ofJson v) := by
  cases v with
  | int n =>
    simp only [SymbolKind.ofJson]
    split
    · next hn =>
      obtain ⟨m, rfl⟩ := Int.eq_ofNat_of_zero_le hn
      rw [Int.toNat_natCast, SymbolKind.ofOrdinal]
      cases hkind : SymbolKind.known[m]? with
      | some kind => exact .number m kind hkind
      | none =>
        refine .other _ (fun k hk he => ?_) nofun
        obtain rfl : m = k := Int.ofNat.inj (Json.int.inj he)
        exact absurd hk (Nat.not_lt_of_le (List.getElem?_eq_none_iff.1 hkind))
    · next hn =>
      refine .other _ (fun k _ he => hn ?_) nofun
      rw [Json.int.inj he]
      exact Int.natCast_nonneg k
  | str s =>
    simp only [SymbolKind.ofJson, SymbolKind.ofName]
    cases hkind : SymbolKind.known.find? (·.name == s) with
    | some kind =>
      obtain rfl : kind.name = s := by simpa using List.find?_some hkind
      exact .name kind (List.mem_of_find?_eq_some hkind)
    | none =>
      refine .other _ nofun fun kind hmem he => ?_
      have hname := List.find?_eq_none.1 hkind kind hmem
      rw [Json.str.inj he] at hname
      simp at hname
  | _ => exact .other _ nofun nofun

/-- **Every value says one kind**, the one that is read. -/
theorem saysKind_iff {kind : SymbolKind} : SaysKind v kind ↔ SymbolKind.ofJson v = kind := by
  refine ⟨fun h => ?_, fun h => h ▸ saysKind_ofJson v⟩
  cases h with
  | number n kind h =>
    rw [SymbolKind.ofJson, if_pos (Int.natCast_nonneg n), Int.toNat_natCast, SymbolKind.ofOrdinal, h]
    rfl
  | name kind h =>
    have hnames : ∀ kind ∈ SymbolKind.known, SymbolKind.ofName kind.name = kind := by decide
    exact hnames kind h
  | other _ hnumber hname =>
    -- what is read is said in one of the three ways, and the first two are excluded
    have h := saysKind_ofJson v
    generalize SymbolKind.ofJson v = kind at h
    cases h with
    | number n _ hkind =>
      exact absurd rfl (hnumber n (List.getElem?_eq_some_iff.1 hkind).1)
    | name kind hkind => exact absurd rfl (hname kind hkind)
    | other => rfl

/-! ## Highlight sets -/

/-- An item that says this symbol. -/
def IsSymbol (item : Json) (s : Symbol) : Prop :=
  ∃ v w, item.get? "range" = some v ∧ IsRange v s.range ∧
    item.get? "kind" = some w ∧ SaysKind w s.kind

/-- A list whose items say these symbols, in the same order. -/
def AreSymbols (v : Json) (symbols : List Symbol) : Prop :=
  ∃ items, v = .arr items ∧ List.Forall₂ IsSymbol items symbols

/-- A payload that says this highlight set: its `uri` is a string, and its `symbols`, if there are any,
are a list. -/
def IsHighlights (payload : Json) (h : HighlightResult) : Prop :=
  payload.get? "uri" = some (.str h.uri) ∧ Gets AreSymbols [] (payload.get? "symbols") h.symbols

/-- An item that is an object with each key once and an orderly range; its kind is any value. -/
def IsItem (item : Json) : Prop :=
  ∃ members, item = .obj members ∧ item.KeysDistinct ∧
    ∀ v, item.get? "range" = some v → v.sorted = v

/-- An object with each key once whose `uri` is no date, as there are none in a message, and whose
symbols are objects. -/
structure IsPayload (payload : Json) : Prop where
  obj : ∃ members, payload = .obj members
  distinct : payload.KeysDistinct
  undated : ∀ text, payload.get? "uri" ≠ some (.date text)
  items : ∀ items, payload.get? "symbols" = some (.arr items) → ∀ item ∈ items, IsItem item

theorem IsItem.decode_eq_ok (h : IsItem item) {s : Symbol} :
    Symbol.decode item = .ok s ↔ IsSymbol item s := by
  obtain ⟨members, rfl, hdistinct, hrange⟩ := h
  refine (decode_pair hdistinct).trans ?_
  constructor
  · rintro ⟨range, kind, rfl, v, w, ⟨hv, hw⟩ | he, ha, hb⟩
    · exact ⟨v, w, hv, (Range.decode_eq_ok (hrange v hv)).1 ha, hw,
        saysKind_iff.2 (Except.ok.inj hb)⟩
    · cases he
  · rintro ⟨v, w, hv, ha, hw, hb⟩
    exact ⟨s.range, s.kind, rfl, v, w, .inl ⟨hv, hw⟩, (Range.decode_eq_ok (hrange v hv)).2 ha,
      congrArg Except.ok (saysKind_iff.1 hb)⟩

theorem listOf_eq_ok (h : ∀ items, v = .arr items → ∀ item ∈ items, IsItem item)
    {symbols : List Symbol} :
    Decode.listOf Symbol.decode v = .ok symbols ↔ AreSymbols v symbols := by
  cases v with
  | arr items =>
    rw [Decode.listOf, mapM_eq_ok,
      forall₂_congr_of_mem fun item hitem s => (h items rfl item hitem).decode_eq_ok]
    simp [AreSymbols]
  | _ => simp [AreSymbols, Decode.listOf, refuse]

/-- **What is read from a payload** is the highlight set that it says. -/
theorem IsPayload.decode_eq_ok {payload : Json} (h : IsPayload payload) {r : HighlightResult} :
    HighlightResult.decode payload = .ok r ↔ IsHighlights payload r := by
  obtain ⟨⟨members, rfl⟩, hdistinct, hundated, hitems⟩ := h
  have hsource : Source.Distinct (.keyed members) := hdistinct
  have hsymbols (symbols : List Symbol) :
      Gets (Means (Decode.listOf Symbol.decode)) [] (members.lookup "symbols") symbols ↔
        Gets AreSymbols [] (members.lookup "symbols") symbols := by
    have hlist (v : Json) (hv : members.lookup "symbols" = some v) :=
      @listOf_eq_ok v (fun items he => hitems items (hv.trans (congrArg some he))) symbols
    exact ⟨fun hgets => hgets.imp fun v hv => (hlist v hv).1,
      fun hgets => hgets.imp fun v hv => (hlist v hv).2⟩
  rw [HighlightResult.decode, decode_obj]
  simp only [HighlightResult.fields, read_seq, read_map, read_field hsource, read_fieldOr hsource,
    Source.at?, hsymbols, string_eq_ok]
  constructor
  · rintro ⟨-, symbols, ⟨uri, ⟨v, hv, rfl | rfl⟩, rfl⟩, hall, rfl⟩
    · exact ⟨hv, hall⟩
    · exact absurd hv (hundated uri)
  · rintro ⟨huri, hall⟩
    exact ⟨_, r.symbols, ⟨r.uri, ⟨_, huri, .inl rfl⟩, rfl⟩, hall, rfl⟩

theorem exists_isSymbol :
    (∃ s, IsSymbol item s) ↔
      (∃ v range, item.get? "range" = some v ∧ IsRange v range) ∧ Json.HasKey "kind" item := by
  rw [Json.hasKey_iff, Option.isSome_iff_exists]
  constructor
  · rintro ⟨s, v, w, hv, hrange, hw, -⟩
    exact ⟨⟨v, s.range, hv, hrange⟩, w, hw⟩
  · rintro ⟨⟨v, range, hv, hrange⟩, w, hw⟩
    exact ⟨⟨range, .ofJson w⟩, v, w, hv, hrange, hw, saysKind_ofJson w⟩

/-- The payloads that say a highlight set. -/
theorem exists_isHighlights {payload : Json} :
    (∃ r, IsHighlights payload r) ↔
      (∃ uri, payload.get? "uri" = some (.str uri)) ∧
        ∀ v, payload.get? "symbols" = some v →
          ∃ items, v = .arr items ∧ ∀ item ∈ items, ∃ s, IsSymbol item s := by
  have hitems (v : Json) : (∃ symbols, AreSymbols v symbols) ↔
      ∃ items, v = .arr items ∧ ∀ item ∈ items, ∃ s, IsSymbol item s := by
    simp only [← exists_forall₂, AreSymbols]
    constructor
    · rintro ⟨symbols, items, rfl, h⟩
      exact ⟨items, rfl, symbols, h⟩
    · rintro ⟨items, rfl, symbols, h⟩
      exact ⟨symbols, items, rfl, h⟩
  have hsymbols : (∃ symbols, Gets AreSymbols [] (payload.get? "symbols") symbols) ↔ _ := exists_gets
  simp only [hitems] at hsymbols
  rw [← hsymbols]
  constructor
  · rintro ⟨r, huri, h⟩
    exact ⟨⟨r.uri, huri⟩, r.symbols, h⟩
  · rintro ⟨⟨uri, huri⟩, symbols, h⟩
    exact ⟨⟨uri, symbols⟩, huri, h⟩

/-! ## Other kinds -/

namespace Json

/-- The object with something else under a key, if it has the key. -/
def rebind (key : String) (f : Json → Json) : Json → Json
  | .obj members => .obj (members.map fun m => (m.1, if m.1 = key then f m.2 else m.2))
  | j => j

theorem get?_rebind (key : String) (f : Json → Json) (j : Json) (k : String) :
    (j.rebind key f).get? k = (j.get? k).map fun v => if k = key then f v else v := by
  cases j with
  | obj members =>
    simp only [rebind, get?]
    induction members with
    | nil => rfl
    | cons m members ih =>
      obtain ⟨k', v⟩ := m
      rw [List.map_cons, lookup_cons_if, lookup_cons_if, ih]
      by_cases hk : k = k'
      · rw [if_pos hk, if_pos hk, Option.map_some, hk]
      · rw [if_neg hk, if_neg hk]
  | _ => rfl

theorem keysDistinct_rebind (h : j.KeysDistinct) (key : String) (f : Json → Json) :
    (j.rebind key f).KeysDistinct := by
  cases j with
  | obj members =>
    rw [rebind, KeysDistinct, List.map_map]
    exact h
  | _ => exact h

/-- The item with another kind, if there is one. -/
def withKind (item : Json) (v? : Option Json) : Json := item.rebind "kind" (v?.getD ·)

/-- The items with other kinds for those for which there are. -/
def itemsWithKinds (new : Nat → Option Json) : Json → Json
  | .arr items => .arr (items.mapIdx fun i item => item.withKind (new i))
  | v => v

/-- The payload with other kinds for the symbols for which there are. -/
def withKinds (new : Nat → Option Json) : Json → Json := rebind "symbols" (itemsWithKinds new)

end Json

variable {new : Nat → Option Json} {payload : Json}

/-- The symbol with the kind that another value says, if there is one. -/
def Symbol.withKind (s : Symbol) (v? : Option Json) : Symbol :=
  { s with kind := (v?.map SymbolKind.ofJson).getD s.kind }

def HighlightResult.withKinds (new : Nat → Option Json) (r : HighlightResult) : HighlightResult :=
  { r with symbols := r.symbols.mapIdx fun i s => s.withKind (new i) }

theorem HighlightResult.ranges_withKinds (new : Nat → Option Json) (r : HighlightResult) :
    (r.withKinds new).symbols.map Symbol.range = r.symbols.map Symbol.range := by
  refine List.ext_getElem? fun i => ?_
  rw [withKinds, List.getElem?_map, List.getElem?_mapIdx, Option.map_map, List.getElem?_map]
  rfl

theorem get?_withKind_range (v? : Option Json) :
    (item.withKind v?).get? "range" = item.get? "range" :=
  (Json.get?_rebind _ _ item "range").trans Option.map_id'

theorem get?_withKind_kind (v? : Option Json) :
    (item.withKind v?).get? "kind" = (item.get? "kind").map (v?.getD ·) :=
  Json.get?_rebind _ _ item "kind"

theorem IsItem.withKind (h : IsItem item) (v? : Option Json) : IsItem (item.withKind v?) := by
  obtain ⟨members, rfl, hdistinct, hrange⟩ := h
  refine ⟨_, rfl, Json.keysDistinct_rebind hdistinct _ _, fun range hget => hrange range ?_⟩
  exact (get?_withKind_range v?).symm.trans hget

theorem IsSymbol.withKind {s : Symbol} (h : IsSymbol item s) (v? : Option Json) :
    IsSymbol (item.withKind v?) (s.withKind v?) := by
  obtain ⟨range, kind, hrange, hsays, hkind, hold⟩ := h
  refine ⟨range, v?.getD kind, (get?_withKind_range v?).trans hrange, hsays, ?_, ?_⟩
  · rw [get?_withKind_kind, hkind]
    rfl
  · cases v? with
    | none => exact hold
    | some v => exact saysKind_ofJson v

/-- Only the kind is another one, and an item without a kind gets none. -/
theorem exists_isSymbol_withKind (v? : Option Json) :
    (∃ s, IsSymbol (item.withKind v?) s) ↔ ∃ s, IsSymbol item s := by
  rw [exists_isSymbol, exists_isSymbol, get?_withKind_range, Json.hasKey_iff, Json.hasKey_iff,
    get?_withKind_kind, Option.isSome_map]

/-- A list of items with new kinds comes from a list of items. -/
theorem itemsWithKinds_eq_arr {items : List Json} :
    v.itemsWithKinds new = .arr items ↔
      ∃ olds, v = .arr olds ∧ items = olds.mapIdx fun i item => item.withKind (new i) := by
  cases v <;> simp [Json.itemsWithKinds, eq_comm]

theorem get?_withKinds_uri : (payload.withKinds new).get? "uri" = payload.get? "uri" := by
  rw [Json.withKinds, Json.get?_rebind]
  exact Option.map_id'

theorem get?_withKinds_symbols :
    (payload.withKinds new).get? "symbols" = (payload.get? "symbols").map (·.itemsWithKinds new) :=
  Json.get?_rebind _ _ _ _

theorem IsPayload.withKinds (h : IsPayload payload) (new : Nat → Option Json) :
    IsPayload (payload.withKinds new) where
  obj := by
    obtain ⟨members, rfl⟩ := h.obj
    exact ⟨_, rfl⟩
  distinct := Json.keysDistinct_rebind h.distinct _ _
  undated text := by
    rw [get?_withKinds_uri]
    exact h.undated text
  items items hitems := by
    rw [get?_withKinds_symbols] at hitems
    obtain ⟨v, hv, hitems⟩ := Option.map_eq_some_iff.1 hitems
    obtain ⟨olds, rfl, rfl⟩ := itemsWithKinds_eq_arr.1 hitems
    intro item hitem
    obtain ⟨i, hi, rfl⟩ := List.mem_mapIdx.1 hitem
    exact (h.items olds hv _ (List.getElem_mem hi)).withKind _

theorem IsHighlights.withKinds {r : HighlightResult} (h : IsHighlights payload r)
    (new : Nat → Option Json) : IsHighlights (payload.withKinds new) (r.withKinds new) := by
  obtain ⟨huri, hsymbols⟩ := h
  refine ⟨get?_withKinds_uri.trans huri, ?_⟩
  rw [get?_withKinds_symbols]
  cases hv : payload.get? "symbols" with
  | none =>
    rw [hv] at hsymbols
    show (r.withKinds new).symbols = []
    rw [HighlightResult.withKinds, show r.symbols = [] from hsymbols]
    rfl
  | some v =>
    rw [hv] at hsymbols
    obtain ⟨items, rfl, hall⟩ := hsymbols
    exact ⟨_, rfl, forall₂_mapIdx hall fun i _ _ h => h.withKind (new i)⟩

/-- A payload with new kinds says a highlight set only if it did before. -/
theorem exists_isHighlights_of_withKinds (h : ∃ r, IsHighlights (payload.withKinds new) r) :
    ∃ r, IsHighlights payload r := by
  rw [exists_isHighlights, get?_withKinds_uri, get?_withKinds_symbols] at h
  obtain ⟨huri, hsymbols⟩ := h
  refine exists_isHighlights.2 ⟨huri, fun v hv => ?_⟩
  obtain ⟨items, hitems, hall⟩ := hsymbols _ (Option.map_eq_some_iff.2 ⟨v, hv, rfl⟩)
  obtain ⟨olds, rfl, rfl⟩ := itemsWithKinds_eq_arr.1 hitems
  refine ⟨olds, rfl, fun item hitem => ?_⟩
  obtain ⟨i, hi, rfl⟩ := List.mem_iff_getElem.1 hitem
  exact (exists_isSymbol_withKind (new i)).1 (hall _ (List.mem_mapIdx.2 ⟨i, hi, rfl⟩))

/-- An object whose members are in order is a payload, if it has no date and its symbols are objects. -/
theorem isPayload_of_sorted (hsorted : (Json.obj members).sorted = .obj members)
    (hundated : ∀ text, members.lookup "uri" ≠ some (.date text))
    (hobjects : ∀ items, members.lookup "symbols" = some (.arr items) →
      ∀ item ∈ items, ∃ fields, item = .obj fields) : IsPayload (.obj members) where
  obj := ⟨members, rfl⟩
  distinct := Json.keysDistinct_of_sorted hsorted
  undated := hundated
  items items hitems item hitem := by
    have hitem' : item.sorted = item := Json.sorted_item (Json.sorted_of_get? hsorted hitems) hitem
    obtain ⟨fields, rfl⟩ := hobjects items hitems item hitem
    exact ⟨fields, rfl, Json.keysDistinct_of_sorted hitem', fun v => Json.sorted_of_get? hitem'⟩

/-! ## The law -/

/-- **A kind that is not known never costs a payload.**  Of an object as it is read, whose symbols are
objects, exactly the highlight set is read that it says: it says one if its `uri` is a string and its
`symbols`, if there are any, are a list whose items have a range and a kind, whatever that is.  With
other values in the place of any kinds it is read if it was read before, as the same set with the kinds
that these values say; the ranges stay.  And what was read is read again from what is written for it. -/
theorem unrecognised_kinds_cost_nothing (hsorted : (Json.obj members).sorted = .obj members)
    (hundated : ∀ text, members.lookup "uri" ≠ some (.date text))
    (hobjects : ∀ items, members.lookup "symbols" = some (.arr items) →
      ∀ item ∈ items, ∃ fields, item = .obj fields) :
    (∀ r, HighlightResult.decode (.obj members) = .ok r ↔ IsHighlights (.obj members) r) ∧
      ((∃ r, HighlightResult.decode (.obj members) = .ok r) ↔
        (∃ uri, members.lookup "uri" = some (.str uri)) ∧
          ∀ v, members.lookup "symbols" = some v → ∃ items, v = .arr items ∧
            ∀ item ∈ items, (∃ w range, item.get? "range" = some w ∧ IsRange w range) ∧
              Json.HasKey "kind" item) ∧
      (∀ v kind, SaysKind v kind ↔ SymbolKind.ofJson v = kind) ∧
      (∀ new r', HighlightResult.decode ((Json.obj members).withKinds new) = .ok r' ↔
        ∃ r, HighlightResult.decode (.obj members) = .ok r ∧ r' = r.withKinds new) ∧
      (∀ new (r : HighlightResult), (r.withKinds new).uri = r.uri ∧
        (r.withKinds new).symbols.map Symbol.range = r.symbols.map Symbol.range) ∧
      ∀ r : HighlightResult, HighlightResult.decode r.toJson.sorted = .ok r ∧
        ∃ j, Json.parse? r.toJson.compact = some j ∧ HighlightResult.decode j = .ok r := by
  have hpayload := isPayload_of_sorted hsorted hundated hobjects
  refine ⟨fun r => hpayload.decode_eq_ok, ?_, fun v kind => saysKind_iff, fun new r' => ?_,
    fun new r => ⟨rfl, r.ranges_withKinds new⟩, fun r => ⟨r.decode_written, ?_⟩⟩
  · simp only [hpayload.decode_eq_ok, exists_isHighlights, exists_isSymbol]
    rfl
  · constructor
    · intro h
      -- some set was read before, and what it becomes with the new kinds is the only one read now
      obtain ⟨r, hr⟩ := exists_isHighlights_of_withKinds
        ⟨r', (hpayload.withKinds new).decode_eq_ok.1 h⟩
      refine ⟨r, hpayload.decode_eq_ok.2 hr, ?_⟩
      have hnew := (hpayload.withKinds new).decode_eq_ok.2 (hr.withKinds new)
      exact Except.ok.inj (h.symm.trans hnew)
    · rintro ⟨r, hr, rfl⟩
      exact (hpayload.withKinds new).decode_eq_ok.2 ((hpayload.decode_eq_ok.1 hr).withKinds new)
  · have hcodec := isCodec_plain HighlightResult.decode_written fun r => r.fits _
    exact hcodec.text r nofun

/-- A payload of a server that knows more: a key that no field has, a kind by its name, one by its
number, and one that is not known. -/
def laterPayload : List (String × Json) :=
  [("symbols", .arr
      [.obj [("kind", .str "FnDef"), ("range", (Range.mk ⟨0, 0⟩ ⟨0, 5⟩).toJson.sorted)],
        .obj [("kind", .int 13), ("range", .arr [.arr [.int 1, .int 0], .arr [.int 1, .int 4]]),
          ("weight", .null)],
        .obj [("kind", .str "fnDef"), ("range", (Range.mk ⟨2, 4⟩ ⟨2, 7⟩).toJson.sorted)]]),
    ("uri", .str "file:///a.aya"), ("version", .int 2)]

/-- A nested object and the floating point number one in the place of the first two kinds, and the
integer four in that of the third. -/
def laterKinds : Nat → Option Json
  | 0 => some (.obj [("weird", .arr [.bool true, .int (-1)])])
  | 1 => some (.float ⟨0x3FF0000000000000⟩)
  | 2 => some (.int 4)
  | _ => none

theorem later_kinds_cost_nothing :
    (∃ r, HighlightResult.decode (.obj laterPayload) = .ok r ∧
      r.symbols.map Symbol.kind = [.fnDef, .primCall, .unknown]) ∧
    ∃ r, HighlightResult.decode ((Json.obj laterPayload).withKinds laterKinds) = .ok r ∧
      r.symbols.map Symbol.kind = [.unknown, .unknown, .conDef] ∧
      r.symbols.map Symbol.range = [⟨⟨0, 0⟩, ⟨0, 5⟩⟩, ⟨⟨1, 0⟩, ⟨1, 4⟩⟩, ⟨⟨2, 4⟩, ⟨2, 7⟩⟩] := by
  have hobjects : ∀ items, laterPayload.lookup "symbols" = some (.arr items) →
      ∀ item ∈ items, ∃ fields, item = .obj fields := by
    intro items hitems
    cases hitems
    simp
  have hundated (text : String) : laterPayload.lookup "uri" ≠ some (.date text) :=
    show some (Json.str "file:///a.aya") ≠ some (.date text) from nofun
  obtain ⟨-, -, -, hkinds, -, -⟩ := unrecognised_kinds_cost_nothing rfl hundated hobjects
  have hread : HighlightResult.decode (.obj laterPayload) = .ok
      ⟨"file:///a.aya", [⟨⟨⟨0, 0⟩, ⟨0, 5⟩⟩, .fnDef⟩, ⟨⟨⟨1, 0⟩, ⟨1, 4⟩⟩, .primCall⟩,
        ⟨⟨⟨2, 4⟩, ⟨2, 7⟩⟩, .unknown⟩]⟩ := rfl
  exact ⟨⟨_, hread, rfl⟩, _, (hkinds laterKinds _).2 ⟨_, hread, rfl⟩, rfl, rfl⟩

end LanguageClient
