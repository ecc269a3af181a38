import LanguageClient.Proofs.Json.Members
import LanguageClient.Proofs.Json.Numeral

/-!
# Values that are written are read

* `Fits` is what a value needs so that its text can be read: it nests at most so deep, its integers
  have 64 bits, and its floating point numbers are among those that are read back.
* `IsRead` — a text that a reader takes from the front, whatever stands behind it;
  `stringBody?_renderChar`, `isRead_number` and `items?_join` are the cases of strings, numbers and rows
  of items, and `isRead_render` is the induction over the value.
* **`parse?_compact`** — the text of such a value denotes the value, with the members of its objects
  sorted.
-/

namespace LanguageClient.Json.Syntax

open Text (Reader)

/-- A text that a reader takes for this value, whatever stands behind it. -/
structure IsRead {α : Type} (read : Reader α) (text : List Char) (a : α) : Prop where
  /-- It begins with a character that neither is a blank nor closes anything. -/
  head : ∃ c cs, text = c :: cs ∧ isBlank c = false ∧ c ≠ ']' ∧ c ≠ '\x7d'
  read : ∀ {rest}, Ends rest → read (text ++ rest) = some (a, rest)

theorem skipBlanks_cons {c : Char} (h : isBlank c = false) (cs : List Char) :
    skipBlanks (c :: cs) = c :: cs := by
  rw [skipBlanks, List.dropWhile_cons_of_neg (by simp [h])]

theorem IsRead.skipBlanks {α : Type} {read : Reader α} {text : List Char} {a : α}
    (h : IsRead read text a) (rest : List Char) : skipBlanks (text ++ rest) = text ++ rest := by
  obtain ⟨c, cs, rfl, hblank, -⟩ := h.head
  exact skipBlanks_cons hblank _

/-! ## Strings -/

theorem hex4?_control : ∀ n < 0x20,
    hex4? '0' '0' (Text.hexDigitSmall (n / 16)) (Text.hexDigitSmall (n % 16)) = some n := by
  decide

/-- A character inside a string is read as this character. -/
theorem stringBody?_renderChar (c : Char) (rest : List Char) :
    stringBody? (renderChar c ++ rest) = (stringBody? rest).map fun (cs, r) => (c :: cs, r) := by
  by_cases hescape : c ∈ ['"', '\\', '\n', '\r', '\t', '\x08', '\x0c']
  · simp only [List.mem_cons, List.not_mem_nil, or_false] at hescape
    rcases hescape with rfl | rfl | rfl | rfl | rfl | rfl | rfl <;>
      simp [renderChar, stringBody?, escape?]
  · simp only [List.mem_cons, List.not_mem_nil, or_false, not_or] at hescape
    obtain ⟨hquote, hback, hfeed, hreturn, htab, hbell, hform⟩ := hescape
    rw [renderChar, if_neg hquote, if_neg hback, if_neg hfeed, if_neg hreturn, if_neg htab,
      if_neg hbell, if_neg hform]
    split
    next hcontrol =>
      have hsmall : c.toNat < 0xD800 := Nat.lt_trans hcontrol (by decide)
      simp only [List.cons_append, List.nil_append, stringBody?, hex4?_control _ hcontrol]
      simp [hsmall, Char.ofNat_toNat]
    next hcontrol => simp [stringBody?, hback, hcontrol]

theorem stringBody?_render (cs rest : List Char) :
    stringBody? (cs.flatMap renderChar ++ '"' :: rest) = some (cs, rest) := by
  induction cs with
  | nil => simp [stringBody?]
  | cons c cs ih => rw [List.flatMap_cons, List.append_assoc, stringBody?_renderChar, ih]; rfl

theorem string?_render (s : String) (rest : List Char) :
    string? (renderString s ++ rest) = some (s, rest) := by
  have htext : renderString s ++ rest = '"' :: (s.toList.flatMap renderChar ++ '"' :: rest) := by
    simp [renderString]
  simp only [htext, string?, stringBody?_render, Option.map_some, String.ofList_toList]

theorem value?_string (depth : Nat) (s : String) (rest : List Char) :
    value? depth (renderString s ++ rest) = some (.str s, rest) := by
  have hread := string?_render s rest
  rw [renderString, List.cons_append, List.cons_append] at hread ⊢
  rw [value?, hread, Option.map_some]

/-! ## Numbers -/

theorem isBlank_of_number {c : Char} (h : c = '-' ∨ c.isDigit = true) :
    isBlank c = false ∧ c ≠ '"' ∧ c ≠ '[' ∧ c ≠ ']' ∧ c ≠ '\x7b' ∧ c ≠ '\x7d' := by
  refine ⟨?_, ?_, ?_, ?_, ?_, ?_⟩
  · by_contra hblank
    simp only [isBlank, Bool.not_eq_false, Bool.or_eq_true, decide_eq_true_eq] at hblank
    rcases hblank with ((rfl | rfl) | rfl) | rfl <;> simp at h
  all_goals rintro rfl; simp at h

theorem value?_number {depth : Nat} {c : Char} (h : c = '-' ∨ c.isDigit = true) (cs : List Char) :
    value? depth (c :: cs) = number? (c :: cs) := by
  obtain ⟨-, hquote, hbracket, -, hbrace, -⟩ := isBlank_of_number h
  unfold value?
  split
  next he => cases he
  next he => cases he; exact absurd rfl hquote
  next he => cases he; exact absurd rfl hbracket
  next he => cases he; exact absurd rfl hbrace
  next he =>
    cases he
    rw [if_pos (by simpa using h)]

/-- A numeral that is read as a number is read wherever it stands. -/
theorem isRead_number {text : List Char} {j : Json} (h : number? text = some (j, []))
    (depth : Nat) : IsRead (value? depth) text j := by
  obtain ⟨c, cs, rfl, hc⟩ := head_of_number h
  obtain ⟨hblank, -, -, hbracket, -, hbrace⟩ := isBlank_of_number hc
  refine ⟨⟨c, cs, rfl, hblank, hbracket, hbrace⟩, fun hends => ?_⟩
  rw [List.cons_append, value?_number hc, ← List.cons_append]
  exact isLocal_number hends h

/-! ## Rows of items -/

/-- Texts with commas between them and a closing character behind. -/
def join (close : Char) : List (List Char) → List Char
  | [] => [close]
  | [text] => text ++ [close]
  | text :: rest => text ++ ',' :: join close rest

theorem length_le_join (close : Char) (texts : List (List Char)) :
    texts.length ≤ (join close texts).length := by
  fun_induction join close texts with
  | case1 => simp
  | case2 text => simp
  | case3 text rest _ ih => simp; omega

section Items

variable {α : Type} {item : Reader α} {close : Char} {row : List (List Char × α)}

theorem itemsLoop?_join (hclose : close = ']' ∨ close = '\x7d') (hrow : row ≠ [])
    (h : ∀ p ∈ row, IsRead item p.1 p.2) {fuel : Nat} (hfuel : row.length ≤ fuel)
    (rest : List Char) :
    itemsLoop? item close fuel (join close (row.map Prod.fst) ++ rest) =
      some (row.map Prod.snd, rest) := by
  have hends (rest : List Char) : Ends (close :: rest) := ends_cons (.inr hclose) rest
  have hblank : isBlank close = false := by rcases hclose with rfl | rfl <;> decide
  have hcomma : ',' ≠ close := by rcases hclose with rfl | rfl <;> decide
  induction row generalizing fuel with
  | nil => exact absurd rfl hrow
  | cons p row ih =>
    obtain ⟨fuel, rfl⟩ : ∃ f, fuel = f + 1 := ⟨fuel - 1, by simp at hfuel; omega⟩
    have hp := h p List.mem_cons_self
    rw [itemsLoop?]
    cases row with
    | nil =>
      have htext : join close ([p].map Prod.fst) ++ rest = p.1 ++ close :: rest := by simp [join]
      rw [htext, hp.skipBlanks, hp.read (hends rest)]
      simp only [skipBlanks_cons hblank, if_true, List.map_cons, List.map_nil]
    | cons q row =>
      have htext : join close ((p :: q :: row).map Prod.fst) ++ rest =
          p.1 ++ ',' :: (join close ((q :: row).map Prod.fst) ++ rest) := by simp [join]
      have hmore := ih (by simp) (fun p' hp' => h p' (List.mem_cons_of_mem _ hp'))
        (Nat.le_of_succ_le_succ hfuel)
      rw [htext, hp.skipBlanks, hp.read (ends_cons (.inl rfl) _)]
      simp only [skipBlanks_cons (show isBlank ',' = false by decide), if_neg hcomma, if_true, hmore,
        Option.map_some]
      rfl

/-- **A row of items is read item by item.** -/
theorem items?_join (hclose : close = ']' ∨ close = '\x7d') (h : ∀ p ∈ row, IsRead item p.1 p.2)
    (rest : List Char) :
    items? item close (join close (row.map Prod.fst) ++ rest) = some (row.map Prod.snd, rest) := by
  have hblank : isBlank close = false := by rcases hclose with rfl | rfl <;> decide
  cases row with
  | nil =>
    show items? item close (close :: rest) = _
    rw [items?, skipBlanks_cons hblank]
    exact if_pos rfl
  | cons p row =>
    have hlength : (p :: row).length ≤ (join close ((p :: row).map Prod.fst) ++ rest).length := by
      have := length_le_join close ((p :: row).map Prod.fst)
      simp at this ⊢
      omega
    have hloop := itemsLoop?_join hclose (List.cons_ne_nil p row) h hlength rest
    obtain ⟨c, cs, hp, hc, hbracket, hbrace⟩ := (h p List.mem_cons_self).head
    obtain ⟨cs', htext⟩ : ∃ cs', join close ((p :: row).map Prod.fst) ++ rest = c :: cs' := by
      cases row with
      | nil => exact ⟨cs ++ close :: rest, by simp [join, hp]⟩
      | cons q row => exact ⟨_, by simp [join, hp]; rfl⟩
    have hne : c ≠ close := by rcases hclose with rfl | rfl <;> assumption
    rw [items?]
    rw [htext] at hloop ⊢
    simp only [skipBlanks_cons hc, if_neg hne, hloop]

end Items

/-! ## Values -/

mutual

/-- A value whose text is read where arrays and objects may nest `depth` deep. -/
def Fits : (depth : Nat) → Json → Prop
  | _, .null | _, .bool _ | _, .str _ => True
  | _, .int n => minInt ≤ n ∧ n ≤ maxInt
  | _, .float x => ReadsBack x
  | depth + 1, .arr items => FitsItems depth items
  | depth + 1, .obj members => FitsMembers depth members
  | _, _ => False

def FitsItems (depth : Nat) : List Json → Prop
  | [] => True
  | j :: rest => Fits depth j ∧ FitsItems depth rest

def FitsMembers (depth : Nat) : List (String × Json) → Prop
  | [] => True
  | (_, j) :: rest => Fits depth j ∧ FitsMembers depth rest

end

def renderMember : String × Json → List Char
  | (key, value) => renderString key ++ ':' :: render value

theorem renderItems_eq (items : List Json) : renderItems items = join ']' (items.map render) := by
  induction items with
  | nil => rfl
  | cons item rest ih =>
    cases rest with
    | nil => rfl
    | cons j rest => rw [renderItems, ih] <;> simp [join]

theorem renderMembers_eq (members : List (String × Json)) :
    renderMembers members = join '\x7d' (members.map renderMember) := by
  induction members with
  | nil => rfl
  | cons m rest ih =>
    cases rest with
    | nil => rfl
    | cons m' rest => rw [renderMembers, ih] <;> simp [join, renderMember]

/-- A member is read as its key and its value. -/
theorem IsRead.member {read : Reader Json} {key : String} {j value : Json}
    (h : IsRead read (render j) value) : IsRead (member? read) (renderMember (key, j)) (key, value) := by
  refine ⟨⟨'"', _, rfl, by decide, by decide, by decide⟩, fun {rest} hends => ?_⟩
  have htext : renderMember (key, j) ++ rest = renderString key ++ (':' :: (render j ++ rest)) := by
    simp [renderMember]
  simp only [member?, htext, string?_render, skipBlanks_cons (show isBlank ':' = false by decide),
    h.skipBlanks, h.read hends, Option.map_some]

theorem isRead_null (depth : Nat) : IsRead (value? depth) (render .null) .null :=
  ⟨⟨'n', _, rfl, by decide, by decide, by decide⟩, fun _ => by rw [render, value?.eq_def]; rfl⟩

theorem isRead_bool (depth : Nat) (b : Bool) : IsRead (value? depth) (render (.bool b)) (.bool b) := by
  cases b with
  | true =>
    exact ⟨⟨'t', _, rfl, by decide, by decide, by decide⟩, fun _ => by rw [render, value?.eq_def]; rfl⟩
  | false =>
    exact ⟨⟨'f', _, rfl, by decide, by decide, by decide⟩, fun _ => by rw [render, value?.eq_def]; rfl⟩

theorem isRead_string (depth : Nat) (s : String) : IsRead (value? depth) (render (.str s)) (.str s) :=
  ⟨⟨'"', _, rfl, by decide, by decide, by decide⟩, fun _ => value?_string depth s _⟩

theorem isRead_array {depth : Nat} {items : List Json}
    (h : ∀ j ∈ items, IsRead (value? depth) (render j) j.sorted) :
    IsRead (value? (depth + 1)) (render (.arr items)) (sorted (.arr items)) := by
  refine ⟨⟨'[', _, rfl, by decide, by decide, by decide⟩, fun {rest} _ => ?_⟩
  have hitems : ∀ p ∈ items.map fun j => (render j, j.sorted), IsRead (value? depth) p.1 p.2 :=
    List.forall_mem_map.2 h
  have hrow := items?_join (.inl rfl) hitems rest
  simp only [List.map_map, Function.comp_def] at hrow
  rw [render, renderItems_eq, List.cons_append, value?, hrow, sorted, sortedItems_eq]
  rfl

theorem isRead_object {depth : Nat} {members : List (String × Json)}
    (h : ∀ m ∈ members, IsRead (value? depth) (render m.2) m.2.sorted) :
    IsRead (value? (depth + 1)) (render (.obj members)) (sorted (.obj members)) := by
  refine ⟨⟨'\x7b', _, rfl, by decide, by decide, by decide⟩, fun {rest} _ => ?_⟩
  have hmembers : ∀ p ∈ members.map fun m => (renderMember m, m.1, m.2.sorted),
      IsRead (member? (value? depth)) p.1 p.2 :=
    List.forall_mem_map.2 fun m hm => (h m hm).member
  have hrow := items?_join (.inr rfl) hmembers rest
  simp only [List.map_map, Function.comp_def] at hrow
  rw [render, renderMembers_eq, List.cons_append, value?]
  have hread : items? (member? (value? depth)) '\x7d' (join '\x7d' (members.map renderMember) ++ rest) = _ := hrow
  rw [hread, sorted, sortedMembers_eq]
  rfl

mutual

/-- **The text of a value is read as the value**, the members of its objects sorted. -/
theorem isRead_render {depth : Nat} : (j : Json) → Fits depth j →
    IsRead (value? depth) (render j) j.sorted
  | .null, _ => isRead_null depth
  | .bool b, _ => isRead_bool depth b
  | .int n, h => isRead_number (number?_int (by simpa only [Fits] using h)) depth
  | .float x, h => isRead_number (show ReadsBack x by simpa only [Fits] using h) depth
  | .str s, _ => isRead_string depth s
  | .arr items, h => by
    cases depth with
    | zero => simp only [Fits] at h
    | succ depth =>
      rw [Fits] at h
      exact isRead_array (isRead_items items h)
  | .obj members, h => by
    cases depth with
    | zero => simp only [Fits] at h
    | succ depth =>
      rw [Fits] at h
      exact isRead_object (isRead_members members h)
  | .date _, h => by simp only [Fits] at h

theorem isRead_items {depth : Nat} : (items : List Json) → FitsItems depth items →
    ∀ j ∈ items, IsRead (value? depth) (render j) j.sorted
  | [], _ => by simp
  | j :: rest, h =>
    List.forall_mem_cons.2 ⟨isRead_render j h.1, isRead_items rest h.2⟩

theorem isRead_members {depth : Nat} : (members : List (String × Json)) → FitsMembers depth members →
    ∀ m ∈ members, IsRead (value? depth) (render m.2) m.2.sorted
  | [], _ => by simp
  | (_, j) :: rest, h =>
    List.forall_mem_cons.2 ⟨isRead_render j h.1, isRead_members rest h.2⟩

end

end LanguageClient.Json.Syntax

namespace LanguageClient.Json

/-- **A value is read from its text**, the members of its objects sorted. -/
theorem parse?_compact {j : Json} (h : Syntax.Fits Syntax.maxDepth j) :
    parse? j.compact = some j.sorted := by
  have hread := Syntax.isRead_render j h
  have hskip := hread.skipBlanks []
  have hvalue := hread.read Syntax.ends_nil
  rw [List.append_nil] at hskip hvalue
  rw [parse?, compact, String.toList_ofList, hskip, hvalue]
  rfl

end LanguageClient.Json
