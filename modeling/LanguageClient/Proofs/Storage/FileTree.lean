import LanguageClient.Proofs.Storage.Path
import LanguageClient.Proofs.Text.Utf8
import LanguageClient.Storage.FileTree

/-!
# Reading what was written

A file that was written reads as it was written, and other files read as before (`read_write_same`,
`read_write_other`).  Two paths lead to two files if both are canonical: `canonical` answers with the
names of a place, and those lead nowhere else (`eq_of_resolve`).

Writing does not redirect a path, because what is written is a file, and a path leads through
directories only (`walk_set`).
-/

namespace LanguageClient.FileTree

open LanguageClient.Path

variable {t t' : FileTree}

/-! ## Places -/

theorem node?_nil (t : FileTree) : t.node? [] = some .directory := rfl

theorem lookup_filter_ne {p q : Place} (h : q ≠ p) (entries : List (Place × Node)) :
    (entries.filter (·.1 ≠ q)).lookup p = entries.lookup p := by
  induction entries with
  | nil => rfl
  | cons e entries ih =>
    by_cases he : e.1 = q
    · have hne : (p == e.1) = false := beq_eq_false_iff_ne.2 (he ▸ Ne.symm h)
      rw [List.filter_cons_of_neg (by simpa using he), List.lookup_cons, hne, ih]
    · rw [List.filter_cons_of_pos (by simpa using he), List.lookup_cons, List.lookup_cons, ih]

theorem node?_set (t : FileTree) {q : Place} (hq : q ≠ []) (n : Node) (p : Place) :
    (t.set q n).node? p = if q = p then some n else t.node? p := by
  cases p with
  | nil => rw [if_neg hq, node?_nil, node?_nil]
  | cons s p =>
    simp only [node?, set, List.isEmpty_cons, Bool.false_eq_true, if_false]
    rw [List.lookup_cons]
    by_cases h : q = s :: p
    · simp [h]
    · rw [beq_eq_false_iff_ne.2 (Ne.symm h), if_neg h]
      exact lookup_filter_ne h t.entries

/-- Where a file is put no path leads through, so every path still leads where it led. -/
theorem walk_set {q : Place} (hq : t.node? q ≠ some .directory) (n : Node) {at_ : Place}
    {segments : List (List Char)} {p : Place} (h : t.walk at_ segments = .ok p) :
    (t.set q n).walk at_ segments = .ok p := by
  have hroot : q ≠ [] := by
    rintro rfl
    exact hq (node?_nil t)
  induction segments generalizing at_ with
  | nil => exact h
  | cons s rest ih =>
    rw [walk] at h ⊢
    split at h
    next => cases h
    next => cases h
    next hat =>
      have hne : q ≠ at_ := by
        rintro rfl
        exact hq hat
      rw [node?_set t hroot, if_neg hne, hat]
      dsimp only
      split at h
      next hidle => rw [if_pos hidle]; exact ih h
      next hidle =>
        rw [if_neg hidle]
        split at h
        next hup => rw [if_pos hup]; exact ih h
        next hup =>
          rw [if_neg hup]
          split at h
          next => cases h
          next hlong => rw [if_neg hlong]; exact ih h

/-- Where a path starts for someone in a working directory. -/
def start (cwd : Place) (path : String) : Place :=
  if (split path.toList).1 = .root then [] else cwd

/-- A path that can be followed is followed from its start. -/
theorem resolve_eq_ok {cwd p : Place} {path : String} :
    t.resolve cwd path = .ok p ↔
      (¬ path.contains '\x00' ∧ ¬ path.isEmpty ∧ ¬ path.utf8ByteSize > maxPathBytes) ∧
        t.walk (start cwd path) (split path.toList).2 = .ok p := by
  have follow (at_ : Place) (segments : List (List Char)) :
      (t.walk at_ segments).mapError IoError.system = .ok p ↔ t.walk at_ segments = .ok p := by
    cases t.walk at_ segments <;> simp [Except.mapError]
  unfold resolve start
  by_cases hzero : path.contains '\x00' = true
  · simp [hzero]
  by_cases hempty : path.isEmpty = true
  · simp [hzero, hempty]
  by_cases hlong : path.utf8ByteSize > maxPathBytes
  · simp [hzero, hempty, hlong]
  rw [if_neg hzero, if_neg hempty, if_neg hlong]
  obtain ⟨lead, segments⟩ := split path.toList
  cases lead <;> simp [follow, hzero, hempty, Nat.le_of_not_lt hlong]

theorem resolve_set {q : Place} (hq : t.node? q ≠ some .directory) (n : Node) {cwd : Place}
    {path : String} {p : Place} (h : t.resolve cwd path = .ok p) :
    (t.set q n).resolve cwd path = .ok p := by
  obtain ⟨hpath, hwalk⟩ := resolve_eq_ok.1 h
  exact resolve_eq_ok.2 ⟨hpath, walk_set hq n hwalk⟩

/-! ## Canonical paths -/

/-- A path that was made of names leads to the place with these names. -/
theorem walk_names {at_ : Place} {names : List String} (hn : ∀ name ∈ names, IsName name) {p : Place}
    (h : t.walk at_ (names.map String.toList) = .ok p) : p = at_ ++ names := by
  induction names generalizing at_ with
  | nil =>
    cases h
    exact (List.append_nil _).symm
  | cons name names ih =>
    obtain ⟨hidle, hup, -⟩ := hn name List.mem_cons_self
    rw [List.map_cons, walk] at h
    split at h
    next => cases h
    next => cases h
    next =>
      rw [hidle, if_neg Bool.false_ne_true, if_neg hup] at h
      split at h
      next => cases h
      next =>
        rw [String.ofList_toList] at h
        rw [ih (fun x hx => hn x (List.mem_cons_of_mem _ hx)) h, List.append_assoc]
        rfl

theorem eq_of_resolve {names : List String} (hn : ∀ name ∈ names, IsName name) {cwd p : Place}
    (h : t.resolve cwd (absolute names) = .ok p) : p = names := by
  have hwalk := (resolve_eq_ok.1 h).2
  rw [start, split_absolute hn, if_pos rfl] at hwalk
  by_cases hnil : names = []
  · simp only [hnil, if_true] at hwalk
    cases hwalk
    exact hnil.symm
  · simp only [hnil, if_false] at hwalk
    exact walk_names hn hwalk

/-- A path leads to a place with a name at every step. -/
theorem walk_isName {at_ : Place} (hat : ∀ name ∈ at_, IsName name) {segments : List (List Char)}
    (hs : ∀ s ∈ segments, separator ∉ s) {p : Place} (h : t.walk at_ segments = .ok p) :
    ∀ name ∈ p, IsName name := by
  induction segments generalizing at_ with
  | nil => cases h; exact hat
  | cons s rest ih =>
    have hrest : ∀ s ∈ rest, separator ∉ s := fun x hx => hs x (List.mem_cons_of_mem _ hx)
    rw [walk] at h
    split at h
    next => cases h
    next => cases h
    next =>
      split at h
      next => exact ih hat hrest h
      next hidle =>
        split at h
        next => exact ih (fun name hname => hat name (List.dropLast_subset _ hname)) hrest h
        next hup =>
          split at h
          next => cases h
          next =>
            refine ih (fun name hname => ?_) hrest h
            rcases List.mem_append.1 hname with hname | hname
            · exact hat name hname
            · rw [List.mem_singleton.1 hname, IsName, String.toList_ofList]
              exact ⟨by simpa using hidle, hup, hs s List.mem_cons_self⟩

theorem resolve_isName {cwd : Place} (hcwd : ∀ name ∈ cwd, IsName name) {path : String} {p : Place}
    (h : t.resolve cwd path = .ok p) : ∀ name ∈ p, IsName name := by
  refine walk_isName (fun name hname => ?_) (fun s hs => ?_) (resolve_eq_ok.1 h).2
  · rw [start] at hname
    split at hname
    next => cases hname
    next => exact hcwd name hname
  · suffices hmem : s ∈ segments path.toList from not_mem_of_segments hmem
    unfold split at hs
    split at hs
    next => cases hs
    next first rest hseg =>
      rw [hseg]
      split at hs
      next => exact List.mem_cons_of_mem _ hs
      next =>
        split at hs
        next => exact List.mem_cons_of_mem _ hs
        next => exact hs

theorem find_eq_ok {cwd p : Place} {path : String} {n : Node} :
    t.find cwd path = .ok (p, n) ↔ t.resolve cwd path = .ok p ∧ t.node? p = some n := by
  simp only [find, bind, Except.bind]
  cases t.resolve cwd path with
  | error e => simp
  | ok q =>
    simp only [Except.ok.injEq]
    constructor
    · intro h
      split at h
      next n' hn => cases h; exact ⟨rfl, hn⟩
      next => cases h
    · rintro ⟨rfl, hn⟩
      rw [hn]

/-- **A canonical path is made of names.** -/
theorem canonical_eq_ok {cwd : Place} (hcwd : ∀ name ∈ cwd, IsName name) {path canonical : String}
    (h : t.canonical cwd path = .ok canonical) :
    ∃ names : List String, (∀ name ∈ names, IsName name) ∧ canonical = absolute names := by
  rw [FileTree.canonical] at h
  cases hf : t.find cwd path with
  | error e => rw [hf] at h; cases h
  | ok r =>
    rw [hf] at h
    cases h
    exact ⟨r.1, resolve_isName hcwd (find_eq_ok.1 hf).1, rfl⟩

/-! ## Reading and writing -/

theorem read_eq_ok {cwd : Place} {path : String} {content : List UInt8} :
    t.read cwd path = .ok content ↔
      ∃ p executable, t.resolve cwd path = .ok p ∧ t.node? p = some (.file content executable) := by
  rw [read]
  constructor
  · intro h
    cases hf : t.find cwd path with
    | error e => rw [hf] at h; cases h
    | ok r =>
      obtain ⟨p, n⟩ := r
      obtain ⟨hp, hn⟩ := find_eq_ok.1 hf
      rw [hf] at h
      cases n with
      | directory => cases h
      | file content' executable => cases h; exact ⟨p, executable, hp, hn⟩
  · rintro ⟨p, executable, hp, hn⟩
    rw [find_eq_ok.2 ⟨hp, hn⟩]
    rfl

/-- What is read as text is the text that the file holds. -/
theorem readText_eq_ok {cwd : Place} {path text : String} :
    t.readText cwd path = .ok text ↔ t.read cwd path = .ok (Utf8.ofString text) := by
  simp only [readText, bind, Except.bind]
  cases t.read cwd path with
  | error e => simp
  | ok bytes =>
    simp only [Except.ok.injEq]
    rw [← Utf8.decode_eq_ok]
    cases hd : Utf8.decode bytes with
    | ok s => simp [Utf8.decode?, hd, Except.toOption]
    | error e => simp [Utf8.decode?, hd, Except.toOption]

/-- A file is written where its path leads, which is no directory. -/
theorem write_eq_ok {cwd : Place} {path : String} {content : List UInt8}
    (h : t.write cwd path content = .ok t') :
    ∃ p executable, t.resolve cwd path = .ok p ∧ t.node? p ≠ some .directory ∧
      t' = t.set p (.file content executable) := by
  rw [write] at h
  cases hp : t.resolve cwd path with
  | error e => rw [hp] at h; cases h
  | ok p =>
    rw [hp] at h
    simp only [bind, Except.bind] at h
    split at h
    next => cases h
    next old executable hn => cases h; exact ⟨p, executable, rfl, by rw [hn]; nofun, rfl⟩
    next hn => cases h; exact ⟨p, false, rfl, by rw [hn]; nofun, rfl⟩

/-- **What was written is read.** -/
theorem read_write_same {cwd : Place} {path : String} {content : List UInt8}
    (h : t.write cwd path content = .ok t') : t'.read cwd path = .ok content := by
  obtain ⟨p, executable, hp, hn, rfl⟩ := write_eq_ok h
  have hroot : p ≠ [] := by
    rintro rfl
    exact hn (node?_nil t)
  refine read_eq_ok.2 ⟨p, executable, resolve_set hn _ hp, ?_⟩
  rw [node?_set t hroot, if_pos rfl]

/-- **Other files read as before**, if both paths are canonical. -/
theorem read_write_other {names other : List String} (hn : ∀ name ∈ names, IsName name)
    (ho : ∀ name ∈ other, IsName name) (hne : names ≠ other) {content old : List UInt8}
    (h : t.write [] (absolute names) content = .ok t') (hr : t.read [] (absolute other) = .ok old) :
    t'.read [] (absolute other) = .ok old := by
  obtain ⟨p, executable, hp, hnode, rfl⟩ := write_eq_ok h
  obtain ⟨q, executable', hq, hold⟩ := read_eq_ok.1 hr
  have hroot : p ≠ [] := by
    rintro rfl
    exact hnode (node?_nil t)
  refine read_eq_ok.2 ⟨q, executable', resolve_set hnode _ hq, ?_⟩
  obtain rfl := eq_of_resolve hn hp
  obtain rfl := eq_of_resolve ho hq
  rw [node?_set t hroot, if_neg hne]
  exact hold

end LanguageClient.FileTree
