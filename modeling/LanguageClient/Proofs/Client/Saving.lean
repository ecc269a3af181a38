import LanguageClient.Proofs.Client.Acting
import Mathlib

/-!
# Saves and edits

A save takes three steps, and anything may come between them: other saves, and whatever people do with
the editor.  When the file has been written the save notes that its document is saved, whatever text the
document has by then.  So a document that is not dirty is what its file holds as long as nobody gives a
document another text while it is being saved; and there is a history in which somebody does, and the
edit is lost (`edit_is_lost`).

* `Desk` — a client and the saves that are in progress; `Desk.act?` — one step of a save, or a gesture.
* `Desk.Spares` — documents that are being saved keep their texts.
* `Desk.IsOrderly` — what is kept then; **`IsOrderly.act?`** is its step lemma.
* **`saved_documents_are_stored`**.
-/

namespace LanguageClient

/-- How far a save has come. -/
inductive SavePoint
  | writing (path text : String)
  | ending

/-- A client, and the saves that are in progress with the documents that they save. -/
structure Desk where
  client : Client
  saves : Table TaskId (String × SavePoint) := []

namespace Desk

inductive Move
  /-- A document is to be saved. -/
  | begins (task : TaskId) (uri : String)
  /-- A save takes its next step. -/
  | goesOn (task : TaskId)
  /-- People make a gesture. -/
  | plays (g : Gesture)

/-- The desk after a move.  A save that fails is over. -/
def act? (d : Desk) : Move → Option Desk
  | .begins task uri =>
    if d.saves.contains task then none
    else match d.client.editor.beginSave uri with
      | .error _ => some d
      | .ok none => some { d with saves := d.saves.set task (uri, .ending) }
      | .ok (some (path, text)) => some { d with saves := d.saves.set task (uri, .writing path text) }
  | .goesOn task =>
    match d.saves.get? task with
    | none => none
    | some (uri, .writing path text) =>
      match HeadlessEditor.writeSaved d.client.files uri path text with
      | .error _ => some { d with saves := d.saves.erase task }
      | .ok files =>
        some { client := { d.client with files }, saves := d.saves.set task (uri, .ending) }
    | some (uri, .ending) =>
      some {
        client := { d.client with editor := d.client.editor.endSave uri }
        saves := d.saves.erase task }
  | .plays g => some { d with client := d.client.gesture g }

/-- A document that is being saved keeps its text and its file for as long as it is open, and does not
come back once it is closed. -/
def Spares (d : Desk) : Move → Prop
  | .plays g => ∀ task uri p, d.saves.get? task = some (uri, p) →
    ∀ x, (d.client.gesture g).editor.documents.get? uri = some x →
      ∃ y, d.client.editor.documents.get? uri = some y ∧ x.path = y.path ∧ x.text = y.text
  | _ => True

/-- Whatever moves are made, in whatever order, if documents that are being saved are spared. -/
inductive Becomes (d₀ : Desk) : Desk → Prop
  | start : Becomes d₀ d₀
  | move {d d' : Desk} (m : Move) (h : Becomes d₀ d) (spares : d.Spares m) (hs : d.act? m = some d') :
    Becomes d₀ d'

/-! ## What is kept -/

/-- What is written is the text of the document, and what has been written is stored. -/
def IsRight (c : Client) (uri : String) : SavePoint → Prop
  | .writing path text => uri = Uri.ofPath path ∧
      (∃ names, (∀ name ∈ names, Path.IsName name) ∧ path = Path.absolute names) ∧
      ∀ x, c.editor.documents.get? uri = some x → x.path = some path ∧ x.text = text
  | .ending => ∀ x, c.editor.documents.get? uri = some x → x.IsStored c.files

structure IsOrderly (d : Desk) : Prop where
  client : d.client.IsTidy
  saves : ∀ task uri p, d.saves.get? task = some (uri, p) → IsRight d.client uri p

end Desk

/-! ## Files -/

theorem HeadlessEditor.save_eq_ok {h h' : HeadlessEditor} {files files' : FileTree} {uri : String}
    (hs : h.save files uri = .ok (h', files')) :
    files' = files ∨ ∃ d path, h.documents.get? uri = some d ∧ d.path = some path ∧
      HeadlessEditor.writeSaved files uri path d.text = .ok files' := by
  simp only [save, bind, Except.bind] at hs
  split at hs
  next => cases hs
  next written hb =>
    cases written with
    | none => cases hs; exact .inl rfl
    | some file =>
      obtain ⟨path, text⟩ := file
      obtain ⟨d, hd, hpath, rfl⟩ := beginSave_some hb
      simp only at hs
      split at hs
      next => cases hs
      next hw => cases hs; exact .inr ⟨d, path, hd, hpath, hw⟩

/-- A gesture leaves what is stored as it is. -/
theorem Client.IsTidy.gesture_stored {c : Client} (h : c.IsTidy) (g : Gesture) {uri : String}
    {x : Document} (hx : c.editor.documents.get? uri = some x) (stored : x.IsStored c.files) :
    x.IsStored (c.gesture g).files := by
  cases g with
  | saves saved =>
    simp only [Client.gesture]
    split
    next editor files hs =>
      rcases HeadlessEditor.save_eq_ok hs with rfl | ⟨d, path, hd, hpath, hw⟩
      · exact stored
      · obtain ⟨uri_eq, canonical, -⟩ := h.filed saved d hd
        refine (h.filed.write (uri_eq path hpath) (canonical path hpath) (fun d' hd' => ?_) hw).2
          uri x hx stored
        rw [Option.some.inj (hd.symm.trans hd')]
    next => exact stored
  | opens | selects | closes => exact stored
  | _ => simp only [Client.gesture]; split <;> exact stored

namespace Desk

variable {d₀ d d' : Desk} {c c' : Client} {uri : String} {p : SavePoint} {m : Move}

/-! ## The moves -/

/-- A save is right as long as the document keeps its text and its file, and what is stored is
stored. -/
theorem IsRight.of_spared (h : IsRight c uri p)
    (kept : ∀ x, c'.editor.documents.get? uri = some x →
      ∃ y, c.editor.documents.get? uri = some y ∧ x.path = y.path ∧ x.text = y.text ∧
        (y.IsStored c.files → y.IsStored c'.files)) : IsRight c' uri p := by
  cases p with
  | writing path text =>
    obtain ⟨huri, canonical, texts⟩ := h
    refine ⟨huri, canonical, fun x hx => ?_⟩
    obtain ⟨y, hy, hpath, htext, -⟩ := kept x hx
    rw [hpath, htext]
    exact texts y hy
  | ending =>
    intro x hx
    obtain ⟨y, hy, hpath, htext, stays⟩ := kept x hx
    intro path hx
    rw [htext]
    exact stays (h y hy) path (hpath ▸ hx)

theorem IsOrderly.begins (h : d.IsOrderly) {task : TaskId}
    (hs : d.act? (.begins task uri) = some d') : d'.IsOrderly ∧ d'.client = d.client := by
  rw [act?] at hs
  split at hs
  next => cases hs
  next =>
    split at hs
    next => cases hs; exact ⟨h, rfl⟩
    next hb =>
      cases hs
      refine ⟨⟨h.client, fun other uri' p hp => ?_⟩, rfl⟩
      rw [Table.get?_set] at hp
      split at hp
      next =>
        cases hp
        intro x hx
        obtain ⟨y, hy, stored⟩ := h.client.filed.beginSave_none hb
        obtain rfl := Option.some.inj (hx.symm.trans hy)
        exact stored
      next => exact h.saves other uri' p hp
    next path text hb =>
      cases hs
      refine ⟨⟨h.client, fun other uri' p hp => ?_⟩, rfl⟩
      rw [Table.get?_set] at hp
      split at hp
      next =>
        cases hp
        obtain ⟨y, hy, hpath, htext⟩ := HeadlessEditor.beginSave_some hb
        obtain ⟨uri_eq, canonical, -⟩ := h.client.filed uri y hy
        refine ⟨uri_eq path hpath, canonical path hpath, fun x hx => ?_⟩
        obtain rfl := Option.some.inj (hx.symm.trans hy)
        exact ⟨hpath, htext⟩
      next => exact h.saves other uri' p hp

/-- A file is written. -/
theorem IsOrderly.writes (h : d.IsOrderly) {task : TaskId} {path text : String} {files : FileTree}
    (hp : d.saves.get? task = some (uri, .writing path text))
    (hw : HeadlessEditor.writeSaved d.client.files uri path text = .ok files) :
    IsOrderly { client := { d.client with files }, saves := d.saves.set task (uri, .ending) } := by
  obtain ⟨huri, canonical, texts⟩ := h.saves task uri _ hp
  obtain ⟨keeps, stays⟩ := h.client.filed.write huri canonical (fun x hx => (texts x hx).2) hw
  refine ⟨⟨keeps, h.client.cwd⟩, fun other uri' p hp' => ?_⟩
  rw [Table.get?_set] at hp'
  split at hp'
  next =>
    cases hp'
    intro x hx path' hpath'
    obtain ⟨hpath, rfl⟩ := texts x hx
    obtain rfl := Option.some.inj (hpath.symm.trans hpath')
    exact FileTree.read_write_same (HeadlessEditor.writeSaved_eq_ok.1 hw)
  next => exact (h.saves other uri' p hp').of_spared fun x hx => ⟨x, hx, rfl, rfl, stays uri' x hx⟩

/-- A document is noted as saved. -/
theorem IsOrderly.ends (h : d.IsOrderly) {task : TaskId}
    (hp : d.saves.get? task = some (uri, .ending)) :
    IsOrderly {
      client := { d.client with editor := d.client.editor.endSave uri }
      saves := d.saves.erase task } := by
  refine ⟨⟨?_, h.client.cwd⟩, fun other uri' p hp' => ?_⟩
  · cases hx : d.client.editor.documents.get? uri with
    | some x => exact h.client.filed.endSave hx (h.saves task uri _ hp x hx)
    | none =>
      refine h.client.filed.of_documents ?_
      rw [HeadlessEditor.endSave, Table.modify, hx]
  · rw [Table.get?_erase] at hp'
    split at hp'
    next => cases hp'
    next =>
      refine (h.saves other uri' p hp').of_spared fun x hx => ?_
      rw [HeadlessEditor.endSave, Table.get?_modify] at hx
      split at hx
      next heq =>
        subst heq
        obtain ⟨y, hy, rfl⟩ := Option.map_eq_some_iff.1 hx
        exact ⟨y, hy, rfl, rfl, id⟩
      next => exact ⟨x, hx, rfl, rfl, id⟩

/-- **Every move keeps a desk in order**, if documents that are being saved are spared. -/
theorem IsOrderly.act? (h : d.IsOrderly) (spares : d.Spares m) (hs : d.act? m = some d') :
    d'.IsOrderly := by
  cases m with
  | begins task uri => exact (h.begins hs).1
  | goesOn task =>
    rw [Desk.act?] at hs
    split at hs
    next => cases hs
    next hp =>
      split at hs
      next =>
        cases hs
        refine ⟨h.client, fun other uri' p hp' => ?_⟩
        rw [Table.get?_erase] at hp'
        split at hp'
        next => cases hp'
        next => exact h.saves other uri' p hp'
      next hw => cases hs; exact h.writes hp hw
    next hp => cases hs; exact h.ends hp
  | plays g =>
    cases hs
    refine ⟨h.client.gesture g, fun task uri p hp => (h.saves task uri p hp).of_spared fun x hx => ?_⟩
    obtain ⟨y, hy, hpath, htext⟩ := spares task uri p hp x hx
    exact ⟨y, hy, hpath, htext, h.client.gesture_stored g hy⟩

theorem Becomes.isOrderly (h : d₀.Becomes d) (h₀ : d₀.IsOrderly) : d.IsOrderly := by
  induction h with
  | start => exact h₀
  | move m _ spares hs ih => exact ih.act? spares hs

/-- **Saved documents are stored.**

Begin with no documents and no saves, and let saves begin and go on and people make gestures in any
order, if documents are spared while they are being saved.  Then a document that is not dirty is what its
file holds, if it has one, and saving it writes nothing; and a save leaves the client as it was when it
begins, and when its file cannot be written. -/
theorem saved_documents_are_stored (documents : d₀.client.editor.documents = [])
    (cwd : ∀ name ∈ d₀.client.here.cwd, Path.IsName name) (saves : d₀.saves = [])
    (h : d₀.Becomes d) :
    (∀ uri x, d.client.editor.documents.get? uri = some x → x.dirty = false →
      x.IsStored d.client.files ∧ d.client.editor.beginSave uri = .ok none) ∧
    (∀ task uri d', d.act? (.begins task uri) = some d' → d'.client = d.client) ∧
    ∀ task uri path text e, d.saves.get? task = some (uri, .writing path text) →
      HeadlessEditor.writeSaved d.client.files uri path text = .error e →
      ∃ d', d.act? (.goesOn task) = some d' ∧ d'.client = d.client ∧ d'.saves.get? task = none := by
  have start : d₀.IsOrderly := by
    refine ⟨⟨HeadlessEditor.keeps_of_documents_nil documents _, cwd⟩, fun task uri p hp => ?_⟩
    rw [saves] at hp
    cases hp
  have orderly := h.isOrderly start
  refine ⟨fun uri x hx clean => ⟨(orderly.client.filed uri x hx).stored clean, ?_⟩,
    fun task uri d' hs => (orderly.begins hs).2, fun task uri path text e hp hw => ?_⟩
  · rw [HeadlessEditor.beginSave, hx]
    simp only [clean]
    split
    next h => cases h
    next => rfl
  · refine ⟨{ d with saves := d.saves.erase task }, ?_, rfl, ?_⟩
    · rw [Desk.act?, hp]
      simp only [hw]
    · rw [Table.get?_erase, if_pos rfl]

/-! ## Two saves at once, and an edit too early -/

/-- The desk after a list of moves. -/
def after? (d : Desk) (moves : List Move) : Option Desk := moves.foldlM act? d

/-- Documents that are being saved are what they were. -/
def leavesSaved (d : Desk) : Move → Bool
  | .plays g => d.saves.all fun (_, uri, _) =>
    (d.client.gesture g).editor.documents.get? uri = d.client.editor.documents.get? uri
  | _ => true

theorem spares_of_leavesSaved (h : d.leavesSaved m = true) : d.Spares m := by
  cases m with
  | plays g =>
    intro task uri p hp x hx
    have same := List.all_eq_true.1 h _ (Table.mem_of_get? hp)
    exact ⟨x, (of_decide_eq_true same) ▸ hx, rfl, rfl⟩
  | _ => trivial

/-- The desk after a list of moves that leave what is being saved as it was. -/
def afterSparing? (d : Desk) (moves : List Move) : Option Desk :=
  moves.foldlM (fun d m => if d.leavesSaved m then d.act? m else none) d

theorem becomes_of_afterSparing? {moves : List Move} (h : d.afterSparing? moves = some d') :
    d.Becomes d' := by
  have onward (ms : List Move) {e : Desk} (he : d.Becomes e) (h : e.afterSparing? ms = some d') :
      d.Becomes d' := by
    induction ms generalizing e with
    | nil => cases h; exact he
    | cons m ms ih =>
      obtain ⟨e', hs, h⟩ := Option.bind_eq_some_iff.1 h
      simp only at hs
      split at hs
      next spares => exact ih (.move m he (spares_of_leavesSaved spares) hs) h
      next => cases hs
  exact onward moves .start h

/-- A directory with two files, and nobody has done anything yet. -/
def twoFiles : Desk :=
  { client := { files := ⟨[(["a"], .file (Utf8.ofString "x") false),
      (["b"], .file (Utf8.ofString "x") false)]⟩ } }

/-- Both files are edited and saved at the same time, and the first is edited again when it has been
saved and the second has not. -/
def twoSaves : List Move :=
  [.plays (.opensFile "/a"), .plays (.opensFile "/b"), .plays (.edits "file:///a" "y"),
    .plays (.edits "file:///b" "y"), .begins ⟨1⟩ "file:///a", .begins ⟨2⟩ "file:///b", .goesOn ⟨2⟩,
    .goesOn ⟨1⟩, .goesOn ⟨1⟩, .plays (.edits "file:///a" "z"), .goesOn ⟨2⟩]

theorem saved_documents_are_stored_again :
    ∃ d x y, twoFiles.Becomes d ∧ d.client.editor.documents.get? "file:///a" = some x ∧ x.dirty = true ∧
      d.client.editor.documents.get? "file:///b" = some y ∧ y.dirty = false ∧ y.text = "y" ∧
      y.IsStored d.client.files ∧ d.client.editor.beginSave "file:///b" = .ok none := by
  have reached : (twoFiles.afterSparing? twoSaves).any (fun d =>
      (d.client.editor.documents.get? "file:///a").any (·.dirty) &&
        (d.client.editor.documents.get? "file:///b").any fun y => !y.dirty && y.text = "y") = true := by
    cbv
  obtain ⟨d, hd, reached⟩ := (Option.any_eq_true _ _).1 reached
  obtain ⟨hfirst, hsecond⟩ := (Bool.and_eq_true _ _).mp reached
  obtain ⟨x, hx, dirty⟩ := (Option.any_eq_true _ _).1 hfirst
  obtain ⟨y, hy, hclean⟩ := (Option.any_eq_true _ _).1 hsecond
  simp only [Bool.and_eq_true, Bool.not_eq_true', decide_eq_true_eq] at hclean
  obtain ⟨clean, text⟩ := hclean
  have becomes := becomes_of_afterSparing? hd
  have cwd : ∀ name ∈ twoFiles.client.here.cwd, Path.IsName name := List.forall_mem_nil _
  obtain ⟨stored, nothing⟩ := (saved_documents_are_stored rfl cwd rfl becomes).1 _ y hy clean
  exact ⟨d, x, y, becomes, hx, dirty, hy, clean, text, stored, nothing⟩

/-- **An edit is lost.**  It is made between the first and the last step of a save.  Then no save is in
progress and the document is not dirty, but the file holds the text before the edit, and another save
writes nothing. -/
theorem edit_is_lost :
    ∃ d x, twoFiles.after? [.plays (.opensFile "/a"), .plays (.edits "file:///a" "y"),
        .begins ⟨1⟩ "file:///a", .plays (.edits "file:///a" "z"), .goesOn ⟨1⟩, .goesOn ⟨1⟩] = some d ∧
      d.saves = [] ∧ d.client.editor.documents.get? "file:///a" = some x ∧ x.dirty = false ∧
      x.text = "z" ∧ d.client.files.read [] "/a" = .ok (Utf8.ofString "y") ∧
      ¬ x.IsStored d.client.files ∧ d.client.editor.beginSave "file:///a" = .ok none := by
  have reached : (twoFiles.after? [.plays (.opensFile "/a"), .plays (.edits "file:///a" "y"),
      .begins ⟨1⟩ "file:///a", .plays (.edits "file:///a" "z"), .goesOn ⟨1⟩, .goesOn ⟨1⟩]).any (fun d =>
        d.saves.isEmpty && d.client.editor.documents.get? "file:///a" = some ⟨"z", some "/a", false⟩ &&
          d.client.files.read [] "/a" = .ok (Utf8.ofString "y") &&
          d.client.editor.beginSave "file:///a" = .ok none) = true := by
    cbv
  obtain ⟨d, hd, reached⟩ := (Option.any_eq_true _ _).1 reached
  simp only [Bool.and_eq_true, decide_eq_true_eq, List.isEmpty_iff] at reached
  obtain ⟨⟨⟨rests, hx⟩, file⟩, nothing⟩ := reached
  refine ⟨d, _, hd, rests, hx, rfl, rfl, file, fun stored => ?_, nothing⟩
  have holds := (stored "/a" rfl).symm.trans file
  exact absurd (Except.ok.inj holds) (by decide)

end Desk

end LanguageClient
