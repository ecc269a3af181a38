import LanguageClient.Editor.Headless
import LanguageClient.Proofs.Storage.FileTree
import LanguageClient.Proofs.Text.Utf8

/-!
# Documents and their files

A document that was opened from a file is what the file holds, until it is edited, and again once it
is saved.  This takes that no two documents share a file: a document bears the URI of the path that it
came from, so two documents come from two paths, and canonical paths lead to two files.

* `Document.IsStored` — the file of a document, if it has one, holds its text.
* `HeadlessEditor.Keeps` — the invariant: every document is stored unless it is dirty.
* `Keeps.openFile`, `Keeps.edit`, `Keeps.writeSaved` and so on — one lemma for each operation.
-/

namespace LanguageClient

/-- The file of a document, if it has one, holds its text. -/
def Document.IsStored (d : Document) (files : FileTree) : Prop :=
  ∀ path, d.path = some path → files.read [] path = .ok (Utf8.ofString d.text)

/-- A document from a file bears the URI of its path, and is stored unless it is dirty. -/
structure Document.IsFiled (d : Document) (uri : String) (files : FileTree) : Prop where
  uri_eq : ∀ path, d.path = some path → uri = Uri.ofPath path
  canonical : ∀ path, d.path = some path →
    ∃ names, (∀ name ∈ names, Path.IsName name) ∧ path = Path.absolute names
  stored : d.dirty = false → d.IsStored files

/-- A document in no file. -/
theorem Document.isFiled_of_path {d : Document} (h : d.path = none) (uri : String) (files : FileTree) :
    d.IsFiled uri files := by
  constructor <;> (intros; simp_all [Document.IsStored])

namespace HeadlessEditor

/-- Every document is filed. -/
def Keeps (h : HeadlessEditor) (files : FileTree) : Prop :=
  ∀ uri d, h.documents.get? uri = some d → d.IsFiled uri files

variable {h h' : HeadlessEditor} {files files' : FileTree} {uri : String} {d : Document}

theorem keeps_of_documents_nil (hd : h.documents = []) (files : FileTree) : h.Keeps files := by
  intro uri d hget
  rw [hd] at hget
  cases hget

theorem Keeps.of_documents (hk : h.Keeps files) (documents : h'.documents = h.documents) :
    h'.Keeps files :=
  fun uri d hd => hk uri d (documents ▸ hd)

/-- A document comes, or another takes its place. -/
theorem Keeps.set (hk : h.Keeps files) (hd : d.IsFiled uri files)
    (documents : h'.documents = h.documents.set uri d) : h'.Keeps files := by
  intro uri' d' hget
  rw [documents, Table.get?_set] at hget
  split at hget
  next heq => cases hget; exact heq ▸ hd
  next => exact hk uri' d' hget

theorem Keeps.openDocument (hk : h.Keeps files) (uri text : String) :
    (h.openDocument uri text).Keeps files :=
  hk.set (Document.isFiled_of_path rfl uri files) rfl

/-- What is read from a file is what the file holds, under the canonical name of the file. -/
theorem Keeps.openFile (hk : h.Keeps files) {cwd : Place} (hcwd : ∀ name ∈ cwd, Path.IsName name)
    {path : String} (ho : h.openFile files cwd path = .ok (uri, h')) : h'.Keeps files := by
  simp only [HeadlessEditor.openFile, bind, Except.bind] at ho
  split at ho
  next => cases ho
  next canonical hcanonical =>
    split at ho
    next => cases ho
    next text htext =>
      cases ho
      refine hk.set ?_ rfl
      constructor
      · rintro _ ⟨⟩
        rfl
      · rintro _ ⟨⟩
        exact FileTree.canonical_eq_ok hcwd hcanonical
      · rintro - _ ⟨⟩
        exact FileTree.readText_eq_ok.1 htext

/-- Showing a document makes a view at most. -/
theorem documents_showDocument {event : EditorEvent} (hs : h.showDocument uri = .ok (event, h')) :
    h'.documents = h.documents := by
  unfold showDocument at hs
  split at hs
  next => split at hs <;> cases hs <;> rfl
  next => cases hs

/-- A document that is edited is dirty. -/
theorem Keeps.edit (hk : h.Keeps files) {text : String} {event : EditorEvent}
    (he : h.edit uri text = .ok (event, h')) : h'.Keeps files := by
  unfold HeadlessEditor.edit at he
  split at he
  next => cases he
  next d hd =>
    split at he
    next => cases he; exact hk
    next =>
      cases he
      obtain ⟨uri_eq, canonical, -⟩ := hk uri d hd
      exact hk.set (d := { d with text, dirty := true }) ⟨uri_eq, canonical, fun h => nomatch h⟩ rfl

theorem Keeps.close (hk : h.Keeps files) (uri : String) : (h.close uri).2.Keeps files := by
  intro uri' d hd
  refine hk uri' d ?_
  rw [HeadlessEditor.close, Table.get?_erase] at hd
  split at hd
  next => cases hd
  next => exact hd

/-! ## Saving -/

/-- What has to be written is the text of a document with a file. -/
theorem beginSave_some {path text : String} (hb : h.beginSave uri = .ok (some (path, text))) :
    ∃ d, h.documents.get? uri = some d ∧ d.path = some path ∧ d.text = text := by
  unfold beginSave at hb
  split at hb
  next => cases hb
  next d hd =>
    split at hb
    next path' hpath _ =>
      cases hb
      exact ⟨d, hd, hpath, rfl⟩
    next => cases hb

/-- If nothing has to be written the document is stored. -/
theorem Keeps.beginSave_none (hk : h.Keeps files) (hb : h.beginSave uri = .ok none) :
    ∃ d, h.documents.get? uri = some d ∧ d.IsStored files := by
  unfold beginSave at hb
  split at hb
  next => cases hb
  next d hd =>
    refine ⟨d, hd, fun path hpath => ?_⟩
    split at hb
    next => cases hb
    next hclean =>
      have dirty : d.dirty = false := by
        cases hdirty : d.dirty with
        | false => rfl
        | true => exact absurd hdirty (hclean path hpath)
      exact (hk uri d hd).stored dirty path hpath

theorem writeSaved_eq_ok {path text : String} :
    HeadlessEditor.writeSaved files uri path text = .ok files' ↔
      files.write [] path (Utf8.ofString text) = .ok files' := by
  rw [HeadlessEditor.writeSaved]
  cases files.write [] path (Utf8.ofString text) with
  | ok written => exact ⟨fun h => by cases h; rfl, fun h => by cases h; rfl⟩
  | error e => exact ⟨nofun, nofun⟩

/-- Who writes a text to the file of a document that has this text, if it is still open, stores it, and
leaves what is stored as it is. -/
theorem Keeps.write (hk : h.Keeps files) {path text : String} (huri : uri = Uri.ofPath path)
    (canonical : ∃ names, (∀ name ∈ names, Path.IsName name) ∧ path = Path.absolute names)
    (texts : ∀ d, h.documents.get? uri = some d → d.text = text)
    (hw : HeadlessEditor.writeSaved files uri path text = .ok files') :
    h.Keeps files' ∧
      ∀ uri' d, h.documents.get? uri' = some d → d.IsStored files → d.IsStored files' := by
  have hwrite := writeSaved_eq_ok.1 hw
  have stays (uri' : String) (d : Document) (hd : h.documents.get? uri' = some d)
      (stored : d.IsStored files) : d.IsStored files' := by
    obtain ⟨uri_eq, canonical', -⟩ := hk uri' d hd
    intro path' hpath'
    by_cases hsame : path = path'
    · -- the URI of its path tells the document
      subst hsame
      obtain rfl : uri = uri' := huri.trans (uri_eq path hpath').symm
      obtain rfl := texts d hd
      exact FileTree.read_write_same hwrite
    · obtain ⟨names, hnames, rfl⟩ := canonical
      obtain ⟨names', hnames', rfl⟩ := canonical' path' hpath'
      exact FileTree.read_write_other hnames hnames' (fun e => hsame (congrArg _ e)) hwrite
        (stored _ hpath')
  refine ⟨fun uri' d hd => ?_, stays⟩
  obtain ⟨uri_eq, canonical', clean⟩ := hk uri' d hd
  exact ⟨uri_eq, canonical', fun hdirty => stays uri' d hd (clean hdirty)⟩

/-- **Writing the file of a document stores it**, and leaves the files of the others alone. -/
theorem Keeps.writeSaved (hk : h.Keeps files) (hd : h.documents.get? uri = some d) {path : String}
    (hpath : d.path = some path) (hw : HeadlessEditor.writeSaved files uri path d.text = .ok files') :
    h.Keeps files' ∧ d.IsStored files' := by
  obtain ⟨uri_eq, canonical, -⟩ := hk uri d hd
  have texts (d' : Document) (hd' : h.documents.get? uri = some d') : d'.text = d.text := by
    rw [Option.some.inj (hd.symm.trans hd')]
  refine ⟨(hk.write (uri_eq path hpath) (canonical path hpath) texts hw).1, fun path' hpath' => ?_⟩
  obtain rfl : path = path' := Option.some.inj (hpath.symm.trans hpath')
  exact FileTree.read_write_same (writeSaved_eq_ok.1 hw)

/-- A document that is noted as saved only is one that is stored. -/
theorem Keeps.endSave (hk : h.Keeps files) (hd : h.documents.get? uri = some d)
    (stored : d.IsStored files) : (h.endSave uri).Keeps files := by
  intro uri' d' hd'
  rw [HeadlessEditor.endSave, Table.get?_modify] at hd'
  split at hd'
  next heq =>
    subst heq
    rw [hd] at hd'
    cases hd'
    obtain ⟨uri_eq, canonical, -⟩ := hk uri d hd
    exact ⟨uri_eq, canonical, fun _ => stored⟩
  next => exact hk uri' d' hd'

theorem Keeps.save (hk : h.Keeps files) (hs : h.save files uri = .ok (h', files')) :
    h'.Keeps files' := by
  simp only [HeadlessEditor.save, bind, Except.bind] at hs
  split at hs
  next => cases hs
  next written hb =>
    cases written with
    | none =>
      cases hs
      obtain ⟨d, hd, stored⟩ := hk.beginSave_none hb
      exact hk.endSave hd stored
    | some file =>
      obtain ⟨path, text⟩ := file
      obtain ⟨d, hd, hpath, rfl⟩ := beginSave_some hb
      simp only at hs
      split at hs
      next => cases hs
      next files'' hw =>
        cases hs
        obtain ⟨keeps, stored⟩ := hk.writeSaved hd hpath hw
        exact keeps.endSave hd stored

end HeadlessEditor

end LanguageClient
