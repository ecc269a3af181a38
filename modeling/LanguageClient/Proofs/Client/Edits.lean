import LanguageClient.Proofs.Client.ClosedDocuments

/-!
# Edits of the active document

An edit makes what is painted for its document stale.  People edit the document that the active editor
shows, what the editor reports is passed on at some time, and at some time the dispatcher follows it.

The report names the document only.  Which editor it is about is asked when the dispatcher follows it,
and until then another document may have been shown.  So the decorations go if the editor is the active
one then as well (`edited_editor_is_cleared`), and if it is not they stay (`edited_editor_is_missed`).

* `Workbench.grows_after?` — decorations that are gone do not come back.
* `Workbench.ByHand.isByGesture` — people by hand add to the queue only what the editor reports, so
  what the dispatcher handles comes in the order of the queue.
-/

namespace LanguageClient

namespace HeadlessEditor

variable {h h' : HeadlessEditor} {uri text : String} {event : EditorEvent}

/-- What an editor reports of a new text. -/
theorem event_of_edit (he : h.edit uri text = .ok (event, h')) (hne : h.text? uri ≠ some text) :
    event = .documentChanged uri true := by
  unfold edit at he
  split at he
  next => cases he
  next d hd =>
    split at he
    next hsame => exact absurd (by rw [text?, hd, ← hsame]; rfl) hne
    next => cases he; rfl

/-- The text of a document that is open can be changed. -/
theorem edit_of_isOpen (hopen : h.isOpen uri = true) (hne : h.text? uri ≠ some text) :
    ∃ h', h.edit uri text = .ok (.documentChanged uri true, h') := by
  obtain ⟨d, hd⟩ := Option.isSome_iff_exists.1 hopen
  have hother : d.text ≠ text := by
    rintro rfl
    exact hne (by rw [text?, hd]; rfl)
  exact ⟨_, by rw [edit, hd]; exact if_neg hother⟩

end HeadlessEditor

namespace Workbench

variable {w₀ w w' : Workbench} {hs more : List Happening}

/-! ## Histories made by hand -/

/-- Whoever acts by hand makes a gesture or passes on what the editor reports. -/
theorem ByHand.isByGesture (hand : w₀.ByHand (hs ++ more)) (h : w₀.after? hs = some w) :
    w.Throughout more IsByGesture := by
  rintro k u g hu hg f rfl
  obtain ⟨hk, hf⟩ := List.getElem?_eq_some_iff.1 hg
  have hsplit : hs ++ more = (hs ++ more.take k) ++ .edits f :: more.drop (k + 1) := by
    rw [List.append_assoc, ← hf, List.getElem_cons_drop, List.take_append_drop]
  exact (hand _ f _ u hsplit (after?_trans h hu)).imp_right fun ⟨e, he, _⟩ => ⟨e, he⟩

/-- What the editor reports of an editor that has been visible is passed on. -/
theorem ByHand.concat_report (hand : w₀.ByHand hs) {e : EditorRef} (h : w₀.Shown hs e) :
    w₀.ByHand (hs ++ [.edits (·.send (.event (.activeChanged (some e))))]) := by
  refine hand.concat fun f w hf _ => ?_
  cases hf
  refine .inr ⟨_, rfl, fun shown hshown => ?_⟩
  cases hshown
  exact h

/-- **What is gone does not come back**, whatever happens. -/
theorem grows_after? (h₀ : w₀.IsFresh) (blank : w₀.client.IsBlank) (hw : w₀.after? hs = some w)
    (h : w.after? more = some w') (hand : w₀.ByHand (hs ++ more)) :
    w.client.editor.canvas.Grows w'.client.editor.canvas := by
  refine after?_induction (P := fun more x => w₀.ByHand (hs ++ more) →
    w.client.editor.canvas.Grows x.client.editor.canvas) (fun _ => .refl _)
    (fun more g x x' hx ih hstep hand => ?_) h hand
  rw [← List.append_assoc] at hand
  have hx' := after?_trans hw hx
  have accounted := isAccounted_after? h₀ blank hx' hand.of_append
  exact (ih hand.of_append).trans (happen?_proceeds accounted hstep (hand.last hx')).paints.grows

/-- A decoration that was taken away is not alive again. -/
theorem gone_after? {v : Workbench} {before : List Happening} {d : RenderedDecoration} (h₀ : w₀.IsFresh)
    (blank : w₀.client.IsBlank) (hv : w₀.after? before = some v) (hw : v.after? hs = some w)
    (h : w.after? more = some w') (hand : w₀.ByHand (before ++ hs ++ more))
    (alive : d ∈ v.client.editor.canvas.live) (gone : d ∉ w.client.editor.canvas.live) :
    d ∉ w'.client.editor.canvas.live := by
  obtain ⟨a, ha, accounts⟩ :=
    (isAccounted_after? h₀ blank hv hand.of_append.of_append).client.accounts
  have old : d.handle.number ≤ v.client.editor.canvas.latest := by
    rw [← ha] at alive ⊢
    exact accounts.sound.live_le d alive
  have meanwhile := grows_after? h₀ blank hv hw hand.of_append
  exact (grows_after? h₀ blank (after?_trans hv hw) h hand).gone gone (Nat.le_trans old meanwhile.latest)

/-! ## Edits -/

/-- **An edit of the active document clears its editor** if that is the active one when the dispatcher
follows the edit.

After `before` the text of the document in the active editor `e` is changed; what the editor reports is
passed on after `lag`; and after `delay` the dispatcher has done what was queued before, whatever else
has happened in the meantime.  Then the report is what it follows next.  If `e` is the active editor
still or again, nothing is left in it, and whatever happens later, none of the decorations that were
alive in it when the edit was made is alive.  If it is not, nothing in it changes. -/
theorem edited_editor_is_cleared {v u y z : Workbench} {before lag delay later : List Happening}
    {e : EditorRef} {text : String} {report : EditorEvent} {h : HeadlessEditor}
    (h₀ : w₀.IsFresh) (blank : w₀.client.IsBlank) (hv : w₀.after? before = some v)
    (active : v.client.editor.activeEditor = some e)
    (hedit : v.client.editor.edit e.uri text = .ok (report, h))
    (changed : v.client.editor.text? e.uri ≠ some text)
    (hu : v.after? (.edits (·.gesture (.edits e.uri text)) :: lag) = some u)
    (hy : u.after? (.edits (·.send (.event report)) :: delay) = some y)
    (due : (u.handled (.edits (·.send (.event report)) :: delay)).length = u.client.queue.length)
    (hz : y.happen? (.goesOn .dispatcher) = some z) (hw : z.after? later = some w)
    (hand : w₀.ByHand (before ++ .edits (·.gesture (.edits e.uri text)) :: lag
      ++ .edits (·.send (.event report)) :: delay ++ .goesOn .dispatcher :: later)) :
    y.client.queue.head? = some (.event report) ∧
      z.client.decorations e.id =
        (if y.client.editor.activeEditor = some e then [] else y.client.decorations e.id) ∧
      (y.client.editor.activeEditor = some e →
        ∀ d ∈ v.client.decorations e.id, d ∉ w.client.editor.canvas.live) := by
  obtain rfl := HeadlessEditor.event_of_edit hedit changed
  have edited := after?_trans hv hu
  have reached := after?_trans edited hy
  have first : y.client.queue.head? = some (.event (.documentChanged e.uri true)) :=
    head?_queue_of_sent hy (hand.of_append.isByGesture edited) due
  have followed : z.client.decorations e.id =
      if y.client.editor.activeEditor = some e then [] else y.client.decorations e.id := by
    have accounted := isAccounted_after? h₀ blank reached hand.of_append
    have shown := (shown_now hv (HeadlessEditor.activeEditor_visible active)).append
      (.edits (·.gesture (.edits e.uri text)) :: lag)
    have change := accounted.client.decorations_change (shown.append _) e.uri
    simp only [and_true] at change
    obtain ⟨rest, -, hperform⟩ := happen?_dispatcher first hz
    rw [hperform]
    exact change
  refine ⟨first, followed, fun still d hd => ?_⟩
  obtain ⟨alive, place⟩ := List.mem_filter.1 hd
  have turn : y.after? [.goesOn .dispatcher] = some z := by
    rw [after?, hz]
    rfl
  refine gone_after? h₀ blank hv (after?_trans (after?_trans hu hy) turn) hw (by simpa using hand) alive
    fun left => ?_
  have hin : d ∈ z.client.decorations e.id := List.mem_filter.2 ⟨left, place⟩
  rw [followed, if_pos still] at hin
  cases hin

/-! ## Another document in between -/

/-- The server sends a set with one name for the document that is shown, and the dispatcher paints it.
Another document is open as well. -/
def colouredHistory : List Happening :=
  [Happening.edits (·.gesture (.opens "b" "")),
    sends ("\x7b\"jsonrpc\":\"2.0\",\"method\":\"aya/publishSyntaxHighlight\"," ++
      "\"params\":\x7b\"uri\":\"a\",\"symbols\":[[[[0,0],[0,1]],1]]\x7d\x7d")]
  ++ List.replicate 2 (.goesOn (.reader 0)) ++ List.replicate 2 (.goesOn .dispatcher)

/-- A document is shown and painted. -/
def paintedHistory : List Happening :=
  displayedHistory ++ [Happening.edits (·.send (.event (.activeChanged (some ⟨⟨1⟩, "a"⟩))))]
  ++ colouredHistory

/-- The text of the document is changed. -/
def editedHistory : List Happening := [.edits (·.gesture (.edits "a" "x"))]

/-- What the editor reports is passed on, and another document is shown. -/
def switchedHistory : List Happening :=
  [.edits (·.send (.event (.documentChanged "a" true))), .edits (·.gesture (.shows "b"))]

theorem byHand_switched : unused.ByHand (paintedHistory ++ editedHistory ++ switchedHistory) := by
  have displayed : unused.ByHand displayedHistory := byHand_of_forall fun g hg =>
    isByHand_histories g (by simp [hg])
  have reported := displayed.concat_report shown_displayed
  have rest : ∀ g ∈ colouredHistory ++ editedHistory ++ switchedHistory, g.IsByHand := by
    simp [colouredHistory, editedHistory, switchedHistory, sends, or_imp, forall_and,
      Happening.isByHand_of_ne]
  simpa [paintedHistory] using reported.append_forall rest

/-- The editor of the document is the active one, something is painted in it, and its text is not the
one that comes. -/
def isPainted (v : Workbench) : Bool :=
  v.client.editor.activeEditor = some ⟨⟨1⟩, "a"⟩ && v.client.editor.isOpen "a" &&
    v.client.editor.text? "a" ≠ some "x" && v.client.decorations ⟨1⟩ ≠ []

/-- Another document is shown before the dispatcher follows the edit, and then the first one again. -/
theorem edited_editor_is_cleared_again :
    ∃ v u y z h, unused.after? paintedHistory = some v ∧
      v.client.editor.activeEditor = some ⟨⟨1⟩, "a"⟩ ∧
      v.client.editor.edit "a" "x" = .ok (.documentChanged "a" true, h) ∧
      v.client.editor.text? "a" ≠ some "x" ∧ v.after? editedHistory = some u ∧
      u.after? (switchedHistory ++ [.edits (·.gesture (.shows "a"))]) = some y ∧
      (u.handled (switchedHistory ++ [.edits (·.gesture (.shows "a"))])).length =
        u.client.queue.length ∧
      y.happen? (.goesOn .dispatcher) = some z ∧
      y.client.editor.activeEditor = some ⟨⟨1⟩, "a"⟩ ∧ v.client.decorations ⟨1⟩ ≠ [] ∧
      z.client.decorations ⟨1⟩ = [] := by
  have reached : (unused.after? paintedHistory).any (fun v => v.isPainted &&
      (v.after? editedHistory).any fun u =>
        (u.handled (switchedHistory ++ [.edits (·.gesture (.shows "a"))])).length =
          u.client.queue.length &&
        (u.after? (switchedHistory ++ [.edits (·.gesture (.shows "a"))])).any fun y =>
          y.client.editor.activeEditor = some ⟨⟨1⟩, "a"⟩ &&
            (y.happen? (.goesOn .dispatcher)).isSome) = true := by
    decide +kernel
  obtain ⟨v, hv, reached⟩ := (Option.any_eq_true _ _).1 reached
  simp only [isPainted, Bool.and_eq_true, decide_eq_true_eq] at reached
  obtain ⟨⟨⟨⟨active, hopen⟩, changed⟩, painted⟩, reached⟩ := reached
  obtain ⟨u, hu, reached⟩ := (Option.any_eq_true _ _).1 reached
  simp only [Bool.and_eq_true, decide_eq_true_eq] at reached
  obtain ⟨due, reached⟩ := reached
  obtain ⟨y, hy, reached⟩ := (Option.any_eq_true _ _).1 reached
  simp only [Bool.and_eq_true, decide_eq_true_eq] at reached
  obtain ⟨again, hsome⟩ := reached
  obtain ⟨z, hz⟩ := Option.isSome_iff_exists.1 hsome
  obtain ⟨h, hedit⟩ := HeadlessEditor.edit_of_isOpen hopen changed
  have last : ∀ g ∈ [Happening.edits (·.gesture (.shows "a")), .goesOn .dispatcher], g.IsByHand := by
    simp [Happening.isByHand_of_ne]
  have hand := byHand_switched.append_forall last
  have ended : z.after? [] = some z := rfl
  have cleared := edited_editor_is_cleared isFresh_unused isBlank_unused hv active hedit changed hu hy
    due hz ended (by simpa [editedHistory, switchedHistory] using hand)
  have empty := cleared.2.1
  rw [if_pos again] at empty
  exact ⟨v, u, y, z, h, hv, active, hedit, changed, hu, hy, due, hz, again, painted, empty⟩

/-- **A switch in time leaves what is stale.**  The document is edited, and before the dispatcher follows
the edit another one is shown.  All that the editor reports is passed on in order, and when all of it has
been followed the decorations that were there at the time of the edit are still there. -/
theorem edited_editor_is_missed :
    ∃ v u y z w h d, unused.after? paintedHistory = some v ∧
      v.client.editor.activeEditor = some ⟨⟨1⟩, "a"⟩ ∧
      v.client.editor.edit "a" "x" = .ok (.documentChanged "a" true, h) ∧
      v.client.editor.text? "a" ≠ some "x" ∧ v.after? editedHistory = some u ∧
      u.after? (switchedHistory ++ [.edits (·.send (.event (.activeChanged (some ⟨⟨2⟩, "b"⟩))))]) =
        some y ∧
      y.client.queue.head? = some (.event (.documentChanged "a" true)) ∧
      y.happen? (.goesOn .dispatcher) = some z ∧ z.happen? (.goesOn .dispatcher) = some w ∧
      w.client.queue = [] ∧
      unused.ByHand (paintedHistory ++ editedHistory ++ switchedHistory
        ++ [.edits (·.send (.event (.activeChanged (some ⟨⟨2⟩, "b"⟩))))]
        ++ List.replicate 2 (.goesOn .dispatcher)) ∧
      d ∈ v.client.decorations ⟨1⟩ ∧ d ∈ z.client.editor.canvas.live ∧
      d ∈ w.client.editor.canvas.live := by
  have reached : (unused.after? paintedHistory).any (fun v => v.isPainted &&
      (v.after? editedHistory).any fun u =>
        (u.after? switchedHistory).any (fun x => ⟨⟨2⟩, "b"⟩ ∈ x.client.editor.visibleEditors) &&
        (u.after? (switchedHistory
            ++ [.edits (·.send (.event (.activeChanged (some ⟨⟨2⟩, "b"⟩))))])).any fun y =>
          y.client.queue.head? = some (.event (.documentChanged "a" true)) &&
          (y.happen? (.goesOn .dispatcher)).any fun z => (z.happen? (.goesOn .dispatcher)).any fun w =>
            w.client.queue = [] && (v.client.decorations ⟨1⟩).any fun d =>
              d ∈ z.client.editor.canvas.live && d ∈ w.client.editor.canvas.live) = true := by
    decide +kernel
  obtain ⟨v, hv, reached⟩ := (Option.any_eq_true _ _).1 reached
  simp only [isPainted, Bool.and_eq_true, decide_eq_true_eq] at reached
  obtain ⟨⟨⟨⟨active, hopen⟩, changed⟩, -⟩, reached⟩ := reached
  obtain ⟨u, hu, reached⟩ := (Option.any_eq_true _ _).1 reached
  obtain ⟨showing, reached⟩ := (Bool.and_eq_true _ _).mp reached
  obtain ⟨x, hx, showing⟩ := (Option.any_eq_true _ _).1 showing
  obtain ⟨y, hy, reached⟩ := (Option.any_eq_true _ _).1 reached
  simp only [Bool.and_eq_true, decide_eq_true_eq] at reached
  obtain ⟨first, reached⟩ := reached
  obtain ⟨z, hz, reached⟩ := (Option.any_eq_true _ _).1 reached
  obtain ⟨w, hw, reached⟩ := (Option.any_eq_true _ _).1 reached
  simp only [Bool.and_eq_true, decide_eq_true_eq, List.any_eq_true] at reached
  obtain ⟨empty, d, alive, remains⟩ := reached
  obtain ⟨h, hedit⟩ := HeadlessEditor.edit_of_isOpen hopen changed
  have shown := shown_now (after?_trans (after?_trans hv hu) hx) (of_decide_eq_true showing)
  have last : ∀ g ∈ List.replicate 2 (Happening.goesOn .dispatcher), g.IsByHand := by
    simp [Happening.isByHand_of_ne]
  have hand := (byHand_switched.concat_report shown).append_forall last
  exact ⟨v, u, y, z, w, h, d, hv, active, hedit, changed, hu, hy, first, hz, hw, empty, hand, alive,
    remains.1, remains.2⟩

end Workbench

end LanguageClient
