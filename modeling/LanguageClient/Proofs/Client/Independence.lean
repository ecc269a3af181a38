import LanguageClient.Proofs.Client.Affairs
import LanguageClient.Proofs.Client.ClosedDocuments

/-!
# Different documents are independent

Affairs of two documents come to the same in both orders, for whoever looks: the same sets are cached,
and every editor has the same row of decorations and the same selection (`Resembles`).  Only the
handles are numbered in another order.  And an affair of one document changes nothing that belongs to
another one (`Spares`).

This is so of clients that come of using editor and overlay together (`Arises`), because their records
are in order.  Of such a client an affair asks nothing but how an editor and its document stand
(`IsAccounted.gives`), and the other affair leaves both as they are (`IsAccounted.spares`); so the two
do not see each other, and `documents_are_independent` puts this together.
-/

namespace LanguageClient.Client

/-! ## Clients in use -/

/-- A client comes of gestures, of events that the overlay follows, of sets that it takes, and of
editors that are cleared or marked.  Who makes a gesture may let the overlay follow at once.  `seen` are
the editors that are or were visible, and nobody speaks of others. -/
inductive Arises : (EditorRef → Prop) → Client → Prop
  | start {c : Client} (blank : c.IsBlank) : Arises (· ∈ c.editor.visibleEditors) c
  | gesture {seen : EditorRef → Prop} {c : Client} (arises : Arises seen c) (g : Gesture) :
    Arises ((c.gesture g).Learns seen) (c.gesture g)
  | event {seen : EditorRef → Prop} {c : Client} (arises : Arises seen c) (event : EditorEvent)
    (hseen : ∀ e, event = .activeChanged (some e) → seen e) : Arises seen (c.perform (.event event))
  | takes {seen : EditorRef → Prop} {c : Client} (arises : Arises seen c) (r : HighlightResult) :
    Arises seen (c.perform (.highlights r))
  | marks {seen : EditorRef → Prop} {c : Client} (arises : Arises seen c) {e : EditorRef}
    (hseen : seen e) (r : ComputeTermResult) : Arises seen (c.route e (.computed r))
  | clears {seen : EditorRef → Prop} {c : Client} (arises : Arises seen c) (id : EditorId) :
    Arises seen { c with
      overlay := (c.overlay.clear c.editor id).1, editor := (c.overlay.clear c.editor id).2 }

/-- Nobody who looks can tell two clients apart: handles are not seen. -/
structure Resembles (c c' : Client) : Prop where
  cached : ∀ uri, c'.overlay.cached? uri = c.overlay.cached? uri
  looks : ∀ id, (c'.decorations id).map RenderedDecoration.look =
    (c.decorations id).map RenderedDecoration.look
  selection : ∀ id, c'.editor.selection? id = c.editor.selection? id

/-- Whatever belongs to other documents is as it was, the handles as well. -/
structure Spares (seen : EditorRef → Prop) (uri : String) (c c' : Client) : Prop where
  cached : ∀ other, other ≠ uri → c'.overlay.cached? other = c.overlay.cached? other
  decorations : ∀ e, seen e → e.uri ≠ uri → c'.decorations e.id = c.decorations e.id
  selection : ∀ e, seen e → e.uri ≠ uri → c'.editor.selection? e.id = c.editor.selection? e.id

variable {known : EditorRef → Prop} {c : Client} {a b : Affair} {e : EditorRef}

theorem Arises.isAccounted {seen : EditorRef → Prop} (arises : Arises seen c) :
    c.IsAccounted seen := by
  induction arises with
  | start blank => exact blank.isAccounted
  | @gesture seen c _ g ih =>
    obtain ⟨unfolds, canvas⟩ := c.unfolds_gesture g
    obtain ⟨editor, files, heq⟩ := c.gesture_eq g
    have paints : c.Paints seen none (c.gesture g) := .nothing unfolds canvas (by rw [heq])
    exact paints.isAccounted ih
  | event _ event hseen ih => exact ih.perform fun e he => hseen e (Dispatch.event.inj he)
  | takes _ r ih => exact ih.perform nofun
  | marks _ hseen r ih => exact ih.route hseen r
  | clears _ id ih => exact ih.clear id

/-! ## One affair -/

/-- The editor that an affair of another document marks is another one. -/
theorem IsAccounted.marks_elsewhere (h : c.IsAccounted known) (names : a.Names known) (he : known e)
    (hne : e.uri ≠ a.uri) : ∀ marked r, a = .marks marked r → marked.id ≠ e.id := by
  rintro marked r rfl hid
  exact hne (congrArg EditorRef.uri (h.unique e marked he names hid.symm))

/-- **An affair of one document** leaves everything alone that is about others. -/
theorem IsAccounted.spares (h : c.IsAccounted known) (names : a.Names known) :
    Spares known a.uri c (c.undergo a) where
  cached other hne := by rw [cached?_undergo, if_neg hne.symm]
  decorations e he hne := by
    have gives := h.gives names he
    rwa [Affair.stroke_of_ne hne (h.marks_elsewhere names he hne), Stroke.gives_nothing] at gives
  selection e he hne := by
    rw [h.selection?_undergo he, Affair.selects_of_ne hne (h.marks_elsewhere names he hne)]

/-- In an editor that nobody knows there is nothing. -/
theorem IsAccounted.unknown (h : c.IsAccounted known) {id : EditorId}
    (hid : ∀ uri, ¬ known ⟨id, uri⟩) : c.decorations id = [] ∧ c.editor.selection? id = none := by
  obtain ⟨x, hx, accounts⟩ := h.accounts
  refine ⟨?_, ?_⟩
  · have hnone : c.overlay.painted.get? id = none := by
      by_contra hsome
      obtain ⟨p, hp⟩ := Option.ne_none_iff_exists'.1 hsome
      exact hid p.uri (h.seats id p.uri (by rw [Overlay.seat?, hp]; rfl))
    have hbare : (c.overlay.paintedIn id).handles = [] := by
      rw [Overlay.paintedIn_of_none hnone]
      rfl
    have hempty := accounts.inEditor_of_unowned hbare
    rwa [hx] at hempty
  · have hnone : c.editor.viewById? id = none := by
      refine List.find?_eq_none.2 fun v hmem hv => hid v.uri ?_
      have hknown := h.visible v.ref (List.mem_map_of_mem hmem)
      rwa [View.ref, of_decide_eq_true hv] at hknown
    rw [HeadlessEditor.selection?, hnone]
    rfl

/-! ## Two affairs -/

/-- In an editor that an affair is not about, it does not matter whether it comes first or last. -/
theorem IsAccounted.editor_comm (h : c.IsAccounted known) (ha : a.Names known) (hb : b.Names known)
    (he : known e) (hne : e.uri ≠ b.uri) :
    (((c.undergo a).undergo b).decorations e.id).map RenderedDecoration.look =
        (((c.undergo b).undergo a).decorations e.id).map RenderedDecoration.look ∧
      ((c.undergo a).undergo b).editor.selection? e.id =
        ((c.undergo b).undergo a).editor.selection? e.id := by
  have before := h.spares hb
  have after := (h.undergo ha).spares hb
  constructor
  · have first := h.gives ha he
    have last := (h.undergo hb).gives ha he
    rw [h.standing_undergo hne, before.decorations e he hne] at last
    rw [after.decorations e he hne]
    exact first.look_eq last rfl
  · rw [after.selection e he hne, h.selection?_undergo he, (h.undergo hb).selection?_undergo he,
      before.selection e he hne]

theorem cached?_comm (c : Client) {uri : String} (hne : uri ≠ b.uri) :
    ((c.undergo a).undergo b).overlay.cached? uri =
      ((c.undergo b).undergo a).overlay.cached? uri := by
  rw [cached?_undergo (c.undergo a), if_neg hne.symm, cached?_undergo (c.undergo b),
    c.isOpen_undergo hne, cached?_undergo c b, if_neg hne.symm, cached?_undergo]

/-- **Different documents are independent.**  Whatever a client has come through, affairs of two
documents come to the same in both orders: the same sets are cached, and every editor has the same row
of decorations and the same selection, up to the numbers of the handles.  And each of the two leaves
the sets, decorations and selections of other documents as they are. -/
theorem documents_are_independent {seen : EditorRef → Prop} (arises : Arises seen c)
    (ha : a.Names seen) (hb : b.Names seen) (apart : a.uri ≠ b.uri) :
    ((c.undergo a).undergo b).Resembles ((c.undergo b).undergo a) ∧
      Spares seen a.uri c (c.undergo a) ∧ Spares seen b.uri c (c.undergo b) := by
  have h := arises.isAccounted
  -- what belongs to a document does not belong to one of the two
  have either (uri : String) : uri ≠ b.uri ∨ uri ≠ a.uri := by
    rcases eq_or_ne uri b.uri with rfl | hne
    · exact .inr apart.symm
    · exact .inl hne
  have editors (id : EditorId) :
      (((c.undergo a).undergo b).decorations id).map RenderedDecoration.look =
          (((c.undergo b).undergo a).decorations id).map RenderedDecoration.look ∧
        ((c.undergo a).undergo b).editor.selection? id =
          ((c.undergo b).undergo a).editor.selection? id := by
    by_cases hid : ∃ uri, seen ⟨id, uri⟩
    · obtain ⟨uri, he⟩ := hid
      rcases either uri with hne | hne
      · exact h.editor_comm ha hb he hne
      · exact (h.editor_comm hb ha he hne).imp Eq.symm Eq.symm
    · have first := ((h.undergo ha).undergo hb).unknown (not_exists.1 hid)
      have last := ((h.undergo hb).undergo ha).unknown (not_exists.1 hid)
      rw [first.1, first.2, last.1, last.2]
      exact ⟨rfl, rfl⟩
  refine ⟨⟨fun uri => ?_, fun id => (editors id).1.symm, fun id => (editors id).2.symm⟩,
    h.spares ha, h.spares hb⟩
  rcases either uri with hne | hne
  · exact (c.cached?_comm hne).symm
  · exact c.cached?_comm hne

/-! ## Two documents side by side -/

/-- Two documents are shown and one of them is painted. -/
def sideBySide : Client :=
  let c : Client := [Gesture.opens "a" "x", .shows "a", .opens "b" "y", .shows "b"].foldl gesture {}
  c.perform (.highlights (Overlay.callsIn "b"))

theorem arises_sideBySide : ∃ seen, Arises seen sideBySide := by
  have blank : IsBlank {} := ⟨rfl, rfl, HeadlessEditor.viewsApart_empty, rfl⟩
  have first := ((Arises.start blank).gesture (.opens "a" "x")).gesture (.shows "a")
  have second := (first.gesture (.opens "b" "y")).gesture (.shows "b")
  exact ⟨_, second.takes (Overlay.callsIn "b")⟩

/-- A marker in one document and a new set for the other: the handles tell which came first, and
nothing else does. -/
theorem marker_and_set_are_independent :
    let mark := Affair.marks ⟨⟨1⟩, "a"⟩ ⟨"a", "Nat", ⟨⟨0, 0⟩, ⟨0, 1⟩⟩⟩
    let set := Affair.sets (Overlay.definitionsIn "b")
    let markFirst := (sideBySide.undergo mark).undergo set
    let setFirst := (sideBySide.undergo set).undergo mark
    markFirst.Resembles setFirst ∧
      markFirst.decorations ⟨1⟩ ≠ setFirst.decorations ⟨1⟩ ∧
      markFirst.decorations ⟨2⟩ ≠ setFirst.decorations ⟨2⟩ := by
  intro mark set markFirst setFirst
  obtain ⟨seen, arises⟩ := arises_sideBySide
  have hseen : seen ⟨⟨1⟩, "a"⟩ := arises.isAccounted.visible _ (by decide +kernel)
  have independent := documents_are_independent (a := mark) (b := set) arises hseen trivial (by decide)
  exact ⟨independent.1, by decide +kernel, by decide +kernel⟩

end LanguageClient.Client
