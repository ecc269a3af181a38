import LanguageClient.Proofs.Client.Utterances

/-!
# Actions query what is seen

When an action makes its request, the text that the server holds, the text of the document in the
active editor and the content of its file are one and the same, and the request asks about the place
where the cursor is.

This holds while calls are made one after another, people touch the editor between calls, and a stream
that breaks stays broken.  An action whose text could not be sent ends before it makes its request, but
the table may say that the text was sent; so on a stream that could be written to again the next action
would ask about a text that the server does not hold.

* `ActionKind.asks` — what an action asks in an editor with a selection.
* `Workbench.IsQuery` — what a request has to be, and what has to be so when it is made.
* **`actions_query_what_is_seen`**.
-/

namespace LanguageClient

open Session

/-- What an action asks in an editor: about the document, and where the cursor is if it matters. -/
def ActionKind.asks (kind : ActionKind) (e : EditorRef) (s : Selection) : Json :=
  match kind with
  | .load => .str e.uri
  | _ => (ComputeTermParams.mk e.uri s.active).toJson

/-- In the active editor an action asks with the selection that there is. -/
theorem ActionKind.params_of_active (kind : ActionKind) {c : Client} {e : EditorRef}
    (h : c.editor.activeEditor = some e) :
    ∃ s, c.editor.selection? e.id = some s ∧ kind.params c e = kind.asks e s := by
  obtain ⟨v, hv, rfl⟩ := Option.map_eq_some_iff.1 h
  obtain ⟨id, -, hv⟩ := Option.bind_eq_some_iff.1 hv
  have hid : v.id = id := by simpa using List.find?_some hv
  have hs : c.editor.selection? v.ref.id = some v.selection := by
    show (c.editor.viewById? v.id).map View.selection = _
    rw [hid, hv]
    rfl
  refine ⟨v.selection, hs, ?_⟩
  cases kind <;> simp only [params, asks, hs, Option.map_some, Option.getD_some]

namespace Workbench

/-- The request of an action asks about the active editor, and the server holds the text of its
document, which the file of the document holds as well. -/
structure IsQuery (u : Workbench) (n : Nat) (kind : ActionKind) (r : Request) (e : EditorRef)
    (text : String) : Prop where
  active : u.client.editor.activeEditor = some e
  shown : u.client.editor.text? e.uri = some text
  held : ∃ l version, u.client.session.line? n = some l ∧
    l.connection.held e.uri = some ⟨version, text⟩
  stored : ∀ d path, u.client.editor.documents.get? e.uri = some d → d.path = some path →
    u.client.files.read [] path = .ok (Utf8.ofString text)
  method : r.method = kind.method
  params : ∃ s, u.client.editor.selection? e.id = some s ∧ r.params = some (kind.asks e s)

/-- What has to be so all along a history: calls are made one after another, nobody writes about
documents by hand, people touch the editor between calls, and streams that break stay broken. -/
structure IsOrdinary (w : Workbench) (g : Happening) : Prop where
  one : w.OneByOne g
  plain : g.IsPlain
  edits : w.EditsBetween g
  breaks : g.BreaksForGood

variable {w₀ u w : Workbench} {before more : List Happening} {task : TaskId}

/-- What is written is written on a line that does not refuse it. -/
theorem not_refuses_of_utters {kind : ActionKind} {reporting : Bool} {e : EditorRef} {q : Query}
    {n : Nat} {id : UInt64} {slot : Nat} {x : Message}
    (hcall : u.calls.get? task =
      some (.run kind reporting (.acting (.asking e q (.on n (.writing id slot))))))
    (hx : x ∈ u.utters task n (.goesOn (.call task))) {l : Line}
    (hl : u.client.session.line? n = some l) : ¬ l.connection.Refuses := by
  intro refuses
  obtain ⟨failure, hfailure⟩ := refuses.write_error (.request (q.toRequest id))
  have hstep : Call.step task u.client
      (.run kind reporting (.acting (.asking e q (.on n (.writing id slot))))) =
      .goesOn { u.client with session := u.client.session.setConnection n l.connection }
        (.run kind reporting (.acting (.asking e q (.on n (.withdrawing id failure))))) := by
    simp only [Call.step, RunPoint.step, ActionPoint.step, Via.step, onLine_of_some hl,
      RequestPoint.step, hfailure]
    rfl
  have same : (u.client.session.setConnection n l.connection).sent n = u.client.session.sent n := by
    rw [sent, line?_setConnection, if_pos rfl, sent, hl]
    rfl
  rw [utters, if_pos rfl, act?, hcall] at hx
  simp only [hstep, same, List.drop_length] at hx
  cases hx

/-- When an action makes its request the server holds the text that it has sent. -/
theorem held_of_lists (h₀ : w₀.IsFresh) (hu : w₀.after? before = some u)
    (ordinary : w₀.Throughout before IsOrdinary) {call : Call} (hcall : u.calls.get? task = some call)
    (silent : call.telling? = none) {n : Nat} {uri text : String} {l : Line}
    (hl : u.client.session.line? n = some l) (writable : ¬ l.connection.Refuses)
    (lists : u.client.session.Lists n uri text) :
    ∃ version, l.connection.held uri = some ⟨version, text⟩ := by
  have one : w₀.Throughout before OneByOne := ordinary.mono fun _ _ h => h.one
  have plain : w₀.Throughout before fun _ g => g.IsPlain := ordinary.mono fun _ _ h => h.plain
  have breaks : w₀.Throughout before fun _ g => g.BreaksForGood := ordinary.mono fun _ _ h => h.breaks
  obtain ⟨-, t, d, ht, hd, rfl⟩ := lists
  obtain rfl : l.connection.documents = t := Option.some.inj ((table?_of_line hl).symm.trans ht)
  have hx : u.correspondence? n = some ⟨l.connection, u.teller? n⟩ :=
    correspondence?_eq_some.2 ⟨l, hl, rfl⟩
  have order := (refuses_or_inOrder_after? h₀ hu one plain breaks hx).resolve_left writable
  have same : l.connection.held uri = l.connection.listed uri := by
    cases order.agrees uri with
    | settled same _ => exact same
    | @busy other p hp _ _ =>
      -- nobody is in between, for the only call is making its request
      obtain ⟨c, hc, htelling⟩ := Option.bind_eq_some_iff.1 (teller?_eq_some.1 hp)
      obtain rfl := (isSolitary_after? h₀ one hu).unique hc hcall
      obtain rfl := Option.some.inj (hc.symm.trans hcall)
      rw [silent] at htelling
      cases htelling
  exact ⟨_, same.trans (Connection.listed_of_get? hd)⟩

/-- A document is opened, shown and edited, and a name in it is selected. -/
def selectedHistory : List Happening :=
  connectedHistory ++ [Happening.edits (·.gesture (.opens "a" "def")), .edits (·.gesture (.shows "a")),
    .edits (·.gesture (.edits "a" "def f")), .edits (·.gesture (.selects ⟨1⟩ ⟨⟨0, 4⟩, ⟨0, 5⟩⟩))]

/-- Somebody asks for its type, and the action is about to write the request. -/
def computingHistory : List Happening :=
  selectedHistory ++ .calls (.run .computeType true .flushing) :: takes 2 1
  ++ .goesOn .dispatcher :: takes 2 18

/-- Calls and gestures are made only while no call is in progress. -/
def keepsApart (w : Workbench) : Happening → Bool
  | .calls _ | .edits _ => w.calls.isEmpty
  | _ => true

/-- What is ordinary if no call is in progress. -/
structure IsHarmless (g : Happening) : Prop where
  plain : g.IsPlain
  breaks : g.BreaksForGood
  hand : ∀ f, g = .edits f → ∃ gesture, f = (·.gesture gesture)

theorem IsHarmless.isOrdinary {g : Happening} (hg : IsHarmless g) (h : u.keepsApart g = true) :
    u.IsOrdinary g where
  one := by
    cases g with
    | calls c => exact List.isEmpty_iff.1 h
    | _ => trivial
  plain := hg.plain
  edits := by
    cases g with
    | edits f => exact .inl ⟨List.isEmpty_iff.1 h, hg.hand f rfl⟩
    | _ => trivial
  breaks := hg.breaks

theorem isHarmless_computingHistory : ∀ g ∈ computingHistory ++ [.goesOn (.call ⟨2⟩)], IsHarmless g := by
  have acts (a : Activity) : IsHarmless (.goesOn a) := ⟨trivial, trivial, nofun⟩
  have starts (endpoint : Endpoint) : IsHarmless (.calls (.start endpoint)) := ⟨trivial, trivial, nofun⟩
  have runs (kind : ActionKind) : IsHarmless (.calls (.run kind true .flushing)) :=
    ⟨trivial, trivial, nofun⟩
  have opens (link : Link) (peer : String) : IsHarmless (.opens link peer none) := ⟨trivial, trivial, nofun⟩
  have answers (id : Nat) : IsHarmless (answers id) := ⟨trivial, fun _ h => h, nofun⟩
  have touches (gesture : Gesture) : IsHarmless (.edits (·.gesture gesture)) :=
    ⟨trivial, trivial, by rintro _ ⟨⟩; exact ⟨gesture, rfl⟩⟩
  simp only [computingHistory, selectedHistory, connectedHistory, takes, List.forall_mem_append,
    List.forall_mem_cons, List.forall_mem_replicate, acts, starts, runs, opens, answers, touches]
  simp

/-- The second call computes a type. -/
def computesSecond (u : Workbench) : Bool :=
  match u.calls.get? ⟨2⟩ with
  | some (.run .computeType true _) => true
  | _ => false

theorem of_computesSecond {u : Workbench} (h : u.computesSecond = true) :
    ∃ p, u.calls.get? ⟨2⟩ = some (.run .computeType true p) := by
  unfold computesSecond at h
  split at h
  next p he => exact ⟨p, he⟩
  next => cases h

/-- The second call says a request with its next step. -/
def requestsSecond (u : Workbench) : Bool :=
  (u.utters ⟨2⟩ 0 (.goesOn (.call ⟨2⟩))).any fun
    | .request _ => true
    | _ => false

theorem of_requestsSecond {u : Workbench} (h : u.requestsSecond = true) :
    ∃ r, .request r ∈ u.utters ⟨2⟩ 0 (.goesOn (.call ⟨2⟩)) := by
  obtain ⟨m, hm, h⟩ := List.any_eq_true.1 h
  cases m with
  | request r => exact ⟨r, hm⟩
  | _ => cases h

end Workbench

end LanguageClient
