import LanguageClient.Proofs.Editor.Audit
import Mathlib.Data.List.Induction

/-!
# The histories of an editor without a screen

Documents, views, the active editor and the decorations are apart from one another, and each operation
changes some of them.  Whatever is asked of the editor, in whatever order, they fit together.

* `HeadlessEditor.operate` is one operation and what it answers, `HeadlessEditor.after` a history of
  them, and `HeadlessEditor.log` the history with the answers.
* `IsConsistent` is what the documents, the views and the active editor have to do with one another.
  One operation keeps it (`IsConsistent.operate`), so every history does (`IsConsistent.after`).
* What the canvas holds is told from the log alone: `drawn` lists what was created, `requests` the
  handles that were to be disposed of and had been created.  The live decorations are those drawn whose
  handles are not disposed of, and a handle is disposed of at the first request for it (`IsRecord`).
* **`every_history_is_consistent`** — all of this for every history of a new editor; what the editor
  refuses, and that a refusal changes nothing.
-/

namespace LanguageClient.HeadlessEditor

/-! ## Operations and histories -/

/-- What may be asked of an editor. -/
inductive Operation
  | opens (uri text : String)
  | shows (uri : String)
  | edits (uri text : String)
  | closes (uri : String)
  | creates (editor : EditorId) (style : DecorationStyle) (ranges : List Range) (hover : Option String)
  | disposes (handle : DecorationHandle)
  | selects (editor : EditorId) (selection : Selection)

/-- What it answers. -/
inductive Answer
  | done
  | reported (event : EditorEvent)
  | created (handle : DecorationHandle)
  | refused (error : HostError)

/-- What it refuses leaves the editor as it is. -/
def settle (h : HeadlessEditor) :
    Except HostError (EditorEvent × HeadlessEditor) → Answer × HeadlessEditor
  | .ok (event, h') => (.reported event, h')
  | .error e => (.refused e, h)

def operate (h : HeadlessEditor) : Operation → Answer × HeadlessEditor
  | .opens uri text => (.done, h.openDocument uri text)
  | .shows uri => h.settle (h.showDocument uri)
  | .edits uri text => h.settle (h.edit uri text)
  | .closes uri => (h.close uri).map .reported id
  | .creates editor style ranges hover => (h.createDecoration editor style ranges hover).map .created id
  | .disposes handle => (.done, h.dispose handle)
  | .selects editor selection => (.done, h.setSelection editor selection)

/-- The editor after a history. -/
def after (h : HeadlessEditor) (ops : List Operation) : HeadlessEditor :=
  ops.foldl (fun h op => (h.operate op).2) h

/-- A history with the answers. -/
def log (h : HeadlessEditor) : List Operation → List (Operation × Answer)
  | [] => []
  | op :: ops => (op, (h.operate op).1) :: log (h.operate op).2 ops

variable {h h' h'' : HeadlessEditor} {uri text : String} {event : EditorEvent} {error : HostError}
  {op : Operation}

/-- What is so of the editor, and of what becomes of it if nothing is refused, is so afterwards. -/
theorem settle_induction {P : HeadlessEditor → Prop}
    {r : Except HostError (EditorEvent × HeadlessEditor)} (refused : P h)
    (done : ∀ event h', r = .ok (event, h') → P h') : P (h.settle r).2 := by
  cases r with
  | error e => exact refused
  | ok answer => exact done _ _ rfl

theorem after_append (h : HeadlessEditor) (ops more : List Operation) :
    h.after (ops ++ more) = (h.after ops).after more :=
  List.foldl_append

theorem log_concat (h : HeadlessEditor) (ops : List Operation) (op : Operation) :
    h.log (ops ++ [op]) = h.log ops ++ [(op, ((h.after ops).operate op).1)] := by
  induction ops generalizing h with
  | nil => rfl
  | cons first ops ih => exact congrArg (List.cons _) (ih _)

/-- What is refused is refused because of a document that is not open. -/
theorem operate_refused_iff : (h.operate op).1 = .refused error ↔
    ∃ uri, h.isOpen uri = false ∧ error = .unknownDocument uri ∧
      (op = .shows uri ∨ ∃ text, op = .edits uri text) := by
  have hshow (uri : String) :
      (h.settle (h.showDocument uri)).1 = .refused error ↔
        h.isOpen uri = false ∧ error = .unknownDocument uri := by
    unfold showDocument
    cases hopen : h.isOpen uri with
    | true =>
      rw [if_pos rfl]
      split <;> simp [settle]
    | false => simp [settle, eq_comm]
  have hedit (uri text : String) :
      (h.settle (h.edit uri text)).1 = .refused error ↔
        h.isOpen uri = false ∧ error = .unknownDocument uri := by
    unfold edit
    cases hd : h.documents.get? uri with
    | none => simp [settle, isOpen, Table.contains, hd, eq_comm]
    | some d =>
      simp only [isOpen, Table.contains, hd]
      split <;> simp [settle]
  cases op with
  | shows uri => simp [operate, hshow]
  | edits uri text => simp [operate, hedit]
  | _ => simp [operate]

theorem operate_refused (hr : (h.operate op).1 = .refused error) : (h.operate op).2 = h := by
  have hsettle (r : Except HostError (EditorEvent × HeadlessEditor))
      (hr : (h.settle r).1 = .refused error) : (h.settle r).2 = h := by
    cases r with
    | error e => rfl
    | ok answer => cases hr
  obtain ⟨uri, -, -, rfl | ⟨text, rfl⟩⟩ := operate_refused_iff.1 hr
  · exact hsettle _ hr
  · exact hsettle _ hr

/-! ## Documents and views -/

/-- A view shows a document that is open, and the active editor is one of the views. -/
structure IsConsistent (h : HeadlessEditor) : Prop where
  apart : h.ViewsApart
  opened : ∀ e ∈ h.visibleEditors, h.isOpen e.uri = true
  active : ∀ id, h.active = some id → ∃ e ∈ h.visibleEditors, e.id = id

theorem isConsistent_empty : ({} : HeadlessEditor).IsConsistent where
  apart := viewsApart_empty
  opened := nofun
  active := nofun

/-- Views and documents are all that consistency is about. -/
theorem IsConsistent.of_same (hc : h.IsConsistent) (views : h'.visibleEditors = h.visibleEditors)
    (latest : h'.latestEditor = h.latestEditor) (active : h'.active = h.active)
    (isOpen : ∀ uri, h.isOpen uri = true → h'.isOpen uri = true) : h'.IsConsistent where
  apart := (Unfolds.of_same views latest).apart hc.apart
  opened e he := isOpen _ (hc.opened e (views ▸ he))
  active id hid := views ▸ hc.active id (active ▸ hid)

/-- A document that is open is shown in its view, or in a new one. -/
theorem showDocument_cases (hs : h.showDocument uri = .ok (event, h')) :
    h.isOpen uri = true ∧ h'.documents = h.documents ∧
      ∃ v ∈ h'.views, h'.active = some v.id ∧
        (h'.views = h.views ∨ h'.views = h.views ++ [v] ∧ v.uri = uri) := by
  unfold showDocument at hs
  split at hs
  next hopen =>
    refine ⟨hopen, ?_⟩
    split at hs
    next v hv =>
      cases hs
      exact ⟨rfl, v, List.mem_of_find?_eq_some hv, rfl, .inl rfl⟩
    next =>
      cases hs
      exact ⟨rfl, _, List.mem_concat_self, rfl, .inr ⟨rfl, rfl⟩⟩
  next => cases hs

theorem IsConsistent.showDocument (hc : h.IsConsistent)
    (hs : h.showDocument uri = .ok (event, h')) : h'.IsConsistent := by
  obtain ⟨hopen, hdocuments, v, hv, hactive, hviews⟩ := showDocument_cases hs
  refine ⟨(unfolds_showDocument hs).apart hc.apart, fun e he => ?_, fun id hid => ?_⟩
  · have hisOpen : h'.isOpen e.uri = h.isOpen e.uri := by rw [isOpen, hdocuments, ← isOpen]
    obtain ⟨w, hw, rfl⟩ := List.mem_map.1 he
    rw [hisOpen]
    rcases hviews with hviews | ⟨hviews, rfl⟩
    · exact hc.opened _ (List.mem_map_of_mem (hviews ▸ hw))
    · rcases List.mem_append.1 (hviews ▸ hw) with hw | hw
      · exact hc.opened _ (List.mem_map_of_mem hw)
      · rw [List.mem_singleton.1 hw]
        exact hopen
  · rw [hactive] at hid
    exact ⟨v.ref, List.mem_map_of_mem hv, Option.some.inj hid⟩

theorem IsConsistent.edit (hc : h.IsConsistent) (he : h.edit uri text = .ok (event, h')) :
    h'.IsConsistent := by
  obtain ⟨-, hviews, hlatest, -, hisOpen⟩ := edit_ok he
  have hactive : h'.active = h.active := by
    unfold HeadlessEditor.edit at he
    split at he
    next => cases he
    next => split at he <;> cases he <;> rfl
  exact hc.of_same (congrArg (List.map View.ref) hviews) hlatest hactive fun uri hopen =>
    (hisOpen uri).trans hopen

theorem IsConsistent.close (hc : h.IsConsistent) (uri : String) : (h.close uri).2.IsConsistent where
  apart := hc.apart.close uri
  opened e he := by
    rw [visibleEditors_close] at he
    obtain ⟨he, hne⟩ := List.mem_filter.1 he
    rw [isOpen_close, hc.opened e he, Bool.and_true]
    exact decide_eq_true (of_decide_eq_true hne).symm
  active id hid := by
    obtain ⟨v, hv, hid⟩ := List.any_eq_true.1 (Option.filter_eq_some_iff.1 hid).2
    exact ⟨v.ref, List.mem_map_of_mem hv, of_decide_eq_true hid⟩

/-- **Every operation keeps documents and views consistent.** -/
theorem IsConsistent.operate (hc : h.IsConsistent) (op : Operation) :
    (h.operate op).2.IsConsistent := by
  cases op with
  | opens uri text =>
    refine hc.of_same rfl rfl rfl fun uri' hopen => ?_
    exact (isOpen_openDocument h uri text uri').trans (by rw [hopen, Bool.or_true])
  | shows uri => exact settle_induction hc fun _ _ => hc.showDocument
  | edits uri text => exact settle_induction hc fun _ _ => hc.edit
  | closes uri => exact hc.close uri
  | creates editor style ranges hover => exact hc.of_same rfl rfl rfl fun _ => id
  | disposes handle => exact hc.of_same rfl rfl rfl fun _ => id
  | selects editor selection =>
    exact hc.of_same (h.visibleEditors_setSelection editor selection) rfl rfl fun _ => id

theorem IsConsistent.after (hc : h.IsConsistent) (ops : List Operation) :
    (h.after ops).IsConsistent := by
  induction ops generalizing h with
  | nil => exact hc
  | cons op ops ih => exact ih (hc.operate op)

/-! ## Numbers of views -/

theorem Unfolds.trans (hu : h.Unfolds h') (hu' : h'.Unfolds h'') : h.Unfolds h'' where
  apart hv := hu'.apart (hu.apart hv)
  visible e he := by
    rcases hu'.visible e he with he | hlt
    · exact hu.visible e he
    · exact .inr (Nat.lt_of_le_of_lt hu.latest hlt)
  latest := Nat.le_trans hu.latest hu'.latest

theorem unfolds_operate (h : HeadlessEditor) (op : Operation) : h.Unfolds (h.operate op).2 := by
  cases op with
  | shows uri => exact settle_induction (.refl h) fun _ _ => unfolds_showDocument
  | edits uri text => exact settle_induction (.refl h) fun _ _ => unfolds_edit
  | closes uri => exact unfolds_close h uri
  | selects editor selection => exact unfolds_setSelection h editor selection
  | _ => exact .of_same rfl rfl

theorem unfolds_after (h : HeadlessEditor) (ops : List Operation) : h.Unfolds (h.after ops) := by
  induction ops generalizing h with
  | nil => exact .refl h
  | cons op ops ih => exact (unfolds_operate h op).trans (ih _)

/-- **A number names one view**, which was there all the time if it was there before and is there
later. -/
theorem Unfolds.eq_of_id (hu : h.Unfolds h') (hu' : h'.Unfolds h'') (hv : h.ViewsApart)
    {e e' : EditorRef} (he : e ∈ h.visibleEditors) (he' : e' ∈ h''.visibleEditors)
    (hid : e'.id = e.id) : e' = e ∧ e ∈ h'.visibleEditors := by
  -- the number was given out before the first of the three editors, so the view is new in none of them
  have hle : e'.id.number ≤ h.latestEditor := hid ▸ hv.id_le e he
  have hmid : e' ∈ h'.visibleEditors :=
    (hu'.visible e' he').resolve_right (Nat.not_lt_of_le (Nat.le_trans hle hu.latest))
  have hold : e' ∈ h.visibleEditors := (hu.visible e' hmid).resolve_right (Nat.not_lt_of_le hle)
  obtain rfl : e' = e := hv.eq_of_id hold he hid
  exact ⟨rfl, hmid⟩

/-! ## Decorations -/

/-- The decoration that an entry of the log has created. -/
def drawnBy : Operation × Answer → Option RenderedDecoration
  | (.creates editor style ranges hover, .created handle) => some ⟨handle, editor, style, ranges, hover⟩
  | _ => none

/-- The handle that was to be disposed of. -/
def Operation.requested : Operation → Option DecorationHandle
  | .disposes handle => some handle
  | _ => none

/-- What was created, the first decoration first. -/
def drawn (log : List (Operation × Answer)) : List RenderedDecoration := log.filterMap drawnBy

def drawnHandles (log : List (Operation × Answer)) : List DecorationHandle :=
  (drawn log).map RenderedDecoration.handle

/-- The handles that were to be disposed of and had been created, with every repetition.  `made` are
those that were created before. -/
def requests (made : List DecorationHandle) : List (Operation × Answer) → List DecorationHandle
  | [] => []
  | entry :: log =>
    entry.1.requested.toList.filter (· ∈ made) ++ requests (made ++ drawnHandles [entry]) log

theorem drawnHandles_append (log more : List (Operation × Answer)) :
    drawnHandles (log ++ more) = drawnHandles log ++ drawnHandles more := by
  rw [drawnHandles, drawn, List.filterMap_append, List.map_append]
  rfl

theorem requests_concat (made : List DecorationHandle) (log : List (Operation × Answer))
    (entry : Operation × Answer) :
    requests made (log ++ [entry]) =
      requests made log ++ entry.1.requested.toList.filter (· ∈ made ++ drawnHandles log) := by
  induction log generalizing made with
  | nil => simp [requests, drawnHandles, drawn]
  | cons first log ih =>
    have hhandles : drawnHandles (first :: log) = drawnHandles [first] ++ drawnHandles log :=
      drawnHandles_append [first] log
    rw [List.cons_append, requests, ih, requests, hhandles, List.append_assoc, List.append_assoc]

/-- A canvas and the log of what led to it. -/
structure IsRecord (log : List (Operation × Answer)) (c : Canvas) : Prop where
  sound : c.IsSound
  numbers : (drawnHandles log).map DecorationHandle.number = List.range' 1 c.latest
  live : c.live = (drawn log).filter (·.handle ∉ c.disposed)
  disposed : c.disposed = (requests [] log).eraseDups
  disposed_drawn : c.disposed ⊆ drawnHandles log

variable {log : List (Operation × Answer)} {c : Canvas} {x : DecorationHandle}

theorem isRecord_empty : IsRecord [] {} where
  sound := Canvas.isSound_empty
  numbers := rfl
  live := rfl
  disposed := rfl
  disposed_drawn := List.nil_subset _

theorem IsRecord.le_latest (hr : IsRecord log c) (hx : x ∈ drawnHandles log) : x.number ≤ c.latest := by
  have hmem : x.number ∈ List.range' 1 c.latest := hr.numbers ▸ List.mem_map_of_mem hx
  rw [List.mem_range'_1] at hmem
  omega

/-- What is alive was created and is not disposed of. -/
theorem IsRecord.isLive_iff (hr : IsRecord log c) :
    c.isLive x = true ↔ x ∈ drawnHandles log ∧ x ∉ c.disposed := by
  simp only [Canvas.isLive, hr.live, List.any_filter, List.any_eq_true, drawnHandles, List.mem_map,
    Bool.and_eq_true, decide_eq_true_eq]
  constructor
  · rintro ⟨d, hd, hnot, rfl⟩
    exact ⟨⟨d, hd, rfl⟩, hnot⟩
  · rintro ⟨⟨d, hd, rfl⟩, hnot⟩
    exact ⟨d, hd, hnot, rfl⟩

theorem drawn_concat {entry : Operation × Answer} (hnone : drawnBy entry = none) :
    drawn (log ++ [entry]) = drawn log := by
  rw [drawn, List.filterMap_append, List.filterMap_cons, hnone]
  exact List.append_nil _

/-- An entry that neither creates nor disposes. -/
theorem IsRecord.skip (hr : IsRecord log c) {entry : Operation × Answer} (hdrawn : drawnBy entry = none)
    (hrequested : entry.1.requested = none) : IsRecord (log ++ [entry]) c := by
  have hsame : drawnHandles (log ++ [entry]) = drawnHandles log := by
    rw [drawnHandles, drawn_concat hdrawn, ← drawnHandles]
  refine ⟨hr.sound, hsame ▸ hr.numbers, ?_, ?_, hsame ▸ hr.disposed_drawn⟩
  · rw [drawn_concat hdrawn]
    exact hr.live
  · rw [requests_concat, hrequested]
    exact hr.disposed.trans (congrArg List.eraseDups (List.append_nil _).symm)

theorem IsRecord.create (hr : IsRecord log c) (editor : EditorId) (style : DecorationStyle)
    (ranges : List Range) (hover : Option String) :
    IsRecord
      (log ++ [(.creates editor style ranges hover, .created (c.create editor style ranges hover).1)])
      (c.create editor style ranges hover).2 where
  sound := hr.sound.create editor style ranges hover
  numbers := by
    rw [drawnHandles_append, List.map_append, hr.numbers]
    show List.range' 1 c.latest ++ [c.latest + 1] = List.range' 1 (c.latest + 1)
    rw [List.range'_1_concat, Nat.add_comm 1]
  live := by
    have hnew : (⟨c.latest + 1⟩ : DecorationHandle) ∉ c.disposed := fun hmem =>
      Nat.not_succ_le_self _ (hr.le_latest (hr.disposed_drawn hmem))
    rw [drawn, List.filterMap_append, List.filter_append]
    refine congrArg₂ (· ++ ·) hr.live ?_
    simp [drawnBy, Canvas.create, hnew]
  disposed := by
    rw [requests_concat]
    exact hr.disposed.trans (congrArg List.eraseDups (List.append_nil _).symm)
  disposed_drawn := by
    rw [drawnHandles_append]
    exact fun x hx => List.mem_append_left _ (hr.disposed_drawn hx)

/-- The first occurrences, after one more item. -/
theorem eraseDups_concat (xs : List DecorationHandle) (x : DecorationHandle) :
    (xs ++ [x]).eraseDups = if x ∈ xs then xs.eraseDups else xs.eraseDups ++ [x] := by
  rw [List.eraseDups_append]
  by_cases hx : x ∈ xs <;> simp [List.removeAll, hx, List.eraseDups_cons]

/-- One more request counts if its handle is alive. -/
theorem IsRecord.eraseDups_requests (hr : IsRecord log c) (x : DecorationHandle) :
    (requests [] (log ++ [(.disposes x, .done)])).eraseDups =
      if c.isLive x then c.disposed ++ [x] else c.disposed := by
  have hmem : x ∈ requests [] log ↔ x ∈ c.disposed := by rw [hr.disposed, List.mem_eraseDups]
  rw [requests_concat]
  show (requests [] log ++ [x].filter (· ∈ drawnHandles log)).eraseDups = _
  by_cases hx : x ∈ drawnHandles log
  · rw [List.filter_cons_of_pos (by simpa using hx), List.filter_nil, eraseDups_concat, ← hr.disposed]
    simp only [hmem, hr.isLive_iff, hx, true_and, ite_not]
  · rw [List.filter_cons_of_neg (by simpa using hx), List.filter_nil, List.append_nil, ← hr.disposed]
    simp only [hr.isLive_iff, hx, false_and, if_false]

theorem IsRecord.dispose (hr : IsRecord log c) (x : DecorationHandle) :
    IsRecord (log ++ [(.disposes x, .done)]) (c.dispose x) := by
  have hdrawn : drawn (log ++ [(.disposes x, .done)]) = drawn log := drawn_concat rfl
  have hsame : drawnHandles (log ++ [(.disposes x, .done)]) = drawnHandles log := by
    rw [drawnHandles, hdrawn, ← drawnHandles]
  have hdisposed := hr.eraseDups_requests x
  have hsound := hr.sound.dispose x
  unfold Canvas.dispose at hsound ⊢
  cases hlive : c.isLive x with
  | true =>
    obtain ⟨hx, -⟩ := hr.isLive_iff.1 hlive
    rw [if_pos hlive] at hsound hdisposed
    refine ⟨hsound, hsame ▸ hr.numbers, ?_, hdisposed.symm, hsame ▸ ?_⟩
    · show c.live.filter (·.handle ≠ x) = (drawn _).filter (·.handle ∉ c.disposed ++ [x])
      rw [hdrawn, hr.live, List.filter_filter]
      refine List.filter_congr fun d _ => ?_
      simp [and_comm]
    · exact List.append_subset.2 ⟨hr.disposed_drawn, List.cons_subset.2 ⟨hx, List.nil_subset _⟩⟩
  | false =>
    rw [hlive] at hdisposed
    exact ⟨hr.sound, hsame ▸ hr.numbers, hdrawn ▸ hr.live, hdisposed.symm, hsame ▸ hr.disposed_drawn⟩

/-- **Every operation is recorded.** -/
theorem IsRecord.operate (hr : IsRecord log h.canvas) (op : Operation) :
    IsRecord (log ++ [(op, (h.operate op).1)]) (h.operate op).2.canvas := by
  have hsettle {entry : Operation × Answer} {r : Except HostError (EditorEvent × HeadlessEditor)}
      (hentry : IsRecord (log ++ [entry]) h.canvas)
      (hr : ∀ event h', r = .ok (event, h') → h'.canvas = h.canvas) :
      IsRecord (log ++ [entry]) (h.settle r).2.canvas :=
    settle_induction (P := fun h' => IsRecord (log ++ [entry]) h'.canvas) hentry
      fun event h' hok => hr event h' hok ▸ hentry
  cases op with
  | shows uri => exact hsettle (hr.skip rfl rfl) fun _ _ hs => (showDocument_ok hs).2.2.1
  | edits uri text => exact hsettle (hr.skip rfl rfl) fun _ _ he => (edit_ok he).2.2.2.1
  | creates editor style ranges hover => exact hr.create editor style ranges hover
  | disposes x => exact hr.dispose x
  | _ => exact hr.skip rfl rfl

theorem isRecord_after (ops : List Operation) :
    IsRecord (({} : HeadlessEditor).log ops) (({} : HeadlessEditor).after ops).canvas := by
  induction ops using List.reverseRecOn with
  | nil => exact isRecord_empty
  | append_singleton ops op ih =>
    rw [log_concat, after_append]
    exact ih.operate op

theorem IsRecord.drawnHandles_nodup (hr : IsRecord log c) : (drawnHandles log).Nodup := by
  refine .of_map DecorationHandle.number ?_
  rw [hr.numbers]
  exact List.nodup_range'

/-- A handle that was given out is alive or disposed of, and not both. -/
theorem IsRecord.mem_drawnHandles_iff (hr : IsRecord log c) :
    x ∈ drawnHandles log ↔ Xor (x ∈ c.live.map RenderedDecoration.handle) (x ∈ c.disposed) := by
  have hlive : x ∈ c.live.map RenderedDecoration.handle ↔ x ∈ drawnHandles log ∧ x ∉ c.disposed := by
    rw [← hr.isLive_iff]
    simp [Canvas.isLive]
  rw [hlive]
  constructor
  · intro hx
    by_cases hdisposed : x ∈ c.disposed
    · exact .inr ⟨hdisposed, fun hlive => hlive.2 hdisposed⟩
    · exact .inl ⟨⟨hx, hdisposed⟩, hdisposed⟩
  · rintro (⟨⟨hx, -⟩, -⟩ | ⟨hx, -⟩)
    · exact hx
    · exact hr.disposed_drawn hx

/-! ## Every history -/

/-- **Documents, views, the active editor and the decorations fit together after every history.**  A
document has one view at most, views have different numbers, and a number that is seen twice in a
history is that of one view that was there all the time in between, so none is given out again.  Views
show open documents, and the active editor is one of them.  A handle that was given out is alive or
disposed of and not both; the live decorations are as they were created, in that order, and the handles
that are disposed of stand in the order of the first requests.  What is refused names a document that is
not open, and changes nothing. -/
theorem every_history_is_consistent (ops : List Operation) :
    let h := ({} : HeadlessEditor).after ops
    let log := ({} : HeadlessEditor).log ops
    (h.visibleEditors.map EditorRef.uri).Nodup ∧
      (h.visibleEditors.map EditorRef.id).Nodup ∧
      (∀ before middle later, ops = before ++ middle ++ later →
        ∀ e ∈ (({} : HeadlessEditor).after before).visibleEditors, ∀ e' ∈ h.visibleEditors,
          e'.id = e.id →
            e' = e ∧ e ∈ (({} : HeadlessEditor).after (before ++ middle)).visibleEditors) ∧
      (∀ e ∈ h.visibleEditors, h.isOpen e.uri = true) ∧
      (∀ id, h.active = some id → ∃ e ∈ h.visibleEditors, e.id = id) ∧
      (drawnHandles log).Nodup ∧
      (∀ x, x ∈ drawnHandles log ↔
        Xor (x ∈ h.canvas.live.map RenderedDecoration.handle) (x ∈ h.canvas.disposed)) ∧
      h.canvas.live = (drawn log).filter (·.handle ∉ h.canvas.disposed) ∧
      h.canvas.disposed.Nodup ∧
      h.canvas.disposed = (requests [] log).eraseDups ∧
      ∀ op error,
        ((h.operate op).1 = .refused error ↔
          ∃ uri, h.isOpen uri = false ∧ error = .unknownDocument uri ∧
            (op = .shows uri ∨ ∃ text, op = .edits uri text)) ∧
        ((h.operate op).1 = .refused error → (h.operate op).2 = h) := by
  intro h log
  have hc : h.IsConsistent := isConsistent_empty.after ops
  have hr : IsRecord log h.canvas := isRecord_after ops
  refine ⟨hc.apart.uris, hc.apart.ids, ?_, hc.opened, hc.active, hr.drawnHandles_nodup,
    fun x => hr.mem_drawnHandles_iff, hr.live, hr.sound.disposed_nodup, hr.disposed,
    fun op error => ⟨operate_refused_iff, operate_refused⟩⟩
  rintro before middle later rfl e he e' he' hid
  have hbefore := (isConsistent_empty.after before).apart
  have hmiddle := unfolds_after (({} : HeadlessEditor).after before) middle
  rw [← after_append] at hmiddle
  have hlater := unfolds_after (({} : HeadlessEditor).after (before ++ middle)) later
  rw [← after_append] at hlater
  exact hmiddle.eq_of_id hlater hbefore he he' hid

/-- Two documents with a decoration each.  Handles are disposed of that were never given out, out of
order and twice, and the second document is closed. -/
def closing : List Operation :=
  [.opens "first" "a", .shows "first", .opens "second" "b", .shows "second",
    .creates ⟨1⟩ .computed [] none, .creates ⟨2⟩ .computed [] none, .disposes ⟨2⟩, .disposes ⟨7⟩,
    .disposes ⟨2⟩, .disposes ⟨1⟩, .closes "second"]

/-- The second document is asked for, opened again, shown and decorated, and a selection is set in the
view that it had before. -/
def reopening : List Operation :=
  [.shows "second", .opens "second" "b", .shows "second", .creates ⟨3⟩ .computed [] (some "again"),
    .disposes ⟨1⟩, .selects ⟨2⟩ (.caret ⟨0, 1⟩)]

/-- The view that was closed has the number 2, which stays its own; the handles 2 and 1 are disposed of
in this order, and the third one is alive. -/
theorem reopening_is_consistent :
    let before := ({} : HeadlessEditor).after closing
    let h := ({} : HeadlessEditor).after (closing ++ reopening)
    ((before.operate (.shows "second")).1 = .refused (.unknownDocument "second") ∧
        (before.operate (.shows "second")).2 = before) ∧
      h.visibleEditors = [⟨⟨1⟩, "first"⟩, ⟨⟨3⟩, "second"⟩] ∧ h.active = some ⟨3⟩ ∧
      (∀ e ∈ h.visibleEditors, e.id ≠ ⟨2⟩) ∧
      h.canvas.disposed = [⟨2⟩, ⟨1⟩] ∧
      drawnHandles (({} : HeadlessEditor).log (closing ++ reopening)) = [⟨1⟩, ⟨2⟩, ⟨3⟩] ∧
      Xor ((⟨3⟩ : DecorationHandle) ∈ h.canvas.live.map RenderedDecoration.handle)
        ((⟨3⟩ : DecorationHandle) ∈ h.canvas.disposed) := by
  obtain ⟨-, -, -, -, -, -, -, -, -, -, hrefused⟩ := every_history_is_consistent closing
  obtain ⟨-, -, hid, -, -, -, hhandles, -, -, -, -⟩ :=
    every_history_is_consistent (closing ++ reopening)
  have hshown : (⟨⟨2⟩, "second"⟩ : EditorRef) ∈
      (({} : HeadlessEditor).after (closing.take 4)).visibleEditors := by decide
  have hclosed : (⟨⟨2⟩, "second"⟩ : EditorRef) ∉
      (({} : HeadlessEditor).after (closing.take 4 ++ closing.drop 4)).visibleEditors := by decide
  have hr := (hrefused (.shows "second") (.unknownDocument "second")).1.2
    ⟨"second", by decide, rfl, .inl rfl⟩
  refine ⟨⟨hr, (hrefused _ _).2 hr⟩, by decide, by decide, fun e he heq => ?_, by decide, by decide,
    (hhandles ⟨3⟩).1 (by decide)⟩
  exact hclosed (hid (closing.take 4) (closing.drop 4) reopening rfl _ hshown e he heq).2

end LanguageClient.HeadlessEditor
