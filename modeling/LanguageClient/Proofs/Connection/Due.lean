import LanguageClient.Proofs.Connection.Agreement
import Mathlib.Algebra.Group.Nat.Defs

/-!
# What one call tells

While only one call tells something about documents, what it has told so far and what it has done to
the table can be seen from where it is.

* `Connection.due` — what has to be told before the server holds a text; `dueHere` is the same as long
  as versions do not run over (`dueHere_eq`).
* `Connection.Syncs`, `Connection.Forgets` — what becomes of a connection when a text is sent, and
  when a document is closed.
* `Telling.Since` — how the connection differs from what it was when the call began.
* **`Since.move`** — every step keeps this, and the last one leaves what the call is for.
-/

namespace LanguageClient

namespace Connection

/-- What has to be told before the server holds a text. -/
def due (c : Connection) (uri text : String) : List DocumentNote :=
  match c.listed uri with
  | none => [.opened uri 1 text]
  | some d => if d.text = text then [] else [.changed uri (d.version + 1) text]

/-- The same with the version as it is counted here. -/
def dueHere (c : Connection) (uri text : String) : List DocumentNote :=
  match c.documents.get? uri with
  | none => [.opened uri 1 text]
  | some d => if d.text = text then [] else [.changed uri (d.version + 1).toNat text]

/-- What becomes of a connection when a text is sent with these notes. -/
structure Syncs (notes : List DocumentNote) (uri text : String) (c c' : Connection) : Prop where
  told : c'.told = c.told ++ notes
  listed : ∃ d, c'.documents.get? uri = some d ∧ d.text = text
  others : ∀ other, other ≠ uri → c'.documents.get? other = c.documents.get? other

/-- What becomes of a connection when a document is closed. -/
structure Forgets (uri : String) (c c' : Connection) : Prop where
  told : c'.told = c.told ++ if c.documents.contains uri then [.closed uri] else []
  listed : c'.documents.get? uri = none
  others : ∀ other, other ≠ uri → c'.documents.get? other = c.documents.get? other

/-- Nothing has been told, and the table is as it was. -/
structure Untold (c c' : Connection) : Prop where
  told : c'.told = c.told
  documents : c'.documents = c.documents

theorem Untold.refl (c : Connection) : c.Untold c := ⟨rfl, rfl⟩

theorem Untold.trans {c c' c'' : Connection} (h : c.Untold c') (h' : c'.Untold c'') : c.Untold c'' :=
  ⟨h'.told.trans h.told, h'.documents.trans h.documents⟩

/-- Versions do not run over while the server is told of few changes. -/
theorem dueHere_eq {c c' : Connection} {uri text : String}
    (told : c'.told = c.told ++ c.dueHere uri text)
    (counted : ∀ d, c.listed uri = some d → d.version ≤ 1 + c.changes uri)
    (few : c'.changes uri < 2 ^ 32 - 1) : c.dueHere uri text = c.due uri text := by
  unfold dueHere at told ⊢
  cases found : c.documents.get? uri with
  | none => rw [due, listed_eq_none.2 found]
  | some d =>
    have hlisted := listed_of_get? found
    rw [found] at told
    rw [due, hlisted]
    by_cases ht : d.text = text
    · simp [ht]
    · simp only [ht, if_false] at told ⊢
      have hchanges := changes_of_changed told
      have hle : d.version.toNat ≤ 1 + c.changes uri := counted _ hlisted
      have hnext : (d.version + 1).toNat = d.version.toNat + 1 := by
        rw [UInt32.toNat_add]
        exact Nat.mod_eq_of_lt (by simp only [UInt32.toNat_one]; omega)
      rw [hnext]

theorem Silent.untold {c c' : Connection} (h : c.Silent c') : c.Untold c' := ⟨h.told, h.documents⟩

end Connection

namespace Telling

open Connection

/-- What the call is for: this becomes of the connection. -/
def Aim (c c' : Connection) : Telling → Prop
  | syncs uri text _ => c.Syncs (c.dueHere uri text) uri text c'
  | forgets uri _ => c.Forgets uri c'

/-- How a connection differs from what it was when the call began. -/
def Since (c₀ c : Connection) : Telling → Prop
  | syncs _ _ .beginning | syncs _ _ .looking | forgets _ .beginning | forgets _ .removing =>
    c₀.Untold c
  | syncs uri text (.changing version) => c.told = c₀.told ∧
      c.documents = c₀.documents.set uri ⟨version, text⟩ ∧
      c₀.dueHere uri text = [.changed uri version.toNat text]
  | syncs uri text .opening => c₀.Untold c ∧ c₀.dueHere uri text = [.opened uri 1 text]
  | syncs uri text .recording => c.told = c₀.told ++ c₀.dueHere uri text ∧ c.documents = c₀.documents
  | syncs uri text (.leaving result) => result = .ok () ∧ c₀.Syncs (c₀.dueHere uri text) uri text c
  | forgets uri .writing => c.told = c₀.told ∧ c.documents = c₀.documents.erase uri ∧
      c₀.documents.contains uri = true

/-- Only what is told and the table matter. -/
theorem Since.untold {c₀ c c' : Connection} {x : Telling} (h : x.Since c₀ c) (hc : c.Untold c') :
    x.Since c₀ c' := by
  unfold Since at h ⊢
  split at h
  · exact h.trans hc
  · exact h.trans hc
  · exact h.trans hc
  · exact h.trans hc
  · exact ⟨hc.told.trans h.1, hc.documents.trans h.2.1, h.2.2⟩
  · exact ⟨h.1.trans hc, h.2⟩
  · exact ⟨hc.told.trans h.1, hc.documents.trans h.2⟩
  · obtain ⟨hr, hs⟩ := h
    exact ⟨hr, hc.told.trans hs.told, hc.documents ▸ hs.listed, hc.documents ▸ hs.others⟩
  · exact ⟨hc.told.trans h.1, hc.documents.trans h.2.1, h.2.2⟩

theorem Aim.untold {c c' c'' : Connection} {x : Telling} (h : x.Aim c c') (hc : c'.Untold c'') :
    x.Aim c c'' := by
  cases x with
  | syncs uri text p =>
    exact ⟨hc.told.trans h.told, hc.documents ▸ h.listed, hc.documents ▸ h.others⟩
  | forgets uri p => exact ⟨hc.told.trans h.told, hc.documents ▸ h.listed, hc.documents ▸ h.others⟩

/-- What a call comes to if every write succeeds: it goes on with the same aim, or has reached it. -/
def Comes (c₀ c : Connection) (x : Telling) : Telling ⊕ Except Failure Unit → Prop
  | .inl x' => x'.Since c₀ c
  | .inr result => result = .ok () ∧ x.Aim c₀ c

/-- **Every step keeps what is known since the call began, and the last one reaches its aim.** -/
theorem Since.move {task : TaskId} {c₀ c c' : Connection} {x : Telling}
    {next : Telling ⊕ Except Failure Unit} (h : x.Since c₀ c) (m : x.Move task c c' next)
    (can : ∀ m, x.message? = some m → ∃ c', c.write m = .ok c') : x.Comes c₀ c' next := by
  have told {m : Message} {c' : Connection} {note : DocumentNote} (written : c.write m = .ok c')
      (hm : DocumentNote.ofMessage? m = some note) : c'.told = c.told ++ [note] := by
    rw [told_write written, hm]
    rfl
  cases m with
  | joinsToSync => exact Untold.trans h ⟨rfl, rfl⟩
  | joinsToForget => exact Untold.trans h ⟨rfl, rfl⟩
  | @findsNothing uri text turn found =>
    have untold : c₀.Untold c := h
    rw [untold.documents] at found
    exact ⟨untold, by rw [dueHere, found]⟩
  | @findsSame uri d turn found =>
    have untold : c₀.Untold c := h
    have found₀ := untold.documents ▸ found
    refine ⟨rfl, ?_, ⟨d, found, rfl⟩, fun other _ => by rw [untold.documents]⟩
    rw [untold.told, dueHere, found₀]
    simp
  | @findsOther uri text d turn found differs =>
    have untold : c₀.Untold c := h
    have found₀ := untold.documents ▸ found
    refine ⟨untold.told, ?_, ?_⟩
    · show c.documents.set uri _ = _
      rw [untold.documents]
    · rw [dueHere, found₀]
      exact if_neg differs
  | @changes uri text version c' written =>
    obtain ⟨htold, hdocuments, hdue⟩ := h
    have hget : c'.documents = c₀.documents.set uri ⟨version, text⟩ :=
      (documents_write written).1.trans hdocuments
    refine ⟨rfl, ?_, ⟨⟨version, text⟩, ?_, rfl⟩, fun other hne => ?_⟩
    · rw [told written (DocumentNote.ofMessage?_changed ..), htold, hdue]
    · rw [hget, Table.get?_set, if_pos rfl]
    · rw [hget, Table.get?_set, if_neg (Ne.symm hne)]
  | @opens uri text c' written =>
    obtain ⟨untold, hdue⟩ := h
    refine ⟨?_, (documents_write written).1.trans untold.documents⟩
    rw [told written (DocumentNote.ofMessage?_opened ..), untold.told, hdue]
  | fails message refused =>
    obtain ⟨c', hw⟩ := can _ message
    rw [refused] at hw
    cases hw
  | @records uri text =>
    obtain ⟨htold, hdocuments⟩ := h
    have hget (other : String) : (c.rememberDocument uri ⟨1, text⟩).documents.get? other =
        if uri = other then some ⟨1, text⟩ else c.documents.get? other := Table.get?_set ..
    refine ⟨rfl, htold, ⟨⟨1, text⟩, (hget uri).trans (if_pos rfl), rfl⟩, fun other hne => ?_⟩
    rw [hget, if_neg (Ne.symm hne), hdocuments]
  | leaves =>
    obtain ⟨rfl, hs⟩ := h
    exact ⟨rfl, hs.told, hs.listed, hs.others⟩
  | @removes uri d turn found =>
    have untold : c₀.Untold c := h
    have found₀ := untold.documents ▸ found
    refine ⟨untold.told, ?_, by simp [Table.contains, found₀]⟩
    show c.documents.erase uri = _
    rw [untold.documents]
  | @hasNothing uri turn found =>
    have untold : c₀.Untold c := h
    have found₀ := untold.documents ▸ found
    refine ⟨rfl, ?_, found, fun other _ => congrArg (Table.get? · other) untold.documents⟩
    rw [if_neg (by simp [Table.contains, found₀]), List.append_nil]
    exact untold.told
  | @closes uri c' written =>
    obtain ⟨htold, hdocuments, hcontains⟩ := h
    have hget : c'.documents = c₀.documents.erase uri := (documents_write written).1.trans hdocuments
    refine ⟨rfl, ?_, ?_, fun other hne => ?_⟩
    · rw [told written (DocumentNote.ofMessage?_closed ..), htold, if_pos hcontains]
    · rw [hget, Table.get?_erase, if_pos rfl]
    · rw [hget, Table.get?_erase, if_neg (Ne.symm hne)]
  | failsToClose refused =>
    obtain ⟨c', hw⟩ := can _ rfl
    rw [refused] at hw
    cases hw

end Telling

end LanguageClient
