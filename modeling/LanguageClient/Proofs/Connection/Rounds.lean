import LanguageClient.Proofs.Connection.Agreement
import Mathlib.Algebra.Group.Nat.Defs

/-!
# Documents are told about in rounds

In one round a document is opened with version one, changed with the versions after it one by one, and
closed.  While both sides are in order whatever is told about a document is in turn: it is opened only
if the server does not hold it, and changed or closed only if it does.  So the notes about it are whole
rounds, and after them the beginning of one more if the document is open.

* `DocumentNote.wholeRound`, `DocumentNote.InRounds` — a round, and a beginning of some rounds.
* `DocumentNote.InTurn` — a note that can come next.
* `Connection.Counts` — whole rounds and a beginning of one, with the version that the server holds.
* **`Correspondence.Step.counts`** — every step keeps this while both sides are in order.
-/

namespace LanguageClient

namespace DocumentNote

/-- A document is opened, and changed to these texts.  Versions are counted in 32 bits. -/
def opening (uri first : String) (texts : List String) : List DocumentNote :=
  opened uri 1 first :: texts.mapIdx fun i text => changed uri ((i + 2) % 2 ^ 32) text

/-- A document is opened, changed to these texts, and closed. -/
def wholeRound (uri : String) (r : String × List String) : List DocumentNote :=
  opening uri r.1 r.2 ++ [closed uri]

/-- The notes are a beginning of some rounds. -/
def InRounds (uri : String) (notes : List DocumentNote) : Prop :=
  ∃ rounds : List (String × List String), notes <+: rounds.flatMap (wholeRound uri)

/-- What can come next about a document that the server holds like this. -/
def InTurn (held : Option HeldDocument) : DocumentNote → Prop
  | opened _ version _ => held = none ∧ version = 1
  | changed _ version _ => ∃ d, held = some d ∧ version = (d.version + 1) % 2 ^ 32
  | closed _ => ∃ d, held = some d

theorem opening_concat (uri first : String) (texts : List String) (text : String) :
    opening uri first (texts ++ [text]) =
      opening uri first texts ++ [changed uri ((texts.length + 2) % 2 ^ 32) text] := by
  rw [opening, List.mapIdx_concat]
  rfl

end DocumentNote

open DocumentNote

namespace Connection

/-- What the server has been told about one document. -/
def toldOf (c : Connection) (uri : String) : List DocumentNote := c.told.filter (·.uri = uri)

/-- The notes about a document are whole rounds, and after them the beginning of one more if the server
holds the document, whose version counts the notes of this round. -/
def Counts (c : Connection) (uri : String) : Prop :=
  ∃ rounds : List (String × List String), match c.held uri with
    | none => c.toldOf uri = rounds.flatMap (wholeRound uri)
    | some d => ∃ first texts,
        c.toldOf uri = rounds.flatMap (wholeRound uri) ++ opening uri first texts ∧
        d.version = (texts.length + 1) % 2 ^ 32

variable {c c' : Connection} {uri : String}

theorem toldOf_of_told {note : DocumentNote} (h : c'.told = c.told ++ [note]) (hu : note.uri = uri) :
    c'.toldOf uri = c.toldOf uri ++ [note] := by
  rw [toldOf, h, List.filter_append, List.filter_cons_of_pos (by simpa using hu)]
  rfl

theorem toldOf_of_told_ne {note : DocumentNote} (h : c'.told = c.told ++ [note]) (hu : note.uri ≠ uri) :
    c'.toldOf uri = c.toldOf uri := by
  rw [toldOf, h, List.filter_append, List.filter_cons_of_neg (by simpa using hu)]
  exact List.append_nil _

namespace Counts

/-- Whole rounds, and perhaps the beginning of another, are a beginning of some rounds. -/
theorem inRounds (h : c.Counts uri) : InRounds uri (c.toldOf uri) := by
  obtain ⟨rounds, h⟩ := h
  split at h
  · exact ⟨rounds, h ▸ List.prefix_refl _⟩
  · obtain ⟨first, texts, h, -⟩ := h
    refine ⟨rounds ++ [(first, texts)], ?_⟩
    rw [h, List.flatMap_append, List.flatMap_singleton, wholeRound, ← List.append_assoc]
    exact List.prefix_append _ _

theorem congr (h : c.Counts uri) (told : c'.toldOf uri = c.toldOf uri) (held : c'.held uri = c.held uri) :
    c'.Counts uri := by
  unfold Counts
  rw [told, held]
  exact h

/-- **A note that is in turn** is the beginning of a round, or goes on with one. -/
theorem concat (h : c.Counts uri) {note : DocumentNote} (told : c'.told = c.told ++ [note])
    (hu : note.uri = uri) (turn : note.InTurn (c.held uri)) : c'.Counts uri := by
  obtain ⟨rounds, h⟩ := h
  have notes := toldOf_of_told told hu
  cases note with
  | opened u version text =>
    obtain rfl : u = uri := hu
    obtain ⟨hheld, rfl⟩ := turn
    rw [hheld] at h
    refine ⟨rounds, ?_⟩
    rw [held_of_opened told]
    exact ⟨text, [], by rw [notes, h]; rfl, rfl⟩
  | changed u version text =>
    obtain rfl : u = uri := hu
    obtain ⟨d, hheld, rfl⟩ := turn
    rw [hheld] at h
    obtain ⟨first, texts, h, counted⟩ := h
    have hversion : (d.version + 1) % 2 ^ 32 = (texts.length + 2) % 2 ^ 32 := by
      rw [counted, Nat.mod_add_mod]
    refine ⟨rounds, ?_⟩
    rw [held_of_changed told hheld]
    refine ⟨first, texts ++ [text], ?_, ?_⟩
    · rw [notes, h, opening_concat, hversion, List.append_assoc]
    · rw [hversion, List.length_append]
      rfl
  | closed u =>
    obtain rfl : u = uri := hu
    obtain ⟨d, hheld⟩ := turn
    rw [hheld] at h
    obtain ⟨first, texts, h, -⟩ := h
    refine ⟨rounds ++ [(first, texts)], ?_⟩
    rw [held_of_closed told]
    show c'.toldOf u = _
    rw [notes, h, List.flatMap_append, List.flatMap_singleton, wholeRound, List.append_assoc]

end Counts

end Connection

open Connection

namespace Correspondence

variable {x x' : Correspondence}

/-- **While both sides are in order, whatever is told is in turn.** -/
theorem InOrder.inTurn (hx : x.InOrder) {task : TaskId} {p : Telling} {c' : Connection}
    {next : Telling ⊕ Except Failure Unit} (hp : x.parties task = some p)
    (h : p.Move task x.connection c' next) :
    c'.told = x.connection.told ∨ ∃ note, c'.told = x.connection.told ++ [note] ∧
      note.InTurn (x.connection.held note.uri) := by
  have between (hn : p.IsAbout p.uri) := ((hx.agrees p.uri).of_isAbout hp hn).1
  have told {m : Message} {note : DocumentNote} (written : x.connection.write m = .ok c')
      (hm : ofMessage? m = some note) : c'.told = x.connection.told ++ [note] := by
    rw [told_write written, hm]
    rfl
  cases h with
  | @changes uri text version c' written =>
    obtain ⟨-, -, v, old, hheld, rfl⟩ := between rfl
    exact .inr ⟨_, told written (ofMessage?_changed ..), _, hheld, UInt32.toNat_add v 1⟩
  | opens written =>
    obtain ⟨-, -, hheld⟩ := between rfl
    exact .inr ⟨_, told written (ofMessage?_opened ..), hheld, rfl⟩
  | closes written =>
    obtain ⟨-, -, hheld⟩ := between rfl
    exact .inr ⟨_, told written (ofMessage?_closed ..), hheld⟩
  | _ => exact .inl rfl

/-- Nothing has been told on a fresh correspondence. -/
theorem IsFresh.counts (h : x.IsFresh) (uri : String) : x.connection.Counts uri := by
  obtain ⟨link, hc, hsent⟩ := h.connection
  have told : x.connection.told = [] := by
    rw [hc, Connection.told, hsent]
    rfl
  refine ⟨[], ?_⟩
  rw [held, toldOf, told]
  rfl

/-- **Every step keeps the rounds** while both sides are in order. -/
theorem Step.counts {e : Source} (h : x.Step x' e) (hx : x.InOrder)
    (counts : ∀ uri, x.connection.Counts uri) (uri : String) : x'.connection.Counts uri := by
  have same (told : x'.connection.told = x.connection.told) : x'.connection.Counts uri :=
    (counts uri).congr (by rw [toldOf, told, toldOf]) (held_congr told uri)
  cases h with
  | moves hp h _ _ =>
    rcases hx.inTurn hp h with told | ⟨note, told, turn⟩
    · exact same told
    · by_cases hu : note.uri = uri
      · subst hu
        exact (counts _).concat told rfl turn
      · exact (counts uri).congr (toldOf_of_told_ne told hu) (held_of_told_ne told hu)
  | streams hc _ => exact same (by rw [hc]; rfl)
  | beside silent _ => exact same silent.told

end Correspondence

end LanguageClient
