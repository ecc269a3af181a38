import LanguageClient.Proofs.Connection.Agreement
import Mathlib.Data.List.Induction

/-!
# Attempts to tell the server about documents

A notification about a document can be refused by the stream.  An `Attempt` is a notification that
was about to be written, with what became of it; the notifications that were written are what the
server was told.

The table is not set back when a write fails.  That a document is opened is written first and noted
afterwards; that it has changed, or is closed, is noted first (`Runs.sync_table`,
`Runs.forget_table`).  So the table has the text that was *tried* last, which may differ from the one
that was *written* last.

* `Correspondence.Tracks` — the invariant: a text in the table, and a text whose sending succeeds, is
  the last one that was tried, and if it was not written then it was a change.
* **`Tracks.step`** — every step keeps it, with whatever the step attempts.
-/

namespace LanguageClient

namespace DocumentNote

/-- The text that a note gives to a document. -/
def text? (uri : String) : DocumentNote → Option String
  | opened u _ text | changed u _ text => if u = uri then some text else none
  | closed _ => none

/-- The last text that notes give to a document. -/
def lastText? (notes : List DocumentNote) (uri : String) : Option String :=
  (notes.filterMap (text? uri)).getLast?

end DocumentNote

/-- A notification that was about to be written, and whether it was written. -/
structure Attempt where
  note : DocumentNote
  written : Bool
  deriving DecidableEq, Inhabited, Repr

namespace Attempt

/-- The last attempt to give a text to a document. -/
def lastFor? (attempts : List Attempt) (uri : String) : Option Attempt :=
  (attempts.filter fun a => (a.note.text? uri).isSome).getLast?

/-- What has been told after these attempts. -/
def told (attempts : List Attempt) : List DocumentNote :=
  (attempts.filter Attempt.written).map Attempt.note

/-- The last text that was tried of a document is this one.  It was written, or it was a change. -/
def Tried (attempts : List Attempt) (uri text : String) : Prop :=
  ∃ a, lastFor? attempts uri = some a ∧ a.note.text? uri = some text ∧
    (a.written = true ∨ a.note.isChange = true)

theorem lastFor?_concat (attempts : List Attempt) (a : Attempt) (uri : String) :
    lastFor? (attempts ++ [a]) uri =
      if (a.note.text? uri).isSome then some a else lastFor? attempts uri := by
  rw [lastFor?, List.filter_append, List.filter_singleton]
  cases (a.note.text? uri).isSome with
  | true => exact List.getLast?_concat
  | false => exact congrArg List.getLast? (List.append_nil _)

theorem told_append (attempts more : List Attempt) : told (attempts ++ more) = told attempts ++ told more := by
  rw [told, List.filter_append, List.map_append, told, told]

/-- If the last text that was tried was written, it is the last one that was told. -/
theorem lastText?_told {attempts : List Attempt} {uri : String} {a : Attempt}
    (h : lastFor? attempts uri = some a) (written : a.written = true) :
    DocumentNote.lastText? (told attempts) uri = a.note.text? uri := by
  induction attempts using List.reverseRecOn with
  | nil => cases h
  | append_singleton attempts b ih =>
    rw [lastFor?_concat] at h
    rw [told_append, DocumentNote.lastText?, List.filterMap_append]
    split at h
    next hb =>
      cases h
      obtain ⟨text, htext⟩ := Option.isSome_iff_exists.1 hb
      simp [told, written, htext]
    next hb =>
      have hnone : b.note.text? uri = none := Option.not_isSome_iff_eq_none.1 hb
      have hrest : (told [b]).filterMap (DocumentNote.text? uri) = [] := by
        cases hw : b.written <;> simp [told, hw, hnone]
      rw [hrest, List.append_nil]
      exact ih h

/-- An attempt that gives the document no text is no matter. -/
theorem Tried.concat {attempts : List Attempt} {uri text : String} (h : Tried attempts uri text)
    {a : Attempt} (ha : a.note.text? uri = none) : Tried (attempts ++ [a]) uri text := by
  obtain ⟨b, hb, hrest⟩ := h
  refine ⟨b, ?_, hrest⟩
  rw [lastFor?_concat, ha]
  exact hb

theorem tried_concat (attempts : List Attempt) {a : Attempt} {uri text : String}
    (ha : a.note.text? uri = some text) (h : a.written = true ∨ a.note.isChange = true) :
    Tried (attempts ++ [a]) uri text := by
  refine ⟨a, ?_, ha, h⟩
  rw [lastFor?_concat, ha]
  rfl

end Attempt

namespace Telling

/-! ## A whole call -/

/-- A call goes on to its end from some point.  Between its steps everything may happen that leaves the
table of documents alone. -/
inductive Runs (task : TaskId) : Telling → Connection → Connection → Except Failure Unit → Prop
  | ends {p : Telling} {c c' : Connection} {r : Except Failure Unit}
      (last : p.step task c = .ends c' r) : Runs task p c c' r
  | goesOn {p q : Telling} {c c' d c'' : Connection} {r : Except Failure Unit}
      (first : p.step task c = .goesOn c' q) (meanwhile : d.documents = c'.documents)
      (rest : Runs task q d c'' r) : Runs task p c c'' r

/-- The table that a call leaves, and what it comes to: a document that was not in the table is in it
only if this was written, a text that differs is in it in any case, and a document that is closed is
not in it in any case. -/
def Leaves (before after : Table String SentDocument) (r : Except Failure Unit) : Telling → Prop
  | syncs uri text .beginning | syncs uri text .looking =>
    match before.get? uri with
    | none => (r = .ok () ∧ after = before.set uri ⟨1, text⟩) ∨ (∃ e, r = .error e ∧ after = before)
    | some d =>
      if d.text = text then r = .ok () ∧ after = before else after = before.set uri ⟨d.version + 1, text⟩
  | syncs uri text .opening =>
    (r = .ok () ∧ after = before.set uri ⟨1, text⟩) ∨ (∃ e, r = .error e ∧ after = before)
  | syncs uri text .recording => r = .ok () ∧ after = before.set uri ⟨1, text⟩
  | syncs _ _ (.changing _) => after = before
  | syncs _ _ (.leaving result) => r = result ∧ after = before
  | forgets uri .beginning | forgets uri .removing =>
    if before.contains uri then after = before.erase uri else r = .ok () ∧ after = before
  | forgets _ .writing => after = before

theorem Runs.leaves {task : TaskId} {p : Telling} {c c' : Connection} {r : Except Failure Unit}
    (h : Runs task p c c' r) : p.Leaves c.documents c'.documents r := by
  induction h with
  | @ends p c c' r last =>
    have hmove := p.step_moves task c
    rw [last] at hmove
    cases hmove with
    | leaves => exact ⟨rfl, rfl⟩
    | hasNothing _ found =>
      rw [Leaves, if_neg (by simp [Table.contains, found])]
      exact ⟨rfl, rfl⟩
    | closes written => exact (Connection.documents_write written).1
    | failsToClose => rfl
  | @goesOn p q c c' d c'' r first meanwhile _ ih =>
    have hmove := p.step_moves task c
    rw [first] at hmove
    rw [meanwhile] at ih
    cases hmove with
    | joinsToSync => exact ih
    | joinsToForget => exact ih
    | findsNothing _ found =>
      rw [Leaves, found]
      exact ih
    | findsSame _ found =>
      rw [Leaves, found]
      exact (if_pos rfl).mpr ih
    | findsOther _ found differs =>
      rw [Leaves, found]
      exact (if_neg differs).mpr ih
    | changes written => exact ih.2.trans (Connection.documents_write written).1
    | opens written =>
      rw [(Connection.documents_write written).1] at ih
      exact .inl ih
    | @fails uri text p m e message _ =>
      cases p with
      | changing => exact ih.2
      | opening => exact .inr ⟨e, ih⟩
      | _ => cases message
    | records => exact ih
    | removes _ found =>
      rw [Leaves, if_pos (by simp [Table.contains, found])]
      exact ih

/-! ## What the next step attempts -/

/-- What a party is about to write, and whether it will be written. -/
def attempt? (c : Connection) (p : Telling) : Option Attempt :=
  p.message?.bind fun m => (DocumentNote.ofMessage? m).map fun note => ⟨note, (c.write m).isOk⟩

/-- What is known of a party that has the table for itself. -/
def Stands (attempts : List Attempt) (c : Connection) : Telling → Prop
  | syncs uri text (.changing version) => c.documents.get? uri = some ⟨version, text⟩
  | syncs uri _ .opening => c.documents.get? uri = none
  | syncs uri text .recording | syncs uri text (.leaving (.ok ())) => Attempt.Tried attempts uri text
  | _ => True

theorem stands_of_not_holds {attempts : List Attempt} {c : Connection} {p : Telling}
    (h : ¬ p.Holds) : p.Stands attempts c := by
  unfold Stands
  split
  · exact (h trivial).elim
  · exact (h trivial).elim
  · exact (h trivial).elim
  · exact (h trivial).elim
  · trivial

theorem Stands.mono {attempts attempts' : List Attempt} {c c' : Connection} {p : Telling}
    (h : p.Stands attempts c) (documents : c'.documents = c.documents)
    (tried : ∀ uri text, Attempt.Tried attempts uri text → Attempt.Tried attempts' uri text) :
    p.Stands attempts' c' := by
  unfold Stands at h ⊢
  rw [documents]
  split at h
  · exact h
  · exact h
  · exact tried _ _ h
  · exact tried _ _ h
  · trivial

variable {task : TaskId} {c c' : Connection} {p : Telling} {next : Telling ⊕ Except Failure Unit}

theorem attempt?_changing (c : Connection) (uri text : String) (version : UInt32) :
    attempt? c (syncs uri text (.changing version)) = some ⟨.changed uri version.toNat text,
      (c.write (DocumentMessage.changed uri version text)).isOk⟩ := by
  rw [attempt?, message?, Option.bind_some, DocumentNote.ofMessage?_changed, Option.map_some]

theorem attempt?_opening (c : Connection) (uri text : String) :
    attempt? c (syncs uri text .opening) =
      some ⟨.opened uri 1 text, (c.write (DocumentMessage.opened uri text)).isOk⟩ := by
  rw [attempt?, message?, Option.bind_some, DocumentNote.ofMessage?_opened, Option.map_some]

theorem attempt?_writing (c : Connection) (uri : String) :
    attempt? c (forgets uri .writing) =
      some ⟨.closed uri, (c.write (DocumentMessage.closed uri)).isOk⟩ := by
  rw [attempt?, message?, Option.bind_some, DocumentNote.ofMessage?_closed, Option.map_some]

/-- A failure to send a text is a change or an opening that was not written. -/
theorem attempt?_fails {c : Connection} {uri text : String} {p : SyncPoint} {m : Message} {e : Failure}
    (message : (syncs uri text p).message? = some m) (refused : c.write m = .error e) :
    (∃ version, p = .changing version ∧
      attempt? c (syncs uri text p) = some ⟨.changed uri version.toNat text, false⟩) ∨
    (p = .opening ∧ attempt? c (syncs uri text p) = some ⟨.opened uri 1 text, false⟩) := by
  cases p with
  | changing version =>
    cases message
    refine .inl ⟨version, rfl, ?_⟩
    rw [attempt?_changing, refused]
    rfl
  | opening =>
    cases message
    refine .inr ⟨rfl, ?_⟩
    rw [attempt?_opening, refused]
    rfl
  | _ => cases message

/-- What is told is what is attempted and written. -/
theorem Move.told_attempt (h : Move task c p c' next) :
    c'.told = c.told ++ Attempt.told (p.attempt? c).toList := by
  cases h with
  | changes written =>
    rw [Connection.told_write written, attempt?_changing, written, DocumentNote.ofMessage?_changed]
    rfl
  | opens written =>
    rw [Connection.told_write written, attempt?_opening, written, DocumentNote.ofMessage?_opened]
    rfl
  | closes written =>
    rw [Connection.told_write written, attempt?_writing, written, DocumentNote.ofMessage?_closed]
    rfl
  | fails message refused =>
    rcases attempt?_fails message refused with ⟨_, -, ha⟩ | ⟨-, ha⟩ <;> rw [ha] <;>
      exact (List.append_nil _).symm
  | failsToClose refused =>
    rw [attempt?_writing, refused]
    exact (List.append_nil _).symm
  | _ => exact (List.append_nil _).symm

end Telling

namespace Correspondence

/-- What a party attempts with its next step. -/
def attempt? (x : Correspondence) (task : TaskId) : Option Attempt :=
  (x.parties task).bind (Telling.attempt? x.connection)

/-- What has been attempted, and what is known from it of the two sides and of everybody between
them. -/
structure Tracks (attempts : List Attempt) (x : Correspondence) : Prop where
  told : x.connection.told = Attempt.told attempts
  turns : x.HasTurns
  /-- A text in the table was tried last, or is about to be tried. -/
  tabled : ∀ uri d, x.connection.documents.get? uri = some d → Attempt.Tried attempts uri d.text ∨
    ∃ task version, x.parties task = some (.syncs uri d.text (.changing version))
  stands : ∀ task p, x.parties task = some p → p.Stands attempts x.connection

variable {x x' : Correspondence} {attempts : List Attempt} {task : TaskId} {p : Telling}

namespace Tracks

theorem of_isFresh (h : x.IsFresh) : x.Tracks [] := by
  obtain ⟨link, hc, hsent⟩ := h.connection
  refine ⟨?_, .of_isFresh h, fun uri d hd => ?_, fun task p hp => ?_⟩
  · rw [hc, Connection.told, hsent]
    rfl
  · rw [hc] at hd
    cases hd
  · exact Telling.stands_of_not_holds (Telling.not_holds_of_isFirst (h.parties task p hp))

/-- What a party comes to that has the table for itself, or whose turn it is: nobody else is between
the two sides, so only its own point and the table matter. -/
theorem of_turn (hx : x.Tracks attempts) {next : Telling ⊕ Except Failure Unit}
    (hp : x.parties task = some p) (h : p.Move task x.connection x'.connection next)
    (hp' : x'.parties task = next.getLeft?)
    (others : ∀ other, other ≠ task → x'.parties other = x.parties other)
    (turn : x.connection.documentLock.holder? = some task) {attempts' : List Attempt}
    (told : x'.connection.told = Attempt.told attempts')
    (tabled : ∀ uri d, x'.connection.documents.get? uri = some d →
      Attempt.Tried attempts' uri d.text ∨
        ∃ version, next.getLeft? = some (.syncs uri d.text (.changing version)))
    (stands : ∀ q, next.getLeft? = some q → q.Stands attempts' x'.connection) :
    x'.Tracks attempts' where
  told := told
  turns := hx.turns.of_moves hp h hp' others
  tabled uri d hd := (tabled uri d hd).imp_right fun ⟨version, hq⟩ => ⟨task, version, hp'.trans hq⟩
  stands other q hq := by
    by_cases e : other = task
    · subst e
      exact stands q (hp' ▸ hq)
    · exact Telling.stands_of_not_holds fun hh =>
        e (hx.turns.eq_of_turn turn (others other e ▸ hq) hh)

/-- What a party comes to that is not between the two sides: the table stays, and whoever is between
the two sides stays there. -/
theorem of_outside (hx : x.Tracks attempts) {next : Telling ⊕ Except Failure Unit}
    (hp : x.parties task = some p) (h : p.Move task x.connection x'.connection next)
    (hp' : x'.parties task = next.getLeft?)
    (others : ∀ other, other ≠ task → x'.parties other = x.parties other)
    (before : ¬ p.Holds) (after : ∀ q, next.getLeft? = some q → ¬ q.Holds)
    {attempts' : List Attempt} (told : x'.connection.told = Attempt.told attempts')
    (documents : x'.connection.documents = x.connection.documents)
    (tried : ∀ uri text, Attempt.Tried attempts uri text → Attempt.Tried attempts' uri text) :
    x'.Tracks attempts' where
  told := told
  turns := hx.turns.of_moves hp h hp' others
  tabled uri d hd := by
    refine (hx.tabled uri d (documents ▸ hd)).imp (tried uri d.text) ?_
    rintro ⟨other, version, hq⟩
    refine ⟨other, version, (others other ?_).trans hq⟩
    rintro rfl
    rw [hp] at hq
    cases hq
    exact before trivial
  stands other q hq := by
    by_cases e : other = task
    · subst e
      exact Telling.stands_of_not_holds (after q (hp' ▸ hq))
    · exact (hx.stands other q (others other e ▸ hq)).mono documents tried

/-- A text in the table was tried last, if the party whose turn it is is not about to try it. -/
theorem tried_of_turn (hx : x.Tracks attempts) (hp : x.parties task = some p)
    (turn : x.connection.documentLock.holder? = some task) {uri : String} {d : SentDocument}
    (hd : x.connection.documents.get? uri = some d) :
    Attempt.Tried attempts uri d.text ∨ ∃ version, p = .syncs uri d.text (.changing version) := by
  refine (hx.tabled uri d hd).imp_right ?_
  rintro ⟨other, version, hq⟩
  obtain rfl := hx.turns.eq_of_turn turn hq trivial
  exact ⟨version, Option.some.inj (hp.symm.trans hq)⟩

theorem tried_of_idle (hx : x.Tracks attempts) (hp : x.parties task = some p)
    (turn : x.connection.documentLock.holder? = some task)
    (idle : ∀ uri text version, p ≠ .syncs uri text (.changing version)) {uri : String}
    {d : SentDocument} (hd : x.connection.documents.get? uri = some d) :
    Attempt.Tried attempts uri d.text :=
  (hx.tried_of_turn hp turn hd).resolve_right fun ⟨version, he⟩ => idle _ _ version he

/-- A party that has the table for itself tries to write a text. -/
theorem of_try (hx : x.Tracks attempts) {next : Telling ⊕ Except Failure Unit}
    (hp : x.parties task = some p) (h : p.Move task x.connection x'.connection next)
    (hp' : x'.parties task = next.getLeft?)
    (others : ∀ other, other ≠ task → x'.parties other = x.parties other) (hh : p.Holds)
    {a : Attempt} {uri text : String}
    (gives : ∀ other, a.note.text? other = if uri = other then some text else none)
    (told : x'.connection.told = Attempt.told (attempts ++ [a]))
    (documents : x'.connection.documents = x.connection.documents)
    (about : p.uri = uri)
    (listed : ∀ d, x.connection.documents.get? uri = some d →
      Attempt.Tried (attempts ++ [a]) uri d.text)
    (stands : ∀ q, next.getLeft? = some q → q.Stands (attempts ++ [a]) x'.connection) :
    x'.Tracks (attempts ++ [a]) := by
  have turn := hx.turns task p hp hh
  refine hx.of_turn hp h hp' others turn told (fun other d hd => .inl ?_) stands
  rw [documents] at hd
  by_cases e : uri = other
  · subst e
    exact listed d hd
  · rcases hx.tried_of_turn hp turn hd with ht | ⟨version, rfl⟩
    · exact ht.concat ((gives other).trans (if_neg e))
    · exact absurd about.symm e

/-- A party takes a step. -/
theorem moves (hx : x.Tracks attempts) {next : Telling ⊕ Except Failure Unit}
    (hp : x.parties task = some p) (h : p.Move task x.connection x'.connection next)
    (hp' : x'.parties task = next.getLeft?)
    (others : ∀ other, other ≠ task → x'.parties other = x.parties other) {attempts' : List Attempt}
    (ha : attempts' = attempts ++ (p.attempt? x.connection).toList) : x'.Tracks attempts' := by
  have told : x'.connection.told = Attempt.told attempts' := by
    rw [h.told_attempt, hx.told, ha, Attempt.told_append]
  have stands := hx.stands task p hp
  have hmove := h
  generalize hc : x'.connection = c' at h
  cases h with
  | joinsToSync =>
    obtain rfl : attempts' = attempts := ha.trans (List.append_nil _)
    exact hx.of_outside hp hmove hp' others id (by rintro _ ⟨⟩; exact id) told (by rw [hc]; rfl)
      fun _ _ ht => ht
  | joinsToForget =>
    obtain rfl : attempts' = attempts := ha.trans (List.append_nil _)
    exact hx.of_outside hp hmove hp' others id (by rintro _ ⟨⟩; exact id) told (by rw [hc]; rfl)
      fun _ _ ht => ht
  | findsNothing turn found =>
    obtain rfl : attempts' = attempts := ha.trans (List.append_nil _)
    refine hx.of_turn hp hmove hp' others turn told (fun uri d hd => .inl ?_) ?_
    · rw [hc] at hd
      exact hx.tried_of_idle hp turn (by simp) hd
    · rintro _ ⟨⟩
      rw [hc]
      exact found
  | findsSame turn found =>
    obtain rfl : attempts' = attempts := ha.trans (List.append_nil _)
    refine hx.of_turn hp hmove hp' others turn told (fun uri d hd => .inl ?_) ?_
    · rw [hc] at hd
      exact hx.tried_of_idle hp turn (by simp) hd
    · rintro _ ⟨⟩
      exact hx.tried_of_idle hp turn (by simp) found
  | @findsOther uri text d turn found differs =>
    obtain rfl : attempts' = attempts := ha.trans (List.append_nil _)
    refine hx.of_turn hp hmove hp' others turn told (fun other d' hd => ?_) ?_
    · rw [hc, Connection.rememberDocument, Table.get?_set] at hd
      split at hd
      next e =>
        cases hd
        subst e
        exact .inr ⟨_, rfl⟩
      next => exact .inl (hx.tried_of_idle hp turn (by simp) hd)
    · rintro _ ⟨⟩
      rw [hc]
      exact (Table.get?_set ..).trans (if_pos rfl)
  | @changes uri text version c' written =>
    obtain rfl : attempts' = attempts ++ [⟨.changed uri version.toNat text, true⟩] := by
      rw [ha, Telling.attempt?_changing, written]
      rfl
    have hgives : Attempt.Tried (attempts ++ [⟨.changed uri version.toNat text, true⟩]) uri text :=
      Attempt.tried_concat attempts (if_pos rfl) (.inl rfl)
    refine hx.of_try hp hmove hp' others trivial (fun _ => rfl) told ?_ rfl (fun d hd => ?_) ?_
    · rw [hc]
      exact (Connection.documents_write written).1
    · obtain rfl := Option.some.inj (hd.symm.trans stands)
      exact hgives
    · rintro _ ⟨⟩
      exact hgives
  | @opens uri text c' written =>
    obtain rfl : attempts' = attempts ++ [⟨.opened uri 1 text, true⟩] := by
      rw [ha, Telling.attempt?_opening, written]
      rfl
    refine hx.of_try hp hmove hp' others trivial (fun _ => rfl) told ?_ rfl (fun d hd => ?_) ?_
    · rw [hc]
      exact (Connection.documents_write written).1
    · cases hd.symm.trans stands
    · rintro _ ⟨⟩
      exact Attempt.tried_concat attempts (if_pos rfl) (.inl rfl)
  | @fails uri text q m e message refused =>
    rcases Telling.attempt?_fails message refused with ⟨version, rfl, hq⟩ | ⟨rfl, hq⟩
    · obtain rfl : attempts' = attempts ++ [⟨.changed uri version.toNat text, false⟩] := by
        rw [ha, hq]
        rfl
      refine hx.of_try hp hmove hp' others trivial (fun _ => rfl) told (by rw [hc]) rfl
        (fun d hd => ?_) (by rintro _ ⟨⟩; trivial)
      obtain rfl := Option.some.inj (hd.symm.trans stands)
      exact Attempt.tried_concat attempts (if_pos rfl) (.inr rfl)
    · obtain rfl : attempts' = attempts ++ [⟨.opened uri 1 text, false⟩] := by
        rw [ha, hq]
        rfl
      refine hx.of_try hp hmove hp' others trivial (fun _ => rfl) told (by rw [hc]) rfl
        (fun d hd => ?_) (by rintro _ ⟨⟩; trivial)
      cases hd.symm.trans stands
  | @records uri text =>
    obtain rfl : attempts' = attempts := ha.trans (List.append_nil _)
    have turn := hx.turns task _ hp trivial
    refine hx.of_turn hp hmove hp' others turn told (fun other d hd => .inl ?_) ?_
    · rw [hc, Connection.rememberDocument, Table.get?_set] at hd
      split at hd
      next e =>
        cases hd
        subst e
        exact stands
      next => exact hx.tried_of_idle hp turn (by simp) hd
    · rintro _ ⟨⟩
      exact stands
  | leaves =>
    obtain rfl : attempts' = attempts := ha.trans (List.append_nil _)
    have turn := hx.turns task _ hp trivial
    refine hx.of_turn hp hmove hp' others turn told (fun uri d hd => .inl ?_) (by rintro _ ⟨⟩)
    rw [hc] at hd
    exact hx.tried_of_idle hp turn (by simp) hd
  | removes turn found =>
    obtain rfl : attempts' = attempts := ha.trans (List.append_nil _)
    refine hx.of_turn hp hmove hp' others turn told (fun uri d hd => .inl ?_)
      (by rintro _ ⟨⟩; trivial)
    rw [hc] at hd
    have hd := (Table.get?_erase ..).symm.trans hd
    split at hd
    next => cases hd
    next => exact hx.tried_of_idle hp turn (by simp) hd
  | hasNothing turn found =>
    obtain rfl : attempts' = attempts := ha.trans (List.append_nil _)
    refine hx.of_turn hp hmove hp' others turn told (fun uri d hd => .inl ?_) (by rintro _ ⟨⟩)
    rw [hc] at hd
    exact hx.tried_of_idle hp turn (by simp) hd
  | @closes uri c' written =>
    obtain rfl : attempts' = attempts ++ [⟨.closed uri, true⟩] := by
      rw [ha, Telling.attempt?_writing, written]
      rfl
    refine hx.of_outside hp hmove hp' others id (by rintro _ ⟨⟩) told ?_ fun _ _ ht => ht.concat rfl
    rw [hc]
    exact (Connection.documents_write written).1
  | @failsToClose uri e refused =>
    obtain rfl : attempts' = attempts ++ [⟨.closed uri, false⟩] := by
      rw [ha, Telling.attempt?_writing, refused]
      rfl
    exact hx.of_outside hp hmove hp' others id (by rintro _ ⟨⟩) told (by rw [hc])
      fun _ _ ht => ht.concat rfl

/-- **A party that takes its next step keeps track**, with what it attempts. -/
theorem advances (hx : x.Tracks attempts) (h : x.Advances x' task) :
    x'.Tracks (attempts ++ (x.attempt? task).toList) := by
  obtain ⟨p, next, hp, hmove, hp', others⟩ := h
  refine hx.moves hp hmove hp' others ?_
  rw [attempt?, hp, Option.bind_some]

/-- What leaves the table and what was told alone keeps track, if at most somebody begins. -/
theorem of_same (hx : x.Tracks attempts) (turns : x'.HasTurns)
    (told : x'.connection.told = x.connection.told)
    (documents : x'.connection.documents = x.connection.documents)
    (parties : ∀ task, x'.parties task = x.parties task ∨
      (x.parties task = none ∧ ∀ p, x'.parties task = some p → p.IsFirst)) : x'.Tracks attempts where
  told := told.trans hx.told
  turns := turns
  tabled uri d hd := by
    refine (hx.tabled uri d (documents ▸ hd)).imp_right ?_
    rintro ⟨task, version, hp⟩
    refine ⟨task, version, ?_⟩
    rcases parties task with he | ⟨hnone, -⟩
    · exact he.trans hp
    · rw [hp] at hnone
      cases hnone
  stands task p hp := by
    by_cases hf : p.IsFirst
    · exact Telling.stands_of_not_holds (Telling.not_holds_of_isFirst hf)
    · exact (hx.stands task p (parties_of_beside parties hp hf)).mono documents fun _ _ ht => ht

/-- **What is not the step of a party keeps track.** -/
theorem step (hx : x.Tracks attempts) {e : Source} (h : x.Step x' e) (he : ∀ task, e ≠ .party task) :
    x'.Tracks attempts := by
  have turns := hx.turns.step h
  cases h with
  | @moves task => exact absurd rfl (he task)
  | streams hc hp => exact hx.of_same turns (by rw [hc]; rfl) (by rw [hc]) fun task => .inl (by rw [hp])
  | beside h hp => exact hx.of_same turns h.told h.documents hp

end Tracks

end Correspondence

end LanguageClient
