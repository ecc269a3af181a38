import LanguageClient.Proofs.Client.Mirror
import LanguageClient.Proofs.Connection.Rounds

/-!
# Opening and closing in turn

Any number of calls may send texts and close documents on one connection at once.  If whatever is told
can be written, the notes about each document come in rounds, and once nobody is in the middle of
telling anything the server holds exactly the documents of the table — unless a text is looked up in a
hurry.  A text that is sent has the table of documents until it is written, but a document that is
closed gives the table back first; so a text of the same document can be looked up and sent in between,
and what is written last is that the document is closed.

* **`documents_are_told_in_rounds`**.
* `document_is_opened_in_a_hurry` — two calls that get in each other's way.
-/

namespace LanguageClient

open DocumentNote

/-- Nothing is opened twice in a row. -/
theorem DocumentNote.not_inRounds_of_opened_twice {uri u u' first second : String} {v v' : Nat}
    {notes : List DocumentNote} : ¬ InRounds uri (opened u v first :: opened u' v' second :: notes) := by
  rintro ⟨rounds, h⟩
  cases rounds with
  | nil => simp at h
  | cons r rest =>
    obtain ⟨text, texts⟩ := r
    cases texts <;> simp [wholeRound, opening] at h

namespace Workbench

variable {w₀ w : Workbench} {g : Happening} {hs : List Happening}

/-- **Documents are told about in rounds.**  Take any history in which nobody writes about documents by
hand, whatever is told about them can be written, and no text is looked up between the moment when a
call takes its document out of the table and the moment when this call writes that the document is
closed.  Then the notes about each document on each line are a beginning of rounds; and when no call is
in the middle of telling anything on the line, the server holds the document exactly if the table
does. -/
theorem documents_are_told_in_rounds (h₀ : w₀.IsFresh) (h : w₀.after? hs = some w)
    (plain : w₀.Throughout hs fun _ g => g.IsPlain) (free : w₀.Throughout hs TellsFreely)
    (unhurried : w₀.Throughout hs UnhurriedAt) {n : Nat} {l : Line}
    (hl : w.client.session.line? n = some l) (uri : String) :
    InRounds uri (l.connection.toldOf uri) ∧ ((∀ task, w.teller? n task = none) →
      ((l.connection.held uri).isSome = true ↔ l.connection.documents.contains uri = true)) := by
  have hx : w.correspondence? n = some ⟨l.connection, w.teller? n⟩ :=
    correspondence?_eq_some.2 ⟨l, hl, rfl⟩
  obtain ⟨order, counts⟩ := inOrder_induction (P := fun x => ∀ uri, x.connection.Counts uri)
    (fun _ fresh => fresh.counts) (fun _ _ _ order counts hstep => hstep.counts order counts) h₀ h plain
    free unhurried hx
  refine ⟨(counts uri).inRounds, fun nobody => ?_⟩
  cases order.agrees uri with
  | settled same _ =>
    rw [same, Connection.listed, Option.isSome_map]
    rfl
  | @busy task p hp _ _ =>
    cases (nobody task).symm.trans hp

/-! ## A document is changed, closed and opened again -/

/-- What is told about documents is not written by hand, and can be written. -/
def keepsFreely (w : Workbench) : Happening → Bool
  | .calls (.notify ..) => false
  | .calls _ => true
  | g => w.keepsTelling g

theorem of_keepsFreely (h : w.keepsFreely g = true) : g.IsPlain ∧ w.TellsFreely g := by
  unfold keepsFreely at h
  split at h
  next => cases h
  next c hc => exact ⟨by cases c <;> first | trivial | exact absurd rfl (hc _ _), trivial⟩
  next => exact (of_keepsTelling h).2

/-- A text is looked up, and somebody else is about to write that its document is closed. -/
def hurries (w : Workbench) : Happening → Bool
  | .goesOn (.call task) =>
    match w.telling? task with
    | some (n, .syncs uri _ .looking) => w.calls.any fun (_, c) =>
        match c.telling? with
        | some (m, .forgets u .writing) => m = n && u = uri
        | _ => false
    | _ => false
  | _ => false

theorem unhurriedAt_of_hurries (h : w.hurries g = false) : w.UnhurriedAt g := by
  unfold UnhurriedAt
  split
  next task =>
    rintro n x hx uri text hp other hq
    obtain ⟨l, _, rfl⟩ := correspondence?_eq_some.1 hx
    obtain ⟨c, hc, hct⟩ := Option.bind_eq_some_iff.1 (teller?_eq_some.1 hq)
    simp only [hurries, teller?_eq_some.1 hp, List.any_eq_false] at h
    exact h _ (Table.mem_of_get? hc) (by simp [hct])
  next => trivial

/-- A text is sent and another text of the same document waits behind it; then the document is closed,
and opened again. -/
def alternatedHistory : List Happening :=
  sentHistory ++ .calls (.forget "a") :: .calls (.showText "a" "y") :: takes 4 3 ++ takes 3 3
  ++ takes 4 3 ++ takes 3 2 ++ .calls (.showText "a" "z") :: takes 5 7

/-- Both calls are made before either begins; there are two rounds, and the second goes on. -/
theorem document_is_told_about_in_two_rounds :
    ∃ w l, unused.after? alternatedHistory = some w ∧ w.calls = [] ∧
      (unused.Throughout alternatedHistory fun u g => g.IsPlain ∧ u.TellsFreely g ∧ u.UnhurriedAt g) ∧
      w.client.session.line? 0 = some l ∧
      l.connection.toldOf "a" = wholeRound "a" ("x", ["y"]) ++ opening "a" "z" [] ∧
      InRounds "a" (l.connection.toldOf "a") ∧ (l.connection.held "a").isSome = true ∧
      l.connection.documents.contains "a" = true := by
  have reached : ((unused.after? alternatedHistory).any (fun w => w.calls.isEmpty &&
        (w.client.session.line? 0).any fun l =>
          l.connection.toldOf "a" = wholeRound "a" ("x", ["y"]) ++ opening "a" "z" [] &&
            l.connection.documents.contains "a") &&
      (unused.record (fun u g => if u.keepsFreely g && !u.hurries g then none else some ())
        alternatedHistory).isEmpty) = true := by
    decide +kernel
  obtain ⟨reached, hkept⟩ := (Bool.and_eq_true _ _).mp reached
  obtain ⟨w, hw, reached⟩ := (Option.any_eq_true _ _).1 reached
  obtain ⟨hrests, reached⟩ := (Bool.and_eq_true _ _).mp reached
  obtain ⟨l, hl, reached⟩ := (Option.any_eq_true _ _).1 reached
  obtain ⟨htold, hcontains⟩ := (Bool.and_eq_true _ _).mp reached
  have rests : w.calls = [] := List.isEmpty_iff.1 hrests
  have throughout : unused.Throughout alternatedHistory fun u g =>
      g.IsPlain ∧ u.TellsFreely g ∧ u.UnhurriedAt g := by
    refine throughout_of_check (fun u g h => ?_) (List.isEmpty_iff.1 hkept)
    obtain ⟨hfree, hunhurried⟩ := (Bool.and_eq_true _ _).mp h
    obtain ⟨plain, free⟩ := of_keepsFreely hfree
    exact ⟨plain, free, unhurriedAt_of_hurries (by simpa using hunhurried)⟩
  obtain ⟨rounds, same⟩ := documents_are_told_in_rounds isFresh_unused hw
    (throughout.mono fun _ _ h => h.1) (throughout.mono fun _ _ h => h.2.1)
    (throughout.mono fun _ _ h => h.2.2) hl "a"
  have nobody (task : TaskId) : w.teller? 0 task = none := by
    rw [teller?, telling?, rests]
    rfl
  exact ⟨w, l, hw, rests, throughout, hl, of_decide_eq_true htold, rounds, (same nobody).2 hcontains,
    hcontains⟩

/-- The document is closed, and before this is written another text of it is sent. -/
def hurriedHistory : List Happening :=
  sentHistory ++ .calls (.forget "a") :: takes 3 4 ++ .calls (.showText "a" "y") :: takes 4 7 ++ takes 3 1

/-- **Who is in a hurry opens a document that is closed afterwards.**  The document is opened twice in a
row, and in the end the table has it and the server does not. -/
theorem document_is_opened_in_a_hurry :
    ∃ w l, unused.after? hurriedHistory = some w ∧ w.calls = [] ∧
      (unused.Throughout hurriedHistory fun u g => g.IsPlain ∧ u.TellsFreely g) ∧
      w.client.session.line? 0 = some l ∧
      l.connection.toldOf "a" = [.opened "a" 1 "x", .opened "a" 1 "y", .closed "a"] ∧
      ¬ InRounds "a" (l.connection.toldOf "a") ∧ l.connection.held "a" = none ∧
      l.connection.documents.contains "a" = true := by
  have reached : ((unused.after? hurriedHistory).any (fun w => w.calls.isEmpty &&
        (w.client.session.line? 0).any fun l =>
          l.connection.toldOf "a" = [.opened "a" 1 "x", .opened "a" 1 "y", .closed "a"] &&
            l.connection.held "a" = none && l.connection.documents.contains "a") &&
      (unused.record (fun u g => if u.keepsFreely g then none else some ())
        hurriedHistory).isEmpty) = true := by
    decide +kernel
  obtain ⟨reached, hkept⟩ := (Bool.and_eq_true _ _).mp reached
  obtain ⟨w, hw, reached⟩ := (Option.any_eq_true _ _).1 reached
  obtain ⟨hrests, reached⟩ := (Bool.and_eq_true _ _).mp reached
  obtain ⟨l, hl, reached⟩ := (Option.any_eq_true _ _).1 reached
  simp only [Bool.and_eq_true, decide_eq_true_eq] at reached
  obtain ⟨⟨htold, hheld⟩, hcontains⟩ := reached
  have twice : ¬ InRounds "a" (l.connection.toldOf "a") := by
    rw [htold]
    exact not_inRounds_of_opened_twice
  exact ⟨w, l, hw, List.isEmpty_iff.1 hrests,
    throughout_of_check (fun _ _ => of_keepsFreely) (List.isEmpty_iff.1 hkept), hl, htold, twice, hheld,
    hcontains⟩

end Workbench

end LanguageClient
