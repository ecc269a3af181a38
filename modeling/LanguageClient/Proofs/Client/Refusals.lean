import LanguageClient.Proofs.Client.Mirror
import LanguageClient.Proofs.Connection.Attempts

/-!
# When the stream refuses

Streams fail and recover as they please, and any number of calls send texts and close documents at
once.  `Workbench.attempts` lists what was about to be written about documents on a line, each with
what became of it; `tracks_after?` says that every history keeps track of them.

* **`sent_text_is_the_last_one`** — a document that was to be opened and was not is not in the table;
  and a text whose sending succeeds is the last one that was tried, so it is the last one that was
  written unless that attempt failed, and then it was a change.
* `refused_text_is_taken_for_sent` — the exception is there: a text is tried and refused, and to send
  it once more succeeds without writing anything.
-/

namespace LanguageClient

open Session

namespace Workbench

/-- What a happening attempts to tell about documents on a line. -/
def attempt? (n : Nat) (w : Workbench) : Happening → Option Attempt
  | .goesOn (.call task) => (w.correspondence? n).bind (·.attempt? task)
  | _ => none

/-- What was attempted to be told about documents on a line, in its order. -/
def attempts (w : Workbench) (n : Nat) (hs : List Happening) : List Attempt :=
  w.record (attempt? n) hs

variable {w₀ w w' : Workbench} {g : Happening} {hs : List Happening} {n : Nat}

theorem attempts_concat (h : w₀.after? hs = some w) (n : Nat) (g : Happening) :
    w₀.attempts n (hs ++ [g]) = w₀.attempts n hs ++ (w.attempt? n g).toList :=
  record_concat _ h g

/-- A happening keeps track, with what it attempts. -/
theorem happen?_tracks (sound : w.Sound) (hw : w.IsPlain) (h : w.happen? g = some w')
    {x : Correspondence} (hx : w.correspondence? n = some x) {attempts : List Attempt}
    (tracks : x.Tracks attempts) :
    ∃ x', w'.correspondence? n = some x' ∧ x'.Tracks (attempts ++ (w.attempt? n g).toList) := by
  by_cases hg : ∃ task, g = .goesOn (.call task)
  · obtain ⟨task, rfl⟩ := hg
    have attempted : w.attempt? n (.goesOn (.call task)) = x.attempt? task := by
      rw [attempt?, hx, Option.bind_some]
    obtain ⟨turn, others⟩ := turn_tells hw h
    obtain ⟨x', hx', hadvances | ⟨hnone, hstep⟩⟩ := Tells.correspondence_call turn others hx
    · exact ⟨x', hx', attempted ▸ tracks.advances hadvances⟩
    · refine ⟨x', hx', ?_⟩
      rw [attempted, Correspondence.attempt?, hnone, Option.bind_none, Option.toList_none,
        List.append_nil]
      exact tracks.step hstep (by rintro _ ⟨⟩)
  · have attempted : w.attempt? n g = none := by
      unfold attempt?
      split
      next task => exact absurd ⟨task, rfl⟩ hg
      next => rfl
    obtain ⟨x', e, hx', hstep, he⟩ := (happen?_tells sound hw h).correspondence hx
    refine ⟨x', hx', ?_⟩
    rw [attempted, Option.toList_none, List.append_nil]
    refine tracks.step hstep fun task ht => hg ⟨task, ?_⟩
    rw [ht] at he
    exact he

/-- On a line that comes nothing has been attempted. -/
theorem tracks_comes (sound : w.Sound) (hw : w.IsPlain) (h : w.happen? g = some w')
    (hx : w.correspondence? n = none) {x' : Correspondence} (hx' : w'.correspondence? n = some x') :
    x'.Tracks [] := by
  have hnone := correspondence?_eq_none.1 hx
  exact .of_isFresh (correspondence_isFresh hx' (fun _ hl => (happen?_turn sound h).comes hnone hl)
    fun _ _ hp => hw.tells_absent (happen?_tells sound hw h) hp hnone)

/-- **Every history keeps track of what is attempted.** -/
theorem tracks_after? (h₀ : w₀.IsFresh) (plain : ∀ g ∈ hs, g.IsPlain) (h : w₀.after? hs = some w) :
    (w.correspondence? n = none → w₀.attempts n hs = []) ∧
      ∀ x, w.correspondence? n = some x → x.Tracks (w₀.attempts n hs) := by
  refine after?_induction (P := fun hs w => (∀ g ∈ hs, g.IsPlain) →
    (w.correspondence? n = none → w₀.attempts n hs = []) ∧
      ∀ x, w.correspondence? n = some x → x.Tracks (w₀.attempts n hs))
    (fun _ => ⟨fun _ => rfl, fun x hx => ?_⟩) (fun hs g w w' hw ih hstep plain => ?_) h plain
  · refine .of_isFresh (correspondence_isFresh hx (fun l hl => ?_) fun task p hp => ?_)
    · exact h₀.lines l (List.mem_of_getElem? hl)
    · rw [telling?, h₀.calls] at hp
      cases hp
  · have before : ∀ g ∈ hs, g.IsPlain := fun g hg => plain g (List.mem_append_left _ hg)
    have sound := sound_after? h₀ hw
    have isPlain := isPlain_after? h₀ (fun k _ g _ hg => before g (List.mem_of_getElem? hg)) hw
    rw [attempts_concat hw]
    cases hx : w.correspondence? n with
    | none =>
      -- the line has just come, or is still to come
      have attempted : w.attempt? n g = none := by
        unfold attempt?
        split <;> simp [hx]
      rw [(ih before).1 hx, attempted]
      exact ⟨fun _ => rfl, fun x' hx' => tracks_comes sound isPlain hstep hx hx'⟩
    | some x =>
      obtain ⟨x', hx', tracks⟩ := happen?_tracks sound isPlain hstep hx ((ih before).2 x hx)
      rw [hx']
      refine ⟨by rintro ⟨⟩, fun y hy => ?_⟩
      cases hy
      exact tracks

/-- **A text whose sending succeeds is the last one that was tried.**  A document that is refused when it
is to be opened does not come into the table.  And whatever calls are made, and wherever writing fails:
a text whose sending is about to succeed is the last one that anybody tried to write of its document.
If it was written it is the last one that the server was told, and if it was not then it was a change. -/
theorem sent_text_is_the_last_one (h₀ : w₀.IsFresh) (h : w₀.after? hs = some w)
    (plain : ∀ g ∈ hs, g.IsPlain) {l : Line} (hl : w.client.session.line? n = some l) :
    (∀ (task : TaskId) (uri text : String) (c c' : Connection) (e : Failure),
      (Telling.syncs uri text .beginning).Runs task c c' (.error e) → c.documents.get? uri = none →
      c'.documents = c.documents) ∧
    ∀ (task : TaskId) (uri text : String) (p : SyncPoint) (c : Connection),
      w.telling? task = some (n, .syncs uri text p) →
      (Telling.syncs uri text p).step task l.connection = .ends c (.ok ()) →
      ∃ a, Attempt.lastFor? (w₀.attempts n hs) uri = some a ∧ a.note.text? uri = some text ∧
        (a.written = false → a.note.isChange = true) ∧
        (a.written = true → DocumentNote.lastText? l.connection.told uri = some text) := by
  refine ⟨fun task uri text c c' e runs hnone => ?_, fun task uri text p c hp hends => ?_⟩
  · have leaves := runs.leaves
    rw [Telling.Leaves, hnone] at leaves
    rcases leaves with ⟨hok, -⟩ | ⟨-, -, hsame⟩
    · cases hok
    · exact hsame
  · have tracks := (tracks_after? h₀ plain h).2 _ (correspondence?_eq_some.2 ⟨l, hl, rfl⟩)
    have hmove := (Telling.syncs uri text p).step_moves task l.connection
    rw [hends] at hmove
    cases hmove
    obtain ⟨a, hlast, htext, hwritten⟩ := tracks.stands task _ (teller?_eq_some.2 hp)
    refine ⟨a, hlast, htext, fun hno => hwritten.resolve_left (by simp [hno]), fun hyes => ?_⟩
    rw [← htext, ← Attempt.lastText?_told hlast hyes, ← tracks.told]

/-! ## A stream that refuses for a while -/

/-- The stream of the first line refuses from now on, or no more. -/
def refusing (refusal : Option IoError) : Happening := .streams 0 fun link => { link with refusal }

/-- A text is sent; then the stream refuses, and another text is tried. -/
def refusedHistory : List Happening :=
  sentHistory ++ refusing (some (.raised .brokenPipe "broken pipe")) :: changedHistory

/-- The same text is about to succeed. -/
def insistingHistory : List Happening := refusedHistory ++ .calls (.showText "a" "y") :: takes 4 4

/-- The stream recovers, and a third text is about to succeed. -/
def recoveredHistory : List Happening :=
  refusedHistory ++ refusing none :: .calls (.showText "a" "z") :: takes 4 5

/-- Somebody is about to write a notification by hand. -/
def notifies : Happening → Bool
  | .calls (.notify ..) => true
  | _ => false

theorem isPlain_of_not_notifies (h : hs.all (!notifies ·) = true) : ∀ g ∈ hs, g.IsPlain := by
  intro g hg
  have hno := List.all_eq_true.1 h g hg
  unfold notifies at hno
  split at hno
  next => cases hno
  next hcall =>
    cases g with
    | calls c => cases c <;> first | trivial | exact absurd rfl (hcall _ _)
    | _ => trivial

/-- The fourth call is about to succeed in sending a text of `a`. -/
def succeeds (w : Workbench) (text : String) : Bool :=
  match w.telling? ⟨4⟩ with
  | some (0, .syncs "a" t (.leaving (.ok ()))) => t = text
  | _ => false

theorem telling_of_succeeds {text : String} (h : w.succeeds text = true) :
    w.telling? ⟨4⟩ = some (0, .syncs "a" text (.leaving (.ok ()))) := by
  unfold succeeds at h
  split at h
  next t ht =>
    obtain rfl : t = text := of_decide_eq_true h
    exact ht
  next => cases h

/-- A connection that refuses, on which another document is open. -/
def refusingConnection : Connection :=
  { link := { refusal := some (.raised .brokenPipe "broken pipe") }, documents := [("b", ⟨1, "t"⟩)] }

theorem runs_refused : ∃ c, (Telling.syncs "a" "x" .beginning).Runs ⟨1⟩ refusingConnection c
    (.error (.io (.raised .brokenPipe "broken pipe"))) :=
  ⟨_, .goesOn rfl rfl (.goesOn rfl rfl (.goesOn rfl rfl (.ends rfl)))⟩

/-- A document that is refused is not in the table; and of a document that has changed, a third text
is written after the second was refused. -/
theorem sent_text_is_the_last_one_again :
    (∃ c, (Telling.syncs "a" "x" .beginning).Runs ⟨1⟩ refusingConnection c
        (.error (.io (.raised .brokenPipe "broken pipe"))) ∧
      c.documents = refusingConnection.documents) ∧
    ∃ w l, unused.after? recoveredHistory = some w ∧ (∀ g ∈ recoveredHistory, g.IsPlain) ∧
      w.client.session.line? 0 = some l ∧
      w.telling? ⟨4⟩ = some (0, .syncs "a" "z" (.leaving (.ok ()))) ∧
      Attempt.lastFor? (unused.attempts 0 recoveredHistory) "a" = some ⟨.changed "a" 3 "z", true⟩ ∧
      DocumentNote.lastText? l.connection.told "a" = some "z" := by
  have reached : ((unused.after? recoveredHistory).any (fun w => w.succeeds "z" &&
        (w.client.session.line? 0).isSome) &&
      Attempt.lastFor? (unused.attempts 0 recoveredHistory) "a" = some ⟨.changed "a" 3 "z", true⟩ &&
      recoveredHistory.all (!notifies ·)) = true := by
    decide +kernel
  simp only [Bool.and_eq_true, decide_eq_true_eq] at reached
  obtain ⟨⟨reached, hlast⟩, hplain⟩ := reached
  obtain ⟨w, hw, reached⟩ := (Option.any_eq_true _ _).1 reached
  obtain ⟨hsucceeds, hline⟩ := (Bool.and_eq_true _ _).mp reached
  obtain ⟨l, hl⟩ := Option.isSome_iff_exists.1 hline
  have plain := isPlain_of_not_notifies hplain
  have telling := telling_of_succeeds hsucceeds
  obtain ⟨refused, sent⟩ := sent_text_is_the_last_one isFresh_unused hw plain hl
  obtain ⟨a, ha, -, -, hwritten⟩ := sent ⟨4⟩ "a" "z" _ _ telling rfl
  obtain rfl := Option.some.inj (hlast.symm.trans ha)
  obtain ⟨c, runs⟩ := runs_refused
  exact ⟨⟨c, runs, refused ⟨1⟩ "a" "x" _ c _ runs rfl⟩, w, l, hw, plain, hl, telling, hlast,
    hwritten rfl⟩

/-- **A text that was refused is taken for sent.**  To send it once more succeeds, although the text
before it is the last one that was written. -/
theorem refused_text_is_taken_for_sent :
    ∃ w l c, unused.after? insistingHistory = some w ∧ (∀ g ∈ insistingHistory, g.IsPlain) ∧
      w.client.session.line? 0 = some l ∧
      w.telling? ⟨4⟩ = some (0, .syncs "a" "y" (.leaving (.ok ()))) ∧
      (Telling.syncs "a" "y" (.leaving (.ok ()))).step ⟨4⟩ l.connection = .ends c (.ok ()) ∧
      Attempt.lastFor? (unused.attempts 0 insistingHistory) "a" = some ⟨.changed "a" 2 "y", false⟩ ∧
      DocumentNote.lastText? l.connection.told "a" = some "x" ∧
      l.connection.held "a" = some ⟨1, "x"⟩ ∧ l.connection.listed "a" = some ⟨2, "y"⟩ := by
  have reached : ((unused.after? insistingHistory).any (fun w => w.succeeds "y" &&
        (w.client.session.line? 0).any fun l =>
          DocumentNote.lastText? l.connection.told "a" = some "x" &&
            l.connection.held "a" = some ⟨1, "x"⟩ && l.connection.listed "a" = some ⟨2, "y"⟩) &&
      Attempt.lastFor? (unused.attempts 0 insistingHistory) "a" = some ⟨.changed "a" 2 "y", false⟩ &&
      insistingHistory.all (!notifies ·)) = true := by
    decide +kernel
  simp only [Bool.and_eq_true, decide_eq_true_eq] at reached
  obtain ⟨⟨reached, hlast⟩, hplain⟩ := reached
  obtain ⟨w, hw, reached⟩ := (Option.any_eq_true _ _).1 reached
  obtain ⟨hsucceeds, reached⟩ := (Bool.and_eq_true _ _).mp reached
  obtain ⟨l, hl, reached⟩ := (Option.any_eq_true _ _).1 reached
  simp only [Bool.and_eq_true, decide_eq_true_eq] at reached
  obtain ⟨⟨htold, hheld⟩, hlisted⟩ := reached
  exact ⟨w, l, _, hw, isPlain_of_not_notifies hplain, hl, telling_of_succeeds hsucceeds, rfl, hlast,
    htold, hheld, hlisted⟩

end Workbench

end LanguageClient
