import LanguageClient.Proofs.Connection.Telling

/-!
# Both sides agree about the documents

Sending a text changes the table and writes, in this order or in the other, and holds the table all
the while; closing a document gives the table back before it writes.  So both sides differ about a
document only while a party is between the two, and how they differ is seen from its point.

* `Telling.Explains` — how the two sides differ while a party is at a point.
* `Correspondence.Agrees` — about one document: both sides say the same and nobody is in between, or
  exactly one party is in between and explains the difference.
* `Correspondence.InOrder` — the invariant, with the bound on versions that the number of changes
  gives.
* **`InOrder.step`** — every step keeps it that can write what it has to write (`CanWrite`), and does
  not look a document up while somebody else is about to write that it is closed (`Unhurried`).
-/

namespace LanguageClient

namespace Telling

/-- It has the table of documents for itself. -/
def Holds : Telling → Prop
  | syncs _ _ (.changing _) | syncs _ _ .opening | syncs _ _ .recording | syncs _ _ (.leaving _) => True
  | _ => False

/-- It is between what it does to the table and what it writes about a document. -/
def IsAbout (uri : String) : Telling → Prop
  | syncs u _ (.changing _) | syncs u _ .opening | syncs u _ .recording | forgets u .writing => u = uri
  | _ => False

/-- How the two sides differ about a document while a party is at this point. -/
def Explains (c : Connection) (uri : String) : Telling → Prop
  | syncs u text (.changing version) => u = uri ∧ c.listed uri = some ⟨version.toNat, text⟩ ∧
      ∃ (v : UInt32) (old : String), c.held uri = some ⟨v.toNat, old⟩ ∧ version = v + 1
  | syncs u _ .opening => u = uri ∧ c.listed uri = none ∧ c.held uri = none
  | syncs u text .recording => u = uri ∧ c.listed uri = none ∧ c.held uri = some ⟨1, text⟩
  | forgets u .writing => u = uri ∧ c.listed uri = none ∧ ∃ d, c.held uri = some d
  | _ => False

theorem Explains.isAbout {c : Connection} {uri : String} {p : Telling} (h : p.Explains c uri) :
    p.IsAbout uri := by
  unfold Explains at h
  unfold IsAbout
  split at h
  · exact h.1
  · exact h.1
  · exact h.1
  · exact h.1
  · exact h.elim

theorem Explains.congr {c c' : Connection} {uri : String} {p : Telling} (h : p.Explains c uri)
    (held : c'.held uri = c.held uri) (listed : c'.listed uri = c.listed uri) :
    p.Explains c' uri := by
  unfold Explains at h ⊢
  rw [held, listed]
  exact h

/-- Who explains a difference holds the table, unless it is about to write that a document is
closed. -/
theorem Explains.holds {c : Connection} {uri : String} {p : Telling} (h : p.Explains c uri) :
    p.Holds ∨ p = forgets uri .writing := by
  unfold Explains at h
  unfold Holds
  split at h
  · exact .inl trivial
  · exact .inl trivial
  · exact .inl trivial
  · exact .inr (by rw [h.1])
  · exact h.elim

theorem not_isAbout_of_isFirst {p : Telling} (h : p.IsFirst) (uri : String) : ¬ p.IsAbout uri := by
  unfold IsFirst at h
  split at h
  · exact fun hn => hn
  · exact fun hn => hn
  · exact h.elim

theorem not_holds_of_isFirst {p : Telling} (h : p.IsFirst) : ¬ p.Holds := by
  unfold IsFirst at h
  split at h
  · exact fun hn => hn
  · exact fun hn => hn
  · exact h.elim

/-- The document that a party tells about. -/
def uri : Telling → String
  | syncs uri _ _ | forgets uri _ => uri

theorem IsAbout.uri_eq {uri : String} {p : Telling} (h : p.IsAbout uri) : p.uri = uri := by
  unfold IsAbout at h
  split at h
  · exact h
  · exact h
  · exact h
  · exact h
  · exact h.elim

/-! ## What a step leaves alone -/

section

variable {task : TaskId} {c c' : Connection} {p : Telling} {next : Telling ⊕ Except Failure Unit}

theorem Move.uri_eq (h : Move task c p c' next) {q : Telling} (hq : next.getLeft? = some q) :
    q.uri = p.uri := by
  cases h <;> cases hq <;> rfl

/-- What is written is about the document. -/
theorem Move.told (h : Move task c p c' next) :
    c'.told = c.told ∨ ∃ note, c'.told = c.told ++ [note] ∧ note.uri = p.uri := by
  cases h with
  | changes written => exact .inr ⟨_, by rw [Connection.told_write written]; simp; rfl, rfl⟩
  | opens written => exact .inr ⟨_, by rw [Connection.told_write written]; simp; rfl, rfl⟩
  | closes written => exact .inr ⟨_, by rw [Connection.told_write written]; simp; rfl, rfl⟩
  | _ => exact .inl rfl

theorem Move.frame (h : Move task c p c' next) {uri : String} (hu : p.uri ≠ uri) :
    c'.held uri = c.held uri ∧ c'.listed uri = c.listed uri := by
  constructor
  · rcases h.told with he | ⟨note, he, hn⟩
    · exact Connection.held_congr he uri
    · exact Connection.held_of_told_ne he (hn ▸ hu)
  · cases h with
    | findsOther => exact (Connection.listed_rememberDocument ..).trans (if_neg hu)
    | records => exact (Connection.listed_rememberDocument ..).trans (if_neg hu)
    | removes => exact (Connection.listed_forgetDocument ..).trans (if_neg hu)
    | changes written => exact Connection.listed_congr (Connection.documents_write written).1 uri
    | opens written => exact Connection.listed_congr (Connection.documents_write written).1 uri
    | closes written => exact Connection.listed_congr (Connection.documents_write written).1 uri
    | _ => rfl

/-- Only the holder of the table gives it back. -/
theorem Move.lock (h : Move task c p c' next) :
    c'.documentLock = c.documentLock ∨ c'.documentLock = c.documentLock.join task ∨
      (p.Holds ∨ c.documentLock.holder? = some task) := by
  cases h with
  | joinsToSync => exact .inr (.inl rfl)
  | joinsToForget => exact .inr (.inl rfl)
  | leaves => exact .inr (.inr (.inl trivial))
  | removes turn _ => exact .inr (.inr (.inr turn))
  | hasNothing turn _ => exact .inr (.inr (.inr turn))
  | changes written => exact .inl (Connection.documents_write written).2
  | opens written => exact .inl (Connection.documents_write written).2
  | closes written => exact .inl (Connection.documents_write written).2
  | _ => exact .inl rfl

/-- Who holds the table afterwards had it before, or it was its turn. -/
theorem Move.holds (h : Move task c p c' next) {q : Telling} (hq : next.getLeft? = some q)
    (hh : q.Holds) :
    c'.documentLock = c.documentLock ∧ (p.Holds ∨ c.documentLock.holder? = some task) := by
  cases h with
  | joinsToSync => cases hq; exact hh.elim
  | joinsToForget => cases hq; exact hh.elim
  | findsNothing turn _ => exact ⟨rfl, .inr turn⟩
  | findsSame turn _ => exact ⟨rfl, .inr turn⟩
  | findsOther turn _ _ => exact ⟨rfl, .inr turn⟩
  | changes written => exact ⟨(Connection.documents_write written).2, .inl trivial⟩
  | opens written => exact ⟨(Connection.documents_write written).2, .inl trivial⟩
  | @fails uri text p m e message _ =>
    refine ⟨rfl, .inl ?_⟩
    cases p <;> trivial
  | records => exact ⟨rfl, .inl trivial⟩
  | removes => cases hq; exact hh.elim
  | _ => cases hq

/-- Changes are only counted up. -/
theorem Move.changes_le (h : Move task c p c' next) (uri : String) : c.changes uri ≤ c'.changes uri := by
  unfold Connection.changes
  rcases h.told with he | ⟨note, he, _⟩
  · exact Nat.le_of_eq (congrArg _ he.symm)
  · rw [he, List.countP_append]
    exact Nat.le_add_right ..

end

end Telling

namespace Correspondence

/-- Both sides say the same about a document, or one party explains how they differ. -/
inductive Agrees (x : Correspondence) (uri : String) : Prop
  | settled (same : x.connection.held uri = x.connection.listed uri)
      (nobody : ∀ task p, x.parties task = some p → ¬ p.IsAbout uri)
  | busy {task : TaskId} {p : Telling} (hp : x.parties task = some p)
      (explains : p.Explains x.connection uri)
      (only : ∀ other q, x.parties other = some q → q.IsAbout uri → other = task)

/-- Who is between looking a document up and giving the table back has the table for itself. -/
def HasTurns (x : Correspondence) : Prop :=
  ∀ task p, x.parties task = some p → p.Holds → x.connection.documentLock.holder? = some task

structure InOrder (x : Correspondence) : Prop where
  holder : ∀ task p, x.parties task = some p → p.Holds →
    x.connection.documentLock.holder? = some task
  agrees : ∀ uri, x.Agrees uri
  /-- A version counts the changes. -/
  counted : ∀ uri d, x.connection.held uri = some d → d.version ≤ 1 + x.connection.changes uri

/-- A party can write what it is about to write. -/
def CanWrite (x : Correspondence) (task : TaskId) : Prop :=
  ∀ p m, x.parties task = some p → p.message? = some m → ∃ c, x.connection.write m = .ok c

/-- A party does not look a document up while somebody else is about to write that it is closed. -/
def Unhurried (x : Correspondence) (task : TaskId) : Prop :=
  ∀ uri text, x.parties task = some (.syncs uri text .looking) →
    ∀ other, x.parties other ≠ some (.forgets uri .writing)

variable {x x' : Correspondence} {uri : String} {task : TaskId} {p q : Telling}

/-! ## One document -/

/-- Nobody but one party is in between about a document. -/
def NobodyElse (x : Correspondence) (uri : String) (task : TaskId) : Prop :=
  ∀ other q, other ≠ task → x.parties other = some q → ¬ q.IsAbout uri

theorem NobodyElse.of_others (h : x.NobodyElse uri task)
    (others : ∀ other, other ≠ task → x'.parties other = x.parties other) : x'.NobodyElse uri task :=
  fun other q hne hq => h other q hne (others other hne ▸ hq)

/-- Who is in between is the only one, and explains the difference. -/
theorem Agrees.of_isAbout (ha : x.Agrees uri) (hp : x.parties task = some p) (h : p.IsAbout uri) :
    p.Explains x.connection uri ∧ x.NobodyElse uri task := by
  cases ha with
  | settled same nobody => exact absurd h (nobody task p hp)
  | @busy task' p' hp' explains only =>
    obtain rfl := only task p hp h
    obtain rfl := Option.some.inj (hp.symm.trans hp')
    exact ⟨explains, fun other q hne hq hab => hne (only other q hq hab)⟩

theorem Agrees.of_explains (hp : x.parties task = some p) (h : p.Explains x.connection uri)
    (others : x.NobodyElse uri task) : x.Agrees uri :=
  .busy hp h fun other q hq hab => by_contra fun hne => others other q hne hq hab

theorem Agrees.of_same (same : x.connection.held uri = x.connection.listed uri)
    (hp : ∀ q, x.parties task = some q → ¬ q.IsAbout uri) (others : x.NobodyElse uri task) :
    x.Agrees uri :=
  .settled same fun other q hq => by
    by_cases e : other = task
    · exact hp q (e ▸ hq)
    · exact others other q e hq

/-- What leaves a document and those who are in between about it alone. -/
theorem Agrees.frame (ha : x.Agrees uri) (held : x'.connection.held uri = x.connection.held uri)
    (listed : x'.connection.listed uri = x.connection.listed uri)
    (parties : ∀ task p, p.IsAbout uri → (x'.parties task = some p ↔ x.parties task = some p)) :
    x'.Agrees uri := by
  cases ha with
  | settled same nobody =>
    refine .settled (by rw [held, listed, same]) fun task p hp hab => ?_
    exact nobody task p ((parties task p hab).1 hp) hab
  | @busy task p hp explains only =>
    refine .busy ((parties task p explains.isAbout).2 hp) (explains.congr held listed) ?_
    exact fun other q hq hab => only other q ((parties other q hab).1 hq) hab

/-- A party that is not in between about a document, and is not afterwards. -/
theorem parties_frame (hp : x.parties task = some p) (h : ¬ p.IsAbout uri)
    (hp' : ∀ q, x'.parties task = some q → ¬ q.IsAbout uri)
    (others : ∀ other, other ≠ task → x'.parties other = x.parties other) (other : TaskId)
    (q : Telling) (hab : q.IsAbout uri) : x'.parties other = some q ↔ x.parties other = some q := by
  by_cases e : other = task
  · subst e
    refine ⟨fun hq => absurd hab (hp' q hq), fun hq => ?_⟩
    rw [hp] at hq
    cases hq
    exact absurd hab h
  · rw [others other e]

/-! ## Turns -/

theorem HasTurns.of_isFresh (h : x.IsFresh) : x.HasTurns :=
  fun task p hp hh => absurd hh (Telling.not_holds_of_isFirst (h.parties task p hp))

/-- Nobody but the party whose turn it is has the table for itself. -/
theorem HasTurns.eq_of_turn (hx : x.HasTurns) (turn : x.connection.documentLock.holder? = some task)
    {other : TaskId} (hq : x.parties other = some q) (hh : q.Holds) : other = task :=
  Option.some.inj ((hx other q hq hh).symm.trans turn)

/-- Who has the table for itself still has it after a step of another party. -/
theorem HasTurns.of_moves (hx : x.HasTurns) {next : Telling ⊕ Except Failure Unit}
    (hp : x.parties task = some p) (h : p.Move task x.connection x'.connection next)
    (hp' : x'.parties task = next.getLeft?)
    (others : ∀ other, other ≠ task → x'.parties other = x.parties other) : x'.HasTurns := by
  intro other q hq hh
  by_cases e : other = task
  · subst e
    obtain ⟨hlock, hturn⟩ := h.holds (hp' ▸ hq) hh
    rw [hlock]
    exact hturn.elim (hx other p hp) id
  · have hother := hx other q (others other e ▸ hq) hh
    rcases h.lock with hlock | hlock | hturn
    · rw [hlock]; exact hother
    · rw [hlock]; exact Lock.holder?_join hother task
    · have htask := hturn.elim (hx task p hp) id
      exact absurd (Option.some.inj (hother.symm.trans htask)) e

/-- A party that comes has not begun, so who is further on was there before. -/
theorem parties_of_beside (hp : ∀ task, x'.parties task = x.parties task ∨
      (x.parties task = none ∧ ∀ p, x'.parties task = some p → p.IsFirst))
    (hq : x'.parties task = some q) (hn : ¬ q.IsFirst) : x.parties task = some q := by
  rcases hp task with he | ⟨_, hfirst⟩
  · exact he ▸ hq
  · exact absurd (hfirst q hq) hn

theorem HasTurns.step (hx : x.HasTurns) {e : Source} (h : x.Step x' e) : x'.HasTurns := by
  cases h with
  | moves hp h hp' others => exact hx.of_moves hp h hp' others
  | streams hc hp =>
    intro task p hq hh
    rw [hc]
    exact hx task p (hp ▸ hq) hh
  | beside h hp =>
    intro task p hq hh
    rw [h.documentLock]
    exact hx task p (parties_of_beside hp hq fun hf => Telling.not_holds_of_isFirst hf hh) hh

/-! ## The invariant -/

namespace InOrder

theorem of_isFresh (h : x.IsFresh) : x.InOrder where
  holder := HasTurns.of_isFresh h
  agrees uri := by
    obtain ⟨link, hc, hsent⟩ := h.connection
    refine .settled ?_ fun task p hp => Telling.not_isAbout_of_isFirst (h.parties task p hp) uri
    rw [hc, Connection.held, Connection.told, hsent]
    rfl
  counted uri d hd := by
    obtain ⟨link, hc, hsent⟩ := h.connection
    rw [hc, Connection.held, Connection.told, hsent] at hd
    cases hd

/-- Whoever has the table for itself and is not in between finds both sides agreed, unless somebody
else is about to write that the document is closed. -/
theorem settled_of_turn (hx : x.InOrder) (hp : x.parties task = some p)
    (turn : x.connection.documentLock.holder? = some task) (h : ¬ p.IsAbout uri)
    (closing : ∀ other, x.parties other ≠ some (.forgets uri .writing)) :
    x.connection.held uri = x.connection.listed uri ∧
      ∀ other q, x.parties other = some q → ¬ q.IsAbout uri := by
  cases hx.agrees uri with
  | settled same nobody => exact ⟨same, nobody⟩
  | @busy task' p' hp' explains only =>
    rcases explains.holds with hholds | rfl
    · obtain rfl := HasTurns.eq_of_turn hx.holder turn hp' hholds
      obtain rfl := Option.some.inj (hp.symm.trans hp')
      exact absurd explains.isAbout h
    · exact absurd hp' (closing task')

/-- Nobody is about to write that a document is closed that is in the table. -/
theorem not_closing (hx : x.InOrder) {d : SentDocument}
    (found : x.connection.documents.get? uri = some d) (other : TaskId) :
    x.parties other ≠ some (.forgets uri .writing) := by
  intro hp
  have hnone := ((hx.agrees uri).of_isAbout hp rfl).1.2.1
  rw [Connection.listed_of_get? found] at hnone
  cases hnone

/-- What a step of a party comes to about its own document. -/
theorem agrees_of_moves (hx : x.InOrder) {next : Telling ⊕ Except Failure Unit}
    (hp : x.parties task = some p) (h : p.Move task x.connection x'.connection next)
    (hp' : x'.parties task = next.getLeft?)
    (others : ∀ other, other ≠ task → x'.parties other = x.parties other)
    (can : x.CanWrite task) (unhurried : x.Unhurried task) : x'.Agrees p.uri := by
  have framed (hn : ¬ p.IsAbout p.uri) (hn' : ∀ q, next.getLeft? = some q → ¬ q.IsAbout p.uri)
      (held : x'.connection.held p.uri = x.connection.held p.uri)
      (listed : x'.connection.listed p.uri = x.connection.listed p.uri) : x'.Agrees p.uri :=
    (hx.agrees _).frame held listed (parties_frame hp hn (fun q hq => hn' q (hp' ▸ hq)) others)
  have between (hn : p.IsAbout p.uri) := (hx.agrees p.uri).of_isAbout hp hn
  have alone (nobody : ∀ other q, x.parties other = some q → ¬ q.IsAbout p.uri) :
      x'.NobodyElse p.uri task := fun other q hne hq => nobody other q (others other hne ▸ hq)
  generalize hc : x'.connection = c' at h framed
  cases h with
  | joinsToSync => exact framed (fun hn => hn) (by rintro _ ⟨⟩ hn; exact hn) rfl rfl
  | joinsToForget => exact framed (fun hn => hn) (by rintro _ ⟨⟩ hn; exact hn) rfl rfl
  | @findsNothing uri text turn found =>
    obtain ⟨same, nobody⟩ := hx.settled_of_turn hp turn (fun hn => hn) (unhurried uri text hp)
    have hnone := Connection.listed_eq_none.2 found
    exact .of_explains hp' (by rw [hc]; exact ⟨rfl, hnone, same.trans hnone⟩) (alone nobody)
  | @findsSame uri d turn found =>
    exact framed (fun hn => hn) (by rintro _ ⟨⟩ hn; exact hn) rfl rfl
  | @findsOther uri text d turn found differs =>
    obtain ⟨same, nobody⟩ := hx.settled_of_turn hp turn (fun hn => hn) (unhurried uri text hp)
    have hlisted := Connection.listed_of_get? found
    refine .of_explains hp' ?_ (alone nobody)
    rw [hc]
    exact ⟨rfl, (Connection.listed_rememberDocument ..).trans (if_pos rfl), d.version, d.text,
      same.trans hlisted, rfl⟩
  | @changes uri text version c' written =>
    obtain ⟨⟨-, hlisted, v, old, hheld, -⟩, nobody⟩ := between rfl
    refine .of_same ?_ (by rw [hp']; rintro _ ⟨⟩ hn; exact hn) (nobody.of_others others)
    have told := Connection.told_write written
    rw [DocumentNote.ofMessage?_changed] at told
    have hsame := Connection.listed_congr (Connection.documents_write written).1 uri
    rw [hc]
    exact (Connection.held_of_changed told hheld).trans (hsame.trans hlisted).symm
  | @opens uri text c' written =>
    obtain ⟨⟨-, hlisted, -⟩, nobody⟩ := between rfl
    refine .of_explains hp' ?_ (nobody.of_others others)
    have told := Connection.told_write written
    rw [DocumentNote.ofMessage?_opened] at told
    rw [hc]
    exact ⟨rfl, (Connection.listed_congr (Connection.documents_write written).1 _).trans hlisted,
      Connection.held_of_opened told⟩
  | @fails uri text p m e message refused =>
    obtain ⟨c, hw⟩ := can _ m hp message
    rw [refused] at hw
    cases hw
  | @records uri text =>
    obtain ⟨⟨-, -, hheld⟩, nobody⟩ := between rfl
    refine .of_same ?_ (by rw [hp']; rintro _ ⟨⟩ hn; exact hn) (nobody.of_others others)
    have hlisted : (x.connection.rememberDocument uri ⟨1, text⟩).listed uri = some ⟨1, text⟩ :=
      (Connection.listed_rememberDocument ..).trans (if_pos rfl)
    rw [hc]
    exact Eq.trans hheld hlisted.symm
  | @leaves uri text result => exact framed (fun hn => hn) (by rintro _ ⟨⟩) rfl rfl
  | @removes uri d turn found =>
    obtain ⟨same, nobody⟩ := hx.settled_of_turn hp turn (fun hn => hn) (hx.not_closing found)
    refine .of_explains hp' ?_ (alone nobody)
    rw [hc]
    exact ⟨rfl, (Connection.listed_forgetDocument ..).trans (if_pos rfl), _,
      same.trans (Connection.listed_of_get? found)⟩
  | @hasNothing uri turn found => exact framed (fun hn => hn) (by rintro _ ⟨⟩) rfl rfl
  | @closes uri c' written =>
    obtain ⟨⟨-, hlisted, -⟩, nobody⟩ := between rfl
    refine .of_same ?_ (by rw [hp']; rintro _ ⟨⟩) (nobody.of_others others)
    have told := Connection.told_write written
    rw [DocumentNote.ofMessage?_closed] at told
    have hsame := Connection.listed_congr (Connection.documents_write written).1 uri
    rw [hc]
    exact (Connection.held_of_closed told).trans (hsame.trans hlisted).symm
  | @failsToClose uri e refused =>
    obtain ⟨c, hw⟩ := can _ _ hp rfl
    rw [refused] at hw
    cases hw

/-- A version goes up by one with each change, and begins with one. -/
theorem counted_of_moves (hx : x.InOrder) {next : Telling ⊕ Except Failure Unit}
    (hp : x.parties task = some p) (h : p.Move task x.connection x'.connection next) (uri : String)
    (d : HeldDocument) (hd : x'.connection.held uri = some d) :
    d.version ≤ 1 + x'.connection.changes uri := by
  by_cases hsame : x'.connection.held uri = x.connection.held uri
  · have hle := hx.counted uri d (hsame ▸ hd)
    exact Nat.le_trans hle (Nat.add_le_add_left (h.changes_le uri) 1)
  -- What the server holds changes by what is written about this document.
  obtain rfl : p.uri = uri := by_contra fun hu => hsame (h.frame hu).1
  have between (hn : p.IsAbout p.uri) := (hx.agrees p.uri).of_isAbout hp hn
  generalize x'.connection = c' at h hd hsame
  cases h with
  | @changes uri text version c' written =>
    obtain ⟨⟨-, -, v, old, hheld, rfl⟩, -⟩ := between rfl
    have told := Connection.told_write written
    rw [DocumentNote.ofMessage?_changed] at told
    obtain rfl := Option.some.inj ((Connection.held_of_changed told hheld).symm.trans hd)
    have hle := hx.counted _ _ hheld
    have hnext : (v + 1).toNat ≤ v.toNat + 1 := by
      rw [UInt32.toNat_add]
      exact Nat.mod_le ..
    have hchanges := Connection.changes_of_changed told
    show (v + 1).toNat ≤ 1 + c'.changes uri
    rw [hchanges]
    exact Nat.le_trans hnext (Nat.add_le_add_right hle 1)
  | @opens uri text c' written =>
    have told := Connection.told_write written
    rw [DocumentNote.ofMessage?_opened] at told
    obtain rfl := Option.some.inj ((Connection.held_of_opened told).symm.trans hd)
    exact Nat.le_add_right ..
  | @closes uri c' written =>
    have told := Connection.told_write written
    rw [DocumentNote.ofMessage?_closed] at told
    have hnone := Connection.held_of_closed told
    exact absurd (hnone.symm.trans hd) nofun
  | _ => exact absurd rfl hsame

/-- **Every step keeps both sides in order.** -/
theorem step (hx : x.InOrder) {e : Source} (h : x.Step x' e)
    (can : ∀ task, e = .party task → x.CanWrite task)
    (unhurried : ∀ task, e = .party task → x.Unhurried task) : x'.InOrder := by
  have turns : x'.HasTurns := HasTurns.step hx.holder h
  cases h with
  | @moves task p next hp h hp' others =>
    refine ⟨turns, fun uri => ?_, hx.counted_of_moves hp h⟩
    by_cases hu : p.uri = uri
    · subst hu
      exact hx.agrees_of_moves hp h hp' others (can task rfl) (unhurried task rfl)
    · obtain ⟨held, listed⟩ := h.frame hu
      refine (hx.agrees uri).frame held listed
        (parties_frame hp (fun hn => hu hn.uri_eq) (fun q hq hn => hu ?_) others)
      rw [← h.uri_eq (hp' ▸ hq), hn.uri_eq]
  | @streams f hc hp =>
    refine ⟨turns, fun uri => ?_, fun uri d hd => ?_⟩
    · refine (hx.agrees uri).frame (by rw [hc]; rfl) (by rw [hc]; rfl) fun task p _ => by rw [hp]
    · rw [hc] at hd ⊢
      exact hx.counted uri d hd
  | beside h hp =>
    refine ⟨turns, fun uri => ?_, fun uri d hd => ?_⟩
    · refine (hx.agrees uri).frame (h.held uri) (h.listed uri) fun task p hab => ⟨fun hq => ?_, fun hq => ?_⟩
      · exact parties_of_beside hp hq fun hf => Telling.not_isAbout_of_isFirst hf uri hab
      · rcases hp task with he | ⟨hnone, _⟩
        · exact he.trans hq
        · rw [hnone] at hq
          cases hq
    · rw [h.changes]
      exact hx.counted uri d (h.held uri ▸ hd)

end InOrder

end Correspondence

end LanguageClient
