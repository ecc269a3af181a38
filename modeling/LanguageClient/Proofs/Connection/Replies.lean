import LanguageClient.Proofs.Connection.Reader
import Mathlib.Data.List.Perm.Basic

/-!
# Answers to the server

The server makes requests too, and its ids have nothing to do with those of the client's own requests.
The reader answers a request as soon as it has it in hand, but does not write: what is owed is written by
others, each answer by one of its own, and nobody says which of them is first.

* `Response.Answers` — what the answer to a request has to be; **`Reader.answer_answers`** — it is that.
* `Connection.replies` — all answers that a connection has written, owes, or is about to owe.
* `Connection.KeepsReplies` — a step does not change them.  No step does but those of a reader and of who
  writes an answer.
* **`Reader.Goes.replies`** — a reader adds to them the answer to each request that it reads.
* **`Reader.payAt?_replies`** — who writes an answer takes it from what is owed.
* `Connection.KeepsRequests` — the client's own requests go on waiting as they did.
-/

namespace LanguageClient

/-! ## What the answers are -/

/-- The parameters of the request have a list of items. -/
def Request.AsksAbout (r : Request) (items : List Json) : Prop :=
  ∃ members, r.params = some (.obj members) ∧ members.lookup "items" = some (.arr items)

/-- The methods that are only for the client to take note of. -/
def Request.IsNote (r : Request) : Prop :=
  r.method = "client/registerCapability" ∨ r.method = "client/unregisterCapability" ∨
    r.method = "window/workDoneProgress/create"

/-- What the answer to a request of the server has to be. -/
structure Response.Answers (a : Response) (r : Request) : Prop where
  version : a.version = protocolVersion
  id : a.id = some r.id
  /-- An empty table for each item asked about, and none if there is no list of items. -/
  configuration : r.method = "workspace/configuration" → a.error = none ∧
    ∃ tables, a.result = some (.arr tables) ∧ (∀ t ∈ tables, t = .obj []) ∧
      (∀ items, r.AsksAbout items → tables.length = items.length) ∧
      ((∀ items, ¬ r.AsksAbout items) → tables = [])
  note : r.IsNote → a.error = none ∧ a.result = some .null
  unknown : r.method ≠ "workspace/configuration" → ¬ r.IsNote → a.result = none ∧
    ∃ e, a.error = some e ∧ e.code = -32601 ∧ e.message = "Method not found: " ++ r.method ∧
      e.data = none

namespace Reader

/-- The items that the settings are made for. -/
def items? (r : Request) : Option (List Json) := (r.params.bind (Json.get? "items")).bind Json.items?

theorem items?_eq_some {r : Request} {items : List Json} :
    items? r = some items ↔ r.AsksAbout items := by
  simp only [items?, Option.bind_eq_some_iff, Request.AsksAbout]
  constructor
  · rintro ⟨list, ⟨params, hparams, hlist⟩, hitems⟩
    cases params <;> simp only [Json.get?, reduceCtorEq] at hlist
    cases list <;> simp only [Json.items?, reduceCtorEq, Option.some.injEq] at hitems
    subst hitems
    exact ⟨_, hparams, hlist⟩
  · rintro ⟨members, hparams, hlookup⟩
    exact ⟨_, ⟨_, hparams, hlookup⟩, rfl⟩

theorem emptySettings_eq (r : Request) :
    emptySettings r.params = .arr (List.replicate ((items? r).getD []).length (.obj [])) := rfl

theorem acknowledged_contains (r : Request) : acknowledged.contains r.method = true ↔ r.IsNote := by
  simp [acknowledged, Request.IsNote]

/-- **The answer to a request of the server is what it has to be**, whatever its id and its parameters
are. -/
theorem answer_answers (r : Request) : (answer r).Answers r := by
  unfold answer
  split
  next hmethod =>
    refine ⟨rfl, rfl, fun _ => ⟨rfl, _, congrArg some (emptySettings_eq r),
      fun t ht => List.eq_of_mem_replicate ht, fun items hitems => ?_, fun hno => ?_⟩,
      fun hnote => ?_, fun hno => absurd hmethod hno⟩
    · rw [items?_eq_some.2 hitems]
      exact List.length_replicate
    · rw [Option.eq_none_iff_forall_ne_some.2 fun items h => hno items (items?_eq_some.1 h)]
      rfl
    · rw [Request.IsNote, hmethod] at hnote
      simp at hnote
  next hmethod =>
    split
    next hnote =>
      exact ⟨rfl, rfl, fun h => absurd h hmethod, fun _ => ⟨rfl, rfl⟩,
        fun _ hno => absurd ((acknowledged_contains r).1 hnote) hno⟩
    next hnote =>
      exact ⟨rfl, rfl, fun h => absurd h hmethod,
        fun h => absurd ((acknowledged_contains r).2 h) hnote,
        fun _ _ => ⟨rfl, unknownMethod r.method, rfl, rfl, rfl, rfl⟩⟩

end Reader

/-! ## What has been answered -/

/-- The answer that a message is. -/
def Message.response? : Message → Option Response
  | .response r => some r
  | _ => none

namespace Connection

/-- The answers that have been written. -/
def answered (c : Connection) : List Response := c.link.sent.filterMap Message.response?

/-- The request that the reader has read and not answered. -/
def inHand (c : Connection) : List Request :=
  match c.reader with
  | .heard (.request r) => [r]
  | _ => []

/-- All answers that have been written, are owed, or are about to be. -/
def replies (c : Connection) : List Response :=
  c.answered ++ c.owed ++ c.inHand.map Reader.answer

/-- The request that has been read. -/
def hears? (c c' : Connection) : Option Request :=
  match c.reader, c'.reader with
  | .reading, .heard (.request r) => some r
  | _, _ => none

/-- Nobody has begun to close the connection, and what is written arrives. -/
structure IsOpen (c : Connection) : Prop where
  reader : c.readerAborted = false
  writable : c.writable = true
  link : c.link.refusal = none

instance decidableIsOpen (c : Connection) : Decidable c.IsOpen :=
  decidable_of_iff (c.readerAborted = false ∧ c.writable = true ∧ c.link.refusal = none)
    ⟨fun ⟨hr, hw, hl⟩ => ⟨hr, hw, hl⟩, fun ⟨hr, hw, hl⟩ => ⟨hr, hw, hl⟩⟩

variable {c c' : Connection}

theorem IsOpen.write (h : c.IsOpen) (m : Message) :
    c.write m = .ok { c with link := { c.link with sent := c.link.sent ++ [m] } } := by
  rw [Connection.write, if_pos h.writable, h.link]

/-! ### Steps that answer nothing -/

/-- Nothing is answered, and the reader stays where it is. -/
structure KeepsReplies (c c' : Connection) : Prop where
  answered : c'.answered = c.answered
  owed : c'.owed = c.owed
  reader : c'.reader = c.reader

namespace KeepsReplies

theorem refl (c : Connection) : c.KeepsReplies c := ⟨rfl, rfl, rfl⟩

theorem of_sent (sent : c'.link.sent = c.link.sent) (owed : c'.owed = c.owed)
    (reader : c'.reader = c.reader) : c.KeepsReplies c' :=
  ⟨by rw [Connection.answered, sent, Connection.answered], owed, reader⟩

theorem replies (h : c.KeepsReplies c') : c'.replies = c.replies := by
  rw [Connection.replies, inHand, h.answered, h.owed, h.reader]
  rfl

theorem hears? (h : c.KeepsReplies c') : c.hears? c' = none := by
  rw [Connection.hears?, h.reader]
  split
  next hreading hheard => rw [hreading] at hheard; cases hheard
  next => rfl

end KeepsReplies

theorem answered_write {m : Message} (h : c.write m = .ok c') :
    c'.answered = c.answered ++ m.response?.toList := by
  obtain ⟨rfl, _⟩ := write_eq h
  rw [answered, answered, List.filterMap_append]
  cases hm : m.response? <;> simp [hm]

/-- What is no answer answers nothing. -/
theorem keepsReplies_write {m : Message} (hm : m.response? = none) (h : c.write m = .ok c') :
    c.KeepsReplies c' where
  answered := by rw [answered_write h, hm, Option.toList_none, List.append_nil]
  owed := by obtain ⟨rfl, _⟩ := write_eq h; rfl
  reader := (calm_write h).reader

theorem keepsReplies_tryWrite {m : Message} (hm : m.response? = none) (c : Connection) :
    c.KeepsReplies (c.tryWrite m).1 := by
  unfold tryWrite
  split
  next c' h => exact keepsReplies_write hm h
  next => exact .refl c

theorem keepsReplies_leave? (h : c.leave? = some c') : c.KeepsReplies c' := by
  unfold leave? at h
  split at h
  next => cases h; exact .of_sent rfl rfl rfl
  next => cases h

end Connection

open Connection

theorem RequestPoint.step_keepsReplies (q : Query) (now : Nat) (c : Connection) (p : RequestPoint) :
    (p.step q now c).All c.KeepsReplies := by
  cases p with
  | beginning => rw [step]; split <;> exact .refl c
  | writing id slot =>
    rw [step]
    split
    next c' h => exact keepsReplies_write rfl h
    next => exact .refl c
  | waiting id slot deadline =>
    rw [step]
    split
    next => exact .of_sent rfl rfl rfl
    next =>
      split
      next => exact .refl c
      next =>
        split
        next => exact .refl c
        next => trivial
  | _ => exact .of_sent rfl rfl rfl

theorem Connection.keepsReplies_carried : Connection.Carried Connection.KeepsReplies where
  refl := .refl
  asks q now c p := p.step_keepsReplies q now c
  closes reason c p := by cases p <;> exact .of_sent rfl rfl rfl
  remembers _ _ := .of_sent rfl rfl rfl
  confirms := keepsReplies_tryWrite rfl
  exits := keepsReplies_tryWrite rfl

theorem SyncPoint.step_keepsReplies (task : TaskId) (uri text : String) (c : Connection)
    (p : SyncPoint) : (p.step task uri text c).All c.KeepsReplies := by
  cases p with
  | looking =>
    rw [step]
    split
    next =>
      split
      next => exact .refl c
      next => split <;> exact .of_sent rfl rfl rfl
    next => trivial
  | changing version => exact keepsReplies_tryWrite rfl c
  | opening =>
    rw [step]
    split
    next c' h => exact keepsReplies_write rfl h
    next => exact .refl c
  | _ => exact .of_sent rfl rfl rfl

theorem ForgetPoint.step_keepsReplies (task : TaskId) (uri : String) (c : Connection)
    (p : ForgetPoint) : (p.step task uri c).All c.KeepsReplies := by
  cases p with
  | beginning => exact .of_sent rfl rfl rfl
  | removing =>
    rw [step]
    split
    next => split <;> exact .of_sent rfl rfl rfl
    next => trivial
  | writing => exact keepsReplies_tryWrite rfl c

/-! ### The reader -/

namespace Reader

/-- A reader writes nothing. -/
theorem step?_sent {handlers : Handlers} {c c' : Connection} {signals : List Signal}
    (h : step? handlers c = some (c', signals)) : c'.link.sent = c.link.sent := by
  unfold step? at h
  split at h
  next => split at h <;> cases h <;> rfl
  next m _ =>
    obtain rfl : (hear handlers c m).1 = c' := by simpa using congrArg (·.map Prod.fst) h
    cases m with
    | request r => rfl
    | response r =>
      obtain ⟨pending, answers, hs⟩ := c.settle_frame r
      show (c.settle r).link.sent = c.link.sent
      rw [hs]
    | notification n =>
      simp only [hear]
      split <;> rfl
  next => cases h; rfl
  next => cases h; rfl
  next => cases h; rfl
  next => cases h; rfl
  next => cases h

theorem inHand_of_ne {c : Connection} (h : ∀ r, c.reader ≠ .heard (.request r)) : c.inHand = [] := by
  unfold inHand
  split
  next r hr => exact absurd hr (h r)
  next => rfl

theorem inHand_of_heard {c : Connection} {r : Request} (h : c.reader = .heard (.request r)) :
    c.inHand = [r] := by
  rw [inHand, h]

theorem hears?_of_ne {c c' : Connection} (h : c.reader ≠ .reading) : c.hears? c' = none := by
  unfold hears?
  split
  next hr _ => exact absurd hr h
  next => rfl

/-- **A reader adds the answer to each request that it reads**, and loses none. -/
theorem Goes.replies {c c' : Connection} (h : Goes c c') (hsent : c'.link.sent = c.link.sent) :
    c'.replies = c.replies ++ (c.hears? c').toList.map answer := by
  have answered : c'.answered = c.answered := by rw [Connection.answered, hsent, Connection.answered]
  -- Most steps neither begin nor end with a request in hand.
  have beside (hbefore : ∀ r, c.reader ≠ .heard (.request r))
      (hafter : ∀ r, c'.reader ≠ .heard (.request r)) (howed : c'.owed = c.owed) :
      c'.replies = c.replies ++ (c.hears? c').toList.map answer := by
    have hears : c.hears? c' = none := by
      unfold hears?
      split
      next r _ hr => exact absurd hr (hafter r)
      next => rfl
    rw [hears, Connection.replies, Connection.replies, answered, howed, inHand_of_ne hbefore,
      inHand_of_ne hafter]
    simp
  have failed (r : Request) : afterFailure c ≠ .heard (.request r) := by
    unfold afterFailure
    split <;> nofun
  cases h with
  | @reads link m hr =>
    cases m with
    | request r =>
      have hears : c.hears? { c with link, reader := .heard (.request r) } = some r := by
        rw [hears?, hr]
      rw [hears, Connection.replies, Connection.replies, answered, inHand_of_heard rfl,
        inHand_of_ne (by rw [hr]; nofun)]
      simp
    | _ => exact beside (by rw [hr]; nofun) nofun rfl
  | fails hr => exact beside (by rw [hr]; nofun) failed rfl
  | @settles r hr =>
    obtain ⟨pending, answers, hs⟩ := c.settle_frame r
    refine beside (by rw [hr]; nofun) nofun ?_
    rw [hs]
  | @owes r hr =>
    have done : inHand { c with owed := c.owed ++ [answer r], reader := .reading } = [] := rfl
    rw [hears?_of_ne (by rw [hr]; nofun), Connection.replies, Connection.replies, answered,
      inHand_of_heard hr, done]
    simp
  | tells hr hp =>
    refine beside (by rw [hr]; nofun) (fun r => ?_) rfl
    rcases hp with rfl | rfl
    · nofun
    · exact failed r
  | marks hr | takes hr | drains hr | announces hr => exact beside (by rw [hr]; nofun) nofun rfl

/-! ### Who writes an answer -/

/-- One of the answers that are owed is written; whether it can be written is nobody's concern. -/
def payAt? (c : Connection) (k : Nat) : Option Connection :=
  c.owed[k]?.map fun r => ({ c with owed := c.owed.eraseIdx k }.tryWrite (.response r)).1

/-- The first of them may be the first to be written. -/
theorem payAt?_zero (c : Connection) : payAt? c 0 = pay? c := by
  rw [payAt?, pay?]
  cases howed : c.owed with
  | nil => rfl
  | cons r rest => rfl

/-- On an open connection it is written. -/
theorem payAt?_of_isOpen {c : Connection} (h : c.IsOpen) {k : Nat} {r : Response}
    (hk : c.owed[k]? = some r) : payAt? c k = some { c with
      owed := c.owed.eraseIdx k
      link := { c.link with sent := c.link.sent ++ [.response r] } } := by
  have written : ({ c with owed := c.owed.eraseIdx k } : Connection).write (.response r) = .ok { c with
      owed := c.owed.eraseIdx k
      link := { c.link with sent := c.link.sent ++ [.response r] } } :=
    IsOpen.write (c := { c with owed := c.owed.eraseIdx k }) ⟨h.reader, h.writable, h.link⟩ _
  rw [payAt?, hk, Option.map_some, tryWrite, written]

/-- **Who writes an answer takes it from what is owed.** -/
theorem payAt?_replies {c c' : Connection} (h : c.IsOpen) {k : Nat} (hpay : payAt? c k = some c') :
    c'.replies.Perm c.replies := by
  obtain ⟨r, hk, -⟩ := Option.map_eq_some_iff.1 hpay
  rw [payAt?_of_isOpen h hk] at hpay
  obtain ⟨hlt, rfl⟩ := List.getElem?_eq_some_iff.1 hk
  cases hpay
  have taken : ([c.owed[k]] ++ c.owed.eraseIdx k).Perm c.owed := List.getElem_cons_eraseIdx_perm hlt
  have told : Connection.answered { c with
      owed := c.owed.eraseIdx k
      link := { c.link with sent := c.link.sent ++ [.response c.owed[k]] } } =
        c.answered ++ [c.owed[k]] := by
    rw [answered, List.filterMap_append]
    rfl
  rw [Connection.replies, told, List.append_assoc c.answered]
  exact (taken.append_left c.answered).append_right _

end Reader

namespace Connection

/-! ### The client's own requests -/

/-- The requests of the client wait as they did, and for the same answers. -/
structure KeepsRequests (c c' : Connection) : Prop where
  nextId : c'.nextId = c.nextId
  pending : c'.pending = c.pending
  slots : c'.slots = c.slots
  answers : c'.answers = c.answers

theorem KeepsRequests.refl (c : Connection) : c.KeepsRequests c := ⟨rfl, rfl, rfl, rfl⟩

end Connection

/-- A reader that reads or has a request of the server in hand leaves them alone, whatever the id is. -/
theorem Reader.Goes.keepsRequests {c c' : Connection} (h : Reader.Goes c c')
    (hr : c.reader = .reading ∨ ∃ r, c.reader = .heard (.request r)) : c.KeepsRequests c' := by
  cases h with
  | reads | fails | owes => exact ⟨rfl, rfl, rfl, rfl⟩
  | settles h | tells h | marks h | takes h | drains h | announces h =>
    rcases hr with hr | ⟨r, hr⟩ <;>
    · rw [hr] at h
      cases h

end LanguageClient
