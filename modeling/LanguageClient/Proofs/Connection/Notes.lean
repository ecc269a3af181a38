import LanguageClient.Proofs.Connection.Flags
import LanguageClient.Proofs.Data.Table

/-!
# What the server is told about documents

The server knows the documents of a connection from the notifications that were written on it.
`DocumentNote.ofMessage?` reads such a notification the way the server does, from its method and its
parameters, and `DocumentNote.replay` is the table that the server has after a list of notes.

* `Connection.told`, `Connection.held` — what has been written about documents, and what the server
  makes of it; `Connection.listed` is what the table on this side says.
* `Connection.Refuses` — nothing can be written any more.
* `Connection.Silent` — a step says nothing about documents and leaves their table alone.  Every step
  is silent that is neither one of sending a text nor one of closing a document.
-/

namespace LanguageClient

/-- A document as the server holds it. -/
structure HeldDocument where
  version : Nat
  text : String
  deriving DecidableEq, Inhabited, Repr

/-- What a notification says about a document. -/
inductive DocumentNote
  | opened (uri : String) (version : Nat) (text : String)
  | changed (uri : String) (version : Nat) (text : String)
  | closed (uri : String)
  deriving DecidableEq, Inhabited, Repr

namespace DocumentNote

/-! ## Reading and replaying -/

/-- The natural number in a value. -/
def nat? : Json → Option Nat
  | .int n => if 0 ≤ n then some n.toNat else none
  | _ => none

/-- What a message says about a document.  The last of several full texts counts. -/
def ofMessage? : Message → Option DocumentNote
  | .notification n => do
    let params ← n.params
    let document ← params.get? "textDocument"
    let uri ← (document.get? "uri").bind Json.str?
    if n.method = "textDocument/didOpen" then
      let version ← (document.get? "version").bind nat?
      let text ← (document.get? "text").bind Json.str?
      return opened uri version text
    else if n.method = "textDocument/didChange" then
      let version ← (document.get? "version").bind nat?
      let change ← ((params.get? "contentChanges").bind Json.items?).bind List.getLast?
      let text ← (change.get? "text").bind Json.str?
      return changed uri version text
    else if n.method = "textDocument/didClose" then return closed uri
    else none
  | _ => none

/-- What the server makes of a note. -/
def apply (held : Table String HeldDocument) : DocumentNote → Table String HeldDocument
  | opened uri version text => held.set uri ⟨version, text⟩
  | changed uri version text => held.modify uri fun _ => ⟨version, text⟩
  | closed uri => held.erase uri

/-- The documents that the server holds after these notes. -/
def replay (notes : List DocumentNote) : Table String HeldDocument := notes.foldl apply []

/-- The document that a note is about. -/
def uri : DocumentNote → String
  | opened uri _ _ | changed uri _ _ | closed uri => uri

def isChange : DocumentNote → Bool
  | changed .. => true
  | _ => false

@[simp] theorem ofMessage?_opened (uri text : String) :
    ofMessage? (DocumentMessage.opened uri text) = some (opened uri 1 text) := by
  simp [ofMessage?, DocumentMessage.opened, DocumentMessage.notification, Json.get?, List.lookup_cons,
    Json.str?, nat?, Json.ofNat]

@[simp] theorem ofMessage?_changed (uri : String) (version : UInt32) (text : String) :
    ofMessage? (DocumentMessage.changed uri version text) =
      some (changed uri version.toNat text) := by
  simp [ofMessage?, DocumentMessage.changed, DocumentMessage.notification, Json.get?, List.lookup_cons,
    Json.str?, Json.items?, nat?, Json.ofUInt32]

@[simp] theorem ofMessage?_closed (uri : String) :
    ofMessage? (DocumentMessage.closed uri) = some (closed uri) := by
  simp [ofMessage?, DocumentMessage.closed, DocumentMessage.notification, Json.get?, Json.str?]

theorem replay_concat (notes : List DocumentNote) (note : DocumentNote) :
    replay (notes ++ [note]) = apply (replay notes) note :=
  List.foldl_concat ..

/-- A note says nothing about other documents. -/
theorem get?_apply_of_ne (held : Table String HeldDocument) (note : DocumentNote) {uri : String}
    (h : note.uri ≠ uri) : (apply held note).get? uri = held.get? uri := by
  cases note with
  | opened => exact (Table.get?_set ..).trans (if_neg h)
  | changed => exact (Table.get?_modify ..).trans (if_neg h)
  | closed => exact (Table.get?_erase ..).trans (if_neg h)

end DocumentNote

namespace Connection

/-! ## Both sides of a connection -/

/-- What the server has been told about documents, the first note first. -/
def told (c : Connection) : List DocumentNote := c.link.sent.filterMap DocumentNote.ofMessage?

/-- A document as the server holds it. -/
def held (c : Connection) (uri : String) : Option HeldDocument := (DocumentNote.replay c.told).get? uri

/-- A document as the table on this side says that the server holds it. -/
def listed (c : Connection) (uri : String) : Option HeldDocument :=
  (c.documents.get? uri).map fun d => ⟨d.version.toNat, d.text⟩

/-- How often the server was told that a document has changed. -/
def changes (c : Connection) (uri : String) : Nat :=
  c.told.countP fun note => note.isChange && note.uri = uri

/-- Nothing can be written any more. -/
def Refuses (c : Connection) : Prop := c.writable = false ∨ c.link.refusal.isSome = true

variable {c c' : Connection}

theorem listed_eq_none {uri : String} : c.listed uri = none ↔ c.documents.get? uri = none :=
  Option.map_eq_none_iff

theorem listed_of_get? {uri : String} {d : SentDocument} (h : c.documents.get? uri = some d) :
    c.listed uri = some ⟨d.version.toNat, d.text⟩ := by
  rw [listed, h]
  rfl

theorem listed_congr (h : c'.documents = c.documents) (uri : String) : c'.listed uri = c.listed uri := by
  rw [listed, listed, h]

theorem listed_rememberDocument (c : Connection) (uri : String) (d : SentDocument) (other : String) :
    (c.rememberDocument uri d).listed other =
      if uri = other then some ⟨d.version.toNat, d.text⟩ else c.listed other := by
  rw [listed, rememberDocument, Table.get?_set]
  split <;> rfl

theorem listed_forgetDocument (c : Connection) (uri other : String) :
    (c.forgetDocument uri).listed other = if uri = other then none else c.listed other := by
  rw [listed, forgetDocument, Table.get?_erase]
  split <;> rfl

theorem held_congr (h : c'.told = c.told) (uri : String) : c'.held uri = c.held uri := by
  rw [held, held, h]

/-- What the server makes of one more note. -/
theorem held_of_told {note : DocumentNote} (h : c'.told = c.told ++ [note]) (uri : String) :
    c'.held uri = (DocumentNote.apply (DocumentNote.replay c.told) note).get? uri := by
  rw [held, h, DocumentNote.replay_concat]

theorem held_of_told_ne {note : DocumentNote} (h : c'.told = c.told ++ [note]) {uri : String}
    (hu : note.uri ≠ uri) : c'.held uri = c.held uri :=
  (held_of_told h uri).trans (DocumentNote.get?_apply_of_ne _ _ hu)

theorem held_of_opened {uri text : String} {version : Nat}
    (h : c'.told = c.told ++ [.opened uri version text]) : c'.held uri = some ⟨version, text⟩ := by
  rw [held_of_told h, DocumentNote.apply, Table.get?_set, if_pos rfl]

theorem held_of_changed {uri text : String} {version : Nat} {d : HeldDocument}
    (h : c'.told = c.told ++ [.changed uri version text]) (hd : c.held uri = some d) :
    c'.held uri = some ⟨version, text⟩ := by
  rw [held_of_told h, DocumentNote.apply, Table.get?_modify, if_pos rfl]
  show (c.held uri).map _ = _
  rw [hd]
  rfl

theorem held_of_closed {uri : String} (h : c'.told = c.told ++ [.closed uri]) : c'.held uri = none := by
  rw [held_of_told h, DocumentNote.apply, Table.get?_erase, if_pos rfl]

theorem changes_of_changed {uri text : String} {version : Nat}
    (h : c'.told = c.told ++ [.changed uri version text]) : c'.changes uri = c.changes uri + 1 := by
  rw [changes, h, List.countP_append, changes]
  simp [DocumentNote.isChange, DocumentNote.uri]

theorem told_write {m : Message} (h : c.write m = .ok c') :
    c'.told = c.told ++ (DocumentNote.ofMessage? m).toList := by
  obtain ⟨rfl, _⟩ := write_eq h
  rw [told, told, List.filterMap_append]
  cases hm : DocumentNote.ofMessage? m <;> simp [hm]

theorem documents_write {m : Message} (h : c.write m = .ok c') :
    c'.documents = c.documents ∧ c'.documentLock = c.documentLock := by
  obtain ⟨rfl, _⟩ := write_eq h
  exact ⟨rfl, rfl⟩

theorem Refuses.write_error (h : c.Refuses) (m : Message) : ∃ e, c.write m = .error e := by
  unfold write
  split
  next hw =>
    split
    next e _ => exact ⟨_, rfl⟩
    next hr => rcases h with h | h <;> simp_all
  next => exact ⟨_, rfl⟩

theorem refuses_of_write_error {m : Message} {e : Failure} (h : c.write m = .error e) : c.Refuses := by
  rcases Connection.write_error h with ⟨hw, _⟩ | ⟨io, hio, _⟩
  · exact .inl hw
  · exact .inr (Option.isSome_iff_exists.2 ⟨io, hio⟩)

/-! ## Steps that do not concern documents -/

/-- Nothing is said about documents, and their table stays. -/
structure Silent (c c' : Connection) : Prop where
  documents : c'.documents = c.documents
  documentLock : c'.documentLock = c.documentLock
  told : c'.told = c.told
  refuses : c.Refuses → c'.Refuses

namespace Silent

theorem refl (c : Connection) : c.Silent c := ⟨rfl, rfl, rfl, id⟩

theorem trans {c'' : Connection} (h : c.Silent c') (h' : c'.Silent c'') : c.Silent c'' where
  documents := h'.documents.trans h.documents
  documentLock := h'.documentLock.trans h.documentLock
  told := h'.told.trans h.told
  refuses := h'.refuses ∘ h.refuses

/-- What leaves the documents and all that is written alone is silent. -/
theorem of_sent (documents : c'.documents = c.documents)
    (documentLock : c'.documentLock = c.documentLock) (sent : c'.link.sent = c.link.sent)
    (refusal : c.link.refusal.isSome = true → c'.link.refusal.isSome = true)
    (writable : c.writable = false → c'.writable = false) : c.Silent c' where
  documents := documents
  documentLock := documentLock
  told := by rw [Connection.told, sent, Connection.told]
  refuses h := h.imp writable refusal

theorem listed (h : c.Silent c') (uri : String) : c'.listed uri = c.listed uri :=
  listed_congr h.documents uri

theorem held (h : c.Silent c') (uri : String) : c'.held uri = c.held uri := held_congr h.told uri

theorem changes (h : c.Silent c') (uri : String) : c'.changes uri = c.changes uri := by
  rw [Connection.changes, h.told, Connection.changes]

end Silent

theorem silent_write {m : Message} (hm : DocumentNote.ofMessage? m = none) (h : c.write m = .ok c') :
    c.Silent c' where
  documents := (documents_write h).1
  documentLock := (documents_write h).2
  told := by rw [told_write h, hm, Option.toList_none, List.append_nil]
  refuses hr := by
    obtain ⟨e, he⟩ := hr.write_error m
    rw [h] at he
    cases he

theorem silent_tryWrite {m : Message} (hm : DocumentNote.ofMessage? m = none) (c : Connection) :
    c.Silent (c.tryWrite m).1 := by
  unfold tryWrite
  split
  next c' h => exact silent_write hm h
  next => exact .refl c

theorem silent_settle (c : Connection) (r : Response) : c.Silent (c.settle r) := by
  unfold settle
  split
  next => exact .refl c
  next => exact .of_sent rfl rfl rfl id id

theorem silent_leave? (h : c.leave? = some c') : c.Silent c' := by
  unfold leave? at h
  split at h
  next => cases h; exact .of_sent rfl rfl rfl (fun _ => rfl) id
  next => cases h

end Connection

open Connection

theorem RequestPoint.step_silent (q : Query) (now : Nat) (c : Connection) (p : RequestPoint) :
    (p.step q now c).All c.Silent := by
  cases p with
  | beginning => rw [step]; split <;> exact .refl c
  | numbering => exact .of_sent rfl rfl rfl id id
  | registering id => exact .of_sent rfl rfl rfl (fun h => h) fun h => h
  | writing id slot =>
    rw [step]
    split
    next c' h => exact silent_write rfl h
    next => exact .refl c
  | waiting id slot deadline =>
    rw [step]
    split
    next => exact .of_sent rfl rfl rfl (fun h => h) fun h => h
    next =>
      split
      next => exact .refl c
      next =>
        split
        next => exact .refl c
        next => trivial
  | withdrawing id e => exact .of_sent rfl rfl rfl (fun h => h) fun h => h

theorem ClosePoint.step_silent (reason : String) (c : Connection) (p : ClosePoint) :
    (p.step reason c).All c.Silent := by
  cases p with
  | takingWriter => exact .of_sent rfl rfl rfl id fun _ => rfl
  | _ => exact .of_sent rfl rfl rfl id id

theorem Reader.hear_silent (handlers : Handlers) (c : Connection) (m : Message) :
    c.Silent (Reader.hear handlers c m).1 := by
  cases m with
  | request r => exact .of_sent rfl rfl rfl id id
  | response r => exact (silent_settle c r).trans (.of_sent rfl rfl rfl id id)
  | notification n =>
    simp only [hear]
    split <;> exact .of_sent rfl rfl rfl id id

theorem Reader.step?_silent {handlers : Handlers} {c c' : Connection} {signals : List Signal}
    (h : Reader.step? handlers c = some (c', signals)) : c.Silent c' := by
  unfold step? at h
  split at h
  next => split at h <;> cases h <;> exact .of_sent rfl rfl rfl id id
  next m _ =>
    obtain rfl : (hear handlers c m).1 = c' := by simpa using congrArg (·.map Prod.fst) h
    exact hear_silent handlers c m
  next => cases h; exact .of_sent rfl rfl rfl id id
  next => cases h; exact .of_sent rfl rfl rfl id fun _ => rfl
  next => cases h; exact .of_sent rfl rfl rfl id id
  next => cases h; exact .of_sent rfl rfl rfl id id
  next => cases h

theorem Reader.stop?_silent {c c' : Connection} (h : Reader.stop? c = some c') : c.Silent c' := by
  obtain ⟨_, rfl⟩ := stop?_eq h
  exact .of_sent rfl rfl rfl id id

theorem Reader.pay?_silent {c c' : Connection} (h : Reader.pay? c = some c') : c.Silent c' := by
  unfold pay? at h
  split at h
  next => cases h
  next r rest _ =>
    cases h
    have owing : c.Silent { c with owed := rest } := .of_sent rfl rfl rfl id id
    exact owing.trans (silent_tryWrite (m := .response r) rfl _)

end LanguageClient
