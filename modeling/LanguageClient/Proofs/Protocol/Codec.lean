import LanguageClient.Proofs.Decode.Record
import LanguageClient.Proofs.Json.RoundTrip
import LanguageClient.Protocol.Message

/-!
# Messages that are written are read

The rules by which a record is written and those by which it is read are stated apart: a member is
left out or written as null, a field is required or may be absent or null.  For every record and
every combination of its fields the two agree, up to a null that is read as absence.

* `ResponseError.decode_sorted`, `Request.decode_sorted`, `Response.decode_sorted` and
  `Notification.decode_sorted` — a record is read from the object that was written for it.
* `Message.ofJson_sorted` — the kind of a message is recognised by the keys that are written for it.
* `Message.Travels` is what a message needs so that its text can be read at all.
* **`messages_are_read_as_written`** — a text is read as the message it was written for, and the keys
  of a text alone decide as what it is read.
-/

namespace LanguageClient

open Decode (reads_written reads_written?)
open Json (HasKey)

/-! ## Values in a message -/

/-- A value, unless it is null. -/
def Json.present? : Option Json → Option Json
  | some .null => none
  | value => value

theorem Decode.optional_value (value : Option Json) :
    Decode.optional Decode.value (value.getD .null) = .ok (Json.present? value) := by
  rcases value with _ | (_ | _ | _ | _ | _ | _ | _ | _) <;> rfl

theorem Decode.int32_ofInt32 (n : Int32) : Decode.int32 (.ofInt32 n) = .ok n := by
  have hlow : -0x80000000 ≤ n.toInt := n.le_toInt
  have hhigh : n.toInt ≤ 0x7FFFFFFF := Int.le_sub_one_of_lt n.toInt_lt
  rw [Decode.int32, Json.ofInt32, Decode.integer, if_pos ⟨hlow, hhigh⟩]
  show Except.ok (Int32.ofInt n.toInt) = _
  rw [Int32.ofInt_toInt]

/-- An id is read as it was written. -/
theorem RequestId.decode_sorted (id : RequestId) : decode id.toJson.sorted = .ok id := by
  cases id with
  | number n =>
    have hn : n.toNat ≤ 0xFFFFFFFFFFFFFFFF := Nat.le_of_lt_succ n.toNat_lt
    have hfits : 0 ≤ (n.toNat : Int) ∧ (n.toNat : Int) ≤ 0xFFFFFFFFFFFFFFFF := by omega
    show decode (.int n.toNat) = _
    rw [decode, if_pos hfits, Int.toNat_natCast, UInt64.ofNat_toNat]
  | text s => rfl

/-! ## Records -/

namespace ResponseError

def withoutNulls (e : ResponseError) : ResponseError := { e with data := Json.present? e.data }

/-- An error is read as it was written. -/
theorem decode_sorted (e : ResponseError) (h : e.data.map Json.sorted = e.data) :
    decode e.toJson.sorted = .ok e.withoutNulls := by
  obtain ⟨code, message, data⟩ := e
  refine (((Decode.Reads.map ?_ ResponseError.mk).seq ?_).seq ?_).decode_sorted _
  · exact reads_written (v := .ofInt32 code) (by cases data <;> rfl) (Decode.int32_ofInt32 code)
  · exact reads_written (v := .str message) (by cases data <;> rfl) rfl
  · have hdata : ([("code", Json.ofInt32 code), ("message", .str message)]
        ++ Json.member? "data" data).reverse.lookup "data" = data := by
      cases data <;> rfl
    exact reads_written? (by rw [hdata, h]; exact Decode.optional_value data)

end ResponseError

namespace Request

def withoutNulls (r : Request) : Request := { r with params := Json.present? r.params }

theorem decode_sorted (r : Request) (h : r.params.map Json.sorted = r.params) :
    decode r.toJson.sorted = .ok r.withoutNulls := by
  obtain ⟨version, id, method, params⟩ := r
  refine ((((Decode.Reads.map ?_ Request.mk).seq ?_).seq ?_).seq ?_).decode_sorted _
  · exact reads_written (v := .str version) (by cases params <;> rfl) rfl
  · exact reads_written (v := id.toJson) (by cases params <;> rfl) id.decode_sorted
  · exact reads_written (v := .str method) (by cases params <;> rfl) rfl
  · have hparams : ([("jsonrpc", .str version), ("id", id.toJson), ("method", .str method)]
        ++ Json.member? "params" params).reverse.lookup "params" = params := by
      cases params <;> rfl
    exact reads_written? (by rw [hparams, h]; exact Decode.optional_value params)

end Request

namespace Notification

def withoutNulls (n : Notification) : Notification := { n with params := Json.present? n.params }

theorem decode_sorted (n : Notification) (h : n.params.map Json.sorted = n.params) :
    decode n.toJson.sorted = .ok n.withoutNulls := by
  obtain ⟨version, method, params⟩ := n
  refine (((Decode.Reads.map ?_ Notification.mk).seq ?_).seq ?_).decode_sorted _
  · exact reads_written (v := .str version) (by cases params <;> rfl) rfl
  · exact reads_written (v := .str method) (by cases params <;> rfl) rfl
  · have hparams : ([("jsonrpc", Json.str version), ("method", .str method)]
        ++ Json.member? "params" params).reverse.lookup "params" = params := by
      cases params <;> rfl
    exact reads_written? (by rw [hparams, h]; exact Decode.optional_value params)

end Notification

namespace Response

def withoutNulls (r : Response) : Response :=
  { r with result := Json.present? r.result, error := r.error.map ResponseError.withoutNulls }

theorem decode_id (id : Option RequestId) :
    Decode.optional RequestId.decode (Json.ofOption (id.map RequestId.toJson)).sorted = .ok id := by
  cases id with
  | none => rfl
  | some id => 
    have hid := id.decode_sorted
    cases id <;> exact congrArg (Except.map some) hid

theorem decode_error (error : Option ResponseError)
    (h : ∀ e ∈ error, e.data.map Json.sorted = e.data) :
    Decode.optional ResponseError.decode
        (((error.map ResponseError.toJson).map Json.sorted).getD .null) =
      .ok (error.map ResponseError.withoutNulls) := by
  cases error with
  | none => rfl
  | some e => exact congrArg (Except.map some) (e.decode_sorted (h e rfl))

/-- The members of a response as they are written. -/
def members (r : Response) : List (String × Json) :=
  [("jsonrpc", .str r.version), ("id", .ofOption (r.id.map RequestId.toJson))]
    ++ Json.member? "result" r.result ++ Json.member? "error" (r.error.map ResponseError.toJson)

theorem lookup_members (r : Response) :
    r.members.reverse.lookup "jsonrpc" = some (.str r.version) ∧
    r.members.reverse.lookup "id" = some (.ofOption (r.id.map RequestId.toJson)) ∧
    r.members.reverse.lookup "result" = r.result ∧
    r.members.reverse.lookup "error" = r.error.map ResponseError.toJson := by
  obtain ⟨version, id, result, error⟩ := r
  cases result <;> cases error <;> exact ⟨rfl, rfl, rfl, rfl⟩

theorem decode_sorted (r : Response) (hresult : r.result.map Json.sorted = r.result)
    (herror : ∀ e ∈ r.error, e.data.map Json.sorted = e.data) :
    decode r.toJson.sorted = .ok r.withoutNulls := by
  obtain ⟨hversion, hid, hvalue, hfailure⟩ := r.lookup_members
  refine @Decode.Reads.decode_sorted _ r.members _ _
    ((((Decode.Reads.map ?_ Response.mk).seq ?_).seq ?_).seq ?_) _
  · exact reads_written hversion rfl
  · exact reads_written? (by rw [hid]; exact decode_id r.id)
  · exact reads_written? (by rw [hvalue, hresult]; exact Decode.optional_value r.result)
  · exact reads_written? (by rw [hfailure]; exact decode_error r.error herror)

end Response

/-! ## Messages -/

namespace Message

/-- The values that a message carries. -/
def values : Message → List Json
  | .request r => r.params.toList
  | .response r => r.result.toList ++ (r.error.bind ResponseError.data).toList
  | .notification n => n.params.toList

/-- A message whose text can be read: it does not nest too deep, its numbers are read as they are
written, and its objects list their members as an object is read. -/
structure Travels (m : Message) : Prop where
  fits : Json.Syntax.Fits Json.Syntax.maxDepth m.toJson
  canonical : ∀ v ∈ m.values, v.sorted = v

/-- The message with null parameters, results and data left out. -/
def withoutNulls : Message → Message
  | .request r => .request r.withoutNulls
  | .response r => .response r.withoutNulls
  | .notification n => .notification n.withoutNulls

theorem sorted_of_mem {value : Option Json} (h : ∀ v ∈ value.toList, v.sorted = v) :
    value.map Json.sorted = value := by
  cases value with
  | none => rfl
  | some v => rw [Option.map_some, h v (by simp)]

theorem get?_sorted (members : List (String × Json)) (key : String) :
    (Json.sorted (.obj members)).get? key = (members.reverse.lookup key).map Json.sorted := by
  rw [Json.sorted_obj]
  exact Json.lookup_gathered_sorted members key

/-- What is written for a message is read as the message. -/
theorem ofJson_sorted {m : Message} (h : ∀ v ∈ m.values, v.sorted = v) :
    ofJson m.toJson.sorted = .ok m.withoutNulls := by
  cases m with
  | request r =>
    have hkeys : (r.toJson.sorted.get? "id").isSome = true ∧
        (r.toJson.sorted.get? "method").isSome = true := by
      simp only [Request.toJson, get?_sorted, Option.isSome_map]
      cases r.params <;> exact ⟨rfl, rfl⟩
    rw [toJson, ofJson, hkeys.1, hkeys.2, r.decode_sorted (sorted_of_mem h)]
    rfl
  | response r =>
    have hkeys : (r.toJson.sorted.get? "id").isSome = true ∧
        (r.toJson.sorted.get? "method").isSome = false := by
      simp only [Response.toJson, get?_sorted, Option.isSome_map]
      cases r.result <;> cases r.error <;> exact ⟨rfl, rfl⟩
    have hresult : r.result.map Json.sorted = r.result :=
      sorted_of_mem fun v hv => h v (List.mem_append_left _ hv)
    have herror : ∀ e ∈ r.error, e.data.map Json.sorted = e.data := by
      intro e he
      refine sorted_of_mem fun v hv => h v (List.mem_append_right _ ?_)
      rwa [Option.mem_def.1 he]
    rw [toJson, ofJson, hkeys.1, hkeys.2, r.decode_sorted hresult herror]
    rfl
  | notification n =>
    have hkeys : (n.toJson.sorted.get? "id").isSome = false ∧
        (n.toJson.sorted.get? "method").isSome = true := by
      simp only [Notification.toJson, get?_sorted, Option.isSome_map]
      cases n.params <;> exact ⟨rfl, rfl⟩
    rw [toJson, ofJson, hkeys.1, hkeys.2, n.decode_sorted (sorted_of_mem h)]
    rfl

/-- The text of a message is read as the message. -/
theorem parse_print {m : Message} (h : m.Travels) : parse m.print = .ok m.withoutNulls := by
  rw [parse, print, Json.parse?_compact h.fits]
  exact ofJson_sorted h.canonical

/-- A text is read as a record of one kind, or refused because its value has not the shape of that
record. -/
def IsReadBy {α : Type} (decode : Decoder α) (kind : α → Message) (text : String) (j : Json) : Prop :=
  (∃ a, decode j = .ok a ∧ parse text = .ok (kind a)) ∨
    ∃ fault, decode j = .error fault ∧ parse text = .error (.wrongShape fault)

theorem isReadBy {α : Type} {decode : Decoder α} {kind : α → Message} {text : String} {j : Json}
    (h : parse text = ((decode j).map kind).mapError .wrongShape) : IsReadBy decode kind text j := by
  cases hdecode : decode j with
  | ok a => exact .inl ⟨a, hdecode, by rw [h, hdecode]; rfl⟩
  | error fault => exact .inr ⟨fault, hdecode, by rw [h, hdecode]; rfl⟩

end Message

/-- What a response says is not changed, apart from null data in its error. -/
theorem Response.outcome_withoutNulls (r : Response) :
    r.withoutNulls.outcome = r.outcome.mapError ResponseError.withoutNulls := by
  obtain ⟨version, id, result, error⟩ := r
  cases error with
  | some e => rfl
  | none => rcases result with _ | (_ | _ | _ | _ | _ | _ | _ | _) <;> rfl

/-- **Messages are read as they are written.**  The text of a message that can be read is read as the
same message, where a null parameter, result or data is left out; what a response says is the same.
And of any text, the keys of its value alone decide as what it is read: with an id and a method as a
request, with an id alone as a response, with a method alone as a notification, each unless it has
not the shape of that record; with neither, or if it is no JSON, as nothing. -/
theorem messages_are_read_as_written :
    (∀ m : Message, m.Travels → Message.parse m.print = .ok m.withoutNulls) ∧
    (∀ r : Response, r.withoutNulls.outcome = r.outcome.mapError ResponseError.withoutNulls) ∧
    (∀ text, Json.parse? text = none → Message.parse text = .error .notJson) ∧
    ∀ text j, Json.parse? text = some j →
      (HasKey "id" j → HasKey "method" j → Message.IsReadBy Request.decode .request text j) ∧
      (HasKey "id" j → ¬ HasKey "method" j → Message.IsReadBy Response.decode .response text j) ∧
      (¬ HasKey "id" j → HasKey "method" j →
        Message.IsReadBy Notification.decode .notification text j) ∧
      (¬ HasKey "id" j → ¬ HasKey "method" j →
        Message.parse text = .error .neitherIdNorMethod) := by
  refine ⟨fun m => Message.parse_print, Response.outcome_withoutNulls, fun text h => ?_,
    fun text j h => ?_⟩
  · rw [Message.parse, h]
  · have hparse : Message.parse text = Message.ofJson j := by rw [Message.parse, h]
    simp only [Json.hasKey_iff, Bool.not_eq_true]
    refine ⟨fun hid hmethod => ?_, fun hid hmethod => ?_, fun hid hmethod => ?_, fun hid hmethod => ?_⟩
    · exact Message.isReadBy (by rw [hparse, Message.ofJson, hid, hmethod])
    · exact Message.isReadBy (by rw [hparse, Message.ofJson, hid, hmethod])
    · exact Message.isReadBy (by rw [hparse, Message.ofJson, hid, hmethod])
    · rw [hparse, Message.ofJson, hid, hmethod]

/-- An error whose data is null, in answer to a request that was known by a text. -/
def sampleFailure : Message :=
  .response (.failure (.text "a\nb") { code := -32601, message := "Not \"here\"", data := some .null })

/-- The failure is read with its data left out. -/
theorem sample_failure_is_read :
    Message.parse sampleFailure.print =
      .ok (.response (.failure (.text "a\nb") { code := -32601, message := "Not \"here\"" })) := by
  have hfits : Json.Syntax.Fits Json.Syntax.maxDepth sampleFailure.toJson := by
    simp only [sampleFailure, Message.toJson, Response.toJson, Response.failure, Option.map_some,
      Option.map_none, Json.ofOption, Json.member?, ResponseError.toJson, RequestId.toJson]
    simp [Json.Syntax.maxDepth, Json.Syntax.Fits, Json.Syntax.FitsMembers, Json.ofInt32, Json.minInt,
      Json.maxInt]
  have hcanonical : ∀ v ∈ sampleFailure.values, v.sorted = v := by
    intro v hv
    obtain rfl : v = .null := List.mem_singleton.1 hv
    rfl
  exact messages_are_read_as_written.1 sampleFailure ⟨hfits, hcanonical⟩

end LanguageClient
