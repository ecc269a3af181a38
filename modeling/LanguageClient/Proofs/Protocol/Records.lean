import LanguageClient.Compute
import LanguageClient.Highlight.Payload
import LanguageClient.Proofs.Decode.Written
import LanguageClient.Proofs.Protocol.Codec
import LanguageClient.Protocol.Lifecycle

/-!
# Records that travel are read as they were written

What a server is told and what it tells — places in a document, highlight sets, computed terms, the
records of a connection's life — and the settings of the client.  Each record is written in one form
and read in several.

* `Position.decode_written`, `Range.decode_written` and the others of this name — a record is read from
  the object that was written for it, field by field; the `fits` beside each says that its text is read.
* `InitializeParams.read_inOrder`, `InitializeResult.read_inOrder` — the two records that carry JSON
  values carry them as they were read.
* **`records_are_read_as_written`** — every record is read as it was written, and stays as it is once it
  was read, in whatever form; an answer that has its text under both of the names it may have is
  refused.
-/

namespace LanguageClient

open Decode
open Json.Syntax (Fits FitsItems FitsMembers)

/-! ## Values whose text is read -/

/-- A number of a type that has at most 64 bits. -/
theorem Json.fits_word {n high : Nat} (h : n ≤ high) (hhigh : (high : Int) ≤ maxInt) (depth : Nat) :
    Fits depth (.int n) := by
  have hlow : minInt ≤ 0 := by decide
  rw [Fits]
  omega

theorem Json.fits_uint64 (n : UInt64) (depth : Nat) : Fits depth (.ofUInt64 n) :=
  fits_word (Nat.le_of_lt_succ n.toNat_lt) (by decide) depth

theorem Json.fits_uint32 (n : UInt32) (depth : Nat) : Fits depth (.ofUInt32 n) :=
  fits_word (Nat.le_of_lt_succ n.toNat_lt) (by decide) depth

theorem Json.fits_null (depth : Nat) : Fits depth .null := by rw [Fits]; trivial

theorem Json.fits_bool (b : Bool) (depth : Nat) : Fits depth (.bool b) := by rw [Fits]; trivial

theorem Json.fits_str (s : String) (depth : Nat) : Fits depth (.str s) := by rw [Fits]; trivial

theorem Json.fits_optional (s : Option String) (depth : Nat) :
    Fits depth (.ofOption (s.map .str)) := by
  cases s with
  | none => exact fits_null depth
  | some s => exact fits_str s depth

theorem fitsMembers_append {depth : Nat} (members more : List (String × Json)) :
    FitsMembers depth (members ++ more) ↔ FitsMembers depth members ∧ FitsMembers depth more := by
  induction members with
  | nil => simp [FitsMembers]
  | cons m rest ih => rw [List.cons_append, FitsMembers, FitsMembers, ih, and_assoc]

theorem Json.fits_member? {key : String} {value : Option Json} {depth : Nat}
    (h : ∀ v ∈ value.toList, Fits depth v) : FitsMembers depth (member? key value) := by
  cases value with
  | none => trivial
  | some v => exact ⟨h v (by simp), trivial⟩

/-! ## Places -/

namespace Position

theorem decode_written (p : Position) : decode p.toJson.sorted = .ok p := by
  refine ((Reads.map ?_ Position.mk).seq ?_).decode_sorted _
  · exact reads_written rfl (uint32_written p.line)
  · exact reads_written rfl (uint32_written p.character)

theorem fits (p : Position) (depth : Nat) : Fits (depth + 1) p.toJson := by
  rw [toJson, Fits]
  exact ⟨Json.fits_uint32 _ _, Json.fits_uint32 _ _, trivial⟩

end Position

namespace Range

theorem decode_written (r : Range) : decode r.toJson.sorted = .ok r := by
  refine ((Reads.map ?_ Range.mk).seq ?_).decode_sorted _
  · exact reads_written rfl r.start.decode_written
  · exact reads_written rfl r.stop.decode_written

theorem fits (r : Range) (depth : Nat) : Fits (depth + 2) r.toJson := by
  rw [toJson, Fits]
  exact ⟨r.start.fits depth, r.stop.fits depth, trivial⟩

end Range

/-! ## Highlight sets -/

theorem SymbolKind.decode_written (k : SymbolKind) : decode k.toJson.sorted = .ok k := by
  cases k <;> rfl

namespace Symbol

theorem decode_written (s : Symbol) : decode s.toJson.sorted = .ok s := by
  refine ((Reads.map ?_ Symbol.mk).seq ?_).decode_sorted _
  · exact reads_written rfl s.range.decode_written
  · exact reads_written rfl s.kind.decode_written

theorem fits (s : Symbol) (depth : Nat) : Fits (depth + 3) s.toJson := by
  rw [toJson, Fits]
  exact ⟨s.range.fits depth, Json.fits_str _ _, trivial⟩

end Symbol

namespace HighlightResult

theorem decode_written (h : HighlightResult) : decode h.toJson.sorted = .ok h := by
  refine ((Reads.map ?_ HighlightResult.mk).seq ?_).decode_sorted _
  · exact reads_written (v := .str h.uri) rfl rfl
  · exact reads_writtenOr rfl (listOf_written Symbol.decode_written h.symbols)

theorem fits (h : HighlightResult) (depth : Nat) : Fits (depth + 5) h.toJson := by
  have hitems : ∀ symbols : List Symbol, FitsItems (depth + 3) (symbols.map Symbol.toJson) := by
    intro symbols
    induction symbols with
    | nil => rw [List.map_nil, FitsItems]; trivial
    | cons s rest ih => exact ⟨s.fits depth, ih⟩
  rw [toJson, Fits]
  exact ⟨Json.fits_str _ _, by rw [Fits]; exact hitems h.symbols, trivial⟩

end HighlightResult

/-! ## Computed terms -/

namespace ComputeTermParams

theorem decode_written (p : ComputeTermParams) : decode p.toJson.sorted = .ok p := by
  refine ((Reads.map ?_ ComputeTermParams.mk).seq ?_).decode_sorted _
  · exact reads_written (v := .str p.uri) rfl rfl
  · exact reads_written rfl p.position.decode_written

theorem fits (p : ComputeTermParams) (depth : Nat) : Fits (depth + 2) p.toJson := by
  rw [toJson, Fits]
  exact ⟨Json.fits_str _ _, p.position.fits depth, trivial⟩

end ComputeTermParams

namespace ComputeTermResult

/-- The names that the text of an answer may have. -/
def textNames : List String := ["computed", "computedType"]

/-- **An answer is read under either name**, whatever other keys its object has. -/
theorem decode_of_lookup {r : ComputeTermResult} {members : List (String × Json)} {name : String}
    (hname : name ∈ textNames) (huri : members.reverse.lookup "uri" = some (.str r.uri))
    (htext : members.reverse.lookup name = some (.str r.computed))
    (honly : ∀ other ∈ textNames, other ≠ name → members.reverse.lookup other = none)
    (hrange : members.reverse.lookup "range" = some r.range.toJson) :
    decode (Json.obj members).sorted = .ok r := by
  refine (((Reads.map ?_ ComputeTermResult.mk).seq ?_).seq ?_).decode_sorted _
  · exact reads_written huri rfl
  · refine reads_fieldNamed (Json.inOrder_gathered _).nodup hname
      (by rw [Json.lookup_gathered_sorted, htext]; rfl) (fun other hother hne => ?_) rfl
    rw [Json.lookup_gathered_sorted, honly other hother hne]
    rfl
  · exact reads_written hrange r.range.decode_written

theorem decode_written (r : ComputeTermResult) : decode r.toJson.sorted = .ok r := by
  have hname : "computed" ∈ textNames := by decide
  refine decode_of_lookup hname rfl rfl (fun other hother hne => ?_) rfl
  obtain rfl : other = "computedType" := by
    simpa [textNames, hne] using hother
  rfl

/-- **An answer that has its text under both names is refused.** -/
theorem both_names_are_refused {members : List (String × Json)}
    (h : ∀ name ∈ textNames, Json.HasKey name (.obj members)) :
    ∃ fault, decode (.obj members) = .error fault := by
  refine exists_error_iff.2 fun r hread => ?_
  obtain ⟨_, _, hread, -⟩ := read_seq.1 (decode_obj.1 hread)
  obtain ⟨_, text, -, htext, -⟩ := read_seq.1 hread
  have hcomputed : Json.HasKey "computed" (.obj members) := h _ (by decide)
  have htype : Json.HasKey "computedType" (.obj members) := h _ (by decide)
  exact two_names_are_refused (by decide) (by decide) (by decide) hcomputed htype htext

theorem fits (r : ComputeTermResult) (depth : Nat) : Fits (depth + 3) r.toJson := by
  rw [toJson, Fits]
  exact ⟨Json.fits_str _ _, Json.fits_str _ _, r.range.fits depth, trivial⟩

end ComputeTermResult

/-! ## The life of a connection -/

namespace ProgramInfo

theorem decode_written (p : ProgramInfo) (name : String) :
    fields.decode name p.toJson.sorted = .ok p := by
  obtain ⟨program, version⟩ := p
  refine ((Reads.map ?_ ProgramInfo.mk).seq ?_).decode_sorted _
  · exact reads_written (v := .str program) (by cases version <;> rfl) rfl
  · refine reads_written? ?_
    have hversion : ([("name", Json.str program)]
        ++ Json.member? "version" (version.map .str)).reverse.lookup "version" = version.map .str := by
      cases version <;> rfl
    rw [hversion]
    exact optional_written string_written nofun version

theorem fits (p : ProgramInfo) (depth : Nat) : Fits (depth + 1) p.toJson := by
  obtain ⟨program, version⟩ := p
  rw [toJson, Fits]
  cases version with
  | none => exact ⟨Json.fits_str _ _, trivial⟩
  | some v => exact ⟨Json.fits_str _ _, Json.fits_str _ _, trivial⟩

theorem fits_member? {key : String} {depth : Nat} (info : Option ProgramInfo) :
    FitsMembers (depth + 1) (Json.member? key (info.map toJson)) := by
  cases info with
  | none => trivial
  | some i => exact ⟨i.fits depth, trivial⟩

theorem toJson_ne_null (p : ProgramInfo) : p.toJson.sorted ≠ .null := nofun

end ProgramInfo

namespace InitializeParams

/-- The values that are carried as they are. -/
def values (p : InitializeParams) : List Json := p.capabilities :: p.options.toList

def withoutNulls (p : InitializeParams) : InitializeParams :=
  { p with options := Json.present? p.options }

/-- The members as they are written. -/
def members (p : InitializeParams) : List (String × Json) :=
  [("processId", .ofOption (p.processId.map .ofUInt32)),
      ("rootUri", .ofOption (p.rootUri.map .str)), ("capabilities", p.capabilities)]
    ++ Json.member? "clientInfo" (p.clientInfo.map ProgramInfo.toJson)
    ++ Json.member? "initializationOptions" p.options

theorem lookup_members (p : InitializeParams) :
    p.members.reverse.lookup "processId" = some (.ofOption (p.processId.map .ofUInt32)) ∧
    p.members.reverse.lookup "rootUri" = some (.ofOption (p.rootUri.map .str)) ∧
    p.members.reverse.lookup "capabilities" = some p.capabilities ∧
    p.members.reverse.lookup "clientInfo" = p.clientInfo.map ProgramInfo.toJson ∧
    p.members.reverse.lookup "initializationOptions" = p.options := by
  obtain ⟨process, root, capabilities, info, options⟩ := p
  cases info <;> cases options <;> exact ⟨rfl, rfl, rfl, rfl, rfl⟩

theorem decode_written (p : InitializeParams) (h : ∀ v ∈ p.values, v.sorted = v) :
    decode p.toJson.sorted = .ok p.withoutNulls := by
  obtain ⟨hprocess, hroot, hcapabilities, hinfo, hoptions⟩ := p.lookup_members
  obtain ⟨hvalue, hrest⟩ := List.forall_mem_cons.1 h
  refine @Reads.decode_sorted _ p.members _ _
    (((((Reads.map ?_ InitializeParams.mk).seq ?_).seq ?_).seq ?_).seq ?_) _
  · refine reads_written? ?_
    rw [hprocess]
    exact optional_ofOption uint32_written nofun p.processId
  · refine reads_written? ?_
    rw [hroot]
    exact optional_ofOption string_written nofun p.rootUri
  · exact reads_written hcapabilities (congrArg Except.ok hvalue)
  · refine reads_written? ?_
    rw [hinfo]
    exact optional_written (fun i => i.decode_written _) (fun i => i.toJson_ne_null) p.clientInfo
  · refine reads_written? ?_
    rw [hoptions, Message.sorted_of_mem hrest]
    exact Decode.optional_value p.options

theorem fits (p : InitializeParams) {depth : Nat} (h : ∀ v ∈ p.values, Fits (depth + 1) v) :
    Fits (depth + 2) p.toJson := by
  obtain ⟨hcapabilities, hoptions⟩ := List.forall_mem_cons.1 h
  rw [toJson, Fits, fitsMembers_append, fitsMembers_append]
  refine ⟨⟨⟨?_, ?_, hcapabilities, trivial⟩, ?_⟩, ?_⟩
  · cases p.processId with
    | none => exact Json.fits_null _
    | some n => exact Json.fits_uint32 n _
  · exact Json.fits_optional p.rootUri _
  · exact ProgramInfo.fits_member? p.clientInfo
  · exact Json.fits_member? hoptions

/-- What is read carries its values in order, and no options that are null. -/
theorem read_inOrder {j : Json} {p : InitializeParams} (hj : j.sorted = j) (h : decode j = .ok p) :
    (∀ v ∈ p.values, v.sorted = v) ∧ p.withoutNulls = p := by
  obtain ⟨source, hread, hsource⟩ := source_of_decode h hj
  obtain ⟨_, options, hfour, hoptions, rfl⟩ := read_seq.1 hread
  obtain ⟨_, info, hthree, -, rfl⟩ := read_seq.1 hfour
  obtain ⟨_, capabilities, htwo, hcapabilities, rfl⟩ := read_seq.1 hthree
  obtain ⟨_, root, hone, -, rfl⟩ := read_seq.1 htwo
  obtain ⟨process, -, rfl⟩ := read_map.1 hone
  obtain ⟨hcarried, hpresent⟩ := carried_of_read? hoptions
  refine ⟨List.forall_mem_cons.2 ⟨?_, fun v hv => hsource v (hcarried v hv)⟩, ?_⟩
  · rcases value_of_read hcapabilities with ⟨v, hv, hvalue⟩ | habsent
    · cases hvalue
      exact hsource _ hv
    · cases habsent
  · rw [withoutNulls, hpresent]

end InitializeParams

namespace InitializeResult

/-- The value that is carried as it is. -/
def values (r : InitializeResult) : List Json := [r.capabilities]

theorem decode_written (r : InitializeResult) (h : ∀ v ∈ r.values, v.sorted = v) :
    decode r.toJson.sorted = .ok r := by
  obtain ⟨capabilities, info⟩ := r
  refine ((Reads.map ?_ InitializeResult.mk).seq ?_).decode_sorted _
  · exact reads_writtenOr (v := capabilities) (by cases info <;> rfl)
      (congrArg Except.ok (h _ List.mem_cons_self))
  · refine reads_written? ?_
    have hinfo : ([("capabilities", capabilities)]
        ++ Json.member? "serverInfo" (info.map ProgramInfo.toJson)).reverse.lookup "serverInfo" =
          info.map ProgramInfo.toJson := by
      cases info <;> rfl
    rw [hinfo]
    exact optional_written (fun i => i.decode_written _) (fun i => i.toJson_ne_null) info

theorem fits (r : InitializeResult) {depth : Nat} (h : ∀ v ∈ r.values, Fits (depth + 1) v) :
    Fits (depth + 2) r.toJson := by
  rw [toJson, Fits, fitsMembers_append]
  exact ⟨⟨h _ List.mem_cons_self, trivial⟩, ProgramInfo.fits_member? r.serverInfo⟩

theorem read_inOrder {j : Json} {r : InitializeResult} (hj : j.sorted = j) (h : decode j = .ok r) :
    ∀ v ∈ r.values, v.sorted = v := by
  obtain ⟨source, hread, hsource⟩ := source_of_decode h hj
  obtain ⟨_, info, hone, -, rfl⟩ := read_seq.1 hread
  obtain ⟨capabilities, hcapabilities, rfl⟩ := read_map.1 hone
  refine List.forall_mem_singleton.2 ?_
  rcases value_of_read hcapabilities with ⟨v, hv, hvalue⟩ | habsent
  · cases hvalue
    exact hsource _ hv
  · cases habsent
    rfl

end InitializeResult

theorem MessageType.decode_written (t : MessageType) : decode t.toJson.sorted = .ok t := by
  cases t <;> rfl

theorem MessageType.fits (t : MessageType) (depth : Nat) : Fits depth t.toJson := by
  cases t <;> exact Json.fits_word (Nat.le_refl _) (by decide) depth

namespace LogMessageParams

theorem decode_written (p : LogMessageParams) : decode p.toJson.sorted = .ok p := by
  refine ((Reads.map ?_ LogMessageParams.mk).seq ?_).decode_sorted _
  · exact reads_written rfl p.type.decode_written
  · exact reads_written (v := .str p.message) rfl rfl

theorem fits (p : LogMessageParams) (depth : Nat) : Fits (depth + 1) p.toJson := by
  rw [toJson, Fits]
  exact ⟨p.type.fits _, Json.fits_str _ _, trivial⟩

end LogMessageParams

/-! ## Settings -/

theorem TransportMode.decode_written (m : TransportMode) : decode m.toJson.sorted = .ok m :=
  decodeName_eq_ok.2 rfl

theorem Decode.optional_string_written (s : Option String) :
    optional string (Json.ofOption (s.map .str)).sorted = .ok s := by
  cases s <;> rfl

namespace ServerSettings

theorem decode_written (s : ServerSettings) :
    decode TransportMode.decode s.toJson.sorted = .ok s := by
  refine (((((Reads.map ?_ ServerSettings.mk).seq ?_).seq ?_).seq ?_).seq ?_).decode_sorted _
  · exact reads_writtenOr (v := .bool s.enabled) rfl rfl
  · exact reads_writtenOr rfl s.mode.decode_written
  · exact reads_writtenOr (v := .str s.host) rfl rfl
  · exact reads_writtenOr rfl (uint16_written s.port)
  · exact reads_writtenOr rfl (optional_string_written s.path)

theorem fits (s : ServerSettings) (depth : Nat) : Fits (depth + 1) s.toJson := by
  rw [toJson, Fits]
  exact ⟨Json.fits_bool _ _, Json.fits_str _ _, Json.fits_str _ _,
    Json.fits_word (Nat.le_of_lt_succ s.port.toNat_lt) (by decide) _, Json.fits_optional _ _, trivial⟩

end ServerSettings

namespace JavaSettings

theorem decode_written (s : JavaSettings) : decode s.toJson.sorted = .ok s :=
  (Reads.map (reads_writtenOr rfl (optional_string_written s.home)) JavaSettings.mk).decode_sorted _

theorem fits (s : JavaSettings) (depth : Nat) : Fits (depth + 1) s.toJson := by
  rw [toJson, Fits]
  exact ⟨Json.fits_optional _ _, trivial⟩

end JavaSettings

namespace TimeoutSettings

theorem decode_written (s : TimeoutSettings) : decode s.toJson.sorted = .ok s := by
  refine ((((Reads.map ?_ TimeoutSettings.mk).seq ?_).seq ?_).seq ?_).decode_sorted _
  · exact reads_writtenOr rfl (uint64_written s.connectSecs)
  · exact reads_writtenOr rfl (uint64_written s.acceptSecs)
  · exact reads_writtenOr rfl (uint64_written s.initializeSecs)
  · exact reads_writtenOr rfl (uint64_written s.shutdownSecs)

theorem fits (s : TimeoutSettings) (depth : Nat) : Fits (depth + 1) s.toJson := by
  rw [toJson, Fits]
  exact ⟨Json.fits_uint64 _ _, Json.fits_uint64 _ _, Json.fits_uint64 _ _, Json.fits_uint64 _ _,
    trivial⟩

end TimeoutSettings

namespace ClientConfig

theorem decode_written (c : ClientConfig) : decode c.toJson.sorted = .ok c := by
  refine (((Reads.map ?_ ClientConfig.mk).seq ?_).seq ?_).decode_sorted _
  · exact reads_writtenOr rfl c.lsp.decode_written
  · exact reads_writtenOr rfl c.java.decode_written
  · exact reads_writtenOr rfl c.timeouts.decode_written

theorem fits (c : ClientConfig) (depth : Nat) : Fits (depth + 2) c.toJson := by
  rw [toJson, Fits]
  exact ⟨c.lsp.fits depth, c.java.fits depth, c.timeouts.fits depth, trivial⟩

end ClientConfig

/-! ## All records -/

/-- **Records that travel are read as they were written.**  For every record the way it is written and
the way it is read fit together: what was written is read as it was, apart from options that are null
and come back as absent, and what was read in whatever form — from a list, from an object with other
keys, with fields left out — is written and read again as the same record.  An answer is read under
either name of its text whatever other keys there are, and refused where its text has both names. -/
theorem records_are_read_as_written :
    (IsCodec Position.toJson Position.decode (fun _ => []) id ∧
      IsCodec Range.toJson Range.decode (fun _ => []) id ∧
      IsCodec Symbol.toJson Symbol.decode (fun _ => []) id ∧
      IsCodec HighlightResult.toJson HighlightResult.decode (fun _ => []) id ∧
      IsCodec ComputeTermParams.toJson ComputeTermParams.decode (fun _ => []) id ∧
      IsCodec ComputeTermResult.toJson ComputeTermResult.decode (fun _ => []) id ∧
      IsCodec InitializeParams.toJson InitializeParams.decode InitializeParams.values
        InitializeParams.withoutNulls ∧
      IsCodec InitializeResult.toJson InitializeResult.decode InitializeResult.values id ∧
      IsCodec LogMessageParams.toJson LogMessageParams.decode (fun _ => []) id ∧
      IsCodec ClientConfig.toJson ClientConfig.decode (fun _ => []) id) ∧
    (∀ (r : ComputeTermResult) (members : List (String × Json)),
      ∀ name ∈ ComputeTermResult.textNames,
        members.reverse.lookup "uri" = some (.str r.uri) →
        members.reverse.lookup name = some (.str r.computed) →
        (∀ other ∈ ComputeTermResult.textNames, other ≠ name →
          members.reverse.lookup other = none) →
        members.reverse.lookup "range" = some r.range.toJson →
        ComputeTermResult.decode (Json.obj members).sorted = .ok r) ∧
    ∀ members : List (String × Json),
      (∀ name ∈ ComputeTermResult.textNames, Json.HasKey name (.obj members)) →
        ∃ fault, ComputeTermResult.decode (.obj members) = .error fault := by
  refine ⟨⟨?_, ?_, ?_, ?_, ?_, ?_, ?_, ?_, ?_, ?_⟩, ?_, ?_⟩
  · exact isCodec_plain Position.decode_written fun p => p.fits _
  · exact isCodec_plain Range.decode_written fun r => r.fits _
  · exact isCodec_plain Symbol.decode_written fun s => s.fits _
  · exact isCodec_plain HighlightResult.decode_written fun h => h.fits _
  · exact isCodec_plain ComputeTermParams.decode_written fun p => p.fits _
  · exact isCodec_plain ComputeTermResult.decode_written fun r => r.fits _
  · exact isCodec_of InitializeParams.decode_written (fun p => p.fits)
      fun _ _ => InitializeParams.read_inOrder
  · exact isCodec_of InitializeResult.decode_written (fun r => r.fits)
      fun _ _ hj h => ⟨InitializeResult.read_inOrder hj h, rfl⟩
  · exact isCodec_plain LogMessageParams.decode_written fun p => p.fits _
  · exact isCodec_plain ClientConfig.decode_written fun c => c.fits _
  · exact fun r members name hname huri htext honly hrange =>
      ComputeTermResult.decode_of_lookup hname huri htext honly hrange
  · exact fun members => ComputeTermResult.both_names_are_refused

/-- The members of an answer of an earlier server, one of them under a key that no field has. -/
def earlierAnswer : List (String × Json) :=
  [("computedType", .str "Nat"), ("kind", .int 1), ("range", (Range.mk ⟨1, 2⟩ ⟨1, 4⟩).toJson),
    ("uri", .str "file:///a.aya")]

/-- A highlight set as a list that ends before its symbols. -/
def emptyHighlights : Json := .arr [.str "file:///a.aya"]

/-- The first words of a client whose options are null. -/
def plainGreeting : InitializeParams :=
  { processId := some 7, rootUri := none, capabilities := .empty, clientInfo := none,
    options := some .null }

theorem records_of_other_forms_settle :
    (∃ r, ComputeTermResult.decode (Json.obj earlierAnswer).sorted = .ok r ∧ r.computed = "Nat" ∧
      ComputeTermResult.decode r.toJson.sorted = .ok r) ∧
    (∃ fault, ComputeTermResult.decode (.obj (("computed", .str "Nat") :: earlierAnswer)) =
      .error fault) ∧
    (∃ h, HighlightResult.decode emptyHighlights = .ok h ∧ h.symbols = [] ∧
      HighlightResult.decode h.toJson.sorted = .ok h) ∧
    InitializeParams.decode plainGreeting.toJson.sorted =
      .ok { plainGreeting with options := none } := by
  obtain ⟨⟨-, -, -, hset, -, hanswer, hgreeting, -⟩, hname, hboth⟩ := records_are_read_as_written
  have honly : ∀ other ∈ ComputeTermResult.textNames, other ≠ "computedType" →
      earlierAnswer.reverse.lookup other = none := by decide
  have hearlier := hname ⟨"file:///a.aya", "Nat", ⟨⟨1, 2⟩, ⟨1, 4⟩⟩⟩ earlierAnswer "computedType"
    (by decide) rfl rfl honly rfl
  refine ⟨⟨_, hearlier, rfl, ?_⟩, hboth _ ?_, ⟨⟨"file:///a.aya", []⟩, rfl, rfl, ?_⟩, ?_⟩
  · exact hanswer.settles _ _ (Json.sorted_sorted _) hearlier
  · refine List.forall_mem_cons.2 ⟨?_, List.forall_mem_singleton.2 ?_⟩
    · exact ⟨_, _, rfl, List.mem_cons_self⟩
    · exact ⟨_, _, rfl, List.mem_cons_of_mem _ List.mem_cons_self⟩
  · exact hset.settles emptyHighlights _ rfl rfl
  · refine hgreeting.written plainGreeting fun v hv => ?_
    rcases List.mem_cons.1 hv with rfl | hv
    · rfl
    · rw [List.mem_singleton.1 hv]
      rfl

end LanguageClient
