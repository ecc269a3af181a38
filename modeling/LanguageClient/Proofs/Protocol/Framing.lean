import LanguageClient.Protocol.Frame
import LanguageClient.Proofs.Data.Outcome
import LanguageClient.Proofs.Protocol.Chunks
import LanguageClient.Proofs.Text.Blank
import LanguageClient.Proofs.Text.Decimal
import LanguageClient.Proofs.Text.Utf8

/-!
# Frames that are written are read

A stream is a row of frames, cut into pieces anywhere.  Every read takes exactly one frame off it,
whatever its body is, and the read behind the last frame finds the stream closed.

* `Wire` is a frame as it lies on the stream: the line with the length of the body, other lines
  around it, the blank line and the body.
* `readHeader_line` says what one line of a header does, `readHeader_extras` that the other lines do
  nothing, and `Wire.readMessage_eq` what a read makes of a frame with anything behind it.
* `Wire.readMessage_blocked` — a read that finds only a part of the frame takes nothing and waits.
* `Stream.read` asks for pieces until it has a result, and `Stream.read_frame` is its step over one
  frame.
* **`framed_stream_round_trip`** — what the reads of a whole stream come to.
-/

namespace LanguageClient.Frame

open Chunks (lineFeed)

/-! ## Frames on a stream -/

/-- The bytes of a line, with its line feed. -/
def lineBytes (line : String) : List UInt8 := Utf8.ofString line ++ [lineFeed]

/-- The line that gives the length of the body. -/
def lengthLine (n : Nat) : String := "Content-Length: " ++ toString n ++ "\r"

def blankLine : String := "\r"

/-- A line that says nothing to the reader: it neither ends the header nor gives a length. -/
structure IsExtra (line : String) : Prop where
  oneLine : '\n' ∉ line.toList
  notBlank : Text.trim line.toList ≠ []
  noLength : ¬ lengthHeader <+: Text.trim line.toList

/-- A frame as it lies on the stream. -/
structure Wire where
  /-- The lines in front of the one with the length. -/
  before : List String := []
  /-- The lines behind it. -/
  after : List String := []
  body : List UInt8

namespace Wire

def lines (w : Wire) : List String := w.before ++ lengthLine w.body.length :: w.after

def header (w : Wire) : List UInt8 := w.lines.flatMap lineBytes ++ lineBytes blankLine

def bytes (w : Wire) : List UInt8 := w.header ++ w.body

/-- A frame that the reader accepts, whatever its body says. -/
structure IsProper (w : Wire) : Prop where
  before : ∀ line ∈ w.before, IsExtra line
  after : ∀ line ∈ w.after, IsExtra line
  bounded : w.body.length ≤ maxBytes

end Wire

theorem ofString_breaks :
    Utf8.ofString "\r\n\r\n" = Utf8.ofString "\r" ++ [lineFeed] ++ lineBytes blankLine := by
  decide

/-- The header that is written is the line with the length and the blank line. -/
theorem ofString_header (text : String) :
    Utf8.ofString (header text) = lineBytes (lengthLine text.utf8ByteSize) ++ lineBytes blankLine := by
  have hheader : header text = "Content-Length: " ++ toString text.utf8ByteSize ++ "\r\n\r\n" := by
    delta header
    exact Eq.refl _
  delta lineBytes lengthLine
  simp only [hheader, Utf8.ofString_append, ofString_breaks, lineBytes, List.append_assoc]

/-- What is written for a text is the frame of its bytes with no other line. -/
theorem ofString_encode (text : String) :
    Utf8.ofString (encode text) = Wire.bytes { body := Utf8.ofString text } := by
  have hlines : Wire.lines { body := Utf8.ofString text } = [lengthLine text.utf8ByteSize] := by
    rw [← Utf8.length_ofString]
    rfl
  rw [Wire.bytes, Wire.header, hlines, List.flatMap_singleton, ← ofString_header, encode,
    Utf8.ofString_append]

/-! ## What a line says -/

/-- The line feed counts for nothing. -/
theorem headerLine_lineBytes (line : String) :
    headerLine (lineBytes line) = headerLine (Utf8.ofString line) := by
  have hfeed : lineBytes line = Utf8.ofString (line ++ "\n") := by
    rw [Utf8.ofString_append]
    rfl
  have htrim : Text.trim (line ++ "\n").toList = Text.trim line.toList := by
    rw [String.toList_append]
    exact Text.trim_concat_blank (by decide) _
  rw [hfeed, headerLine, headerLine, Utf8.decode_ofString, Utf8.decode_ofString]
  simp only [htrim]

theorem isPrefixOf?_append (xs ys : List Char) : xs.isPrefixOf? (xs ++ ys) = some ys := by
  induction xs with
  | nil => cases ys <;> rfl
  | cons x xs ih =>
    show (if x == x then xs.isPrefixOf? (xs ++ ys) else none) = some ys
    rw [if_pos (beq_self_eq_true x), ih]

theorem isPrefixOf?_eq_none {xs ys : List Char} (h : ¬ xs <+: ys) : xs.isPrefixOf? ys = none := by
  induction xs generalizing ys with
  | nil => exact absurd List.nil_prefix h
  | cons x xs ih =>
    cases ys with
    | nil => rfl
    | cons y ys =>
      show (if x == y then xs.isPrefixOf? ys else none) = none
      split
      next he =>
        rw [List.cons_prefix_cons, not_and] at h
        exact ih (h (by simpa using he))
      next => rfl

theorem IsExtra.headerLine {line : String} (h : IsExtra line) :
    headerLine (Utf8.ofString line) = .ok .other := by
  have hblank : ¬ (Text.trim line.toList).isEmpty = true := by
    rw [List.isEmpty_iff]
    exact h.notBlank
  simp only [Frame.headerLine, Utf8.decode_ofString, if_neg hblank, isPrefixOf?_eq_none h.noLength]

theorem headerLine_blankLine : headerLine (Utf8.ofString blankLine) = .ok .blank := by
  have hblank : (Text.trim blankLine.toList).isEmpty = true := by decide
  simp only [headerLine, Utf8.decode_ofString, if_pos hblank]

theorem toList_lengthLine (n : Nat) :
    (lengthLine n).toList = lengthHeader ++ ' ' :: (Nat.toDigits 10 n ++ ['\r']) := by
  have hname : "Content-Length: ".toList = lengthHeader ++ [' '] := by decide
  have hreturn : "\r".toList = ['\r'] := by decide
  delta lengthLine
  rw [String.toList_append, String.toList_append, hname, hreturn, Nat.toString_eq_ofList_toDigits,
    String.toList_ofList]
  simp only [List.append_assoc, List.cons_append, List.nil_append]

/-- **The line with a length says that length.** -/
theorem headerLine_lengthLine {n : Nat} (h : n ≤ maxLength) :
    headerLine (Utf8.ofString (lengthLine n)) = .ok (.length n) := by
  have digits (c : Char) (hc : c ∈ Nat.toDigits 10 n) : Text.isBlank c = false :=
    Text.isBlank_of_isDigit (Nat.isDigit_of_mem_toDigits (by omega) (by omega) hc)
  obtain ⟨ds, d, hds⟩ : ∃ ds d, Nat.toDigits 10 n = ds ++ [d] :=
    ⟨_, _, (List.dropLast_concat_getLast Nat.toDigits_ne_nil).symm⟩
  have hd : Text.isBlank d = false := digits d (by simp [hds])
  have hvalue : Text.trim (' ' :: Nat.toDigits 10 n) = Nat.toDigits 10 n := by
    rw [Text.trim_cons_blank (by decide)]
    cases hn : Nat.toDigits 10 n with
    | nil => exact absurd hn Nat.toDigits_ne_nil
    | cons c cs =>
      exact Text.trim_of_not_blank (digits c (by simp [hn])) hd (hn.symm.trans hds)
  obtain ⟨cs, hname⟩ : ∃ cs, lengthHeader = 'C' :: cs := ⟨"ontent-Length:".toList, by decide⟩
  have htrim : Text.trim (lengthLine n).toList = lengthHeader ++ ' ' :: Nat.toDigits 10 n := by
    rw [toList_lengthLine, ← List.cons_append, ← List.append_assoc,
      Text.trim_concat_blank (by decide), hname, hds]
    have hends : 'C' :: cs ++ ' ' :: (ds ++ [d]) = 'C' :: cs ++ ' ' :: ds ++ [d] := by simp
    exact Text.trim_of_not_blank (by decide) hd hends
  have hblank : ¬ (lengthHeader ++ ' ' :: Nat.toDigits 10 n).isEmpty = true := by simp [hname]
  simp only [headerLine, Utf8.decode_ofString, htrim, if_neg hblank, isPrefixOf?_append, hvalue,
    Text.readNat_toDigits h]

/-! ## Reading a header -/

theorem flatten_lineBytes {cs : Chunks} {line : String} {rest : List UInt8}
    (e : cs.flatten = lineBytes line ++ rest) :
    cs.flatten = Utf8.ofString line ++ lineFeed :: rest := by
  rw [e, lineBytes, List.append_assoc, List.singleton_append]

/-- How reading a header goes on behind a line that says this. -/
def readOn (ended : Bool) (length : Option Nat) (cs : Chunks) : HeaderLine → ReadResult Nat
  | .blank =>
    match length with
    | none => .failed missingLength
    | some n => .done n cs
  | .length n => readHeader ended (some n) cs
  | .other => readHeader ended length cs

/-- **One line of a header.**  It is found across any borders, and only what it says counts. -/
theorem readHeader_line (length : Option Nat) {cs : Chunks} {line : String} {sense : HeaderLine}
    {rest : List UInt8} (ended : Bool) (hline : '\n' ∉ line.toList)
    (hsense : headerLine (Utf8.ofString line) = .ok sense) (e : cs.flatten = lineBytes line ++ rest) :
    ∃ cs', cs'.flatten = rest ∧ readHeader ended length cs = readOn ended length cs' sense := by
  obtain ⟨cs', htake, hrest⟩ :=
    Chunks.takeLine?_eq_some (Utf8.not_mem_ofString hline) (flatten_lineBytes e)
  refine ⟨cs', hrest, ?_⟩
  rw [readHeader.eq_def]
  split
  next line' cs'' htake' =>
    rw [htake] at htake'
    simp only [Option.some.injEq, Prod.mk.injEq] at htake'
    obtain ⟨rfl, rfl⟩ := htake'
    rw [← lineBytes, headerLine_lineBytes, hsense]
    cases sense <;> rfl
  next hnone => rw [htake] at hnone; cases hnone

theorem readHeader_blocked {length : Option Nat} {cs : Chunks} (h : lineFeed ∉ cs.flatten) :
    readHeader false length cs = .blocked := by
  have htake := Chunks.takeLine?_eq_none h
  rw [readHeader.eq_def]
  split
  next hsome => rw [htake] at hsome; cases hsome
  next => rfl

/-- Nobody waits for a stream that has ended. -/
theorem readHeader_of_ended (length : Option Nat) (cs : Chunks) :
    readHeader true length cs ≠ .blocked := by
  fun_induction readHeader true length cs <;> simp_all

theorem readMessage_of_ended (cs : Chunks) : readMessage true cs ≠ .blocked := by
  rw [readMessage, readFrame]
  cases h : readHeader true none cs with
  | blocked => exact absurd h (readHeader_of_ended none cs)
  | failed e => exact nofun
  | done n rest =>
    simp only
    split
    next hread =>
      split at hread
      next => cases hread
      next => split at hread <;> cases hread
    next => exact nofun
    next => exact nofun

/-- Lines that say nothing are passed over. -/
theorem readHeader_extras {length : Option Nat} {extras : List String} {cs : Chunks}
    {rest : List UInt8} (ended : Bool) (h : ∀ line ∈ extras, IsExtra line)
    (e : cs.flatten = extras.flatMap lineBytes ++ rest) :
    ∃ cs', cs'.flatten = rest ∧ readHeader ended length cs = readHeader ended length cs' := by
  induction extras generalizing cs with
  | nil => exact ⟨cs, e, rfl⟩
  | cons line extras ih =>
    have hline := h line List.mem_cons_self
    rw [List.flatMap_cons, List.append_assoc] at e
    obtain ⟨cs₁, hflat, hread⟩ := readHeader_line length ended hline.oneLine hline.headerLine e
    obtain ⟨cs', hrest, hskip⟩ := ih (fun l hl => h l (List.mem_cons_of_mem _ hl)) hflat
    exact ⟨cs', hrest, hread.trans hskip⟩

theorem oneLine_lengthLine (n : Nat) : '\n' ∉ (lengthLine n).toList := by
  have hname : '\n' ∉ lengthHeader := by decide
  intro h
  rw [toList_lengthLine] at h
  simp only [List.mem_append, List.mem_cons, List.not_mem_nil, or_false] at h
  rcases h with h | h | h | h
  · exact hname h
  · exact absurd h (by decide)
  · exact absurd (Nat.isDigit_of_mem_toDigits (by omega) (by omega) h) (by decide)
  · exact absurd h (by decide)

theorem oneLine_blankLine : '\n' ∉ blankLine.toList := by decide

namespace Wire

variable {w : Wire} {cs : Chunks} {rest : List UInt8}

theorem IsProper.length_le (h : w.IsProper) : w.body.length ≤ maxLength :=
  Nat.le_trans h.bounded (by decide)

/-- The header of a frame gives the length of its body. -/
theorem readHeader_eq (ended : Bool) (h : w.IsProper) (e : cs.flatten = w.header ++ rest) :
    ∃ cs', cs'.flatten = rest ∧ readHeader ended none cs = .done w.body.length cs' := by
  simp only [header, lines, List.flatMap_append, List.flatMap_cons, List.append_assoc] at e
  obtain ⟨cs₁, h₁, hbefore⟩ := readHeader_extras ended h.before e
  obtain ⟨cs₂, h₂, hlength⟩ :=
    readHeader_line none ended (oneLine_lengthLine _) (headerLine_lengthLine h.length_le) h₁
  obtain ⟨cs₃, h₃, hafter⟩ := readHeader_extras ended h.after h₂
  obtain ⟨cs', hrest, hblank⟩ := readHeader_line (some _) ended oneLine_blankLine headerLine_blankLine h₃
  exact ⟨cs', hrest, hbefore.trans (hlength.trans (hafter.trans hblank))⟩

/-- **A read takes one frame**, whatever is behind it and whatever its body is. -/
theorem readMessage_eq (ended : Bool) (h : w.IsProper) (e : cs.flatten = w.bytes ++ rest) :
    ∃ cs', cs'.flatten = rest ∧
      readMessage ended cs = .done (messageOf (Utf8.decode w.body)) cs' := by
  rw [bytes, List.append_assoc] at e
  obtain ⟨cs₁, hbody, hheader⟩ := readHeader_eq ended h e
  obtain ⟨cs', htake, hrest⟩ := Chunks.takeExact?_eq_some hbody
  refine ⟨cs', hrest, ?_⟩
  rw [readMessage, readFrame, hheader]
  simp only [if_neg (Nat.not_lt.2 h.bounded), htake]

end Wire

/-! ## Reading too early

A read that is tried before the whole frame has come stops at the place where its bytes end, be it
within a line, between two lines or within the body, and takes nothing.
-/

/-- What has come of a frame and what is behind it is either the whole frame or a part of it. -/
theorem whole_or_part {xs ys frame rest : List UInt8} (e : xs ++ ys = frame ++ rest) :
    (∃ more, xs = frame ++ more ∧ more ++ ys = rest) ∨
      ∃ missing, missing ≠ [] ∧ xs ++ missing = frame ∧ ys = missing ++ rest := by
  rcases List.append_eq_append_iff.1 e with ⟨missing, hframe, hys⟩ | ⟨more, hxs, hrest⟩
  · cases missing with
    | nil => exact .inl ⟨[], by simpa using hframe.symm, by simpa using hys⟩
    | cons b missing => exact .inr ⟨b :: missing, by simp, hframe.symm, hys⟩
  · exact .inl ⟨more, hxs, hrest.symm⟩

theorem not_mem_part {line : String} {xs missing : List UInt8} (hline : '\n' ∉ line.toList)
    (hm : missing ≠ []) (e : xs ++ missing = lineBytes line) : lineFeed ∉ xs := by
  rw [← List.dropLast_concat_getLast hm, ← List.append_assoc, lineBytes] at e
  have hxs : xs ++ missing.dropLast = Utf8.ofString line := (List.append_inj' e rfl).1
  intro hmem
  exact Utf8.not_mem_ofString hline (hxs ▸ List.mem_append_left _ hmem)

/-- A line behind which the header goes on. -/
def GoesOn (line : String) : Prop :=
  headerLine (Utf8.ofString line) = .ok .other ∨
    ∃ n, headerLine (Utf8.ofString line) = .ok (.length n)

theorem readHeader_part {length : Option Nat} {lines : List String} {cs : Chunks}
    {missing : List UInt8} (h : ∀ line ∈ lines, '\n' ∉ line.toList ∧ GoesOn line)
    (hm : missing ≠ []) (e : cs.flatten ++ missing = lines.flatMap lineBytes ++ lineBytes blankLine) :
    readHeader false length cs = .blocked := by
  induction lines generalizing cs length with
  | nil => exact readHeader_blocked (not_mem_part oneLine_blankLine hm e)
  | cons line lines ih =>
    obtain ⟨hline, hgoes⟩ := h line List.mem_cons_self
    rw [List.flatMap_cons, List.append_assoc] at e
    rcases whole_or_part e with ⟨more, hcs, hmore⟩ | ⟨missing', hm', hpart, _⟩
    · have hlines : ∀ l ∈ lines, '\n' ∉ l.toList ∧ GoesOn l :=
        fun l hl => h l (List.mem_cons_of_mem _ hl)
      rcases hgoes with hother | ⟨n, hlength⟩
      · obtain ⟨cs', hflat, hread⟩ := readHeader_line length false hline hother hcs
        exact hread.trans (ih hlines (hflat ▸ hmore))
      · obtain ⟨cs', hflat, hread⟩ := readHeader_line length false hline hlength hcs
        exact hread.trans (ih hlines (hflat ▸ hmore))
    · exact readHeader_blocked (not_mem_part hline hm' hpart)

namespace Wire

variable {w : Wire}

theorem IsProper.lines (h : w.IsProper) : ∀ line ∈ w.lines, '\n' ∉ line.toList ∧ GoesOn line := by
  have extra {line : String} (hx : IsExtra line) : '\n' ∉ line.toList ∧ GoesOn line :=
    ⟨hx.oneLine, .inl hx.headerLine⟩
  intro line hline
  rcases List.mem_append.1 hline with hbefore | hline
  · exact extra (h.before line hbefore)
  rcases List.mem_cons.1 hline with rfl | hafter
  · exact ⟨oneLine_lengthLine _, .inr ⟨_, headerLine_lengthLine h.length_le⟩⟩
  · exact extra (h.after line hafter)

/-- **A read that finds a part of a frame waits**, and nothing has been taken. -/
theorem readMessage_blocked {cs : Chunks} {missing : List UInt8} (h : w.IsProper) (hm : missing ≠ [])
    (e : cs.flatten ++ missing = w.bytes) : readMessage false cs = .blocked := by
  rw [bytes] at e
  rcases whole_or_part e with ⟨body, hheader, hbody⟩ | ⟨missing', hm', hpart, _⟩
  · obtain ⟨cs', hflat, hread⟩ := readHeader_eq false h hheader
    have hshort : cs'.flatten.length < w.body.length := by
      have := List.length_pos_iff.2 hm
      rw [hflat, ← hbody, List.length_append]
      omega
    rw [readMessage, readFrame, hread]
    simp only [if_neg (Nat.not_lt.2 h.bounded), Chunks.takeExact?_eq_none hshort, Bool.false_eq_true,
      if_false]
  · rw [readMessage, readFrame, readHeader_part h.lines hm' hpart]

end Wire

/-! ## Reading a stream -/

/-- A stream that somebody reads from: what has been received and not yet been read, and the pieces
that are still to come, behind which it ends. -/
structure Stream where
  received : Chunks := []
  coming : Chunks

/-- Reads with what has been received, and with one more piece as long as that is not enough. -/
def readFrom (received : Chunks) : (coming : Chunks) → ReadResult (Except BodyError Message) × Chunks
  | [] => (readMessage true received, [])
  | c :: coming =>
    match readMessage false received with
    | .blocked => readFrom (received ++ [c]) coming
    | result => (result, c :: coming)

namespace Stream

/-- The bytes that are still to be read. -/
def bytes (s : Stream) : List UInt8 := s.received.flatten ++ s.coming.flatten

/-- One read: what it comes to, and the pieces that it has not asked for. -/
def read (s : Stream) : ReadResult (Except BodyError Message) × Chunks :=
  readFrom s.received s.coming

/-- What a read reports, unless it waits for ever. -/
def result? (s : Stream) : Option (Except IoError Message) :=
  match s.read.1 with
  | .done message _ => some (message.mapError BodyError.toIoError)
  | .blocked => none
  | .failed e => some (.error e)

/-- The stream after a number of reads, each of which has taken a frame. -/
def after? : Nat → Stream → Option Stream
  | 0, s => some s
  | k + 1, s =>
    match s.read with
    | (.done _ received, coming) => after? k { received, coming }
    | _ => none

end Stream

/-- **A read takes one frame**, however much of it has been received and wherever it is cut. -/
theorem readFrom_frame {w : Wire} (h : w.IsProper) {received coming : Chunks} {rest : List UInt8}
    (e : received.flatten ++ coming.flatten = w.bytes ++ rest) :
    ∃ received' coming', received'.flatten ++ coming'.flatten = rest ∧
      readFrom received coming = (.done (messageOf (Utf8.decode w.body)) received', coming') := by
  induction coming generalizing received with
  | nil =>
    rw [List.flatten_nil, List.append_nil] at e
    obtain ⟨cs', hrest, hread⟩ := w.readMessage_eq true h e
    exact ⟨cs', [], by simpa using hrest, by rw [readFrom, hread]⟩
  | cons c coming ih =>
    rcases whole_or_part e with ⟨more, hreceived, hrest⟩ | ⟨missing, hm, hpart, _⟩
    · obtain ⟨cs', hmore, hread⟩ := w.readMessage_eq false h hreceived
      exact ⟨cs', c :: coming, hmore ▸ hrest, by rw [readFrom, hread]⟩
    · -- One more piece, and the same question again.
      have e' : (received ++ [c]).flatten ++ coming.flatten = w.bytes ++ rest := by
        rw [← e, List.flatten_append, List.flatten_singleton, List.flatten_cons, List.append_assoc]
      obtain ⟨received', coming', hrest, hread⟩ := ih e'
      exact ⟨received', coming', hrest, by rw [readFrom, w.readMessage_blocked h hm hpart, hread]⟩

theorem readFrom_end {received coming : Chunks} (e : received.flatten ++ coming.flatten = []) :
    readFrom received coming = (.failed closed, []) := by
  induction coming generalizing received with
  | nil =>
    have hempty : received.flatten = [] := by simpa using e
    have htake : received.takeLine? = none := Chunks.takeLine?_eq_none (by simp [hempty])
    have hheader : readHeader true none received = .failed closed := by
      rw [readHeader.eq_def]
      split
      next hsome => rw [htake] at hsome; cases hsome
      next => simp only [hempty, List.isEmpty_nil, if_true]
    rw [readFrom, readMessage, readFrame, hheader]
  | cons c coming ih =>
    have hempty : received.flatten = [] := (List.append_eq_nil_iff.1 e).1
    have hblocked : readMessage false received = .blocked := by
      rw [readMessage, readFrame, readHeader_blocked (by simp [hempty])]
    have e' : (received ++ [c]).flatten ++ coming.flatten = [] := by
      rw [← e, List.flatten_append, List.flatten_singleton, List.flatten_cons, List.append_assoc]
    rw [readFrom, hblocked]
    exact ih e'

namespace Stream

theorem after?_succ_of_read {s : Stream} {message : Except BodyError Message}
    {received coming : Chunks} (h : s.read = (.done message received, coming)) (k : Nat) :
    s.after? (k + 1) = after? k { received, coming } := by
  rw [after?, h]

/-- **Every read takes its own frame.**  In front of each the stream stands where the frame begins,
and behind the last one nothing is left. -/
theorem after?_frames {ws : List Wire} (hws : ∀ w ∈ ws, w.IsProper) {s : Stream}
    (hs : s.bytes = ws.flatMap Wire.bytes) {k : Nat} (hk : k ≤ ws.length) :
    ∃ unread, s.after? k = some unread ∧ unread.bytes = (ws.drop k).flatMap Wire.bytes := by
  induction k generalizing ws s with
  | zero => exact ⟨s, rfl, hs⟩
  | succ k ih =>
    cases ws with
    | nil => exact absurd hk (Nat.not_succ_le_zero k)
    | cons w ws =>
      obtain ⟨received, coming, hrest, hread⟩ := readFrom_frame (hws w List.mem_cons_self) hs
      rw [after?_succ_of_read hread]
      exact ih (fun w' hw' => hws w' (List.mem_cons_of_mem _ hw')) hrest (Nat.le_of_succ_le_succ hk)

end Stream

/-- The message that a body holds, if its bytes are a text and the text is a message. -/
def Holds (body : List UInt8) (message : Message) : Prop :=
  ∃ text, body = Utf8.ofString text ∧ Message.parse text = .ok message

theorem messageOf_decode_eq_ok {body : List UInt8} {message : Message} :
    messageOf (Utf8.decode body) = .ok message ↔ Holds body message := by
  constructor
  · intro h
    cases hd : Utf8.decode body with
    | error flaw => rw [hd] at h; cases h
    | ok text =>
      refine ⟨text, Utf8.decode_eq_ok.1 hd, ?_⟩
      rw [hd, messageOf] at h
      cases hp : Message.parse text with
      | error e => rw [hp] at h; cases h
      | ok m => rw [hp] at h; cases h; rfl
  · rintro ⟨text, rfl, hp⟩
    rw [Utf8.decode_ofString, messageOf, hp]
    rfl

/-- A body that holds no message is invalid data. -/
theorem BodyError.toIoError_eq (e : BodyError) :
    ∃ text, e.toIoError = .raised .invalidData text := by
  cases e with
  | notText flaw => exact ⟨_, rfl⟩
  | notMessage error => exact ⟨_, rfl⟩

/-- **What the reads of a stream of frames come to.**  What is written for a text is such a frame.
Whatever the bodies are and wherever the stream is cut, the read in front of a frame takes just the
bytes of that frame; it reports the message that the body holds, and invalid data exactly if it
holds none.  The read behind the last frame finds the stream closed. -/
theorem framed_stream_round_trip (ws : List Wire) (hws : ∀ w ∈ ws, w.IsProper) (s : Stream)
    (hs : s.bytes = ws.flatMap Wire.bytes) :
    (∀ text, Utf8.ofString (encode text) = Wire.bytes { body := Utf8.ofString text }) ∧
    (∀ k (hk : k < ws.length), ∃ unread rest,
      s.after? k = some unread ∧ unread.bytes = (ws.drop k).flatMap Wire.bytes ∧
      s.after? (k + 1) = some rest ∧ rest.bytes = (ws.drop (k + 1)).flatMap Wire.bytes ∧
      (∀ message, unread.result? = some (.ok message) ↔ Holds ws[k].body message) ∧
      ((∃ text, unread.result? = some (.error (.raised .invalidData text))) ↔
        ¬ ∃ message, Holds ws[k].body message)) ∧
    ∃ unread text, s.after? ws.length = some unread ∧
      unread.result? = some (.error (.raised .unexpectedEnd text)) := by
  refine ⟨ofString_encode, fun k hk => ?_, ?_⟩
  · obtain ⟨unread, hafter, hbytes⟩ := Stream.after?_frames hws hs (Nat.le_of_lt hk)
    obtain ⟨rest, hnext, hrest⟩ := Stream.after?_frames hws hs (Nat.succ_le_of_lt hk)
    refine ⟨unread, rest, hafter, hbytes, hnext, hrest, ?_⟩
    rw [List.drop_eq_getElem_cons hk, List.flatMap_cons] at hbytes
    obtain ⟨received, coming, -, hread⟩ := readFrom_frame (hws _ (List.getElem_mem hk)) hbytes
    have hresult : unread.result? =
        some ((messageOf (Utf8.decode ws[k].body)).mapError BodyError.toIoError) := by
      rw [Stream.result?, Stream.read, hread]
    have holds (message : Message) :
        messageOf (Utf8.decode ws[k].body) = .ok message ↔ Holds ws[k].body message :=
      messageOf_decode_eq_ok
    rw [hresult]
    simp only [← holds]
    cases messageOf (Utf8.decode ws[k].body) with
    | ok message => simp
    | error e =>
      obtain ⟨text, htext⟩ := e.toIoError_eq
      simp [htext]
  · obtain ⟨unread, hafter, hbytes⟩ := Stream.after?_frames hws hs (Nat.le_refl _)
    rw [List.drop_length, List.flatMap_nil] at hbytes
    exact ⟨unread, _, hafter, by rw [Stream.result?, Stream.read, readFrom_end hbytes]; rfl⟩

/-- A notification, and behind another line in its header a body of one byte that is no text. -/
def sampleFrames : List Wire :=
  [{ body := Utf8.ofString "\x7b\"jsonrpc\":\"2.0\",\"method\":\"exit\"\x7d" },
    { before := ["Content-Type: text\r"], body := [0xFF] }]

/-- The same frames, byte by byte. -/
def sampleStream : Stream where
  coming := (sampleFrames.flatMap Wire.bytes).map fun b => [b]

theorem sampleFrames_proper : ∀ w ∈ sampleFrames, w.IsProper := by
  have htype : IsExtra "Content-Type: text\r" := ⟨by decide, by decide, by decide⟩
  simp only [sampleFrames, List.forall_mem_cons]
  refine ⟨⟨by simp, by simp, by decide⟩, ⟨?_, by simp, by decide⟩, by simp⟩
  simpa using htype

theorem bytes_sampleStream : sampleStream.bytes = sampleFrames.flatMap Wire.bytes := by
  rw [Stream.bytes, sampleStream, List.flatten_nil, List.nil_append]
  rw [← List.flatMap_def]
  exact List.flatMap_singleton' _

/-- The notification is read, the body that is no text is reported, and then the stream is over. -/
theorem sample_stream_round_trip :
    (∀ w ∈ sampleFrames, w.IsProper) ∧ sampleStream.bytes = sampleFrames.flatMap Wire.bytes ∧
    sampleStream.result? = some (.ok (.notification { method := "exit" })) ∧
    ∃ second last text text', sampleStream.after? 1 = some second ∧
      second.result? = some (.error (.raised .invalidData text)) ∧
      sampleStream.after? 2 = some last ∧
      last.result? = some (.error (.raised .unexpectedEnd text')) := by
  obtain ⟨-, reads, last, text', hlast, hclosed⟩ :=
    framed_stream_round_trip sampleFrames sampleFrames_proper sampleStream bytes_sampleStream
  obtain ⟨first, second, hfirst, -, hsecond, -, hmessage, -⟩ := reads 0 (by decide)
  obtain ⟨second', -, hsecond', -, -, -, -, hinvalid⟩ := reads 1 (by decide)
  obtain rfl : sampleStream = first := Option.some.inj hfirst
  obtain rfl : second = second' := Option.some.inj (hsecond.symm.trans hsecond')
  have hnone : ¬ ∃ message, Holds sampleFrames[1].body message := by
    rintro ⟨message, body, hbody, -⟩
    have hdecode := Utf8.decode_eq_ok.2 hbody
    have hflaw : Utf8.decode [0xFF] = .error ⟨0, some 1⟩ := by
      rw [Utf8.decode, Utf8.decodeFrom]
      rfl
    exact absurd (hflaw.symm.trans hdecode) (by simp)
  obtain ⟨text, htext⟩ := hinvalid.2 hnone
  exact ⟨sampleFrames_proper, bytes_sampleStream, (hmessage _).2 ⟨_, rfl, by rfl⟩, second, last, text,
    text', hsecond, htext, hlast, hclosed⟩

end LanguageClient.Frame
