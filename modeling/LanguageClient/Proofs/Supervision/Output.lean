import LanguageClient.Proofs.Supervision.Custody
import LanguageClient.Proofs.Text.Seam

/-!
# What the log has from a stream

A drain reads what there is and turns each read into text on its own.  No byte is lost or comes twice,
but where a read ends matters for the text.

* **`received_after?`** — what was read from a stream is what was written to it, in this order, up to
  what waits; `size_of_chunk` bounds each read.
* `reads_occur` — what waits may be read next in any reads of these sizes.
* `streamText` — the text that the log has from a stream, the lossy texts of the reads one after another.
* **`stream_is_told_in_reads`** — it is the lossy text of all that was read exactly if every read ends
  between two pieces, and what is a text arrives as this text exactly if no read ends inside a character.
* **`character_is_torn`** — a character of which the reads bring one byte each does not arrive.
-/

namespace LanguageClient

open Utf8 (CutAtSeams decodeLossy)

namespace Custody

/-! ## What is read -/

/-- What was written to a stream, in its order. -/
def written (stream : Nat) (os : List Occurrence) : List UInt8 := os.flatMap (·.written stream)

/-- What has been read from a stream and what has not. -/
def received (c : Custody) (n : Nat) : List UInt8 :=
  (chunks n c.process.log).flatten ++ c.process.waitingOn n

theorem chunks_concat (n : Nat) (log : List LogPiece) (piece : LogPiece) :
    chunks n (log ++ [piece]) = chunks n log ++ (piece.chunk? n).toList := by
  rw [chunks, List.filterMap_append, ← chunks, List.filterMap_cons]
  cases piece.chunk? n <;> rfl

/-- A read takes bytes from those that wait, and only what is written is added to them. -/
theorem Becomes.received {c c' : Custody} {o : Occurrence} (h : c.Becomes o c') (n : Nat) :
    c'.received n = c.received n ++ o.written n := by
  unfold Custody.received
  cases h with
  | aside h => rw [h.log, h.waiting, List.append_assoc]
  | @reads m size d hd =>
    show _ = _ ++ []
    rw [waitingOn_set hd, chunks_concat, LogPiece.chunk?, List.append_nil]
    by_cases hn : m = n
    · subst hn
      rw [if_pos rfl, if_pos rfl, waitingOn_of_drain hd]
      simp
    · rw [if_neg hn, if_neg hn]
      simp
  | reaps h =>
    show _ = _ ++ []
    rw [List.append_nil]
    cases h with
    | stops hr => rw [← c.process.waitingOn_stopDrains n]; rfl
    | writes hr => rw [chunks_concat, LogPiece.chunk?, Option.toList_none, List.append_nil]; rfl
    | _ => rfl

/-- **What was read from a stream is what was written to it, in this order**, up to what waits. -/
theorem received_after? {streams : Nat} {os : List Occurrence} {c : Custody}
    (h : (spawned streams).after? os = some c) (n : Nat) : c.received n = written n os := by
  refine History.induction (P := fun os c => c.received n = written n os) ?_ ?_ h
  · show [] ++ (spawned streams).process.waitingOn n = []
    rw [List.nil_append, SupervisedProcess.waitingOn, spawned, List.getElem?_replicate]
    split <;> rfl
  · intro os o c c' _ hc ho
    rw [(becomes_of_occur? ho).received n, hc, written, written, List.flatMap_append]
    simp

/-- Every read brings at least one byte, and no more than a drain can hold. -/
theorem size_of_chunk {streams : Nat} {os : List Occurrence} {c : Custody}
    (h : (spawned streams).after? os = some c) (n : Nat) :
    ∀ bytes ∈ chunks n c.process.log, 1 ≤ bytes.length ∧ bytes.length ≤ SupervisedProcess.maxRead := by
  refine History.induction (P := fun _ c => ∀ bytes ∈ chunks n c.process.log,
    1 ≤ bytes.length ∧ bytes.length ≤ SupervisedProcess.maxRead) (fun _ hb => by cases hb) ?_ h
  intro os o c c' _ hc ho
  cases becomes_of_occur? ho with
  | aside h => rw [h.log]; exact hc
  | @reads m size d hd hr hw hsize =>
    rw [chunks_concat, List.forall_mem_append]
    refine ⟨hc, fun bytes hbytes => ?_⟩
    rw [LogPiece.chunk?] at hbytes
    split at hbytes
    · obtain rfl := List.mem_singleton.1 hbytes
      have := List.length_pos_iff.2 hw
      rw [List.length_take]
      omega
    · cases hbytes
  | reaps h =>
    cases h with
    | writes hr => rwa [chunks_concat, LogPiece.chunk?, Option.toList_none, List.append_nil]
    | _ => exact hc

/-! ## Any reads -/

/-- Reads of these sizes. -/
def readsOf (n : Nat) (parts : List (List UInt8)) : List Occurrence :=
  parts.map fun part => .drains n part.length

/-- **What waits on a stream may be read in any reads** that a drain can make. -/
theorem reads_occur {n : Nat} {parts : List (List UInt8)}
    (hsize : ∀ part ∈ parts, 1 ≤ part.length ∧ part.length ≤ SupervisedProcess.maxRead) :
    ∀ {c : Custody} {d : Drain}, c.process.drains[n]? = some d → d.running = true →
      d.waiting = parts.flatten → ∃ c', c.after? (readsOf n parts) = some c' ∧
        chunks n c'.process.log = chunks n c.process.log ++ parts ∧ c'.process.waitingOn n = [] := by
  induction parts with
  | nil =>
    intro c d hd _ hw
    exact ⟨c, rfl, (List.append_nil _).symm, (waitingOn_of_drain hd).trans hw⟩
  | cons part parts ih =>
    intro c d hd hr hw
    obtain ⟨hpart, hparts⟩ := List.forall_mem_cons.1 hsize
    have hne : d.waiting ≠ [] := by
      rw [hw, List.flatten_cons]
      exact List.append_ne_nil_of_left_ne_nil (List.length_pos_iff.1 hpart.1) _
    have htake : d.waiting.take part.length = part := by rw [hw, List.flatten_cons, List.take_left]
    have hdrop : d.waiting.drop part.length = parts.flatten := by
      rw [hw, List.flatten_cons, List.drop_left]
    -- The first read takes the first part.
    generalize hu : ({ c with process := { c.process with
      drains := c.process.drains.set n { d with waiting := d.waiting.drop part.length }
      log := c.process.log ++ [.output n (d.waiting.take part.length)] } } : Custody) = u
    have hread : c.occur? (.drains n part.length) = some u := by
      rw [occur?, if_pos hpart, SupervisedProcess.drain?, hd]
      simp only [hr, Bool.not_true, Bool.false_eq_true, if_false, List.isEmpty_iff, hne, ← hu,
        Option.map_some]
    have hplace : u.process.drains[n]? = some { d with waiting := parts.flatten } := by
      obtain ⟨hlt, -⟩ := List.getElem?_eq_some_iff.1 hd
      rw [← hu, ← hdrop]
      exact List.getElem?_set_self hlt
    have hchunks : chunks n u.process.log = chunks n c.process.log ++ [part] := by
      rw [← hu, chunks_concat, LogPiece.chunk?, if_pos rfl, htake]
      rfl
    -- The others are read after it.
    obtain ⟨c', hafter, hlog, hwaiting⟩ := ih hparts hplace hr rfl
    refine ⟨c', ?_, ?_, hwaiting⟩
    · rw [readsOf, List.map_cons, after?, List.foldlM_cons, hread]
      exact hafter
    · rw [hlog, hchunks, List.append_assoc]
      rfl

end Custody

/-! ## The text of a stream -/

def LogPiece.isFrom (stream : Nat) : LogPiece → Bool
  | output n _ => n == stream
  | exitLine _ => false

/-- The text that a log has from a stream. -/
def streamText (stream : Nat) (log : List LogPiece) : String :=
  String.join ((log.filter (·.isFrom stream)).map LogPiece.text)

/-- It consists of the texts of the reads. -/
theorem streamText_eq (n : Nat) (log : List LogPiece) :
    streamText n log = String.join ((chunks n log).map decodeLossy) := by
  rw [streamText]
  congr 1
  induction log with
  | nil => rfl
  | cons piece log ih =>
    cases piece with
    | output m bytes =>
      by_cases hm : m = n
      · subst hm
        simp [LogPiece.isFrom, LogPiece.chunk?, chunks, LogPiece.text] at ih ⊢
        exact ih
      · simp [LogPiece.isFrom, LogPiece.chunk?, chunks, hm] at ih ⊢
        exact ih
    | exitLine e => exact ih

namespace Custody

/-- **The log is told a stream read by read.**  Whatever has occurred to a process:

* What was read from a stream, and what waits to be read after it, is what was written to it, and each
  read brought between one byte and as many as a drain can hold.
* The text that the log has from the stream is the lossy text of what was read, all of it at once,
  exactly if every read ended between two pieces of it.
* So if what was read is the bytes of a text, the log has this text exactly if no read ended inside a
  character: up to the end of each read it was the bytes of a text.
* What waits on the stream, while it is drained, may be read next in any reads of this size. -/
theorem stream_is_told_in_reads {streams n : Nat} {os : List Occurrence} {c : Custody}
    (h : (spawned streams).after? os = some c) :
    (chunks n c.process.log).flatten ++ c.process.waitingOn n = written n os ∧
    (∀ bytes ∈ chunks n c.process.log,
      1 ≤ bytes.length ∧ bytes.length ≤ SupervisedProcess.maxRead) ∧
    (streamText n c.process.log = decodeLossy (chunks n c.process.log).flatten ↔
      CutAtSeams (chunks n c.process.log)) ∧
    (∀ s, (chunks n c.process.log).flatten = Utf8.ofString s →
      (streamText n c.process.log = s ↔ ∀ before after, chunks n c.process.log = before ++ after →
        ∃ t, before.flatten = Utf8.ofString t)) ∧
    ∀ parts d, (∀ part ∈ parts, 1 ≤ part.length ∧ part.length ≤ SupervisedProcess.maxRead) →
      c.process.drains[n]? = some d → d.running = true → d.waiting = parts.flatten →
      ∃ c', c.after? (readsOf n parts) = some c' ∧
        chunks n c'.process.log = chunks n c.process.log ++ parts ∧ c'.process.waitingOn n = [] := by
  refine ⟨received_after? h n, size_of_chunk h n, ?_, fun s hs => ?_,
    fun parts d hsize => reads_occur hsize⟩
  · rw [streamText_eq]
    exact Utf8.join_eq_iff _
  · rw [streamText_eq]
    exact Utf8.join_eq_iff_ofString hs

/-- A letter with an accent is written, and its two bytes are read one after the other. -/
def tornCharacter : List Occurrence :=
  [.writes 0 (Utf8.ofString "é"), .drains 0 1, .drains 0 1]

/-- **A character that is read in two reads does not arrive**: the log has two replacement characters for
it, though all of it was read. -/
theorem character_is_torn :
    ¬ ∀ streams os c n, (spawned streams).after? os = some c → c.process.waitingOn n = [] →
      streamText n c.process.log = decodeLossy (written n os) := by
  intro h
  have htext := h 1 tornCharacter _ 0 rfl rfl
  revert htext
  decide +kernel

/-- The letter arrives if both of its bytes are read at once, but they may be read one by one. -/
theorem whole_character_arrives :
    (∃ c, (spawned 1).after? [.writes 0 (Utf8.ofString "é"), .drains 0 2] = some c ∧
      streamText 0 c.process.log = "é") ∧
    ∃ c c', (spawned 1).after? [.writes 0 (Utf8.ofString "é")] = some c ∧
      c.after? (readsOf 0 [[0xC3], [0xA9]]) = some c' ∧
      chunks 0 c'.process.log = [[0xC3], [0xA9]] := by
  have hboth : (spawned 1).after? [.writes 0 (Utf8.ofString "é"), .drains 0 2] = some _ := rfl
  have hnone : (spawned 1).after? [.writes 0 (Utf8.ofString "é")] = some _ := rfl
  refine ⟨⟨_, hboth, ?_⟩, ?_⟩
  · obtain ⟨-, -, -, htext, -⟩ := stream_is_told_in_reads (n := 0) hboth
    refine (htext "é" (by decide +kernel)).2 fun before after he => ?_
    rcases List.append_eq_singleton_iff.1 he.symm with ⟨rfl, -⟩ | ⟨rfl, -⟩
    · exact ⟨"", rfl⟩
    · exact ⟨"é", by decide +kernel⟩
  · obtain ⟨-, -, -, -, hreads⟩ := stream_is_told_in_reads (n := 0) hnone
    obtain ⟨c', hafter, hchunks, -⟩ := hreads [[0xC3], [0xA9]] _ (by decide) rfl rfl
      (by decide +kernel)
    exact ⟨_, c', hnone, hafter, hchunks⟩

end Custody

end LanguageClient
