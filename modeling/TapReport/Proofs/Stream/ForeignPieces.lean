/-
  TapReport.Proofs.Stream.ForeignPieces
  ─────────────────────────────────────
  **A STREAM ENDS AT THE FIRST PIECE THAT IS NO BYTES.**

  A piece that is no bytes can come at any time: inside a line, inside a
  character, after lines that are no report.  What was read before it decides
  what is given out, and that is determined by the bytes alone: the lines that
  a newline has ended.  The line that has not ended is lost, and so are the
  bytes of a character that is not complete.  Nothing that comes later counts.
  Since a stream is read to its end before its lines are understood, no
  mismatch can hide such a piece; only bytes before it that are malformed can.

      Utf8.IsBegun    bytes that a character may begin with

  Main results:
    * `readLines_append_foreign`, `readLines_append_of_malformed` — what is
      given out before, and what the fault is.
    * `readLines_foreign` — both, and what it does to a report.
-/
import TapReport.Proofs.Stream.Chunking
import TapReport.Report.Source

namespace TapReport

/-! ## §1. The beginning of a character. -/

/-- Some first bytes of a character, but not all. -/
def Utf8.IsBegun (p : Bytes) : Prop :=
  ∃ c, p <+: encodeChar c ∧ p ≠ encodeChar c

/-- The decoder keeps such bytes. -/
theorem Utf8.IsBegun.pending {p : Bytes} (h : IsBegun p) : Pending p := by
  obtain ⟨c, hprefix, hne⟩ := h
  obtain ⟨q, b, hbytes, hq, -⟩ := exists_isLast c
  rw [hbytes] at hprefix hne
  rcases List.prefix_concat_iff.mp hprefix with rfl | hbegin
  · exact absurd rfl hne
  · exact hq.of_prefix hbegin

/-! ## §2. Lines before the piece. -/

variable {chunks : List Bytes} {t : Text} {p : Bytes}

/-- **The lines that have ended** are given out before a piece that is no
bytes. -/
theorem readLines_append_foreign (hbytes : chunks.flatten = Utf8.encode t ++ p)
    (hp : Utf8.Pending p) (kind : Text) (later : List Piece) :
    readLines .utf8 (chunks.map .bytes ++ .foreign kind :: later)
      = ((Text.endedLines t).map Text.trimEnd, some (.notBytes kind)) := by
  have hfound : ([] : List Line).reverse = (Text.endedLines []).map Text.trimEnd := rfl
  obtain ⟨next, u, lines, hnext, hlines, hread⟩ | ⟨-, -, -, hno, -⟩ :=
    readFrom_append chunks LineReader.holds_start hfound
  · -- what is held is the text and the bytes after it
    have hheld := hnext.bytes_eq
    rw [List.nil_append, hbytes] at hheld
    obtain ⟨rfl, -⟩ := Utf8.encode_append_inj hp hnext.pending hheld
    unfold readLines
    rw [hread, readFrom, LineReader.feed, ← hlines]
  · exact absurd (by rw [List.nil_append, hbytes]) (hno t p hp)

/-- Malformed bytes before it are the fault, and hide it. -/
theorem readLines_append_of_malformed
    (hno : ∀ t p, Utf8.Pending p → chunks.flatten ≠ Utf8.encode t ++ p) (later : List Piece) :
    ∃ e, (readLines .utf8 (chunks.map .bytes ++ later)).2 = some (.undecodable e) := by
  have hfound : ([] : List Line).reverse = (Text.endedLines []).map Text.trimEnd := rfl
  obtain ⟨next, u, -, hnext, -, -⟩ | ⟨u, e, -, -, hread⟩ :=
    readFrom_append chunks LineReader.holds_start hfound
  · have hheld := hnext.bytes_eq
    rw [List.nil_append] at hheld
    exact absurd hheld (hno u next.pending hnext.pending)
  · refine ⟨e, ?_⟩
    unfold readLines
    rw [hread]

/-! ## §3. Reports. -/

theorem allLines_of_fault {pieces : List Piece} {e : StreamFault}
    (h : (readLines .utf8 pieces).2 = some e) : allLines pieces = .error e := by
  unfold allLines
  cases hread : readLines .utf8 pieces with
  | mk lines fault =>
    rw [hread] at h
    obtain rfl : fault = some e := h
    rfl

/-- With settings that are valid, a fault of the stream is the fault of the
report. -/
theorem Report.parse_of_stream_fault {s : RawSettings} {n : Settings Int} (hs : s.check = .ok n)
    {pieces : List Piece} {e : StreamFault} (h : (readLines .utf8 pieces).2 = some e) :
    parse s (.pieces pieces) = .error (.stream e) := by
  have hlines : (Source.pieces pieces).allLines = .error e := allLines_of_fault h
  unfold parse
  simp only [hs, hlines]

/-- **A piece that is no bytes ends a stream**, and names its kind.  If the
bytes before it are those of a text and perhaps the beginning of a character,
the lines of the text that a newline has ended are given out, whatever pieces
the bytes came in and whatever pieces follow; and valid settings do not lead to
a report or a mismatch, whatever the lines say.  Bytes that are not the
beginning of any text are the fault instead. -/
theorem readLines_foreign (chunks : List Bytes) (kind : Text) (later : List Piece) :
    (∀ t p, chunks.flatten = Utf8.encode t ++ p → Utf8.IsBegun p →
        readLines .utf8 (chunks.map .bytes ++ .foreign kind :: later)
            = ((Text.endedLines t).map Text.trimEnd, some (.notBytes kind))
          ∧ ∀ (s : RawSettings) (n : Settings Int), s.check = .ok n →
            Report.parse s (.pieces (chunks.map .bytes ++ .foreign kind :: later))
              = .error (.stream (.notBytes kind)))
      ∧ ((∀ t p, Utf8.Pending p → chunks.flatten ≠ Utf8.encode t ++ p) →
        ∃ e, (readLines .utf8 (chunks.map .bytes ++ .foreign kind :: later)).2
            = some (.undecodable e)
          ∧ ∀ (s : RawSettings) (n : Settings Int), s.check = .ok n →
            Report.parse s (.pieces (chunks.map .bytes ++ .foreign kind :: later))
              = .error (.stream (.undecodable e))) := by
  constructor
  · intro t p hbytes hp
    have hread := readLines_append_foreign hbytes hp.pending kind later
    refine ⟨hread, fun s n hs => ?_⟩
    exact Report.parse_of_stream_fault hs (congrArg Prod.snd hread)
  · intro hno
    obtain ⟨e, he⟩ := readLines_append_of_malformed hno (.foreign kind :: later)
    exact ⟨e, he, fun s n hs => Report.parse_of_stream_fault hs he⟩

/-- A line that is no version line, a line that has not ended and a character
that is not complete; then a piece of another kind, and bytes that no text
has. -/
theorem readLines_foreign_unended :
    [[0x78, 0x20], [], [0x0A, 0x61, 0xC3]].flatten = Utf8.encode "x \na".toList ++ [0xC3]
      ∧ Utf8.IsBegun [0xC3]
      ∧ readLines .utf8 ([[0x78, 0x20], [], [0x0A, 0x61, 0xC3]].map .bytes
          ++ .foreign "str".toList :: [.bytes [0xFF]])
        = (["x".toList], some (.notBytes "str".toList))
      ∧ RawSettings.standard.check = .ok Settings.standard
      ∧ Report.parse .standard (.pieces ([[0x78, 0x20], [], [0x0A, 0x61, 0xC3]].map .bytes
          ++ .foreign "str".toList :: [.bytes [0xFF]]))
        = .error (.stream (.notBytes "str".toList)) := by
  have hbytes : [[0x78, 0x20], [], [0x0A, 0x61, 0xC3]].flatten
      = Utf8.encode "x \na".toList ++ [0xC3] := by decide
  have hbegun : Utf8.IsBegun [0xC3] := ⟨'é', by decide, by decide⟩
  have hvalid : RawSettings.standard.check = .ok Settings.standard := rfl
  obtain ⟨hread, hparse⟩ := (readLines_foreign [[0x78, 0x20], [], [0x0A, 0x61, 0xC3]]
    "str".toList [.bytes [0xFF]]).1 _ _ hbytes hbegun
  exact ⟨hbytes, hbegun, hread, hvalid, hparse _ _ hvalid⟩

end TapReport
