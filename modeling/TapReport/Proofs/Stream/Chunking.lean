/-
  TapReport.Proofs.Stream.Chunking
  ────────────────────────────────
  **HOW A STREAM IS CUT INTO PIECES DOES NOT MATTER.**

  A reader keeps two things between two pieces, the bytes of a character
  that is not complete and the text since the last newline.  Both are
  determined by the bytes so far (`LineReader.Holds`): these are the bytes of
  a text and then those that are kept, and the lines given out are those
  that a newline ends in that text.  A piece takes this from the bytes
  before it to the bytes with it, wherever it is cut, so at the end only the
  bytes of all pieces together count.

  Main results:
    * `Text.cutLines_append` — cutting a text into lines in two parts.
    * `LineReader.feed_of_decode` — one piece.
    * `readFrom_append`, `readout_readFrom` — any pieces.
    * `readLines_chunks` — the lines of bytes, whatever the pieces.
-/
import TapReport.Proofs.Text.Utf8
import TapReport.Stream.Lines

namespace TapReport

/-! ## §1. The lines of a text. -/

namespace Text

/-- The lines of a text that a newline ends. -/
def endedLines (t : Text) : List Line :=
  (t.splitOn '\n').dropLast

/-- The lines of a text, the last one too unless it is empty. -/
def splitLines (t : Text) : List Line :=
  if (t.splitOn '\n').getLast? = some [] then endedLines t else t.splitOn '\n'

/-- Cutting at newlines is splitting there. -/
theorem splitOn_newline (t : Text) : t.splitOn '\n' = (cutLines t).1 ++ [(cutLines t).2] := by
  induction t with
  | nil => rfl
  | cons c t ih =>
    rw [List.splitOn_eq_splitOnP] at ih ⊢
    rw [List.splitOnP_cons_eq_if_modifyHead, ih]
    by_cases hc : c = '\n'
    · subst hc
      rw [if_pos (by simp), cutLines_newline]
      rfl
    · rw [if_neg (by simpa using hc), cutLines_cons hc]
      cases (cutLines t).1 <;> rfl

theorem endedLines_eq (t : Text) : endedLines t = (cutLines t).1 := by
  rw [endedLines, splitOn_newline, List.dropLast_concat]

theorem splitLines_eq (t : Text) :
    splitLines t = (cutLines t).1 ++ if (cutLines t).2.isEmpty then [] else [(cutLines t).2] := by
  rw [splitLines, endedLines_eq, splitOn_newline, List.getLast?_concat]
  by_cases h : (cutLines t).2 = []
  · simp [h]
  · simp [h]

/-- **Cutting in two parts**: what no newline has ended yet goes before the
second part. -/
theorem cutLines_append (t u : Text) :
    cutLines (t ++ u)
      = ((cutLines t).1 ++ (cutLines ((cutLines t).2 ++ u)).1,
          (cutLines ((cutLines t).2 ++ u)).2) := by
  -- induction on the first part, which is cut from its end
  induction t with
  | nil => rfl
  | cons c t ih =>
    rw [List.cons_append]
    by_cases hc : c = '\n'
    · subst hc
      rw [cutLines_newline, cutLines_newline, ih]
      rfl
    · rw [cutLines_cons hc, cutLines_cons hc, ih]
      cases h : (cutLines t).1 with
      | nil =>
        -- the line goes on: `c` stands before what is left of `t`
        simp only [List.nil_append, List.cons_append]
        rw [cutLines_cons hc]
      | cons line lines => rfl

theorem endedLines_prefix {t u : Text} (h : t <+: u) : endedLines t <+: endedLines u := by
  obtain ⟨more, rfl⟩ := h
  rw [endedLines_eq, endedLines_eq, cutLines_append]
  exact List.prefix_append _ _

end Text

/-! ## §2. One piece. -/

namespace LineReader

/-- What a reader keeps after some bytes, the text of the complete characters
among them being `t`. -/
structure Holds (r : LineReader) (b : Bytes) (t : Text) : Prop where
  /-- The bytes are those of the text and the ones that are kept. -/
  bytes_eq : b = Utf8.encode t ++ r.pending
  /-- The bytes that are kept may become a character. -/
  pending : Utf8.Pending r.pending
  /-- The text that is kept is the one after the last newline. -/
  unended_eq : r.unended = (Text.cutLines t).2

theorem holds_start : start.Holds [] [] :=
  ⟨rfl, Utf8.pending_nil, rfl⟩

variable {r : LineReader} {b piece pending : Bytes} {t u : Text}

theorem decode_utf8 (pending piece : Bytes) :
    Encoding.utf8.decode pending piece
      = (Utf8.decode pending piece).mapError Encoding.ofMalformed := rfl

/-- **A piece that decodes** goes on from the bytes before it to the bytes with
it, and gives out the lines that are new. -/
theorem feed_of_decode (h : r.Holds b t) (hd : Utf8.decode r.pending piece = .ok (u, pending)) :
    ∃ lines next, r.feed .utf8 (.bytes piece) = .ok (lines.map Text.trimEnd, next)
      ∧ next.Holds (b ++ piece) (t ++ u)
      ∧ Text.endedLines (t ++ u) = Text.endedLines t ++ lines := by
  obtain ⟨hbytes, hpending⟩ := (Utf8.decode_eq_ok_iff h.pending).mp hd
  have hcut := Text.cutLines_append t u
  rw [← h.unended_eq] at hcut
  refine ⟨(Text.cutLines (r.unended ++ u)).1, ⟨pending, (Text.cutLines (r.unended ++ u)).2⟩,
    ?_, ⟨?_, hpending, ?_⟩, ?_⟩
  · rw [feed, decode_utf8, hd]
    rfl
  · rw [h.bytes_eq, List.append_assoc, hbytes, Utf8.encode_append, List.append_assoc]
  · rw [hcut]
  · rw [Text.endedLines_eq, Text.endedLines_eq, hcut]

/-- A piece that does not decode is a fault. -/
theorem feed_of_decode_error {e : Utf8.Malformed}
    (hd : Utf8.decode r.pending piece = .error e) :
    r.feed .utf8 (.bytes piece) = .error (.undecodable (Encoding.ofMalformed e)) := by
  rw [feed, decode_utf8, hd]
  rfl

/-- At the end no bytes may be kept. -/
theorem close_of_nil (h : r.pending = []) :
    r.close = .ok (if r.unended.isEmpty then [] else [Text.trimEnd r.unended]) := by
  unfold close
  rw [h]
  rfl

theorem close_of_ne_nil (h : r.pending ≠ []) : ∃ e, r.close = .error (.undecodable e) := by
  unfold close Encoding.close
  match hp : r.pending with
  | [] => exact absurd hp h
  | [_] => exact ⟨_, rfl⟩
  | [a, b] =>
    by_cases hs : Utf8.isSurrogate a b = true
    · simp [Utf8.unfinished?, hs]
    · simp [Utf8.unfinished?, hs]
  | _ :: _ :: _ :: _ => exact ⟨_, rfl⟩

end LineReader

/-! ## §3. Any pieces. -/

/-- What reading the lines of some bytes may come to. -/
inductive Readout (b : Bytes) : List Line × Option StreamFault → Prop
  /-- The bytes are a text, and its lines are given out. -/
  | text {t : Text} (htext : Utf8.encode t = b) :
      Readout b ((Text.splitLines t).map Text.trimEnd, none)
  /-- They are none, and some lines that they begin with are given out. -/
  | broken {t : Text} {e : Undecodable} (hno : ¬ Utf8.IsText b) (hbegin : Utf8.encode t <+: b) :
      Readout b ((Text.endedLines t).map Text.trimEnd, some (.undecodable e))

/-- The end of a stream. -/
theorem readout_close {r : LineReader} {b : Bytes} {t : Text} {found : List Line}
    (h : r.Holds b t) (hfound : found.reverse = (Text.endedLines t).map Text.trimEnd) :
    Readout b (readFrom .utf8 r found []) := by
  rw [readFrom]
  by_cases hp : r.pending = []
  · have htext : Utf8.encode t = b := by rw [h.bytes_eq, hp, List.append_nil]
    rw [LineReader.close_of_nil hp, hfound, h.unended_eq]
    have hlines : (Text.endedLines t).map Text.trimEnd
          ++ (if (Text.cutLines t).2.isEmpty then [] else [Text.trimEnd (Text.cutLines t).2])
        = (Text.splitLines t).map Text.trimEnd := by
      rw [Text.splitLines_eq, Text.endedLines_eq, List.map_append]
      split <;> rfl
    simp only [hlines]
    exact .text htext
  · obtain ⟨e, he⟩ := LineReader.close_of_ne_nil hp
    have hno := Utf8.not_isText_of_pending (t := t) h.pending hp
    rw [← h.bytes_eq] at hno
    rw [he]
    simp only [hfound]
    exact .broken hno ⟨r.pending, h.bytes_eq.symm⟩

/-- **Pieces of bytes**, read on after any bytes and before any pieces: either
they are held after them, or reading has ended with a fault. -/
theorem readFrom_append (chunks : List Bytes) {r : LineReader} {b : Bytes} {t : Text}
    {found : List Line} (h : r.Holds b t)
    (hfound : found.reverse = (Text.endedLines t).map Text.trimEnd) :
    (∃ (next : LineReader) (u : Text) (lines : List Line), next.Holds (b ++ chunks.flatten) u
        ∧ lines.reverse = (Text.endedLines u).map Text.trimEnd
        ∧ ∀ rest, readFrom .utf8 r found (chunks.map .bytes ++ rest)
          = readFrom .utf8 next lines rest)
      ∨ ∃ (u : Text) (e : Undecodable), Utf8.encode u <+: b ++ chunks.flatten
        ∧ (∀ v q, Utf8.Pending q → b ++ chunks.flatten ≠ Utf8.encode v ++ q)
        ∧ ∀ rest, readFrom .utf8 r found (chunks.map .bytes ++ rest)
          = ((Text.endedLines u).map Text.trimEnd, some (.undecodable e)) := by
  -- induction on the pieces; what is held changes with each
  induction chunks generalizing r b t found with
  | nil =>
    rw [List.flatten_nil, List.append_nil]
    exact .inl ⟨r, t, found, h, hfound, fun rest => rfl⟩
  | cons piece chunks ih =>
    rw [List.flatten_cons, ← List.append_assoc]
    cases hd : Utf8.decode r.pending piece with
    | error e =>
      refine .inr ⟨t, Encoding.ofMalformed e, ?_, ?_, fun rest => ?_⟩
      · exact ⟨r.pending ++ piece ++ chunks.flatten, by rw [h.bytes_eq]; simp⟩
      · -- no later piece can mend these bytes
        intro v q hq hbytes
        rw [h.bytes_eq, List.append_assoc (Utf8.encode t)] at hbytes
        exact Utf8.append_ne_of_decode_error h.pending hq hd chunks.flatten hbytes
      · rw [List.map_cons, List.cons_append, readFrom, LineReader.feed_of_decode_error hd]
        simp only [hfound]
    | ok result =>
      obtain ⟨u, pending⟩ := result
      obtain ⟨lines, next, hfeed, hnext, hended⟩ := LineReader.feed_of_decode h hd
      have hlines : ((lines.map Text.trimEnd).reverse ++ found).reverse
          = (Text.endedLines (t ++ u)).map Text.trimEnd := by
        rw [List.reverse_append, List.reverse_reverse, hfound, hended, List.map_append]
      have hstep : ∀ rest, readFrom .utf8 r found ((piece :: chunks).map .bytes ++ rest)
          = readFrom .utf8 next ((lines.map Text.trimEnd).reverse ++ found)
            (chunks.map .bytes ++ rest) := by
        intro rest
        rw [List.map_cons, List.cons_append, readFrom, hfeed]
      simp only [hstep]
      exact ih hnext hlines

theorem readout_readFrom {chunks : List Bytes} {r : LineReader} {b : Bytes} {t : Text}
    {found : List Line} (h : r.Holds b t)
    (hfound : found.reverse = (Text.endedLines t).map Text.trimEnd) :
    Readout (b ++ chunks.flatten) (readFrom .utf8 r found (chunks.map .bytes)) := by
  have hall : chunks.map Piece.bytes = chunks.map .bytes ++ [] := (List.append_nil _).symm
  rw [hall]
  obtain ⟨next, u, lines, hnext, hlines, hread⟩ | ⟨u, e, hbegin, hno, hread⟩ :=
    readFrom_append chunks h hfound
  · rw [hread]
    exact readout_close hnext hlines
  · rw [hread]
    refine .broken ?_ hbegin
    intro htext
    obtain ⟨v, hv⟩ := htext
    exact hno v [] Utf8.pending_nil (by rw [List.append_nil, hv])

theorem readout_readLines (chunks : List Bytes) :
    Readout chunks.flatten (readLines .utf8 (chunks.map .bytes)) :=
  readout_readFrom LineReader.holds_start rfl

/-! ## §4. The same bytes. -/

/-- Bytes that are a text have its lines. -/
theorem Readout.of_text {t : Text} {result : List Line × Option StreamFault}
    (h : Readout (Utf8.encode t) result) :
    result = ((Text.splitLines t).map Text.trimEnd, none) := by
  cases h with
  | text htext => rw [Utf8.encode_inj.mp htext]
  | broken hno _ => exact absurd ⟨t, rfl⟩ hno

/-- Bytes that are none are a fault, after lines of the longest text that they
begin with. -/
theorem Readout.of_not_isText {b : Bytes} {result : List Line × Option StreamFault}
    (h : Readout b result) (hno : ¬ Utf8.IsText b) :
    (∃ e, result.2 = some (.undecodable e)) ∧ ∃ t, Utf8.IsLongestText b t
      ∧ result.1 <+: (Text.endedLines t).map Text.trimEnd := by
  cases h with
  | text htext => exact absurd ⟨_, htext⟩ hno
  | @broken u e _ hbegin =>
    obtain ⟨t, ht⟩ := Utf8.exists_longestText b
    have hprefix := Text.endedLines_prefix (ht.prefix_of_encode_prefix hbegin)
    exact ⟨⟨e, rfl⟩, t, ht, hprefix.map Text.trimEnd⟩

/-- **How bytes are cut does not matter.**  If they are a text, its lines are
given out without the blanks at their end; if not, there is a fault, and
before it only lines of the longest text that the bytes begin with.  So the
same bytes in other pieces have the same lines, or a fault again. -/
theorem readLines_chunks (chunks : List Bytes) :
    (∀ t, Utf8.encode t = chunks.flatten →
        readLines .utf8 (chunks.map .bytes) = ((Text.splitLines t).map Text.trimEnd, none))
      ∧ (¬ Utf8.IsText chunks.flatten →
        (∃ e, (readLines .utf8 (chunks.map .bytes)).2 = some (.undecodable e))
          ∧ ∃ t, Utf8.IsLongestText chunks.flatten t
            ∧ (readLines .utf8 (chunks.map .bytes)).1 <+: (Text.endedLines t).map Text.trimEnd)
      ∧ (∀ others : List Bytes, others.flatten = chunks.flatten →
        ((readLines .utf8 (chunks.map .bytes)).2 = none
            ∧ readLines .utf8 (others.map .bytes) = readLines .utf8 (chunks.map .bytes))
          ∨ ((∃ e, (readLines .utf8 (chunks.map .bytes)).2 = some (.undecodable e))
            ∧ ∃ e, (readLines .utf8 (others.map .bytes)).2 = some (.undecodable e))) := by
  have hread := readout_readLines chunks
  refine ⟨?_, ?_, ?_⟩
  · intro t ht
    rw [← ht] at hread
    exact hread.of_text
  · intro hno
    exact hread.of_not_isText hno
  · intro others hothers
    have hother := readout_readLines others
    rw [hothers] at hother
    -- whether the bytes are a text does not depend on the pieces
    by_cases htext : Utf8.IsText chunks.flatten
    · obtain ⟨t, ht⟩ := htext
      rw [← ht] at hread hother
      rw [hread.of_text, hother.of_text]
      exact Or.inl ⟨rfl, rfl⟩
    · exact Or.inr ⟨(hread.of_not_isText htext).1, (hother.of_not_isText htext).1⟩

/-- A character cut in two, with an empty piece between its bytes, and a first
byte that is not continued. -/
theorem readLines_cut_character :
    readLines .utf8 ([[0x63, 0xC3], [], [0xA9, 0x0A, 0x64, 0x20]].map .bytes)
        = (["cé".toList, "d".toList], none)
      ∧ ¬ Utf8.IsText [[0x61, 0x0A, 0xC3], [0x28]].flatten
      ∧ ∃ e, (readLines .utf8 ([[0x61, 0x0A, 0xC3], [0x28]].map .bytes)).2
        = some (.undecodable e) := by
  have hno : ¬ Utf8.IsText [[0x61, 0x0A, 0xC3], [0x28]].flatten :=
    Utf8.not_isText_of_decode_error (t := []) (p := []) (b := [0x61, 0x0A, 0xC3, 0x28])
      (e := ⟨2, [0xC3], .notContinued⟩) Utf8.pending_nil rfl []
  refine ⟨?_, hno, ((readLines_chunks _).2.1 hno).1⟩
  exact (readLines_chunks _).1 "cé\nd ".toList (by decide)

end TapReport
