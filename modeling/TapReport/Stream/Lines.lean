/-
  TapReport.Stream.Lines
  ──────────────────────
  **THE LINES OF A STREAM THAT ARRIVES IN PIECES.**

  A piece may end anywhere, inside a line or inside a character.  Between
  two pieces a reader keeps two things: the bytes of a character that is not
  complete, and the text of a line that no newline has ended.  Lines are
  given out without the blanks at their end.

  Main result:
    * `flatten_cutPieces` — cutting bytes after each newline loses nothing.
-/
import TapReport.Stream.Encoding
import TapReport.Text.Blank

namespace TapReport

/-- What a stream delivers at a time. -/
inductive Piece where
  /-- Some bytes. -/
  | bytes (b : Bytes)
  /-- Something that is no bytes, of a kind of this name. -/
  | foreign (kind : Text)

/-- Why a stream cannot be read. -/
inductive StreamFault where
  /-- It delivered a value that is no bytes. -/
  | notBytes (kind : Text)
  /-- Its bytes are no text. -/
  | undecodable (e : Undecodable)
  deriving DecidableEq, Repr

/-- What is reported for a stream that cannot be read. -/
def StreamFault.message : StreamFault → Text
  | .notBytes kind => "Expected the TAP stream to yield bytes, received ".toList ++ kind
  | .undecodable e => e.message

/-- What is kept between two pieces. -/
structure LineReader where
  /-- The bytes of a character that is not complete. -/
  pending : Bytes
  /-- The text since the last newline. -/
  unended : Text
  deriving DecidableEq, Repr

namespace LineReader

/-- A reader at the beginning of a stream. -/
def start : LineReader := ⟨[], []⟩

/-- Takes one piece: the lines that it completes, and what is kept. -/
def feed (encoding : Encoding) (r : LineReader) : Piece → Except StreamFault (List Line × LineReader)
  | .foreign kind => .error (.notBytes kind)
  | .bytes b =>
    match encoding.decode r.pending b with
    | .error e => .error (.undecodable e)
    | .ok (t, pending) =>
      .ok ((Text.cutLines (r.unended ++ t)).1.map Text.trimEnd,
        ⟨pending, (Text.cutLines (r.unended ++ t)).2⟩)

/-- The line after the last newline, where the stream ends: there is one if
any text is left. -/
def close (r : LineReader) : Except StreamFault (List Line) :=
  match Encoding.close r.pending with
  | .error e => .error (.undecodable e)
  | .ok _ => .ok (if r.unended.isEmpty then [] else [Text.trimEnd r.unended])

end LineReader

/-- Reads the pieces of a stream; `found` holds the lines so far, the latest
first.  Gives all lines before the end or the first fault, and that fault. -/
def readFrom (encoding : Encoding) (r : LineReader) (found : List Line) :
    List Piece → List Line × Option StreamFault
  | [] =>
    match r.close with
    | .error e => (found.reverse, some e)
    | .ok last => (found.reverse ++ last, none)
  | piece :: pieces =>
    match r.feed encoding piece with
    | .error e => (found.reverse, some e)
    | .ok (lines, r) => readFrom encoding r (lines.reverse ++ found) pieces

/-- The lines of a stream up to its end or its first fault. -/
def readLines (encoding : Encoding) (pieces : List Piece) : List Line × Option StreamFault :=
  readFrom encoding .start [] pieces

/-- All lines of a stream in UTF-8, or its first fault. -/
def allLines (pieces : List Piece) : Except StreamFault (List Line) :=
  match readLines .utf8 pieces with
  | (lines, none) => .ok lines
  | (_, some e) => .error e

/-! ## §2. Files. -/

/-- Puts one more byte in front of pieces that end with each newline. -/
def pieceBefore (b : UInt8) (pieces : List Bytes) : List Bytes :=
  if b = 10 then [b] :: pieces
  else match pieces with
    | [] => [[b]]
    | piece :: pieces => (b :: piece) :: pieces

/-- Bytes cut after each newline, as a file delivers them. -/
def cutPieces (b : Bytes) : List Bytes :=
  b.foldr pieceBefore []

/-- Cutting bytes after each newline loses nothing. -/
theorem flatten_cutPieces (b : Bytes) : (cutPieces b).flatten = b := by
  induction b with
  | nil => rfl
  | cons x b ih =>
    change (pieceBefore x (cutPieces b)).flatten = x :: b
    unfold pieceBefore
    split
    · simp [ih]
    · split <;> simp_all

/-- The lines of a file, or the first fault in it. -/
def fileLines (b : Bytes) : Except StreamFault (List Line) :=
  allLines ((cutPieces b).map .bytes)

end TapReport
