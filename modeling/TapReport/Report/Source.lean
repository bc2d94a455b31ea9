/-
  TapReport.Report.Source
  ───────────────────────
  **FROM A SOURCE AND SETTINGS TO A REPORT.**

  A report is given as lines or as the pieces of a stream.  The settings are
  checked first, the whole stream is read next, and only then are its lines
  understood: a fault in the settings hides one in the stream, and a fault
  in the stream hides every mismatch.

  Main results:
    * `parse_lines_eq`, `parse_pieces_eq` — what valid settings do with
      each kind of source.
-/
import TapReport.Report.Reader
import TapReport.Settings.Basic
import TapReport.Stream.Lines

namespace TapReport

/-- Where a report comes from. -/
inductive Source where
  /-- Its lines, taken as they are. -/
  | lines (lines : List Line)
  /-- The pieces of a stream in UTF-8. -/
  | pieces (pieces : List Piece)

/-- Why no report can be looked for. -/
inductive SourceFault where
  /-- The settings are not valid. -/
  | settings (e : SettingsFault)
  /-- The stream cannot be read. -/
  | stream (e : StreamFault)
  /-- The lines cannot be understood. -/
  | reading (e : Fault)
  deriving DecidableEq, Repr

/-- The lines of a source. -/
def Source.allLines : Source → Except StreamFault (List Line)
  | .lines given => .ok given
  | .pieces given => TapReport.allLines given

/-- The layout that settings ask for. -/
def Layout.ofSettings (s : Settings Int) : Layout :=
  ⟨s.indentLevel, s.itemLimit, s.blockLimit⟩

namespace Report

/-- Looks for a report in a source. -/
def parse (s : RawSettings) (source : Source) : Except SourceFault (Outcome Content) :=
  match s.check with
  | .error e => .error (.settings e)
  | .ok valid =>
    match source.allLines with
    | .error e => .error (.stream e)
    | .ok lines => (ofLines (.ofSettings valid) lines).mapError .reading

/-- Valid settings are a layout to read lines with. -/
theorem parse_lines_eq {s : Settings Int} (h : s.Valid) (lines : List Line) :
    parse (s.map .int) (.lines lines) = (ofLines (.ofSettings s) lines).mapError .reading := by
  simp [parse, Settings.check_eq_ok_iff.mpr ⟨rfl, h⟩, Source.allLines]

/-- Pieces of a stream without faults count for their lines. -/
theorem parse_pieces_eq {s : Settings Int} (h : s.Valid) {pieces : List Piece} {lines : List Line}
    (hl : TapReport.allLines pieces = .ok lines) :
    parse (s.map .int) (.pieces pieces) = parse (s.map .int) (.lines lines) := by
  simp [parse, Settings.check_eq_ok_iff.mpr ⟨rfl, h⟩, Source.allLines, hl]

end Report

end TapReport
