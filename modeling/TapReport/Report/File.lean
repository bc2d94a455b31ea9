/-
  TapReport.Report.File
  ─────────────────────
  **READING A REPORT FROM A FILE.**

  What can go wrong is found in a fixed order: the settings, the size limit
  of the environment, the file and its size, its bytes as text, and last its
  lines.

  Main results:
    * `ofFile_eq` — where nothing goes wrong before, a file is read as the
      stream of its bytes.
-/
import TapReport.Report.Source
import TapReport.Surroundings

namespace TapReport

/-- Why a file gives no report to look at. -/
inductive FileReportFault where
  /-- The settings are not valid. -/
  | settings (e : SettingsFault)
  /-- The size limit of the environment cannot be used. -/
  | sizeLimit (e : SizeFault)
  /-- The file cannot be used. -/
  | access (e : AccessFault)
  /-- Its bytes are no text. -/
  | stream (path : Text) (e : StreamFault)
  /-- Its lines cannot be understood. -/
  | reading (e : Fault)
  deriving DecidableEq, Repr

/-- What is reported for bytes that are no text, with the name of where they
are from. -/
def StreamFault.reportFrom (source : Text) (e : StreamFault) : Text :=
  "Invalid UTF-8 sequence in ".toList ++ source ++ ": ".toList ++ e.message

/-- What is reported for a file without a report. -/
def FileReportFault.message : FileReportFault → Text
  | .settings e => e.message
  | .sizeLimit e => e.message
  | .access e => e.message
  | .stream path e => e.reportFrom path
  | .reading e => e.message

/-- A fault in a source, as a fault in the file of that path. -/
def SourceFault.inFile (path : Text) : SourceFault → FileReportFault
  | .settings e => .settings e
  | .stream e => .stream path e
  | .reading e => .reading e

namespace Report

/-- Looks for a report in a file. -/
def ofFile (around : Surroundings) (s : RawSettings) (path : Text) :
    Except FileReportFault (Outcome Content) :=
  match s.check with
  | .error e => .error (.settings e)
  | .ok valid =>
    match sizeLimit around.sizeLimit valid.maxFileSize with
    | .error e => .error (.sizeLimit e)
    | .ok limit =>
      match around.contentWithin limit path with
      | .error e => .error (.access e)
      | .ok bytes =>
        match fileLines bytes with
        | .error e => .error (.stream (Path.tidy path) e)
        | .ok lines => (ofLines (.ofSettings valid) lines).mapError .reading

/-- With valid settings and a file of an allowed size, a report is looked for in its
bytes, and their faults are told with the path. -/
theorem ofFile_eq {around : Surroundings} {s : Settings Int} {limit : Int} {path : Text}
    {bytes : Bytes} (hs : s.Valid) (hl : sizeLimit around.sizeLimit s.maxFileSize = .ok limit)
    (hb : around.contentWithin limit path = .ok bytes) :
    ofFile around (s.map .int) path
      = (parse (s.map .int) (.pieces ((cutPieces bytes).map .bytes))).mapError
          (SourceFault.inFile (Path.tidy path)) := by
  simp only [ofFile, parse, Settings.check_eq_ok_iff.mpr ⟨rfl, hs⟩, hl, hb, fileLines,
    Source.allLines]
  cases TapReport.allLines ((cutPieces bytes).map .bytes) with
  | error e => rfl
  | ok lines =>
    dsimp only
    cases ofLines (.ofSettings s) lines with
    | error e => rfl
    | ok found => rfl

end Report

end TapReport
