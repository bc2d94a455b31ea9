/-
  TapReport.Command.Run
  ─────────────────────
  **ONE RUN OF THE COMMAND.**

  A run is a function of its console, its surroundings, its standard input
  and its arguments.  It ends with an answer — an exit code and what is
  written to the two outputs — or with a fault that the command has no words
  for.  What the console does not answer itself goes through three steps: the
  settings of the folder of the report, the report, and the document to write.

  Main definition: `run`.
-/
import TapReport.Command.Console
import TapReport.Report.File
import TapReport.Report.Output

namespace TapReport.Command

/-! ## §1. Telling how reading went. -/

/-- Lines, each ended by a newline. -/
def unlines (lines : List Line) : Text :=
  lines.flatMap (· ++ ['\n'])

/-- Why the items of a report came to an end, if that is worth telling. -/
def stopLines (body : LineParser.Repeated Item) : List Line :=
  match body.stop with
  | .atEnd => []
  | .limitReached =>
    ["tap_reader.combinators: lines reached the iteration limit of ".toList
      ++ Text.ofNat body.items.length]
  | .mismatched reason =>
    ["tap_reader.combinators: lines stopped after ".toList ++ Text.ofNat body.items.length
      ++ " tokens: ".toList ++ reason.message]

/-- Where reading stopped, if lines are left. -/
def leftLines (next : Cursor) : List Line :=
  match next.isDone with
  | .ok true => []
  | _ =>
    ["tap_reader.parser: Stopped parsing at line ".toList ++ Text.ofNat next.line
      ++ " of ".toList ++ Text.ofNat next.source.size]

/-- How reading a report went. -/
def progressLines : Outcome Report.Content → List Line
  | .mismatched reason place =>
    ["tap_reader.parser: TAP parsing failed: ".toList ++ reason.report place]
  | .matched content next => stopLines content.body ++ leftLines next

/-- What is told of how reading went, before all else. -/
def progress (r : Request) (found : Outcome Report.Content) : Text :=
  if r.verbose then unlines (progressLines found) else []

/-! ## §2. Running. -/

/-- What the file is called in messages. -/
def sourceName (path : Text) : Text :=
  if path = Request.standardInput then "<stdin>".toList else path

/-- The path of the folder whose settings count: that of the file, or the
current one for the standard input. -/
def settingsPath (host : Host) (path : Text) : Except ResolveFault Text :=
  if path = Request.standardInput then .ok host.here.toPath
  else (host.resolve path).map fun place => Place.toPath place.dropLast

/-- The valid settings for a request. -/
def loadSettings (host : Host) (r : Request) : Except LoadFault (Settings Int) :=
  match settingsPath host r.path with
  | .error e => .error (.unresolved e)
  | .ok folder => Settings.build host folder r.overrides

/-- Looks for a report in the file or the standard input. -/
def readReport (around : Surroundings) (input : Bytes) (s : Settings Int) (path : Text) :
    Except FileReportFault (Outcome Report.Content) :=
  if path = Request.standardInput then
    (Report.parse (s.map .int) (.pieces ((cutPieces input).map .bytes))).mapError
      (SourceFault.inFile (sourceName path))
  else Report.ofFile around (s.map .int) path

/-- A document in a format. -/
def write (format : Format) (d : Document) : Text :=
  match format with
  | .json => d.toJson.toText
  | .summary => d.summary

variable (console : Console)

/-- Answers a request with what was found in the lines. -/
def respond (r : Request) (found : Outcome Report.Content) : Answer :=
  match found with
  | .mismatched reason place =>
    let told := console.failed (sourceName r.path ++ [':'] ++ reason.report place)
    { told with errors := progress r found ++ told.errors }
  | .matched content _ =>
    ⟨0, console.shown (write r.format content.document ++ ['\n']), progress r found⟩

/-- Answers a request with what reading came to. -/
def answer (r : Request) :
    Except FileReportFault (Outcome Report.Content) → Except CommandFault Answer
  | .error (.reading e) => .error (.reading e)
  | .error (.access (.unopened path .holdsNul)) => .error (.unreachable path .holdsNul)
  | .error e => .ok (console.failed e.message)
  | .ok found => .ok (respond console r found)

/-- Does what a request asks for. -/
def fulfil (around : Surroundings) (input : Bytes) (r : Request) : Except CommandFault Answer :=
  match loadSettings around.toHost r with
  | .error (.settings e) => .ok (console.refused e.message)
  | .error e => .error (.load e)
  | .ok s => answer console r (readReport around input s r.path)

/-- Runs the command. -/
def run (around : Surroundings) (input : Bytes) (args : List Text) : Except CommandFault Answer :=
  match console.understand around.toHost args with
  | .error e => .error e
  | .ok (.answered a) => .ok a
  | .ok (.asked r) => fulfil console around input r

end TapReport.Command
