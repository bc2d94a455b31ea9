/-
  TapReport.Report.Reader
  ───────────────────────
  **READING A REPORT.**

  A report is a version line and then any number of items.  Plans and
  diagnostics are single lines; a test is its title and, indented under it,
  a block between `---` and `...` whose lines are kept as they are.

  Main definitions:
    * `Version.read`, `Plan.read`, `Diagnostic.read` — the single lines.
    * `Block.read` — the block under a test.
    * `Report.read` — the whole report.
-/
import TapReport.Report.Title

namespace TapReport

/-! ## §1. Single lines. -/

/-- Reads a run of digits as a number, or ends with a fault. -/
def readNumeral (digits : Text) : LineParser Int :=
  match Text.readNatural? digits with
  | none => .fault (.numeralTooLong digits.length)
  | some n => .succeed n

namespace Version

/-- The digits of a version line: one to three after `TAP version `. -/
def ofLine? (line : Line) : Option Text :=
  (Text.after? "TAP version ".toList line).bind fun digits =>
    if digits.all Text.isDigit && 1 ≤ digits.length && digits.length ≤ 3 then some digits else none

/-- Reads a version line that names the expected version. -/
def read (expected : Int) : LineParser Int :=
  (LineParser.line ofLine? .notVersion).bind fun digits =>
    (readNumeral digits).bind fun version =>
      if version = expected then .succeed version
      else .refuse (.wrongVersion expected version)

end Version

namespace Plan

/-- The two runs of digits of a plan, around `..`. -/
def ofLine? (line : Line) : Option (Text × Text) :=
  (Text.after? "..".toList (line.dropWhile Text.isDigit)).bind fun through =>
    if (line.takeWhile Text.isDigit).isEmpty || through.isEmpty || !through.all Text.isDigit then none
    else some (line.takeWhile Text.isDigit, through)

/-- Reads a plan. -/
def read : LineParser Plan :=
  (LineParser.line ofLine? .notPlan).bind fun (start, through) =>
    (readNumeral start).bind fun first =>
      (readNumeral through).map fun last => ⟨first, last⟩

end Plan

namespace Diagnostic

/-- The text of a diagnostic: what follows `# `, not empty and without a
newline. -/
def ofLine? (line : Line) : Option Text :=
  (Text.after? "# ".toList line).bind fun text =>
    if text.isEmpty || text.contains '\n' then none else some text

/-- Reads a diagnostic. -/
def read : LineParser Text :=
  LineParser.line ofLine? .notDiagnostic

end Diagnostic

/-! ## §2. The block under a test. -/

namespace Block

/-- The line that opens a block. -/
def opening : Line := "---".toList

/-- The line that closes a block. -/
def closing : Line := "...".toList

/-- The greatest count of lines: 2^63 - 1. -/
def longestCount : Int := 9223372036854775807

/-- How many lines are looked at for the end of a block of at most `limit`
lines: one more, for the closing line.  The count must be one that a list
can have. -/
def room (limit : Int) : Except Fault Nat :=
  if -1 ≤ limit ∧ limit < longestCount then .ok (limit + 1).toNat
  else if limit < -2 ∧ -longestCount ≤ limit + 2 then .error .limitNegative
  else .error .limitUnreachable

/-- Reads the rest of a block, from `c` on and within `n` lines; `found`
holds the lines so far, the latest first.  `none` if the block does not
end. -/
def rest (n : Nat) (c : Cursor) (found : List Line) :
    Except Fault (Option (List Line × Cursor)) :=
  match n with
  | 0 => .ok none
  | n + 1 =>
    match c.peek with
    | .error e => .error e
    | .ok none => .ok none
    | .ok (some line) =>
      if line = closing then .ok (some (found.reverse, c.next))
      else rest n c.next (line :: found)

/-- Reads a block of at most `limit` lines.  A block that cannot be read
mismatches where it starts. -/
def read (limit : Int) : LineParser (List Line) := fun c =>
  match c.peek with
  | .error e => .error e
  | .ok seen =>
    if seen = some opening then
      match room limit with
      | .error e => .error e
      | .ok n =>
        match rest n c.next [] with
        | .error e => .error e
        | .ok none => .ok (.mismatched (.blockNotClosed limit) c)
        | .ok (some (lines, next)) => .ok (.matched lines next)
    else .ok (.mismatched (.noBlockStart seen) c)

end Block

/-! ## §3. Tests and reports. -/

/-- How a report is laid out, and how much of it is read. -/
structure Layout where
  /-- The indentation of the block under a test. -/
  indent : Int
  /-- The most items that are read. -/
  itemLimit : Int
  /-- The most lines of one block. -/
  blockLimit : Int
  deriving DecidableEq, Repr

/-- Reads a test: its title, then what `block` reads. -/
def Test.readWith (block : LineParser (List Line)) : LineParser Test :=
  Title.read.bind fun title => block.map fun lines => ⟨title, lines⟩

/-- Reads a test with the block indented under its title. -/
def Test.read (indent blockLimit : Int) : LineParser Test :=
  Test.readWith (LineParser.within indent (Block.read blockLimit))

/-- Reads one item; `block` reads what follows the title of a test. -/
def Item.readWith (block : LineParser (List Line)) : LineParser Item :=
  LineParser.firstOf "TAP Lines".toList
    [Plan.read.map .plan, Diagnostic.read.map .diagnostic, (Test.readWith block).map .test]

/-- Reads one item. -/
def Item.read (layout : Layout) : LineParser Item :=
  Item.readWith (LineParser.within layout.indent (Block.read layout.blockLimit))

namespace Report

/-- The version line and the items of a report that was read. -/
structure Content where
  /-- The version that the report names. -/
  version : Int
  /-- The items, and why there are not more. -/
  body : LineParser.Repeated Item
  deriving DecidableEq, Repr

/-- Reads a report: its version line, then what `body` reads. -/
def readWith (body : LineParser (LineParser.Repeated Item)) : LineParser Content :=
  (Version.read protocolVersion).bind fun version => body.map fun items => ⟨version, items⟩

/-- Reads a report. -/
def read (layout : Layout) : LineParser Content :=
  readWith (LineParser.many layout.itemLimit (Item.read layout))

/-- What a report says. -/
def Content.document (content : Content) : Document :=
  Document.ofItems content.body.items

/-- Reads the report that some lines are. -/
def ofLines (layout : Layout) (lines : List Line) : Except Fault (Outcome Content) :=
  read layout (Cursor.ofLines lines)

end Report

end TapReport
