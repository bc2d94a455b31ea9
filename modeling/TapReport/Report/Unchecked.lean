/-
  TapReport.Report.Unchecked
  ──────────────────────────
  **READING A REPORT WITH SETTINGS THAT NOBODY HAS CHECKED.**

  A setting of any kind does no harm as long as reading does not need it:
  the limit of items is needed after the version line, the indentation after
  the title of a test, the limit of a block after the line that opens it.
  Truth values count as one and zero there.  Of fractions the limit of items
  can make sense, the others cannot; anything else is a fault.

  Main definition: `Report.readUnchecked`.
-/
import TapReport.Report.Source

namespace TapReport

/-! ## §1. Each setting. -/

/-- The most items that a limit of any kind lets through, of a report of
`size` lines.  A fraction lets through as many as there are whole numbers
from zero below it, and what is not a number none; infinity lets all items
through, of which there are no more than lines. -/
def Value.itemLimit? (size : Nat) : Value → Option Int
  | .float (.infinite false) => some size
  | .float x => some (x.ceiling?.getD 0)
  | v => v.whole?

/-- Repeats a parser within a limit of any kind. -/
def LineParser.manyUnchecked {α : Type} (limit : Value) (p : LineParser α) :
    LineParser (LineParser.Repeated α) := fun c =>
  match limit.itemLimit? c.source.size with
  | some n => LineParser.many n p c
  | none => .error (.wrongKind limit.kindName)

namespace Block

/-- Why a limit that is no whole number ends reading. -/
def limitFault : Value → Fault
  | .float _ => .limitUnreachable
  | limit => .wrongKind limit.kindName

/-- Reads a block within a limit of any kind. -/
def readUnchecked (limit : Value) : LineParser (List Line) :=
  match limit.whole? with
  | some n => read n
  | none => fun c =>
    match c.peek with
    | .error e => .error e
    | .ok seen =>
      if seen = some opening then .error (limitFault limit)
      else .ok (.mismatched (.noBlockStart seen) c)

/-- Why an indentation that is no whole number ends reading, where `seen` is
the line to be looked at.  Only a fraction that is not below zero does no
harm where there is no line. -/
def indentFault? (seen : Option Line) : Value → Option Fault
  | .float x =>
    if x.isBelowZero then some (.negativeFraction x)
    else seen.map fun _ => .wrongKind (Value.float x).kindName
  | indent => some (.wrongKind indent.kindName)

/-- Reads a block with an indentation and within a limit of any kind. -/
def readIndented (indent limit : Value) : LineParser (List Line) :=
  match indent.whole? with
  | some k => LineParser.within k (readUnchecked limit)
  | none => fun c =>
    match c.peek with
    | .error e => .error e
    | .ok seen =>
      match indentFault? seen indent with
      | some e => .error e
      | none => .ok (.mismatched (.noBlockStart none) c)

end Block

/-! ## §2. The report. -/

namespace Report

/-- Reads a report with settings of any kind. -/
def readUnchecked (s : RawSettings) : LineParser Content :=
  readWith (LineParser.manyUnchecked s.itemLimit
    (Item.readWith (Block.readIndented s.indentLevel s.blockLimit)))

end Report

end TapReport
