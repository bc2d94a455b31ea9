/-
  TapReport.Fault
  ───────────────
  **FAULTS: THE CAUSES THAT END A COMPUTATION.**

  A line that does not fit is an ordinary outcome and has a message of its
  own.  A fault is something else: a cursor asked for a line it does not
  have, a limit no list can reach, a numeral too long to read.  Each cause
  is one constructor, and `Fault.message` is the only place that words it.

  Main definition: `Fault.message`.
-/
import TapReport.Data.Binary64

namespace TapReport

/-- Why a computation on cursors cannot go on. -/
inductive Fault where
  /-- A line past the end was asked for, of a source with `size` lines. -/
  | noLine (line size : Nat)
  /-- A line outside the scope indented by `indent` was asked for. -/
  | outsideScope (line indent : Nat)
  /-- A step of a negative number of lines. -/
  | negativeStep (lines : Int)
  /-- A scope of negative indentation. -/
  | negativeIndent (indent : Int)
  /-- A scope indented by a fraction below zero. -/
  | negativeFraction (indent : Binary64)
  /-- A value of a kind that does not fit where it is used. -/
  | wrongKind (kind : Text)
  /-- A line was compared with an indentation no line can have. -/
  | indentTooWide
  /-- The scope of a cursor that is in none was to be left. -/
  | notInScope
  /-- A block limit above every list length, or one that is no number. -/
  | limitUnreachable
  /-- A block limit below every list length. -/
  | limitNegative
  /-- A numeral of more digits than can be read. -/
  | numeralTooLong (digits : Nat)
  deriving DecidableEq, Repr

/-- What is reported for a fault. -/
def Fault.message : Fault → Text
  | .noLine line size =>
    "No line at index ".toList ++ Text.ofNat line ++ ", the input has ".toList
      ++ Text.ofNat size ++ " lines".toList
  | .outsideScope line indent =>
    "Line ".toList ++ Text.ofNat line ++ " is outside the block indented by ".toList
      ++ Text.ofNat indent
  | .negativeStep lines =>
    "Cannot advance by a negative number of lines (".toList ++ Text.ofInt lines ++ ")".toList
  | .negativeIndent indent =>
    "\x60indent_level\x60 must be >= 0, got ".toList ++ Text.ofInt indent
  | .negativeFraction indent =>
    "\x60indent_level\x60 must be >= 0, got ".toList ++ indent.toText
  | .wrongKind kind => "a value of kind ".toList ++ kind ++ " does not fit here".toList
  | .indentTooWide => "cannot fit 'int' into an index-sized integer".toList
  | .notInScope => "the cursor is in no indented scope".toList
  | .limitUnreachable =>
    "Stop argument for islice() must be None or an integer: 0 <= x <= sys.maxsize.".toList
  | .limitNegative =>
    "Indices for islice() must be None or an integer: 0 <= x <= sys.maxsize.".toList
  | .numeralTooLong digits =>
    "Exceeds the limit (4300 digits) for integer string conversion: value has ".toList
      ++ Text.ofNat digits ++ " digits; use sys.set_int_max_str_digits() to increase the limit".toList

end TapReport
