/-
  TapReport.Mismatch
  ──────────────────
  **MISMATCHES: WHY LINES DO NOT FIT.**

  A parser that does not recognise the lines before it says why.  Each
  reason is one constructor; `Mismatch.message` words it.

  Main definition: `Mismatch.message`.
-/
import TapReport.Text.Numeral

namespace TapReport

/-- Why the lines at a cursor are not what was looked for. -/
inductive Mismatch where
  /-- The line is no version line. -/
  | notVersion
  /-- The line is no plan. -/
  | notPlan
  /-- The line is no diagnostic. -/
  | notDiagnostic
  /-- The line is no test line. -/
  | notTitle
  /-- The report is of another version. -/
  | wrongVersion (expected received : Int)
  /-- The directive of a test line is neither `todo` nor `skip`. -/
  | unknownDirective (word : Text)
  /-- No block starts here; `seen` is the line in view, if any. -/
  | noBlockStart (seen : Option Line)
  /-- A block has not ended within `limit` lines. -/
  | blockNotClosed (limit : Int)
  /-- None of the alternatives called `label` fits. -/
  | noAlternative (label : Text)
  /-- Any other reason, in its own words. -/
  | other (message : Text)
  deriving DecidableEq, Repr

/-- What is reported for a mismatch. -/
def Mismatch.message : Mismatch → Text
  | .notVersion => "Not a TAP version".toList
  | .notPlan => "Not a test plan".toList
  | .notDiagnostic => "Not a diagnostic line".toList
  | .notTitle => "Not a tap test result line".toList
  | .wrongVersion expected received =>
    "Unexpected TAP version: Expected ".toList ++ Text.ofInt expected ++ ", received ".toList
      ++ Text.ofInt received
  | .unknownDirective word =>
    "Unexpected test diagnostic value \"".toList ++ word
      ++ "\", only \"todo\" and \"skip\" are valid".toList
  | .noBlockStart seen =>
    "Expected a TAP YAML document separator (\"---\") but received ".toList
      ++ seen.getD "None".toList
  | .blockNotClosed limit =>
    "Didn't encounter a YAML line delimiter before configured limit of ".toList
      ++ Text.ofInt limit ++ " lines.".toList
  | .noAlternative label =>
    "Failed to match any parser in sequence \"".toList ++ label ++ "\"".toList
  | .other message => message

end TapReport
