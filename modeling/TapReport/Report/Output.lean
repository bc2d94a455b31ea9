/-
  TapReport.Report.Output
  ───────────────────────
  **WRITING A DOCUMENT: AS JSON, AND AS A SUMMARY.**

  A part of a document that is absent has no entry in its JSON object, so
  the tree tells it from any part that is there.  The summary gives one line
  to the version, the plan, the counts, each failing test and the number of
  diagnostics.

  Main results:
    * `length_summaryLines` — how many lines a summary has.
-/
import TapReport.Data.Json
import TapReport.Report.Document

namespace TapReport

/-! ## §1. JSON. -/

/-- An entry that stands only if there is a value. -/
def optionalEntry {α : Type} (key : String) (toJson : α → Json) :
    Option α → List (Text × Json)
  | none => []
  | some a => [(key.toList, toJson a)]

/-- The tree of a plan inside a document. -/
def Plan.toJson (p : Plan) : Json :=
  .object [("start".toList, .int p.start), ("through".toList, .int p.through)]

/-- The tree of a title. -/
def Title.toJson (t : Title) : Json :=
  .object <| [("type".toList, .text "tapTestTitle".toList), ("ok".toList, .bool t.ok)]
    ++ optionalEntry "testNumber" .int t.number
    ++ optionalEntry "description" .text t.description
    ++ optionalEntry "diagnostic" .text t.directive

/-- The tree of a block. -/
def Block.toJson (lines : List Line) : Json :=
  .object [("type".toList, .text "yamlDocLines".toList),
    ("yamlDocLines".toList, .array (lines.map .text))]

/-- The tree of a test. -/
def Test.toJson (t : Test) : Json :=
  .object [("type".toList, .text "tapTest".toList), ("title".toList, t.title.toJson),
    ("yamlDocContents".toList, Block.toJson t.block)]

/-- The tree of an item that stands by itself. -/
def Item.toJson : Item → Json
  | .plan p => .object [("type".toList, .text "testPlan".toList), ("start".toList, .int p.start),
      ("through".toList, .int p.through)]
  | .diagnostic text => .object [("type".toList, .text "diagnostic".toList),
      ("diagnostic".toList, .text text)]
  | .test t => t.toJson

namespace Document

/-- The tree of a document. -/
def toJson (d : Document) : Json :=
  .object <| [("version".toList, .int d.version)]
    ++ optionalEntry "testPlan" Plan.toJson d.plan
    ++ [("diagnostics".toList, .array (d.diagnostics.map .text)),
      ("tests".toList, .array (d.tests.map Test.toJson))]

/-! ## §2. The summary. -/

/-- A blank and a text, if there is one that is not empty. -/
def afterBlank (t : Option Text) : Text :=
  match t with
  | none | some [] => []
  | some t => ' ' :: t

/-- The line of a failing test. -/
def failureLine (t : Title) : Line :=
  "  not ok".toList ++ afterBlank (t.number.map Text.ofInt) ++ afterBlank t.description

/-- The lines of a summary. -/
def summaryLines (d : Document) : List Line :=
  ["TAP version ".toList ++ Text.ofInt d.version]
    ++ (d.plan.map fun p =>
        "plan: ".toList ++ Text.ofInt p.start ++ "..".toList ++ Text.ofInt p.through).toList
    ++ ["tests: ".toList ++ Text.ofNat d.tests.length ++ " (".toList ++ Text.ofNat d.passed
        ++ " passed, ".toList ++ Text.ofNat d.failed ++ " failed)".toList]
    ++ (d.tests.filter (!·.title.ok)).map (failureLine ·.title)
    ++ ["diagnostics: ".toList ++ Text.ofNat d.diagnostics.length]

/-- The summary: its lines, with newlines between them. -/
def summary (d : Document) : Text :=
  Text.joinWith ['\n'] d.summaryLines

/-- A summary has three lines, one for a plan, and one for each failed test. -/
theorem length_summaryLines (d : Document) :
    d.summaryLines.length = 3 + (if d.plan.isSome then 1 else 0) + d.failed := by
  simp only [summaryLines, List.length_append, List.length_map, List.length_cons, List.length_nil,
    failed, List.countP_eq_length_filter]
  cases d.plan <;> simp <;> omega

end Document

end TapReport
