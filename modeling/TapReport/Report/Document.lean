/-
  TapReport.Report.Document
  ─────────────────────────
  **WHAT A REPORT SAYS.**

  The body of a report is a list of items: plans, diagnostics and tests, in
  any order.  A document gathers them: the last plan, all diagnostics and
  all tests, each in order.

  Main results:
    * `diagnostics_ofItems`, `tests_ofItems`, `plan_ofItems` — each part of
      a document is a filter of the items.
    * `passed_add_failed` — every test passed or failed.
-/
import TapReport.Text.Numeral

namespace TapReport

/-! ## §1. Items. -/

/-- The version of the protocol that is read. -/
def protocolVersion : Int := 13

/-- The range of test numbers that a report announces. -/
structure Plan where
  /-- The first number. -/
  start : Int
  /-- The last number. -/
  through : Int
  deriving DecidableEq, Repr

/-- The first line of a test. -/
structure Title where
  /-- Whether the test passed. -/
  ok : Bool
  /-- Its number, if it has one. -/
  number : Option Int
  /-- What was tested, if it says so. -/
  description : Option Text
  /-- Why it is special: `todo` or `skip` in a report that was read. -/
  directive : Option Text
  deriving DecidableEq, Repr

/-- A test: its title, and the lines of the block under it. -/
structure Test where
  /-- The title. -/
  title : Title
  /-- The lines of the block, without its delimiters. -/
  block : List Line
  deriving DecidableEq, Repr

/-- One item of a report's body. -/
inductive Item where
  /-- A plan. -/
  | plan (plan : Plan)
  /-- A diagnostic, without its leading `# `. -/
  | diagnostic (text : Text)
  /-- A test with its block. -/
  | test (test : Test)
  deriving DecidableEq, Repr

/-- How many lines an item takes. -/
def Item.size : Item → Nat
  | .plan _ | .diagnostic _ => 1
  | .test t => 3 + t.block.length

/-! ## §2. Documents. -/

/-- All that a report says. -/
structure Document where
  /-- The version of the protocol. -/
  version : Int
  /-- The plan, if there is one. -/
  plan : Option Plan
  /-- The diagnostics in order. -/
  diagnostics : List Text
  /-- The tests in order. -/
  tests : List Test
  deriving DecidableEq, Repr

namespace Document

/-- A document that says nothing yet. -/
def empty : Document :=
  ⟨protocolVersion, none, [], []⟩

/-- Puts one more item in front.  A plan counts only if no later one does. -/
def cons (item : Item) (d : Document) : Document :=
  match item with
  | .plan p => { d with plan := d.plan.or (some p) }
  | .diagnostic text => { d with diagnostics := text :: d.diagnostics }
  | .test t => { d with tests := t :: d.tests }

/-- The document of a list of items. -/
def ofItems (items : List Item) : Document :=
  items.foldr cons empty

/-- How many tests passed. -/
def passed (d : Document) : Nat :=
  d.tests.countP (·.title.ok)

/-- How many tests failed. -/
def failed (d : Document) : Nat :=
  d.tests.countP (!·.title.ok)

/-- Every test passed or failed. -/
theorem passed_add_failed (d : Document) : d.passed + d.failed = d.tests.length := by
  have := List.length_eq_countP_add_countP (fun t : Test => t.title.ok) (l := d.tests)
  simp only [passed, failed]
  rw [this]
  congr 2
  funext t
  simp

/-! ## §3. The parts of a gathered document. -/

/-- A document is of the version of the protocol, whatever is in it. -/
@[simp] theorem version_ofItems (items : List Item) :
    (ofItems items).version = protocolVersion := by
  induction items with
  | nil => rfl
  | cons item items ih => cases item <;> simpa [ofItems, cons] using ih

/-- The diagnostics of a document are those among its items. -/
theorem diagnostics_ofItems (items : List Item) :
    (ofItems items).diagnostics
      = items.filterMap fun | .diagnostic text => some text | _ => none := by
  induction items with
  | nil => rfl
  | cons item items ih => cases item <;> simpa [ofItems, cons] using ih

/-- The tests of a document are those among its items. -/
theorem tests_ofItems (items : List Item) :
    (ofItems items).tests = items.filterMap fun | .test t => some t | _ => none := by
  induction items with
  | nil => rfl
  | cons item items ih => cases item <;> simpa [ofItems, cons] using ih

/-- The plan of a document is the last among its items. -/
theorem plan_ofItems (items : List Item) :
    (ofItems items).plan
      = (items.filterMap fun | .plan p => some p | _ => none).getLast? := by
  induction items with
  | nil => rfl
  | cons item items ih =>
    cases item with
    | plan p =>
      change (ofItems items).plan.or (some p) = _
      rw [ih]
      simp [List.getLast?_cons]
    | diagnostic text => simpa [ofItems, cons] using ih
    | test t => simpa [ofItems, cons] using ih

end Document

end TapReport
