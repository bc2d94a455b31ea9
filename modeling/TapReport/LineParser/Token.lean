/-
  TapReport.LineParser.Token
  ──────────────────────────
  **TOKENS OF ALL KINDS IN ONE TYPE.**

  A parser put together at will reads tokens of different kinds one after
  another.  `Token` is the type of them all, and each parser of reports has
  a form that yields it.

  Main definitions:
    * `LineParser.sequence`, `LineParser.repetition` — the combinators on
      parsers of tokens.
    * `Token.ofContent` — a report as a token.
-/
import TapReport.Data.Value
import TapReport.Report.Reader

namespace TapReport

/-- Anything that a parser can read. -/
inductive Token where
  /-- The parts of a recognised line, absent ones included. -/
  | captures (parts : List (Option Text))
  /-- A version. -/
  | version (n : Int)
  /-- An item of a report. -/
  | item (item : Item)
  /-- A title. -/
  | title (title : Title)
  /-- The lines of a block. -/
  | block (lines : List Line)
  /-- The tokens of parsers run in order. -/
  | sequence (tokens : List Token)
  /-- The tokens of a repetition, with its tag. -/
  | many (tag : Text) (tokens : List Token)
  /-- A plain value. -/
  | value (v : Value)

namespace LineParser

/-- Runs parsers in order and gathers their tokens. -/
def sequence (ps : List (LineParser Token)) : LineParser Token :=
  (inOrder ps).map .sequence

/-- Repeats a parser and gathers its tokens under a tag. -/
def repetition (tag : Text) (limit : Int) (p : LineParser Token) : LineParser Token :=
  (many limit p).map fun found => .many tag found.items

end LineParser

/-- The tokens of a report: its version, and its items under the tag
`lines`. -/
def Token.ofContent (content : Report.Content) : Token :=
  .sequence [.version content.version,
    .many "lines".toList (content.body.items.map .item)]

/-- The parts of a line that one of the report's line forms recognises. -/
inductive LineForm where
  /-- A version line. -/
  | version
  /-- A plan. -/
  | plan
  /-- A diagnostic. -/
  | diagnostic
  /-- A test line. -/
  | title
  deriving DecidableEq, Repr

/-- What a form captures of a line that it recognises. -/
def LineForm.captures? : LineForm → Line → Option (List (Option Text))
  | .version, line => (Version.ofLine? line).map fun digits => [some digits]
  | .plan, line => (Plan.ofLine? line).map fun (start, through) => [some start, some through]
  | .diagnostic, line => (Diagnostic.ofLine? line).map fun text => [some text]
  | .title, line => (TitleParts.ofLine? line).map TitleParts.captures

end TapReport
