/-
  TapReport.Cursor
  ────────────────
  **CURSORS: A PLACE IN A LIST OF LINES, SEEN THROUGH NESTED INDENTATION.**

  A cursor points at one line of a fixed source.  It may be inside any
  number of indented *scopes*; a line is in view only if it carries the
  indentation of every scope, and it is seen with that indentation removed.
  A scope ends at the first line that is not indented enough, or where the
  source ends.

  The one look at the source is `peek`: everything else a recogniser learns
  about the text goes through it.

  Main results:
    * `peek_eq_view` — where no scope is too wide for any line, looking
      cannot go wrong and shows `view`.
    * `isDone_eq_true_iff`, `getLine_eq_ok_iff` — a cursor is done exactly
      when nothing is in view, and a line is given out exactly when it is.
    * `forward_forward` — two steps are one.
-/
import TapReport.Fault

namespace TapReport

/-! ## §1. Indentation of one line. -/

/-- The widest indentation a line can be compared with: 2^63 - 1, the most
characters that a text can be asked to have.  A comparison lays out as many
spaces; that there is memory for them is assumed here, and with less memory a
comparison fails before this bound is reached. -/
def widestIndent : Nat := 9223372036854775807

/-- The line without `k` leading spaces, if it has them. -/
def outdentLine? : Nat → Line → Option Line
  | 0, line => some line
  | k + 1, ' ' :: line => outdentLine? k line
  | _ + 1, _ => none

/-- A line that has `k` leading spaces is these spaces and what is left. -/
theorem outdentLine?_eq_some_iff {k : Nat} {line rest : Line} :
    outdentLine? k line = some rest ↔ line = List.replicate k ' ' ++ rest := by
  induction k generalizing line with
  | zero => simp [outdentLine?]
  | succ k ih =>
    rcases line with _ | ⟨c, line⟩
    · simp [outdentLine?]
    · by_cases hc : c = ' '
      · subst hc; simp [outdentLine?, List.replicate_succ, ih]
      · have hn : outdentLine? (k + 1) (c :: line) = none := by
          unfold outdentLine?; split <;> simp_all
        simp [hn, List.replicate_succ, hc]

/-- What is seen of a line inside scopes of the given indentations, the
innermost scope first. -/
def viewLine : List Nat → Line → Option Line
  | [], line => some line
  | k :: outer, line => (viewLine outer line).bind (outdentLine? k)

/-- The same look when a scope may be too wide for any line: it goes wrong
where such a scope has a line to compare. -/
def viewLineChecked : List Nat → Line → Except Fault (Option Line)
  | [], line => .ok (some line)
  | k :: outer, line => do
    match ← viewLineChecked outer line with
    | none => .ok none
    | some line => if k ≤ widestIndent then .ok (outdentLine? k line) else .error .indentTooWide

/-- With scopes that a line can be compared with, nothing goes wrong. -/
theorem viewLineChecked_eq {indents : List Nat} (h : ∀ k ∈ indents, k ≤ widestIndent)
    (line : Line) : viewLineChecked indents line = .ok (viewLine indents line) := by
  induction indents with
  | nil => rfl
  | cons k outer ih =>
    have hk : k ≤ widestIndent := h k (by simp)
    simp only [viewLineChecked, viewLine, ih fun i hi => h i (by simp [hi])]
    cases viewLine outer line <;> simp [bind, Except.bind, hk]

/-! ## §2. Cursors. -/

/-- A place in a source of lines. -/
structure Cursor where
  /-- The lines that are read. -/
  source : Array Line
  /-- The index of the current line, from zero; it may lie past the end. -/
  line : Nat
  /-- The column reported for the current line outside all scopes. -/
  column : Int
  /-- The indentations of the scopes it is inside, the innermost first. -/
  indents : List Nat
  deriving DecidableEq, Repr

namespace Cursor

/-- The beginning of some lines, outside all scopes. -/
def ofLines (lines : List Line) : Cursor :=
  ⟨lines.toArray, 0, 0, []⟩

/-- No scope is wider than a line can be. -/
def Fits (c : Cursor) : Prop :=
  ∀ k ∈ c.indents, k ≤ widestIndent

instance (c : Cursor) : Decidable c.Fits :=
  inferInstanceAs (Decidable (∀ k ∈ c.indents, k ≤ widestIndent))

/-- The line in view, where no scope is too wide. -/
def view (c : Cursor) : Option Line :=
  c.source[c.line]?.bind (viewLine c.indents)

/-- Looks at the current line. -/
def peek (c : Cursor) : Except Fault (Option Line) :=
  match c.source[c.line]? with
  | none => .ok none
  | some line => viewLineChecked c.indents line

/-- A look from a cursor that fits shows what is in view. -/
theorem peek_eq_view {c : Cursor} (h : c.Fits) : c.peek = .ok c.view := by
  unfold peek view
  cases c.source[c.line]? with
  | none => rfl
  | some line => simpa using viewLineChecked_eq h line

/-- Whether no line is in view. -/
def isDone (c : Cursor) : Except Fault Bool :=
  c.peek.map Option.isNone

/-- A cursor is done exactly when a look shows no line. -/
theorem isDone_eq_true_iff {c : Cursor} : c.isDone = .ok true ↔ c.peek = .ok none := by
  unfold isDone
  cases c.peek with
  | error e => simp [Except.map]
  | ok seen => simp [Except.map]

/-- The line in view; it is a fault to ask where there is none. -/
def getLine (c : Cursor) : Except Fault Line :=
  match c.peek with
  | .error e => .error e
  | .ok (some line) => .ok line
  | .ok none => .error <| match c.indents with
    | [] => .noLine c.line c.source.size
    | k :: _ => .outsideScope c.line k

/-- A line is given out exactly when a look shows it. -/
theorem getLine_eq_ok_iff {c : Cursor} {line : Line} :
    c.getLine = .ok line ↔ c.peek = .ok (some line) := by
  unfold getLine
  split <;> simp_all

/-- The column that is reported: the scopes count. -/
def reportedColumn (c : Cursor) : Int :=
  c.column + (c.indents.foldr (· + ·) 0 : Nat)

/-! ## §3. Moving. -/

/-- Goes `n` lines on, at most to the end of the source. -/
def forward (n : Nat) (c : Cursor) : Cursor :=
  { c with line := min (c.line + n) c.source.size, column := 0 }

/-- Goes one line on. -/
def next (c : Cursor) : Cursor :=
  c.forward 1

/-- Goes a given number of lines on, which must not be negative. -/
def advance (n : Int) (c : Cursor) : Except Fault Cursor :=
  if n < 0 then .error (.negativeStep n) else .ok (c.forward n.toNat)

@[simp] theorem forward_source (n : Nat) (c : Cursor) : (c.forward n).source = c.source := rfl

@[simp] theorem forward_indents (n : Nat) (c : Cursor) : (c.forward n).indents = c.indents := rfl

/-- Two steps are one. -/
theorem forward_forward (m n : Nat) (c : Cursor) :
    (c.forward n).forward m = c.forward (n + m) := by
  simp only [forward, Cursor.mk.injEq, true_and, and_true]
  omega

/-- The cursors at this and the following lines, up to the first that has no
line in view. -/
def lines (c : Cursor) : Except Fault (List Cursor) :=
  inView <| (List.range' c.line (c.source.size - c.line)).map fun i =>
    { c with line := i, column := 0 }
where
  /-- The cursors before the first that has no line in view. -/
  inView : List Cursor → Except Fault (List Cursor)
    | [] => .ok []
    | c :: rest => do
      match ← c.peek with
      | none => .ok []
      | some _ => (c :: ·) <$> inView rest

/-! ## §4. Scopes. -/

/-- Enters a scope indented by `k`, which must not be negative. -/
def enter (k : Int) (c : Cursor) : Except Fault Cursor :=
  if k < 0 then .error (.negativeIndent k) else .ok { c with indents := k.toNat :: c.indents }

/-- Leaves the innermost scope, if the cursor is in any. -/
def leave (c : Cursor) : Cursor :=
  { c with indents := c.indents.tail }

/-- Leaves the innermost scope; it is a fault if there is none. -/
def leaveChecked (c : Cursor) : Except Fault Cursor :=
  if c.indents.isEmpty then .error .notInScope else .ok c.leave

end Cursor

end TapReport
