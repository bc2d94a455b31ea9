/-
  TapReport.Proofs.LineParser.Nesting
  ───────────────────────────────────
  **NESTED INDENTATION ADDS UP.**

  A scope inside a scope hides a line twice: once for each indentation.  What
  is left to see is what one scope of both indentations together would show,
  and the reported column counts both anyway.  So of the scopes that a cursor
  is in only the total matters, wherever in the stack they stand, and a scope
  of no indentation might as well not be there.

      totalIndent       the indentation of all scopes together
      Cursor.Sight      all that can be seen of a cursor without a parser
      Outcome.shown     all that is told of a parser's outcome
      Cursor.Restacked  cursors in stacks of scopes of one total

  Main results:
    * `viewLine_eq_outdentLine?` — nested scopes are one scope of their total.
    * `Cursor.restacked_simulates` — stacks of one total show the same lines.
    * `Cursor.nested_indistinguishable` — two scopes and one, seen after any
      steps and read by any grammar.
-/
import Mathlib.Data.List.Forall2
import TapReport.Proofs.LineParser.Indentation

namespace TapReport

/-! ## §1. Indentations of one line. -/

/-- Taking away two indentations is taking away both at once. -/
theorem outdentLine?_add (a b : Nat) (line : Line) :
    outdentLine? (a + b) line = (outdentLine? a line).bind (outdentLine? b) := by
  ext rest
  rw [outdentLine?_eq_some_iff, Option.bind_eq_some_iff, ← List.replicate_append_replicate]
  constructor
  · intro h
    refine ⟨List.replicate b ' ' ++ rest, ?_, outdentLine?_eq_some_iff.mpr rfl⟩
    rw [outdentLine?_eq_some_iff, h, List.append_assoc]
  · intro h
    obtain ⟨outer, houter, hrest⟩ := h
    rw [outdentLine?_eq_some_iff] at houter hrest
    rw [houter, hrest, List.append_assoc]

/-- The indentation of all scopes together. -/
def totalIndent (indents : List Nat) : Nat :=
  indents.foldr (· + ·) 0

@[simp] theorem totalIndent_nil : totalIndent [] = 0 := rfl

@[simp] theorem totalIndent_cons (k : Nat) (indents : List Nat) :
    totalIndent (k :: indents) = k + totalIndent indents := rfl

@[simp] theorem totalIndent_append (inner outer : List Nat) :
    totalIndent (inner ++ outer) = totalIndent inner + totalIndent outer := by
  induction inner with
  | nil => simp
  | cons k inner ih => simp [ih, Nat.add_assoc]

/-- **Nested scopes show what one scope of their total shows.** -/
theorem viewLine_eq_outdentLine? (indents : List Nat) (line : Line) :
    viewLine indents line = outdentLine? (totalIndent indents) line := by
  -- induction from the innermost scope outwards, as `viewLine` recurs
  induction indents with
  | nil => rfl
  | cons k outer ih => rw [viewLine, ih, totalIndent_cons, Nat.add_comm, outdentLine?_add]

/-- So scopes that fit show the same lines if they have the same total. -/
theorem viewLineChecked_of_total_eq {front front' : List Nat} (h : ∀ k ∈ front, k ≤ widestIndent)
    (h' : ∀ k ∈ front', k ≤ widestIndent) (htotal : totalIndent front = totalIndent front')
    (line : Line) :
    viewLineChecked front line = viewLineChecked front' line := by
  rw [viewLineChecked_eq h, viewLineChecked_eq h', viewLine_eq_outdentLine?,
      viewLine_eq_outdentLine?, htotal]

theorem eq_indentTooWide_of_viewLineChecked {indents : List Nat} {line : Line} {e : Fault}
    (h : viewLineChecked indents line = .error e) : e = .indentTooWide := by
  induction indents with
  | nil => exact absurd h (by simp [viewLineChecked])
  | cons k outer ih =>
    rw [viewLineChecked] at h
    cases houter : viewLineChecked outer line with
    | error e' =>
      rw [houter] at h
      obtain rfl : e' = e := Except.error.inj h
      exact ih houter
    | ok seen =>
      rw [houter] at h
      cases seen with
      | none => exact absurd h (by simp [bind, Except.bind])
      | some seen =>
        by_cases hk : k ≤ widestIndent
        · exact absurd h (by simp [bind, Except.bind, hk])
        · obtain rfl : Fault.indentTooWide = e := by simpa [bind, Except.bind, hk] using h
          rfl

/-! ## §2. What can be seen. -/

theorem mapM_congr_of_forall₂ {α β γ : Type} {f : α → Except Fault γ} {g : β → Except Fault γ}
    {as : List α} {bs : List β} (h : List.Forall₂ (fun a b => f a = g b) as bs) :
    as.mapM f = bs.mapM g := by
  induction h with
  | nil => rfl
  | cons hab _ ih => rw [List.mapM_cons, List.mapM_cons, hab, ih]

/-- Whether a fault says that there is no line to give out. -/
def Fault.saysNoLine : Fault → Bool
  | .noLine _ _ | .outsideScope _ _ => true
  | _ => false

namespace Cursor

/-- The line that a cursor gives out, if it has one. -/
def givenLine (c : Cursor) : Except Fault (Option Line) :=
  match c.getLine with
  | .ok line => .ok (some line)
  | .error e => if e.saysNoLine then .ok none else .error e

/-- The following lines with their places, up to the first that is not in
view. -/
def givenLines (c : Cursor) : Except Fault (List (Nat × Int × Line)) := do
  (← c.lines).mapM fun d => do
    return (d.line, d.reportedColumn, ← d.getLine)

/-- All that can be seen of a cursor. -/
structure Sight where
  /-- Whether no line is in view. -/
  isDone : Except Fault Bool
  /-- The line in view. -/
  line : Except Fault (Option Line)
  /-- The line and column that are reported. -/
  place : Nat × Int
  /-- This and the following lines, each with its place. -/
  lines : Except Fault (List (Nat × Int × Line))

/-- What can be seen of a cursor. -/
def sight (c : Cursor) : Sight :=
  ⟨c.isDone, c.givenLine, (c.line, c.reportedColumn), c.givenLines⟩

/-- Goes on in several steps. -/
def forwardAll (steps : List Nat) (c : Cursor) : Cursor :=
  steps.foldl (fun d n => d.forward n) c

/-- Looking goes wrong only where a scope is too wide. -/
theorem eq_indentTooWide_of_peek {c : Cursor} {e : Fault} (h : c.peek = .error e) :
    e = .indentTooWide := by
  rw [peek_eq_head?] at h
  split at h
  · exact absurd h (by simp)
  · exact eq_indentTooWide_of_viewLineChecked h

/-- Looking at a line is being given it. -/
theorem givenLine_eq_peek (c : Cursor) : c.givenLine = c.peek := by
  unfold givenLine getLine
  cases hpeek : c.peek with
  | ok seen =>
    cases seen with
    | some line => rfl
    | none => cases c.indents <;> rfl
  | error e =>
    obtain rfl := eq_indentTooWide_of_peek hpeek
    rfl

/-! ## §3. Stacks of one total. -/

/-- Two cursors at one place, in the scopes `outer`, inside these in `front`
and in `front'`, and in the same scopes inside those. -/
structure Restacked (front front' outer : List Nat) (c d : Cursor) : Prop where
  /-- The source is the same. -/
  source_eq : c.source = d.source
  /-- So is the line. -/
  line_eq : c.line = d.line
  /-- And the column outside all scopes. -/
  column_eq : c.column = d.column
  /-- The scopes differ in the middle only. -/
  indents_eq : ∃ inner,
    c.indents = inner ++ (front ++ outer) ∧ d.indents = inner ++ (front' ++ outer)

/-- Scopes of one total that all fit. -/
structure SameTotal (front front' : List Nat) : Prop where
  /-- The ones fit. -/
  fits : ∀ k ∈ front, k ≤ widestIndent
  /-- The others fit. -/
  fits' : ∀ k ∈ front', k ≤ widestIndent
  /-- The total is the same. -/
  total_eq : totalIndent front = totalIndent front'

variable {front front' outer : List Nat} {c d : Cursor}

theorem Restacked.remaining_eq (h : Restacked front front' outer c d) :
    c.remaining = d.remaining := by
  unfold remaining
  rw [h.source_eq, h.line_eq]

/-- Scopes of one total show the same line. -/
theorem Restacked.peek_eq (hsame : SameTotal front front') (h : Restacked front front' outer c d) :
    c.peek = d.peek := by
  obtain ⟨inner, hc, hd⟩ := h.indents_eq
  rw [peek_eq_head?, peek_eq_head?, h.remaining_eq, hc, hd]
  cases d.remaining.head? with
  | none => rfl
  | some line =>
    simp only [viewLineChecked_append]
    cases viewLineChecked outer line with
    | error e => rfl
    | ok seen =>
      cases seen with
      | none => rfl
      | some seen =>
        simp only [viewLineChecked_of_total_eq hsame.fits hsame.fits' hsame.total_eq]

/-- And the same column. -/
theorem Restacked.reportedColumn_eq (hsame : SameTotal front front')
    (h : Restacked front front' outer c d) : c.reportedColumn = d.reportedColumn := by
  obtain ⟨inner, hc, hd⟩ := h.indents_eq
  show c.column + (totalIndent c.indents : Int) = d.column + (totalIndent d.indents : Int)
  rw [hc, hd, h.column_eq]
  simp only [totalIndent_append, hsame.total_eq]

theorem Restacked.forward (h : Restacked front front' outer c d) (n : Nat) :
    Restacked front front' outer (c.forward n) (d.forward n) where
  source_eq := h.source_eq
  line_eq := by
    show min (c.line + n) c.source.size = min (d.line + n) d.source.size
    rw [h.source_eq, h.line_eq]
  column_eq := rfl
  indents_eq := h.indents_eq

theorem Restacked.forwardAll (h : Restacked front front' outer c d) (steps : List Nat) :
    Restacked front front' outer (c.forwardAll steps) (d.forwardAll steps) := by
  induction steps generalizing c d with
  | nil => exact h
  | cons n steps ih => exact ih (h.forward n)

theorem fits_forwardAll (h : c.Fits) (steps : List Nat) : (c.forwardAll steps).Fits := by
  induction steps generalizing c with
  | nil => exact h
  | cons n steps ih => exact ih (fits_forward h n)

/-- **Stacks of one total show the same lines**, wherever reading goes on to. -/
theorem restacked_simulates (hsame : SameTotal front front') (outer : List Nat) :
    Simulates (Restacked front front' outer) where
  peek h := h.peek_eq hsame
  next h _ := h.forward 1
  inside h k := by
    obtain ⟨inner, hc, hd⟩ := h.indents_eq
    refine ⟨h.source_eq, h.line_eq, h.column_eq, k :: inner, ?_, ?_⟩
    · exact congrArg (k :: ·) hc
    · exact congrArg (k :: ·) hd
  leave := by
    intro c d next next' k hcd hnext hreach
    -- more scopes than `front` and `outer` were entered, so the one that is
    -- left is none of these
    obtain ⟨inner, hc, hd⟩ := hnext.indents_eq
    have hlength : (k :: c.indents).length ≤ next.indents.length := hreach.scopes.length_le
    obtain ⟨start, hstart, -⟩ := hcd.indents_eq
    have hne : inner ≠ [] := by
      intro hnil
      rw [hc, hstart, hnil] at hlength
      simp only [List.nil_append, List.length_cons, List.length_append] at hlength
      omega
    refine ⟨hnext.source_eq, hnext.line_eq, hnext.column_eq, inner.tail, ?_, ?_⟩
    · show next.indents.tail = _
      rw [hc, List.tail_append_of_ne_nil hne]
    · show next'.indents.tail = _
      rw [hd, List.tail_append_of_ne_nil hne]

/-! ## §4. The lines from a cursor on. -/

/-- Of cursors in stacks of one total the same are in view. -/
theorem inView_restacked (hsame : SameTotal front front') {cs ds : List Cursor}
    (h : List.Forall₂ (Restacked front front' outer) cs ds) :
    (∃ e, lines.inView cs = .error e ∧ lines.inView ds = .error e)
      ∨ ∃ seen seen', lines.inView cs = .ok seen ∧ lines.inView ds = .ok seen'
        ∧ List.Forall₂ (fun c d => Restacked front front' outer c d
          ∧ ∃ line, d.getLine = .ok line) seen seen' := by
  induction h with
  | nil => exact .inr ⟨[], [], rfl, rfl, .nil⟩
  | @cons c d cs ds hcd _ ih =>
    rw [lines.inView, lines.inView, hcd.peek_eq hsame]
    cases hpeek : d.peek with
    | error e => exact .inl ⟨e, rfl, rfl⟩
    | ok seen =>
      cases seen with
      | none => exact .inr ⟨[], [], rfl, rfl, .nil⟩
      | some line =>
        have hline : d.getLine = .ok line := getLine_eq_ok_iff.mpr hpeek
        obtain ⟨e, hc, hd⟩ | ⟨seen, seen', hc, hd, hall⟩ := ih
        · exact .inl ⟨e, by rw [hc]; rfl, by rw [hd]; rfl⟩
        · refine .inr ⟨c :: seen, d :: seen', by rw [hc]; rfl, by rw [hd]; rfl, ?_⟩
          exact .cons ⟨hcd, line, hline⟩ hall

theorem Restacked.givenLines_eq (hsame : SameTotal front front')
    (h : Restacked front front' outer c d) : c.givenLines = d.givenLines := by
  -- the cursors that follow are at the same places in the same scopes
  have hall : List.Forall₂ (Restacked front front' outer)
      ((List.range' c.line (c.source.size - c.line)).map fun i => { c with line := i, column := 0 })
      ((List.range' d.line (d.source.size - d.line)).map fun i =>
        { d with line := i, column := 0 }) := by
    rw [h.source_eq, h.line_eq, List.forall₂_map_left_iff, List.forall₂_map_right_iff,
        List.forall₂_same]
    exact fun i _ => ⟨rfl, rfl, rfl, h.indents_eq⟩
  obtain ⟨e, hc, hd⟩ | ⟨seen, seen', hc, hd, hseen⟩ := inView_restacked hsame hall
  · unfold givenLines lines
    rw [hc, hd]
  · unfold givenLines lines
    rw [hc, hd]
    apply mapM_congr_of_forall₂
    refine hseen.imp ?_
    rintro c d ⟨hcd, line, hline⟩
    have hline' : c.getLine = .ok line := by
      rw [getLine_eq_ok_iff, hcd.peek_eq hsame]
      exact getLine_eq_ok_iff.mp hline
    rw [hline, hline', hcd.line_eq, hcd.reportedColumn_eq hsame]

/-- **Stacks of one total cannot be told apart** by looking. -/
theorem Restacked.sight_eq (hsame : SameTotal front front')
    (h : Restacked front front' outer c d) : c.sight = d.sight := by
  have hdone : c.isDone = d.isDone := congrArg (Except.map Option.isNone) (h.peek_eq hsame)
  have hline : c.givenLine = d.givenLine := by
    rw [givenLine_eq_peek, givenLine_eq_peek, h.peek_eq hsame]
  unfold sight
  rw [hdone, hline, h.line_eq, h.reportedColumn_eq hsame, h.givenLines_eq hsame]

end Cursor

/-! ## §5. Parsers in nested scopes. -/

/-- What is told of an outcome: the token and the place after it, or the
mismatch as it is reported. -/
def Outcome.shown {α : Type} : Outcome α → (α × Nat × Int) ⊕ Text
  | .matched a next => .inl (a, next.line, next.reportedColumn)
  | .mismatched reason place => .inr (reason.report place)

/-- Results that agree at places of one line and column are told alike. -/
theorem Agree.shown_eq {α : Type} {R : Cursor → Cursor → Prop} {r r' : Except Fault (Outcome α)}
    (h : Agree R r r')
    (hR : ∀ c d, R c d → c.line = d.line ∧ c.reportedColumn = d.reportedColumn) :
    r.map Outcome.shown = r'.map Outcome.shown := by
  cases h with
  | matched a hnext =>
    obtain ⟨hline, hcolumn⟩ := hR _ _ hnext
    simp only [Except.map, Outcome.shown, hline, hcolumn]
  | mismatched reason hplace =>
    obtain ⟨hline, hcolumn⟩ := hR _ _ hplace
    simp only [Except.map, Outcome.shown, Mismatch.report, hline, hcolumn]
  | error e => rfl

/-- **Stacks of one total cannot be told apart** by reading. -/
theorem Grammar.shown_eq_of_restacked (g : Grammar) {front front' outer : List Nat}
    (hsame : Cursor.SameTotal front front') {c d : Cursor}
    (h : Cursor.Restacked front front' outer c d) :
    (g.parser c).map Outcome.shown = (g.parser d).map Outcome.shown := by
  have hagree := g.respects (Cursor.restacked_simulates hsame outer) c d h
  exact hagree.shown_eq fun c d hcd => ⟨hcd.line_eq, hcd.reportedColumn_eq hsame⟩

/-! ## §6. Two scopes and one. -/

namespace Cursor

/-- A scope inside another, and one scope of both indentations. -/
theorem restacked_inside (c : Cursor) (a b : Nat) :
    Restacked [b, a] [a + b] c.indents ((c.inside a).inside b) (c.inside (a + b)) :=
  ⟨rfl, rfl, rfl, [], rfl, rfl⟩

theorem sameTotal_inside {a b : Nat} (h : a + b ≤ widestIndent) : SameTotal [b, a] [a + b] where
  fits k hk := by simp only [List.mem_cons, List.not_mem_nil, or_false] at hk; omega
  fits' k hk := by simp only [List.mem_singleton] at hk; omega
  total_eq := by simp [Nat.add_comm]

/-- A scope of no indentation, and no scope. -/
theorem restacked_inside_zero (c : Cursor) : Restacked [0] [] c.indents (c.inside 0) c :=
  ⟨rfl, rfl, rfl, [], rfl, rfl⟩

theorem sameTotal_zero : SameTotal [0] [] :=
  ⟨by decide, by decide, rfl⟩

/-- **Two scopes cannot be told from one** of both indentations: not by what
is seen after any steps, and not by what any grammar finds.  A scope of no
indentation cannot be told from none.  Where all scopes fit there is a line or
none, and a grammar blames values only. -/
theorem nested_indistinguishable (c : Cursor) {a b : Nat} (hab : a + b ≤ widestIndent) :
    (∀ steps, (((c.inside a).inside b).forwardAll steps).sight
        = ((c.inside (a + b)).forwardAll steps).sight)
      ∧ (∀ steps, ((c.inside 0).forwardAll steps).sight = (c.forwardAll steps).sight)
      ∧ (∀ g : Grammar, (g.parser ((c.inside a).inside b)).map Outcome.shown
        = (g.parser (c.inside (a + b))).map Outcome.shown)
      ∧ (∀ g : Grammar, (g.parser (c.inside 0)).map Outcome.shown
        = (g.parser c).map Outcome.shown)
      ∧ (c.Fits →
        (∀ steps, ∃ seen, (((c.inside a).inside b).forwardAll steps).sight.line = .ok seen)
          ∧ ∀ g : Grammar, (∀ k ∈ g.indents, k ≤ widestIndent) →
            ∀ e, g.parser ((c.inside a).inside b) = .error e → e.blamesValue = true) := by
  have hnested := c.restacked_inside a b
  have htotal := sameTotal_inside hab
  have hzero := c.restacked_inside_zero
  refine ⟨?_, ?_, ?_, ?_, ?_⟩
  · exact fun steps => (hnested.forwardAll steps).sight_eq htotal
  · exact fun steps => (hzero.forwardAll steps).sight_eq sameTotal_zero
  · exact fun g => g.shown_eq_of_restacked htotal hnested
  · exact fun g => g.shown_eq_of_restacked sameTotal_zero hzero
  · intro hc
    have hfits : ((c.inside a).inside b).Fits := by
      intro k hk
      rcases List.mem_cons.mp hk with rfl | hk
      · omega
      · rcases List.mem_cons.mp hk with rfl | hk
        · omega
        · exact hc k hk
    constructor
    · intro steps
      have hline := (((c.inside a).inside b).forwardAll steps).givenLine_eq_peek
      rw [peek_eq_view (fits_forwardAll hfits steps)] at hline
      exact ⟨_, hline⟩
    · exact fun g hg e he => Grammar.blamesValue_of_error hg hfits he

/-- A noted plan, indented by three blanks. -/
def indentedPlan : Cursor :=
  ofLines ["     # one".toList, "   1..1".toList, "  1..2".toList]

theorem nested_indistinguishable_indentedPlan :
    2 + 1 ≤ widestIndent ∧ indentedPlan.Fits
      ∧ (Grammar.notedPlans.parser ((indentedPlan.inside 2).inside 1)).map Outcome.shown
        = .ok (.inl (.many "plans".toList
            [.sequence [.item (.diagnostic "one".toList), .item (.plan ⟨1, 1⟩)]], 2, 3))
      ∧ (((indentedPlan.inside 2).inside 1).forwardAll [1]).sight.lines
        = .ok [(1, 3, "1..1".toList)] := by
  have hwide : 2 + 1 ≤ widestIndent := by decide
  obtain ⟨hsight, -, hshown, -, -⟩ := indentedPlan.nested_indistinguishable hwide
  refine ⟨hwide, by decide, ?_, ?_⟩
  · rw [hshown]
    rfl
  · rw [hsight]
    rfl

end Cursor

end TapReport
