/-
  TapReport.Proofs.LineParser.Discipline
  ──────────────────────────────────────
  **PARSERS KEEP TO THE LINES THERE ARE AND TO THE SCOPES THEY GOT.**

  It is a fault to take a line from a cursor that has none, and no law of the
  library makes a parser ask first.  All of them do: reading a line is asking
  and taking, and reading a block is going through the lines that follow.
  What else a parser must not do is go back, go past the end, or leave a scope
  that it did not enter.  Mismatches are reported further on and inside scopes,
  a repetition goes on there, and a scope is left without a look at which one
  it is; still no parser does any of this, however it is put together.

      LineParser.lineTaken   reading a line by asking and taking
      Block.readThrough      reading a block by going through lines
      LineParser.judgeAt     a parser whose tokens are ruled on where they end
      LineParser.Composed    the parsers that are put together from all these

  Main results:
    * `LineParser.line_eq_lineTaken`, `Block.read_eq_readThrough` — lines are
      taken only where there are any.
    * `Contract.holds_of_composed` — a lawful contract holds of all of them.
    * `LineParser.Composed.discipline` — what none of them does.
-/
import TapReport.Proofs.Cursor.Iteration

namespace TapReport

/-! ## §1. Asking and taking. -/

/-- A value that is out of range is no missing line. -/
theorem Fault.saysNoLine_of_blamesValue {e : Fault} (h : e.blamesValue = true) :
    e.saysNoLine = false := by
  cases e with
  | noLine line size => exact absurd h (by simp [blamesValue])
  | outsideScope line indent => exact absurd h (by simp [blamesValue])
  | _ => rfl

namespace Cursor

/-- Takes the line of a cursor, after asking whether there is one. -/
def take? (c : Cursor) : Except Fault (Option Line) :=
  match c.isDone with
  | .error e => .error e
  | .ok true => .ok none
  | .ok false => c.getLine.map some

/-- Looking is asking and taking. -/
theorem take?_eq_peek (c : Cursor) : c.take? = c.peek := by
  unfold take? isDone getLine
  cases c.peek with
  | error e => rfl
  | ok seen => cases seen <;> rfl

/-- Who asks first is not told that there is no line. -/
theorem saysNoLine_of_take? {c : Cursor} {e : Fault} (h : c.take? = .error e) :
    e.saysNoLine = false := by
  unfold take? at h
  split at h
  · next e' hdone =>
    obtain rfl := Except.error.inj h
    have hpeek : c.peek = .error e' := by
      unfold isDone at hdone
      cases hpeek : c.peek with
      | error e => rw [hpeek] at hdone; exact congrArg _ (Except.error.inj hdone)
      | ok seen => rw [hpeek] at hdone; exact absurd hdone (by simp [Except.map])
    obtain rfl := eq_indentTooWide_of_peek hpeek
    rfl
  · exact absurd h (by simp)
  · next hdone =>
    obtain ⟨line, hline⟩ := c.exists_getLine_iff_isDone.mpr hdone
    rw [hline] at h
    exact absurd h (by simp [Except.map])

/-- A line that is in view in some scopes shows that none of them is too wide. -/
theorem le_of_viewLineChecked {indents : List Nat} {text line : Line}
    (h : viewLineChecked indents text = .ok (some line)) : ∀ k ∈ indents, k ≤ widestIndent := by
  -- induction from the innermost scope outwards, as `viewLineChecked` recurs
  induction indents generalizing line with
  | nil => exact fun k hk => absurd hk List.not_mem_nil
  | cons k outer ih =>
    rw [viewLineChecked] at h
    cases houter : viewLineChecked outer text with
    | error e => rw [houter] at h; exact absurd h (by simp [bind, Except.bind])
    | ok rest =>
      rw [houter] at h
      cases rest with
      | none => exact absurd h (by simp [bind, Except.bind])
      | some rest =>
        have hk : k ≤ widestIndent := by
          by_contra hk
          exact absurd h (by simp [bind, Except.bind, hk])
        exact List.forall_mem_cons.mpr ⟨hk, ih houter⟩

theorem fits_of_peek {c : Cursor} {line : Line} (h : c.peek = .ok (some line)) : c.Fits := by
  unfold peek at h
  split at h
  · exact absurd h (by simp)
  · exact le_of_viewLineChecked h

end Cursor

/-- Reads one line that `form` recognises, after asking whether there is one. -/
def LineParser.lineTaken {α : Type} (form : Line → Option α) (reason : Mismatch) :
    LineParser α := fun c =>
  match c.take? with
  | .error e => .error e
  | .ok seen =>
    match seen.bind form with
    | none => .ok (.mismatched reason c)
    | some a => .ok (.matched a c.next)

theorem LineParser.line_eq_lineTaken {α : Type} (form : Line → Option α) (reason : Mismatch) :
    line form reason = lineTaken form reason := by
  funext c
  unfold line lineTaken
  have htake := c.take?_eq_peek
  cases hpeek : c.peek with
  | error e => simp only [htake, hpeek]
  | ok seen => cases hform : seen.bind form <;> simp only [htake, hpeek, hform]

namespace Block

/-- Goes through cursors for the end of a block and takes the line of each;
`found` holds the lines so far, the latest first. -/
def search : List Cursor → List Line → Except Fault (Option (List Line × Cursor))
  | [], _ => .ok none
  | d :: ds, found =>
    match d.getLine with
    | .error e => .error e
    | .ok line =>
      if line = closing then .ok (some (found.reverse, d.next)) else search ds (line :: found)

/-- Goes through at most `n` of the lines from a cursor on. -/
def searchWithin : Nat → Cursor → Except Fault (Option (List Line × Cursor))
  | 0, _ => .ok none
  | n + 1, c =>
    match c.lines with
    | .error e => .error e
    | .ok ds => search (ds.take (n + 1)) []

/-- Reads a block of at most `limit` lines by going through what follows the
line that opens it. -/
def readThrough (limit : Int) : LineParser (List Line) := fun c =>
  match c.take? with
  | .error e => .error e
  | .ok seen =>
    if seen = some opening then
      match room limit with
      | .error e => .error e
      | .ok n =>
        match searchWithin n c.next with
        | .error e => .error e
        | .ok none => .ok (.mismatched (.blockNotClosed limit) c)
        | .ok (some (lines, next)) => .ok (.matched lines next)
    else .ok (.mismatched (.noBlockStart seen) c)

/-- In scopes that fit, looking for the end line by line is going through the
lines. -/
theorem rest_eq_search {c : Cursor} (h : c.Fits) {ds : List Cursor} (hds : c.lines = .ok ds)
    (n : Nat) (found : List Line) : rest n c found = search (ds.take n) found := by
  -- induction on the lines that may still be looked at
  induction n generalizing c ds found with
  | zero => rfl
  | succ n ih =>
    rw [rest]
    by_cases hline : c.line < c.source.size
    · rw [Cursor.lines_of_lt hline] at hds
      cases hpeek : c.peek with
      | error e => rw [hpeek] at hds; exact absurd hds (by simp)
      | ok seen =>
        rw [hpeek] at hds
        cases seen with
        | none =>
          obtain rfl := Except.ok.inj hds
          rfl
        | some line =>
          obtain ⟨after, hafter, -⟩ := Cursor.run_lines (Cursor.fits_forward h 1)
          rw [hafter] at hds
          obtain rfl := Except.ok.inj hds
          have hgive : (c.forward 0).getLine = .ok line := by
            rw [Cursor.getLine_eq_ok_iff, Cursor.peek_forward_zero, hpeek]
          have hnext : (c.forward 0).next = c.next := Cursor.forward_forward 1 0 c
          have hrest : rest n c.next (line :: found) = search (after.take n) (line :: found) :=
            ih (Cursor.fits_forward h 1) hafter _
          rw [List.take_succ_cons, search, hgive, hnext]
          simp only [hrest]
    · have hle := Nat.le_of_not_lt hline
      rw [Cursor.lines_of_le hle] at hds
      obtain rfl := Except.ok.inj hds
      have hpeek : c.peek = .ok none := by
        unfold Cursor.peek
        rw [Array.getElem?_eq_none hle]
      rw [hpeek]
      rfl

theorem searchWithin_eq_rest {c : Cursor} (h : c.Fits) (n : Nat) :
    searchWithin n c = rest n c [] := by
  obtain ⟨ds, hds, -⟩ := Cursor.run_lines h
  cases n with
  | zero => rfl
  | succ n => rw [rest_eq_search h hds, searchWithin, hds]

/-- **A block is read by going through lines**, and taking them. -/
theorem read_eq_readThrough (limit : Int) : read limit = readThrough limit := by
  funext c
  unfold read readThrough
  rw [Cursor.take?_eq_peek]
  cases hpeek : c.peek with
  | error e => rfl
  | ok seen =>
    by_cases hopen : seen = some opening
    · -- the line that opens the block shows that the scopes fit
      have hfits : c.Fits := Cursor.fits_of_peek (hopen ▸ hpeek)
      have hnext : c.next.Fits := Cursor.fits_forward hfits 1
      simp only [if_pos hopen]
      cases room limit with
      | error e => rfl
      | ok n =>
        cases hrest : rest n c.next [] with
        | error e => simp only [searchWithin_eq_rest hnext, hrest]
        | ok found => cases found <;> simp only [searchWithin_eq_rest hnext, hrest]
    · simp only [if_neg hopen]

end Block

/-! ## §2. Parsers that are put together. -/

namespace LineParser

/-- A parser whose tokens are ruled on, also by the cursor after them; a ruling
stays at this cursor. -/
def judgeAt (p : LineParser Token) (ruling : Token → Cursor → Ruling Token) : LineParser Token :=
  p.bind fun token next => (ruling token next).parser next

/-- The parsers that are put together from those of grammars and from those
that take lines. -/
inductive Composed : LineParser Token → Prop
  /-- It is that of a grammar. -/
  | grammar (g : Grammar) : Composed g.parser
  /-- It takes one line. -/
  | taken (form : Line → Option (List (Option Text))) (reason : Mismatch) :
      Composed ((lineTaken form reason).map .captures)
  /-- It takes the lines of a block. -/
  | through (limit : Int) : Composed ((Block.readThrough limit).map .block)
  /-- It is one after another. -/
  | sequence {ps : List (LineParser Token)} (h : ∀ p ∈ ps, Composed p) : Composed (sequence ps)
  /-- It is the first that fits. -/
  | firstOf (label : Text) {ps : List (LineParser Token)} (h : ∀ p ∈ ps, Composed p) :
      Composed (firstOf label ps)
  /-- It is one again and again. -/
  | many (tag : Text) (limit : Int) {p : LineParser Token} (h : Composed p) :
      Composed (repetition tag limit p)
  /-- It is one inside a scope. -/
  | within (indent : Int) {p : LineParser Token} (h : Composed p) : Composed (within indent p)
  /-- Its tokens are ruled on. -/
  | judge {p : LineParser Token} (h : Composed p) (ruling : Token → Cursor → Ruling Token) :
      Composed (p.judgeAt ruling)

end LineParser

namespace Contract

variable {K : Contract} {I : Int → Prop} {α β : Type}

theorem holds_map (hK : K.Lawful I) {p : LineParser α} (hp : K.Holds p) (f : α → β) :
    K.Holds (p.map f) := by
  rw [LineParser.map_eq_bind]
  exact holds_bind hK hp fun _ => hK.matched_refl

theorem holds_inOrder (hK : K.Lawful I) {ps : List (LineParser α)} (h : ∀ p ∈ ps, K.Holds p) :
    K.Holds (LineParser.inOrder ps) := by
  induction ps with
  | nil => exact hK.matched_refl
  | cons p ps ih =>
    have hrest := ih fun q hq => h q (List.mem_cons_of_mem p hq)
    exact holds_bind hK (h p List.mem_cons_self) fun a => holds_map hK hrest (a :: ·)

/-- A ruling stays where it is, whatever it looks at. -/
theorem holds_judgeAt (hK : K.Lawful I) {p : LineParser Token} (hp : K.Holds p)
    (ruling : Token → Cursor → Ruling Token) : K.Holds (p.judgeAt ruling) := by
  refine holds_bind hK hp fun token next => ?_
  show K.Allows next ((ruling token next).parser next)
  cases ruling token next with
  | accept a => exact hK.matched_refl next
  | refuse reason => exact hK.mismatched_refl next
  | fault e blames => exact hK.blames blames

/-- **A lawful contract holds of every parser that is put together**, if a match
may leave off at all places of a mismatch. -/
theorem holds_of_composed (hK : K.Lawful fun _ => True)
    (himp : ∀ c d, K.mismatched c d → K.matched c d) {p : LineParser Token}
    (hp : p.Composed) : K.Holds p := by
  have hgrammar : ∀ g : Grammar, K.Holds g.parser := by
    intro g
    have hmade : LineParser.Made (fun _ _ => True) (fun _ => True) g.parser :=
      g.made (fun _ _ => trivial) fun _ _ => trivial
    exact holds_of_made_of_imp hK himp hmade
  induction hp with
  | grammar g => exact hgrammar g
  | taken form reason =>
    rw [← LineParser.line_eq_lineTaken]
    exact hgrammar (.line form reason)
  | through limit =>
    rw [← Block.read_eq_readThrough]
    exact hgrammar (.block limit)
  | sequence _ ih => exact holds_map hK (holds_inOrder hK ih) _
  | firstOf label _ ih => exact holds_firstOf hK label ih
  | @many tag limit p _ ih =>
    have hgo : ∀ c line reason place, c.peek = .ok (some line) →
        p c = .ok (.mismatched reason place) → K.matched c place := by
      intro c line reason place _ hrun
      have hc := ih c
      rw [hrun] at hc
      exact himp c place hc
    exact holds_map hK (fun c => holds_loop hK ih hgo limit.toNat c []) _
  | within indent _ ih => exact holds_within hK trivial ih
  | judge _ ruling ih => exact holds_judgeAt hK ih ruling

/-- Every result is reached from where a parser starts, and no fault says that
there is no line. -/
def disciplined : Contract :=
  { reach with fault := fun _ e => e.saysNoLine = false }

theorem disciplined_lawful (I : Int → Prop) : disciplined.Lawful I where
  matched_refl := .refl
  mismatched_refl := .refl
  next := .next
  peek h := Cursor.saysNoLine_of_take? ((Cursor.take?_eq_peek _).trans h)
  blames := Fault.saysNoLine_of_blamesValue
  matched_trans := .trans
  mismatched_trans := .trans
  fault_trans _ h := h
  leave _ := .leave
  mismatched_inside _ := .of_inside
  fault_inside _ h := h

end Contract

/-! ## §3. What no parser does. -/

namespace LineParser

/-- **Parsers keep to the lines there are and to the scopes they got.**  From a
cursor that is not past the end, no parser that is put together takes a line
where there is none; and where it leaves off, after a match and after a
mismatch, is in the same source, not before the start and not past the end, and
inside all scopes of the start. -/
theorem Composed.discipline {p : LineParser Token} (hp : p.Composed) {c : Cursor}
    (hc : c.line ≤ c.source.size) :
    (∀ e, p c = .error e → e.saysNoLine = false)
      ∧ ∀ o, p c = .ok o → o.cursor.source = c.source ∧ c.line ≤ o.cursor.line
        ∧ o.cursor.line ≤ c.source.size ∧ c.indents <:+ o.cursor.indents := by
  have hholds : Contract.disciplined.Holds p :=
    Contract.holds_of_composed (Contract.disciplined_lawful _) (fun _ _ => id) hp
  have hrun := hholds c
  constructor
  · intro e he
    rw [he] at hrun
    exact hrun
  · intro o ho
    rw [ho] at hrun
    have hreach : c.Reaches o.cursor := by cases o <;> exact hrun
    refine ⟨hreach.source_eq, hreach.line_le, ?_, hreach.scopes⟩
    rw [← hreach.source_eq]
    exact hreach.le_size hc

/-- Accepts a token only if a line is in view after it. -/
def ifMoreFollows (token : Token) (next : Cursor) : Ruling Token :=
  if next.view.isSome then .accept token else .refuse (.other "the last".toList)

/-- Plans that are indented by two blanks, up to the last. -/
def allButLast : LineParser Token :=
  repetition "plans".toList 500 (within 2 (Grammar.plan.parser.judgeAt ifMoreFollows))

/-- Two plans inside two scopes. -/
def twoPlans : Cursor :=
  ⟨#["TAP version 13".toList, "   1..1".toList, "   1..2".toList, " x".toList], 1, 0, [1]⟩

/-- The repetition goes on after the last plan, inside the scope that was
entered for it. -/
theorem discipline_allButLast :
    allButLast.Composed ∧ twoPlans.line ≤ twoPlans.source.size
      ∧ ∃ next, allButLast twoPlans
          = .ok (.matched (.many "plans".toList [.item (.plan ⟨1, 1⟩)]) next)
        ∧ next.indents = [2, 1] ∧ next.source = twoPlans.source ∧ next.line ≤ 4
        ∧ twoPlans.indents <:+ next.indents := by
  have hcomposed : allButLast.Composed := .many _ _ (.within 2 (.judge (.grammar .plan) _))
  have hstart : twoPlans.line ≤ twoPlans.source.size := by decide
  have hrun : allButLast twoPlans
      = .ok (.matched (.many "plans".toList [.item (.plan ⟨1, 1⟩)])
          { twoPlans with line := 3, indents := [2, 1] }) := rfl
  obtain ⟨-, hreached⟩ := hcomposed.discipline hstart
  obtain ⟨hsource, -, hsize, hscopes⟩ := hreached _ hrun
  exact ⟨hcomposed, hstart, _, hrun, rfl, hsource, hsize, hscopes⟩

end LineParser

end TapReport
