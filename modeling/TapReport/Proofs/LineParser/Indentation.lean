/-
  TapReport.Proofs.LineParser.Indentation
  ───────────────────────────────────────
  **AN INDENTED BLOCK IS READ AS IF IT STOOD ALONE.**

  The lines of a block may stand by themselves, or indented between other
  lines and be read inside a scope.  A cursor in the one place and a cursor
  in the other show the same lines, line by line: the indentation of the
  scope is what the lines have in front, and the end of the scope is where
  the lines by themselves end.  That is a simulation, so no grammar can tell
  the two apart.

      Cursor.Inset    a cursor in the block, and one in the block indented

  Main results:
    * `Cursor.inset_simulates` — such cursors show the same lines.
    * `Grammar.agree_within` — a grammar inside the scope does what it does
      on the block alone, and ends with a fault only for a value.
-/
import TapReport.Proofs.LineParser.Simulation

namespace TapReport

/-! ## §1. Scopes inside scopes. -/

/-- What is seen inside scopes and more scopes inside these. -/
theorem viewLineChecked_append (inner outer : List Nat) (line : Line) :
    viewLineChecked (inner ++ outer) line = match viewLineChecked outer line with
      | .error e => .error e
      | .ok none => .ok none
      | .ok (some seen) => viewLineChecked inner seen := by
  -- induction from the innermost scope outwards, as `viewLineChecked` recurs
  induction inner with
  | nil =>
    rw [List.nil_append]
    cases viewLineChecked outer line with
    | error e => rfl
    | ok seen => cases seen <;> rfl
  | cons k inner ih =>
    rw [List.cons_append, viewLineChecked, ih]
    cases viewLineChecked outer line with
    | error e => rfl
    | ok seen => cases seen <;> rfl

theorem viewLineChecked_singleton {k : Nat} (hk : k ≤ widestIndent) (line : Line) :
    viewLineChecked [k] line = .ok (outdentLine? k line) :=
  if_pos hk

/-- Under an indentation in all scopes a line is seen as without both. -/
theorem viewLineChecked_indented {k : Nat} (hk : k ≤ widestIndent) (inner : List Nat)
    (line : Line) :
    viewLineChecked (inner ++ [k]) (Block.indented k line) = viewLineChecked inner line := by
  rw [viewLineChecked_append, viewLineChecked_singleton hk, Block.outdentLine?_indented]

/-- A line that does not have the indentation is in none of the scopes. -/
theorem viewLineChecked_outside {k : Nat} (hk : k ≤ widestIndent) (inner : List Nat) {line : Line}
    (hline : ¬ List.replicate k ' ' <+: line) :
    viewLineChecked (inner ++ [k]) line = .ok none := by
  have hout : outdentLine? k line = none := by
    rw [Option.eq_none_iff_forall_ne_some]
    intro seen hseen
    exact hline ⟨seen, (outdentLine?_eq_some_iff.mp hseen).symm⟩
  rw [viewLineChecked_append, viewLineChecked_singleton hk, hout]

/-! ## §2. A block alone and a block indented. -/

namespace Cursor

/-- `d` is in a block that is indented by `k`, begins at line `start` and has
the lines `after` behind it; `c` is at the same place of the block alone. -/
structure Inset (k start : Nat) (after : List Line) (c d : Cursor) : Prop where
  /-- The lines that are left are the same, apart from the indentation. -/
  remaining_eq : d.remaining = c.remaining.map (Block.indented k) ++ after
  /-- The lines are counted from the beginning of the block. -/
  line_eq : d.line = start + c.line
  /-- The scope of the block is the outermost. -/
  indents_eq : d.indents = c.indents ++ [k]

variable {k start : Nat} {after : List Line} {c d : Cursor}

/-- Where the block ends, the lines after it are not in view. -/
theorem Inset.peek_eq (hk : k ≤ widestIndent)
    (hafter : ∀ line, after.head? = some line → ¬ List.replicate k ' ' <+: line)
    (h : Inset k start after c d) : c.peek = d.peek := by
  rw [peek_eq_head?, peek_eq_head?, h.remaining_eq, h.indents_eq]
  cases hl : c.remaining with
  | cons line more => exact (viewLineChecked_indented hk c.indents line).symm
  | nil =>
    cases after with
    | nil => rfl
    | cons line more => exact (viewLineChecked_outside hk c.indents (hafter line rfl)).symm

theorem Inset.next (h : Inset k start after c d) {line : Line} (hc : c.peek = .ok (some line))
    (hd : d.peek = .ok (some line)) : Inset k start after c.next d.next where
  remaining_eq := by
    have hne : c.remaining ≠ [] := by
      intro hnil
      rw [peek_eq_head?, hnil] at hc
      exact absurd hc (by simp)
    obtain ⟨first, more, hl⟩ := List.exists_cons_of_ne_nil hne
    show (d.forward 1).remaining = (c.forward 1).remaining.map _ ++ after
    rw [remaining_forward, remaining_forward, h.remaining_eq, hl]
    rfl
  line_eq := by
    rw [next_line_of_peek hc, next_line_of_peek hd, h.line_eq]
    omega
  indents_eq := h.indents_eq

/-- **A block indented shows what the block alone shows**, if no line after it
continues it. -/
theorem inset_simulates (hk : k ≤ widestIndent)
    (hafter : ∀ line, after.head? = some line → ¬ List.replicate k ' ' <+: line) :
    Simulates (Inset k start after) where
  peek h := h.peek_eq hk hafter
  next h hpeek := h.next hpeek ((h.peek_eq hk hafter).symm.trans hpeek)
  inside h j := ⟨h.remaining_eq, h.line_eq, congrArg (j :: ·) h.indents_eq⟩
  leave := by
    intro c d next next' j _ hnext hreach
    -- a scope was entered on the way, so the one that is left is not `k`
    have hne : next.indents ≠ [] := by
      intro hnil
      have hscopes : j :: c.indents <:+ next.indents := hreach.scopes
      rw [hnil] at hscopes
      exact absurd (List.suffix_nil.mp hscopes) (by simp)
    refine ⟨hnext.remaining_eq, hnext.line_eq, ?_⟩
    show next'.indents.tail = next.indents.tail ++ [k]
    rw [hnext.indents_eq, List.tail_append_of_ne_nil hne]

/-- At the beginning of the block. -/
theorem inset_ofLines (k : Nat) (before block after : List Line) (column : Int) :
    Inset k before.length after (ofLines block)
      (inside k ⟨(before ++ block.map (Block.indented k) ++ after).toArray,
        before.length, column, []⟩) where
  remaining_eq := by
    show (before ++ block.map (Block.indented k) ++ after).drop before.length = _
    rw [List.append_assoc, List.drop_left]
    rfl
  line_eq := (Nat.add_zero before.length).symm
  indents_eq := rfl

end Cursor

/-! ## §3. Faults where all scopes fit. -/

/-- Where all scopes fit they go on to, and only values are faults. -/
def Contract.inRange : Contract where
  matched c next := c.Fits → next.Fits
  mismatched c place := c.Fits → place.Fits
  fault c e := c.Fits → e.blamesValue = true

theorem Contract.inRange_lawful : inRange.Lawful fun k => k ≤ widestIndent := by
  have hinside : ∀ {c : Cursor} {k : Nat}, (k : Int) ≤ widestIndent → c.Fits →
      (c.inside k).Fits := by
    intro c k hk hc i hi
    rcases List.mem_cons.mp hi with rfl | hi
    · omega
    · exact hc i hi
  exact {
    matched_refl := fun _ h => h
    mismatched_refl := fun _ h => h
    next := fun _ h => h
    peek := fun {c e} hpeek hc => by
      rw [Cursor.peek_eq_view hc] at hpeek
      exact absurd hpeek (by simp)
    blames := fun h _ => h
    matched_trans := fun h h' hc => h' (h hc)
    mismatched_trans := fun h h' hc => h' (h hc)
    fault_trans := fun h h' hc => h' (h hc)
    leave := fun hk h hc i hi => h (hinside hk hc) i (List.mem_of_mem_tail hi)
    mismatched_inside := fun hk h hc => h (hinside hk hc)
    fault_inside := fun hk h hc => h (hinside hk hc) }

/-- **A grammar whose scopes fit blames values only**, where it starts in
scopes that fit. -/
theorem Grammar.blamesValue_of_error {g : Grammar}
    (hg : ∀ k ∈ g.indents, k ≤ widestIndent) {c : Cursor} (hc : c.Fits) {e : Fault}
    (h : g.parser c = .error e) : e.blamesValue = true := by
  have hmade : LineParser.Made (fun _ _ => True) (fun k => k ≤ widestIndent) g.parser :=
    g.made (fun _ _ => trivial) hg
  have hholds : Contract.inRange.Holds g.parser :=
    Contract.holds_of_made_of_imp Contract.inRange_lawful (fun _ _ => id) hmade
  have hrun := hholds c
  rw [h] at hrun
  exact hrun hc

/-! ## §4. Every grammar. -/

/-- **An indented block is read as if it stood alone.**  Between lines before
it and lines after it that do not continue it, a grammar inside the scope of
the block matches with the same token, mismatches for the same reason or ends
with the same fault as on the lines of the block, and leaves off as many lines
into it.  If the scopes of the grammar fit, only a value can be that fault. -/
theorem Grammar.agree_within (g : Grammar) {k : Nat} (hk : k ≤ widestIndent)
    (before block after : List Line)
    (hafter : ∀ line, after.head? = some line → ¬ List.replicate k ' ' <+: line) (column : Int) :
    Agree (fun c d => d.line = before.length + c.line) (g.parser (Cursor.ofLines block))
        (LineParser.within k g.parser
          ⟨(before ++ block.map (Block.indented k) ++ after).toArray, before.length, column, []⟩)
      ∧ ((∀ i ∈ g.indents, i ≤ widestIndent) → ∀ e,
        g.parser (Cursor.ofLines block) = .error e → e.blamesValue = true) := by
  constructor
  · have hrun := g.respects (Cursor.inset_simulates hk hafter) _ _
      (Cursor.inset_ofLines k before block after column)
    unfold LineParser.within
    rw [Cursor.enter_eq_inside (Int.natCast_nonneg k), Int.toNat_natCast]
    simp only
    generalize g.parser (Cursor.ofLines block) = r at hrun
    generalize g.parser (Cursor.inside k _) = r' at hrun
    -- the scope is left after a match only; the line stays what it is
    cases hrun with
    | matched token hnext => exact .matched token hnext.line_eq
    | mismatched reason hplace => exact .mismatched reason hplace.line_eq
    | error e => exact .error e
  · intro hg e he
    exact blamesValue_of_error hg (fun i hi => absurd hi List.not_mem_nil) he

/-- Plans, each under a diagnostic that is indented by two blanks. -/
def Grammar.notedPlans : Grammar :=
  .many "plans".toList 500 (.sequence [.within 2 .diagnostic, .plan])

/-- Two noted plans, alone and in a block that is indented by two blanks; the
line after the block has one blank only. -/
theorem Grammar.agree_within_notedPlans :
    2 ≤ widestIndent
      ∧ (∀ line, [" # after".toList].head? = some line → ¬ List.replicate 2 ' ' <+: line)
      ∧ ∃ token next next',
        notedPlans.parser (Cursor.ofLines
            ["  # one".toList, "1..1".toList, "  # two".toList, "1..2".toList])
          = .ok (.matched token next)
        ∧ LineParser.within 2 notedPlans.parser
            ⟨#["TAP version 13".toList, "    # one".toList, "  1..1".toList, "    # two".toList,
              "  1..2".toList, " # after".toList], 1, 0, []⟩
          = .ok (.matched token next')
        ∧ next.line = 4 ∧ next'.line = 5 := by
  have hwide : 2 ≤ widestIndent := by decide
  have hafter : ∀ line, [" # after".toList].head? = some line →
      ¬ List.replicate 2 ' ' <+: line := by
    intro line hline
    obtain rfl := Option.some.inj hline
    decide
  have halone : notedPlans.parser (Cursor.ofLines
        ["  # one".toList, "1..1".toList, "  # two".toList, "1..2".toList])
      = .ok (.matched (.many "plans".toList
          [.sequence [.item (.diagnostic "one".toList), .item (.plan ⟨1, 1⟩)],
            .sequence [.item (.diagnostic "two".toList), .item (.plan ⟨1, 2⟩)]])
          ⟨#["  # one".toList, "1..1".toList, "  # two".toList, "1..2".toList], 4, 0, []⟩) := rfl
  obtain ⟨hagree, -⟩ := notedPlans.agree_within hwide ["TAP version 13".toList]
    ["  # one".toList, "1..1".toList, "  # two".toList, "1..2".toList] [" # after".toList] hafter 0
  rw [halone] at hagree
  obtain ⟨next', hrun, hline⟩ := hagree.of_matched
  exact ⟨hwide, hafter, _, _, next', halone, hrun, rfl, hline⟩

end TapReport
