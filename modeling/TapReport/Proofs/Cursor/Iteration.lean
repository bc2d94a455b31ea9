/-
  TapReport.Proofs.Cursor.Iteration
  ─────────────────────────────────
  **GOING THROUGH LINES IS STEPPING OVER THEM.**

  What follows a cursor can be had step by step, or all at once as its
  `lines`.  Steps know nothing of blocks: a cursor that is done may have a line
  again a step later, where the text is indented again.  The `lines` end for
  good at the first step that is done, in whichever scope that is, and up to
  there both ways give the same cursors.

      Cursor.Run    the steps from a cursor before the first that is done

  Main results:
    * `Cursor.lines_of_lt`, `Cursor.lines_of_le` — the first of the lines.
    * `Cursor.lines_inside` — a scope goes through the lines around it.
    * `Cursor.run_lines` — the lines are the run of steps.
    * `Cursor.lines_are_steps` — looking, stepping and going through.
-/
import TapReport.Proofs.LineParser.Nesting

namespace TapReport

namespace Cursor

/-! ## §1. The first of the lines. -/

/-- No step at all shows the same line. -/
theorem peek_forward_zero (c : Cursor) : (c.forward 0).peek = c.peek := by
  rw [peek_eq_head?, peek_eq_head?, remaining_forward]
  rfl

theorem view_forward_zero (c : Cursor) : (c.forward 0).view = c.view := by
  rw [view_eq, view_eq, remaining_forward]
  rfl

theorem lines_of_le {c : Cursor} (hline : c.source.size ≤ c.line) : c.lines = .ok [] := by
  unfold lines
  rw [Nat.sub_eq_zero_of_le hline]
  rfl

/-- Where lines are left, the first decides: it is gone through before the
lines after it, or none is. -/
theorem lines_of_lt {c : Cursor} (hline : c.line < c.source.size) :
    c.lines = match c.peek with
      | .error e => .error e
      | .ok none => .ok []
      | .ok (some _) => (c.forward 1).lines.map (c.forward 0 :: ·) := by
  have hrange : List.range' c.line (c.source.size - c.line)
      = c.line :: List.range' (c.line + 1) (c.source.size - (c.line + 1)) := by
    have hsize : c.source.size - c.line = c.source.size - (c.line + 1) + 1 := by omega
    rw [hsize, List.range'_succ]
  have hhere : ({ c with line := c.line, column := 0 } : Cursor) = c.forward 0 := by
    unfold forward
    rw [Nat.add_zero, Nat.min_eq_left (Nat.le_of_lt hline)]
  have hnext : (c.forward 1).line = c.line + 1 := Nat.min_eq_left hline
  unfold lines
  rw [hrange, List.map_cons, lines.inView, hhere, peek_forward_zero, hnext, forward_source,
    forward_indents]
  cases c.peek with
  | error e => rfl
  | ok seen => cases seen <;> rfl

/-! ## §2. The lines of a scope. -/

theorem isDone_of_fits {c : Cursor} (h : c.Fits) : c.isDone = .ok c.view.isNone := by
  unfold isDone
  rw [peek_eq_view h]
  rfl

theorem fits_inside {c : Cursor} (h : c.Fits) {k : Nat} (hk : k ≤ widestIndent) :
    (c.inside k).Fits := by
  intro i hi
  rcases List.mem_cons.mp hi with rfl | hi
  · exact hk
  · exact h i hi

theorem view_inside_eq (c : Cursor) (k : Nat) :
    (c.inside k).view = c.view.bind (outdentLine? k) := by
  unfold view
  rw [Option.bind_assoc]
  rfl

/-- **A scope goes through the lines around it**, up to the first that it does
not have. -/
theorem lines_inside {c : Cursor} (h : c.Fits) {k : Nat} (hk : k ≤ widestIndent)
    {ds : List Cursor} (hds : c.lines = .ok ds) :
    (c.inside k).lines = .ok ((ds.map (inside k)).takeWhile (·.view.isSome)) := by
  -- induction on the lines that are left
  by_cases hline : c.line < c.source.size
  · have hview := view_inside_eq c k
    rw [lines_of_lt hline, peek_eq_view h] at hds
    rw [lines_of_lt (c := c.inside k) hline, peek_eq_view (fits_inside h hk)]
    cases hseen : c.view with
    | none =>
      rw [hseen] at hds hview
      obtain rfl := Except.ok.inj hds
      rw [hview]
      rfl
    | some line =>
      rw [hseen] at hds hview
      cases hafter : (c.forward 1).lines with
      | error e => rw [hafter] at hds; exact absurd hds (by simp [Except.map])
      | ok after =>
        rw [hafter] at hds
        obtain rfl := Except.ok.inj hds
        have ih := lines_inside (fits_forward h 1) hk hafter
        have hhere : ((c.forward 0).inside k).view = (c.inside k).view := by
          rw [view_inside_eq, view_inside_eq, view_forward_zero]
        rw [List.map_cons, List.takeWhile_cons, hhere, hview]
        show (match (Except.ok (outdentLine? k line) : Except Fault (Option Line)) with
          | .error e => _ | .ok none => _ | .ok (some _) => _)
          = Except.ok (if (outdentLine? k line).isSome then _ else _)
        cases outdentLine? k line with
        | none => rfl
        | some inner =>
          show ((c.forward 1).inside k).lines.map _ = _
          rw [ih]
          rfl
  · rw [lines_of_le (Nat.le_of_not_lt hline)] at hds
    obtain rfl := Except.ok.inj hds
    exact lines_of_le (c := c.inside k) (Nat.le_of_not_lt hline)
termination_by c.source.size - c.line
decreasing_by
  show c.source.size - min (c.line + 1) c.source.size < c.source.size - c.line
  omega

/-! ## §3. The run of steps. -/

theorem advance_eq_forward {n : Int} (hn : 0 ≤ n) (c : Cursor) :
    c.advance n = .ok (c.forward n.toNat) :=
  if_neg (by omega)

/-- The steps from a cursor before the first that is done. -/
structure Run (c : Cursor) (ds : List Cursor) : Prop where
  /-- Each is as many steps on as there are before it. -/
  steps : ∀ (i : Nat) (hi : i < ds.length), c.advance i = .ok ds[i]
  /-- None of them is done. -/
  inView : ∀ d ∈ ds, d.isDone = .ok false
  /-- The next step is. -/
  ends : ∃ d, c.advance ds.length = .ok d ∧ d.isDone = .ok true

/-- The lines are as many steps as there are before one that is done. -/
theorem exists_lines_eq {c : Cursor} (h : c.Fits) :
    ∃ n, c.lines = .ok ((List.range n).map fun i => c.forward i)
      ∧ (∀ i < n, (c.forward i).isDone = .ok false) ∧ (c.forward n).isDone = .ok true := by
  -- induction on the lines that are left
  by_cases hline : c.line < c.source.size
  · have hdone : (c.forward 0).isDone = .ok c.view.isNone := by
      rw [isDone_of_fits (fits_forward h 0), view_forward_zero]
    rw [lines_of_lt hline, peek_eq_view h]
    cases hseen : c.view with
    | none =>
      rw [hseen] at hdone
      exact ⟨0, rfl, fun i hi => absurd hi (Nat.not_lt_zero i), hdone⟩
    | some line =>
      rw [hseen] at hdone
      -- the steps of the next cursor are those of this one but the first
      obtain ⟨n, hlines, hview, hends⟩ := exists_lines_eq (fits_forward h 1)
      have hstep : ∀ i, (c.forward 1).forward i = c.forward (i + 1) := by
        intro i
        rw [forward_forward, Nat.add_comm]
      simp only [hstep] at hlines hview hends
      refine ⟨n + 1, ?_, ?_, hends⟩
      · show (c.forward 1).lines.map _ = _
        rw [hlines, List.range_succ_eq_map, List.map_cons, List.map_map]
        rfl
      · intro i hi
        cases i with
        | zero => exact hdone
        | succ i => exact hview i (Nat.lt_of_succ_lt_succ hi)
  · have hle := Nat.le_of_not_lt hline
    refine ⟨0, lines_of_le hle, fun i hi => absurd hi (Nat.not_lt_zero i), ?_⟩
    have hnone : c.view = none := by
      unfold view
      rw [Array.getElem?_eq_none hle]
      rfl
    rw [isDone_of_fits (fits_forward h 0), view_forward_zero, hnone]
    rfl
termination_by c.source.size - c.line
decreasing_by
  show c.source.size - min (c.line + 1) c.source.size < c.source.size - c.line
  omega

/-- **The lines are the run of steps.** -/
theorem run_lines {c : Cursor} (h : c.Fits) : ∃ ds, c.lines = .ok ds ∧ c.Run ds := by
  obtain ⟨n, hlines, hview, hends⟩ := exists_lines_eq h
  refine ⟨_, hlines, ?_, ?_, ?_⟩
  · intro i hi
    rw [advance_eq_forward (Int.natCast_nonneg i), Int.toNat_natCast, List.getElem_map,
      List.getElem_range]
  · intro d hd
    obtain ⟨i, hi, rfl⟩ := List.mem_map.mp hd
    exact hview i (List.mem_range.mp hi)
  · refine ⟨c.forward n, ?_, hends⟩
    rw [List.length_map, List.length_range, advance_eq_forward (Int.natCast_nonneg n),
      Int.toNat_natCast]

/-- There is only one run. -/
theorem Run.unique {c : Cursor} {ds ds' : List Cursor} (h : c.Run ds) (h' : c.Run ds') :
    ds = ds' := by
  have hle : ∀ {ds ds' : List Cursor}, c.Run ds → c.Run ds' → ds.length ≤ ds'.length := by
    intro ds ds' h h'
    by_contra hlt
    -- the end of the one would be a step of the other
    obtain ⟨d, hd, hdone⟩ := h'.ends
    have hstep := h.steps ds'.length (by omega)
    obtain rfl := Except.ok.inj (hd.symm.trans hstep)
    rw [h.inView _ (List.getElem_mem _)] at hdone
    exact absurd hdone (by simp)
  have hlength := Nat.le_antisymm (hle h h') (hle h' h)
  refine List.ext_getElem hlength fun i hi hi' => ?_
  exact Except.ok.inj ((h.steps i hi).symm.trans (h'.steps i hi'))

/-! ## §4. Outer scopes. -/

/-- A line that is in view is in view in all outer scopes. -/
theorem isDone_of_outer {c : Cursor} {outer : List Nat} (houter : outer <:+ c.indents)
    (hdone : ({ c with indents := outer } : Cursor).isDone = .ok true) : c.isDone = .ok true := by
  obtain ⟨inner, hinner⟩ := houter
  rw [isDone_eq_true_iff, peek_eq_head?] at hdone ⊢
  have hremaining : ({ c with indents := outer } : Cursor).remaining = c.remaining := rfl
  rw [hremaining] at hdone
  cases hhead : c.remaining.head? with
  | none => rfl
  | some line =>
    rw [hhead] at hdone
    have hnone : viewLineChecked outer line = .ok none := hdone
    show viewLineChecked c.indents line = .ok none
    rw [← hinner, viewLineChecked_append, hnone]

/-- **The lines do not go on** after a step that is done in any of the scopes. -/
theorem Run.length_le {c : Cursor} {ds : List Cursor} (hrun : c.Run ds)
    {outer : List Nat} (houter : outer <:+ c.indents) {i : Nat} {d : Cursor}
    (hd : ({ c with indents := outer } : Cursor).advance i = .ok d) (hdone : d.isDone = .ok true) :
    ds.length ≤ i := by
  by_contra hlt
  have hstep := hrun.steps i (by omega)
  have hview := hrun.inView _ (List.getElem_mem (show i < ds.length by omega))
  rw [advance_eq_forward (Int.natCast_nonneg i)] at hd hstep
  obtain rfl := Except.ok.inj hd
  rw [← Except.ok.inj hstep] at hview
  have hinner := isDone_of_outer (c := c.forward (Int.toNat i)) houter hdone
  rw [hview] at hinner
  exact absurd hinner (by simp)

/-! ## §5. Looking, stepping and going through. -/

/-- A line is refused exactly where there is none. -/
theorem saysNoLine_iff_isDone (c : Cursor) :
    (∃ e, c.getLine = .error e ∧ e.saysNoLine = true) ↔ c.isDone = .ok true := by
  rw [isDone_eq_true_iff]
  unfold getLine
  cases hpeek : c.peek with
  | error e =>
    obtain rfl := eq_indentTooWide_of_peek hpeek
    simp [Fault.saysNoLine]
  | ok seen =>
    cases seen with
    | some line => simp
    | none => cases c.indents <;> simp [Fault.saysNoLine]

/-- It is given out exactly where there is one. -/
theorem exists_getLine_iff_isDone (c : Cursor) :
    (∃ line, c.getLine = .ok line) ↔ c.isDone = .ok false := by
  simp only [getLine_eq_ok_iff]
  unfold isDone
  cases c.peek with
  | error e => simp [Except.map]
  | ok seen => cases seen <;> simp [Except.map]

/-- **Going through lines is stepping over them.**  In scopes that fit, a
cursor either is done and refuses its line or gives it out; two steps are one;
and the lines from it on are the steps before the first that is done.  They do
not go on after a step that is done in any of the scopes, and a scope goes
through the lines around it. -/
theorem lines_are_steps {c : Cursor} (h : c.Fits) :
    ((∃ e, c.getLine = .error e ∧ e.saysNoLine = true) ↔ c.isDone = .ok true)
      ∧ ((∃ line, c.getLine = .ok line) ↔ c.isDone = .ok false)
      ∧ (∃ done, c.isDone = .ok done)
      ∧ (∀ n m : Int, 0 ≤ n → 0 ≤ m → ∃ d e,
        c.advance n = .ok d ∧ d.advance m = .ok e ∧ c.advance (n + m) = .ok e)
      ∧ ∃ ds, c.lines = .ok ds ∧ c.Run ds ∧ (∀ others, c.Run others → others = ds)
        ∧ (∀ outer, outer <:+ c.indents → ∀ (i : Nat) (d : Cursor),
          ({ c with indents := outer } : Cursor).advance i = .ok d → d.isDone = .ok true →
            ds.length ≤ i)
        ∧ ∀ k ≤ widestIndent,
          (c.inside k).lines = .ok ((ds.map (inside k)).takeWhile (·.view.isSome)) := by
  obtain ⟨ds, hlines, hrun⟩ := run_lines h
  refine ⟨c.saysNoLine_iff_isDone, c.exists_getLine_iff_isDone, ⟨_, isDone_of_fits h⟩, ?_,
    ds, hlines, hrun, fun others hothers => hothers.unique hrun, ?_, ?_⟩
  · intro n m hn hm
    refine ⟨_, _, advance_eq_forward hn c, advance_eq_forward hm _, ?_⟩
    rw [advance_eq_forward (Int.add_nonneg hn hm), forward_forward, Int.toNat_add hn hm]
  · exact fun outer houter i d hd hdone => hrun.length_le houter hd hdone
  · exact fun k hk => lines_inside h hk hlines

/-- A place in two scopes that end and begin again two lines further on. -/
def reindented : Cursor :=
  ⟨#["    a".toList, "   b".toList, " c".toList, "    d".toList], 0, 7, [1, 2]⟩

/-- The lines end where the scopes do, although the last step is not done. -/
theorem lines_are_steps_reindented :
    reindented.Fits ∧ (∃ ds, reindented.lines = .ok ds ∧ reindented.Run ds ∧ ds.length = 2)
      ∧ (reindented.forward 3).getLine = .ok " d".toList := by
  have hfits : reindented.Fits := by decide
  obtain ⟨-, -, -, -, ds, hlines, hrun, -⟩ := lines_are_steps hfits
  have htwo : reindented.lines = .ok [reindented.forward 0, reindented.forward 1] := rfl
  have hlength : ds.length = 2 := by
    rw [Except.ok.inj (hlines.symm.trans htwo)]
    rfl
  exact ⟨hfits, ⟨ds, hlines, hrun, hlength⟩, rfl⟩

end Cursor

end TapReport
