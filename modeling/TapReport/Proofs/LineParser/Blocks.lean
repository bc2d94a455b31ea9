/-
  TapReport.Proofs.LineParser.Blocks
  ──────────────────────────────────
  **WHERE A BLOCK ENDS.**

  The search for the `...` of a block stops for one of three reasons: the
  lines of the innermost scope are over, the source is, or as many lines were
  looked at as the limit allows.  All three are told by one list, the lines
  that the cursor after the `---` gives out, cut off behind the limit: a block
  is there exactly if `...` is in that list, and where it comes first decides
  what the block holds and where reading goes on.

      seenLines          the lines of a list before the first out of view
      Cursor.givenBlock  the lines that a cursor and those after it give out
      Block.EndsAt       where lines hold `...` for the first time

  Main results:
    * `Cursor.givenBlock_eq` — in scopes that fit these are the lines seen.
    * `Block.upTo?_eq_some_iff` — the search finds the first `...`.
    * `Block.read_iff_endsWithin` — what reading a block comes to, at any
      cursor and for any limit.
-/
import TapReport.Proofs.Cursor.Iteration
import TapReport.Proofs.Report.Refinement

namespace TapReport

/-! ## §1. The lines in view. -/

/-- What is seen of some lines, up to the first that is not in view. -/
def seenLines (look : Line → Option Line) : List Line → List Line
  | [] => []
  | line :: rest =>
    match look line with
    | none => []
    | some seen => seen :: seenLines look rest

theorem seenLines_cons_of_none {look : Line → Option Line} {line : Line} (h : look line = none)
    (rest : List Line) : seenLines look (line :: rest) = [] := by
  unfold seenLines
  rw [h]

theorem seenLines_cons_of_some {look : Line → Option Line} {line seen : Line}
    (h : look line = some seen) (rest : List Line) :
    seenLines look (line :: rest) = seen :: seenLines look rest := by
  rw [seenLines, h]

namespace Cursor

/-- The lines that this cursor and those after it give out, as long as they
have one. -/
def givenBlock (c : Cursor) : Except Fault (List Line) := do
  (← c.lines).mapM getLine

/-- Where lines are left, the first decides: it is given out before the lines
after it, or nothing is. -/
theorem givenBlock_of_lt {c : Cursor} (hline : c.line < c.source.size) :
    c.givenBlock = match c.peek with
      | .error e => .error e
      | .ok none => .ok []
      | .ok (some line) => (c.forward 1).givenBlock.map (line :: ·) := by
  unfold givenBlock
  rw [lines_of_lt hline]
  cases hseen : c.peek with
  | error e => rfl
  | ok seen =>
    cases seen with
    | none => rfl
    | some line =>
      have hgive : (c.forward 0).getLine = .ok line := by
        rw [getLine_eq_ok_iff, peek_forward_zero, hseen]
      -- a fault further on is one of both sides
      cases (c.forward 1).lines with
      | error e => rfl
      | ok after =>
        show (c.forward 0 :: after).mapM getLine = (after.mapM getLine).map _
        rw [List.mapM_cons, hgive]
        rfl

theorem givenBlock_of_le {c : Cursor} (hline : c.source.size ≤ c.line) :
    c.givenBlock = .ok [] := by
  unfold givenBlock
  rw [lines_of_le hline]
  rfl

/-- **In scopes that fit** the lines given out are those seen, up to the first
that is outside. -/
theorem givenBlock_eq {c : Cursor} (h : c.Fits) :
    c.givenBlock = .ok (seenLines (viewLine c.indents) c.remaining) := by
  -- induction on the lines that are left
  cases hl : c.remaining with
  | nil =>
    have hline : c.source.size ≤ c.line := by
      have hlength : c.remaining.length = 0 := congrArg List.length hl
      unfold remaining at hlength
      rw [List.length_drop, Array.length_toList] at hlength
      omega
    exact givenBlock_of_le hline
  | cons line rest =>
    have hline : c.line < c.source.size := by
      have hlength : c.remaining.length = rest.length + 1 := congrArg List.length hl
      unfold remaining at hlength
      rw [List.length_drop, Array.length_toList] at hlength
      omega
    have hrest : (c.forward 1).remaining = rest := by
      rw [remaining_forward, hl]
      rfl
    have ih := givenBlock_eq (fits_forward h 1)
    rw [hrest, forward_indents] at ih
    rw [givenBlock_of_lt hline, peek_eq_view h, view_eq, hl, ih]
    show (match (Except.ok (viewLine c.indents line) : Except Fault (Option Line)) with
      | .error e => _ | .ok none => _ | .ok (some line) => _) = _
    cases hseen : viewLine c.indents line with
    | none => rw [seenLines_cons_of_none hseen]
    | some seen => rw [seenLines_cons_of_some hseen]; rfl
termination_by c.remaining.length
decreasing_by
  rw [remaining_forward, hl]
  simp

end Cursor

/-! ## §2. The first `...`. -/

namespace Block

/-- Some lines hold `...` at an index, and at none before it. -/
structure EndsAt (given : List Line) (j : Nat) : Prop where
  /-- There is a `...`. -/
  closes : given[j]? = some closing
  /-- It is the first. -/
  first : ∀ i < j, given[i]? ≠ some closing

theorem not_endsAt_nil (j : Nat) : ¬ EndsAt [] j :=
  fun h => absurd h.closes (by simp)

theorem endsAt_cons_zero_iff {line : Line} {rest : List Line} :
    EndsAt (line :: rest) 0 ↔ line = closing := by
  constructor
  · intro h
    simpa using h.closes
  · intro h
    exact ⟨by simpa using h, fun i hi => absurd hi (Nat.not_lt_zero i)⟩

theorem endsAt_cons_succ_iff {line : Line} {rest : List Line} {j : Nat} :
    EndsAt (line :: rest) (j + 1) ↔ line ≠ closing ∧ EndsAt rest j := by
  constructor
  · intro h
    refine ⟨?_, by simpa using h.closes, ?_⟩
    · simpa using h.first 0 (Nat.succ_pos j)
    · intro i hi
      simpa using h.first (i + 1) (Nat.succ_lt_succ hi)
  · intro h
    obtain ⟨hline, hrest⟩ := h
    refine ⟨by simpa using hrest.closes, ?_⟩
    intro i hi
    cases i with
    | zero => simpa using hline
    | succ i => simpa using hrest.first i (Nat.lt_of_succ_lt_succ hi)

theorem EndsAt.unique {given : List Line} {i j : Nat} (hi : EndsAt given i) (hj : EndsAt given j) :
    i = j := by
  rcases Nat.lt_trichotomy i j with hlt | heq | hlt
  · exact absurd hi.closes (hj.first i hlt)
  · exact heq
  · exact absurd hj.closes (hi.first j hlt)

/-- Where there is a `...`, there is a first. -/
theorem exists_endsAt {given : List Line} {j : Nat} (h : given[j]? = some closing) :
    ∃ i ≤ j, EndsAt given i := by
  -- induction on the lines before it
  induction given generalizing j with
  | nil => exact absurd h (by simp)
  | cons line rest ih =>
    by_cases hline : line = closing
    · exact ⟨0, Nat.zero_le j, endsAt_cons_zero_iff.mpr hline⟩
    · cases j with
      | zero => exact absurd (by simpa using h) hline
      | succ j =>
        obtain ⟨i, hi, hends⟩ := ih (by simpa using h)
        exact ⟨i + 1, Nat.succ_le_succ hi, endsAt_cons_succ_iff.mpr ⟨hline, hends⟩⟩

/-- **The search finds the first `...`** among the lines in view, and what is
before it. -/
theorem upTo?_eq_some_iff {look : Line → Option Line} {n : Nat} {given block : List Line} :
    upTo? look n given = some block ↔
      ∃ j < n, EndsAt (seenLines look given) j ∧ block = (seenLines look given).take j := by
  -- induction on the budget, as `upTo?` recurs on it
  induction n generalizing given block with
  | zero => simp [upTo?]
  | succ n ih =>
    cases given with
    | nil =>
      constructor
      · intro h
        exact absurd h (by simp [upTo?])
      · intro h
        obtain ⟨j, -, hends, -⟩ := h
        exact absurd hends (not_endsAt_nil j)
    | cons line rest =>
      rw [upTo?]
      cases hseen : look line with
      | none =>
        rw [seenLines_cons_of_none hseen]
        constructor
        · intro h
          exact absurd h (by simp)
        · intro h
          obtain ⟨j, -, hends, -⟩ := h
          exact absurd hends (not_endsAt_nil j)
      | some seen =>
        rw [seenLines_cons_of_some hseen]
        simp only
        by_cases hclose : seen = closing
        · rw [if_pos hclose]
          constructor
          · intro h
            obtain rfl := Option.some.inj h
            exact ⟨0, Nat.succ_pos n, endsAt_cons_zero_iff.mpr hclose, rfl⟩
          · intro h
            obtain ⟨j, -, hends, rfl⟩ := h
            rw [hends.unique (endsAt_cons_zero_iff.mpr hclose)]
            rfl
        · rw [if_neg hclose, Option.map_eq_some_iff]
          constructor
          · intro h
            obtain ⟨tail, htail, rfl⟩ := h
            obtain ⟨j, hj, hends, rfl⟩ := ih.mp htail
            exact ⟨j + 1, Nat.succ_lt_succ hj, endsAt_cons_succ_iff.mpr ⟨hclose, hends⟩, rfl⟩
          · intro h
            obtain ⟨j, hj, hends, rfl⟩ := h
            cases j with
            | zero => exact absurd (endsAt_cons_zero_iff.mp hends) hclose
            | succ j =>
              obtain ⟨-, hrest⟩ := endsAt_cons_succ_iff.mp hends
              exact ⟨_, ih.mpr ⟨j, Nat.lt_of_succ_lt_succ hj, hrest, rfl⟩, rfl⟩

/-! ## §3. Reading a block. -/

variable {c : Cursor} {m : Int} {given : List Line}

/-- Only the lines that the limit leaves room for count. -/
theorem endsAt_take_iff {n j : Nat} (hj : j < n) : EndsAt (given.take n) j ↔ EndsAt given j := by
  have hsame : ∀ i ≤ j, (given.take n)[i]? = given[i]? := by
    intro i hi
    exact List.getElem?_take_of_lt (Nat.lt_of_le_of_lt hi hj)
  constructor
  · intro h
    refine ⟨(hsame j (Nat.le_refl j)).symm.trans h.closes, fun i hi => ?_⟩
    rw [← hsame i (Nat.le_of_lt hi)]
    exact h.first i hi
  · intro h
    refine ⟨(hsame j (Nat.le_refl j)).trans h.closes, fun i hi => ?_⟩
    rw [hsame i (Nat.le_of_lt hi)]
    exact h.first i hi

theorem read_of_not_opening (h : c.Fits) (hopen : c.getLine ≠ .ok opening) :
    read m c = .ok (.mismatched (.noBlockStart c.view) c) := by
  apply read_of_view_ne h
  intro hview
  apply hopen
  rw [Cursor.getLine_eq_ok_iff, Cursor.peek_eq_view h, hview]

/-- **After a `---`** the lines that the next cursor gives out decide, and as
many of them as the limit allows. -/
theorem read_of_opening (h : c.Fits) (h0 : 0 ≤ m) (hm : m < longestCount)
    (hgiven : c.next.givenBlock = .ok given) (hopen : c.getLine = .ok opening) :
    (∀ j : Nat, (j : Int) ≤ m → EndsAt given j →
        read m c = .ok (.matched (given.take j) (c.forward (j + 2))))
      ∧ ((∀ j : Nat, (j : Int) ≤ m → ¬ EndsAt given j) →
        read m c = .ok (.mismatched (.blockNotClosed m) c)) := by
  have hview : c.view = some opening := by
    rw [Cursor.getLine_eq_ok_iff, Cursor.peek_eq_view h] at hopen
    exact Except.ok.inj hopen
  have hseen : seenLines (viewLine c.indents) (c.remaining.drop 1) = given := by
    have heq := Cursor.givenBlock_eq (Cursor.fits_forward h 1)
    rw [Cursor.remaining_forward, Cursor.forward_indents] at heq
    exact Except.ok.inj (heq.symm.trans hgiven)
  rw [read_of_view_opening h hview (room_of_lt h0 hm)]
  constructor
  · intro j hj hends
    have hfound : upTo? (viewLine c.indents) (m + 1).toNat (c.remaining.drop 1)
        = some (given.take j) := by
      rw [upTo?_eq_some_iff, hseen]
      exact ⟨j, by omega, hends, rfl⟩
    have hlength : (given.take j).length = j := by
      have hlt := (List.getElem?_eq_some_iff.mp hends.closes).1
      rw [List.length_take]
      omega
    rw [hfound]
    simp only [hlength]
  · intro hnone
    have hnot : upTo? (viewLine c.indents) (m + 1).toNat (c.remaining.drop 1) = none := by
      rw [Option.eq_none_iff_forall_ne_some]
      intro block hblock
      obtain ⟨j, hj, hends, -⟩ := upTo?_eq_some_iff.mp hblock
      rw [hseen] at hends
      exact hnone j (by omega) hends
    rw [hnot]

/-- A block is read exactly from a `---` to the first `...`. -/
theorem read_eq_matched_iff (h : c.Fits) (h0 : 0 ≤ m) (hm : m < longestCount)
    (hgiven : c.next.givenBlock = .ok given) {block : List Line} {next : Cursor} :
    read m c = .ok (.matched block next) ↔
      c.getLine = .ok opening ∧ ∃ j : Nat, (j : Int) ≤ m ∧ EndsAt given j
        ∧ block = given.take j ∧ next = c.forward (j + 2) := by
  constructor
  · intro hread
    by_cases hopen : c.getLine = .ok opening
    · obtain ⟨hyes, hno⟩ := read_of_opening h h0 hm hgiven hopen
      by_cases hends : ∃ j : Nat, (j : Int) ≤ m ∧ EndsAt given j
      · obtain ⟨j, hj, hends⟩ := hends
        rw [hyes j hj hends] at hread
        obtain ⟨rfl, rfl⟩ := Outcome.matched.inj (Except.ok.inj hread)
        exact ⟨hopen, j, hj, hends, rfl, rfl⟩
      · rw [hno fun j hj hat => hends ⟨j, hj, hat⟩] at hread
        exact absurd (Except.ok.inj hread) (by simp)
    · rw [read_of_not_opening h hopen] at hread
      exact absurd (Except.ok.inj hread) (by simp)
  · intro hboth
    obtain ⟨hopen, j, hj, hends, rfl, rfl⟩ := hboth
    exact (read_of_opening h h0 hm hgiven hopen).1 j hj hends

theorem isDone_of_getLine {line : Line} (hline : c.getLine = .ok line) : c.isDone = .ok false :=
  c.exists_getLine_iff_isDone.mp ⟨line, hline⟩

/-- **Where a block ends**, at any cursor in scopes that fit.  Let `given` be
the lines that the cursor after the current line gives out.  A block is read
exactly if the current line is `---` and one of the first `m + 1` of these
lines is `...`; it holds those before the first `...`, and reading goes on
after that, in the same scopes.  Otherwise it mismatches where it started,
and it never ends with a fault.  Lines that are not given out do not count,
and neither do those behind the limit: another cursor that shows the same
`m + 1` lines after the same line reads the same block. -/
theorem read_iff_endsWithin (h : c.Fits) (h0 : 0 ≤ m) (hm : m < longestCount) :
    ∃ given, c.next.givenBlock = .ok given
      ∧ ((∃ block next, read m c = .ok (.matched block next)) ↔
        c.isDone = .ok false ∧ c.getLine = .ok opening
          ∧ ∃ j : Nat, (j : Int) ≤ m ∧ given[j]? = some closing)
      ∧ (∀ block next, read m c = .ok (.matched block next) →
        ∃ j : Nat, (j : Int) ≤ m ∧ EndsAt given j ∧ block = given.take j
          ∧ c.advance (j + 2) = .ok next ∧ next.indents = c.indents)
      ∧ ((∀ block next, read m c ≠ .ok (.matched block next)) →
        ∃ reason, read m c = .ok (.mismatched reason c))
      ∧ ∀ (d : Cursor) (shown : List Line), d.Fits → d.getLine = c.getLine →
        d.next.givenBlock = .ok shown →
        shown.take (m + 1).toNat = given.take (m + 1).toNat →
          ∀ block, (∃ next, read m c = .ok (.matched block next))
            ↔ ∃ next, read m d = .ok (.matched block next) := by
  obtain ⟨given, hgiven⟩ : ∃ given, c.next.givenBlock = .ok given :=
    ⟨_, Cursor.givenBlock_eq (Cursor.fits_forward h 1)⟩
  refine ⟨given, hgiven, ?_, ?_, ?_, ?_⟩
  · constructor
    · rintro ⟨block, next, hread⟩
      obtain ⟨hopen, j, hj, hends, -, -⟩ := (read_eq_matched_iff h h0 hm hgiven).mp hread
      exact ⟨isDone_of_getLine hopen, hopen, j, hj, hends.closes⟩
    · rintro ⟨-, hopen, j, hj, hclose⟩
      obtain ⟨i, hi, hends⟩ := exists_endsAt hclose
      exact ⟨_, _, (read_eq_matched_iff h h0 hm hgiven).mpr
        ⟨hopen, i, by omega, hends, rfl, rfl⟩⟩
  · intro block next hread
    obtain ⟨-, j, hj, hends, hblock, rfl⟩ := (read_eq_matched_iff h h0 hm hgiven).mp hread
    refine ⟨j, hj, hends, hblock, ?_, rfl⟩
    unfold Cursor.advance
    rw [if_neg (by omega)]
    rfl
  · intro hno
    by_cases hopen : c.getLine = .ok opening
    · obtain ⟨hyes, hnone⟩ := read_of_opening h h0 hm hgiven hopen
      exact ⟨_, hnone fun j hj hends => hno _ _ (hyes j hj hends)⟩
    · exact ⟨_, read_of_not_opening h hopen⟩
  · intro d shown hd hline hshown hsame block
    have hends : ∀ j : Nat, (j : Int) ≤ m →
        ((EndsAt given j ∧ block = given.take j) ↔ (EndsAt shown j ∧ block = shown.take j)) := by
      intro j hj
      have hroom : j < (m + 1).toNat := by omega
      have htake : given.take j = shown.take j := by
        have hboth := congrArg (List.take j) hsame
        rw [List.take_take, List.take_take, Nat.min_eq_left (Nat.le_of_lt hroom)] at hboth
        exact hboth.symm
      rw [← endsAt_take_iff hroom, ← hsame, endsAt_take_iff hroom, htake]
    simp only [read_eq_matched_iff h h0 hm hgiven, read_eq_matched_iff hd h0 hm hshown, hline]
    constructor
    · rintro ⟨_, hopen, j, hj, hat, hblock, rfl⟩
      obtain ⟨hat, hblock⟩ := (hends j hj).mp ⟨hat, hblock⟩
      exact ⟨_, hopen, j, hj, hat, hblock, rfl⟩
    · rintro ⟨_, hopen, j, hj, hat, hblock, rfl⟩
      obtain ⟨hat, hblock⟩ := (hends j hj).mpr ⟨hat, hblock⟩
      exact ⟨_, hopen, j, hj, hat, hblock, rfl⟩

/-- A block of two lines in two scopes, which end before the source does. -/
def nestedBlock : Cursor where
  source := #["   ---".toList, "   a".toList, "    ...".toList, "   ...".toList, " ...".toList]
  line := 0
  column := 0
  indents := [2, 1]

/-- Two lines are room enough for it, and one is not. -/
theorem read_iff_endsWithin_nestedBlock :
    nestedBlock.Fits ∧ (0 : Int) ≤ 1 ∧ (2 : Int) < longestCount
      ∧ read 2 nestedBlock
        = .ok (.matched ["a".toList, " ...".toList] (nestedBlock.forward 4))
      ∧ ∃ reason, read 1 nestedBlock = .ok (.mismatched reason nestedBlock) := by
  have hfits : nestedBlock.Fits := by decide
  have hgive : nestedBlock.next.givenBlock = .ok ["a".toList, " ...".toList, closing] := rfl
  have hends : EndsAt ["a".toList, " ...".toList, closing] 2 :=
    endsAt_cons_succ_iff.mpr ⟨by decide,
      endsAt_cons_succ_iff.mpr ⟨by decide, endsAt_cons_zero_iff.mpr rfl⟩⟩
  refine ⟨hfits, by decide, by decide, ?_, ?_⟩
  · obtain ⟨given, hgiven, hiff, hwhat, -, -⟩ := read_iff_endsWithin hfits (m := 2)
      (by decide) (by decide)
    obtain rfl := Except.ok.inj (hgive.symm.trans hgiven)
    obtain ⟨block, next, hread⟩ := hiff.mpr ⟨rfl, rfl, 2, Int.le_refl 2, rfl⟩
    obtain ⟨j, -, hj, rfl, hnext, -⟩ := hwhat block next hread
    obtain rfl := hj.unique hends
    rw [hread, ← Except.ok.inj hnext]
    rfl
  · obtain ⟨given, hgiven, hiff, -, hno, -⟩ := read_iff_endsWithin hfits (m := 1)
      (by decide) (by decide)
    obtain rfl := Except.ok.inj (hgive.symm.trans hgiven)
    apply hno
    intro block next hread
    obtain ⟨-, -, j, hj, hclose⟩ := hiff.mp ⟨block, next, hread⟩
    -- the only `...` is behind the two lines that may be looked at
    have hlt : j < 2 := by omega
    exact absurd hclose (hends.first j hlt)

end Block

end TapReport
