/-
  TapReport.Proofs.Line.Forms
  ───────────────────────────
  **WHAT EACH KIND OF LINE LOOKS LIKE.**

  The recognisers of single lines walk a line from its first character on
  and stop where a run of digits or a fixed lead ends.  Here each of them is
  pinned down by how the line is COMPOSED: a recogniser yields its parts
  exactly when the line is those parts put together.  From that follows that
  no line has two kinds, so `LineKind.ofLine` may ask in any order.

  Main results:
    * `Version.ofLine?_eq_some_iff`, `Plan.ofLine?_eq_some_iff`,
      `Diagnostic.ofLine?_eq_some_iff` — the lines with one reading.
    * `TitleParts.splitNumber_eq_some_iff` — when a text begins with a
      number.
    * `LineKind.ofLine_eq_plan_iff`, `LineKind.ofLine_eq_diagnostic_iff`,
      `LineKind.ofLine_eq_title_iff` — a line has at most one kind.
-/
import TapReport.Report.Reader

namespace TapReport

/-! ## §1. Runs of digits. -/

namespace Text

/-- A numeral: digits, and at least one. -/
structure IsNumeral (t : Text) : Prop where
  /-- There is a digit. -/
  ne_nil : t ≠ []
  /-- There is nothing else. -/
  isDigit : ∀ c ∈ t, isDigit c = true

theorem all_takeWhile_isDigit (t : Text) : ∀ c ∈ t.takeWhile isDigit, isDigit c = true := by
  have h : (t.takeWhile isDigit).all isDigit = true := List.all_takeWhile
  exact List.all_eq_true.mp h

theorem ne_of_isDigit {c d : Char} (hc : isDigit c = true) (hd : isDigit d = false) : c ≠ d := by
  intro h
  rw [h, hd] at hc
  exact absurd hc (by simp)

/-- A run of digits ends where the next character is none. -/
theorem takeWhile_isDigit_append {run : Text} (hrun : ∀ c ∈ run, isDigit c = true) {c : Char}
    (hc : isDigit c = false) (rest : Text) : (run ++ c :: rest).takeWhile isDigit = run := by
  rw [List.takeWhile_append_of_pos hrun, List.takeWhile_cons_of_neg (by simp [hc]),
      List.append_nil]

theorem dropWhile_isDigit_append {run : Text} (hrun : ∀ c ∈ run, isDigit c = true) {c : Char}
    (hc : isDigit c = false) (rest : Text) : (run ++ c :: rest).dropWhile isDigit = c :: rest := by
  rw [List.dropWhile_append_of_pos hrun, List.dropWhile_cons_of_neg (by simp [hc])]

theorem isNumeral_takeWhile {t : Text} (h : t.takeWhile isDigit ≠ []) :
    IsNumeral (t.takeWhile isDigit) :=
  ⟨h, all_takeWhile_isDigit t⟩

end Text

/-! ## §2. Lines with one reading. -/

/-- **Version lines**: `TAP version ` and one to three digits. -/
theorem Version.ofLine?_eq_some_iff {line digits : Line} :
    Version.ofLine? line = some digits ↔
      line = "TAP version ".toList ++ digits ∧ Text.IsNumeral digits ∧ digits.length ≤ 3 := by
  unfold Version.ofLine?
  rw [Option.bind_eq_some_iff]
  constructor
  · intro h
    obtain ⟨rest, hrest, h⟩ := h
    rw [Text.after?_eq_some_iff] at hrest
    split at h
    · next hd =>
      obtain rfl : rest = digits := by simpa using h
      simp only [Bool.and_eq_true, decide_eq_true_eq, List.all_eq_true] at hd
      obtain ⟨⟨hdigit, hpos⟩, hle⟩ := hd
      exact ⟨hrest, ⟨List.ne_nil_of_length_pos hpos, hdigit⟩, hle⟩
    · exact absurd h (by simp)
  · intro h
    obtain ⟨hline, hnum, hle⟩ := h
    refine ⟨digits, Text.after?_eq_some_iff.mpr hline, ?_⟩
    have hpos : 0 < digits.length := List.length_pos_iff.mpr hnum.ne_nil
    rw [if_pos]
    simp only [Bool.and_eq_true, decide_eq_true_eq, List.all_eq_true]
    exact ⟨⟨hnum.isDigit, hpos⟩, hle⟩

/-- **Plans**: two numerals around `..`. -/
theorem Plan.ofLine?_eq_some_iff {line start through : Line} :
    Plan.ofLine? line = some (start, through) ↔
      line = start ++ "..".toList ++ through ∧ Text.IsNumeral start ∧ Text.IsNumeral through := by
  unfold Plan.ofLine?
  rw [Option.bind_eq_some_iff]
  constructor
  · intro h
    obtain ⟨rest, hrest, h⟩ := h
    rw [Text.after?_eq_some_iff] at hrest
    split at h
    · exact absurd h (by simp)
    · next hd =>
      simp only [Option.some.injEq, Prod.mk.injEq] at h
      obtain ⟨rfl, rfl⟩ := h
      simp only [Bool.or_eq_true, List.isEmpty_iff, Bool.not_eq_true', not_or,
        Bool.not_eq_false, List.all_eq_true] at hd
      obtain ⟨⟨hstart, hthrough⟩, hdigit⟩ := hd
      refine ⟨?_, Text.isNumeral_takeWhile hstart, hthrough, hdigit⟩
      rw [List.append_assoc, ← hrest, List.takeWhile_append_dropWhile]
  · intro h
    obtain ⟨rfl, hstart, hthrough⟩ := h
    -- the first run of digits ends at the first dot
    have hdots : start ++ "..".toList ++ through = start ++ '.' :: ('.' :: through) := by simp
    have hdot : Text.isDigit '.' = false := by decide
    rw [hdots, Text.takeWhile_isDigit_append hstart.isDigit hdot,
        Text.dropWhile_isDigit_append hstart.isDigit hdot]
    refine ⟨through, Text.after?_eq_some_iff.mpr (by simp), ?_⟩
    rw [if_neg]
    simp only [Bool.or_eq_true, List.isEmpty_iff, Bool.not_eq_true', not_or, Bool.not_eq_false,
      List.all_eq_true]
    exact ⟨⟨hstart.ne_nil, hthrough.ne_nil⟩, hthrough.isDigit⟩

/-- **Diagnostics**: `# ` and a text that is not empty and stays on the
line. -/
theorem Diagnostic.ofLine?_eq_some_iff {line text : Line} :
    Diagnostic.ofLine? line = some text ↔
      line = "# ".toList ++ text ∧ text ≠ [] ∧ '\n' ∉ text := by
  unfold Diagnostic.ofLine?
  rw [Option.bind_eq_some_iff]
  constructor
  · intro h
    obtain ⟨rest, hrest, h⟩ := h
    rw [Text.after?_eq_some_iff] at hrest
    split at h
    · exact absurd h (by simp)
    · next hd =>
      obtain rfl : rest = text := by simpa using h
      simp only [Bool.or_eq_true, List.isEmpty_iff, List.contains_iff_mem, not_or] at hd
      exact ⟨hrest, hd.1, hd.2⟩
  · intro h
    obtain ⟨hline, hne, hnl⟩ := h
    refine ⟨text, Text.after?_eq_some_iff.mpr hline, ?_⟩
    rw [if_neg]
    simp only [Bool.or_eq_true, List.isEmpty_iff, List.contains_iff_mem, not_or]
    exact ⟨hne, hnl⟩

/-! ## §3. The parts of a test line. -/

namespace TitleParts

/-- **A number begins a text** exactly when the text is a numeral, a blank
and what is left. -/
theorem splitNumber_eq_some_iff {t digits rest : Text} :
    splitNumber t = (some digits, rest) ↔ t = digits ++ ' ' :: rest ∧ Text.IsNumeral digits := by
  unfold splitNumber
  constructor
  · intro h
    split at h
    · next d run rest' hrun hrest =>
      simp only [Prod.mk.injEq, Option.some.injEq] at h
      obtain ⟨rfl, rfl⟩ := h
      have hnum : Text.IsNumeral (t.takeWhile Text.isDigit) :=
        Text.isNumeral_takeWhile (by rw [hrun]; simp)
      refine ⟨?_, hrun ▸ hnum⟩
      rw [← hrun, ← hrest, List.takeWhile_append_dropWhile]
    · exact absurd (congrArg Prod.fst h) (by simp)
  · intro h
    obtain ⟨rfl, hnum⟩ := h
    have hblank : Text.isDigit ' ' = false := by decide
    rw [Text.takeWhile_isDigit_append hnum.isDigit hblank,
        Text.dropWhile_isDigit_append hnum.isDigit hblank]
    cases digits with
    | nil => exact absurd rfl hnum.ne_nil
    | cons d run => rfl

/-- Without a number the text is left as it is. -/
theorem splitNumber_of_fst_eq_none {t : Text} (h : (splitNumber t).1 = none) :
    splitNumber t = (none, t) := by
  unfold splitNumber at h ⊢
  split at h
  · exact absurd h (by simp)
  · rfl

/-- A number is split off by itself and the blank after it. -/
theorem splitNumber_append (t : Text) :
    (((splitNumber t).1.map (· ++ [' '])).getD []) ++ (splitNumber t).2 = t := by
  cases hsplit : splitNumber t with
  | mk number said =>
    cases number with
    | none =>
      have hnone := splitNumber_of_fst_eq_none (congrArg Prod.fst hsplit)
      exact (congrArg Prod.snd (hsplit.symm.trans hnone))
    | some digits =>
      obtain ⟨rfl, -⟩ := splitNumber_eq_some_iff.mp hsplit
      simp

/-- A text is what stands before its first `#` and the text from there. -/
theorem beforeHash_append_fromHash (t : Text) : beforeHash t ++ fromHash t = t :=
  List.takeWhile_append_dropWhile

end TitleParts

/-! ## §4. A line has one kind. -/

/-- What kind of line of a report's body a line is, with its parts. -/
inductive LineKind where
  /-- A plan. -/
  | plan (start through : Text)
  /-- A diagnostic. -/
  | diagnostic (text : Text)
  /-- The first line of a test, if its words make sense. -/
  | title (parts : TitleParts)
  /-- None of these. -/
  | other
  deriving DecidableEq, Repr

/-- The kind of a line. -/
def LineKind.ofLine (line : Line) : LineKind :=
  match Plan.ofLine? line with
  | some (start, through) => .plan start through
  | none =>
    match Diagnostic.ofLine? line with
    | some text => .diagnostic text
    | none =>
      match TitleParts.ofLine? line with
      | some parts => .title parts
      | none => .other

/-- A plan begins with a digit. -/
theorem Plan.head?_of_ofLine? {line : Line} {parts : Text × Text}
    (h : Plan.ofLine? line = some parts) : ∃ c, line.head? = some c ∧ Text.isDigit c = true := by
  obtain ⟨start, through⟩ := parts
  obtain ⟨rfl, hstart, -⟩ := Plan.ofLine?_eq_some_iff.mp h
  cases start with
  | nil => exact absurd rfl hstart.ne_nil
  | cons c run => exact ⟨c, rfl, hstart.isDigit c List.mem_cons_self⟩

/-- A diagnostic begins with `#`. -/
theorem Diagnostic.head?_of_ofLine? {line text : Line}
    (h : Diagnostic.ofLine? line = some text) : line.head? = some '#' := by
  obtain ⟨rfl, -, -⟩ := Diagnostic.ofLine?_eq_some_iff.mp h
  rfl

/-- A test line begins with `o` or `n`. -/
theorem TitleParts.head?_of_ofLine? {line : Line} {parts : TitleParts}
    (h : TitleParts.ofLine? line = some parts) :
    line.head? = some 'o' ∨ line.head? = some 'n' := by
  have hsome : (TitleParts.ofLine? line).isSome = true := by rw [h]; rfl
  obtain ⟨ok, rest, rfl, -⟩ := TitleParts.ofLine?_isSome_iff.mp hsome
  cases ok with
  | true => exact Or.inl rfl
  | false => exact Or.inr rfl

theorem LineKind.ofLine_eq_plan_iff {line : Line} {start through : Text} :
    LineKind.ofLine line = .plan start through ↔ Plan.ofLine? line = some (start, through) := by
  unfold LineKind.ofLine
  constructor
  · intro h
    split at h
    · next hp => rw [hp]; simpa using h
    · split at h
      · exact absurd h (by simp)
      · split at h <;> exact absurd h (by simp)
  · intro h
    rw [h]

theorem LineKind.ofLine_eq_diagnostic_iff {line : Line} {text : Text} :
    LineKind.ofLine line = .diagnostic text ↔ Diagnostic.ofLine? line = some text := by
  unfold LineKind.ofLine
  constructor
  · intro h
    split at h
    · exact absurd h (by simp)
    · split at h
      · next hd => rw [hd]; simpa using h
      · split at h <;> exact absurd h (by simp)
  · intro h
    -- a plan begins with a digit, a diagnostic with `#`
    have hplan : Plan.ofLine? line = none := by
      cases hp : Plan.ofLine? line with
      | none => rfl
      | some parts =>
        obtain ⟨c, hc, hdigit⟩ := Plan.head?_of_ofLine? hp
        rw [Diagnostic.head?_of_ofLine? h, Option.some.injEq] at hc
        subst hc
        exact absurd hdigit (by decide)
    rw [hplan, h]

theorem LineKind.ofLine_eq_title_iff {line : Line} {parts : TitleParts} :
    LineKind.ofLine line = .title parts ↔ TitleParts.ofLine? line = some parts := by
  unfold LineKind.ofLine
  constructor
  · intro h
    split at h
    · exact absurd h (by simp)
    · split at h
      · exact absurd h (by simp)
      · split at h
        · next ht => rw [ht]; simpa using h
        · exact absurd h (by simp)
  · intro h
    -- a test line begins with a letter, a plan with a digit, a diagnostic with `#`
    have hhead := TitleParts.head?_of_ofLine? h
    have hplan : Plan.ofLine? line = none := by
      cases hp : Plan.ofLine? line with
      | none => rfl
      | some found =>
        obtain ⟨c, hc, hdigit⟩ := Plan.head?_of_ofLine? hp
        rw [hc, Option.some.injEq, Option.some.injEq] at hhead
        rcases hhead with rfl | rfl <;> exact absurd hdigit (by decide)
    have hdiag : Diagnostic.ofLine? line = none := by
      cases hd : Diagnostic.ofLine? line with
      | none => rfl
      | some text =>
        rw [Diagnostic.head?_of_ofLine? hd] at hhead
        rcases hhead with hhead | hhead <;> exact absurd hhead (by decide)
    rw [hplan, hdiag, h]

/-! A line of another kind is not recognised. -/

namespace LineKind

variable {line : Line}

theorem plan_eq_none (h : ∀ start through, ofLine line ≠ .plan start through) :
    Plan.ofLine? line = none := by
  cases hp : Plan.ofLine? line with
  | none => rfl
  | some parts => exact absurd (ofLine_eq_plan_iff.mpr hp) (h parts.1 parts.2)

theorem diagnostic_eq_none (h : ∀ text, ofLine line ≠ .diagnostic text) :
    Diagnostic.ofLine? line = none := by
  cases hd : Diagnostic.ofLine? line with
  | none => rfl
  | some text => exact absurd (ofLine_eq_diagnostic_iff.mpr hd) (h text)

theorem title_eq_none (h : ∀ parts, ofLine line ≠ .title parts) :
    TitleParts.ofLine? line = none := by
  cases ht : TitleParts.ofLine? line with
  | none => rfl
  | some parts => exact absurd (ofLine_eq_title_iff.mpr ht) (h parts)

end LineKind

end TapReport
