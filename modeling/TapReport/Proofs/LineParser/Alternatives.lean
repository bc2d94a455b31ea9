/-
  TapReport.Proofs.LineParser.Alternatives
  ────────────────────────────────────────
  **ALTERNATIVES THAT MAY BE TRIED IN ANY ORDER.**

  A choice takes its first alternative that matches, and one that ends with
  a fault hides all that come after it.  Two alternatives may still trade
  places if at every cursor one of them mismatches or both end with the same
  fault; a choice of which any two are so may be tried in any order.

  The alternatives of an item are so, since each of them begins with a look
  at the line in view.  A look that goes wrong is the fault of all three; and
  the first character of a line leaves at most one that reads on, whatever
  this one then makes of the lines below.

  Main results:
    * `LineForm.lead_of_captures` — the first character tells the form.
    * `LineParser.firstOf_perm` — a choice may be tried in any order.
    * `LineParser.BeginsWith.exclude` — lines of different forms never
      compete.
    * `Report.readUnchecked_eq_of_perm` — the order of an item's
      alternatives, with settings of any kind and at any cursor.
-/
import TapReport.LineParser.Token
import TapReport.Proofs.Report.Steps
import TapReport.Report.Unchecked

namespace TapReport

/-! ## §1. A line has one form. -/

namespace LineForm

/-- The form that a line may have, told by its first character. -/
def ofLead? (lead : Char) : Option LineForm :=
  if lead = 'T' then some .version
  else if lead = '#' then some .diagnostic
  else if lead = 'o' ∨ lead = 'n' then some .title
  else if Text.isDigit lead then some .plan
  else none

theorem ofLead?_of_isDigit {lead : Char} (h : Text.isDigit lead = true) :
    ofLead? lead = some .plan := by
  have hne : ∀ c, Text.isDigit c = false → lead ≠ c := fun _ => Text.ne_of_isDigit h
  unfold ofLead?
  rw [if_neg (hne 'T' (by decide)), if_neg (hne '#' (by decide)),
      if_neg (not_or.mpr ⟨hne 'o' (by decide), hne 'n' (by decide)⟩), if_pos h]

/-- **The first character tells the form** of a line that has one. -/
theorem lead_of_captures {form : LineForm} {line : Line}
    (h : (form.captures? line).isSome = true) : line.head?.bind ofLead? = some form := by
  cases form with
  | version =>
    obtain ⟨digits, hread⟩ := Option.isSome_iff_exists.mp (Option.isSome_map.symm.trans h)
    obtain ⟨rfl, -, -⟩ := Version.ofLine?_eq_some_iff.mp hread
    rfl
  | plan =>
    obtain ⟨parts, hread⟩ := Option.isSome_iff_exists.mp (Option.isSome_map.symm.trans h)
    obtain ⟨lead, hlead, hdigit⟩ := Plan.head?_of_ofLine? hread
    rw [hlead]
    exact ofLead?_of_isDigit hdigit
  | diagnostic =>
    obtain ⟨text, hread⟩ := Option.isSome_iff_exists.mp (Option.isSome_map.symm.trans h)
    rw [Diagnostic.head?_of_ofLine? hread]
    rfl
  | title =>
    obtain ⟨parts, hread⟩ := Option.isSome_iff_exists.mp (Option.isSome_map.symm.trans h)
    rcases TitleParts.head?_of_ofLine? hread with hlead | hlead <;> rw [hlead] <;> rfl

/-- A line has at most one form. -/
theorem eq_of_captures {f g : LineForm} {line : Line}
    (hf : (f.captures? line).isSome = true) (hg : (g.captures? line).isSome = true) : f = g :=
  Option.some.inj ((lead_of_captures hf).symm.trans (lead_of_captures hg))

/-- Of two forms a line in view lacks one. -/
theorem captures_eq_none_of_ne {f g : LineForm} (hne : f ≠ g) (seen : Option Line) :
    seen.bind f.captures? = none ∨ seen.bind g.captures? = none := by
  cases seen with
  | none => exact Or.inl rfl
  | some line =>
    cases hf : f.captures? line with
    | none => exact Or.inl hf
    | some found =>
      refine Or.inr (Option.not_isSome_iff_eq_none.mp fun hg => hne ?_)
      exact eq_of_captures (by rw [hf]; rfl) hg

end LineForm

/-! ## §2. Alternatives that exclude each other. -/

namespace LineParser

section Choice

variable {α : Type} {p q : LineParser α} {ps qs : List (LineParser α)} {label : Text} {c : Cursor}

/-- At a cursor a parser mismatches. -/
def MismatchesAt (p : LineParser α) (c : Cursor) : Prop :=
  ∃ reason place, p c = .ok (.mismatched reason place)

/-- Wherever they start, one of two parsers mismatches, or both end with the
same fault. -/
def Exclude (p q : LineParser α) : Prop :=
  ∀ c, p.MismatchesAt c ∨ q.MismatchesAt c ∨ ∃ e, p c = .error e ∧ q c = .error e

theorem Exclude.symm (h : Exclude p q) : Exclude q p := by
  intro c
  rcases h c with hp | hq | ⟨e, hp, hq⟩
  · exact Or.inr (Or.inl hp)
  · exact Or.inl hq
  · exact Or.inr (Or.inr ⟨e, hq, hp⟩)

/-- An alternative that mismatches makes no difference in the first place. -/
theorem firstOf_of_first_mismatchesAt (h : p.MismatchesAt c) :
    firstOf label (p :: ps) c = firstOf label ps c := by
  obtain ⟨reason, place, hp⟩ := h
  exact firstOf_cons_of_mismatched hp

/-- Nor does it in the second. -/
theorem firstOf_of_second_mismatchesAt (h : q.MismatchesAt c) :
    firstOf label (p :: q :: ps) c = firstOf label (p :: ps) c := by
  cases hp : p c with
  | error e => rw [firstOf_cons_of_error hp, firstOf_cons_of_error hp]
  | ok outcome =>
    cases outcome with
    | matched a next => rw [firstOf_cons_of_matched hp, firstOf_cons_of_matched hp]
    | mismatched reason place =>
      rw [firstOf_cons_of_mismatched hp, firstOf_cons_of_mismatched hp,
          firstOf_of_first_mismatchesAt h]

/-- Two alternatives that exclude each other may trade places. -/
theorem firstOf_swap (h : Exclude p q) :
    firstOf label (p :: q :: ps) = firstOf label (q :: p :: ps) := by
  funext c
  rcases h c with hp | hq | ⟨e, hp, hq⟩
  · rw [firstOf_of_first_mismatchesAt hp, firstOf_of_second_mismatchesAt hp]
  · rw [firstOf_of_second_mismatchesAt hq, firstOf_of_first_mismatchesAt hq]
  · rw [firstOf_cons_of_error hp, firstOf_cons_of_error hq]

/-- **A choice may be tried in any order** if its alternatives exclude each
other. -/
theorem firstOf_perm (hperm : ps.Perm qs) (hps : ps.Pairwise Exclude) :
    firstOf label ps = firstOf label qs := by
  -- a permutation is made of exchanges of neighbours; the condition does not
  -- depend on the order, so it holds at each of them
  induction hperm with
  | nil => rfl
  | cons p _ ih =>
    rw [firstOf, firstOf, ih hps.of_cons]
  | swap p q ps =>
    exact firstOf_swap ((List.pairwise_cons.mp hps).1 p List.mem_cons_self)
  | trans hfirst _ ih₁ ih₂ =>
    rw [ih₁ hps, ih₂ ((hfirst.pairwise_iff fun h => h.symm).mp hps)]

end Choice

/-! ## §3. Parsers that begin with a line. -/

section Begin

variable {α β : Type} {form : LineForm} {p : LineParser α}

/-- A parser reads on only where the line in view has a form, and ends where
the look at it goes wrong. -/
structure BeginsWith (form : LineForm) (p : LineParser α) : Prop where
  /-- A look that goes wrong is the fault. -/
  fault : ∀ {c e}, c.peek = .error e → p c = .error e
  /-- Any other line is a mismatch. -/
  mismatch : ∀ {c seen}, c.peek = .ok seen → seen.bind form.captures? = none → p.MismatchesAt c

theorem beginsWith_line {ofLine? : Line → Option α} {reason : Mismatch}
    (h : ∀ line, form.captures? line = none → ofLine? line = none) :
    BeginsWith form (line ofLine? reason) := by
  constructor
  · intro c e hpeek
    unfold line
    simp only [hpeek]
  · intro c seen hpeek hseen
    have hnone : seen.bind ofLine? = none := by
      cases seen with
      | none => rfl
      | some found => exact h found hseen
    refine ⟨reason, c, ?_⟩
    unfold line
    simp only [hpeek, hnone]

/-- What comes after the first line does not matter. -/
theorem BeginsWith.bind (h : BeginsWith form p) (f : α → LineParser β) :
    BeginsWith form (p.bind f) := by
  constructor
  · intro c e hpeek
    exact bind_of_error (h.fault hpeek)
  · intro c seen hpeek hseen
    obtain ⟨reason, place, hp⟩ := h.mismatch hpeek hseen
    exact ⟨reason, place, bind_of_mismatched hp⟩

theorem BeginsWith.map (h : BeginsWith form p) (f : α → β) : BeginsWith form (p.map f) := by
  rw [map_eq_bind]
  exact h.bind _

/-- **Lines of different forms never compete.** -/
theorem BeginsWith.exclude {f g : LineForm} {p q : LineParser α} (hne : f ≠ g)
    (hp : BeginsWith f p) (hq : BeginsWith g q) : Exclude p q := by
  intro c
  cases hpeek : c.peek with
  | error e => exact Or.inr (Or.inr ⟨e, hp.fault hpeek, hq.fault hpeek⟩)
  | ok seen =>
    rcases LineForm.captures_eq_none_of_ne hne seen with hseen | hseen
    · exact Or.inl (hp.mismatch hpeek hseen)
    · exact Or.inr (Or.inl (hq.mismatch hpeek hseen))

end Begin

end LineParser

theorem Plan.beginsWith_read : LineParser.BeginsWith .plan Plan.read := by
  have hline : LineParser.BeginsWith .plan (LineParser.line Plan.ofLine? .notPlan) :=
    LineParser.beginsWith_line fun _ => Option.map_eq_none_iff.mp
  exact hline.bind _

theorem Diagnostic.beginsWith_read : LineParser.BeginsWith .diagnostic Diagnostic.read :=
  LineParser.beginsWith_line fun _ => Option.map_eq_none_iff.mp

/-- A test begins with its title, whatever block follows. -/
theorem Test.beginsWith_readWith (block : LineParser (List Line)) :
    LineParser.BeginsWith .title (Test.readWith block) := by
  have hline : LineParser.BeginsWith .title (LineParser.line TitleParts.ofLine? .notTitle) :=
    LineParser.beginsWith_line fun _ => Option.map_eq_none_iff.mp
  exact (hline.bind _).bind _

/-! ## §4. The alternatives of an item. -/

namespace Item

/-- The kinds of items in the order in which they are tried. -/
def alternatives (block : LineParser (List Line)) : List (LineParser Item) :=
  [Plan.read.map .plan, Diagnostic.read.map .diagnostic, (Test.readWith block).map .test]

theorem pairwise_exclude_alternatives (block : LineParser (List Line)) :
    (alternatives block).Pairwise LineParser.Exclude := by
  have hplan := Plan.beginsWith_read.map Item.plan
  have hdiag := Diagnostic.beginsWith_read.map Item.diagnostic
  have htest := (Test.beginsWith_readWith block).map Item.test
  have hfirst := hplan.exclude (by decide) hdiag
  have hsecond := hplan.exclude (by decide) htest
  have hthird := hdiag.exclude (by decide) htest
  simp [alternatives, hfirst, hsecond, hthird]

end Item

namespace Report

/-- **The order of the alternatives is irrelevant.**  With settings of any
kind, whoever tries the kinds of items in another order reads the same at every
cursor, be it a token, a mismatch or a fault; and no line has two forms. -/
theorem readUnchecked_eq_of_perm (s : RawSettings) {ps : List (LineParser Item)}
    (h : ps.Perm (Item.alternatives (Block.readIndented s.indentLevel s.blockLimit))) :
    (∀ c, readWith (LineParser.manyUnchecked s.itemLimit (LineParser.firstOf Item.label ps)) c
        = readUnchecked s c)
      ∧ ∀ (f g : LineForm) (line : Line), (f.captures? line).isSome = true →
          (g.captures? line).isSome = true → f = g := by
  refine ⟨fun c => ?_, fun f g line => LineForm.eq_of_captures⟩
  have hexclude := Item.pairwise_exclude_alternatives
    (Block.readIndented s.indentLevel s.blockLimit)
  have hps : ps.Pairwise LineParser.Exclude :=
    (h.pairwise_iff fun hpq => hpq.symm).mpr hexclude
  have hany : LineParser.firstOf Item.label ps = Item.readWith _ := LineParser.firstOf_perm h hps
  rw [hany]
  rfl

/-- A test with a block, and a plan after it, indented by two blanks. -/
def indentedReport : Cursor :=
  ⟨#["  TAP version 13".toList, "  not ok 1 - t".toList, "    ---".toList, "    x".toList,
    "    ...".toList, "  1..1".toList, "1..2".toList], 0, 0, [2]⟩

/-- The alternatives with the standard layout, tests first and plans last. -/
def testsFirst : List (LineParser Item) :=
  (Item.alternatives (Block.readIndented RawSettings.standard.indentLevel
    RawSettings.standard.blockLimit)).reverse

/-- Inside a scope the report is read with tests tried first. -/
theorem readUnchecked_testsFirst :
    testsFirst.Perm (Item.alternatives (Block.readIndented RawSettings.standard.indentLevel
        RawSettings.standard.blockLimit))
      ∧ readWith (LineParser.manyUnchecked RawSettings.standard.itemLimit
            (LineParser.firstOf Item.label testsFirst)) indentedReport
          = .ok (.matched
              ⟨13, [.test ⟨⟨false, some 1, some "- t".toList, none⟩, ["x".toList]⟩,
                .plan ⟨1, 1⟩], .atEnd⟩
              { indentedReport with line := 6 }) := by
  have hperm := List.reverse_perm (Item.alternatives (Block.readIndented
    RawSettings.standard.indentLevel RawSettings.standard.blockLimit))
  have hread : readUnchecked .standard indentedReport
      = .ok (.matched
          ⟨13, [.test ⟨⟨false, some 1, some "- t".toList, none⟩, ["x".toList]⟩,
            .plan ⟨1, 1⟩], .atEnd⟩
          { indentedReport with line := 6 }) := rfl
  obtain ⟨hany, -⟩ := readUnchecked_eq_of_perm .standard hperm
  exact ⟨hperm, (hany indentedReport).trans hread⟩

end Report

end TapReport
