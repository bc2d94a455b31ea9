/-
  TapReport.Proofs.Report.Faults
  ──────────────────────────────
  **WHEN LINES CANNOT BE READ AT ALL.**

  A report that is malformed comes to a failure with its place and message.
  Four things are no failure but a fault, and no outcome is left: a numeral
  of a plan or of a test that has too many digits, and, under a line that is
  a title, an indentation or a block limit beyond what a list can have.
  Valid settings exclude none of them, and they matter only at a place where
  the walk looks for an item.

  Main results:
    * `Item.fault?_ne_none_iff` — the places with a fault.
    * `Report.ofLines_eq_error_iff` — a report ends with the fault of the
      first such place.
    * `Report.exists_outcome_iff` — lines have an outcome exactly when no
      place has a fault.
-/
import TapReport.Proofs.Report.Refinement

namespace TapReport

/-! ## §1. Places with a fault. -/

/-- A line that is the title of a test: it is one, and its word is a directive
if it has one. -/
def TitleParts.IsTitle (parts : TitleParts) (line : Line) : Prop :=
  ofLine? line = some parts ∧ (Title.ofParts? parts).isSome

/-- Lines that no item can be looked for at. -/
inductive Item.Unreadable (layout : Layout) : List Line → Prop
  /-- A plan, one of whose numerals is too long. -/
  | plan {line : Line} {start through : Text} {rest : List Line}
      (hplan : Plan.ofLine? line = some (start, through))
      (hlong : Text.digitLimit < start.length ∨ Text.digitLimit < through.length) :
      Unreadable layout (line :: rest)
  /-- A title whose number is too long. -/
  | number {line : Line} {parts : TitleParts} {digits : Text} {rest : List Line}
      (htitle : parts.IsTitle line) (hnumber : parts.number = some digits)
      (hlong : Text.digitLimit < digits.length) : Unreadable layout (line :: rest)
  /-- A title, a line after it, and an indentation that no line can have. -/
  | indent {line next : Line} {parts : TitleParts} {rest : List Line}
      (htitle : parts.IsTitle line) (hwide : (widestIndent : Int) < layout.indent) :
      Unreadable layout (line :: next :: rest)
  /-- A title, an indented `---` after it, and a limit that no list can reach. -/
  | limit {line : Line} {parts : TitleParts} {rest : List Line}
      (htitle : parts.IsTitle line) (hlimit : Block.longestCount ≤ layout.blockLimit) :
      Unreadable layout (line :: Block.indented layout.indent.toNat Block.opening :: rest)

namespace Block

/-- A limit is unreachable from 2^63 - 1 on. -/
theorem room_eq_error_iff {limit : Int} (h0 : 0 ≤ limit) :
    (∃ e, room limit = .error e) ↔ longestCount ≤ limit := by
  constructor
  · intro h
    obtain ⟨e, he⟩ := h
    by_cases hlt : limit < longestCount
    · rw [room_of_lt h0 hlt] at he
      exact absurd he (by simp)
    · exact Int.not_lt.mp hlt
  · intro hge
    have hneg : ¬ (limit < -2 ∧ -longestCount ≤ limit + 2) := by omega
    refine ⟨.limitUnreachable, ?_⟩
    unfold room
    rw [if_neg (by omega), if_neg hneg]

/-- The lines under a title are a fault if there is one to compare and the
indentation is too wide, or if a block begins and its limit is unreachable. -/
theorem fault?_ne_none_iff {layout : Layout} (h0 : 0 ≤ layout.blockLimit) {lines : List Line} :
    fault? layout lines ≠ none ↔
      (lines ≠ [] ∧ (widestIndent : Int) < layout.indent)
        ∨ (lines.head? = some (indented layout.indent.toNat opening)
          ∧ longestCount ≤ layout.blockLimit) := by
  cases lines with
  | nil => simp [fault?]
  | cons line rest =>
    rw [fault?, ← room_eq_error_iff h0]
    have hhead : outdentLine? layout.indent.toNat line = some opening ↔
        (line :: rest).head? = some (indented layout.indent.toNat opening) := by
      rw [outdentLine?_eq_some_iff, List.head?_cons, Option.some.injEq]
      rfl
    by_cases hwide : layout.indent ≤ widestIndent
    · rw [if_pos hwide]
      by_cases hopen : outdentLine? layout.indent.toNat line = some opening
      · rw [if_pos hopen]
        cases hroom : room layout.blockLimit with
        | error e => simp [hhead.mp hopen]
        | ok n => simp; omega
      · rw [if_neg hopen]
        have hno : ¬ (line :: rest).head? = some (indented layout.indent.toNat opening) :=
          fun h => hopen (hhead.mpr h)
        simp only [hno, false_and, or_false, ne_eq, not_true_eq_false, false_iff, not_and]
        omega
    · rw [if_neg hwide]
      simp only [ne_eq, reduceCtorEq, not_false_eq_true, true_and, true_iff]
      exact Or.inl (by omega)

end Block

theorem numeralFault?_ne_none_iff {numerals : List Text} :
    numeralFault? numerals ≠ none ↔ ∃ digits ∈ numerals, Text.digitLimit < digits.length := by
  rw [ne_eq, numeralFault?_eq_none_iff]
  simp

namespace Item

variable {layout : Layout} {line : Line} {rest : List Line} {parts : TitleParts}

/-- Under a title first its number counts, then the lines after it. -/
theorem fault?_of_isTitle (h : parts.IsTitle line) :
    fault? layout (line :: rest)
      = (numeralFault? parts.number.toList).or (Block.fault? layout rest) := by
  obtain ⟨title, htitle⟩ := Option.isSome_iff_exists.mp h.2
  exact fault?_of_parts (LineKind.ofLine_eq_title_iff.mpr h.1) htitle

theorem unreadable_of_fault?_title (h0 : 0 ≤ layout.blockLimit) (htitle : parts.IsTitle line)
    (h : fault? layout (line :: rest) ≠ none) : Unreadable layout (line :: rest) := by
  rw [fault?_of_isTitle htitle] at h
  -- either the number is at fault, or it is what stands under the title
  by_cases hnum : numeralFault? parts.number.toList = none
  · rw [hnum, Option.none_or, Block.fault?_ne_none_iff h0] at h
    cases rest with
    | nil => exact absurd h (by simp)
    | cons next rest =>
      rcases h with ⟨-, hwide⟩ | ⟨hhead, hlimit⟩
      · exact .indent htitle hwide
      · obtain rfl := Option.some.inj hhead
        exact .limit htitle hlimit
  · obtain ⟨digits, hmem, hlong⟩ := numeralFault?_ne_none_iff.mp hnum
    exact .number htitle (Option.mem_toList.mp hmem) hlong

theorem unreadable_of_fault? (h0 : 0 ≤ layout.blockLimit) {lines : List Line}
    (h : fault? layout lines ≠ none) : Unreadable layout lines := by
  cases lines with
  | nil => exact absurd rfl h
  | cons line rest =>
    -- a diagnostic and a line of no kind have no fault
    cases hkind : LineKind.ofLine line with
    | plan start through =>
      rw [fault?, hkind] at h
      obtain ⟨digits, hmem, hlong⟩ := numeralFault?_ne_none_iff.mp h
      refine .plan (LineKind.ofLine_eq_plan_iff.mp hkind) ?_
      rcases List.mem_cons.mp hmem with rfl | hmem
      · exact Or.inl hlong
      · obtain rfl := List.mem_singleton.mp hmem
        exact Or.inr hlong
    | title parts =>
      have hparts := LineKind.ofLine_eq_title_iff.mp hkind
      cases htitle : Title.ofParts? parts with
      | none => exact absurd (fault?_of_parts_none hkind htitle) h
      | some title => exact unreadable_of_fault?_title h0 ⟨hparts, by rw [htitle]; rfl⟩ h
    | diagnostic text =>
      rw [fault?, hkind] at h
      exact absurd rfl h
    | other =>
      rw [fault?, hkind] at h
      exact absurd rfl h

theorem fault?_ne_none_of_unreadable (h0 : 0 ≤ layout.blockLimit) {lines : List Line}
    (h : Unreadable layout lines) : fault? layout lines ≠ none := by
  -- one case for each way to be unreadable
  cases h with
  | plan hplan hlong =>
    rw [fault?, LineKind.ofLine_eq_plan_iff.mpr hplan]
    apply numeralFault?_ne_none_iff.mpr
    rcases hlong with hlong | hlong
    · exact ⟨_, List.mem_cons_self, hlong⟩
    · exact ⟨_, List.mem_cons_of_mem _ List.mem_cons_self, hlong⟩
  | number htitle hnumber hlong =>
    have hnum := numeralFault?_ne_none_iff.mpr ⟨_, Option.mem_toList.mpr hnumber, hlong⟩
    rw [fault?_of_isTitle htitle]
    intro h
    exact hnum (Option.or_eq_none_iff.mp h).1
  | @indent line next parts rest htitle hwide =>
    have hblock : Block.fault? layout (next :: rest) ≠ none :=
      (Block.fault?_ne_none_iff h0).mpr (Or.inl ⟨List.cons_ne_nil _ _, hwide⟩)
    rw [fault?_of_isTitle htitle]
    intro h
    exact hblock (Option.or_eq_none_iff.mp h).2
  | @limit line parts rest htitle hlimit =>
    have hblock : Block.fault? layout (Block.indented layout.indent.toNat Block.opening :: rest)
        ≠ none := (Block.fault?_ne_none_iff h0).mpr (Or.inr ⟨List.head?_cons, hlimit⟩)
    rw [fault?_of_isTitle htitle]
    intro h
    exact hblock (Option.or_eq_none_iff.mp h).2

/-- **The places with a fault** are those that cannot be read. -/
theorem fault?_ne_none_iff (h0 : 0 ≤ layout.blockLimit) {lines : List Line} :
    fault? layout lines ≠ none ↔ Unreadable layout lines :=
  ⟨unreadable_of_fault? h0, fault?_ne_none_of_unreadable h0⟩

end Item

/-! ## §2. Reports with a fault. -/

namespace Report

variable {layout : Layout} {lines : List Line}

/-- **A report ends with a fault** exactly when a place has one, and then with
that of the first. -/
theorem ofLines_eq_error_iff (hk : 0 ≤ layout.indent) {e : Fault} :
    ofLines layout lines = .error e ↔ fault? layout lines = some e := by
  have hverdict := verdict_ofLines hk lines
  cases ho : ofLines layout lines with
  | error e' =>
    rw [ho] at hverdict
    cases hf : fault? layout lines with
    | none => rw [hf] at hverdict; exact absurd hverdict (by simp [Except.map])
    | some e'' =>
      rw [hf] at hverdict
      obtain rfl : e' = e'' := Except.error.inj hverdict
      simp
  | ok outcome =>
    rw [ho] at hverdict
    cases hf : fault? layout lines with
    | none => simp
    | some e'' => rw [hf] at hverdict; exact absurd hverdict (by simp [Except.map])

theorem fault?_eq_none_iff (h0 : 0 ≤ layout.blockLimit) :
    fault? layout lines = none ↔ ∀ place ∈ places layout lines, ¬ Item.Unreadable layout place := by
  unfold fault?
  rw [List.findSome?_eq_none_iff]
  constructor
  · intro h place hplace hbad
    exact (Item.fault?_ne_none_iff h0).mpr hbad (h place hplace)
  · intro h place hplace
    cases hfault : Item.fault? layout place with
    | none => rfl
    | some e => exact absurd ((Item.fault?_ne_none_iff h0).mp (by simp [hfault])) (h place hplace)

/-- With valid settings only a fault of the lines leaves no outcome. -/
theorem parse_eq_error_iff {s : RawSettings} {valid : Settings Int} (hs : s.check = .ok valid)
    {e : Fault} :
    parse s (.lines lines) = .error (.reading e) ↔ fault? (.ofSettings valid) lines = some e := by
  have hindent : 0 ≤ (Layout.ofSettings valid).indent :=
    (Settings.check_eq_ok_iff.mp hs).2.indentLevel_nonneg
  rw [parse_of_check hs, ← ofLines_eq_error_iff hindent]
  cases ofLines (.ofSettings valid) lines with
  | error e' =>
    show Except.error (SourceFault.reading e') = .error (.reading e) ↔ Except.error e' = .error e
    rw [Except.error.injEq, Except.error.injEq, SourceFault.reading.injEq]
  | ok outcome =>
    show (.ok outcome : Except SourceFault (Outcome Content)) = .error (.reading e)
      ↔ (.ok outcome : Except Fault (Outcome Content)) = .error e
    simp

/-- **Lines have an outcome** exactly when no place at which an item is looked
for is unreadable. -/
theorem exists_outcome_iff {s : RawSettings} {valid : Settings Int} (hs : s.check = .ok valid)
    (lines : List Line) :
    (∃ outcome, parse s (.lines lines) = .ok outcome) ↔
      ∀ place ∈ places (.ofSettings valid) lines, ¬ Item.Unreadable (.ofSettings valid) place := by
  have h0 : 0 ≤ (Layout.ofSettings valid).blockLimit :=
    Int.le_of_lt (Settings.check_eq_ok_iff.mp hs).2.blockLimit_pos
  rw [← fault?_eq_none_iff h0]
  constructor
  · intro h
    obtain ⟨outcome, houtcome⟩ := h
    cases hf : fault? (.ofSettings valid) lines with
    | none => rfl
    | some e =>
      rw [(parse_eq_error_iff hs).mpr hf] at houtcome
      exact absurd houtcome (by simp)
  · intro hf
    have hverdict := verdict_parse_of_fault?_eq_none hs hf
    cases ho : parse s (.lines lines) with
    | error e => rw [ho] at hverdict; exact absurd hverdict (by simp [Except.map])
    | ok outcome => exact ⟨outcome, rfl⟩

theorem exists_outcome_mixedReport :
    RawSettings.standard.check = .ok Settings.standard
      ∧ ∃ outcome, parse RawSettings.standard (.lines mixedReport) = .ok outcome := by
  have hcheck : RawSettings.standard.check = .ok Settings.standard := rfl
  refine ⟨hcheck, (exists_outcome_iff hcheck mixedReport).mpr ?_⟩
  exact (fault?_eq_none_iff (by decide)).mp (by decide)

/-- A plan that ends in a numeral of 4301 digits, all but the last one zeros. -/
def longPlan : Line :=
  ['1'] ++ "..".toList ++ (List.replicate 4300 '0' ++ ['4'])

theorem isNumeral_zeros (n : Nat) {d : Char} (hd : Text.isDigit d = true) :
    Text.IsNumeral (List.replicate n '0' ++ [d]) := by
  refine ⟨by simp, ?_⟩
  intro c hc
  rw [List.mem_append, List.mem_replicate, List.mem_singleton] at hc
  rcases hc with ⟨-, rfl⟩ | rfl
  · decide
  · exact hd

theorem ofLine?_longPlan :
    Plan.ofLine? longPlan = some (['1'], List.replicate 4300 '0' ++ ['4']) :=
  Plan.ofLine?_eq_some_iff.mpr
    ⟨rfl, isNumeral_zeros 0 (by decide), isNumeral_zeros 4300 (by decide)⟩

/-- The settings that let a block have as many lines as no list can. -/
def endlessBlocks : Settings Int :=
  { Settings.standard with blockLimit := Block.longestCount }

/-- The settings that indent a block wider than any line. -/
def endlessIndent : Settings Int :=
  { Settings.standard with indentLevel := widestIndent + 1 }

/-- Valid settings leave lines without an outcome: for a plan with a numeral
that is too long, for a block limit that is unreachable and for an indentation
that is too wide. -/
theorem parse_error_of_valid :
    (RawSettings.standard.check = .ok Settings.standard
        ∧ parse RawSettings.standard (.lines ["TAP version 13".toList, longPlan])
          = .error (.reading (.numeralTooLong 4301)))
      ∧ ((endlessBlocks.map .int).check = .ok endlessBlocks
        ∧ parse (endlessBlocks.map .int)
            (.lines ["TAP version 13".toList, "ok 1".toList, "  ---".toList, "  ...".toList])
          = .error (.reading .limitUnreachable))
      ∧ ((endlessIndent.map .int).check = .ok endlessIndent
        ∧ parse (endlessIndent.map .int)
            (.lines ["TAP version 13".toList, "ok 1".toList, "  ---".toList, "  ...".toList])
          = .error (.reading .indentTooWide)) := by
  refine ⟨⟨rfl, (parse_eq_error_iff rfl).mpr ?_⟩, ⟨rfl, (parse_eq_error_iff rfl).mpr (by decide)⟩,
    ⟨rfl, (parse_eq_error_iff rfl).mpr (by decide)⟩⟩
  have hbody : body? ["TAP version 13".toList, longPlan] = some [longPlan] := by
    rw [body?_eq_some_iff]
    exact ⟨_, "13".toList, rfl, by decide, by decide⟩
  -- the numeral is too long to be computed with, so its length is taken apart
  have hlength : (List.replicate 4300 '0' ++ ['4']).length = 4301 := by
    rw [List.length_append, List.length_replicate]
    rfl
  have hfault : Item.fault? (.ofSettings .standard) [longPlan] = some (.numeralTooLong 4301) := by
    rw [Item.fault?, LineKind.ofLine_eq_plan_iff.mpr ofLine?_longPlan]
    show numeralFault? [['1'], _] = _
    rw [numeralFault?_cons_of_le (by decide),
        numeralFault?_cons_of_lt (by rw [hlength]; decide), hlength]
  rw [fault?_of_body hbody]
  exact bodyFault?_of_fault (n := 499) hfault

end Report

end TapReport
