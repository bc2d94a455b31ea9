/-
  TapReport.Proofs.Report.Refinement
  ──────────────────────────────────
  **READING A REPORT IS READING ITS LINES OFF A LIST.**

  The repetition of the grammar moves a cursor item by item; the plain walk
  takes items off a list.  One step of either was settled before
  (`Item.read_eq`); here the steps are put together, with the invariant that
  between two items the cursor is outside all scopes, at the beginning of a
  line of its source or at its end (`Cursor.Settled`).

  Main results:
    * `Report.loop_eq` — the repetition, fault or not.
    * `Report.verdict_ofLines` — a whole report: the first fault of the
      places where an item is looked for, or else the plain verdict.
    * `Report.verdict_parse_eq_direct` — the plain verdict is what settings
      and lines come to, over the three kinds of line with one reading.
-/
import TapReport.Proofs.Report.Steps
import TapReport.Report.Source

namespace TapReport

/-! ## §1. Between two items. -/

namespace Cursor

/-- Where a cursor stands between two items: outside all scopes, at the
beginning of a line or at the end of the source. -/
structure Settled (c : Cursor) : Prop where
  /-- It is in no scope. -/
  top : c.indents = []
  /-- It is at the beginning of its line. -/
  column : c.column = 0
  /-- It is not past the end. -/
  line_le : c.line ≤ c.source.size

/-- Going on settles a cursor that is outside all scopes. -/
theorem settled_forward {c : Cursor} (hc : c.indents = []) (n : Nat) : (c.forward n).Settled :=
  ⟨hc, rfl, Nat.min_le_right _ _⟩

theorem Settled.forward_zero {c : Cursor} (h : c.Settled) : c.forward 0 = c := by
  obtain ⟨source, line, column, indents⟩ := c
  obtain rfl : column = 0 := h.column
  have hle : line ≤ source.size := h.line_le
  show (⟨source, min (line + 0) source.size, 0, indents⟩ : Cursor) = _
  rw [Nat.add_zero, Nat.min_eq_left hle]

end Cursor

/-! ## §2. The repetition. -/

namespace Report

/-- How many lines some items take. -/
def sizes : List Item → Nat
  | [] => 0
  | item :: items => item.size + sizes items

/-- Why no more items are taken off some lines. -/
def stop (layout : Layout) (n : Nat) (lines : List Line) : LineParser.Stop :=
  if (takeItems layout n lines).2 = [] then .atEnd
  else if (takeItems layout n lines).1.length = n then .limitReached
  else .mismatched (.noAlternative Item.label)

/-- The fault of the first place, of those where an item is looked for, that
has one. -/
def bodyFault? (layout : Layout) (n : Nat) (lines : List Line) : Option Fault :=
  (lookedAt layout n lines).findSome? (Item.fault? layout)

variable {layout : Layout} {n : Nat} {lines rest : List Line} {item : Item}

@[simp] theorem takeItems_nil : takeItems layout n [] = ([], []) := by
  cases n <;> rfl

@[simp] theorem bodyFault?_nil : bodyFault? layout n [] = none := by
  cases n <;> rfl

theorem takeItems_of_take (h : Item.take? layout lines = some (item, rest)) :
    takeItems layout (n + 1) lines
      = (item :: (takeItems layout n rest).1, (takeItems layout n rest).2) := by
  rw [takeItems, h]

theorem takeItems_of_take_none (h : Item.take? layout lines = none) :
    takeItems layout (n + 1) lines = ([], lines) := by
  rw [takeItems, h]

theorem stop_of_take (h : Item.take? layout lines = some (item, rest)) :
    stop layout (n + 1) lines = stop layout n rest := by
  unfold stop
  rw [takeItems_of_take h]
  simp

theorem bodyFault?_of_fault {e : Fault} (h : Item.fault? layout lines = some e) :
    bodyFault? layout (n + 1) lines = some e := by
  unfold bodyFault?
  rw [lookedAt, List.findSome?_cons, h]

theorem bodyFault?_of_take (hf : Item.fault? layout lines = none)
    (h : Item.take? layout lines = some (item, rest)) :
    bodyFault? layout (n + 1) lines = bodyFault? layout n rest := by
  unfold bodyFault?
  rw [lookedAt, List.findSome?_cons, hf, h]

theorem bodyFault?_of_take_none (hf : Item.fault? layout lines = none)
    (h : Item.take? layout lines = none) : bodyFault? layout (n + 1) lines = none := by
  unfold bodyFault?
  rw [lookedAt, List.findSome?_cons, hf, h]
  rfl

/-- A body has the fault of its first place, or else of those after it. -/
theorem bodyFault?_succ (layout : Layout) (n : Nat) (lines : List Line) :
    bodyFault? layout (n + 1) lines
      = (Item.fault? layout lines).or (match Item.take? layout lines with
          | none => none
          | some (_, rest) => bodyFault? layout n rest) := by
  unfold bodyFault?
  rw [lookedAt, List.findSome?_cons]
  cases Item.fault? layout lines with
  | some e => rfl
  | none => cases Item.take? layout lines <;> rfl

/-- **The repetition of items** ends with the first fault where items are
looked for, or else takes exactly the items of the plain walk. -/
theorem loop_eq (hk : 0 ≤ layout.indent) {c : Cursor} (hc : c.Settled) (found : List Item) :
    LineParser.many.loop (Item.read layout) n c found
      = match bodyFault? layout n c.remaining with
        | some e => .error e
        | none => .ok (.matched
            ⟨found.reverse ++ (takeItems layout n c.remaining).1, stop layout n c.remaining⟩
            (c.forward (sizes (takeItems layout n c.remaining).1))) := by
  -- induction on the budget; the cursor moves on, so it is general
  induction n generalizing c found with
  | zero =>
    rw [LineParser.many.loop, Cursor.peek_of_top hc.top]
    have hzero : c.forward (sizes []) = c := hc.forward_zero
    cases hl : c.remaining with
    | nil => simp [stop, hzero]
    | cons line more => simp [stop, takeItems, bodyFault?, lookedAt, hzero]
  | succ n ih =>
    rw [LineParser.many.loop, Cursor.peek_of_top hc.top]
    have hzero : c.forward (sizes []) = c := hc.forward_zero
    cases hl : c.remaining with
    | nil => simp [stop, hzero]
    | cons line more =>
      have hread : Item.read layout c = _ := Item.read_eq hk hc.top
      rw [hl] at hread
      simp only [List.head?_cons, hread]
      cases hfault : Item.fault? layout (line :: more) with
      | some e => rw [bodyFault?_of_fault hfault, Item.answer_of_fault hfault]
      | none =>
        cases htake : Item.take? layout (line :: more) with
        | none =>
          -- nothing is taken, and the cursor stays where it is
          rw [bodyFault?_of_take_none hfault htake, Item.answer_of_take_none hfault htake]
          simp [stop, takeItems_of_take_none htake, hzero]
        | some taken =>
          -- the item is taken, and the rest follows by induction
          obtain ⟨item, rest⟩ := taken
          rw [Item.answer_of_take hfault htake]
          have hrest : (c.forward item.size).remaining = rest := by
            rw [Cursor.remaining_forward, hl, Item.eq_drop_of_take? htake]
          have hgo : (c.forward item.size).forward (sizes (takeItems layout n rest).1)
              = c.forward (sizes (item :: (takeItems layout n rest).1)) := by
            rw [Cursor.forward_forward]
            rfl
          simp only
          rw [ih (Cursor.settled_forward hc.top item.size) (item :: found), hrest,
              bodyFault?_of_take hfault htake, stop_of_take htake, takeItems_of_take htake, hgo]
          simp

end Report

/-! ## §3. The version line. -/

namespace Version

variable {c : Cursor} {header : Line} {body : List Line}

theorem read_of_none (hc : c.indents = []) (h : c.remaining.head?.bind ofLine? = none) :
    read protocolVersion c = .ok (.mismatched .notVersion c) := by
  apply LineParser.bind_of_mismatched
  rw [LineParser.line_eq hc, h]

/-- A version line is read whatever its number: three digits are never too
long. -/
theorem read_of_ofLine? (hc : c.indents = []) (hl : c.remaining = header :: body)
    {digits : Text} (h : ofLine? header = some digits) :
    read protocolVersion c =
      if Text.ofDigits digits = 13 then .ok (.matched protocolVersion c.next)
      else .ok (.mismatched (.wrongVersion protocolVersion (Text.ofDigits digits)) c.next) := by
  obtain ⟨-, -, hlength⟩ := ofLine?_eq_some_iff.mp h
  have hlimit : Text.digitLimit = 4300 := rfl
  have hnum := readNumeral_eq digits c.next
  rw [numeralFault?_cons_of_le (by omega)] at hnum
  -- the number is read as an integer and compared as one
  unfold read
  rw [LineParser.bind_of_matched (LineParser.line_of_eq_some hc hl h),
      LineParser.bind_of_matched hnum]
  have hcast : ((Text.ofDigits digits : Int) = protocolVersion) ↔ Text.ofDigits digits = 13 := by
    show ((Text.ofDigits digits : Int) = 13) ↔ _
    omega
  by_cases hv : Text.ofDigits digits = 13
  · rw [if_pos hv, if_pos (hcast.mpr hv), hcast.mpr hv]
    rfl
  · rw [if_neg hv, if_neg (fun h => hv (hcast.mp h))]
    rfl

end Version

/-! ## §4. The whole report. -/

/-- What an outcome of reading a report amounts to. -/
def Outcome.verdict : Outcome Report.Content → Verdict
  | .matched content _ => .document content.document
  | .mismatched reason place => .failure place.line place.reportedColumn reason.message

/-- How a report of another version is refused. -/
theorem message_wrongVersion (n : Nat) :
    (Mismatch.wrongVersion protocolVersion n).message
      = "Unexpected TAP version: Expected 13, received ".toList ++ Text.ofNat n := by
  have hlead : "Unexpected TAP version: Expected ".toList ++ Text.ofInt protocolVersion
      ++ ", received ".toList = "Unexpected TAP version: Expected 13, received ".toList := by
    decide
  show _ ++ _ ++ _ ++ Text.ofNat n = _
  rw [hlead]

namespace Report

variable {layout : Layout} {lines body : List Line} {c : Cursor}

theorem body?_eq_some_iff : body? lines = some body ↔
    ∃ header digits, lines = header :: body ∧ Version.ofLine? header = some digits
      ∧ Text.ofDigits digits = 13 := by
  cases lines with
  | nil => simp [body?]
  | cons header rest =>
    rw [body?, Option.bind_eq_some_iff]
    constructor
    · intro h
      obtain ⟨digits, hdigits, h⟩ := h
      split at h
      · next hv =>
        obtain rfl := Option.some.inj h
        exact ⟨header, digits, rfl, hdigits, hv⟩
      · exact absurd h (by simp)
    · intro h
      obtain ⟨_, digits, heq, hdigits, hv⟩ := h
      obtain ⟨rfl, rfl⟩ := List.cons.inj heq
      exact ⟨digits, hdigits, by rw [if_pos hv]⟩

/-- The fault that ends reading a report, if one does: that of the first place
that has one. -/
def fault? (layout : Layout) (lines : List Line) : Option Fault :=
  (places layout lines).findSome? (Item.fault? layout)

theorem fault?_of_body (h : body? lines = some body) :
    fault? layout lines = bodyFault? layout layout.itemLimit.toNat body := by
  unfold fault? places
  rw [h]
  rfl

theorem fault?_of_body_none (h : body? lines = none) : fault? layout lines = none := by
  unfold fault? places
  rw [h]
  rfl

/-- **A report with a right version line** is read to the end of its last
item. -/
theorem read_of_body (hk : 0 ≤ layout.indent) (hc : c.indents = [])
    (h : body? c.remaining = some body) :
    read layout c = match bodyFault? layout layout.itemLimit.toNat body with
      | some e => .error e
      | none => .ok (.matched
          ⟨protocolVersion, (takeItems layout layout.itemLimit.toNat body).1,
            stop layout layout.itemLimit.toNat body⟩
          (c.forward (1 + sizes (takeItems layout layout.itemLimit.toNat body).1))) := by
  obtain ⟨header, digits, hl, hdigits, hv⟩ := body?_eq_some_iff.mp h
  have hversion := Version.read_of_ofLine? hc hl hdigits
  rw [if_pos hv] at hversion
  have hnext : c.next.remaining = body := by
    show (c.forward 1).remaining = body
    rw [Cursor.remaining_forward, hl]
    rfl
  have hloop := loop_eq (n := layout.itemLimit.toNat) hk (Cursor.settled_forward hc 1) []
  rw [show (c.forward 1).remaining = body from hnext] at hloop
  unfold read readWith
  rw [LineParser.bind_of_matched hversion]
  -- `many` starts the repetition with its whole budget and nothing found
  have hmany : LineParser.many layout.itemLimit (Item.read layout) c.next
      = LineParser.many.loop (Item.read layout) layout.itemLimit.toNat (c.forward 1) [] := rfl
  cases hf : bodyFault? layout layout.itemLimit.toNat body with
  | some e =>
    rw [hf] at hloop
    exact LineParser.map_of_error (hmany.trans hloop)
  | none =>
    rw [hf] at hloop
    rw [LineParser.map_of_matched (hmany.trans hloop), Cursor.forward_forward]
    rfl

/-- Without a right version line reading stops there, whatever the layout. -/
theorem version_mismatched (hc : c.indents = []) (h : body? c.remaining = none) :
    ∃ reason place, Version.read protocolVersion c = .ok (.mismatched reason place) := by
  cases hl : c.remaining with
  | nil => exact ⟨_, _, Version.read_of_none hc (by rw [hl]; rfl)⟩
  | cons header rest =>
    cases hdigits : Version.ofLine? header with
    | none => exact ⟨_, _, Version.read_of_none hc (by rw [hl]; exact hdigits)⟩
    | some digits =>
      have hv : ¬ Text.ofDigits digits = 13 := by
        intro hv
        rw [hl, body?_eq_some_iff.mpr ⟨header, digits, rfl, hdigits, hv⟩] at h
        exact absurd h (by simp)
      have hversion := Version.read_of_ofLine? hc hl hdigits
      rw [if_neg hv] at hversion
      exact ⟨_, _, hversion⟩

/-- With a right version line the body decides. -/
theorem verdict_of_body (hk : 0 ≤ layout.indent) (h : body? lines = some body) :
    (ofLines layout lines).map Outcome.verdict
      = match bodyFault? layout layout.itemLimit.toNat body with
        | some e => .error e
        | none => .ok (direct layout lines) := by
  have hread : ofLines layout lines = _ :=
    read_of_body hk (c := Cursor.ofLines lines) rfl (by rw [Cursor.remaining_ofLines]; exact h)
  rw [hread]
  cases bodyFault? layout layout.itemLimit.toNat body with
  | some e => rfl
  | none =>
    obtain ⟨header, digits, rfl, hdigits, hv⟩ := body?_eq_some_iff.mp h
    show Except.ok (Verdict.document (Document.ofItems _)) = Except.ok (direct layout _)
    rw [direct, hdigits]
    simp only [if_pos hv, walk_eq_ofItems]

/-- Where the version line mismatches, so does the report. -/
theorem ofLines_of_mismatched {reason : Mismatch} {place : Cursor}
    (h : Version.read protocolVersion (Cursor.ofLines lines) = .ok (.mismatched reason place)) :
    ofLines layout lines = .ok (.mismatched reason place) :=
  LineParser.bind_of_mismatched h

/-- Without a right version line nothing else counts. -/
theorem verdict_of_body_none (h : body? lines = none) :
    (ofLines layout lines).map Outcome.verdict = .ok (direct layout lines) := by
  have hc : (Cursor.ofLines lines).indents = [] := rfl
  cases lines with
  | nil =>
    rw [ofLines_of_mismatched (Version.read_of_none hc rfl)]
    rfl
  | cons header rest =>
    cases hdigits : Version.ofLine? header with
    | none =>
      have hversion := Version.read_of_none (c := Cursor.ofLines (header :: rest)) hc hdigits
      rw [ofLines_of_mismatched hversion, direct, hdigits]
      rfl
    | some digits =>
      have hv : ¬ Text.ofDigits digits = 13 := by
        intro hv
        rw [body?_eq_some_iff.mpr ⟨header, digits, rfl, hdigits, hv⟩] at h
        exact absurd h (by simp)
      have hversion := Version.read_of_ofLine? (c := Cursor.ofLines (header :: rest)) hc
        (Cursor.remaining_ofLines _) hdigits
      rw [if_neg hv] at hversion
      rw [ofLines_of_mismatched hversion, direct, hdigits]
      -- the number is compared once its line is passed
      have hline : (Cursor.ofLines (header :: rest)).next.line = 1 :=
        Nat.min_eq_left (Nat.le_add_left 1 rest.length)
      show Except.ok (Verdict.failure (Cursor.ofLines (header :: rest)).next.line _ _) = _
      rw [hline, message_wrongVersion]
      simp only [if_neg hv]
      rfl

/-- **A report read off its lines**: the fault of the first place that has
one, or else the plain verdict. -/
theorem verdict_ofLines (hk : 0 ≤ layout.indent) (lines : List Line) :
    (ofLines layout lines).map Outcome.verdict
      = match fault? layout lines with
        | some e => .error e
        | none => .ok (direct layout lines) := by
  cases hbody : body? lines with
  | some body =>
    rw [fault?_of_body hbody]
    exact verdict_of_body hk hbody
  | none =>
    rw [fault?_of_body_none hbody]
    exact verdict_of_body_none hbody

end Report

/-! ## §5. Without a fault. -/

/-- A limit below 2^63 - 1 is one that a list can have. -/
theorem Block.room_of_lt {limit : Int} (h0 : 0 ≤ limit) (h : limit < longestCount) :
    room limit = .ok (limit + 1).toNat := by
  unfold room
  rw [if_pos ⟨by omega, h⟩]

/-- With an indentation and a limit in range the lines under a title are no
fault. -/
theorem Block.fault?_eq_none {layout : Layout} (hindent : layout.indent ≤ widestIndent)
    (h0 : 0 ≤ layout.blockLimit) (hlimit : layout.blockLimit < longestCount)
    (lines : List Line) : fault? layout lines = none := by
  cases lines with
  | nil => rfl
  | cons line more =>
    rw [fault?, if_pos hindent, room_of_lt h0 hlimit]
    simp

/-- Then only a numeral can be one. -/
theorem Item.fault?_eq_numeralFault? {layout : Layout} (hindent : layout.indent ≤ widestIndent)
    (h0 : 0 ≤ layout.blockLimit) (hlimit : layout.blockLimit < Block.longestCount)
    (lines : List Line) : fault? layout lines = numeralFault? (numerals lines) := by
  cases lines with
  | nil => rfl
  | cons line rest =>
    rw [fault?, numerals]
    cases LineKind.ofLine line with
    | title parts => simp [Block.fault?_eq_none hindent h0 hlimit]
    | _ => rfl

namespace Report

theorem fault?_eq_none_of_numerals {layout : Layout} (hindent : layout.indent ≤ widestIndent)
    (h0 : 0 ≤ layout.blockLimit) (hlimit : layout.blockLimit < Block.longestCount)
    {lines : List Line} (hnum : ∀ digits ∈ numerals layout lines, digits.length ≤ Text.digitLimit) :
    fault? layout lines = none := by
  unfold fault?
  rw [List.findSome?_eq_none_iff]
  intro place hplace
  -- within range only the numerals of a place can be a fault
  rw [Item.fault?_eq_numeralFault? hindent h0 hlimit, numeralFault?_eq_none_iff]
  intro digits hdigits
  exact hnum digits (List.mem_flatMap.mpr ⟨place, hplace, hdigits⟩)

/-- What valid settings do with lines. -/
theorem parse_of_check {s : RawSettings} {valid : Settings Int} (hs : s.check = .ok valid)
    (lines : List Line) :
    parse s (.lines lines) = (ofLines (.ofSettings valid) lines).mapError .reading := by
  obtain ⟨rfl, hvalid⟩ := Settings.check_eq_ok_iff.mp hs
  exact parse_lines_eq hvalid lines

/-- Where no place has a fault, valid settings come to the plain verdict. -/
theorem verdict_parse_of_fault?_eq_none {s : RawSettings} {valid : Settings Int}
    (hs : s.check = .ok valid) {lines : List Line}
    (hfault : fault? (.ofSettings valid) lines = none) :
    (parse s (.lines lines)).map Outcome.verdict = .ok (direct (.ofSettings valid) lines) := by
  have hindent : 0 ≤ (Layout.ofSettings valid).indent :=
    (Settings.check_eq_ok_iff.mp hs).2.indentLevel_nonneg
  have hlines := verdict_ofLines hindent lines
  rw [hfault] at hlines
  rw [parse_of_check hs]
  cases ho : ofLines (.ofSettings valid) lines with
  | error e => rw [ho] at hlines; exact absurd hlines (by simp [Except.map])
  | ok outcome =>
    rw [ho] at hlines
    exact congrArg Except.ok (Except.ok.inj hlines)

/-- **The direct recursion is the parser.**  With valid settings in range, and
where no numeral that is read is too long, lines come to the plain verdict.  The
lines that it tells apart without the reader of titles are version lines, plans
and diagnostics, and these are what they are said to be. -/
theorem verdict_parse_eq_direct {s : RawSettings} {valid : Settings Int}
    (hs : s.check = .ok valid) (hindent : valid.indentLevel ≤ widestIndent)
    (hlimit : valid.blockLimit < Block.longestCount) {lines : List Line}
    (hnum : ∀ digits ∈ numerals (.ofSettings valid) lines, digits.length ≤ Text.digitLimit) :
    (parse s (.lines lines)).map Outcome.verdict = .ok (direct (.ofSettings valid) lines)
      ∧ (∀ line digits, Version.ofLine? line = some digits ↔
          line = "TAP version ".toList ++ digits ∧ Text.IsNumeral digits ∧ digits.length ≤ 3)
      ∧ (∀ line start through, Plan.ofLine? line = some (start, through) ↔
          line = start ++ "..".toList ++ through
            ∧ Text.IsNumeral start ∧ Text.IsNumeral through)
      ∧ ∀ line text, Diagnostic.ofLine? line = some text ↔
          line = "# ".toList ++ text ∧ text ≠ [] ∧ '\n' ∉ text := by
  have hblock : 0 ≤ valid.blockLimit :=
    Int.le_of_lt (Settings.check_eq_ok_iff.mp hs).2.blockLimit_pos
  have hfault : fault? (.ofSettings valid) lines = none :=
    fault?_eq_none_of_numerals hindent hblock hlimit hnum
  exact ⟨verdict_parse_of_fault?_eq_none hs hfault, fun _ _ => Version.ofLine?_eq_some_iff,
    fun _ _ _ => Plan.ofLine?_eq_some_iff, fun _ _ => Diagnostic.ofLine?_eq_some_iff⟩

/-- A report with every kind of item and a plan inside a block; its last test
has no block. -/
def mixedReport : List Line :=
  ["TAP version 13".toList, "1..2".toList, "# first".toList, "ok 1 - a # SKIP".toList,
    "  ---".toList, "  1..9".toList, "  ...".toList, "1..3".toList, "not ok".toList]

theorem verdict_parse_mixedReport :
    RawSettings.standard.check = .ok Settings.standard
      ∧ (∀ digits ∈ numerals (.ofSettings .standard) mixedReport, digits.length ≤ Text.digitLimit)
      ∧ (parse RawSettings.standard (.lines mixedReport)).map Outcome.verdict
        = .ok (.document ⟨13, some ⟨1, 3⟩, ["first".toList],
            [⟨⟨true, some 1, some "- a".toList, some "skip".toList⟩, ["1..9".toList]⟩]⟩) := by
  have hcheck : RawSettings.standard.check = .ok Settings.standard := rfl
  have hnum : ∀ digits ∈ numerals (.ofSettings .standard) mixedReport,
      digits.length ≤ Text.digitLimit := by decide
  refine ⟨hcheck, hnum, ?_⟩
  rw [(verdict_parse_eq_direct hcheck (by decide) (by decide) hnum).1]
  rfl

end Report

end TapReport
