/-
  TapReport.Proofs.Report.Canonical
  ─────────────────────────────────
  **A REPORT THAT WAS READ IS WRITTEN AGAIN.**

  Whatever the lines were that a document was read from, the document has one
  canonical writing: its plan, its diagnostics and its tests, in this order,
  numbers in ASCII digits and directives in small letters right behind the
  description.  (A blank between the two would make a number of a description
  that is digits only.)  Read with the same settings, that writing says the
  document again.  What was read cannot be just any document: a description has
  lost the blanks at its end and does not begin with a number of its own, a
  block holds no `...`, and numerals and blocks are within the limits.

      Title.canonicalSaid       what a test line says after its number
      Item.canonicalLines       one item
      Item.Taken                lines that an item is taken off, without a fault
      Document.canonicalLines   a whole document

  Main results:
    * `Text.length_ofInt_ofDigits_le` — a number is not longer than the numeral
      that it was read from.
    * `Title.splitNumber_canonicalSaid` — what an unnumbered title says does not
      begin with a number.
    * `Item.Taken.canonical` — an item that was taken is taken off its
      canonical lines.
    * `Report.verdict_parse_canonicalLines` — a document is read again.
-/
import Mathlib.Algebra.Group.Nat.Defs
import Mathlib.Data.List.Perm.Subperm
import TapReport.Proofs.Report.Concatenation
import TapReport.Proofs.Report.Faults

namespace TapReport

/-! ## §1. Numbers and texts. -/

namespace Text

theorem ofDigits_lt (digits : Text) : ofDigits digits < 10 ^ digits.length := by
  -- induction from the first digit on, so the number that is read so far is general
  have hfold : ∀ (digits : Text) (n : Nat),
      digits.foldl (fun n c => 10 * n + (digit? c).getD 0) n < (n + 1) * 10 ^ digits.length := by
    intro digits
    induction digits with
    | nil => intro n; simp
    | cons c digits ih =>
      intro n
      have hdigit : (digit? c).getD 0 < 10 := by
        cases hd : digit? c with
        | none => decide
        | some d => exact digit?_lt hd
      calc (c :: digits).foldl (fun n c => 10 * n + (digit? c).getD 0) n
          < (10 * n + (digit? c).getD 0 + 1) * 10 ^ digits.length := ih _
        _ ≤ (10 * (n + 1)) * 10 ^ digits.length := Nat.mul_le_mul_right _ (by omega)
        _ = (n + 1) * 10 ^ (c :: digits).length := by
          rw [List.length_cons, Nat.pow_succ, Nat.mul_comm 10, Nat.mul_assoc, Nat.mul_comm 10]
  have h := hfold digits 0
  rwa [Nat.zero_add, Nat.one_mul] at h

/-- **A number is not longer than a numeral of it.** -/
theorem length_ofInt_ofDigits_le {digits : Text} (h : IsNumeral digits) :
    (ofInt (ofDigits digits : Int)).length ≤ digits.length :=
  (Nat.length_toDigits_le_iff (by decide) (List.length_pos_iff.mpr h.ne_nil)).mpr
    (ofDigits_lt digits)

theorem trimEnd_isPrefix (t : Text) : trimEnd t <+: t := by
  have hsuffix : t.reverse.dropWhile isBlank <:+ t.reverse := List.dropWhile_suffix _
  rwa [← List.reverse_prefix, List.reverse_reverse] at hsuffix

end Text

/-! ## §2. Titles. -/

theorem TitleParts.beforeHash_append_of_notMem {front : Text} (h : '#' ∉ front) (rest : Text) :
    beforeHash (front ++ rest) = front ++ beforeHash rest :=
  List.takeWhile_append_of_pos (ne_hash_of_notMem h)

namespace Title

/-- What a test line says after its number, with no blank before a directive. -/
def canonicalSaid (t : Title) : Text :=
  t.description.getD [] ++ directiveText t.directive

/-- A title as a test line. -/
def canonicalLine (t : Title) : Line :=
  TitleParts.statusWord t.ok ++ ' ' :: (t.numberText ++ t.canonicalSaid)

variable {t : Title}

/-- The description and the directive are taken from it again. -/
theorem parts_canonicalSaid (h : t.Kept) :
    '\n' ∉ TitleParts.fromHash t.canonicalSaid
      ∧ TitleParts.beforeHash t.canonicalSaid = t.description.getD []
      ∧ keptDescription (TitleParts.nonempty? (TitleParts.beforeHash t.canonicalSaid))
        = t.description
      ∧ TitleParts.directiveIn (TitleParts.fromHash t.canonicalSaid) = t.directive := by
  have hhash : '#' ∉ t.description.getD [] := by
    cases hd : t.description with
    | none => simp
    | some d => exact (h.description d hd).2.1
  have hkept : keptDescription (TitleParts.nonempty? (t.description.getD [])) = t.description := by
    cases hd : t.description with
    | none => rfl
    | some d =>
      obtain ⟨hne, -, htrim⟩ := h.description d hd
      rw [keptDescription_nonempty?, Option.getD_some, htrim]
      exact nonempty?_eq_some_iff.mpr ⟨rfl, hne⟩
  obtain ⟨hnl, hbefore, hin⟩ := parts_directiveText hhash h.directive
  refine ⟨hnl, hbefore, ?_, hin⟩
  rw [canonicalSaid, hbefore, hkept]

/-- **What an unnumbered title says** does not begin with a number, if the title
was read. -/
theorem splitNumber_canonicalSaid {line : Line} {parts : TitleParts}
    (hline : TitleParts.ofLine? line = some parts) (hparts : ofParts? parts = some t)
    (hn : t.number = none) : (TitleParts.splitNumber t.canonicalSaid).1 = none := by
  obtain ⟨rest, -, hpart, hdescription, -⟩ := TitleParts.exists_of_ofLine? hline
  obtain ⟨-, -, hnumber, hkept⟩ := ofParts?_eq_some_iff.mp hparts
  rw [hn, Option.map_eq_none_iff, hpart] at hnumber
  rw [hdescription, TitleParts.splitNumber_of_fst_eq_none hnumber, keptDescription_nonempty?]
    at hkept
  -- the description is what the line says before a `#`, less the blanks at its end
  have hgetD : t.description.getD [] = Text.trimEnd (TitleParts.beforeHash rest) := by
    rw [← hkept]
    unfold TitleParts.nonempty?
    split
    · next hnil => rw [Option.getD_none, List.isEmpty_iff.mp hnil]
    · rfl
  rw [TitleParts.splitNumber_fst_eq_none_iff] at hnumber ⊢
  intro digits more hnum hsaid
  -- a number at its beginning would begin the text of the line too
  have hblank : '#' ∉ digits ++ [' '] := by
    intro hmem
    rcases List.mem_append.mp hmem with hdigit | hdigit
    · exact absurd (hnum.isDigit '#' hdigit) (by decide)
    · exact absurd hdigit (by decide)
  have hfront : t.description.getD [] = digits ++ [' '] ++ TitleParts.beforeHash more := by
    rw [← (parts_canonicalSaid (kept_of_read hline hparts)).2.1, hsaid,
        ← TitleParts.beforeHash_append_of_notMem hblank, List.append_assoc, List.singleton_append]
  obtain ⟨after, hafter⟩ : t.description.getD [] <+: rest := by
    rw [hgetD]
    exact (Text.trimEnd_isPrefix _).trans (List.takeWhile_prefix _)
  refine hnumber digits (TitleParts.beforeHash more ++ after) hnum ?_
  rw [← hafter, hfront]
  simp

/-- **A title that was read** is read off its canonical line. -/
theorem read_canonicalLine {line : Line} {parts : TitleParts}
    (hline : TitleParts.ofLine? line = some parts) (hparts : ofParts? parts = some t) :
    ∃ written : TitleParts, TitleParts.ofLine? t.canonicalLine = some written
      ∧ written.number = t.number.map Text.ofInt ∧ ofParts? written = some t := by
  have hkept := kept_of_read hline hparts
  obtain ⟨hnl, -, hdescription, hdirective⟩ := parts_canonicalSaid hkept
  have hsplit := splitNumber_numberText hkept.number (splitNumber_canonicalSaid hline hparts)
  refine ⟨_, ofLine?_numberText hsplit hnl, rfl, ?_⟩
  rw [hdirective]
  exact ofParts?_of_written hkept.number hkept.directive hdescription

/-- Its number is no longer than it was. -/
theorem numeralFault?_number {line : Line} {parts : TitleParts}
    (hline : TitleParts.ofLine? line = some parts) (hparts : ofParts? parts = some t)
    (hnum : numeralFault? parts.number.toList = none) :
    numeralFault? (t.number.map Text.ofInt).toList = none := by
  obtain ⟨rest, -, hsplit, -, -⟩ := TitleParts.exists_of_ofLine? hline
  obtain ⟨-, -, hnumber, -⟩ := ofParts?_eq_some_iff.mp hparts
  cases hp : parts.number with
  | none =>
    rw [hp] at hnumber
    rw [← hnumber]
    rfl
  | some digits =>
    rw [hp] at hnumber hsplit hnum
    obtain ⟨-, hnumeral⟩ := TitleParts.splitNumber_eq_some_iff.mp (Prod.ext hsplit.symm rfl)
    rw [← hnumber]
    -- one numeral was read, and one is written
    show numeralFault? [Text.ofInt (Text.ofDigits digits : Int)] = none
    rw [Option.toList_some, numeralFault?_eq_none_iff, List.forall_mem_singleton] at hnum
    rw [numeralFault?_eq_none_iff, List.forall_mem_singleton]
    exact Nat.le_trans (Text.length_ofInt_ofDigits_le hnumeral) hnum

end Title

/-! ## §3. Items. -/

namespace Item

/-- An item as lines, with blocks indented by `k` blanks. -/
def canonicalLines (k : Nat) : Item → List Line
  | .plan p => [Text.ofInt p.start ++ "..".toList ++ Text.ofInt p.through]
  | .diagnostic text => ["# ".toList ++ text]
  | .test t => t.title.canonicalLine :: Block.lines k t.block

/-- Some lines that an item is taken off, and that are no fault. -/
structure Taken (layout : Layout) (lines : List Line) (item : Item) (rest : List Line) :
    Prop where
  /-- They are no fault. -/
  fault?_eq : fault? layout lines = none
  /-- The item is taken, and the rest is left. -/
  take?_eq : take? layout lines = some (item, rest)

variable {layout : Layout} {line : Line} {rest : List Line}

/-! Each kind of item is taken off its canonical lines, if it was taken before. -/

theorem taken_plan {start through : Text} (hkind : LineKind.ofLine line = .plan start through)
    (hf : fault? layout (line :: rest) = none) (k : Nat) (more : List Line) :
    Taken layout
      ((Item.plan ⟨Text.ofDigits start, Text.ofDigits through⟩).canonicalLines k ++ more)
      (.plan ⟨Text.ofDigits start, Text.ofDigits through⟩) more := by
  obtain ⟨-, hstart, hthrough⟩ := Plan.ofLine?_eq_some_iff.mp (LineKind.ofLine_eq_plan_iff.mp hkind)
  have hwritten := ofLine_plan (p := ⟨Text.ofDigits start, Text.ofDigits through⟩)
    ⟨Int.natCast_nonneg _, Int.natCast_nonneg _⟩
  rw [fault?, hkind] at hf
  have hnum : ∀ digits ∈ [start, through], digits.length ≤ Text.digitLimit :=
    numeralFault?_eq_none_iff.mp hf
  rw [canonicalLines, List.singleton_append]
  constructor
  · rw [fault?, hwritten]
    refine numeralFault?_eq_none_iff.mpr ?_
    intro digits hdigits
    rcases List.mem_pair.mp hdigits with rfl | rfl
    · exact Nat.le_trans (Text.length_ofInt_ofDigits_le hstart) (hnum start (by simp))
    · exact Nat.le_trans (Text.length_ofInt_ofDigits_le hthrough) (hnum through (by simp))
  · rw [take?, hwritten]
    simp only [Text.ofDigits_ofInt (Int.natCast_nonneg _)]

theorem taken_diagnostic {text : Text} (hkind : LineKind.ofLine line = .diagnostic text)
    (k : Nat) (more : List Line) :
    Taken layout ((Item.diagnostic text).canonicalLines k ++ more) (.diagnostic text) more := by
  obtain ⟨rfl, -, -⟩ :=
    Diagnostic.ofLine?_eq_some_iff.mp (LineKind.ofLine_eq_diagnostic_iff.mp hkind)
  rw [canonicalLines, List.singleton_append]
  constructor
  · rw [fault?, hkind]
    rfl
  · rw [take?, hkind]

theorem taken_test {parts : TitleParts} {title : Title} {block : List Line}
    (hkind : LineKind.ofLine line = .title parts) (htitle : Title.ofParts? parts = some title)
    (hmem : Block.closing ∉ block) (hlen : block.length < (layout.blockLimit + 1).toNat)
    (hf : fault? layout (line :: (Block.lines layout.indent.toNat block ++ rest)) = none)
    (more : List Line) :
    Taken layout ((Item.test ⟨title, block⟩).canonicalLines layout.indent.toNat ++ more)
      (.test ⟨title, block⟩) more := by
  have hline := LineKind.ofLine_eq_title_iff.mp hkind
  obtain ⟨written, hwritten, hnumber, hread⟩ := Title.read_canonicalLine hline htitle
  have hwrittenKind := LineKind.ofLine_eq_title_iff.mpr hwritten
  rw [fault?_of_parts hkind htitle, Option.or_eq_none_iff,
      Block.fault?_append (Block.lines_ne_nil _ _)] at hf
  constructor
  · rw [canonicalLines, List.cons_append, fault?_of_parts hwrittenKind hread, hnumber,
        Title.numeralFault?_number hline htitle hf.1, Option.none_or,
        Block.fault?_append (Block.lines_ne_nil _ _)]
    exact hf.2
  · exact (Begins.test hwrittenKind hread hmem hlen).take?_eq

/-- **An item that was taken** is taken off its canonical lines, whatever
follows them. -/
theorem Taken.canonical {lines : List Line} {item : Item} (h : Taken layout lines item rest)
    (more : List Line) :
    Taken layout (item.canonicalLines layout.indent.toNat ++ more) item more := by
  have hf := h.fault?_eq
  cases begins_of_take? h.take?_eq with
  | plan hkind => exact taken_plan hkind hf _ more
  | diagnostic hkind => exact taken_diagnostic hkind _ more
  | test hkind htitle hmem hlen => exact taken_test hkind htitle hmem hlen hf more

end Item

/-! ## §4. Documents. -/

namespace Document

/-- The items that a document is written as. -/
def items (d : Document) : List Item :=
  d.plan.toList.map .plan ++ (d.diagnostics.map .diagnostic ++ d.tests.map .test)

/-- A document as lines, with blocks indented by `k` blanks. -/
def canonicalLines (k : Nat) (d : Document) : List Line :=
  "TAP version 13".toList :: d.items.flatMap (Item.canonicalLines k)

/-- A document is gathered from its items. -/
theorem ofItems_items {d : Document} (h : d.version = protocolVersion) : ofItems d.items = d := by
  obtain ⟨version, plan, diagnostics, tests⟩ := d
  obtain rfl : version = protocolVersion := h
  have htests : ofItems (tests.map .test) = ⟨protocolVersion, none, [], tests⟩ := by
    induction tests with
    | nil => rfl
    | cons t tests ih => exact congrArg (cons (.test t)) ih
  have hdiagnostics : ofItems (diagnostics.map .diagnostic ++ tests.map .test)
      = ⟨protocolVersion, none, diagnostics, tests⟩ := by
    induction diagnostics with
    | nil => exact htests
    | cons text diagnostics ih => exact congrArg (cons (.diagnostic text)) ih
  cases plan with
  | none => exact hdiagnostics
  | some p => exact congrArg (cons (.plan p)) hdiagnostics

/-- **The items of a document** are some of those that it was gathered from, in
another order. -/
theorem items_ofItems_subperm (items : List Item) : (ofItems items).items.Subperm items := by
  induction items with
  | nil => exact List.Subperm.refl _
  | cons item items ih =>
    refine List.Subperm.trans ?_ (List.subperm_cons item |>.mpr ih)
    show (cons item (ofItems items)).items.Subperm (item :: (ofItems items).items)
    cases item with
    | plan p =>
      -- a plan counts only if no later one does
      cases hp : (ofItems items).plan with
      | none =>
        have hfirst : (cons (.plan p) (ofItems items)).items
            = .plan p :: (ofItems items).items := by simp [cons, Document.items, hp]
        rw [hfirst]
      | some q =>
        have hsame : (cons (.plan p) (ofItems items)).items = (ofItems items).items := by
          simp [cons, Document.items, hp]
        rw [hsame]
        exact (List.sublist_cons_self _ _).subperm
    | diagnostic text => exact List.perm_middle.subperm
    | test t =>
      rw [cons, Document.items, Document.items, List.map_cons, ← List.append_assoc,
          ← List.append_assoc]
      exact List.perm_middle.subperm

end Document

/-! ## §5. Reports. -/

namespace Report

variable {layout : Layout} {n : Nat} {lines body : List Line} {items : List Item}

/-- Items that are taken off what is written of each, whatever follows, are
what all of it comprises. -/
theorem comprises_flatMap {write : Item → List Line}
    (h : ∀ item ∈ items, ∀ more, Item.Taken layout (write item ++ more) item more)
    (hcount : items.length ≤ n) : Comprises layout n (items.flatMap write) items := by
  -- induction on the items; one of them costs one of the budget
  induction items generalizing n with
  | nil => exact .nil n
  | cons item items ih =>
    obtain ⟨n, rfl⟩ : ∃ m, n = m + 1 := ⟨n - 1, by rw [List.length_cons] at hcount; omega⟩
    have hitem := h item List.mem_cons_self (items.flatMap write)
    exact .cons hitem.fault?_eq hitem.take?_eq
      (ih (fun i hi => h i (List.mem_cons_of_mem item hi)) (Nat.le_of_succ_le_succ hcount))

/-- An item that was taken was taken off lines of its own. -/
theorem exists_isSlice_of_mem (hf : bodyFault? layout n body = none) {item : Item}
    (h : item ∈ (takeItems layout n body).1) : ∃ slice, Item.IsSlice layout item slice := by
  obtain ⟨slices, -, hall⟩ := exists_slices hf
  have hboth : List.Forall₂ (fun item slice => (∃ own, Item.IsSlice layout item own)
      ∧ Item.IsSlice layout item slice) (takeItems layout n body).1 slices :=
    hall.imp fun item slice hslice => ⟨⟨slice, hslice⟩, hslice⟩
  exact ((List.forall₂_and_left _ _).mp hboth).1 item h

/-- **The canonical lines of what was read** comprise the items of the document,
within the same limit. -/
theorem comprises_canonicalLines (hf : bodyFault? layout n body = none) :
    Comprises layout n
      ((Document.ofItems (takeItems layout n body).1).items.flatMap
        (Item.canonicalLines layout.indent.toNat))
      (Document.ofItems (takeItems layout n body).1).items := by
  have hitems := Document.items_ofItems_subperm (takeItems layout n body).1
  refine comprises_flatMap ?_ (Nat.le_trans hitems.length_le (takeItems_stopped hf).1)
  intro item hitem more
  obtain ⟨slice, hslice⟩ := exists_isSlice_of_mem hf (hitems.subset hitem)
  exact Item.Taken.canonical ⟨hslice.fault?_eq, hslice.take?_eq⟩ more

variable {s : RawSettings} {valid : Settings Int}

/-- A report that comprises some items says what they hold. -/
theorem verdict_parse_of_comprises (hs : s.check = .ok valid) (hbody : body? lines = some body)
    (h : Comprises (.ofSettings valid) valid.itemLimit.toNat body items) :
    (parse s (.lines lines)).map Outcome.verdict = .ok (.document (Document.ofItems items)) := by
  have htaken := h.takeItems_append []
  have hfault := h.bodyFault?_append []
  rw [List.append_nil, takeItems_nil, List.append_nil] at htaken
  rw [List.append_nil, bodyFault?_nil] at hfault
  obtain ⟨header, digits, rfl, hdigits, hv⟩ := body?_eq_some_iff.mp hbody
  rw [verdict_parse_of_fault?_eq_none hs ((fault?_of_body hbody).trans hfault), direct, hdigits]
  simp only [if_pos hv]
  show Except.ok (Verdict.document (walk _ valid.itemLimit.toNat body .empty)) = _
  rw [walk_eq_ofItems, htaken]

/-- A document that was read was gathered from the items of a body. -/
theorem exists_body_of_document (hs : s.check = .ok valid) {d : Document}
    (h : (parse s (.lines lines)).map Outcome.verdict = .ok (.document d)) :
    ∃ body, bodyFault? (.ofSettings valid) valid.itemLimit.toNat body = none
      ∧ d = Document.ofItems (takeItems (.ofSettings valid) valid.itemLimit.toNat body).1 := by
  have hindent : 0 ≤ (Layout.ofSettings valid).indent :=
    (Settings.check_eq_ok_iff.mp hs).2.indentLevel_nonneg
  rw [parse_of_check hs] at h
  cases hread : ofLines (.ofSettings valid) lines with
  | error e => rw [hread] at h; exact absurd h (by simp [Except.map, Except.mapError])
  | ok outcome =>
    rw [hread] at h
    -- only a report that was read comes to a document
    cases outcome with
    | mismatched reason place => exact absurd (Except.ok.inj h) (by simp [Outcome.verdict])
    | matched content next =>
      obtain rfl : content.document = d := Verdict.document.inj (Except.ok.inj h)
      obtain ⟨body, -, hfault, rfl, -⟩ := exists_of_matched hindent rfl hread
      exact ⟨body, hfault, rfl⟩

/-- **A document that was read is read again** from its canonical lines, with
the same settings. -/
theorem verdict_parse_canonicalLines (hs : s.check = .ok valid) {d : Document}
    (h : (parse s (.lines lines)).map Outcome.verdict = .ok (.document d)) :
    (parse s (.lines (d.canonicalLines valid.indentLevel.toNat))).map Outcome.verdict
      = .ok (.document d) := by
  obtain ⟨body, hfault, rfl⟩ := exists_body_of_document hs h
  have hbody : body? ((Document.ofItems
        (takeItems (.ofSettings valid) valid.itemLimit.toNat body).1).canonicalLines
          valid.indentLevel.toNat) = some _ :=
    body?_eq_some_iff.mpr ⟨_, "13".toList, rfl, by decide, by decide⟩
  rw [verdict_parse_of_comprises hs hbody (comprises_canonicalLines hfault),
      Document.ofItems_items (Document.version_ofItems _)]

/-- A report with items in any order and two plans; numbers have digits of other
scripts, and a description is a digit, another one has a newline in it. -/
def interleaved : List Line :=
  ["TAP version 13".toList, "ok ٠٣  a\nb\t# TODO later".toList, "  ---".toList,
    "   1..9".toList, "  ...".toList, "00..2".toList, "#  note ".toList, "not ok 5\t#  x".toList,
    "  ---".toList, "  ...".toList, "1..१२".toList, "ok 5\t# Skip".toList, "  ---".toList,
    "  ...".toList]

/-- What it says. -/
def interleavedDocument : Document :=
  ⟨13, some ⟨1, 12⟩, [" note ".toList],
    [⟨⟨true, some 3, some " a\nb".toList, some "todo".toList⟩, [" 1..9".toList]⟩,
      ⟨⟨false, none, some "5".toList, none⟩, []⟩,
      ⟨⟨true, none, some "5".toList, some "skip".toList⟩, []⟩]⟩

theorem verdict_parse_interleaved :
    RawSettings.standard.check = .ok Settings.standard
      ∧ (parse RawSettings.standard (.lines interleaved)).map Outcome.verdict
        = .ok (.document interleavedDocument)
      ∧ interleavedDocument.canonicalLines 2
        = ["TAP version 13".toList, "1..12".toList, "#  note ".toList,
          "ok 3  a\nb# todo".toList, "  ---".toList, "   1..9".toList, "  ...".toList,
          "not ok 5".toList, "  ---".toList, "  ...".toList,
          "ok 5# skip".toList, "  ---".toList, "  ...".toList]
      ∧ (parse RawSettings.standard (.lines (interleavedDocument.canonicalLines 2))).map
          Outcome.verdict
        = .ok (.document interleavedDocument) := by
  have hcheck : RawSettings.standard.check = .ok Settings.standard := rfl
  have hread : (parse RawSettings.standard (.lines interleaved)).map Outcome.verdict
      = .ok (.document interleavedDocument) := by rfl
  exact ⟨hcheck, hread, by decide, verdict_parse_canonicalLines hcheck hread⟩

end Report

end TapReport
