/-
  TapReport.Proofs.Report.RoundTrip
  ─────────────────────────────────
  **A REPORT THAT IS WRITTEN READS BACK.**

  Items are written one after another under a version line: a plan, a
  diagnostic, or a test with its block.  Not every item can be written so
  that it reads back: a description stops at `#` and loses the blanks at its
  end, a description that begins with digits and a blank is taken for a
  number, and `...` ends a block.  `Title.Printable` and `Item.Printable`
  say which items can, and they say no more than that.

  Main results:
    * `Title.read_toLine_iff` — a title reads back exactly if it is
      printable.
    * `Item.take?_toLines` — a printable item is taken off any lines that it
      is in front of.
    * `Report.verdict_parse_toLines` — a written report says its items.
-/
import TapReport.Proofs.Report.Refinement

namespace TapReport

/-! ## §1. Numbers. -/

namespace Text

theorem isNumeral_ofNat (n : Nat) : IsNumeral (ofNat n) :=
  ⟨ofNat_ne_nil n, isDigit_of_mem_ofNat n⟩

/-- Exactly the natural numbers are written with digits only. -/
theorem isNumeral_ofInt_iff {n : Int} : IsNumeral (ofInt n) ↔ 0 ≤ n := by
  cases n with
  | ofNat n => exact ⟨fun _ => Int.natCast_nonneg n, fun _ => isNumeral_ofNat n⟩
  | negSucc n =>
    constructor
    · intro h
      exact absurd (h.isDigit '-' List.mem_cons_self) (by decide)
    · intro h
      exact absurd h (Int.not_le.mpr (Int.negSucc_lt_zero n))

theorem ofDigits_ofInt {n : Int} (h : 0 ≤ n) : (ofDigits (ofInt n) : Int) = n := by
  cases n with
  | ofNat n => exact congrArg Int.ofNat (ofDigits_ofNat n)
  | negSucc n => exact absurd h (Int.not_le.mpr (Int.negSucc_lt_zero n))

theorem mem_of_mem_trimEnd {c : Char} {t : Text} (h : c ∈ trimEnd t) : c ∈ t := by
  rw [trimEnd, List.mem_reverse] at h
  exact List.mem_reverse.mp ((List.dropWhile_sublist _).mem h)

end Text

/-! ## §2. Titles. -/

namespace TitleParts

/-- No number begins a text that is not digits and a blank at its beginning. -/
theorem splitNumber_fst_eq_none_iff {t : Text} :
    (splitNumber t).1 = none ↔
      ∀ digits rest, Text.IsNumeral digits → t ≠ digits ++ ' ' :: rest := by
  constructor
  · intro h digits rest hnum ht
    rw [splitNumber_eq_some_iff.mpr ⟨ht, hnum⟩] at h
    exact absurd h (by simp)
  · intro h
    cases hs : splitNumber t with
    | mk found rest =>
      cases found with
      | none => rfl
      | some digits =>
        obtain ⟨ht, hnum⟩ := splitNumber_eq_some_iff.mp hs
        exact absurd ht (h digits rest hnum)

theorem ne_hash_of_notMem {t : Text} (h : '#' ∉ t) : ∀ c ∈ t, (c != '#') = true := by
  intro c hc
  simp only [bne_iff_ne, ne_eq]
  intro heq
  subst heq
  exact h hc

theorem beforeHash_append {t : Text} (h : '#' ∉ t) (rest : Text) :
    beforeHash (t ++ '#' :: rest) = t := by
  show (t ++ '#' :: rest).takeWhile (· != '#') = t
  rw [List.takeWhile_append_of_pos (ne_hash_of_notMem h), List.takeWhile_cons_of_neg (by simp),
      List.append_nil]

theorem fromHash_append {t : Text} (h : '#' ∉ t) (rest : Text) :
    fromHash (t ++ '#' :: rest) = '#' :: rest := by
  show (t ++ '#' :: rest).dropWhile (· != '#') = '#' :: rest
  rw [List.dropWhile_append_of_pos (ne_hash_of_notMem h), List.dropWhile_cons_of_neg (by simp)]

theorem beforeHash_of_notMem {t : Text} (h : '#' ∉ t) : beforeHash t = t := by
  have hall : (t ++ []).takeWhile (· != '#') = t ++ [].takeWhile (· != '#') :=
    List.takeWhile_append_of_pos (ne_hash_of_notMem h)
  rwa [List.append_nil, List.takeWhile_nil, List.append_nil] at hall

theorem fromHash_of_notMem {t : Text} (h : '#' ∉ t) : fromHash t = [] := by
  have happend := beforeHash_append_fromHash t
  rw [beforeHash_of_notMem h] at happend
  exact List.append_right_eq_self.mp happend

theorem hash_notMem_beforeHash (t : Text) : '#' ∉ beforeHash t := by
  intro h
  have hall : (beforeHash t).all (· != '#') = true := List.all_takeWhile
  have hne := List.all_eq_true.mp hall '#' h
  exact absurd hne (by simp)

/-- The parts of a line after its status. -/
theorem ofLine?_statusWord (ok : Bool) (rest : Text) :
    ofLine? (statusWord ok ++ ' ' :: rest) =
      if '\n' ∈ fromHash (splitNumber rest).2 then none
      else some ⟨ok, (splitNumber rest).1, nonempty? (beforeHash (splitNumber rest).2),
        directiveIn (fromHash (splitNumber rest).2)⟩ := by
  unfold ofLine?
  rw [splitStatus?_eq_some_iff.mpr rfl]
  simp only [Option.bind_some, List.contains_iff_mem]

/-- A test line is its status and a text that its other parts are taken from. -/
theorem exists_of_ofLine? {line : Line} {parts : TitleParts} (h : ofLine? line = some parts) :
    ∃ rest, line = statusWord parts.ok ++ ' ' :: rest
      ∧ parts.number = (splitNumber rest).1
      ∧ parts.description = nonempty? (beforeHash (splitNumber rest).2)
      ∧ parts.directive = directiveIn (fromHash (splitNumber rest).2) := by
  obtain ⟨ok, rest, rfl, hnl⟩ := ofLine?_isSome_iff.mp (Option.isSome_of_eq_some h)
  rw [ofLine?_statusWord, if_neg hnl] at h
  obtain rfl := Option.some.inj h
  exact ⟨rest, rfl, rfl, rfl, rfl⟩

end TitleParts

namespace Title

/-- What a test line says after its number. -/
def said (t : Title) : Text :=
  match t.description, t.directive with
  | none, none => []
  | some description, none => description
  | none, some word => '#' :: ' ' :: word
  | some description, some word => description ++ ' ' :: '#' :: ' ' :: word

/-- The number of a test line with the blank after it. -/
def numberText (t : Title) : Text :=
  match t.number with
  | none => []
  | some n => Text.ofInt n ++ [' ']

/-- A title as a test line. -/
def toLine (t : Title) : Line :=
  TitleParts.statusWord t.ok ++ ' ' :: (t.numberText ++ t.said)

/-- The titles that can be written. -/
structure Printable (t : Title) : Prop where
  /-- A number is a natural number. -/
  number : ∀ n, t.number = some n → 0 ≤ n
  /-- A description is not empty, holds no `#` and has no blank at its end. -/
  description : ∀ d, t.description = some d → d ≠ [] ∧ '#' ∉ d ∧ Text.trimEnd d = d
  /-- A directive is one that is known. -/
  directive : ∀ w, t.directive = some w → w ∈ directiveWords
  /-- Without a number nothing that is said looks like one. -/
  unnumbered : t.number = none →
    ∀ digits rest, Text.IsNumeral digits → t.said ≠ digits ++ ' ' :: rest

variable {t : Title}

/-- A number is split off what is said, if that does not begin with one. -/
theorem splitNumber_numberText (hnumber : ∀ n, t.number = some n → 0 ≤ n) {said : Text}
    (hsaid : t.number = none → (TitleParts.splitNumber said).1 = none) :
    TitleParts.splitNumber (t.numberText ++ said) = (t.number.map Text.ofInt, said) := by
  cases hn : t.number with
  | none =>
    simp only [numberText, hn, List.nil_append, Option.map_none]
    exact TitleParts.splitNumber_of_fst_eq_none (hsaid hn)
  | some n =>
    have hnum := Text.isNumeral_ofInt_iff.mpr (hnumber n hn)
    simp only [numberText, hn, Option.map_some]
    exact TitleParts.splitNumber_eq_some_iff.mpr ⟨by simp, hnum⟩

/-- So it is split off what a printable title says. -/
theorem splitNumber_printed (h : t.Printable) :
    TitleParts.splitNumber (t.numberText ++ t.said) = (t.number.map Text.ofInt, t.said) :=
  splitNumber_numberText h.number fun hn =>
    TitleParts.splitNumber_fst_eq_none_iff.mpr (h.unnumbered hn)

theorem keptDescription_nonempty? (d : Text) :
    keptDescription (TitleParts.nonempty? d) = TitleParts.nonempty? (Text.trimEnd d) := by
  cases d with
  | nil => rfl
  | cons c d => rfl

theorem nonempty?_eq_some_iff {d d' : Text} :
    TitleParts.nonempty? d = some d' ↔ d = d' ∧ d' ≠ [] := by
  unfold TitleParts.nonempty?
  cases d with
  | nil => simp [eq_comm]
  | cons c d =>
    simp only [List.isEmpty_cons, Bool.false_eq_true, if_false, Option.some.injEq]
    constructor
    · intro heq
      subst heq
      exact ⟨rfl, List.cons_ne_nil c d⟩
    · exact And.left

/-- A known directive is the word that is read, and it means itself. -/
theorem directive_of_mem {w : Text} (h : w ∈ directiveWords) :
    TitleParts.directiveIn ('#' :: ' ' :: w) = some w ∧ directiveOfWord? w = some w
      ∧ '\n' ∉ '#' :: ' ' :: w := by
  have hw : w = "todo".toList ∨ w = "skip".toList := by simpa [directiveWords] using h
  rcases hw with rfl | rfl <;> decide

/-- A directive, if there is one, behind a `#` and a blank. -/
def directiveText (directive : Option Text) : Text :=
  match directive with
  | none => []
  | some word => '#' :: ' ' :: word

/-- A text and then a directive: the parts are the text and the directive. -/
theorem parts_directiveText {front : Text} (hfront : '#' ∉ front) {directive : Option Text}
    (hdirective : ∀ w, directive = some w → w ∈ directiveWords) :
    '\n' ∉ TitleParts.fromHash (front ++ directiveText directive)
      ∧ TitleParts.beforeHash (front ++ directiveText directive) = front
      ∧ TitleParts.directiveIn (TitleParts.fromHash (front ++ directiveText directive))
        = directive := by
  cases directive with
  | none =>
    rw [directiveText, List.append_nil, TitleParts.beforeHash_of_notMem hfront,
        TitleParts.fromHash_of_notMem hfront]
    exact ⟨by simp, rfl, rfl⟩
  | some w =>
    obtain ⟨hin, -, hnl⟩ := directive_of_mem (hdirective w rfl)
    rw [directiveText, TitleParts.beforeHash_append hfront, TitleParts.fromHash_append hfront]
    exact ⟨hnl, rfl, hin⟩

/-- What is said before a directive is the description, and after it nothing
else. -/
theorem parts_said (h : t.Printable) :
    '\n' ∉ TitleParts.fromHash t.said
      ∧ keptDescription (TitleParts.nonempty? (TitleParts.beforeHash t.said)) = t.description
      ∧ TitleParts.directiveIn (TitleParts.fromHash t.said) = t.directive := by
  -- what stands before the directive, and is trimmed to the description
  obtain ⟨front, hsaid, hhash, hkept⟩ : ∃ front, t.said = front ++ directiveText t.directive
      ∧ '#' ∉ front ∧ keptDescription (TitleParts.nonempty? front) = t.description := by
    cases hd : t.description with
    | none =>
      refine ⟨[], ?_, by simp, rfl⟩
      cases hw : t.directive <;> simp only [said, hd, hw, directiveText, List.nil_append]
    | some d =>
      obtain ⟨hne, hhash, htrim⟩ := h.description d hd
      cases hw : t.directive with
      | none =>
        refine ⟨d, by simp only [said, hd, hw, directiveText, List.append_nil], hhash, ?_⟩
        rw [keptDescription_nonempty?, htrim]
        exact nonempty?_eq_some_iff.mpr ⟨rfl, hne⟩
      | some w =>
        -- the blank before the `#` belongs to the description until it is trimmed
        refine ⟨d ++ [' '], by simp [said, hd, hw, directiveText], by simp [hhash], ?_⟩
        rw [keptDescription_nonempty?, Text.trimEnd_append_blank (by decide), htrim]
        exact nonempty?_eq_some_iff.mpr ⟨rfl, hne⟩
  obtain ⟨hnl, hbefore, hin⟩ := parts_directiveText hhash h.directive
  rw [hsaid, hbefore]
  exact ⟨hnl, hkept, hin⟩

theorem ofParts?_eq_some_iff {parts : TitleParts} :
    ofParts? parts = some t ↔
      parts.directive? = some t.directive ∧ parts.ok = t.ok
        ∧ (parts.number.map fun digits => (Text.ofDigits digits : Int)) = t.number
        ∧ keptDescription parts.description = t.description := by
  unfold ofParts?
  rw [Option.map_eq_some_iff]
  constructor
  · intro h
    obtain ⟨directive, hdirective, rfl⟩ := h
    exact ⟨hdirective, rfl, rfl, rfl⟩
  · intro h
    obtain ⟨hdirective, hok, hnumber, hdescription⟩ := h
    refine ⟨t.directive, hdirective, ?_⟩
    rw [hok, hnumber, hdescription]

/-- The parts that a title is written as. -/
def printedParts (t : Title) : TitleParts :=
  ⟨t.ok, t.number.map Text.ofInt, TitleParts.nonempty? (TitleParts.beforeHash t.said),
    TitleParts.directiveIn (TitleParts.fromHash t.said)⟩

/-- A title in front of what it says is taken apart into its number and the
parts of that. -/
theorem ofLine?_numberText {said : Text}
    (hsplit : TitleParts.splitNumber (t.numberText ++ said) = (t.number.map Text.ofInt, said))
    (hnl : '\n' ∉ TitleParts.fromHash said) :
    TitleParts.ofLine? (TitleParts.statusWord t.ok ++ ' ' :: (t.numberText ++ said))
      = some ⟨t.ok, t.number.map Text.ofInt,
          TitleParts.nonempty? (TitleParts.beforeHash said),
          TitleParts.directiveIn (TitleParts.fromHash said)⟩ := by
  rw [TitleParts.ofLine?_statusWord, hsplit, if_neg hnl]

/-- Parts that are written from a title make that title. -/
theorem ofParts?_of_written {description : Option Text}
    (hnumber : ∀ n, t.number = some n → 0 ≤ n)
    (hdirective : ∀ w, t.directive = some w → w ∈ directiveWords)
    (hdescription : keptDescription description = t.description) :
    ofParts? ⟨t.ok, t.number.map Text.ofInt, description, t.directive⟩ = some t := by
  rw [ofParts?_eq_some_iff]
  refine ⟨?_, rfl, ?_, hdescription⟩
  · unfold TitleParts.directive?
    cases hw : t.directive with
    | none => rfl
    | some w => simp only [(directive_of_mem (hdirective w hw)).2.1, Option.map_some]
  · show (t.number.map Text.ofInt).map _ = t.number
    cases hn : t.number with
    | none => rfl
    | some n => exact congrArg some (Text.ofDigits_ofInt (hnumber n hn))

theorem ofLine?_toLine (h : t.Printable) : TitleParts.ofLine? t.toLine = some t.printedParts :=
  ofLine?_numberText (splitNumber_printed h) (parts_said h).1

theorem ofParts?_printedParts (h : t.Printable) : ofParts? t.printedParts = some t := by
  obtain ⟨-, hdescription, hdirective⟩ := parts_said h
  have hread := ofParts?_of_written h.number h.directive hdescription
  rwa [← hdirective] at hread

theorem directive_mem_of_directive? {parts : TitleParts} {w : Text}
    (h : parts.directive? = some (some w)) : w ∈ directiveWords := by
  unfold TitleParts.directive? at h
  split at h
  · exact absurd h (by simp)
  · next word _ =>
    cases hw : directiveOfWord? word with
    | none => rw [hw] at h; exact absurd h (by simp)
    | some directive =>
      rw [hw] at h
      obtain rfl : directive = w := by simpa using h
      exact directiveOfWord?_eq_some hw

/-- What is true of each field of a title that was read. -/
structure Kept (t : Title) : Prop where
  /-- A number is a natural number. -/
  number : ∀ n, t.number = some n → 0 ≤ n
  /-- A description is not empty, holds no `#` and has no blank at its end. -/
  description : ∀ d, t.description = some d → d ≠ [] ∧ '#' ∉ d ∧ Text.trimEnd d = d
  /-- A directive is one that is known. -/
  directive : ∀ w, t.directive = some w → w ∈ directiveWords

/-- **Each field of a title** is what its part was read as. -/
theorem kept_of_read {line : Line} {parts : TitleParts}
    (hline : TitleParts.ofLine? line = some parts) (hparts : ofParts? parts = some t) :
    t.Kept := by
  obtain ⟨rest, -, -, hpart, -⟩ := TitleParts.exists_of_ofLine? hline
  obtain ⟨hdirective, -, hnumber, hdescription⟩ := ofParts?_eq_some_iff.mp hparts
  rw [hpart] at hdescription
  constructor
  case number =>
    intro n hn
    rw [hn, Option.map_eq_some_iff] at hnumber
    obtain ⟨digits, -, rfl⟩ := hnumber
    exact Int.natCast_nonneg _
  case description =>
    intro d hd
    rw [keptDescription_nonempty?, hd, nonempty?_eq_some_iff] at hdescription
    obtain ⟨rfl, hne⟩ := hdescription
    refine ⟨hne, ?_, Text.trimEnd_trimEnd _⟩
    intro hmem
    exact TitleParts.hash_notMem_beforeHash _ (Text.mem_of_mem_trimEnd hmem)
  case directive =>
    intro w hw
    rw [hw] at hdirective
    exact directive_mem_of_directive? hdirective

/-- A title that reads back is printable. -/
theorem printable_of_read {parts : TitleParts} (hline : TitleParts.ofLine? t.toLine = some parts)
    (hparts : ofParts? parts = some t) : t.Printable := by
  have hkept := kept_of_read hline hparts
  obtain ⟨-, hok, hnumber, -⟩ := ofParts?_eq_some_iff.mp hparts
  obtain ⟨rest, hrest, hpart, -, -⟩ := TitleParts.exists_of_ofLine? hline
  -- the text after the status is the one that was written
  obtain rfl : rest = t.numberText ++ t.said := by
    rw [toLine, hok] at hrest
    exact (List.cons.inj (List.append_cancel_left hrest)).2.symm
  refine ⟨hkept.number, hkept.description, hkept.directive, ?_⟩
  intro hn
  rw [hn, Option.map_eq_none_iff, hpart, numberText, hn, List.nil_append] at hnumber
  exact TitleParts.splitNumber_fst_eq_none_iff.mp hnumber

/-- **A title reads back** exactly if it is printable. -/
theorem read_toLine_iff :
    (TitleParts.ofLine? t.toLine).bind ofParts? = some t ↔ t.Printable := by
  constructor
  · intro h
    obtain ⟨parts, hline, hparts⟩ := Option.bind_eq_some_iff.mp h
    exact printable_of_read hline hparts
  · intro h
    rw [ofLine?_toLine h]
    exact ofParts?_printedParts h

instance (t : Title) : Decidable t.Printable :=
  decidable_of_iff _ read_toLine_iff

/-! A description of digits is taken for a number once a directive follows. -/

example : (⟨true, none, some "5".toList, none⟩ : Title).Printable := by decide

example : ¬ (⟨true, none, some "5".toList, some "todo".toList⟩ : Title).Printable := by decide

end Title

/-! ## §3. Items. -/

namespace Item

/-- An item as lines, with blocks indented by `k` blanks. -/
def toLines (k : Nat) : Item → List Line
  | .plan p => [Text.ofInt p.start ++ "..".toList ++ Text.ofInt p.through]
  | .diagnostic text => ["# ".toList ++ text]
  | .test t => t.title.toLine :: Block.lines k t.block

/-- The items that can be written. -/
def Printable : Item → Prop
  | .plan p => 0 ≤ p.start ∧ 0 ≤ p.through
  | .diagnostic text => text ≠ [] ∧ '\n' ∉ text
  | .test t => t.title.Printable ∧ Block.closing ∉ t.block

instance : DecidablePred Printable
  | .plan p => inferInstanceAs (Decidable (0 ≤ p.start ∧ 0 ≤ p.through))
  | .diagnostic text => inferInstanceAs (Decidable (text ≠ [] ∧ '\n' ∉ text))
  | .test t => inferInstanceAs (Decidable (t.title.Printable ∧ Block.closing ∉ t.block))

/-- The numbers of an item. -/
def numbers : Item → List Int
  | .plan p => [p.start, p.through]
  | .diagnostic _ => []
  | .test t => t.title.number.toList

/-- The plan that an item is. -/
def plan? : Item → Option Plan
  | .plan p => some p
  | _ => none

/-- The diagnostic that an item is. -/
def diagnostic? : Item → Option Text
  | .diagnostic text => some text
  | _ => none

/-- The test that an item is. -/
def test? : Item → Option Test
  | .test t => some t
  | _ => none

/-- How many lines the block of an item has. -/
def blockLength : Item → Nat
  | .plan _ | .diagnostic _ => 0
  | .test t => t.block.length

variable {layout : Layout} {item : Item}

/-! A written line has the kind of its item, with its texts as parts. -/

theorem ofLine_plan {p : Plan} (h : (Item.plan p).Printable) :
    LineKind.ofLine (Text.ofInt p.start ++ "..".toList ++ Text.ofInt p.through)
      = .plan (Text.ofInt p.start) (Text.ofInt p.through) := by
  have hstart := Text.isNumeral_ofInt_iff.mpr h.1
  have hthrough := Text.isNumeral_ofInt_iff.mpr h.2
  exact LineKind.ofLine_eq_plan_iff.mpr
    (Plan.ofLine?_eq_some_iff.mpr ⟨rfl, hstart, hthrough⟩)

theorem ofLine_diagnostic {text : Text} (h : (Item.diagnostic text).Printable) :
    LineKind.ofLine ("# ".toList ++ text) = .diagnostic text :=
  LineKind.ofLine_eq_diagnostic_iff.mpr (Diagnostic.ofLine?_eq_some_iff.mpr ⟨rfl, h.1, h.2⟩)

theorem ofLine_title {t : Title} (h : t.Printable) :
    LineKind.ofLine t.toLine = .title t.printedParts :=
  LineKind.ofLine_eq_title_iff.mpr (Title.ofLine?_toLine h)

/-- **A printable item is taken** off any lines that it is in front of. -/
theorem take?_toLines (h : item.Printable) (hlimit : 0 ≤ layout.blockLimit)
    (hblock : (item.blockLength : Int) ≤ layout.blockLimit) (rest : List Line) :
    take? layout (item.toLines layout.indent.toNat ++ rest) = some (item, rest) := by
  cases item with
  | plan p =>
    show take? layout ((Text.ofInt p.start ++ "..".toList ++ Text.ofInt p.through) :: rest) = _
    rw [take?, ofLine_plan h]
    simp only [Text.ofDigits_ofInt h.1, Text.ofDigits_ofInt h.2]
  | diagnostic text =>
    show take? layout (("# ".toList ++ text) :: rest) = _
    rw [take?, ofLine_diagnostic h]
  | test t =>
    have htake : Block.take? layout (Block.lines layout.indent.toNat t.block ++ rest)
        = some (t.block, rest) := (Block.take?_eq_some_iff hlimit).mpr ⟨rfl, h.2, hblock⟩
    show take? layout (t.title.toLine :: (Block.lines layout.indent.toNat t.block ++ rest)) = _
    rw [take?, ofLine_title h.1]
    simp only [Title.ofParts?_printedParts h.1, Option.bind_some, htake, Option.map_some]

/-- The numerals that are read at a printable item are its numbers. -/
theorem numerals_toLines (h : item.Printable) (k : Nat) (rest : List Line) :
    numerals (item.toLines k ++ rest) = item.numbers.map Text.ofInt := by
  cases item with
  | plan p =>
    show (LineKind.ofLine (Text.ofInt p.start ++ "..".toList ++ Text.ofInt p.through)).numerals = _
    rw [ofLine_plan h]
    rfl
  | diagnostic text =>
    show (LineKind.ofLine ("# ".toList ++ text)).numerals = _
    rw [ofLine_diagnostic h]
    rfl
  | test t =>
    show (LineKind.ofLine t.title.toLine).numerals = _
    rw [ofLine_title h.1, LineKind.numerals, Title.ofParts?_printedParts h.1]
    show (t.title.number.map Text.ofInt).toList = t.title.number.toList.map Text.ofInt
    cases t.title.number <;> rfl

end Item

/-! ## §4. Reports. -/

namespace Report

/-- A report of some items. -/
def toLines (layout : Layout) (items : List Item) : List Line :=
  "TAP version 13".toList :: items.flatMap (Item.toLines layout.indent.toNat)

variable {layout : Layout} {items : List Item}

/-- Items that are written one after another are taken one after another. -/
theorem takeItems_toLines (hlimit : 0 ≤ layout.blockLimit)
    (hprintable : ∀ item ∈ items, item.Printable)
    (hblock : ∀ item ∈ items, (item.blockLength : Int) ≤ layout.blockLimit)
    {n : Nat} (hcount : items.length ≤ n) :
    takeItems layout n (items.flatMap (Item.toLines layout.indent.toNat)) = (items, []) := by
  -- induction on the items; one of them costs one of the budget
  induction items generalizing n with
  | nil => exact takeItems_nil
  | cons item items ih =>
    cases n with
    | zero => exact absurd hcount (by simp)
    | succ n =>
      have htake := Item.take?_toLines (hprintable item List.mem_cons_self) hlimit
        (hblock item List.mem_cons_self) (items.flatMap (Item.toLines layout.indent.toNat))
      have htail := ih (fun i hi => hprintable i (List.mem_cons_of_mem item hi))
        (fun i hi => hblock i (List.mem_cons_of_mem item hi)) (Nat.le_of_succ_le_succ hcount)
      rw [List.flatMap_cons, takeItems_of_take htake, htail]

/-- Where items are looked for, only their numbers are read. -/
theorem numerals_lookedAt (hlimit : 0 ≤ layout.blockLimit)
    (hprintable : ∀ item ∈ items, item.Printable)
    (hblock : ∀ item ∈ items, (item.blockLength : Int) ≤ layout.blockLimit) (n : Nat) :
    ∀ place ∈ lookedAt layout n (items.flatMap (Item.toLines layout.indent.toNat)),
      ∀ digits ∈ Item.numerals place, ∃ item ∈ items, digits ∈ item.numbers.map Text.ofInt := by
  -- induction on the budget, since the end of the lines is looked at too
  induction n generalizing items with
  | zero => simp [lookedAt]
  | succ n ih =>
    intro place hplace digits hdigits
    cases items with
    | nil =>
      -- the last place is the end, where no line is left
      obtain rfl : place = [] := by simpa [lookedAt, Item.take?] using hplace
      exact absurd hdigits (by simp [Item.numerals])
    | cons item items =>
      have hitem := hprintable item List.mem_cons_self
      have htake := Item.take?_toLines hitem hlimit (hblock item List.mem_cons_self)
        (items.flatMap (Item.toLines layout.indent.toNat))
      rw [List.flatMap_cons, lookedAt, htake] at hplace
      rcases List.mem_cons.mp hplace with rfl | hplace
      · rw [Item.numerals_toLines hitem] at hdigits
        exact ⟨item, List.mem_cons_self, hdigits⟩
      · obtain ⟨i, hi, hmem⟩ := ih (fun i hi => hprintable i (List.mem_cons_of_mem item hi))
          (fun i hi => hblock i (List.mem_cons_of_mem item hi)) place hplace digits hdigits
        exact ⟨i, List.mem_cons_of_mem item hi, hmem⟩

/-- A document holds the last plan, the diagnostics and the tests of its items. -/
theorem ofItems_eq (items : List Item) :
    Document.ofItems items = ⟨protocolVersion, (items.filterMap Item.plan?).getLast?,
      items.filterMap Item.diagnostic?, items.filterMap Item.test?⟩ := by
  have hplan : (Document.ofItems items).plan = (items.filterMap Item.plan?).getLast? :=
    Document.plan_ofItems items
  have hdiagnostics : (Document.ofItems items).diagnostics = items.filterMap Item.diagnostic? :=
    Document.diagnostics_ofItems items
  have htests : (Document.ofItems items).tests = items.filterMap Item.test? :=
    Document.tests_ofItems items
  rw [← hplan, ← hdiagnostics, ← htests, ← Document.version_ofItems items]

theorem body?_toLines :
    body? (toLines layout items) = some (items.flatMap (Item.toLines layout.indent.toNat)) :=
  body?_eq_some_iff.mpr ⟨_, "13".toList, rfl, by decide, by decide⟩

/-- **A written report reads back.**  With limits that its items keep, it says
the last of its plans, its diagnostics and its tests, all as they were. -/
theorem verdict_parse_toLines {s : RawSettings} {valid : Settings Int} (hs : s.check = .ok valid)
    (hindent : valid.indentLevel ≤ widestIndent) (hlimit : valid.blockLimit < Block.longestCount)
    (hprintable : ∀ item ∈ items, item.Printable)
    (hdigits : ∀ item ∈ items, ∀ n ∈ item.numbers, (Text.ofInt n).length ≤ Text.digitLimit)
    (hcount : (items.length : Int) ≤ valid.itemLimit)
    (hblock : ∀ item ∈ items, (item.blockLength : Int) ≤ valid.blockLimit) :
    (parse s (.lines (toLines (.ofSettings valid) items))).map Outcome.verdict
      = .ok (.document
          { version := 13
            plan := (items.filterMap Item.plan?).getLast?
            diagnostics := items.filterMap Item.diagnostic?
            tests := items.filterMap Item.test? }) := by
  have hvalid := (Settings.check_eq_ok_iff.mp hs).2
  have h0 : 0 ≤ (Layout.ofSettings valid).blockLimit := Int.le_of_lt hvalid.blockLimit_pos
  have hnum : ∀ digits ∈ numerals (.ofSettings valid) (toLines (.ofSettings valid) items),
      digits.length ≤ Text.digitLimit := by
    intro digits hmem
    unfold numerals places at hmem
    rw [body?_toLines] at hmem
    obtain ⟨place, hplace, hmem⟩ := List.mem_flatMap.mp hmem
    obtain ⟨item, hitem, hmem⟩ := numerals_lookedAt h0 hprintable hblock _ place hplace digits hmem
    obtain ⟨n, hn, rfl⟩ := List.mem_map.mp hmem
    exact hdigits item hitem n hn
  have hfault : fault? (.ofSettings valid) (toLines (.ofSettings valid) items) = none :=
    fault?_eq_none_of_numerals hindent h0 hlimit hnum
  have htaken := takeItems_toLines (n := valid.itemLimit.toNat) h0 hprintable hblock (by omega)
  rw [verdict_parse_of_fault?_eq_none hs hfault]
  show Except.ok (Verdict.document (walk (.ofSettings valid) valid.itemLimit.toNat _ .empty)) = _
  rw [walk_eq_ofItems, htaken, ofItems_eq]
  rfl

/-- Items of every kind, whose texts and blocks look like other lines. -/
def lookalikes : List Item :=
  [.plan ⟨1, 2⟩, .diagnostic "1..9".toList,
    .test ⟨⟨true, some 1, some "2 lines".toList, some "skip".toList⟩,
      ["---".toList, "ok 2".toList, "  ...".toList]⟩,
    .test ⟨⟨false, none, some "- ok 7".toList, none⟩, []⟩, .plan ⟨1, 3⟩]

theorem verdict_parse_lookalikes :
    RawSettings.standard.check = .ok Settings.standard
      ∧ (∀ item ∈ lookalikes, item.Printable)
      ∧ (∀ item ∈ lookalikes, ∀ n ∈ item.numbers, (Text.ofInt n).length ≤ Text.digitLimit)
      ∧ (∀ item ∈ lookalikes, (item.blockLength : Int) ≤ Settings.standard.blockLimit)
      ∧ (parse RawSettings.standard (.lines (toLines (.ofSettings .standard) lookalikes))).map
          Outcome.verdict
        = .ok (.document ⟨13, some ⟨1, 3⟩, ["1..9".toList],
            [⟨⟨true, some 1, some "2 lines".toList, some "skip".toList⟩,
                ["---".toList, "ok 2".toList, "  ...".toList]⟩,
              ⟨⟨false, none, some "- ok 7".toList, none⟩, []⟩]⟩) := by
  have hcheck : RawSettings.standard.check = .ok Settings.standard := rfl
  have hprintable : ∀ item ∈ lookalikes, item.Printable := by decide
  have hdigits : ∀ item ∈ lookalikes, ∀ n ∈ item.numbers,
      (Text.ofInt n).length ≤ Text.digitLimit := by decide
  have hblock : ∀ item ∈ lookalikes, (item.blockLength : Int) ≤ Settings.standard.blockLimit := by
    decide
  refine ⟨hcheck, hprintable, hdigits, hblock, ?_⟩
  exact verdict_parse_toLines hcheck (by decide) (by decide) hprintable hdigits (by decide) hblock

end Report

end TapReport
