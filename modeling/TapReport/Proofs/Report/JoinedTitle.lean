/-
  TapReport.Proofs.Report.JoinedTitle
  ───────────────────────────────────
  **TEST LINES WITHOUT A BLANK AT THEIR END.**

  A stream drops the blanks at the end of a line, so a title reaches its
  reader as its words with single blanks between them.  That is the line that
  the title is written as, and it reads back, unless a number is all that the
  title says: then the blank after the number is the one that is dropped, and
  without it the digits are read as a description.

      Title.joined      the words of a title with single blanks between them
      Title.Joinable    the titles that are meant to read back
      Title.OnlyNumber  a title that says a number and nothing else

  Main results:
    * `Title.joined_eq_toLine` — the joined line is the written one, but for
      titles that only say a number.
    * `Title.read_onlyNumber` — what these are read as.
    * `Title.read_joined` — what reading a joined title comes to.
-/
import TapReport.Proofs.Report.RoundTrip

namespace TapReport

/-! ## §1. The end of a number. -/

namespace Text

theorem isBlank_digitChar {d : Nat} (hd : d < 10) : isBlank (Nat.digitChar d) = false := by
  match d, hd with
  | 0, _ | 1, _ | 2, _ | 3, _ | 4, _ | 5, _ | 6, _ | 7, _ | 8, _ | 9, _ => decide

/-- A written number has no blank at its end. -/
theorem trimEnd_ofNat (n : Nat) : trimEnd (ofNat n) = ofNat n := by
  by_cases h : n < 10
  · rw [ofNat_of_lt h]
    exact trimEnd_append (isBlank_digitChar h) []
  · rw [ofNat_of_le (Nat.le_of_not_lt h)]
    exact trimEnd_append (isBlank_digitChar (Nat.mod_lt n (by decide))) _

end Text

namespace Title

/-! ## §2. Joined titles. -/

/-- The words of a title: its status, its number and its description. -/
def words (t : Title) : List Text :=
  TitleParts.statusWord t.ok :: ((t.number.map Text.ofInt).toList ++ t.description.toList)

/-- The words of a title with single blanks between them, and its directive. -/
def joined (t : Title) : Line :=
  Text.joinWith [' '] t.words ++ match t.directive with
    | none => []
    | some word => " # ".toList ++ word

/-- The titles that are meant to read back. -/
structure Joinable (t : Title) : Prop where
  /-- A number is a natural number, and not too long to be read. -/
  number : ∀ n, t.number = some n → 0 ≤ n ∧ (Text.ofInt n).length ≤ Text.digitLimit
  /-- A description is not empty, holds no `#` and has no blank at its end. -/
  description : ∀ d, t.description = some d → d ≠ [] ∧ '#' ∉ d ∧ Text.trimEnd d = d
  /-- Without a number it does not begin with a digit. -/
  unnumbered : t.number = none → ∀ d, t.description = some d → ∀ c ∈ d.head?, Text.isDigit c = false
  /-- A directive is one that is known. -/
  directive : ∀ w, t.directive = some w → w ∈ directiveWords
  /-- It says something besides its status. -/
  worded : t.number ≠ none ∨ t.description ≠ none ∨ t.directive ≠ none

/-- A number is all that a title says. -/
def OnlyNumber (t : Title) (n : Int) : Prop :=
  t.number = some n ∧ t.description = none ∧ t.directive = none

variable {t : Title} {n : Int}

/-- What is said without a number does not begin with a digit. -/
theorem Joinable.head_said (h : t.Joinable) (hn : t.number = none) :
    ∀ c ∈ t.said.head?, Text.isDigit c = false := by
  intro c hc
  cases hd : t.description with
  | none =>
    cases hw : t.directive with
    | none => simp [said, hd, hw] at hc
    | some w =>
      obtain rfl : '#' = c := by simpa [said, hd, hw] using hc
      decide
  | some d =>
    apply h.unnumbered hn d hd
    -- a description is not empty, so it is where what is said begins
    obtain ⟨hne, -, -⟩ := h.description d hd
    obtain ⟨first, more, rfl⟩ := List.exists_cons_of_ne_nil hne
    cases hw : t.directive <;> simpa [said, hd, hw] using hc

theorem Joinable.printable (h : t.Joinable) : t.Printable where
  number n hn := (h.number n hn).1
  description := h.description
  directive := h.directive
  unnumbered hn := by
    intro digits rest hnum heq
    obtain ⟨d, more, rfl⟩ := List.exists_cons_of_ne_nil hnum.ne_nil
    have hfirst : Text.isDigit d = false := h.head_said hn d (by simp [heq])
    have hdigit : Text.isDigit d = true := hnum.isDigit d List.mem_cons_self
    rw [hfirst] at hdigit
    exact absurd hdigit (by decide)

/-- **A joined title is the line that it is written as**, unless it only says
a number. -/
theorem joined_eq_toLine (h : t.Joinable) (hmore : ∀ n, ¬ t.OnlyNumber n) :
    t.joined = t.toLine := by
  have hworded := h.worded
  unfold OnlyNumber at hmore
  unfold joined words toLine numberText said
  -- one case for each choice of parts; the one without parts and the one with
  -- a number alone do not arise
  cases hn : t.number <;> cases hd : t.description <;> cases hw : t.directive <;>
    simp_all [Text.joinWith]

theorem joined_onlyNumber (h : t.OnlyNumber n) :
    t.joined = TitleParts.statusWord t.ok ++ ' ' :: Text.ofInt n := by
  obtain ⟨hn, hd, hw⟩ := h
  simp [joined, words, hn, hd, hw, Text.joinWith]

/-! ## §3. Reading a joined title. -/

/-- A test line is read as what its parts mean. -/
theorem read_eq_ofParts {c : Cursor} {line : Line} (hc : c.peek = .ok (some line))
    {parts : TitleParts} (hparts : TitleParts.ofLine? line = some parts) :
    read c = ofParts parts c.next := by
  apply LineParser.bind_of_matched
  simp only [LineParser.line, hc, Option.bind_some, hparts]

/-- Digits alone are no number: no blank is after them. -/
theorem splitNumber_digits {digits : Text} (hdigits : Text.IsNumeral digits) :
    TitleParts.splitNumber digits = (none, digits) := by
  apply TitleParts.splitNumber_of_fst_eq_none
  rw [TitleParts.splitNumber_fst_eq_none_iff]
  intro front rest _ heq
  have hblank : Text.isDigit ' ' = true := hdigits.isDigit ' ' (by rw [heq]; simp)
  exact absurd hblank (by decide)

/-- **A number alone is read as a description.** -/
theorem read_onlyNumber (hn : 0 ≤ n) (h : t.OnlyNumber n) {c : Cursor}
    (hc : c.peek = .ok (some t.joined)) :
    read c = .ok (.matched ⟨t.ok, none, some (Text.ofInt n), none⟩ c.next) := by
  have hdigits := Text.isNumeral_ofInt_iff.mpr hn
  have hhash : '#' ∉ Text.ofInt n :=
    fun hmem => absurd (hdigits.isDigit '#' hmem) (by decide)
  have hparts : TitleParts.ofLine? t.joined = some ⟨t.ok, none, some (Text.ofInt n), none⟩ := by
    rw [joined_onlyNumber h, TitleParts.ofLine?_statusWord, splitNumber_digits hdigits,
        TitleParts.fromHash_of_notMem hhash, TitleParts.beforeHash_of_notMem hhash,
        nonempty?_eq_some_iff.mpr ⟨rfl, hdigits.ne_nil⟩]
    rfl
  rw [read_eq_ofParts hc hparts]
  have hkept : keptDescription (some (Text.ofInt n)) = some (Text.ofInt n) := by
    obtain ⟨k, rfl⟩ := Int.eq_ofNat_of_zero_le hn
    show TitleParts.nonempty? (Text.trimEnd (Text.ofNat k)) = _
    rw [Text.trimEnd_ofNat]
    exact nonempty?_eq_some_iff.mpr ⟨rfl, Text.ofNat_ne_nil k⟩
  show Except.ok (Outcome.matched
    (⟨t.ok, none, keptDescription (some (Text.ofInt n)), none⟩ : Title) c.next) = _
  rw [hkept]

/-- **Reading a joined title**, wherever its line is in view.  The title comes
back with every field as it was, exactly if it says more than a number; a
number that is all it says comes back as a description. -/
theorem read_joined (h : t.Joinable) {c : Cursor} (hc : c.peek = .ok (some t.joined)) :
    (read c = .ok (.matched t c.next) ↔ ∀ n, ¬ t.OnlyNumber n)
      ∧ ∀ n, t.OnlyNumber n →
        read c = .ok (.matched ⟨t.ok, none, some (Text.ofInt n), none⟩ c.next) := by
  have halone : ∀ n, t.OnlyNumber n →
      read c = .ok (.matched ⟨t.ok, none, some (Text.ofInt n), none⟩ c.next) := by
    intro n hn
    exact read_onlyNumber (h.number n hn.1).1 hn hc
  refine ⟨⟨?_, ?_⟩, halone⟩
  · intro hread n hn
    rw [halone n hn] at hread
    obtain ⟨htitle, -⟩ := Outcome.matched.inj (Except.ok.inj hread)
    have hnumber : none = t.number := congrArg Title.number htitle
    rw [hn.1] at hnumber
    exact absurd hnumber (by simp)
  · intro hmore
    have hprintable := h.printable
    rw [joined_eq_toLine h hmore] at hc
    have hshort : numeralFault? t.printedParts.number.toList = none := by
      rw [numeralFault?_eq_none_iff]
      intro digits hmem
      obtain ⟨n, hn, rfl⟩ := Option.map_eq_some_iff.mp (Option.mem_toList.mp hmem)
      exact (h.number n hn).2
    rw [read_eq_ofParts hc (ofLine?_toLine hprintable),
        ofParts_of_some (ofParts?_printedParts hprintable), hshort]

/-- A title of all parts, whose description looks like a number. -/
def fullTitle : Title :=
  ⟨false, some 12, some "3 of 4".toList, some "skip".toList⟩

theorem read_joined_fullTitle :
    fullTitle.Joinable
      ∧ (Cursor.ofLines [fullTitle.joined]).peek = .ok (some "not ok 12 3 of 4 # skip".toList)
      ∧ read (Cursor.ofLines [fullTitle.joined])
        = .ok (.matched fullTitle (Cursor.ofLines [fullTitle.joined]).next) := by
  have hjoinable : fullTitle.Joinable := by
    constructor
    case number =>
      intro n hn
      obtain rfl : 12 = n := Option.some.inj hn
      decide
    case description =>
      intro d hd
      obtain rfl : "3 of 4".toList = d := Option.some.inj hd
      decide
    case unnumbered =>
      intro hn
      exact absurd hn (by decide)
    case directive =>
      intro w hw
      obtain rfl : "skip".toList = w := Option.some.inj hw
      decide
    case worded =>
      exact .inl (by decide)
  have hline : fullTitle.joined = "not ok 12 3 of 4 # skip".toList := by decide
  refine ⟨hjoinable, by rw [hline]; rfl, ?_⟩
  apply (read_joined hjoinable rfl).1.mpr
  intro n hn
  exact absurd hn.2.1 (by decide)

/-- A numbered test without a word is told like one whose description is that
number. -/
theorem onlyNumber_is_lost :
    Joinable ⟨true, some 5, none, none⟩
      ∧ (⟨true, some 5, none, none⟩ : Title).joined = "ok 5".toList
      ∧ read (Cursor.ofLines ["ok 5".toList])
        = .ok (.matched ⟨true, none, some "5".toList, none⟩ (Cursor.ofLines ["ok 5".toList]).next)
      ∧ (⟨true, none, some "5".toList, none⟩ : Title) ≠ ⟨true, some 5, none, none⟩ := by
  refine ⟨?_, by decide, rfl, by decide⟩
  constructor
  case number =>
    intro n hn
    obtain rfl : 5 = n := Option.some.inj hn
    decide
  case description => exact fun d hd => absurd hd (by simp)
  case unnumbered => exact fun hn => absurd hn (by simp)
  case directive => exact fun w hw => absurd hw (by simp)
  case worded => exact .inl (by simp)

end Title

end TapReport
