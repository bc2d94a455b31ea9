/-
  TapReport.Proofs.Report.TestLine
  ────────────────────────────────
  **TEST LINES, FOUND OUT BY SEARCHING.**

  A test line is taken apart in one walk: the digits, the text up to the
  first `#`, the word after that.  The same lines are those of a pattern with
  five parts that may all be absent or shorter than they could be, and a
  search through all the ways to read a line could come to other parts, or
  read a line that the walk gives up.  It does neither: the way that is tried
  first reads the whole line, or no way does.

      Pattern.testLine      what a test line looks like
      TitleParts.Describes  which parts are the parts of a line

  Main results:
    * `Pattern.spells_testLine_iff` — the lines that fit the pattern.
    * `Pattern.whole?_testLine` — the groups of the pattern are the parts that
      the walk finds.
    * `Title.read_of_peek` — what reading a title comes to, for every line.
-/
import Mathlib.Data.List.TakeWhile
import TapReport.Proofs.Line.Pattern
import TapReport.Proofs.Report.RoundTrip

namespace TapReport

/-! ## §1. The lines of the pattern. -/

namespace TitleParts

variable {t u : Text}

/-- What holds no `#` in front of a text does not change what is from the
first `#` on. -/
theorem fromHash_append_of_notMem (h : '#' ∉ t) (u : Text) : fromHash (t ++ u) = fromHash u :=
  List.dropWhile_append_of_pos (ne_hash_of_notMem h)

/-- From the first `#` on there is a `#`, if anything. -/
theorem fromHash_eq_nil_or (t : Text) : fromHash t = [] ∨ ∃ u, fromHash t = '#' :: u := by
  induction t with
  | nil => exact .inl rfl
  | cons c t ih =>
    by_cases hc : c = '#'
    · subst hc
      exact .inr ⟨t, rfl⟩
    · have hskip : fromHash (c :: t) = fromHash t := List.dropWhile_cons_of_pos (by simpa using hc)
      rwa [hskip]

theorem mem_of_mem_fromHash {c : Char} (h : c ∈ fromHash t) : c ∈ t :=
  (List.dropWhile_sublist _).mem h

theorem hash_notMem_numeral (h : Text.IsNumeral t) : '#' ∉ t :=
  fun hmem => absurd (h.isDigit '#' hmem) (by decide)

theorem hash_notMem_numberText (t : Text) :
    '#' ∉ ((splitNumber t).1.map (· ++ [' '])).getD [] := by
  cases hsplit : splitNumber t with
  | mk number said =>
    cases number with
    | none => exact List.not_mem_nil
    | some digits =>
      obtain ⟨-, hnumeral⟩ := splitNumber_eq_some_iff.mp hsplit
      simpa using hash_notMem_numeral hnumeral

/-- The first `#` comes after the number. -/
theorem fromHash_splitNumber (t : Text) : fromHash (splitNumber t).2 = fromHash t := by
  have happend := fromHash_append_of_notMem (hash_notMem_numberText t) (splitNumber t).2
  rw [splitNumber_append] at happend
  exact happend.symm

end TitleParts

namespace Pattern

open TitleParts

/-- `ok` or `not ok`. -/
def statusPart : Pattern :=
  group (either (text "ok".toList) (text "not ok".toList))

/-- Digits and a blank, or nothing. -/
def numberPart : Pattern :=
  optional (group (seq (run 1 Text.isDigit) (text [' '])))

/-- Any characters but `#`, or nothing. -/
def descriptionPart : Pattern :=
  optional (group (run 1 (· != '#')))

/-- The lead of a directive, which is not told, and a word; either may be
absent. -/
def directivePart : Pattern :=
  seq (optional (text "# ".toList)) (optional (group (run 1 Text.isWordChar)))

/-- What a test line looks like. -/
def testLine : Pattern :=
  seq statusPart (seq (text [' ']) (seq numberPart (seq descriptionPart
    (seq directivePart (run 0 (· != '\n'))))))

theorem statusWord_of_spells {t : Text} (h : statusPart.Spells t) : ∃ ok, t = statusWord ok := by
  rcases h with h | h
  · exact ⟨true, h⟩
  · exact ⟨false, h⟩

theorem hash_notMem_of_spells_numberPart {t : Text} (h : numberPart.Spells t) : '#' ∉ t := by
  rcases h with rfl | ⟨digits, blank, rfl, hdigits, rfl⟩
  · exact List.not_mem_nil
  · simpa using fun hmem => absurd (hdigits.2 '#' hmem) (by decide)

theorem hash_notMem_of_spells_descriptionPart {t : Text} (h : descriptionPart.Spells t) :
    '#' ∉ t := by
  rcases h with rfl | h
  · exact List.not_mem_nil
  · exact fun hmem => absurd (h.2 '#' hmem) (by decide)

theorem newline_notMem_of_spells_directivePart {t : Text} (h : directivePart.Spells t) :
    '\n' ∉ t := by
  obtain ⟨lead, word, rfl, hlead, hword⟩ := h
  rw [List.mem_append, not_or]
  constructor
  · rcases hlead with rfl | hlead
    · exact List.not_mem_nil
    · obtain rfl : lead = "# ".toList := hlead
      decide
  · rcases hword with rfl | hword
    · exact List.not_mem_nil
    · exact fun hmem => absurd (hword.2 '\n' hmem) (by decide)

/-- **The lines of the pattern**, whichever way they are read: a status, a
blank, and a rest that holds no newline from its first `#` on. -/
theorem spells_testLine_iff {line : Line} :
    testLine.Spells line ↔
      ∃ ok rest, line = statusWord ok ++ ' ' :: rest ∧ '\n' ∉ fromHash rest := by
  constructor
  · rintro ⟨status, _, rfl, hstatus, _, _, rfl, rfl, number, _, rfl, hnumber, description, _, rfl,
      hdescription, directive, more, rfl, hdirective, hmore⟩
    obtain ⟨ok, rfl⟩ := statusWord_of_spells hstatus
    refine ⟨ok, number ++ (description ++ (directive ++ more)), rfl, ?_⟩
    -- the first `#` is in the directive or after it, and no newline is there
    rw [fromHash_append_of_notMem (hash_notMem_of_spells_numberPart hnumber),
        fromHash_append_of_notMem (hash_notMem_of_spells_descriptionPart hdescription)]
    intro hmem
    rcases List.mem_append.mp (mem_of_mem_fromHash hmem) with hmem | hmem
    · exact newline_notMem_of_spells_directivePart hdirective hmem
    · exact absurd (hmore.2 '\n' hmem) (by decide)
  · rintro ⟨ok, rest, rfl, hnl⟩
    have hstatus : statusPart.Spells (statusWord ok) := by
      cases ok with
      | true => exact .inl rfl
      | false => exact .inr rfl
    have hdescription : descriptionPart.Spells (beforeHash rest) := by
      by_cases hnil : beforeHash rest = []
      · exact .inl hnil
      · refine .inr ⟨List.length_pos_iff.mpr hnil, ne_hash_of_notMem (hash_notMem_beforeHash rest)⟩
    have hmore : (run 0 (· != '\n')).Spells (fromHash rest) := by
      refine ⟨Nat.zero_le _, fun c hc => ?_⟩
      rw [bne_iff_ne]
      rintro rfl
      exact hnl hc
    -- no number and no directive need be read
    refine ⟨statusWord ok, ' ' :: rest, rfl, hstatus, [' '], rest, rfl, rfl, [], rest, rfl,
      .inl rfl, beforeHash rest, fromHash rest, (beforeHash_append_fromHash rest).symm, hdescription,
      [], fromHash rest, rfl, ?_, hmore⟩
    exact ⟨[], [], rfl, .inl rfl, .inl rfl⟩

/-! ## §2. What is tried first. -/

theorem first?_statusPart (ok : Bool) (rest : Text) :
    statusPart.first? (statusWord ok ++ ' ' :: rest)
      = some ⟨statusWord ok, [some (statusWord ok)], ' ' :: rest⟩ := by
  rw [statusPart, first?_group, first?_either]
  cases ok with
  | true =>
    have hfirst : (text "ok".toList).first? (statusWord true ++ ' ' :: rest)
        = some ⟨"ok".toList, [], ' ' :: rest⟩ := first?_text _ _
    rw [hfirst]
    rfl
  | false =>
    have hnone : (text "ok".toList).first? (statusWord false ++ ' ' :: rest) = none := rfl
    have hfirst : (text "not ok".toList).first? (statusWord false ++ ' ' :: rest)
        = some ⟨"not ok".toList, [], ' ' :: rest⟩ := first?_text _ _
    rw [hnone, hfirst]
    rfl

/-- A number is taken if one is there. -/
theorem first?_numberPart (t : Text) : ∃ read, numberPart.first? t
    = some ⟨read, [(splitNumber t).1.map (· ++ [' '])], (splitNumber t).2⟩ := by
  rw [numberPart, first?_optional, first?_group]
  cases hsplit : splitNumber t with
  | mk number said =>
    cases number with
    | some digits =>
      obtain ⟨rfl, hnumeral⟩ := splitNumber_eq_some_iff.mp hsplit
      have hrun := Text.takeWhile_isDigit_append hnumeral.isDigit (c := ' ') (by decide) said
      have hdrop := Text.dropWhile_isDigit_append hnumeral.isDigit (c := ' ') (by decide) said
      have hdigits : (run 1 Text.isDigit).first? (digits ++ ' ' :: said)
          = some ⟨digits, [], ' ' :: said⟩ := by
        rw [first?_run (by rw [hrun]; exact List.length_pos_iff.mpr hnumeral.ne_nil), hrun, hdrop]
      rw [first?_seq hdigits (first?_text [' '] said)]
      exact ⟨digits ++ [' '], rfl⟩
    | none =>
      have hwhole := splitNumber_of_fst_eq_none (congrArg Prod.fst hsplit)
      obtain rfl : t = said := congrArg Prod.snd (hwhole.symm.trans hsplit)
      -- no shorter run of digits has a blank after it either
      have hnone : (seq (run 1 Text.isDigit) (text [' '])).first? t = none := by
        rw [first?_eq_none_iff]
        rintro _ rest rfl ⟨digits, blank, rfl, hdigits, rfl⟩
        have hnumeral : Text.IsNumeral digits := ⟨List.ne_nil_of_length_pos hdigits.1, hdigits.2⟩
        have ht : digits ++ [' '] ++ rest = digits ++ ' ' :: rest := by simp
        rw [ht, splitNumber_eq_some_iff.mpr ⟨rfl, hnumeral⟩] at hsplit
        exact absurd (congrArg Prod.fst hsplit) (by simp)
      rw [hnone]
      exact ⟨[], rfl⟩

/-- A run that may be absent is taken as a whole, and is absent only if there
is nothing of it. -/
theorem first?_optional_run (p : Char → Bool) (t : Text) :
    (optional (group (run 1 p))).first? t
      = some ⟨t.takeWhile p, [nonempty? (t.takeWhile p)], t.dropWhile p⟩ := by
  rw [first?_optional, first?_group]
  by_cases hnil : t.takeWhile p = []
  · have hnone : (run 1 p).first? t = none := by
      rw [first?_eq_none_iff]
      rintro u rest rfl ⟨hleast, hall⟩
      rw [List.takeWhile_append_of_pos hall, List.append_eq_nil_iff] at hnil
      rw [hnil.1] at hleast
      exact absurd hleast (by decide)
    have hdrop : t.dropWhile p = t := by
      have happend : t.takeWhile p ++ t.dropWhile p = t := List.takeWhile_append_dropWhile
      rwa [hnil] at happend
    rw [hnone, hnil, hdrop]
    rfl
  · rw [first?_run (List.length_pos_iff.mpr hnil), Title.nonempty?_eq_some_iff.mpr ⟨rfl, hnil⟩]
    rfl

/-- A directive is looked for right after `# `. -/
theorem first?_directivePart (t : Text) : ∃ read rest, directivePart.first? (fromHash t)
    = some ⟨read, [directiveIn (fromHash t)], rest⟩ := by
  have hlead : ∀ u, (optional (text "# ".toList)).first? ("# ".toList ++ u)
      = some ⟨"# ".toList, [], u⟩ := by
    intro u
    rw [first?_optional, first?_text]
    rfl
  by_cases hstart : ∃ u, fromHash t = "# ".toList ++ u
  · obtain ⟨u, hu⟩ := hstart
    rw [hu, directivePart, first?_seq (hlead u) (first?_optional_run Text.isWordChar u)]
    exact ⟨_, _, rfl⟩
  · have hnolead : (optional (text "# ".toList)).first? (fromHash t)
        = some ⟨[], [], fromHash t⟩ := by
      have hnone : (text "# ".toList).first? (fromHash t) = none := by
        rw [first?_eq_none_iff]
        rintro u rest ht rfl
        exact hstart ⟨rest, ht⟩
      rw [first?_optional, hnone]
      rfl
    -- what is left begins with `#`, if with anything, so no word is there
    have hword : (fromHash t).takeWhile Text.isWordChar = [] ∧ directiveIn (fromHash t) = none := by
      rcases fromHash_eq_nil_or t with hnil | ⟨u, hu⟩
      · rw [hnil]
        exact ⟨rfl, rfl⟩
      · rw [hu, List.takeWhile_cons_of_neg (by decide)]
        refine ⟨rfl, ?_⟩
        unfold directiveIn
        split
        · next rest heq =>
          exact absurd ⟨rest, hu.trans heq⟩ hstart
        · rfl
    rw [directivePart, first?_seq hnolead (first?_optional_run Text.isWordChar _), hword.1, hword.2]
    exact ⟨_, _, rfl⟩

/-- A test line is read by the way that is tried first. -/
theorem first?_testLine (ok : Bool) {rest : Text} (hnl : '\n' ∉ fromHash rest) :
    ∃ read, testLine.first? (statusWord ok ++ ' ' :: rest)
      = some ⟨read, captures ⟨ok, (splitNumber rest).1, nonempty? (beforeHash (splitNumber rest).2),
          directiveIn (fromHash (splitNumber rest).2)⟩, []⟩ := by
  obtain ⟨numberRead, hnumber⟩ := first?_numberPart rest
  have hdescription := first?_optional_run (· != '#') (splitNumber rest).2
  obtain ⟨directiveRead, more, hdirective⟩ := first?_directivePart (splitNumber rest).2
  -- what the directive leaves over is on the line, so the last run takes all of it
  have hmore : ∀ c ∈ more, (c != '\n') = true := by
    obtain ⟨hread, -⟩ := spells_of_mem_readings (List.mem_of_mem_head? hdirective)
    rw [fromHash_splitNumber] at hread
    intro c hc
    rw [bne_iff_ne]
    rintro rfl
    rw [hread] at hnl
    exact hnl (List.mem_append_right _ hc)
  have hlast : (run 0 (· != '\n')).first? more = some ⟨more, [], []⟩ := by
    rw [first?_run (Nat.zero_le _), List.takeWhile_eq_self_iff.mpr hmore,
        List.dropWhile_eq_nil_iff.mpr hmore]
  exact ⟨_, first?_seq (first?_statusPart ok rest) (first?_seq (first?_text [' '] rest)
    (first?_seq hnumber (first?_seq hdescription (first?_seq hdirective hlast))))⟩

/-- **The groups of the pattern are the parts that the walk finds**, for every
line. -/
theorem whole?_testLine (line : Line) :
    testLine.whole? line = (TitleParts.ofLine? line).map captures := by
  by_cases h : testLine.Spells line
  · obtain ⟨ok, rest, rfl, hnl⟩ := spells_testLine_iff.mp h
    obtain ⟨read, hfirst⟩ := first?_testLine ok hnl
    rw [whole?_of_first? hfirst rfl, ofLine?_statusWord, fromHash_splitNumber, if_neg hnl]
    rfl
  · have hnone : testLine.whole? line = none := by
      rwa [← whole?_isSome_iff, Bool.not_eq_true, Option.isSome_eq_false_iff,
        Option.isNone_iff_eq_none] at h
    have hoff : TitleParts.ofLine? line = none := by
      rw [← Option.not_isSome_iff_eq_none, ofLine?_isSome_iff]
      rintro ⟨ok, rest, hline, hnl⟩
      rw [fromHash_splitNumber] at hnl
      exact h (spells_testLine_iff.mpr ⟨ok, rest, hline, hnl⟩)
    rw [hnone, hoff]
    rfl

end Pattern

/-! ## §3. What the parts of a line are. -/

namespace TitleParts

/-- The number of a line with the blank after it. -/
def numberText (parts : TitleParts) : Text :=
  (parts.number.map (· ++ [' '])).getD []

/-- What the parts of a test line are, by how what follows its status is
composed. -/
structure Describes (parts : TitleParts) (rest : Text) : Prop where
  /-- The number is digits with a blank right after them. -/
  number : ∀ digits, parts.number = some digits ↔
    Text.IsNumeral digits ∧ ∃ said, rest = digits ++ ' ' :: said
  /-- The description goes on from the number to the first `#` or the end. -/
  description : ∀ d, parts.description = some d ↔
    d ≠ [] ∧ '#' ∉ d ∧ (rest = parts.numberText ++ d
      ∨ ∃ more, rest = parts.numberText ++ (d ++ '#' :: more))
  /-- The directive is all word characters right after the first `#` and a
  blank. -/
  directive : ∀ w, parts.directive = some w ↔
    w ≠ [] ∧ (∀ c ∈ w, Text.isWordChar c = true)
      ∧ ∃ front more, rest = front ++ '#' :: ' ' :: (w ++ more) ∧ '#' ∉ front
        ∧ ∀ c ∈ more.head?, Text.isWordChar c = false

theorem number_iff {rest digits : Text} :
    (splitNumber rest).1 = some digits ↔
      Text.IsNumeral digits ∧ ∃ said, rest = digits ++ ' ' :: said := by
  constructor
  · intro h
    obtain ⟨hrest, hnumeral⟩ := splitNumber_eq_some_iff.mp (Prod.ext h rfl)
    exact ⟨hnumeral, _, hrest⟩
  · rintro ⟨hnumeral, said, hrest⟩
    rw [splitNumber_eq_some_iff.mpr ⟨hrest, hnumeral⟩]

theorem beforeHash_eq_iff {said d : Text} :
    beforeHash said = d ↔ '#' ∉ d ∧ (said = d ∨ ∃ more, said = d ++ '#' :: more) := by
  constructor
  · rintro rfl
    refine ⟨hash_notMem_beforeHash said, ?_⟩
    have happend := (beforeHash_append_fromHash said).symm
    rcases fromHash_eq_nil_or said with hnil | ⟨more, hmore⟩
    · rw [hnil, List.append_nil] at happend
      exact .inl happend
    · rw [hmore] at happend
      exact .inr ⟨more, happend⟩
  · rintro ⟨hhash, rfl | ⟨more, rfl⟩⟩
    · exact beforeHash_of_notMem hhash
    · exact beforeHash_append hhash more

theorem takeWhile_isWordChar_iff {t w : Text} :
    t.takeWhile Text.isWordChar = w ↔
      (∀ c ∈ w, Text.isWordChar c = true)
        ∧ ∃ more, t = w ++ more ∧ ∀ c ∈ more.head?, Text.isWordChar c = false := by
  constructor
  · rintro rfl
    refine ⟨fun c hc => List.mem_takeWhile_imp hc, t.dropWhile Text.isWordChar,
      List.takeWhile_append_dropWhile.symm, fun c hc => ?_⟩
    have hhead := List.head?_dropWhile_not Text.isWordChar t
    rw [Option.mem_def.mp hc] at hhead
    exact hhead
  · rintro ⟨hall, more, rfl, hmore⟩
    rw [List.takeWhile_append_of_pos hall]
    cases more with
    | nil => exact List.append_nil w
    | cons c more =>
      have hc : Text.isWordChar c = false := hmore c rfl
      rw [List.takeWhile_cons_of_neg (by simp [hc]), List.append_nil]

theorem directive_iff {rest w : Text} :
    directiveIn (fromHash rest) = some w ↔
      w ≠ [] ∧ (∀ c ∈ w, Text.isWordChar c = true)
        ∧ ∃ front more, rest = front ++ '#' :: ' ' :: (w ++ more) ∧ '#' ∉ front
          ∧ ∀ c ∈ more.head?, Text.isWordChar c = false := by
  constructor
  · intro h
    unfold directiveIn at h
    split at h
    · next said hsaid =>
      obtain ⟨hword, hne⟩ := Title.nonempty?_eq_some_iff.mp h
      obtain ⟨hall, more, rfl, hmore⟩ := takeWhile_isWordChar_iff.mp hword
      refine ⟨hne, hall, beforeHash rest, more, ?_, hash_notMem_beforeHash rest, hmore⟩
      rw [← hsaid, beforeHash_append_fromHash]
    · exact absurd h (by simp)
  · rintro ⟨hne, hall, front, more, rfl, hfront, hmore⟩
    rw [fromHash_append hfront]
    exact Title.nonempty?_eq_some_iff.mpr
      ⟨takeWhile_isWordChar_iff.mpr ⟨hall, more, rfl, hmore⟩, hne⟩

/-- The parts that the walk finds are as described. -/
theorem describes_of_ofLine? {ok : Bool} {rest : Text} {parts : TitleParts}
    (h : ofLine? (statusWord ok ++ ' ' :: rest) = some parts) :
    parts.ok = ok ∧ parts.Describes rest := by
  rw [ofLine?_statusWord] at h
  split at h
  · exact absurd h (by simp)
  · obtain rfl := Option.some.inj h
    refine ⟨rfl, fun digits => number_iff, fun d => ?_, fun w => ?_⟩
    · have hsaid : ∀ u, rest = ((splitNumber rest).1.map (· ++ [' '])).getD [] ++ u
          ↔ (splitNumber rest).2 = u := by
        intro u
        constructor
        · intro hrest
          exact List.append_cancel_left ((splitNumber_append rest).trans hrest)
        · rintro rfl
          exact (splitNumber_append rest).symm
      simp only [numberText, hsaid]
      rw [Title.nonempty?_eq_some_iff, beforeHash_eq_iff, and_comm]
    · show directiveIn (fromHash (splitNumber rest).2) = some w ↔ _
      rw [fromHash_splitNumber, directive_iff]

end TitleParts

/-! ## §4. Reading a title. -/

namespace Title

variable {parts : TitleParts}

/-- A word is a directive if it is one in small letters. -/
theorem directiveOfWord?_eq (word : Text) : directiveOfWord? word =
    if word.map toSmall ∈ directiveWords then some (word.map toSmall) else none := by
  unfold directiveOfWord?
  split
  · next h =>
    cases hfind : directiveWords.find? (· = word.map toSmall) with
    | none => exact absurd (List.find?_eq_none.mp hfind _ h) (by simp)
    | some directive =>
      have heq := List.find?_some hfind
      rw [of_decide_eq_true heq]
  · next h =>
    rw [List.find?_eq_none]
    intro directive hmem heq
    rw [of_decide_eq_true heq] at hmem
    exact h hmem

/-- A word that is no directive is quoted as it is written. -/
theorem ofParts_of_unknown {w : Text} (hdirective : parts.directive = some w)
    (hw : w.map toSmall ∉ directiveWords) (c : Cursor) :
    ofParts parts c = .ok (.mismatched (.unknownDirective w) c) := by
  unfold ofParts
  simp only [hdirective, Option.map_some, directiveOfWord?_eq, if_neg hw]
  rfl

/-- Where the word is a directive, or there is none, only the number can be
wrong. -/
theorem ofParts_of_known
    (h : ∀ w, parts.directive = some w → w.map toSmall ∈ directiveWords) (c : Cursor) :
    ofParts parts c = match numeralFault? parts.number.toList with
      | some e => .error e
      | none => .ok (.matched
          ⟨parts.ok, parts.number.map fun digits => (Text.ofDigits digits : Int),
            keptDescription parts.description, parts.directive.map (·.map toSmall)⟩ c) := by
  unfold ofParts
  cases hdirective : parts.directive with
  | none => exact withNumber_eq parts none c
  | some w =>
    simp only [Option.map_some, directiveOfWord?_eq, if_pos (h w hdirective)]
    exact withNumber_eq parts (some (w.map toSmall)) c

/-- **Reading a title, whatever the line is.**  A line that is no test line
in any way of reading it is refused where it stands.  Of a test line there is
one status and rest, and the groups of its pattern are what these hold: a
wrong word is refused one line further, before a number that is too long is a
fault, and otherwise the title is made of these parts. -/
theorem read_of_peek {c : Cursor} {line : Line} (hc : c.peek = .ok (some line)) :
    (Pattern.testLine.Spells line ↔
        ∃ ok rest, line = TitleParts.statusWord ok ++ ' ' :: rest
          ∧ '\n' ∉ TitleParts.fromHash rest)
      ∧ (¬ Pattern.testLine.Spells line → ∃ reason, read c = .ok (.mismatched reason c)
          ∧ reason.message = "Not a tap test result line".toList)
      ∧ ∀ ok rest, line = TitleParts.statusWord ok ++ ' ' :: rest →
        '\n' ∉ TitleParts.fromHash rest →
          ∃ parts : TitleParts, parts.ok = ok ∧ parts.Describes rest
            ∧ Pattern.testLine.whole? line = some parts.captures
            ∧ (∀ w, parts.directive = some w → w.map toSmall ∉ directiveWords →
                ∃ reason, read c = .ok (.mismatched reason c.next)
                  ∧ reason.message = "Unexpected test diagnostic value \"".toList ++ w
                    ++ "\", only \"todo\" and \"skip\" are valid".toList)
            ∧ ((∀ w, parts.directive = some w → w.map toSmall ∈ directiveWords) →
                (∀ digits, parts.number = some digits → Text.digitLimit < digits.length →
                  read c = .error (.numeralTooLong digits.length))
                ∧ ((∀ digits, parts.number = some digits → digits.length ≤ Text.digitLimit) →
                  read c = .ok (.matched
                    ⟨ok, parts.number.map fun digits => (Text.ofDigits digits : Int),
                      keptDescription parts.description,
                      parts.directive.map (·.map toSmall)⟩ c.next))) := by
  have hwhole := Pattern.whole?_testLine line
  refine ⟨Pattern.spells_testLine_iff, ?_, ?_⟩
  · intro hno
    rw [← Pattern.whole?_isSome_iff, hwhole, Option.isSome_map,
        Option.not_isSome_iff_eq_none] at hno
    refine ⟨.notTitle, LineParser.bind_of_mismatched ?_, rfl⟩
    simp only [LineParser.line, hc, Option.bind_some, hno]
  · intro ok rest hline hnl
    have hyes : (TitleParts.ofLine? line).isSome = true := by
      rw [TitleParts.ofLine?_isSome_iff]
      exact ⟨ok, rest, hline, by rwa [TitleParts.fromHash_splitNumber]⟩
    obtain ⟨parts, hparts⟩ := Option.isSome_iff_exists.mp hyes
    have hread : read c = ofParts parts c.next := by
      apply LineParser.bind_of_matched
      simp only [LineParser.line, hc, Option.bind_some, hparts]
    obtain ⟨rfl, hdescribes⟩ := TitleParts.describes_of_ofLine? (hline ▸ hparts)
    refine ⟨parts, rfl, hdescribes, by rw [hwhole, hparts]; rfl, ?_, ?_⟩
    · intro w hdirective hw
      exact ⟨.unknownDirective w, by rw [hread, ofParts_of_unknown hdirective hw], rfl⟩
    · intro hknown
      rw [hread, ofParts_of_known hknown]
      constructor
      · intro digits hnumber hlong
        rw [hnumber, Option.toList_some, numeralFault?_cons_of_lt hlong]
      · intro hshort
        have hnone : numeralFault? parts.number.toList = none := by
          rw [numeralFault?_eq_none_iff]
          exact fun digits hmem => hshort digits (Option.mem_toList.mp hmem)
        rw [hnone]

/-- A test line in a scope: an odd number of blanks, and words after the
directive. -/
def skippedTest : Cursor :=
  (Cursor.ofLines ["  not ok 7 ab  # SKIP todo".toList]).inside 2

theorem read_of_peek_skippedTest :
    skippedTest.peek = .ok (some "not ok 7 ab  # SKIP todo".toList)
      ∧ read skippedTest = .ok (.matched
        ⟨false, some 7, some "ab".toList, some "skip".toList⟩ skippedTest.next) := by
  have hpeek : skippedTest.peek = .ok (some "not ok 7 ab  # SKIP todo".toList) := by rfl
  refine ⟨hpeek, ?_⟩
  obtain ⟨-, -, hread⟩ := read_of_peek hpeek
  obtain ⟨parts, hok, hdescribes, -, -, hread⟩ :=
    hread false "7 ab  # SKIP todo".toList rfl (by decide)
  have hdigit : Text.IsNumeral "7".toList := ⟨by decide, List.all_eq_true.mp (by decide)⟩
  have hnumber : parts.number = some "7".toList :=
    (hdescribes.number _).mpr ⟨hdigit, "ab  # SKIP todo".toList, rfl⟩
  have hfront : parts.numberText = "7 ".toList := by
    rw [TitleParts.numberText, hnumber]
    rfl
  have hdescription : parts.description = some "ab  ".toList :=
    (hdescribes.description _).mpr
      ⟨by decide, by decide, .inr ⟨" SKIP todo".toList, by rw [hfront]; rfl⟩⟩
  have hend : ∀ c ∈ " todo".toList.head?, Text.isWordChar c = false := by
    intro c hc
    obtain rfl : ' ' = c := Option.some.inj hc
    decide
  have hdirective : parts.directive = some "SKIP".toList :=
    (hdescribes.directive _).mpr ⟨by decide, List.all_eq_true.mp (by decide), "7 ab  ".toList,
      " todo".toList, rfl, by decide, hend⟩
  have hknown : ∀ w, parts.directive = some w → w.map toSmall ∈ directiveWords := by
    intro w hw
    obtain rfl : "SKIP".toList = w := Option.some.inj (hdirective.symm.trans hw)
    decide
  have hshort : ∀ digits, parts.number = some digits → digits.length ≤ Text.digitLimit := by
    intro digits hdigits
    obtain rfl : "7".toList = digits := Option.some.inj (hnumber.symm.trans hdigits)
    decide
  rw [(hread hknown).2 hshort, hnumber, hdescription, hdirective]
  rfl

end Title

end TapReport
