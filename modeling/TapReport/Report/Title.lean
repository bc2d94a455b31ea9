/-
  TapReport.Report.Title
  ──────────────────────
  **THE FIRST LINE OF A TEST.**

  A test line is `ok` or `not ok`, a blank, and then in this order, each
  optional: a number followed by a blank, a description up to the first
  `#`, and after that `#` a directive.  A directive is the word right after
  `# `; what follows it is ignored, but must stay on the line.

  Recognising a line and understanding it are two steps: `TitleParts.ofLine?`
  takes the line apart without reading numbers or words, and `Title.ofParts`
  says what the parts mean, or what is wrong with them.

  Main results:
    * `ofLine?_isSome_iff` — which lines are test lines.
    * `directiveOfWord?_eq_some` — only `todo` and `skip` are directives.
-/
import TapReport.LineParser.Basic
import TapReport.Report.Document
import TapReport.Text.Word

namespace TapReport

/-! ## §1. Taking a line apart. -/

/-- The parts of a test line, as they are written. -/
structure TitleParts where
  /-- Whether the line begins with `ok`. -/
  ok : Bool
  /-- The digits of the number. -/
  number : Option Text
  /-- The text up to the first `#`, blanks included. -/
  description : Option Text
  /-- The word after `# `. -/
  directive : Option Text
  deriving DecidableEq, Repr

namespace TitleParts

/-- The status that a line begins with, and what follows the blank after it. -/
def splitStatus? (line : Line) : Option (Bool × Text) :=
  match Text.after? "ok ".toList line with
  | some rest => some (true, rest)
  | none => (Text.after? "not ok ".toList line).map (false, ·)

/-- The digits that a text begins with, if a blank follows them, and what
follows that blank. -/
def splitNumber (t : Text) : Option Text × Text :=
  match t.takeWhile Text.isDigit, t.dropWhile Text.isDigit with
  | d :: digits, ' ' :: rest => (some (d :: digits), rest)
  | _, _ => (none, t)

/-- The text before its first `#`. -/
def beforeHash (t : Text) : Text :=
  t.takeWhile (· != '#')

/-- The text from its first `#` on. -/
def fromHash (t : Text) : Text :=
  t.dropWhile (· != '#')

/-- A text, unless it is empty. -/
def nonempty? (t : Text) : Option Text :=
  if t.isEmpty then none else some t

/-- The word right after `# `, in a text that is empty or begins with `#`. -/
def directiveIn (t : Text) : Option Text :=
  match t with
  | '#' :: ' ' :: rest => nonempty? (rest.takeWhile Text.isWordChar)
  | _ => none

/-- The parts of a test line; what follows the first `#` must not hold a
newline. -/
def ofLine? (line : Line) : Option TitleParts :=
  (splitStatus? line).bind fun (ok, rest) =>
    let (number, rest) := splitNumber rest
    if (fromHash rest).contains '\n' then none
    else some ⟨ok, number, nonempty? (beforeHash rest), directiveIn (fromHash rest)⟩

/-- The word of a status. -/
def statusWord (ok : Bool) : Text :=
  if ok then "ok".toList else "not ok".toList

/-- The parts as a list of texts, the number with the blank after it. -/
def captures (parts : TitleParts) : List (Option Text) :=
  [some (statusWord parts.ok), parts.number.map (· ++ [' ']), parts.description, parts.directive]

/-- A title begins with the word for its status and a space. -/
theorem splitStatus?_eq_some_iff {line rest : Line} {ok : Bool} :
    splitStatus? line = some (ok, rest) ↔ line = statusWord ok ++ ' ' :: rest := by
  have hok : statusWord true ++ ' ' :: rest = "ok ".toList ++ rest := rfl
  have hno : statusWord false ++ ' ' :: rest = "not ok ".toList ++ rest := rfl
  unfold splitStatus?
  cases h : Text.after? "ok ".toList line with
  | some r =>
    rw [Text.after?_eq_some_iff] at h
    subst h
    cases ok with
    | true => rw [hok]; simp
    | false => rw [hno]; simp
  | none =>
    cases ok with
    | true =>
      rw [hok, ← Text.after?_eq_some_iff, h]
      simp
    | false =>
      rw [hno, ← Text.after?_eq_some_iff]
      simp

/-- Exactly these lines are test lines: a status, a blank, and a rest that
holds no newline from its first `#` on. -/
theorem ofLine?_isSome_iff {line : Line} :
    (ofLine? line).isSome ↔ ∃ ok rest, line = statusWord ok ++ ' ' :: rest ∧
      '\n' ∉ fromHash (splitNumber rest).2 := by
  unfold ofLine?
  constructor
  · intro h
    cases hs : splitStatus? line with
    | none => simp [hs] at h
    | some found =>
      obtain ⟨ok, rest⟩ := found
      refine ⟨ok, rest, splitStatus?_eq_some_iff.mp hs, ?_⟩
      intro hmem
      simp [hs, hmem] at h
  · rintro ⟨ok, rest, hline, hmem⟩
    simp [splitStatus?_eq_some_iff.mpr hline, hmem]

end TitleParts

/-! ## §2. Understanding the parts. -/

namespace Title

/-- The small form of a letter that has an ASCII one; the Kelvin sign is a
`k`.  No other character has an ASCII small form. -/
def toSmall (c : Char) : Char :=
  if c = '\u212a' then 'k' else c.toLower

/-- The words that are directives. -/
def directiveWords : List Text :=
  ["todo".toList, "skip".toList]

/-- The directive that a word is, in small letters. -/
def directiveOfWord? (word : Text) : Option Text :=
  directiveWords.find? (· = word.map toSmall)

/-- Only directive words are recognised. -/
theorem directiveOfWord?_eq_some {word directive : Text}
    (h : directiveOfWord? word = some directive) : directive ∈ directiveWords :=
  List.mem_of_find?_eq_some h

/-- The description as it is kept: without the blanks at its end, and absent
if nothing is left. -/
def keptDescription (description : Option Text) : Option Text :=
  (description.map Text.trimEnd).bind TitleParts.nonempty?

/-- The title that the parts of a line make.  A wrong directive is found
before the number is read. -/
def ofParts (parts : TitleParts) : LineParser Title :=
  match parts.directive.map fun word => (word, directiveOfWord? word) with
  | some (word, none) => .refuse (.unknownDirective word)
  | some (_, some directive) => withNumber (some directive)
  | none => withNumber none
where
  /-- The title with a directive, once its number is read. -/
  withNumber (directive : Option Text) : LineParser Title :=
    match parts.number with
    | none => .succeed ⟨parts.ok, none, keptDescription parts.description, directive⟩
    | some digits =>
      match Text.readNatural? digits with
      | none => .fault (.numeralTooLong digits.length)
      | some n => .succeed ⟨parts.ok, some n, keptDescription parts.description, directive⟩

/-- Reads the first line of a test. -/
def read : LineParser Title :=
  (LineParser.line TitleParts.ofLine? .notTitle).bind ofParts

end Title

end TapReport
