/-
  TapReport.Toml.Scan
  ───────────────────
  **THE CHARACTERS OF TOML: BLANKS, COMMENTS, STRINGS.**

  A reader of TOML takes a text and gives what it read and the rest of the
  text.  It fails in three ways: the text is not TOML, or it holds a decimal
  integer too long to read, or values in values that are nested too deep.

  Main definitions:
    * `skipBlanks`, `skipComment`, `skipGap` — what carries no meaning.
    * `readBasic`, `readLiteral`, `readTripleBasic`, `readTripleLiteral` —
      the four kinds of strings.
-/
import TapReport.Text.Numeral

namespace TapReport.Toml

/-- Why a text cannot be read as TOML. -/
inductive Flaw where
  /-- It is not TOML. -/
  | malformed
  /-- It holds an integer of this many decimal digits. -/
  | numeralTooLong (digits : Nat)
  /-- Its values are nested too deep. -/
  | tooDeep
  deriving DecidableEq, Repr

/-- What a reader gives: a value and the text after it. -/
abbrev Scan (α : Type) := Except Flaw (α × Text)

/-! ## §1. Blanks and comments. -/

/-- A blank inside a line. -/
def isBlank (c : Char) : Bool :=
  c = ' ' || c = '\t'

/-- A control character that may not stand in a line; the tab may. -/
def isIllegal (c : Char) : Bool :=
  (c.toNat < 32 && c != '\t') || c.toNat == 127

/-- The text without the blanks at its beginning. -/
def skipBlanks (t : Text) : Text :=
  t.dropWhile isBlank

/-- The text without the comment at its beginning, if there is one. -/
def skipComment (t : Text) : Except Flaw Text :=
  match t with
  | '#' :: rest =>
    if (rest.takeWhile (· != '\n')).any isIllegal then .error .malformed
    else .ok (rest.dropWhile (· != '\n'))
  | _ => .ok t

/-- The text without the blanks, newlines and comments at its beginning; at
most `n` comments are skipped. -/
def skipGapWithin : Nat → Text → Except Flaw Text
  | 0, t => .ok t
  | n + 1, t =>
    match t.dropWhile fun c => isBlank c || c == '\n' with
    | '#' :: rest =>
      match skipComment ('#' :: rest) with
      | .error e => .error e
      | .ok rest => skipGapWithin n rest
    | rest => .ok rest

/-- The text without the blanks, newlines and comments at its beginning. -/
def skipGap (t : Text) : Except Flaw Text :=
  skipGapWithin (t.length + 1) t

/-! ## §2. Strings between single quotes. -/

/-- The text up to the first three `q` in a row, and the text after them. -/
def untilTriple (q : Char) : Text → Option (Text × Text)
  | [] => none
  | c :: rest =>
    match rest with
    | d :: e :: after =>
      if c = q ∧ d = q ∧ e = q then some ([], after)
      else (untilTriple q rest).map fun (body, after) => (c :: body, after)
    | _ => none

/-- Reads a string between single quotes, from after the first. -/
def readLiteral (t : Text) : Scan Text :=
  match t.dropWhile (· != '\'') with
  | [] => .error .malformed
  | _ :: rest =>
    if (t.takeWhile (· != '\'')).any isIllegal then .error .malformed
    else .ok (t.takeWhile (· != '\''), rest)

/-- A text without the newline at its beginning. -/
def dropNewline : Text → Text
  | '\n' :: rest => rest
  | t => t

/-- Up to two quotes right after a closing triple belong to the string. -/
def withExtraQuotes (q : Char) (body rest : Text) : Text × Text :=
  match rest with
  | c :: d :: after =>
    if c = q ∧ d = q then (body ++ [q, q], after)
    else if c = q then (body ++ [q], d :: after)
    else (body, rest)
  | [c] => if c = q then (body ++ [q], []) else (body, rest)
  | [] => (body, rest)

/-- Reads a string between triples of single quotes, from after the first. -/
def readTripleLiteral (t : Text) : Scan Text :=
  match untilTriple '\'' (dropNewline t) with
  | none => .error .malformed
  | some (body, rest) =>
    if body.any fun c => isIllegal c && c != '\n' then .error .malformed
    else .ok (withExtraQuotes '\'' body rest)

/-! ## §3. Strings between double quotes. -/

/-- The value of a hexadecimal digit. -/
def hexDigit? (c : Char) : Option Nat :=
  if c.isDigit then some (c.toNat - 48)
  else if 'a' ≤ c ∧ c ≤ 'f' then some (c.toNat - 87)
  else if 'A' ≤ c ∧ c ≤ 'F' then some (c.toNat - 55)
  else none

/-- The number that hexadecimal digits denote. -/
def ofHexDigits? (digits : Text) : Option Nat :=
  digits.foldlM (fun n c => (hexDigit? c).map (16 * n + ·)) 0

/-- The character whose number stands in the first `n` digits. -/
def readCodePoint (n : Nat) (t : Text) : Scan Char :=
  if (t.take n).length < n then .error .malformed
  else
    match ofHexDigits? (t.take n) with
    | none => .error .malformed
    | some code =>
      if code.isValidChar then .ok (Char.ofNat code, t.drop n) else .error .malformed

/-- Reads an escape, from after the backslash. -/
def readEscape (t : Text) : Scan Char :=
  match t with
  | 'b' :: rest => .ok (Char.ofNat 8, rest)
  | 't' :: rest => .ok ('\t', rest)
  | 'n' :: rest => .ok ('\n', rest)
  | 'f' :: rest => .ok (Char.ofNat 12, rest)
  | 'r' :: rest => .ok ('\r', rest)
  | '"' :: rest => .ok ('"', rest)
  | '\\' :: rest => .ok ('\\', rest)
  | 'u' :: rest => readCodePoint 4 rest
  | 'U' :: rest => readCodePoint 8 rest
  | _ => .error .malformed

/-- Reads the rest of a string between double quotes, at most `n`
characters; `body` holds those before, the latest first. -/
def readBasicWithin (body : Text) : Nat → Text → Scan Text
  | 0, _ => .error .malformed
  | n + 1, t =>
    match t with
    | [] => .error .malformed
    | '"' :: rest => .ok (body.reverse, rest)
    | '\\' :: rest =>
      match readEscape rest with
      | .error e => .error e
      | .ok (c, rest) => readBasicWithin (c :: body) n rest
    | c :: rest =>
      if isIllegal c then .error .malformed else readBasicWithin (c :: body) n rest

/-- Reads a string between double quotes, from after the first. -/
def readBasic (t : Text) : Scan Text :=
  readBasicWithin [] (t.length + 1) t

/-- The text after a backslash that ends its line: blanks and newlines are
skipped.  `none` if something else stands on the line. -/
def afterLineEnd? (t : Text) : Option Text :=
  match skipBlanks t with
  | [] => some []
  | '\n' :: rest => some (rest.dropWhile fun c => isBlank c || c == '\n')
  | _ => none

/-- Reads the rest of a string between triples of double quotes, at most `n`
characters; `body` holds those before, the latest first. -/
def readTripleBasicWithin (body : Text) : Nat → Text → Scan Text
  | 0, _ => .error .malformed
  | n + 1, t =>
    match t with
    | [] => .error .malformed
    | '"' :: '"' :: '"' :: rest => .ok (withExtraQuotes '"' body.reverse rest)
    | '\\' :: c :: rest =>
      if isBlank c || c == '\n' then
        match afterLineEnd? (c :: rest) with
        | none => .error .malformed
        | some rest => readTripleBasicWithin body n rest
      else
        match readEscape (c :: rest) with
        | .error e => .error e
        | .ok (c, rest) => readTripleBasicWithin (c :: body) n rest
    | '\\' :: [] => .error .malformed
    | c :: rest =>
      if isIllegal c && c != '\n' then .error .malformed
      else readTripleBasicWithin (c :: body) n rest

/-- Reads a string between triples of double quotes, from after the first. -/
def readTripleBasic (t : Text) : Scan Text :=
  readTripleBasicWithin [] (t.length + 1) (dropNewline t)

end TapReport.Toml
