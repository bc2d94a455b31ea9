/-
  TapReport.Toml.Number
  ─────────────────────
  **NUMBERS OF TOML.**

  An integer is decimal, or hexadecimal, octal or binary after `0x`, `0o`
  or `0b`; a number with a fraction or an exponent is floating-point.
  Single underscores may stand between digits.  A decimal integer does not
  begin with a zero, and only decimal integers are limited in length.

  Main definition: `readNumber?`.
-/
import TapReport.Data.Value
import TapReport.Toml.Scan

namespace TapReport.Toml

/-- Whether a text begins with a digit. -/
def beginsWith (isDigit : Char → Bool) (t : Text) : Bool :=
  t.head?.any isDigit

/-- The digits at the beginning of a text and the text after them.  An
underscore between two digits is left out; `afterDigit` tells whether a
digit came just before. -/
def digitRunFrom (isDigit : Char → Bool) (afterDigit : Bool) : Text → Text × Text
  | [] => ([], [])
  | c :: t =>
    if isDigit c then
      match digitRunFrom isDigit true t with
      | (digits, rest) => (c :: digits, rest)
    else if c = '_' && afterDigit && beginsWith isDigit t then digitRunFrom isDigit false t
    else ([], c :: t)

/-- The digits at the beginning of a text, single underscores between them
left out, and the text after them. -/
def digitRun (isDigit : Char → Bool) (t : Text) : Text × Text :=
  digitRunFrom isDigit false t

/-- The value of a digit in a base. -/
def digitIn? (base : Nat) (c : Char) : Option Nat :=
  (hexDigit? c).filter (· < base)

/-- Reads an integer in a base other than ten, from after its mark. -/
def readInBase? (base : Nat) (t : Text) : Option (Int × Text) :=
  match digitRun (fun c => (digitIn? base c).isSome) t with
  | ([], _) => none
  | (digits, rest) =>
    some ((digits.foldl (fun n c => base * n + (digitIn? base c).getD 0) 0 : Nat), rest)

/-- The digits before the point: a lone zero, or a run that begins with
another digit. -/
def readWhole? (t : Text) : Option (Text × Text) :=
  match t with
  | '0' :: rest => some (['0'], rest)
  | c :: _ => if c.isDigit then some (digitRun Char.isDigit t) else none
  | [] => none

/-- A sign at the beginning of a text. -/
def splitSign : Text → Text × Text
  | '-' :: rest => (['-'], rest)
  | '+' :: rest => (['+'], rest)
  | t => ([], t)

/-- A point and digits after it; nothing if there are none. -/
def readFraction (t : Text) : Text × Text :=
  match t with
  | '.' :: rest =>
    match digitRun Char.isDigit rest with
    | ([], _) => ([], t)
    | (digits, rest) => ('.' :: digits, rest)
  | _ => ([], t)

/-- An exponent; nothing if it has no digits. -/
def readExponent (t : Text) : Text × Text :=
  match t with
  | c :: rest =>
    if c = 'e' || c = 'E' then
      let (sign, afterSign) := splitSign rest
      match digitRun Char.isDigit afterSign with
      | ([], _) => ([], t)
      | (digits, rest) => ('e' :: sign ++ digits, rest)
    else ([], t)
  | [] => ([], t)

/-- Reads a decimal number. -/
def readDecimal? (t : Text) : Option (Scan Value) :=
  let (sign, unsigned) := splitSign t
  (readWhole? unsigned).map fun (whole, afterWhole) =>
    let (fraction, afterFraction) := readFraction afterWhole
    let (exponent, rest) := readExponent afterFraction
    if fraction.isEmpty && exponent.isEmpty then
      match Text.readNatural? whole with
      | none => .error (.numeralTooLong whole.length)
      | some n => .ok (.int (if sign = ['-'] then -(n : Int) else n), rest)
    else
      match Binary64.ofText? (sign ++ whole ++ fraction ++ exponent) with
      | none => .error .malformed
      | some x => .ok (.float x, rest)

/-- Reads a number, if one stands at the beginning. -/
def readNumber? (t : Text) : Option (Scan Value) :=
  let inBase? : Option (Int × Text) := match t with
    | '0' :: 'x' :: rest => readInBase? 16 rest
    | '0' :: 'o' :: rest => readInBase? 8 rest
    | '0' :: 'b' :: rest => readInBase? 2 rest
    | _ => none
  match inBase? with
  | some (n, rest) => some (.ok (.int n, rest))
  | none => readDecimal? t

end TapReport.Toml
