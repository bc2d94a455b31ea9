/-
  TapReport.Toml.Moment
  ─────────────────────
  **DATES AND TIMES OF TOML.**

  A date, a time of day, or both with or without an offset.  What follows a
  date counts as its time only if it is one; a fraction of a second keeps
  six digits.  A day that its month does not have is malformed, and so is
  the year zero.

  Main definitions: `readMoment?`, `Moment.toText`.
-/
import TapReport.Data.Value
import TapReport.Toml.Scan

namespace TapReport.Toml

/-! ## §1. Dates, times and their texts. -/

/-- A day. -/
structure Date where
  /-- The year. -/
  year : Nat
  /-- The month, from one. -/
  month : Nat
  /-- The day of the month, from one. -/
  day : Nat
  deriving DecidableEq, Repr

/-- A time of day. -/
structure Time where
  /-- The hour. -/
  hour : Nat
  /-- The minute. -/
  minute : Nat
  /-- The second. -/
  second : Nat
  /-- The millionths of a second. -/
  micros : Nat
  deriving DecidableEq, Repr

/-- How far a time is from universal time, in minutes. -/
abbrev Offset := Int

/-- A date, a time or both. -/
inductive Moment where
  /-- A day. -/
  | date (d : Date)
  /-- A time of day. -/
  | time (t : Time)
  /-- A time on a day. -/
  | dateTime (d : Date) (t : Time) (offset : Option Offset)
  deriving DecidableEq, Repr

/-- A number with zeros in front up to a width. -/
def padded (width n : Nat) : Text :=
  List.replicate (width - (Text.ofNat n).length) '0' ++ Text.ofNat n

/-- The text of a date. -/
def Date.toText (d : Date) : Text :=
  padded 4 d.year ++ ['-'] ++ padded 2 d.month ++ ['-'] ++ padded 2 d.day

/-- The text of a time. -/
def Time.toText (t : Time) : Text :=
  padded 2 t.hour ++ [':'] ++ padded 2 t.minute ++ [':'] ++ padded 2 t.second
    ++ (if t.micros = 0 then [] else '.' :: padded 6 t.micros)

/-- The text of an offset. -/
def offsetText (offset : Offset) : Text :=
  (if offset < 0 then '-' else '+') :: padded 2 (offset.natAbs / 60) ++ [':']
    ++ padded 2 (offset.natAbs % 60)

/-- The text of a moment, in the notation of ISO 8601. -/
def Moment.toText : Moment → Text
  | .date d => d.toText
  | .time t => t.toText
  | .dateTime d t offset => d.toText ++ ['T'] ++ t.toText ++ (offset.map offsetText).getD []

/-! ## §2. Reading. -/

/-- A number of exactly `width` digits that is at least `low` and at most
`high`. -/
def readField? (width low high : Nat) (t : Text) : Option (Nat × Text) :=
  if (t.take width).length = width ∧ (t.take width).all Char.isDigit then
    let n := Text.ofDigits (t.take width)
    if low ≤ n ∧ n ≤ high then some (n, t.drop width) else none
  else none

/-- The text after a character that must come next. -/
def expect? (c : Char) : Text → Option Text
  | d :: rest => if d = c then some rest else none
  | [] => none

/-- Reads the six kept digits of a fraction of a second, if there is one. -/
def readMicros (t : Text) : Nat × Text :=
  match t with
  | '.' :: rest =>
    match rest.takeWhile Char.isDigit with
    | [] => (0, t)
    | digits =>
      (Text.ofDigits ((digits ++ List.replicate 6 '0').take 6), rest.dropWhile Char.isDigit)
  | _ => (0, t)

/-- Reads a time of day. -/
def readTime? (t : Text) : Option (Time × Text) := do
  let (hour, t) ← readField? 2 0 23 t
  let (minute, t) ← readField? 2 0 59 (← expect? ':' t)
  let (second, t) ← readField? 2 0 59 (← expect? ':' t)
  let (micros, t) := readMicros t
  return (⟨hour, minute, second, micros⟩, t)

/-- Reads the form of a date; the month may not have that day. -/
def readDate? (t : Text) : Option (Date × Text) := do
  let (year, t) ← readField? 4 0 9999 t
  let (month, t) ← readField? 2 1 12 (← expect? '-' t)
  let (day, t) ← readField? 2 1 31 (← expect? '-' t)
  return (⟨year, month, day⟩, t)

/-- Reads an offset with a sign. -/
def readSignedOffset? (sign : Int) (t : Text) : Option (Offset × Text) := do
  let (hours, t) ← readField? 2 0 23 t
  let (minutes, t) ← readField? 2 0 59 (← expect? ':' t)
  return (sign * (60 * hours + minutes : Nat), t)

/-- Reads an offset, if there is one. -/
def readOffset (t : Text) : Option Offset × Text :=
  let found : Option (Offset × Text) := match t with
    | 'Z' :: rest | 'z' :: rest => some (0, rest)
    | '+' :: rest => readSignedOffset? 1 rest
    | '-' :: rest => readSignedOffset? (-1) rest
    | _ => none
  match found with
  | some (offset, rest) => (some offset, rest)
  | none => (none, t)

/-- How many days a month has. -/
def daysIn (year month : Nat) : Nat :=
  if month = 2 then
    if (year % 4 = 0 ∧ year % 100 ≠ 0) ∨ year % 400 = 0 then 29 else 28
  else if month ∈ [4, 6, 9, 11] then 30
  else 31

/-- Whether a date is a day of the calendar. -/
def Date.isDay (d : Date) : Bool :=
  1 ≤ d.year && d.day ≤ daysIn d.year d.month

/-- The time after a date, if one follows. -/
def readTimeAfterDate? (t : Text) : Option (Time × Text) :=
  match t with
  | 'T' :: rest | 't' :: rest | ' ' :: rest => readTime? rest
  | _ => none

/-- Reads a date or a time, if one stands at the beginning. -/
def readMoment? (t : Text) : Option (Scan Moment) :=
  match readDate? t with
  | some (date, rest) =>
    if !date.isDay then some (.error .malformed)
    else
      match readTimeAfterDate? rest with
      | none => some (.ok (.date date, rest))
      | some (time, rest) =>
        let (offset, rest) := readOffset rest
        some (.ok (.dateTime date time offset, rest))
  | none => (readTime? t).map fun (time, rest) => .ok (.time time, rest)

end TapReport.Toml
