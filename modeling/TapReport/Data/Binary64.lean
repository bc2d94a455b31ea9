/-
  TapReport.Data.Binary64
  ───────────────────────
  **FLOATING-POINT NUMBERS OF 64 BITS, IN EXACT ARITHMETIC.**

  A finite number is ± m · 2^q with natural m below 2^53.  Reading rounds a
  decimal to the nearest such number, a tie to the even m.  Writing gives
  the fewest digits that read back: on the decimal grids of 1, 2, … 17
  digits the two neighbours of the number are tried, and the first grid with
  one that rounds to the number wins: the nearer of two, and the even one of
  two that are equally near.

  Main definitions:
    * `ofDecimal` — the number nearest to a decimal.
    * `shortest?` — the shortest decimal that reads back.
    * `toText` — positional between 10^-4 and 10^16, otherwise with an
      exponent of at least two digits; always with a fraction or an exponent.
-/
import TapReport.Text.Numeral

namespace TapReport

/-- A binary floating-point number of 64 bits. -/
inductive Binary64 where
  /-- The number ± `mantissa` · 2^`exponent`. -/
  | finite (negative : Bool) (mantissa : Nat) (exponent : Int)
  /-- An infinity. -/
  | infinite (negative : Bool)
  /-- Not a number. -/
  | nan
  deriving DecidableEq, Repr

namespace Binary64

/-! ## §1. Rounding. -/

/-- The exponent of the smallest numbers. -/
def leastExponent : Int := -1074

/-- The exponent of the largest numbers. -/
def greatestExponent : Int := 971

/-- The natural number nearest to `n / d`, a tie to the even one. -/
def roundHalfEven (n d : Nat) : Nat :=
  if d < 2 * (n % d) ∨ (2 * (n % d) = d ∧ n / d % 2 = 1) then n / d + 1 else n / d

/-- The least mantissa that uses all bits: 2^52. -/
def leastFull : Nat := 4503599627370496

/-- 10^`e` for positive `e`, otherwise one. -/
def powerOfTen (e : Int) : Nat :=
  Nat.pow 10 e.toNat

/-- `x` times 2^`e` for positive `e`, otherwise `x`. -/
def shiftUp (x : Nat) (e : Int) : Nat :=
  x <<< e.toNat

/-- The number nearest to the positive fraction `n / d`. -/
def ofFraction (negative : Bool) (n d : Nat) : Binary64 :=
  let guess : Int := (Nat.log2 n : Int) - Nat.log2 d
  let magnitude := if shiftUp d guess ≤ shiftUp n (-guess) then guess else guess - 1
  let q := max (magnitude - 52) leastExponent
  let m := roundHalfEven (shiftUp n (-q)) (shiftUp d q)
  let (m, q) := if m = 2 * leastFull then (leastFull, q + 1) else (m, q)
  if greatestExponent < q then .infinite negative else .finite negative m q

/-- The number nearest to ± `digits` · 10^`scale`. -/
def ofDecimal (negative : Bool) (digits : Nat) (scale : Int) : Binary64 :=
  let size : Int := (Text.ofNat digits).length + scale
  if digits = 0 ∨ size < -330 then .finite negative 0 leastExponent
  else if 330 < size then .infinite negative
  else ofFraction negative (digits * powerOfTen scale) (powerOfTen (-scale))

/-- Whether a number is below zero. -/
def isBelowZero : Binary64 → Bool
  | .finite negative m _ => negative && m != 0
  | .infinite negative => negative
  | .nan => false

/-- The least integer that a finite number does not exceed. -/
def ceiling? : Binary64 → Option Int
  | .finite negative m q =>
    let n := shiftUp m q
    let d := shiftUp 1 (-q)
    some (if negative then -(n / d : Nat) else ((n + d - 1) / d : Nat))
  | _ => none

/-! ## §2. The shortest decimal. -/

/-- Digits d₁d₂…dₙ and a point position p, for the number 0.d₁d₂…dₙ · 10^p. -/
structure Decimal where
  /-- The digits. -/
  digits : Text
  /-- How many of them stand before the point. -/
  point : Int
  deriving DecidableEq, Repr

/-- The least `p` for which the positive fraction `n / d` is below 10^`p`. -/
def pointOf (n d : Nat) : Int :=
  if d ≤ n then (Text.ofNat (n / d)).length else 1 - (Text.ofNat (d / n)).length

/-- Of the two neighbours of m · 2^q on the grid of `places` digits, the
nearest one that rounds to it; of two equally near the even one. -/
def onGrid? (m : Nat) (q : Int) (places : Nat) : Option Decimal :=
  let n := shiftUp m q
  let d := shiftUp 1 (-q)
  let point := pointOf n d
  let grid := point - places
  -- everything below is measured in units of 10^grid / (4 · unit)
  let unit := d * powerOfTen grid
  let scaled (x : Nat) : Nat := x * powerOfTen (-grid)
  let value := scaled (4 * n)
  let below := scaled (if m = leastFull ∧ leastExponent < q then shiftUp 1 q else 2 * shiftUp 1 q)
  let above := scaled (2 * shiftUp 1 q)
  let floor := value / (4 * unit)
  let lowGap := value - 4 * unit * floor
  let highGap := 4 * unit * (floor + 1) - value
  let reaches (gap bound : Nat) : Bool := gap < bound || (gap == bound && m % 2 == 0)
  let lowHits := reaches lowGap below
  let highHits := reaches highGap above
  let pick : Option Nat :=
    if lowHits && (!highHits || lowGap < highGap || (lowGap == highGap && floor % 2 == 0)) then
      some floor
    else if highHits then some (floor + 1)
    else none
  pick.map fun x =>
    let digits := Text.ofNat x
    ⟨(digits.reverse.dropWhile (· == '0')).reverse, point + (digits.length - places : Int)⟩

/-- The shortest decimal that reads back as m · 2^q, for positive m. -/
def shortest? (m : Nat) (q : Int) : Option Decimal :=
  (List.range 17).findSome? fun i => onGrid? m q (i + 1)

/-! ## §3. Text. -/

/-- The text of a decimal. -/
def Decimal.toText (x : Decimal) : Text :=
  let size : Int := x.digits.length
  if -4 < x.point ∧ x.point ≤ 16 then
    if x.point ≤ 0 then "0.".toList ++ List.replicate (-x.point).toNat '0' ++ x.digits
    else if size ≤ x.point then
      x.digits ++ List.replicate (x.point - size).toNat '0' ++ ".0".toList
    else x.digits.take x.point.toNat ++ ['.'] ++ x.digits.drop x.point.toNat
  else
    let exponent := x.point - 1
    let places := Text.ofNat exponent.natAbs
    let fraction := if size = 1 then [] else '.' :: x.digits.drop 1
    x.digits.take 1 ++ fraction ++ ['e', if exponent < 0 then '-' else '+']
      ++ (if places.length < 2 then '0' :: places else places)

/-- The text of a number. -/
def toText : Binary64 → Text
  | .nan => "nan".toList
  | .infinite negative => (if negative then ['-'] else []) ++ "inf".toList
  | .finite negative m q =>
    (if negative then ['-'] else []) ++
      match (if m = 0 then none else shortest? m q) with
      | none => "0.0".toList
      | some x => x.toText

/-- Reads an unsigned decimal: digits, a fraction and an exponent, the last
two optional. -/
def ofUnsigned? (negative : Bool) (t : Text) : Option Binary64 :=
  let whole := t.takeWhile Char.isDigit
  let afterWhole := t.dropWhile Char.isDigit
  let (fraction, afterFraction) := match afterWhole with
    | '.' :: rest => (rest.takeWhile Char.isDigit, rest.dropWhile Char.isDigit)
    | rest => ([], rest)
  let scale? : Option Int := match afterFraction with
    | [] => some 0
    | c :: rest =>
      if c = 'e' || c = 'E' then
        match rest with
        | '-' :: digits => exponent? digits |>.map fun n => -(n : Int)
        | '+' :: digits => exponent? digits |>.map Int.ofNat
        | digits => exponent? digits |>.map Int.ofNat
      else none
  if whole.isEmpty && fraction.isEmpty then none
  else scale?.map fun scale =>
    ofDecimal negative (Text.ofDigits (whole ++ fraction)) (scale - fraction.length)
where
  /-- The digits of an exponent. -/
  exponent? (digits : Text) : Option Nat :=
    if digits.isEmpty || !digits.all Char.isDigit then none else some (Text.ofDigits digits)

/-- Reads a number: a sign, and a decimal, `inf` or `nan`. -/
def ofText? (t : Text) : Option Binary64 :=
  match t with
  | '-' :: rest => signed? true rest
  | '+' :: rest => signed? false rest
  | rest => signed? false rest
where
  /-- What may follow the sign. -/
  signed? (negative : Bool) (t : Text) : Option Binary64 :=
    if t = "inf".toList then some (.infinite negative)
    else if t = "nan".toList then some .nan
    else ofUnsigned? negative t

end Binary64

end TapReport
