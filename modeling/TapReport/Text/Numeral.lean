/-
  TapReport.Text.Numeral
  ──────────────────────
  **NUMERALS: READING AND WRITING WHOLE NUMBERS.**

  A numeral in a report is a run of decimal digits of any script.  A number
  given as a setting is read more freely: blanks around it, one sign, and
  single underscores between its digits.  Either way a numeral of more than
  `digitLimit` digits is refused, leading zeros counted.

  Main results:
    * `ofDigits_ofNat` — a written number reads back as itself.
    * `isDigit_of_mem_ofNat` — a written number holds digits only.
-/
import TapReport.Text.Blank
import TapReport.Text.Digit

namespace TapReport.Text

/-! ## §1. Writing. -/

/-- A natural number in ASCII decimal digits, without leading zeros. -/
def ofNat (n : Nat) : Text :=
  Nat.toDigits 10 n

/-- An integer in ASCII decimal digits, a minus sign before a negative one. -/
def ofInt : Int → Text
  | .ofNat n => ofNat n
  | .negSucc n => '-' :: ofNat (n + 1)

/-- A natural number in so many hexadecimal digits, in small letters. -/
def ofHex : (width n : Nat) → Text
  | 0, _ => []
  | width + 1, n => ofHex width (n / 16) ++ [Nat.digitChar (n % 16)]

/-- A number is written in as many hexadecimal digits as are asked for. -/
@[simp] theorem length_ofHex (width n : Nat) : (ofHex width n).length = width := by
  induction width generalizing n with
  | zero => rfl
  | succ width ih => simp [ofHex, ih]

/-! ## §2. Reading a run of digits. -/

/-- The most digits a numeral may have. -/
def digitLimit : Nat := 4300

/-- The number that a run of decimal digits denotes. -/
def ofDigits (digits : Text) : Nat :=
  digits.foldl (fun n c => 10 * n + (digit? c).getD 0) 0

/-- The number that a run of digits denotes, if the run is short enough. -/
def readNatural? (digits : Text) : Option Nat :=
  if digits.length ≤ digitLimit then some (ofDigits digits) else none

/-- Each further digit counts once, and what is before it ten times. -/
theorem ofDigits_append_singleton (digits : Text) (c : Char) :
    ofDigits (digits ++ [c]) = 10 * ofDigits digits + (digit? c).getD 0 := by
  simp [ofDigits]

/-! ## §3. A written number reads back. -/

/-- A digit that is written reads back. -/
theorem digit?_digitChar {d : Nat} (hd : d < 10) : digit? (Nat.digitChar d) = some d := by
  match d, hd with
  | 0, _ | 1, _ | 2, _ | 3, _ | 4, _ | 5, _ | 6, _ | 7, _ | 8, _ | 9, _ => decide

/-- A number below ten is one digit. -/
theorem ofNat_of_lt {n : Nat} (h : n < 10) : ofNat n = [Nat.digitChar n] := by
  simpa [ofNat] using Nat.toDigits_of_lt_base h

/-- Any other ends with its remainder, after what ten goes into it. -/
theorem ofNat_of_le {n : Nat} (h : 10 ≤ n) :
    ofNat n = ofNat (n / 10) ++ [Nat.digitChar (n % 10)] := by
  have := Nat.toDigits_eq_if (b := 10) (n := n) (by decide)
  simpa [ofNat, Nat.not_lt.mpr h] using this

/-- A written number reads back as itself. -/
theorem ofDigits_ofNat (n : Nat) : ofDigits (ofNat n) = n := by
  induction n using Nat.strongRecOn with
  | _ n ih =>
    by_cases h : n < 10
    · simp [ofNat_of_lt h, ofDigits, digit?_digitChar h]
    · have h10 : 10 ≤ n := Nat.le_of_not_lt h
      rw [ofNat_of_le h10, ofDigits_append_singleton, ih (n / 10) (by omega),
        digit?_digitChar (Nat.mod_lt _ (by decide))]
      simp only [Option.getD_some]
      omega

/-- A written number holds digits only. -/
theorem isDigit_of_mem_ofNat (n : Nat) : ∀ c ∈ ofNat n, isDigit c := by
  induction n using Nat.strongRecOn with
  | _ n ih =>
    by_cases h : n < 10
    · simp [ofNat_of_lt h, isDigit, digit?_digitChar h]
    · have h10 : 10 ≤ n := Nat.le_of_not_lt h
      intro c hc
      rw [ofNat_of_le h10, List.mem_append, List.mem_singleton] at hc
      rcases hc with hc | rfl
      · exact ih (n / 10) (by omega) c hc
      · simp [isDigit, digit?_digitChar (Nat.mod_lt n (by decide : 0 < 10))]

/-- So it stays on one line. -/
theorem newline_notMem_ofNat (n : Nat) : '\n' ∉ ofNat n :=
  fun h => absurd (isDigit_of_mem_ofNat n '\n' h) (by decide)

/-- An integer stays on one line, its sign included. -/
theorem newline_notMem_ofInt (n : Int) : '\n' ∉ ofInt n := by
  cases n with
  | ofNat n => exact newline_notMem_ofNat n
  | negSucc n =>
    rw [ofInt, List.mem_cons, not_or]
    exact ⟨by decide, newline_notMem_ofNat (n + 1)⟩

/-- A written number has a digit. -/
theorem ofNat_ne_nil (n : Nat) : ofNat n ≠ [] := by
  by_cases h : n < 10
  · simp [ofNat_of_lt h]
  · simp [ofNat_of_le (Nat.le_of_not_lt h)]

/-! ## §4. Reading a number given as a setting. -/

/-- A blank that may surround such a number: any but the information
separators. -/
def isPadding (c : Char) : Bool :=
  isBlank c && !(28 ≤ c.toNat && c.toNat ≤ 31)

/-- The digits of a run in which single underscores may stand between two
digits; `afterDigit` tells whether a digit came just before. -/
def unseparated? (afterDigit : Bool) : Text → Option Text
  | [] => if afterDigit then some [] else none
  | c :: t =>
    if c = '_' then if afterDigit then unseparated? false t else none
    else if isDigit c then (unseparated? true t).map (c :: ·)
    else none

/-- A whole number as people write it in a setting. -/
def readInteger? (t : Text) : Option Int :=
  let bare := ((t.dropWhile isPadding).reverse.dropWhile isPadding).reverse
  match bare with
  | '-' :: digits => ((unseparated? false digits).bind readNatural?).map fun n => -(n : Int)
  | '+' :: digits => ((unseparated? false digits).bind readNatural?).map Int.ofNat
  | digits => ((unseparated? false digits).bind readNatural?).map Int.ofNat

end TapReport.Text
