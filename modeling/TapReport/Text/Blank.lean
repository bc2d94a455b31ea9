/-
  TapReport.Text.Blank
  ────────────────────
  **BLANK CHARACTERS, AND THE END OF A LINE WITHOUT THEM.**

  A blank is a character of the Unicode white space property or one of the
  four information separators U+001C to U+001F.  Zero-width characters
  (U+200B, U+FEFF) and the Mongolian vowel separator U+180E are none.

  Main results:
    * `trimEnd_append_blank` — blanks at the end of a text do not matter.
    * `trimEnd_trimEnd` — trimming twice is trimming once.
-/
import TapReport.Text.Basic

namespace TapReport.Text

/-! ## §1. The class. -/

/-- White space of Unicode, and the information separators. -/
def isBlank (c : Char) : Bool :=
  let n := c.toNat
  (9 ≤ n && n ≤ 13) || (28 ≤ n && n ≤ 32) || n == 0x85 || n == 0xA0 || n == 0x1680
    || (0x2000 ≤ n && n ≤ 0x200A) || n == 0x2028 || n == 0x2029 || n == 0x202F
    || n == 0x205F || n == 0x3000

/-! ## §2. Trimming. -/

/-- The text without the blanks at its end. -/
def trimEnd (t : Text) : Text :=
  (t.reverse.dropWhile isBlank).reverse

/-- A blank at the end does not matter. -/
theorem trimEnd_append_blank {c : Char} (hc : isBlank c) (t : Text) :
    trimEnd (t ++ [c]) = trimEnd t := by
  simp [trimEnd, hc]

/-- Nothing is cut from a text that ends with no blank. -/
theorem trimEnd_append {c : Char} (hc : isBlank c = false) (t : Text) :
    trimEnd (t ++ [c]) = t ++ [c] := by
  simp [trimEnd, hc]

/-- What is dropped once is gone. -/
theorem dropWhile_dropWhile (p : Char → Bool) (t : Text) :
    (t.dropWhile p).dropWhile p = t.dropWhile p := by
  induction t with
  | nil => rfl
  | cons c t ih => by_cases h : p c <;> simp [h, ih]

/-- Trimming twice is trimming once. -/
theorem trimEnd_trimEnd (t : Text) : trimEnd (trimEnd t) = trimEnd t := by
  simp [trimEnd, dropWhile_dropWhile]

end TapReport.Text
