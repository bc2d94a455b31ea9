/-
  TapReport.Text.Quoted
  ─────────────────────
  **A TEXT IN QUOTES, AS MESSAGES SHOW IT.**

  A message that names a path or an argument puts it in single quotes, or
  in double quotes if it holds single ones only.  The quote and the
  backslash are escaped by a backslash; what is not printable is written as
  an escape.

  Main definition: `quoted`.
-/
import TapReport.Text.Numeral
import TapReport.Text.Printable

namespace TapReport.Text

/-- The quote that a text is put in. -/
def quoteFor (t : Text) : Char :=
  if t.contains '\'' && !t.contains '"' then '"' else '\''

/-- How a character is written between two `quote`s. -/
def quotedChar (quote c : Char) : Text :=
  if c = quote || c = '\\' then ['\\', c]
  else if c = '\t' then ['\\', 't']
  else if c = '\n' then ['\\', 'n']
  else if c = '\r' then ['\\', 'r']
  else if isPrintable c then [c]
  else if c.toNat < 0x100 then '\\' :: 'x' :: ofHex 2 c.toNat
  else if c.toNat < 0x10000 then '\\' :: 'u' :: ofHex 4 c.toNat
  else '\\' :: 'U' :: ofHex 8 c.toNat

/-- A text in quotes. -/
def quoted (t : Text) : Text :=
  quoteFor t :: t.flatMap (quotedChar (quoteFor t)) ++ [quoteFor t]

end TapReport.Text
