/-
  TapReport.Data.Json
  ───────────────────
  **JSON TREES AND THEIR TEXT.**

  The text of a tree is laid out with one entry or item per line and two
  blanks per level, and is pure ASCII: any other character is written as an
  escape of its UTF-16 units.

  Main results:
    * `escapeChar_isAscii` — every character is written in printable ASCII.
    * `render_array_nil`, `render_object_nil` — empty containers stay on
      one line.
-/
import TapReport.Text.Numeral

namespace TapReport

/-- A JSON tree; the entries of an object are in the order of writing. -/
inductive Json where
  /-- Nothing. -/
  | null
  /-- A truth value. -/
  | bool (b : Bool)
  /-- An integer. -/
  | int (n : Int)
  /-- A text. -/
  | text (t : Text)
  /-- A list. -/
  | array (items : List Json)
  /-- Named trees. -/
  | object (entries : List (Text × Json))

namespace Json

/-! ## §1. Texts. -/

/-- The escape of one UTF-16 unit. -/
def escapeUnit (n : Nat) : Text :=
  '\\' :: 'u' :: Text.ofHex 4 n

/-- How a character is written inside quotes. -/
def escapeChar (c : Char) : Text :=
  if c = '"' then ['\\', '"']
  else if c = '\\' then ['\\', '\\']
  else if c = '\n' then ['\\', 'n']
  else if c = '\r' then ['\\', 'r']
  else if c = '\t' then ['\\', 't']
  else if c.toNat = 12 then ['\\', 'f']
  else if c.toNat = 8 then ['\\', 'b']
  else if 32 ≤ c.toNat ∧ c.toNat < 127 then [c]
  else if c.toNat < 0x10000 then escapeUnit c.toNat
  else
    escapeUnit (0xD800 + (c.toNat - 0x10000) / 0x400)
      ++ escapeUnit (0xDC00 + (c.toNat - 0x10000) % 0x400)

/-- A text in quotes. -/
def quote (t : Text) : Text :=
  '"' :: t.flatMap escapeChar ++ ['"']

/-- The printable characters of ASCII. -/
def isPrintable (c : Char) : Bool :=
  32 ≤ c.toNat && c.toNat < 127

/-- Hexadecimal digits are printable ASCII. -/
theorem ofHex_isPrintable (width n : Nat) : ∀ c ∈ Text.ofHex width n, isPrintable c := by
  have h : ∀ d < 16, isPrintable (Nat.digitChar d) := by decide
  induction width generalizing n with
  | zero => simp [Text.ofHex]
  | succ width ih =>
    intro c hc
    rcases List.mem_append.mp hc with hc | hc
    · exact ih (n / 16) c hc
    · rw [List.mem_singleton.mp hc]
      exact h _ (Nat.mod_lt _ (by decide))

/-- So is the escape of a code unit. -/
theorem escapeUnit_isPrintable (n : Nat) : ∀ c ∈ escapeUnit n, isPrintable c := by
  intro c hc
  rcases List.mem_cons.mp hc with rfl | hc
  · decide
  rcases List.mem_cons.mp hc with rfl | hc
  · decide
  exact ofHex_isPrintable 4 n c hc

/-- A character is written in printable ASCII, whatever it is. -/
theorem escapeChar_isAscii (c : Char) : ∀ d ∈ escapeChar c, isPrintable d := by
  unfold escapeChar
  iterate 7
    split
    · simp [isPrintable]
  split
  · next h =>
    intro d hd
    rw [List.mem_singleton.mp hd]
    simpa [isPrintable] using h
  split
  · exact escapeUnit_isPrintable _
  · intro d hd
    rcases List.mem_append.mp hd with hd | hd
    · exact escapeUnit_isPrintable _ d hd
    · exact escapeUnit_isPrintable _ d hd

/-! ## §2. Trees. -/

/-- The start of a new line at a depth. -/
def newLine (depth : Nat) : Text :=
  '\n' :: List.replicate (2 * depth) ' '

mutual

/-- The text of a tree that stands at a depth. -/
def render (depth : Nat) : Json → Text
  | .null => "null".toList
  | .bool true => "true".toList
  | .bool false => "false".toList
  | .int n => Text.ofInt n
  | .text t => quote t
  | .array [] => "[]".toList
  | .array (item :: items) =>
    '[' :: newLine (depth + 1) ++ render (depth + 1) item ++ renderItems (depth + 1) items
      ++ newLine depth ++ [']']
  | .object [] => ['\x7b', '\x7d']
  | .object ((key, tree) :: entries) =>
    '\x7b' :: newLine (depth + 1) ++ quote key ++ ": ".toList ++ render (depth + 1) tree
      ++ renderEntries (depth + 1) entries ++ newLine depth ++ ['\x7d']

/-- The text of the further items of a list. -/
def renderItems (depth : Nat) : List Json → Text
  | [] => []
  | item :: items => ',' :: newLine depth ++ render depth item ++ renderItems depth items

/-- The text of the further entries of an object. -/
def renderEntries (depth : Nat) : List (Text × Json) → Text
  | [] => []
  | (key, tree) :: entries =>
    ',' :: newLine depth ++ quote key ++ ": ".toList ++ render depth tree
      ++ renderEntries depth entries

end

/-- The text of a tree. -/
def toText (tree : Json) : Text :=
  tree.render 0

@[simp] theorem render_array_nil (depth : Nat) : render depth (.array []) = "[]".toList := by
  simp [render]

@[simp] theorem render_object_nil (depth : Nat) :
    render depth (.object []) = ['\x7b', '\x7d'] := by
  simp [render]

end Json

end TapReport
