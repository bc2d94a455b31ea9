/-
  TapReport.Text.ControlSequence
  ──────────────────────────────
  **TEXT WITHOUT THE CONTROL SEQUENCES OF A TERMINAL.**

  A terminal takes the escape character and an opening bracket as the
  beginning of a control sequence: after them stand parameters, then
  intermediate characters, any number of both, and one final character,
  each from a range of its own (ECMA-48).  Text that does not go to a
  terminal is written without them.  They are looked for once, from left to
  right: what only becomes a control sequence when another one is left out
  stays.

  Main definition: `withoutControlSequences`.
-/
import TapReport.Text.Basic

namespace TapReport.Text

/-! ## §1. One control sequence. -/

/-- The escape character. -/
def escape : Char := Char.ofNat 27

/-- What changes the colour of a terminal: parameters between the beginning of a
control sequence and an `m`. -/
def colourCode (parameters : Text) : Text :=
  escape :: '[' :: (parameters ++ ['m'])

/-- A character of the parameters: from `0` to `?`. -/
def isParameter (c : Char) : Bool :=
  0x30 ≤ c.toNat && c.toNat ≤ 0x3F

/-- An intermediate character: from the space to `/`. -/
def isIntermediate (c : Char) : Bool :=
  0x20 ≤ c.toNat && c.toNat ≤ 0x2F

/-- A character that ends a control sequence: from `@` to `~`. -/
def isFinal (c : Char) : Bool :=
  0x40 ≤ c.toNat && c.toNat ≤ 0x7E

/-- The length of what follows the bracket of a control sequence, if it is
complete. -/
def sequenceBody? (t : Text) : Option Nat :=
  let parameters := t.takeWhile isParameter
  let intermediates := (t.dropWhile isParameter).takeWhile isIntermediate
  match (t.dropWhile isParameter).dropWhile isIntermediate with
  | c :: _ => if isFinal c then some (parameters.length + intermediates.length + 1) else none
  | [] => none

/-- The length of the control sequence that a text begins with, if it begins
with one. -/
def controlSequence? (t : Text) : Option Nat :=
  match t with
  | c :: '[' :: body => if c = escape then (sequenceBody? body).map (· + 2) else none
  | _ => none

/-- A control sequence begins with the escape character. -/
theorem controlSequence?_of_ne {c : Char} (h : c ≠ escape) (t : Text) :
    controlSequence? (c :: t) = none := by
  unfold controlSequence?
  split
  · next heq => cases heq; simp [h]
  · rfl

/-! ## §2. Leaving them out. -/

/-- The text without control sequences, after leaving out its first `n`
characters. -/
def withoutControlSequencesAfter : (n : Nat) → Text → Text
  | _, [] => []
  | n + 1, _ :: t => withoutControlSequencesAfter n t
  | 0, c :: t =>
    match controlSequence? (c :: t) with
    | none => c :: withoutControlSequencesAfter 0 t
    | some n => withoutControlSequencesAfter (n - 1) t

/-- The text without control sequences. -/
def withoutControlSequences (t : Text) : Text :=
  withoutControlSequencesAfter 0 t

end TapReport.Text
