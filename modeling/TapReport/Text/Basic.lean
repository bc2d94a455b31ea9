/-
  TapReport.Text.Basic
  ────────────────────
  **TEXT AS A LIST OF CHARACTERS, AND HOW IT FALLS INTO LINES.**

  Every recogniser of this library walks a line from its first character
  on, so a line is the list of its characters.  `cutLines` splits a text at
  its newlines into the complete lines and the rest that no newline has
  ended yet; a reader that receives its text in pieces keeps that rest and
  puts it before the next piece.

  Main results:
    * `cutLines_nil`, `cutLines_newline`, `cutLines_cons` — one equation per
      way a text can begin.
    * `join_cutLines` — the lines, each with its newline, and the rest are
      the text.
    * `newline_notMem_rest_cutLines` — the rest holds no newline.
-/

namespace TapReport

/-- A text: its characters in order. -/
abbrev Text := List Char

/-- One line of a report, without the newline that ended it. -/
abbrev Line := Text

namespace Text

/-! ## §1. Cutting at newlines. -/

/-- Puts one more character in front of a text that is already cut. -/
def cutBefore (c : Char) : List Line × Text → List Line × Text
  | (lines, rest) =>
    if c = '\n' then ([] :: lines, rest)
    else match lines with
      | [] => ([], c :: rest)
      | line :: lines => ((c :: line) :: lines, rest)

/-- The lines of a text that a newline ends, and the text after the last
newline. -/
def cutLines (t : Text) : List Line × Text :=
  t.foldr cutBefore ([], [])

@[simp] theorem cutLines_nil : cutLines [] = ([], []) := rfl

/-- A newline ends a line. -/
@[simp] theorem cutLines_newline (t : Text) :
    cutLines ('\n' :: t) = ([] :: (cutLines t).1, (cutLines t).2) := by
  simp [cutLines, cutBefore]

/-- Any other character belongs to the line that follows, complete or not. -/
theorem cutLines_cons {c : Char} (hc : c ≠ '\n') (t : Text) :
    cutLines (c :: t) = match (cutLines t).1 with
      | [] => ([], c :: (cutLines t).2)
      | line :: lines => ((c :: line) :: lines, (cutLines t).2) := by
  simp [cutLines, cutBefore, hc]

/-- Cutting loses nothing: the lines, each ended by its newline, followed by
the rest are the text. -/
theorem join_cutLines (t : Text) :
    (cutLines t).1.flatMap (· ++ ['\n']) ++ (cutLines t).2 = t := by
  induction t with
  | nil => rfl
  | cons c t ih =>
    by_cases hc : c = '\n'
    · subst hc; simpa using ih
    · rw [cutLines_cons hc]
      cases h : (cutLines t).1 with
      | nil => simpa [h] using ih
      | cons line lines => simpa [h] using ih

/-- What follows the last newline holds none. -/
theorem newline_notMem_rest_cutLines (t : Text) : '\n' ∉ (cutLines t).2 := by
  induction t with
  | nil => simp
  | cons c t ih =>
    by_cases hc : c = '\n'
    · subst hc; simpa using ih
    · rw [cutLines_cons hc]
      cases h : (cutLines t).1 with
      | nil => simp [ih, Ne.symm hc]
      | cons line lines => simpa using ih

/-! ## §2. Small operations on texts. -/

/-- What follows `lead`, if the text begins with it. -/
def after? : (lead t : Text) → Option Text
  | [], t => some t
  | c :: lead, d :: t => if c = d then after? lead t else none
  | _ :: _, [] => none

/-- A text begins with a lead exactly if it is the lead and something after it. -/
theorem after?_eq_some_iff {lead t rest : Text} : after? lead t = some rest ↔ t = lead ++ rest := by
  induction lead generalizing t with
  | nil => simp [after?]
  | cons c lead ih =>
    cases t with
    | nil => simp [after?]
    | cons d t =>
      by_cases h : c = d
      · simp [after?, h, ih]
      · simp [after?, h, Ne.symm h]

/-- The texts joined by a separator. -/
def joinWith (separator : Text) : List Text → Text
  | [] => []
  | [t] => t
  | t :: ts => t ++ separator ++ joinWith separator ts

end Text

end TapReport
