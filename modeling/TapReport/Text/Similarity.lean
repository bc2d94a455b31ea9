/-
  TapReport.Text.Similarity
  ─────────────────────────
  **HOW MUCH TWO TEXTS HAVE IN COMMON.**

  What two texts have in common is counted by runs: the longest run of
  characters that stands in both, then in the same way what stands before
  it in both and what stands after it in both.  Of runs equally long the one
  that begins first in the first text counts, and of those the one that
  begins first in the second.  Two texts are close if at least three fifths
  of their characters are in common; by this a mistyped name finds the one
  that was meant.

  Main definitions: `longestRun`, `common`, `closest`.
-/
import TapReport.Text.Basic

namespace TapReport.Text

/-! ## §1. The longest run in common. -/

/-- A run of characters that stands in two texts. -/
structure CommonRun where
  /-- Where it begins in the first text. -/
  first : Nat
  /-- Where it begins in the second text. -/
  second : Nat
  /-- How many characters it has. -/
  length : Nat
  deriving DecidableEq, Repr

namespace CommonRun

/-- The longer of two runs, the former of two equally long. -/
def longer (r s : CommonRun) : CommonRun :=
  if r.length < s.length then s else r

end CommonRun

/-- With how many equal characters two texts begin. -/
def equalLead : (s t : Text) → Nat
  | c :: s, d :: t => if c = d then equalLead s t + 1 else 0
  | _, _ => 0

/-- The longest run that `s` begins with and that stands in `t`; the texts
are what is left of longer ones after `i` and `j` characters. -/
def longestLead (i : Nat) (s : Text) : (j : Nat) → (t : Text) → CommonRun
  | j, [] => ⟨i, j, 0⟩
  | j, d :: t => (CommonRun.mk i j (equalLead s (d :: t))).longer (longestLead i s (j + 1) t)

/-- The longest run in common of what is left of a text after `i` characters
and a text. -/
def longestRunFrom (t : Text) : (i : Nat) → (s : Text) → CommonRun
  | i, [] => ⟨i, 0, 0⟩
  | i, c :: s => (longestLead i (c :: s) 0 t).longer (longestRunFrom t (i + 1) s)

/-- The longest run in common of two texts. -/
def longestRun (s t : Text) : CommonRun :=
  longestRunFrom t 0 s

/-! ## §2. How much is in common. -/

/-- How many characters two texts have in common, in at most `n` steps from a
run to what stands around it. -/
def commonWithin : (n : Nat) → (s t : Text) → Nat
  | 0, _, _ => 0
  | n + 1, s, t =>
    let run := longestRun s t
    if run.length = 0 then 0
    else
      commonWithin n (s.take run.first) (t.take run.second) + run.length
        + commonWithin n (s.drop (run.first + run.length)) (t.drop (run.second + run.length))

/-- How many characters two texts have in common. -/
def common (s t : Text) : Nat :=
  commonWithin s.length s t

/-! ## §3. The closest names. -/

/-- Whether at least three fifths of the characters of two texts are in
common.  Texts whose lengths alone rule that out are not compared. -/
def isClose (s t : Text) : Bool :=
  3 * (s.length + t.length) ≤ 10 * min s.length t.length
    && 3 * (s.length + t.length) ≤ 10 * common s t

/-- Whether `r` has with `t` at least as great a share in common as `s`
has. -/
def asClose (t r s : Text) : Bool :=
  common s t * (r.length + t.length) ≤ common r t * (s.length + t.length)

/-- The `n` names that are closest to a text, in order; of names equally
close the later ones. -/
def closest (n : Nat) (names : List Text) (t : Text) : List Text :=
  let close := names.filter (isClose · t)
  close.filter ((close.reverse.mergeSort (asClose t)).take n).contains

end TapReport.Text
