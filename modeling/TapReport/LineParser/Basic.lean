/-
  TapReport.LineParser.Basic
  ──────────────────────────
  **PARSERS OF LINES, AND HOW THEY COMPOSE.**

  A line parser looks at the lines from a cursor on.  It either *matches*,
  with a token and the cursor after what it read, or *mismatches*, with a
  reason and the place where reading could not go on — which need not be
  the place where it started.  Faults are neither: they end everything.

  Main results:
    * `succeed_bind`, `bind_assoc` — how parsers go on, one after another.
    * `map_eq_bind` — mapping a token is binding a constant success.
-/
import TapReport.Cursor
import TapReport.Mismatch

namespace TapReport

/-! ## §1. Outcomes. -/

/-- What a parser found at a cursor. -/
inductive Outcome (α : Type) where
  /-- It read a token, and `next` is the cursor after it. -/
  | matched (token : α) (next : Cursor)
  /-- It could not go on at `place`. -/
  | mismatched (reason : Mismatch) (place : Cursor)
  deriving Repr

namespace Outcome

variable {α β : Type}

/-- Whether a token was read. -/
def isMatch : Outcome α → Bool
  | .matched _ _ => true
  | .mismatched _ _ => false

/-- Where the parser left off. -/
def cursor : Outcome α → Cursor
  | .matched _ next => next
  | .mismatched _ place => place

/-- The same outcome with another token. -/
def map (f : α → β) : Outcome α → Outcome β
  | .matched a next => .matched (f a) next
  | .mismatched reason place => .mismatched reason place

end Outcome

/-- How a mismatch is reported: line, column and message. -/
def Mismatch.report (reason : Mismatch) (place : Cursor) : Text :=
  Text.ofNat place.line ++ [':'] ++ Text.ofInt place.reportedColumn ++ ": ".toList
    ++ reason.message

/-! ## §2. Parsers. -/

/-- A recogniser of the lines at a cursor. -/
def LineParser (α : Type) : Type :=
  Cursor → Except Fault (Outcome α)

namespace LineParser

variable {α β γ : Type}

/-- Matches without reading. -/
def succeed (a : α) : LineParser α := fun c =>
  .ok (.matched a c)

/-- Mismatches without reading. -/
def refuse (reason : Mismatch) : LineParser α := fun c =>
  .ok (.mismatched reason c)

/-- Ends with a fault. -/
def fault (e : Fault) : LineParser α := fun _ =>
  .error e

/-- Goes on after a match with a parser chosen by the token. -/
def bind (p : LineParser α) (f : α → LineParser β) : LineParser β := fun c =>
  match p c with
  | .error e => .error e
  | .ok (.mismatched reason place) => .ok (.mismatched reason place)
  | .ok (.matched a next) => f a next

/-- Changes the token of a match. -/
def map (f : α → β) (p : LineParser α) : LineParser β := fun c =>
  (p c).map (Outcome.map f)

/-- To go on from what matches without reading is to go on from its token. -/
theorem succeed_bind (a : α) (f : α → LineParser β) : bind (succeed a) f = f a := rfl

/-- It makes no difference which two of three parsers are joined first. -/
theorem bind_assoc (p : LineParser α) (f : α → LineParser β) (g : β → LineParser γ) :
    bind (bind p f) g = bind p fun a => bind (f a) g := by
  funext c
  unfold bind
  cases p c with
  | error e => rfl
  | ok o => cases o <;> rfl

/-- Changing a token is going on with a parser that reads nothing. -/
theorem map_eq_bind (f : α → β) (p : LineParser α) :
    map f p = bind p fun a => succeed (f a) := by
  funext c
  unfold map bind succeed
  cases p c with
  | error e => rfl
  | ok o => cases o <;> rfl

/-! ## §3. Combining parsers. -/

/-- Runs parsers one after another, each from where the one before left off;
the first mismatch is the mismatch of all. -/
def inOrder : List (LineParser α) → LineParser (List α)
  | [] => succeed []
  | p :: ps => p.bind fun a => (inOrder ps).map (a :: ·)

/-- Tries parsers from the same cursor and takes the first match.  If there
is none, the reasons are dropped for one that names the `label`. -/
def firstOf (label : Text) : List (LineParser α) → LineParser α
  | [] => refuse (.noAlternative label)
  | p :: ps => fun c =>
    match p c with
    | .ok (.mismatched _ _) => firstOf label ps c
    | other => other

/-- Why a repetition came to an end. -/
inductive Stop where
  /-- No line was left in view. -/
  | atEnd
  /-- As many tokens were read as were allowed. -/
  | limitReached
  /-- The repeated parser did not match. -/
  | mismatched (reason : Mismatch)
  deriving DecidableEq, Repr

/-- The tokens of a repetition, and why there are not more. -/
structure Repeated (α : Type) where
  /-- The tokens, in order. -/
  items : List α
  /-- Why the repetition ended. -/
  stop : Stop
  deriving DecidableEq, Repr

/-- Repeats a parser while lines are in view, at most `limit` times.  It
always matches; where the repeated parser mismatches, reading goes on at the
place of that mismatch. -/
def many (limit : Int) (p : LineParser α) : LineParser (Repeated α) := fun c =>
  loop limit.toNat c []
where
  /-- At most `n` more tokens; `found` holds the earlier ones, the latest
  first. -/
  loop : Nat → Cursor → List α → Except Fault (Outcome (Repeated α))
    | n, c, found =>
      match c.peek with
      | .error e => .error e
      | .ok none => .ok (.matched ⟨found.reverse, .atEnd⟩ c)
      | .ok (some _) =>
        match n with
        | 0 => .ok (.matched ⟨found.reverse, .limitReached⟩ c)
        | n + 1 =>
          match p c with
          | .error e => .error e
          | .ok (.mismatched reason place) =>
            .ok (.matched ⟨found.reverse, .mismatched reason⟩ place)
          | .ok (.matched a next) => loop n next (a :: found)

/-- Runs a parser inside a scope indented by `k`, and leaves the scope after
a match. -/
def within (k : Int) (p : LineParser α) : LineParser α := fun c =>
  match c.enter k with
  | .error e => .error e
  | .ok inner =>
    match p inner with
    | .ok (.matched a next) => .ok (.matched a next.leave)
    | other => other

/-- Reads one line that `form` recognises. -/
def line (form : Line → Option α) (reason : Mismatch) : LineParser α := fun c =>
  match c.peek with
  | .error e => .error e
  | .ok seen =>
    match seen.bind form with
    | none => .ok (.mismatched reason c)
    | some a => .ok (.matched a c.next)

end LineParser

end TapReport
