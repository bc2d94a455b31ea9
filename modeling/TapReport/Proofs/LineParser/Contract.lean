/-
  TapReport.Proofs.LineParser.Contract
  ────────────────────────────────────
  **WHAT IS PROMISED OF EVERY PARSER.**

  A contract says, for a parser that starts at some cursor, where a match may
  leave off, where a mismatch may be reported and which faults may come up.
  It is lawful if looking at lines, going on, entering a scope and leaving it
  keep it; what lawful contracts have in common is that every parser that is
  made in the ways of `LineParser.Made` fulfils them.  So the loops of the
  combinators are gone through once, here, and not once for each property.

  Main results:
    * `Contract.holds_of_made`, `Contract.holds_of_made_of_imp` — a lawful
      contract holds of every parser.
    * `Contract.holds_loop`, `Contract.allows_rest` — the two loops.
-/
import TapReport.Proofs.LineParser.Grammar

namespace TapReport

/-- What is promised of a parser, by the cursor where it starts. -/
structure Contract where
  /-- Where a match may leave off. -/
  matched : Cursor → Cursor → Prop
  /-- Where a mismatch may be reported. -/
  mismatched : Cursor → Cursor → Prop
  /-- Which faults may come up. -/
  fault : Cursor → Fault → Prop

namespace Contract

/-- The results that a contract allows of a parser that starts at `c`. -/
def Allows {α : Type} (K : Contract) (c : Cursor) : Except Fault (Outcome α) → Prop
  | .ok (.matched _ next) => K.matched c next
  | .ok (.mismatched _ place) => K.mismatched c place
  | .error e => K.fault c e

/-- A parser fulfils a contract if all its results are allowed. -/
def Holds {α : Type} (K : Contract) (p : LineParser α) : Prop :=
  ∀ c, K.Allows c (p c)

/-- The laws of a contract, where scopes of the indentations `I` are entered. -/
structure Lawful (K : Contract) (I : Int → Prop) : Prop where
  /-- A match may stay where it is. -/
  matched_refl : ∀ c, K.matched c c
  /-- A mismatch may be reported where it is. -/
  mismatched_refl : ∀ c, K.mismatched c c
  /-- A match may go on by a line that is in view. -/
  next : ∀ {c line}, c.peek = .ok (some line) → K.matched c c.next
  /-- Looking may go wrong. -/
  peek : ∀ {c e}, c.peek = .error e → K.fault c e
  /-- A value may be out of range. -/
  blames : ∀ {c e}, e.blamesValue = true → K.fault c e
  /-- A match may follow a match. -/
  matched_trans : ∀ {c d next}, K.matched c d → K.matched d next → K.matched c next
  /-- A mismatch may follow a match. -/
  mismatched_trans : ∀ {c d place}, K.matched c d → K.mismatched d place → K.mismatched c place
  /-- A fault may follow a match. -/
  fault_trans : ∀ {c d e}, K.matched c d → K.fault d e → K.fault c e
  /-- After a match the scope may be left. -/
  leave : ∀ {c next} {k : Nat}, I k → K.matched (c.inside k) next → K.matched c next.leave
  /-- After a mismatch the scope may be kept. -/
  mismatched_inside : ∀ {c place} {k : Nat}, I k → K.mismatched (c.inside k) place →
    K.mismatched c place
  /-- A fault may come up in the scope. -/
  fault_inside : ∀ {c e} {k : Nat}, I k → K.fault (c.inside k) e → K.fault c e

variable {K : Contract} {I : Int → Prop} {α β : Type}

/-! ## §1. Going on, choosing, entering scopes. -/

theorem holds_bind (hK : K.Lawful I) {p : LineParser α} {f : α → LineParser β} (hp : K.Holds p)
    (hf : ∀ a, K.Holds (f a)) : K.Holds (p.bind f) := by
  intro c
  have hc := hp c
  cases hrun : p c with
  | error e =>
    rw [hrun] at hc
    rw [LineParser.bind_of_error hrun]
    exact hc
  | ok o =>
    cases o with
    | mismatched reason place =>
      rw [hrun] at hc
      rw [LineParser.bind_of_mismatched hrun]
      exact hc
    | matched a next =>
      rw [hrun] at hc
      have hc : K.matched c next := hc
      have hnext := hf a next
      rw [LineParser.bind_of_matched hrun]
      -- what is allowed after the match is allowed from the beginning
      cases hrest : f a next with
      | error e => rw [hrest] at hnext; exact hK.fault_trans hc hnext
      | ok o =>
        cases o with
        | matched b last => rw [hrest] at hnext; exact hK.matched_trans hc hnext
        | mismatched reason place => rw [hrest] at hnext; exact hK.mismatched_trans hc hnext

theorem holds_firstOf (hK : K.Lawful I) (label : Text) {ps : List (LineParser α)}
    (h : ∀ p ∈ ps, K.Holds p) : K.Holds (LineParser.firstOf label ps) := by
  induction ps with
  | nil => exact hK.mismatched_refl
  | cons p ps ih =>
    intro c
    have hc := h p List.mem_cons_self c
    cases hrun : p c with
    | error e =>
      rw [hrun] at hc
      rw [LineParser.firstOf_cons_of_error hrun]
      exact hc
    | ok o =>
      cases o with
      | matched a next =>
        rw [hrun] at hc
        rw [LineParser.firstOf_cons_of_matched hrun]
        exact hc
      | mismatched reason place =>
        rw [LineParser.firstOf_cons_of_mismatched hrun]
        exact ih (fun q hq => h q (List.mem_cons_of_mem p hq)) c

theorem holds_within (hK : K.Lawful I) {k : Int} (hI : I k) {p : LineParser α} (hp : K.Holds p) :
    K.Holds (LineParser.within k p) := by
  intro c
  by_cases hk : 0 ≤ k
  · have hI : I (k.toNat : Int) := by rwa [Int.toNat_of_nonneg hk]
    have hc := hp (c.inside k.toNat)
    cases hrun : p (c.inside k.toNat) with
    | error e =>
      rw [hrun] at hc
      rw [LineParser.within_of_error hk hrun]
      exact hK.fault_inside hI hc
    | ok o =>
      cases o with
      | matched a next =>
        rw [hrun] at hc
        rw [LineParser.within_of_matched hk hrun]
        exact hK.leave hI hc
      | mismatched reason place =>
        rw [hrun] at hc
        rw [LineParser.within_of_mismatched hk hrun]
        exact hK.mismatched_inside hI hc
  · -- a scope of negative indentation is a fault
    have henter : c.enter k = .error (.negativeIndent k) := if_pos (by omega)
    unfold LineParser.within
    rw [henter]
    exact hK.blames rfl

/-! ## §2. One line. -/

theorem holds_line (hK : K.Lawful I) (form : Line → Option α) (reason : Mismatch) :
    K.Holds (LineParser.line form reason) := by
  intro c
  unfold LineParser.line
  cases hpeek : c.peek with
  | error e => exact hK.peek hpeek
  | ok seen =>
    cases hform : seen.bind form with
    | none => simp only [hform]; exact hK.mismatched_refl c
    | some a =>
      obtain ⟨line, rfl, -⟩ := Option.bind_eq_some_iff.mp hform
      simp only [hform]
      exact hK.next hpeek

/-! ## §3. The two loops. -/

/-- **The search for the end of a block** keeps a contract. -/
theorem allows_rest (hK : K.Lawful I) (n : Nat) (c : Cursor) (found : List Line) :
    match Block.rest n c found with
    | .ok (some (_, next)) => K.matched c next
    | .ok none => True
    | .error e => K.fault c e := by
  -- induction on the lines that may still be looked at
  induction n generalizing c found with
  | zero => trivial
  | succ n ih =>
    rw [Block.rest]
    cases hpeek : c.peek with
    | error e => exact hK.peek hpeek
    | ok seen =>
      cases seen with
      | none => trivial
      | some line =>
        have hnext : K.matched c c.next := hK.next hpeek
        by_cases hclose : line = Block.closing
        · simp only [if_pos hclose]
          exact hnext
        · have hrest := ih c.next (line :: found)
          simp only [if_neg hclose]
          cases hrun : Block.rest n c.next (line :: found) with
          | error e => rw [hrun] at hrest; exact hK.fault_trans hnext hrest
          | ok found =>
            cases found with
            | none => trivial
            | some result => rw [hrun] at hrest; exact hK.matched_trans hnext hrest

theorem room_blames {limit : Int} {e : Fault} (h : Block.room limit = .error e) :
    e.blamesValue = true := by
  unfold Block.room at h
  split at h
  · exact absurd h (by simp)
  · split at h <;> (obtain rfl := Except.error.inj h; rfl)

theorem holds_block (hK : K.Lawful I) (limit : Int) : K.Holds (Block.read limit) := by
  intro c
  unfold Block.read
  cases hpeek : c.peek with
  | error e => exact hK.peek hpeek
  | ok seen =>
    by_cases hopen : seen = some Block.opening
    · have hnext : K.matched c c.next := hK.next (hopen ▸ hpeek)
      simp only [if_pos hopen]
      cases hroom : Block.room limit with
      | error e => exact hK.blames (room_blames hroom)
      | ok n =>
        have hrest := allows_rest hK n c.next []
        simp only
        cases hrun : Block.rest n c.next [] with
        | error e => rw [hrun] at hrest; exact hK.fault_trans hnext hrest
        | ok found =>
          cases found with
          | none => exact hK.mismatched_refl c
          | some result => rw [hrun] at hrest; exact hK.matched_trans hnext hrest
    · simp only [if_neg hopen]
      exact hK.mismatched_refl c

/-- **A repetition** keeps a contract, if it may go on where the repeated
parser mismatches. -/
theorem holds_loop (hK : K.Lawful I) {p : LineParser α} (hp : K.Holds p)
    (hgo : ∀ c line reason place, c.peek = .ok (some line) →
      p c = .ok (.mismatched reason place) → K.matched c place)
    (n : Nat) (c : Cursor) (found : List α) : K.Allows c (LineParser.many.loop p n c found) := by
  -- induction on the tokens that may still be read
  induction n generalizing c found with
  | zero =>
    rw [LineParser.many.loop]
    cases hpeek : c.peek with
    | error e => exact hK.peek hpeek
    | ok seen => cases seen <;> exact hK.matched_refl c
  | succ n ih =>
    rw [LineParser.many.loop]
    cases hpeek : c.peek with
    | error e => exact hK.peek hpeek
    | ok seen =>
      cases seen with
      | none => exact hK.matched_refl c
      | some line =>
        have hc := hp c
        simp only
        cases hrun : p c with
        | error e => rw [hrun] at hc; exact hc
        | ok o =>
          cases o with
          | mismatched reason place => exact hgo c line reason place hpeek hrun
          | matched a next =>
            rw [hrun] at hc
            have hc : K.matched c next := hc
            have hrest := ih next (a :: found)
            simp only
            cases hloop : LineParser.many.loop p n next (a :: found) with
            | error e => rw [hloop] at hrest; exact hK.fault_trans hc hrest
            | ok o =>
              cases o with
              | matched r last => rw [hloop] at hrest; exact hK.matched_trans hc hrest
              | mismatched reason place =>
                rw [hloop] at hrest
                exact hK.mismatched_trans hc hrest

/-! ## §4. Every parser. -/

/-- **A lawful contract holds of every parser**, if the parsers that are
repeated mismatch only where a match may leave off. -/
theorem holds_of_made (hK : K.Lawful I) {R : ⦃α : Type⦄ → LineParser α → Prop}
    (hR : ∀ ⦃α : Type⦄ (p : LineParser α), R p → K.Holds p → ∀ c line reason place,
      c.peek = .ok (some line) → p c = .ok (.mismatched reason place) → K.matched c place)
    {p : LineParser α} (h : LineParser.Made R I p) : K.Holds p := by
  induction h with
  | succeed a => exact hK.matched_refl
  | refuse reason => exact hK.mismatched_refl
  | fault e blames => exact fun c => hK.blames blames
  | line form reason => exact holds_line hK form reason
  | block limit => exact holds_block hK limit
  | bind hp hf ihp ihf => exact holds_bind hK ihp ihf
  | firstOf label h ih => exact holds_firstOf hK label ih
  | many limit hp hrep ih => exact fun c => holds_loop hK ih (hR _ hrep ih) limit.toNat c []
  | within k hI hp ih => exact holds_within hK hI ih

/-- Where a match may leave off at all places of a mismatch, nothing is asked
of the parsers that are repeated. -/
theorem holds_of_made_of_imp (hK : K.Lawful I) (himp : ∀ c d, K.mismatched c d → K.matched c d)
    {R : ⦃α : Type⦄ → LineParser α → Prop} {p : LineParser α} (h : LineParser.Made R I p) :
    K.Holds p := by
  refine holds_of_made hK ?_ h
  intro β q _ hq c line reason place _ hrun
  have hc := hq c
  rw [hrun] at hc
  exact himp c place hc

end Contract

end TapReport
