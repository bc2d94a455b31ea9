/-
  TapReport.Proofs.LineParser.Simulation
  ──────────────────────────────────────
  **PARSERS LEARN OF A SOURCE ONLY BY LOOKING AT ITS LINES.**

  Two cursors may stand in different sources, at different lines and in
  different scopes, and still show the same lines on the way.  Then no parser
  can tell them apart: it finds the same tokens, mismatches for the same
  reason, or ends with the same fault, and leaves off at cursors that go on
  to show the same lines.

      Agree R            results that differ in their cursors only, by `R`
      Cursor.Simulates   a relation of cursors that show the same lines
      Respects R         a parser that cannot tell related cursors apart

  Main results:
    * `LineParser.Made.respects` — no parser tells them apart.
    * `Grammar.respects` — no grammar does.
-/
import TapReport.Proofs.LineParser.Scopes

namespace TapReport

/-! ## §1. Results that differ in their cursors only. -/

/-- Two results of the same kind: matches with the same token, mismatches for
the same reason, both at cursors that `R` relates, or the same fault. -/
inductive Agree {α : Type} (R : Cursor → Cursor → Prop) :
    Except Fault (Outcome α) → Except Fault (Outcome α) → Prop
  /-- Both match. -/
  | matched (a : α) {next next' : Cursor} (h : R next next') :
      Agree R (.ok (.matched a next)) (.ok (.matched a next'))
  /-- Both mismatch. -/
  | mismatched (reason : Mismatch) {place place' : Cursor} (h : R place place') :
      Agree R (.ok (.mismatched reason place)) (.ok (.mismatched reason place'))
  /-- Both end with a fault. -/
  | error (e : Fault) : Agree R (.error e) (.error e)

namespace Agree

theorem of_matched {α : Type} {R : Cursor → Cursor → Prop} {r : Except Fault (Outcome α)} {a : α}
    {next : Cursor} (h : Agree R (.ok (.matched a next)) r) :
    ∃ next', r = .ok (.matched a next') ∧ R next next' := by
  cases h with
  | matched _ hnext => exact ⟨_, rfl, hnext⟩

end Agree

/-- A relation of cursors that show the same lines, wherever reading goes on
to. -/
structure Cursor.Simulates (R : Cursor → Cursor → Prop) : Prop where
  /-- They show the same line. -/
  peek : ∀ {c d}, R c d → c.peek = d.peek
  /-- So they do after it. -/
  next : ∀ {c d line}, R c d → c.peek = .ok (some line) → R c.next d.next
  /-- And inside one more scope. -/
  inside : ∀ {c d}, R c d → ∀ k, R (c.inside k) (d.inside k)
  /-- And where a scope is left that was entered on the way. -/
  leave : ∀ {c d next next' k}, R c d → R next next' → (c.inside k).Reaches next →
    R next.leave next'.leave

/-- A parser that cannot tell related cursors apart. -/
def Respects {α : Type} (R : Cursor → Cursor → Prop) (p : LineParser α) : Prop :=
  ∀ c d, R c d → Agree R (p c) (p d)

/-! ## §2. The combinators. -/

namespace Cursor.Simulates

variable {R : Cursor → Cursor → Prop} {α β : Type}

theorem respects_bind {p : LineParser α} {f : α → LineParser β} (hp : Respects R p)
    (hf : ∀ a, Respects R (f a)) : Respects R (p.bind f) := by
  intro c d hcd
  have hrun := hp c d hcd
  unfold LineParser.bind
  generalize p c = r at hrun
  generalize p d = r' at hrun
  cases hrun with
  | matched a hnext => exact hf a _ _ hnext
  | mismatched reason hplace => exact .mismatched reason hplace
  | error e => exact .error e

theorem respects_firstOf (label : Text) {ps : List (LineParser α)} (h : ∀ p ∈ ps, Respects R p) :
    Respects R (LineParser.firstOf label ps) := by
  induction ps with
  | nil => exact fun c d hcd => .mismatched (.noAlternative label) hcd
  | cons p ps ih =>
    intro c d hcd
    have hrun := h p List.mem_cons_self c d hcd
    have hrest := ih (fun q hq => h q (List.mem_cons_of_mem p hq)) c d hcd
    simp only [LineParser.firstOf]
    generalize p c = r at hrun
    generalize p d = r' at hrun
    cases hrun with
    | matched a hnext => exact .matched a hnext
    | mismatched reason hplace => exact hrest
    | error e => exact .error e

/-- A scope that is entered is there to be left after a match, since the
parser inside loses none. -/
theorem respects_within (hR : Simulates R) (k : Int) {p : LineParser α} (hp : Respects R p)
    (hreach : ∀ {c a next}, p c = .ok (.matched a next) → c.Reaches next) :
    Respects R (LineParser.within k p) := by
  intro c d hcd
  by_cases hk : 0 ≤ k
  · have hrun := hp _ _ (hR.inside hcd k.toNat)
    have hmatched : ∀ {a next}, p (c.inside k.toNat) = .ok (.matched a next) →
        (c.inside k.toNat).Reaches next := hreach
    unfold LineParser.within
    rw [Cursor.enter_eq_inside hk, Cursor.enter_eq_inside hk]
    simp only
    generalize p (c.inside k.toNat) = r at hrun hmatched
    generalize p (d.inside k.toNat) = r' at hrun
    cases hrun with
    | matched a hnext => exact .matched a (hR.leave hcd hnext (hmatched rfl))
    | mismatched reason hplace => exact .mismatched reason hplace
    | error e => exact .error e
  · -- a scope of negative indentation is the same fault everywhere
    have henter : ∀ e : Cursor, e.enter k = .error (.negativeIndent k) :=
      fun _ => if_pos (by omega)
    unfold LineParser.within
    rw [henter, henter]
    exact .error _

theorem respects_line (hR : Simulates R) (form : Line → Option α) (reason : Mismatch) :
    Respects R (LineParser.line form reason) := by
  intro c d hcd
  unfold LineParser.line
  rw [← hR.peek hcd]
  cases hpeek : c.peek with
  | error e => exact .error e
  | ok seen =>
    cases hform : seen.bind form with
    | none => simp only [hform]; exact .mismatched reason hcd
    | some a =>
      obtain ⟨line, rfl, -⟩ := Option.bind_eq_some_iff.mp hform
      simp only [hform]
      exact .matched a (hR.next hcd hpeek)

/-! ## §3. The two loops. -/

/-- **The search for the end of a block** finds the same lines from related
cursors. -/
theorem rest_agrees (hR : Simulates R) (n : Nat) {c d : Cursor} (hcd : R c d)
    (found : List Line) :
    (∃ e, Block.rest n c found = .error e ∧ Block.rest n d found = .error e)
      ∨ (Block.rest n c found = .ok none ∧ Block.rest n d found = .ok none)
      ∨ ∃ lines next next', Block.rest n c found = .ok (some (lines, next))
          ∧ Block.rest n d found = .ok (some (lines, next')) ∧ R next next' := by
  -- induction on the lines that may still be looked at
  induction n generalizing c d found with
  | zero => exact .inr (.inl ⟨rfl, rfl⟩)
  | succ n ih =>
    rw [Block.rest, Block.rest, ← hR.peek hcd]
    cases hpeek : c.peek with
    | error e => exact .inl ⟨e, rfl, rfl⟩
    | ok seen =>
      cases seen with
      | none => exact .inr (.inl ⟨rfl, rfl⟩)
      | some line =>
        have hnext := hR.next hcd hpeek
        by_cases hclose : line = Block.closing
        · simp only [if_pos hclose]
          exact .inr (.inr ⟨_, _, _, rfl, rfl, hnext⟩)
        · simp only [if_neg hclose]
          exact ih hnext (line :: found)

theorem respects_block (hR : Simulates R) (limit : Int) : Respects R (Block.read limit) := by
  intro c d hcd
  unfold Block.read
  rw [← hR.peek hcd]
  cases hpeek : c.peek with
  | error e => exact .error e
  | ok seen =>
    by_cases hopen : seen = some Block.opening
    · have hnext : R c.next d.next := hR.next hcd (hopen ▸ hpeek)
      simp only [if_pos hopen]
      cases Block.room limit with
      | error e => exact .error e
      | ok n =>
        obtain ⟨e, hc, hd⟩ | ⟨hc, hd⟩ | ⟨lines, next, next', hc, hd, hlast⟩ :=
          rest_agrees hR n hnext []
        · simp only [hc, hd]; exact .error e
        · simp only [hc, hd]; exact .mismatched _ hcd
        · simp only [hc, hd]; exact .matched lines hlast
    · simp only [if_neg hopen]
      exact .mismatched _ hcd

/-- **A repetition** finds the same tokens from related cursors. -/
theorem loop_agrees (hR : Simulates R) {p : LineParser α} (hp : Respects R p) (n : Nat)
    {c d : Cursor} (hcd : R c d) (found : List α) :
    Agree R (LineParser.many.loop p n c found) (LineParser.many.loop p n d found) := by
  -- induction on the tokens that may still be read
  induction n generalizing c d found with
  | zero =>
    rw [LineParser.many.loop, LineParser.many.loop, ← hR.peek hcd]
    cases c.peek with
    | error e => exact .error e
    | ok seen => cases seen <;> exact .matched _ hcd
  | succ n ih =>
    rw [LineParser.many.loop, LineParser.many.loop, ← hR.peek hcd]
    cases c.peek with
    | error e => exact .error e
    | ok seen =>
      cases seen with
      | none => exact .matched _ hcd
      | some line =>
        have hrun := hp c d hcd
        simp only
        generalize p c = r at hrun
        generalize p d = r' at hrun
        cases hrun with
        | matched a hnext => exact ih hnext (a :: found)
        | mismatched reason hplace => exact .matched _ hplace
        | error e => exact .error e

end Cursor.Simulates

/-! ## §4. Every parser. -/

/-- **No parser tells related cursors apart**, whatever it is made of. -/
theorem LineParser.Made.respects {R : Cursor → Cursor → Prop} (hR : Cursor.Simulates R)
    {Q : ⦃α : Type⦄ → LineParser α → Prop} {I : Int → Prop} {α : Type} {p : LineParser α}
    (h : Made Q I p) : Respects R p := by
  induction h with
  | succeed a => exact fun c d hcd => .matched a hcd
  | refuse reason => exact fun c d hcd => .mismatched reason hcd
  | fault e blames => exact fun c d hcd => .error e
  | line form reason => exact hR.respects_line form reason
  | block limit => exact hR.respects_block limit
  | bind hp hf ihp ihf => exact Cursor.Simulates.respects_bind ihp ihf
  | firstOf label h ih => exact Cursor.Simulates.respects_firstOf label ih
  | many limit hp hQ ih => exact fun c d hcd => hR.loop_agrees ih limit.toNat hcd []
  | within k hI hp ih => exact hR.respects_within k ih fun hrun => hp.reaches hrun

theorem Grammar.respects {R : Cursor → Cursor → Prop} (hR : Cursor.Simulates R) (g : Grammar) :
    Respects R g.parser :=
  (g.made (R := fun _ _ => True) (I := fun _ => True) (fun _ _ => trivial)
    fun _ _ => trivial).respects hR

end TapReport
