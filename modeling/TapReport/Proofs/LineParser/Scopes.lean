/-
  TapReport.Proofs.LineParser.Scopes
  ──────────────────────────────────
  **WHERE A GRAMMAR LEAVES OFF, AND IN WHICH SCOPES.**

  A scope is entered by one combinator only, and left by it after a match.
  After a mismatch it is kept, so that the place of the mismatch says which
  scope it was found in.  A repetition goes on at that place, and so it may
  match inside scopes that were not there where it started: this is the one
  way in which scopes are added.  None is ever lost.

      Cursor.Reaches              where a parser can get to
      LineParser.FailsInScope     mismatches stay in the scopes of the start

  Main results:
    * `Grammar.reaches` — no grammar goes back, past the end of the source or
      out of the scopes where it starts.
    * `Grammar.indents_of_matched` — where repeated grammars mismatch in the
      scopes of their start, a match is in the scopes of its start.
    * `Grammar.scopes_of_matched` — both, and that nothing less would do.
-/
import TapReport.Proofs.LineParser.Contract

namespace TapReport

/-! ## §1. Where a parser can get to. -/

namespace Cursor

/-- A cursor from which another is reached by reading on: in the same source,
not before it, and in its scopes or further inside. -/
structure Reaches (c d : Cursor) : Prop where
  /-- The source is the same. -/
  source_eq : d.source = c.source
  /-- Reading does not go back. -/
  line_le : c.line ≤ d.line
  /-- Nor does it leave the source. -/
  le_size : c.line ≤ c.source.size → d.line ≤ d.source.size
  /-- No scope is lost. -/
  scopes : c.indents <:+ d.indents

/-- A line in view is one of the source. -/
theorem line_lt_of_peek {c : Cursor} {line : Line} (h : c.peek = .ok (some line)) :
    c.line < c.source.size := by
  unfold peek at h
  split at h
  · exact absurd h (by simp)
  · next hget => exact (Array.getElem?_eq_some_iff.mp hget).1

theorem next_line_of_peek {c : Cursor} {line : Line} (h : c.peek = .ok (some line)) :
    c.next.line = c.line + 1 :=
  Nat.min_eq_left (line_lt_of_peek h)

namespace Reaches

variable {c d e : Cursor}

theorem refl (c : Cursor) : c.Reaches c :=
  ⟨rfl, Nat.le_refl c.line, id, List.suffix_refl c.indents⟩

theorem trans (h : c.Reaches d) (h' : d.Reaches e) : c.Reaches e where
  source_eq := h'.source_eq.trans h.source_eq
  line_le := Nat.le_trans h.line_le h'.line_le
  le_size hle := h'.le_size (h.le_size hle)
  scopes := h.scopes.trans h'.scopes

theorem next {line : Line} (h : c.peek = .ok (some line)) : c.Reaches c.next where
  source_eq := rfl
  line_le := by rw [next_line_of_peek h]; omega
  le_size _ := Nat.min_le_right _ _
  scopes := List.suffix_refl c.indents

/-- What is reached inside a scope is reached from outside it. -/
theorem of_inside {k : Nat} (h : (c.inside k).Reaches d) : c.Reaches d where
  source_eq := h.source_eq
  line_le := h.line_le
  le_size := h.le_size
  scopes := (List.suffix_cons k c.indents).trans h.scopes

/-- The innermost scope can be left: at least the one that was entered is
there. -/
theorem leave {k : Nat} (h : (c.inside k).Reaches d) : c.Reaches d.leave where
  source_eq := h.source_eq
  line_le := h.line_le
  le_size := h.le_size
  scopes := by
    obtain ⟨added, hadded⟩ := h.scopes
    have hindents : d.indents = added ++ k :: c.indents := hadded.symm
    show c.indents <:+ d.indents.tail
    rw [hindents]
    cases added with
    | nil => exact List.suffix_refl c.indents
    | cons j added => exact ((List.suffix_cons k c.indents).trans (List.suffix_append added _))

end Reaches

end Cursor

/-- Every result of a parser is reached from where it starts. -/
def Contract.reach : Contract where
  matched := Cursor.Reaches
  mismatched := Cursor.Reaches
  fault _ _ := True

theorem Contract.reach_lawful (I : Int → Prop) : reach.Lawful I where
  matched_refl := .refl
  mismatched_refl := .refl
  next := .next
  peek _ := trivial
  blames _ := trivial
  matched_trans := .trans
  mismatched_trans := .trans
  fault_trans _ _ := trivial
  leave _ := .leave
  mismatched_inside _ := .of_inside
  fault_inside _ _ := trivial

/-- **What a parser reaches**: whatever it is made of, its results are in the
same source, not before the start, and in the scopes of the start. -/
theorem LineParser.Made.reaches {R : ⦃α : Type⦄ → LineParser α → Prop} {I : Int → Prop} {α : Type}
    {p : LineParser α} (hp : Made R I p) {c : Cursor} {o : Outcome α} (h : p c = .ok o) :
    c.Reaches o.cursor := by
  have hholds : Contract.reach.Holds p :=
    Contract.holds_of_made_of_imp (Contract.reach_lawful I) (fun _ _ => id) hp
  have hc := hholds c
  rw [h] at hc
  cases o <;> exact hc

theorem Grammar.reaches (g : Grammar) {c : Cursor} {o : Outcome Token} (h : g.parser c = .ok o) :
    c.Reaches o.cursor :=
  (g.made (R := fun _ _ => True) (I := fun _ => True) (fun _ _ => trivial)
    fun _ _ => trivial).reaches h

/-! ## §2. Matching in the scopes of the start. -/

/-- Wherever a line is in view, a mismatch is reported in the scopes of the
start. -/
def LineParser.FailsInScope {α : Type} (p : LineParser α) : Prop :=
  ∀ c line reason place, c.peek = .ok (some line) → p c = .ok (.mismatched reason place) →
    place.indents = c.indents

/-- A choice reports its mismatch where it starts. -/
theorem LineParser.firstOf_failsInScope {α : Type} (label : Text) (ps : List (LineParser α)) :
    (firstOf label ps).FailsInScope := by
  intro c line reason place _ h
  induction ps with
  | nil =>
    obtain ⟨-, rfl⟩ := Outcome.mismatched.inj (Except.ok.inj h)
    rfl
  | cons p ps ih =>
    cases hrun : p c with
    | error e => rw [firstOf_cons_of_error hrun] at h; exact absurd h (by simp)
    | ok o =>
      cases o with
      | matched a next => rw [firstOf_cons_of_matched hrun] at h; exact absurd h (by simp)
      | mismatched why there => rw [firstOf_cons_of_mismatched hrun] at h; exact ih h

/-- Every match is in the scopes of the start. -/
def Contract.level : Contract where
  matched c next := next.indents = c.indents
  mismatched _ _ := True
  fault _ _ := True

theorem Contract.level_lawful (I : Int → Prop) : level.Lawful I where
  matched_refl _ := rfl
  mismatched_refl _ := trivial
  next _ := rfl
  peek _ := trivial
  blames _ := trivial
  matched_trans h h' := h'.trans h
  mismatched_trans _ _ := trivial
  fault_trans _ _ := trivial
  leave _ h := congrArg List.tail h
  mismatched_inside _ _ := trivial
  fault_inside _ _ := trivial

/-- **Scopes are balanced** where repeated grammars mismatch in the scopes of
their start. -/
theorem Grammar.indents_of_matched {g : Grammar} (hg : ∀ r ∈ g.repeated, r.parser.FailsInScope)
    {c next : Cursor} {token : Token} (h : g.parser c = .ok (.matched token next)) :
    next.indents = c.indents := by
  have hmade : LineParser.Made (fun _ p => p.FailsInScope) (fun _ => True) g.parser :=
    g.made hg fun _ _ => trivial
  have hholds : Contract.level.Holds g.parser :=
    Contract.holds_of_made (Contract.level_lawful _) (fun _ _ hq _ => hq) hmade
  have hc := hholds c
  rw [h] at hc
  exact hc

/-- A repetition goes on where its first attempt mismatches. -/
theorem Grammar.parser_many_of_mismatched {g : Grammar} (tag : Text) {limit : Int}
    (hlimit : 0 < limit) {c place : Cursor} {line : Line} {reason : Mismatch}
    (hline : c.peek = .ok (some line)) (h : g.parser c = .ok (.mismatched reason place)) :
    (many tag limit g).parser c = .ok (.matched (.many tag []) place) := by
  obtain ⟨n, hn⟩ : ∃ n, limit.toNat = n + 1 := ⟨limit.toNat - 1, by omega⟩
  have hloop : LineParser.many limit g.parser c
      = .ok (.matched ⟨[], .mismatched reason⟩ place) := by
    unfold LineParser.many
    rw [hn, LineParser.many.loop, hline]
    simp only [h, List.reverse_nil]
  exact LineParser.map_of_matched hloop

/-- **The scopes after a match.**  Those of the start are all kept.  They are
the only ones if every grammar that is repeated mismatches in the scopes of
its start; and a grammar that does not cannot be repeated without adding
scopes. -/
theorem Grammar.scopes_of_matched (g : Grammar) :
    (∀ c token next, g.parser c = .ok (.matched token next) → c.indents <:+ next.indents)
      ∧ ((∀ r ∈ g.repeated, r.parser.FailsInScope) →
        ∀ c token next, g.parser c = .ok (.matched token next) → next.indents = c.indents)
      ∧ (∀ tag limit, 0 < limit →
        (∀ c token next, (many tag limit g).parser c = .ok (.matched token next) →
          next.indents = c.indents) → g.parser.FailsInScope) := by
  refine ⟨?_, ?_, ?_⟩
  · intro c token next h
    exact (g.reaches h).scopes
  · intro hg c token next h
    exact indents_of_matched hg h
  · intro tag limit hlimit hmany c line reason place hline h
    exact hmany c _ place (parser_many_of_mismatched tag hlimit hline h)

/-- A report inside a scope, up to the end of its lines. -/
def Cursor.inReport : Cursor :=
  { ofLines ["  TAP version 13".toList, "  ok 1".toList, "    ---".toList, "    a: 1".toList,
      "    ...".toList] with indents := [2] }

/-- Reports repeat a choice, so they are read in the scopes where they start. -/
theorem Grammar.scopes_of_inReport :
    (∀ r ∈ (report ⟨2, 500, 10000⟩).repeated, r.parser.FailsInScope)
      ∧ ∃ token next, (report ⟨2, 500, 10000⟩).parser .inReport = .ok (.matched token next)
        ∧ next.line = 5 ∧ [2] <:+ next.indents ∧ next.indents = [2] := by
  have hrepeated : ∀ r ∈ (report ⟨2, 500, 10000⟩).repeated, r.parser.FailsInScope := by
    intro r hr
    obtain rfl := List.mem_singleton.mp hr
    exact LineParser.firstOf_failsInScope _ _
  have hrun : (report ⟨2, 500, 10000⟩).parser .inReport
      = .ok (.matched
          (.sequence [.version 13, .many "lines".toList
            [.item (.test ⟨⟨true, none, some ['1'], none⟩, ["a: 1".toList]⟩)]])
          { Cursor.inReport with line := 5 }) := rfl
  obtain ⟨hkept, hlevel, -⟩ := scopes_of_matched (report ⟨2, 500, 10000⟩)
  exact ⟨hrepeated, _, _, hrun, rfl, hkept _ _ _ hrun, hlevel hrepeated _ _ _ hrun⟩

/-- Plans, each of them indented by two blanks. -/
def Grammar.indentedPlans : Grammar :=
  .many "plans".toList 500 (.within 2 .plan)

/-- Not every match is in the scopes of its start: after a line that is no
plan, indented plans leave off inside the scope of that line. -/
theorem Grammar.indentedPlans_adds_scope :
    ¬ ∀ (g : Grammar) (c next : Cursor) (token : Token),
      g.parser c = .ok (.matched token next) → next.indents = c.indents := by
  intro hbalanced
  have hrun : indentedPlans.parser (Cursor.ofLines ["  1..2".toList, "  x".toList])
      = .ok (.matched (.many "plans".toList [.item (.plan ⟨1, 2⟩)])
          ⟨#["  1..2".toList, "  x".toList], 1, 0, [2]⟩) := rfl
  exact absurd (hbalanced _ _ _ _ hrun) (by decide)

end TapReport
