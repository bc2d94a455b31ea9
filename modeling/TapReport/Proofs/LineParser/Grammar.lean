/-
  TapReport.Proofs.LineParser.Grammar
  ───────────────────────────────────
  **GRAMMARS AS SYNTAX, AND WHAT THEIR PARSERS ARE MADE OF.**

  A grammar says how parsers of tokens are put together: the parsers of
  reports at the leaves, and above them sequences, choices, repetitions,
  scopes and functions of tokens.  `Grammar.parser` is its meaning, in terms
  of the combinators of the library.

  What holds of every grammar is not proved constructor by constructor.
  `LineParser.Made` names the nine ways in which a parser comes about, and
  `Grammar.made` shows that the parser of a grammar comes about in these
  ways only; a property of all grammars is then an induction on `Made`.

      Ruling             what a function of tokens makes of one
      Grammar            the syntax
      Grammar.parser     its meaning
      LineParser.Made    what a parser is made of

  Main results:
    * `Grammar.made` — the parser of a grammar is made of the nine.
    * `Grammar.parser_report` — reports are read by such a grammar.
-/
import TapReport.LineParser.Token
import TapReport.Proofs.Report.Steps

namespace TapReport

/-! ## §1. Functions of tokens. -/

/-- Whether a fault blames a value: a numeral, a limit, a step or an
indentation that is out of range. -/
def Fault.blamesValue : Fault → Bool
  | .negativeStep _ | .negativeIndent _ | .negativeFraction _ => true
  | .limitUnreachable | .limitNegative | .numeralTooLong _ => true
  | .noLine _ _ | .outsideScope _ _ | .wrongKind _ | .indentTooWide | .notInScope => false

/-- What a function makes of a token, wherever that was read. -/
inductive Ruling (α : Type) where
  /-- Another token takes its place. -/
  | accept (a : α)
  /-- It does not fit after all. -/
  | refuse (reason : Mismatch)
  /-- A value in it is out of range. -/
  | fault (e : Fault) (blames : e.blamesValue = true)

/-- The parser that gives a ruling and stays where it is. -/
def Ruling.parser {α : Type} : Ruling α → LineParser α
  | .accept a => .succeed a
  | .refuse reason => .refuse reason
  | .fault e _ => .fault e

/-! ## §2. Grammars. -/

/-- How parsers of tokens are put together. -/
inductive Grammar where
  /-- One line that a form recognises. -/
  | line (form : Line → Option (List (Option Text))) (reason : Mismatch)
  /-- A version line. -/
  | version (expected : Int)
  /-- A plan. -/
  | plan
  /-- A diagnostic. -/
  | diagnostic
  /-- The first line of a test. -/
  | title
  /-- A block. -/
  | block (limit : Int)
  /-- A test with the block indented under its title. -/
  | test (indent limit : Int)
  /-- One grammar after another. -/
  | sequence (gs : List Grammar)
  /-- The first of some grammars that fits. -/
  | firstOf (label : Text) (gs : List Grammar)
  /-- A grammar again and again. -/
  | many (tag : Text) (limit : Int) (g : Grammar)
  /-- A grammar inside a scope. -/
  | within (indent : Int) (g : Grammar)
  /-- A grammar whose tokens are ruled on. -/
  | judge (g : Grammar) (ruling : Token → Ruling Token)

namespace Grammar

mutual

/-- The parser that a grammar describes. -/
def parser : Grammar → LineParser Token
  | .line form reason => (LineParser.line form reason).map .captures
  | .version expected => (Version.read expected).map .version
  | .plan => Plan.read.map fun plan => .item (.plan plan)
  | .diagnostic => Diagnostic.read.map fun text => .item (.diagnostic text)
  | .title => Title.read.map .title
  | .block limit => (Block.read limit).map .block
  | .test indent limit => (Test.read indent limit).map fun test => .item (.test test)
  | .sequence gs => .sequence (parsers gs)
  | .firstOf label gs => .firstOf label (parsers gs)
  | .many tag limit g => .repetition tag limit g.parser
  | .within indent g => .within indent g.parser
  | .judge g ruling => g.parser.bind fun token => (ruling token).parser

/-- The parsers that some grammars describe. -/
def parsers : List Grammar → List (LineParser Token)
  | [] => []
  | g :: gs => g.parser :: parsers gs

end

theorem parsers_eq_map (gs : List Grammar) : parsers gs = gs.map parser := by
  induction gs with
  | nil => rfl
  | cons g gs ih => rw [parsers, ih, List.map_cons]

mutual

/-- A grammar and all the grammars that it is put together from. -/
def parts : Grammar → List Grammar
  | .sequence gs => .sequence gs :: partsOf gs
  | .firstOf label gs => .firstOf label gs :: partsOf gs
  | .many tag limit g => .many tag limit g :: g.parts
  | .within indent g => .within indent g :: g.parts
  | .judge g ruling => .judge g ruling :: g.parts
  | g => [g]

/-- All the grammars that some grammars are put together from. -/
def partsOf : List Grammar → List Grammar
  | [] => []
  | g :: gs => g.parts ++ partsOf gs

end

theorem partsOf_eq_flatMap (gs : List Grammar) : partsOf gs = gs.flatMap parts := by
  induction gs with
  | nil => rfl
  | cons g gs ih => rw [partsOf, ih, List.flatMap_cons]

/-- The grammar that is repeated, if this is a repetition. -/
def repeated? : Grammar → Option Grammar
  | .many _ _ g => some g
  | _ => none

/-- The indentation of the scope that is entered, if this enters one. -/
def indent? : Grammar → Option Int
  | .test indent _ | .within indent _ => some indent
  | _ => none

/-- The grammars that are repeated somewhere in a grammar. -/
def repeated (g : Grammar) : List Grammar :=
  g.parts.filterMap repeated?

/-- The indentations of all scopes that a grammar enters. -/
def indents (g : Grammar) : List Int :=
  g.parts.filterMap indent?

/-- Induction on a grammar, with a hypothesis for each member of a list. -/
@[elab_as_elim]
theorem induct {motive : Grammar → Prop}
    (line : ∀ form reason, motive (.line form reason))
    (version : ∀ expected, motive (.version expected))
    (plan : motive .plan) (diagnostic : motive .diagnostic) (title : motive .title)
    (block : ∀ limit, motive (.block limit))
    (test : ∀ indent limit, motive (.test indent limit))
    (sequence : ∀ gs, (∀ g ∈ gs, motive g) → motive (.sequence gs))
    (firstOf : ∀ label gs, (∀ g ∈ gs, motive g) → motive (.firstOf label gs))
    (many : ∀ tag limit g, motive g → motive (.many tag limit g))
    (within : ∀ indent g, motive g → motive (.within indent g))
    (judge : ∀ g ruling, motive g → motive (.judge g ruling)) (g : Grammar) : motive g := by
  induction g using Grammar.rec (motive_2 := fun gs => ∀ g ∈ gs, motive g) with
  | line form reason => exact line form reason
  | version expected => exact version expected
  | plan => exact plan
  | diagnostic => exact diagnostic
  | title => exact title
  | block limit => exact block limit
  | test indent limit => exact test indent limit
  | sequence gs ih => exact sequence gs ih
  | firstOf label gs ih => exact firstOf label gs ih
  | many tag limit g ih => exact many tag limit g ih
  | within indent g ih => exact within indent g ih
  | judge g ruling ih => exact judge g ruling ih
  | nil other hother => exact absurd hother List.not_mem_nil
  | cons g gs hg hgs other hother =>
    rcases List.mem_cons.mp hother with rfl | hother
    · exact hg
    · exact hgs other hother

end Grammar

/-! ## §3. What parsers are made of. -/

namespace LineParser

/-- The ways in which a parser comes about.  Every parser that is repeated on
the way has the property `R`, and every scope that is entered an indentation
with the property `I`. -/
inductive Made (R : ⦃α : Type⦄ → LineParser α → Prop) (I : Int → Prop) :
    {α : Type} → LineParser α → Prop
  /-- It matches without reading. -/
  | succeed {α : Type} (a : α) : Made R I (succeed a)
  /-- It mismatches without reading. -/
  | refuse {α : Type} (reason : Mismatch) : Made R I (refuse reason : LineParser α)
  /-- It ends with a fault that blames a value. -/
  | fault {α : Type} (e : Fault) (blames : e.blamesValue = true) :
      Made R I (fault e : LineParser α)
  /-- It reads one line. -/
  | line {α : Type} (form : Line → Option α) (reason : Mismatch) : Made R I (line form reason)
  /-- It reads a block. -/
  | block (limit : Int) : Made R I (Block.read limit)
  /-- It goes on after a match. -/
  | bind {α β : Type} {p : LineParser α} {f : α → LineParser β} (hp : Made R I p)
      (hf : ∀ a, Made R I (f a)) : Made R I (bind p f)
  /-- It is a choice. -/
  | firstOf {α : Type} (label : Text) {ps : List (LineParser α)} (h : ∀ p ∈ ps, Made R I p) :
      Made R I (firstOf label ps)
  /-- It repeats a parser. -/
  | many {α : Type} (limit : Int) {p : LineParser α} (hp : Made R I p) (hR : R p) :
      Made R I (many limit p)
  /-- It enters a scope. -/
  | within {α : Type} (k : Int) {p : LineParser α} (hI : I k) (hp : Made R I p) :
      Made R I (within k p)

namespace Made

variable {R : ⦃α : Type⦄ → LineParser α → Prop} {I : Int → Prop} {α β : Type}

theorem map {p : LineParser α} (hp : Made R I p) (f : α → β) : Made R I (p.map f) := by
  rw [map_eq_bind]
  exact .bind hp fun a => .succeed (f a)

theorem inOrder {ps : List (LineParser α)} (h : ∀ p ∈ ps, Made R I p) :
    Made R I (LineParser.inOrder ps) := by
  induction ps with
  | nil => exact .succeed []
  | cons p ps ih =>
    have hrest := ih fun q hq => h q (List.mem_cons_of_mem p hq)
    exact .bind (h p List.mem_cons_self) fun a => hrest.map (a :: ·)

theorem ruling (r : Ruling α) : Made R I r.parser := by
  cases r with
  | accept a => exact .succeed a
  | refuse reason => exact .refuse reason
  | fault e blames => exact .fault e blames

/-! The parsers of reports. -/

theorem readNumeral (digits : Text) : Made R I (readNumeral digits) := by
  unfold TapReport.readNumeral
  split
  · exact .fault _ rfl
  · exact .succeed _

theorem version (expected : Int) : Made R I (Version.read expected) := by
  refine .bind (.line _ _) fun digits => .bind (.readNumeral digits) fun version => ?_
  split
  · exact .succeed version
  · exact .refuse _

theorem plan : Made R I Plan.read := by
  refine .bind (.line _ _) fun (start, through) => ?_
  exact .bind (.readNumeral start) fun first => (readNumeral through).map _

theorem diagnostic : Made R I Diagnostic.read :=
  .line _ _

theorem title : Made R I Title.read := by
  refine .bind (.line _ _) fun parts => ?_
  have hnumber : ∀ directive, Made R I (Title.ofParts.withNumber parts directive) := by
    intro directive
    unfold Title.ofParts.withNumber
    split
    · exact .succeed _
    · split
      · exact .fault _ rfl
      · exact .succeed _
  unfold Title.ofParts
  split
  · exact .refuse _
  · exact hnumber _
  · exact hnumber none

theorem test {indent : Int} (limit : Int) (hI : I indent) : Made R I (Test.read indent limit) :=
  .bind .title fun _ => (within indent hI (.block limit)).map _

end Made

end LineParser

namespace Grammar

variable {R : ⦃α : Type⦄ → LineParser α → Prop} {I : Int → Prop}

/-- The parsers of some grammars are made in these ways if that of each is. -/
theorem made_parsers {gs : List Grammar}
    (h : ∀ g ∈ gs, (∀ r ∈ g.repeated, R r.parser) → (∀ k ∈ g.indents, I k) →
      LineParser.Made R I g.parser)
    (hR : ∀ r ∈ (partsOf gs).filterMap repeated?, R r.parser)
    (hI : ∀ k ∈ (partsOf gs).filterMap indent?, I k) :
    ∀ p ∈ parsers gs, LineParser.Made R I p := by
  rw [parsers_eq_map]
  rw [partsOf_eq_flatMap] at hR hI
  intro p hp
  obtain ⟨g, hg, rfl⟩ := List.mem_map.mp hp
  have hsub : g.parts ⊆ gs.flatMap parts := fun part hpart =>
    List.mem_flatMap.mpr ⟨g, hg, hpart⟩
  exact h g hg (fun r hr => hR r (List.filterMap_subset _ hsub hr))
    fun k hk => hI k (List.filterMap_subset _ hsub hk)

/-- **The parser of a grammar** is made in these ways, if the parsers that the
grammar repeats and the scopes that it enters are as they should be. -/
theorem made (g : Grammar) (hR : ∀ r ∈ g.repeated, R r.parser) (hI : ∀ k ∈ g.indents, I k) :
    LineParser.Made R I g.parser := by
  induction g using Grammar.induct with
  | line form reason => exact (LineParser.Made.line form reason).map _
  | version expected => exact (LineParser.Made.version expected).map _
  | plan => exact LineParser.Made.plan.map _
  | diagnostic => exact LineParser.Made.diagnostic.map _
  | title => exact LineParser.Made.title.map _
  | block limit => exact (LineParser.Made.block limit).map _
  | test indent limit =>
    have hindent : I indent := hI indent List.mem_cons_self
    exact (LineParser.Made.test limit hindent).map _
  | sequence gs ih => exact (LineParser.Made.inOrder (made_parsers ih hR hI)).map _
  | firstOf label gs ih => exact .firstOf label (made_parsers ih hR hI)
  | many tag limit g ih =>
    have hg : R g.parser := hR g List.mem_cons_self
    have hmade := ih (fun r hr => hR r (List.mem_cons_of_mem g hr)) hI
    exact (LineParser.Made.many limit hmade hg).map _
  | within indent g ih =>
    have hindent : I indent := hI indent List.mem_cons_self
    exact .within indent hindent (ih hR fun k hk => hI k (List.mem_cons_of_mem indent hk))
  | judge g ruling ih => exact .bind (ih hR hI) fun token => .ruling (ruling token)

end Grammar

/-! ## §4. The grammar of reports. -/

namespace LineParser

variable {α β γ : Type}

theorem map_map (f : α → β) (g : β → γ) (p : LineParser α) :
    map g (map f p) = map (fun a => g (f a)) p := by
  simp only [map_eq_bind, bind_assoc, succeed_bind]

/-- A choice among changed tokens is a changed choice. -/
theorem firstOf_map (f : α → β) (label : Text) (ps : List (LineParser α)) :
    firstOf label (ps.map (map f)) = map f (firstOf label ps) := by
  induction ps with
  | nil => rfl
  | cons p ps ih =>
    funext c
    rw [List.map_cons]
    cases hp : p c with
    | error e =>
      rw [firstOf_cons_of_error (map_of_error hp), map_of_error (firstOf_cons_of_error hp)]
    | ok o =>
      cases o with
      | matched a next =>
        rw [firstOf_cons_of_matched (map_of_matched hp),
            map_of_matched (firstOf_cons_of_matched hp)]
      | mismatched reason place =>
        rw [firstOf_cons_of_mismatched (map_of_mismatched hp), ih]
        unfold map
        rw [firstOf_cons_of_mismatched hp]

/-- A repetition of changed tokens is a changed repetition. -/
theorem loop_map (f : α → β) (p : LineParser α) (n : Nat) (c : Cursor) (found : List α) :
    many.loop (map f p) n c (found.map f)
      = (many.loop p n c found).map (Outcome.map fun r => ⟨r.items.map f, r.stop⟩) := by
  -- induction on the tokens that may still be read
  induction n generalizing c found with
  | zero =>
    rw [many.loop, many.loop]
    cases c.peek with
    | error e => rfl
    | ok seen => cases seen <;> simp [Except.map, Outcome.map]
  | succ n ih =>
    rw [many.loop, many.loop]
    cases c.peek with
    | error e => rfl
    | ok seen =>
      cases seen with
      | none => simp [Except.map, Outcome.map]
      | some line =>
        simp only [map]
        cases p c with
        | error e => rfl
        | ok o =>
          cases o with
          | matched a next => exact ih next (a :: found)
          | mismatched reason place => simp [Except.map, Outcome.map]

theorem many_map (f : α → β) (limit : Int) (p : LineParser α) :
    many limit (map f p) = map (fun r => ⟨r.items.map f, r.stop⟩) (many limit p) := by
  funext c
  exact loop_map f p limit.toNat c []

end LineParser

/-- The grammar of reports. -/
def Grammar.report (layout : Layout) : Grammar :=
  .sequence [.version protocolVersion, .many "lines".toList layout.itemLimit
    (.firstOf "TAP Lines".toList [.plan, .diagnostic, .test layout.indent layout.blockLimit])]

/-- **Reports are read by their grammar.** -/
theorem Grammar.parser_report (layout : Layout) :
    (Grammar.report layout).parser = (Report.read layout).map Token.ofContent := by
  -- the items are read as items and then made tokens
  have hitem : LineParser.firstOf "TAP Lines".toList
      (parsers [.plan, .diagnostic, .test layout.indent layout.blockLimit])
      = (Item.read layout).map .item := by
    have hparsers : parsers [.plan, .diagnostic, .test layout.indent layout.blockLimit]
        = [Plan.read.map .plan, Diagnostic.read.map .diagnostic,
            (Test.read layout.indent layout.blockLimit).map .test].map
          (LineParser.map Token.item) := by
      simp only [parsers, parser, List.map_cons, List.map_nil, LineParser.map_map]
    rw [hparsers, LineParser.firstOf_map]
    rfl
  show LineParser.sequence [(Version.read protocolVersion).map .version,
    LineParser.repetition _ layout.itemLimit (LineParser.firstOf _ _)] = _
  rw [hitem, LineParser.repetition, LineParser.many_map]
  unfold LineParser.sequence Report.read Report.readWith
  simp only [LineParser.inOrder, LineParser.map_eq_bind, LineParser.bind_assoc,
    LineParser.succeed_bind]
  rfl

end TapReport
