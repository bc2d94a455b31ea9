/-
  TapReport.Proofs.Report.Plain
  ─────────────────────────────
  **A REPORT READ FROM A PLAIN LIST OF LINES.**

  Nothing here knows of cursors, scopes or combinators.  An item is taken
  off the front of a list of lines, and what it leaves is the list after it;
  the body of a report is walked item by item within a budget.  Numbers are
  read whatever their length, so the walk always ends with a document; which
  numerals it comes across is recorded apart (`Item.numerals`).

      Block.take?    one block, `---` to `...`
      Item.take?     one plan, diagnostic or test
      Item.Begins    the lines that it is taken off
      Report.walk    the body, gathered into a document
      Report.direct  the whole report

  Main results:
    * `Block.take?_eq_some_iff` — a block is taken exactly where the lines
      are one, indented, and not longer than allowed.
    * `Item.take?_eq_some_iff` — the lines that begin with an item.
    * `Item.eq_drop_of_take?` — an item takes as many lines as its size.
    * `Report.walk_eq_ofItems` — walking gathers the items it takes.
-/
import TapReport.Proofs.Line.Forms

namespace TapReport

/-! ## §1. One block. -/

namespace Block

/-- The lines before the first `...`, seen through `look`, if it comes within
`n` lines and all of them are in view. -/
def upTo? (look : Line → Option Line) : Nat → List Line → Option (List Line)
  | 0, _ => none
  | _ + 1, [] => none
  | n + 1, line :: rest =>
    match look line with
    | none => none
    | some seen => if seen = closing then some [] else (upTo? look n rest).map (seen :: ·)

/-- Takes a block off some lines, and what stands after it. -/
def take? (layout : Layout) : List Line → Option (List Line × List Line)
  | [] => none
  | line :: rest =>
    if outdentLine? layout.indent.toNat line = some opening then
      (upTo? (outdentLine? layout.indent.toNat) (layout.blockLimit + 1).toNat rest).map fun block =>
        (block, rest.drop (block.length + 1))
    else none

/-- A line with `k` blanks in front. -/
def indented (k : Nat) (line : Line) : Line :=
  List.replicate k ' ' ++ line

/-- A block as it stands under a test: its delimiters and lines, all of them
indented. -/
def lines (k : Nat) (block : List Line) : List Line :=
  indented k opening :: block.map (indented k) ++ [indented k closing]

theorem length_lines (k : Nat) (block : List Line) : (lines k block).length = block.length + 2 := by
  simp [lines]

theorem outdentLine?_indented (k : Nat) (line : Line) :
    outdentLine? k (indented k line) = some line :=
  outdentLine?_eq_some_iff.mpr rfl

/-- Lines that are found stand before the first `...`. -/
theorem exists_of_upTo? {look : Line → Option Line} {n : Nat} {given block : List Line}
    (h : upTo? look n given = some block) :
    ∃ front last rest, given = front ++ last :: rest ∧ front.map look = block.map some
      ∧ look last = some closing ∧ closing ∉ block ∧ block.length < n := by
  -- induction on the budget, as `upTo?` recurs on it
  induction n generalizing given block with
  | zero => exact absurd h (by simp [upTo?])
  | succ n ih =>
    cases given with
    | nil => exact absurd h (by simp [upTo?])
    | cons line more =>
      unfold upTo? at h
      split at h
      · exact absurd h (by simp)
      · next seen hseen =>
        split at h
        · next hclose =>
          obtain rfl : [] = block := by simpa using h
          exact ⟨[], line, more, rfl, rfl, by rw [hseen, hclose], by simp, by simp⟩
        · next hclose =>
          rw [Option.map_eq_some_iff] at h
          obtain ⟨tail, htail, rfl⟩ := h
          obtain ⟨front, last, rest, rfl, hfront, hlast, hmem, hlen⟩ := ih htail
          refine ⟨line :: front, last, rest, rfl, ?_, hlast, ?_, ?_⟩
          · rw [List.map_cons, List.map_cons, hseen, hfront]
          · simp only [List.mem_cons, not_or]
            exact ⟨fun h => hclose h.symm, hmem⟩
          · rw [List.length_cons]
            omega

/-- Lines other than `...`, seen through `look`, are found before a `...`. -/
theorem upTo?_append {look : Line → Option Line} {n : Nat} {front block : List Line} {last : Line}
    (hfront : front.map look = block.map some) (hlast : look last = some closing)
    (hmem : closing ∉ block) (hlen : block.length < n) (rest : List Line) :
    upTo? look n (front ++ last :: rest) = some block := by
  -- induction on the lines in front; each of them costs one of the budget
  induction front generalizing n block with
  | nil =>
    obtain rfl : block = [] := by simpa using hfront.symm
    cases n with
    | zero => exact absurd hlen (by simp)
    | succ n =>
      rw [List.nil_append, upTo?, hlast]
      simp
  | cons first front ih =>
    cases block with
    | nil => exact absurd hfront (by simp)
    | cons seen block =>
      cases n with
      | zero => exact absurd hlen (by simp)
      | succ n =>
        obtain ⟨hseen, hfront⟩ : look first = some seen ∧ front.map look = block.map some := by
          simpa using hfront
        simp only [List.mem_cons, not_or, List.length_cons] at hmem hlen
        have htail : upTo? look n (front ++ last :: rest) = some block :=
          ih hfront hmem.2 (by omega)
        rw [List.cons_append, upTo?, hseen]
        simp only [if_neg (Ne.symm hmem.1), htail, Option.map_some]

/-- Lines seen through an indentation are the indented lines. -/
theorem map_outdentLine?_eq_iff {k : Nat} {front block : List Line} :
    front.map (outdentLine? k) = block.map some ↔ front = block.map (indented k) := by
  induction front generalizing block with
  | nil => cases block <;> simp
  | cons line front ih =>
    cases block with
    | nil => simp
    | cons seen block =>
      simp only [List.map_cons, List.cons.injEq, ih, outdentLine?_eq_some_iff]
      rfl

/-- A block that is taken stands at the beginning of the lines. -/
theorem eq_lines_of_take? {layout : Layout} {given block rest : List Line}
    (h : take? layout given = some (block, rest)) :
    given = lines layout.indent.toNat block ++ rest ∧ closing ∉ block
      ∧ block.length < (layout.blockLimit + 1).toNat := by
  cases given with
  | nil => exact absurd h (by simp [take?])
  | cons line more =>
    rw [take?] at h
    split at h
    · next hopen =>
      rw [Option.map_eq_some_iff] at h
      obtain ⟨found, hfound, heq⟩ := h
      obtain ⟨rfl, rfl⟩ : found = block ∧ more.drop (found.length + 1) = rest := by
        simpa using heq
      obtain ⟨front, last, after, rfl, hfront, hlast, hmem, hlen⟩ := exists_of_upTo? hfound
      rw [map_outdentLine?_eq_iff] at hfront
      rw [outdentLine?_eq_some_iff] at hopen hlast
      subst hfront hopen hlast
      -- the lines of the block and its `...` are dropped
      have hdrop : (found.map (indented layout.indent.toNat)
          ++ (List.replicate layout.indent.toNat ' ' ++ closing) :: after).drop (found.length + 1)
          = after := by
        rw [List.drop_append, List.drop_of_length_le (by simp)]
        simp
      rw [hdrop]
      refine ⟨?_, hmem, hlen⟩
      simp [lines, indented]
    · exact absurd h (by simp)

/-- A block in front of other lines is taken off them. -/
theorem take?_lines {layout : Layout} {block : List Line} (hmem : closing ∉ block)
    (hlen : block.length < (layout.blockLimit + 1).toNat) (rest : List Line) :
    take? layout (lines layout.indent.toNat block ++ rest) = some (block, rest) := by
  have hfound : upTo? (outdentLine? layout.indent.toNat) (layout.blockLimit + 1).toNat
      (block.map (indented layout.indent.toNat)
        ++ indented layout.indent.toNat closing :: rest) = some block :=
    upTo?_append (map_outdentLine?_eq_iff.mpr rfl) (outdentLine?_indented _ _) hmem hlen rest
  have hlines : lines layout.indent.toNat block ++ rest
      = indented layout.indent.toNat opening :: (block.map (indented layout.indent.toNat)
        ++ indented layout.indent.toNat closing :: rest) := by simp [lines]
  rw [hlines, take?, if_pos (outdentLine?_indented _ _), hfound]
  simp [List.drop_append]

/-- **A block is taken** exactly where the lines are one: `---`, at most so
many lines other than `...`, and `...`, all indented. -/
theorem take?_eq_some_iff {layout : Layout} (hlimit : 0 ≤ layout.blockLimit)
    {given block rest : List Line} :
    take? layout given = some (block, rest) ↔
      given = lines layout.indent.toNat block ++ rest ∧ closing ∉ block
        ∧ (block.length : Int) ≤ layout.blockLimit := by
  constructor
  · intro h
    obtain ⟨hgiven, hmem, hlen⟩ := eq_lines_of_take? h
    exact ⟨hgiven, hmem, by omega⟩
  · intro h
    obtain ⟨rfl, hmem, hlen⟩ := h
    exact take?_lines hmem (by omega) rest

end Block

/-! ## §2. One item. -/

/-- The directive that the word of a test line means: none if there is no
word, and no answer if the word is no directive. -/
def TitleParts.directive? (parts : TitleParts) : Option (Option Text) :=
  match parts.directive with
  | none => some none
  | some word => (Title.directiveOfWord? word).map some

/-- The title that the parts of a line make, numbers of any length read. -/
def Title.ofParts? (parts : TitleParts) : Option Title :=
  parts.directive?.map fun directive =>
    ⟨parts.ok, parts.number.map fun digits => (Text.ofDigits digits : Int),
      Title.keptDescription parts.description, directive⟩

/-- The numerals that are read in a line of some kind. -/
def LineKind.numerals : LineKind → List Text
  | .plan start through => [start, through]
  | .title parts => if (Title.ofParts? parts).isSome then parts.number.toList else []
  | .diagnostic _ | .other => []

namespace Item

/-- Takes an item off some lines, and what stands after it. -/
def take? (layout : Layout) : List Line → Option (Item × List Line)
  | [] => none
  | line :: rest =>
    match LineKind.ofLine line with
    | .plan start through => some (.plan ⟨Text.ofDigits start, Text.ofDigits through⟩, rest)
    | .diagnostic text => some (.diagnostic text, rest)
    | .title parts =>
      (Title.ofParts? parts).bind fun title =>
        (Block.take? layout rest).map fun (block, rest) => (.test ⟨title, block⟩, rest)
    | .other => none

/-- The numerals that are read where an item is looked for. -/
def numerals : List Line → List Text
  | [] => []
  | line :: _ => (LineKind.ofLine line).numerals

/-- How some lines begin with an item, and what stands after it. -/
inductive Begins (layout : Layout) : List Line → Item → List Line → Prop
  /-- A line that is a plan. -/
  | plan {line : Line} {start through : Text} {rest : List Line}
      (hkind : LineKind.ofLine line = .plan start through) :
      Begins layout (line :: rest) (.plan ⟨Text.ofDigits start, Text.ofDigits through⟩) rest
  /-- A line that is a diagnostic. -/
  | diagnostic {line : Line} {text : Text} {rest : List Line}
      (hkind : LineKind.ofLine line = .diagnostic text) :
      Begins layout (line :: rest) (.diagnostic text) rest
  /-- A title, and under it a block that is not too long. -/
  | test {line : Line} {parts : TitleParts} {title : Title} {block rest : List Line}
      (hkind : LineKind.ofLine line = .title parts) (htitle : Title.ofParts? parts = some title)
      (hmem : Block.closing ∉ block) (hlen : block.length < (layout.blockLimit + 1).toNat) :
      Begins layout (line :: (Block.lines layout.indent.toNat block ++ rest))
        (.test ⟨title, block⟩) rest

variable {layout : Layout} {lines rest : List Line} {item : Item}

theorem begins_of_take? (h : take? layout lines = some (item, rest)) :
    Begins layout lines item rest := by
  cases lines with
  | nil => exact absurd h (by simp [take?])
  | cons line below =>
    rw [take?] at h
    split at h
    · next hkind =>
      obtain ⟨rfl, rfl⟩ : _ = item ∧ below = rest := by simpa using h
      exact .plan hkind
    · next hkind =>
      obtain ⟨rfl, rfl⟩ : _ = item ∧ below = rest := by simpa using h
      exact .diagnostic hkind
    · next hkind =>
      rw [Option.bind_eq_some_iff] at h
      obtain ⟨title, htitle, h⟩ := h
      rw [Option.map_eq_some_iff] at h
      obtain ⟨⟨block, after⟩, hblock, heq⟩ := h
      obtain ⟨rfl, rfl⟩ : _ = item ∧ after = rest := by simpa using heq
      obtain ⟨rfl, hmem, hlen⟩ := Block.eq_lines_of_take? hblock
      exact .test hkind htitle hmem hlen
    · exact absurd h (by simp)

theorem Begins.take?_eq (h : Begins layout lines item rest) :
    take? layout lines = some (item, rest) := by
  cases h with
  | plan hkind => rw [take?, hkind]
  | diagnostic hkind => rw [take?, hkind]
  | test hkind htitle hmem hlen =>
    rw [take?, hkind]
    simp only [htitle, Option.bind_some, Block.take?_lines hmem hlen, Option.map_some]

/-- **An item is taken** exactly where the lines begin with one. -/
theorem take?_eq_some_iff :
    take? layout lines = some (item, rest) ↔ Begins layout lines item rest :=
  ⟨begins_of_take?, Begins.take?_eq⟩

/-- **An item takes as many lines as its size.** -/
theorem eq_drop_of_take? (h : take? layout lines = some (item, rest)) :
    rest = lines.drop item.size := by
  cases begins_of_take? h with
  | plan hkind => rfl
  | diagnostic hkind => rfl
  | @test line _ title block _ hkind htitle hmem hlen =>
    show rest = (line :: (Block.lines layout.indent.toNat block ++ rest)).drop (3 + block.length)
    rw [show 3 + block.length = (block.length + 2) + 1 by omega, List.drop_succ_cons,
        ← Block.length_lines layout.indent.toNat, List.drop_left]

end Item

/-! ## §3. The body, and the whole report. -/

/-- Takes one more item into a document: a plan replaces an earlier one. -/
def Document.add (d : Document) : Item → Document
  | .plan p => { d with plan := some p }
  | .diagnostic text => { d with diagnostics := d.diagnostics ++ [text] }
  | .test t => { d with tests := d.tests ++ [t] }

/-- What comes of reading a report: a document, or a failure with its place
and message. -/
inductive Verdict where
  /-- The report says this. -/
  | document (d : Document)
  /-- The lines are no report. -/
  | failure (line : Nat) (column : Int) (message : Text)
  deriving DecidableEq, Repr

namespace Report

/-- Walks the body of a report, at most `n` items, and adds them to a
document. -/
def walk (layout : Layout) : Nat → List Line → Document → Document
  | 0, _, d => d
  | n + 1, lines, d =>
    match Item.take? layout lines with
    | none => d
    | some (item, rest) => walk layout n rest (d.add item)

/-- Reads a report off its lines. -/
def direct (layout : Layout) : List Line → Verdict
  | [] => .failure 0 0 "Not a TAP version".toList
  | header :: body =>
    match Version.ofLine? header with
    | none => .failure 0 0 "Not a TAP version".toList
    | some digits =>
      if Text.ofDigits digits = 13 then
        .document (walk layout layout.itemLimit.toNat body .empty)
      else
        .failure 1 0 ("Unexpected TAP version: Expected 13, received ".toList
          ++ Text.ofNat (Text.ofDigits digits))

/-- The items at the beginning of some lines, at most `n`, and the lines after
them. -/
def takeItems (layout : Layout) : Nat → List Line → List Item × List Line
  | 0, lines => ([], lines)
  | n + 1, lines =>
    match Item.take? layout lines with
    | none => ([], lines)
    | some (item, rest) => (item :: (takeItems layout n rest).1, (takeItems layout n rest).2)

/-- The lines from each place on at which an item is looked for. -/
def lookedAt (layout : Layout) : Nat → List Line → List (List Line)
  | 0, _ => []
  | n + 1, lines =>
    lines :: match Item.take? layout lines with
      | none => []
      | some (_, rest) => lookedAt layout n rest

/-- The body of a report, if its first line is a right version line. -/
def body? : List Line → Option (List Line)
  | [] => none
  | header :: body =>
    (Version.ofLine? header).bind fun digits =>
      if Text.ofDigits digits = 13 then some body else none

/-- The lines from each place on at which an item of a report is looked for:
none unless the first line is a right version line. -/
def places (layout : Layout) (lines : List Line) : List (List Line) :=
  match body? lines with
  | none => []
  | some body => lookedAt layout layout.itemLimit.toNat body

/-- The numerals that are read in the body of a report. -/
def numerals (layout : Layout) (lines : List Line) : List Text :=
  (places layout lines).flatMap Item.numerals

/-- Adding items one after another appends what they hold. -/
theorem foldl_add (items : List Item) (d : Document) :
    items.foldl Document.add d
      = { d with
          plan := (Document.ofItems items).plan.or d.plan
          diagnostics := d.diagnostics ++ (Document.ofItems items).diagnostics
          tests := d.tests ++ (Document.ofItems items).tests } := by
  induction items generalizing d with
  | nil => simp [Document.ofItems, Document.empty]
  | cons item items ih =>
    rw [List.foldl_cons, ih]
    cases item with
    | plan p =>
      -- a plan of the later items goes before `p`, and `p` before that of `d`
      show _ = { d with
        plan := ((Document.ofItems items).plan.or (some p)).or d.plan
        diagnostics := d.diagnostics ++ (Document.ofItems items).diagnostics
        tests := d.tests ++ (Document.ofItems items).tests }
      rw [Option.or_assoc]
      rfl
    | diagnostic text => simp [Document.add, Document.ofItems, Document.cons]
    | test t => simp [Document.add, Document.ofItems, Document.cons]

/-- Walking adds the items that are taken. -/
theorem walk_eq_foldl (layout : Layout) (n : Nat) (lines : List Line) (d : Document) :
    walk layout n lines d = (takeItems layout n lines).1.foldl Document.add d := by
  induction n generalizing lines d with
  | zero => rfl
  | succ n ih =>
    rw [walk, takeItems]
    cases Item.take? layout lines with
    | none => rfl
    | some found =>
      obtain ⟨item, rest⟩ := found
      exact ih rest (d.add item)

/-- **Walking gathers the items it takes.** -/
theorem walk_eq_ofItems (layout : Layout) (n : Nat) (lines : List Line) :
    walk layout n lines .empty = Document.ofItems (takeItems layout n lines).1 := by
  have hversion := Document.version_ofItems (takeItems layout n lines).1
  -- the empty document adds nothing but its version
  rw [walk_eq_foldl, foldl_add]
  cases hd : Document.ofItems (takeItems layout n lines).1 with
  | mk version plan diagnostics tests =>
    obtain rfl : version = protocolVersion := by rw [← hversion, hd]
    simp [Document.empty]

end Report

end TapReport
