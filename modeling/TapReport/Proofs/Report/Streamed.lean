/-
  TapReport.Proofs.Report.Streamed
  ────────────────────────────────
  **A BLOCK THAT COMES THROUGH A STREAM.**

  A stream gives out its lines without the blanks at their end, and a block
  goes on as long as its lines are indented.  A line of a block that is empty
  but for its indentation is therefore delivered empty, and so ends the block
  where it is indented at all: then no `...` is found, and the test is no
  test.  Lines that are given as a list keep their blanks, and the test.

      Text.unlines          lines as a text, each ended by a newline
      Report.blockReport    a report of one test with a given block

  Main results:
    * `readLines_text` — the lines that a stream of a text delivers.
    * `Block.take?_of_outside` — a line outside the scope ends the search.
    * `Report.verdict_parse_blockReport` — the one test of a report is read
      from a stream exactly if no indented line of its block is empty.
-/
import TapReport.Proofs.Report.Refinement
import TapReport.Proofs.Stream.Chunking

namespace TapReport

/-! ## §1. Lines as a text. -/

namespace Text

/-- The text of some lines, each ended by a newline. -/
def unlines (lines : List Line) : Text :=
  lines.flatMap (· ++ ['\n'])

/-- A line and its newline in front of a text are cut off. -/
theorem cutLines_append_newline {line : Line} (h : '\n' ∉ line) (t : Text) :
    cutLines (line ++ '\n' :: t) = (line :: (cutLines t).1, (cutLines t).2) := by
  induction line with
  | nil => exact cutLines_newline t
  | cons c line ih =>
    obtain ⟨hc, hline⟩ : '\n' ≠ c ∧ '\n' ∉ line := by simpa using h
    rw [List.cons_append, cutLines_cons (Ne.symm hc), ih hline]

theorem cutLines_unlines {lines : List Line} (h : ∀ line ∈ lines, '\n' ∉ line) :
    cutLines (unlines lines) = (lines, []) := by
  induction lines with
  | nil => rfl
  | cons line lines ih =>
    have htail := ih fun l hl => h l (List.mem_cons_of_mem line hl)
    have htext : unlines (line :: lines) = line ++ '\n' :: unlines lines := by
      show line ++ ['\n'] ++ unlines lines = _
      rw [List.append_assoc]
      rfl
    rw [htext, cutLines_append_newline (h line List.mem_cons_self), htail]

/-- Lines without newlines are the lines of their text. -/
theorem splitLines_unlines {lines : List Line} (h : ∀ line ∈ lines, '\n' ∉ line) :
    splitLines (unlines lines) = lines := by
  rw [splitLines_eq, cutLines_unlines h]
  exact List.append_nil lines

/-- Blanks in front are kept unless nothing else is there. -/
theorem trimEnd_append_of_ne_nil {t u : Text} (h : trimEnd u ≠ []) :
    trimEnd (t ++ u) = t ++ trimEnd u := by
  have hne : (u.reverse.dropWhile isBlank).isEmpty = false := by
    rw [List.isEmpty_eq_false_iff]
    intro hnil
    exact h (congrArg List.reverse hnil)
  unfold trimEnd
  rw [List.reverse_append, List.dropWhile_append, hne]
  simp only [Bool.false_eq_true, if_false, List.reverse_append, List.reverse_reverse]

theorem trimEnd_replicate_blank (k : Nat) : trimEnd (List.replicate k ' ') = [] := by
  induction k with
  | zero => rfl
  | succ k ih => rw [List.replicate_succ', trimEnd_append_blank (by decide), ih]

end Text

/-- **A stream of a text** delivers its lines without the blanks at their end,
however it is cut. -/
theorem readLines_text {t : Text} {chunks : List Bytes}
    (hchunks : chunks.flatten = Utf8.encode t) :
    readLines .utf8 (chunks.map .bytes) = ((Text.splitLines t).map Text.trimEnd, none) := by
  have hread := readout_readLines chunks
  rw [hchunks] at hread
  exact hread.of_text

namespace Report

variable {s : RawSettings} {valid : Settings Int}

/-- So it is read as those lines are. -/
theorem parse_text (hs : s.check = .ok valid) {t : Text} {chunks : List Bytes}
    (hchunks : chunks.flatten = Utf8.encode t) :
    parse s (.pieces (chunks.map .bytes))
      = parse s (.lines ((Text.splitLines t).map Text.trimEnd)) := by
  obtain ⟨rfl, hvalid⟩ := Settings.check_eq_ok_iff.mp hs
  refine parse_pieces_eq hvalid ?_
  unfold allLines
  rw [readLines_text hchunks]

/-- A stream of lines, each ended by a newline, is read as the lines are
without the blanks at their end. -/
theorem parse_unlines (hs : s.check = .ok valid) {lines : List Line}
    (h : ∀ line ∈ lines, '\n' ∉ line) {chunks : List Bytes}
    (hchunks : chunks.flatten = Utf8.encode (Text.unlines lines)) :
    parse s (.pieces (chunks.map .bytes)) = parse s (.lines (lines.map Text.trimEnd)) := by
  rw [parse_text hs hchunks, Text.splitLines_unlines h]

end Report

/-! ## §2. Indented lines that lost their blanks. -/

namespace Block

variable {k : Nat} {y : Line}

/-- A line that is not empty keeps its indentation. -/
theorem trimEnd_indented_of_ne_nil (hy : Text.trimEnd y = y) (hne : y ≠ []) :
    Text.trimEnd (indented k y) = indented k y := by
  unfold indented
  rw [Text.trimEnd_append_of_ne_nil (by rwa [hy]), hy]

/-- An empty line loses it. -/
theorem trimEnd_indented_nil (k : Nat) : Text.trimEnd (indented k []) = [] := by
  unfold indented
  rw [List.append_nil, Text.trimEnd_replicate_blank]

/-- Only an empty line that is indented is changed. -/
theorem trimEnd_indented (hy : Text.trimEnd y = y) (h : k = 0 ∨ y ≠ []) :
    Text.trimEnd (indented k y) = indented k y := by
  by_cases hne : y = []
  · obtain rfl : k = 0 := h.resolve_right (not_not_intro hne)
    rw [hne, trimEnd_indented_nil]
    rfl
  · exact trimEnd_indented_of_ne_nil hy hne

/-- Lines seen up to a line that is not in view have no end. -/
theorem upTo?_of_outside {look : Line → Option Line} {n : Nat} {front rest : List Line}
    {line : Line} (hfront : ∀ l ∈ front, look l ≠ some closing) (hline : look line = none) :
    upTo? look n (front ++ line :: rest) = none := by
  -- induction on the lines in front; each of them costs one of the budget
  induction front generalizing n with
  | nil =>
    cases n with
    | zero => rfl
    | succ n => rw [List.nil_append, upTo?, hline]
  | cons first front ih =>
    cases n with
    | zero => rfl
    | succ n =>
      have htail : upTo? look n (front ++ line :: rest) = none :=
        ih fun l hl => hfront l (List.mem_cons_of_mem first hl)
      rw [List.cons_append, upTo?]
      cases hseen : look first with
      | none => rfl
      | some seen =>
        have hopen : seen ≠ closing := by
          intro heq
          exact hfront first List.mem_cons_self (by rw [hseen, heq])
        simp only [if_neg hopen, htail, Option.map_none]

/-- **A line outside the scope ends the search**: no block is taken off lines
with such a line before the first `...`. -/
theorem take?_of_outside {layout : Layout} {opener line : Line} {front rest : List Line}
    (hfront : ∀ l ∈ front, outdentLine? layout.indent.toNat l ≠ some closing)
    (hline : outdentLine? layout.indent.toNat line = none) :
    take? layout (opener :: (front ++ line :: rest)) = none := by
  rw [take?]
  split
  · rw [upTo?_of_outside hfront hline, Option.map_none]
  · rfl

/-- What a stream delivers of a block. -/
def delivered (k : Nat) (ys : List Line) : List Line :=
  (lines k ys).map Text.trimEnd

variable {ys : List Line}

/-- A block is delivered as it is, unless an empty line of it is indented. -/
theorem delivered_eq_lines (htrim : ∀ y ∈ ys, Text.trimEnd y = y) (h : k = 0 ∨ [] ∉ ys) :
    delivered k ys = lines k ys := by
  have hmap : ys.map (fun y => Text.trimEnd (indented k y)) = ys.map (indented k) :=
    List.map_congr_left fun y hy =>
      trimEnd_indented (htrim y hy) (h.imp_right fun hno heq => hno (heq ▸ hy))
  have hopening : Text.trimEnd (indented k opening) = indented k opening :=
    trimEnd_indented_of_ne_nil (by decide) (by decide)
  have hclosing : Text.trimEnd (indented k closing) = indented k closing :=
    trimEnd_indented_of_ne_nil (by decide) (by decide)
  unfold delivered lines
  rw [List.map_append, List.map_cons, List.map_map, List.map_singleton, hopening, hclosing]
  exact congrArg (indented k opening :: · ++ [indented k closing]) hmap

/-- Otherwise what is delivered is no block. -/
theorem take?_delivered_eq_none {layout : Layout} (hk : 0 < layout.indent.toNat)
    (htrim : ∀ y ∈ ys, Text.trimEnd y = y) (hclose : closing ∉ ys) (hmem : [] ∈ ys) :
    take? layout (delivered layout.indent.toNat ys) = none := by
  obtain ⟨front, rest, hys, hfront⟩ := List.eq_append_cons_of_mem hmem
  obtain ⟨k, hk⟩ : ∃ k, layout.indent.toNat = k + 1 := ⟨layout.indent.toNat - 1, by omega⟩
  have hdelivered : delivered layout.indent.toNat ys
      = Text.trimEnd (indented layout.indent.toNat opening)
        :: (front.map (Text.trimEnd ∘ indented layout.indent.toNat)
          ++ [] :: (rest.map (Text.trimEnd ∘ indented layout.indent.toNat)
            ++ [Text.trimEnd (indented layout.indent.toNat closing)])) := by
    simp [delivered, lines, hys, trimEnd_indented_nil]
  rw [hdelivered]
  refine take?_of_outside ?_ (by rw [hk]; rfl)
  -- the lines before the first empty one are as they were, and none is `...`
  intro l hl
  obtain ⟨y, hy, rfl⟩ := List.mem_map.mp hl
  have hyys : y ∈ ys := by rw [hys]; exact List.mem_append_left _ hy
  rw [Function.comp_apply, trimEnd_indented_of_ne_nil (htrim y hyys) (fun heq => hfront (heq ▸ hy)),
      outdentLine?_indented]
  intro heq
  exact hclose (Option.some.inj heq ▸ hyys)

/-- **A block is taken off what is delivered of it** exactly if no indented
line of it is empty. -/
theorem take?_delivered {layout : Layout} (htrim : ∀ y ∈ ys, Text.trimEnd y = y)
    (hclose : closing ∉ ys) (hlength : ys.length < (layout.blockLimit + 1).toNat) :
    take? layout (delivered layout.indent.toNat ys)
      = if layout.indent.toNat = 0 ∨ [] ∉ ys then some (ys, []) else none := by
  by_cases hkept : layout.indent.toNat = 0 ∨ [] ∉ ys
  · have htake := take?_lines hclose hlength []
    rw [List.append_nil] at htake
    rw [if_pos hkept, delivered_eq_lines htrim hkept, htake]
  · obtain ⟨hne, hmem⟩ := not_or.mp hkept
    rw [if_neg hkept]
    exact take?_delivered_eq_none (Nat.pos_of_ne_zero hne) htrim hclose (not_not.mp hmem)

end Block

/-! ## §3. A report of one test. -/

namespace Report

/-- A report of one test with the given lines in its block. -/
def blockReport (k : Nat) (ys : List Line) : List Line :=
  "TAP version 13".toList :: "ok 1 - t".toList :: Block.lines k ys

/-- Its test. -/
def blockTest (ys : List Line) : Test :=
  ⟨⟨true, some 1, some "- t".toList, none⟩, ys⟩

variable {ys : List Line}

theorem newline_notMem_blockReport (k : Nat) (h : ∀ y ∈ ys, '\n' ∉ y) :
    ∀ line ∈ blockReport k ys, '\n' ∉ line := by
  have hindented : ∀ y : Line, '\n' ∉ y → '\n' ∉ Block.indented k y := by
    intro y hy
    simp [Block.indented, hy]
  intro line hline
  simp only [blockReport, Block.lines, List.mem_cons, List.mem_append, List.mem_map,
    List.not_mem_nil, or_false] at hline
  rcases hline with rfl | rfl | (rfl | ⟨y, hy, rfl⟩) | rfl
  · decide
  · decide
  · exact hindented _ (by decide)
  · exact hindented y (h y hy)
  · exact hindented _ (by decide)

/-- What is taken of lines under the title of the report, if nothing stands
after the block that they are: its test, or nothing if they are no block. -/
theorem takeItems_titled {layout : Layout} (hindent : layout.indent ≤ widestIndent)
    (h0 : 0 ≤ layout.blockLimit) (hlimit : layout.blockLimit < Block.longestCount)
    {given : List Line}
    (hrest : ∀ block rest, Block.take? layout given = some (block, rest) → rest = []) (n : Nat) :
    bodyFault? layout (n + 1) ("ok 1 - t".toList :: given) = none
      ∧ (takeItems layout (n + 1) ("ok 1 - t".toList :: given)).1
        = (Block.take? layout given).toList.map fun taken => .test (blockTest taken.1) := by
  have hkind : LineKind.ofLine "ok 1 - t".toList
      = .title ⟨true, some ['1'], some "- t".toList, none⟩ := by decide
  -- neither the number of the title nor the block is a fault
  have hfault : Item.fault? layout ("ok 1 - t".toList :: given) = none := by
    rw [Item.fault?_eq_numeralFault? hindent h0 hlimit, Item.numerals, hkind]
    decide
  have htake : Item.take? layout ("ok 1 - t".toList :: given)
      = (Block.take? layout given).map fun taken => (.test (blockTest taken.1), taken.2) :=
    Item.take?_of_parts hkind rfl
  cases hblock : Block.take? layout given with
  | none =>
    rw [hblock] at htake
    rw [bodyFault?_of_take_none hfault htake, takeItems_of_take_none htake]
    exact ⟨rfl, rfl⟩
  | some taken =>
    obtain ⟨block, rest⟩ := taken
    obtain rfl := hrest block rest hblock
    rw [hblock] at htake
    rw [bodyFault?_of_take hfault htake, bodyFault?_nil, takeItems_of_take htake, takeItems_nil]
    exact ⟨rfl, rfl⟩

variable {s : RawSettings} {valid : Settings Int}

/-- So the document has that test or none. -/
theorem verdict_parse_titled (hs : s.check = .ok valid)
    (hindent : valid.indentLevel ≤ widestIndent) (hlimit : valid.blockLimit < Block.longestCount)
    {given : List Line}
    (hrest : ∀ block rest, Block.take? (.ofSettings valid) given = some (block, rest) → rest = []) :
    (parse s (.lines ("TAP version 13".toList :: "ok 1 - t".toList :: given))).map Outcome.verdict
      = .ok (.document ⟨13, none, [],
          (Block.take? (.ofSettings valid) given).toList.map fun taken => blockTest taken.1⟩) := by
  have hvalid := (Settings.check_eq_ok_iff.mp hs).2
  have hblocks : 0 ≤ (Layout.ofSettings valid).blockLimit := Int.le_of_lt hvalid.blockLimit_pos
  have hitems : 0 < (Layout.ofSettings valid).itemLimit := hvalid.itemLimit_pos
  obtain ⟨n, hn⟩ : ∃ n, (Layout.ofSettings valid).itemLimit.toNat = n + 1 :=
    ⟨(Layout.ofSettings valid).itemLimit.toNat - 1, by omega⟩
  have hbody : body? ("TAP version 13".toList :: "ok 1 - t".toList :: given)
      = some ("ok 1 - t".toList :: given) :=
    body?_eq_some_iff.mpr ⟨_, "13".toList, rfl, by decide, by decide⟩
  obtain ⟨hfault, htaken⟩ := takeItems_titled hindent hblocks hlimit hrest n
  rw [verdict_parse_of_fault?_eq_none hs (by rw [fault?_of_body hbody, hn, hfault])]
  show Except.ok (Verdict.document (walk _ (Layout.ofSettings valid).itemLimit.toNat _ .empty)) = _
  rw [hn, walk_eq_ofItems, htaken]
  cases Block.take? (.ofSettings valid) given <;> rfl

/-- Without the blanks at the end of its lines the report is its version line,
its title and what is delivered of its block. -/
theorem trimEnd_blockReport (k : Nat) (ys : List Line) :
    (blockReport k ys).map Text.trimEnd
      = "TAP version 13".toList :: "ok 1 - t".toList :: Block.delivered k ys := rfl

/-- **The one test of a report is read from a stream** exactly if no indented
line of its block is empty; otherwise the document has no test at all. -/
theorem verdict_parse_blockReport (hs : s.check = .ok valid)
    (hindent : valid.indentLevel ≤ widestIndent) (hlimit : valid.blockLimit < Block.longestCount)
    (hnewline : ∀ y ∈ ys, '\n' ∉ y) (htrim : ∀ y ∈ ys, Text.trimEnd y = y)
    (hclose : Block.closing ∉ ys) (hlength : (ys.length : Int) ≤ valid.blockLimit)
    {chunks : List Bytes} (hchunks : chunks.flatten
      = Utf8.encode (Text.unlines (blockReport valid.indentLevel.toNat ys))) :
    (parse s (.pieces (chunks.map .bytes))).map Outcome.verdict
      = .ok (.document ⟨13, none, [],
          if valid.indentLevel = 0 ∨ [] ∉ ys then [blockTest ys] else []⟩) := by
  have hnonneg : 0 ≤ valid.indentLevel := (Settings.check_eq_ok_iff.mp hs).2.indentLevel_nonneg
  have hcount : ys.length < ((Layout.ofSettings valid).blockLimit + 1).toNat := by
    show ys.length < (valid.blockLimit + 1).toNat
    omega
  have hzero : (Layout.ofSettings valid).indent.toNat = 0 ↔ valid.indentLevel = 0 := by
    show valid.indentLevel.toNat = 0 ↔ _
    omega
  have htake : Block.take? (.ofSettings valid) (Block.delivered valid.indentLevel.toNat ys) = _ :=
    Block.take?_delivered htrim hclose hcount
  simp only [hzero] at htake
  rw [parse_unlines hs (newline_notMem_blockReport _ hnewline) hchunks, trimEnd_blockReport,
      verdict_parse_titled hs hindent hlimit, htake]
  · split <;> rfl
  · -- a block that is taken off what is delivered is all of it
    intro block rest hblock
    rw [htake] at hblock
    split at hblock
    · exact (Prod.mk.inj (Option.some.inj hblock)).2.symm
    · exact absurd hblock (by simp)

/-- A stream of a report whose block has a line that begins with blanks, cut
inside a character of that line. -/
def cutStream : List Bytes :=
  let b := Utf8.encode (Text.unlines (blockReport 2 ["a:".toList, "  - é".toList]))
  [b.take 42, b.drop 42]

theorem verdict_parse_cutStream :
    RawSettings.standard.check = .ok Settings.standard
      ∧ (∀ y ∈ ["a:".toList, "  - é".toList], '\n' ∉ y ∧ Text.trimEnd y = y)
      ∧ cutStream.flatten
        = Utf8.encode (Text.unlines (blockReport 2 ["a:".toList, "  - é".toList]))
      ∧ (parse RawSettings.standard (.pieces (cutStream.map .bytes))).map Outcome.verdict
        = .ok (.document ⟨13, none, [],
            [⟨⟨true, some 1, some "- t".toList, none⟩, ["a:".toList, "  - é".toList]⟩]⟩) := by
  have hcheck : RawSettings.standard.check = .ok Settings.standard := rfl
  have hlines : ∀ y ∈ ["a:".toList, "  - é".toList], '\n' ∉ y ∧ Text.trimEnd y = y := by decide
  have hstream : cutStream.flatten
      = Utf8.encode (Text.unlines (blockReport 2 ["a:".toList, "  - é".toList])) := by
    simp [cutStream]
  refine ⟨hcheck, hlines, hstream, ?_⟩
  exact verdict_parse_blockReport hcheck (by decide) (by decide) (fun y hy => (hlines y hy).1)
    (fun y hy => (hlines y hy).2) (by decide) (by decide) hstream

/-- Not every report of one test is read from a stream: under the standard
settings a block of one empty line is lost, and its test with it. -/
theorem blockReport_test_lost :
    ¬ ∀ (s : RawSettings) (valid : Settings Int) (ys : List Line) (chunks : List Bytes),
      s.check = .ok valid → valid.indentLevel < widestIndent →
      valid.blockLimit < Block.longestCount →
      (∀ y ∈ ys, '\n' ∉ y ∧ Text.trimEnd y = y) → Block.closing ∉ ys →
      (ys.length : Int) ≤ valid.blockLimit →
      chunks.flatten = Utf8.encode (Text.unlines (blockReport valid.indentLevel.toNat ys)) →
      ∃ d t, (parse s (.pieces (chunks.map .bytes))).map Outcome.verdict = .ok (.document d)
        ∧ d.tests = [t] ∧ t.block = ys := by
  intro hread
  obtain ⟨d, t, hd, htests, -⟩ := hread RawSettings.standard Settings.standard [[]]
    [Utf8.encode (Text.unlines (blockReport 2 [[]]))] rfl (by decide) (by decide) (by decide)
    (by decide) (by decide) (List.append_nil _)
  -- the empty line is delivered without its indentation
  have htake : Block.take? (.ofSettings .standard) (Block.delivered 2 [[]]) = none := by decide
  rw [parse_unlines rfl (newline_notMem_blockReport 2 (by decide)) (List.append_nil _),
      trimEnd_blockReport, verdict_parse_titled rfl (by decide) (by decide) (by simp [htake]),
      htake] at hd
  obtain rfl := Verdict.document.inj (Except.ok.inj hd)
  exact absurd htests (by simp)

end Report

end TapReport
