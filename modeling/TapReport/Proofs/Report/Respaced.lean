/-
  TapReport.Proofs.Report.Respaced
  ────────────────────────────────
  **A REPORT WITH OTHER BLANKS AT THE END OF ITS LINES.**

  A stream gives out its lines without the blanks at their end, so blanks
  before a newline, such as a carriage return, make no difference.  Lines of
  blanks only, behind the last newline, are given out too, as empty lines at
  the end.  An empty line is no item and never the last line of one: where an
  item is taken it ends before them, and where none is taken, because a block
  is still open, none is with them.

      Text.Padded        blanks before newlines
      Text.Respaced      blanks before newlines, and lines of blanks at the end
      Report.SameAnswer  equal documents, failures reported alike, or one fault

  Main results:
    * `Text.Respaced.map_trimEnd_splitLines` — the lines that are given out
      are the same, and then empty ones.
    * `Item.take?_append_empty` — empty lines at the end are left where an
      item is taken, and let none be taken where none is.
    * `Report.parse_respaced` — a report does not depend on its blanks.
-/
import Mathlib.Data.List.TakeWhile
import TapReport.Proofs.Report.Accounting
import TapReport.Proofs.Report.Faults
import TapReport.Proofs.Report.Streamed

namespace TapReport

/-! ## §1. Texts that differ in blanks. -/

namespace Text

/-- A text with blanks put before some of its newlines. -/
inductive Padded : Text → Text → Prop
  /-- An empty text. -/
  | nil : Padded [] []
  /-- A character that stands as it is. -/
  | cons (c : Char) {t u : Text} (h : Padded t u) : Padded (c :: t) (c :: u)
  /-- A newline with blanks before it. -/
  | blanks {blanks t u : Text} (hblank : ∀ c ∈ blanks, isBlank c = true)
      (hnewline : '\n' ∉ blanks) (h : Padded t u) : Padded ('\n' :: t) (blanks ++ '\n' :: u)

/-- A text with other blanks: before its newlines, and behind it if a newline
ends it or it is empty. -/
inductive Respaced (t : Text) : Text → Prop
  /-- Blanks before newlines. -/
  | padded {u : Text} (h : Padded t u) : Respaced t u
  /-- More lines of blanks behind it, too. -/
  | appended {u blanks : Text} (h : Padded t u) (hend : t = [] ∨ t.getLast? = some '\n')
      (hblank : ∀ c ∈ blanks, isBlank c = true) : Respaced t (u ++ blanks)

/-- A text with a carriage return before each newline. -/
def withReturns (t : Text) : Text :=
  t.flatMap fun c => if c = '\n' then ['\r', '\n'] else [c]

theorem padded_withReturns (t : Text) : Padded t (withReturns t) := by
  induction t with
  | nil => exact .nil
  | cons c t ih =>
    rw [withReturns, List.flatMap_cons]
    by_cases hc : c = '\n'
    · subst hc
      have hreturn : ∀ c ∈ ['\r'], isBlank c = true := List.forall_mem_singleton.mpr (by decide)
      exact .blanks hreturn (by decide) ih
    · rw [if_neg hc]
      exact .cons c ih

theorem trimEnd_eq_nil_iff {t : Text} : trimEnd t = [] ↔ ∀ c ∈ t, isBlank c = true := by
  unfold trimEnd
  rw [List.reverse_eq_nil_iff, List.dropWhile_eq_nil_iff]
  simp only [List.mem_reverse]

/-- Blanks at the end of a text may be trimmed before others are put in front
of it. -/
theorem trimEnd_append_trimEnd (t u : Text) : trimEnd (t ++ trimEnd u) = trimEnd (t ++ u) := by
  by_cases h : trimEnd u = []
  · have hblank : ∀ c ∈ u.reverse, isBlank c = true := by
      simpa only [List.mem_reverse] using trimEnd_eq_nil_iff.mp h
    rw [h, List.append_nil]
    unfold trimEnd
    rw [List.reverse_append, List.dropWhile_append_of_pos hblank]
  · rw [trimEnd_append_of_ne_nil h, trimEnd_append_of_ne_nil (by rwa [trimEnd_trimEnd]),
        trimEnd_trimEnd]

/-- **Blanks before newlines** are trimmed off the lines, and what no newline
ends is the same. -/
theorem Padded.cutLines_eq {t u : Text} (h : Padded t u) :
    (cutLines u).1.map trimEnd = (cutLines t).1.map trimEnd ∧ (cutLines u).2 = (cutLines t).2 := by
  induction h with
  | nil => exact ⟨rfl, rfl⟩
  | @cons c t u _ ih =>
    obtain ⟨hlines, hrest⟩ := ih
    by_cases hc : c = '\n'
    · subst hc
      rw [cutLines_newline, cutLines_newline, List.map_cons, List.map_cons, hlines]
      exact ⟨rfl, hrest⟩
    · rw [cutLines_cons hc, cutLines_cons hc]
      -- the character goes before the first line of either text
      cases ht : (cutLines t).1 with
      | nil =>
        rw [ht, List.map_nil, List.map_eq_nil_iff] at hlines
        rw [hlines, hrest]
        exact ⟨rfl, rfl⟩
      | cons line lines =>
        rw [ht, List.map_cons, List.map_eq_cons_iff] at hlines
        obtain ⟨line', lines', hu, hline, hmore⟩ := hlines
        rw [hu]
        refine ⟨?_, hrest⟩
        show trimEnd ([c] ++ line') :: lines'.map trimEnd
          = trimEnd ([c] ++ line) :: lines.map trimEnd
        rw [← trimEnd_append_trimEnd, hline, trimEnd_append_trimEnd, hmore]
  | @blanks blanks t u hblank hnewline _ ih =>
    obtain ⟨hlines, hrest⟩ := ih
    rw [cutLines_append_newline hnewline, cutLines_newline, List.map_cons, List.map_cons, hlines,
        trimEnd_eq_nil_iff.mpr hblank]
    exact ⟨rfl, hrest⟩

/-- Where a newline ends a text, no line is left unended. -/
theorem unended_eq_nil {t : Text} (h : t = [] ∨ t.getLast? = some '\n') : (cutLines t).2 = [] := by
  rcases h with rfl | hlast
  · rfl
  · by_contra hne
    rw [← join_cutLines t, List.getLast?_append_of_ne_nil _ hne] at hlast
    exact newline_notMem_rest_cutLines t (List.mem_of_getLast? hlast)

/-- The lines of a text of blanks are empty once they are trimmed. -/
theorem trimEnd_of_mem_splitLines {t : Text} (h : ∀ c ∈ t, isBlank c = true) :
    ∀ line ∈ splitLines t, trimEnd line = [] := by
  intro line hline
  rw [trimEnd_eq_nil_iff]
  intro c hc
  apply h
  rw [← join_cutLines t]
  rw [splitLines_eq] at hline
  rcases List.mem_append.mp hline with hline | hline
  · exact List.mem_append_left _ (List.mem_flatMap.mpr ⟨line, hline, List.mem_append_left _ hc⟩)
  · split at hline
    · exact absurd hline List.not_mem_nil
    · rw [List.mem_singleton.mp hline] at hc
      exact List.mem_append_right _ hc

/-- **Other blanks** leave the lines that are given out as they are, but for
empty ones at the end. -/
theorem Respaced.map_trimEnd_splitLines {t u : Text} (h : Respaced t u) :
    ∃ m, (splitLines u).map trimEnd = (splitLines t).map trimEnd ++ List.replicate m [] := by
  cases h with
  | padded h =>
    obtain ⟨hlines, hrest⟩ := h.cutLines_eq
    refine ⟨0, ?_⟩
    rw [splitLines_eq, splitLines_eq, List.map_append, List.map_append, hlines, hrest]
    exact (List.append_nil _).symm
  | @appended u blanks h hend hblank =>
    obtain ⟨hlines, hrest⟩ := h.cutLines_eq
    have hunended := unended_eq_nil hend
    refine ⟨(splitLines blanks).length, ?_⟩
    -- no line is left unended, so those of the blanks are lines of their own
    have hsplit : splitLines (u ++ blanks) = (cutLines u).1 ++ splitLines blanks := by
      rw [splitLines_eq, splitLines_eq, cutLines_append, hrest, hunended, List.nil_append,
          List.append_assoc]
    have hempty : (splitLines blanks).map trimEnd
        = List.replicate (splitLines blanks).length [] := by
      rw [List.eq_replicate_iff, List.length_map]
      exact ⟨rfl, List.forall_mem_map.mpr (trimEnd_of_mem_splitLines hblank)⟩
    rw [hsplit, List.map_append, hlines, hempty, splitLines_eq t, hunended]
    simp

end Text

/-! ## §2. Empty lines behind the items. -/

namespace Item

variable {layout : Layout} {lines rest : List Line} {item : Item}

/-- An item does not end with an empty line. -/
theorem Begins.getLast?_ne (h : Begins layout lines item []) : lines.getLast? ≠ some [] := by
  have hempty : LineKind.ofLine [] = .other := by decide
  cases h with
  | plan hkind =>
    intro hlast
    rw [List.getLast?_singleton, Option.some.injEq] at hlast
    rw [hlast, hempty] at hkind
    exact absurd hkind (by simp)
  | diagnostic hkind =>
    intro hlast
    rw [List.getLast?_singleton, Option.some.injEq] at hlast
    rw [hlast, hempty] at hkind
    exact absurd hkind (by simp)
  | @test line _ title block _ hkind htitle hmem hlen =>
    rw [List.append_nil, Block.lines, ← List.cons_append, List.getLast?_concat]
    simp [Block.indented, Block.closing]

/-- An item that some lines begin with ends before the empty lines behind
them. -/
theorem Begins.of_append_empty {m : Nat}
    (h : Begins layout (lines ++ List.replicate m []) item rest) :
    ∃ more, Begins layout lines item more := by
  obtain ⟨slice, hslice, -, hfront⟩ := h.exists_front
  rcases List.append_eq_append_iff.mp hslice with ⟨more, hmore, hempty⟩ | ⟨more, hmore, -⟩
  · -- the item would end with empty lines, so it ends with the lines
    have hlast : more = [] := by
      by_contra hne
      apply hfront.getLast?_ne
      have hmem : more.getLast hne ∈ List.replicate m ([] : Line) := by
        rw [hempty]
        exact List.mem_append_left _ (List.getLast_mem hne)
      rw [hmore, List.getLast?_append_of_ne_nil _ hne, List.getLast?_eq_some_getLast hne,
          List.eq_of_mem_replicate hmem]
    rw [hlast, List.append_nil] at hmore
    exact ⟨[], hmore ▸ hfront⟩
  · exact ⟨more, hmore ▸ hfront.append more⟩

/-- **Empty lines at the end** are left where an item is taken, and let none be
taken where none is. -/
theorem take?_append_empty (layout : Layout) (lines : List Line) (m : Nat) :
    take? layout (lines ++ List.replicate m [])
      = (take? layout lines).map fun (item, rest) => (item, rest ++ List.replicate m []) := by
  cases htake : take? layout lines with
  | some taken => exact take?_append htake _
  | none =>
    rw [Option.map_none, Option.eq_none_iff_forall_ne_some]
    rintro ⟨item, rest⟩ hsome
    obtain ⟨more, hmore⟩ := (begins_of_take? hsome).of_append_empty
    rw [hmore.take?_eq] at htake
    exact absurd htake (by simp)

theorem numerals_append_empty (lines : List Line) (m : Nat) :
    numerals (lines ++ List.replicate m []) = numerals lines := by
  cases lines with
  | nil => cases m <;> rfl
  | cons line below => rfl

/-- Nor are they a fault, in range. -/
theorem fault?_append_empty (hindent : layout.indent ≤ widestIndent) (h0 : 0 ≤ layout.blockLimit)
    (hlimit : layout.blockLimit < Block.longestCount) (lines : List Line) (m : Nat) :
    fault? layout (lines ++ List.replicate m []) = fault? layout lines := by
  rw [fault?_eq_numeralFault? hindent h0 hlimit, fault?_eq_numeralFault? hindent h0 hlimit,
      numerals_append_empty]

end Item

/-! ## §3. Empty lines behind a report. -/

namespace Report

variable {layout : Layout}

theorem takeItems_append_empty (layout : Layout) (n : Nat) (body : List Line) (m : Nat) :
    (takeItems layout n (body ++ List.replicate m [])).1 = (takeItems layout n body).1 := by
  -- induction on the budget; each item leaves the empty lines behind the rest
  induction n generalizing body with
  | zero => rfl
  | succ n ih =>
    have htake := Item.take?_append_empty layout body m
    cases hbody : Item.take? layout body with
    | none =>
      rw [hbody] at htake
      rw [takeItems_of_take_none htake, takeItems_of_take_none hbody]
    | some taken =>
      obtain ⟨item, rest⟩ := taken
      rw [hbody] at htake
      rw [takeItems_of_take htake, takeItems_of_take hbody, ih]

theorem body?_append_empty (lines : List Line) (m : Nat) :
    body? (lines ++ List.replicate m []) = (body? lines).map (· ++ List.replicate m []) := by
  cases lines with
  | nil => cases m <;> rfl
  | cons header rest =>
    rw [List.cons_append, body?, body?, Option.map_bind]
    congr 1
    funext digits
    show (if _ then some _ else none) = Option.map _ (if _ then some _ else none)
    split <;> rfl

/-- **Empty lines at the end** do not change what a report says. -/
theorem direct_append_empty (layout : Layout) (lines : List Line) (m : Nat) :
    direct layout (lines ++ List.replicate m []) = direct layout lines := by
  cases lines with
  | nil => cases m <;> rfl
  | cons header rest =>
    rw [List.cons_append, direct, direct, walk_eq_ofItems, walk_eq_ofItems,
        takeItems_append_empty]

section InRange

variable (hindent : layout.indent ≤ widestIndent) (h0 : 0 ≤ layout.blockLimit)
  (hlimit : layout.blockLimit < Block.longestCount)
include hindent h0 hlimit

theorem bodyFault?_append_empty (n : Nat) (body : List Line) (m : Nat) :
    bodyFault? layout n (body ++ List.replicate m []) = bodyFault? layout n body := by
  induction n generalizing body with
  | zero => rfl
  | succ n ih =>
    rw [bodyFault?_succ, bodyFault?_succ, Item.fault?_append_empty hindent h0 hlimit,
        Item.take?_append_empty]
    cases Item.take? layout body with
    | none => rfl
    | some taken => exact congrArg _ (ih taken.2)

/-- Nor do they change its fault. -/
theorem fault?_append_empty (lines : List Line) (m : Nat) :
    fault? layout (lines ++ List.replicate m []) = fault? layout lines := by
  have hbody := body?_append_empty lines m
  cases h : body? lines with
  | none =>
    rw [h] at hbody
    rw [fault?_of_body_none h, fault?_of_body_none hbody]
  | some body =>
    rw [h] at hbody
    rw [fault?_of_body h, fault?_of_body hbody, bodyFault?_append_empty hindent h0 hlimit]

/-- In range the only fault is a numeral that is too long. -/
theorem exists_numeralTooLong {lines : List Line} {e : Fault}
    (h : fault? layout lines = some e) : ∃ n, e = .numeralTooLong n := by
  obtain ⟨place, -, hplace⟩ := List.exists_of_findSome?_eq_some h
  rw [Item.fault?_eq_numeralFault? hindent h0 hlimit] at hplace
  obtain ⟨digits, -, rfl⟩ := Option.map_eq_some_iff.mp hplace
  exact ⟨digits.length, rfl⟩

end InRange

/-! ## §4. The same answer. -/

/-- Two sources come to the same: equal documents, failures that are reported
alike, or the fault of one numeral. -/
inductive SameAnswer : (a b : Except SourceFault (Outcome Content)) → Prop
  /-- Both are read, and say the same. -/
  | document {content content' : Content} {next next' : Cursor}
      (h : content.document = content'.document) :
      SameAnswer (.ok (.matched content next)) (.ok (.matched content' next'))
  /-- Neither is a report, and this is reported in the same words. -/
  | failure {reason reason' : Mismatch} {place place' : Cursor}
      (h : reason.report place = reason'.report place') :
      SameAnswer (.ok (.mismatched reason place)) (.ok (.mismatched reason' place'))
  /-- Neither has an outcome, for a numeral of so many digits. -/
  | fault (n : Nat) :
      SameAnswer (.error (.reading (.numeralTooLong n))) (.error (.reading (.numeralTooLong n)))

/-- Outcomes that amount to the same are the same answer. -/
theorem sameAnswer_of_verdict {a b : Outcome Content} (h : a.verdict = b.verdict) :
    SameAnswer (.ok a) (.ok b) := by
  cases a with
  | matched content next =>
    cases b with
    | matched content' next' => exact .document (Verdict.document.inj h)
    | mismatched reason place => exact absurd h (by simp [Outcome.verdict])
  | mismatched reason place =>
    cases b with
    | matched content next => exact absurd h (by simp [Outcome.verdict])
    | mismatched reason' place' =>
      obtain ⟨hline, hcolumn, hmessage⟩ := Verdict.failure.inj h
      refine .failure ?_
      unfold Mismatch.report
      rw [hline, hcolumn, hmessage]

theorem exists_outcome_of_verdict {result : Except SourceFault (Outcome Content)} {v : Verdict}
    (h : result.map Outcome.verdict = .ok v) :
    ∃ outcome, result = .ok outcome ∧ outcome.verdict = v := by
  cases result with
  | error e => exact absurd h (by simp [Except.map])
  | ok outcome => exact ⟨outcome, rfl, Except.ok.inj h⟩

variable {s : RawSettings} {valid : Settings Int}

/-- In range the fault and the plain verdict of some lines are their answer. -/
theorem sameAnswer_of_eq (hs : s.check = .ok valid) (hindent : valid.indentLevel ≤ widestIndent)
    (hlimit : valid.blockLimit < Block.longestCount) {lines lines' : List Line}
    (hfault : fault? (.ofSettings valid) lines = fault? (.ofSettings valid) lines')
    (hdirect : direct (.ofSettings valid) lines = direct (.ofSettings valid) lines') :
    SameAnswer (parse s (.lines lines)) (parse s (.lines lines')) := by
  have h0 : 0 ≤ (Layout.ofSettings valid).blockLimit :=
    Int.le_of_lt (Settings.check_eq_ok_iff.mp hs).2.blockLimit_pos
  cases hf : fault? (.ofSettings valid) lines with
  | some e =>
    obtain ⟨n, rfl⟩ := exists_numeralTooLong hindent h0 hlimit hf
    rw [(parse_eq_error_iff hs).mpr hf, (parse_eq_error_iff hs).mpr (hfault ▸ hf)]
    exact .fault n
  | none =>
    obtain ⟨a, ha, hverdict⟩ :=
      exists_outcome_of_verdict (verdict_parse_of_fault?_eq_none hs hf)
    obtain ⟨b, hb, hverdict'⟩ :=
      exists_outcome_of_verdict (verdict_parse_of_fault?_eq_none hs (hfault ▸ hf))
    rw [ha, hb]
    exact sameAnswer_of_verdict (by rw [hverdict, hverdict', hdirect])

/-- **A report does not depend on its blanks.**  With valid settings in range,
a text comes to the same answer as one with other blanks before its newlines
and behind the last of them, however either is cut; and lines that come through
a stream come to the same answer as a list of them without the blanks at their
end. -/
theorem parse_respaced (hs : s.check = .ok valid) (hindent : valid.indentLevel ≤ widestIndent)
    (hlimit : valid.blockLimit < Block.longestCount) :
    (∀ (t u : Text) (chunks chunks' : List Bytes), Text.Respaced t u →
        chunks.flatten = Utf8.encode t → chunks'.flatten = Utf8.encode u →
        SameAnswer (parse s (.pieces (chunks.map .bytes))) (parse s (.pieces (chunks'.map .bytes))))
      ∧ ∀ (lines : List Line) (chunks : List Bytes), (∀ line ∈ lines, '\n' ∉ line) →
          chunks.flatten = Utf8.encode (Text.unlines lines) →
          SameAnswer (parse s (.pieces (chunks.map .bytes)))
            (parse s (.lines (lines.map Text.trimEnd))) := by
  have h0 : 0 ≤ (Layout.ofSettings valid).blockLimit :=
    Int.le_of_lt (Settings.check_eq_ok_iff.mp hs).2.blockLimit_pos
  constructor
  · intro t u chunks chunks' hrespaced hchunks hchunks'
    obtain ⟨m, hlines⟩ := hrespaced.map_trimEnd_splitLines
    rw [parse_text hs hchunks, parse_text hs hchunks', hlines]
    exact sameAnswer_of_eq hs hindent hlimit (fault?_append_empty hindent h0 hlimit _ m).symm
      (direct_append_empty _ _ m).symm
  · intro lines chunks hnewline hchunks
    rw [parse_unlines hs hnewline hchunks]
    exact sameAnswer_of_eq hs hindent hlimit rfl rfl

/-- The standard settings, but for blocks that are not indented. -/
def flushBlocks : Settings Int :=
  { Settings.standard with indentLevel := 0 }

/-- A report that ends within a block. -/
def openBlock : List Line :=
  ["TAP version 13".toList, "ok 1 - é ".toList, "---".toList, "a: 1".toList]

/-- Its bytes are cut inside a character; with other blanks its lines end in
carriage returns, and lines of blanks come after it. -/
theorem parse_respaced_openBlock :
    (flushBlocks.map .int).check = .ok flushBlocks
      ∧ Text.Respaced (Text.unlines openBlock)
        (Text.withReturns (Text.unlines openBlock) ++ " \r\n\t".toList)
      ∧ (∀ line ∈ openBlock, '\n' ∉ line)
      ∧ SameAnswer
        (parse (flushBlocks.map .int) (.pieces
          ([(Utf8.encode (Text.unlines openBlock)).take 23,
            (Utf8.encode (Text.unlines openBlock)).drop 23].map .bytes)))
        (parse (flushBlocks.map .int) (.pieces
          ([Utf8.encode (Text.withReturns (Text.unlines openBlock) ++ " \r\n\t".toList)].map
            .bytes)))
      ∧ SameAnswer
        (parse (flushBlocks.map .int) (.pieces
          ([Utf8.encode (Text.unlines openBlock)].map .bytes)))
        (parse (flushBlocks.map .int) (.lines (openBlock.map Text.trimEnd))) := by
  have hcheck : (flushBlocks.map .int).check = .ok flushBlocks := rfl
  have hrespaced : Text.Respaced (Text.unlines openBlock)
      (Text.withReturns (Text.unlines openBlock) ++ " \r\n\t".toList) :=
    .appended (Text.padded_withReturns _) (.inr (by decide)) (List.all_eq_true.mp (by decide))
  have hlines : ∀ line ∈ openBlock, '\n' ∉ line := by decide
  obtain ⟨htexts, hstream⟩ := parse_respaced hcheck (by decide) (by decide)
  refine ⟨hcheck, hrespaced, hlines, htexts _ _ _ _ hrespaced (by simp) (by simp), ?_⟩
  exact hstream _ _ hlines (by simp)

end Report

end TapReport
