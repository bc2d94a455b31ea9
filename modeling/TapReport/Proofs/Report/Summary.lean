/-
  TapReport.Proofs.Report.Summary
  ───────────────────────────────
  **THE LINES OF A SUMMARY.**

  A summary is its lines with newlines between them, so its lines can be read
  off it again as long as none of them holds a newline.  Lines that are given
  may hold one, and a description takes it over; those of a stream do not, and
  reading a report puts nothing into a document that was not in a line.  What
  carries this is that a text of a document is part of a line that was read, or
  one of the two known directives.

      Document.texts         all texts that a document holds

  Main results:
    * `newline_notMem_of_allLines` — no line of a stream holds a newline.
    * `Item.Begins.newline_notMem` — one item.
    * `Report.newline_notMem_takeItems` — all items of a report.
    * `Document.splitOn_summary` — the lines are read off the summary.
    * `Report.summary_of_matched` — the summary of a stream that is a report.
-/
import TapReport.Proofs.Report.Limits
import TapReport.Proofs.Stream.Chunking
import TapReport.Report.Output

namespace TapReport

/-! ## §1. The lines of a stream. -/

namespace Text

theorem newline_notMem_of_mem_cutLines (t : Text) : ∀ line ∈ (cutLines t).1, '\n' ∉ line := by
  induction t with
  | nil => exact fun line h => absurd h List.not_mem_nil
  | cons c t ih =>
    by_cases hc : c = '\n'
    · subst hc
      rw [cutLines_newline, List.forall_mem_cons]
      exact ⟨List.not_mem_nil, ih⟩
    · rw [cutLines_cons hc]
      cases h : (cutLines t).1 with
      | nil => exact fun line h => absurd h List.not_mem_nil
      | cons line lines =>
        rw [h, List.forall_mem_cons] at ih
        rw [List.forall_mem_cons, List.mem_cons, not_or]
        exact ⟨⟨Ne.symm hc, ih.1⟩, ih.2⟩

theorem newline_notMem_trimEnd {t : Text} (h : '\n' ∉ t) : '\n' ∉ trimEnd t :=
  fun hmem => h (mem_of_mem_trimEnd hmem)

end Text

namespace LineReader

variable {encoding : Encoding} {r next : LineReader} {piece : Piece} {lines : List Line}

/-- **One piece**: neither the lines that it completes nor what is kept holds a
newline. -/
theorem newline_notMem_of_feed (h : r.feed encoding piece = .ok (lines, next)) :
    (∀ line ∈ lines, '\n' ∉ line) ∧ '\n' ∉ next.unended := by
  cases piece with
  | foreign kind => exact absurd h (by simp [feed])
  | bytes b =>
    rw [feed] at h
    cases hd : encoding.decode r.pending b with
    | error e => rw [hd] at h; exact absurd h (by simp)
    | ok decoded =>
      obtain ⟨t, pending⟩ := decoded
      simp only [hd, Except.ok.injEq, Prod.mk.injEq] at h
      obtain ⟨rfl, rfl⟩ := h
      refine ⟨?_, Text.newline_notMem_rest_cutLines _⟩
      rw [List.forall_mem_map]
      exact fun line hline =>
        Text.newline_notMem_trimEnd (Text.newline_notMem_of_mem_cutLines _ line hline)

theorem newline_notMem_of_close (hr : '\n' ∉ r.unended) (h : r.close = .ok lines) :
    ∀ line ∈ lines, '\n' ∉ line := by
  rw [close] at h
  cases hclose : Encoding.close r.pending with
  | error e => rw [hclose] at h; exact absurd h (by simp)
  | ok u =>
    simp only [hclose, Except.ok.injEq] at h
    subst h
    split
    · exact fun line h => absurd h List.not_mem_nil
    · rw [List.forall_mem_singleton]
      exact Text.newline_notMem_trimEnd hr

end LineReader

/-- **Any pieces**, read on with lines that hold no newline. -/
theorem newline_notMem_readFrom {encoding : Encoding} {r : LineReader} {found : List Line}
    (hr : '\n' ∉ r.unended) (hfound : ∀ line ∈ found, '\n' ∉ line) (pieces : List Piece) :
    ∀ line ∈ (readFrom encoding r found pieces).1, '\n' ∉ line := by
  have hreverse : ∀ line ∈ found.reverse, '\n' ∉ line :=
    fun line hline => hfound line (List.mem_reverse.mp hline)
  -- induction on the pieces: after each the same holds of what is kept
  induction pieces generalizing r found with
  | nil =>
    rw [readFrom]
    cases hclose : r.close with
    | error e => exact hreverse
    | ok last =>
      exact List.forall_mem_append.mpr ⟨hreverse, LineReader.newline_notMem_of_close hr hclose⟩
  | cons piece pieces ih =>
    rw [readFrom]
    cases hfeed : r.feed encoding piece with
    | error e => exact hreverse
    | ok fed =>
      obtain ⟨lines, next⟩ := fed
      obtain ⟨hlines, hnext⟩ := LineReader.newline_notMem_of_feed hfeed
      have hall : ∀ line ∈ lines.reverse ++ found, '\n' ∉ line :=
        List.forall_mem_append.mpr ⟨fun line hline => hlines line (List.mem_reverse.mp hline),
          hfound⟩
      exact ih hnext hall fun line hline => hall line (List.mem_reverse.mp hline)

/-- **No line of a stream holds a newline.** -/
theorem newline_notMem_of_allLines {pieces : List Piece} {lines : List Line}
    (h : allLines pieces = .ok lines) : ∀ line ∈ lines, '\n' ∉ line := by
  have hread : ∀ line ∈ (readFrom .utf8 .start [] pieces).1, '\n' ∉ line :=
    newline_notMem_readFrom List.not_mem_nil (fun line hline => absurd hline List.not_mem_nil) pieces
  unfold allLines readLines at h
  split at h
  · next found hfound =>
    rw [hfound] at hread
    rw [← Except.ok.inj h]
    exact hread
  · exact absurd h (by simp)

/-! ## §2. The texts of an item. -/

/-- The texts that a title holds. -/
def Title.texts (t : Title) : List Text :=
  t.description.toList ++ t.directive.toList

/-- The texts that a test holds. -/
def Test.texts (t : Test) : List Text :=
  t.title.texts ++ t.block

/-- The texts that an item holds. -/
def Item.texts : Item → List Text
  | .plan _ => []
  | .diagnostic text => [text]
  | .test t => t.texts

theorem TitleParts.mem_of_mem_splitNumber {c : Char} {t : Text} (h : c ∈ (splitNumber t).2) :
    c ∈ t := by
  rw [← splitNumber_append t]
  exact List.mem_append_right _ h

/-- **A title** keeps a part of its line as a description, and its directive is
a word that is known. -/
theorem Title.newline_notMem_of_read {line : Line} {parts : TitleParts} {t : Title}
    (hline : TitleParts.ofLine? line = some parts) (hparts : ofParts? parts = some t)
    (hnl : '\n' ∉ line) : ∀ text ∈ t.texts, '\n' ∉ text := by
  obtain ⟨rest, hrest, -, hpart, -⟩ := TitleParts.exists_of_ofLine? hline
  obtain ⟨-, -, -, hdescription⟩ := ofParts?_eq_some_iff.mp hparts
  rw [hpart, keptDescription_nonempty?] at hdescription
  refine List.forall_mem_append.mpr ⟨?_, ?_⟩
  · intro d hd
    rw [Option.mem_toList, ← hdescription, nonempty?_eq_some_iff] at hd
    obtain ⟨rfl, -⟩ := hd
    intro hmem
    have hbefore := (List.takeWhile_sublist _).mem (Text.mem_of_mem_trimEnd hmem)
    apply hnl
    rw [hrest, List.mem_append, List.mem_cons]
    exact Or.inr (Or.inr (TitleParts.mem_of_mem_splitNumber hbefore))
  · intro w hw
    have hknown : ∀ w ∈ directiveWords, '\n' ∉ w := by decide
    exact hknown w ((kept_of_read hline hparts).directive w (Option.mem_toList.mp hw))

/-- **One item**: where the lines hold no newline, neither the texts of the item
nor the lines behind it do. -/
theorem Item.Begins.newline_notMem {layout : Layout} {lines rest : List Line} {item : Item}
    (h : Begins layout lines item rest) (hlines : ∀ line ∈ lines, '\n' ∉ line) :
    (∀ text ∈ item.texts, '\n' ∉ text) ∧ ∀ line ∈ rest, '\n' ∉ line := by
  cases h with
  | plan hkind =>
    exact ⟨fun text htext => absurd htext List.not_mem_nil, (List.forall_mem_cons.mp hlines).2⟩
  | diagnostic hkind =>
    obtain ⟨-, -, hnl⟩ := Diagnostic.ofLine?_eq_some_iff.mp
      (LineKind.ofLine_eq_diagnostic_iff.mp hkind)
    exact ⟨List.forall_mem_singleton.mpr hnl, (List.forall_mem_cons.mp hlines).2⟩
  | @test line parts title block _ hkind htitle hmem hlen =>
    obtain ⟨hline, hbelow⟩ := List.forall_mem_cons.mp hlines
    obtain ⟨hblock, hrest⟩ := List.forall_mem_append.mp hbelow
    have htitle := Title.newline_notMem_of_read (LineKind.ofLine_eq_title_iff.mp hkind) htitle hline
    refine ⟨List.forall_mem_append.mpr ⟨htitle, fun seen hseen hnl => ?_⟩, hrest⟩
    -- a line of the block is one of the lines, without its indentation
    have hindented : Block.indented layout.indent.toNat seen
        ∈ Block.lines layout.indent.toNat block := by
      unfold Block.lines
      exact List.mem_append_left _ (List.mem_cons_of_mem _ (List.mem_map_of_mem hseen))
    exact hblock _ hindented (List.mem_append_right _ hnl)

/-- **All items of a report**: none of their texts holds a newline if no line
does. -/
theorem Report.newline_notMem_takeItems {layout : Layout} {n : Nat} {lines : List Line}
    (h : ∀ line ∈ lines, '\n' ∉ line) :
    ∀ item ∈ (takeItems layout n lines).1, ∀ text ∈ item.texts, '\n' ∉ text := by
  -- induction on the budget; an item leaves lines of which the same holds
  induction n generalizing lines with
  | zero => exact fun item hitem => absurd hitem List.not_mem_nil
  | succ n ih =>
    cases htake : Item.take? layout lines with
    | none =>
      rw [takeItems_of_take_none htake]
      exact fun item hitem => absurd hitem List.not_mem_nil
    | some taken =>
      obtain ⟨item, rest⟩ := taken
      obtain ⟨hitem, hrest⟩ := (Item.begins_of_take? htake).newline_notMem h
      rw [takeItems_of_take htake]
      exact List.forall_mem_cons.mpr ⟨hitem, ih hrest⟩

/-! ## §3. The texts of a document. -/

namespace Document

/-- The texts that a document holds. -/
def texts (d : Document) : List Text :=
  d.diagnostics ++ d.tests.flatMap Test.texts

/-- A document holds the texts of its items. -/
theorem mem_texts_ofItems {items : List Item} {text : Text} :
    text ∈ (ofItems items).texts ↔ ∃ item ∈ items, text ∈ item.texts := by
  unfold texts
  rw [List.mem_append, List.mem_flatMap, diagnostics_ofItems, tests_ofItems]
  simp only [List.mem_filterMap]
  constructor
  · rintro (⟨item, hitem, htext⟩ | ⟨test, ⟨item, hitem, htest⟩, htext⟩)
    · cases item with
      | diagnostic said => exact ⟨_, hitem, by simpa [Item.texts, eq_comm] using htext⟩
      | plan p => exact absurd htext (by simp)
      | test t => exact absurd htext (by simp)
    · cases item with
      | test t =>
        obtain rfl : t = test := by simpa using htest
        exact ⟨_, hitem, htext⟩
      | plan p => exact absurd htest (by simp)
      | diagnostic said => exact absurd htest (by simp)
  · rintro ⟨item, hitem, htext⟩
    cases item with
    | plan p => exact absurd htext List.not_mem_nil
    | diagnostic said =>
      obtain rfl := List.mem_singleton.mp htext
      exact Or.inl ⟨_, hitem, rfl⟩
    | test t => exact Or.inr ⟨t, ⟨_, hitem, rfl⟩, htext⟩

end Document

/-! ## §4. The lines of a summary. -/

theorem Text.joinWith_eq_intercalate (separator : Text) (ts : List Text) :
    joinWith separator ts = separator.intercalate ts := by
  induction ts with
  | nil => rfl
  | cons t ts ih =>
    cases ts with
    | nil => simp [joinWith]
    | cons u us => rw [joinWith, ih, List.intercalate_cons_cons]; simp

namespace Document

theorem newline_notMem_afterBlank {t : Option Text} (h : ∀ text ∈ t.toList, '\n' ∉ text) :
    '\n' ∉ afterBlank t := by
  unfold afterBlank
  split
  · exact List.not_mem_nil
  · exact List.not_mem_nil
  · rw [List.mem_cons, not_or]
    exact ⟨by decide, h _ (by simp)⟩

theorem newline_notMem_failureLine {t : Title} (h : ∀ text ∈ t.texts, '\n' ∉ text) :
    '\n' ∉ failureLine t := by
  have hnumber : '\n' ∉ afterBlank (t.number.map Text.ofInt) := by
    apply newline_notMem_afterBlank
    intro text htext
    rw [Option.mem_toList, Option.map_eq_some_iff] at htext
    obtain ⟨n, -, rfl⟩ := htext
    exact Text.newline_notMem_ofInt n
  have hdescription := newline_notMem_afterBlank (List.forall_mem_append.mp h).1
  unfold failureLine
  rw [List.mem_append, List.mem_append, not_or, not_or]
  exact ⟨⟨by decide, hnumber⟩, hdescription⟩

/-- No line of a summary holds a newline if no text of the document does. -/
theorem newline_notMem_summaryLines {d : Document} (h : ∀ text ∈ d.texts, '\n' ∉ text) :
    ∀ line ∈ d.summaryLines, '\n' ∉ line := by
  have hfailures : ∀ line ∈ (d.tests.filter (!·.title.ok)).map (failureLine ·.title),
      '\n' ∉ line := by
    rw [List.forall_mem_map]
    intro t ht
    refine newline_notMem_failureLine fun text htext => h text ?_
    refine List.mem_append_right _ (List.mem_flatMap.mpr ⟨t, (List.mem_filter.mp ht).1, ?_⟩)
    exact List.mem_append_left _ htext
  have hplan : ∀ line ∈ (d.plan.map fun p =>
      "plan: ".toList ++ Text.ofInt p.start ++ "..".toList ++ Text.ofInt p.through).toList,
      '\n' ∉ line := by
    intro line hline
    rw [Option.mem_toList, Option.map_eq_some_iff] at hline
    obtain ⟨p, -, rfl⟩ := hline
    simp [Text.newline_notMem_ofInt]
  simp only [summaryLines, List.forall_mem_append, List.forall_mem_singleton]
  refine ⟨⟨⟨⟨?_, hplan⟩, ?_⟩, hfailures⟩, ?_⟩
  · simp [Text.newline_notMem_ofInt]
  · simp [Text.newline_notMem_ofNat]
  · simp [Text.newline_notMem_ofNat]

/-- **The lines are read off the summary** of a document whose texts hold no
newline. -/
theorem splitOn_summary {d : Document} (h : ∀ text ∈ d.texts, '\n' ∉ text) :
    d.summary.splitOn '\n' = d.summaryLines := by
  rw [summary, Text.joinWith_eq_intercalate]
  exact List.splitOn_intercalate '\n' (newline_notMem_summaryLines h) (by simp [summaryLines])

end Document

/-! ## §5. The summary of a stream. -/

namespace Report

variable {s : RawSettings} {content : Content} {next : Cursor}

/-- What lines without newlines say holds none. -/
theorem newline_notMem_texts_of_lines {layout : Layout} {lines : List Line}
    (hindent : 0 ≤ layout.indent) (hlines : ∀ line ∈ lines, '\n' ∉ line)
    (h : ofLines layout lines = .ok (.matched content next)) :
    ∀ text ∈ content.document.texts, '\n' ∉ text := by
  obtain ⟨body, hbody, -, rfl, -⟩ := exists_of_matched hindent rfl h
  have hnl : ∀ line ∈ body, '\n' ∉ line :=
    fun line hline => hlines line ((body_suffix hbody).mem hline)
  intro text htext
  obtain ⟨item, hitem, htext⟩ := Document.mem_texts_ofItems.mp htext
  exact newline_notMem_takeItems hnl item hitem text htext

theorem newline_notMem_texts_of_pieces {pieces : List Piece}
    (h : parse s (.pieces pieces) = .ok (.matched content next)) :
    ∀ text ∈ content.document.texts, '\n' ∉ text := by
  -- the settings are valid and the stream has lines, or there is no report
  unfold parse at h
  split at h
  · exact absurd h (by simp)
  next valid hvalid =>
  split at h
  · exact absurd h (by simp)
  next lines hlines =>
  cases hread : ofLines (.ofSettings valid) lines with
  | error e => rw [hread] at h; exact absurd h (by simp [Except.mapError])
  | ok outcome =>
    rw [hread] at h
    obtain rfl := Except.ok.inj h
    exact newline_notMem_texts_of_lines (Settings.check_eq_ok_iff.mp hvalid).2.indentLevel_nonneg
      (newline_notMem_of_allLines hlines) hread

/-- **The summary of a stream that is a report.**  No text of the document holds
a newline, every test passed or failed, and the lines of the summary are the
version, the plan if there is one, the counts, each failing test in order with
its number and description, and the number of diagnostics. -/
theorem summary_of_matched {pieces : List Piece}
    (h : parse s (.pieces pieces) = .ok (.matched content next)) :
    let d := content.document
    (∀ text ∈ d.texts, '\n' ∉ text)
      ∧ d.passed + d.failed = d.tests.length
      ∧ d.summary.splitOn '\n'
        = ["TAP version ".toList ++ Text.ofInt d.version]
          ++ (d.plan.map fun p =>
              "plan: ".toList ++ Text.ofInt p.start ++ "..".toList ++ Text.ofInt p.through).toList
          ++ ["tests: ".toList ++ Text.ofNat d.tests.length ++ " (".toList ++ Text.ofNat d.passed
              ++ " passed, ".toList ++ Text.ofNat d.failed ++ " failed)".toList]
          ++ (d.tests.filter (!·.title.ok)).map (fun t => "  not ok".toList
              ++ Document.afterBlank (t.title.number.map Text.ofInt)
              ++ Document.afterBlank t.title.description)
          ++ ["diagnostics: ".toList ++ Text.ofNat d.diagnostics.length]
      ∧ (d.summary.splitOn '\n').length = 3 + (if d.plan.isSome then 1 else 0) + d.failed := by
  intro d
  have htexts := newline_notMem_texts_of_pieces h
  have hlines : d.summary.splitOn '\n' = d.summaryLines := Document.splitOn_summary htexts
  refine ⟨htexts, d.passed_add_failed, hlines, ?_⟩
  rw [hlines, Document.length_summaryLines]

/-- A report with a failing test. -/
def failingText : Text :=
  "TAP version 13\r\nnot ok 2 - é # todo\n  ---\n  a\n  ...\n1..2\n# d".toList

/-- Its bytes in two pieces, the second of which begins inside a character. -/
def failingChunks : List Bytes :=
  [(Utf8.encode failingText).take 28, (Utf8.encode failingText).drop 28]

/-- Its lines. -/
def failingLines : List Line :=
  ["TAP version 13".toList, "not ok 2 - é # todo".toList, "  ---".toList, "  a".toList,
    "  ...".toList, "1..2".toList, "# d".toList]

/-- What it says. -/
def failingContent : Content :=
  ⟨13, [.test ⟨⟨false, some 2, some "- é".toList, some "todo".toList⟩, ["a".toList]⟩,
    .plan ⟨1, 2⟩, .diagnostic ['d']], .atEnd⟩

theorem allLines_failingChunks :
    allLines (failingChunks.map .bytes) = .ok failingLines := by
  have hflatten : failingChunks.flatten = Utf8.encode failingText := by simp [failingChunks]
  have hlines : (Text.splitLines failingText).map Text.trimEnd = failingLines := by decide
  have hread := readout_readLines failingChunks
  rw [hflatten] at hread
  unfold allLines
  rw [hread.of_text, hlines]

theorem parse_failingChunks :
    parse .standard (.pieces (failingChunks.map .bytes))
      = .ok (.matched failingContent ⟨failingLines.toArray, 7, 0, []⟩) := by
  have hvalid : Settings.standard.Valid := ⟨by decide, by decide, by decide, by decide⟩
  have hparse : parse .standard (.pieces (failingChunks.map .bytes))
      = parse .standard (.lines failingLines) := parse_pieces_eq hvalid allLines_failingChunks
  rw [hparse]
  rfl

/-- Its summary has five lines, one of them for the failing test. -/
theorem summary_failingChunks :
    parse .standard (.pieces (failingChunks.map .bytes))
        = .ok (.matched failingContent ⟨failingLines.toArray, 7, 0, []⟩)
      ∧ failingContent.document.summary.splitOn '\n'
        = ["TAP version 13".toList, "plan: 1..2".toList, "tests: 1 (0 passed, 1 failed)".toList,
          "  not ok 2 - é".toList, "diagnostics: 1".toList]
      ∧ (failingContent.document.summary.splitOn '\n').length = 5 := by
  obtain ⟨-, -, hlines, hlength⟩ := summary_of_matched parse_failingChunks
  exact ⟨parse_failingChunks, hlines, hlength⟩

end Report

end TapReport
