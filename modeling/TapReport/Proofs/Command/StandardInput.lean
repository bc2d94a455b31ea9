/-
  TapReport.Proofs.Command.StandardInput
  ──────────────────────────────────────
  **A FILE, OR THE SAME BYTES ON THE STANDARD INPUT.**

  A run on a file and a run on the standard input go different ways: the one
  looks for the file, takes its settings from the folder of the file and
  checks its size, the other does nothing of that.  For a file in the current
  folder they come to the same answer to the same bytes, except for what the
  bytes are called where something is wrong with them.

  All that is known of the console is that a command may rely on it.  What it
  shows may lose what follows an escape character: part of a summary, and of a
  name that holds one.  JSON holds none.

      Command.answerBytes   a run on bytes that go by a name
      Command.SameButName   two answers that differ in that name only
      Command.Finds         there is a document to write
      Command.Comparable    when the two runs are compared

  Main results:
    * `Command.fulfil_file`, `Command.fulfil_standardInput` — both runs are
      runs on bytes.
    * `Command.run_standardInput` — the two runs, and when they write a
      document.
    * `Command.colours_are_lost` — not everything is written as it is.
-/
import TapReport.Proofs.Command.PlainConsole
import TapReport.Proofs.Data.Json
import TapReport.Proofs.Report.FromFile
import TapReport.Command.Run

namespace TapReport

/-! ## §1. Names as paths. -/

namespace Path

variable {name : Text}

theorem names_of_isPart (h : IsPart name) : names name = [name] := by
  simp [names, parts_of_notMem h.slash_notMem, h.ne_nil, h.ne_here]

theorem head?_ne_slash (h : IsPart name) : name.head? ≠ some '/' :=
  fun hhead => h.slash_notMem (List.mem_of_mem_head? hhead)

theorem tidy_of_isPart (h : IsPart name) : tidy name = name := by
  have hroot : rootText name = [] := by
    cases name with
    | nil => rfl
    | cons c name =>
      have hc : c ≠ '/' := by simpa using head?_ne_slash h
      simp [rootText, hc]
  unfold tidy
  rw [hroot, names_of_isPart h]
  split
  · next heq => exact absurd heq h.ne_nil
  · rfl

/-- A name in a folder stands for the place of that name in it. -/
theorem resolve_of_isPart (h : IsPart name) (here : Place) :
    resolve here name = here ++ [name] := by
  have habsolute : isAbsolute name = false := by simpa [isAbsolute] using head?_ne_slash h
  have hstep : step here name = here ++ [name] := if_neg h.ne_back
  simp [resolve, names_of_isPart h, habsolute, hstep]

end Path

namespace Command

/-! ## §2. Bytes that go by a name. -/

/-- Answers a request with what some bytes are, that go by a name. -/
def answerBytes (console : Console) (around : Surroundings) (r : Request) (name : Text)
    (b : Bytes) : Except CommandFault Answer :=
  match Settings.build around.toHost around.here.toPath r.overrides with
  | .error (.settings e) => .ok (console.refused e.message)
  | .error e => .error (.load e)
  | .ok s =>
    answer console r ((Report.parse (s.map .int) (.pieces ((cutPieces b).map .bytes))).mapError
      (SourceFault.inFile name))

theorem valid_of_build {host : Host} {path : Text} {overrides : Table} {s : Settings Int}
    (h : Settings.build host path overrides = .ok s) : s.Valid := by
  unfold Settings.build at h
  split at h
  · exact absurd h (by simp)
  cases hloaded : RawSettings.load host path with
  | error e =>
    rw [hloaded] at h
    exact absurd h (by simp [Except.bind])
  | ok loaded =>
    rw [hloaded] at h
    change Settings.afterOverrides overrides loaded = .ok s at h
    unfold Settings.afterOverrides at h
    split at h
    · exact absurd h (by simp)
    · next raw _ =>
      cases hcheck : Settings.check raw with
      | error e =>
        rw [hcheck] at h
        exact absurd h (by simp [Except.mapError])
      | ok valid =>
        rw [hcheck] at h
        obtain rfl : valid = s := Except.ok.inj h
        exact (Settings.check_eq_ok_iff.mp hcheck).2

variable {console : Console} {around : Surroundings} {r : Request} {b : Bytes}

/-- A run is a run on bytes if the settings are those of the current folder, and
the bytes are what is read. -/
theorem fulfil_eq_answerBytes {input : Bytes} {name : Text}
    (hfolder : settingsPath around.toHost r.path = .ok around.here.toPath)
    (hread : ∀ s, Settings.build around.toHost around.here.toPath r.overrides = .ok s →
      readReport around input s r.path
        = (Report.parse (s.map .int) (.pieces ((cutPieces b).map .bytes))).mapError
            (SourceFault.inFile name)) :
    fulfil console around input r = answerBytes console around r name b := by
  unfold fulfil answerBytes loadSettings
  rw [hfolder]
  dsimp only
  cases hsettings : Settings.build around.toHost around.here.toPath r.overrides with
  | error e => cases e <;> rfl
  | ok s => exact congrArg (answer console r) (hread s hsettings)

/-- **The standard input** goes by a name of its own. -/
theorem fulfil_standardInput (hpath : r.path = Request.standardInput) :
    fulfil console around b r = answerBytes console around r "<stdin>".toList b := by
  apply fulfil_eq_answerBytes
  · rw [hpath]
    rfl
  · intro s _
    rw [hpath]
    rfl

/-- A file in the current folder, no link, that may be read. -/
structure HasFile (host : Host) (f : Text) (b : Bytes) : Prop where
  /-- Its name is one part of a path. -/
  isPart : IsPart f
  /-- And does not begin like an option. -/
  head?_ne : f.head? ≠ some '-'
  /-- It is a file of that many bytes. -/
  look_eq : host.look f = .ok (.file b.length)
  /-- These are its bytes. -/
  read_eq : host.read f = .ok b
  /-- It stands in the current folder. -/
  resolve_eq : host.resolve f = .ok (host.here ++ [f])

variable {f : Text}

theorem HasFile.ne_standardInput (h : HasFile around.toHost f b) : f ≠ Request.standardInput := by
  rintro rfl
  exact h.head?_ne rfl

/-- With a tree for its files, a host has the files of the tree. -/
theorem hasFile_host {files : FileTree} {here : Place} {room : Text → Nat}
    (hname : FileTree.IsName f) (hhead : f.head? ≠ some '-')
    (hat : files.at? (here ++ [f]) = some (.file b)) : HasFile (files.host here room) f b := by
  have hlocate : files.locate here f = .ok (.file b) := by
    rw [FileTree.at?_append] at hat
    obtain ⟨folder, hfolder, hat⟩ := Option.bind_eq_some_iff.mp hat
    obtain ⟨found, hlookup, hat⟩ := Option.bind_eq_some_iff.mp hat
    obtain rfl : found = .file b := Option.some.inj hat
    cases folder with
    | file _ => exact absurd hlookup (by simp [FileTree.entries])
    | folder entries =>
      rw [FileTree.locate_name hname hfolder]
      change entries.lookup f = some (.file b) at hlookup
      rw [hlookup]
  refine ⟨hname.toIsPart, hhead, ?_, ?_, ?_⟩
  · rw [FileTree.host_look, hlocate]
    rfl
  · rw [FileTree.host_read, FileTree.read, hlocate]
  · rw [FileTree.resolve_host hname.nul_notMem, Path.resolve_of_isPart hname.toIsPart]
    rfl

/-- **A file** in the current folder goes by its own name, if no size limit
keeps it from being read. -/
theorem fulfil_file (hfile : HasFile around.toHost f b) (henv : around.sizeLimit = none)
    (hsize : ∀ s, Settings.build around.toHost around.here.toPath r.overrides = .ok s →
      b.length ≤ s.maxFileSize)
    (hpath : r.path = f) (input : Bytes) :
    fulfil console around input r = answerBytes console around r f b := by
  have hne := hfile.ne_standardInput
  have htidy := Path.tidy_of_isPart hfile.isPart
  apply fulfil_eq_answerBytes
  · unfold settingsPath
    rw [hpath, if_neg hne, hfile.resolve_eq]
    show Except.ok (Place.toPath (around.here ++ [f]).dropLast) = _
    rw [List.dropLast_concat]
  · intro s hs
    have hlimit : sizeLimit around.sizeLimit s.maxFileSize = .ok s.maxFileSize := by
      rw [henv]
      rfl
    have hfinds : around.FindsWithin s.maxFileSize f b := by
      constructor
      · rw [htidy]
        exact ⟨b.length, hfile.look_eq, hsize s hs⟩
      · rw [htidy]
        exact hfile.read_eq
    have hbytes := Surroundings.contentWithin_of_finds hfinds
    unfold readReport
    rw [hpath, if_neg hne, Report.ofFile_eq (valid_of_build hs) hlimit hbytes, htidy]

/-! ## §3. Answers that differ in a name. -/

/-- Two ends of runs that are the same except for a name in what is told of a
failure; what is told goes through a filter. -/
inductive SameButName (shown : Text → Text) (name name' : Text) :
    Except CommandFault Answer → Except CommandFault Answer → Prop
  /-- Both end with one fault. -/
  | fault (e : CommandFault) : SameButName shown name name' (.error e) (.error e)
  /-- Both end with one answer. -/
  | answer (a : Answer) : SameButName shown name name' (.ok a) (.ok a)
  /-- Both fail, and tell it with their names. -/
  | named (code : Nat) (output before after : Text) :
    SameButName shown name name' (.ok ⟨code, output, shown (before ++ name ++ after)⟩)
      (.ok ⟨code, output, shown (before ++ name' ++ after)⟩)

section Failures

variable (hconsole : console.Lawful)
include hconsole

/-- A failure is told with a name in it. -/
theorem sameButName_failed (lead name name' more : Text) :
    SameButName console.shown name name'
      (.ok (console.failed (lead ++ name ++ more)))
      (.ok (console.failed (lead ++ name' ++ more))) := by
  have hassoc : ∀ n : Text, "Error: ".toList ++ (lead ++ n ++ more) ++ ['\n']
      = ("Error: ".toList ++ lead) ++ n ++ (more ++ ['\n']) := by
    intro n
    generalize "Error: ".toList = start
    simp only [List.append_assoc]
  rw [hconsole.failed_eq, hconsole.failed_eq, hassoc, hassoc]
  exact .named 1 [] _ _

/-- Names without escape characters are told as they are. -/
theorem sameButName_failed_literal {lead name name' : Text} (hlead : Text.escape ∉ lead)
    (hname : Text.escape ∉ name) (hname' : Text.escape ∉ name') (more : Text) :
    SameButName id name name'
      (.ok (console.failed (lead ++ name ++ more)))
      (.ok (console.failed (lead ++ name' ++ more))) := by
  have hstart : Text.escape ∉ "Error: ".toList := by decide
  have hkept : ∀ n : Text, Text.escape ∉ n →
      console.shown ("Error: ".toList ++ (lead ++ n ++ more) ++ ['\n'])
        = ("Error: ".toList ++ lead) ++ n ++ console.shown (more ++ ['\n']) := by
    intro n hn
    generalize "Error: ".toList = start at hstart
    have hfront : Text.escape ∉ start ++ lead ++ n := by simp [hstart, hlead, hn]
    rw [← hconsole.shown_append hfront]
    simp only [List.append_assoc]
  rw [hconsole.failed_eq, hconsole.failed_eq, hkept name hname, hkept name' hname']
  exact .named 1 [] _ _

end Failures

/-- Who does not ask for progress is told of the lines alone. -/
theorem respond_eq (hverbose : r.verbose = false) (found : Outcome Report.Content) :
    respond console r found = match found with
      | .mismatched reason place =>
        console.failed (sourceName r.path ++ [':'] ++ reason.report place)
      | .matched content _ =>
        ⟨0, console.shown (write r.format content.document ++ ['\n']), []⟩ := by
  have hprogress : progress r found = [] := by simp [progress, hverbose]
  unfold respond
  rw [hprogress]
  cases found <;> rfl

/-- **Bytes that go by two names** come to answers that differ in these. -/
theorem sameButName_answerBytes {shown : Text → Text} {r r' : Request} {name name' : Text}
    (hoverrides : r.overrides = r'.overrides) (hformat : r.format = r'.format)
    (hverbose : r.verbose = false) (hverbose' : r'.verbose = false)
    (hname : sourceName r.path = name) (hname' : sourceName r'.path = name')
    (hfail : ∀ lead more, Text.escape ∉ lead → SameButName shown name name'
      (.ok (console.failed (lead ++ name ++ more)))
      (.ok (console.failed (lead ++ name' ++ more)))) :
    SameButName shown name name' (answerBytes console around r name b)
      (answerBytes console around r' name' b) := by
  unfold answerBytes
  rw [← hoverrides]
  cases Settings.build around.toHost around.here.toPath r.overrides with
  | error e => cases e <;> constructor
  | ok s =>
    dsimp only
    -- what is wrong with the bytes is told with the name, all else without it
    cases Report.parse (s.map .int) (.pieces ((cutPieces b).map .bytes)) with
    | error e =>
      cases e with
      | settings e => exact .answer _
      | reading e => exact .fault _
      | stream e =>
        have hmessage : ∀ n : Text, FileReportFault.message (SourceFault.inFile n (.stream e))
            = "Invalid UTF-8 sequence in ".toList ++ n ++ (": ".toList ++ e.message) :=
          fun n => List.append_assoc _ _ _
        show SameButName shown name name' (.ok (console.failed _)) (.ok (console.failed _))
        rw [hmessage, hmessage]
        exact hfail _ _ (by decide)
    | ok found =>
      show SameButName shown name name' (.ok (respond console r found))
        (.ok (respond console r' found))
      rw [respond_eq hverbose, respond_eq hverbose']
      cases found with
      | matched content next =>
        dsimp only
        rw [hformat]
        exact .answer _
      | mismatched reason place =>
        dsimp only
        rw [hname, hname', List.append_assoc, List.append_assoc]
        exact hfail [] _ List.not_mem_nil

/-! ## §4. When a document is written. -/

/-- The settings of the current folder, with overrides, are valid, and under
them the bytes are a report of this content. -/
def Finds (around : Surroundings) (overrides : Table) (b : Bytes) (content : Report.Content) :
    Prop :=
  ∃ s next, Settings.build around.toHost around.here.toPath overrides = .ok s
    ∧ Report.parse (s.map .int) (.pieces ((cutPieces b).map .bytes)) = .ok (.matched content next)

/-- What is written of a document: in the format asked for, ended by a
newline. -/
def written (format : Format) (d : Document) : Text :=
  write format d ++ ['\n']

/-- JSON is written without escape characters. -/
theorem escape_notMem_written {format : Format} {d : Document}
    (h : format = .json ∨ Text.escape ∉ write format d) : Text.escape ∉ written format d := by
  unfold written
  rw [List.mem_append, not_or]
  refine ⟨?_, by decide⟩
  rcases h with rfl | h
  · exact d.toJson.escape_notMem_toText
  · exact h

theorem answerBytes_of_finds {name : Text} {content : Report.Content} (hverbose : r.verbose = false)
    (h : Finds around r.overrides b content) :
    answerBytes console around r name b
      = .ok ⟨0, console.shown (written r.format content.document), []⟩ := by
  obtain ⟨s, next, hsettings, hparse⟩ := h
  simp only [answerBytes, hsettings, hparse]
  show Except.ok (respond console r (.matched content next)) = _
  rw [respond_eq hverbose]
  rfl

/-- Where there is no document nothing is written, and the exit code says
so. -/
theorem answerBytes_of_not_finds {name : Text} {a : Answer} (hconsole : console.Lawful)
    (hverbose : r.verbose = false) (h : ∀ content, ¬ Finds around r.overrides b content)
    (ha : answerBytes console around r name b = .ok a) : a.code ≠ 0 ∧ a.output = [] := by
  have hfailed : ∀ reason, a = console.failed reason → a.code ≠ 0 ∧ a.output = [] := by
    rintro reason rfl
    rw [hconsole.failed_eq]
    exact ⟨Nat.succ_ne_zero _, rfl⟩
  unfold answerBytes at ha
  cases hsettings : Settings.build around.toHost around.here.toPath r.overrides with
  | error e =>
    rw [hsettings] at ha
    cases e with
    | settings e =>
      obtain rfl := Except.ok.inj ha
      rw [hconsole.refused_code]
      exact ⟨Nat.succ_ne_zero _, hconsole.refused_output _⟩
    | _ => exact absurd ha (by simp)
  | ok s =>
    rw [hsettings] at ha
    dsimp only at ha
    cases hparse : Report.parse (s.map .int) (.pieces ((cutPieces b).map .bytes)) with
    | error e =>
      rw [hparse] at ha
      cases e with
      | reading e => exact absurd ha (by simp [answer, SourceFault.inFile, Except.mapError])
      | _ => exact hfailed _ (Except.ok.inj ha).symm
    | ok found =>
      rw [hparse] at ha
      cases found with
      | matched content next => exact absurd ⟨s, next, hsettings, hparse⟩ (h content)
      | mismatched reason place =>
        have hrespond := (Except.ok.inj ha).symm
        rw [respond_eq hverbose] at hrespond
        exact hfailed _ hrespond

/-! ## §5. The two runs. -/

/-- A file in the current folder and options, both as they should be. -/
structure Comparable (around : Surroundings) (f : Text) (b : Bytes) (options : List Text)
    (given : List Given) : Prop where
  /-- The file stands in the current folder. -/
  hasFile : HasFile around.toHost f b
  /-- The environment sets no size limit. -/
  sizeLimit_eq : around.sizeLimit = none
  /-- And the settings, if they are valid, allow a file of its size. -/
  length_le : ∀ s, Settings.build around.toHost around.here.toPath
    (Request.ofGiven given f).overrides = .ok s → b.length ≤ s.maxFileSize
  /-- The options are written as they are declared. -/
  spelled : Spelled given options
  /-- They have values of the kinds that they take. -/
  wellFormed : ∀ g ∈ given, g.WellFormed

/-- Options with values do not ask for how reading went. -/
theorem verbose_eq_false {given : List Given} (h : ∀ g ∈ given, g.WellFormed) (path : Text) :
    (Request.ofGiven given path).verbose = false := by
  show given.any (·.option = .verbose) = false
  rw [List.any_eq_false]
  intro g hg hverbose
  have hvalue := (h g hg).takesValue
  rw [of_decide_eq_true hverbose] at hvalue
  exact absurd hvalue (by decide)

section Runs

variable {f : Text} {b : Bytes} {options : List Text} {given : List Given}

theorem run_file_eq (hconsole : console.Lawful) (h : Comparable around f b options given)
    (input : Bytes) : run console around input (options ++ [f])
      = answerBytes console around (.ofGiven given f) f b := by
  have hreadable : IsReadable around.toHost f :=
    ⟨h.hasFile.head?_ne, ⟨_, h.hasFile.look_eq⟩, ⟨_, h.hasFile.read_eq⟩⟩
  unfold run
  rw [hconsole.understand_eq h.spelled h.wellFormed (.inr hreadable)]
  exact fulfil_file h.hasFile h.sizeLimit_eq h.length_le rfl input

theorem run_input_eq (hconsole : console.Lawful) (h : Comparable around f b options given) :
    run console around b (options ++ ["-".toList])
      = answerBytes console around (.ofGiven given Request.standardInput) "<stdin>".toList b := by
  have hunderstand : console.understand around.toHost (options ++ ["-".toList]) = _ :=
    hconsole.understand_eq h.spelled h.wellFormed (.inl rfl)
  unfold run
  rw [hunderstand]
  exact fulfil_standardInput rfl

/-- **A file in the current folder, or its bytes on the standard input.**
Both runs end the same way, except that what is told of a failure has the
name of the file where it else has `<stdin>`: before it is shown, and also after
that if the name holds no escape character.  Either run ends with exit code 0
exactly if there is a document; then that is shown, and otherwise nothing is
written.  What is shown of it is all of it, unless it is a summary with an escape
character. -/
theorem run_standardInput (hconsole : console.Lawful) (h : Comparable around f b options given)
    (input : Bytes) :
    SameButName console.shown f "<stdin>".toList
        (run console around input (options ++ [f])) (run console around b (options ++ ["-".toList]))
      ∧ (Text.escape ∉ f → SameButName id f "<stdin>".toList
        (run console around input (options ++ [f]))
        (run console around b (options ++ ["-".toList])))
      ∧ (∀ result ∈ [run console around input (options ++ [f]),
            run console around b (options ++ ["-".toList])],
        (∀ content, Finds around (Request.ofGiven given f).overrides b content →
            result = .ok ⟨0, console.shown
              (written (Request.ofGiven given f).format content.document), []⟩)
          ∧ ((∀ content, ¬ Finds around (Request.ofGiven given f).overrides b content) →
            ∀ a, result = .ok a → a.code ≠ 0 ∧ a.output = []))
      ∧ ∀ format d, format = .json ∨ Text.escape ∉ write format d →
        console.shown (written format d) = written format d := by
  have hverbose := verbose_eq_false h.wellFormed
  have hsource : sourceName (Request.ofGiven given f).path = f :=
    if_neg h.hasFile.ne_standardInput
  rw [run_file_eq hconsole h, run_input_eq hconsole h]
  refine ⟨?_, ?_, ?_, fun format d hd => hconsole.shown_of_notMem (escape_notMem_written hd)⟩
  · exact sameButName_answerBytes rfl rfl (hverbose _) (hverbose _) hsource rfl
      fun lead more _ => sameButName_failed hconsole lead f "<stdin>".toList more
  · intro hescape
    exact sameButName_answerBytes rfl rfl (hverbose _) (hverbose _) hsource rfl
      fun lead more hlead => sameButName_failed_literal hconsole hlead hescape (by decide) more
  · simp only [List.mem_cons, List.not_mem_nil, or_false]
    rintro result (rfl | rfl)
    · exact ⟨fun content hfinds => answerBytes_of_finds (hverbose _) hfinds,
        fun hno a ha => answerBytes_of_not_finds hconsole (hverbose _) hno ha⟩
    · exact ⟨fun content hfinds =>
          answerBytes_of_finds (r := .ofGiven given Request.standardInput) (hverbose _) hfinds,
        fun hno a ha => answerBytes_of_not_finds
          (r := .ofGiven given Request.standardInput) hconsole (hverbose _) hno ha⟩

end Runs

/-! ## §6. What is shown of colours. -/

/-- A failing test whose description is coloured for a terminal. -/
def colouredReport : Text :=
  "TAP version 13\nnot ok 1 \x1b[31mred\x1b[0m\n  ---\n  ...\n".toList

/-- Its lines. -/
def colouredLines : List Line :=
  ["TAP version 13".toList, "not ok 1 \x1b[31mred\x1b[0m".toList, "  ---".toList, "  ...".toList]

/-- What is read of it. -/
def colouredContent : Report.Content :=
  ⟨13, [.test ⟨⟨false, some 1, some "\x1b[31mred\x1b[0m".toList, none⟩, []⟩], .atEnd⟩

/-- A folder with that report in a file. -/
def colouredFolder : Surroundings where
  toHost := FileTree.host (.folder [("r.tap".toList, .file (Utf8.encode colouredReport))]) []
    Host.usualRoom
  sizeLimit := none

/-- The option for a summary. -/
def summaryOptions : List Text :=
  ["--format".toList, "summary".toList]

/-- The same, taken apart. -/
def summaryGiven : List Given :=
  [⟨.format, "summary".toList⟩]

theorem build_colouredFolder :
    Settings.build colouredFolder.toHost colouredFolder.here.toPath
      (Request.ofGiven summaryGiven "r.tap".toList).overrides = .ok .standard := rfl

theorem comparable_coloured :
    Comparable colouredFolder "r.tap".toList (Utf8.encode colouredReport) summaryOptions
      summaryGiven where
  hasFile := hasFile_host ⟨⟨by decide, by decide, by decide, by decide, by decide⟩, by decide⟩
    (by decide) rfl
  sizeLimit_eq := rfl
  length_le := by
    intro s hs
    rw [build_colouredFolder] at hs
    obtain rfl := Except.ok.inj hs
    decide
  spelled := .apart ⟨.format, "summary".toList⟩ .nil
  wellFormed := by
    intro g hg
    obtain rfl := List.mem_singleton.mp hg
    exact .format (show Format.ofName? "summary".toList = some .summary by decide)

theorem finds_coloured :
    Finds colouredFolder (Request.ofGiven summaryGiven "r.tap".toList).overrides
      (Utf8.encode colouredReport) colouredContent := by
  have hlines : (Text.splitLines colouredReport).map Text.trimEnd = colouredLines := rfl
  have hcheck : RawSettings.standard.check = .ok Settings.standard := rfl
  have hparse : Report.parse .standard (.lines colouredLines)
      = .ok (.matched colouredContent ⟨⟨colouredLines⟩, 4, 0, []⟩) := rfl
  refine ⟨.standard, ⟨⟨colouredLines⟩, 4, 0, []⟩, build_colouredFolder, ?_⟩
  have htext := Report.parse_text hcheck (flatten_cutPieces (Utf8.encode colouredReport))
  rw [hlines, hparse] at htext
  exact htext

/-- Its summary without the colour. -/
def plainSummary : Text :=
  "TAP version 13\ntests: 1 (0 passed, 1 failed)\n  not ok 1 red\ndiagnostics: 0\n".toList

/-- What a plain console shows of the coloured report. -/
theorem shown_coloured (hconsole : console.Lawful) (hplain : console.IsPlain) :
    console.shown (written .summary colouredContent.document) = plainSummary := by
  have hwritten : written .summary colouredContent.document
      = "TAP version 13\ntests: 1 (0 passed, 1 failed)\n  not ok 1 ".toList
        ++ (Text.colourCode "31".toList ++ ("red".toList
        ++ (Text.colourCode "0".toList ++ "\ndiagnostics: 0\n".toList))) := by decide
  rw [hwritten, hconsole.shown_append (by decide), hplain (by simp),
    hconsole.shown_append (by decide), hplain (by simp), hconsole.shown_of_notMem (by decide)]
  rfl

theorem run_standardInput_coloured :
    Console.plain.Lawful
      ∧ Comparable colouredFolder "r.tap".toList (Utf8.encode colouredReport) summaryOptions
        summaryGiven
      ∧ SameButName id "r.tap".toList "<stdin>".toList
        (run .plain colouredFolder [] (summaryOptions ++ ["r.tap".toList]))
        (run .plain colouredFolder (Utf8.encode colouredReport) (summaryOptions ++ ["-".toList]))
      ∧ run .plain colouredFolder (Utf8.encode colouredReport) (summaryOptions ++ ["-".toList])
        = .ok ⟨0, plainSummary, []⟩ := by
  obtain ⟨-, hsame, hresult, -⟩ := run_standardInput Console.plain_lawful comparable_coloured []
  have hinput := (hresult
    (run .plain colouredFolder (Utf8.encode colouredReport) (summaryOptions ++ ["-".toList]))
    (List.mem_cons_of_mem _ List.mem_cons_self)).1 colouredContent finds_coloured
  refine ⟨Console.plain_lawful, comparable_coloured, hsame (by decide), ?_⟩
  have hshown := shown_coloured Console.plain_lawful Console.plain_isPlain
  rw [hinput]
  show Except.ok (Answer.mk 0 (Console.plain.shown (written .summary colouredContent.document)) [])
    = _
  rw [hshown]

/-- A file whose name is coloured, and which holds no report. -/
def colouredName : Text :=
  "\x1b[31mr.tap".toList

/-- A folder with that file. -/
def namedFolder : Surroundings where
  toHost := FileTree.host (.folder [(colouredName, .file [0x78])]) [] Host.usualRoom
  sizeLimit := none

theorem build_namedFolder (path : Text) :
    Settings.build namedFolder.toHost namedFolder.here.toPath (Request.ofGiven [] path).overrides
      = .ok .standard := rfl

theorem comparable_named : Comparable namedFolder colouredName [0x78] [] [] where
  hasFile := hasFile_host ⟨⟨by decide, by decide, by decide, by decide, by decide⟩, by decide⟩
    (by decide) rfl
  sizeLimit_eq := rfl
  length_le := by
    intro s hs
    rw [build_namedFolder] at hs
    obtain rfl := Except.ok.inj hs
    decide
  spelled := .nil
  wellFormed := by simp

/-- What is told of the bytes of that file. -/
theorem answerBytes_named {path name : Text} (hname : sourceName path = name) :
    answerBytes console namedFolder (.ofGiven [] path) name [0x78]
      = .ok (console.failed (name ++ ":0:0: Not a TAP version".toList)) := by
  have hparse : Report.parse (Settings.standard.map .int)
      (.pieces ((cutPieces [0x78]).map .bytes))
        = .ok (.mismatched .notVersion ⟨⟨["x".toList]⟩, 0, 0, []⟩) := rfl
  unfold answerBytes
  rw [build_namedFolder]
  dsimp only
  rw [hparse]
  show Except.ok (respond console _ _) = _
  rw [respond_eq rfl]
  show Except.ok (console.failed (sourceName path ++ [':'] ++ _)) = _
  rw [hname, List.append_assoc]
  rfl

/-- **Not everything is shown as it is**, by any console that a command may
rely on and that leaves colours out; and there is one.  The colours of a failing
test are left out of the summary, of a file and of the standard input; and the
colour of the name of a file is left out of what is told of a failure. -/
theorem colours_are_lost :
    (Console.plain.Lawful ∧ Console.plain.IsPlain)
      ∧ ∀ console : Console, console.Lawful → console.IsPlain →
        (Comparable colouredFolder "r.tap".toList (Utf8.encode colouredReport) summaryOptions
            summaryGiven
          ∧ Finds colouredFolder (Request.ofGiven summaryGiven "r.tap".toList).overrides
            (Utf8.encode colouredReport) colouredContent
          ∧ ∀ result ∈ [run console colouredFolder [] (summaryOptions ++ ["r.tap".toList]),
              run console colouredFolder (Utf8.encode colouredReport)
                (summaryOptions ++ ["-".toList])],
            ∃ a, result = .ok a ∧ a.code = 0
              ∧ a.output ≠ write .summary colouredContent.document ++ ['\n'])
        ∧ Comparable namedFolder colouredName [0x78] [] []
          ∧ run console namedFolder [0x78] ["-".toList]
            = .ok ⟨1, [], "Error: <stdin>:0:0: Not a TAP version\n".toList⟩
          ∧ run console namedFolder [] [colouredName]
            = .ok ⟨1, [], "Error: r.tap:0:0: Not a TAP version\n".toList⟩ := by
  refine ⟨⟨Console.plain_lawful, Console.plain_isPlain⟩, fun console hconsole hplain =>
    ⟨⟨comparable_coloured, finds_coloured, ?_⟩, comparable_named, ?_, ?_⟩⟩
  · have hlost : console.shown (written .summary colouredContent.document)
        ≠ write .summary colouredContent.document ++ ['\n'] := by
      rw [shown_coloured hconsole hplain]
      decide
    rw [run_file_eq hconsole comparable_coloured, run_input_eq hconsole comparable_coloured,
      answerBytes_of_finds rfl finds_coloured,
      answerBytes_of_finds (r := .ofGiven summaryGiven Request.standardInput) rfl finds_coloured]
    simp only [List.mem_cons, List.not_mem_nil, or_false]
    rintro result (rfl | rfl) <;> exact ⟨_, rfl, rfl, hlost⟩
  · have hrun := run_input_eq hconsole comparable_named
    have hsource : sourceName Request.standardInput = "<stdin>".toList := rfl
    rw [answerBytes_named hsource, hconsole.failed_eq, hconsole.shown_of_notMem (by decide)] at hrun
    exact hrun
  · have hrun := run_file_eq hconsole comparable_named []
    have hcolour : "Error: ".toList ++ (colouredName ++ ":0:0: Not a TAP version".toList) ++ ['\n']
        = "Error: ".toList
          ++ (Text.colourCode "31".toList ++ "r.tap:0:0: Not a TAP version\n".toList) := by decide
    have hsource : sourceName colouredName = colouredName := by decide
    rw [answerBytes_named hsource, hconsole.failed_eq, hcolour, hconsole.shown_append (by decide),
      hplain (by simp), hconsole.shown_of_notMem (by decide)] at hrun
    exact hrun

end Command

end TapReport
