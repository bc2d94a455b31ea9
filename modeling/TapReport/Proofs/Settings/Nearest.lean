/-
  TapReport.Proofs.Settings.Nearest
  ─────────────────────────────────
  **THE NEAREST SETTINGS WIN.**

  The candidates are those of the start folder, then those of the folders
  around it up to the root.  Where every file of theirs can be read or is
  rejected, the first candidate whose keys lead to a value decides alone, and
  without one the settings are the standard ones.  Nothing else matters: not
  the candidates after it, not other keys of any file, not a file that is no
  candidate's.

  A file is passed over if it cannot be opened, but the search asks first
  whether there is one, and that question has no answer if the path is too
  long.  Then the search ends with the system's complaint although there may
  be settings further up, and although the start folder may be there:
  `load_outOfReach`.

      Candidate.SameAtKeys   trees that may differ in what does not matter

  Main result:
    * `RawSettings.load_nearest` — which candidate decides, what is loaded,
      and what may change without a difference.
-/
import TapReport.Proofs.Files.Places
import TapReport.Proofs.Settings.Candidates
import TapReport.Proofs.Toml.Lines

namespace TapReport

/-! ## §1. The order of the search. -/

namespace Candidate

variable {files files' : FileTree} {here folder : Place} {room : Text → Nat} {c : Candidate}
  {v : Value} {e : LoadFault}

theorem proper_of_mem_inFolder (h : folder.Proper) (hc : c ∈ inFolder folder) :
    c.file.Proper ∧ c.file ≠ [] := by
  have hfile : ∃ name, IsPart name ∧ c.file = folder ++ [name] := by
    have hproject : IsPart "pyproject.toml".toList := by decide
    have hown : IsPart ".tap-reader.toml".toList := by decide
    simp only [inFolder, List.mem_cons, List.not_mem_nil, or_false] at hc
    rcases hc with rfl | rfl | rfl
    · exact ⟨_, hproject, rfl⟩
    · exact ⟨_, hown, rfl⟩
    · exact ⟨_, hown, rfl⟩
  obtain ⟨name, hname, hfile⟩ := hfile
  rw [hfile]
  refine ⟨fun n hn => ?_, List.append_ne_nil_of_right_ne_nil folder (List.cons_ne_nil name [])⟩
  rcases List.mem_append.mp hn with hn | hn
  · exact h n hn
  · rw [List.mem_singleton.mp hn]
    exact hname

/-- The files of candidates have paths of their own. -/
theorem proper_of_mem_around (h : folder.Proper) (hc : c ∈ around folder) :
    c.file.Proper ∧ c.file ≠ [] := by
  obtain ⟨outer, houter, hc⟩ := List.mem_flatMap.mp hc
  have hfront := Place.mem_upward.mp houter
  exact proper_of_mem_inFolder (fun name hname => h name (hfront.subset hname)) hc

/-- The folders that count are the beginnings of the path to the innermost
one, the longest first. -/
theorem around_eq (folder : Place) : around folder = folder.inits.reverse.flatMap inFolder := by
  have hupward : folder.upward = folder.inits.reverse := by
    induction folder with
    | nil => rfl
    | cons name folder ih =>
      rw [Place.upward, ih, List.inits_cons, List.reverse_cons, List.map_reverse]
  rw [around, hupward]

/-! ## §2. Trees that differ in what does not matter. -/

/-- Trees that may differ for a candidate in other keys of its file and in
what is not on the way to it. -/
structure SameAtKeys (room : Text → Nat) (files files' : FileTree) (c : Candidate) : Prop where
  /-- The folders on the way are the same. -/
  folders : ∀ outer, outer <+: c.file → (files.standing? outer = some .folder ↔
    files'.standing? outer = some .folder)
  /-- The file is the same, or both are documents that agree on the keys. -/
  file : (∀ bytes, files.at? c.file = some (.file bytes) ↔ files'.at? c.file = some (.file bytes))
    ∨ ∃ bytes bytes' table table',
        files.at? c.file = some (.file bytes) ∧ IsDocument room bytes table
        ∧ files'.at? c.file = some (.file bytes') ∧ IsDocument room bytes' table'
        ∧ ∀ v, (Value.table table).Leads c.keys v ↔ (Value.table table').Leads c.keys v

namespace SameAtKeys

theorem symm (h : c.SameAtKeys room files files') : c.SameAtKeys room files' files := by
  constructor
  · exact fun outer houter => (h.folders outer houter).symm
  · rcases h.file with hsame | ⟨bytes, bytes', table, table', hat, hdoc, hat', hdoc', hkeys⟩
    · exact .inl fun bytes => (hsame bytes).symm
    · exact .inr ⟨bytes', bytes, table', table, hat', hdoc', hat, hdoc, fun v => (hkeys v).symm⟩

variable (hfile : c.file.Proper ∧ c.file ≠ [])
include hfile

/-- Both hosts hold the same bytes, or documents that agree on the keys. -/
theorem holds (h : c.SameAtKeys room files files') {bytes : Bytes}
    (hholds : (files.host here room).Holds c.file bytes) :
    (files'.host here room).Holds c.file bytes
      ∨ ∃ bytes' table table', IsDocument room bytes table
        ∧ (files'.host here room).Holds c.file bytes' ∧ IsDocument room bytes' table'
        ∧ ∀ v, (Value.table table).Leads c.keys v ↔ (Value.table table').Leads c.keys v := by
  obtain ⟨hreach, hat⟩ := (FileTree.holds_host_iff hfile.1 hfile.2).mp hholds
  have hreach' : ¬ files'.OutOfReach c.file :=
    fun hout => hreach ((FileTree.outOfReach_congr h.folders).mpr hout)
  rcases h.file with hsame | ⟨bytes₁, bytes', table, table', hat₁, hdoc, hat', hdoc', hkeys⟩
  · exact .inl ((FileTree.holds_host_iff hfile.1 hfile.2).mpr ⟨hreach', (hsame bytes).mp hat⟩)
  · obtain rfl := FileTree.bytes_unique hat hat₁
    have hholds' : (files'.host here room).Holds c.file bytes' :=
      (FileTree.holds_host_iff hfile.1 hfile.2).mpr ⟨hreach', hat'⟩
    exact .inr ⟨bytes', table, table', hdoc, hholds', hdoc', hkeys⟩

theorem present (h : c.SameAtKeys room files files')
    (hpresent : c.Present (files.host here room) v) :
    c.Present (files'.host here room) v := by
  obtain ⟨bytes, table, hholds, hdocument, hleads⟩ := hpresent
  rcases h.holds hfile hholds with hsame | ⟨bytes', table₁, table', hdoc, hholds', hdoc', hkeys⟩
  · exact ⟨bytes, table, hsame, hdocument, hleads⟩
  · obtain rfl := hdocument.unique hdoc
    exact ⟨bytes', table', hholds', hdoc', (hkeys v).mp hleads⟩

theorem fatal (h : c.SameAtKeys room files files') (hfatal : c.Fatal (files.host here room) e) :
    c.Fatal (files'.host here room) e := by
  cases hfatal with
  | refused hrefuses =>
    obtain ⟨rfl, hout⟩ := (FileTree.refuses_host_iff hfile.1 hfile.2).mp hrefuses
    apply Fatal.refused
    rw [FileTree.refuses_host_iff hfile.1 hfile.2]
    exact ⟨rfl, (FileTree.outOfReach_congr h.folders).mp hout⟩
  | unusable hholds hunusable =>
    rcases h.holds hfile hholds with hsame | ⟨-, table, -, hdoc, -, -, -⟩
    · exact .unusable hsame hunusable
    · exact absurd hunusable (not_isUnusable (.inr ⟨table, hdoc⟩))

/-- Such trees leave the candidate as it is. -/
theorem unchanged (h : c.SameAtKeys room files files') :
    c.Unchanged (files.host here room) (files'.host here room) :=
  ⟨fun _ => ⟨h.present hfile, h.symm.present hfile⟩, fun _ => ⟨h.fatal hfile, h.symm.fatal hfile⟩⟩

end SameAtKeys

end Candidate

namespace RawSettings

variable {files : FileTree} {here : Place} {path : Text}

/-! ## §3. Which candidate decides. -/

/-- **The nearest settings win.**  All candidates but the first that is not
passed over, everything else in its file, and every file off the way may
change. -/
theorem load_nearest (room : Text → Nat) (hhere : here.Proper) (hpath : Char.ofNat 0 ∉ path)
    (hfiles : ∀ c ∈ Candidate.around (Path.resolve here path), ∀ bytes,
      files.at? c.file = some (.file bytes) →
        IsRejected room bytes ∨ ∃ table, IsDocument room bytes table) :
    Candidate.around (Path.resolve here path)
        = (Path.resolve here path).inits.reverse.flatMap Candidate.inFolder
    ∧ (∀ c ∈ Candidate.around (Path.resolve here path), ∀ files' : FileTree,
        (∀ bytes, (files'.host here room).Holds c.file bytes ↔
            ¬ files'.OutOfReach c.file ∧ files'.at? c.file = some (.file bytes))
          ∧ ∀ e, (files'.host here room).Refuses c.file e ↔
            e = .nameTooLong ∧ files'.OutOfReach c.file)
    ∧ ((∃ before c after, Candidate.around (Path.resolve here path) = before ++ c :: after
          ∧ (∀ b ∈ before, b.PassedOver (files.host here room))
          ∧ ((∃ v, c.Present (files.host here room) v
              ∧ load (files.host here room) path
                = (ofRaw c.keys c.file.toPath v).mapError .settings)
            ∨ files.OutOfReach c.file
              ∧ load (files.host here room) path
                = .error (.inaccessible c.file.toPath .nameTooLong))
          ∧ ∀ files' : FileTree,
            (∀ b ∈ before ++ [c], b.Unchanged (files.host here room) (files'.host here room)) →
              load (files'.host here room) path = load (files.host here room) path)
      ∨ (∀ c ∈ Candidate.around (Path.resolve here path), c.PassedOver (files.host here room))
          ∧ load (files.host here room) path = .ok .standard
          ∧ ∀ files' : FileTree, (∀ c ∈ Candidate.around (Path.resolve here path),
                c.Unchanged (files.host here room) (files'.host here room)) →
              load (files'.host here room) path = load (files.host here room) path)
    ∧ ∀ files', (∀ c ∈ Candidate.around (Path.resolve here path),
          c.SameAtKeys room files files') →
        load (files'.host here room) path = load (files.host here room) path := by
  have hplaced : ∀ c ∈ Candidate.around (Path.resolve here path), c.file.Proper ∧ c.file ≠ [] :=
    fun c hc => Candidate.proper_of_mem_around (Path.proper_resolve hhere hpath) hc
  have hload : ∀ files : FileTree, load (files.host here room) path
      = Candidate.firstOf (files.host here room) (Candidate.around (Path.resolve here path)) :=
    fun files => load_eq_firstOf (FileTree.resolve_host hpath)
  simp only [hload]
  refine ⟨Candidate.around_eq _, ?_, ?_, ?_⟩
  · intro c hc files'
    exact ⟨fun bytes => FileTree.holds_host_iff (hplaced c hc).1 (hplaced c hc).2,
      fun e => FileTree.refuses_host_iff (hplaced c hc).1 (hplaced c hc).2⟩
  · rcases Candidate.firstOf_cases (files.host here room)
        (Candidate.around (Path.resolve here path)) with
      ⟨before, c, after, hsplit, hbefore, hend⟩ | ⟨hall, hstandard⟩
    · have hc : c ∈ Candidate.around (Path.resolve here path) := by simp [hsplit]
      have hplace := hplaced c hc
      refine .inl ⟨before, c, after, hsplit, hbefore, ?_, ?_⟩
      · rcases hend with hpresent | ⟨e, hfatal, hload⟩
        · exact .inl hpresent
        · cases hfatal with
          | refused hrefuses =>
            obtain ⟨rfl, hout⟩ := (FileTree.refuses_host_iff hplace.1 hplace.2).mp hrefuses
            exact .inr ⟨hout, hload⟩
          | unusable hholds hunusable =>
            have hat := ((FileTree.holds_host_iff hplace.1 hplace.2).mp hholds).2
            exact absurd hunusable (not_isUnusable (hfiles c hc _ hat))
      · -- the search ends at the same candidate
        intro files' hsame
        have hstops := Candidate.value?_ne_none
          (hend.imp (fun ⟨v, hpresent, _⟩ => ⟨v, hpresent⟩) fun ⟨e, hfatal, _⟩ => ⟨e, hfatal⟩)
        rw [hsplit]
        exact Candidate.firstOf_congr_of_ends (fun b hb => (hsame b hb).value?_eq) hstops
    · refine .inr ⟨hall, hstandard, fun files' hsame => ?_⟩
      exact Candidate.firstOf_congr_all fun c hc => (hsame c hc).value?_eq
  · intro files' hsame
    apply Candidate.firstOf_congr_all
    exact fun c hc => ((hsame c hc).unchanged (hplaced c hc)).value?_eq

/-! ## §4. Three files in two folders. -/

/-- A text that is no document. -/
def brokenText : Text := "= b".toList

/-- Settings of the nearest file. -/
def nearText : Text := "[tap-reader]\niter-limit=7\n".toList

/-- Settings of a file further up. -/
def farText : Text := "[tool.tap-reader]\niter-limit=9\n".toList

/-- The table of either. -/
def limitTable (n : Int) : Table := [("iter-limit".toList, .int n)]

/-- Folders with the three files, and something else beside them. -/
def twoFolders (others : List (Text × FileTree)) : FileTree :=
  .folder (("w".toList, .folder [
    ("a".toList, .folder [
      ("pyproject.toml".toList, .file (Utf8.encode brokenText)),
      (".tap-reader.toml".toList, .file (Utf8.encode nearText))]),
    ("pyproject.toml".toList, .file (Utf8.encode farText))]) :: others)

/-- A folder that is not around the start folder. -/
def farAway : List (Text × FileTree) :=
  [("x".toList, .folder [("pyproject.toml".toList, .file (Utf8.encode farText))])]

theorem isRejected_broken : IsRejected Host.usualRoom (Utf8.encode brokenText) :=
  ⟨brokenText, rfl, by rfl⟩

/-- A document of a header and one line that gives the limit. -/
theorem parse_limit {room : Nat} {t : Text} {d next : Toml.Draft} {digit : Char} {n : Int}
    (hplain : '\r' ∉ t) (hlength : 2 ≤ t.length)
    (hheader : Toml.readStatement room .empty (Toml.skipBlanks t)
      = .ok (d, "\niter-limit=".toList ++ [digit, '\n']))
    (hvalue : Toml.readValue room (Toml.skipBlanks [digit, '\n']) = .ok (.int n, ['\n']))
    (hset : d.setEntry? ["iter-limit".toList] (.int n) = some next) :
    Toml.parse room t = .ok next.entries := by
  have hkey : Toml.readKey ('i' :: ("ter-limit=".toList ++ [digit, '\n']))
      = .ok (["iter-limit".toList], '=' :: [digit, '\n']) := rfl
  have hfirst : Toml.skipComment (Toml.skipBlanks ("\niter-limit=".toList ++ [digit, '\n']))
      = .ok ('\n' :: ("iter-limit=".toList ++ [digit, '\n'])) := rfl
  have hstart : Toml.skipBlanks ("iter-limit=".toList ++ [digit, '\n'])
      = 'i' :: ("ter-limit=".toList ++ [digit, '\n']) := rfl
  have hlast : Toml.skipComment (Toml.skipBlanks ['\n']) = .ok ['\n'] := rfl
  obtain ⟨k, hk⟩ := Nat.exists_eq_add_of_le' hlength
  have hlimit := Toml.readStatement_entry_of_value (by decide) hkey hvalue hset
  rw [Toml.parse_eq_readLinesWithin hplain, Toml.readLinesWithin_of_line rfl hheader hfirst, hk,
    Toml.readLinesWithin_of_line hstart hlimit hlast]
  rfl

/-- What is read of a document with one table, after a line of it. -/
def oneTable (header : Toml.Key) (entries : Table) : Toml.Draft :=
  ⟨entries, header, [header], [], []⟩

theorem isDocument_near : IsDocument Host.usualRoom (Utf8.encode nearText)
    [("tap-reader".toList, .table (limitTable 7))] := by
  have hheader : Toml.readStatement (Host.usualRoom nearText) .empty (Toml.skipBlanks nearText)
      = .ok (oneTable ["tap-reader".toList] [("tap-reader".toList, .table [])],
          "\niter-limit=".toList ++ ['7', '\n']) := rfl
  have hset : Toml.Draft.setEntry?
        (oneTable ["tap-reader".toList] [("tap-reader".toList, .table [])])
        ["iter-limit".toList] (.int 7)
      = some (oneTable ["tap-reader".toList] [("tap-reader".toList, .table (limitTable 7))]) := rfl
  exact ⟨nearText, rfl, parse_limit (by decide) (by decide) hheader rfl hset⟩

theorem isDocument_far : IsDocument Host.usualRoom (Utf8.encode farText)
    [("tool".toList, .table [("tap-reader".toList, .table (limitTable 9))])] := by
  have hheader : Toml.readStatement (Host.usualRoom farText) .empty (Toml.skipBlanks farText)
      = .ok (oneTable Candidate.toolKeys
          [("tool".toList, .table [("tap-reader".toList, .table [])])],
          "\niter-limit=".toList ++ ['9', '\n']) := rfl
  have hset : Toml.Draft.setEntry?
        (oneTable Candidate.toolKeys [("tool".toList, .table [("tap-reader".toList, .table [])])])
        ["iter-limit".toList] (.int 9)
      = some (oneTable Candidate.toolKeys
          [("tool".toList, .table [("tap-reader".toList, .table (limitTable 9))])]) := rfl
  exact ⟨farText, rfl, parse_limit (by decide) (by decide) hheader rfl hset⟩

theorem readable_twoFolders (c : Candidate)
    (hc : c ∈ Candidate.around ["w".toList, "a".toList]) (bytes : Bytes)
    (hat : (twoFolders []).at? c.file = some (.file bytes)) :
    IsRejected Host.usualRoom bytes ∨ ∃ table, IsDocument Host.usualRoom bytes table := by
  simp only [Candidate.around, Place.upward, Candidate.inFolder, List.map_cons, List.map_nil,
    List.cons_append, List.nil_append, List.flatMap_cons, List.flatMap_nil, List.mem_cons,
    List.not_mem_nil, or_false] at hc
  rcases hc with rfl | rfl | rfl | rfl | rfl | rfl | rfl | rfl | rfl
  · obtain rfl := FileTree.file.inj (Option.some.inj hat)
    exact .inl isRejected_broken
  · obtain rfl := FileTree.file.inj (Option.some.inj hat)
    exact .inr ⟨_, isDocument_near⟩
  · obtain rfl := FileTree.file.inj (Option.some.inj hat)
    exact .inr ⟨_, isDocument_near⟩
  · obtain rfl := FileTree.file.inj (Option.some.inj hat)
    exact .inr ⟨_, isDocument_far⟩
  -- nothing stands where the others look
  all_goals
    have hnone : (none : Option FileTree) = some (.file bytes) := hat
    exact absurd hnone (by simp)

theorem sameAtKeys_twoFolders (c : Candidate)
    (hc : c ∈ Candidate.around ["w".toList, "a".toList]) :
    c.SameAtKeys Host.usualRoom (twoFolders []) (twoFolders farAway) := by
  have hsame : ∀ c ∈ Candidate.around ["w".toList, "a".toList], ∀ outer ∈ c.file.inits,
      (twoFolders []).standing? outer = (twoFolders farAway).standing? outer := by decide
  constructor
  · intro outer houter
    rw [hsame c hc outer ((List.mem_inits outer c.file).mpr houter)]
  · refine .inl fun bytes => ?_
    rw [← FileTree.standing?_eq_file_iff, ← FileTree.standing?_eq_file_iff,
      hsame c hc c.file ((List.mem_inits c.file c.file).mpr (List.prefix_refl c.file))]

/-- The candidate in the broken file. -/
def brokenCandidate : Candidate :=
  ⟨["w".toList, "a".toList, "pyproject.toml".toList], Candidate.toolKeys⟩

/-- The candidate in the nearest file that is a document. -/
def nearCandidate : Candidate :=
  ⟨["w".toList, "a".toList, ".tap-reader.toml".toList], [Candidate.tableName]⟩

/-- The host with these folders. -/
def twoFoldersHost (others : List (Text × FileTree)) : Host :=
  (twoFolders others).host ["w".toList] Host.usualRoom

theorem holds_broken : (twoFoldersHost []).Holds brokenCandidate.file (Utf8.encode brokenText) :=
  ⟨⟨_, rfl⟩, rfl⟩

theorem passedOver_broken : brokenCandidate.PassedOver (twoFoldersHost []) :=
  .of_rejected holds_broken isRejected_broken

theorem present_near : nearCandidate.Present (twoFoldersHost []) (.table (limitTable 7)) :=
  ⟨_, _, ⟨⟨_, rfl⟩, rfl⟩, isDocument_near, .into rfl (.done _)⟩

/-- The broken file is passed over, and the near settings count. -/
theorem load_twoFolders :
    load (twoFoldersHost []) "a".toList = .ok { standard with itemLimit := .int 7 } := by
  obtain ⟨rest, haround⟩ : ∃ rest, Candidate.around ["w".toList, "a".toList]
      = [brokenCandidate] ++ nearCandidate :: rest := ⟨_, rfl⟩
  have hresolve : (twoFoldersHost []).resolve "a".toList = .ok ["w".toList, "a".toList] :=
    FileTree.resolve_host (by decide)
  rw [load_eq_firstOf hresolve, haround,
    Candidate.firstOf_of_passedOver (List.forall_mem_singleton.mpr passedOver_broken),
    Candidate.firstOf_of_present (Candidate.value?_of_present present_near)]
  rfl

/-- A folder off the way makes no difference. -/
theorem load_nearest_twoFolders :
    Place.Proper ["w".toList] ∧ Char.ofNat 0 ∉ "a".toList
      ∧ (∀ c ∈ Candidate.around (Path.resolve ["w".toList] "a".toList), ∀ bytes,
        (twoFolders []).at? c.file = some (.file bytes) →
          IsRejected Host.usualRoom bytes ∨ ∃ table, IsDocument Host.usualRoom bytes table)
      ∧ load (twoFoldersHost farAway) "a".toList
        = .ok { standard with itemLimit := .int 7 } := by
  have hhere : Place.Proper ["w".toList] := by decide
  have hpath : Char.ofNat 0 ∉ "a".toList := by decide
  obtain ⟨-, -, -, hsame⟩ := load_nearest Host.usualRoom hhere hpath readable_twoFolders
  refine ⟨hhere, hpath, readable_twoFolders, ?_⟩
  exact (hsame _ sameAtKeys_twoFolders).trans load_twoFolders

/-! ## §5. Folders that cannot be looked into. -/

/-- A start folder whose first file is out of reach ends the search, whatever
stands further up. -/
theorem load_of_outOfReach {start : Place} (room : Text → Nat) (hhere : here.Proper)
    (hpath : Char.ofNat 0 ∉ path) (hstart : Path.resolve here path = start)
    (h : files.OutOfReach (start ++ ["pyproject.toml".toList])) :
    load (files.host here room) path = .error
      (.inaccessible (start ++ ["pyproject.toml".toList]).toPath .nameTooLong) := by
  have hproper : start.Proper := hstart ▸ Path.proper_resolve hhere hpath
  obtain ⟨outer, hupward⟩ := Place.exists_upward_eq_cons start
  have hplaced : ∀ c ∈ Candidate.around start, c.file.Proper ∧ c.file ≠ [] :=
    fun c hc => Candidate.proper_of_mem_around hproper hc
  rw [load_eq_firstOf (FileTree.resolve_host hpath), hstart]
  rw [Candidate.around, hupward] at hplaced ⊢
  have hfirst := hplaced _ List.mem_cons_self
  have hrefuses : (files.host here room).Refuses (start ++ ["pyproject.toml".toList])
      .nameTooLong := (FileTree.refuses_host_iff hfirst.1 hfirst.2).mpr ⟨rfl, h⟩
  exact Candidate.firstOf_of_fatal (.refused hrefuses) _

/-- A name that is too long. -/
def longName : Text := List.replicate 256 'a'

/-- A folder that holds settings. -/
def farFolder : FileTree :=
  .folder [("w".toList, .folder [("pyproject.toml".toList, .file (Utf8.encode farText))])]

/-- The candidate in it. -/
def farCandidate : Candidate :=
  ⟨["w".toList, "pyproject.toml".toList], Candidate.toolKeys⟩

/-- The innermost of sixteen folders. -/
def deepPlace : Place :=
  List.replicate 15 (List.replicate 255 'a') ++ [List.replicate 250 'a']

/-- The folders to a place. -/
def foldersTo (place : Place) : FileTree :=
  place.foldr (fun name inner => .folder [(name, inner)]) (.folder [])

theorem at?_foldersTo (place : Place) : (foldersTo place).at? place = some (.folder []) := by
  induction place with
  | nil => rfl
  | cons name place ih =>
    show ((List.lookup name [(name, foldersTo place)]).bind (FileTree.at? place)) = _
    rw [List.lookup_cons_self]
    exact ih

/-- The host with the folder that holds settings, which is the current one. -/
def farHost : Host := farFolder.host ["w".toList] Host.usualRoom

/-- The host with folders to a place, and the innermost for its own. -/
def deepHost : Host := (foldersTo deepPlace).host deepPlace Host.usualRoom

/-- **Nearest settings do not win** if a folder on the way cannot be looked
into.  Nothing stands at the long name, and `farCandidate` holds the only
settings, but they are not loaded.  Nor are the standard settings where the
start folder is there and there is no file at all. -/
theorem load_outOfReach :
    ((∀ name, farFolder.at? ["w".toList, longName, name] = none)
      ∧ farCandidate.Present farHost (.table (limitTable 9))
      ∧ ofRaw farCandidate.keys farCandidate.file.toPath (.table (limitTable 9))
        = .ok { standard with itemLimit := .int 9 }
      ∧ load farHost longName = .error (.inaccessible
        (Place.toPath ["w".toList, longName, "pyproject.toml".toList]) .nameTooLong))
    ∧ (foldersTo deepPlace).at? deepPlace = some (.folder [])
      ∧ load deepHost ['.'] = .error (.inaccessible
        (deepPlace ++ ["pyproject.toml".toList]).toPath .nameTooLong) := by
  refine ⟨⟨fun name => rfl, ?_, rfl, ?_⟩, at?_foldersTo deepPlace, ?_⟩
  · exact ⟨_, _, ⟨⟨_, rfl⟩, rfl⟩, isDocument_far, .into rfl (.into rfl (.done _))⟩
  · have hstart : Path.resolve ["w".toList] longName = ["w".toList, longName] := by decide +kernel
    refine load_of_outOfReach _ (by decide) (by decide +kernel) hstart (.inr ?_)
    exact ⟨["w".toList], longName, ["pyproject.toml".toList], rfl, by decide +kernel, _, rfl⟩
  · refine load_of_outOfReach _ ?_ (by decide) (show Path.resolve deepPlace ['.'] = _ from rfl) ?_
    · decide +kernel
    · exact .inl (by decide +kernel)

end RawSettings

end TapReport
