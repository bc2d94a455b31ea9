/-
  TapReport.Proofs.Settings.Undecodable
  ─────────────────────────────────────
  **FILES THAT ARE NOT TOML.**

  A text that is found to be no TOML document does as much for the search for
  settings as no file at all.  Other bytes that are no document do not: where
  the search comes to them, it ends with a fault.  They make no difference only
  where the search ends before them.

  Besides settings that are not valid, there are five ways in which a search
  can fail, and `load_undecodable` says when each of them happens: the path
  cannot be resolved, a place cannot be looked at, bytes are no text, an integer
  has too many digits, or values are nested deeper than the reader can follow.

  Main results:
    * `Candidate.unchanged_without` — a file concerns the candidates in it only.
    * `RawSettings.load_remove` — with a tree for its files, a host without a
      file is one whose tree does not have it.
    * `RawSettings.load_undecodable` — what a file that is not TOML does, and how
      a search fails.
-/
import TapReport.Proofs.Settings.Nearest
import TapReport.Proofs.Toml.Depth

namespace TapReport

/-! ## §1. A host without a file. -/

namespace Candidate

variable {host : Host} {place : Place} {bytes : Bytes} {c : Candidate} {cs : List Candidate}

/-- Candidates in other files stay as they are. -/
theorem unchanged_without (hc : c.file.toPath ≠ place.toPath) :
    c.Unchanged host (host.without place.toPath) := by
  have hholds : ∀ bytes, (host.without place.toPath).Holds c.file bytes ↔ host.Holds c.file bytes :=
    fun bytes => Host.holds_without_iff.trans (and_iff_right hc)
  have hrefuses : ∀ e, (host.without place.toPath).Refuses c.file e ↔ host.Refuses c.file e :=
    fun e => Host.refuses_without_iff.trans (and_iff_right hc)
  constructor
  · intro v
    simp only [Present, hholds]
    rfl
  · intro e
    constructor
    · intro hfatal
      cases hfatal with
      | refused h => exact .refused ((hrefuses _).mpr h)
      | unusable h hunusable => exact .unusable ((hholds _).mpr h) hunusable
    · intro hfatal
      cases hfatal with
      | refused h => exact .refused ((hrefuses _).mp h)
      | unusable h hunusable => exact .unusable ((hholds _).mp h) hunusable

/-- Candidates in the file are passed over without it. -/
theorem passedOver_without (hc : c.file.toPath = place.toPath) :
    c.PassedOver (host.without place.toPath) where
  allowed _ hrefuses := (Host.refuses_without_iff.mp hrefuses).1 hc
  nothing _ hholds := absurd hc (Host.holds_without_iff.mp hholds).1

/-- A rejected file does as much as none. -/
theorem value?_without_of_rejected (hholds : host.Holds place bytes)
    (hrejected : IsRejected host.room bytes) (c : Candidate) :
    c.value? host = c.value? (host.without place.toPath) := by
  by_cases hc : c.file.toPath = place.toPath
  · have hpassed : c.PassedOver host := .of_rejected (hholds.of_toPath_eq hc) hrejected
    rw [value?_of_passedOver hpassed, value?_of_passedOver (passedOver_without hc)]
  · exact (unchanged_without hc).value?_eq

/-- A file that cannot be used makes no difference, unless the search comes to
it and ends. -/
theorem firstOf_without_of_unusable (hholds : host.Holds place bytes) {e : LoadFault}
    (hunusable : IsUnusable host.room bytes e) (cs : List Candidate) :
    firstOf (host.without place.toPath) cs = firstOf host cs
    ∨ ∃ before c after, cs = before ++ c :: after ∧ (∀ b ∈ before, b.PassedOver host)
      ∧ c.file.toPath = place.toPath ∧ firstOf host cs = .error e := by
  have hfatal : ∀ b : Candidate, b.file.toPath = place.toPath → b.Fatal host e :=
    fun b hb => .unusable (hholds.of_toPath_eq hb) hunusable
  have hpassed : ∀ b : Candidate, b.PassedOver host → b.file.toPath ≠ place.toPath := by
    intro b hb hplace
    exact value?_ne_none (.inr ⟨e, hfatal b hplace⟩) (value?_of_passedOver hb)
  rcases firstOf_cases host cs with ⟨before, c, after, rfl, hbefore, hend⟩ | ⟨hall, -⟩
  · by_cases hc : c.file.toPath = place.toPath
    · refine .inr ⟨before, c, after, rfl, hbefore, hc, ?_⟩
      rw [firstOf_of_passedOver hbefore]
      exact firstOf_of_fatal (hfatal c hc) after
    · -- the search ends before it comes to the file
      have hstops := value?_ne_none
        (hend.imp (fun ⟨v, hpresent, _⟩ => ⟨v, hpresent⟩) fun ⟨e, hfatal, _⟩ => ⟨e, hfatal⟩)
      refine .inl (firstOf_congr_of_ends (fun b hb => ?_) hstops)
      rcases List.mem_append.mp hb with hb | hb
      · exact (unchanged_without (hpassed b (hbefore b hb))).value?_eq
      · rw [List.mem_singleton.mp hb]
        exact (unchanged_without hc).value?_eq
  · exact .inl (firstOf_congr_all fun c hc => (unchanged_without (hpassed c (hall c hc))).value?_eq)

end Candidate

/-! ## §2. How a search fails. -/

namespace RawSettings

variable {host : Host} {path : Text} {folder : Place}

theorem load_without_eq_firstOf (hfolder : host.resolve path = .ok folder) {place : Place}
    {bytes : Bytes} (hholds : host.Holds place bytes) :
    load (host.without place.toPath) path
      = Candidate.firstOf (host.without place.toPath) (Candidate.around folder) :=
  load_eq_firstOf ((Host.resolve_without hholds path).trans hfolder)

/-- **How a search fails**, but for settings that are not valid: the path is not
resolved, or a candidate that the search comes to ends it. -/
theorem load_eq_error_iff {e : LoadFault} (he : ∀ s, e ≠ .settings s) :
    load host path = .error e ↔ (∃ r, host.resolve path = .error r ∧ e = .unresolved r)
      ∨ ∃ folder before c after, host.resolve path = .ok folder
        ∧ Candidate.around folder = before ++ c :: after
        ∧ (∀ b ∈ before, b.PassedOver host) ∧ c.Fatal host e := by
  cases hresolve : host.resolve path with
  | error r =>
    unfold load
    rw [hresolve]
    simp [eq_comm]
  | ok folder =>
    rw [load_eq_firstOf hresolve, Candidate.firstOf_eq_error_iff he]
    simp

end RawSettings

/-! ## §3. A file of a tree. -/

section Removed

variable {files : FileTree} {here place other folder : Place} {room : Text → Nat} {bytes : Bytes}
  {c : Candidate}

theorem FileTree.folder_remove_iff (hat : files.at? place = some (.file bytes))
    (hne : place ≠ []) : files.standing? other = some .folder ↔
      (files.remove place).standing? other = some .folder := by
  rw [standing?_remove hat hne]
  by_cases hother : other = place
  · have hfile := standing?_eq_file_iff.mpr hat
    rw [if_pos hother, hother, hfile]
    simp
  · rw [if_neg hother]

/-- Without the file in its tree, a host holds nothing there. -/
theorem Candidate.passedOver_remove (hat : files.at? c.file = some (.file bytes))
    (hproper : c.file.Proper) (hne : c.file ≠ []) (hreach : ¬ files.OutOfReach c.file) :
    c.PassedOver ((files.remove c.file).host here room) := by
  constructor
  · intro e hrefuses
    obtain ⟨-, hout⟩ := (FileTree.refuses_host_iff hproper hne).mp hrefuses
    exact hreach <|
      (FileTree.outOfReach_congr fun _ _ => FileTree.folder_remove_iff hat hne).mpr hout
  · intro content hholds
    obtain ⟨-, hcontent⟩ := (FileTree.holds_host_iff hproper hne).mp hholds
    rw [← FileTree.standing?_eq_file_iff, FileTree.standing?_remove hat hne, if_pos rfl] at hcontent
    exact absurd hcontent (by simp)

/-- Other places are as they were. -/
theorem Candidate.sameAtKeys_remove (hat : files.at? place = some (.file bytes)) (hne : place ≠ [])
    (hc : c.file ≠ place) : c.SameAtKeys room files (files.remove place) := by
  constructor
  · exact fun outer _ => FileTree.folder_remove_iff hat hne
  · refine .inl fun content => ?_
    rw [← FileTree.standing?_eq_file_iff, ← FileTree.standing?_eq_file_iff,
      FileTree.standing?_remove hat hne, if_neg hc]

/-- **With a tree for its files**, a host that does not find a file is one whose
tree does not have it. -/
theorem RawSettings.load_remove {path : Text} (hhere : here.Proper) (hpath : Char.ofNat 0 ∉ path)
    (hproper : place.Proper) (hne : place ≠ [])
    (hholds : (files.host here room).Holds place bytes) :
    load ((files.remove place).host here room) path
      = load ((files.host here room).without place.toPath) path := by
  obtain ⟨hreach, hat⟩ := (FileTree.holds_host_iff hproper hne).mp hholds
  have hresolve : (files.host here room).resolve path = .ok (Path.resolve here path) :=
    FileTree.resolve_host hpath
  rw [load_eq_firstOf (FileTree.resolve_host hpath), load_without_eq_firstOf hresolve hholds]
  apply Candidate.firstOf_congr_all
  intro c hc
  have hplaced := Candidate.proper_of_mem_around (Path.proper_resolve hhere hpath) hc
  by_cases hfile : c.file = place
  · subst hfile
    rw [Candidate.value?_of_passedOver (Candidate.passedOver_without rfl),
      Candidate.value?_of_passedOver
        (Candidate.passedOver_remove hat hplaced.1 hplaced.2 hreach)]
  · have htoPath := mt (Path.toPath_inj hplaced.1 hplaced.2 hproper hne).mp hfile
    rw [← (Candidate.unchanged_without htoPath).value?_eq]
    exact ((Candidate.sameAtKeys_remove hat hne hfile).unchanged hplaced).value?_eq

end Removed

namespace RawSettings

/-! ## §4. What a file that is not TOML does. -/

variable {host : Host} {path : Text} {folder : Place}

/-- **Files that are not TOML.**  A text that is found to be no document has the
effect of no file.  So have other bytes that are no document, unless the search
comes to them and ends with a fault: they are no text, or a text with an integer
of too many digits or with values that are nested too deep.  A search fails, but
for settings that are not valid, exactly if the path cannot be resolved, or if
it comes to a place that cannot be looked at or to such bytes.

With a tree for its files, a host without a file is one whose tree does not have
it; and how deep the reader can follow matters only to a text that it gives
up. -/
theorem load_undecodable (host : Host) (path : Text) :
    (∀ folder, host.resolve path = .ok folder → ∀ c ∈ Candidate.around folder, ∀ bytes,
      host.Holds c.file bytes →
        (IsRejected host.room bytes →
          load (host.without c.file.toPath) path = load host path)
        ∧ ((∀ table, ¬ IsDocument host.room bytes table) →
          load (host.without c.file.toPath) path = load host path
          ∨ ∃ before b after e, Candidate.around folder = before ++ b :: after
            ∧ (∀ a ∈ before, a.PassedOver host) ∧ b.file.toPath = c.file.toPath
            ∧ IsUnusable host.room bytes e ∧ load host path = .error e))
    ∧ (∀ e, (∀ s, e ≠ .settings s) → (load host path = .error e ↔
        (∃ r, host.resolve path = .error r ∧ e = .unresolved r)
          ∨ ∃ folder before c after, host.resolve path = .ok folder
            ∧ Candidate.around folder = before ++ c :: after
            ∧ (∀ b ∈ before, b.PassedOver host) ∧ c.Fatal host e))
    ∧ (∀ files here room, host = FileTree.host files here room → here.Proper →
        Char.ofNat 0 ∉ path → ∀ (place : Place) bytes, place.Proper → place ≠ [] →
          host.Holds place bytes →
            load (host.without place.toPath) path
              = load ((files.remove place).host here room) path)
    ∧ ∀ t room more, room ≤ more →
        Toml.parse room t = .error .tooDeep ∨ Toml.parse more t = Toml.parse room t := by
  refine ⟨?files, fun e he => load_eq_error_iff he, ?tree, fun t _ _ h => Toml.parse_of_le h t⟩
  case files =>
    intro folder hfolder c _ bytes hholds
    have hrejected : IsRejected host.room bytes →
        load (host.without c.file.toPath) path = load host path := by
      intro hrejected
      rw [load_without_eq_firstOf hfolder hholds, load_eq_firstOf hfolder]
      exact Candidate.firstOf_congr_all fun d _ =>
        Candidate.value?_without_of_rejected hholds hrejected d
    refine ⟨hrejected, fun hno => ?_⟩
    rcases document_cases host.room bytes with ⟨table, hdocument⟩ | hreject | ⟨e, hunusable⟩
    · exact absurd hdocument (hno table)
    · exact .inl (hrejected hreject)
    · rw [load_without_eq_firstOf hfolder hholds, load_eq_firstOf hfolder]
      apply (Candidate.firstOf_without_of_unusable hholds hunusable _).imp_right
      rintro ⟨before, b, after, hsplit, hbefore, hb, hload⟩
      exact ⟨before, b, after, e, hsplit, hbefore, hb, hunusable, hload⟩
  case tree =>
    rintro files here room rfl hhere hpath place bytes hproper hne hholds
    exact (load_remove hhere hpath hproper hne hholds).symm

/-! ## §5. Bytes that are no text. -/

/-- A text that is no document. -/
def unparsedText : Text := "= b".toList

/-- A folder with a file that is no document and one that is no text. -/
def spoiledFolder : FileTree :=
  .folder [("pyproject.toml".toList, .file (Utf8.encode unparsedText)),
    (".tap-reader.toml".toList, .file [0xFF])]

/-- The host that has it. -/
def spoiledHost : Host := spoiledFolder.host [] Host.usualRoom

/-- The candidate in the file that is no document. -/
def unparsedCandidate : Candidate := ⟨["pyproject.toml".toList], Candidate.toolKeys⟩

/-- A candidate in the file that is no text. -/
def spoiledCandidate : Candidate := ⟨[".tap-reader.toml".toList], [Candidate.tableName]⟩

/-- What is said of a byte that no character begins with. -/
def startByte : LoadFault := .undecodable (Encoding.ofMalformed ⟨0, [0xFF], .start⟩)

theorem isRejected_unparsed : IsRejected Host.usualRoom (Utf8.encode unparsedText) :=
  ⟨unparsedText, rfl, by rfl⟩

theorem holds_unparsed : spoiledHost.Holds unparsedCandidate.file (Utf8.encode unparsedText) :=
  ⟨⟨_, rfl⟩, rfl⟩

theorem passedOver_unparsed : unparsedCandidate.PassedOver spoiledHost :=
  .of_rejected holds_unparsed isRejected_unparsed

theorem fatal_spoiled : spoiledCandidate.Fatal spoiledHost startByte :=
  .unusable ⟨⟨_, rfl⟩, rfl⟩ (.undecodable rfl)

/-- The search goes past the first file, as if it were not there, and ends at
the second. -/
theorem load_undecodable_spoiledFolder :
    spoiledHost.resolve ['.'] = .ok []
      ∧ unparsedCandidate ∈ Candidate.around []
      ∧ spoiledHost.Holds unparsedCandidate.file (Utf8.encode unparsedText)
      ∧ IsRejected Host.usualRoom (Utf8.encode unparsedText)
      ∧ load (spoiledHost.without unparsedCandidate.file.toPath) ['.'] = load spoiledHost ['.']
      ∧ load spoiledHost ['.'] = .error startByte := by
  have hresolve : spoiledHost.resolve ['.'] = .ok [] := FileTree.resolve_host (by decide)
  have hmem : unparsedCandidate ∈ Candidate.around [] := by decide
  obtain ⟨hfiles, hfault, -⟩ := load_undecodable spoiledHost ['.']
  refine ⟨hresolve, hmem, holds_unparsed, isRejected_unparsed, ?_, ?_⟩
  · exact (hfiles [] hresolve unparsedCandidate hmem _ holds_unparsed).1 isRejected_unparsed
  · apply (hfault startByte (by intro s; simp [startByte])).mpr
    exact .inr ⟨[], [unparsedCandidate], spoiledCandidate, _, hresolve, rfl,
      List.forall_mem_singleton.mpr passedOver_unparsed, fatal_spoiled⟩

/-- A host with these bytes for settings, and nothing else. -/
def settingsHost (bytes : Bytes) (room : Text → Nat) : Host :=
  FileTree.host (.folder [("pyproject.toml".toList, .file bytes)]) [] room

/-- The first candidate of this host. -/
def settingsCandidate : Candidate := ⟨["pyproject.toml".toList], Candidate.toolKeys⟩

/-- Without the file there are standard settings. -/
theorem load_settingsHost_without (bytes : Bytes) (room : Text → Nat) :
    load ((settingsHost bytes room).without settingsCandidate.file.toPath) ['.']
      = .ok standard := rfl

/-- Bytes that cannot be used are a fault. -/
theorem load_settingsHost {bytes : Bytes} {room : Text → Nat} {e : LoadFault}
    (h : IsUnusable room bytes e) : load (settingsHost bytes room) ['.'] = .error e := by
  have hresolve : (settingsHost bytes room).resolve ['.'] = .ok [] :=
    FileTree.resolve_host (by decide)
  have hholds : (settingsHost bytes room).Holds settingsCandidate.file bytes := ⟨⟨_, rfl⟩, rfl⟩
  rw [load_eq_firstOf hresolve]
  exact Candidate.firstOf_of_fatal (c := settingsCandidate) (.unusable hholds h) _

/-- **Not all that is no document is passed over**: not bytes that are no text,
and, whatever room there is, not every text that is no document.  Without the
file there are standard settings, with it there are none. -/
theorem load_noText :
    (¬ Utf8.IsText [0xFF]
      ∧ load ((settingsHost [0xFF] Host.usualRoom).without settingsCandidate.file.toPath) ['.']
        = .ok standard
      ∧ load (settingsHost [0xFF] Host.usualRoom) ['.'] = .error startByte)
    ∧ ∀ room : Nat, ∃ t more, Toml.parse more t = .error .malformed
      ∧ load ((settingsHost (Utf8.encode t) fun _ => room).without
          settingsCandidate.file.toPath) ['.'] = .ok standard
      ∧ load (settingsHost (Utf8.encode t) fun _ => room) ['.'] = .error .tooDeep := by
  refine ⟨⟨?_, load_settingsHost_without _ _, load_settingsHost (.undecodable rfl)⟩, fun room => ?_⟩
  · intro ⟨t, ht⟩
    have hdecode := Utf8.decodeAll_eq_ok_iff.mpr ht
    exact nomatch hdecode
  · have hroom : room < Toml.listCalls * (room + 1) := by
      simp only [Toml.listCalls]
      omega
    refine ⟨Toml.nestedText (room + 1), _, Toml.parse_nestedText_of_room (Nat.le_refl _),
      load_settingsHost_without _ _, load_settingsHost ?_⟩
    exact .tooDeep rfl (Toml.parse_nestedText hroom)

end RawSettings

end TapReport
