/-
  TapReport.Proofs.Files.Places
  ─────────────────────────────
  **WHAT STANDS AT A PLACE, AND WHAT IS REACHED ALONG ITS PATH.**

  A place is a list of names, and a file is reached along its path, one part
  after another.  The two agree for places whose names are single parts: what
  is reached is what stands there.  The one exception is length.  A path may
  be too long as a whole, or come to a name that is too long while it still
  leads through folders; then nothing is looked at and the system complains,
  whether or not anything stands at the place.

      Place.Proper         places whose names are single parts of a path
      FileTree.OutOfReach  places whose path is too long
      FileTree.standing?   what a place shows without looking into folders

  Main results:
    * `Path.proper_resolve` — a path names a proper place.
    * `FileTree.locate_toPath_eq_ok_iff`,
      `FileTree.locate_toPath_eq_nameTooLong_iff` — what is reached along the
      path of a place.
    * `FileTree.outOfReach_congr` — what the folders around it show decides
      whether a place is out of reach.
    * `FileTree.holds_host_iff`, `FileTree.refuses_host_iff` — what a host with
      a tree for its files holds, and what it refuses.
    * `FileTree.standing?_remove` — removing a file changes its place only.
-/
import TapReport.Proofs.Files.Hosts
import TapReport.Proofs.Report.FromFile

namespace TapReport

/-! ## §1. Proper places and their paths. -/

/-- A place whose names are single parts of a path. -/
def Place.Proper (place : Place) : Prop :=
  ∀ name ∈ place, IsPart name

instance (place : Place) : Decidable place.Proper :=
  inferInstanceAs (Decidable (∀ name ∈ place, IsPart name))

/-- A place comes before the folders around it. -/
theorem Place.exists_upward_eq_cons (place : Place) :
    ∃ outer, place.upward = place :: outer := by
  induction place with
  | nil => exact ⟨[], rfl⟩
  | cons name place ih =>
    obtain ⟨outer, houter⟩ := ih
    rw [Place.upward, houter]
    exact ⟨_, rfl⟩

namespace Path

theorem parts_append_slash {name : Text} (h : '/' ∉ name) (rest : Text) :
    parts (name ++ '/' :: rest) = name :: parts rest := by
  induction name with
  | nil => rfl
  | cons c name ih =>
    obtain ⟨hc, hname⟩ := not_or.mp (fun hmem => h (List.mem_cons.mpr hmem))
    rw [List.cons_append, parts_cons, ih hname, splitBefore, if_neg (Ne.symm hc)]

theorem parts_joinWith {name : Text} {place : Place} (h : ∀ n ∈ name :: place, '/' ∉ n) :
    parts (Text.joinWith ['/'] (name :: place)) = name :: place := by
  induction place generalizing name with
  | nil => exact parts_of_notMem (h name List.mem_cons_self)
  | cons next place ih =>
    have hjoin : Text.joinWith ['/'] (name :: next :: place)
        = name ++ '/' :: Text.joinWith ['/'] (next :: place) := by simp [Text.joinWith]
    have hrest : ∀ n ∈ next :: place, '/' ∉ n := fun n hn => h n (List.mem_cons_of_mem name hn)
    rw [hjoin, parts_append_slash (h name List.mem_cons_self), ih hrest]

/-- The path of a place falls into its names again, after the root. -/
theorem parts_toPath {place : Place} (h : place.Proper) (hne : place ≠ []) :
    parts place.toPath = [] :: place := by
  obtain ⟨name, rest, rfl⟩ := List.exists_cons_of_ne_nil hne
  have hroot : splitBefore '/' (parts (Text.joinWith ['/'] (name :: rest)))
      = [] :: parts (Text.joinWith ['/'] (name :: rest)) := if_pos rfl
  show parts ('/' :: Text.joinWith ['/'] (name :: rest)) = _
  rw [parts_cons, hroot, parts_joinWith fun n hn => (h n hn).slash_notMem]

/-- Places have paths of their own. -/
theorem toPath_inj {place other : Place} (h : place.Proper) (hne : place ≠ [])
    (hother : other.Proper) (hother_ne : other ≠ []) :
    place.toPath = other.toPath ↔ place = other := by
  constructor
  · intro hpath
    have hparts := congrArg parts hpath
    rw [parts_toPath h hne, parts_toPath hother hother_ne] at hparts
    exact (List.cons.inj hparts).2
  · exact congrArg Place.toPath

theorem nul_notMem_toPath {place : Place} (h : place.Proper) : Char.ofNat 0 ∉ place.toPath := by
  intro hmem
  rcases List.mem_cons.mp hmem with hmem | hmem
  · exact absurd hmem (by decide)
  · rcases Text.mem_joinWith hmem with hmem | ⟨name, hname, hmem⟩
    · exact absurd hmem (by decide)
    · exact (h name hname).nul_notMem hmem

theorem mem_of_mem_parts {path part : Text} (hpart : part ∈ parts path) {c : Char}
    (hc : c ∈ part) : c ∈ path := by
  have hmem : c ∈ Text.joinWith ['/'] (parts path) := Text.mem_joinWith_of_mem hpart hc
  rwa [joinWith_parts] at hmem

/-- The names on a path are single parts, and may lead back. -/
theorem isPart_of_mem_names {path name : Text} (hpath : Char.ofNat 0 ∉ path)
    (h : name ∈ names path) (hback : name ≠ "..".toList) : IsPart name := by
  obtain ⟨hmem, hname⟩ := List.mem_filter.mp h
  simp only [Bool.and_eq_true, bne_iff_ne, ne_eq] at hname
  exact ⟨hname.1, hname.2, hback, slash_notMem_of_mem_parts name hmem,
    fun hnul => hpath (mem_of_mem_parts hmem hnul)⟩

theorem proper_step {place : Place} (h : place.Proper) {name : Text}
    (hname : name ≠ "..".toList → IsPart name) : (step place name).Proper := by
  unfold step
  by_cases hback : name = "..".toList
  · rw [if_pos hback]
    exact fun n hn => h n (List.dropLast_subset place hn)
  · rw [if_neg hback]
    intro n hn
    rcases List.mem_append.mp hn with hn | hn
    · exact h n hn
    · rw [List.mem_singleton.mp hn]
      exact hname hback

/-- **A path names a proper place**, seen from one. -/
theorem proper_resolve {here : Place} (hhere : here.Proper) {path : Text}
    (hpath : Char.ofNat 0 ∉ path) : (resolve here path).Proper := by
  have hwalk : ∀ (steps : List Text) (place : Place), place.Proper →
      (∀ name ∈ steps, name ≠ "..".toList → IsPart name) → (steps.foldl step place).Proper := by
    intro steps
    induction steps with
    | nil => exact fun place hplace _ => hplace
    | cons name steps ih =>
      intro place hplace hsteps
      apply ih
      · exact proper_step hplace (hsteps name List.mem_cons_self)
      · exact fun n hn => hsteps n (List.mem_cons_of_mem name hn)
  unfold resolve
  apply hwalk
  · split
    · exact fun name hname => absurd hname List.not_mem_nil
    · exact hhere
  · exact fun name hname => isPart_of_mem_names hpath hname

end Path

/-! ## §2. What is reached along a path. -/

namespace FileTree

variable {tree : FileTree} {here place names : Place} {found : FileTree}

/-- At most one file stands at a place. -/
theorem bytes_unique {bytes other : Bytes} (h : tree.at? place = some (.file bytes))
    (hother : tree.at? place = some (.file other)) : bytes = other := by
  rw [h] at hother
  exact FileTree.file.inj (Option.some.inj hother)

/-- Something stands in folders only. -/
theorem exists_folder_of_at? {outer inner : Place} {name : Text}
    (h : tree.at? (outer ++ name :: inner) = some found) :
    ∃ entries, tree.at? outer = some (.folder entries) := by
  rw [at?_append] at h
  cases hat : tree.at? outer with
  | none => rw [hat] at h; exact absurd h (by simp)
  | some around =>
    rw [hat] at h
    cases around with
    | file content => exact absurd h (by simp [at?, entries])
    | folder entries => exact ⟨entries, rfl⟩

theorem follow_folder {entries : List (Text × FileTree)}
    (hat : tree.at? here = some (.folder entries)) {name : Text} (hname : IsPart name)
    (rest : Place) : tree.follow here (name :: rest)
      = if longestName < (Utf8.encode name).length then .error .nameTooLong
        else tree.follow (here ++ [name]) rest := by
  have hhere : ¬ (name = [] ∨ name = ['.']) := not_or.mpr ⟨hname.ne_nil, hname.ne_here⟩
  rw [follow, hat]
  simp only [decide_eq_true_eq, Bool.or_eq_true, hhere, hname.ne_back, if_false]

/-- What stands at a place is reached exactly if all names are short enough. -/
theorem follow_eq_ok_iff (h : ∀ name ∈ names, IsPart name) :
    tree.follow here names = .ok found ↔ tree.at? (here ++ names) = some found
      ∧ ∀ name ∈ names, (Utf8.encode name).length ≤ longestName := by
  induction names generalizing here with
  | nil =>
    rw [follow, List.append_nil]
    cases tree.at? here <;> simp
  | cons name rest ih =>
    obtain ⟨hname, hrest⟩ := List.forall_mem_cons.mp h
    rw [List.forall_mem_cons]
    -- only a folder leads on
    cases hat : tree.at? here with
    | none =>
      rw [follow, hat, at?_append, hat]
      simp
    | some around =>
      cases around with
      | file content =>
        rw [follow, hat, at?_append, hat]
        simp [at?, entries]
      | folder entries =>
        rw [follow_folder hat hname]
        by_cases hlong : longestName < (Utf8.encode name).length
        · rw [if_pos hlong]
          constructor
          · intro hfound
            exact absurd hfound (by simp)
          · rintro ⟨-, hshort, -⟩
            exact absurd hshort (Nat.not_le.mpr hlong)
        · rw [if_neg hlong, ih hrest, List.append_assoc, List.singleton_append]
          constructor
          · rintro ⟨hfound, hshort⟩
            exact ⟨hfound, Nat.le_of_not_lt hlong, hshort⟩
          · rintro ⟨hfound, -, hshort⟩
            exact ⟨hfound, hshort⟩

/-- The walk ends at a name that is too long exactly if folders lead up to
one. -/
theorem follow_eq_nameTooLong_iff (h : ∀ name ∈ names, IsPart name) :
    tree.follow here names = .error .nameTooLong ↔ ∃ outer name inner,
      names = outer ++ name :: inner ∧ longestName < (Utf8.encode name).length
        ∧ ∃ entries, tree.at? (here ++ outer) = some (.folder entries) := by
  induction names generalizing here with
  | nil =>
    rw [follow]
    cases tree.at? here <;> simp
  | cons name rest ih =>
    obtain ⟨hname, hrest⟩ := List.forall_mem_cons.mp h
    -- where the walk stops at `here`, nothing further on is a folder
    have hstop : (∀ entries, tree.at? here ≠ some (.folder entries)) →
        ¬ ∃ outer long inner, name :: rest = outer ++ long :: inner
          ∧ longestName < (Utf8.encode long).length
          ∧ ∃ entries, tree.at? (here ++ outer) = some (.folder entries) := by
      rintro hno ⟨outer, long, inner, -, -, entries, hat⟩
      cases outer with
      | nil => exact hno entries (by rwa [List.append_nil] at hat)
      | cons first outer =>
        obtain ⟨entries, hhere⟩ := exists_folder_of_at? hat
        exact hno entries hhere
    cases hat : tree.at? here with
    | none =>
      rw [follow, hat]
      exact iff_of_false (by simp) (hstop fun entries => by simp [hat])
    | some around =>
      cases around with
      | file content =>
        rw [follow, hat]
        exact iff_of_false (by simp) (hstop fun entries => by simp [hat])
      | folder entries =>
        rw [follow_folder hat hname]
        by_cases hlong : longestName < (Utf8.encode name).length
        · rw [if_pos hlong]
          refine iff_of_true rfl ⟨[], name, rest, rfl, hlong, entries, ?_⟩
          rwa [List.append_nil]
        · rw [if_neg hlong, ih hrest]
          constructor
          · rintro ⟨outer, long, inner, rfl, hover, hfolder⟩
            refine ⟨name :: outer, long, inner, rfl, hover, ?_⟩
            rwa [List.append_assoc, List.singleton_append] at hfolder
          · rintro ⟨outer, long, inner, heq, hover, hfolder⟩
            cases outer with
            | nil =>
              obtain ⟨rfl, -⟩ := List.cons.inj heq
              exact absurd hover hlong
            | cons first outer =>
              obtain ⟨rfl, rfl⟩ := List.cons.inj heq
              refine ⟨outer, long, inner, rfl, hover, ?_⟩
              rwa [List.append_assoc, List.singleton_append]

/-- A place whose path is too long to be looked at: as a whole, or at a name
that folders lead up to. -/
def OutOfReach (tree : FileTree) (place : Place) : Prop :=
  longestPath < (Utf8.encode place.toPath).length
    ∨ ∃ outer name inner, place = outer ++ name :: inner
      ∧ longestName < (Utf8.encode name).length
      ∧ ∃ entries, tree.at? outer = some (.folder entries)

/-- From anywhere, the path of a place that is not too long as a whole is walked
from the root. -/
theorem locate_toPath (h : place.Proper) (hne : place ≠ [])
    (hshort : ¬ longestPath < (Utf8.encode place.toPath).length) :
    tree.locate here place.toPath = match tree with
      | .file _ => .error .notFolder
      | .folder _ => tree.follow [] place := by
  have hnil : place.toPath ≠ [] := List.cons_ne_nil _ _
  have hroot : Path.isAbsolute place.toPath = true := rfl
  unfold locate
  simp only [List.contains_iff_mem, Path.nul_notMem_toPath h, if_false, List.isEmpty_iff, hshort,
    hnil, hroot, if_true, Path.parts_toPath h hne]
  cases tree <;> rfl

theorem locate_toPath_of_long (h : place.Proper)
    (hlong : longestPath < (Utf8.encode place.toPath).length) :
    tree.locate here place.toPath = .error .nameTooLong := by
  have hnil : place.toPath ≠ [] := List.cons_ne_nil _ _
  unfold locate
  simp only [List.contains_iff_mem, Path.nul_notMem_toPath h, if_false, List.isEmpty_iff, hnil,
    hlong, if_true]

/-- **The path of a place is too long** exactly if the place is out of reach. -/
theorem locate_toPath_eq_nameTooLong_iff (here : Place) (h : place.Proper) (hne : place ≠ []) :
    tree.locate here place.toPath = .error .nameTooLong ↔ tree.OutOfReach place := by
  by_cases hlong : longestPath < (Utf8.encode place.toPath).length
  · exact iff_of_true (locate_toPath_of_long h hlong) (.inl hlong)
  · rw [locate_toPath h hne hlong, OutOfReach, or_iff_right hlong]
    cases tree with
    | folder entries => exact follow_eq_nameTooLong_iff h
    | file content =>
      refine iff_of_false (by simp) ?_
      rintro ⟨outer, name, inner, -, -, entries, hat⟩
      cases outer with
      | nil => exact absurd hat (by simp)
      | cons first outer => exact absurd hat (by simp [at?, FileTree.entries])

/-- **What is reached along the path of a place** is what stands there. -/
theorem locate_toPath_eq_ok_iff (here : Place) (h : place.Proper) (hne : place ≠ []) :
    tree.locate here place.toPath = .ok found ↔
      ¬ tree.OutOfReach place ∧ tree.at? place = some found := by
  by_cases hlong : longestPath < (Utf8.encode place.toPath).length
  · rw [locate_toPath_of_long h hlong]
    exact iff_of_false (by simp) fun hboth => hboth.1 (.inl hlong)
  · rw [locate_toPath h hne hlong, OutOfReach, or_iff_right hlong]
    cases tree with
    | file content =>
      obtain ⟨name, rest, rfl⟩ := List.exists_cons_of_ne_nil hne
      exact iff_of_false (by simp) fun hboth => absurd hboth.2 (by simp [at?, entries])
    | folder entries =>
      show FileTree.follow (.folder entries) [] place = .ok found ↔ _
      rw [follow_eq_ok_iff h, List.nil_append, and_comm]
      constructor
      · rintro ⟨hshort, hfound⟩
        refine ⟨?_, hfound⟩
        rintro ⟨outer, name, inner, rfl, hover, -⟩
        exact absurd (hshort name (by simp)) (Nat.not_le.mpr hover)
      · rintro ⟨hreach, hfound⟩
        refine ⟨?_, hfound⟩
        intro name hname
        apply Nat.le_of_not_lt
        intro hover
        -- folders lead up to every name on the way to something
        obtain ⟨outer, inner, rfl⟩ := List.append_of_mem hname
        exact hreach ⟨outer, name, inner, rfl, hover, exists_folder_of_at? hfound⟩

/-! ## §3. A host with a tree for its files. -/

variable {room : Text → Nat}

/-- **What such a host holds** at a place is the file that stands there, if it is
in reach. -/
theorem holds_host_iff (h : place.Proper) (hne : place ≠ []) {bytes : Bytes} :
    (tree.host here room).Holds place bytes ↔
      ¬ tree.OutOfReach place ∧ tree.at? place = some (.file bytes) := by
  rw [← locate_toPath_eq_ok_iff here h hne]
  constructor
  · intro hholds
    have hread := hholds.read_eq
    rw [host_read, read] at hread
    split at hread
    · exact absurd hread (by simp)
    · exact absurd hread (by simp)
    · next heq => rw [heq, Except.ok.inj hread]
  · intro hlocate
    constructor
    · rw [host_look, hlocate]
      exact ⟨_, rfl⟩
    · rw [host_read, read, hlocate]

/-- **What it refuses** is to look at places that are out of reach. -/
theorem refuses_host_iff (h : place.Proper) (hne : place ≠ []) {e : FileFault} :
    (tree.host here room).Refuses place e ↔ e = .nameTooLong ∧ tree.OutOfReach place := by
  rw [← locate_toPath_eq_nameTooLong_iff here h hne]
  constructor
  · intro hrefuses
    have hlook := hrefuses.look_eq
    have habsence := hrefuses.isAbsence_eq
    rw [host_look] at hlook
    cases hlocate : tree.locate here place.toPath with
    | ok found =>
      rw [hlocate] at hlook
      exact absurd hlook (by simp [Except.map])
    | error e' =>
      rw [hlocate] at hlook
      obtain rfl : e' = e := Except.error.inj hlook
      -- all other faults of a walk mean that nothing is there
      rcases of_locate_eq_error hlocate with ⟨-, rfl⟩ | ⟨-, rfl | rfl | rfl⟩
      · exact absurd habsence (by decide)
      · exact absurd habsence (by decide)
      · exact absurd habsence (by decide)
      · exact ⟨rfl, rfl⟩
  · rintro ⟨rfl, hlocate⟩
    constructor
    · rw [host_look, hlocate]
      rfl
    · rfl

/-! ## §4. What a place shows. -/

/-- What stands at a place, folders not looked into. -/
inductive Standing where
  /-- A file with its bytes. -/
  | file (content : Bytes)
  /-- A folder. -/
  | folder
  deriving DecidableEq

/-- What a tree is, without what it holds if it is a folder. -/
def standing : FileTree → Standing
  | .file content => .file content
  | .folder _ => .folder

/-- What a place shows. -/
def standing? (place : Place) (tree : FileTree) : Option Standing :=
  (tree.at? place).map standing

theorem standing?_eq_file_iff {content : Bytes} :
    tree.standing? place = some (.file content) ↔ tree.at? place = some (.file content) := by
  unfold standing?
  cases tree.at? place with
  | none => simp
  | some found => cases found <;> simp [standing]

theorem standing?_eq_folder_iff :
    tree.standing? place = some .folder ↔ ∃ entries, tree.at? place = some (.folder entries) := by
  unfold standing?
  cases tree.at? place with
  | none => simp
  | some found => cases found <;> simp [standing]

/-- **The folders around a place decide** whether it is out of reach. -/
theorem outOfReach_congr {tree' : FileTree}
    (h : ∀ outer, outer <+: place → (tree.standing? outer = some .folder ↔
      tree'.standing? outer = some .folder)) :
    tree.OutOfReach place ↔ tree'.OutOfReach place := by
  unfold OutOfReach
  apply or_congr_right
  constructor
  · rintro ⟨outer, name, inner, rfl, hover, hfolder⟩
    refine ⟨outer, name, inner, rfl, hover, ?_⟩
    rw [← standing?_eq_folder_iff] at hfolder ⊢
    exact (h outer (List.prefix_append _ _)).mp hfolder
  · rintro ⟨outer, name, inner, rfl, hover, hfolder⟩
    refine ⟨outer, name, inner, rfl, hover, ?_⟩
    rw [← standing?_eq_folder_iff] at hfolder ⊢
    exact (h outer (List.prefix_append _ _)).mpr hfolder

/-! ## §5. Removing a file. -/

theorem lookup_filter_ne (name other : Text) (entries : List (Text × FileTree)) :
    (entries.filter (·.1 != name)).lookup other
      = if other = name then none else entries.lookup other := by
  induction entries with
  | nil => simp
  | cons entry entries ih =>
    obtain ⟨first, child⟩ := entry
    by_cases hfirst : first = name
    · rw [List.filter_cons_of_neg (by simpa using hfirst), ih, List.lookup_cons]
      by_cases hother : other = name
      · rw [if_pos hother, if_pos hother]
      · have hne : (other == first) = false := by simpa [hfirst] using hother
        rw [if_neg hother, if_neg hother, hne]
    · rw [List.filter_cons_of_pos (by simpa using hfirst), List.lookup_cons, List.lookup_cons, ih]
      by_cases hother : other = name
      · have hne : (other == first) = false := by simpa [hother] using Ne.symm hfirst
        simp only [if_pos hother, hne]
      · simp only [if_neg hother]

theorem lookup_setEntry (name other : Text) (child : FileTree)
    (entries : List (Text × FileTree)) :
    (setEntry name child entries).lookup other
      = if other = name then some child else entries.lookup other := by
  unfold setEntry
  rw [List.lookup_cons, lookup_filter_ne]
  by_cases h : other = name
  · rw [if_pos h, if_pos h, beq_iff_eq.mpr h]
  · rw [if_neg h, if_neg h, beq_eq_false_iff_ne.mpr h]

theorem standing?_cons (name : Text) (rest : Place) (entries : List (Text × FileTree)) :
    (folder entries).standing? (name :: rest)
      = (entries.lookup name).bind (standing? rest) := by
  unfold standing?
  rw [at?]
  show ((entries.lookup name).bind (at? rest)).map standing = _
  rw [Option.map_bind]
  rfl

/-- **Removing a file changes its place only.** -/
theorem standing?_remove {content : Bytes} (h : tree.at? place = some (.file content))
    (hne : place ≠ []) (other : Place) :
    (tree.remove place).standing? other = if other = place then none else tree.standing? other := by
  -- induction on the folders that lead to the file
  induction place generalizing tree other with
  | nil => exact absurd rfl hne
  | cons name rest ih =>
    have hfront : tree.at? ([] ++ name :: rest) = some (.file content) := h
    obtain ⟨entries, hentries⟩ := exists_folder_of_at? hfront
    obtain rfl : tree = folder entries := by simpa using hentries
    obtain ⟨child, hchild, hat⟩ : ∃ child, entries.lookup name = some child
        ∧ child.at? rest = some (.file content) := Option.bind_eq_some_iff.mp h
    cases other with
    | nil => cases rest <;> simp [remove, standing?, standing, FileTree.entries, hchild]
    | cons first others =>
      cases rest with
      | nil =>
        show (folder (entries.filter (·.1 != name))).standing? (first :: others) = _
        rw [standing?_cons, standing?_cons, lookup_filter_ne]
        by_cases hfirst : first = name
        · subst hfirst
          obtain rfl : child = .file content := by simpa using hat
          rw [if_pos rfl, hchild]
          cases others <;> simp [standing?, at?, FileTree.entries]
        · rw [if_neg hfirst, if_neg (by simp [hfirst])]
      | cons next rest =>
        have hremove : (folder entries).remove (name :: next :: rest)
            = folder (setEntry name (child.remove (next :: rest)) entries) := by
          simp [remove, FileTree.entries, hchild]
        rw [hremove, standing?_cons, standing?_cons, lookup_setEntry]
        by_cases hfirst : first = name
        · subst hfirst
          rw [if_pos rfl, hchild]
          show (child.remove (next :: rest)).standing? others = _
          rw [ih hat (List.cons_ne_nil next rest)]
          simp
        · rw [if_neg hfirst, if_neg (by simp [hfirst])]

end FileTree

end TapReport
