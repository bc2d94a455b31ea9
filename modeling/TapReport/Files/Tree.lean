/-
  TapReport.Files.Tree
  ────────────────────
  **FILES AND FOLDERS, AND WALKING ALONG A PATH.**

  A tree of files is a file or a folder of named trees.  A path is walked
  part by part: each part needs a folder to start from, so a path through a
  file fails differently from one through nothing.

  Main results:
    * `at?_append` — a place inside a place.
    * `locate_eq_holdsNul_iff` — only the path itself can hold the character
      of number zero.
    * `locate_name` — the name of something in the current folder is a path
      to it.
-/
import TapReport.Files.Path
import TapReport.Text.Quoted
import TapReport.Text.Utf8

namespace TapReport

/-! ## §1. Trees. -/

/-- A file or a folder. -/
inductive FileTree where
  /-- A file with its bytes. -/
  | file (content : Bytes)
  /-- A folder with what stands in it. -/
  | folder (entries : List (Text × FileTree))

namespace FileTree

/-- What stands in a folder; a file holds nothing. -/
def entries : FileTree → List (Text × FileTree)
  | .file _ => []
  | .folder entries => entries

/-- What stands at a place of a tree. -/
def at? : Place → FileTree → Option FileTree
  | [], tree => some tree
  | name :: place, tree => (tree.entries.lookup name).bind (at? place)

@[simp] theorem at?_nil (tree : FileTree) : tree.at? [] = some tree := rfl

/-- A place inside a place is found in what stands at the outer one. -/
theorem at?_append (outer inner : Place) (tree : FileTree) :
    tree.at? (outer ++ inner) = (tree.at? outer).bind (at? inner) := by
  induction outer generalizing tree with
  | nil => rfl
  | cons name outer ih =>
    simp only [List.cons_append, at?]
    cases tree.entries.lookup name with
    | none => rfl
    | some child => simpa using ih child

/-! ## §2. Changing a tree. -/

/-- Named trees with one of them set. -/
def setEntry (name : Text) (tree : FileTree) (entries : List (Text × FileTree)) :
    List (Text × FileTree) :=
  (name, tree) :: entries.filter (·.1 != name)

/-- Changes what stands at a place, where nothing may have stood; folders on
the way are made. -/
def alter (f : Option FileTree → FileTree) : Place → Option FileTree → FileTree
  | [], old => f old
  | name :: place, old =>
    let around := (old.map entries).getD []
    .folder (setEntry name (alter f place (around.lookup name)) around)

/-- Writes a file. -/
def write (place : Place) (content : Bytes) (tree : FileTree) : FileTree :=
  alter (fun _ => .file content) place (some tree)

/-- Makes a folder, unless it is there. -/
def makeFolder (place : Place) (tree : FileTree) : FileTree :=
  alter (fun old => .folder ((old.map entries).getD [])) place (some tree)

/-- Removes what stands at a place. -/
def remove : Place → FileTree → FileTree
  | [], _ => .folder []
  | [name], tree => .folder (tree.entries.filter (·.1 != name))
  | name :: place, tree =>
    match tree.entries.lookup name with
    | none => tree
    | some child => .folder (setEntry name (remove place child) tree.entries)

end FileTree

/-! ## §3. Walking along a path. -/

/-- Why nothing can be reached along a path, or not be read. -/
inductive FileFault where
  /-- Nothing stands there. -/
  | missing
  /-- The path leads through a file. -/
  | notFolder
  /-- A folder stands where a file was to be read. -/
  | isFolder
  /-- It is not allowed. -/
  | denied
  /-- The path or one of its names is too long. -/
  | nameTooLong
  /-- The path leads along links that lead in a circle. -/
  | linkLoop
  /-- The path holds the character of number zero. -/
  | holdsNul
  /-- Another fault of the system, by its code and its words for it. -/
  | other (code : Nat) (reason : Text)
  deriving DecidableEq, Repr

namespace FileFault

/-- The code that the system has for a fault; what it is never asked has
none. -/
def code? : FileFault → Option Nat
  | .missing => some 2
  | .denied => some 13
  | .notFolder => some 20
  | .isFolder => some 21
  | .nameTooLong => some 36
  | .linkLoop => some 40
  | .holdsNul => none
  | .other code _ => some code

/-- The words for a fault. -/
def reason : FileFault → Text
  | .missing => "No such file or directory".toList
  | .denied => "Permission denied".toList
  | .notFolder => "Not a directory".toList
  | .isFolder => "Is a directory".toList
  | .nameTooLong => "File name too long".toList
  | .linkLoop => "Too many levels of symbolic links".toList
  | .holdsNul => "embedded null byte".toList
  | .other _ reason => reason

/-- What is reported for a path along which nothing can be reached. -/
def message (path : Text) (e : FileFault) : Text :=
  match e.code? with
  | none => e.reason
  | some code =>
    "[Errno ".toList ++ Text.ofNat code ++ "] ".toList ++ e.reason ++ ": ".toList
      ++ Text.quoted path

/-- The codes of faults that mean that nothing stands at a path: nothing is
there, it is not open, it leads through a file or in a circle. -/
def absenceCodes : List Nat := [2, 9, 20, 40]

/-- Whether a fault at a path is taken to mean that nothing stands there. -/
def isAbsence (e : FileFault) : Bool :=
  e.code?.all absenceCodes.contains

end FileFault

namespace FileTree

/-- The most bytes of one name. -/
def longestName : Nat := 255

/-- The most bytes of a path. -/
def longestPath : Nat := 4095

/-- Goes on from a place along the parts of a path. -/
def follow (tree : FileTree) (here : Place) : List Text → Except FileFault FileTree
  | [] =>
    match tree.at? here with
    | none => .error .missing
    | some found => .ok found
  | part :: parts =>
    match tree.at? here with
    | none => .error .missing
    | some (.file _) => .error .notFolder
    | some (.folder _) =>
      if part = [] || part = ['.'] then follow tree here parts
      else if part = "..".toList then follow tree here.dropLast parts
      else if longestName < (Utf8.encode part).length then .error .nameTooLong
      else follow tree (here ++ [part]) parts

/-- What a path leads to when `here` is the current folder. -/
def locate (tree : FileTree) (here : Place) (path : Text) : Except FileFault FileTree :=
  if path.contains (Char.ofNat 0) then .error .holdsNul
  else if path.isEmpty then .error .missing
  else if longestPath < (Utf8.encode path).length then .error .nameTooLong
  else tree.follow (if Path.isAbsolute path then [] else here) (Path.parts path)

/-- The faults of a walk: nothing, a file or a long name is in the way. -/
theorem of_follow_eq_error {tree : FileTree} {here : Place} {parts : List Text} {e : FileFault}
    (h : tree.follow here parts = .error e) :
    e = .missing ∨ e = .notFolder ∨ e = .nameTooLong := by
  -- induction on the parts of the path, as `follow` recurs
  induction parts generalizing here with
  | nil =>
    rw [follow] at h
    split at h
    · exact .inl (Except.error.inj h).symm
    · exact absurd h (by simp)
  | cons part parts ih =>
    rw [follow] at h
    split at h
    · exact .inl (Except.error.inj h).symm
    · exact .inr (.inl (Except.error.inj h).symm)
    · split at h
      · exact ih h
      · split at h
        · exact ih h
        · split at h
          · exact .inr (.inr (Except.error.inj h).symm)
          · exact ih h

/-- The faults along a path: it holds the character of number zero, or the
walk along it fails. -/
theorem of_locate_eq_error {tree : FileTree} {here : Place} {path : Text} {e : FileFault}
    (h : tree.locate here path = .error e) :
    Char.ofNat 0 ∈ path ∧ e = .holdsNul
      ∨ Char.ofNat 0 ∉ path ∧ (e = .missing ∨ e = .notFolder ∨ e = .nameTooLong) := by
  unfold locate at h
  split at h
  · next hnul => exact .inl ⟨by simpa using hnul, (Except.error.inj h).symm⟩
  next hnul =>
  refine .inr ⟨by simpa using hnul, ?_⟩
  split at h
  · exact .inl (Except.error.inj h).symm
  · split at h
    · exact .inr (.inr (Except.error.inj h).symm)
    · exact of_follow_eq_error h

/-- Only the path itself can hold the character of number zero. -/
theorem locate_eq_holdsNul_iff (tree : FileTree) (here : Place) {path : Text} :
    tree.locate here path = .error .holdsNul ↔ Char.ofNat 0 ∈ path := by
  constructor
  · intro h
    rcases of_locate_eq_error h with ⟨hnul, -⟩ | ⟨-, hother⟩
    · exact hnul
    · exact absurd hother (by simp)
  · intro h
    unfold locate
    rw [if_pos (by simpa using h)]

/-- The bytes of the file that a path leads to. -/
def read (tree : FileTree) (here : Place) (path : Text) : Except FileFault Bytes :=
  match tree.locate here path with
  | .error e => .error e
  | .ok (.folder _) => .error .isFolder
  | .ok (.file content) => .ok content

/-- Exactly paths with the character of number zero cannot be read for it. -/
theorem read_eq_holdsNul_iff (tree : FileTree) (here : Place) {path : Text} :
    tree.read here path = .error .holdsNul ↔ Char.ofNat 0 ∈ path := by
  rw [← locate_eq_holdsNul_iff tree here]
  unfold read
  cases tree.locate here path with
  | error e => simp
  | ok found => cases found <;> simp

/-- A text that names one thing in a folder. -/
structure IsName (name : Text) : Prop extends IsPart name where
  /-- It is short enough. -/
  length_le : (Utf8.encode name).length ≤ longestName

/-- In a folder a name leads to the entry of that name. -/
theorem locate_name {tree : FileTree} {here : Place} {name : Text} (h : IsName name)
    {entries : List (Text × FileTree)} (hf : tree.at? here = some (.folder entries)) :
    tree.locate here name = match entries.lookup name with
      | none => .error .missing
      | some found => .ok found := by
  have hlong : ¬ longestPath < (Utf8.encode name).length := by
    have := h.length_le
    simp only [longestName, longestPath] at *
    omega
  have habs : Path.isAbsolute name = false := by
    cases name with
    | nil => rfl
    | cons c name =>
      have hc : c ≠ '/' := fun hc => h.slash_notMem (by simp [hc])
      simp [Path.isAbsolute, hc]
  have hat : tree.at? (here ++ [name]) = entries.lookup name := by
    rw [at?_append, hf]
    simp only [Option.bind_some, at?, FileTree.entries]
    cases entries.lookup name <;> rfl
  simp only [locate, List.contains_iff_mem, h.nul_notMem, if_false, List.isEmpty_iff, h.ne_nil,
    hlong, habs, Path.parts_of_notMem h.slash_notMem, Bool.false_eq_true, follow, hf]
  simp only [h.ne_here, h.ne_back, Nat.not_lt.mpr h.length_le, decide_false, Bool.or_self,
    Bool.false_eq_true, if_false, hat]

end FileTree

end TapReport
