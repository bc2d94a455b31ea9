/-
  TapReport.Files.Host
  ────────────────────
  **THE SYSTEM THAT IS ASKED ABOUT FILES.**

  A host answers questions about a path: what stands there, which bytes it
  holds, which place it names.  Any answer may be a fault, and none follows
  from the others: a file that is there need not be one that may be read, and
  a link may lead in a circle.  One thing is known of all hosts: they refuse a
  path with the character of number zero, and only such a path, with a fault
  of its own.

  A tree of files is the simplest host.  There everything can be looked at and
  read, and a place is what the names on the path come to.

      Host              a current folder, and the answers to the questions
      Host.present?     whether anything stands at a path
      Host.resolve      the place that a path names
      FileTree.host     the host that has a tree for its files
      Host.without      the host that finds nothing at a path

  Main result:
    * `FileTree.resolve_host` — with a tree for its files, a host resolves a
      path by its names.
-/
import TapReport.Files.Tree

namespace TapReport

/-! ## §1. Hosts. -/

/-- What stands at a path. -/
inductive Found where
  /-- A file of this many bytes. -/
  | file (size : Nat)
  /-- A folder. -/
  | folder
  /-- Something else, such as a device. -/
  | other
  deriving DecidableEq, Repr

/-- What a reader asks the system. -/
structure Host where
  /-- The current folder. -/
  here : Place
  /-- What stands at a path, at the end of all links. -/
  look : Text → Except FileFault Found
  /-- The bytes at a path, if they may be read. -/
  read : Text → Except FileFault Bytes
  /-- The place that a path names, with all links followed.  Nothing need stand
  there, and links that lead in a circle are left as they are. -/
  realPath : Text → Except FileFault Place
  /-- How many calls a reader of this text has left for what is nested in it.
  A reader calls itself for a value in a value, and the stack has an end. -/
  room : Text → Nat
  /-- Exactly paths with the character of number zero are not looked at. -/
  look_eq_holdsNul_iff : ∀ path, look path = .error .holdsNul ↔ Char.ofNat 0 ∈ path
  /-- And they are not opened. -/
  read_eq_holdsNul_iff : ∀ path, read path = .error .holdsNul ↔ Char.ofNat 0 ∈ path

/-- Why a path cannot be resolved. -/
inductive ResolveFault where
  /-- The system does not follow it. -/
  | inaccessible (path : Text) (e : FileFault)
  /-- It ends in links that lead in a circle. -/
  | linkLoop (place : Place)
  deriving DecidableEq, Repr

/-- What is reported for a path that cannot be resolved. -/
def ResolveFault.message : ResolveFault → Text
  | .inaccessible path e => e.message path
  | .linkLoop place => "Symlink loop from ".toList ++ Text.quoted place.toPath

namespace Host

/-- The room that a thousand calls usually leave for any text. -/
def usualRoom : Text → Nat := fun _ => 989

/-- Whether anything stands at a path.  Faults that mean that nothing does are
the answer no, others stay faults. -/
def present? (host : Host) (path : Text) : Except FileFault Bool :=
  match host.look path with
  | .ok _ => .ok true
  | .error e => if e.isAbsence then .ok false else .error e

/-- The place that a path names.  It is looked at once for links that lead in a
circle; no other fault there is reported. -/
def resolve (host : Host) (path : Text) : Except ResolveFault Place :=
  match host.realPath path with
  | .error e => .error (.inaccessible path e)
  | .ok place =>
    match host.look place.toPath with
    | .error .linkLoop => .error (.linkLoop place)
    | _ => .ok place

/-- A path is resolved to the place it names if no circle of links is there. -/
theorem resolve_of_realPath {host : Host} {path : Text} {place : Place}
    (h : host.realPath path = .ok place) (hloop : host.look place.toPath ≠ .error .linkLoop) :
    host.resolve path = .ok place := by
  unfold resolve
  rw [h]
  dsimp only
  split
  · next heq => exact absurd heq hloop
  · rfl

/-- The fault at a path where nothing stands. -/
def nothingAt (path : Text) : FileFault :=
  if Char.ofNat 0 ∈ path then .holdsNul else .missing

/-- What is said of nothing depends on the path only in this. -/
theorem nothingAt_eq_holdsNul_iff {path : Text} :
    nothingAt path = .holdsNul ↔ Char.ofNat 0 ∈ path := by
  unfold nothingAt
  split <;> simp_all

/-- A host that finds nothing at a path, and elsewhere what it found. -/
def without (host : Host) (path : Text) : Host where
  here := host.here
  look other := if other = path then .error (nothingAt other) else host.look other
  read other := if other = path then .error (nothingAt other) else host.read other
  realPath := host.realPath
  room := host.room
  look_eq_holdsNul_iff other := by
    split
    · simp [nothingAt_eq_holdsNul_iff]
    · exact host.look_eq_holdsNul_iff other
  read_eq_holdsNul_iff other := by
    split
    · simp [nothingAt_eq_holdsNul_iff]
    · exact host.read_eq_holdsNul_iff other

end Host

/-! ## §2. A tree of files. -/

namespace FileTree

/-- What a tree is to one who looks at it. -/
def found : FileTree → Found
  | .file content => .file content.length
  | .folder _ => .folder

/-- The host with a tree for its files.  It has no links, and lets everything be
read. -/
def host (tree : FileTree) (here : Place) (room : Text → Nat) : Host where
  here := here
  look path := (tree.locate here path).map found
  read path := tree.read here path
  realPath path := if Char.ofNat 0 ∈ path then .error .holdsNul else .ok (Path.resolve here path)
  room := room
  look_eq_holdsNul_iff path := by
    rw [← locate_eq_holdsNul_iff tree here]
    cases tree.locate here path <;> simp [Except.map]
  read_eq_holdsNul_iff _ := tree.read_eq_holdsNul_iff here

variable {tree : FileTree} {here : Place} {room : Text → Nat}

/-- To look at a path is to follow it in the tree. -/
theorem host_look (path : Text) :
    (tree.host here room).look path = (tree.locate here path).map found := rfl

/-- To read at a path is to read in the tree. -/
theorem host_read (path : Text) : (tree.host here room).read path = tree.read here path := rfl

/-- Without links there is no circle of links. -/
theorem look_host_ne_linkLoop (path : Text) :
    (tree.host here room).look path ≠ .error .linkLoop := by
  rw [host_look]
  cases hlocate : tree.locate here path with
  | ok found => simp [Except.map]
  | error e =>
    rcases of_locate_eq_error hlocate with ⟨-, rfl⟩ | ⟨-, rfl | rfl | rfl⟩
    all_goals simp [Except.map]

/-- **A path is resolved by its names** where there are no links. -/
theorem resolve_host {path : Text} (h : Char.ofNat 0 ∉ path) :
    (tree.host here room).resolve path = .ok (Path.resolve here path) :=
  Host.resolve_of_realPath (if_neg h) (look_host_ne_linkLoop _)

end FileTree

end TapReport
