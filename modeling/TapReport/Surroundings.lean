/-
  TapReport.Surroundings
  ──────────────────────
  **WHAT A READER OF FILES FINDS AROUND IT.**

  A host, and a size limit that the environment may set.  Everything read from
  outside goes through one value of this type, so what a reader does is a
  function of it.

  A file is looked at before it is opened.  The two may disagree: a file of a
  known size need not be one that may be opened.

  Main definitions:
    * `sizeWithin` — looking at a file.
    * `content` — opening it.
-/
import TapReport.Files.Host
import TapReport.Settings.Sources

namespace TapReport

/-- The host and the environment of a reader. -/
structure Surroundings extends Host where
  /-- The size limit of the environment, as it is written there. -/
  sizeLimit : Option Text

/-- Why a file cannot be used; paths are tidy. -/
inductive AccessFault where
  /-- It cannot be reached. -/
  | inaccessible (path : Text) (e : FileFault)
  /-- It is no file. -/
  | notRegular (path : Text)
  /-- It has more bytes than are allowed. -/
  | tooLarge (path : Text) (limit : Int)
  /-- The system alone says why it cannot be opened. -/
  | unopened (path : Text) (e : FileFault)
  deriving DecidableEq, Repr

/-- What is reported for a file that cannot be used. -/
def AccessFault.message : AccessFault → Text
  | .inaccessible path e => "Error accessing ".toList ++ path ++ ": ".toList ++ e.message path
  | .notRegular path => path ++ " is not a regular file.".toList
  | .tooLarge path limit =>
    path ++ " exceeds the maximum allowed size of ".toList ++ Text.ofInt limit ++ " bytes.".toList
  | .unopened path e => e.message path

/-- The codes of the faults for which an opener has words of its own: nothing
is there, it is not allowed, a file is in the way or a folder stands there. -/
def FileFault.openerCodes : List Nat := [1, 2, 13, 20, 21]

/-- Whether an opener has words of its own for a fault. -/
def FileFault.isForOpener (e : FileFault) : Bool :=
  e.code?.any openerCodes.contains

namespace Surroundings

/-- The size of a file that must not have more than `limit` bytes.  The file is
looked at only. -/
def sizeWithin (s : Surroundings) (limit : Int) (path : Text) : Except AccessFault Nat :=
  match s.look (Path.tidy path) with
  | .error .holdsNul => .error (.unopened (Path.tidy path) .holdsNul)
  | .error e => .error (.inaccessible (Path.tidy path) e)
  | .ok .folder | .ok .other => .error (.notRegular (Path.tidy path))
  | .ok (.file size) =>
    if limit < size then .error (.tooLarge (Path.tidy path) limit) else .ok size

/-- The bytes of a file that is opened. -/
def content (s : Surroundings) (path : Text) : Except AccessFault Bytes :=
  match s.read (Path.tidy path) with
  | .ok bytes => .ok bytes
  | .error e =>
    if e.isForOpener then .error (.inaccessible (Path.tidy path) e)
    else .error (.unopened (Path.tidy path) e)

/-- The bytes of a file that must not have more than `limit`: it is looked at,
and then opened. -/
def contentWithin (s : Surroundings) (limit : Int) (path : Text) : Except AccessFault Bytes :=
  (s.sizeWithin limit path).bind fun _ => s.content path

end Surroundings

end TapReport
