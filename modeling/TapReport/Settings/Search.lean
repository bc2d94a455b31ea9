/-
  TapReport.Settings.Search
  ─────────────────────────
  **SEARCHING CONFIGURATION FILES FOR SETTINGS.**

  Settings are looked for in the folder of a report and the folders around
  it, the nearest first.  Each folder has three places for them: a table of
  `pyproject.toml`, and two tables of `.tap-reader.toml`.  The first table
  that is there decides alone; files that are missing, cannot be opened or
  are not TOML are passed over.

  Whether a file is there is asked before it is opened, and a fault of that
  question is not passed over.  Nor are a file that is no text and one that
  the reader of TOML gives up on.

  Main results:
    * `firstOf_of_absent` — candidates without a table do not count.
    * `firstOf_of_present` — what follows the first table does not count.
-/
import TapReport.Fault
import TapReport.Files.Host
import TapReport.Settings.Sources
import TapReport.Stream.Encoding
import TapReport.Toml.Document

namespace TapReport

/-! ## §1. Candidates. -/

/-- A table that may hold settings. -/
structure Candidate where
  /-- The file. -/
  file : Place
  /-- The path of keys to the table in it. -/
  keys : List Text
  deriving DecidableEq, Repr

namespace Candidate

/-- The name of the tool's own table. -/
def tableName : Text := "tap-reader".toList

/-- The path of its table among those of other tools. -/
def toolKeys : List Text := ["tool".toList, tableName]

/-- The candidates in one folder, in the order in which they count. -/
def inFolder (folder : Place) : List Candidate :=
  [⟨folder ++ ["pyproject.toml".toList], toolKeys⟩,
    ⟨folder ++ [".tap-reader.toml".toList], [tableName]⟩,
    ⟨folder ++ [".tap-reader.toml".toList], toolKeys⟩]

/-- The candidates for a folder: its own, then those around it. -/
def around (folder : Place) : List Candidate :=
  folder.upward.flatMap inFolder

end Candidate

/-! ## §2. Reading a candidate. -/

/-- Why settings cannot be loaded. -/
inductive LoadFault where
  /-- They are not valid. -/
  | settings (e : SettingsFault)
  /-- An override has a name that is unknown or taken. -/
  | unknownOverride
  /-- The path to look from cannot be resolved. -/
  | unresolved (e : ResolveFault)
  /-- A place cannot be looked at. -/
  | inaccessible (path : Text) (e : FileFault)
  /-- A file is no text. -/
  | undecodable (e : Undecodable)
  /-- A file holds a decimal integer of too many digits. -/
  | numeralTooLong (digits : Nat)
  /-- A file holds values that are nested too deep. -/
  | tooDeep
  deriving DecidableEq, Repr

/-- What is reported for settings that cannot be loaded. -/
def LoadFault.message : LoadFault → Text
  | .settings e => e.message
  | .unknownOverride => "unknown setting".toList
  | .unresolved e => e.message
  | .inaccessible path e => e.message path
  | .undecodable e => e.message
  | .numeralTooLong digits => (Fault.numeralTooLong digits).message
  | .tooDeep => "maximum recursion depth exceeded".toList

/-- The document of some bytes; `none` if they are a text but not TOML.  The
room for what is nested depends on the text. -/
def readDocument? (room : Text → Nat) (bytes : Bytes) : Except LoadFault (Option Table) :=
  match Utf8.decodeAll bytes with
  | .error e => .error (.undecodable (Encoding.ofMalformed e))
  | .ok t =>
    match Toml.parse (room t) t with
    | .ok table => .ok (some table)
    | .error .malformed => .ok none
    | .error (.numeralTooLong digits) => .error (.numeralTooLong digits)
    | .error .tooDeep => .error .tooDeep

namespace Candidate

/-- What a candidate says, if it is there. -/
def value? (host : Host) (c : Candidate) : Except LoadFault (Option Value) :=
  match host.present? c.file.toPath with
  | .error e => .error (.inaccessible c.file.toPath e)
  | .ok false => .ok none
  | .ok true =>
    match host.read c.file.toPath with
    | .error _ => .ok none
    | .ok bytes =>
      (readDocument? host.room bytes).map fun document =>
        document.bind fun table => (Value.table table).at? c.keys

/-- The settings of the first candidate that is there; the standard settings
if none is. -/
def firstOf (host : Host) : List Candidate → Except LoadFault RawSettings
  | [] => .ok .standard
  | c :: rest =>
    match c.value? host with
    | .error e => .error e
    | .ok none => firstOf host rest
    | .ok (some v) => (RawSettings.ofRaw c.keys c.file.toPath v).mapError .settings

/-- Candidates that say nothing do not count. -/
theorem firstOf_of_absent {host : Host} {absent : List Candidate}
    (h : ∀ c ∈ absent, c.value? host = .ok none) (rest : List Candidate) :
    firstOf host (absent ++ rest) = firstOf host rest := by
  induction absent with
  | nil => rfl
  | cons c absent ih =>
    simp only [List.forall_mem_cons] at h
    simp [firstOf, h.1, ih h.2]

/-- The first candidate that says something decides, whatever follows. -/
theorem firstOf_of_present {host : Host} {c : Candidate} {v : Value}
    (h : c.value? host = .ok (some v)) (rest : List Candidate) :
    firstOf host (c :: rest) = (RawSettings.ofRaw c.keys c.file.toPath v).mapError .settings := by
  simp [firstOf, h]

end Candidate

/-! ## §3. Loading. -/

/-- The settings for a folder. -/
def RawSettings.around (host : Host) (folder : Place) : Except LoadFault RawSettings :=
  Candidate.firstOf host (Candidate.around folder)

/-- The settings for the folder that a path names. -/
def RawSettings.load (host : Host) (path : Text) : Except LoadFault RawSettings :=
  match host.resolve path with
  | .error e => .error (.unresolved e)
  | .ok folder => RawSettings.around host folder

namespace Settings

/-- Replaces settings by overrides that are told apart by name, and checks the
result. -/
def afterOverrides (overrides : Table) (loaded : RawSettings) : Except LoadFault (Settings Int) :=
  match loaded.overrideNamed? overrides with
  | none => .error .unknownOverride
  | some s => s.check.mapError .settings

/-- The name of the path that is asked for.  It is taken before anything is
loaded. -/
def pathName : Text := "search_path".toList

/-- The valid settings for the folder that a path names. -/
def build (host : Host) (path : Text) (overrides : Table) : Except LoadFault (Settings Int) :=
  if (Table.lookup? pathName overrides).isSome then .error .unknownOverride
  else (RawSettings.load host path).bind (afterOverrides overrides)

end Settings

end TapReport
