/-
  TapReport.Settings.Sources
  ──────────────────────────
  **WHERE SETTINGS COME FROM: TABLES, OVERRIDES, THE ENVIRONMENT.**

  A table of a configuration file may give any of the settings under its
  name, with dashes for underscores if it likes; an unknown name makes the
  whole table invalid.  Overrides replace single settings; an override
  without a value does nothing, unless its name is the one of what is
  overridden.  The environment can replace the size limit of files.

  Main definitions: `RawSettings.ofRaw`, `RawSettings.overrideNamed?`,
  `sizeLimit`.
-/
import TapReport.Settings.Basic

namespace TapReport

/-! ## §1. Tables. -/

namespace RawSettings

/-- Takes over named values one after another; `none` if a name is unknown. -/
def takeOver? (s : RawSettings) : Table → Option RawSettings
  | [] => some s
  | (name, v) :: entries =>
    (SettingKey.ofName? name).bind fun key => takeOver? (s.set key v) entries

/-- The standard settings with named values taken over. -/
def ofTable? (entries : Table) : Option RawSettings :=
  RawSettings.standard.takeOver? entries

/-- A name with underscores for dashes. -/
def withUnderscores (name : Text) : Text :=
  name.map fun c => if c = '-' then '_' else c

/-- The settings that the value at `path` of a file gives. -/
def ofRaw (path : List Text) (file : Text) : Value → Except SettingsFault RawSettings
  | .null => .ok .standard
  | .table entries =>
    match ofTable? (entries.map fun (name, v) => (withUnderscores name, v)) with
    | some s => .ok s
    | none => .error (.badTable path file)
  | _ => .error (.badTable path file)

/-! ## §2. Overrides. -/

/-- The overrides that have a value. -/
def present (overrides : Table) : Table :=
  overrides.filter (·.2.isPresent)

/-- Replaces settings by overrides that have a value; `none` if one of these
has an unknown name. -/
def override? (s : RawSettings) (overrides : Table) : Option RawSettings :=
  s.takeOver? (present overrides)

/-- The name of what is overridden.  It is taken: no override can have it, not
even one without a value. -/
def baseName : Text := "config".toList

/-- Replaces settings by overrides that are told apart by name; `none` if one of
these has a name that is unknown or taken. -/
def overrideNamed? (s : RawSettings) (overrides : Table) : Option RawSettings :=
  if (Table.lookup? baseName overrides).isSome then none else s.override? overrides

end RawSettings

/-! ## §3. The size limit of files. -/

/-- The environment variable for the size limit of files. -/
def sizeVariable : Text := "TAP_READER_MAX_FILE_SIZE".toList

/-- Why the size limit of the environment cannot be used. -/
inductive SizeFault where
  /-- It is no integer. -/
  | notInteger (text : Text)
  /-- It is not positive. -/
  | notPositive (n : Int)
  deriving DecidableEq, Repr

/-- What is reported for an unusable size limit. -/
def SizeFault.message : SizeFault → Text
  | .notInteger text =>
    "Invalid value for ".toList ++ sizeVariable ++ ": ".toList ++ text
      ++ " (expected positive integer)".toList
  | .notPositive n =>
    sizeVariable ++ " must be a positive integer, got ".toList ++ Text.ofInt n ++ ['.']

/-- The size limit: that of the environment if it gives one, otherwise the
given one. -/
def sizeLimit (environment : Option Text) (otherwise : Int) : Except SizeFault Int :=
  match environment with
  | none => .ok otherwise
  | some text =>
    match Text.readInteger? text with
    | none => .error (.notInteger text)
    | some n => if n ≤ 0 then .error (.notPositive n) else .ok n

end TapReport
