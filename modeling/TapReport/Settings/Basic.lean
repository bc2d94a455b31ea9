/-
  TapReport.Settings.Basic
  ────────────────────────
  **THE SETTINGS OF A READER, AND WHEN THEY ARE VALID.**

  There are four settings.  Where they come from decides nothing about what
  they are: a value of any kind is taken over and only checked when all
  settings are known, so a bad value does no harm if a good one replaces it.

  Main results:
    * `check_eq_ok_iff` — exactly integers in range are valid, and checking
      leaves them as they are.
    * `get_set` — setting one key leaves the others.
-/
import TapReport.Data.Value

namespace TapReport

/-! ## §1. Four settings. -/

/-- The settings there are. -/
inductive SettingKey where
  /-- The indentation of the block under a test. -/
  | indentLevel
  /-- The most items of a report that are read. -/
  | itemLimit
  /-- The most lines of one block. -/
  | blockLimit
  /-- The most bytes of a file. -/
  | maxFileSize
  deriving DecidableEq, Repr

namespace SettingKey

/-- The settings in the order in which they are checked. -/
def all : List SettingKey :=
  [.indentLevel, .itemLimit, .blockLimit, .maxFileSize]

/-- The name of a setting. -/
def name : SettingKey → Text
  | .indentLevel => "indent_level".toList
  | .itemLimit => "iter_limit".toList
  | .blockLimit => "yaml_line_limit".toList
  | .maxFileSize => "max_file_size".toList

/-- The setting with a name. -/
def ofName? (t : Text) : Option SettingKey :=
  all.find? (·.name = t)

end SettingKey

/-- One value for each setting. -/
structure Settings (α : Type) where
  /-- The indentation of the block under a test. -/
  indentLevel : α
  /-- The most items of a report that are read. -/
  itemLimit : α
  /-- The most lines of one block. -/
  blockLimit : α
  /-- The most bytes of a file. -/
  maxFileSize : α
  deriving DecidableEq, Repr

namespace Settings

variable {α β : Type}

/-- The value of a setting. -/
def get (s : Settings α) : SettingKey → α
  | .indentLevel => s.indentLevel
  | .itemLimit => s.itemLimit
  | .blockLimit => s.blockLimit
  | .maxFileSize => s.maxFileSize

/-- Gives a setting another value. -/
def set (s : Settings α) (key : SettingKey) (a : α) : Settings α :=
  match key with
  | .indentLevel => { s with indentLevel := a }
  | .itemLimit => { s with itemLimit := a }
  | .blockLimit => { s with blockLimit := a }
  | .maxFileSize => { s with maxFileSize := a }

/-- Setting one key leaves the others as they are. -/
theorem get_set (s : Settings α) (key other : SettingKey) (a : α) :
    (s.set key a).get other = if key = other then a else s.get other := by
  cases key <;> cases other <;> rfl

/-- Changes every value. -/
def map (f : α → β) (s : Settings α) : Settings β :=
  ⟨f s.indentLevel, f s.itemLimit, f s.blockLimit, f s.maxFileSize⟩

/-- The settings where nothing else is said. -/
def standard : Settings Int :=
  ⟨2, 500, 10000, 10485760⟩

end Settings

/-- Settings that are not checked. -/
abbrev RawSettings := Settings Value

/-- The standard settings before a check. -/
def RawSettings.standard : RawSettings :=
  Settings.standard.map .int

/-! ## §2. Checking. -/

/-- What is wrong with settings. -/
inductive SettingsFault where
  /-- A value is no integer. -/
  | notInteger (key : SettingKey)
  /-- A value is negative. -/
  | negative (key : SettingKey)
  /-- A value is not positive. -/
  | notPositive (key : SettingKey)
  /-- A file does not give its settings as a table of known keys. -/
  | badTable (path : List Text) (file : Text)
  deriving DecidableEq, Repr

/-- What is reported for faulty settings. -/
def SettingsFault.message : SettingsFault → Text
  | .notInteger key => ['`'] ++ key.name ++ "` must be an integer".toList
  | .negative key => ['`'] ++ key.name ++ "` must be a non-negative integer".toList
  | .notPositive key => ['`'] ++ key.name ++ "` must be a positive integer".toList
  | .badTable path file =>
    "Invalid `[".toList ++ Text.joinWith ['.'] path ++ "]` settings in ".toList ++ file

namespace Settings

/-- The settings as integers, if all of them are. -/
def toIntegers (s : RawSettings) : Except SettingsFault (Settings Int) := do
  let indentLevel ← integer .indentLevel
  let itemLimit ← integer .itemLimit
  let blockLimit ← integer .blockLimit
  let maxFileSize ← integer .maxFileSize
  return ⟨indentLevel, itemLimit, blockLimit, maxFileSize⟩
where
  /-- One setting as an integer. -/
  integer (key : SettingKey) : Except SettingsFault Int :=
    match (s.get key).toInteger? with
    | some n => .ok n
    | none => .error (.notInteger key)

/-- The first setting that is out of range, if any: the indentation must not
be negative, the limits must be positive. -/
def rangeFault? (s : Settings Int) : Option SettingsFault :=
  if s.indentLevel < 0 then some (.negative .indentLevel)
  else if s.itemLimit ≤ 0 then some (.notPositive .itemLimit)
  else if s.blockLimit ≤ 0 then some (.notPositive .blockLimit)
  else if s.maxFileSize ≤ 0 then some (.notPositive .maxFileSize)
  else none

/-- Settings that may be used. -/
structure Valid (s : Settings Int) : Prop where
  /-- The indentation is not negative. -/
  indentLevel_nonneg : 0 ≤ s.indentLevel
  /-- Some item may be read. -/
  itemLimit_pos : 0 < s.itemLimit
  /-- A block may have a line. -/
  blockLimit_pos : 0 < s.blockLimit
  /-- A file may have a byte. -/
  maxFileSize_pos : 0 < s.maxFileSize

/-- Settings have no fault of range exactly when they are valid. -/
theorem rangeFault?_eq_none_iff {s : Settings Int} : s.rangeFault? = none ↔ s.Valid := by
  unfold rangeFault?
  constructor
  · intro h
    split at h <;> try contradiction
    split at h <;> try contradiction
    split at h <;> try contradiction
    split at h <;> try contradiction
    exact ⟨by omega, by omega, by omega, by omega⟩
  · rintro ⟨h₁, h₂, h₃, h₄⟩
    simp [Int.not_lt.mpr h₁, Int.not_le.mpr h₂, Int.not_le.mpr h₃, Int.not_le.mpr h₄]

/-- Checks settings: first that all are integers, then their ranges. -/
def check (s : RawSettings) : Except SettingsFault (Settings Int) :=
  match s.toIntegers with
  | .error e => .error e
  | .ok n =>
    match n.rangeFault? with
    | some e => .error e
    | none => .ok n

/-- Settings are integers exactly when they come from integers. -/
theorem toIntegers_eq_ok_iff {s : RawSettings} {n : Settings Int} :
    s.toIntegers = .ok n ↔ s = n.map .int := by
  obtain ⟨a, b, c, d⟩ := s
  obtain ⟨a', b', c', d'⟩ := n
  simp only [toIntegers, toIntegers.integer, get, map, Settings.mk.injEq]
  cases ha : a.toInteger? <;> cases hb : b.toInteger? <;> cases hc : c.toInteger? <;>
    cases hd : d.toInteger? <;>
    simp_all [bind, Except.bind, pure, Except.pure, Value.toInteger?_eq_some_iff] <;>
    grind [Value.toInteger?]

/-- The check accepts exactly the valid settings, and keeps them as they are. -/
theorem check_eq_ok_iff {s : RawSettings} {n : Settings Int} :
    s.check = .ok n ↔ s = n.map .int ∧ n.Valid := by
  unfold check
  constructor
  · intro h
    split at h
    · contradiction
    · next m hm =>
      split at h
      · contradiction
      · next hr =>
        obtain rfl : m = n := by simpa using h
        exact ⟨toIntegers_eq_ok_iff.mp hm, rangeFault?_eq_none_iff.mp hr⟩
  · rintro ⟨hs, hn⟩
    simp [toIntegers_eq_ok_iff.mpr hs, rangeFault?_eq_none_iff.mpr hn]

end Settings

end TapReport
