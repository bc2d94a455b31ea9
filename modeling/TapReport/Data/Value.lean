/-
  TapReport.Data.Value
  ────────────────────
  **VALUES OF ANY KIND, AS CONFIGURATION FILES HOLD THEM.**

  A configuration file may give any kind of value for a setting, so a
  setting is a `Value` until it is checked.  A table keeps its entries in
  the order in which they were written.

  Main results:
    * `lookup?_cons` — how a key is found in a table.
    * `toInteger?_eq_some_iff` — integers are integers; truth values are not.
-/
import TapReport.Data.Binary64

namespace TapReport

/-- A value of a configuration file. -/
inductive Value where
  /-- No value. -/
  | null
  /-- A truth value. -/
  | bool (b : Bool)
  /-- An integer. -/
  | int (n : Int)
  /-- A floating-point number. -/
  | float (x : Binary64)
  /-- A text. -/
  | text (t : Text)
  /-- A date, a time or both, in the notation of ISO 8601. -/
  | moment (iso : Text)
  /-- A list of values. -/
  | array (items : List Value)
  /-- Named values. -/
  | table (entries : List (Text × Value))

/-- Named values in the order in which they were written. -/
abbrev Table := List (Text × Value)

namespace Table

/-- The value of a key: the first entry with that name. -/
def lookup? (key : Text) (t : Table) : Option Value :=
  (t.find? (·.1 = key)).map (·.2)

/-- The first entry of a name counts. -/
theorem lookup?_cons (key name : Text) (v : Value) (t : Table) :
    lookup? key ((name, v) :: t) = if name = key then some v else lookup? key t := by
  by_cases h : name = key <;> simp [lookup?, h]

/-- Gives a key a value: in its place if the key is known, at the end if
not. -/
def insert (key : Text) (v : Value) : Table → Table
  | [] => [(key, v)]
  | (name, old) :: t => if name = key then (name, v) :: t else (name, old) :: insert key v t

end Table

namespace Value

/-- The integer that a value is. -/
def toInteger? : Value → Option Int
  | .int n => some n
  | _ => none

/-- Only integers are integers: truth values are not, nor are whole fractions. -/
theorem toInteger?_eq_some_iff {v : Value} {n : Int} : v.toInteger? = some n ↔ v = .int n := by
  cases v <;> simp [toInteger?]

/-- The whole number that a value counts for: an integer for itself, a truth
value for one or zero. -/
def whole? : Value → Option Int
  | .int n => some n
  | .bool b => some (if b then 1 else 0)
  | _ => none

/-- Whether a value is present. -/
def isPresent : Value → Bool
  | .null => false
  | _ => true

/-- The value at a path of keys through nested tables. -/
def at? : List Text → Value → Option Value
  | [], v => some v
  | key :: path, .table entries => (Table.lookup? key entries).bind (at? path)
  | _ :: _, _ => none

/-- Whether a table says of itself that it is a success: its entry `success`
is the truth value true. -/
def saysSuccess : Value → Bool
  | .table entries =>
    match Table.lookup? "success".toList entries with
    | some (.bool true) => true
    | _ => false
  | _ => false

/-- The name of a moment's kind.  A day and a time are written with a letter
between them, and a day alone with dashes. -/
def momentKind (moment : Text) : Text :=
  if 'T' ∈ moment then "datetime".toList
  else if '-' ∈ moment then "date".toList
  else "time".toList

/-- The name of a value's kind. -/
def kindName : Value → Text
  | .null => "NoneType".toList
  | .bool _ => "bool".toList
  | .int _ => "int".toList
  | .float _ => "float".toList
  | .text _ => "str".toList
  | .moment t => momentKind t
  | .array _ => "list".toList
  | .table _ => "dict".toList

end Value

end TapReport
