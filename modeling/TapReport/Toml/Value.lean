/-
  TapReport.Toml.Value
  ────────────────────
  **KEYS AND VALUES OF TOML.**

  A key is a sequence of names with points between them.  Lists and inline
  tables hold values again, and their readers call each other.  Two numbers
  bound these calls.  One is a count of steps, which is never short because
  every step takes a character.  The other is the room for calls inside calls:
  a list or a table takes a part of it for the values in it, and where the room
  ends, so does the reading, whatever the rest of the text is.

  Main definitions: `readKey`, `readValue`.
-/
import TapReport.Toml.Moment
import TapReport.Toml.Number

namespace TapReport.Toml

/-! ## §1. Keys. -/

/-- A path of names. -/
abbrev Key := List Text

/-- A character of a name without quotes. -/
def isBareKeyChar (c : Char) : Bool :=
  c.isAlphanum || c = '-' || c = '_'

/-- Reads one name. -/
def readName (t : Text) : Scan Text :=
  match t with
  | '\'' :: rest => readLiteral rest
  | '"' :: rest => readBasic rest
  | _ =>
    match t.takeWhile isBareKeyChar with
    | [] => .error .malformed
    | name => .ok (name, t.dropWhile isBareKeyChar)

/-- Reads a key of at most `n` names, and the blanks after it. -/
def readKeyWithin : Nat → Text → Scan Key
  | 0, _ => .error .malformed
  | n + 1, t =>
    match readName t with
    | .error e => .error e
    | .ok (name, rest) =>
      match skipBlanks rest with
      | '.' :: rest =>
        match readKeyWithin n (skipBlanks rest) with
        | .error e => .error e
        | .ok (names, rest) => .ok (name :: names, rest)
      | rest => .ok ([name], rest)

/-- Reads a key, and the blanks after it. -/
def readKey (t : Text) : Scan Key :=
  readKeyWithin (t.length + 1) t

/-! ## §2. Nested tables. -/

/-- Changes the table at a path.  Tables on the way are made where there are
none; with `throughLists` a list of tables stands for its last table.
`none` if something else is in the way. -/
def updateAt? (throughLists : Bool) (f : Table → Option Table) : Key → Table → Option Table
  | [], t => f t
  | name :: path, t =>
    match Table.lookup? name t with
    | none => (updateAt? throughLists f path []).map fun inner => t.insert name (.table inner)
    | some (.table inner) =>
      (updateAt? throughLists f path inner).map fun inner => t.insert name (.table inner)
    | some (.array items) =>
      match throughLists, items.getLast? with
      | true, some (.table inner) =>
        (updateAt? throughLists f path inner).map fun inner =>
          t.insert name (.array (items.dropLast ++ [.table inner]))
      | _, _ => none
    | some _ => none

/-- Gives a new name a value. -/
def insertNew? (name : Text) (v : Value) (t : Table) : Option Table :=
  match Table.lookup? name t with
  | none => some (Table.insert name v t)
  | some _ => none

/-- Whether a value is a list or a table. -/
def isContainer : Value → Bool
  | .array _ | .table _ => true
  | _ => false

/-! ## §3. Values. -/

/-- Reads a string, a truth value, a date, a time or a number. -/
def readScalar (t : Text) : Scan Value :=
  match t with
  | '"' :: '"' :: '"' :: rest => (readTripleBasic rest).map fun (s, rest) => (.text s, rest)
  | '"' :: rest => (readBasic rest).map fun (s, rest) => (.text s, rest)
  | '\'' :: '\'' :: '\'' :: rest => (readTripleLiteral rest).map fun (s, rest) => (.text s, rest)
  | '\'' :: rest => (readLiteral rest).map fun (s, rest) => (.text s, rest)
  | _ =>
    match Text.after? "true".toList t, Text.after? "false".toList t with
    | some rest, _ => .ok (.bool true, rest)
    | _, some rest => .ok (.bool false, rest)
    | none, none =>
      match readMoment? t with
      | some found => found.map fun (m, rest) => (.moment m.toText, rest)
      | none =>
        match readNumber? t with
        | some found => found
        | none => readSpecial t
where
  /-- Reads an infinity or not-a-number. -/
  readSpecial (t : Text) : Scan Value :=
    let (sign, rest) := splitSign t
    match Text.after? "inf".toList rest, Text.after? "nan".toList rest with
    | some rest, _ => .ok (.float (.infinite (sign = ['-'])), rest)
    | _, some rest => .ok (.float .nan, rest)
    | none, none => .error .malformed

/-- The names given so far in an inline table, and the paths in it that may
not be extended. -/
structure InlineTable where
  /-- The entries. -/
  entries : Table
  /-- The paths of values that are lists or tables themselves. -/
  closed : List Key

/-- Adds an entry to an inline table. -/
def InlineTable.add? (table : InlineTable) (key : Key) (v : Value) : Option InlineTable :=
  if table.closed.any fun path => path.isPrefixOf key then none
  else
    match key.getLast? with
    | none => none
    | some name =>
      (updateAt? false (insertNew? name v) key.dropLast table.entries).map fun entries =>
        ⟨entries, if isContainer v then key :: table.closed else table.closed⟩

/-- The calls from the reader of a list to that of an item in it. -/
def listCalls : Nat := 2

/-- The calls from the reader of an inline table to that of a value in it. -/
def tableCalls : Nat := 3

mutual

/-- Reads a value with room for so many calls, in at most `n` steps. -/
def readValueWithin (room : Nat) : Nat → Text → Scan Value
  | 0, _ => .error .malformed
  | n + 1, t =>
    match t with
    | '[' :: rest =>
      if room < listCalls then .error .tooDeep
      else
        match skipGap rest with
        | .error e => .error e
        | .ok (']' :: rest) => .ok (.array [], rest)
        | .ok rest => readItemsWithin (room - listCalls) [] n rest
    | '\x7b' :: rest =>
      if room < tableCalls then .error .tooDeep
      else
        match skipBlanks rest with
        | '\x7d' :: rest => .ok (.table [], rest)
        | rest => readEntriesWithin (room - tableCalls) ⟨[], []⟩ n rest
    | _ => readScalar t

/-- Reads the items of a list up to its end; `items` holds those before, the
latest first. -/
def readItemsWithin (room : Nat) (items : List Value) : Nat → Text → Scan Value
  | 0, _ => .error .malformed
  | n + 1, t =>
    match readValueWithin room n t with
    | .error e => .error e
    | .ok (v, rest) =>
      match skipGap rest with
      | .error e => .error e
      | .ok (']' :: rest) => .ok (.array (v :: items).reverse, rest)
      | .ok (',' :: rest) =>
        match skipGap rest with
        | .error e => .error e
        | .ok (']' :: rest) => .ok (.array (v :: items).reverse, rest)
        | .ok rest => readItemsWithin room (v :: items) n rest
      | .ok _ => .error .malformed

/-- Reads the entries of an inline table up to its end. -/
def readEntriesWithin (room : Nat) (table : InlineTable) : Nat → Text → Scan Value
  | 0, _ => .error .malformed
  | n + 1, t =>
    match readKey t with
    | .error e => .error e
    | .ok (key, '=' :: rest) =>
      match readValueWithin room n (skipBlanks rest) with
      | .error e => .error e
      | .ok (v, rest) =>
        match table.add? key v with
        | none => .error .malformed
        | some table =>
          match skipBlanks rest with
          | '\x7d' :: rest => .ok (.table table.entries, rest)
          | ',' :: rest => readEntriesWithin room table n (skipBlanks rest)
          | _ => .error .malformed
    | .ok _ => .error .malformed

end

/-- Reads a value with room for so many calls. -/
def readValue (room : Nat) (t : Text) : Scan Value :=
  readValueWithin room (2 * t.length + 2) t

end TapReport.Toml
