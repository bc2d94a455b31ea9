/-
  TapReport.Toml.Document
  ───────────────────────
  **TOML DOCUMENTS.**

  A document is a sequence of lines: entries, headers of tables, headers of
  list items, and lines without meaning.  A table may be declared once, a
  value is given once, and a list or table given as a value is closed for
  good.  A table made by a dotted key is closed to headers when the next
  header comes.

  Main definition: `parse`.
-/
import TapReport.Toml.Value

namespace TapReport.Toml

/-- How far a document has been read. -/
structure Draft where
  /-- What it says so far. -/
  entries : Table
  /-- The table that entries go to. -/
  header : Key
  /-- The tables that are declared. -/
  declared : List Key
  /-- The tables made by dotted keys since the last header. -/
  dotted : List Key
  /-- The values that are lists or tables. -/
  closed : List Key

namespace Draft

/-- A document before its first line. -/
def empty : Draft := ⟨[], [], [], [], []⟩

/-- Whether a path leads to or into a value that is a list or a table. -/
def isClosed (d : Draft) (key : Key) : Bool :=
  d.closed.any fun path => path.isPrefixOf key

/-- Whether a table is declared. -/
def isDeclared (d : Draft) (key : Key) : Bool :=
  d.declared.contains key

/-- Ends the section of the last header. -/
def endSection (d : Draft) : Draft :=
  { d with declared := d.dotted ++ d.declared, dotted := [] }

/-- Declares a table and goes to it. -/
def openTable? (d : Draft) (key : Key) : Option Draft :=
  if d.isDeclared key || d.isClosed key then none
  else
    (updateAt? true some key d.entries).map fun entries =>
      { d with entries := entries, header := key, declared := key :: d.declared }

/-- Puts a new table at the end of the list of tables with a name. -/
def appendTable? (name : Text) (t : Table) : Option Table :=
  match Table.lookup? name t with
  | none => some (Table.insert name (.array [.table []]) t)
  | some (.array items) => some (Table.insert name (.array (items ++ [.table []])) t)
  | some _ => none

/-- Begins a new item of a list of tables and goes to it.  What was declared
inside the item before is free again. -/
def openItem? (d : Draft) (key : Key) : Option Draft :=
  if d.isClosed key then none
  else
    match key.getLast? with
    | none => none
    | some name =>
      (updateAt? true (appendTable? name) key.dropLast d.entries).map fun entries =>
        { d with
          entries := entries
          header := key
          declared := key :: d.declared.filter fun path => !key.isPrefixOf path
          closed := d.closed.filter fun path => !key.isPrefixOf path }

/-- The paths of the tables that a dotted key goes through, from a header
on. -/
def through (header key : Key) : List Key :=
  (List.range (key.length - 1)).map fun i => header ++ key.take (i + 1)

/-- Gives the entry with a key of the current table a value. -/
def setEntry? (d : Draft) (key : Key) (v : Value) : Option Draft :=
  if (through d.header key).any d.isDeclared || d.isClosed (d.header ++ key.dropLast) then none
  else
    match key.getLast? with
    | none => none
    | some name =>
      (updateAt? true (insertNew? name v) (d.header ++ key.dropLast) d.entries).map fun entries =>
        { d with
          entries := entries
          dotted := through d.header key ++ d.dotted
          closed := if isContainer v then (d.header ++ key) :: d.closed else d.closed }

end Draft

/-- Ends a reading that could not go on. -/
def orMalformed {α : Type} : Option α → Except Flaw α
  | some a => .ok a
  | none => .error .malformed

/-- Reads what a line says, from its first character that is no blank. -/
def readStatement (room : Nat) (d : Draft) (t : Text) : Except Flaw (Draft × Text) :=
  match t with
  | '[' :: '[' :: rest => do
    let (key, rest) ← readKey (skipBlanks rest)
    let next ← orMalformed (d.endSection.openItem? key)
    return (next, ← orMalformed (Text.after? "]]".toList rest))
  | '[' :: rest => do
    let (key, rest) ← readKey (skipBlanks rest)
    let next ← orMalformed (d.endSection.openTable? key)
    return (next, ← orMalformed (Text.after? "]".toList rest))
  | c :: _ =>
    if c = '\n' || c = '#' then .ok (d, t)
    else do
      let (key, rest) ← readKey t
      let (v, rest) ← readValue room (skipBlanks (← orMalformed (Text.after? "=".toList rest)))
      return (← orMalformed (d.setEntry? key v), rest)
  | [] => .ok (d, t)

/-- Reads at most `n` lines. -/
def readLinesWithin (room : Nat) (d : Draft) : Nat → Text → Except Flaw Draft
  | 0, _ => .error .malformed
  | n + 1, t =>
    match readStatement room d (skipBlanks t) with
    | .error e => .error e
    | .ok (d, rest) =>
      match skipComment (skipBlanks rest) with
      | .error e => .error e
      | .ok [] => .ok d
      | .ok (c :: rest) => if c = '\n' then readLinesWithin room d n rest else .error .malformed

/-- A text with a lone newline for each carriage return and newline. -/
def joinLineEnds : Text → Text
  | [] => []
  | '\r' :: '\n' :: rest => '\n' :: joinLineEnds rest
  | c :: rest => c :: joinLineEnds rest

/-- Reads a document with room for so many calls in each of its values. -/
def parse (room : Nat) (t : Text) : Except Flaw Table :=
  (readLinesWithin room .empty (t.length + 1) (joinLineEnds t)).map (·.entries)

end TapReport.Toml
