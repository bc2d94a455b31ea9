/-
  TapReport.Proofs.Toml.Lines
  ───────────────────────────
  **A DOCUMENT IS READ LINE BY LINE.**

  What a line says is added to what the lines before it said, and no line is
  looked at twice.  So a document is read by one equation for each line, and
  one for the line of an entry: its key, its value, and what becomes of the
  draft.

  Main results:
    * `readStatement_entry` — an entry, up to what its value is.
    * `readLinesWithin_of_line` — one line, and the lines after it.
    * `parse_eq_readLinesWithin` — a text without carriage returns is read
      as it is.
-/
import TapReport.Toml.Document

namespace TapReport.Toml

variable {room n : Nat} {d next : Draft} {t rest more : Text}

/-- **The line of an entry** begins with its key.  After the equals sign its value
is read, and put where the key leads. -/
theorem readStatement_entry {key : Key} {c : Char} (hc : c ≠ '[' ∧ c ≠ '\n' ∧ c ≠ '#')
    (hkey : readKey (c :: t) = .ok (key, '=' :: rest)) :
    readStatement room d (c :: t) = (readValue room (skipBlanks rest)).bind fun found =>
      (orMalformed (d.setEntry? key found.1)).map fun next => (next, found.2) := by
  obtain ⟨hheader, hnewline, hcomment⟩ := hc
  have hequals : Text.after? "=".toList ('=' :: rest) = some rest := rfl
  rw [readStatement]
  · rw [if_neg (by simp [hnewline, hcomment]), hkey]
    simp only [bind, Except.bind, hequals, orMalformed]
    cases readValue room (skipBlanks rest) with
    | error e => rfl
    | ok found => cases d.setEntry? key found.1 <;> rfl
  · exact fun _ heq _ => hheader heq
  · exact hheader

/-- So if a value is found, and may stand where the key leads, it is put there. -/
theorem readStatement_entry_of_value {key : Key} {c : Char} {v : Value}
    (hc : c ≠ '[' ∧ c ≠ '\n' ∧ c ≠ '#') (hkey : readKey (c :: t) = .ok (key, '=' :: rest))
    (hvalue : readValue room (skipBlanks rest) = .ok (v, more))
    (hset : d.setEntry? key v = some next) : readStatement room d (c :: t) = .ok (next, more) := by
  rw [readStatement_entry hc hkey, hvalue]
  simp only [Except.bind, hset]
  rfl

/-- **One line**, which a newline ends, and then the lines after it. -/
theorem readLinesWithin_of_line {start : Text} (hstart : skipBlanks t = start)
    (hstatement : readStatement room d start = .ok (next, rest))
    (hend : skipComment (skipBlanks rest) = .ok ('\n' :: more)) :
    readLinesWithin room d (n + 1) t = readLinesWithin room next n more := by
  rw [readLinesWithin, hstart, hstatement]
  dsimp only
  rw [hend]
  exact if_pos rfl

/-- A line that cannot be read ends the reading. -/
theorem readLinesWithin_of_error {start : Text} {e : Flaw} (hstart : skipBlanks t = start)
    (hstatement : readStatement room d start = .error e) :
    readLinesWithin room d (n + 1) t = .error e := by
  rw [readLinesWithin, hstart, hstatement]

theorem joinLineEnds_of_notMem (h : '\r' ∉ t) : joinLineEnds t = t := by
  induction t with
  | nil => rfl
  | cons c t ih =>
    obtain ⟨hc, ht⟩ := not_or.mp (fun hmem => h (List.mem_cons.mpr hmem))
    unfold joinLineEnds
    split
    · contradiction
    · next heq => exact absurd (List.cons.inj heq).1.symm hc
    · next heq =>
      obtain ⟨rfl, rfl⟩ := List.cons.inj heq
      rw [ih ht]

/-- A text without carriage returns is read as it is. -/
theorem parse_eq_readLinesWithin (h : '\r' ∉ t) :
    parse room t = (readLinesWithin room .empty (t.length + 1) t).map (·.entries) := by
  unfold parse
  rw [joinLineEnds_of_notMem h]

end TapReport.Toml
