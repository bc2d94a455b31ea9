/-
  TapReport.Proofs.Toml.Depth
  ───────────────────────────
  **HOW DEEP A DOCUMENT MAY NEST.**

  The readers of values call each other, and there is room for so many calls.
  The room has no part in what a document says: with more room a text is read as
  before, or it was given up before.  But no room is enough for all texts: one
  that opens enough lists is given up, although with more room it would be found
  to be no document.

      Toml.Refines         a reading that goes on where another gave up
      Toml.ReadersRefine   the same of the readers that call each other

  Main results:
    * `parse_of_le` — more room changes nothing but what was too deep.
    * `parse_nestedText`, `parse_nestedText_of_room` — for any room there is a
      text that is too deep, and for that text there is room enough.
-/
import TapReport.Proofs.Toml.Lines

namespace TapReport.Toml

/-! ## §1. More room. -/

/-- A reading comes to the same as another, unless the other was too deep. -/
def Refines {α : Type} (more less : Except Flaw α) : Prop :=
  less = .error .tooDeep ∨ more = less

theorem Refines.refl {α : Type} (r : Except Flaw α) : Refines r r := .inr rfl

theorem Refines.tooDeep {α : Type} (more : Except Flaw α) : Refines more (.error .tooDeep) :=
  .inl rfl

/-- One reading after another goes on where one of these gave up. -/
theorem Refines.bind {α β : Type} {more less : Except Flaw α} {f g : α → Except Flaw β}
    (h : Refines more less) (hnext : ∀ a, Refines (f a) (g a)) :
    Refines (more >>= f) (less >>= g) := by
  rcases h with rfl | rfl
  · exact .inl rfl
  · cases more with
    | error e => exact .inr rfl
    | ok a => exact hnext a

/-- The readers of values, in at most `n` steps: with room for `more` calls they
read what they read with room for `less`. -/
structure ReadersRefine (more less n : Nat) : Prop where
  /-- The reader of a value. -/
  value : ∀ t, Refines (readValueWithin more n t) (readValueWithin less n t)
  /-- The reader of what follows in a list. -/
  items : ∀ found t, Refines (readItemsWithin more found n t) (readItemsWithin less found n t)
  /-- The reader of what follows in an inline table. -/
  entries : ∀ table t,
    Refines (readEntriesWithin more table n t) (readEntriesWithin less table n t)

section Readers

variable {more less n : Nat}

/-- One more step of the reader of a value.  It takes room for what is nested, and
gives up where there is none. -/
theorem refines_readValueWithin (h : less ≤ more)
    (hlist : ReadersRefine (more - listCalls) (less - listCalls) n)
    (htable : ReadersRefine (more - tableCalls) (less - tableCalls) n) (t : Text) :
    Refines (readValueWithin more (n + 1) t) (readValueWithin less (n + 1) t) := by
  unfold readValueWithin
  split
  · by_cases hroom : less < listCalls
    · rw [if_pos hroom]
      exact .tooDeep _
    · rw [if_neg hroom, if_neg (Nat.not_lt.mpr (Nat.le_trans (Nat.not_lt.mp hroom) h))]
      split
      · exact .refl _
      · exact .refl _
      · exact hlist.items [] _
  · by_cases hroom : less < tableCalls
    · rw [if_pos hroom]
      exact .tooDeep _
    · rw [if_neg hroom, if_neg (Nat.not_lt.mpr (Nat.le_trans (Nat.not_lt.mp hroom) h))]
      split
      · exact .refl _
      · exact htable.entries ⟨[], []⟩ _
  · exact .refl _

/-- One more step in a list: a value, and what follows it. -/
theorem refines_readItemsWithin (h : ReadersRefine more less n) (found : List Value) (t : Text) :
    Refines (readItemsWithin more found (n + 1) t) (readItemsWithin less found (n + 1) t) := by
  unfold readItemsWithin
  rcases h.value t with hdeep | hsame
  · rw [hdeep]
    exact .tooDeep _
  · rw [hsame]
    split
    · exact .refl _
    · split
      · exact .refl _
      · exact .refl _
      · split
        · exact .refl _
        · exact .refl _
        · exact h.items _ _
      · exact .refl _

/-- One more step in an inline table: a key, its value, and what follows. -/
theorem refines_readEntriesWithin (h : ReadersRefine more less n) (table : InlineTable)
    (t : Text) :
    Refines (readEntriesWithin more table (n + 1) t) (readEntriesWithin less table (n + 1) t) := by
  unfold readEntriesWithin
  split
  · exact .refl _
  · rcases h.value (skipBlanks ‹Text›) with hdeep | hsame
    · rw [hdeep]
      exact .tooDeep _
    · rw [hsame]
      split
      · exact .refl _
      · split
        · exact .refl _
        · split
          · exact .refl _
          · exact h.entries _ _
          · exact .refl _
  · exact .refl _

/-- **The readers of values** read with more room what they read with less. -/
theorem readersRefine_of_le (n : Nat) (h : less ≤ more) : ReadersRefine more less n := by
  -- induction on the steps, which all three readers share
  induction n generalizing more less with
  | zero => exact ⟨fun _ => .refl _, fun _ _ => .refl _, fun _ _ => .refl _⟩
  | succ n ih =>
    constructor
    · have hlist := ih (Nat.sub_le_sub_right h listCalls)
      have htable := ih (Nat.sub_le_sub_right h tableCalls)
      exact refines_readValueWithin h hlist htable
    · exact refines_readItemsWithin (ih h)
    · exact refines_readEntriesWithin (ih h)

end Readers

variable {room room' n : Nat} {t : Text}

theorem readValue_of_le (h : room ≤ room') (t : Text) :
    Refines (readValue room' t) (readValue room t) :=
  (readersRefine_of_le _ h).value t

theorem readStatement_of_le (h : room ≤ room') (d : Draft) (t : Text) :
    Refines (readStatement room' d t) (readStatement room d t) := by
  unfold readStatement
  split
  · exact .refl _
  · exact .refl _
  · split
    · exact .refl _
    · refine Refines.bind (.refl _) fun found => ?_
      refine Refines.bind (.refl _) fun rest => ?_
      exact Refines.bind (readValue_of_le h _) fun value => .refl _
  · exact .refl _

theorem readLinesWithin_of_le (h : room ≤ room') (n : Nat) (d : Draft) (t : Text) :
    Refines (readLinesWithin room' d n t) (readLinesWithin room d n t) := by
  induction n generalizing d t with
  | zero => exact .refl _
  | succ n ih =>
    unfold readLinesWithin
    rcases readStatement_of_le h d (skipBlanks t) with hdeep | hsame
    · rw [hdeep]
      exact .tooDeep _
    · rw [hsame]
      split
      · exact .refl _
      · split
        · exact .refl _
        · exact .refl _
        · split
          · exact ih _ _
          · exact .refl _

/-- **More room changes nothing** but what was too deep. -/
theorem parse_of_le (h : room ≤ room') (t : Text) : Refines (parse room' t) (parse room t) := by
  unfold parse
  rcases readLinesWithin_of_le h (t.length + 1) .empty (joinLineEnds t) with hdeep | hsame
  · rw [hdeep]
    exact .tooDeep _
  · rw [hsame]
    exact .refl _

/-! ## §2. Texts that are too deep. -/

/-- An entry that opens `n` lists and closes none. -/
def nestedText (n : Nat) : Text :=
  'x' :: '=' :: List.replicate n '['

theorem skipGap_bracket (t : Text) : skipGap ('[' :: t) = .ok ('[' :: t) := rfl

/-- Lists in lists take the room of as many calls. -/
theorem readValueWithin_brackets (room n steps : Nat) (hroom : room < listCalls * n)
    (hsteps : 2 * n ≤ steps) :
    readValueWithin room steps (List.replicate n '[') = .error .tooDeep := by
  -- induction on the lists, each of which takes two steps
  induction n generalizing room steps with
  | zero => exact absurd hroom (Nat.not_lt_zero room)
  | succ n ih =>
    obtain ⟨steps, rfl⟩ : ∃ s, steps = s + 1 + 1 := ⟨steps - 2, by omega⟩
    rw [List.replicate_succ, readValueWithin]
    by_cases hfirst : room < listCalls
    · rw [if_pos hfirst]
    · rw [if_neg hfirst]
      have hn : n ≠ 0 := by
        rintro rfl
        exact hfirst (by simpa using hroom)
      obtain ⟨m, rfl⟩ := Nat.exists_eq_succ_of_ne_zero hn
      have hleft : room - listCalls < listCalls * m.succ := by
        rw [Nat.mul_succ] at hroom
        exact Nat.sub_lt_right_of_lt_add (Nat.not_lt.mp hfirst) hroom
      have hinner := ih (room - listCalls) steps hleft (by omega)
      rw [List.replicate_succ] at hinner ⊢
      rw [skipGap_bracket]
      show readItemsWithin (room - listCalls) [] (steps + 1) ('[' :: List.replicate m '[') = _
      rw [readItemsWithin, hinner]

/-- Where there is room for all of them, what is missing is that they end. -/
theorem readValueWithin_brackets_of_room (room n steps : Nat) (hroom : listCalls * n ≤ room) :
    readValueWithin room steps (List.replicate n '[') = .error .malformed := by
  induction n generalizing room steps with
  | zero => cases steps <;> rfl
  | succ n ih =>
    rw [Nat.mul_succ] at hroom
    cases steps with
    | zero => rfl
    | succ steps =>
      rw [List.replicate_succ, readValueWithin, if_neg (by omega)]
      have hinner := fun steps => ih (room - listCalls) steps (by omega)
      have hgap : skipGap (List.replicate n '[') = .ok (List.replicate n '[') := by
        cases n <;> rfl
      rw [hgap]
      have hitems : readItemsWithin (room - listCalls) [] steps (List.replicate n '[')
          = .error .malformed := by
        cases steps with
        | zero => rfl
        | succ steps => rw [readItemsWithin, hinner]
      cases n <;> exact hitems

/-- The fault of the one value is that of the document. -/
theorem parse_nestedText_of_value {e : Flaw}
    (h : readValue room (List.replicate n '[') = .error e) :
    parse room (nestedText n) = .error e := by
  have hplain : '\r' ∉ nestedText n := by
    simp [nestedText, List.mem_replicate]
  have hkey : readKey ('x' :: '=' :: List.replicate n '[')
      = .ok ([['x']], '=' :: List.replicate n '[') := rfl
  have hblanks : skipBlanks (List.replicate n '[') = List.replicate n '[' := by
    cases n <;> rfl
  have hstatement : readStatement room .empty ('x' :: '=' :: List.replicate n '[')
      = .error e := by
    rw [readStatement_entry (by decide) hkey, hblanks, h]
    rfl
  have hstart : skipBlanks (nestedText n) = 'x' :: '=' :: List.replicate n '[' := rfl
  rw [parse_eq_readLinesWithin hplain, readLinesWithin_of_error hstart hstatement]
  rfl

/-- **No room is enough for all texts**: one that opens enough lists is given
up. -/
theorem parse_nestedText (h : room < listCalls * n) :
    parse room (nestedText n) = .error .tooDeep :=
  parse_nestedText_of_value (readValueWithin_brackets room n _ h (by simp))

/-- With more room it is found to be no document. -/
theorem parse_nestedText_of_room (h : listCalls * n ≤ room) :
    parse room (nestedText n) = .error .malformed :=
  parse_nestedText_of_value (readValueWithin_brackets_of_room room n _ h)

end TapReport.Toml
