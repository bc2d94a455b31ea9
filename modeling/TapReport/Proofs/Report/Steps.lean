/-
  TapReport.Proofs.Report.Steps
  ─────────────────────────────
  **ONE STEP OF A READER, ON THE LINES IT HAS LEFT.**

  A cursor is a place in a source; what a reader can still see are the lines
  from there on, `Cursor.remaining`.  Outside all scopes each parser of the
  grammar is settled here by those lines alone: first whether it ends with a
  fault (`Block.fault?`, `Item.fault?`), then what it takes
  (`Block.take?`, `Item.take?`), and how far it goes.

  Main results:
    * `Cursor.remaining_forward` — going on drops lines.
    * `Block.rest_eq` — the search for the end of a block, in any scopes.
    * `Block.read_of_fault`, `Block.read_of_take`, `Block.read_of_take_none` —
      a block in its scope, the scope left again.
    * `Item.read_eq` — one item.
-/
import TapReport.Proofs.Report.Plain

namespace TapReport

/-! ## §1. The lines from a cursor on. -/

namespace Cursor

/-- The lines from a cursor on, scopes aside. -/
def remaining (c : Cursor) : List Line :=
  c.source.toList.drop c.line

@[simp] theorem remaining_ofLines (lines : List Line) : (ofLines lines).remaining = lines := rfl

theorem getElem?_line (c : Cursor) : c.source[c.line]? = c.remaining.head? := by
  unfold remaining
  rw [List.head?_drop, Array.getElem?_toList]

/-- **Going on drops lines**; at the end of the source there are none to
drop. -/
@[simp] theorem remaining_forward (n : Nat) (c : Cursor) :
    (c.forward n).remaining = c.remaining.drop n := by
  show c.source.toList.drop (min (c.line + n) c.source.size) = (c.source.toList.drop c.line).drop n
  rw [List.drop_drop]
  by_cases h : c.line + n ≤ c.source.size
  · rw [Nat.min_eq_left h]
  · rw [Nat.min_eq_right (by omega), List.drop_of_length_le (by simp),
        List.drop_of_length_le (by rw [Array.length_toList]; omega)]

theorem peek_eq_head? (c : Cursor) :
    c.peek = match c.remaining.head? with
      | none => .ok none
      | some line => viewLineChecked c.indents line := by
  have hline := getElem?_line c
  unfold peek
  cases hhead : c.remaining.head? with
  | none => simp only [hline, hhead]
  | some line => simp only [hline, hhead]

theorem view_eq (c : Cursor) : c.view = c.remaining.head?.bind (viewLine c.indents) := by
  unfold view
  rw [getElem?_line]

/-- Outside all scopes every line is in view as it is. -/
theorem peek_of_top {c : Cursor} (hc : c.indents = []) : c.peek = .ok c.remaining.head? := by
  rw [peek_eq_head?, hc]
  cases c.remaining.head? <;> rfl

theorem fits_forward {c : Cursor} (h : c.Fits) (n : Nat) : (c.forward n).Fits := h

/-- The same place inside one more scope. -/
def inside (k : Nat) (c : Cursor) : Cursor :=
  { c with indents := k :: c.indents }

theorem enter_eq_inside {k : Int} (hk : 0 ≤ k) (c : Cursor) :
    c.enter k = .ok (c.inside k.toNat) := by
  unfold enter
  rw [if_neg (by omega)]
  rfl

@[simp] theorem remaining_inside (k : Nat) (c : Cursor) : (c.inside k).remaining = c.remaining :=
  rfl

theorem leave_forward_inside (k n : Nat) (c : Cursor) :
    ((c.inside k).forward n).leave = c.forward n := rfl

theorem fits_inside_of_top {k : Nat} {c : Cursor} (hc : c.indents = []) (hk : k ≤ widestIndent) :
    (c.inside k).Fits := by
  intro i hi
  have hi' : i ∈ k :: c.indents := hi
  rw [hc, List.mem_singleton] at hi'
  rw [hi']
  exact hk

/-- In one scope a line is seen without its indentation. -/
theorem viewLine_inside {c : Cursor} (hc : c.indents = []) (k : Nat) :
    viewLine (c.inside k).indents = outdentLine? k := by
  funext line
  show viewLine (k :: c.indents) line = _
  rw [hc]
  rfl

theorem view_inside {c : Cursor} (hc : c.indents = []) (k : Nat) :
    (c.inside k).view = c.remaining.head?.bind (outdentLine? k) := by
  rw [view_eq, viewLine_inside hc, remaining_inside]

end Cursor

/-! ## §2. Single lines, outside all scopes. -/

namespace LineParser

variable {α : Type} {form : Line → Option α} {reason : Mismatch} {c : Cursor}

theorem line_eq (hc : c.indents = []) :
    line form reason c = match c.remaining.head?.bind form with
      | none => .ok (.mismatched reason c)
      | some a => .ok (.matched a c.next) := by
  have hpeek := Cursor.peek_of_top hc
  unfold line
  cases hread : c.remaining.head?.bind form with
  | none => simp only [hpeek, hread]
  | some a => simp only [hpeek, hread]

theorem line_of_eq_some (hc : c.indents = []) {l : Line} {rest : List Line}
    (hl : c.remaining = l :: rest) {a : α} (ha : form l = some a) :
    line form reason c = .ok (.matched a c.next) := by
  rw [line_eq hc, hl]
  show (match form l with | none => _ | some a => _) = _
  rw [ha]

/-! What a parser does inside a scope decides what it does around it. -/

variable {p : LineParser α} {k : Int}

theorem within_of_error (hk : 0 ≤ k) {e : Fault} (h : p (c.inside k.toNat) = .error e) :
    within k p c = .error e := by
  unfold within
  rw [Cursor.enter_eq_inside hk]
  simp only [h]

theorem within_of_mismatched (hk : 0 ≤ k) {why : Mismatch} {place : Cursor}
    (h : p (c.inside k.toNat) = .ok (.mismatched why place)) :
    within k p c = .ok (.mismatched why place) := by
  unfold within
  rw [Cursor.enter_eq_inside hk]
  simp only [h]

theorem within_of_matched (hk : 0 ≤ k) {a : α} {next : Cursor}
    (h : p (c.inside k.toNat) = .ok (.matched a next)) :
    within k p c = .ok (.matched a next.leave) := by
  unfold within
  rw [Cursor.enter_eq_inside hk]
  simp only [h]

end LineParser

/-! ## §3. Blocks. -/

namespace Block

/-- **The search for the end of a block**, in scopes that fit: it finds what
the lines in view hold, and goes on past the closing line. -/
theorem rest_eq {c : Cursor} (h : c.Fits) (n : Nat) (found : List Line) :
    rest n c found = .ok ((upTo? (viewLine c.indents) n c.remaining).map fun block =>
      (found.reverse ++ block, c.forward (block.length + 1))) := by
  -- induction on the lines that may still be looked at; the cursor goes on
  -- and `found` grows, so both are general
  induction n generalizing c found with
  | zero => rfl
  | succ n ih =>
    rw [rest, Cursor.peek_eq_view h, Cursor.view_eq]
    cases hl : c.remaining with
    | nil => rfl
    | cons line more =>
      rw [upTo?]
      simp only [List.head?_cons, Option.bind_some]
      cases viewLine c.indents line with
      -- the line is outside the scopes
      | none => rfl
      | some seen =>
        simp only
        by_cases hclose : seen = closing
        · rw [if_pos hclose, if_pos hclose]
          simp [Cursor.next]
        · rw [if_neg hclose, if_neg hclose]
          show rest n (c.forward 1) (seen :: found) = _
          rw [ih (Cursor.fits_forward h 1), Cursor.remaining_forward, hl]
          show Except.ok (Option.map _ (upTo? (viewLine c.indents) n more)) = _
          cases upTo? (viewLine c.indents) n more with
          | none => rfl
          | some block =>
            have hgo : (c.forward 1).forward (block.length + 1)
                = c.forward (block.length + 1 + 1) := by
              rw [Cursor.forward_forward, Nat.add_comm 1]
            simp [hgo]

/-- Why the lines under a title end reading: an indentation that no line can
have, once there is a line to compare, or a limit that no list can reach,
once a block begins. -/
def fault? (layout : Layout) : List Line → Option Fault
  | [] => none
  | line :: _ =>
    if layout.indent ≤ widestIndent then
      if outdentLine? layout.indent.toNat line = some opening then
        match room layout.blockLimit with
        | .error e => some e
        | .ok _ => none
      else none
    else some .indentTooWide

/-- A limit that a list can have leaves one line more for the closing line. -/
theorem room_eq_ok {limit : Int} {n : Nat} (h : room limit = .ok n) : n = (limit + 1).toNat := by
  unfold room at h
  split at h
  · exact (Except.ok.inj h).symm
  · split at h <;> exact absurd h (by simp)

/-- Without a fault the indentation fits, and where a block begins its limit is
one that a list can have. -/
theorem of_fault?_eq_none {layout : Layout} {line : Line} {more : List Line}
    (h : fault? layout (line :: more) = none) :
    layout.indent ≤ widestIndent ∧ (outdentLine? layout.indent.toNat line = some opening →
      room layout.blockLimit = .ok (layout.blockLimit + 1).toNat) := by
  rw [fault?] at h
  split at h
  · next hwide =>
    refine ⟨hwide, fun hopen => ?_⟩
    rw [if_pos hopen] at h
    split at h
    · exact absurd h (by simp)
    · next n hroom => rw [hroom, room_eq_ok hroom]
  · exact absurd h (by simp)

variable {c : Cursor} {limit : Int}

/-- A block is not looked for where no `---` is in view. -/
theorem read_of_view_ne (h : c.Fits) (hview : c.view ≠ some opening) :
    read limit c = .ok (.mismatched (.noBlockStart c.view) c) := by
  unfold read
  rw [Cursor.peek_eq_view h]
  simp only [if_neg hview]

theorem read_of_room_error (h : c.Fits) (hview : c.view = some opening) {e : Fault}
    (hroom : room limit = .error e) : read limit c = .error e := by
  unfold read
  rw [Cursor.peek_eq_view h]
  simp only [if_pos hview, hroom]

/-- **A block is read after its `---`**, in scopes that fit. -/
theorem read_of_view_opening (h : c.Fits) (hview : c.view = some opening) {n : Nat}
    (hroom : room limit = .ok n) :
    read limit c = match upTo? (viewLine c.indents) n (c.remaining.drop 1) with
      | none => .ok (.mismatched (.blockNotClosed limit) c)
      | some block => .ok (.matched block (c.forward (block.length + 2))) := by
  have hrest := rest_eq (Cursor.fits_forward h 1) n []
  rw [Cursor.remaining_forward, Cursor.forward_indents] at hrest
  unfold read
  rw [Cursor.peek_eq_view h]
  simp only [if_pos hview, hroom, Cursor.next, hrest]
  cases upTo? (viewLine c.indents) n (c.remaining.drop 1) with
  | none => rfl
  | some block =>
    have hgo : (c.forward 1).forward (block.length + 1) = c.forward (block.length + 2) := by
      rw [Cursor.forward_forward]
      congr 1
      omega
    simp [hgo]

variable {layout : Layout}

/-- **A block in its scope ends with a fault** exactly as its lines say. -/
theorem read_of_fault (hk : 0 ≤ layout.indent) (hc : c.indents = []) {e : Fault}
    (h : fault? layout c.remaining = some e) :
    LineParser.within layout.indent (read layout.blockLimit) c = .error e := by
  apply LineParser.within_of_error hk
  -- the cases are those of `fault?`: no line, then the width, then the limit
  cases hl : c.remaining with
  | nil => rw [hl] at h; exact absurd h (by simp [fault?])
  | cons line more =>
    rw [hl, fault?] at h
    split at h
    · next hwide =>
      have hfits := Cursor.fits_inside_of_top hc (k := layout.indent.toNat) (by omega)
      split at h
      · next hopen =>
        have hview : (c.inside layout.indent.toNat).view = some opening := by
          rw [Cursor.view_inside hc, hl]
          exact hopen
        split at h
        · next e' hroom =>
          obtain rfl : e' = e := by simpa using h
          exact read_of_room_error hfits hview hroom
        · exact absurd h (by simp)
      · exact absurd h (by simp)
    · next hwide =>
      -- the first look already goes wrong
      obtain rfl : Fault.indentTooWide = e := by simpa using h
      have hk' : ¬ layout.indent.toNat ≤ widestIndent := by omega
      have hpeek : (c.inside layout.indent.toNat).peek = .error .indentTooWide := by
        rw [Cursor.peek_eq_head?, Cursor.remaining_inside, hl]
        show viewLineChecked (layout.indent.toNat :: c.indents) line = _
        rw [hc]
        simp [viewLineChecked, bind, Except.bind, hk']
      unfold read
      rw [hpeek]

/-- **A block in its scope is read** where its lines are one, and the scope is
left again. -/
theorem read_of_take (hk : 0 ≤ layout.indent) (hc : c.indents = []) {block rest : List Line}
    (h : fault? layout c.remaining = none)
    (ht : take? layout c.remaining = some (block, rest)) :
    LineParser.within layout.indent (read layout.blockLimit) c
      = .ok (.matched block (c.forward (block.length + 2))) := by
  have hread : read layout.blockLimit (c.inside layout.indent.toNat)
      = .ok (.matched block ((c.inside layout.indent.toNat).forward (block.length + 2))) := by
    cases hl : c.remaining with
    | nil => rw [hl] at ht; exact absurd ht (by simp [take?])
    | cons line more =>
      rw [hl] at h ht
      obtain ⟨hwide, hroom⟩ := of_fault?_eq_none h
      have hfits := Cursor.fits_inside_of_top hc (k := layout.indent.toNat) (by omega)
      rw [take?] at ht
      split at ht
      · next hopen =>
        have hview : (c.inside layout.indent.toNat).view = some opening := by
          rw [Cursor.view_inside hc, hl]
          exact hopen
        obtain ⟨found, hfound, heq⟩ := Option.map_eq_some_iff.mp ht
        obtain ⟨rfl, -⟩ : found = block ∧ _ := by simpa using heq
        rw [read_of_view_opening hfits hview (hroom hopen), Cursor.viewLine_inside hc,
            Cursor.remaining_inside, hl, List.drop_one, List.tail_cons, hfound]
      · exact absurd ht (by simp)
  rw [LineParser.within_of_matched hk hread, Cursor.leave_forward_inside]

/-- **A block in its scope mismatches** where its lines are none. -/
theorem read_of_take_none (hk : 0 ≤ layout.indent) (hc : c.indents = [])
    (h : fault? layout c.remaining = none) (ht : take? layout c.remaining = none) :
    ∃ reason place, LineParser.within layout.indent (read layout.blockLimit) c
      = .ok (.mismatched reason place) := by
  have hread : ∃ reason place, read layout.blockLimit (c.inside layout.indent.toNat)
      = .ok (.mismatched reason place) := by
    cases hl : c.remaining with
    | nil =>
      -- at the end of the source even a scope that is too wide does no harm
      have hpeek : (c.inside layout.indent.toNat).peek = .ok none := by
        rw [Cursor.peek_eq_head?, Cursor.remaining_inside, hl]
        rfl
      unfold read
      rw [hpeek]
      exact ⟨_, _, rfl⟩
    | cons line more =>
      rw [hl] at h ht
      obtain ⟨hwide, hroom⟩ := of_fault?_eq_none h
      have hfits := Cursor.fits_inside_of_top hc (k := layout.indent.toNat) (by omega)
      have hview : (c.inside layout.indent.toNat).view = outdentLine? layout.indent.toNat line := by
        rw [Cursor.view_inside hc, hl]
        rfl
      rw [take?] at ht
      split at ht
      · next hopen =>
        rw [Option.map_eq_none_iff] at ht
        rw [read_of_view_opening hfits (hview.trans hopen) (hroom hopen),
            Cursor.viewLine_inside hc, Cursor.remaining_inside, hl, List.drop_one,
            List.tail_cons, ht]
        exact ⟨_, _, rfl⟩
      · next hopen =>
        rw [read_of_view_ne hfits (by rw [hview]; exact hopen)]
        exact ⟨_, _, rfl⟩
  obtain ⟨reason, place, hread⟩ := hread
  exact ⟨reason, place, LineParser.within_of_mismatched hk hread⟩

end Block

/-! ## §4. Numerals that are too long. -/

/-- The fault of the first numeral with too many digits, if there is one. -/
def numeralFault? (numerals : List Text) : Option Fault :=
  (numerals.find? fun digits => Text.digitLimit < digits.length).map fun digits =>
    .numeralTooLong digits.length

theorem numeralFault?_eq_none_iff {numerals : List Text} :
    numeralFault? numerals = none ↔ ∀ digits ∈ numerals, digits.length ≤ Text.digitLimit := by
  simp [numeralFault?]

theorem numeralFault?_cons_of_le {digits : Text} (h : digits.length ≤ Text.digitLimit)
    (numerals : List Text) : numeralFault? (digits :: numerals) = numeralFault? numerals := by
  unfold numeralFault?
  rw [List.find?_cons_of_neg (by simpa using h)]

theorem numeralFault?_cons_of_lt {digits : Text} (h : Text.digitLimit < digits.length)
    (numerals : List Text) :
    numeralFault? (digits :: numerals) = some (.numeralTooLong digits.length) := by
  unfold numeralFault?
  rw [List.find?_cons_of_pos (by simpa using h)]
  rfl

/-- A numeral is read, or its length is the fault. -/
theorem readNumeral_eq (digits : Text) (c : Cursor) :
    readNumeral digits c = match numeralFault? [digits] with
      | some e => .error e
      | none => .ok (.matched (Text.ofDigits digits : Int) c) := by
  unfold readNumeral Text.readNatural?
  by_cases h : digits.length ≤ Text.digitLimit
  · rw [if_pos h, numeralFault?_cons_of_le h]
    rfl
  · rw [if_neg h, numeralFault?_cons_of_lt (Nat.lt_of_not_le h)]
    rfl

/-! ## §5. Titles. -/

namespace Title

theorem withNumber_eq (parts : TitleParts) (directive : Option Text) (c : Cursor) :
    ofParts.withNumber parts directive c = match numeralFault? parts.number.toList with
      | some e => .error e
      | none => .ok (.matched
          ⟨parts.ok, parts.number.map fun digits => (Text.ofDigits digits : Int),
            keptDescription parts.description, directive⟩ c) := by
  unfold ofParts.withNumber
  cases parts.number with
  | none => rfl
  | some digits =>
    rw [Option.toList_some]
    by_cases h : digits.length ≤ Text.digitLimit
    · have hread : Text.readNatural? digits = some (Text.ofDigits digits) := if_pos h
      simp only [hread, numeralFault?_cons_of_le h]
      rfl
    · have hread : Text.readNatural? digits = none := if_neg h
      simp only [hread, numeralFault?_cons_of_lt (Nat.lt_of_not_le h)]
      rfl

/-- A word that is no directive is refused. -/
theorem ofParts_of_none {parts : TitleParts} (h : ofParts? parts = none) (c : Cursor) :
    ∃ reason, ofParts parts c = .ok (.mismatched reason c) := by
  unfold ofParts? TitleParts.directive? at h
  unfold ofParts
  cases hd : parts.directive with
  | none => rw [hd] at h; exact absurd h (by simp)
  | some word =>
    rw [hd] at h
    simp only [Option.map_eq_none_iff] at h
    simp only [Option.map_some, h]
    exact ⟨_, rfl⟩

/-- **Understanding the parts of a test line**: only a number can go wrong
once the directive is known. -/
theorem ofParts_of_some {parts : TitleParts} {title : Title} (h : ofParts? parts = some title)
    (c : Cursor) :
    ofParts parts c = match numeralFault? parts.number.toList with
      | some e => .error e
      | none => .ok (.matched title c) := by
  unfold ofParts? TitleParts.directive? at h
  unfold ofParts
  -- with and without a directive the number comes last
  cases hd : parts.directive with
  | none =>
    rw [hd] at h
    obtain rfl := Option.some.inj h
    exact withNumber_eq parts none c
  | some word =>
    cases hw : directiveOfWord? word with
    | none => simp only [hd, hw] at h; exact absurd h (by simp)
    | some directive =>
      simp only [hd, hw] at h
      obtain rfl := Option.some.inj h
      simp only [Option.map_some, hw]
      exact withNumber_eq parts (some directive) c

end Title

/-! ## §6. One item. -/

namespace LineParser

variable {α β : Type} {p : LineParser α} {ps : List (LineParser α)} {label : Text} {c : Cursor}

/-! An alternative that mismatches is passed over; any other outcome stands. -/

theorem firstOf_cons_of_mismatched {reason : Mismatch} {place : Cursor}
    (h : p c = .ok (.mismatched reason place)) :
    firstOf label (p :: ps) c = firstOf label ps c := by
  rw [firstOf]
  simp only [h]

theorem firstOf_cons_of_matched {a : α} {next : Cursor} (h : p c = .ok (.matched a next)) :
    firstOf label (p :: ps) c = .ok (.matched a next) := by
  rw [firstOf]
  simp only [h]

theorem firstOf_cons_of_error {e : Fault} (h : p c = .error e) :
    firstOf label (p :: ps) c = .error e := by
  rw [firstOf]
  simp only [h]

/-! Changing the token changes matches only. -/

theorem map_of_mismatched {f : α → β} {reason : Mismatch} {place : Cursor}
    (h : p c = .ok (.mismatched reason place)) : map f p c = .ok (.mismatched reason place) := by
  unfold map
  rw [h]
  rfl

theorem map_of_matched {f : α → β} {a : α} {next : Cursor} (h : p c = .ok (.matched a next)) :
    map f p c = .ok (.matched (f a) next) := by
  unfold map
  rw [h]
  rfl

theorem map_of_error {f : α → β} {e : Fault} (h : p c = .error e) : map f p c = .error e := by
  unfold map
  rw [h]
  rfl

/-! A match goes on with the parser that its token chooses. -/

theorem bind_of_mismatched {f : α → LineParser β} {reason : Mismatch} {place : Cursor}
    (h : p c = .ok (.mismatched reason place)) : bind p f c = .ok (.mismatched reason place) := by
  unfold bind
  rw [h]

theorem bind_of_matched {f : α → LineParser β} {a : α} {next : Cursor}
    (h : p c = .ok (.matched a next)) : bind p f c = f a next := by
  unfold bind
  rw [h]

theorem bind_of_error {f : α → LineParser β} {e : Fault} (h : p c = .error e) :
    bind p f c = .error e := by
  unfold bind
  rw [h]

end LineParser

section Alternatives

variable {c : Cursor} {line : Line} {rest : List Line}

/-- A plan is read, unless one of its numerals is too long. -/
theorem Plan.read_of_ofLine? (hc : c.indents = []) (hl : c.remaining = line :: rest)
    {start through : Text} (h : Plan.ofLine? line = some (start, through)) :
    Plan.read c = match numeralFault? [start, through] with
      | some e => .error e
      | none => .ok (.matched ⟨Text.ofDigits start, Text.ofDigits through⟩ c.next) := by
  unfold Plan.read
  rw [LineParser.bind_of_matched (LineParser.line_of_eq_some hc hl h)]
  show LineParser.bind (readNumeral start) _ c.next = _
  -- the numerals are read in order, so the first one that is too long counts
  by_cases hs : start.length ≤ Text.digitLimit
  · have hstart := readNumeral_eq start c.next
    rw [numeralFault?_cons_of_le hs] at hstart ⊢
    rw [LineParser.bind_of_matched hstart]
    have hthrough := readNumeral_eq through c.next
    cases hf : numeralFault? [through] with
    | none => rw [hf] at hthrough; exact LineParser.map_of_matched hthrough
    | some e => rw [hf] at hthrough; exact LineParser.map_of_error hthrough
  · have hstart := readNumeral_eq start c.next
    rw [numeralFault?_cons_of_lt (Nat.lt_of_not_le hs)] at hstart ⊢
    exact LineParser.bind_of_error hstart

/-- Where no line is left, or one that is no plan, a plan mismatches. -/
theorem Plan.read_of_none (hc : c.indents = []) (h : c.remaining.head?.bind Plan.ofLine? = none) :
    Plan.read c = .ok (.mismatched .notPlan c) := by
  apply LineParser.bind_of_mismatched
  rw [LineParser.line_eq hc, h]

theorem Diagnostic.read_of_none (hc : c.indents = [])
    (h : c.remaining.head?.bind Diagnostic.ofLine? = none) :
    Diagnostic.read c = .ok (.mismatched .notDiagnostic c) := by
  unfold Diagnostic.read
  rw [LineParser.line_eq hc, h]

theorem Title.read_of_none (hc : c.indents = [])
    (h : c.remaining.head?.bind TitleParts.ofLine? = none) :
    Title.read c = .ok (.mismatched .notTitle c) := by
  apply LineParser.bind_of_mismatched
  rw [LineParser.line_eq hc, h]

theorem Title.read_of_ofLine? (hc : c.indents = []) (hl : c.remaining = line :: rest)
    {parts : TitleParts} (h : TitleParts.ofLine? line = some parts) :
    Title.read c = Title.ofParts parts c.next :=
  LineParser.bind_of_matched (LineParser.line_of_eq_some hc hl h)

end Alternatives

namespace Item

/-- Why the lines at which an item is looked for end reading: a numeral that
is too long, or what stands under a title. -/
def fault? (layout : Layout) : List Line → Option Fault
  | [] => none
  | line :: rest =>
    match LineKind.ofLine line with
    | .title parts =>
      (numeralFault? (LineKind.title parts).numerals).or
        (if (Title.ofParts? parts).isSome then Block.fault? layout rest else none)
    | kind => numeralFault? kind.numerals

variable {layout : Layout} {c : Cursor} {line : Line} {rest : List Line}

/-- The label under which the kinds of items are tried. -/
def label : Text := "TAP Lines".toList

/-- A line that is neither a plan nor a diagnostic is left to tests. -/
theorem read_of_neither (hc : c.indents = [])
    (hplan : c.remaining.head?.bind Plan.ofLine? = none)
    (hdiag : c.remaining.head?.bind Diagnostic.ofLine? = none) :
    Item.read layout c = LineParser.firstOf label
      [(Test.read layout.indent layout.blockLimit).map .test] c := by
  unfold Item.read Item.readWith
  rw [LineParser.firstOf_cons_of_mismatched
        (LineParser.map_of_mismatched (Plan.read_of_none hc hplan)),
      LineParser.firstOf_cons_of_mismatched
        (LineParser.map_of_mismatched (Diagnostic.read_of_none hc hdiag))]
  rfl

/-- Where tests mismatch too, reading stays at the line. -/
theorem firstOf_test_of_mismatched {reason : Mismatch} {place : Cursor}
    (h : Test.read layout.indent layout.blockLimit c = .ok (.mismatched reason place)) :
    LineParser.firstOf label [(Test.read layout.indent layout.blockLimit).map Item.test] c
      = .ok (.mismatched (.noAlternative label) c) :=
  LineParser.firstOf_cons_of_mismatched (LineParser.map_of_mismatched h)

theorem readTest_of_no_title {reason : Mismatch} {place : Cursor}
    (h : Title.read c = .ok (.mismatched reason place)) :
    Test.read layout.indent layout.blockLimit c = .ok (.mismatched reason place) :=
  LineParser.bind_of_mismatched h

theorem readTest_of_title {title : Title} (h : Title.read c = .ok (.matched title c.next)) :
    Test.read layout.indent layout.blockLimit c
      = LineParser.map (fun lines => (⟨title, lines⟩ : Test))
          (LineParser.within layout.indent (Block.read layout.blockLimit)) c.next :=
  LineParser.bind_of_matched h

/-- What an item comes to where some lines are left: their fault, or else what
is taken off them. -/
def answer (layout : Layout) (c : Cursor) (lines : List Line) : Except Fault (Outcome Item) :=
  match fault? layout lines with
  | some e => .error e
  | none =>
    match take? layout lines with
    | some (item, _) => .ok (.matched item (c.forward item.size))
    | none => .ok (.mismatched (.noAlternative label) c)

variable {lines : List Line}

theorem answer_of_fault {e : Fault} (h : fault? layout lines = some e) :
    answer layout c lines = .error e := by
  unfold answer
  simp only [h]

theorem answer_of_take {item : Item} (h : fault? layout lines = none)
    (ht : take? layout lines = some (item, rest)) :
    answer layout c lines = .ok (.matched item (c.forward item.size)) := by
  unfold answer
  simp only [h, ht]

theorem answer_of_take_none (h : fault? layout lines = none) (ht : take? layout lines = none) :
    answer layout c lines = .ok (.mismatched (.noAlternative label) c) := by
  unfold answer
  simp only [h, ht]

/-! A line that is one of a test: its parts are understood, then its number is
read, then the block under it. -/

section Tests

variable {parts : TitleParts} {title : Title}

theorem fault?_of_parts (hkind : LineKind.ofLine line = .title parts)
    (htitle : Title.ofParts? parts = some title) :
    fault? layout (line :: rest)
      = (numeralFault? parts.number.toList).or (Block.fault? layout rest) := by
  rw [fault?, hkind]
  simp only [LineKind.numerals, htitle, Option.isSome_some, if_true]

/-- A line whose word is no directive is no fault. -/
theorem fault?_of_parts_none (hkind : LineKind.ofLine line = .title parts)
    (htitle : Title.ofParts? parts = none) : fault? layout (line :: rest) = none := by
  rw [fault?, hkind]
  simp only [LineKind.numerals, htitle]
  rfl

theorem take?_of_parts (hkind : LineKind.ofLine line = .title parts)
    (htitle : Title.ofParts? parts = some title) :
    take? layout (line :: rest)
      = (Block.take? layout rest).map fun (block, rest) => (.test ⟨title, block⟩, rest) := by
  rw [take?, hkind]
  simp only [htitle, Option.bind_some]

theorem take?_of_parts_none (hkind : LineKind.ofLine line = .title parts)
    (htitle : Title.ofParts? parts = none) : take? layout (line :: rest) = none := by
  rw [take?, hkind]
  simp only [htitle, Option.bind_none]

/-- The block under a title, the number of the title being read. -/
theorem firstOf_test_of_title (hk : 0 ≤ layout.indent) (hc : c.indents = [])
    (hnext : c.next.remaining = rest) (hkind : LineKind.ofLine line = .title parts)
    (htitle : Title.ofParts? parts = some title)
    (hnum : numeralFault? parts.number.toList = none)
    (hread : Title.read c = .ok (.matched title c.next)) :
    LineParser.firstOf label [(Test.read layout.indent layout.blockLimit).map Item.test] c
      = answer layout c (line :: rest) := by
  have hfault : fault? layout (line :: rest) = Block.fault? layout rest := by
    rw [fault?_of_parts hkind htitle, hnum, Option.none_or]
  have htake : take? layout (line :: rest) = _ := take?_of_parts hkind htitle
  have htest : Test.read layout.indent layout.blockLimit c = _ := readTest_of_title hread
  cases hf : Block.fault? layout rest with
  | some e =>
    have hblock := Block.read_of_fault hk (c := c.next) hc (by rw [hnext]; exact hf)
    rw [LineParser.map_of_error hblock] at htest
    rw [answer_of_fault (hfault.trans hf)]
    exact LineParser.firstOf_cons_of_error (LineParser.map_of_error htest)
  | none =>
    cases hb : Block.take? layout rest with
    | none =>
      obtain ⟨reason, place, hblock⟩ := Block.read_of_take_none hk (c := c.next) hc
        (by rw [hnext]; exact hf) (by rw [hnext]; exact hb)
      rw [LineParser.map_of_mismatched hblock] at htest
      rw [hb] at htake
      rw [answer_of_take_none (hfault.trans hf) htake]
      exact firstOf_test_of_mismatched htest
    | some found =>
      obtain ⟨block, after⟩ := found
      have hblock := Block.read_of_take hk (c := c.next) hc
        (by rw [hnext]; exact hf) (by rw [hnext]; exact hb)
      -- one line for the title, two for the delimiters
      have hgo : c.next.forward (block.length + 2) = c.forward (3 + block.length) := by
        rw [Cursor.next, Cursor.forward_forward]
        congr 1
        omega
      rw [LineParser.map_of_matched hblock, hgo] at htest
      rw [hb] at htake
      rw [answer_of_take (hfault.trans hf) htake]
      exact LineParser.firstOf_cons_of_matched (LineParser.map_of_matched htest)

/-- **A test under a line that is one**, as the parts of the line and the
lines after it say. -/
theorem firstOf_test_eq (hk : 0 ≤ layout.indent) (hc : c.indents = [])
    (hl : c.remaining = line :: rest) (hkind : LineKind.ofLine line = .title parts) :
    LineParser.firstOf label [(Test.read layout.indent layout.blockLimit).map Item.test] c
      = answer layout c (line :: rest) := by
  have hnext : c.next.remaining = rest := by
    show (c.forward 1).remaining = rest
    rw [Cursor.remaining_forward, hl]
    rfl
  have hread := Title.read_of_ofLine? hc hl (LineKind.ofLine_eq_title_iff.mp hkind)
  cases htitle : Title.ofParts? parts with
  | none =>
    -- the word after the `#` is no directive
    obtain ⟨reason, hno⟩ := Title.ofParts_of_none htitle c.next
    rw [answer_of_take_none (fault?_of_parts_none hkind htitle) (take?_of_parts_none hkind htitle)]
    exact firstOf_test_of_mismatched (readTest_of_no_title (hread.trans hno))
  | some title =>
    have hyes := Title.ofParts_of_some htitle c.next
    cases hnum : numeralFault? parts.number.toList with
    | some e =>
      have hfault : fault? layout (line :: rest) = some e := by
        rw [fault?_of_parts hkind htitle, hnum, Option.some_or]
      rw [hnum] at hyes
      rw [answer_of_fault hfault]
      exact LineParser.firstOf_cons_of_error
        (LineParser.map_of_error (LineParser.bind_of_error (hread.trans hyes)))
    | none =>
      rw [hnum] at hyes
      exact firstOf_test_of_title hk hc hnext hkind htitle hnum (hread.trans hyes)

end Tests

theorem read_of_plan (hc : c.indents = []) (hl : c.remaining = line :: rest)
    {start through : Text} (hkind : LineKind.ofLine line = .plan start through) :
    Item.read layout c = answer layout c (line :: rest) := by
  have hplan := Plan.read_of_ofLine? hc hl (LineKind.ofLine_eq_plan_iff.mp hkind)
  have hfault : fault? layout (line :: rest) = numeralFault? [start, through] := by
    rw [fault?, hkind]
    rfl
  have htake : take? layout (line :: rest)
      = some (.plan ⟨Text.ofDigits start, Text.ofDigits through⟩, rest) := by rw [take?, hkind]
  unfold Item.read Item.readWith
  cases hf : numeralFault? [start, through] with
  | none =>
    rw [hf] at hplan
    rw [answer_of_take (hfault.trans hf) htake]
    exact LineParser.firstOf_cons_of_matched (LineParser.map_of_matched hplan)
  | some e =>
    rw [hf] at hplan
    rw [answer_of_fault (hfault.trans hf)]
    exact LineParser.firstOf_cons_of_error (LineParser.map_of_error hplan)

theorem read_of_diagnostic (hc : c.indents = []) (hl : c.remaining = line :: rest)
    {text : Text} (hkind : LineKind.ofLine line = .diagnostic text) :
    Item.read layout c = answer layout c (line :: rest) := by
  have hplan : Plan.ofLine? line = none := LineKind.plan_eq_none (by simp [hkind])
  have hdiag : Diagnostic.read c = .ok (.matched text c.next) :=
    LineParser.line_of_eq_some hc hl (LineKind.ofLine_eq_diagnostic_iff.mp hkind)
  have hfault : fault? layout (line :: rest) = none := by
    rw [fault?, hkind]
    rfl
  have htake : take? layout (line :: rest) = some (.diagnostic text, rest) := by rw [take?, hkind]
  unfold Item.read Item.readWith
  rw [LineParser.firstOf_cons_of_mismatched
        (LineParser.map_of_mismatched (Plan.read_of_none hc (by rw [hl]; exact hplan))),
      LineParser.firstOf_cons_of_matched (LineParser.map_of_matched hdiag),
      answer_of_take hfault htake]
  rfl

/-- **One item**, as the lines that are left say. -/
theorem read_eq (hk : 0 ≤ layout.indent) (hc : c.indents = []) :
    Item.read layout c = answer layout c c.remaining := by
  cases hl : c.remaining with
  | nil =>
    have htitle := Title.read_of_none hc (by rw [hl]; rfl)
    rw [read_of_neither hc (by rw [hl]; rfl) (by rw [hl]; rfl)]
    exact firstOf_test_of_mismatched (readTest_of_no_title htitle)
  | cons line rest =>
    -- the alternatives before the one of the line's kind mismatch
    cases hkind : LineKind.ofLine line with
    | plan start through => exact read_of_plan hc hl hkind
    | diagnostic text => exact read_of_diagnostic hc hl hkind
    | title parts =>
      have hplan : Plan.ofLine? line = none := LineKind.plan_eq_none (by simp [hkind])
      have hdiag : Diagnostic.ofLine? line = none := LineKind.diagnostic_eq_none (by simp [hkind])
      rw [read_of_neither hc (by rw [hl]; exact hplan) (by rw [hl]; exact hdiag)]
      exact firstOf_test_eq hk hc hl hkind
    | other =>
      have hplan : Plan.ofLine? line = none := LineKind.plan_eq_none (by simp [hkind])
      have hdiag : Diagnostic.ofLine? line = none := LineKind.diagnostic_eq_none (by simp [hkind])
      have htitle := Title.read_of_none hc (c := c)
        (by rw [hl]; exact LineKind.title_eq_none (by simp [hkind]))
      have hfault : fault? layout (line :: rest) = none := by
        rw [fault?, hkind]
        rfl
      have htake : take? layout (line :: rest) = none := by rw [take?, hkind]
      rw [read_of_neither hc (by rw [hl]; exact hplan) (by rw [hl]; exact hdiag),
          answer_of_take_none hfault htake]
      exact firstOf_test_of_mismatched (readTest_of_no_title htitle)

end Item

end TapReport
