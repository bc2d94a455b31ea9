/-
  TapReport.Proofs.Report.Accounting
  ──────────────────────────────────
  **EVERY LINE OF A REPORT THAT IS READ BELONGS TO ONE ITEM.**

  Reading goes on where an attempt left off, and an attempt may leave off
  some lines ahead.  Nevertheless nothing is skipped, read twice or used up
  by an attempt that came to nothing: the lines between the version line and
  the place where reading stopped are cut into slices, one for each item, and
  a slice is all that its item needs.

      Item.IsSlice           lines that are taken off as one item, to the last
      Report.StandsAlone     the same, by what reading makes of them
      Report.Accounted       all that is known of a report that was read

  Main results:
    * `Item.take?_append`, `Item.fault?_append` — an item does not look at the
      lines behind it.
    * `Item.exists_slice` — an item is taken off its slice, whatever follows.
    * `Report.exists_slices` — the items that are taken are cut into slices.
    * `Report.exists_of_matched` — the body of a report that was read.
    * `Report.accounted_of_matched` — the lines of a report that was read.
-/
import Mathlib.Data.List.Forall2
import TapReport.Proofs.Report.Refinement

namespace TapReport

/-! ## §1. The lines of one item. -/

namespace Block

/-- Only the first line can be a fault, so lines behind it are none. -/
theorem fault?_append {layout : Layout} {given : List Line} (h : given ≠ []) (more : List Line) :
    fault? layout (given ++ more) = fault? layout given := by
  cases given with
  | nil => exact absurd rfl h
  | cons line below => rfl

theorem lines_ne_nil (k : Nat) (block : List Line) : lines k block ≠ [] :=
  List.cons_ne_nil _ _

end Block

namespace Item

/-- Some lines that are taken off as one item, to the last. -/
structure IsSlice (layout : Layout) (item : Item) (slice : List Line) : Prop where
  /-- They are as many as the item takes. -/
  length_eq : slice.length = item.size
  /-- They are no fault. -/
  fault?_eq : fault? layout slice = none
  /-- None of them is left. -/
  take?_eq : take? layout slice = some (item, [])

variable {layout : Layout} {lines rest : List Line} {item : Item}

/-- Lines that begin with an item still do with others behind them. -/
theorem Begins.append (h : Begins layout lines item rest) (more : List Line) :
    Begins layout (lines ++ more) item (rest ++ more) := by
  cases h with
  | plan hkind => exact .plan hkind
  | diagnostic hkind => exact .diagnostic hkind
  | test hkind htitle hmem hlen =>
    rw [List.cons_append, List.append_assoc]
    exact .test hkind htitle hmem hlen

/-- **An item is taken off its lines**, and leaves those behind them as they
are. -/
theorem take?_append (h : take? layout lines = some (item, rest)) (more : List Line) :
    take? layout (lines ++ more) = some (item, rest ++ more) :=
  ((begins_of_take? h).append more).take?_eq

/-- **What can be at fault is in the lines of the item** where one is taken. -/
theorem fault?_append (h : take? layout lines = some (item, rest)) (more : List Line) :
    fault? layout (lines ++ more) = fault? layout lines := by
  cases begins_of_take? h with
  | plan hkind => rw [List.cons_append, fault?, fault?, hkind]
  | diagnostic hkind => rw [List.cons_append, fault?, fault?, hkind]
  | test hkind htitle hmem hlen =>
    -- there is a line under the title, so none that follows is compared
    rw [List.cons_append, fault?_of_parts hkind htitle, fault?_of_parts hkind htitle,
        Block.fault?_append (List.append_ne_nil_of_left_ne_nil (Block.lines_ne_nil _ _) _)]

/-- The lines of the item that some lines begin with. -/
theorem Begins.exists_front (h : Begins layout lines item rest) :
    ∃ slice, lines = slice ++ rest ∧ slice.length = item.size ∧ Begins layout slice item [] := by
  cases h with
  | @plan line _ _ _ hkind => exact ⟨[line], rfl, rfl, .plan hkind⟩
  | @diagnostic line _ _ hkind => exact ⟨[line], rfl, rfl, .diagnostic hkind⟩
  | @test line _ title block _ hkind htitle hmem hlen =>
    have hfront : Begins layout (line :: (Block.lines layout.indent.toNat block ++ []))
        (.test ⟨title, block⟩) [] := .test hkind htitle hmem hlen
    rw [List.append_nil] at hfront
    refine ⟨line :: Block.lines layout.indent.toNat block, rfl, ?_, hfront⟩
    rw [List.length_cons, Block.length_lines]
    show block.length + 2 + 1 = 3 + block.length
    omega

/-- **An item is taken off its own lines**, whatever follows them. -/
theorem exists_slice (hf : fault? layout lines = none)
    (ht : take? layout lines = some (item, rest)) :
    ∃ slice, lines = slice ++ rest ∧ IsSlice layout item slice := by
  obtain ⟨slice, rfl, hlength, hslice⟩ := (begins_of_take? ht).exists_front
  rw [fault?_append hslice.take?_eq] at hf
  exact ⟨slice, rfl, hlength, hf, hslice.take?_eq⟩

end Item

/-! ## §2. The lines of all items. -/

namespace Report

variable {layout : Layout} {n : Nat} {lines : List Line}

/-- Where the body has no fault, the first place has none. -/
theorem fault?_of_bodyFault?_eq_none (h : bodyFault? layout (n + 1) lines = none) :
    Item.fault? layout lines = none := by
  rw [Option.eq_none_iff_forall_ne_some]
  intro e he
  rw [bodyFault?_of_fault he] at h
  exact absurd h (by simp)

/-- **The items that are taken are cut into slices**, one after another. -/
theorem exists_slices (h : bodyFault? layout n lines = none) :
    ∃ slices : List (List Line),
      lines = slices.flatten ++ (takeItems layout n lines).2
        ∧ List.Forall₂ (Item.IsSlice layout) (takeItems layout n lines).1 slices := by
  -- induction on the budget; each item that is taken contributes its slice
  induction n generalizing lines with
  | zero => exact ⟨[], rfl, .nil⟩
  | succ n ih =>
    have hfault := fault?_of_bodyFault?_eq_none h
    cases htake : Item.take? layout lines with
    | none =>
      rw [takeItems_of_take_none htake]
      exact ⟨[], rfl, .nil⟩
    | some taken =>
      obtain ⟨item, rest⟩ := taken
      rw [bodyFault?_of_take hfault htake] at h
      obtain ⟨slice, hlines, hslice⟩ := Item.exists_slice hfault htake
      obtain ⟨slices, hrest, hslices⟩ := ih h
      rw [takeItems_of_take htake]
      refine ⟨slice :: slices, ?_, .cons hslice hslices⟩
      rw [List.flatten_cons, List.append_assoc, ← hrest]
      exact hlines

/-- Slices have as many lines as their items take. -/
theorem length_flatten_slices {items : List Item} {slices : List (List Line)}
    (h : List.Forall₂ (Item.IsSlice layout) items slices) :
    slices.flatten.length = sizes items := by
  induction h with
  | nil => rfl
  | cons hslice _ ih => rw [List.flatten_cons, List.length_append, hslice.length_eq, ih, sizes]

/-- No more items are taken than allowed; if fewer are, the next place has
neither an item nor a fault. -/
theorem takeItems_stopped (h : bodyFault? layout n lines = none) :
    (takeItems layout n lines).1.length ≤ n
      ∧ ((takeItems layout n lines).1.length < n →
        Item.fault? layout (takeItems layout n lines).2 = none
          ∧ Item.take? layout (takeItems layout n lines).2 = none) := by
  induction n generalizing lines with
  | zero => exact ⟨Nat.le_refl 0, fun hlt => absurd hlt (Nat.not_lt_zero _)⟩
  | succ n ih =>
    have hfault := fault?_of_bodyFault?_eq_none h
    cases htake : Item.take? layout lines with
    | none =>
      rw [takeItems_of_take_none htake]
      exact ⟨Nat.zero_le _, fun _ => ⟨hfault, htake⟩⟩
    | some taken =>
      obtain ⟨item, rest⟩ := taken
      rw [bodyFault?_of_take hfault htake] at h
      obtain ⟨hle, hstop⟩ := ih h
      rw [takeItems_of_take htake]
      exact ⟨Nat.succ_le_succ hle, fun hlt => hstop (Nat.lt_of_succ_lt_succ hlt)⟩

/-! ## §3. A slice by itself. -/

/-- Some lines are an item by themselves: under any version line of the right
version and with any limit that allows for an item, they are read as it and
to the last. -/
def StandsAlone (layout : Layout) (item : Item) (slice : List Line) : Prop :=
  ∀ header digits, Version.ofLine? header = some digits → Text.ofDigits digits = 13 →
    ∀ limit, 1 ≤ limit →
      ofLines { layout with itemLimit := limit } (header :: slice)
        = .ok (.matched ⟨protocolVersion, [item], .atEnd⟩
            ⟨(header :: slice).toArray, slice.length + 1, 0, []⟩)

theorem standsAlone_of_isSlice (hk : 0 ≤ layout.indent) {item : Item} {slice : List Line}
    (h : Item.IsSlice layout item slice) : StandsAlone layout item slice := by
  intro header digits hdigits hv limit hlimit
  obtain ⟨n, hn⟩ : ∃ n, limit.toNat = n + 1 := ⟨limit.toNat - 1, by omega⟩
  -- what is taken does not depend on how many items may be
  have hfault : Item.fault? { layout with itemLimit := limit } slice = none := h.fault?_eq
  have htake : Item.take? { layout with itemLimit := limit } slice = some (item, []) := h.take?_eq
  have hbody : body? (Cursor.ofLines (header :: slice)).remaining = some slice :=
    body?_eq_some_iff.mpr ⟨header, digits, rfl, hdigits, hv⟩
  have hread : ofLines { layout with itemLimit := limit } (header :: slice) = _ :=
    read_of_body hk rfl hbody
  simp only [hn, bodyFault?_of_take hfault htake, bodyFault?_nil, takeItems_of_take htake,
    takeItems_nil, stop_of_take htake] at hread
  have hstop : stop { layout with itemLimit := limit } n [] = .atEnd := by simp [stop]
  have hend : (Cursor.ofLines (header :: slice)).forward (1 + sizes [item])
      = ⟨(header :: slice).toArray, slice.length + 1, 0, []⟩ := by
    have hsize : item.size = slice.length := h.length_eq.symm
    simp [Cursor.forward, Cursor.ofLines, sizes, hsize, Nat.add_comm]
  rw [hstop, hend] at hread
  exact hread

end Report

/-! ## §4. Where no item is read. -/

/-- A choice mismatches only where all its alternatives do. -/
theorem LineParser.isMatch_of_firstOf {α : Type} {label : Text} {ps : List (LineParser α)}
    {c : Cursor} (h : (firstOf label ps c).map Outcome.isMatch = .ok false) :
    ∀ p ∈ ps, (p c).map Outcome.isMatch = .ok false := by
  induction ps with
  | nil => exact fun p hp => absurd hp List.not_mem_nil
  | cons p ps ih =>
    cases hrun : p c with
    | error e => rw [firstOf_cons_of_error hrun] at h; exact absurd h (by simp [Except.map])
    | ok o =>
      cases o with
      | matched a next =>
        rw [firstOf_cons_of_matched hrun] at h
        exact absurd h (by simp [Except.map, Outcome.isMatch])
      | mismatched reason place =>
        rw [firstOf_cons_of_mismatched hrun] at h
        intro q hq
        rcases List.mem_cons.mp hq with rfl | hq
        · rw [hrun]
          rfl
        · exact ih h q hq

/-- Changing tokens does not change where a parser matches. -/
theorem LineParser.isMatch_map {α β : Type} (f : α → β) (p : LineParser α) (c : Cursor) :
    (map f p c).map Outcome.isMatch = (p c).map Outcome.isMatch := by
  unfold map
  cases p c with
  | error e => rfl
  | ok o => cases o <;> rfl

/-- Where no item is read, nothing that an item can be is. -/
theorem Item.isMatch_alternatives {layout : Layout} {c : Cursor}
    (h : (Item.read layout c).map Outcome.isMatch = .ok false) :
    (Plan.read c).map Outcome.isMatch = .ok false
      ∧ (Diagnostic.read c).map Outcome.isMatch = .ok false
      ∧ (Test.read layout.indent layout.blockLimit c).map Outcome.isMatch = .ok false := by
  have hall := LineParser.isMatch_of_firstOf h
  simp only [List.forall_mem_cons, LineParser.isMatch_map] at hall
  exact ⟨hall.1, hall.2.1, hall.2.2.1⟩

/-! ## §5. A report that was read. -/

/-- A step over lines that are there is not cut short. -/
theorem Cursor.forward_of_le {c : Cursor} (hc : c.indents = []) (hline : c.line ≤ c.source.size)
    {n : Nat} (hn : n ≤ c.remaining.length) : c.forward n = ⟨c.source, c.line + n, 0, []⟩ := by
  have hlength : c.remaining.length = c.source.size - c.line := by simp [remaining]
  unfold forward
  rw [hc, Nat.min_eq_left (by omega)]

namespace Report

variable {layout : Layout} {c next : Cursor} {content : Content}

/-- Without a right version line no report is read. -/
theorem exists_body_of_matched (hc : c.indents = [])
    (h : read layout c = .ok (.matched content next)) : ∃ body, body? c.remaining = some body := by
  cases hbody : body? c.remaining with
  | some body => exact ⟨body, rfl⟩
  | none =>
    obtain ⟨reason, place, hversion⟩ := version_mismatched hc hbody
    have hread : read layout c = .ok (.mismatched reason place) :=
      LineParser.bind_of_mismatched hversion
    rw [hread] at h
    exact absurd h (by simp)

/-- **A report that was read** has a body without a fault, its items are those of
the body, and reading stopped after their lines. -/
theorem exists_of_matched (hk : 0 ≤ layout.indent) (hc : c.indents = [])
    (h : read layout c = .ok (.matched content next)) :
    ∃ body, body? c.remaining = some body
      ∧ bodyFault? layout layout.itemLimit.toNat body = none
      ∧ content = ⟨protocolVersion, (takeItems layout layout.itemLimit.toNat body).1,
          stop layout layout.itemLimit.toNat body⟩
      ∧ next = c.forward (1 + sizes (takeItems layout layout.itemLimit.toNat body).1) := by
  obtain ⟨body, hbody⟩ := exists_body_of_matched hc h
  have hread := read_of_body hk hc hbody
  rw [h] at hread
  cases hf : bodyFault? layout layout.itemLimit.toNat body with
  | some e => rw [hf] at hread; exact absurd hread (by simp)
  | none =>
    rw [hf] at hread
    obtain ⟨hcontent, hnext⟩ := Outcome.matched.inj (Except.ok.inj hread)
    exact ⟨body, hbody, hf, hcontent, hnext⟩

/-- The account of a report that was read from `c` to `next`. -/
structure Accounted (layout : Layout) (c : Cursor) (content : Content) (next : Cursor) : Prop where
  /-- Reading stopped after the version line and the lines of the items, in no
  scope. -/
  next_eq : next = ⟨c.source, c.line + 1 + sizes content.body.items, 0, []⟩
  /-- There are not more items than allowed. -/
  length_le : (content.body.items.length : Int) ≤ layout.itemLimit
  /-- The lines that were read are the version line and one slice for each
  item, and each slice is its item by itself. -/
  slices : ∃ header slices, c.remaining = header :: (slices.flatten ++ next.remaining)
    ∧ List.Forall₂ (fun item slice => slice.length = item.size ∧ StandsAlone layout item slice)
      content.body.items slices
  /-- If there are fewer items than allowed, none begins where reading
  stopped. -/
  stopped : (content.body.items.length : Int) < layout.itemLimit →
    (Plan.read next).map Outcome.isMatch = .ok false
      ∧ (Diagnostic.read next).map Outcome.isMatch = .ok false
      ∧ (Test.read layout.indent layout.blockLimit next).map Outcome.isMatch = .ok false

/-- **A report that was read accounts for its lines**: each of them up to the
place where reading stopped is the version line or in the slice of one item. -/
theorem accounted_of_matched (hk : 0 ≤ layout.indent) (hlimit : 0 ≤ layout.itemLimit)
    (hc : c.indents = []) (hline : c.line ≤ c.source.size)
    (h : read layout c = .ok (.matched content next)) : Accounted layout c content next := by
  obtain ⟨body, hbody⟩ := exists_body_of_matched hc h
  obtain ⟨header, -, hl, -, -⟩ := body?_eq_some_iff.mp hbody
  have hread := read_of_body hk hc hbody
  rw [h] at hread
  cases hf : bodyFault? layout layout.itemLimit.toNat body with
  | some e => rw [hf] at hread; exact absurd hread (by simp)
  | none =>
    rw [hf] at hread
    obtain ⟨hcontent, hnext⟩ := Outcome.matched.inj (Except.ok.inj hread)
    obtain ⟨slices, hslices, hall⟩ := exists_slices hf
    obtain ⟨hle, hstop⟩ := takeItems_stopped hf
    have hitems : content.body.items = (takeItems layout layout.itemLimit.toNat body).1 :=
      congrArg (·.body.items) hcontent
    rw [← hitems] at hnext hall hle hstop
    have hlength := length_flatten_slices hall
    have hlines : c.remaining
        = header :: (slices.flatten ++ (takeItems layout layout.itemLimit.toNat body).2) := by
      rw [hl, ← hslices]
    have hremaining : next.remaining = (takeItems layout layout.itemLimit.toNat body).2 := by
      rw [hnext, Cursor.remaining_forward, hlines, Nat.add_comm, List.drop_succ_cons, ← hlength,
          List.drop_left]
    constructor
    case next_eq =>
      -- as many lines are left, so the step is not cut short
      have hcount : 1 + sizes content.body.items ≤ c.remaining.length := by
        rw [hlines, List.length_cons, List.length_append, hlength]
        omega
      rw [hnext, Cursor.forward_of_le hc hline hcount, Nat.add_assoc]
    case length_le => omega
    case slices =>
      refine ⟨header, slices, by rw [hremaining]; exact hlines, ?_⟩
      exact hall.imp fun item slice hslice => ⟨hslice.length_eq, standsAlone_of_isSlice hk hslice⟩
    case stopped =>
      intro hlt
      obtain ⟨hfault, htake⟩ := hstop (by omega)
      have htop : next.indents = [] := by rw [hnext]; exact hc
      have hitem : Item.read layout next = _ := Item.read_eq hk htop
      rw [hremaining, Item.answer_of_take_none hfault htake] at hitem
      exact Item.isMatch_alternatives (by rw [hitem]; rfl)

/-- A report that begins after another line and ends before a test without a
block; its own test has a plan in the block. -/
def secondLine : Cursor :=
  ⟨#["log".toList, "TAP version 13".toList, "1..2".toList, "ok 1".toList, "  ---".toList,
    "  1..9".toList, "  ...".toList, "# done".toList, "not ok 2".toList], 1, 4, []⟩

theorem accounted_secondLine :
    (0 ≤ (⟨2, 500, 10000⟩ : Layout).indent ∧ 0 ≤ (⟨2, 500, 10000⟩ : Layout).itemLimit
        ∧ secondLine.indents = []
        ∧ secondLine.line ≤ secondLine.source.size)
      ∧ ∃ content next, read ⟨2, 500, 10000⟩ secondLine = .ok (.matched content next)
        ∧ content.body.items.length = 3 ∧ next.line = 8
        ∧ Accounted ⟨2, 500, 10000⟩ secondLine content next := by
  have hlayout : 0 ≤ (⟨2, 500, 10000⟩ : Layout).indent
      ∧ 0 ≤ (⟨2, 500, 10000⟩ : Layout).itemLimit := by decide
  have hline : secondLine.line ≤ secondLine.source.size := by decide
  have hread : read ⟨2, 500, 10000⟩ secondLine = .ok (.matched
      ⟨13, [.plan ⟨1, 2⟩, .test ⟨⟨true, none, some ['1'], none⟩, ["1..9".toList]⟩,
        .diagnostic "done".toList], .mismatched (.noAlternative Item.label)⟩
      { secondLine with line := 8, column := 0 }) := rfl
  exact ⟨⟨hlayout.1, hlayout.2, rfl, hline⟩, _, _, hread, rfl, rfl,
    accounted_of_matched hlayout.1 hlayout.2 rfl hline hread⟩

end Report

end TapReport
