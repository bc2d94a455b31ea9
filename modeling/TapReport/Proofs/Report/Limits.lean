/-
  TapReport.Proofs.Report.Limits
  ──────────────────────────────
  **LIMITS ONLY CUT A REPORT SHORT.**

  A layout limits the items of a report and the lines of a block.  With
  tighter limits an item that is taken is the same item, since its block is
  found to its `...` or not at all: a block that has become too long stops
  reading at its title, and nothing inside it is taken for an item.  So what
  is read is a beginning of what is read with looser limits.  And limits that
  no report of so many lines can reach do not count at all, since every item
  takes a line.

      Layout.Tighter      the same indentation, with limits that are not wider
      Layout.AgreeOn      two layouts that see the same at each place of some
                          lines
      Report.Truncates    a report that was read, cut short

  Main results:
    * `Item.take?_of_tighter`, `Item.fault?_of_tighter` — one item within two
      limits.
    * `Report.takeItems_of_tighter` — a body within two limits.
    * `Report.takeItems_of_agreeOn`, `Layout.agreeOn_of_length_le` — limits
      that are out of reach.
    * `Report.parse_of_limits` — a report within two limits.
-/
import TapReport.Proofs.Report.Accounting
import TapReport.Proofs.Report.RoundTrip

namespace TapReport

/-! ## §1. One item within two limits. -/

/-- A layout that differs from another by limits that are not wider. -/
structure Layout.Tighter (tight loose : Layout) : Prop where
  /-- Blocks are indented alike. -/
  indent_eq : tight.indent = loose.indent
  /-- The indentation is not negative. -/
  indent_nonneg : 0 ≤ tight.indent
  /-- There are not more items. -/
  itemLimit_le : tight.itemLimit ≤ loose.itemLimit
  /-- A block may have no lines. -/
  blockLimit_nonneg : 0 ≤ tight.blockLimit
  /-- There are not more lines in a block. -/
  blockLimit_le : tight.blockLimit ≤ loose.blockLimit
  /-- They are as many as a list can have. -/
  blockLimit_lt : loose.blockLimit < Block.longestCount

/-- Within limits that a list can have the limit does not matter for a
fault. -/
theorem Block.fault?_of_limits {l₁ l₂ : Layout} (hindent : l₁.indent = l₂.indent)
    (h₁ : 0 ≤ l₁.blockLimit ∧ l₁.blockLimit < longestCount)
    (h₂ : 0 ≤ l₂.blockLimit ∧ l₂.blockLimit < longestCount) (lines : List Line) :
    fault? l₁ lines = fault? l₂ lines := by
  cases lines with
  | nil => rfl
  | cons line below => rw [fault?, fault?, hindent, room_of_lt h₁.1 h₁.2, room_of_lt h₂.1 h₂.2]

namespace Item

variable {l₁ l₂ layout tight loose : Layout} {lines rest : List Line} {item : Item}

/-- Lines that begin with an item do so wherever its block has room. -/
theorem Begins.of_room (h : Begins l₁ lines item rest) (hindent : l₁.indent = l₂.indent)
    (hroom : (item.blockLength : Int) ≤ l₂.blockLimit) : Begins l₂ lines item rest := by
  cases h with
  | plan hkind => exact .plan hkind
  | diagnostic hkind => exact .diagnostic hkind
  | @test line parts title block rest hkind htitle hmem hlen =>
    have hroom : (block.length : Int) ≤ l₂.blockLimit := hroom
    rw [hindent]
    exact .test hkind htitle hmem (by omega)

/-- The block of an item that is taken has room. -/
theorem Begins.blockLength_le (h : Begins layout lines item rest) (h0 : 0 ≤ layout.blockLimit) :
    (item.blockLength : Int) ≤ layout.blockLimit := by
  cases h with
  | plan hkind => exact h0
  | diagnostic hkind => exact h0
  | @test line parts title block rest hkind htitle hmem hlen =>
    show (block.length : Int) ≤ layout.blockLimit
    omega

/-- The lines of an item are among the lines that begin with it. -/
theorem Begins.size_add_length (h : Begins layout lines item rest) :
    item.size + rest.length = lines.length := by
  obtain ⟨slice, rfl, hlength, -⟩ := h.exists_front
  rw [List.length_append, hlength]

theorem blockLength_lt_size (item : Item) : item.blockLength < item.size := by
  cases item with
  | plan p => exact Nat.zero_lt_one
  | diagnostic text => exact Nat.zero_lt_one
  | test t =>
    show t.block.length < 3 + t.block.length
    omega

/-- **An item within tighter limits** is the same item within looser ones. -/
theorem take?_of_tighter (h : tight.Tighter loose) (ht : take? tight lines = some (item, rest)) :
    take? loose lines = some (item, rest) := by
  have hbegins := begins_of_take? ht
  have hroom := hbegins.blockLength_le h.blockLimit_nonneg
  exact (hbegins.of_room h.indent_eq (Int.le_trans hroom h.blockLimit_le)).take?_eq

/-- **Limits that a block cannot reach** do not count. -/
theorem take?_of_length_le (hindent : l₁.indent = l₂.indent)
    (h₁ : (lines.length : Int) ≤ l₁.blockLimit) (h₂ : (lines.length : Int) ≤ l₂.blockLimit) :
    take? l₁ lines = take? l₂ lines := by
  -- a block is shorter than the lines that it is taken off
  have hroom : ∀ {layout item rest}, Begins layout lines item rest →
      item.blockLength < lines.length := by
    intro layout item rest h
    have hsize := h.size_add_length
    have hlt := item.blockLength_lt_size
    omega
  ext ⟨item, rest⟩
  show take? l₁ lines = some (item, rest) ↔ take? l₂ lines = some (item, rest)
  rw [take?_eq_some_iff, take?_eq_some_iff]
  constructor
  · intro h
    have hlt := hroom h
    exact h.of_room hindent (by omega)
  · intro h
    have hlt := hroom h
    exact h.of_room hindent.symm (by omega)

/-- **Within limits that a list can have** the same lines are a fault. -/
theorem fault?_of_limits (hindent : l₁.indent = l₂.indent)
    (h₁ : 0 ≤ l₁.blockLimit ∧ l₁.blockLimit < Block.longestCount)
    (h₂ : 0 ≤ l₂.blockLimit ∧ l₂.blockLimit < Block.longestCount) (lines : List Line) :
    fault? l₁ lines = fault? l₂ lines := by
  cases lines with
  | nil => rfl
  | cons line below =>
    rw [fault?, fault?]
    cases LineKind.ofLine line with
    | title parts => simp only [Block.fault?_of_limits hindent h₁ h₂]
    | _ => rfl

theorem fault?_of_tighter (h : tight.Tighter loose) (lines : List Line) :
    fault? tight lines = fault? loose lines := by
  have hle := h.blockLimit_le
  have hnonneg := h.blockLimit_nonneg
  have hlt := h.blockLimit_lt
  exact fault?_of_limits h.indent_eq ⟨hnonneg, by omega⟩ ⟨by omega, hlt⟩ lines

end Item

/-! ## §2. A body within two limits. -/

namespace Report

variable {l₁ l₂ layout tight loose : Layout} {m n : Nat} {lines : List Line}

/-- **The items within tighter limits** are the first of those within looser
ones. -/
theorem takeItems_of_tighter (h : tight.Tighter loose) (hn : n ≤ m) :
    (takeItems tight n lines).1 <+: (takeItems loose m lines).1 := by
  -- induction on the tighter limit of items
  induction n generalizing m lines with
  | zero => exact List.nil_prefix
  | succ n ih =>
    obtain ⟨m, rfl⟩ : ∃ k, m = k + 1 := ⟨m - 1, by omega⟩
    cases htake : Item.take? tight lines with
    | none =>
      rw [takeItems_of_take_none htake]
      exact List.nil_prefix
    | some taken =>
      obtain ⟨item, rest⟩ := taken
      rw [takeItems_of_take htake, takeItems_of_take (Item.take?_of_tighter h htake)]
      exact List.cons_prefix_cons.mpr ⟨rfl, ih (Nat.le_of_succ_le_succ hn)⟩

/-- Where looser limits let no fault be met, tighter ones let none either. -/
theorem bodyFault?_of_tighter (h : tight.Tighter loose) (hn : n ≤ m)
    (hfault : bodyFault? loose m lines = none) : bodyFault? tight n lines = none := by
  induction n generalizing m lines with
  | zero => rfl
  | succ n ih =>
    obtain ⟨m, rfl⟩ : ∃ k, m = k + 1 := ⟨m - 1, by omega⟩
    have hfirst : Item.fault? tight lines = none :=
      (Item.fault?_of_tighter h lines).trans (fault?_of_bodyFault?_eq_none hfault)
    cases htake : Item.take? tight lines with
    | none => exact bodyFault?_of_take_none hfirst htake
    | some taken =>
      obtain ⟨item, rest⟩ := taken
      rw [bodyFault?_of_take (fault?_of_bodyFault?_eq_none hfault)
        (Item.take?_of_tighter h htake)] at hfault
      rw [bodyFault?_of_take hfirst htake]
      exact ih (Nat.le_of_succ_le_succ hn) hfault

end Report

/-- Layouts that see the same at each place of some lines: the same item and
the same fault. -/
def Layout.AgreeOn (l₁ l₂ : Layout) (lines : List Line) : Prop :=
  ∀ given, given <:+ lines →
    Item.take? l₁ given = Item.take? l₂ given ∧ Item.fault? l₁ given = Item.fault? l₂ given

/-- The limit of items is not asked at a place. -/
theorem Layout.agreeOn_itemLimit (layout : Layout) (limit : Int) (lines : List Line) :
    AgreeOn { layout with itemLimit := limit } layout lines :=
  fun _ _ => ⟨rfl, rfl⟩

/-- Layouts agree on lines that neither of their limits can cut. -/
theorem Layout.agreeOn_of_length_le {l₁ l₂ : Layout} {lines : List Line}
    (hindent : l₁.indent = l₂.indent)
    (h₁ : (lines.length : Int) ≤ l₁.blockLimit ∧ l₁.blockLimit < Block.longestCount)
    (h₂ : (lines.length : Int) ≤ l₂.blockLimit ∧ l₂.blockLimit < Block.longestCount) :
    AgreeOn l₁ l₂ lines := by
  intro given hgiven
  have hle := hgiven.length_le
  exact ⟨Item.take?_of_length_le hindent (by omega) (by omega),
    Item.fault?_of_limits hindent ⟨by omega, h₁.2⟩ ⟨by omega, h₂.2⟩ given⟩

theorem Layout.AgreeOn.of_suffix {l₁ l₂ : Layout} {lines given : List Line}
    (h : AgreeOn l₁ l₂ lines) (hgiven : given <:+ lines) : AgreeOn l₁ l₂ given :=
  fun place hplace => h place (hplace.trans hgiven)

namespace Report

variable {l₁ l₂ layout : Layout} {m n : Nat} {lines : List Line}

theorem rest_suffix {rest : List Line} {item : Item}
    (h : Item.take? layout lines = some (item, rest)) : rest <:+ lines := by
  rw [Item.eq_drop_of_take? h]
  exact List.drop_suffix _ _

/-- An item leaves fewer lines. -/
theorem length_rest_lt {rest : List Line} {item : Item}
    (h : Item.take? layout lines = some (item, rest)) : rest.length < lines.length := by
  have hsize := (Item.begins_of_take? h).size_add_length
  have hlt := item.blockLength_lt_size
  omega

/-- As many items as were taken, and at least one line for each, are gone. -/
theorem length_takeItems_le (layout : Layout) (n : Nat) (lines : List Line) :
    (takeItems layout n lines).1.length + (takeItems layout n lines).2.length ≤ lines.length := by
  induction n generalizing lines with
  | zero => exact Nat.le_of_eq (Nat.zero_add _)
  | succ n ih =>
    cases htake : Item.take? layout lines with
    | none =>
      rw [takeItems_of_take_none htake]
      exact Nat.le_of_eq (Nat.zero_add _)
    | some taken =>
      obtain ⟨item, rest⟩ := taken
      have hrest := ih rest
      have hlt := length_rest_lt htake
      rw [takeItems_of_take htake]
      simp only [List.length_cons]
      omega

/-- Two limits of items that are the same, or that some lines cannot reach. -/
def SameReach (lines : List Line) (m n : Nat) : Prop :=
  m = n ∨ (lines.length ≤ m ∧ lines.length ≤ n)

/-- Limits that reach equally far do so after an item. -/
theorem SameReach.of_take {rest : List Line} {item : Item} (h : SameReach lines (m + 1) (n + 1))
    (ht : Item.take? layout lines = some (item, rest)) : SameReach rest m n := by
  have hlt := length_rest_lt ht
  unfold SameReach at h ⊢
  omega

/-- **The items do not depend on the layout**, nor on limits that the lines
cannot reach. -/
theorem takeItems_of_agreeOn (h : l₁.AgreeOn l₂ lines) (hreach : SameReach lines m n) :
    takeItems l₁ m lines = takeItems l₂ n lines := by
  -- induction on one limit; the other goes down with it, or no line is left
  induction m generalizing n lines with
  | zero =>
    rcases hreach with rfl | ⟨hzero, -⟩
    · rfl
    · obtain rfl : lines = [] := List.length_eq_zero_iff.mp (Nat.le_zero.mp hzero)
      rw [takeItems_nil, takeItems_nil]
  | succ m ih =>
    cases n with
    | zero =>
      obtain rfl : lines = [] := List.length_eq_zero_iff.mp (by unfold SameReach at hreach; omega)
      rw [takeItems_nil, takeItems_nil]
    | succ n =>
      have hsame := (h lines List.suffix_rfl).1
      cases htake : Item.take? l₁ lines with
      | none => rw [takeItems_of_take_none htake, takeItems_of_take_none (hsame.symm.trans htake)]
      | some taken =>
        obtain ⟨item, rest⟩ := taken
        rw [takeItems_of_take htake, takeItems_of_take (hsame.symm.trans htake),
            ih (h.of_suffix (rest_suffix htake)) (hreach.of_take htake)]

/-- **Nor does the fault.** -/
theorem bodyFault?_of_agreeOn (h : l₁.AgreeOn l₂ lines) (hreach : SameReach lines m n) :
    bodyFault? l₁ m lines = bodyFault? l₂ n lines := by
  induction m generalizing n lines with
  | zero =>
    rcases hreach with rfl | ⟨hzero, -⟩
    · rfl
    · obtain rfl : lines = [] := List.length_eq_zero_iff.mp (Nat.le_zero.mp hzero)
      rw [bodyFault?_nil, bodyFault?_nil]
  | succ m ih =>
    cases n with
    | zero =>
      obtain rfl : lines = [] := List.length_eq_zero_iff.mp (by unfold SameReach at hreach; omega)
      rw [bodyFault?_nil, bodyFault?_nil]
    | succ n =>
      obtain ⟨hsame, hfault⟩ := h lines List.suffix_rfl
      rw [bodyFault?_succ, bodyFault?_succ, hfault, ← hsame]
      cases htake : Item.take? l₁ lines with
      | none => rfl
      | some taken =>
        obtain ⟨item, rest⟩ := taken
        simp only [ih (h.of_suffix (rest_suffix htake)) (hreach.of_take htake)]

/-- Nor does the reason why reading stops. -/
theorem stop_of_agreeOn (h : l₁.AgreeOn l₂ lines) (hreach : SameReach lines m n) :
    stop l₁ m lines = stop l₂ n lines := by
  have hlength := length_takeItems_le l₂ n lines
  unfold stop
  rw [takeItems_of_agreeOn h hreach]
  by_cases hend : (takeItems l₂ n lines).2 = []
  · rw [if_pos hend, if_pos hend]
  · -- a line is left, so a limit that the lines cannot reach is not reached
    have hpos := List.length_pos_iff.mpr hend
    have hiff : (takeItems l₂ n lines).1.length = m ↔ (takeItems l₂ n lines).1.length = n := by
      unfold SameReach at hreach
      omega
    rw [if_neg hend, if_neg hend]
    simp only [hiff]

/-! ## §3. A report within two limits. -/

/-- What a limit does to the outcome of reading a report: nothing to a
mismatch, and of a report that is read a beginning is left. -/
inductive Truncates : (short long : Outcome Content) → Prop
  /-- The same mismatch at the same place. -/
  | mismatched (reason : Mismatch) (place : Cursor) :
      Truncates (.mismatched reason place) (.mismatched reason place)
  /-- A report of the same version, with the first of the items. -/
  | matched {short long : Content} {next place : Cursor} (hversion : short.version = long.version)
      (hitems : short.body.items <+: long.body.items)
      (hdiagnostics : short.document.diagnostics <+: long.document.diagnostics)
      (htests : short.document.tests <+: long.document.tests) :
      Truncates (.matched short next) (.matched long place)

/-- Fewer items at the end leave fewer diagnostics and tests at the end. -/
theorem truncates_of_items {short long : Content} (hversion : short.version = long.version)
    (hitems : short.body.items <+: long.body.items) (next place : Cursor) :
    Truncates (.matched short next) (.matched long place) := by
  refine .matched hversion hitems ?_ ?_
  · rw [Content.document, Content.document, Document.diagnostics_ofItems,
        Document.diagnostics_ofItems]
    exact hitems.filterMap _
  · rw [Content.document, Content.document, Document.tests_ofItems, Document.tests_ofItems]
    exact hitems.filterMap _

/-- **Tighter limits cut a report short**, and let no fault be met that looser
ones do not. -/
theorem exists_truncated (h : tight.Tighter loose) {long : Outcome Content}
    (hlong : ofLines loose lines = .ok long) :
    ∃ short, ofLines tight lines = .ok short ∧ Truncates short long := by
  have hindent : 0 ≤ loose.indent := h.indent_eq ▸ h.indent_nonneg
  cases hbody : body? lines with
  | none =>
    obtain ⟨reason, place, hversion⟩ := version_mismatched (c := Cursor.ofLines lines) rfl hbody
    rw [ofLines_of_mismatched hversion] at hlong
    obtain rfl := Except.ok.inj hlong
    exact ⟨_, ofLines_of_mismatched hversion, .mismatched reason place⟩
  | some body =>
    have hle : tight.itemLimit.toNat ≤ loose.itemLimit.toNat := Int.toNat_le_toNat h.itemLimit_le
    have hread : ofLines loose lines = _ :=
      read_of_body hindent (c := Cursor.ofLines lines) rfl hbody
    rw [hlong] at hread
    cases hfault : bodyFault? loose loose.itemLimit.toNat body with
    | some e => rw [hfault] at hread; exact absurd hread (by simp)
    | none =>
      rw [hfault] at hread
      obtain rfl := Except.ok.inj hread
      have hshort : ofLines tight lines = _ :=
        read_of_body h.indent_nonneg (c := Cursor.ofLines lines) rfl hbody
      rw [bodyFault?_of_tighter h hle hfault] at hshort
      exact ⟨_, hshort, truncates_of_items (by rfl) (takeItems_of_tighter h hle) _ _⟩

theorem body_suffix {body : List Line} (h : body? lines = some body) : body <:+ lines := by
  obtain ⟨header, -, rfl, -, -⟩ := body?_eq_some_iff.mp h
  exact List.suffix_cons header body

/-- **Limits that the lines cannot reach** come to the same, fault or not. -/
theorem ofLines_of_agreeOn (h₁ : 0 ≤ l₁.indent) (h₂ : 0 ≤ l₂.indent) (h : l₁.AgreeOn l₂ lines)
    (hreach : SameReach lines l₁.itemLimit.toNat l₂.itemLimit.toNat) :
    ofLines l₁ lines = ofLines l₂ lines := by
  cases hbody : body? lines with
  | none =>
    obtain ⟨reason, place, hversion⟩ := version_mismatched (c := Cursor.ofLines lines) rfl hbody
    rw [ofLines_of_mismatched hversion, ofLines_of_mismatched hversion]
  | some body =>
    have hsuffix := body_suffix hbody
    have hle := hsuffix.length_le
    have hbodyReach : SameReach body l₁.itemLimit.toNat l₂.itemLimit.toNat := by
      unfold SameReach at hreach ⊢
      omega
    have hread : ofLines l₁ lines = _ := read_of_body h₁ (c := Cursor.ofLines lines) rfl hbody
    have hread' : ofLines l₂ lines = _ := read_of_body h₂ (c := Cursor.ofLines lines) rfl hbody
    rw [hread, hread', bodyFault?_of_agreeOn (h.of_suffix hsuffix) hbodyReach,
        takeItems_of_agreeOn (h.of_suffix hsuffix) hbodyReach,
        stop_of_agreeOn (h.of_suffix hsuffix) hbodyReach]

/-- **Limits only cut a report short.**  With the same indentation, settings
whose limits are not wider have an outcome where the wider ones have, and it is
the same mismatch or a beginning of the report; and settings whose limits are as
many as there are lines all come to the same. -/
theorem parse_of_limits {s₁ s₂ : RawSettings} {v₁ v₂ : Settings Int} (hs₁ : s₁.check = .ok v₁)
    (hs₂ : s₂.check = .ok v₂) (hindent : v₁.indentLevel = v₂.indentLevel) (lines : List Line) :
    (v₁.itemLimit ≤ v₂.itemLimit → v₁.blockLimit ≤ v₂.blockLimit →
        v₂.blockLimit < Block.longestCount →
        ∀ long, parse s₂ (.lines lines) = .ok long →
          ∃ short, parse s₁ (.lines lines) = .ok short ∧ Truncates short long)
      ∧ ((lines.length : Int) ≤ v₁.itemLimit → (lines.length : Int) ≤ v₁.blockLimit →
        v₁.blockLimit < Block.longestCount →
        (lines.length : Int) ≤ v₂.itemLimit → (lines.length : Int) ≤ v₂.blockLimit →
        v₂.blockLimit < Block.longestCount →
        parse s₁ (.lines lines) = parse s₂ (.lines lines)) := by
  have hvalid₁ := (Settings.check_eq_ok_iff.mp hs₁).2
  have hvalid₂ := (Settings.check_eq_ok_iff.mp hs₂).2
  rw [parse_of_check hs₁, parse_of_check hs₂]
  constructor
  · intro hitems hblocks hlimit long hlong
    have htighter : (Layout.ofSettings v₁).Tighter (.ofSettings v₂) :=
      ⟨hindent, hvalid₁.indentLevel_nonneg, hitems, Int.le_of_lt hvalid₁.blockLimit_pos, hblocks,
        hlimit⟩
    cases hread : ofLines (.ofSettings v₂) lines with
    | error e => rw [hread] at hlong; exact absurd hlong (by simp [Except.mapError])
    | ok outcome =>
      rw [hread] at hlong
      obtain rfl : outcome = long := Except.ok.inj hlong
      obtain ⟨short, hshort, htruncates⟩ := exists_truncated htighter hread
      exact ⟨short, by rw [hshort]; rfl, htruncates⟩
  · intro hitems₁ hblocks₁ hlimit₁ hitems₂ hblocks₂ hlimit₂
    have hagree : (Layout.ofSettings v₁).AgreeOn (.ofSettings v₂) lines :=
      Layout.agreeOn_of_length_le hindent ⟨hblocks₁, hlimit₁⟩ ⟨hblocks₂, hlimit₂⟩
    have hreach : SameReach lines v₁.itemLimit.toNat v₂.itemLimit.toNat := by
      unfold SameReach
      omega
    rw [ofLines_of_agreeOn hvalid₁.indentLevel_nonneg hvalid₂.indentLevel_nonneg hagree hreach]

/-- A report whose test has two lines in its block, which look like items. -/
def twoLineBlock : List Line :=
  ["TAP version 13".toList, "1..2".toList, "ok 1".toList, "  ---".toList, "  # a".toList,
    "  1..9".toList, "  ...".toList, "# end".toList]

/-- Settings that let a block have one line. -/
def oneLineBlocks : Settings Int :=
  ⟨2, 500, 1, 10485760⟩

/-- Settings that let as much be read as `twoLineBlock` has lines. -/
def eightOfEach : Settings Int :=
  ⟨2, 8, 8, 10485760⟩

theorem parse_twoLineBlock :
    ((oneLineBlocks.map .int).check = .ok oneLineBlocks
        ∧ (eightOfEach.map .int).check = .ok eightOfEach
        ∧ RawSettings.standard.check = .ok Settings.standard)
      ∧ (∃ short long, parse (oneLineBlocks.map .int) (.lines twoLineBlock) = .ok short
        ∧ parse RawSettings.standard (.lines twoLineBlock) = .ok long
        ∧ short.verdict = .document ⟨13, some ⟨1, 2⟩, [], []⟩
        ∧ long.verdict = .document ⟨13, some ⟨1, 2⟩, ["end".toList],
            [⟨⟨true, none, some ['1'], none⟩, ["# a".toList, "1..9".toList]⟩]⟩
        ∧ Truncates short long)
      ∧ parse (eightOfEach.map .int) (.lines twoLineBlock)
        = parse RawSettings.standard (.lines twoLineBlock) := by
  have hone : (oneLineBlocks.map .int).check = .ok oneLineBlocks := rfl
  have height : (eightOfEach.map .int).check = .ok eightOfEach := rfl
  have hstandard : RawSettings.standard.check = .ok Settings.standard := rfl
  have hlong : parse RawSettings.standard (.lines twoLineBlock) = .ok (.matched
      ⟨13, ⟨[.plan ⟨1, 2⟩, .test ⟨⟨true, none, some ['1'], none⟩, ["# a".toList, "1..9".toList]⟩,
        .diagnostic "end".toList], .atEnd⟩⟩ ⟨twoLineBlock.toArray, 8, 0, []⟩) := rfl
  have hshort : parse (oneLineBlocks.map .int) (.lines twoLineBlock) = .ok (.matched
      ⟨13, ⟨[.plan ⟨1, 2⟩], .mismatched (.noAlternative Item.label)⟩⟩
      ⟨twoLineBlock.toArray, 2, 0, []⟩) := rfl
  refine ⟨⟨hone, height, hstandard⟩, ⟨_, _, hshort, hlong, rfl, rfl, ?_⟩, ?_⟩
  · obtain ⟨short, hshort', htruncates⟩ := (parse_of_limits hone hstandard rfl twoLineBlock).1
      (by decide) (by decide) (by decide) _ hlong
    rw [hshort] at hshort'
    obtain rfl := Except.ok.inj hshort'
    exact htruncates
  · exact (parse_of_limits height hstandard rfl twoLineBlock).2 (by decide) (by decide) (by decide)
      (by decide) (by decide) (by decide)

end Report

end TapReport
