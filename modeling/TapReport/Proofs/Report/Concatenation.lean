/-
  TapReport.Proofs.Report.Concatenation
  ─────────────────────────────────────
  **READING TWO PARTS OF A REPORT, ONE AFTER THE OTHER.**

  Where the lines of a report are read to the last one, it makes no
  difference that they end there: with other lines behind them the same items
  are read first, and then what is read of the other lines alone, within what
  is left of the limit.  The reason is that an item is taken off its own lines
  whatever follows them, so no block is left open between the two parts.

      Report.Comprises     lines that are items, to the last of them
      Report.ReadOn        reading some lines behind others, and alone

  Main results:
    * `Report.Comprises.takeItems_append`, `Report.Comprises.bodyFault?_append`
      — two parts within one limit.
    * `Report.ofLines_append` — the report of two parts.
-/
import TapReport.Proofs.Report.Limits

namespace TapReport

/-- A line that is neither a plan nor a diagnostic nor the title of a test is
no item and no fault, whatever stands behind it. -/
theorem Item.take?_fault?_of_other {layout : Layout} {line : Line}
    (hplan : Plan.ofLine? line = none) (hdiag : Diagnostic.ofLine? line = none)
    (htitle : TitleParts.ofLine? line = none) (more : List Line) :
    take? layout (line :: more) = none ∧ fault? layout (line :: more) = none := by
  have hkind : LineKind.ofLine line = .other := by
    unfold LineKind.ofLine
    rw [hplan, hdiag, htitle]
  constructor
  · rw [take?, hkind]
  · rw [fault?, hkind]
    rfl

namespace Report

variable {layout : Layout} {n : Nat} {front : List Line}

/-! ## §1. Two parts of a body. -/

theorem sizes_append (items more : List Item) :
    sizes (items ++ more) = sizes items + sizes more := by
  induction items with
  | nil => exact (Nat.zero_add _).symm
  | cons item items ih => rw [List.cons_append, sizes, sizes, ih, Nat.add_assoc]

/-- The lines that are left are those after the lines of the items. -/
theorem takeItems_snd_eq_drop (layout : Layout) (n : Nat) (lines : List Line) :
    (takeItems layout n lines).2 = lines.drop (sizes (takeItems layout n lines).1) := by
  induction n generalizing lines with
  | zero => rfl
  | succ n ih =>
    cases htake : Item.take? layout lines with
    | none =>
      rw [takeItems_of_take_none htake]
      rfl
    | some taken =>
      obtain ⟨item, rest⟩ := taken
      rw [takeItems_of_take htake]
      show (takeItems layout n rest).2 = lines.drop (item.size + sizes (takeItems layout n rest).1)
      rw [ih rest, ← List.drop_drop, ← Item.eq_drop_of_take? htake]

/-- Some lines are a body of these items, to the last line: within `n` items
nothing of them is left, and no place is a fault. -/
inductive Comprises (layout : Layout) : Nat → List Line → List Item → Prop
  /-- No lines are no items. -/
  | nil (n : Nat) : Comprises layout n [] []
  /-- An item and what is left after it. -/
  | cons {n : Nat} {lines rest : List Line} {item : Item} {items : List Item}
      (hfault : Item.fault? layout lines = none)
      (htake : Item.take? layout lines = some (item, rest))
      (hrest : Comprises layout n rest items) : Comprises layout (n + 1) lines (item :: items)

/-- Lines of which nothing is left are a body of the items that are taken. -/
theorem comprises_of_takeItems (hfault : bodyFault? layout n front = none)
    (h : (takeItems layout n front).2 = []) :
    Comprises layout n front (takeItems layout n front).1 := by
  induction n generalizing front with
  | zero =>
    obtain rfl : front = [] := h
    exact .nil 0
  | succ n ih =>
    have hfirst := fault?_of_bodyFault?_eq_none hfault
    cases htake : Item.take? layout front with
    | none =>
      rw [takeItems_of_take_none htake] at h ⊢
      obtain rfl : front = [] := h
      exact .nil (n + 1)
    | some taken =>
      obtain ⟨item, rest⟩ := taken
      rw [takeItems_of_take htake] at h ⊢
      rw [bodyFault?_of_take hfirst htake] at hfault
      exact .cons hfirst htake (ih hfault h)

namespace Comprises

variable {items : List Item}

/-! A body in front of other lines: they have what is left of the limit. -/

/-- **The items of two parts** are those of the first and then those of the
second. -/
theorem takeItems_append (h : Comprises layout n front items) (back : List Line) :
    takeItems layout n (front ++ back)
      = (items ++ (takeItems layout (n - items.length) back).1,
          (takeItems layout (n - items.length) back).2) := by
  induction h with
  | nil n => rfl
  | cons hfault htake hrest ih =>
    rw [takeItems_of_take (Item.take?_append htake back), ih, List.length_cons,
        Nat.add_sub_add_right]
    rfl

/-- **The fault of two parts** is that of the second. -/
theorem bodyFault?_append (h : Comprises layout n front items) (back : List Line) :
    bodyFault? layout n (front ++ back) = bodyFault? layout (n - items.length) back := by
  induction h with
  | nil n => rfl
  | cons hfault htake hrest ih =>
    rw [bodyFault?_of_take ((Item.fault?_append htake back).trans hfault)
          (Item.take?_append htake back), ih, List.length_cons, Nat.add_sub_add_right]

/-- Reading two parts stops for the reason for which the second does. -/
theorem stop_append (h : Comprises layout n front items) (back : List Line) :
    stop layout n (front ++ back) = stop layout (n - items.length) back := by
  induction h with
  | nil n => rfl
  | cons hfault htake hrest ih =>
    rw [stop_of_take (Item.take?_append htake back), ih, List.length_cons, Nat.add_sub_add_right]

/-- A body has as many lines as its items take. -/
theorem length_eq (h : Comprises layout n front items) : front.length = sizes items := by
  induction h with
  | nil n => rfl
  | cons hfault htake hrest ih =>
    rw [← (Item.begins_of_take? htake).size_add_length, ih, sizes]

end Comprises

/-! ## §2. Two parts of a report. -/

/-- What comes of reading some lines behind others, of which `items` were read:
the fault of these lines alone, or the items and then those that are read of
these lines alone, with the same lines left. -/
inductive ReadOn (items : List Item) :
    (alone behind : Except Fault (Outcome Content)) → Prop
  /-- Neither has an outcome, and for the same reason. -/
  | fault (e : Fault) : ReadOn items (.error e) (.error e)
  /-- Both are read, and stop at the same lines for the same reason. -/
  | matched {version : Int} {more : List Item} {stop : LineParser.Stop} {next place : Cursor}
      (hleft : place.remaining = next.remaining) :
      ReadOn items (.ok (.matched ⟨version, ⟨more, stop⟩⟩ next))
        (.ok (.matched ⟨version, ⟨items ++ more, stop⟩⟩ place))

variable {header : Line} {digits : Text} {content : Content} {next : Cursor}

/-- A report with a right version line is read as its body says; what is taken
of the body does not depend on the limit that the layout names. -/
theorem ofLines_of_version (hk : 0 ≤ layout.indent) (hdigits : Version.ofLine? header = some digits)
    (hv : Text.ofDigits digits = 13) (limit : Int) (body : List Line) :
    ofLines { layout with itemLimit := limit } (header :: body)
      = match bodyFault? layout limit.toNat body with
        | some e => .error e
        | none => .ok (.matched
            ⟨protocolVersion, (takeItems layout limit.toNat body).1, stop layout limit.toNat body⟩
            ((Cursor.ofLines (header :: body)).forward
              (1 + sizes (takeItems layout limit.toNat body).1))) := by
  have hagree := layout.agreeOn_itemLimit limit body
  have hbody : body? (header :: body) = some body :=
    body?_eq_some_iff.mpr ⟨header, digits, rfl, hdigits, hv⟩
  have hread : ofLines { layout with itemLimit := limit } (header :: body) = _ :=
    read_of_body hk (c := Cursor.ofLines (header :: body)) rfl hbody
  rw [bodyFault?_of_agreeOn hagree (.inl rfl), takeItems_of_agreeOn hagree (.inl rfl),
      stop_of_agreeOn hagree (.inl rfl)] at hread
  exact hread

/-- What is left of a report after its items. -/
theorem remaining_after_items (header : Line) (body : List Line) (items : List Item) :
    ((Cursor.ofLines (header :: body)).forward (1 + sizes items)).remaining
      = body.drop (sizes items) := by
  rw [Cursor.remaining_forward, Cursor.remaining_ofLines, Nat.add_comm, List.drop_succ_cons]

/-- A report that is read to its last line has a body of its items. -/
theorem comprises_of_done (hk : 0 ≤ layout.indent)
    (h : ofLines layout (header :: front) = .ok (.matched content next))
    (hdone : next.isDone = .ok true) :
    content.version = protocolVersion
      ∧ Comprises layout layout.itemLimit.toNat front content.body.items := by
  obtain ⟨body, hbody, hfault, rfl, rfl⟩ := exists_of_matched hk rfl h
  obtain rfl : front = body := by
    obtain ⟨_, _, hlines, -, -⟩ := body?_eq_some_iff.mp hbody
    exact (List.cons.inj hlines).2
  -- done is to have no line left, and the lines left are those of the walk
  have hleft : (takeItems layout layout.itemLimit.toNat front).2 = [] := by
    rw [Cursor.isDone_eq_true_iff, Cursor.peek_of_top rfl, Except.ok.injEq,
        List.head?_eq_none_iff, remaining_after_items] at hdone
    rw [takeItems_snd_eq_drop, hdone]
  exact ⟨rfl, comprises_of_takeItems hfault hleft⟩

namespace Comprises

variable {items : List Item}

/-- Lines behind a body are read on as they are alone. -/
theorem readOn (hk : 0 ≤ layout.indent) (hdigits : Version.ofLine? header = some digits)
    (hv : Text.ofDigits digits = 13) (h : Comprises layout layout.itemLimit.toNat front items)
    (back : List Line) :
    ReadOn items (ofLines { layout with itemLimit := layout.itemLimit - items.length }
        (header :: back))
      (ofLines layout (header :: (front ++ back))) := by
  have hcount : (layout.itemLimit - items.length).toNat
      = layout.itemLimit.toNat - items.length := by omega
  have hbehind : ofLines layout (header :: (front ++ back)) = _ :=
    ofLines_of_version hk hdigits hv layout.itemLimit (front ++ back)
  rw [hbehind, ofLines_of_version hk hdigits hv, h.bodyFault?_append, h.takeItems_append,
      h.stop_append, hcount]
  cases bodyFault? layout (layout.itemLimit.toNat - items.length) back with
  | some e => exact .fault e
  | none =>
    refine .matched ?_
    rw [remaining_after_items, remaining_after_items, sizes_append, ← h.length_eq,
        ← List.drop_drop, List.drop_left]

/-- A line of no kind behind a body lets nothing more be read. -/
theorem ofLines_other (hk : 0 ≤ layout.indent) (hdigits : Version.ofLine? header = some digits)
    (hv : Text.ofDigits digits = 13) (h : Comprises layout layout.itemLimit.toNat front items)
    {line : Line} (hplan : Plan.ofLine? line = none) (hdiag : Diagnostic.ofLine? line = none)
    (htitle : TitleParts.ofLine? line = none) (more : List Line) :
    ∃ stop place, ofLines layout (header :: (front ++ line :: more))
        = .ok (.matched ⟨protocolVersion, ⟨items, stop⟩⟩ place)
      ∧ place.remaining = line :: more := by
  obtain ⟨htake, hfault⟩ : Item.take? layout (line :: more) = none
      ∧ Item.fault? layout (line :: more) = none :=
    Item.take?_fault?_of_other hplan hdiag htitle more
  have hread : ofLines layout (header :: (front ++ line :: more)) = _ :=
    ofLines_of_version hk hdigits hv layout.itemLimit (front ++ line :: more)
  -- whatever is left of the limit, nothing is taken at that line
  have hnone : ∀ m, bodyFault? layout m (line :: more) = none
      ∧ takeItems layout m (line :: more) = ([], line :: more) := by
    intro m
    cases m with
    | zero => exact ⟨rfl, rfl⟩
    | succ m => exact ⟨bodyFault?_of_take_none hfault htake, takeItems_of_take_none htake⟩
  obtain ⟨hbodyFault, htaken⟩ := hnone (layout.itemLimit.toNat - items.length)
  rw [h.bodyFault?_append, h.takeItems_append, hbodyFault, htaken, List.append_nil] at hread
  refine ⟨_, _, hread, ?_⟩
  rw [remaining_after_items, ← h.length_eq, List.drop_left]

end Comprises

/-- **The report of two parts.**  Where the lines of the first part are read to
the last one, other lines behind them are read on as they are alone, with what
is left of the limit; and a line that is neither a plan nor a diagnostic nor the
title of a test lets nothing more be read, whatever stands behind it. -/
theorem ofLines_append (hk : 0 ≤ layout.indent) (hdigits : Version.ofLine? header = some digits)
    (hv : Text.ofDigits digits = 13)
    (h : ofLines layout (header :: front) = .ok (.matched content next))
    (hdone : next.isDone = .ok true) :
    (∀ back : List Line, ReadOn content.body.items
        (ofLines { layout with itemLimit := layout.itemLimit - content.body.items.length }
          (header :: back))
        (ofLines layout (header :: (front ++ back))))
      ∧ ∀ (line : Line) (more : List Line), Plan.ofLine? line = none →
          Diagnostic.ofLine? line = none → TitleParts.ofLine? line = none →
          ∃ stop place, ofLines layout (header :: (front ++ line :: more))
              = .ok (.matched ⟨content.version, ⟨content.body.items, stop⟩⟩ place)
            ∧ place.remaining = line :: more := by
  obtain ⟨hversion, hbody⟩ := comprises_of_done hk h hdone
  refine ⟨hbody.readOn hk hdigits hv, ?_⟩
  intro line more hplan hdiag htitle
  rw [hversion]
  exact hbody.ofLines_other hk hdigits hv hplan hdiag htitle more

/-- A plan and a test, read within a limit of three items. -/
theorem ofLines_append_planAndTest :
    ∃ content next,
      (Version.ofLine? "TAP version 13".toList = some "13".toList ∧ Text.ofDigits "13".toList = 13
        ∧ ofLines ⟨2, 3, 10⟩ ("TAP version 13".toList
          :: ["1..2".toList, "ok 1".toList, "  ---".toList, "  ok 2".toList, "  ...".toList])
          = .ok (.matched content next)
        ∧ next.isDone = .ok true)
      ∧ ReadOn [.plan ⟨1, 2⟩, .test ⟨⟨true, none, some ['1'], none⟩, ["ok 2".toList]⟩]
        (ofLines ⟨2, 1, 10⟩ ["TAP version 13".toList, "# a".toList, "# b".toList])
        (ofLines ⟨2, 3, 10⟩ ["TAP version 13".toList, "1..2".toList, "ok 1".toList, "  ---".toList,
          "  ok 2".toList, "  ...".toList, "# a".toList, "# b".toList])
      ∧ ∃ stop place, ofLines ⟨2, 3, 10⟩ ["TAP version 13".toList, "1..2".toList, "ok 1".toList,
          "  ---".toList, "  ok 2".toList, "  ...".toList, "  ...".toList, "# c".toList]
          = .ok (.matched ⟨13, ⟨content.body.items, stop⟩⟩ place)
        ∧ place.remaining = ["  ...".toList, "# c".toList] := by
  have hdigits : Version.ofLine? "TAP version 13".toList = some "13".toList := by decide
  have hread : ofLines ⟨2, 3, 10⟩ ("TAP version 13".toList
      :: ["1..2".toList, "ok 1".toList, "  ---".toList, "  ok 2".toList, "  ...".toList])
      = .ok (.matched
          ⟨13, ⟨[.plan ⟨1, 2⟩, .test ⟨⟨true, none, some ['1'], none⟩, ["ok 2".toList]⟩], .atEnd⟩⟩
          ⟨#["TAP version 13".toList, "1..2".toList, "ok 1".toList, "  ---".toList, "  ok 2".toList,
            "  ...".toList], 6, 0, []⟩) := rfl
  obtain ⟨hbehind, hother⟩ := ofLines_append (by decide) hdigits (by decide) hread (by decide)
  exact ⟨_, _, ⟨hdigits, by decide, hread, by decide⟩, hbehind ["# a".toList, "# b".toList],
    hother "  ...".toList ["# c".toList] (by decide) (by decide) (by decide)⟩

end Report

end TapReport
