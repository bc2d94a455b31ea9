/-
  TapReport.Proofs.Data.JsonText
  ──────────────────────────────
  **A TREE IS KNOWN BY ITS TEXT.**

  Texts inside a tree may look like JSON themselves, escapes differ in length,
  and nothing but its end tells how long a numeral is.  All the same two trees
  with one text are one tree.  More is true, and it is what the induction needs:
  the text of a tree is told from that of any other whatever stands behind both,
  as long as no digit does (`Json.ToldApart`).

  Between quotes this comes from a way back: `Json.unescape?` gives the
  character that an escape was made from, and what stands behind the escape.

      Text.EndsNumeral       what a numeral can stand in front of
      Json.unescape?         the way back from an escape
      Json.kind              what the first character of a text tells
      Json.ToldApart         what is known by a text that others may follow
      Json.bracketed         lists and objects alike
      Json.breaks            the newlines of a layout

  Main results:
    * `Json.unescape?_escapeChar` — an escape has a way back.
    * `Json.quote_append_inj` — texts in quotes.
    * `Text.ofInt_append_inj` — numerals.
    * `Json.bracketed_append_inj` — lists and objects.
    * `Json.toText_inj` — trees.
    * `Json.count_newline_toText` — a text has only the newlines of its layout.
-/
import Mathlib.Algebra.Group.Nat.Defs
import TapReport.Proofs.Data.Json
import TapReport.Proofs.Line.Forms

namespace TapReport

/-! ## §1. Numerals. -/

namespace Text

/-- A text that a numeral can stand in front of: it does not begin with a
digit. -/
def EndsNumeral (t : Text) : Prop :=
  ∀ c ∈ t.head?, isDigit c = false

theorem endsNumeral_nil : EndsNumeral [] := by
  intro c hc
  exact absurd hc (by simp)

theorem endsNumeral_of_head? {t : Text} {c : Char} (h : t.head? = some c)
    (hc : isDigit c = false) : EndsNumeral t := by
  intro d hd
  obtain rfl : c = d := Option.some.inj (h.symm.trans hd)
  exact hc

variable {r s : Text}

/-- The digits before such a text are a run, and the text is what is left. -/
theorem span_isDigit_append {run : Text} (hrun : ∀ c ∈ run, isDigit c = true)
    (hr : r.EndsNumeral) :
    (run ++ r).takeWhile isDigit = run ∧ (run ++ r).dropWhile isDigit = r := by
  cases r with
  | nil =>
    have htake : (run ++ []).takeWhile isDigit = run ++ [] := List.takeWhile_append_of_pos hrun
    have hdrop : (run ++ []).dropWhile isDigit = [] := List.dropWhile_append_of_pos hrun
    exact ⟨htake.trans (List.append_nil run), hdrop⟩
  | cons c r =>
    have hc : isDigit c = false := hr c rfl
    exact ⟨takeWhile_isDigit_append hrun hc r, dropWhile_isDigit_append hrun hc r⟩

theorem ofNat_append_inj {m n : Nat} (hr : r.EndsNumeral) (hs : s.EndsNumeral)
    (h : ofNat m ++ r = ofNat n ++ s) : m = n ∧ r = s := by
  obtain ⟨hm, hrest⟩ := span_isDigit_append (isDigit_of_mem_ofNat m) hr
  obtain ⟨hn, hrest'⟩ := span_isDigit_append (isDigit_of_mem_ofNat n) hs
  rw [h] at hm hrest
  refine ⟨?_, hrest.symm.trans hrest'⟩
  rw [← ofDigits_ofNat m, ← hm, hn, ofDigits_ofNat]

theorem exists_ofNat_eq_cons (n : Nat) :
    ∃ c digits, ofNat n = c :: digits ∧ isDigit c = true := by
  obtain ⟨c, digits, hdigits⟩ := List.exists_cons_of_ne_nil (ofNat_ne_nil n)
  have hc : c ∈ ofNat n := by rw [hdigits]; exact List.mem_cons_self
  exact ⟨c, digits, hdigits, isDigit_of_mem_ofNat n c hc⟩

/-- A natural number is not written like a negative one. -/
theorem ofNat_append_ne (n : Nat) : ofNat n ++ r ≠ '-' :: s := by
  intro h
  obtain ⟨c, digits, hdigits, hc⟩ := exists_ofNat_eq_cons n
  rw [hdigits, List.cons_append] at h
  exact absurd (List.cons.inj h).1 (ne_of_isDigit hc (by decide))

/-- **Numerals** are told apart by their texts. -/
theorem ofInt_append_inj {m n : Int} (hr : r.EndsNumeral) (hs : s.EndsNumeral)
    (h : ofInt m ++ r = ofInt n ++ s) : m = n ∧ r = s := by
  cases m with
  | ofNat m =>
    cases n with
    | ofNat n =>
      obtain ⟨rfl, hrest⟩ := ofNat_append_inj hr hs h
      exact ⟨rfl, hrest⟩
    | negSucc n => exact absurd h (ofNat_append_ne m)
  | negSucc m =>
    cases n with
    | ofNat n => exact absurd h.symm (ofNat_append_ne n)
    | negSucc n =>
      obtain ⟨heq, hrest⟩ := ofNat_append_inj hr hs (List.cons.inj h).2
      rw [Nat.succ.inj heq]
      exact ⟨rfl, hrest⟩

/-! ## §2. Hexadecimal digits. -/

/-- The value of a hexadecimal digit in a small letter. -/
def hexValue (c : Char) : Nat :=
  if c.toNat < 58 then c.toNat - 48 else c.toNat - 87

/-- The number that hexadecimal digits denote. -/
def readHex (digits : Text) : Nat :=
  digits.foldl (fun n c => 16 * n + hexValue c) 0

theorem hexValue_digitChar {d : Nat} (h : d < 16) : hexValue (Nat.digitChar d) = d := by
  have hall : ∀ d < 16, hexValue (Nat.digitChar d) = d := by decide
  exact hall d h

/-- A number that is wide enough reads back. -/
theorem readHex_ofHex {width n : Nat} (h : n < 16 ^ width) : readHex (ofHex width n) = n := by
  induction width generalizing n with
  | zero =>
    rw [Nat.pow_zero] at h
    exact (Nat.lt_one_iff.mp h).symm
  | succ width ih =>
    have hhigh : n / 16 < 16 ^ width := by
      rw [Nat.pow_succ] at h
      omega
    have hlow := hexValue_digitChar (Nat.mod_lt n (by decide : 0 < 16))
    show (ofHex width (n / 16) ++ [Nat.digitChar (n % 16)]).foldl _ 0 = n
    rw [List.foldl_append]
    show 16 * readHex (ofHex width (n / 16)) + hexValue (Nat.digitChar (n % 16)) = n
    rw [ih hhigh, hlow]
    omega

end Text

/-! ## §3. Texts in quotes. -/

namespace Json

/-- The character that is written as a backslash and a letter. -/
def ofLetter (c : Char) : Char :=
  if c = 'n' then '\n'
  else if c = 'r' then '\r'
  else if c = 't' then '\t'
  else if c = 'f' then Char.ofNat 12
  else if c = 'b' then Char.ofNat 8
  else c

/-- The character that is written as a pair of units. -/
def ofPair (high low : Nat) : Char :=
  Char.ofNat (0x10000 + (high - 0xD800) * 0x400 + (low - 0xDC00))

/-- The character of the unit that a text begins with, and of the one after it
if the first is half of a pair; and what follows. -/
def ofUnits (t : Text) : Char × Text :=
  if 0xD800 ≤ Text.readHex (t.take 4) ∧ Text.readHex (t.take 4) < 0xDC00 then
    (ofPair (Text.readHex (t.take 4)) (Text.readHex (((t.drop 4).drop 2).take 4)),
      ((t.drop 4).drop 2).drop 4)
  else (Char.ofNat (Text.readHex (t.take 4)), t.drop 4)

/-- The character that a text begins with, escaped or not, and what follows. -/
def unescape? (t : Text) : Option (Char × Text) :=
  match t with
  | [] => none
  | c :: t =>
    if c = '\\' then
      match t with
      | [] => none
      | letter :: t => some (if letter = 'u' then ofUnits t else (ofLetter letter, t))
    else some (c, t)

/-- One unit that is no half of a pair. -/
theorem ofUnits_ofHex {n : Nat} (hn : n < 0x10000) (hhalf : ¬ (0xD800 ≤ n ∧ n < 0xDC00))
    (t : Text) : ofUnits (Text.ofHex 4 n ++ t) = (Char.ofNat n, t) := by
  have hlength : (Text.ofHex 4 n).length = 4 := Text.length_ofHex 4 n
  have hread : Text.readHex (Text.ofHex 4 n) = n := Text.readHex_ofHex hn
  unfold ofUnits
  rw [List.take_left' hlength, List.drop_left' hlength, hread, if_neg hhalf]

/-- Two units that are a pair. -/
theorem ofUnits_ofHex_pair {m n : Nat} (hm : m < 0x400) (hn : n < 0x400) (t : Text) :
    ofUnits (Text.ofHex 4 (0xD800 + m) ++ (escapeUnit (0xDC00 + n) ++ t))
      = (Char.ofNat (0x10000 + m * 0x400 + n), t) := by
  have hlength : ∀ n, (Text.ofHex 4 n).length = 4 := Text.length_ofHex 4
  have hfirst : Text.readHex (Text.ofHex 4 (0xD800 + m)) = 0xD800 + m :=
    Text.readHex_ofHex (by omega)
  have hsecond : Text.readHex (Text.ofHex 4 (0xDC00 + n)) = 0xDC00 + n :=
    Text.readHex_ofHex (by omega)
  have hmark : (escapeUnit (0xDC00 + n) ++ t).drop 2 = Text.ofHex 4 (0xDC00 + n) ++ t := rfl
  unfold ofUnits ofPair
  rw [List.take_left' (hlength _), List.drop_left' (hlength _), hfirst, if_pos (by omega), hmark,
      List.take_left' (hlength _), List.drop_left' (hlength _), hsecond, Nat.add_sub_cancel_left,
      Nat.add_sub_cancel_left]

theorem unescape?_escapeUnit (n : Nat) (t : Text) :
    unescape? (escapeUnit n ++ t) = some (ofUnits (Text.ofHex 4 n ++ t)) := by
  rw [escapeUnit, List.cons_append, List.cons_append, unescape?, if_pos rfl]
  simp only [if_true]

/-- **An escape has a way back.** -/
theorem unescape?_escapeChar (c : Char) (t : Text) :
    unescape? (escapeChar c ++ t) = some (c, t) := by
  have hback : Char.ofNat c.toNat = c := Char.ofNat_toNat c
  unfold escapeChar
  iterate 5
    split
    · next h => subst h; rfl
  split
  · next h => rw [← hback, h]; rfl
  split
  · next h => rw [← hback, h]; rfl
  split
  · next hslash _ _ _ _ _ _ =>
    show (if c = '\\' then _ else some (c, t)) = _
    rw [if_neg hslash]
  split
  · next hsmall =>
    -- a character is no half of a pair
    have hvalid : c.toNat < 0xD800 ∨ 0xDFFF < c.toNat ∧ c.toNat < 0x110000 := c.valid
    rw [unescape?_escapeUnit, ofUnits_ofHex hsmall (by omega), hback]
  · next hlarge =>
    have hvalid : c.toNat < 0xD800 ∨ 0xDFFF < c.toNat ∧ c.toNat < 0x110000 := c.valid
    rw [List.append_assoc, unescape?_escapeUnit,
        ofUnits_ofHex_pair (by omega) (Nat.mod_lt _ (by decide))]
    have hsum : 0x10000 + (c.toNat - 0x10000) / 0x400 * 0x400 + (c.toNat - 0x10000) % 0x400
        = c.toNat := by omega
    rw [hsum, hback]

theorem escapeChar_append_inj {c d : Char} {r s : Text}
    (h : escapeChar c ++ r = escapeChar d ++ s) : c = d ∧ r = s := by
  have hback := unescape?_escapeChar c r
  rw [h, unescape?_escapeChar] at hback
  obtain ⟨hchar, hrest⟩ := Prod.mk.inj (Option.some.inj hback)
  exact ⟨hchar.symm, hrest.symm⟩

/-- A quote inside is escaped, so it is not the one that closes. -/
theorem escapeChar_append_ne (c : Char) (r s : Text) : escapeChar c ++ r ≠ '"' :: s := by
  intro h
  have hback := unescape?_escapeChar c r
  rw [h] at hback
  obtain ⟨rfl, -⟩ := Prod.mk.inj (Option.some.inj hback)
  exact absurd (List.cons.inj h).1 (by decide)

/-- **Texts in quotes** are told apart, whatever they hold. -/
theorem quote_append_inj {t u r s : Text} (h : quote t ++ r = quote u ++ s) : t = u ∧ r = s := by
  have hclosed : t.flatMap escapeChar ++ '"' :: r = u.flatMap escapeChar ++ '"' :: s := by
    simpa [quote] using h
  clear h
  induction t generalizing u with
  | nil =>
    cases u with
    | nil => exact ⟨rfl, (List.cons.inj hclosed).2⟩
    | cons d u =>
      rw [List.flatMap_cons, List.append_assoc] at hclosed
      exact absurd hclosed.symm (escapeChar_append_ne d _ _)
  | cons c t ih =>
    rw [List.flatMap_cons, List.append_assoc] at hclosed
    cases u with
    | nil => exact absurd hclosed (escapeChar_append_ne c _ _)
    | cons d u =>
      rw [List.flatMap_cons, List.append_assoc] at hclosed
      obtain ⟨rfl, hrest⟩ := escapeChar_append_inj hclosed
      obtain ⟨rfl, hbehind⟩ := ih hrest
      exact ⟨rfl, hbehind⟩

/-! ## §4. What the first character tells. -/

/-- The kinds of trees. -/
inductive Kind where
  /-- Nothing. -/
  | null
  /-- One of the truth values. -/
  | bool (b : Bool)
  /-- An integer. -/
  | int
  /-- A text. -/
  | text
  /-- A list. -/
  | array
  /-- Named trees. -/
  | object
  deriving DecidableEq, Repr

/-- The kind of a tree. -/
def kind : Json → Kind
  | .null => .null
  | .bool b => .bool b
  | .int _ => .int
  | .text _ => .text
  | .array _ => .array
  | .object _ => .object

/-- The kind of the tree whose text begins with a character. -/
def Kind.ofLead (lead : Char) : Kind :=
  if lead = 'n' then .null
  else if lead = 't' then .bool true
  else if lead = 'f' then .bool false
  else if lead = '"' then .text
  else if lead = '[' then .array
  else if lead = '\x7b' then .object
  else .int

theorem Kind.ofLead_of_isDigit {lead : Char} (h : Text.isDigit lead = true) :
    ofLead lead = .int := by
  have hne : ∀ c, Text.isDigit c = false → lead ≠ c := fun _ => Text.ne_of_isDigit h
  unfold ofLead
  rw [if_neg (hne 'n' (by decide)), if_neg (hne 't' (by decide)), if_neg (hne 'f' (by decide)),
      if_neg (hne '"' (by decide)), if_neg (hne '[' (by decide)), if_neg (hne '\x7b' (by decide))]

theorem Kind.ofLead_ofInt (n : Int) (t : Text) :
    (Text.ofInt n ++ t).head?.map ofLead = some .int := by
  cases n with
  | negSucc n => rfl
  | ofNat n =>
    obtain ⟨c, digits, hdigits, hc⟩ := Text.exists_ofNat_eq_cons n
    rw [Text.ofInt, hdigits]
    exact congrArg some (ofLead_of_isDigit hc)

/-- **The first character tells the kind** of a tree. -/
theorem ofLead_render (depth : Nat) (tree : Json) (t : Text) :
    (render depth tree ++ t).head?.map Kind.ofLead = some tree.kind := by
  cases tree with
  | null => rfl
  | bool b => cases b <;> rfl
  | int n => rw [render]; exact Kind.ofLead_ofInt n t
  | text u => rw [render]; rfl
  | array items => cases items <;> rw [render] <;> rfl
  | object entries => cases entries <;> rw [render] <;> rfl

theorem kind_eq_of_render {depth : Nat} {tree other : Json} {r s : Text}
    (h : render depth tree ++ r = render depth other ++ s) : tree.kind = other.kind := by
  have hlead := ofLead_render depth tree r
  rw [h, ofLead_render] at hlead
  exact (Option.some.inj hlead).symm

/-! ## §5. Lists in brackets. -/

section Brackets

variable {α : Type} {f : α → Text} {x : α} {xs ys : List α} {depth : Nat} {r s : Text}

/-- What a text is made from is known by it, whatever follows that is no
digit. -/
def ToldApart (f : α → Text) (x : α) : Prop :=
  ∀ (y : α) (r s : Text), r.EndsNumeral → s.EndsNumeral → f x ++ r = f y ++ s → x = y ∧ r = s

/-- The further members of a list, each on a line of its own. -/
def further (depth : Nat) (f : α → Text) (xs : List α) : Text :=
  xs.flatMap fun x => ',' :: newLine depth ++ f x

/-- The members of a list in brackets, each on a line of its own. -/
def bracketed (opening closing : Char) (depth : Nat) (f : α → Text) : List α → Text
  | [] => [opening, closing]
  | x :: xs =>
    opening :: newLine (depth + 1) ++ f x ++ further (depth + 1) f xs ++ newLine depth ++ [closing]

theorem further_cons_append :
    further depth f (x :: xs) ++ r
      = ',' :: newLine depth ++ (f x ++ (further depth f xs ++ r)) := by
  simp [further]

/-- After a member comes a comma or the line that closes. -/
theorem endsNumeral_further (xs : List α) (r : Text) :
    (further depth f xs ++ '\n' :: r).EndsNumeral := by
  cases xs with
  | nil => exact Text.endsNumeral_of_head? rfl (by decide)
  | cons x xs => exact Text.endsNumeral_of_head? rfl (by decide)

/-- **A list is told apart** if its members are: a comma or a new line tells
whether it goes on. -/
theorem further_append_inj (hxs : ∀ x ∈ xs, ToldApart f x)
    (h : further depth f xs ++ '\n' :: r = further depth f ys ++ '\n' :: s) : xs = ys ∧ r = s := by
  induction xs generalizing ys with
  | nil =>
    cases ys with
    | nil => exact ⟨rfl, (List.cons.inj h).2⟩
    | cons y ys => exact absurd (List.cons.inj h).1 (by decide)
  | cons x xs ih =>
    obtain ⟨hx, hmore⟩ := List.forall_mem_cons.mp hxs
    cases ys with
    | nil => exact absurd (List.cons.inj h).1 (by decide)
    | cons y ys =>
      rw [further_cons_append, further_cons_append] at h
      obtain ⟨rfl, hrest⟩ := hx _ _ _ (endsNumeral_further xs r) (endsNumeral_further ys s)
        (List.append_cancel_left h)
      obtain ⟨rfl, hbehind⟩ := ih hmore hrest
      exact ⟨rfl, hbehind⟩

variable {opening closing : Char}

/-- With a comma for the bracket, what stands inside is like further members. -/
theorem comma_tail_bracketed :
    ',' :: (bracketed opening closing depth f (x :: xs) ++ r).tail
      = further (depth + 1) f (x :: xs)
        ++ '\n' :: (List.replicate (2 * depth) ' ' ++ closing :: r) := by
  simp [bracketed, further, newLine]

/-- **Lists in brackets are told apart**, the empty list too. -/
theorem bracketed_append_inj (hclosing : closing ≠ '\n') (hxs : ∀ x ∈ xs, ToldApart f x)
    (h : bracketed opening closing depth f xs ++ r = bracketed opening closing depth f ys ++ s) :
    xs = ys ∧ r = s := by
  cases xs with
  | nil =>
    cases ys with
    | nil => exact ⟨rfl, List.append_cancel_left h⟩
    | cons y ys => exact absurd (List.cons.inj (List.cons.inj h).2).1 hclosing
  | cons x xs =>
    cases ys with
    | nil => exact absurd (List.cons.inj (List.cons.inj h).2).1.symm hclosing
    | cons y ys =>
      have hinside := congrArg (fun t => ',' :: t.tail) h
      simp only [comma_tail_bracketed] at hinside
      obtain ⟨heq, hclose⟩ := further_append_inj hxs hinside
      rw [heq]
      exact ⟨rfl, (List.cons.inj (List.append_cancel_left hclose)).2⟩

end Brackets

/-! ## §6. Trees. -/

/-- What holds of a tree if it holds of the trees in it holds of all trees. -/
@[elab_as_elim]
theorem induct {motive : Json → Prop} (null : motive .null) (bool : ∀ b, motive (.bool b))
    (int : ∀ n, motive (.int n)) (text : ∀ t, motive (.text t))
    (array : ∀ items, (∀ item ∈ items, motive item) → motive (.array items))
    (object : ∀ entries, (∀ entry ∈ entries, motive entry.2) → motive (.object entries))
    (tree : Json) : motive tree := by
  refine Json.rec (motive_1 := motive) (motive_2 := fun items => ∀ item ∈ items, motive item)
    (motive_3 := fun entries => ∀ entry ∈ entries, motive entry.2)
    (motive_4 := fun entry => motive entry.2) null bool int text array object
    ?noItem ?item ?noEntry ?entry ?tree tree
  case noItem => exact fun item hitem => absurd hitem List.not_mem_nil
  case item => exact fun item items hitem hitems => List.forall_mem_cons.mpr ⟨hitem, hitems⟩
  case noEntry => exact fun entry hentry => absurd hentry List.not_mem_nil
  case entry =>
    exact fun entry entries hentry hentries => List.forall_mem_cons.mpr ⟨hentry, hentries⟩
  case tree => exact fun key tree htree => htree

/-- A tree is known by its text at any depth. -/
def Legible (tree : Json) : Prop :=
  ∀ depth, ToldApart (render depth) tree

theorem legible_null : Legible .null := by
  intro depth other r s _ _ h
  cases other with
  | null => exact ⟨rfl, List.append_cancel_left h⟩
  | _ => exact absurd (kind_eq_of_render h) (by simp [kind])

theorem legible_bool (b : Bool) : Legible (.bool b) := by
  intro depth other r s _ _ h
  cases other with
  | bool b' =>
    obtain rfl : b = b' := Kind.bool.inj (kind_eq_of_render h)
    exact ⟨rfl, List.append_cancel_left h⟩
  | _ => exact absurd (kind_eq_of_render h) (by simp [kind])

theorem legible_int (n : Int) : Legible (.int n) := by
  intro depth other r s hr hs h
  cases other with
  | int m =>
    rw [render, render] at h
    obtain ⟨rfl, hrest⟩ := Text.ofInt_append_inj hr hs h
    exact ⟨rfl, hrest⟩
  | _ => exact absurd (kind_eq_of_render h) (by simp [kind])

theorem legible_text (t : Text) : Legible (.text t) := by
  intro depth other r s _ _ h
  cases other with
  | text u =>
    rw [render, render] at h
    obtain ⟨rfl, hrest⟩ := quote_append_inj h
    exact ⟨rfl, hrest⟩
  | _ => exact absurd (kind_eq_of_render h) (by simp [kind])

theorem renderItems_eq_further (depth : Nat) (items : List Json) :
    renderItems depth items = further depth (render depth) items := by
  induction items with
  | nil => rw [renderItems]; rfl
  | cons item items ih => rw [renderItems, ih]; simp [further]

theorem render_array (depth : Nat) (items : List Json) :
    render depth (.array items) = bracketed '[' ']' depth (render (depth + 1)) items := by
  cases items with
  | nil => rw [render]; rfl
  | cons item items => rw [render, renderItems_eq_further]; rfl

theorem legible_array {items : List Json} (hitems : ∀ item ∈ items, Legible item) :
    Legible (.array items) := by
  intro depth other r s _ _ h
  cases other with
  | array others =>
    rw [render_array, render_array] at h
    obtain ⟨rfl, hrest⟩ := bracketed_append_inj (by decide)
      (fun item hitem => hitems item hitem (depth + 1)) h
    exact ⟨rfl, hrest⟩
  | _ => exact absurd (kind_eq_of_render h) (by simp [kind])

/-- The text of an entry. -/
def renderEntry (depth : Nat) (entry : Text × Json) : Text :=
  quote entry.1 ++ ": ".toList ++ render depth entry.2

theorem Legible.toldApart_entry {tree : Json} (h : tree.Legible) (depth : Nat) (key : Text) :
    ToldApart (renderEntry depth) (key, tree) := by
  intro (key', tree') r s hr hs heq
  simp only [renderEntry, List.append_assoc] at heq
  obtain ⟨rfl, hcolon⟩ := quote_append_inj heq
  obtain ⟨rfl, hrest⟩ := h depth tree' r s hr hs (List.append_cancel_left hcolon)
  exact ⟨rfl, hrest⟩

theorem renderEntries_eq_further (depth : Nat) (entries : List (Text × Json)) :
    renderEntries depth entries = further depth (renderEntry depth) entries := by
  induction entries with
  | nil => rw [renderEntries]; rfl
  | cons entry entries ih => rw [renderEntries, ih]; simp [further, renderEntry]

theorem render_object (depth : Nat) (entries : List (Text × Json)) :
    render depth (.object entries)
      = bracketed '\x7b' '\x7d' depth (renderEntry (depth + 1)) entries := by
  cases entries with
  | nil => rw [render]; rfl
  | cons entry entries =>
    rw [render, renderEntries_eq_further]
    simp [bracketed, renderEntry]

theorem legible_object {entries : List (Text × Json)}
    (hentries : ∀ entry ∈ entries, Legible entry.2) : Legible (.object entries) := by
  intro depth other r s _ _ h
  cases other with
  | object others =>
    rw [render_object, render_object] at h
    obtain ⟨rfl, hrest⟩ := bracketed_append_inj (by decide)
      (fun entry hentry => (hentries entry hentry).toldApart_entry (depth + 1) entry.1) h
    exact ⟨rfl, hrest⟩
  | _ => exact absurd (kind_eq_of_render h) (by simp [kind])

/-- **Every tree is told from any other by its text.** -/
theorem legible (tree : Json) : tree.Legible := by
  induction tree using Json.induct with
  | null => exact legible_null
  | bool b => exact legible_bool b
  | int n => exact legible_int n
  | text t => exact legible_text t
  | array items ih => exact legible_array ih
  | object entries ih => exact legible_object ih

/-- **A tree is known by its text.** -/
theorem toText_inj {tree other : Json} : tree.toText = other.toText ↔ tree = other := by
  constructor
  · intro h
    have happend : render 0 tree ++ [] = render 0 other ++ [] := congrArg (· ++ []) h
    exact (tree.legible 0 other [] [] Text.endsNumeral_nil Text.endsNumeral_nil happend).1
  · exact congrArg toText

/-! ## §7. The newlines of a layout. -/

mutual

/-- How many lines the layout of a tree begins after its first: one for each
item or entry of a list or an object that is not empty, and one to close it. -/
def breaks : Json → Nat
  | .array (item :: items) => 1 + item.breaks + breaksOfItems items + 1
  | .object ((_, tree) :: entries) => 1 + tree.breaks + breaksOfEntries entries + 1
  | _ => 0

/-- How many lines further items begin. -/
def breaksOfItems : List Json → Nat
  | [] => 0
  | item :: items => 1 + item.breaks + breaksOfItems items

/-- How many lines further entries begin. -/
def breaksOfEntries : List (Text × Json) → Nat
  | [] => 0
  | (_, tree) :: entries => 1 + tree.breaks + breaksOfEntries entries

end

theorem newline_notMem_quote (t : Text) : '\n' ∉ quote t := by
  have hescaped : '\n' ∉ t.flatMap escapeChar := by
    intro h
    obtain ⟨c, -, hc⟩ := List.mem_flatMap.mp h
    exact absurd (escapeChar_isAscii c '\n' hc) (by decide)
  simp [quote, hescaped]

@[simp] theorem count_newline_quote (t : Text) : (quote t).count '\n' = 0 :=
  List.count_eq_zero.mpr (newline_notMem_quote t)

@[simp] theorem count_newline_ofInt (n : Int) : (Text.ofInt n).count '\n' = 0 :=
  List.count_eq_zero.mpr (Text.newline_notMem_ofInt n)

@[simp] theorem count_newline_newLine (depth : Nat) : (newLine depth).count '\n' = 1 := by
  have hblanks : (List.replicate (2 * depth) ' ').count '\n' = 0 := by
    simp [List.count_replicate]
  rw [newLine, List.count_cons_self, hblanks]

mutual

/-- **The newlines of a text are those of its layout**: none comes from a text
inside. -/
theorem count_newline_render (depth : Nat) :
    (tree : Json) → (render depth tree).count '\n' = tree.breaks
  | .null => by simp [render, breaks]
  | .bool true => by simp [render, breaks]
  | .bool false => by simp [render, breaks]
  | .int n => by simp [render, breaks]
  | .text t => by simp [render, breaks]
  | .array [] => by simp [breaks]
  | .array (item :: items) => by
    simp [render, breaks, Nat.add_assoc, count_newline_render (depth + 1) item,
      count_newline_renderItems (depth + 1) items]
  | .object [] => by simp [breaks]
  | .object ((key, tree) :: entries) => by
    simp [render, breaks, Nat.add_assoc, count_newline_render (depth + 1) tree,
      count_newline_renderEntries (depth + 1) entries]

theorem count_newline_renderItems (depth : Nat) :
    (items : List Json) → (renderItems depth items).count '\n' = breaksOfItems items
  | [] => by simp [renderItems, breaksOfItems]
  | item :: items => by
    simp [renderItems, breaksOfItems, Nat.add_assoc, count_newline_render depth item,
      count_newline_renderItems depth items]

theorem count_newline_renderEntries (depth : Nat) :
    (entries : List (Text × Json)) →
      (renderEntries depth entries).count '\n' = breaksOfEntries entries
  | [] => by simp [renderEntries, breaksOfEntries]
  | (key, tree) :: entries => by
    simp [renderEntries, breaksOfEntries, Nat.add_assoc, count_newline_render depth tree,
      count_newline_renderEntries depth entries]

end

theorem count_newline_toText (tree : Json) : tree.toText.count '\n' = tree.breaks :=
  count_newline_render 0 tree

end Json

end TapReport
