/-
  TapReport.Proofs.Line.Pattern
  ─────────────────────────────
  **PATTERNS, AND THE READING THAT COMES FIRST.**

  A pattern says what a text looks like, and a text may fit it in several
  ways.  A search tries them in a fixed order: a run of characters is as long
  as it can be before it is shorter, an optional part is there before it is
  left out, and the first of two alternatives comes before the second.  The
  first way that leaves nothing over tells what the groups hold.

      Pattern.Spells     the texts that fit, whichever way
      Pattern.readings   the ways to read the beginning of a text, in order
      Pattern.whole?     the groups of the first way to read the whole text

  Main results:
    * `Pattern.spells_of_mem_readings`, `Pattern.exists_reading` — the search
      finds the ways there are and no others.
    * `Pattern.whole?_isSome_iff` — so a text is read exactly if it fits.
    * `Pattern.whole?_of_first?` — where the way that is tried first leaves
      nothing over, it is the one that counts.
-/
import TapReport.Text.Basic

namespace TapReport

/-! ## §1. Patterns and what they spell. -/

/-- What a text looks like. -/
inductive Pattern where
  /-- This text. -/
  | text (t : Text)
  /-- Characters of a class, and at least so many. -/
  | run (least : Nat) (p : Char → Bool)
  /-- A part that may be absent. -/
  | optional (p : Pattern)
  /-- One of two. -/
  | either (p q : Pattern)
  /-- A part that is to be told. -/
  | group (p : Pattern)
  /-- Two parts in order. -/
  | seq (p q : Pattern)

namespace Pattern

/-- The texts that fit a pattern. -/
def Spells : Pattern → Text → Prop
  | text u, t => t = u
  | run least p, t => least ≤ t.length ∧ ∀ c ∈ t, p c = true
  | optional p, t => t = [] ∨ p.Spells t
  | either p q, t => p.Spells t ∨ q.Spells t
  | group p, t => p.Spells t
  | seq p q, t => ∃ u v, t = u ++ v ∧ p.Spells u ∧ q.Spells v

/-! ## §2. Readings in order of preference. -/

/-- One way to read the beginning of a text. -/
structure Reading where
  /-- What is read. -/
  read : Text
  /-- What the groups hold; a group that took no part holds nothing. -/
  groups : List (Option Text)
  /-- What is left over. -/
  rest : Text
  deriving DecidableEq, Repr

/-- A way to read a text, and one to read what that leaves over. -/
def Reading.andThen (a b : Reading) : Reading :=
  ⟨a.read ++ b.read, a.groups ++ b.groups, b.rest⟩

/-- A way to read a text that is told. -/
def Reading.told (a : Reading) : Reading :=
  { a with groups := some a.read :: a.groups }

/-- A way to read a text, between groups that take no part. -/
def Reading.between (a : Reading) (before after : List (Option Text)) : Reading :=
  { a with groups := before ++ a.groups ++ after }

/-- The groups of a pattern, where it takes no part. -/
def unset : Pattern → List (Option Text)
  | text _ | run _ _ => []
  | optional p => p.unset
  | either p q | seq p q => p.unset ++ q.unset
  | group p => none :: p.unset

/-- The ways to cut a run of a class off a text, the longest first. -/
def runs (p : Char → Bool) : Text → List (Text × Text)
  | [] => [([], [])]
  | c :: t =>
    (if p c then (runs p t).map fun (front, rest) => (c :: front, rest) else []) ++ [([], c :: t)]

/-- The ways to read the beginning of a text, in the order of the search. -/
def readings : Pattern → Text → List Reading
  | text u, t => ((Text.after? u t).map fun rest => ⟨u, [], rest⟩).toList
  | run least p, t =>
    ((runs p t).filter fun (front, _) => least ≤ front.length).map fun (front, rest) =>
      ⟨front, [], rest⟩
  | optional p, t => p.readings t ++ [⟨[], p.unset, t⟩]
  | either p q, t =>
    (p.readings t).map (·.between [] q.unset) ++ (q.readings t).map (·.between p.unset [])
  | group p, t => (p.readings t).map Reading.told
  | seq p q, t => (p.readings t).flatMap fun a => (q.readings a.rest).map a.andThen

/-- The groups of the first way to read a whole text. -/
def whole? (p : Pattern) (t : Text) : Option (List (Option Text)) :=
  ((p.readings t).find? (·.rest.isEmpty)).map Reading.groups

variable {p q : Pattern} {t u : Text} {a b : Reading}

/-! ## §3. The search finds all ways and no others. -/

theorem mem_runs_iff {p : Char → Bool} {front rest : Text} :
    (front, rest) ∈ runs p t ↔ t = front ++ rest ∧ ∀ c ∈ front, p c = true := by
  -- induction on the text, as `runs` recurs: a run is empty or begins with
  -- the first character
  induction t generalizing front with
  | nil =>
    rw [runs, List.mem_singleton, Prod.mk.injEq]
    constructor
    · rintro ⟨rfl, rfl⟩
      exact ⟨rfl, by simp⟩
    · rintro ⟨h, -⟩
      exact List.append_eq_nil_iff.mp h.symm
  | cons c t ih =>
    rw [runs, List.mem_append, List.mem_singleton, Prod.mk.injEq]
    constructor
    · rintro (h | ⟨rfl, rfl⟩)
      · split at h
        · next hc =>
          obtain ⟨⟨front', rest'⟩, hmem, heq⟩ := List.mem_map.mp h
          obtain ⟨rfl, rfl⟩ := Prod.mk.inj heq
          obtain ⟨rfl, hall⟩ := ih.mp hmem
          exact ⟨rfl, List.forall_mem_cons.mpr ⟨hc, hall⟩⟩
        · exact absurd h List.not_mem_nil
      · exact ⟨rfl, by simp⟩
    · rintro ⟨h, hall⟩
      cases front with
      | nil => exact .inr ⟨rfl, h.symm⟩
      | cons d front =>
        obtain ⟨rfl, rfl⟩ := List.cons.inj h
        obtain ⟨hc, hall⟩ := List.forall_mem_cons.mp hall
        rw [if_pos hc]
        exact .inl (List.mem_map.mpr ⟨(front, rest), ih.mpr ⟨rfl, hall⟩, rfl⟩)

/-- **What is read is a beginning that fits.** -/
theorem spells_of_mem_readings (h : a ∈ p.readings t) :
    t = a.read ++ a.rest ∧ p.Spells a.read := by
  -- induction on the pattern: each way comes from ways to read its parts
  induction p generalizing t a with
  | text u =>
    rw [readings, Option.mem_toList, Option.map_eq_some_iff] at h
    obtain ⟨rest, hrest, rfl⟩ := h
    exact ⟨Text.after?_eq_some_iff.mp hrest, rfl⟩
  | run least p =>
    rw [readings, List.mem_map] at h
    obtain ⟨⟨front, rest⟩, hmem, rfl⟩ := h
    obtain ⟨hrun, hleast⟩ := List.mem_filter.mp hmem
    obtain ⟨rfl, hall⟩ := mem_runs_iff.mp hrun
    exact ⟨rfl, by simpa using hleast, hall⟩
  | optional p ih =>
    rw [readings, List.mem_append, List.mem_singleton] at h
    rcases h with h | rfl
    · exact ⟨(ih h).1, .inr (ih h).2⟩
    · exact ⟨rfl, .inl rfl⟩
  | either p q ihp ihq =>
    rw [readings, List.mem_append, List.mem_map, List.mem_map] at h
    rcases h with ⟨a, h, rfl⟩ | ⟨a, h, rfl⟩
    · exact ⟨(ihp h).1, .inl (ihp h).2⟩
    · exact ⟨(ihq h).1, .inr (ihq h).2⟩
  | group p ih =>
    rw [readings, List.mem_map] at h
    obtain ⟨a, h, rfl⟩ := h
    exact ⟨(ih h).1, (ih h).2⟩
  | seq p q ihp ihq =>
    rw [readings, List.mem_flatMap] at h
    obtain ⟨a, ha, h⟩ := h
    obtain ⟨b, hb, rfl⟩ := List.mem_map.mp h
    obtain ⟨hta, hpa⟩ := ihp ha
    obtain ⟨htb, hqb⟩ := ihq hb
    refine ⟨?_, a.read, b.read, rfl, hpa, hqb⟩
    rw [hta, htb, ← List.append_assoc]
    rfl

/-- **Every beginning that fits is read.** -/
theorem exists_reading (h : p.Spells u) (rest : Text) :
    ∃ a ∈ p.readings (u ++ rest), a.read = u ∧ a.rest = rest := by
  induction p generalizing u rest with
  | text v =>
    obtain rfl : u = v := h
    refine ⟨⟨u, [], rest⟩, ?_, rfl, rfl⟩
    rw [readings, Text.after?_eq_some_iff.mpr rfl]
    exact List.mem_singleton_self _
  | run least p =>
    refine ⟨⟨u, [], rest⟩, ?_, rfl, rfl⟩
    have hmem : (u, rest) ∈ runs p (u ++ rest) := mem_runs_iff.mpr ⟨rfl, h.2⟩
    rw [readings, List.mem_map]
    exact ⟨(u, rest), List.mem_filter.mpr ⟨hmem, by simpa using h.1⟩, rfl⟩
  | optional p ih =>
    rcases h with rfl | h
    · exact ⟨_, List.mem_append_right _ (List.mem_singleton_self _), rfl, rfl⟩
    · obtain ⟨a, ha, hread⟩ := ih h rest
      exact ⟨a, List.mem_append_left _ ha, hread⟩
  | either p q ihp ihq =>
    rcases h with h | h
    · obtain ⟨a, ha, hread⟩ := ihp h rest
      exact ⟨_, List.mem_append_left _ (List.mem_map_of_mem ha), hread⟩
    · obtain ⟨a, ha, hread⟩ := ihq h rest
      exact ⟨_, List.mem_append_right _ (List.mem_map_of_mem ha), hread⟩
  | group p ih =>
    obtain ⟨a, ha, hread⟩ := ih h rest
    exact ⟨_, List.mem_map_of_mem ha, hread⟩
  | seq p q ihp ihq =>
    obtain ⟨v, w, rfl, hv, hw⟩ := h
    obtain ⟨a, ha, hav, harest⟩ := ihp hv (w ++ rest)
    obtain ⟨b, hb, hbw, hbrest⟩ := ihq hw rest
    rw [← List.append_assoc] at ha
    rw [← harest] at hb
    refine ⟨a.andThen b, List.mem_flatMap.mpr ⟨a, ha, List.mem_map_of_mem hb⟩, ?_, hbrest⟩
    show a.read ++ b.read = v ++ w
    rw [hav, hbw]

/-- **A text is read exactly if it fits**, whichever way that is. -/
theorem whole?_isSome_iff : (p.whole? t).isSome = true ↔ p.Spells t := by
  rw [whole?, Option.isSome_map, List.find?_isSome]
  constructor
  · rintro ⟨a, ha, hrest⟩
    obtain ⟨ht, hspells⟩ := spells_of_mem_readings ha
    rw [List.isEmpty_iff.mp hrest, List.append_nil] at ht
    rwa [ht]
  · intro h
    obtain ⟨a, ha, -, hrest⟩ := exists_reading h []
    rw [List.append_nil] at ha
    exact ⟨a, ha, List.isEmpty_iff.mpr hrest⟩

/-! ## §4. The way that is tried first. -/

/-- The way to read the beginning of a text that is tried first. -/
def first? (p : Pattern) (t : Text) : Option Reading :=
  (p.readings t).head?

theorem whole?_of_first? (h : p.first? t = some a) (hrest : a.rest = []) :
    p.whole? t = some a.groups := by
  obtain ⟨others, hreadings⟩ := List.head?_eq_some_iff.mp h
  rw [whole?, hreadings, List.find?_cons_of_pos (by rw [hrest]; rfl)]
  rfl

theorem first?_text (u rest : Text) : (text u).first? (u ++ rest) = some ⟨u, [], rest⟩ := by
  rw [first?, readings, Text.after?_eq_some_iff.mpr rfl]
  rfl

theorem head?_runs (p : Char → Bool) (t : Text) :
    (runs p t).head? = some (t.takeWhile p, t.dropWhile p) := by
  induction t with
  | nil => rfl
  | cons c t ih =>
    by_cases hc : p c = true
    · obtain ⟨others, hruns⟩ := List.head?_eq_some_iff.mp ih
      rw [runs, if_pos hc, hruns, List.takeWhile_cons_of_pos hc, List.dropWhile_cons_of_pos hc]
      rfl
    · rw [runs, if_neg hc, List.takeWhile_cons_of_neg hc, List.dropWhile_cons_of_neg hc]
      rfl

/-- A run is first tried with all the characters of its class that come. -/
theorem first?_run {least : Nat} {p : Char → Bool} (h : least ≤ (t.takeWhile p).length) :
    (run least p).first? t = some ⟨t.takeWhile p, [], t.dropWhile p⟩ := by
  obtain ⟨others, hruns⟩ := List.head?_eq_some_iff.mp (head?_runs p t)
  rw [first?, readings, hruns, List.filter_cons_of_pos (by simpa using h)]
  rfl

theorem first?_eq_none_iff : p.first? t = none ↔ ∀ u rest, t = u ++ rest → ¬ p.Spells u := by
  rw [first?, List.head?_eq_none_iff]
  constructor
  · rintro h u rest rfl hu
    obtain ⟨a, ha, -⟩ := exists_reading hu rest
    rw [h] at ha
    exact absurd ha List.not_mem_nil
  · intro h
    rw [List.eq_nil_iff_forall_not_mem]
    intro a ha
    obtain ⟨ht, hspells⟩ := spells_of_mem_readings ha
    exact h _ _ ht hspells

/-- An optional part is there if it can be. -/
theorem first?_optional (p : Pattern) (t : Text) :
    (optional p).first? t = some ((p.first? t).getD ⟨[], p.unset, t⟩) := by
  rw [first?, first?, readings, List.head?_append]
  cases (p.readings t).head? <;> rfl

/-- The first of two alternatives is taken if it can be. -/
theorem first?_either (p q : Pattern) (t : Text) :
    (either p q).first? t = ((p.first? t).map (·.between [] q.unset)).or
      ((q.first? t).map (·.between p.unset [])) := by
  rw [first?, first?, first?, readings, List.head?_append, List.head?_map, List.head?_map]

theorem first?_group (p : Pattern) (t : Text) :
    (group p).first? t = (p.first? t).map Reading.told := by
  rw [first?, first?, readings, List.head?_map]

/-- Of two parts the second is tried after the first way to read the first. -/
theorem first?_seq (ha : p.first? t = some a) (hb : q.first? a.rest = some b) :
    (seq p q).first? t = some (a.andThen b) := by
  obtain ⟨as, has⟩ := List.head?_eq_some_iff.mp ha
  obtain ⟨bs, hbs⟩ := List.head?_eq_some_iff.mp hb
  rw [first?, readings, has, List.flatMap_cons, hbs]
  rfl

end Pattern

end TapReport
