/-
  TapReport.Proofs.Command.PlainConsole
  ─────────────────────────────────────
  **A COMMAND MAY RELY ON THE PLAIN CONSOLE.**

  Options that are written as they are declared are taken apart into
  themselves, in whichever of the two ways they are written.  If their values
  are of the kinds that they take, none of them is a misuse or ends the command
  at once, so then they are a request.  What is shown loses control sequences,
  which begin with an escape character, and nothing else.

  Main results:
    * `split_of_spelled` — taking such options apart.
    * `Console.plain_lawful` — what a command relies on holds of this console.
    * `Console.plain_isPlain` — it leaves colours out.
-/
import TapReport.Command.PlainConsole

namespace TapReport

/-! ## §1. Control sequences. -/

namespace Text

/-- Before the first escape character nothing is left out. -/
theorem withoutControlSequences_append {t : Text} (h : escape ∉ t) (u : Text) :
    withoutControlSequences (t ++ u) = t ++ withoutControlSequences u := by
  unfold withoutControlSequences
  induction t with
  | nil => rfl
  | cons c t ih =>
    obtain ⟨hc, ht⟩ : escape ≠ c ∧ escape ∉ t := by simpa using h
    rw [List.cons_append, withoutControlSequencesAfter, controlSequence?_of_ne (Ne.symm hc)]
    exact congrArg (c :: ·) (ih ht)

/-- What is to be left out is left out, whatever it is. -/
theorem withoutControlSequencesAfter_append (t u : Text) :
    withoutControlSequencesAfter t.length (t ++ u) = withoutControlSequences u := by
  induction t with
  | nil => rfl
  | cons c t ih => exact ih

theorem isParameter_of_colour {c : Char} (h : c.isDigit = true ∨ c = ';') :
    isParameter c = true := by
  rcases h with h | rfl
  · simp only [Char.isDigit, Bool.and_eq_true, decide_eq_true_eq, ge_iff_le,
      UInt32.le_iff_toNat_le] at h
    simp only [isParameter, Bool.and_eq_true, decide_eq_true_eq, Char.toNat]
    change 48 ≤ c.val.toNat ∧ c.val.toNat ≤ 57 at h
    omega
  · rfl

/-- A colour is a control sequence. -/
theorem controlSequence?_colourCode {parameters : Text}
    (h : ∀ c ∈ parameters, c.isDigit = true ∨ c = ';') (t : Text) :
    controlSequence? (colourCode parameters ++ t) = some (parameters.length + 3) := by
  have hall : ∀ c ∈ parameters, isParameter c = true := fun c hc => isParameter_of_colour (h c hc)
  have htake : (parameters ++ 'm' :: t).takeWhile isParameter = parameters := by
    rw [List.takeWhile_append_of_pos hall]
    exact List.append_nil parameters
  have hdrop : (parameters ++ 'm' :: t).dropWhile isParameter = 'm' :: t := by
    rw [List.dropWhile_append_of_pos hall]
    rfl
  have hbody : sequenceBody? (parameters ++ 'm' :: t) = some (parameters.length + 1) := by
    unfold sequenceBody?
    rw [htake, hdrop]
    rfl
  have hcode : colourCode parameters ++ t = escape :: '[' :: (parameters ++ 'm' :: t) := by
    simp [colourCode]
  rw [hcode, controlSequence?, if_pos rfl, hbody]
  rfl

/-- **A colour is left out.** -/
theorem withoutControlSequences_colourCode {parameters : Text}
    (h : ∀ c ∈ parameters, c.isDigit = true ∨ c = ';') (t : Text) :
    withoutControlSequences (colourCode parameters ++ t) = withoutControlSequences t := by
  have hcode := controlSequence?_colourCode h t
  have hrest : '[' :: (parameters ++ ['m']) ++ t = '[' :: (parameters ++ 'm' :: t) := by simp
  have hlength : ('[' :: (parameters ++ ['m'])).length = parameters.length + 2 := by simp
  rw [colourCode, List.cons_append] at hcode ⊢
  unfold withoutControlSequences
  rw [withoutControlSequencesAfter, hcode]
  show withoutControlSequencesAfter (parameters.length + 2) _ = _
  rw [← hlength]
  exact withoutControlSequencesAfter_append _ t

end Text

namespace Command

/-! ## §2. Taking options apart. -/

/-- An option with a value of a kind has a value. -/
theorem Given.WellFormed.takesValue {g : Given} (h : g.WellFormed) :
    g.option.takesValue = true := by
  cases h with
  | integer hoption hvalue => simp [CommandOption.takesValue, hoption]
  | format hvalue => rfl

section Split

variable {arg value : Text} {args : List Text} {p : Parted} {g : Given}

/-! One equation for each kind of argument that may come first. -/

theorem split_cons_of_notOption (h : isOption arg = false) (args : List Text) :
    split (arg :: args) = (split args).map fun p => ⟨p.options, arg :: p.rest⟩ := by
  have hend : arg ≠ "--".toList := by
    rintro rfl
    exact absurd h (by decide)
  rw [split, if_neg hend, if_pos (by simp [h])]

theorem split_cons_of_whole (hend : arg ≠ "--".toList)
    (hoption : isOption arg = true) (h : Mention.ofArgument arg = .ok (.whole g))
    (args : List Text) :
    split (arg :: args) = (split args).map fun p => ⟨g :: p.options, p.rest⟩ := by
  rw [split, if_neg hend, if_neg (by simp [hoption])]
  simp only [h]

theorem split_cons_of_begun {option : CommandOption} (hend : arg ≠ "--".toList)
    (hoption : isOption arg = true) (h : Mention.ofArgument arg = .ok (.begun option))
    (value : Text) (args : List Text) :
    split (arg :: value :: args)
      = (split args).map fun p => ⟨⟨option, value⟩ :: p.options, p.rest⟩ := by
  rw [split, if_neg hend, if_neg (by simp [hoption])]
  simp only [h]

theorem ofArgument_joined (h : g.option.takesValue = true) :
    Mention.ofArgument (g.option.name ++ '=' :: g.value) = .ok (.whole g) := by
  obtain ⟨option, value⟩ := g
  cases option with
  | indentLevel | itemLimit | blockLimit | format => rfl
  | version | verbose | help => exact nomatch h

theorem ofArgument_apart (h : g.option.takesValue = true) :
    Mention.ofArgument g.option.name = .ok (.begun g.option) := by
  obtain ⟨option, value⟩ := g
  cases option with
  | indentLevel | itemLimit | blockLimit | format => rfl
  | version | verbose | help => exact nomatch h

/-- The name of an option begins like one and goes on. -/
theorem CommandOption.exists_name_eq (option : CommandOption) :
    ∃ c rest, option.name = '-' :: '-' :: c :: rest := by
  cases option <;> exact ⟨_, _, rfl⟩

theorem isOption_of_name (option : CommandOption) (more : Text) :
    isOption (option.name ++ more) = true ∧ option.name ++ more ≠ "--".toList := by
  obtain ⟨c, rest, hname⟩ := option.exists_name_eq
  rw [hname]
  exact ⟨rfl, by simp⟩

/-- **Options that are written as they are declared** are taken apart into
themselves, and one argument that is no option is left. -/
theorem split_of_spelled {given : List Given} {options : List Text} {path : Text}
    (h : Spelled given options) (hvalues : ∀ g ∈ given, g.option.takesValue = true)
    (hpath : isOption path = false) : split (options ++ [path]) = .ok ⟨given, [path]⟩ := by
  -- induction on how the options are written
  induction h with
  | nil => exact split_cons_of_notOption hpath []
  | joined g _ ih =>
    obtain ⟨hvalue, hvalues⟩ := List.forall_mem_cons.mp hvalues
    obtain ⟨hoption, hend⟩ := isOption_of_name g.option ('=' :: g.value)
    rw [List.cons_append, split_cons_of_whole hend hoption (ofArgument_joined hvalue), ih hvalues]
    rfl
  | apart g _ ih =>
    obtain ⟨hvalue, hvalues⟩ := List.forall_mem_cons.mp hvalues
    obtain ⟨hoption, hend⟩ := isOption_of_name g.option []
    rw [List.append_nil] at hoption hend
    rw [List.cons_append, List.cons_append,
      split_cons_of_begun hend hoption (ofArgument_apart hvalue), ih hvalues]
    rfl

end Split

/-! ## §3. Understanding them. -/

namespace Parted

variable {p : Parted}

theorem exists_of_mem_mentioned {option : CommandOption} (h : option ∈ p.mentioned) :
    ∃ g ∈ p.options, g.option = option :=
  List.mem_map.mp (List.mem_eraseDups.mp h)

/-- Options with values let the command go on to a report. -/
theorem shown?_eq_none (h : ∀ g ∈ p.options, g.option.takesValue = true) : p.shown? = none := by
  unfold shown?
  rw [List.find?_eq_none]
  intro option hmem
  obtain ⟨g, hg, rfl⟩ := exists_of_mem_mentioned hmem
  have hvalue := h g hg
  intro hends
  simp only [Bool.or_eq_true, decide_eq_true_eq] at hends
  rcases hends with hoption | hoption
  · rw [hoption] at hvalue
    exact absurd hvalue (by decide)
  · rw [hoption] at hvalue
    exact absurd hvalue (by decide)

/-- Values of the kinds that options take are no misuse. -/
theorem firstMisuse?_eq_none (h : ∀ g ∈ p.options, g.WellFormed) : p.firstMisuse? = none := by
  unfold firstMisuse?
  rw [List.findSome?_eq_none_iff]
  intro option hmem
  unfold misuse?
  cases hvalue : Given.last? option p.options with
  | none => rfl
  | some value =>
    cases h _ (Given.mem_of_last? hvalue) with
    | integer hoption hread =>
      have hformat : option ≠ .format := by
        rintro rfl
        exact absurd hoption (by decide)
      simp [hread, hformat]
    | format hread => simp [hread, CommandOption.takesInteger]

end Parted

/-- Neither a file that can be read nor the standard input is a misuse. -/
theorem fileMisuse?_eq_none {host : Host} {path : Text}
    (h : path = Request.standardInput ∨ IsReadable host path) :
    fileMisuse? host path = .ok none := by
  unfold fileMisuse?
  rcases h with hinput | hfile
  · rw [if_pos hinput]
  · obtain ⟨size, hlook⟩ := hfile.look_eq
    obtain ⟨bytes, hread⟩ := hfile.read_eq
    rw [hlook, hread]
    split <;> rfl

theorem isOption_eq_false {host : Host} {path : Text}
    (h : path = Request.standardInput ∨ IsReadable host path) : isOption path = false := by
  rcases h with rfl | hfile
  · rfl
  · have hhead := hfile.head?_ne
    unfold isOption
    split
    · exact absurd rfl hhead
    · rfl

/-! ## §4. The console. -/

namespace Console

/-- **A command may rely on this console.** -/
theorem plain_lawful : plain.Lawful where
  understand_eq {host given options path} hspelled hgiven hpath := by
    have hvalues : ∀ g ∈ given, g.option.takesValue = true := fun g hg => (hgiven g hg).takesValue
    have hshown : Parted.shown? ⟨given, [path]⟩ = none := Parted.shown?_eq_none hvalues
    have hmisuse : Parted.firstMisuse? ⟨given, [path]⟩ = none := Parted.firstMisuse?_eq_none hgiven
    have hrest : restMisuse? host ⟨given, [path]⟩ = .ok none := by
      have hfile := fileMisuse?_eq_none hpath
      unfold restMisuse?
      show (fileMisuse? host path).map _ = _
      rw [hfile]
      rfl
    show understandPlain host (options ++ [path]) = _
    unfold understandPlain
    rw [split_of_spelled hspelled hvalues (isOption_eq_false hpath)]
    simp only [hshown, hmisuse, hrest]
    rfl
  shown_nil := rfl
  shown_append := Text.withoutControlSequences_append
  failed_eq reason := by
    show Answer.mk 1 [] (shownLines ["Error: ".toList ++ reason]) = _
    unfold shownLines
    rw [List.flatMap_singleton]
    rfl
  refused_code _ := rfl
  refused_output _ := rfl

/-- It leaves colours out. -/
theorem plain_isPlain : plain.IsPlain :=
  Text.withoutControlSequences_colourCode

end Console

end Command

end TapReport
