/-
  TapReport.Command.Console
  ─────────────────────────
  **THE CONSOLE BETWEEN A COMMAND AND ITS USER.**

  A console takes arguments apart, answers what has nothing to do with a
  report, and shows what the command has to say.  How it does so is its own
  affair: its texts, what else it accepts, what it suggests.  A command relies
  on little of it, and that little is `Console.Lawful`: options written as they
  are declared are understood, text is shown as it is up to the first escape
  character, and a failure is told with exit code 1 after the word `Error`.

      Console             what a console does
      Spelled             options and how they are written as arguments
      Console.Lawful      what a command relies on
      Console.IsPlain     a console that leaves colours out of what it shows

  Main result:
    * `Console.Lawful.shown_of_notMem` — text without escape characters is
      shown as it is.
-/
import TapReport.Command.Request
import TapReport.Settings.Search
import TapReport.Text.ControlSequence

namespace TapReport.Command

/-! ## §1. Answers. -/

/-- What a run ends with. -/
structure Answer where
  /-- The exit code. -/
  code : Nat
  /-- What is written to the standard output. -/
  output : Text
  /-- What is written to the standard error. -/
  errors : Text
  deriving DecidableEq, Repr

/-- Faults that the command has no words for. -/
inductive CommandFault where
  /-- Settings cannot be loaded. -/
  | load (e : LoadFault)
  /-- The path of the file cannot be looked at. -/
  | unreachable (path : Text) (e : FileFault)
  /-- The lines of the report cannot be understood. -/
  | reading (e : Fault)
  deriving DecidableEq, Repr

/-- What is reported for a fault without words of the command. -/
def CommandFault.message : CommandFault → Text
  | .load e => e.message
  | .unreachable path e => e.message path
  | .reading e => e.message

/-- What a console makes of arguments. -/
inductive Reply where
  /-- It answers them itself. -/
  | answered (a : Answer)
  /-- They ask something of the command. -/
  | asked (r : Request)
  deriving DecidableEq, Repr

/-! ## §2. Consoles. -/

/-- What stands between a command and its user. -/
structure Console where
  /-- What it makes of arguments; it may look whether a file is there. -/
  understand : Host → List Text → Except CommandFault Reply
  /-- What becomes of a text that is to be shown. -/
  shown : Text → Text
  /-- How it tells that a run failed, and why. -/
  failed : Text → Answer
  /-- How it tells that settings are not valid, and why. -/
  refused : Text → Answer

/-- An option with a value of the kind that it takes. -/
inductive Given.WellFormed : Given → Prop
  /-- An integer for a setting. -/
  | integer {option : CommandOption} {value : Text} {n : Int} (hoption : option.takesInteger = true)
      (hvalue : Text.readInteger? value = some n) : WellFormed ⟨option, value⟩
  /-- The name of a format. -/
  | format {value : Text} {format : Format} (hvalue : Format.ofName? value = some format) :
      WellFormed ⟨.format, value⟩

/-- Options with values, and how they are written as arguments: the value stands
after an equals sign, or in an argument of its own. -/
inductive Spelled : List Given → List Text → Prop
  /-- No options are no arguments. -/
  | nil : Spelled [] []
  /-- One more option, in one argument with its value. -/
  | joined {given : List Given} {args : List Text} (g : Given) (h : Spelled given args) :
    Spelled (g :: given) ((g.option.name ++ '=' :: g.value) :: args)
  /-- One more option, and its value in the next argument. -/
  | apart {given : List Given} {args : List Text} (g : Given) (h : Spelled given args) :
    Spelled (g :: given) (g.option.name :: g.value :: args)

/-- A path to a file that can be looked at and read, and that is not written
like an option. -/
structure IsReadable (host : Host) (path : Text) : Prop where
  /-- It does not begin like an option. -/
  head?_ne : path.head? ≠ some '-'
  /-- A file is there. -/
  look_eq : ∃ size, host.look path = .ok (.file size)
  /-- It may be read. -/
  read_eq : ∃ bytes, host.read path = .ok bytes

/-- What a command relies on. -/
structure Console.Lawful (console : Console) : Prop where
  /-- Options that are well-formed and written as they are declared, with the
  path to a file or what stands for the standard input, are a request. -/
  understand_eq : ∀ {host : Host} {given : List Given} {options : List Text} {path : Text},
    Spelled given options → (∀ g ∈ given, g.WellFormed) →
      path = Request.standardInput ∨ IsReadable host path →
        console.understand host (options ++ [path]) = .ok (.asked (.ofGiven given path))
  /-- Nothing is shown of nothing. -/
  shown_nil : console.shown [] = []
  /-- What stands before the first escape character is shown as it is. -/
  shown_append : ∀ {t : Text}, Text.escape ∉ t → ∀ u, console.shown (t ++ u) = t ++ console.shown u
  /-- A failure has exit code 1, and is told after the word for it. -/
  failed_eq : ∀ reason, console.failed reason
    = ⟨1, [], console.shown ("Error: ".toList ++ reason ++ ['\n'])⟩
  /-- Settings that are not valid have exit code 2. -/
  refused_code : ∀ reason, (console.refused reason).code = 2
  /-- And nothing is written for them. -/
  refused_output : ∀ reason, (console.refused reason).output = []

/-- A console that does not write to a terminal: it leaves out the codes that
would change the colour of what follows. -/
def Console.IsPlain (console : Console) : Prop :=
  ∀ {code : Text}, (∀ c ∈ code, c.isDigit ∨ c = ';') →
    ∀ t, console.shown (Text.colourCode code ++ t) = console.shown t

namespace Console.Lawful

variable {console : Console}

/-- Text without escape characters is shown as it is. -/
theorem shown_of_notMem (h : console.Lawful) {t : Text} (ht : Text.escape ∉ t) :
    console.shown t = t := by
  have hend := h.shown_append ht []
  rwa [List.append_nil, h.shown_nil, List.append_nil] at hend

end Console.Lawful

end TapReport.Command
