/-
  TapReport.Command.Request
  ─────────────────────────
  **WHAT THE COMMAND CAN BE ASKED.**

  The command declares its options: what they are called, whether they have
  a value and of which kind, and what is told about them.  Options that are
  given, each with its value, and one path make a request.  How arguments are
  taken apart into options is not said here.

  Main definition: `Request.ofGiven`.
-/
import TapReport.Settings.Basic
import TapReport.Text.Numeral

namespace TapReport.Command

/-! ## §1. Options. -/

/-- The options of the command. -/
inductive CommandOption where
  /-- Show the version. -/
  | version
  /-- Replace the indentation of blocks. -/
  | indentLevel
  /-- Replace the most items that are read. -/
  | itemLimit
  /-- Replace the most lines of a block. -/
  | blockLimit
  /-- How to write the report. -/
  | format
  /-- Tell how reading went. -/
  | verbose
  /-- Explain the command. -/
  | help
  deriving DecidableEq, Repr

namespace CommandOption

/-- How an option is written. -/
def name : CommandOption → Text
  | .version => "--version".toList
  | .indentLevel => "--indent-level".toList
  | .itemLimit => "--iter-limit".toList
  | .blockLimit => "--yaml-line-limit".toList
  | .format => "--format".toList
  | .verbose => "--verbose".toList
  | .help => "--help".toList

/-- Whether the value of an option is an integer. -/
def takesInteger : CommandOption → Bool
  | .indentLevel | .itemLimit | .blockLimit => true
  | .format | .version | .verbose | .help => false

/-- Whether an option has a value: an integer or the name of a format. -/
def takesValue (option : CommandOption) : Bool :=
  option.takesInteger || option = .format

/-- What an option is for. -/
def explanation : CommandOption → Text
  | .version => "Show the version and exit.".toList
  | .indentLevel => "Indentation of YAML blocks under a test".toList
  | .itemLimit => "Maximum number of lines parsed after the header".toList
  | .blockLimit => "Maximum number of lines between a YAML block's delimiters".toList
  | .format => "Output format".toList
  | .verbose => "Log parser progress to stderr".toList
  | .help => "Show this message and exit.".toList

end CommandOption

/-- What the command is for. -/
def explanation : List Line :=
  ["Entry point for parsing a TAP report.".toList,
    [],
    "Args:".toList,
    "    filepath: Path to the TAP report, or \x60-\x60 for standard input.".toList,
    "    indent_level: Override for the YAML block indentation.".toList,
    "    iter_limit: Override for the maximum number of parsed lines.".toList,
    "    yaml_line_limit: Override for the maximum YAML block length.".toList,
    "    output_format: \x60json\x60 for the full document, \x60summary\x60 for counts.".toList,
    "    verbose: Enable debug logging.".toList,
    [],
    "Returns:".toList,
    "    None.".toList,
    [],
    "Raises:".toList,
    "    click.BadParameter: If overrides or configuration files hold invalid values.".toList,
    "    click.ClickException: If the report cannot be read or does not parse.".toList,
    [],
    "Examples:".toList,
    "    node --test --test-reporter=tap | tap-reader --format summary".toList]

/-- How a report is written. -/
inductive Format where
  /-- As JSON. -/
  | json
  /-- As a summary. -/
  | summary
  deriving DecidableEq, Repr

namespace Format

/-- All formats. -/
def all : List Format := [.json, .summary]

/-- The name of a format. -/
def name : Format → Text
  | .json => "json".toList
  | .summary => "summary".toList

/-- The format with a name. -/
def ofName? (t : Text) : Option Format :=
  all.find? (·.name = t)

end Format

/-- An option as it was given; one that has no value has an empty one. -/
structure Given where
  /-- The option. -/
  option : CommandOption
  /-- Its value. -/
  value : Text
  deriving DecidableEq, Repr

/-- The value given last for an option. -/
def Given.last? (option : CommandOption) (given : List Given) : Option Text :=
  (given.reverse.find? (·.option = option)).map (·.value)

/-- The last value of an option is one that was given for it. -/
theorem Given.mem_of_last? {option : CommandOption} {given : List Given} {value : Text}
    (h : Given.last? option given = some value) : ⟨option, value⟩ ∈ given := by
  obtain ⟨g, hfind, rfl⟩ := Option.map_eq_some_iff.mp h
  obtain rfl : g.option = option := by simpa using List.find?_some hfind
  exact List.mem_reverse.mp (List.mem_of_find?_eq_some hfind)

/-! ## §2. Requests. -/

/-- What the command is asked to do with a report. -/
structure Request where
  /-- The indentation of blocks, if it is replaced. -/
  indentLevel : Option Int
  /-- The most items, if it is replaced. -/
  itemLimit : Option Int
  /-- The most lines of a block, if it is replaced. -/
  blockLimit : Option Int
  /-- How to write the report. -/
  format : Format
  /-- Whether to tell how reading went. -/
  verbose : Bool
  /-- The file to read. -/
  path : Text
  deriving DecidableEq, Repr

namespace Request

/-- What stands for the standard input, and is read if no file is named. -/
def standardInput : Text := ['-']

/-- The request that options make for a path.  Of several values for one option
the last counts, and without one a report is written as JSON. -/
def ofGiven (given : List Given) (path : Text) : Request where
  indentLevel := integer? .indentLevel
  itemLimit := integer? .itemLimit
  blockLimit := integer? .blockLimit
  format := ((Given.last? .format given).bind Format.ofName?).getD .json
  verbose := given.any (·.option = .verbose)
  path := path
where
  /-- The integer given for an option. -/
  integer? (option : CommandOption) : Option Int :=
    (Given.last? option given).bind Text.readInteger?

/-- The overrides of a request. -/
def overrides (r : Request) : Table :=
  [override .indentLevel r.indentLevel, override .itemLimit r.itemLimit,
    override .blockLimit r.blockLimit]
where
  /-- One override; it has no value if the setting is not replaced. -/
  override (key : SettingKey) (n : Option Int) : Text × Value :=
    (key.name, (n.map Value.int).getD .null)

end Request

end TapReport.Command
