/-
  TapReport.Command.PlainConsole
  ──────────────────────────────
  **A CONSOLE THAT IS NO TERMINAL.**

  A console of the usual kind, for a command whose outputs go to files.
  Arguments are first taken apart into options and the rest, then understood
  as a request.  An option with a value takes it from after `=` or from the
  next argument, whatever that is; `--` ends the options.  Values are checked
  in the order in which options were first given.  Where an option is unknown,
  those with similar names are suggested.

  Its texts and its suggestions are a choice, as any console has to make it;
  the command does not rely on them.

  Main definitions: `split`, `Console.plain`.
-/
import TapReport.Command.Console
import TapReport.Text.Quoted
import TapReport.Text.Similarity

namespace TapReport.Command

/-! ## §1. Misuse. -/

namespace CommandOption

/-- All options, in the alphabetical order of their names. -/
def all : List CommandOption :=
  [.format, .help, .indentLevel, .itemLimit, .verbose, .version, .blockLimit]

/-- The option that is written so. -/
def ofName? (t : Text) : Option CommandOption :=
  all.find? (·.name = t)

/-- The names of options that a name may have been meant for: the three
closest to it. -/
def similar (name : Text) : List Text :=
  Text.closest 3 (all.map (·.name)) name

end CommandOption

/-- How the command can be misused. -/
inductive Misuse where
  /-- The last argument is an option that has a value. -/
  | needsValue (option : CommandOption)
  /-- An option without a value is given one. -/
  | takesNoValue (option : CommandOption)
  /-- There is no option of that name. -/
  | unknownOption (name : Text)
  /-- The value of an option is no integer. -/
  | notInteger (option : CommandOption) (value : Text)
  /-- There is no such format. -/
  | unknownFormat (value : Text)
  /-- The file does not exist. -/
  | missingFile (path : Text)
  /-- The file is a folder. -/
  | folderAsFile (path : Text)
  /-- The file may not be read. -/
  | unreadableFile (path : Text)
  /-- There are more arguments than one file. -/
  | extraArguments (arguments : List Text)
  /-- The command says what is wrong. -/
  | refused (reason : Text)
  deriving DecidableEq, Repr

namespace Misuse

/-- What is reported for a misuse. -/
def message : Misuse → Text
  | .needsValue option =>
    "Option ".toList ++ Text.quoted option.name ++ " requires an argument.".toList
  | .takesNoValue option =>
    "Option ".toList ++ Text.quoted option.name ++ " does not take a value.".toList
  | .unknownOption name =>
    "No such option ".toList ++ Text.quoted name ++ ['.'] ++ suggestion (CommandOption.similar name)
  | .notInteger option value =>
    valueFor option.name ++ Text.quoted value ++ " is not a valid integer.".toList
  | .unknownFormat value =>
    valueFor CommandOption.format.name ++ Text.quoted value ++ " is not one of ".toList
      ++ Text.joinWith ", ".toList (Format.all.map fun f => Text.quoted f.name) ++ ['.']
  | .missingFile path => fileMessage path "does not exist".toList
  | .folderAsFile path => fileMessage path "is a directory".toList
  | .unreadableFile path => fileMessage path "is not readable".toList
  | .extraArguments [argument] => "Got unexpected extra argument (".toList ++ argument ++ [')']
  | .extraArguments arguments =>
    "Got unexpected extra arguments (".toList ++ Text.joinWith [' '] arguments ++ [')']
  | .refused reason => "Invalid value: ".toList ++ reason
where
  /-- Says what a value is invalid for. -/
  valueFor (name : Text) : Text :=
    "Invalid value for ".toList ++ Text.quoted name ++ ": ".toList
  /-- Says what is wrong with the file. -/
  fileMessage (path wrong : Text) : Text :=
    valueFor "[FILEPATH]".toList ++ "File ".toList ++ Text.quoted path ++ [' '] ++ wrong ++ ['.']
  /-- Asks whether one of some names was meant. -/
  suggestion : List Text → Text
    | [] => []
    | [name] => " Did you mean ".toList ++ Text.quoted name ++ ['?']
    | names =>
      " (Did you mean one of: ".toList ++ Text.joinWith ", ".toList (names.map Text.quoted)
        ++ "?)".toList

/-- Whether the report of a misuse begins with how to use the command. -/
def showsUsage : Misuse → Bool
  | .needsValue _ | .takesNoValue _ => false
  | _ => true

end Misuse

/-! ## §2. Taking arguments apart. -/

/-- Arguments taken apart. -/
structure Parted where
  /-- The options, in order. -/
  options : List Given
  /-- The arguments that are no options, in order. -/
  rest : List Text
  deriving DecidableEq, Repr

/-- Whether an argument is an option. -/
def isOption : Text → Bool
  | '-' :: _ :: _ => true
  | _ => false

/-- What an argument that is an option says. -/
inductive Mention where
  /-- An option and all that belongs to it. -/
  | whole (given : Given)
  /-- An option whose value is the next argument. -/
  | begun (option : CommandOption)
  deriving DecidableEq, Repr

/-- The name in an option: what stands before the first `=`. -/
def mentionedName (arg : Text) : Text :=
  arg.takeWhile (· != '=')

/-- The value in an option: what follows the first `=`. -/
def mentionedValue? (arg : Text) : Option Text :=
  match arg.dropWhile (· != '=') with
  | _ :: value => some value
  | [] => none

/-- How an option without a name is called: by its name if it begins with
two dashes, by its first letter if it begins with one. -/
def unknownName (arg : Text) : Text :=
  match arg with
  | '-' :: '-' :: _ => mentionedName arg
  | _ => arg.take 2

/-- Reads an argument that is an option. -/
def Mention.ofArgument (arg : Text) : Except Misuse Mention :=
  match CommandOption.ofName? (mentionedName arg) with
  | none => .error (.unknownOption (unknownName arg))
  | some option =>
    match option.takesValue, mentionedValue? arg with
    | true, some value => .ok (.whole ⟨option, value⟩)
    | true, none => .ok (.begun option)
    | false, some _ => .error (.takesNoValue option)
    | false, none => .ok (.whole ⟨option, []⟩)

/-- Takes arguments apart. -/
def split : List Text → Except Misuse Parted
  | [] => .ok ⟨[], []⟩
  | arg :: args =>
    if arg = "--".toList then .ok ⟨[], args⟩
    else if !isOption arg then (split args).map fun p => ⟨p.options, arg :: p.rest⟩
    else
      match Mention.ofArgument arg with
      | .error e => .error e
      | .ok (.whole given) => (split args).map fun p => ⟨given :: p.options, p.rest⟩
      | .ok (.begun option) =>
        match args with
        | [] => .error (.needsValue option)
        | value :: args => (split args).map fun p => ⟨⟨option, value⟩ :: p.options, p.rest⟩

/-! ## §3. Understanding them. -/

namespace Parted

/-- The options that are given, in the order in which they came up. -/
def mentioned (p : Parted) : List CommandOption :=
  (p.options.map (·.option)).eraseDups

/-- What is wrong with the value of an option, if anything. -/
def misuse? (p : Parted) (option : CommandOption) : Option Misuse :=
  match Given.last? option p.options with
  | none => none
  | some value =>
    if option.takesInteger && (Text.readInteger? value).isNone then some (.notInteger option value)
    else if option = .format && (Format.ofName? value).isNone then some (.unknownFormat value)
    else none

/-- The first misuse of an option, if there is any. -/
def firstMisuse? (p : Parted) : Option Misuse :=
  p.mentioned.findSome? p.misuse?

/-- The first of the options that end the command at once, if one is
given. -/
def shown? (p : Parted) : Option CommandOption :=
  p.mentioned.find? fun option => option = .version || option = .help

/-- The file that is named, or what stands for the standard input. -/
def path (p : Parted) : Text :=
  p.rest.headD Request.standardInput

end Parted

/-- What is wrong with the path of the file, if anything. -/
def fileMisuse? (host : Host) (path : Text) : Except CommandFault (Option Misuse) :=
  if path = Request.standardInput then .ok none
  else
    match host.look path with
    | .error .holdsNul => .error (.unreachable path .holdsNul)
    | .error _ => .ok (some (.missingFile path))
    | .ok .folder => .ok (some (.folderAsFile path))
    | .ok _ =>
      match host.read path with
      | .error .denied => .ok (some (.unreadableFile path))
      | _ => .ok none

/-- What is wrong with the arguments that are no options, if anything. -/
def restMisuse? (host : Host) (p : Parted) : Except CommandFault (Option Misuse) :=
  (fileMisuse? host p.path).map fun found =>
    found.or (if 1 < p.rest.length then some (.extraArguments p.rest.tail) else none)

/-! ## §4. The console. -/

namespace Console

/-- How to use the command, in short. -/
def usage : List Line :=
  ["Usage: tap-reader [OPTIONS] [FILEPATH]".toList, "Try 'tap-reader --help' for help.".toList, []]

/-- Lines as they are shown. -/
def shownLines (lines : List Line) : Text :=
  Text.withoutControlSequences (lines.flatMap (· ++ ['\n']))

/-- The answer to a misuse. -/
def misused (e : Misuse) : Answer :=
  ⟨2, [], shownLines ((if e.showsUsage then usage else []) ++ ["Error: ".toList ++ e.message])⟩

/-- How an option is written, with the kind of its value. -/
def optionText (option : CommandOption) : Text :=
  option.name ++
    if option.takesInteger then " INTEGER".toList
    else if option = .format then
      " [".toList ++ Text.joinWith ['|'] (Format.all.map (·.name)) ++ [']']
    else []

/-- How to use the command. -/
def helpLines : List Line :=
  usage.take 1 ++ [[]] ++ explanation.map ("  ".toList ++ ·) ++ [[], "Options:".toList]
    ++ CommandOption.all.map fun option =>
      "  ".toList ++ optionText option ++ "  ".toList ++ option.explanation

/-- The answer to an option that ends the command at once. -/
def shownOption (option : CommandOption) : Answer :=
  let lines := if option = .version then ["tap-reader, version 0.1.0".toList] else helpLines
  ⟨0, shownLines lines, []⟩

/-- What the console makes of arguments. -/
def understandPlain (host : Host) (args : List Text) : Except CommandFault Reply :=
  match split args with
  | .error e => .ok (.answered (misused e))
  | .ok p =>
    match p.shown?, p.firstMisuse? with
    | some option, _ => .ok (.answered (shownOption option))
    | none, some e => .ok (.answered (misused e))
    | none, none =>
      (restMisuse? host p).map fun found =>
        match found with
        | some e => .answered (misused e)
        | none => .asked (.ofGiven p.options p.path)

/-- The console of a command whose outputs go to files. -/
def plain : Console where
  understand := understandPlain
  shown := Text.withoutControlSequences
  failed reason := ⟨1, [], shownLines ["Error: ".toList ++ reason]⟩
  refused reason := misused (.refused reason)

end Console

end TapReport.Command
