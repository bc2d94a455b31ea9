/-
  TapReport.Main
  ──────────────
  **THE COMMAND LINE.**

  Gathers what a run may look at, runs the command on it, and writes the
  answer.
-/
import TapReport.Command.PlainConsole
import TapReport.Command.Run

open TapReport Command

/-! ## §1. What a run looks at. -/

/-- The places along a path. -/
def placesAlong (here : Place) (path : Text) : List Place :=
  (List.range ((Path.names path).length + 1)).map fun n =>
    ((Path.names path).take n).foldl Path.step (if Path.isAbsolute path then [] else here)

/-- The folder whose settings count where there are no links. -/
def settingsFolder (here : Place) (path : Text) : Place :=
  if path = Request.standardInput then here else (Path.resolve here path).dropLast

/-- The path that arguments name, if the console does not answer them. -/
def pathOf? (args : List Text) : Option Text :=
  match split args with
  | .error _ => none
  | .ok p => if p.shown?.isSome || p.firstMisuse?.isSome then none else some p.path

/-- All places that a run may look at. -/
def places (here : Place) (args : List Text) : List Place :=
  match pathOf? args with
  | none => []
  | some path =>
    placesAlong here path ++ (Candidate.around (settingsFolder here path)).map (·.file)

/-- Whether a run may read the standard input. -/
def readsInput (args : List Text) : Bool :=
  pathOf? args = some Request.standardInput

/-- The code of the system for reading a folder as if it were a file. -/
def folderCode : UInt32 := 21

/-- Adds what stands at a place to a tree. -/
def addPlace (files : FileTree) (place : Place) : IO FileTree := do
  try
    let content ← IO.FS.readBinFile (String.ofList place.toPath)
    return files.write place content.toList
  catch e =>
    match e with
    | .inappropriateType _ code _ =>
      return if code = folderCode then files.makeFolder place else files
    | _ => return files

/-! ## §2. A run. -/

/-- Writes a text. -/
def writeText (stream : IO.FS.Stream) (t : Text) : IO Unit := do
  stream.write ⟨(Utf8.encode t).toArray⟩
  stream.flush

/-- Runs the command. -/
def main (args : List String) : IO UInt32 := do
  let args := args.map String.toList
  let here := Path.resolve [] (← IO.currentDir).toString.toList
  let files ← (places here args).foldlM addPlace (.folder [])
  let sizeLimit ← IO.getEnv (String.ofList sizeVariable)
  let input ← if readsInput args then (← IO.getStdin).readBinToEnd else pure .empty
  let around : Surroundings := ⟨files.host here Host.usualRoom, sizeLimit.map String.toList⟩
  match Command.run .plain around input.toList args with
  | .error e =>
    writeText (← IO.getStderr) (e.message ++ ['\n'])
    return 1
  | .ok a =>
    writeText (← IO.getStdout) a.output
    writeText (← IO.getStderr) a.errors
    return a.code.toUInt32
