import Converge.CommandLine

/-!
# The program

Reads the arguments, the environment and the files that a command needs, carries the command out,
and writes what it gives: output, notes, text at the end of a file, and the exit code.
-/

open Converge CommandLine

namespace Converge.Program

/-- The text of a file, if it can be read as text. -/
def readText? (path : String) : IO (Option String) := do
  try
    return String.fromUTF8? (← IO.FS.readBinFile path)
  catch _ => return none

/-- Whether anything is at a path. -/
def isThere (path : String) : IO Bool := do
  try
    let _ ← IO.FS.realPath path
    return true
  catch _ => return false

/-- The text of the standard input, if it is text. -/
def readInput? : IO (Option String) := do
  let stdin ← IO.getStdin
  return String.fromUTF8? (← stdin.readBinToEnd)

/-- The paths that an invocation may read. -/
def paths (home settings : Option String) (i : Invocation) : List String :=
  let named := match i.command with
    | .parse rules input => [rules] ++ input.toList
    | .render rules want _ _ => [rules, want]
    | .run o => [o.rules] ++ o.want.toList ++ o.running.toList
    | .validate rules _ => [rules]
  settings.toList ++ (i.config.toList ++ named).map (FilePath.expanded home)

/-- Whether an invocation may read the standard input. -/
def readsInput (i : Invocation) : Bool :=
  let unnamed (path : Option String) : Bool := (path.map FilePath.isDash).getD true
  match i.command with
  | .parse _ input => unnamed input
  | .run o => o.state = .parsed && unnamed o.running
  | _ => false

/-- Adds text to the end of a file, and tells whether the file could be opened. -/
def append (path text : String) : IO Bool := do
  try
    let h ← IO.FS.Handle.mk path .append
    h.putStr text
    h.flush
    return true
  catch _ => return false

/-- Carries out an invocation. Where the file for pushed commands cannot be opened, the command ends
as it does in a world where it cannot. -/
def carryOut (i : Invocation) : IO UInt32 := do
  let home ← IO.getEnv "HOME"
  let settings := World.settingsPath? home (← IO.getEnv "XDG_CONFIG_HOME")
  let mut texts : List (String × Option String) := []
  let mut present : List String := []
  for path in paths home settings i do
    texts := (path, ← readText? path) :: texts
    if ← isThere path then present := path :: present
  let input ← if readsInput i then readInput? else pure none
  let world : World :=
    { text? := fun path => (texts.lookup path).join
      holds := fun path => present.contains path
      appendable := fun _ => true
      input, home, settings }
  let planned := perform world i
  let mut opened := true
  for (path, text) in planned.journal.added do
    if opened then opened := ← append path text
  let ending := if opened then planned else perform { world with appendable := fun _ => false } i
  for note in ending.journal.notes do
    IO.eprintln note
  IO.print ending.output
  match ending.trouble with
  | none => pure ()
  | some t => IO.eprintln ("Error: " ++ t.message)
  return UInt32.ofNat ending.exitCode

end Converge.Program

/-- Runs the program with its arguments. -/
def main (args : List String) : IO UInt32 := do
  match Invocation.ofArguments args (← IO.getEnv "NETRM_CONFIG") with
  | .ok i => Program.carryOut i
  | .error (.version command) =>
    IO.print (versionText command)
    return 0
  | .error .misuse =>
    IO.eprintln "usage: netrm [-v] [-q] [-c FILE] (parse | render | run | validate) [OPTIONS]"
    return 2
