import Converge.CommandLine.Report
import Converge.CommandLine.Settings
import Converge.Rule.Document

/-!
# Commands

What each command does in the world that it finds: read facts, render commands, run a resource
against a device that a file stands for, and check a rule table. A command prints all its output or,
when there is trouble, none; the only changes that it can make are texts at the ends of files.
-/

namespace Converge.CommandLine

/-- Where a command writes: what it notes on the way, the commands that a device has taken, and the
texts that are added to files, with the paths of the files. All come behind what is there. -/
structure Journal where
  notes : List String
  pushed : List String
  added : List (String × String)

/-- What becomes of a command. -/
structure Ending where
  /-- The printed output. -/
  output : String
  trouble : Option Trouble
  journal : Journal

namespace Journal

/-- Nothing noted, taken or added. -/
def empty : Journal := ⟨[], [], []⟩

end Journal

/-- What commands have in common. -/
structure Setting where
  world : World
  settings : Settings
  verbosity : Nat
  quiet : Bool

namespace Setting

variable (c : Setting)

/-- A path with the home directory in its place. -/
def expanded (path : String) : String := FilePath.expanded c.world.home path

/-- Whether notes about what is done are wanted. -/
def informs : Bool := 0 < c.verbosity && !c.quiet

/-! ### What commands read -/

/-- The rule table in a file, in the format that the file's name tells. -/
def table (path : String) : Except Trouble RuleTable :=
  let path := c.expanded path
  match c.world.text? path with
  | none => .error (.failed .unreadable)
  | some s =>
    let document :=
      if FilePath.endsAsJson path then RuleDocument.ofJson? s else RuleDocument.ofToml? s
    match document with
    | none => .error (.failed (.ruleFile path))
    | some d => (RuleTable.ofSpecs d.rules).mapError .failed

/-- The dialect of a rule table with the prefixes of the settings. -/
def dialect (path : String) : Except Trouble Dialect :=
  (c.table path).map fun t => ⟨t, c.settings.prefixes⟩

/-- The standard input. -/
def standardInput : Except Trouble String :=
  match c.world.input with
  | none => .error .unreadableInput
  | some s => .ok s

/-- The text of a file, or of the standard input when none is named. -/
def inputText : Option String → Except Trouble String
  | none => c.standardInput
  | some path =>
    if FilePath.isDash path then c.standardInput
    else
      let path := c.expanded path
      match c.world.text? path with
      | none => .error (.unreadable path)
      | some s => .ok s

/-- Wanted data without the key `config` around it, when that is the only key. -/
def unwrapped : Tree → Tree
  | .map [(k, v)] => if k = "config" then v else .map [(k, v)]
  | t => t

/-- The wanted data in a file, in the format that the file's name tells. -/
def want (path : String) : Except Trouble Tree :=
  let path := c.expanded path
  match c.world.text? path with
  | none => .error (.unreadable path)
  | some s =>
    if FilePath.endsAsToml path then
      match Toml.readTree? s with
      | none => .error (.invalidToml path)
      | some t => .ok (unwrapped t)
    else
      match Json.read? s with
      | none => .error (.invalidJson path)
      | some t => .ok (unwrapped t)

/-! ### Commands -/

/-- Reads facts and prints them. -/
def parse (rules : String) (input : Option String) : Except Trouble (String × List String) := do
  let t ← c.table rules
  let s ← c.inputText input
  let facts ← (Facts.ofText t s).mapError Trouble.failed
  let notes := if facts.isEmpty && !c.quiet then
    ["[WARN  netrm::commands::parse] no rule matched the input"] else []
  return (Report.pretty facts, notes)

/-- The command lines of rules for one entry of the data after the other. -/
def renderAll (d : Dialect) (names : List String) (negate : Bool) :
    List Tree → Except Failure (List String)
  | [] => .ok []
  | entry :: rest => do
    let lines ← names.mapM fun name => d.render entry name negate
    let more ← renderAll d names negate rest
    return lines.flatMap Rendering.toLines ++ more

/-- Renders rules for wanted data, entry by entry when it is a list. -/
def render (rules wanted : String) (only : List String) (negate : Bool) :
    Except Trouble String := do
  let d ← c.dialect rules
  let t ← c.want wanted
  let names := if only.isEmpty then d.table.commandRules else only
  if names.isEmpty then .error .noCommands
  else
    let entries := match t with
      | .list items => items
      | t => [t]
    let lines ← (renderAll d names negate entries).mapError Trouble.failed
    return String.join (lines.map Report.line)

/-- Checks a rule table. -/
def validate (rules : String) (list : Bool) : Except Trouble String := do
  let t ← c.table rules
  return Report.table c.quiet list rules t

/-! ### Runs -/

/-- Notes what is done, when that is wanted. -/
def note (s : String) : Session Journal Unit :=
  modify fun j => if c.informs then { j with notes := j.notes ++ [s] } else j

/-- Adds commands to the end of a file, a line for each. -/
def addLines (path : String) (commands : List String) : Session Journal Unit :=
  if c.world.appendable path then do
    modify fun j =>
      { j with added := j.added ++ [(path, String.join (commands.map Report.line))] }
    c.note ("[INFO  netrm::device] appended " ++ Nat.repr commands.length ++ " command(s) to " ++
      path)
  else throw (.reported ("Could not open " ++ path))

/-- The device that a file stands for: it always shows the text of that file. The commands that it
takes come behind those that it has taken, and are added to another file, if there is one. -/
def device (shown : String) (push : Option String) : Device Journal where
  get _ := return shown
  edit commands := do
    c.note ("[INFO  rmtemplate::controller] pushing " ++ Nat.repr commands.length ++
      " command(s) to the device")
    push.forM fun path => c.addLines path commands
    modify fun j => { j with pushed := j.pushed ++ commands }

/-- The request of a run, and the device that it is connected to. -/
def request (o : RunOptions) : Except Trouble (Request × Option (Device Journal)) := do
  let config ← o.want.mapM c.want
  if o.state = .parsed then
    let s ← c.inputText o.running
    return (⟨o.state, config, some s⟩, none)
  else if o.state.contactsDevice then
    match o.running with
    | none => return (⟨o.state, config, none⟩, none)
    | some path =>
      let path := c.expanded path
      match c.world.text? path with
      | none => .error (.unreadableDevice path)
      | some shown =>
        return (⟨o.state, config, none⟩, some (c.device shown (o.push.map c.expanded)))
  else return (⟨o.state, config, none⟩, none)

/-- The options of a run; both the arguments and the settings can ask for check mode. -/
def runOptions (o : RunOptions) : Options :=
  ⟨o.check || c.settings.checkMode, c.settings.emptyFacts⟩

/-- The note of a run that would have pushed commands. -/
def checkNotes (o : RunOptions) (outcome : Outcome) : List String :=
  match outcome.commands with
  | some (first :: more) =>
    if (c.runOptions o).checkMode && c.informs then
      ["[INFO  rmtemplate::controller] check mode: not pushing " ++
        Nat.repr (first :: more).length ++ " command(s)"]
    else []
  | _ => []

/-- The output of a run. -/
def runOutput (o : RunOptions) (outcome : Outcome) : String :=
  if o.json then Report.pretty outcome.encode
  else
    Report.outcome (0 < c.verbosity) c.quiet (c.runOptions o).checkMode o.resource o.state outcome

/-- Runs the resource that a rule table describes. -/
def run (o : RunOptions) : Ending :=
  match (do return (← c.dialect o.rules, ← c.request o) : Except Trouble _) with
  | .error t => ⟨"", some t, .empty⟩
  | .ok (d, q, device) =>
    let source := FactSource.ofTable d.table c.settings.showCommand
    let resource := Resource.ofDialect o.resource d
    match (Run.run (c.runOptions o) resource q source device).run .empty with
    | (.error f, j) => ⟨"", some (.failed f), j⟩
    | (.ok outcome, j) =>
      ⟨c.runOutput o outcome, none, { j with notes := j.notes ++ c.checkNotes o outcome }⟩

/-- The ending of a command that changes nothing. -/
def ending (r : Except Trouble (String × List String)) : Ending :=
  match r with
  | .error t => ⟨"", some t, .empty⟩
  | .ok (output, notes) => ⟨output, none, ⟨notes, [], []⟩⟩

/-- Carries out a command. -/
def perform : Command → Ending
  | .parse rules input => ending (c.parse rules input)
  | .render rules want only negate =>
    ending ((c.render rules want only negate).map fun s => (s, []))
  | .run o => c.run o
  | .validate rules list => ending ((c.validate rules list).map fun s => (s, []))

end Setting

/-- Carries out an invocation: the settings are loaded before anything else is read. -/
def perform (w : World) (i : Invocation) : Ending :=
  match Settings.load w i.config with
  | .error t => ⟨"", some t, .empty⟩
  | .ok settings => Setting.perform ⟨w, settings, i.verbosity, i.quiet⟩ i.command

/-- What is printed about the version of the program or of a command. -/
def versionText (command : Option String) : String :=
  match command with
  | none => "netrm 0.1.0\n"
  | some name => "netrm-" ++ name ++ " 0.1.0\n"

/-- The exit code of an ending. -/
def Ending.exitCode (e : Ending) : Nat := if e.trouble.isSome then 1 else 0

/-- The directory behind a command that ran in it. -/
def Directory.after (d : Directory) (e : Ending) : Directory := d.appendAll e.journal.added

end Converge.CommandLine
