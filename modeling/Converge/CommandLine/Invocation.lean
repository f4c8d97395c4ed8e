import Converge.CommandLine.Options
import Converge.State

/-!
# Invocations

What a list of arguments asks for: a command with its own options, and options that every command
takes, before or behind its name.
-/

namespace Converge.CommandLine

/-- The options of a run. -/
structure RunOptions where
  rules : String
  state : State
  want : Option String
  running : Option String
  push : Option String
  check : Bool
  resource : String
  json : Bool

/-- A command with its options. -/
inductive Command where
  /-- Reads facts from output; without an input from the standard input. -/
  | parse (rules : String) (input : Option String)
  /-- Renders the commands of some or all rules for wanted data. -/
  | render (rules want : String) (only : List String) (negate : Bool)
  /-- Runs the resource that a rule table describes. -/
  | run (o : RunOptions)
  /-- Tells whether a rule table can be used. -/
  | validate (rules : String) (list : Bool)

/-- What the arguments ask for. -/
structure Invocation where
  verbosity : Nat
  quiet : Bool
  /-- The file of settings. -/
  config : Option String
  command : Command

/-- Why arguments lead to no invocation. -/
inductive Refusal where
  | misuse
  /-- The version of a command was asked for, or of the program. -/
  | version (command : Option String)
deriving DecidableEq

namespace Invocation

/-- Paths are not empty. -/
def path : Arity := .once fun v => !v.isEmpty

/-- The options that every command takes. -/
def common : List OptionSpec :=
  [⟨"verbose", some 'v', .count⟩, ⟨"quiet", some 'q', .flag⟩, ⟨"config", some 'c', path⟩]

/-- The options of a command, by its name. -/
def optionsOf? : String → Option (List OptionSpec)
  | "parse" => some [⟨"rules", some 'r', path⟩, ⟨"input", some 'i', path⟩]
  | "render" => some
    [⟨"rules", some 'r', path⟩, ⟨"want", some 'w', path⟩, ⟨"rule", none, .many⟩,
      ⟨"negate", none, .flag⟩]
  | "run" => some
    [⟨"rules", some 'r', path⟩, ⟨"state", some 's', .once fun v => (State.ofName? v).isSome⟩,
      ⟨"want", some 'w', path⟩, ⟨"running", none, path⟩, ⟨"push", none, path⟩,
      ⟨"check", none, .flag⟩, ⟨"resource", none, .once fun _ => true⟩, ⟨"json", none, .flag⟩]
  | "validate" => some [⟨"rules", some 'r', path⟩, ⟨"list", some 'l', .flag⟩]
  | _ => none

/-- The command of a name with given options, unless one is missing. -/
def commandOf? (name : String) (g : Given) : Option Command := do
  let rules ← g.value? "rules"
  match name with
  | "parse" => return .parse rules (g.value? "input")
  | "render" => return .render rules (← g.value? "want") (g.values "rule") (g.has "negate")
  | "run" =>
    let state ← (g.value? "state").bind State.ofName?
    return .run
      { rules, state, want := g.value? "want", running := g.value? "running"
        push := g.value? "push", check := g.has "check"
        resource := (g.value? "resource").getD "config", json := g.has "json" }
  | "validate" => return .validate rules (g.has "list")
  | _ => none

/-- A stop while the options of the program or of a command were read. -/
def refusal (command : Option String) : Stop → Refusal
  | .misuse => .misuse
  | .version => .version command

/-- The invocation that arguments write. Of a common option that stands on both sides of the
command's name the second counts; a file of settings that the environment names counts last. -/
def ofArguments (args : List String) (environment : Option String) :
    Except Refusal Invocation := do
  let (before, rest) ← (readOptions common args.length [] args).mapError (refusal none)
  match rest with
  | [] => .error .misuse
  | name :: rest =>
    match optionsOf? name with
    | none => .error .misuse
    | some specs =>
      let (g, more) ←
        (readOptions (common ++ specs) rest.length [] rest).mapError (refusal (some name))
      match more, commandOf? name g with
      | [], some command => do
        let config := (g.value? "config").or ((before.value? "config").or environment)
        if config = some "" then .error .misuse
        else return {
          verbosity := if g.has "verbose" then g.count "verbose" else before.count "verbose"
          quiet := g.has "quiet" || before.has "quiet"
          config, command }
      | _, _ => .error .misuse

end Invocation

end Converge.CommandLine
