import Converge.CommandLine.World
import Converge.Dialect
import Converge.Toml.Reader

/-!
# Settings

What a file of settings can say about all commands. Everything has a value of its own when the file
does not say it.
-/

namespace Converge.CommandLine

/-- What goes wrong in a command, by its cause. -/
inductive Trouble where
  /-- A file cannot be read as text. -/
  | unreadable (path : String)
  /-- The file that stands for a device cannot be read as text. -/
  | unreadableDevice (path : String)
  /-- The standard input cannot be read as text. -/
  | unreadableInput
  | invalidToml (path : String)
  | invalidJson (path : String)
  /-- There is nowhere to look for settings. -/
  | noSettingsDirectory
  /-- No rule has a command template. -/
  | noCommands
  | failed (f : Failure)

namespace Trouble

/-- The wording of a failure without what caused it further down. -/
def headline : Failure → String
  | .template text _ => "failed to evaluate template '" ++ text ++ "'"
  | .passedOn cause => headline cause
  | f => f.message

/-- The wording of a trouble. -/
def message : Trouble → String
  | unreadable path => "Could not read " ++ path
  | unreadableDevice path => "Could not read running config " ++ path
  | unreadableInput => "Could not read stdin"
  | invalidToml path => "Invalid TOML format in " ++ path
  | invalidJson path => "Invalid JSON format in " ++ path
  | noSettingsDirectory => "Could not determine config directory"
  | noCommands => "rule table has no rule with a command template"
  | failed f => headline f

end Trouble

/-- What a file of settings says. -/
structure Settings where
  prefixes : Prefixes
  /-- Whether runs push nothing. -/
  checkMode : Bool
  /-- The command that shows the configuration of a device. -/
  showCommand : String
  /-- The facts of a device that reports none. -/
  emptyFacts : Tree

namespace Settings

/-- What holds when no file says otherwise. -/
def standard : Settings := ⟨.standard, false, "show running-config", .empty⟩

variable {α : Type} [Source α]

/-- The empty facts that a word names. -/
def emptyFacts? (v : α) : Option Tree :=
  (Record.word? v).bind fun
    | "map" => some .empty
    | "list" => some (.list [])
    | _ => none

/-- The settings that a record of them writes. -/
def decode? (v : α) : Option Settings := do
  let field ← Record.fields? ["prefix", "check_mode", "show_command", "empty_facts"] v
  let prefixes ← Record.optional standard.prefixes Prefixes.decode? (field 0)
  let checkMode ← Record.optional standard.checkMode Record.bool? (field 1)
  let showCommand ← Record.optional standard.showCommand Record.text? (field 2)
  let emptyFacts ← Record.optional standard.emptyFacts emptyFacts? (field 3)
  return { prefixes, checkMode, showCommand, emptyFacts }

/-- The settings in a file. -/
def ofFile (w : World) (path : String) : Except Trouble Settings :=
  match w.text? path with
  | none => .error (.unreadable path)
  | some s =>
    match (Toml.read? s).bind fun t => decode? (Toml.Item.table .headed t) with
    | none => .error (.invalidToml path)
    | some settings => .ok settings

/-- The settings in a named file or, where none is named, in the file that is there by default. -/
def load (w : World) : Option String → Except Trouble Settings
  | some path => ofFile w (FilePath.expanded w.home path)
  | none =>
    match w.settings with
    | none => .error .noSettingsDirectory
    | some path => if w.holds path then ofFile w path else .ok standard

end Settings

end Converge.CommandLine
