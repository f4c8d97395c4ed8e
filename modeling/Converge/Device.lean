import Converge.Comparison
import Converge.Facts
import Converge.Tree.Empties

/-!
# Devices and sources of facts

A device answers commands and takes configuration; what it does may depend on a state that it
changes, and any call may fail. Facts come from a live device or from captured output. Nothing is
assumed of either, so what holds of a run holds for every behaviour of both.
-/

namespace Converge

/-- Computations that change a state of type `ω` and may fail. A failure keeps the state. -/
abbrev Session (ω : Type) := ExceptT Failure (StateM ω)

/-- A connection to a device whose state has type `ω`. -/
structure Device (ω : Type) where
  /-- The output of a command that only reads. -/
  get : (command : String) → Session ω String
  /-- Takes configuration commands in order. -/
  edit : (commands : List String) → Session ω Unit

/-- A call of a device. -/
inductive Call where
  | get (command : String)
  | edit (commands : List String)
deriving DecidableEq

namespace Device

variable {ω : Type}

/-- A computation beside a list of calls that it leaves alone. -/
def besideCalls {α : Type} (act : Session ω α) : Session (List Call × ω) α := fun (calls, s) =>
  match act.run s with
  | (r, s) => (r, calls, s)

/-- Writes a call behind the calls so far. -/
def note (c : Call) : Session (List Call × ω) Unit :=
  modify fun (calls, s) => (calls ++ [c], s)

/-- The device that writes down its calls. -/
def recording (d : Device ω) : Device (List Call × ω) where
  get command := do
    note (.get command)
    besideCalls (d.get command)
  edit commands := do
    note (.edit commands)
    besideCalls (d.edit commands)

/-- A recorded reading call is written down, whether it fails or not. -/
theorem run_recording_get (d : Device ω) (command : String) (calls : List Call) (s : ω) :
    (d.recording.get command).run (calls, s) =
      (((d.get command).run s).1, calls ++ [.get command], ((d.get command).run s).2) := rfl

/-- A recorded changing call is written down, whether it fails or not. -/
theorem run_recording_edit (d : Device ω) (commands : List String) (calls : List Call) (s : ω) :
    (d.recording.edit commands).run (calls, s) =
      (((d.edit commands).run s).1, calls ++ [.edit commands], ((d.edit commands).run s).2) := rfl

end Device

/-- Facts of a resource, with what should be said about them. -/
structure Gathered where
  facts : Tree
  warnings : List String

/-- A source of facts about resources by name. -/
structure FactSource (ω : Type) where
  /-- Asks a device. -/
  live : Device ω → (resource : String) → Session ω Gathered
  /-- Reads captured output. -/
  offline : (resource output : String) → Session ω Gathered

namespace FactSource

variable {ω : Type}

/-- The facts of some output, with a warning when there are none. -/
def ofOutput (t : RuleTable) (resource output : String) : Except Failure Gathered :=
  match Facts.ofText t output with
  | .error f => .error (.passedOn f)
  | .ok facts => .ok
    { facts
      warnings :=
        if facts.isEmpty then ["no " ++ resource ++ " facts found in device output"] else [] }

/-- The source that reads the output of one command by a rule table. -/
def ofTable (t : RuleTable) (command : String) : FactSource ω where
  live device resource := do
    let output ← device.get command
    liftM (ofOutput t resource output)
  offline resource output := liftM (ofOutput t resource output)

end FactSource

end Converge
