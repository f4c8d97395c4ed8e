import Converge.Decimal.Numeral
import Converge.Text.Blank

/-!
# States of a resource

What one run is asked to do with a resource: change it, read it, or work offline.
-/

namespace Converge

/-- The state requested of a resource. -/
inductive State where
  /-- Add the wanted configuration to what is there. -/
  | merged
  /-- Replace the configuration of the wanted items. -/
  | replaced
  /-- Make the configuration equal to the wanted one. -/
  | overridden
  /-- Remove configuration. -/
  | deleted
  /-- Remove the whole resource. -/
  | purged
  /-- Read the current facts. -/
  | gathered
  /-- Render the wanted configuration without a device. -/
  | rendered
  /-- Read facts from captured output without a device. -/
  | parsed
deriving DecidableEq

namespace State

/-- All states in order. -/
def all : List State :=
  [merged, replaced, overridden, deleted, purged, gathered, rendered, parsed]

/-- The name of a state. -/
def name : State → String
  | merged => "merged"
  | replaced => "replaced"
  | overridden => "overridden"
  | deleted => "deleted"
  | purged => "purged"
  | gathered => "gathered"
  | rendered => "rendered"
  | parsed => "parsed"

/-- States that compute commands and may push them. -/
def isAction : State → Bool
  | merged => true
  | replaced => true
  | overridden => true
  | deleted => true
  | purged => true
  | _ => false

/-- States that need a wanted configuration. -/
def requiresWant : State → Bool
  | merged => true
  | replaced => true
  | overridden => true
  | rendered => true
  | _ => false

/-- States that talk to a device. -/
def contactsDevice (s : State) : Bool := s.isAction || s = gathered

/-- The state of exactly that name. -/
def ofName? (s : String) : Option State := all.find? fun state => state.name = s

/-- A text in lower case, ASCII letters alone being changed. -/
def lowered (s : String) : String := String.ofList (s.toList.map Numeral.lowerAscii)

/-- The state that a text names, in letters of either case and with blanks around it. -/
def read? (s : String) : Option State :=
  all.find? fun state => state.name = lowered (Text.trimmed s)

/-- A state is found by its name. -/
@[simp]
theorem ofName?_name (s : State) : ofName? s.name = some s := by
  cases s <;> decide

end State

end Converge
