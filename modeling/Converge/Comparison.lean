import Converge.Dialect
import Converge.Tree.Path

/-!
# Comparing trees

Rule by rule, the values at the rule's path in a wanted and in a current tree decide which commands
are written: those that set the wanted value, those that remove the current one, or none. A null
counts as nothing. A flag that is wanted off and is not there needs no command, while a current flag
that is off and is not wanted is set.
-/

namespace Converge

/-- Writing commands one behind the other. A failure keeps those already written. -/
abbrev Emitter := ExceptT Failure (StateM (List String))

namespace Comparison

/-- The value at a path, a null being none. -/
def lookup (path : String) (data : Tree) : Option Tree :=
  match data.get? path with
  | some .null => none
  | found => found

/-- The tree from which a rule is rendered. -/
inductive Side where
  | want
  | current
deriving DecidableEq

/-- Whether a wanted value and a current one are equal. -/
def sameAs (w : Tree) : Option Tree → Bool
  | none => false
  | some h => w.same h

/-- From which side a rule is rendered, and whether it removes: by the wanted and the current
value. -/
def verdict : (want current : Option Tree) → Option (Side × Bool)
  | some w, h =>
    if sameAs w h then none
    else match w with
      | .bool false => if h.isNone then none else some (.want, true)
      | .bool true => some (.want, false)
      | _ => some (.want, false)
  | none, some (.bool b) => some (.current, b)
  | none, some _ => some (.current, true)
  | none, none => none

variable (d : Dialect)

/-- Writes the commands of a rule for some data and gives their number. -/
def emit (data : Tree) (name : String) (negate : Bool) : Emitter Nat := do
  let r ← liftM (d.render data name negate)
  modify fun commands => commands ++ r.toLines
  return r.toLines.length

/-- What is written comes behind what was there, and its number is given. -/
theorem run_emit (data : Tree) (name : String) (negate : Bool) (written : List String) :
    (emit d data name negate).run written =
      match d.render data name negate with
      | .ok r => (.ok r.toLines.length, written ++ r.toLines)
      | .error f => (.error f, written) := by
  cases h : d.render data name negate <;> simp [emit, h] <;> rfl

/-- Writes commands made elsewhere. -/
def extend (more : List String) : Emitter Unit := modify fun commands => commands ++ more

/-- Writes the commands that one rule needs. -/
def compareRule (want current : Tree) (name : String) : Emitter Unit := do
  let r ← liftM (d.table.require name)
  match verdict (lookup r.path want) (lookup r.path current) with
  | none => return ()
  | some (.want, negate) => let _ ← emit d want name negate
  | some (.current, negate) => let _ ← emit d current name negate

/-- Writes the commands that named rules need, one rule after the other. -/
def compare (want current : Tree) : List String → Emitter Unit
  | [] => return ()
  | name :: rest => do
    compareRule d want current name
    compare want current rest

/-- Writes the commands of the first candidate that has any, and tells whether one had. -/
def emitFirst (data : Tree) (negate : Bool) : List String → Emitter Bool
  | [] => return false
  | name :: rest => do
    let count ← emit d data name negate
    if 0 < count then return true else emitFirst data negate rest

/-- The commands that named rules need on their own. -/
def commands (names : List String) (want current : Tree) : Except Failure (List String) :=
  match (compare d want current names).run [] with
  | (.ok _, written) => .ok written
  | (.error f, _) => .error f

/-- Writes a section: the commands that named rules need, below the commands of a heading rule. Where
nothing is needed there is no heading, and where the heading fails the commands are written all the
same. -/
def writeSection (names : List String) (want current : Tree) (data : Tree) (heading : String)
    (negate : Bool) : Emitter Nat := do
  let inner ← liftM (commands d names want current)
  if inner.isEmpty then return 0
  else
    let above ← tryCatch (Except.ok <$> emit d data heading negate) fun f => return .error f
    extend inner
    return (← liftM above) + inner.length

end Comparison

end Converge
