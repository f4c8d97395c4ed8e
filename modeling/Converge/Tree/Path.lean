import Converge.Decimal.Numeral
import Converge.Text.Find
import Converge.Tree.Basic

/-!
# Dotted paths

A path names a place in a tree by keys joined with dots. Empty segments do not count, and a numeric
segment picks an item of a list.
-/

namespace Converge.Tree

/-- The segments of a dotted path. -/
def segments (path : String) : List String :=
  ((Text.splitOn '.' path.toList).filter fun piece => !piece.isEmpty).map String.ofList

/-- One step down: by key into a map, by position into a list. -/
def step? (segment : String) : Tree → Option Tree
  | map entries => Fields.get? segment entries
  | list items => (Numeral.readIndex? segment.toList).bind fun i => items[i]?
  | _ => none

/-- Walks down along segments. -/
def walk? : List String → Tree → Option Tree
  | [], t => some t
  | segment :: rest, t => (step? segment t).bind (walk? rest)

/-- Walking along segments and then along more is one walk. -/
theorem walk?_append (first more : List String) (t : Tree) :
    walk? (first ++ more) t = (walk? first t).bind (walk? more) := by
  induction first generalizing t with
  | nil => rfl
  | cons segment rest ih =>
    simp only [List.cons_append, walk?]
    cases step? segment t with
    | none => rfl
    | some u => exact ih u

/-- The value at a dotted path. -/
def get? (t : Tree) (path : String) : Option Tree := walk? (segments path) t

/-- The value at a path of map keys alone. -/
def atKeys? : List String → Tree → Option Tree
  | [], t => some t
  | key :: rest, t => (field? key t).bind (atKeys? rest)

end Converge.Tree
