import Converge.Tree.Basic

/-!
# Empty values

`null`, the empty text, the empty list and the empty map carry no information; `false` and `0` do.
-/

namespace Converge.Tree

/-- Whether a value carries no information. -/
def isEmpty : Tree → Bool
  | null => true
  | text s => s.isEmpty
  | list items => items.isEmpty
  | map entries => entries.isEmpty
  | _ => false

mutual

/-- Drops empty values from maps and lists at every depth, innermost first. -/
def withoutEmpties : Tree → Tree
  | list items => list (withoutEmptyItems items)
  | map entries => map (withoutEmptyFields entries)
  | leaf => leaf

/-- The items that are not empty once their own empty values are dropped. -/
def withoutEmptyItems : List Tree → List Tree
  | [] => []
  | v :: rest =>
    let kept := withoutEmpties v
    if kept.isEmpty then withoutEmptyItems rest else kept :: withoutEmptyItems rest

/-- The entries whose values are not empty once their own empty values are dropped. -/
def withoutEmptyFields : List (String × Tree) → List (String × Tree)
  | [] => []
  | (k, v) :: rest =>
    let kept := withoutEmpties v
    if kept.isEmpty then withoutEmptyFields rest else (k, kept) :: withoutEmptyFields rest

end

end Converge.Tree
