import Converge.Tree.Basic

/-!
# Merging trees

Maps merge key by key and recursively; in every other case the later value replaces the earlier one.
A key that both sides hold keeps its place.
-/

namespace Converge.Tree

mutual

/-- `base` with `other` merged over it. -/
def merged (base : Tree) : Tree → Tree
  | map fs =>
    match base with
    | map es => map (mergedFields es fs)
    | _ => map fs
  | other => other

/-- Entries with other entries merged over them, in order. -/
def mergedFields (es : List (String × Tree)) : List (String × Tree) → List (String × Tree)
  | [] => es
  | (k, v) :: rest =>
    mergedFields
      (Fields.put k (match Fields.get? k es with
        | some old => merged old v
        | none => v) es)
      rest

end

end Converge.Tree
