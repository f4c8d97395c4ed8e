import Converge.Json.Printer
import Converge.Placeholder

/-!
# Skeletons of facts

The result of a rule is a tree in which texts with markers are placeholders. Filling a skeleton
evaluates them: an entry whose value or key stands for nothing is left out, and an item of a list
that stands for nothing becomes null.
-/

namespace Converge

/-- A tree with placeholders. -/
inductive Skeleton where
  /-- A value that is copied as it is. -/
  | scalar (t : Tree)
  /-- A text with markers. -/
  | text (s : String)
  | sequence (items : List Skeleton)
  | map (entries : List (String × Skeleton))

namespace Skeleton

/-- The map without entries: the result of a rule that contributes no facts. -/
def empty : Skeleton := map []

instance : Inhabited Skeleton := ⟨empty⟩

mutual

/-- The skeleton that a tree writes. -/
def ofTree : Tree → Skeleton
  | .text s => if Placeholder.hasMarkers s then text s else scalar (.text s)
  | .list vs => sequence (ofItems vs)
  | .map es => map (ofFields es)
  | leaf => scalar leaf

/-- The skeletons of items. -/
def ofItems : List Tree → List Skeleton
  | [] => []
  | v :: rest => ofTree v :: ofItems rest

/-- The skeletons of entries. -/
def ofFields : List (String × Tree) → List (String × Skeleton)
  | [] => []
  | (k, v) :: rest => (k, ofTree v) :: ofFields rest

end

/-- The key that a filled key is: a text as it is, anything else as its JSON text. -/
def keyText : Tree → String
  | .text s => s
  | t => Json.compact t

/-- The key that a template of a key stands for. -/
def filledKey (key : String) (context : Tree) : Except Failure (Option String) :=
  (Placeholder.evaluate key context false).map fun t => t.map keyText

mutual

/-- What a skeleton stands for in a context. -/
def fill (context : Tree) : Skeleton → Except Failure (Option Tree)
  | scalar t => .ok (some t)
  | text s => Placeholder.evaluate s context false
  | sequence items => (fillItems context items).map fun vs => some (.list vs)
  | map entries => (fillFields context entries []).map fun fs => some (.map fs)

/-- The filled items, in which nothing is null. -/
def fillItems (context : Tree) : List Skeleton → Except Failure (List Tree)
  | [] => .ok []
  | v :: rest =>
    (fill context v).bind fun t =>
      (fillItems context rest).map fun ts => t.getD .null :: ts

/-- The filled entries behind those that are already there; a key that is already there keeps its
place and gets the new value. -/
def fillFields (context : Tree) :
    List (String × Skeleton) → Fields Tree → Except Failure (Fields Tree)
  | [], fs => .ok fs
  | (k, v) :: rest, fs =>
    (fill context v).bind fun filled =>
      match filled with
      | none => fillFields context rest fs
      | some t =>
        (filledKey k context).bind fun key =>
          match key with
          | none => fillFields context rest fs
          | some key => fillFields context rest (Fields.put key t fs)

end

end Skeleton

end Converge
