import Converge.Json.Printer
import Converge.Text.Lines

/-!
# Rendered commands

The command text of one rule as none, one or several lines. No line is blank or has blanks behind
it.
-/

namespace Converge

/-- The lines of one rendered rule. -/
inductive Rendering where
  | empty
  | line (s : String)
  | lines (ss : List String)
deriving DecidableEq

namespace Rendering

/-- The form that fits the count of lines. -/
def ofLines : List String → Rendering
  | [] => empty
  | [s] => line s
  | ss => lines ss

/-- The lines. -/
def toLines : Rendering → List String
  | empty => []
  | line s => [s]
  | lines ss => ss

/-- Whether there are no lines. -/
def isEmpty : Rendering → Bool
  | empty => true
  | _ => false

/-- The form that fits some lines has those lines. -/
@[simp]
theorem toLines_ofLines (ss : List String) : (ofLines ss).toLines = ss := by
  match ss with
  | [] => rfl
  | [_] => rfl
  | _ :: _ :: _ => rfl

/-- The form that fits some lines is empty exactly when there are none. -/
@[simp]
theorem isEmpty_ofLines (ss : List String) : (ofLines ss).isEmpty = ss.isEmpty := by
  match ss with
  | [] => rfl
  | [_] => rfl
  | _ :: _ :: _ => rfl

/-- The lines of an item: those of a text, one for a number or `true`, none for anything else. -/
def itemLines : Tree → List String
  | .text s => Text.cleanLines s
  | .bool true => [Json.leafText (.bool true)]
  | .int i => [Json.leafText (.int i)]
  | .float x => [Json.leafText (.float x)]
  | _ => []

/-- The lines of a value: those of its items when it is a list. -/
def valueLines : Tree → List String
  | .list items => items.flatMap itemLines
  | t => itemLines t

/-- The command text that a value is. -/
def ofValue (t : Option Tree) : Rendering :=
  ofLines ((t.map valueLines).getD [])

/-- The lines with a text and a space in front of each. -/
def withPrefix (p : String) : Rendering → Rendering
  | empty => empty
  | line s => line (p ++ " " ++ s)
  | lines ss => lines (ss.map fun s => p ++ " " ++ s)

/-- Every line gets what stands in front. -/
@[simp]
theorem toLines_withPrefix (p : String) (r : Rendering) :
    (r.withPrefix p).toLines = r.toLines.map fun s => p ++ " " ++ s := by
  cases r <;> rfl

/-- What stands in front does not change the form. -/
theorem withPrefix_ofLines (p : String) (ss : List String) :
    (ofLines ss).withPrefix p = ofLines (ss.map fun s => p ++ " " ++ s) := by
  match ss with
  | [] => rfl
  | [_] => rfl
  | _ :: _ :: _ => rfl

end Rendering

end Converge
