import Converge.Proofs.CleanCommands
import Converge.Proofs.Text.JoinedLines

/-!
# Command text read again

Command text has one form for each count of lines, with words in front of the lines as without them.
Whatever value it came from, its lines are clean, and clean lines stay as they are when they are
read as command text once more: as one text with line feeds between them, or as a list of texts.

Main statement: `Rendering.ofValue_reread`.
-/

namespace Converge.Rendering

open Text

/-- That command text has the form for its count of lines. -/
structure Canonical (r : Rendering) : Prop where
  empty : r = .empty ↔ r.toLines.length = 0
  line : (∃ s, r = .line s) ↔ r.toLines.length = 1
  lines : (∃ ss, r = .lines ss) ↔ 2 ≤ r.toLines.length

theorem canonical_ofLines (ss : List String) : (ofLines ss).Canonical := by
  rcases ss with _ | ⟨s, _ | ⟨t, rest⟩⟩ <;> constructor <;> simp [ofLines, toLines]

/-- Words in front of the lines keep the form. -/
theorem canonical_withPrefix_ofLines (p : String) (ss : List String) :
    ((ofLines ss).withPrefix p).Canonical := by
  rw [withPrefix_ofLines]
  exact canonical_ofLines _

theorem ofValue_some (t : Tree) : ofValue (some t) = ofLines (valueLines t) := rfl

section

variable {ss : List String} (h : ∀ s ∈ ss, CleanLine s)

include h

/-- Clean lines in one text are the lines of that text. -/
theorem valueLines_joined : valueLines (.text ("\n".intercalate ss)) = ss :=
  cleanLines_intercalate h

/-- Clean lines in a list are the lines of that list. -/
theorem valueLines_listed : valueLines (.list (ss.map .text)) = ss := by
  have hitems : ∀ s ∈ ss, itemLines (.text s) = [s] := fun s hs => (h s hs).cleanLines_eq
  rw [valueLines, List.flatMap_map, List.flatMap_congr hitems, List.flatMap_singleton']

end

/-- **Command text is in one form and stays the same when it is read again.** The form tells whether
there is no line, one or more, also with words in front of the lines; and the lines joined by line
feeds, or listed one by one, are a value of the same command text. -/
theorem ofValue_reread (v : Option Tree) :
    (ofValue v).Canonical ∧
    (∀ p, ((ofValue v).withPrefix p).Canonical ∧
      ((ofValue v).withPrefix p).toLines = (ofValue v).toLines.map fun s => p ++ " " ++ s) ∧
    ofValue (some (.text ("\n".intercalate (ofValue v).toLines))) = ofValue v ∧
    ofValue (some (.list ((ofValue v).toLines.map .text))) = ofValue v := by
  have hclean : ∀ s ∈ (ofValue v).toLines, CleanLine s := fun s hs => cleanLine_of_mem_ofValue hs
  have hform : ofLines (ofValue v).toLines = ofValue v := by rw [ofValue, toLines_ofLines]
  refine ⟨canonical_ofLines _, fun p => ⟨canonical_withPrefix_ofLines p _, toLines_withPrefix p _⟩,
    ?_, ?_⟩
  · rw [ofValue_some, valueLines_joined hclean, hform]
  · rw [ofValue_some, valueLines_listed hclean, hform]

/-- A carriage return within a line, blanks in front of one and a number are read again as they
are. -/
example :
    let v := some (.list [.text "a\rb \r\n\u3000\n  c\r\r", .null, .int 7])
    (ofValue v).toLines = ["a\rb", "  c", "7"] ∧
      ofValue (some (.text "a\rb\n  c\n7")) = ofValue v := by
  decide +kernel

end Converge.Rendering
