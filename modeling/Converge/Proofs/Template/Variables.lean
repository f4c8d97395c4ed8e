import Converge.Proofs.Template.Placeholders
import Converge.Proofs.Tree.Numbers
import Converge.Proofs.Tree.SortedFields

/-!
# The value of a variable

In data whose keys are distinct a variable has the value that the data holds under its name. A
placeholder that is a variable gives that value back, and behind plain text it is printed.

Main statements: `Placeholder.evaluate_variable`, `Placeholder.evaluate_variable_behind`.
-/

namespace Converge

namespace Template

namespace Value

theorem textCompare_eq_iff {s t : String} : textCompare s t = .eq ↔ s = t := by
  unfold textCompare
  split
  · rename_i hlt
    have hne : s ≠ t := fun heq => absurd (heq ▸ hlt) (String.lt_irrefl t)
    simp [hne]
  · simp

theorem order_ofText (s t : String) : order (ofText s) (ofText t) = textCompare s t := by
  simp [ofText, order, kind, leafCompare, operands?]

theorem lookup?_ofText (name : String) (fs : Fields Value) :
    lookup? (ofText name) (fs.map fun e => (ofText e.1, e.2)) = fs.get? name := by
  induction fs with
  | nil => rfl
  | cons e rest ih =>
    obtain ⟨k, v⟩ := e
    have hkey : (order (ofText k) (ofText name) == .eq) = decide (k = name) := by
      rw [order_ofText, Bool.eq_iff_iff, beq_iff_eq, textCompare_eq_iff, decide_eq_true_iff]
    simp [lookup?, Fields.get?, hkey, ih]

theorem get?_ofFields (name : String) (fs : Fields Tree) :
    Fields.get? name (ofFields fs) = (fs.get? name).map ofTree := by
  induction fs with
  | nil => rfl
  | cons e rest ih =>
    obtain ⟨k, v⟩ := e
    by_cases hk : k = name <;> simp [ofFields, Fields.get?, hk, ih]

theorem keys_ofFields (fs : Fields Tree) : Fields.keys (ofFields fs) = Fields.keys fs := by
  induction fs with
  | nil => rfl
  | cons e rest ih =>
    obtain ⟨k, v⟩ := e
    simpa [ofFields, Fields.keys] using ih

/-- The data of a template holds under a name what its tree does. -/
theorem item?_ofTree {fs : Fields Tree} (h : (Fields.keys fs).Nodup) (name : String) :
    (ofTree (.map fs)).item? (ofText name) = (fs.get? name).map ofTree := by
  have hkeys : (Fields.keys (ofFields fs)).Nodup := by rwa [keys_ofFields]
  rw [ofTree, item?, lookup?_ofText, Fields.get?_sorted hkeys, get?_ofFields]

/-- Data is never undefined. -/
theorem present_ofTree (strict : Bool) (t : Tree) : (ofTree t).present strict = .ok (ofTree t) := by
  cases t <;> simp [ofTree, present, ofText]

end Value

namespace Evaluation

variable {fs : Fields Tree} (hd : (Fields.keys fs).Nodup) {name : String} {v : Tree}
  (h : fs.get? name = some v)

include hd h

/-- At the start of a template a name has the value that the data holds under it. -/
theorem find?_rootScope (strict : Bool) (blocks : List (String × List Stmt)) (m : Memory) :
    (rootScope strict (Value.ofTree (.map fs)) blocks).find? m name = some (Value.ofTree v) := by
  have hframe : Frame.empty.find? name = none := by
    simp [Frame.empty, Frame.find?]
  have hitem : (Value.ofTree (.map fs)).item? (Value.ofText name) = some (Value.ofTree v) := by
    rw [Value.item?_ofTree hd, h]
    rfl
  simp [Scope.find?, rootScope, hframe, Scope.inBase?, hitem]

theorem eval_variable (hooks : Hooks) (strict : Bool) (blocks : List (String × List Stmt)) :
    (eval hooks (rootScope strict (Value.ofTree (.map fs)) blocks) (.variable name)).run .initial =
      .ok (Value.ofTree v, .initial) := by
  have hread := find?_rootScope hd h strict blocks .initial
  have hrefresh : Memory.initial.refresh (Value.ofTree v) = Value.ofTree v := rfl
  rw [eval]
  simp [Scope.read?, hread, hrefresh]
  rfl

end Evaluation

section

variable {fs : Fields Tree} (hd : (Fields.keys fs).Nodup) {name : String} {v : Tree}
  (h : fs.get? name = some v)

include hd h

theorem Expr.value_variable (strict : Bool) :
    (Expr.variable name).value strict (Value.ofTree (.map fs)) = .ok (Value.ofTree v) := by
  rw [Expr.value, Evaluation.run, StateT.run'_eq, Evaluation.eval_variable hd h]
  rfl

end

end Template

namespace Placeholder

open Template

theorem hasMarkersIn_of_not_mem {cs : List Char} (h : '\x7b' ∉ cs) : hasMarkersIn cs = false := by
  induction cs with
  | nil => rfl
  | cons c cs ih =>
    have hc : c ≠ '\x7b' := fun hc => h (by simp [hc])
    have hcs := ih fun hcs => h (List.mem_cons_of_mem c hcs)
    unfold hasMarkersIn
    split
    · rename_i heq
      exact absurd (List.cons.inj heq).1 hc
    · rename_i heq
      exact absurd (List.cons.inj heq).1 hc
    · rename_i heq
      exact absurd (List.cons.inj heq).1 hc
    · rename_i heq
      obtain ⟨-, rfl⟩ := List.cons.inj heq
      exact hcs
    · rename_i heq
      cases heq

/-- A name holds no characters of a marker. -/
theorem holdsMarker_variable {name : String} (h : isVariable name = true) :
    holdsMarker name.toList = false := by
  have hbrace : ∀ c, Token.isNamePart c = false → c ∉ name.toList := by
    intro c hpart hmem
    rw [Token.isNamePart_of_mem h hmem] at hpart
    cases hpart
  rw [holdsMarker, hasMarkersIn_of_not_mem (hbrace _ rfl),
    Text.contains_of_not_mem List.mem_cons_self (hbrace _ rfl)]
  rfl

variable {fs : Fields Tree} (hd : (Fields.keys fs).Nodup) {name : String} {v : Tree}
  (hv : fs.get? name = some v) (hname : isVariable name = true)

include hd hv hname

/-- **A variable keeps its type.** A placeholder that is a variable gives the data under its name,
where an empty value is nothing and a text may become a number. -/
theorem evaluate_variable {s : String} (hs : s.toList = Token.variableChars "" name)
    (strict : Bool) :
    evaluate s (.map fs) strict = match (Value.ofTree v).toTree? with
      | some t => .ok (normalized t)
      | none => .error .conversion := by
  have hvalue : value s strict (Value.ofTree (.map fs)) = .ok (Value.ofTree v) := by
    rw [value_expression hs (holdsMarker_variable hname) (Expr.read?_variable hname),
      Expr.value_variable hd hv]
  rw [evaluate, hasMarkers_expression hs, hvalue]
  cases v <;> rfl

theorem evaluate_variable_behind {s front : String}
    (hs : s.toList = Token.variableChars front name) (hne : front ≠ "")
    (hfront : '\x7b' ∉ front.toList)
    (hstart : ∀ c ∈ front.toList.head?, Text.isBlank c = false) (strict : Bool) :
    evaluate s (.map fs) strict =
      .ok (some (Tree.ofCaptured (front ++ (Value.ofTree v).printed))) := by
  have hnone : expression? s = none :=
    expression?_behind hs (by simpa using hne) hfront hstart
  have hvalue : value s strict (Value.ofTree (.map fs)) =
      .ok (.ofText (front ++ (Value.ofTree v).printed)) := by
    rw [value_of_expression? hs hnone hfront (Expr.read?_variable hname)
      (Expr.value_variable hd hv strict) (Value.present_ofTree strict v), String.ofList_toList]
  have hfull : (front ++ (Value.ofTree v).printed).isEmpty = false := by
    simp [hne]
  rw [evaluate, hasMarkers_expression hs, hvalue]
  simp [Value.ofText, Value.toTree?, normalized, hfull]

end Placeholder

end Converge
