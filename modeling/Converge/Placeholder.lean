import Converge.Failure
import Converge.Template.Evaluation
import Converge.Tree.Numeric

/-!
# Placeholders in data

A text with template markers stands for a value. Where one placeholder spans the whole text the
value keeps its type; otherwise the text is rendered. Empty results are no results, and a result
that is a text becomes a number where it writes one canonically.
-/

namespace Converge.Placeholder

/-- Whether a text has the opening marker of an expression, a statement or a comment. -/
def hasMarkersIn : List Char → Bool
  | '\x7b' :: '\x7b' :: _ => true
  | '\x7b' :: '%' :: _ => true
  | '\x7b' :: '#' :: _ => true
  | _ :: rest => hasMarkersIn rest
  | [] => false

/-- Whether a text has a template marker. -/
def hasMarkers (s : String) : Bool := hasMarkersIn s.toList

/-- The markers that open an expression, a statement and a comment. -/
def openings : List (List Char) := [['\x7b', '\x7b'], ['\x7b', '%'], ['\x7b', '#']]

/-- That a marker stands somewhere in a text. -/
def Marked (s : String) : Prop := ∃ opening ∈ openings, opening <:+: s.toList

theorem hasMarkersIn_iff {cs : List Char} :
    hasMarkersIn cs = true ↔ ∃ opening ∈ openings, opening <:+: cs := by
  fun_induction hasMarkersIn cs with
  | case1 rest => simp [openings, List.infix_cons_iff]
  | case2 rest => simp [openings, List.infix_cons_iff]
  | case3 rest => simp [openings, List.infix_cons_iff]
  | case4 c rest hexpression hstatement hcomment ih =>
    -- No marker begins here, so one that stands in the text stands in the rest of it.
    have hlater : ∀ opening ∈ openings, ¬opening <+: c :: rest := by
      rintro opening hopening ⟨more, hmore⟩
      simp only [openings, List.mem_cons, List.not_mem_nil, or_false] at hopening
      rcases hopening with rfl | rfl | rfl
      · cases hmore
        exact hexpression more rfl rfl
      · cases hmore
        exact hstatement more rfl rfl
      · cases hmore
        exact hcomment more rfl rfl
    rw [ih]
    constructor
    · rintro ⟨opening, hopening, hinside⟩
      exact ⟨opening, hopening, List.infix_cons hinside⟩
    · rintro ⟨opening, hopening, hinside⟩
      have hrest := (List.infix_cons_iff.mp hinside).resolve_left (hlater opening hopening)
      exact ⟨opening, hopening, hrest⟩
  | case5 => simp [openings]

theorem hasMarkers_eq_false_iff {s : String} : hasMarkers s = false ↔ ¬Marked s := by
  rw [← Bool.not_eq_true, hasMarkers, hasMarkersIn_iff, Marked]

/-- The expression of a text that is one placeholder, blanks around it aside. -/
def expression? (s : String) : Option (List Char) :=
  (Text.after? ['\x7b', '\x7b'] (Text.trim s.toList)).bind fun rest =>
    (Text.before? ['\x7d', '\x7d'] rest).bind fun inner =>
      if hasMarkersIn inner || Text.contains ['\x7d', '\x7d'] inner then none
      else
        let inner := (Text.after? ['-'] inner).getD inner
        some (Text.trim ((Text.before? ['-'] inner).getD inner))

/-- The value that a text with markers stands for. -/
def value (s : String) (strict : Bool) (context : Template.Value) :
    Except Template.Fault Template.Value :=
  match expression? s with
  | some cs => do
    let e ← Template.Expr.read? cs
    e.value strict context
  | none => do
    let body ← Template.Stmt.readAll? s
    return .ofText (← Template.Stmt.output body strict context)

/-- What is kept of a result: nothing of an empty one, and a number where a text writes one. -/
def normalized : Tree → Option Tree
  | .null => none
  | .text s => if s.isEmpty then none else some (Tree.ofCaptured s)
  | t => some t

/-- What a text stands for over some data. A text without markers stands for itself. Where
undefined values are no faults, a text that looks inside one stands for nothing. -/
def evaluate (s : String) (context : Tree) (strict : Bool) : Except Failure (Option Tree) :=
  if !hasMarkers s then .ok (some (.text s))
  else match value s strict (Template.Value.ofTree context) with
    | .error .undefinedValue =>
      if strict then .error (.template s .undefinedValue) else .ok none
    | .error fault => .error (.template s fault)
    | .ok (.undefined _) =>
      if strict then .error (.template s .undefinedValue) else .ok none
    | .ok v =>
      match v.toTree? with
      | some t => .ok (normalized t)
      | none => .error .conversion

end Converge.Placeholder
