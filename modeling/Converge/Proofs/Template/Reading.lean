import Converge.Proofs.Text.OneLine
import Converge.Template.Grammar

/-!
# Reading a variable

A name that is no constant and no operator reads as a variable wherever the expression ends behind
it.

Main statement: `Expr.read?_variable`.
-/

namespace Converge.Template

/-- The names that an expression cannot begin with as variables: constants and an operator. -/
def reservedNames : List String := ["true", "True", "false", "False", "none", "None", "not"]

/-- Whether a text is a name that stands for a variable. -/
def isVariable (name : String) : Bool :=
  (match name.toList with
    | [] => false
    | c :: cs => Token.isNameStart c && cs.all Token.isNamePart) &&
  !reservedNames.contains name

theorem exists_chars_of_isVariable {name : String} (h : isVariable name = true) :
    ∃ c cs, name.toList = c :: cs ∧ Token.isNameStart c = true ∧
      ∀ d ∈ cs, Token.isNamePart d = true := by
  rw [isVariable, Bool.and_eq_true] at h
  rcases hchars : name.toList with _ | ⟨c, cs⟩
  · simp [hchars] at h
  · simp only [hchars, Bool.and_eq_true, List.all_eq_true] at h
    exact ⟨c, cs, rfl, h.1.1, h.1.2⟩

/-! ### Names as tokens -/

namespace Token

theorem isNameStart_iff {c : Char} : isNameStart c = true ↔
    (65 ≤ c.toNat ∧ c.toNat ≤ 90) ∨ (97 ≤ c.toNat ∧ c.toNat ≤ 122) ∨ c.toNat = 95 := by
  have hupper : c.isUpper = true ↔ 65 ≤ c.toNat ∧ c.toNat ≤ 90 := by
    delta Char.isUpper
    simp [UInt32.le_iff_toNat_le]
  have hlower : c.isLower = true ↔ 97 ≤ c.toNat ∧ c.toNat ≤ 122 := by
    delta Char.isLower
    simp [UInt32.le_iff_toNat_le]
  have hletter : c.isAlpha = (c.isUpper || c.isLower) := rfl
  have hunder : c = '_' ↔ c.toNat = 95 := by
    constructor
    · rintro rfl
      rfl
    · intro h
      exact Char.toNat_inj.mp h
  rw [isNameStart, Bool.or_eq_true, hletter, Bool.or_eq_true, hupper, hlower,
    decide_eq_true_eq, hunder, or_assoc]

theorem isNamePart_iff {c : Char} :
    isNamePart c = true ↔ isNameStart c = true ∨ (48 ≤ c.toNat ∧ c.toNat ≤ 57) := by
  simp only [isNamePart, isNameStart, Char.isAlphanum, Char.isDigit, Bool.or_eq_true,
    decide_eq_true_eq, Bool.and_eq_true, ge_iff_le, UInt32.le_iff_toNat_le]
  exact or_right_comm

theorem not_digit_of_isNameStart {c : Char} (h : isNameStart c = true) :
    Numeral.isDigit c = false := by
  rw [isNameStart_iff] at h
  have hdigit : ¬ (48 ≤ c.toNat ∧ c.toNat ≤ 57) := by omega
  have hlower : 97 ≤ c.toNat ∧ c.toNat ≤ 122 → ¬ c.toNat - 87 < 10 := by omega
  have hupper : 65 ≤ c.toNat ∧ c.toNat ≤ 90 → ¬ c.toNat - 55 < 10 := by omega
  simp only [Numeral.isDigit, Numeral.digitValue?, if_neg hdigit]
  split
  · rename_i hl
    simp [hlower hl]
  · split
    · rename_i hu
      simp [hupper hu]
    · rfl

theorem not_space_of_isNameStart {c : Char} (h : isNameStart c = true) : isSpace c = false := by
  simp only [isSpace, Bool.or_eq_false_iff, decide_eq_false_iff_not]
  refine ⟨⟨⟨⟨?_, ?_⟩, ?_⟩, ?_⟩, ?_⟩ <;> rintro rfl <;> exact absurd h (by decide)

theorem not_blank_of_isNamePart {c : Char} (h : isNamePart c = true) : Text.isBlank c = false := by
  rw [isNamePart_iff, isNameStart_iff] at h
  simp only [Text.isBlank, Bool.or_eq_false_iff, Bool.and_eq_false_iff, decide_eq_false_iff_not,
    beq_eq_false_iff_ne]
  omega

theorem isNamePart_of_mem {name : String} (h : isVariable name = true) {c : Char}
    (hc : c ∈ name.toList) : isNamePart c = true := by
  obtain ⟨d, ds, hchars, hd, hds⟩ := exists_chars_of_isVariable h
  rw [hchars] at hc
  rcases List.mem_cons.mp hc with rfl | hmem
  · exact isNamePart_iff.mpr (Or.inl hd)
  · exact hds c hmem

/-- A name that ends where no further character belongs to it is read as a token. -/
theorem first_name {c : Char} {cs rest : List Char} (hc : isNameStart c = true)
    (hcs : ∀ d ∈ cs, isNamePart d = true) (hrest : ∀ d ∈ rest.head?, isNamePart d = false) :
    first (c :: (cs ++ rest)) = (.name (String.ofList (c :: cs)), rest) := by
  have hdigit := not_digit_of_isNameStart hc
  have htake : (cs ++ rest).takeWhile isNamePart = cs := by
    rw [List.takeWhile_append_of_pos hcs]
    cases rest with
    | nil => simp
    | cons d rest => simp [hrest d rfl]
  have hdrop : (cs ++ rest).dropWhile isNamePart = rest := by
    rw [List.dropWhile_append_of_pos hcs]
    cases rest with
    | nil => rfl
    | cons d rest => simp [hrest d rfl]
  rw [first]
  · simp [hdigit, hc, htake, hdrop]
  -- No mark begins a name.
  all_goals
    intros
    subst_vars
    exact absurd hc (by decide)

/-- Inside an expression a name is the next token. -/
theorem scan_name (fuel : Nat) {cs rest : List Char} {name : String}
    (hname : isVariable name = true) (hcs : cs.dropWhile isSpace = name.toList ++ rest)
    (hrest : ∀ d ∈ rest.head?, isNamePart d = false) :
    scan (fuel + 1) .inVariable 0 cs = .name name :: scan fuel .inVariable 0 rest := by
  obtain ⟨c, ds, hchars, hc, hds⟩ := exists_chars_of_isVariable hname
  have hstart : ∀ d more, cs.dropWhile isSpace = d :: more → isNameStart d = true := by
    intro d more h
    rw [hcs, hchars] at h
    obtain ⟨rfl, -⟩ := List.cons.inj h
    exact hc
  have hfirst : first (cs.dropWhile isSpace) = (.name name, rest) := by
    rw [hcs, hchars, List.cons_append, first_name hc hds hrest, ← hchars, String.ofList_toList]
  have hne : cs.dropWhile isSpace ≠ [] := by simp [hcs, hchars]
  conv_lhs => unfold scan
  simp only
  -- What closes an expression does not begin a name, so only the branch of a token is left.
  split
  all_goals first
    | exact absurd ‹cs.dropWhile isSpace = []› hne
    | exact absurd (hstart _ _ ‹cs.dropWhile isSpace = _ :: _›) (by decide)
    | rw [hfirst]; rfl

theorem ofExpression_variable {name : String} (h : isVariable name = true) :
    ofExpression name.toList = [.name name] := by
  obtain ⟨c, ds, hchars, hc, -⟩ := exists_chars_of_isVariable h
  have hspace : isSpace c = false := not_space_of_isNameStart hc
  have hcs : name.toList.dropWhile isSpace = name.toList ++ [] := by
    simp [hchars, hspace]
  rw [ofExpression, scan_name _ h hcs nofun]
  rcases name.toList.length with _ | n
  · rfl
  · rfl

theorem beforeMarker_open {cs : List Char} (h : '\x7b' ∉ cs) (rest : List Char) :
    beforeMarker (cs ++ '\x7b' :: '\x7b' :: rest) = (cs, '\x7b' :: '\x7b' :: rest) := by
  induction cs with
  | nil => rfl
  | cons c cs ih =>
    have hc : c ≠ '\x7b' := fun hc => h (by simp [hc])
    have hcs : '\x7b' ∉ cs := fun hcs => h (List.mem_cons_of_mem c hcs)
    have hstep := ih hcs
    rw [List.cons_append, beforeMarker, hstep]
    · exact fun _ h _ => hc h
    · exact fun _ h _ => hc h
    · exact fun _ h _ => hc h

theorem withoutLineEnd_concat {cs : List Char} {c : Char} (hfeed : c ≠ '\n') (hreturn : c ≠ '\r') :
    withoutLineEnd (cs ++ [c]) = cs ++ [c] := by
  simp only [withoutLineEnd, Text.before?_concat_of_ne hfeed.symm,
    Text.before?_concat_of_ne hreturn.symm, Option.getD_none]

/-- The characters of a template that is a variable with plain text in front. -/
def variableChars (front name : String) : List Char :=
  front.toList ++ '\x7b' :: '\x7b' :: ' ' :: (name.toList ++ [' ', '\x7d', '\x7d'])

end Token

/-! ### A variable as an expression -/

namespace Grammar

/-- Where an expression ends: at the end of the text, or where its markers close. -/
def Ends (ts : List Token) : Prop := ts = [] ∨ ∃ rest, ts = .closeVariable :: rest

namespace Ends

variable {ts : List Token}

theorem head?_bind (h : Ends ts) {op : Token → Option BinaryOp}
    (hop : op .closeVariable = none) : ts.head?.bind op = none := by
  rcases h with rfl | ⟨more, rfl⟩
  · rfl
  · exact hop

theorem comparisonSign? (h : Ends ts) : comparisonSign? ts = .ok none := by
  rcases h with rfl | ⟨more, rfl⟩ <;> rfl

theorem atSymbol (h : Ends ts) (s : Symbol) : atSymbol s ts = false := by
  rcases h with rfl | ⟨more, rfl⟩ <;> rfl

theorem atWord (h : Ends ts) (w : String) : atWord w ts = false := by
  rcases h with rfl | ⟨more, rfl⟩ <;> rfl

end Ends

variable {ts rest : List Token} {e : Expr}

/-! Nothing follows an operand where the expression ends, so each level gives the operand. -/

theorem level_of_ends (op : Token → Option BinaryOp) {operand : Reader Expr}
    (hop : op .closeVariable = none) (h : operand ts = .ok (e, rest)) (hrest : Ends rest) :
    level op operand ts = .ok (e, rest) := by
  simp only [level, h, bind, Except.bind, hrest.head?_bind hop, Option.isSome_none]
  rfl

theorem comparisons_of_ends {operand : Reader Expr} (h : operand ts = .ok (e, rest))
    (hrest : Ends rest) : comparisons operand ts = .ok (e, rest) := by
  simp only [comparisons, h, bind, Except.bind, hrest.comparisonSign?, Option.isNone_none]
  rfl

theorem conditional_of_ends {operand : Reader Expr} (h : operand ts = .ok (e, rest))
    (hrest : Ends rest) : conditional operand ts = .ok (e, rest) := by
  simp only [conditional, h, bind, Except.bind, hrest.atWord]
  rfl

variable {name : String}

theorem primary_variable (inner : Reader Expr) (h : isVariable name = true) (rest : List Token) :
    primary inner (.name name :: rest) = .ok (.variable name, rest) := by
  rw [isVariable, Bool.and_eq_true, Bool.not_eq_true', List.contains_eq_mem,
    decide_eq_false_iff_not] at h
  have hreserved := h.2
  simp only [reservedNames, List.mem_cons, not_or] at hreserved
  obtain ⟨h₁, h₂, h₃, h₄, h₅, h₆, -⟩ := hreserved
  rw [primary]
  simp [h₁, h₂, h₃, h₄, h₅, h₆]

theorem filtered_variable (inner expr value : Reader Expr) (h : isVariable name = true)
    (hrest : Ends rest) :
    filtered inner expr value (.name name :: rest) = .ok (.variable name, rest) := by
  have hoperand : operand inner expr value (.name name :: rest) = .ok (.variable name, rest) := by
    simp only [operand, negations, primary_variable inner h, bind, Except.bind, beginsPostfix,
      hrest.atSymbol, Bool.or_self]
    rfl
  simp only [filtered, hoperand, bind, Except.bind, hrest.atSymbol, hrest.atWord, Bool.or_self]
  rfl

theorem inversions_variable {operand : Reader Expr} (h : isVariable name = true) :
    inversions operand (.name name :: rest) = operand (.name name :: rest) := by
  have hnot : name ≠ "not" := by
    rintro rfl
    exact absurd h (by decide)
  rw [inversions]
  rintro more ⟨⟩
  exact hnot rfl

theorem disjunction_variable (inner expr value : Reader Expr) (h : isVariable name = true)
    (hrest : Ends rest) :
    disjunction inner expr value (.name name :: rest) = .ok (.variable name, rest) := by
  have hfiltered := filtered_variable inner expr value h hrest
  have hpower := level_of_ends powerOp rfl hfiltered hrest
  have hproduct := level_of_ends productOp rfl hpower hrest
  have hconcat := level_of_ends concatOp rfl hproduct hrest
  have hsum := level_of_ends sumOp rfl hconcat hrest
  have hnot := (inversions_variable h).trans (comparisons_of_ends hsum hrest)
  have hand := level_of_ends andOp rfl hnot hrest
  exact level_of_ends orOp rfl hand hrest

/-- **A name is a variable** as an expression of any depth. -/
theorem exprAt_variable (depth : Nat) (h : isVariable name = true) (hrest : Ends rest) :
    exprAt (depth + 2) true (.name name :: rest) = .ok (.variable name, rest) := by
  rw [exprAt, if_pos rfl]
  exact conditional_of_ends (disjunction_variable _ _ _ h hrest) hrest

end Grammar

theorem Expr.read?_variable {name : String} (h : isVariable name = true) :
    Expr.read? name.toList = .ok (.variable name) := by
  have hread : Grammar.exprAt nestingLimit true [.name name] = .ok (.variable name, []) :=
    Grammar.exprAt_variable (nestingLimit - 2) h (Or.inl rfl)
  rw [Expr.read?, Token.ofExpression_variable h, hread]
  rfl

end Converge.Template
